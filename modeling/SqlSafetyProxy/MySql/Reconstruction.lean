import SqlSafetyProxy.MySql.ParameterFormat

/-!
# Reconstructed statements

A reconstructed statement is the template with its placeholders replaced by
literals, and nothing else changed.  Scanned once more it is left as it is: a
literal neither opens nor closes a quotation or a comment, whatever stands
around it.
-/

namespace SqlSafetyProxy.MySql

open SqlSafetyProxy.Wire SqlSafetyProxy.Runtime

/-! ## Literals -/

/-- A nonempty run of decimal digits. -/
def IsDigits (text : List Char) : Prop := text ≠ [] ∧ ∀ char ∈ text, char.isDigit = true

/-- A minus sign, or nothing. -/
def minus (negative : Bool) : List Char := if negative then ['-'] else []

/-- `repr` of a finite float: a sign, digits, a fraction and an exponent with its sign. -/
inductive FloatRepr : List Char → Prop
  | mk (negative : Bool) {whole fraction exponent : List Char} : IsDigits whole →
      (fraction = [] ∨ ∃ digits, IsDigits digits ∧ fraction = '.' :: digits) →
      (exponent = [] ∨ ∃ sign digits, (sign = '+' ∨ sign = '-') ∧ IsDigits digits ∧
        exponent = 'e' :: sign :: digits) →
      FloatRepr (minus negative ++ (whole ++ (fraction ++ exponent)))

/-- Letters and digits, with single points and signs before some of them. -/
inductive Numeral : List Char → Prop
  | last {char : Char} : char.isAlphanum = true → Numeral [char]
  | cons {char : Char} {rest : List Char} : char.isAlphanum = true → Numeral rest →
      Numeral (char :: rest)
  | sign {mark char : Char} {rest : List Char} : mark ∈ ['.', '+', '-'] →
      char.isAlphanum = true → Numeral (char :: rest) → Numeral (mark :: char :: rest)

/-- What the literals have in common: a numeral after at most a minus sign, or quoted letters. -/
inductive Literal : List Char → Prop
  | plain {char : Char} {rest : List Char} : char.isAlphanum = true → Numeral (char :: rest) →
      Literal (char :: rest)
  | negative {char : Char} {rest : List Char} : char.isAlphanum = true → Numeral (char :: rest) →
      Literal ('-' :: char :: rest)
  | hex {digits : List Char} : (∀ digit ∈ digits, digit.isAlphanum = true) →
      Literal ('X' :: '\'' :: (digits ++ ['\'']))

theorem isAlphanum_of_isDigit {char : Char} (digit : char.isDigit = true) :
    char.isAlphanum = true := by
  simp [Char.isAlphanum, digit]

theorem IsDigits.cons {text : List Char} (digits : IsDigits text) :
    ∃ char rest, text = char :: rest ∧ char.isAlphanum = true := by
  obtain ⟨some_, all⟩ := digits
  cases text with
  | nil => exact absurd rfl some_
  | cons char rest => exact ⟨char, rest, rfl, isAlphanum_of_isDigit (all char List.mem_cons_self)⟩

/-- Digits before a numeral. -/
theorem Numeral.append {front back : List Char} (alphanumeric : ∀ char ∈ front, char.isAlphanum = true)
    (numeral : Numeral back) : Numeral (front ++ back) := by
  induction front with
  | nil => exact numeral
  | cons char front ih =>
      exact .cons (alphanumeric char List.mem_cons_self)
        (ih fun other inside => alphanumeric other (List.mem_cons_of_mem _ inside))

theorem Numeral.ofDigits {text : List Char} (some_ : text ≠ [])
    (alphanumeric : ∀ char ∈ text, char.isAlphanum = true) : Numeral text := by
  rw [← List.dropLast_concat_getLast some_]
  refine .append (fun char inside => alphanumeric char (List.dropLast_subset _ inside)) ?_
  exact .last (alphanumeric _ (List.getLast_mem some_))

theorem IsDigits.numeral {text : List Char} (digits : IsDigits text) : Numeral text :=
  .ofDigits digits.1 fun char inside => isAlphanum_of_isDigit (digits.2 char inside)

/-- A minus sign may stand before a numeral that begins with a digit. -/
theorem literal_of_numeral {whole rest : List Char} (negative : Bool) (digits : IsDigits whole)
    (numeral : Numeral (whole ++ rest)) : Literal (minus negative ++ (whole ++ rest)) := by
  obtain ⟨char, others, rfl, alphanumeric⟩ := digits.cons
  cases negative with
  | true => exact .negative alphanumeric numeral
  | false => exact .plain alphanumeric numeral

theorem FloatRepr.literal {text : List Char} (float : FloatRepr text) : Literal text := by
  cases float with
  | @mk negative whole fraction exponent digits point power =>
      refine literal_of_numeral negative digits ?_
      have before : ∀ {front back : List Char}, IsDigits front →
          (back = [] ∨ Numeral back) → Numeral (front ++ back) := by
        intro front back digits back
        rcases back with rfl | numeral
        · simpa using digits.numeral
        · exact .append (fun char inside => isAlphanum_of_isDigit (digits.2 char inside)) numeral
      have ending : exponent = [] ∨ Numeral exponent := by
        rcases power with rfl | ⟨sign, digits', isSign, power, rfl⟩
        · exact .inl rfl
        · obtain ⟨char, others, rfl, alphanumeric⟩ := power.cons
          refine .inr (.cons (by decide) (.sign ?_ alphanumeric power.numeral))
          rcases isSign with rfl | rfl <;> decide
      rcases point with rfl | ⟨decimals, point, rfl⟩
      · exact before digits ending
      · have tail := before point ending
        obtain ⟨char, others, rfl, alphanumeric⟩ := point.cons
        exact before digits (.inr (.sign (by decide) alphanumeric tail))

theorem isDigits_repr (value : Nat) : IsDigits value.repr.toList := by
  rw [Nat.toList_repr]
  refine ⟨fun empty => ?_, fun char inside =>
    Nat.isDigit_of_mem_toDigits (by decide) (by decide) inside⟩
  have some_ := @Nat.repr_ne_empty value
  rw [Nat.repr_eq_ofList_toDigits, empty] at some_
  exact some_ rfl

theorem literal_integer (value : Int) : Literal (toString value).toList := by
  have plain : ∀ (negative : Bool) (size : Nat),
      Literal (minus negative ++ size.repr.toList) := by
    intro negative size
    have literal := @literal_of_numeral size.repr.toList [] negative (isDigits_repr size)
    rw [List.append_nil] at literal
    exact literal (isDigits_repr size).numeral
  rw [Int.toString_eq_repr, Int.repr_eq_if]
  split
  · exact plain false _
  · rw [String.toList_append]
    exact plain true _

theorem literal_null : Literal ['N', 'U', 'L', 'L'] :=
  .plain rfl (.cons rfl (.cons rfl (.cons rfl (.last rfl))))

theorem hexLower_alphanumeric (byte : UInt8) : ∀ digit ∈ hexLower byte, digit.isAlphanum = true := by
  have digit := @hexDigit_of_all
    ['0', '1', '2', '3', '4', '5', '6', '7', '8', '9', 'a', 'b', 'c', 'd', 'e', 'f']
    (fun char => char.isAlphanum = true) (List.all_eq_true.mp rfl) rfl
  simpa [hexLower] using ⟨digit _, digit _⟩

theorem literal_hex (value : Bytes) : Literal (hexLiteral value).toList := by
  have shown : (hexLiteral value).toList = 'X' :: '\'' :: (value.flatMap hexLower ++ ['\'']) := by
    simp [hexLiteral]
  rw [shown]
  refine .hex fun digit inside => ?_
  obtain ⟨byte, -, among⟩ := List.mem_flatMap.mp inside
  exact hexLower_alphanumeric byte digit among

/-- The literal of a parameter that was decoded. -/
theorem literal_of_format {tools : Tools} (reprs : ∀ size bits, isFinite size bits = true →
      FloatRepr (tools.floatRepr size bits).toList)
    {nullBitmap : Bytes} {index : Nat} {types : List ParameterType} {values : List ParameterValue}
    {raw : Bytes} (format : ValuesFormat nullBitmap index types values raw) :
    ∀ parameter ∈ List.zipWith (decodedAs tools) types values,
      Literal parameter.sqlLiteral.toList := by
  induction format with
  | nil => simp
  | @cons index metadata types value values raw rest supported one others ih =>
      intro parameter inside
      rcases List.mem_cons.mp inside with rfl | inside
      · unfold ParameterFormat at one
        split at one
        · have shown : "NULL".toList = ['N', 'U', 'L', 'L'] := by decide
          rw [one.1, decodedAs, sqlLiteralOf, shown]
          exact literal_null
        · cases one with
          | integer => exact literal_integer _
          | float _ known bits => exact (reprs _ _ ((isFinite_iff known).mp bits).2).literal
          | bytes => exact literal_hex _
      · exact ih parameter inside

theorem literal_of_parsed {tools : Tools} {execution : StmtExecute} {count : Nat}
    {previousTypes : Option (List ParameterType)} {decoded : StmtExecuteParameters}
    (reprs : ∀ size bits, isFinite size bits = true →
      FloatRepr (tools.floatRepr size bits).toList)
    (parsed : parseStmtExecuteParameters tools execution count previousTypes = .ok decoded) :
    ∀ parameter ∈ decoded.parameters, Literal parameter.sqlLiteral.toList := by
  obtain ⟨-, -, format⟩ := parseStmtExecuteParameters_ok_iff.mp parsed
  generalize execution.parameterPayload = payload at format
  cases format with
  | none => simp
  | some _ _ _ _ _ values => exact literal_of_format reprs values

/-! ## Scans that succeed -/

/-- Nothing is left open at the end of the text. -/
def ScanState.Closed : ScanState → Prop
  | .sql | .lineComment => True
  | .quoted _ | .blockComment => False

/-- A scan of a text with its literals, character by character. -/
inductive Scans : ScanState → Bool → List String → List Char → List Char → Prop
  | done {state : ScanState} {skip : Bool} : state.Closed → Scans state skip [] [] []
  | following {state : ScanState} {literals : List String} {char : Char} {rest out : List Char} :
      Scans state false literals rest out → Scans state true literals (char :: rest) (char :: out)
  | placeholder {literal : String} {literals : List String} {rest out : List Char} :
      Scans .sql false literals rest out →
      Scans .sql false (literal :: literals) ('?' :: rest) (literal.toList ++ out)
  | text {state next : ScanState} {withFollowing : Bool} {literals : List String} {char : Char}
      {rest out : List Char} : scanStep state char rest = .ok (.text next withFollowing) →
      Scans next withFollowing literals rest out →
      Scans state false literals (char :: rest) (char :: out)

theorem scanStep_placeholder {state : ScanState} {char : Char} {rest : List Char} :
    scanStep state char rest = .ok .placeholder ↔ state = .sql ∧ char = '?' := by
  cases state with
  | sql =>
      by_cases marker : char = '?'
      · simp [scanStep, marker]
      · simp only [scanStep, marker, if_false, and_false, iff_false]
        repeat' split
        all_goals rintro ⟨⟩
  | quoted mark =>
      simp only [scanStep, reduceCtorEq, false_and, iff_false]
      repeat' split
      all_goals rintro ⟨⟩
  | lineComment =>
      simp only [scanStep, reduceCtorEq, false_and, iff_false]
      rintro ⟨⟩
  | blockComment =>
      simp only [scanStep, reduceCtorEq, false_and, iff_false]
      split <;> rintro ⟨⟩

theorem endOfTemplate_ok {state : ScanState} {literals : List String} {out : List Char} :
    endOfTemplate state literals = .ok out ↔ state.Closed ∧ literals = [] ∧ out = [] := by
  cases state with
  | quoted mark => exact iff_of_false (by rintro ⟨⟩) fun ended => ended.1
  | blockComment => exact iff_of_false (by rintro ⟨⟩) fun ended => ended.1
  | sql => cases literals <;> simp [endOfTemplate, ScanState.Closed, eq_comm]
  | lineComment => cases literals <;> simp [endOfTemplate, ScanState.Closed, eq_comm]

theorem scans_iff {state : ScanState} {skip : Bool} {literals : List String}
    {text out : List Char} :
    substituteLiterals state skip literals text = .ok out ↔
      Scans state skip literals text out := by
  constructor
  · intro done
    induction text generalizing state skip literals out with
    | nil =>
        rw [substituteLiterals] at done
        obtain ⟨closed, rfl, rfl⟩ := endOfTemplate_ok.mp done
        exact .done closed
    | cons char rest ih =>
        cases skip with
        | true =>
            simp only [substituteLiterals] at done
            obtain ⟨output, scanned, done⟩ := bind_ok done
            cases done
            exact .following (ih scanned)
        | false =>
            simp only [substituteLiterals] at done
            obtain ⟨step, stepped, done⟩ := bind_ok done
            cases step with
            | placeholder =>
                obtain ⟨rfl, rfl⟩ := scanStep_placeholder.mp stepped
                cases literals with
                | nil => cases done
                | cons literal literals =>
                    change (substituteLiterals .sql false literals rest >>= _) = _ at done
                    obtain ⟨output, scanned, done⟩ := bind_ok done
                    cases done
                    exact .placeholder (ih scanned)
            | text next withFollowing =>
                change (substituteLiterals next withFollowing literals rest >>= _) = _ at done
                obtain ⟨output, scanned, done⟩ := bind_ok done
                cases done
                exact .text stepped (ih scanned)
  · intro scans
    induction scans with
    | done closed =>
        rw [substituteLiterals]
        exact endOfTemplate_ok.mpr ⟨closed, rfl, rfl⟩
    | following scans ih =>
        simp only [substituteLiterals, ih]
        rfl
    | placeholder scans ih =>
        simp only [substituteLiterals, scanStep_placeholder.mpr ⟨rfl, rfl⟩]
        change (substituteLiterals .sql false _ _ >>= _) = _
        rw [ih]
        rfl
    | text stepped scans ih =>
        simp only [substituteLiterals, stepped]
        change (substituteLiterals _ _ _ _ >>= _) = _
        rw [ih]
        rfl

/-! ## Nothing but the markers changes -/

/-- As many question marks as literals are replaced, in order; all other characters are kept. -/
inductive Replaced : List (List Char) → List Char → List Char → Prop
  | done : Replaced [] [] []
  | kept {literals : List (List Char)} {rest out : List Char} (char : Char) :
      Replaced literals rest out → Replaced literals (char :: rest) (char :: out)
  | marker {literals : List (List Char)} {rest out : List Char} (literal : List Char) :
      Replaced literals rest out → Replaced (literal :: literals) ('?' :: rest) (literal ++ out)

section Scan

variable {state next : ScanState} {skip withFollowing : Bool} {literals : List String}
  {char : Char} {text rest out : List Char}

theorem Scans.replaced (scans : Scans state skip literals text out) :
    Replaced (literals.map String.toList) text out := by
  induction scans with
  | done => exact .done
  | following _ ih => exact .kept _ ih
  | placeholder _ ih => exact .marker _ ih
  | text _ _ ih => exact .kept _ ih

/-! ## What a step sees of the text behind it -/

theorem alphanumeric_code (alphanumeric : char.isAlphanum = true) :
    0x30 ≤ char.toNat ∧ char.toNat ≤ 0x39 ∨ 0x41 ≤ char.toNat ∧ char.toNat ≤ 0x5A ∨
      0x61 ≤ char.toNat ∧ char.toNat ≤ 0x7A := by
  have code : char.toNat = char.val.toNat := rfl
  have isUpper : char.isUpper = decide (char.val ≥ 'A'.val ∧ char.val ≤ 'Z'.val) := rfl
  have isLower : char.isLower = (decide (char.val ≥ 'a'.val) && decide (char.val ≤ 'z'.val)) := rfl
  have isAlpha : char.isAlpha = (char.isUpper || char.isLower) := rfl
  simp only [Char.isAlphanum, isAlpha, isUpper, isLower, Char.isDigit,
    Bool.or_eq_true, Bool.and_eq_true, decide_eq_true_eq, UInt32.le_iff_toNat_le, ge_iff_le]
    at alphanumeric
  have bounds : 'A'.val.toNat = 0x41 ∧ 'Z'.val.toNat = 0x5A ∧ 'a'.val.toNat = 0x61 ∧
      'z'.val.toNat = 0x7A ∧ '0'.val.toNat = 0x30 ∧ '9'.val.toNat = 0x39 := by decide
  omega

theorem alphanumeric_ne {other : Char} (alphanumeric : char.isAlphanum = true)
    (differs : other.isAlphanum = false) : char ≠ other := by
  rintro rfl
  rw [alphanumeric] at differs
  cases differs

theorem alphanumeric_solid (alphanumeric : char.isAlphanum = true) : isSpace char = false := by
  have code := alphanumeric_code alphanumeric
  simp only [isSpace, Bool.or_eq_false_iff, Bool.and_eq_false_iff, decide_eq_false_iff_not,
    beq_eq_false_iff_ne]
  omega

theorem alphanumeric_noQuote (alphanumeric : char.isAlphanum = true) : isQuote char = false := by
  have code := alphanumeric_code alphanumeric
  have noMark : char.toNat ≠ 0x60 := by omega
  simp [isQuote, noMark, alphanumeric_ne alphanumeric (show '\''.isAlphanum = false by decide),
    alphanumeric_ne alphanumeric (show '"'.isAlphanum = false by decide)]

theorem scanStep_alphanumeric (alphanumeric : char.isAlphanum = true) :
    scanStep .sql char rest = .ok (.text .sql false) := by
  have ne := fun {other} => @alphanumeric_ne char other alphanumeric
  simp [scanStep, alphanumeric_noQuote alphanumeric, ne (show '?'.isAlphanum = false by decide),
    ne (show '#'.isAlphanum = false by decide), ne (show '-'.isAlphanum = false by decide),
    ne (show '/'.isAlphanum = false by decide)]

/-- A literal begins with a letter, a digit or a minus sign before one. -/
theorem Literal.opens {literal : List Char} (isLiteral : Literal literal) :
    ∃ char rest, literal = char :: rest ∧ (char.isAlphanum = true ∨
      char = '-' ∧ ∃ next others, rest = next :: others ∧ next.isAlphanum = true) := by
  cases isLiteral with
  | plain alphanumeric => exact ⟨_, _, rfl, .inl alphanumeric⟩
  | negative alphanumeric => exact ⟨_, _, rfl, .inr ⟨rfl, _, _, rfl, alphanumeric⟩⟩
  | hex => exact ⟨_, _, rfl, .inl rfl⟩

/-- How a text and its replacement begin. -/
inductive HeadsAgree : List Char → List Char → Prop
  | empty : HeadsAgree [] []
  | same (char : Char) (rest out : List Char) : HeadsAgree (char :: rest) (char :: out)
  | literal {literal : List Char} (rest out : List Char) : Literal literal →
      HeadsAgree ('?' :: rest) (literal ++ out)

theorem Scans.heads (scans : Scans state skip literals text out)
    (all : ∀ literal ∈ literals, Literal literal.toList) : HeadsAgree text out := by
  cases scans with
  | done => exact .empty
  | following => exact .same _ _ _
  | placeholder => exact .literal _ _ (all _ List.mem_cons_self)
  | text => exact .same _ _ _

/-- Only plain text has placeholders. -/
theorem Scans.head_eq (scans : Scans state skip literals text out)
    (inside : state ≠ .sql ∨ skip = true) : out.head? = text.head? := by
  cases scans with
  | done => rfl
  | following => rfl
  | placeholder =>
      rcases inside with other | skips
      · exact absurd rfl other
      · cases skips
  | text => rfl

theorem HeadsAgree.head?_iff {mark : Char} (agree : HeadsAgree text out)
    (symbol : mark.isAlphanum = false) (noSign : mark ≠ '-') (noMarker : mark ≠ '?') :
    out.head? = some mark ↔ text.head? = some mark := by
  cases agree with
  | empty => exact Iff.rfl
  | same => exact Iff.rfl
  | literal rest out isLiteral =>
      obtain ⟨char, others, rfl, opens⟩ := isLiteral.opens
      refine iff_of_false ?_ (by simpa using noMarker.symm)
      rintro ⟨⟩
      rcases opens with alphanumeric | ⟨rfl, -⟩
      · rw [symbol] at alphanumeric
        cases alphanumeric
      · exact noSign rfl

/-! ## A scan of the output -/

/-- Quotations are opened by quotation marks. -/
def ScanState.Quoting : ScanState → Prop
  | .quoted mark => isQuote mark = true
  | _ => True

theorem scanStep_quoting (quoting : state.Quoting)
    (stepped : scanStep state char rest = .ok (.text next withFollowing)) : next.Quoting := by
  cases state with
  | sql =>
      simp only [scanStep] at stepped
      split at stepped
      · cases stepped
      · split at stepped
        · next quote =>
            cases stepped
            exact quote
        · repeat' split at stepped
          all_goals cases stepped
          all_goals trivial
  | quoted mark =>
      simp only [scanStep] at stepped
      repeat' split at stepped
      all_goals cases stepped
      · exact quoting
      · exact quoting
      · trivial
  | lineComment =>
      cases stepped
      split <;> trivial
  | blockComment =>
      simp only [scanStep] at stepped
      split at stepped
      all_goals cases stepped
      all_goals trivial

theorem isQuote_symbol {mark : Char} (quote : isQuote mark = true) :
    mark.isAlphanum = false ∧ mark ≠ '-' ∧ mark ≠ '?' := by
  refine ⟨?_, ?_, ?_⟩
  · cases alphanumeric : mark.isAlphanum with
    | false => rfl
    | true =>
        rw [alphanumeric_noQuote alphanumeric] at quote
        cases quote
  · rintro rfl
    exact absurd quote (by decide)
  · rintro rfl
    exact absurd quote (by decide)

theorem opensLineComment_iff :
    opensLineComment text = true ↔
      ∃ rest, text = '-' :: rest ∧ ∀ second ∈ rest.head?, isSpace second = true := by
  constructor
  · intro opens
    unfold opensLineComment at opens
    split at opens
    · exact ⟨[], rfl, by simp⟩
    · next second rest => exact ⟨second :: rest, rfl, by simpa using opens⟩
    · cases opens
  · rintro ⟨rest, rfl, blank⟩
    cases rest with
    | nil => rfl
    | cons second rest => exact blank second rfl

/-- Behind a character that is kept the scan goes on. -/
theorem Scans.tail (scans : Scans state skip literals (char :: rest) (char :: out))
    (noMarker : char ≠ '?') :
    ∃ state' skip', Scans state' skip' literals rest out := by
  generalize isText : char :: rest = text, isOut : char :: out = output at scans
  cases scans with
  | done => cases isText
  | following scans =>
      cases isText
      cases isOut
      exact ⟨_, _, scans⟩
  | placeholder =>
      cases isText
      exact absurd rfl noMarker
  | text _ scans =>
      cases isText
      cases isOut
      exact ⟨_, _, scans⟩

/-- A line comment is opened in the output where it is in the text. -/
theorem opensLineComment_out
    (stepped : scanStep .sql '-' rest = .ok (.text next withFollowing))
    (scans : Scans next withFollowing literals rest out)
    (all : ∀ literal ∈ literals, Literal literal.toList) :
    opensLineComment out = opensLineComment rest := by
  rw [Bool.eq_iff_iff]
  constructor
  · intro opens
    obtain ⟨out, rfl, blank⟩ := opensLineComment_iff.mp opens
    rw [opensLineComment_iff]
    generalize isOut : '-' :: out = output at scans
    cases scans.heads all with
    | empty => cases isOut
    | same char rest output =>
        cases isOut
        obtain ⟨state', skip', scans⟩ := scans.tail (by decide)
        refine ⟨rest, rfl, fun second isHead => ?_⟩
        cases scans.heads all with
        | empty => cases isHead
        | same => exact blank second isHead
        | literal rest output isLiteral =>
            obtain ⟨char, others, rfl, begins⟩ := isLiteral.opens
            have isBlank := blank char rfl
            rcases begins with alphanumeric | ⟨rfl, -⟩
            · rw [alphanumeric_solid alphanumeric] at isBlank
              cases isBlank
            · exact absurd isBlank (by decide)
    | literal rest output isLiteral =>
        obtain ⟨char, others, rfl, begins⟩ := isLiteral.opens
        cases isOut
        rcases begins with alphanumeric | ⟨-, second, later, rfl, alphanumeric⟩
        · exact absurd alphanumeric (by decide)
        · have isBlank := blank second rfl
          rw [alphanumeric_solid alphanumeric] at isBlank
          cases isBlank
  · intro opens
    have isStep : scanStep .sql '-' rest = .ok (.text .lineComment true) := by
      simp [scanStep, opens, show isQuote '-' = false by decide]
    rw [isStep] at stepped
    cases stepped
    obtain ⟨rest, rfl, blank⟩ := opensLineComment_iff.mp opens
    cases scans with
    | following scans =>
        rw [opensLineComment_iff]
        exact ⟨_, rfl, by rwa [scans.head_eq (.inl (by rintro ⟨⟩))]⟩

theorem prefix_singleton_iff {first : Char} : [first] <+: text ↔ text.head? = some first := by
  cases text with
  | nil => simp
  | cons char rest => simp [List.cons_prefix_cons, eq_comm]

/-- What stands first in a comment is the same in the output. -/
theorem opensExecutableComment_out (scans : Scans .blockComment false literals rest out) :
    opensExecutableComment ('*' :: out) = opensExecutableComment ('*' :: rest) := by
  have same := scans.head_eq (.inl (by rintro ⟨⟩))
  have second : ∀ letter, letter ≠ '*' → letter ≠ '?' →
      ([letter, '!'] <+: out ↔ [letter, '!'] <+: rest) := by
    intro letter noStar noMarker
    cases scans with
    | done => exact Iff.rfl
    | @text _ next withFollowing _ char rest out stepped scans =>
        simp only [List.cons_prefix_cons, prefix_singleton_iff]
        refine and_congr_right fun isLetter => ?_
        subst isLetter
        have isStep : scanStep .blockComment letter rest = .ok (.text .blockComment false) := by
          simp [scanStep, noStar]
        rw [isStep] at stepped
        cases stepped
        rw [scans.head_eq (.inl (by rintro ⟨⟩))]
  have star : ∀ tail output : List Char, '*' :: tail <+: '*' :: output ↔ tail <+: output := by
    simp [List.cons_prefix_cons]
  rw [Bool.eq_iff_iff, opensExecutableComment_iff, opensExecutableComment_iff]
  simp only [star, prefix_singleton_iff, same, second 'M' (by decide) (by decide),
    second 'm' (by decide) (by decide)]

theorem opensExecutableComment_star (opens : opensExecutableComment text = true) :
    text.head? = some '*' := by
  rcases (opensExecutableComment_iff text).mp opens with ⟨tail, rfl⟩ | ⟨tail, rfl⟩ | ⟨tail, rfl⟩
  · rfl
  · rfl
  · rfl

theorem opensExecutableComment_slash
    (stepped : scanStep .sql '/' rest = .ok (.text next withFollowing))
    (scans : Scans next withFollowing literals rest out)
    (starred : out.head? = some '*' ↔ rest.head? = some '*') :
    opensExecutableComment rest = false ∧ opensExecutableComment out = false := by
  have plain : opensExecutableComment rest = false := by
    cases opens : opensExecutableComment rest with
    | false => rfl
    | true => simp [scanStep, opens, show isQuote '/' = false by decide] at stepped
  refine ⟨plain, ?_⟩
  cases opens : opensExecutableComment out with
  | false => rfl
  | true =>
      have star := starred.mp (opensExecutableComment_star opens)
      have isStep : scanStep .sql '/' rest = .ok (.text .blockComment true) := by
        simp [scanStep, plain, star, show isQuote '/' = false by decide]
      rw [isStep] at stepped
      cases stepped
      obtain ⟨rest, rfl⟩ := List.head?_eq_some_iff.mp star
      cases scans with
      | following scans =>
          rw [opensExecutableComment_out scans, plain] at opens
          cases opens

/-- A step over a kept character is the same over the output. -/
theorem scanStep_out (quoting : state.Quoting)
    (stepped : scanStep state char rest = .ok (.text next withFollowing))
    (scans : Scans next withFollowing literals rest out)
    (all : ∀ literal ∈ literals, Literal literal.toList) :
    scanStep state char out = .ok (.text next withFollowing) := by
  have agree := scans.heads all
  cases state with
  | sql =>
      by_cases dash : char = '-'
      · subst dash
        have opens := opensLineComment_out stepped scans all
        have noSlash : '-' ≠ '/' := by decide
        simpa only [scanStep, opens, noSlash, false_and, if_false] using stepped
      · by_cases slash : char = '/'
        · subst slash
          have starred : out.head? = some '*' ↔ rest.head? = some '*' :=
            agree.head?_iff (by decide) (by decide) (by decide)
          have plain := opensExecutableComment_slash stepped scans starred
          have noDash : '/' ≠ '-' := by decide
          simpa only [scanStep, plain.1, plain.2, starred, noDash, false_and, if_false] using stepped
        · simp only [scanStep, dash, slash, false_and, if_false] at stepped ⊢
          exact stepped
  | quoted mark =>
      obtain ⟨symbol, noSign, noMarker⟩ := isQuote_symbol quoting
      have closes := agree.head?_iff symbol noSign noMarker
      simpa only [scanStep, closes] using stepped
  | lineComment => exact stepped
  | blockComment =>
      have closes : out.head? = some '/' ↔ rest.head? = some '/' :=
        agree.head?_iff (by decide) (by decide) (by decide)
      simpa only [scanStep, closes] using stepped

theorem scanStep_sign {mark : Char} (isMark : mark ∈ ['.', '+', '-'])
    (alphanumeric : char.isAlphanum = true) :
    scanStep .sql mark (char :: rest) = .ok (.text .sql false) := by
  have noDash := alphanumeric_ne alphanumeric (show '-'.isAlphanum = false by decide)
  have plain : opensLineComment (char :: rest) = false := by
    cases opens : opensLineComment (char :: rest) with
    | false => rfl
    | true =>
        obtain ⟨tail, same, -⟩ := opensLineComment_iff.mp opens
        exact absurd (List.cons.inj same).1 noDash
  simp only [List.mem_cons, List.not_mem_nil, or_false] at isMark
  rcases isMark with rfl | rfl | rfl
  · simp [scanStep, isQuote]
  · simp [scanStep, isQuote]
  · simp [scanStep, isQuote, plain]

/-- The letters and digits of a literal are plain text. -/
theorem Numeral.scans {numeral : List Char} (isNumeral : Numeral numeral)
    (later : Scans .sql false [] out out) :
    Scans .sql false [] (numeral ++ out) (numeral ++ out) := by
  induction isNumeral with
  | last alphanumeric => exact .text (scanStep_alphanumeric alphanumeric) later
  | cons alphanumeric _ ih => exact .text (scanStep_alphanumeric alphanumeric) ih
  | sign isMark alphanumeric _ ih => exact .text (scanStep_sign isMark alphanumeric) ih

/-- The quoted digits of a literal are quoted text. -/
theorem scans_digits {digits : List Char} (alphanumeric : ∀ digit ∈ digits, digit.isAlphanum = true)
    (later : Scans (.quoted '\'') false [] out out) :
    Scans (.quoted '\'') false [] (digits ++ out) (digits ++ out) := by
  induction digits with
  | nil => exact later
  | cons digit digits ih =>
      have letter := alphanumeric digit List.mem_cons_self
      have noQuote := alphanumeric_ne letter (show '\''.isAlphanum = false by decide)
      have noEscape := alphanumeric_ne letter (show '\\'.isAlphanum = false by decide)
      have step : scanStep (.quoted '\'') digit (digits ++ out) =
          .ok (.text (.quoted '\'') false) := by
        simp [scanStep, noQuote, noEscape]
      exact .text step (ih fun other inside => alphanumeric other (List.mem_cons_of_mem _ inside))

theorem scanStep_opens : scanStep .sql '\'' rest = .ok (.text (.quoted '\'') false) := by
  simp [scanStep, isQuote]

/-- A quotation that follows the closing mark of a literal goes on where it would have begun. -/
theorem scans_closing (later : Scans .sql false [] out out) :
    Scans (.quoted '\'') false [] ('\'' :: out) ('\'' :: out) := by
  by_cases doubled : out.head? = some '\''
  · have step : scanStep (.quoted '\'') '\'' out = .ok (.text (.quoted '\'') true) := by
      simp [scanStep, doubled]
    obtain ⟨out, rfl⟩ := List.head?_eq_some_iff.mp doubled
    generalize isText : '\'' :: out = text at later
    cases later with
    | done => cases isText
    | text stepped scans =>
        cases isText
        rw [scanStep_opens] at stepped
        cases stepped
        exact .text step (.following scans)
  · have step : scanStep (.quoted '\'') '\'' out = .ok (.text .sql false) := by
      simp [scanStep, doubled]
    exact .text step later

/-- A literal changes nothing for the text that follows it. -/
theorem Literal.scans {literal : List Char} (isLiteral : Literal literal)
    (later : Scans .sql false [] out out) :
    Scans .sql false [] (literal ++ out) (literal ++ out) := by
  cases isLiteral with
  | plain _ numeral => exact numeral.scans later
  | negative alphanumeric numeral =>
      exact .text (scanStep_sign (by decide) alphanumeric) (numeral.scans later)
  | hex alphanumeric =>
      have quotation := scans_digits alphanumeric (scans_closing later)
      rw [List.cons_append, List.cons_append, List.append_assoc]
      exact .text (scanStep_alphanumeric rfl) (.text scanStep_opens quotation)

/-- Scanned without literals, the output is left as it is. -/
theorem Scans.stable (scans : Scans state skip literals text out) (quoting : state.Quoting)
    (all : ∀ literal ∈ literals, Literal literal.toList) : Scans state skip [] out out := by
  induction scans with
  | done closed => exact .done closed
  | following _ ih => exact .following (ih quoting all)
  | placeholder _ ih =>
      refine (all _ List.mem_cons_self).scans (ih trivial ?_)
      exact fun literal inside => all literal (List.mem_cons_of_mem _ inside)
  | text stepped scans ih =>
      exact .text (scanStep_out quoting stepped scans all) (ih (scanStep_quoting quoting stepped) all)

theorem reconstruct_ok_iff {sqlTemplate sql : String} {parameters : List DecodedParameter} :
    reconstructStmtExecuteSql sqlTemplate parameters = .ok sql ↔
      Scans .sql false (parameters.map DecodedParameter.sqlLiteral) sqlTemplate.toList
        sql.toList := by
  rw [← scans_iff]
  constructor
  · intro reconstructed
    obtain ⟨output, scanned, reconstructed⟩ := bind_ok reconstructed
    cases reconstructed
    rw [scanned, String.toList_ofList]
  · intro scanned
    rw [reconstructStmtExecuteSql, scanned]
    exact congrArg Except.ok String.ofList_toList

end Scan

/-- A reconstructed statement changes nothing but the markers, and is its own reconstruction. -/
theorem reconstruction_stable (tools : Tools) (execution : StmtExecute) (count : Nat)
    (previousTypes : Option (List ParameterType)) (decoded : StmtExecuteParameters)
    (sqlTemplate sql : String)
    (reprs : ∀ size bits, isFinite size bits = true →
      FloatRepr (tools.floatRepr size bits).toList)
    (parsed : parseStmtExecuteParameters tools execution count previousTypes = .ok decoded)
    (reconstructed : reconstructStmtExecuteSql sqlTemplate decoded.parameters = .ok sql) :
    Replaced (decoded.parameters.map fun parameter => parameter.sqlLiteral.toList)
        sqlTemplate.toList sql.toList ∧
      reconstructStmtExecuteSql sql [] = .ok sql := by
  have scans := reconstruct_ok_iff.mp reconstructed
  have literals := literal_of_parsed reprs parsed
  refine ⟨by simpa [Function.comp_def] using scans.replaced, ?_⟩
  refine reconstruct_ok_iff.mpr (scans.stable trivial fun literal inside => ?_)
  obtain ⟨parameter, among, rfl⟩ := List.mem_map.mp inside
  exact literals parameter among

/-- An execution with the string `'`, the number -1 and the float 0. -/
def mixedExecution : StmtExecute where
  statementId := 1
  flags := 0
  iterationCount := 1
  parameterPayload :=
    [0x00, 0x01, 0xFD, 0x00, 0x01, 0x00, 0x05, 0x00, 0x01, 0x27, 0xFF] ++ List.replicate 8 0x00

theorem floatRepr_zero : FloatRepr "0.0".toList :=
  have zero : IsDigits ['0'] := ⟨by simp, by simp⟩
  @FloatRepr.mk false ['0'] ['.', '0'] [] zero (.inr ⟨['0'], zero, rfl⟩) (.inl rfl)

/-- The closing mark of a literal and the mark behind it are read as one quotation, harmlessly. -/
theorem mixedExecution_stable : ∃ decoded,
    parseStmtExecuteParameters plainTools mixedExecution 3 none = .ok decoded ∧
      Replaced (decoded.parameters.map fun parameter => parameter.sqlLiteral.toList)
        "SELECT ?'x', -?, ?".toList "SELECT X'27''x', --1, 0.0".toList ∧
      reconstructStmtExecuteSql "SELECT X'27''x', --1, 0.0" [] =
        .ok "SELECT X'27''x', --1, 0.0" := by
  have parsed : parseStmtExecuteParameters plainTools mixedExecution 3 none =
      .ok ⟨[0x00], true, [⟨0xFD, false⟩, ⟨0x01, false⟩, ⟨0x05, false⟩],
        [⟨⟨0xFD, false⟩, .bytes [0x27], "X'27'"⟩, ⟨⟨0x01, false⟩, .integer (-1), "-1"⟩,
          ⟨⟨0x05, false⟩, .float 8 0, "0.0"⟩]⟩ := by decide +kernel
  exact ⟨_, parsed, reconstruction_stable plainTools mixedExecution 3 none _ _ _
    (fun _ _ _ => floatRepr_zero) parsed (by decide +kernel)⟩

end SqlSafetyProxy.MySql
