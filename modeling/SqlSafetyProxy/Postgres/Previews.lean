import SqlSafetyProxy.Postgres.Lexing
import SqlSafetyProxy.Postgres.Parameters

/-!
# The tokens of a literal preview

The placeholders are found by their characters alone.  The literal preview has
the tokens of the preview query, with those of the literals for its parameters,
as long as every placeholder is a parameter and no literal touches a token.
-/

namespace SqlSafetyProxy.Postgres

open SqlSafetyProxy.Collections SqlSafetyProxy.Wire SqlSafetyProxy.Runtime

/-! ## Bound parameters -/

/-- The digits that every digit table has in common. -/
def asciiDigit (char : Char) : Option Nat :=
  if char.isDigit then some (char.toNat - '0'.toNat) else none

/-- The parameter that a token `$n` stands for. -/
def parameterOf (params : List DecodedParam) (digits : List Char) : Option DecodedParam :=
  match placeholderNumber asciiDigit digits with
  | 0 => none
  | index + 1 => params[index]?

/-- The tokens of a query with those of the literals in place of its parameters. -/
def fillParameters (params : List DecodedParam) : List Token → Option (List Token)
  | [] => some []
  | .parameter digits :: rest =>
      (parameterOf params digits).bind fun bound =>
        (fillParameters params rest).map (lex bound.sqlLiteral.toList ++ ·)
  | token :: rest => (fillParameters params rest).map (token :: ·)

/-- There is no literal preview, or one with the tokens of the query and its literals. -/
def LexesAsBound (digit : Char → Option Nat) (query : String) (params : List DecodedParam) :
    Prop :=
  match substituteParams digit query params with
  | .error _ => False
  | .ok (none, _) => True
  | .ok (some literal, _) =>
      fillParameters params (lex query.toList) = some (lex literal.toList)

/-! ## Where placeholders stand -/

def Piece.source : Piece → List Char
  | .text char => [char]
  | .placeholder digits => '$' :: digits

/-- The literal that is put in the place of a placeholder; the last one for `$0`. -/
def replacement (digit : Char → Option Nat) (params : List DecodedParam) (digits : List Char) :
    Option DecodedParam :=
  match placeholderNumber digit digits with
  | 0 => params.getLast?
  | index + 1 => params[index]?

def Piece.placed (digit : Char → Option Nat) (params : List DecodedParam) : Piece → List Char
  | .text char => [char]
  | .placeholder digits =>
      match replacement digit params digits with
      | none => '$' :: digits
      | some bound => bound.sqlLiteral.toList

/--
Every placeholder is a parameter whose literal touches neither the token before
it nor the one behind it, or stands in a comment that the literal leaves as it is.
`reached` is the state behind the last literal, where it is not that of the query.
-/
def separated (digit : Char → Option Nat) (params : List DecodedParam) :
    LexState → LexState → List Piece → Bool
  | _, _, [] => true
  | state, reached, .text char :: rest =>
      (reached = state || !reached.touches char) &&
        separated digit params (lexStep state char).2 (lexStep state char).2 rest
  | state, reached, .placeholder digits :: rest =>
      if state.inComment then
        let placed := (Piece.placeholder digits).placed digit params
        let behind := lexer.after state ('$' :: digits)
        lexer.emitted state placed = [] && lexer.after state placed = behind &&
          separated digit params behind behind rest
      else
        state.takesParameter && digits.all Char.isDigit &&
          match parameterOf params digits with
          | none => false
          | some bound =>
              bound.sqlLiteral.toList.head?.all (fun first => !reached.touches first) &&
                separated digit params .plain (lexer.after .plain bound.sqlLiteral.toList) rest

/-- A dash was read that makes a comment with another. -/
def LexState.atDash : LexState → Bool
  | .operator text => text.getLast? == some '-'
  | _ => false

/--
The placeholders have ASCII digits, none stands in a comment, and none behind a
dash where its literal opens one.
-/
def exposed (digit : Char → Option Nat) (params : List DecodedParam) :
    LexState → List Piece → Bool
  | _, [] => true
  | state, .text char :: rest => exposed digit params (lexStep state char).2 rest
  | state, .placeholder digits :: rest =>
      !state.inComment && digits.all Char.isDigit &&
        !(state.atDash && ((Piece.placeholder digits).placed digit params).head? == some '-') &&
        exposed digit params
          (if state.takesParameter then .plain else lexer.after state ('$' :: digits)) rest

/-- The number of a placeholder is converted, and there is a parameter to take for it. -/
def Converts (digit : Char → Option Nat) (params : List DecodedParam) (digits : List Char) :
    Prop :=
  digits.length ≤ maxIntDigits ∧ (placeholderNumber digit digits = 0 → params ≠ [])

/-- When the literal preview of a query has the tokens that it should have, or is given up. -/
structure Substitutable (digit : Char → Option Nat) (query : String)
    (params : List DecodedParam) : Prop where
  converts : ∀ digits, .placeholder digits ∈ scanPlaceholders digit none query.toList →
    Converts digit params digits
  separated : (∃ digits, .placeholder digits ∈ scanPlaceholders digit none query.toList ∧
      params.length < placeholderNumber digit digits) ∨
    separated digit params .plain .plain (scanPlaceholders digit none query.toList) = true

/-! ## Literals -/

def doubled (char : Char) : List Char := if char = '\'' then ['\'', '\''] else [char]

/-- The literals of decoded parameters. -/
inductive Literal : List Char → Prop
  | word {first : Char} {rest : List Char} : (∀ char ∈ first :: rest, char.isAlpha = true) →
      Literal (first :: rest)
  | number {first : Char} {rest : List Char} : (∀ char ∈ first :: rest, char.isDigit = true) →
      Literal (first :: rest)
  | negative {first : Char} {rest : List Char} :
      (∀ char ∈ first :: rest, char.isDigit = true) → Literal ('-' :: first :: rest)
  | quoted (text : List Char) : Literal ('\'' :: (text.flatMap doubled ++ ['\'']))

theorem literal_quote (text : String) : Literal (quote text).toList := by
  rw [quote, String.toList_ofList, List.append_assoc]
  exact .quoted text.toList

theorem digits_repr (value : Nat) :
    ∃ first rest, value.repr.toList = first :: rest ∧
      ∀ char ∈ first :: rest, char.isDigit = true := by
  have some_ : value.repr.toList ≠ [] := fun empty =>
    Nat.repr_ne_empty (String.toList_eq_nil_iff.mp empty)
  obtain ⟨first, rest, shown⟩ := List.exists_cons_of_ne_nil some_
  refine ⟨first, rest, shown, fun char inside => ?_⟩
  rw [← shown, Nat.toList_repr] at inside
  exact Nat.isDigit_of_mem_toDigits (by decide) (by decide) inside

theorem literal_integer (value : Int) : Literal (toString value).toList := by
  rw [Int.toString_eq_repr, Int.repr_eq_if]
  split
  · obtain ⟨first, rest, shown, digits⟩ := digits_repr value.toNat
    rw [shown]
    exact .number digits
  · obtain ⟨first, rest, shown, digits⟩ := digits_repr (-value).toNat
    rw [String.toList_append, shown]
    exact .negative digits

/-- Every decoded parameter is a literal. -/
theorem literal_decoded (raw : Option Bytes) (formatCode : Int) :
    Literal (decodeParam raw formatCode).sqlLiteral.toList := by
  have isNull : Literal "NULL".toList := .word (List.all_eq_true.mp (by decide))
  have isTrue : Literal "TRUE".toList := .word (List.all_eq_true.mp (by decide))
  have isFalse : Literal "FALSE".toList := .word (List.all_eq_true.mp (by decide))
  cases raw with
  | none => exact isNull
  | some bytes =>
      simp only [decodeParam]
      split
      · exact literal_quote _
      split
      · dsimp only
        split
        · exact isTrue
        · exact isFalse
      split
      · exact literal_integer _
      split
      · exact literal_quote _
      · exact isNull

section Literals

variable {state reached : LexState} {char first : Char} {text rest : List Char}

theorem isOperator_cases (isOperator : isOperator char = true) :
    char.isAlphanum = false ∧ char ≠ '\'' := by
  simp only [Postgres.isOperator, isSpecial, isSign, List.contains_eq_mem, List.mem_cons,
    List.not_mem_nil, or_false, Bool.or_eq_true, decide_eq_true_eq, beq_iff_eq] at isOperator
  rcases isOperator with ((rfl | rfl | rfl | rfl | rfl | rfl | rfl | rfl | rfl | rfl) |
    rfl | rfl) | rfl | rfl | rfl | rfl | rfl <;> exact ⟨rfl, by decide⟩

theorem isOperator_alphanumeric (alphanumeric : char.isAlphanum = true) :
    isOperator char = false := by
  cases found : isOperator char with
  | false => rfl
  | true =>
      rw [(isOperator_cases found).1] at alphanumeric
      cases alphanumeric

theorem alphanumeric_letter (letter : char.isAlpha = true) : char.isAlphanum = true := by
  rw [Char.isAlphanum, letter]
  rfl

theorem alphanumeric_digit (digit : char.isDigit = true) : char.isAlphanum = true := by
  rw [Char.isAlphanum, digit, Bool.or_true]

/-- A literal begins with a letter, a digit or a quote, or with a minus sign before a digit. -/
theorem Literal.opens (isLiteral : Literal text) :
    ∃ first rest, text = first :: rest ∧
      (isOperator first = false ∨ first = '-' ∧ ∃ digit later, rest = digit :: later ∧
        digit.isDigit = true) ∧ first ≠ '$' := by
  cases isLiteral with
  | @word first rest letters =>
      have letter := letters first List.mem_cons_self
      refine ⟨first, rest, rfl, .inl (isOperator_alphanumeric (alphanumeric_letter letter)), ?_⟩
      rintro rfl
      cases letter
  | @number first rest digits =>
      have digit := digits first List.mem_cons_self
      refine ⟨first, rest, rfl, .inl (isOperator_alphanumeric (alphanumeric_digit digit)), ?_⟩
      rintro rfl
      cases digit
  | @negative first rest digits =>
      exact ⟨'-', first :: rest, rfl,
        .inr ⟨rfl, first, rest, rfl, digits first List.mem_cons_self⟩, by decide⟩
  | quoted inner => exact ⟨'\'', _, rfl, .inl rfl, by decide⟩

/-- A literal that does not touch the token before it is read behind it. -/
theorem Literal.apart (isLiteral : Literal text) (isOpen : reached.isOpen = true)
    (apart : ∀ first ∈ text.head?, reached.touches first = false) :
    lexer.run reached (text ++ rest) = flush reached ++ lexer.run .plain (text ++ rest) := by
  obtain ⟨first, more, rfl, opens, -⟩ := isLiteral.opens
  replace apart := apart first rfl
  rcases opens with noOperator | ⟨rfl, digit, later, rfl, isDigit⟩
  · exact run_behind (lexStep_apart isOpen noOperator apart)
  · have noOperator := isOperator_alphanumeric (alphanumeric_digit isDigit)
    rw [List.cons_append, List.cons_append, run_minus isOpen apart noOperator,
      run_minus rfl rfl noOperator]
    rfl

/-- A literal that touches the token before it makes another of it. -/
theorem Literal.touching (isLiteral : Literal text) (first : Char) (isFirst : text.head? = some first)
    (touches : reached.touches first = true)
    (noDash : (reached.atDash && text.head? == some '-') = false) (others : List Token) :
    lexer.run reached (text ++ rest) ≠ flush reached ++ others := by
  obtain ⟨head, more, rfl, opens, -⟩ := isLiteral.opens
  cases isFirst
  cases reached with
  | operator operator =>
      obtain ⟨isMinus, takes⟩ := Bool.and_eq_true_iff.mp touches
      have isMinus := beq_iff_eq.mp isMinus
      subst isMinus
      rcases opens with noOperator | ⟨-, digit, later, rfl, isDigit⟩
      · cases noOperator
      · have noDash : operator.getLast? ≠ some '-' := by simpa [LexState.atDash] using noDash
        have special : operator.any isSpecial = true := by
          rcases Bool.or_eq_true_iff.mp takes with special | dash
          · exact special
          · exact absurd (beq_iff_eq.mp dash) noDash
        exact run_operator_minus special noDash
          (isOperator_alphanumeric (alphanumeric_digit isDigit)) others
  | _ => exact run_touched (by rintro _ ⟨⟩) touches others

/-- The states behind a literal. -/
inductive Behind : LexState → Prop
  | word (text : List Char) : Behind (.word text)
  | number (text : List Char) : Behind (.number text)
  | closing (text : List Char) : Behind (.closing .single text)

theorem after_growing {grown : List Char → LexState} {part : Char → Bool}
    (steps : ∀ text char, lexStep (grown text) char =
      if part char then ([], grown (text ++ [char])) else lexBehind (grown text) char)
    (text more : List Char) (parts : ∀ char ∈ more, part char = true) :
    lexer.after (grown text) more = grown (text ++ more) := by
  induction more generalizing text with
  | nil =>
      rw [List.append_nil]
      rfl
  | cons char more ih =>
      have step := (steps text char).trans (if_pos (parts char List.mem_cons_self))
      have read : (lexer.step (grown text) char).2 = grown (text ++ [char]) :=
        congrArg Prod.snd step
      rw [Transducer.after, read,
        ih (text ++ [char]) fun later inside => parts later (List.mem_cons_of_mem _ inside)]
      simp

theorem after_doubled (inner text : List Char) :
    lexer.after (.quoted .single inner) (text.flatMap doubled) =
      .quoted .single (inner ++ text) := by
  induction text generalizing inner with
  | nil =>
      rw [List.append_nil]
      rfl
  | cons char text ih =>
      have read : lexer.after (.quoted .single inner) (doubled char) =
          .quoted .single (inner ++ [char]) := by
        by_cases isMark : char = '\''
        · subst isMark
          rfl
        · rw [doubled, if_neg isMark]
          change (lexStep _ char).2 = _
          have other : char ≠ QuoteMark.single.char := isMark
          rw [lexStep, if_neg other]
      rw [List.flatMap_cons, Transducer.after_append, read, ih]
      simp

theorem isIdentStart_letter (letter : char.isAlpha = true) : isIdentStart char = true := by
  rw [isIdentStart, letter]
  rfl

theorem lexPlain_digit (digit : char.isDigit = true) : lexPlain char = ([], .number [char]) := by
  have noStart : isIdentStart char = false := by
    have noUnderscore : char ≠ '_' := by
      rintro rfl
      cases digit
    simp only [Char.isDigit, Bool.and_eq_true, decide_eq_true_eq, UInt32.le_iff_toNat_le,
      ge_iff_le] at digit
    have size : char.toNat = char.val.toNat := rfl
    have low : '0'.val.toNat = 48 := rfl
    have high : '9'.val.toNat = 57 := rfl
    have isUpper : char.isUpper = decide (char.val ≥ 'A'.val ∧ char.val ≤ 'Z'.val) := rfl
    have isLower : char.isLower = (decide (char.val ≥ 'a'.val) && decide (char.val ≤ 'z'.val)) := rfl
    have isAlpha : char.isAlpha = (char.isUpper || char.isLower) := rfl
    simp only [isIdentStart, isAlpha, isUpper, isLower, Bool.or_eq_false_iff,
      beq_eq_false_iff_ne, Bool.and_eq_false_iff, decide_eq_false_iff_not, UInt32.le_iff_toNat_le,
      ge_iff_le]
    have upper : 'A'.val.toNat = 65 := rfl
    have lower : 'a'.val.toNat = 97 := rfl
    refine ⟨⟨?_, noUnderscore⟩, by omega⟩
    constructor
    · omega
    · omega
  rw [lexPlain, noStart, if_neg Bool.false_ne_true, if_pos digit]

theorem after_digits (digits : ∀ char ∈ first :: rest, char.isDigit = true)
    (read : (lexStep state first).2 = .number [first]) :
    lexer.after state (first :: rest) = .number (first :: rest) := by
  change lexer.after (lexStep state first).2 rest = _
  rw [read]
  refine after_growing (fun _ _ => rfl) [first] rest fun char inside => ?_
  rw [isNumberPart, digits char (List.mem_cons_of_mem _ inside)]
  simp

theorem Literal.behind (isLiteral : Literal text) : Behind (lexer.after .plain text) := by
  cases isLiteral with
  | @word first rest letters =>
      have step : (lexStep .plain first).2 = .word [first] := by
        rw [lexStep, lexPlain, if_pos (isIdentStart_letter (letters first List.mem_cons_self))]
      change Behind (lexer.after (lexStep .plain first).2 rest)
      rw [step, after_growing (fun _ _ => rfl) [first] rest fun char inside => ?_]
      · exact .word _
      · rw [isIdentPart, isIdentStart_letter (letters char (List.mem_cons_of_mem _ inside))]
        rfl
  | @number first rest digits =>
      have read : (lexStep .plain first).2 = .number [first] :=
        congrArg Prod.snd (lexPlain_digit (digits first List.mem_cons_self))
      rw [after_digits digits read]
      exact .number _
  | @negative first rest digits =>
      have digit := digits first List.mem_cons_self
      have step : lexStep (.operator ['-']) first = lexBehind (.operator ['-']) first := by
        refine lexStep_apart rfl (isOperator_alphanumeric (alphanumeric_digit digit)) ?_
        refine touches_operator ?_
        rintro rfl
        cases digit
      have read : (lexStep (.operator ['-']) first).2 = .number [first] := by
        rw [step, lexBehind, lexPlain_digit digit]
      change Behind (lexer.after (.operator ['-']) (first :: rest))
      rw [after_digits digits read]
      exact .number _
  | quoted inner =>
      change Behind (lexer.after (.quoted .single []) (inner.flatMap doubled ++ ['\'']))
      rw [Transducer.after_append, after_doubled]
      exact .closing _

end Literals

end SqlSafetyProxy.Postgres
