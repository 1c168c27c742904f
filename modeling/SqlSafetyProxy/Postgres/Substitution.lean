import SqlSafetyProxy.Postgres.Previews

/-!
# Substitution along a preview query

The preview query and its literal preview are read together, piece by piece.
Behind a literal the two readings differ in the token that is still open.
-/

namespace SqlSafetyProxy.Postgres

open SqlSafetyProxy.Collections SqlSafetyProxy.Wire SqlSafetyProxy.Runtime

/-! ## The pieces of a query -/

/-- A text and its pieces: a placeholder takes all the digits behind a dollar sign. -/
inductive Scanned (digit : Char → Option Nat) : List Char → List Piece → Prop
  | nil : Scanned digit [] []
  | text {char : Char} {text : List Char} {pieces : List Piece} :
      (char = '$' → ∀ next ∈ text.head?, digit next = none) → Scanned digit text pieces →
      Scanned digit (char :: text) (.text char :: pieces)
  | placeholder {digits text : List Char} {pieces : List Piece} : digits ≠ [] →
      (∀ char ∈ digits, digit char ≠ none) → (∀ next ∈ text.head?, digit next = none) →
      Scanned digit text pieces →
      Scanned digit ('$' :: (digits ++ text)) (.placeholder digits :: pieces)

section Scans

variable {digit : Char → Option Nat} {char : Char} {digits text : List Char}

theorem scan_digit (isDigit : digit char ≠ none) (digits text : List Char) :
    scanPlaceholders digit (some digits) (char :: text) =
      scanPlaceholders digit (some (digits ++ [char])) text := by
  obtain ⟨value, shown⟩ := Option.ne_none_iff_exists'.mp isDigit
  simp [scanPlaceholders, shown]

theorem scan_other (noDigit : digit char = none) (digits text : List Char) :
    scanPlaceholders digit (some digits) (char :: text) =
      closePlaceholder (some digits) ++ scanPlaceholders digit none (char :: text) := by
  simp [scanPlaceholders, noDigit, closePlaceholder]

theorem scan_dollar (text : List Char) :
    scanPlaceholders digit none ('$' :: text) = scanPlaceholders digit (some []) text := by
  simp [scanPlaceholders, closePlaceholder]

theorem scan_text (noDollar : char ≠ '$') (text : List Char) :
    scanPlaceholders digit none (char :: text) =
      .text char :: scanPlaceholders digit none text := by
  simp [scanPlaceholders, closePlaceholder, noDollar]

/-- A dollar sign and the digits behind it are one piece when something else follows. -/
theorem Scanned.close {pieces : List Piece} (scanned : Scanned digit text pieces)
    (isDigits : ∀ char ∈ digits, digit char ≠ none)
    (ends : ∀ next ∈ text.head?, digit next = none) :
    Scanned digit ('$' :: (digits ++ text)) (closePlaceholder (some digits) ++ pieces) := by
  cases digits with
  | nil => exact .text (fun _ => ends) scanned
  | cons first rest => exact .placeholder (by simp) isDigits ends scanned

theorem scan_scanned (digit : Char → Option Nat) (text : List Char) :
    Scanned digit text (scanPlaceholders digit none text) ∧
      ∀ digits, (∀ char ∈ digits, digit char ≠ none) →
        Scanned digit ('$' :: (digits ++ text)) (scanPlaceholders digit (some digits) text) := by
  induction text with
  | nil =>
      refine ⟨.nil, fun digits isDigits => ?_⟩
      have closed := Scanned.nil.close isDigits fun _ next => nomatch next
      rwa [List.append_nil (closePlaceholder _)] at closed
  | cons char text ih =>
      have plain : Scanned digit (char :: text) (scanPlaceholders digit none (char :: text)) := by
        by_cases isDollar : char = '$'
        · rw [isDollar, scan_dollar]
          exact ih.2 [] fun _ inside => absurd inside List.not_mem_nil
        · rw [scan_text isDollar]
          exact .text (fun same => absurd same isDollar) ih.1
      refine ⟨plain, fun digits isDigits => ?_⟩
      by_cases isDigit : digit char = none
      · rw [scan_other isDigit]
        exact plain.close isDigits (by rintro next ⟨⟩; exact isDigit)
      · rw [scan_digit isDigit]
        have scanned := ih.2 (digits ++ [char]) fun later inside => ?_
        · rwa [List.append_assoc] at scanned
        · rcases List.mem_append.mp inside with inside | inside
          · exact isDigits later inside
          · rw [List.mem_singleton.mp inside]
            exact isDigit

end Scans

/-! ## Digit tables -/

section Digits

variable {digit : Char → Option Nat} {params : List DecodedParam} {char : Char}
  {digits : List Char} {bound : DecodedParam}

theorem ascii_digit (isDigit : char.isDigit = true) : char.toNat < 0x80 := by
  simp only [Char.isDigit, Bool.and_eq_true, decide_eq_true_eq, UInt32.le_iff_toNat_le,
    ge_iff_le] at isDigit
  have size : char.toNat = char.val.toNat := rfl
  have high : '9'.val.toNat = 57 := rfl
  omega

theorem noDigit_of_table (ascii : ∀ char, char.toNat < 0x80 → digit char = asciiDigit char)
    (noDigit : digit char = none) : char.isDigit = false := by
  cases isDigit : char.isDigit with
  | false => rfl
  | true =>
      rw [ascii char (ascii_digit isDigit), asciiDigit, if_pos isDigit] at noDigit
      cases noDigit

theorem placeholderNumber_ascii
    (ascii : ∀ char, char.toNat < 0x80 → digit char = asciiDigit char)
    (isDigits : ∀ char ∈ digits, char.isDigit = true) :
    placeholderNumber digit digits = placeholderNumber asciiDigit digits := by
  refine List.foldl_ext _ _ 0 fun value char inside => ?_
  rw [ascii char (ascii_digit (isDigits char inside))]

theorem replacement_of_parameter
    (ascii : ∀ char, char.toNat < 0x80 → digit char = asciiDigit char)
    (isDigits : ∀ char ∈ digits, char.isDigit = true)
    (found : parameterOf params digits = some bound) :
    replacement digit params digits = some bound := by
  rw [parameterOf, ← placeholderNumber_ascii ascii isDigits] at found
  rw [replacement]
  cases number : placeholderNumber digit digits with
  | zero =>
      rw [number] at found
      cases found
  | succ index =>
      rw [number] at found
      exact found

theorem mem_of_parameter (found : parameterOf params digits = some bound) : bound ∈ params := by
  unfold parameterOf at found
  split at found
  · cases found
  · exact List.mem_of_getElem? found

end Digits

/-! ## Tokens without parameters -/

def LexState.isParameter : LexState → Bool
  | .parameter _ => true
  | _ => false

/-- No parameter is among the tokens. -/
def Parameterless (tokens : List Token) : Prop := ∀ digits, .parameter digits ∉ tokens

section Parameterless

variable {params : List DecodedParam} {state : LexState} {char : Char} {front rest : List Token}

theorem parameterless_append (first : Parameterless front) (second : Parameterless rest) :
    Parameterless (front ++ rest) := by
  intro digits inside
  rcases List.mem_append.mp inside with inside | inside
  · exact first digits inside
  · exact second digits inside

theorem parameterless_flush (noParameter : state.isParameter = false) :
    Parameterless (flush state) := by
  have operators : ∀ text, Parameterless (operatorTokens text) := by
    rintro (_ | ⟨first, rest⟩) digits inside
    · cases inside
    · rw [operatorTokens] at inside
      split at inside
      · simp at inside
      · simp at inside
  intro digits inside
  cases state with
  | parameter => cases noParameter
  | operator text => exact operators text digits inside
  | _ => simp [flush] at inside

theorem fill_parameterless (free : Parameterless front) :
    fillParameters params (front ++ rest) =
      (fillParameters params rest).map (front ++ ·) := by
  induction front with
  | nil => simp
  | cons token front ih =>
      have others : Parameterless front := fun digits inside =>
        free digits (List.mem_cons_of_mem _ inside)
      have keep : ∀ tokens, fillParameters params (token :: tokens) =
          (fillParameters params tokens).map (token :: ·) := by
        intro tokens
        cases token with
        | parameter digits => exact absurd List.mem_cons_self (free digits)
        | _ => rfl
      rw [List.cons_append, keep, ih others, Option.map_map]
      rfl

theorem lexPlain_parameterless (char : Char) :
    Parameterless (lexPlain char).1 ∧ (lexPlain char).2.isParameter = false ∧
      ((lexPlain char).2 = .dollar → char = '$') := by
  unfold lexPlain
  repeat' split
  all_goals
    refine ⟨fun digits inside => ?_, rfl, ?_⟩
    · simp at inside
    · first
        | exact fun _ => ‹char = '$'›
        | rintro ⟨⟩

/-- Only digits behind a dollar sign open a parameter. -/
theorem lexStep_parameterless (noParameter : state.isParameter = false)
    (fresh : state = .dollar → char.isDigit = false) :
    Parameterless (lexStep state char).1 ∧ (lexStep state char).2.isParameter = false ∧
      ((lexStep state char).2 = .dollar → char = '$') := by
  have none_ : Parameterless [] := fun _ inside => nomatch inside
  have behind : Parameterless (lexBehind state char).1 ∧
      (lexBehind state char).2.isParameter = false ∧
        ((lexBehind state char).2 = .dollar → char = '$') :=
    ⟨parameterless_append (parameterless_flush noParameter) (lexPlain_parameterless char).1,
      (lexPlain_parameterless char).2⟩
  have operators : ∀ text, Parameterless (operatorTokens text) := fun text =>
    @parameterless_flush (.operator text) rfl
  cases state with
  | plain => exact lexPlain_parameterless char
  | parameter => cases noParameter
  | dollar =>
      rw [lexStep, if_neg (by rw [fresh rfl]; decide)]
      exact behind
  | operator text =>
      rw [lexStep]
      split
      · exact ⟨operators _, rfl, by rintro ⟨⟩⟩
      split
      · exact ⟨operators _, rfl, by rintro ⟨⟩⟩
      split
      · exact ⟨none_, rfl, by rintro ⟨⟩⟩
      · exact behind
  | _ =>
      simp only [lexStep]
      repeat' split
      all_goals first
        | exact behind
        | exact ⟨none_, rfl, by rintro ⟨⟩⟩

end Parameterless

/-! ## Reading the two together -/

/--
From here on the literal preview has the tokens of the query with its literals,
but for those that are pending.
-/
def ReadsAs (params : List DecodedParam) (state : LexState) (text : List Char)
    (pending : List Token) (reached : LexState) (out : List Char) : Prop :=
  ∃ filled, fillParameters params (lexer.run state text) = some filled ∧
    lexer.run reached out = pending ++ filled

/-- Where the query and the literal preview are, and what is pending in between. -/
inductive Joint : LexState → LexState → List Token → Prop
  | same {state : LexState} : state.isParameter = false → Joint state state []
  | behind {reached : LexState} : Behind reached → Joint .plain reached (flush reached)

section Agreement

variable {params : List DecodedParam} {state reached : LexState} {pending : List Token}
  {char first : Char} {text out digits literal : List Char} {bound : DecodedParam}

theorem Joint.noParameter (joint : Joint state reached pending) : state.isParameter = false := by
  cases joint with
  | same noParameter => exact noParameter
  | behind => rfl

theorem Joint.flush_eq (joint : Joint state reached pending) :
    pending ++ flush state = flush reached := by
  cases joint with
  | same => rfl
  | behind => exact List.append_nil _

theorem Joint.isOpen (joint : Joint state reached pending) (takes : state.takesParameter = true) :
    reached.isOpen = true := by
  cases joint with
  | same =>
      cases state with
      | word => cases takes
      | _ => exact takes
  | behind isBehind => cases isBehind <;> rfl

/-- A joint away from the literals. -/
theorem Joint.eq_same (joint : Joint state reached pending) (other : state ≠ .plain) :
    reached = state ∧ pending = [] := by
  cases joint with
  | same => exact ⟨rfl, rfl⟩
  | behind => exact absurd rfl other

theorem readsAs_end (joint : Joint state reached pending) :
    ReadsAs params state [] pending reached [] := by
  refine ⟨flush state, ?_, joint.flush_eq.symm⟩
  have free := @fill_parameterless params (flush state) [] (parameterless_flush joint.noParameter)
  rw [List.append_nil] at free
  refine free.trans ?_
  simp [fillParameters]

theorem readsAs_text (noParameter : state.isParameter = false)
    (fresh : state = .dollar → char.isDigit = false) :
    ReadsAs params state (char :: text) [] state (char :: out) ↔
      ReadsAs params (lexStep state char).2 text [] (lexStep state char).2 out := by
  have free := (lexStep_parameterless noParameter fresh).1
  constructor
  · rintro ⟨filled, found, read⟩
    rw [run_cons, fill_parameterless free] at found
    obtain ⟨inner, others, rfl⟩ := Option.map_eq_some_iff.mp found
    rw [run_cons, List.nil_append, List.append_right_inj] at read
    exact ⟨inner, others, read⟩
  · rintro ⟨inner, found, read⟩
    refine ⟨(lexStep state char).1 ++ inner, ?_, ?_⟩
    · rw [run_cons, fill_parameterless free, found]
      rfl
    · rw [run_cons, read]
      rfl

theorem Behind.lexStep_apart (isBehind : Behind reached)
    (apart : reached.touches char = false) : lexStep reached char = lexBehind reached char := by
  cases isBehind with
  | word => exact if_neg (by simpa [LexState.touches] using apart)
  | number => exact if_neg (by simpa [LexState.touches] using apart)
  | closing => exact if_neg (by simpa [LexState.touches] using apart)

/-- Behind a literal that the next character does not touch, nothing is pending any more. -/
theorem readsAs_apart (isBehind : Behind reached) (apart : reached.touches char = false) :
    ReadsAs params .plain (char :: text) (flush reached) reached (char :: out) ↔
      ReadsAs params (lexStep .plain char).2 text [] (lexStep .plain char).2 out := by
  rw [← readsAs_text rfl (by rintro ⟨⟩)]
  unfold ReadsAs
  rw [run_behind (isBehind.lexStep_apart apart)]
  simp only [List.append_right_inj, List.nil_append]

theorem not_readsAs_touched (isBehind : Behind reached) (touches : reached.touches char = true) :
    ¬ ReadsAs params .plain text (flush reached) reached (char :: out) := by
  rintro ⟨filled, -, read⟩
  refine run_touched ?_ touches filled read
  cases isBehind with
  | word => rintro _ ⟨⟩
  | number => rintro _ ⟨⟩
  | closing => rintro _ ⟨⟩

theorem fill_parameter (takes : state.takesParameter = true)
    (noParameter : state.isParameter = false) (some_ : digits ≠ [])
    (isDigits : ∀ digit ∈ digits, digit.isDigit = true)
    (ends : ∀ char ∈ text.head?, char.isDigit = false) :
    fillParameters params (lexer.run state ('$' :: (digits ++ text))) =
      ((parameterOf params digits).bind fun bound =>
        (fillParameters params (lexer.run .plain text)).map
          (lex bound.sqlLiteral.toList ++ ·)).map (flush state ++ ·) := by
  rw [run_parameter takes some_ isDigits ends, fill_parameterless (parameterless_flush noParameter),
    fillParameters]

/-- A parameter and its literal agree when the literal touches nothing before it. -/
theorem readsAs_parameter (joint : Joint state reached pending)
    (takes : state.takesParameter = true) (some_ : digits ≠ [])
    (isDigits : ∀ digit ∈ digits, digit.isDigit = true)
    (ends : ∀ char ∈ text.head?, char.isDigit = false)
    (found : parameterOf params digits = some bound)
    (isLiteral : Literal bound.sqlLiteral.toList)
    (apart : ∀ first ∈ bound.sqlLiteral.toList.head?, reached.touches first = false) :
    ReadsAs params state ('$' :: (digits ++ text)) pending reached
        (bound.sqlLiteral.toList ++ out) ↔
      ReadsAs params .plain text (flush (lexer.after .plain bound.sqlLiteral.toList))
        (lexer.after .plain bound.sqlLiteral.toList) out := by
  have tokens : lex bound.sqlLiteral.toList =
      lexer.emitted .plain bound.sqlLiteral.toList ++
        flush (lexer.after .plain bound.sqlLiteral.toList) :=
    Transducer.run_eq lexer .plain _
  have read : lexer.run reached (bound.sqlLiteral.toList ++ out) =
      flush reached ++ (lexer.emitted .plain bound.sqlLiteral.toList ++
        lexer.run (lexer.after .plain bound.sqlLiteral.toList) out) := by
    rw [isLiteral.apart (joint.isOpen takes) apart, Transducer.run_append]
  unfold ReadsAs
  rw [fill_parameter takes joint.noParameter some_ isDigits ends, found, read, ← joint.flush_eq,
    Option.bind_some]
  constructor
  · rintro ⟨filled, filledIn, same⟩
    obtain ⟨literal, placed, rfl⟩ := Option.map_eq_some_iff.mp filledIn
    obtain ⟨inner, others, rfl⟩ := Option.map_eq_some_iff.mp placed
    refine ⟨inner, others, ?_⟩
    rw [tokens] at same
    simpa only [List.append_assoc, List.append_right_inj] using same
  · rintro ⟨inner, filledIn, same⟩
    refine ⟨flush state ++ (lex bound.sqlLiteral.toList ++ inner), ?_, ?_⟩
    · simp only [filledIn, Option.map_some]
    · rw [tokens, same]
      simp only [List.append_assoc]

/-- A literal that touches the token before it does not agree. -/
theorem not_readsAs_touching (joint : Joint state reached pending)
    (takes : state.takesParameter = true) (isLiteral : Literal literal)
    (some_ : digits ≠ []) (isDigits : ∀ digit ∈ digits, digit.isDigit = true)
    (ends : ∀ char ∈ text.head?, char.isDigit = false)
    (isFirst : literal.head? = some first) (touches : reached.touches first = true)
    (noDash : (state.atDash && literal.head? == some '-') = false) :
    ¬ ReadsAs params state ('$' :: (digits ++ text)) pending reached (literal ++ out) := by
  rintro ⟨filled, found, read⟩
  rw [fill_parameter takes joint.noParameter some_ isDigits ends] at found
  obtain ⟨inner, -, rfl⟩ := Option.map_eq_some_iff.mp found
  rw [← List.append_assoc, joint.flush_eq] at read
  refine isLiteral.touching first isFirst touches ?_ inner read
  cases joint with
  | same => exact noDash
  | behind isBehind => cases isBehind <;> rfl

/-! ## Placeholders that are no parameters -/

theorem fill_keeps {token : Token} {rest filled : List Token}
    (noParameter : ∀ digits, token ≠ .parameter digits)
    (found : fillParameters params (token :: rest) = some filled) :
    ∃ others, filled = token :: others := by
  have free : Parameterless [token] := fun digits inside =>
    noParameter digits (List.mem_singleton.mp inside).symm
  rw [show token :: rest = [token] ++ rest from rfl, fill_parameterless free] at found
  obtain ⟨inner, -, rfl⟩ := Option.map_eq_some_iff.mp found
  exact ⟨inner, rfl⟩

theorem dollar_ne (noDollar : first ≠ '$') (before taken taken' : List Char) :
    before ++ [first] ++ taken ≠ before ++ ['$'] ++ taken' := by
  intro same
  simp only [List.append_assoc, List.append_right_inj, List.singleton_append,
    List.cons.injEq] at same
  exact noDollar same.1

/-- Within an identifier a dollar sign belongs to it. -/
theorem not_readsAs_word {word : List Char} (noDollar : first ≠ '$') :
    ¬ ReadsAs params (.word word) ('$' :: text) [] (.word word) (first :: out) := by
  rintro ⟨filled, found, read⟩
  have step : lexStep (.word word) '$' = ([], .word (word ++ ['$'])) := rfl
  obtain ⟨taken, others, token⟩ := run_word (word ++ ['$']) text
  rw [run_step step, List.nil_append, token] at found
  obtain ⟨others, rfl⟩ := fill_keeps (by rintro _ ⟨⟩) found
  cases isPart : isIdentPart first with
  | true =>
      have step : lexStep (.word word) first = ([], .word (word ++ [first])) := if_pos isPart
      obtain ⟨taken', others', token'⟩ := run_word (word ++ [first]) out
      rw [run_step step, List.nil_append, token'] at read
      exact dollar_ne noDollar word taken' taken (Token.word.inj (List.cons.inj read).1)
  | false =>
      have step : lexStep (.word word) first = lexBehind (.word word) first :=
        if_neg (by rw [isPart]; decide)
      rw [run_behind step] at read
      exact longer_ne word taken (Token.word.inj (List.cons.inj read).1).symm

/-- A quotation that another character than a dollar sign goes on, or ends. -/
theorem run_quoted_other {mark : QuoteMark} (noDollar : first ≠ '$') (inner out : List Char) :
    ∃ text others, lexer.run (.quoted mark inner) (first :: out) = .quoted mark text :: others ∧
      ∀ taken, text ≠ inner ++ ['$'] ++ taken := by
  by_cases isMark : first = mark.char
  · have step : lexStep (.quoted mark inner) first = ([], .closing mark inner) := by
      rw [lexStep, if_pos isMark]
    rw [run_step step, List.nil_append]
    have alone : ∀ taken, inner ≠ inner ++ ['$'] ++ taken := fun taken same =>
      longer_ne inner taken same.symm
    cases out with
    | nil => exact ⟨inner, [], rfl, alone⟩
    | cons second out =>
        by_cases isDouble : second = mark.char
        · have step : lexStep (.closing mark inner) second =
              ([], .quoted mark (inner ++ [second])) := if_pos isDouble
          obtain ⟨taken, others, read⟩ := (run_quotation mark out).1 (inner ++ [second])
          rw [run_step step, List.nil_append, read]
          rw [isMark, ← isDouble] at noDollar
          exact ⟨_, others, rfl, dollar_ne noDollar inner taken⟩
        · have step : lexStep (.closing mark inner) second =
              lexBehind (.closing mark inner) second := if_neg isDouble
          rw [run_behind step]
          exact ⟨inner, _, rfl, alone⟩
  · have step : lexStep (.quoted mark inner) first = ([], .quoted mark (inner ++ [first])) := by
      rw [lexStep, if_neg isMark]
    obtain ⟨taken, others, read⟩ := (run_quotation mark out).1 (inner ++ [first])
    rw [run_step step, List.nil_append, read]
    exact ⟨_, others, rfl, dollar_ne noDollar inner taken⟩

theorem not_readsAs_quoted {mark : QuoteMark} {inner : List Char} (noDollar : first ≠ '$') :
    ¬ ReadsAs params (.quoted mark inner) ('$' :: text) [] (.quoted mark inner) (first :: out) := by
  rintro ⟨filled, found, read⟩
  have step : lexStep (.quoted mark inner) '$' = ([], .quoted mark (inner ++ ['$'])) := by
    cases mark <;> rfl
  obtain ⟨taken, others, token⟩ := (run_quotation mark text).1 (inner ++ ['$'])
  rw [run_step step, List.nil_append, token] at found
  obtain ⟨others, rfl⟩ := fill_keeps (by rintro _ ⟨⟩) found
  obtain ⟨text', others', token', other⟩ := @run_quoted_other first mark noDollar inner out
  rw [token'] at read
  exact other taken (Token.quoted.inj (List.cons.inj read).1).2

end Agreement

/-! ## The whole query -/

section Comments

variable {digit : Char → Option Nat} {state : LexState} {char : Char} {text : List Char}

/-- In a comment nothing is emitted, and only some characters can end it. -/
theorem comment_read (inside : state.inComment = true)
    (others : ∀ char ∈ text, char ∉ ['\n', '\r', '*', '/']) :
    lexer.emitted state text = [] ∧ (lexer.after state text).inComment = true := by
  induction text generalizing state with
  | nil => exact ⟨rfl, inside⟩
  | cons char text ih =>
      have other := others char List.mem_cons_self
      simp only [List.mem_cons, List.not_mem_nil, or_false, not_or] at other
      obtain ⟨noFeed, noReturn, noStar, noSlash⟩ := other
      have step : (lexStep state char).1 = [] ∧ (lexStep state char).2.inComment = true := by
        cases state with
        | lineComment =>
            rw [lexStep, if_neg (by rintro (same | same); exacts [noFeed same, noReturn same])]
            exact ⟨rfl, rfl⟩
        | blockComment depth =>
            rw [lexStep, if_neg noStar, if_neg noSlash]
            exact ⟨rfl, rfl⟩
        | star depth =>
            simp only [lexStep, noSlash, noStar, if_false]
            exact ⟨trivial, rfl⟩
        | slant depth =>
            rw [lexStep, if_neg noStar, if_neg noSlash]
            exact ⟨rfl, rfl⟩
        | _ => cases inside
      obtain ⟨emitted, after⟩ := ih step.2 fun later inside =>
        others later (List.mem_cons_of_mem _ inside)
      refine ⟨?_, after⟩
      change (lexStep state char).1 ++ _ = _
      rw [step.1]
      exact emitted

theorem inComment_cases (inside : state.inComment = true) :
    state ≠ .plain ∧ state ≠ .dollar ∧ state.isParameter = false := by
  cases state with
  | lineComment => exact ⟨by rintro ⟨⟩, by rintro ⟨⟩, rfl⟩
  | blockComment => exact ⟨by rintro ⟨⟩, by rintro ⟨⟩, rfl⟩
  | star => exact ⟨by rintro ⟨⟩, by rintro ⟨⟩, rfl⟩
  | slant => exact ⟨by rintro ⟨⟩, by rintro ⟨⟩, rfl⟩
  | _ => cases inside

theorem placeholder_others
    (ascii : ∀ char, char.toNat < 0x80 → digit char = asciiDigit char)
    (isDigits : ∀ char ∈ text, digit char ≠ none) :
    ∀ char ∈ '$' :: text, char ∉ ['\n', '\r', '*', '/'] := by
  intro char inside among
  rcases List.mem_cons.mp inside with rfl | inside
  · exact absurd among (by decide)
  · refine isDigits char inside ?_
    simp only [List.mem_cons, List.not_mem_nil, or_false] at among
    rcases among with rfl | rfl | rfl | rfl <;> exact ascii _ (by decide)

end Comments

section Whole

variable {digit : Char → Option Nat} {params : List DecodedParam} {state reached : LexState}
  {pending : List Token} {text : List Char} {pieces : List Piece}

/-- Digits of a table are not read on behind the parameters and texts before them. -/
theorem head_noDigit (ascii : ∀ char, char.toNat < 0x80 → digit char = asciiDigit char)
    (ends : ∀ next ∈ text.head?, digit next = none) :
    ∀ next ∈ text.head?, next.isDigit = false :=
  fun next isNext => noDigit_of_table ascii (ends next isNext)

/-- Where the pieces are separated, the literal preview has the tokens it should have. -/
theorem separated_readsAs
    (ascii : ∀ char, char.toNat < 0x80 → digit char = asciiDigit char)
    (literals : ∀ bound ∈ params, Literal bound.sqlLiteral.toList)
    (scanned : Scanned digit text pieces) (joint : Joint state reached pending)
    (fresh : state = .dollar → ∀ next ∈ text.head?, digit next = none)
    (apart : separated digit params state reached pieces = true) :
    ReadsAs params state text pending reached
      (pieces.flatMap (Piece.placed digit params)) := by
  induction scanned generalizing state reached pending with
  | nil => exact readsAs_end joint
  | @text char text pieces follows scanned ih =>
      rw [separated, Bool.and_eq_true] at apart
      obtain ⟨behind, apart⟩ := apart
      have noDigit : state = .dollar → char.isDigit = false := fun isDollar =>
        noDigit_of_table ascii (fresh isDollar char rfl)
      obtain ⟨-, noParameter, dollar⟩ := lexStep_parameterless joint.noParameter noDigit
      have others := ih (.same noParameter) (fun same => follows (dollar same)) apart
      cases joint with
      | same noParameter => exact (readsAs_text noParameter noDigit).mpr others
      | behind isBehind =>
          refine (readsAs_apart isBehind ?_).mpr others
          cases isBehind <;> simpa using behind
  | @placeholder digits text pieces some_ isDigits ends scanned ih =>
      rw [separated] at apart
      split at apart
      · next inside =>
          simp only [Bool.and_eq_true, decide_eq_true_eq] at apart
          obtain ⟨⟨silent, stays⟩, apart⟩ := apart
          obtain ⟨noPlain, noDollar, noParameter⟩ := inComment_cases inside
          obtain ⟨rfl, rfl⟩ := joint.eq_same noPlain
          obtain ⟨emitted, remains⟩ := comment_read inside (placeholder_others ascii isDigits)
          obtain ⟨-, noDollar', noParameter'⟩ := inComment_cases remains
          obtain ⟨filled, found, read⟩ := ih (.same noParameter')
            (fun same => absurd same noDollar') apart
          refine ⟨filled, ?_, ?_⟩
          · rw [← List.cons_append, Transducer.run_append, emitted]
            exact found
          · rw [List.flatMap_cons, Transducer.run_append, silent, stays]
            exact read
      · next outside =>
          simp only [Bool.and_eq_true, List.all_eq_true] at apart
          obtain ⟨⟨takes, areDigits⟩, apart⟩ := apart
          cases found : parameterOf params digits with
          | none =>
              rw [found] at apart
              cases apart
          | some bound =>
              rw [found] at apart
              simp only [Bool.and_eq_true] at apart
              obtain ⟨untouched, apart⟩ := apart
              have isLiteral := literals bound (mem_of_parameter found)
              have placed : (Piece.placeholder digits).placed digit params =
                  bound.sqlLiteral.toList := by
                rw [Piece.placed, replacement_of_parameter ascii areDigits found]
              rw [List.flatMap_cons, placed]
              refine (readsAs_parameter joint takes some_ areDigits (head_noDigit ascii ends) found
                isLiteral ?_).mpr (ih (.behind isLiteral.behind) (by rintro ⟨⟩) apart)
              intro first isFirst
              simpa [Option.mem_def.mp isFirst] using untouched

/-- A placeholder that is no parameter shows in the tokens, except in a comment. -/
theorem not_readsAs_outside {digits out : List Char} {first : Char}
    (joint : Joint state reached pending) (takes : state.takesParameter = false)
    (noComment : state.inComment = false) (noDollar : first ≠ '$') :
    ¬ ReadsAs params state ('$' :: (digits ++ text)) pending reached (first :: out) := by
  have same : state ≠ .plain := by
    rintro rfl
    cases takes
  obtain ⟨rfl, rfl⟩ := joint.eq_same same
  cases reached with
  | word => exact not_readsAs_word noDollar
  | quoted => exact not_readsAs_quoted noDollar
  | lineComment => cases noComment
  | blockComment => cases noComment
  | star => cases noComment
  | slant => cases noComment
  | _ => cases takes

/-- Where the placeholders are exposed, the tokens agree only if the pieces are separated. -/
theorem readsAs_separated
    (ascii : ∀ char, char.toNat < 0x80 → digit char = asciiDigit char)
    (literals : ∀ bound ∈ params, Literal bound.sqlLiteral.toList)
    (replaced : ∀ digits, .placeholder digits ∈ pieces →
      ∃ bound ∈ params, replacement digit params digits = some bound)
    (scanned : Scanned digit text pieces) (joint : Joint state reached pending)
    (fresh : state = .dollar → ∀ next ∈ text.head?, digit next = none)
    (open_ : exposed digit params state pieces = true)
    (reads : ReadsAs params state text pending reached
      (pieces.flatMap (Piece.placed digit params))) :
    separated digit params state reached pieces = true := by
  induction scanned generalizing state reached pending with
  | nil => rfl
  | @text char text pieces follows scanned ih =>
      have noDigit : state = .dollar → char.isDigit = false := fun isDollar =>
        noDigit_of_table ascii (fresh isDollar char rfl)
      obtain ⟨-, noParameter, dollar⟩ := lexStep_parameterless joint.noParameter noDigit
      have others := ih (fun digits inside => replaced digits (List.mem_cons_of_mem _ inside))
        (.same noParameter) (fun same => follows (dollar same)) open_
      rw [separated, Bool.and_eq_true]
      cases joint with
      | same noParameter => exact ⟨by simp, others ((readsAs_text noParameter noDigit).mp reads)⟩
      | behind isBehind =>
          cases touches : reached.touches char with
          | true => exact absurd reads (not_readsAs_touched isBehind touches)
          | false => exact ⟨by simp, others ((readsAs_apart isBehind touches).mp reads)⟩
  | @placeholder digits text pieces some_ isDigits ends scanned ih =>
      obtain ⟨bound, isParam, found⟩ := replaced digits List.mem_cons_self
      have isLiteral := literals bound isParam
      have placed : (Piece.placeholder digits).placed digit params =
          bound.sqlLiteral.toList := by
        rw [Piece.placed, found]
      rw [exposed, placed] at open_
      simp only [Bool.and_eq_true, Bool.not_eq_true', List.all_eq_true] at open_
      obtain ⟨⟨⟨noComment, areDigits⟩, noDash⟩, open_⟩ := open_
      rw [List.flatMap_cons, placed] at reads
      rw [separated, noComment, if_neg Bool.false_ne_true]
      cases takes : state.takesParameter with
      | false =>
          obtain ⟨first, more, shown, -, noDollar⟩ := isLiteral.opens
          rw [shown, List.cons_append] at reads
          exact absurd reads (not_readsAs_outside joint takes noComment noDollar)
      | true =>
          rw [takes, if_pos rfl] at open_
          have noDigit := head_noDigit ascii ends
          cases parameter : parameterOf params digits with
          | none =>
              obtain ⟨filled, filledIn, -⟩ := reads
              rw [fill_parameter takes joint.noParameter some_ areDigits noDigit,
                parameter] at filledIn
              cases filledIn
          | some other =>
              have same : other = bound := by
                have same := replacement_of_parameter ascii areDigits parameter
                rw [found] at same
                exact (Option.some.inj same).symm
              subst same
              have apart : ∀ first ∈ other.sqlLiteral.toList.head?,
                  reached.touches first = false := by
                intro first isFirst
                cases touches : reached.touches first with
                | false => rfl
                | true => exact absurd reads (not_readsAs_touching joint takes isLiteral some_
                    areDigits noDigit isFirst touches noDash)
              have others := ih
                (fun digits inside => replaced digits (List.mem_cons_of_mem _ inside))
                (.behind isLiteral.behind) (by rintro ⟨⟩) open_
                ((readsAs_parameter joint takes some_ areDigits noDigit parameter isLiteral
                  apart).mp reads)
              simp only [Bool.true_and, Bool.and_eq_true, List.all_eq_true]
              refine ⟨areDigits, ?_, others⟩
              rw [Option.all_eq_true]
              intro first isFirst
              rw [apart first isFirst]
              rfl

end Whole

end SqlSafetyProxy.Postgres
