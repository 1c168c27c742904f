import Mathlib.Data.List.DropRight
import SqlSafetyProxy.Collections.Transducer

/-!
# The tokens of a preview query

The lexical rules of a server with standard conforming strings, as a transducer
from characters to tokens.  Strings are quoted, never escaped or dollar quoted,
and comments nest.
-/

namespace SqlSafetyProxy.Postgres

open SqlSafetyProxy.Collections

/-! ## The lexical rules -/

inductive QuoteMark where
  | single | double
  deriving DecidableEq, Repr

def QuoteMark.char : QuoteMark → Char
  | .single => '\''
  | .double => '"'

inductive Token where
  /-- A keyword or an identifier without quotes. -/
  | word (text : List Char)
  | number (text : List Char)
  /-- A string constant or a quoted identifier. -/
  | quoted (mark : QuoteMark) (text : List Char)
  | parameter (digits : List Char)
  | operator (text : List Char)
  | symbol (char : Char)
  deriving DecidableEq, Repr

/-- What has been read of the current token. -/
inductive LexState where
  | plain
  | word (text : List Char)
  | number (text : List Char)
  | dot | dollar
  | parameter (digits : List Char)
  | operator (text : List Char)
  | quoted (mark : QuoteMark) (text : List Char)
  /-- The mark was read that closes the quotation, unless it is doubled. -/
  | closing (mark : QuoteMark) (text : List Char)
  | lineComment
  /-- A comment within as many others. -/
  | blockComment (depth : Nat)
  /-- A `*` was read that closes the comment before a `/`. -/
  | star (depth : Nat)
  /-- A `/` was read that opens another comment before a `*`. -/
  | slant (depth : Nat)
  deriving DecidableEq, Repr

def isIdentStart (char : Char) : Bool := char.isAlpha || char == '_' || 0x80 ≤ char.toNat

def isIdentPart (char : Char) : Bool := isIdentStart char || char.isDigit || char == '$'

def isNumberPart (char : Char) : Bool := isIdentStart char || char.isDigit || char == '.'

def isBlank (char : Char) : Bool := char == ' ' || (0x09 ≤ char.toNat && char.toNat ≤ 0x0D)

def isSign (char : Char) : Bool := char == '+' || char == '-'

/-- An operator with one of these may end in a sign. -/
def isSpecial (char : Char) : Bool :=
  ['~', '!', '@', '#', '^', '&', '|', '\x60', '?', '%'].contains char

def isOperator (char : Char) : Bool :=
  isSpecial char || isSign char || ['*', '/', '<', '>', '='].contains char

/-- The operators in a text of operator characters. -/
def operatorTokens : List Char → List Token
  | [] => []
  | first :: rest =>
      if (first :: rest).any isSpecial then [.operator (first :: rest)]
      else .operator (first :: rest.rdropWhile isSign) ::
        (rest.rtakeWhile isSign).map fun sign => .operator [sign]

/-- A character that does not belong to the token before it. -/
def lexPlain (char : Char) : List Token × LexState :=
  if isIdentStart char then ([], .word [char])
  else if char.isDigit then ([], .number [char])
  else if char = '.' then ([], .dot)
  else if char = '$' then ([], .dollar)
  else if char = '\'' then ([], .quoted .single [])
  else if char = '"' then ([], .quoted .double [])
  else if isOperator char then ([], .operator [char])
  else if isBlank char then ([], .plain)
  else ([.symbol char], .plain)

/-- The tokens that are complete when something else follows. -/
def flush : LexState → List Token
  | .plain => []
  | .word text => [.word text]
  | .number text => [.number text]
  | .dot => [.symbol '.']
  | .dollar => [.symbol '$']
  | .parameter digits => [.parameter digits]
  | .operator text => operatorTokens text
  | .quoted mark text => [.quoted mark text]
  | .closing mark text => [.quoted mark text]
  | .lineComment | .blockComment _ | .star _ | .slant _ => []

/-- Complete the token, and read a character behind it. -/
def lexBehind (state : LexState) (char : Char) : List Token × LexState :=
  (flush state ++ (lexPlain char).1, (lexPlain char).2)

def lexStep (state : LexState) (char : Char) : List Token × LexState :=
  match state with
  | .plain => lexPlain char
  | .word text => if isIdentPart char then ([], .word (text ++ [char])) else lexBehind state char
  | .number text =>
      if isNumberPart char then ([], .number (text ++ [char])) else lexBehind state char
  | .dot => if char.isDigit then ([], .number ['.', char]) else lexBehind state char
  | .dollar => if char.isDigit then ([], .parameter [char]) else lexBehind state char
  | .parameter digits =>
      if char.isDigit then ([], .parameter (digits ++ [char])) else lexBehind state char
  | .operator text =>
      if char = '-' ∧ text.getLast? = some '-' then (operatorTokens text.dropLast, .lineComment)
      else if char = '*' ∧ text.getLast? = some '/' then
        (operatorTokens text.dropLast, .blockComment 0)
      else if isOperator char then ([], .operator (text ++ [char]))
      else lexBehind state char
  | .quoted mark text =>
      ([], if char = mark.char then .closing mark text else .quoted mark (text ++ [char]))
  | .closing mark text =>
      if char = mark.char then ([], .quoted mark (text ++ [char])) else lexBehind state char
  | .lineComment => ([], if char = '\n' ∨ char = '\r' then .plain else .lineComment)
  | .blockComment depth =>
      ([], if char = '*' then .star depth else if char = '/' then .slant depth
        else .blockComment depth)
  | .star depth =>
      ([], if char = '/' then (match depth with
          | 0 => .plain
          | depth + 1 => .blockComment depth)
        else if char = '*' then .star depth else .blockComment depth)
  | .slant depth =>
      ([], if char = '*' then .blockComment (depth + 1)
        else if char = '/' then .slant depth else .blockComment depth)

def lexer : Transducer LexState Char Token where
  step := lexStep
  finish := flush

def lex (text : List Char) : List Token := lexer.run .plain text

/-! ## Tokens and what follows them -/

/-- Not within a quotation or comment. -/
def LexState.isOpen : LexState → Bool
  | .quoted _ _ | .lineComment | .blockComment _ | .star _ | .slant _ => false
  | _ => true

def LexState.inComment : LexState → Bool
  | .lineComment | .blockComment _ | .star _ | .slant _ => true
  | _ => false

/-- An operator whose tokens are others when a minus sign follows. -/
def takesMinus (text : List Char) : Bool := text.any isSpecial || text.getLast? == some '-'

/-- The character, as the first behind a token, would change it. -/
def LexState.touches : LexState → Char → Bool
  | .word _, char => isIdentPart char
  | .number _, char => isNumberPart char
  | .dot, char | .dollar, char | .parameter _, char => char.isDigit
  | .operator text, char => char == '-' && takesMinus text
  | .closing mark _, char => char == mark.char
  | _, _ => false

section Runs

variable {state : LexState} {char : Char} {text rest : List Char}

theorem run_cons (state : LexState) (char : Char) (rest : List Char) :
    lexer.run state (char :: rest) =
      (lexStep state char).1 ++ lexer.run (lexStep state char).2 rest :=
  rfl

theorem run_step {emitted : List Token} {next : LexState}
    (step : lexStep state char = (emitted, next)) :
    lexer.run state (char :: rest) = emitted ++ lexer.run next rest := by
  rw [run_cons, step]

theorem run_behind (step : lexStep state char = lexBehind state char) :
    lexer.run state (char :: rest) = flush state ++ lexer.run .plain (char :: rest) := by
  rw [run_step step, List.append_assoc]
  rfl

/-- A character that is no operator's and does not touch the token is read behind it. -/
theorem lexStep_apart (isOpen : state.isOpen = true) (noOperator : isOperator char = false)
    (apart : state.touches char = false) : lexStep state char = lexBehind state char := by
  have other : ∀ {sign : Char}, isOperator sign = true → char ≠ sign := by
    rintro sign isSign rfl
    rw [isSign] at noOperator
    cases noOperator
  cases state with
  | plain => rfl
  | word => exact if_neg (by simpa [LexState.touches] using apart)
  | number => exact if_neg (by simpa [LexState.touches] using apart)
  | dot => exact if_neg (by simpa [LexState.touches] using apart)
  | dollar => exact if_neg (by simpa [LexState.touches] using apart)
  | parameter => exact if_neg (by simpa [LexState.touches] using apart)
  | operator text =>
      rw [lexStep, if_neg fun both => other (by decide) both.1,
        if_neg fun both => other (by decide) both.1, noOperator]
      rfl
  | closing => exact if_neg (by simpa [LexState.touches] using apart)
  | _ => cases isOpen

theorem operatorTokens_minus (apart : takesMinus text = false) :
    operatorTokens (text ++ ['-']) = operatorTokens text ++ [.operator ['-']] := by
  cases text with
  | nil => rfl
  | cons first rest =>
      rw [takesMinus, Bool.or_eq_false_iff] at apart
      have noSpecial : (first :: (rest ++ ['-'])).any isSpecial = false := by
        rw [← List.cons_append, List.any_append, apart.1]
        rfl
      rw [List.cons_append, operatorTokens, operatorTokens, noSpecial, apart.1,
        List.rdropWhile_concat_pos isSign rest '-' rfl,
        List.rtakeWhile_concat_pos isSign rest '-' rfl]
      simp

theorem touches_operator {sign : Char} (other : char ≠ '-') :
    (LexState.operator [sign]).touches char = false := by
  simp [LexState.touches, other]

/-- A minus sign before another token stands alone unless it touches an operator. -/
theorem run_minus (isOpen : state.isOpen = true) (apart : state.touches '-' = false)
    (noOperator : isOperator char = false) :
    lexer.run state ('-' :: char :: rest) =
      flush state ++ .operator ['-'] :: lexer.run .plain (char :: rest) := by
  have other : char ≠ '-' := by
    rintro rfl
    cases noOperator
  have alone : ∀ {state : LexState}, lexStep state '-' = (flush state, .operator ['-']) →
      lexer.run state ('-' :: char :: rest) =
        flush state ++ .operator ['-'] :: lexer.run .plain (char :: rest) := by
    intro state step
    rw [run_step step, run_behind (lexStep_apart rfl noOperator (touches_operator other))]
    rfl
  have behind : ∀ {state : LexState}, lexStep state '-' = lexBehind state '-' →
      lexStep state '-' = (flush state, .operator ['-']) := by
    intro state step
    rw [step, lexBehind, show lexPlain '-' = ([], .operator ['-']) from rfl, List.append_nil]
  cases state with
  | operator text =>
      have apart : takesMinus text = false := apart
      have noDash : text.getLast? ≠ some '-' := by
        have last := (Bool.or_eq_false_iff.mp apart).2
        simpa using last
      have step : lexStep (.operator text) '-' = ([], .operator (text ++ ['-'])) := by
        rw [lexStep, if_neg fun both => noDash both.2, if_neg (by rintro ⟨⟨⟩, -⟩),
          if_pos (by decide)]
      rw [run_step step, run_behind (lexStep_apart rfl noOperator (by
          simp [LexState.touches, other])), flush, operatorTokens_minus apart, flush]
      simp
  | closing mark text => exact alone (behind (if_neg (by cases mark <;> decide)))
  | quoted => cases isOpen
  | lineComment => cases isOpen
  | blockComment => cases isOpen
  | star => cases isOpen
  | slant => cases isOpen
  | _ => exact alone (behind rfl)

/-! ## Parameters -/

/-- Where a dollar sign and digits are a parameter. -/
def LexState.takesParameter (state : LexState) : Bool :=
  match state with
  | .word _ => false
  | _ => state.isOpen

theorem lexStep_dollar (takes : state.takesParameter = true) :
    lexStep state '$' = (flush state, .dollar) := by
  have behind : lexStep state '$' = lexBehind state '$' := by
    cases state with
    | word => cases takes
    | closing mark text => exact if_neg (by cases mark <;> decide)
    | operator text =>
        rw [lexStep, if_neg (by rintro ⟨⟨⟩, -⟩), if_neg (by rintro ⟨⟨⟩, -⟩), if_neg (by decide)]
    | plain => rfl
    | number => rfl
    | dot => rfl
    | dollar => rfl
    | parameter => rfl
    | _ => cases takes
  rw [behind, lexBehind, show lexPlain '$' = ([], .dollar) from rfl, List.append_nil]

/-- Digits go on a parameter, and it ends before anything else. -/
theorem run_digits (digits more : List Char) (isDigits : ∀ digit ∈ more, digit.isDigit = true)
    (ends : ∀ char ∈ rest.head?, char.isDigit = false) :
    lexer.run (.parameter digits) (more ++ rest) =
      .parameter (digits ++ more) :: lexer.run .plain rest := by
  induction more generalizing digits with
  | nil =>
      rw [List.append_nil, List.nil_append]
      cases rest with
      | nil => rfl
      | cons char rest =>
          have noDigit := ends char rfl
          have step : lexStep (.parameter digits) char = lexBehind (.parameter digits) char :=
            if_neg (by rw [noDigit]; decide)
          rw [run_behind step]
          rfl
  | cons digit more ih =>
      have isDigit := isDigits digit List.mem_cons_self
      have step : lexStep (.parameter digits) digit = ([], .parameter (digits ++ [digit])) :=
        if_pos isDigit
      rw [List.cons_append, run_step step,
        ih (digits ++ [digit]) fun later inside => isDigits later (List.mem_cons_of_mem _ inside)]
      simp

theorem run_parameter {digits : List Char} (takes : state.takesParameter = true)
    (some_ : digits ≠ []) (isDigits : ∀ digit ∈ digits, digit.isDigit = true)
    (ends : ∀ char ∈ rest.head?, char.isDigit = false) :
    lexer.run state ('$' :: (digits ++ rest)) =
      flush state ++ .parameter digits :: lexer.run .plain rest := by
  obtain ⟨first, more, rfl⟩ := List.exists_cons_of_ne_nil some_
  have step : lexStep .dollar first = ([], .parameter [first]) :=
    if_pos (isDigits first List.mem_cons_self)
  rw [run_step (lexStep_dollar takes), List.cons_append, run_step step, List.nil_append,
    run_digits [first] more (fun later inside => isDigits later (List.mem_cons_of_mem _ inside))
      ends]
  rfl

/-! ## Tokens that go on -/

/-- A token that goes on as long as its characters do. -/
theorem run_growing {grown : List Char → LexState} {token : List Char → Token}
    {part : Char → Bool}
    (steps : ∀ text char, lexStep (grown text) char =
      if part char then ([], grown (text ++ [char])) else lexBehind (grown text) char)
    (flushed : ∀ text, flush (grown text) = [token text]) (text more : List Char) :
    ∃ taken others, lexer.run (grown text) more = token (text ++ taken) :: others := by
  induction more generalizing text with
  | nil =>
      refine ⟨[], [], ?_⟩
      rw [List.append_nil]
      exact flushed text
  | cons char more ih =>
      cases isPart : part char with
      | true =>
          obtain ⟨taken, others, read⟩ := ih (text ++ [char])
          refine ⟨char :: taken, others, ?_⟩
          rw [run_step ((steps text char).trans (if_pos isPart)), List.nil_append, read]
          simp
      | false =>
          refine ⟨[], lexer.run .plain (char :: more), ?_⟩
          rw [run_behind ((steps text char).trans (if_neg (by rw [isPart]; decide))), flushed,
            List.append_nil]
          rfl

theorem run_word (text more : List Char) :
    ∃ taken others, lexer.run (.word text) more = .word (text ++ taken) :: others :=
  run_growing (fun _ _ => rfl) (fun _ => rfl) text more

theorem run_number (text more : List Char) :
    ∃ taken others, lexer.run (.number text) more = .number (text ++ taken) :: others :=
  run_growing (fun _ _ => rfl) (fun _ => rfl) text more

theorem run_moreDigits (digits more : List Char) :
    ∃ taken others, lexer.run (.parameter digits) more = .parameter (digits ++ taken) :: others :=
  run_growing (fun _ _ => rfl) (fun _ => rfl) digits more

theorem run_quotation (mark : QuoteMark) (more : List Char) :
    (∀ text, ∃ taken others, lexer.run (.quoted mark text) more =
        .quoted mark (text ++ taken) :: others) ∧
      ∀ text, ∃ taken others, lexer.run (.closing mark text) more =
        .quoted mark (text ++ taken) :: others := by
  induction more with
  | nil =>
      constructor
      · exact fun text => ⟨[], [], by rw [List.append_nil]; rfl⟩
      · exact fun text => ⟨[], [], by rw [List.append_nil]; rfl⟩
  | cons char more ih =>
      by_cases isMark : char = mark.char
      · constructor
        · intro text
          have step : lexStep (.quoted mark text) char = ([], .closing mark text) := by
            rw [lexStep, if_pos isMark]
          obtain ⟨taken, others, read⟩ := ih.2 text
          exact ⟨taken, others, (run_step step).trans read⟩
        · intro text
          have step : lexStep (.closing mark text) char = ([], .quoted mark (text ++ [char])) :=
            if_pos isMark
          obtain ⟨taken, others, read⟩ := ih.1 (text ++ [char])
          refine ⟨char :: taken, others, ?_⟩
          rw [run_step step, List.nil_append, read]
          simp
      · constructor
        · intro text
          have step : lexStep (.quoted mark text) char = ([], .quoted mark (text ++ [char])) := by
            rw [lexStep, if_neg isMark]
          obtain ⟨taken, others, read⟩ := ih.1 (text ++ [char])
          refine ⟨char :: taken, others, ?_⟩
          rw [run_step step, List.nil_append, read]
          simp
        · intro text
          have step : lexStep (.closing mark text) char = lexBehind (.closing mark text) char :=
            if_neg isMark
          refine ⟨[], lexer.run .plain (char :: more), ?_⟩
          rw [run_behind step, List.append_nil]
          rfl

/-- A text of one more character is another. -/
theorem longer_ne (text taken : List Char) : text ++ [char] ++ taken ≠ text := by
  intro same
  have lengths := congrArg List.length same
  simp at lengths

/-- A character that touches the token before it makes another of it. -/
theorem run_touched (outside : ∀ text, state ≠ .operator text)
    (touched : state.touches char = true) (others : List Token) :
    lexer.run state (char :: rest) ≠ flush state ++ others := by
  cases state with
  | word text =>
      obtain ⟨taken, others', read⟩ := run_word (text ++ [char]) rest
      have step : lexStep (.word text) char = ([], .word (text ++ [char])) :=
        if_pos touched
      rw [run_step step, List.nil_append, read]
      intro same
      exact longer_ne text taken (Token.word.inj (List.cons.inj same).1)
  | number text =>
      obtain ⟨taken, others', read⟩ := run_number (text ++ [char]) rest
      have step : lexStep (.number text) char = ([], .number (text ++ [char])) :=
        if_pos touched
      rw [run_step step, List.nil_append, read]
      intro same
      exact longer_ne text taken (Token.number.inj (List.cons.inj same).1)
  | dot =>
      obtain ⟨taken, others', read⟩ := run_number ['.', char] rest
      have step : lexStep (.dot) char = ([], .number ['.', char]) :=
        if_pos touched
      rw [run_step step, List.nil_append, read]
      rintro ⟨⟩
  | dollar =>
      obtain ⟨taken, others', read⟩ := run_moreDigits [char] rest
      have step : lexStep (.dollar) char = ([], .parameter [char]) :=
        if_pos touched
      rw [run_step step, List.nil_append, read]
      rintro ⟨⟩
  | parameter digits =>
      obtain ⟨taken, others', read⟩ := run_moreDigits (digits ++ [char]) rest
      have step : lexStep (.parameter digits) char = ([], .parameter (digits ++ [char])) :=
        if_pos touched
      rw [run_step step, List.nil_append, read]
      intro same
      exact longer_ne digits taken (Token.parameter.inj (List.cons.inj same).1)
  | operator text => exact absurd rfl (outside text)
  | closing mark text =>
      obtain ⟨taken, others', read⟩ := (run_quotation mark rest).1 (text ++ [char])
      have step : lexStep (.closing mark text) char = ([], .quoted mark (text ++ [char])) :=
        if_pos (by simpa [LexState.touches] using touched)
      rw [run_step step, List.nil_append, read]
      intro same
      exact longer_ne text taken (Token.quoted.inj (List.cons.inj same).1).2
  | _ => cases touched

/-- A minus sign behind an operator that may end in one goes on that operator. -/
theorem run_operator_minus (special : text.any isSpecial = true)
    (noDash : text.getLast? ≠ some '-') (noOperator : isOperator char = false)
    (others : List Token) :
    lexer.run (.operator text) ('-' :: char :: rest) ≠ flush (.operator text) ++ others := by
  have other : char ≠ '-' := by
    rintro rfl
    cases noOperator
  have tokens : ∀ {text : List Char}, text.any isSpecial = true →
      operatorTokens text = [.operator text] := by
    intro text special
    cases text with
    | nil => cases special
    | cons => exact if_pos special
  have step : lexStep (.operator text) '-' = ([], .operator (text ++ ['-'])) := by
    rw [lexStep, if_neg fun both => noDash both.2, if_neg (by rintro ⟨⟨⟩, -⟩),
      if_pos (by decide)]
  rw [run_step step, run_behind (lexStep_apart rfl noOperator (by
      simp [LexState.touches, other])), flush, flush, tokens special,
    tokens (by rw [List.any_append, special]; rfl)]
  intro same
  have grown : text ++ ['-'] = text := Token.operator.inj (List.cons.inj same).1
  simp at grown

end Runs

end SqlSafetyProxy.Postgres
