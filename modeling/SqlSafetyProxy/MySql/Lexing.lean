import SqlSafetyProxy.Collections.Transducer
import SqlSafetyProxy.MySql.Reconstruction

/-!
# The tokens of a statement

The server's lexical rules as a transducer from characters to tokens.  The scan
that replaces the placeholders follows the same rules except for two of them:
what may stand behind the dashes of a line comment, and what ends one.
-/

namespace SqlSafetyProxy.MySql

open SqlSafetyProxy.Wire SqlSafetyProxy.Runtime SqlSafetyProxy.Collections

/-! ## The lexical rules -/

inductive QuoteMark where
  | single | double | back
  deriving DecidableEq, Repr

def QuoteMark.char : QuoteMark → Char
  | .single => '\''
  | .double => '"'
  | .back => Char.ofNat 0x60

def quoteMark (char : Char) : Option QuoteMark :=
  [QuoteMark.single, .double, .back].find? fun mark => mark.char = char

inductive Token where
  /-- An identifier, a number or a keyword. -/
  | word (text : List Char)
  | quoted (mark : QuoteMark) (text : List Char)
  | marker
  | symbol (char : Char)
  deriving DecidableEq, Repr

/-- What has been read of the current token. -/
inductive LexState where
  | plain
  | word (text : List Char)
  | dash | dashes | slash
  | quoted (mark : QuoteMark) (text : List Char)
  /-- The mark was read that closes the quotation, unless it is doubled. -/
  | closing (mark : QuoteMark) (text : List Char)
  | lineComment | blockComment
  /-- A `*` was read that closes the comment before a `/`. -/
  | star
  deriving DecidableEq, Repr

/-- Where lexers differ. -/
structure LexRules where
  /-- Which characters beyond ASCII are letters. -/
  isLetter : Char → Bool
  /-- What makes a comment of two dashes before it. -/
  opensComment : Char → Bool
  /-- What ends a line comment. -/
  endsComment : Char → Bool

/-- A space or control character opens a line comment, and a line feed ends it. -/
def serverRules (isLetter : Char → Bool) : LexRules where
  isLetter := isLetter
  opensComment char := char.toNat ≤ 0x20 || char.toNat = 0x7F
  endsComment char := char = '\n'

/-- Unicode white space opens a line comment, and a carriage return ends it as well. -/
def scanRules (isLetter : Char → Bool) : LexRules where
  isLetter := isLetter
  opensComment := isSpace
  endsComment char := char = '\n' ∨ char = '\r'

section Rules

variable (rules : LexRules)

def LexRules.isWord (char : Char) : Bool :=
  char.isAlphanum || char == '_' || char == '$' || (0x80 ≤ char.toNat && rules.isLetter char)

/-- White space between tokens. -/
def isBlank (char : Char) : Bool := char = ' ' || (0x09 ≤ char.toNat && char.toNat ≤ 0x0D)

/-- A character that does not belong to the token before it. -/
def lexPlain (char : Char) : List Token × LexState :=
  if char = '?' then ([.marker], .plain)
  else if rules.isWord char then ([], .word [char])
  else match quoteMark char with
  | some mark => ([], .quoted mark [])
  | none =>
      if char = '#' then ([], .lineComment)
      else if char = '-' then ([], .dash)
      else if char = '/' then ([], .slash)
      else if isBlank char then ([], .plain)
      else ([.symbol char], .plain)

/-- The token that is complete when something else follows. -/
def flush : LexState → List Token
  | .plain => []
  | .word text => [.word text]
  | .dash => [.symbol '-']
  | .dashes => [.symbol '-', .symbol '-']
  | .slash => [.symbol '/']
  | .closing mark text => [.quoted mark text]
  | .quoted mark text => [.quoted mark text]
  | .lineComment | .blockComment | .star => []

/-- Complete the token, and read a character behind it. -/
def lexBehind (state : LexState) (char : Char) : List Token × LexState :=
  (flush state ++ (lexPlain rules char).1, (lexPlain rules char).2)

def lexStep (state : LexState) (char : Char) : List Token × LexState :=
  match state with
  | .plain => lexPlain rules char
  | .word text =>
      if rules.isWord char then ([], .word (text ++ [char])) else lexBehind rules state char
  | .dash => if char = '-' then ([], .dashes) else lexBehind rules state char
  | .dashes =>
      if rules.opensComment char then
        ([], if rules.endsComment char then .plain else .lineComment)
      else if char = '-' then ([.symbol '-'], .dashes)
      else lexBehind rules state char
  | .slash => if char = '*' then ([], .blockComment) else lexBehind rules state char
  | .quoted mark text =>
      if quoteMark char = some mark then ([], .closing mark text)
      else ([], .quoted mark (text ++ [char]))
  | .closing mark text =>
      if quoteMark char = some mark then ([], .quoted mark (text ++ [char]))
      else lexBehind rules state char
  | .lineComment => ([], if rules.endsComment char then .plain else .lineComment)
  | .blockComment => ([], if char = '*' then .star else .blockComment)
  | .star => ([], if char = '/' then .plain else if char = '*' then .star else .blockComment)

/-- At the end of the text two dashes open a comment. -/
def lexEnd : LexState → List Token
  | .dashes => []
  | state => flush state

def lexer : Transducer LexState Char Token where
  step := lexStep rules
  finish := lexEnd

def lex (text : List Char) : List Token := (lexer rules).run .plain text

/-! ## Where the markers are -/

/-- Outside quotations and comments. -/
def LexState.isOpen : LexState → Bool
  | .plain | .word _ | .dash | .dashes | .slash | .closing _ _ => true
  | .quoted _ _ | .lineComment | .blockComment | .star => false

/-- Whether each character is a parameter marker. -/
def markers : LexState → List Char → List Bool
  | _, [] => []
  | state, char :: rest =>
      (char == '?' && state.isOpen) :: markers (lexStep rules state char).2 rest

end Rules

/-! ## Characters -/

section Characters

variable {rules : LexRules} {char : Char}

theorem isWord_alphanumeric (alphanumeric : char.isAlphanum = true) :
    rules.isWord char = true := by
  simp [LexRules.isWord, alphanumeric]

/-- No character with a meaning of its own in the rules is part of a word. -/
theorem isWord_symbol (symbol : char.isAlphanum = false) (ascii : char.toNat < 0x80)
    (noUnderscore : char ≠ '_') (noDollar : char ≠ '$') : rules.isWord char = false := by
  have low : ¬ 0x80 ≤ char.toNat := by omega
  simp [LexRules.isWord, symbol, noUnderscore, noDollar, low]

theorem quoteMark_iff {mark : QuoteMark} : quoteMark char = some mark ↔ char = mark.char := by
  constructor
  · intro found
    have same := List.find?_some found
    exact (of_decide_eq_true same).symm
  · rintro rfl
    cases mark <;> decide

theorem quoteMark_of_isQuote (quote : isQuote char = true) :
    ∃ mark, quoteMark char = some mark := by
  simp only [isQuote, Bool.or_eq_true, decide_eq_true_eq] at quote
  rcases quote with (rfl | rfl) | back
  · exact ⟨.single, rfl⟩
  · exact ⟨.double, rfl⟩
  · refine ⟨.back, quoteMark_iff.mpr ?_⟩
    rw [QuoteMark.char, ← back, Char.ofNat_toNat]

theorem quoteMark_none (plain : isQuote char = false) : quoteMark char = none := by
  cases found : quoteMark char with
  | none => rfl
  | some mark =>
      rw [quoteMark_iff.mp found] at plain
      cases mark <;> exact absurd plain (by decide)

theorem quoteMark_alphanumeric (alphanumeric : char.isAlphanum = true) :
    quoteMark char = none :=
  quoteMark_none (alphanumeric_noQuote alphanumeric)

end Characters

/-! ## The rules of the scan -/

/-- Where the rules stand when the scan is in a state, with the text that follows. -/
inductive Alongside : ScanState → Bool → LexState → List Char → Prop
  | plain (rest : List Char) : Alongside .sql false .plain rest
  | word (text rest : List Char) : Alongside .sql false (.word text) rest
  | dash {rest : List Char} : opensLineComment rest = false → Alongside .sql false .dash rest
  | dashes {char : Char} {rest : List Char} : isSpace char = false →
      opensLineComment (char :: rest) = false → Alongside .sql false .dashes (char :: rest)
  | slash {rest : List Char} : rest.head? ≠ some '*' → Alongside .sql false .slash rest
  | closed {mark : QuoteMark} {rest : List Char} (text : List Char) :
      rest.head? ≠ some mark.char → Alongside .sql false (.closing mark text) rest
  | quoted (mark : QuoteMark) (text rest : List Char) :
      Alongside (.quoted mark.char) false (.quoted mark text) rest
  | doubled (mark : QuoteMark) (text rest : List Char) :
      Alongside (.quoted mark.char) true (.closing mark text) (mark.char :: rest)
  | opening {state : LexState} {rest : List Char} : state = .dash ∨ state = .dashes →
      (∀ char ∈ rest.head?, isSpace char = true) → Alongside .lineComment true state ('-' :: rest)
  | opened {rest : List Char} : (∀ char ∈ rest.head?, isSpace char = true) →
      Alongside .lineComment false .dashes rest
  | lineComment (rest : List Char) : Alongside .lineComment false .lineComment rest
  | block (rest : List Char) : Alongside .blockComment true .slash ('*' :: rest)
  | blockComment (rest : List Char) : Alongside .blockComment false .blockComment rest
  | star {rest : List Char} : rest.head? ≠ some '/' → Alongside .blockComment false .star rest
  | ending (rest : List Char) : Alongside .sql true .star ('/' :: rest)

section Scan

variable {isLetter : Char → Bool} {state next : ScanState} {withFollowing : Bool}
  {lexed : LexState} {char : Char} {rest : List Char}

theorem isWord_ordinary (isWord : (scanRules isLetter).isWord char = true) :
    char ≠ '?' ∧ isQuote char = false ∧ char ≠ '#' ∧ char ≠ '-' ∧ char ≠ '/' := by
  have ne : ∀ {other : Char}, other.isAlphanum = false → other.toNat < 0x80 → other ≠ '_' →
      other ≠ '$' → char ≠ other := by
    rintro other symbol ascii noUnderscore noDollar rfl
    rw [isWord_symbol symbol ascii noUnderscore noDollar] at isWord
    cases isWord
  refine ⟨ne rfl (by decide) (by decide) (by decide), ?_, ne rfl (by decide) (by decide)
    (by decide), ne rfl (by decide) (by decide) (by decide), ne rfl (by decide) (by decide)
    (by decide)⟩
  cases quote : isQuote char with
  | false => rfl
  | true =>
      obtain ⟨mark, found⟩ := quoteMark_of_isQuote quote
      refine absurd (quoteMark_iff.mp found) ?_
      cases mark <;> exact ne rfl (by decide) (by decide) (by decide)

theorem scanStep_dash (stepped : scanStep .sql '-' rest = .ok (.text next withFollowing)) :
    (opensLineComment rest = true ∧ next = .lineComment ∧ withFollowing = true) ∨
      (opensLineComment rest = false ∧ next = .sql ∧ withFollowing = false) := by
  cases opens : opensLineComment rest with
  | true =>
      simp [scanStep, isQuote, opens] at stepped
      exact .inl ⟨rfl, stepped.1.symm, stepped.2⟩
  | false =>
      simp [scanStep, isQuote, opens] at stepped
      exact .inr ⟨rfl, stepped.1.symm, stepped.2⟩

theorem scanStep_slash (stepped : scanStep .sql '/' rest = .ok (.text next withFollowing)) :
    (rest.head? = some '*' ∧ next = .blockComment ∧ withFollowing = true) ∨
      (rest.head? ≠ some '*' ∧ next = .sql ∧ withFollowing = false) := by
  have noExecution : opensExecutableComment rest = false := by
    cases executable : opensExecutableComment rest with
    | false => rfl
    | true => simp [scanStep, isQuote, executable] at stepped
  by_cases star : rest.head? = some '*'
  · simp [scanStep, isQuote, noExecution, star] at stepped
    exact .inl ⟨star, stepped.1.symm, stepped.2⟩
  · simp [scanStep, isQuote, noExecution, star] at stepped
    exact .inr ⟨star, stepped.1.symm, stepped.2⟩

theorem scanStep_plain (noMarker : char ≠ '?') (noQuote : isQuote char = false)
    (noHash : char ≠ '#') (noDash : char ≠ '-') (noSlash : char ≠ '/') :
    scanStep .sql char rest = .ok (.text .sql false) := by
  simp [scanStep, noMarker, noQuote, noHash, noDash, noSlash]

/-- Reading text from between tokens. -/
theorem Alongside.ofPlain
    (stepped : scanStep .sql char rest = .ok (.text next withFollowing)) :
    Alongside next withFollowing (lexPlain (scanRules isLetter) char).2 rest := by
  have noMarker : char ≠ '?' := by
    rintro rfl
    cases stepped
  cases isWord : (scanRules isLetter).isWord char with
  | true =>
      obtain ⟨-, noQuote, noHash, noDash, noSlash⟩ := isWord_ordinary isWord
      rw [scanStep_plain noMarker noQuote noHash noDash noSlash] at stepped
      cases stepped
      simp only [lexPlain, noMarker, isWord, if_true, if_false]
      exact .word _ _
  | false =>
      simp only [lexPlain, noMarker, isWord, if_false, Bool.false_eq_true]
      cases quote : isQuote char with
      | true =>
          obtain ⟨mark, found⟩ := quoteMark_of_isQuote quote
          simp only [scanStep, noMarker, quote, if_true, if_false] at stepped
          cases stepped
          rw [found, quoteMark_iff.mp found]
          exact .quoted mark _ _
      | false =>
          rw [quoteMark_none quote]
          by_cases hash : char = '#'
          · subst hash
            cases stepped
            exact .lineComment _
          by_cases dash : char = '-'
          · subst dash
            rcases scanStep_dash stepped with ⟨opens, rfl, rfl⟩ | ⟨closed, rfl, rfl⟩
            · obtain ⟨rest, rfl, blank⟩ := opensLineComment_iff.mp opens
              exact .opening (.inl rfl) blank
            · exact .dash closed
          by_cases slash : char = '/'
          · subst slash
            rcases scanStep_slash stepped with ⟨star, rfl, rfl⟩ | ⟨noStar, rfl, rfl⟩
            · obtain ⟨rest, rfl⟩ := List.head?_eq_some_iff.mp star
              exact .block _
            · exact .slash noStar
          rw [scanStep_plain noMarker quote hash dash slash] at stepped
          cases stepped
          simp only [hash, dash, slash, if_false]
          split <;> exact .plain _

/-- The second character of a token of two. -/
theorem Alongside.following (alongside : Alongside state true lexed (char :: rest)) :
    char ≠ '?' ∧ Alongside state false (lexStep (scanRules isLetter) lexed char).2 rest := by
  cases alongside with
  | doubled mark text rest =>
      refine ⟨by cases mark <;> decide, ?_⟩
      simp only [lexStep, quoteMark_iff.mpr rfl, if_true]
      exact .quoted mark _ _
  | opening isDash blank =>
      refine ⟨by decide, ?_⟩
      rcases isDash with rfl | rfl <;> exact .opened blank
  | block => exact ⟨by decide, .blockComment _⟩
  | ending => exact ⟨by decide, .plain _⟩

/-- Two dashes that open no comment have something solid behind them. -/
theorem solid_of_closed (closed : opensLineComment ('-' :: rest) = false) :
    ∃ second others, rest = second :: others ∧ isSpace second = false := by
  cases rest with
  | nil => cases closed
  | cons second others => exact ⟨second, others, rfl, closed⟩

theorem Alongside.ofDashes (closed : opensLineComment ('-' :: rest) = false)
    (stepped : scanStep .sql '-' rest = .ok (.text next withFollowing)) :
    Alongside next withFollowing .dashes rest := by
  rcases scanStep_dash stepped with ⟨opens, rfl, rfl⟩ | ⟨others, rfl, rfl⟩
  · obtain ⟨rest, rfl, blank⟩ := opensLineComment_iff.mp opens
    exact .opening (.inr rfl) blank
  · obtain ⟨second, later, rfl, solid⟩ := solid_of_closed closed
    exact .dashes solid others

theorem Alongside.ofLineComment
    (stepped : scanStep .lineComment char rest = .ok (.text next withFollowing)) :
    Alongside next withFollowing
      (if (scanRules isLetter).endsComment char then .plain else .lineComment) rest := by
  cases stepped
  simp only [scanRules, decide_eq_true_eq]
  split
  · exact .plain _
  · exact .lineComment _

theorem Alongside.ofBlockComment
    (stepped : scanStep .blockComment char rest = .ok (.text next withFollowing)) :
    Alongside next withFollowing (if char = '*' then .star else .blockComment) rest := by
  simp only [scanStep] at stepped
  split at stepped
  · next ends =>
      obtain ⟨rfl, slash⟩ := ends
      cases stepped
      obtain ⟨rest, rfl⟩ := List.head?_eq_some_iff.mp slash
      exact .ending _
  · next goesOn =>
      cases stepped
      split
      · next star => exact .star fun slash => goesOn ⟨star, slash⟩
      · exact .blockComment _

theorem Alongside.ofQuoted {mark : QuoteMark} {text : List Char}
    (stepped : scanStep (.quoted mark.char) char rest = .ok (.text next withFollowing)) :
    Alongside next withFollowing
      (lexStep (scanRules isLetter) (.quoted mark text) char).2 rest := by
  simp only [lexStep, quoteMark_iff]
  simp only [scanStep] at stepped
  split at stepped
  · cases stepped
  by_cases same : char = mark.char
  · simp only [same, ne_eq, not_true_eq_false, if_false, if_true] at stepped ⊢
    split at stepped
    · next double =>
        cases stepped
        obtain ⟨rest, rfl⟩ := List.head?_eq_some_iff.mp double
        exact .doubled mark _ _
    · next single =>
        cases stepped
        exact .closed _ single
  · simp only [same, ne_eq, not_false_eq_true, if_false, if_true] at stepped ⊢
    cases stepped
    exact .quoted mark _ _

/-- The rules take the step of the scan. -/
theorem Alongside.step (alongside : Alongside state false lexed (char :: rest))
    (stepped : scanStep state char rest = .ok (.text next withFollowing)) :
    Alongside next withFollowing (lexStep (scanRules isLetter) lexed char).2 rest := by
  have behind : state = .sql →
      Alongside next withFollowing (lexBehind (scanRules isLetter) lexed char).2 rest := by
    rintro rfl
    exact .ofPlain stepped
  cases alongside with
  | plain => exact behind rfl
  | word text =>
      simp only [lexStep]
      split
      · next isWord =>
          obtain ⟨noMarker, noQuote, noHash, noDash, noSlash⟩ := isWord_ordinary isWord
          rw [scanStep_plain noMarker noQuote noHash noDash noSlash] at stepped
          cases stepped
          exact .word _ _
      · exact behind rfl
  | dash closed =>
      simp only [lexStep]
      split
      · next isDash =>
          subst isDash
          exact .ofDashes closed stepped
      · exact behind rfl
  | dashes solid closed =>
      have opens : (scanRules isLetter).opensComment char = false := solid
      simp only [lexStep, opens, Bool.false_eq_true, if_false]
      split
      · next isDash =>
          subst isDash
          exact .ofDashes closed stepped
      · exact behind rfl
  | slash noStar =>
      simp only [lexStep]
      split
      · next star => exact absurd (congrArg some star) noStar
      · exact behind rfl
  | closed text noMark =>
      simp only [lexStep]
      split
      · next found => exact absurd (congrArg some (quoteMark_iff.mp found)) noMark
      · exact behind rfl
  | quoted mark text => exact .ofQuoted stepped
  | opened blank =>
      have opens : (scanRules isLetter).opensComment char = true := blank char rfl
      simp only [lexStep, opens, if_true]
      exact .ofLineComment stepped
  | lineComment => exact .ofLineComment stepped
  | blockComment => exact .ofBlockComment stepped
  | star noSlash =>
      have goesOn : char ≠ '/' := fun slash => noSlash (congrArg some slash)
      simp only [lexStep, goesOn, if_false]
      exact .ofBlockComment stepped

/-- The scan takes a question mark for a placeholder where the rules have a marker. -/
theorem Alongside.isOpen (alongside : Alongside state false lexed ('?' :: rest)) :
    lexed.isOpen = true ↔ state = .sql := by
  cases alongside with
  | opened blank => exact absurd (blank '?' rfl) (by decide)
  | _ => simp [LexState.isOpen]

theorem Alongside.marker (alongside : Alongside .sql false lexed ('?' :: rest)) :
    Alongside .sql false (lexStep (scanRules isLetter) lexed '?').2 rest := by
  have noWord : (scanRules isLetter).isWord '?' = false :=
    isWord_symbol rfl (by decide) (by decide) (by decide)
  cases alongside with
  | word => simpa [lexStep, noWord] using .plain rest
  | closed text =>
      have noMark : quoteMark '?' = none := rfl
      simpa [lexStep, noMark] using .plain rest
  | _ => exact .plain rest

end Scan

end SqlSafetyProxy.MySql
