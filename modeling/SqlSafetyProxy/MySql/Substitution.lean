import SqlSafetyProxy.MySql.Lexing

/-!
# Reconstruction and tokens

A reconstructed statement has the tokens of its template with those of the
literals in the places of the markers, if the scan finds the same markers as the
server and no literal runs into what stands beside it, and only then.
-/

namespace SqlSafetyProxy.MySql

open SqlSafetyProxy.Wire SqlSafetyProxy.Runtime SqlSafetyProxy.Collections

/-! ## Parts of a reconstruction -/

/-- A character of the template, or the literal in the place of a placeholder. -/
inductive Piece where
  | kept (char : Char)
  | literal (text : List Char)
  deriving DecidableEq, Repr

namespace Piece

def isLiteral : Piece → Bool
  | kept _ => false
  | literal _ => true

/-- What stands in the template. -/
def source : Piece → Char
  | kept char => char
  | literal _ => '?'

def text : Piece → List Char
  | kept char => [char]
  | literal text => text

def literal? : Piece → Option (List Char)
  | kept _ => none
  | literal text => some text

end Piece

/-- A template cut at its markers, with the literals in their places. -/
def pieces : List Bool → List Char → List (List Char) → List Piece
  | true :: marks, _ :: rest, literal :: literals => .literal literal :: pieces marks rest literals
  | false :: marks, char :: rest, literals => .kept char :: pieces marks rest literals
  | _, _, _ => []

/-- Two texts that are read as one token: words meet, or quotations. -/
def Touching (isLetter : Char → Bool) (left right : List Char) : Prop :=
  ∃ before ∈ left.getLast?, ∃ behind ∈ right.head?,
    ((serverRules isLetter).isWord before = true ∧ (serverRules isLetter).isWord behind = true) ∨
      (before = '\'' ∧ behind = '\'')

/-- A literal does not touch its neighbour. -/
def Apart (isLetter : Char → Bool) : Piece → Piece → Prop
  | .kept _, .kept _ => True
  | left, right => ¬ Touching isLetter left.text right.text

instance (isLetter : Char → Bool) (left right : List Char) :
    Decidable (Touching isLetter left right) :=
  decidable_of_iff
    ((left.getLast?.any fun before => right.head?.any fun behind =>
      ((serverRules isLetter).isWord before && (serverRules isLetter).isWord behind)
        || (before == '\'' && behind == '\'')) = true)
    (by simp [Touching, Option.any_eq_true])

instance (isLetter : Char → Bool) : DecidableRel (Apart isLetter)
  | .kept _, .kept _ => .isTrue trivial
  | .kept before, .literal text => inferInstanceAs (Decidable (¬ Touching isLetter [before] text))
  | .literal text, behind => inferInstanceAs (Decidable (¬ Touching isLetter text behind.text))

/--
The rules of the scan have the same markers as those of the server, and no
literal touches what stands beside it.
-/
def Separates (isLetter : Char → Bool) (template : List Char) (literals : List (List Char)) :
    Prop :=
  markers (scanRules isLetter) .plain template = markers (serverRules isLetter) .plain template ∧
    (pieces (markers (serverRules isLetter) .plain template) template literals).IsChain
      (Apart isLetter)

instance (isLetter : Char → Bool) (template : List Char) (literals : List (List Char)) :
    Decidable (Separates isLetter template literals) :=
  inferInstanceAs (Decidable (_ ∧ _))

/-- A text has the tokens of a template with those of the literals in place of the markers. -/
def LexesAsFilled (isLetter : Char → Bool) (template : List Char) (literals : List (List Char))
    (out : List Char) : Prop :=
  fill .marker (lex (serverRules isLetter) template)
      (literals.map (lex (serverRules isLetter))) =
    some (lex (serverRules isLetter) out)

instance (isLetter : Char → Bool) (template : List Char) (literals : List (List Char))
    (out : List Char) : Decidable (LexesAsFilled isLetter template literals out) :=
  inferInstanceAs (Decidable (_ = _))

theorem pieces_eq (parts : List Piece) :
    pieces (parts.map Piece.isLiteral) (parts.map Piece.source) (parts.filterMap Piece.literal?) =
      parts := by
  induction parts with
  | nil => rfl
  | cons part parts ih =>
      cases part with
      | kept char => exact congrArg (Piece.kept char :: ·) ih
      | literal text => exact congrArg (Piece.literal text :: ·) ih

/-- What a reconstruction is made of. -/
structure Composed (parts : List Piece) (marks : List Bool) (template : List Char)
    (literals : List (List Char)) (out : List Char) : Prop where
  marks : parts.map Piece.isLiteral = marks
  template : parts.map Piece.source = template
  literals : parts.filterMap Piece.literal? = literals
  out : parts.flatMap Piece.text = out

section Composed

variable {parts : List Piece} {marks : List Bool} {mark : Bool} {template out : List Char}
  {literals : List (List Char)}

theorem Composed.kept {char : Char} (composed : Composed parts marks template literals out)
    (plain : mark = false) :
    Composed (.kept char :: parts) (mark :: marks) (char :: template) literals (char :: out) where
  marks := by rw [plain, ← composed.marks]; rfl
  template := congrArg (char :: ·) composed.template
  literals := composed.literals
  out := congrArg (char :: ·) composed.out

theorem Composed.literal {text : List Char} (composed : Composed parts marks template literals out)
    (isMarker : mark = true) :
    Composed (.literal text :: parts) (mark :: marks) ('?' :: template) (text :: literals)
      (text ++ out) where
  marks := by rw [isMarker, ← composed.marks]; rfl
  template := congrArg ('?' :: ·) composed.template
  literals := congrArg (text :: ·) composed.literals
  out := congrArg (text ++ ·) composed.out

end Composed

section Scan

variable {isLetter : Char → Bool} {state : ScanState} {skip : Bool} {lexed : LexState}
  {literals : List String} {template out : List Char}

/-- A scan finds the markers of its rules. -/
theorem Scans.composed (scans : Scans state skip literals template out)
    (alongside : Alongside state skip lexed template) :
    ∃ parts, Composed parts (markers (scanRules isLetter) lexed template) template
      (literals.map String.toList) out := by
  induction scans generalizing lexed with
  | done => exact ⟨[], rfl, rfl, rfl, rfl⟩
  | @following state literals char rest out scans ih =>
      obtain ⟨noMarker, behind⟩ := alongside.following
      obtain ⟨parts, composed⟩ := ih behind
      refine ⟨.kept char :: parts, composed.kept ?_⟩
      simp [noMarker]
  | placeholder scans ih =>
      have isOpen := alongside.isOpen.mpr rfl
      obtain ⟨parts, composed⟩ := ih alongside.marker
      refine ⟨.literal _ :: parts, composed.literal ?_⟩
      simp [isOpen]
  | @text state next withFollowing literals char rest out stepped scans ih =>
      obtain ⟨parts, composed⟩ := ih (alongside.step stepped)
      refine ⟨.kept char :: parts, composed.kept ?_⟩
      by_cases isMarker : char = '?'
      · subst isMarker
        have noSql : state ≠ .sql := by
          rintro rfl
          cases stepped
        simpa using mt alongside.isOpen.mp noSql
      · simp [isMarker]

end Scan

/-! ## Tokens and markers -/

section Tokens

variable {isLetter : Char → Bool} {state : LexState} {char : Char} {text : List Char}

theorem isWord_marker {rules : LexRules} : rules.isWord '?' = false :=
  isWord_symbol rfl (by decide) (by decide) (by decide)

theorem count_flush (state : LexState) : (flush state).count .marker = 0 := by
  cases state <;> rfl

theorem count_lexPlain :
    (lexPlain (serverRules isLetter) char).1.count .marker = if char = '?' then 1 else 0 := by
  unfold lexPlain
  split
  · rfl
  · repeat' split
    all_goals simp

theorem count_lexBehind :
    (lexBehind (serverRules isLetter) state char).1.count .marker =
      if char = '?' then 1 else 0 := by
  rw [lexBehind, List.count_append, count_flush, count_lexPlain, Nat.zero_add]

theorem ne_marker_of_isWord {rules : LexRules} (isWord : rules.isWord char = true) :
    char ≠ '?' := by
  rintro rfl
  rw [isWord_marker] at isWord
  cases isWord

/-- A step emits a marker for a question mark outside quotations and comments. -/
theorem count_lexStep :
    (lexStep (serverRules isLetter) state char).1.count .marker =
      if char = '?' ∧ state.isOpen = true then 1 else 0 := by
  have closes : ∀ mark : QuoteMark, quoteMark char = some mark → char ≠ '?' := by
    rintro mark found rfl
    cases found
  cases state with
  | plain => simpa [LexState.isOpen, lexStep] using count_lexPlain
  | word text =>
      simp only [lexStep, LexState.isOpen, and_true]
      split
      · next isWord => simp [ne_marker_of_isWord isWord]
      · exact count_lexBehind
  | dash =>
      simp only [lexStep, LexState.isOpen, and_true]
      split
      · next isDash => simp [isDash]
      · exact count_lexBehind
  | dashes =>
      simp only [lexStep, LexState.isOpen, and_true]
      split
      · next blank =>
          have noMarker : char ≠ '?' := by
            rintro rfl
            have solid : (serverRules isLetter).opensComment '?' = false := rfl
            rw [solid] at blank
            cases blank
          simp [noMarker]
      · split
        · next isDash => simp [isDash]
        · exact count_lexBehind
  | slash =>
      simp only [lexStep, LexState.isOpen, and_true]
      split
      · next isStar => simp [isStar]
      · exact count_lexBehind
  | quoted mark text =>
      simp only [lexStep, LexState.isOpen, Bool.false_eq_true, and_false, if_false]
      split <;> rfl
  | closing mark text =>
      simp only [lexStep, LexState.isOpen, and_true]
      split
      · next found => simp [closes mark found]
      · exact count_lexBehind
  | lineComment => simp [lexStep, LexState.isOpen]
  | blockComment => simp [lexStep, LexState.isOpen]
  | star => simp [lexStep, LexState.isOpen]

theorem count_run :
    ((lexer (serverRules isLetter)).run state text).count .marker =
      (markers (serverRules isLetter) state text).count true := by
  induction text generalizing state with
  | nil => cases state <;> rfl
  | cons char rest ih =>
      rw [Transducer.run, List.count_append, ih, markers, List.count_cons]
      change (lexStep (serverRules isLetter) state char).1.count .marker + _ = _
      simp only [count_lexStep, Bool.and_eq_true, beq_iff_eq]
      exact Nat.add_comm _ _

/-- A marker completes the token before it. -/
theorem lexStep_marker (isOpen : state.isOpen = true) :
    lexStep (serverRules isLetter) state '?' = (flush state ++ [.marker], .plain) := by
  have noMark : quoteMark '?' = none := rfl
  cases state with
  | word => simp [lexStep, lexBehind, lexPlain, isWord_marker]
  | closing => simp [lexStep, lexBehind, lexPlain, noMark]
  | quoted => cases isOpen
  | lineComment => cases isOpen
  | blockComment => cases isOpen
  | star => cases isOpen
  | _ => rfl

end Tokens

/-! ## Literals within a text -/

section Literals

variable {isLetter : Char → Bool} {state : LexState} {char mark : Char} {text rest : List Char}

theorem alphanumeric_noComment (alphanumeric : char.isAlphanum = true) :
    (serverRules isLetter).opensComment char = false := by
  have code := alphanumeric_code alphanumeric
  simp only [serverRules, Bool.or_eq_false_iff, decide_eq_false_iff_not]
  omega

theorem lexPlain_alphanumeric (alphanumeric : char.isAlphanum = true) :
    lexPlain (serverRules isLetter) char = ([], .word [char]) := by
  have isWord : (serverRules isLetter).isWord char = true := isWord_alphanumeric alphanumeric
  simp [lexPlain, isWord, ne_marker_of_isWord isWord]

def LexState.inWord : LexState → Bool
  | .word _ => true
  | _ => false

/-- A letter or digit that does not go on a word completes the token before it. -/
theorem lexStep_detached (isOpen : state.isOpen = true) (noWord : state.inWord = false)
    (alphanumeric : char.isAlphanum = true) :
    lexStep (serverRules isLetter) state char = (flush state, .word [char]) := by
  have ne := fun {other} => @alphanumeric_ne char other alphanumeric
  have noDash : char ≠ '-' := ne (by decide)
  have noStar : char ≠ '*' := ne (by decide)
  have behind : lexBehind (serverRules isLetter) state char = (flush state, .word [char]) := by
    simp [lexBehind, lexPlain_alphanumeric alphanumeric]
  cases state with
  | plain => exact lexPlain_alphanumeric alphanumeric
  | word => cases noWord
  | dash => simpa [lexStep, noDash] using behind
  | dashes => simpa [lexStep, noDash, alphanumeric_noComment alphanumeric] using behind
  | slash => simpa [lexStep, noStar] using behind
  | closing => simpa [lexStep, quoteMark_alphanumeric alphanumeric] using behind
  | quoted => cases isOpen
  | lineComment => cases isOpen
  | blockComment => cases isOpen
  | star => cases isOpen

theorem lexStep_alphanumeric (isOpen : state.isOpen = true)
    (alphanumeric : char.isAlphanum = true) :
    ∃ word, (lexStep (serverRules isLetter) state char).2 = .word word := by
  cases inWord : state.inWord with
  | false => exact ⟨_, congrArg Prod.snd (lexStep_detached isOpen inWord alphanumeric)⟩
  | true =>
      cases state with
      | word word =>
          have isWord : (serverRules isLetter).isWord char = true :=
            isWord_alphanumeric alphanumeric
          exact ⟨word ++ [char], by simp [lexStep, isWord]⟩
      | _ => cases inWord

theorem lexStep_sign (isOpen : state.isOpen = true) (isMark : mark ∈ ['.', '+', '-']) :
    (lexStep (serverRules isLetter) state mark).2.isOpen = true := by
  simp only [List.mem_cons, List.not_mem_nil, or_false] at isMark
  rcases isMark with rfl | rfl | rfl
  all_goals
    cases state with
    | quoted => cases isOpen
    | lineComment => cases isOpen
    | blockComment => cases isOpen
    | star => cases isOpen
    | _ => rfl

/-- A numeral ends in a word. -/
theorem Numeral.after (numeral : Numeral text) (isOpen : state.isOpen = true) :
    ∃ word, (lexer (serverRules isLetter)).after state text = .word word := by
  induction numeral generalizing state with
  | last alphanumeric => exact lexStep_alphanumeric isOpen alphanumeric
  | cons alphanumeric _ ih =>
      obtain ⟨word, read⟩ := @lexStep_alphanumeric isLetter _ _ isOpen alphanumeric
      exact ih (by rw [lexer, read]; rfl)
  | sign isMark _ _ ih => exact ih (lexStep_sign isOpen isMark)

theorem Numeral.getLast? (numeral : Numeral text) :
    ∃ char, text.getLast? = some char ∧ char.isAlphanum = true := by
  induction numeral with
  | last alphanumeric => exact ⟨_, rfl, alphanumeric⟩
  | cons _ numeral ih =>
      obtain ⟨char, last, alphanumeric⟩ := ih
      exact ⟨char, by rw [List.getLast?_cons, last]; rfl, alphanumeric⟩
  | sign _ _ numeral ih =>
      obtain ⟨char, last, alphanumeric⟩ := ih
      exact ⟨char, by rw [List.getLast?_cons, last]; rfl, alphanumeric⟩

theorem after_quoted {kind : QuoteMark} {inner : List Char}
    (others : ∀ char ∈ text, quoteMark char ≠ some kind) :
    (lexer (serverRules isLetter)).after (.quoted kind inner) text =
      .quoted kind (inner ++ text) := by
  induction text generalizing inner with
  | nil => simp [Transducer.after]
  | cons char text ih =>
      have other := others char List.mem_cons_self
      have read : ((lexer (serverRules isLetter)).step (.quoted kind inner) char).2 =
          .quoted kind (inner ++ [char]) := by
        simp [lexer, lexStep, other]
      rw [Transducer.after, read, ih fun later inside => others later (List.mem_cons_of_mem _ inside)]
      simp

/-- A literal ends in a word or with a closing mark. -/
theorem Literal.after (isLiteral : Literal text) (isOpen : state.isOpen = true) :
    (∃ word char, (lexer (serverRules isLetter)).after state text = .word word ∧
        text.getLast? = some char ∧ char.isAlphanum = true) ∨
      (∃ inner, (lexer (serverRules isLetter)).after state text = .closing .single inner ∧
        text.getLast? = some '\'') := by
  cases isLiteral with
  | plain _ numeral =>
      obtain ⟨word, read⟩ := @Numeral.after isLetter _ _ numeral isOpen
      obtain ⟨char, last, alphanumeric⟩ := numeral.getLast?
      exact .inl ⟨word, char, read, last, alphanumeric⟩
  | negative _ numeral =>
      have signed : (lexStep (serverRules isLetter) state '-').2.isOpen = true :=
        lexStep_sign isOpen (by decide)
      obtain ⟨word, read⟩ := @Numeral.after isLetter _ _ numeral signed
      obtain ⟨char, last, alphanumeric⟩ := numeral.getLast?
      exact .inl ⟨word, char, read, by rw [List.getLast?_cons, last]; rfl, alphanumeric⟩
  | @hex digits alphanumeric =>
      refine .inr ⟨digits, ?_, by simp [List.getLast?_cons]⟩
      obtain ⟨word, read⟩ := @lexStep_alphanumeric isLetter _ 'X' isOpen rfl
      have inside : (lexer (serverRules isLetter)).after (.quoted .single []) digits =
          .quoted .single digits := by
        refine after_quoted fun digit among => ?_
        rw [quoteMark_alphanumeric (alphanumeric digit among)]
        simp
      have opened : ((lexer (serverRules isLetter)).step (.word word) '\'').2 =
          .quoted .single [] := rfl
      rw [Transducer.after, show ((lexer (serverRules isLetter)).step state 'X').2 = .word word from
        read, Transducer.after, opened, Transducer.after_append, inside]
      rfl

/-- Literals are letters and digits, with a few other characters among them. -/
theorem Numeral.chars (numeral : Numeral text) :
    ∀ char ∈ text, char.isAlphanum = true ∨ char ∈ ['.', '+', '-'] := by
  induction numeral with
  | last alphanumeric =>
      intro char inside
      exact .inl (List.mem_singleton.mp inside ▸ alphanumeric)
  | cons alphanumeric _ ih =>
      intro char inside
      rcases List.mem_cons.mp inside with rfl | inside
      · exact .inl alphanumeric
      · exact ih char inside
  | sign isMark _ _ ih =>
      intro char inside
      rcases List.mem_cons.mp inside with rfl | inside
      · exact .inr isMark
      · exact ih char inside

theorem Literal.chars (isLiteral : Literal text) :
    (∀ char ∈ text, char.isAlphanum = true ∨ char ∈ ['.', '+', '-']) ∨
      ∃ digits, (∀ digit ∈ digits, digit.isAlphanum = true) ∧
        text = 'X' :: '\'' :: (digits ++ ['\'']) := by
  cases isLiteral with
  | plain _ numeral => exact .inl numeral.chars
  | negative _ numeral =>
      refine .inl fun char inside => ?_
      rcases List.mem_cons.mp inside with rfl | inside
      · exact .inr (by decide)
      · exact numeral.chars char inside
  | hex alphanumeric => exact .inr ⟨_, alphanumeric, rfl⟩

/-- No character of a literal ends a comment. -/
theorem Literal.char_ne {other : Char} (isLiteral : Literal text) (inside : char ∈ text)
    (symbol : other.isAlphanum = false) (noMark : other ∉ ['.', '+', '-', '\'']) :
    char ≠ other := by
  rintro rfl
  have among : char ∈ ['.', '+', '-', '\''] → False := noMark
  rcases isLiteral.chars with chars | ⟨digits, alphanumeric, rfl⟩
  · rcases chars char inside with alphanumeric | isMark
    · rw [symbol] at alphanumeric
      cases alphanumeric
    · exact noMark (List.mem_append_left ['\''] isMark)
  · simp only [List.mem_cons, List.mem_append, List.not_mem_nil, or_false] at inside
    rcases inside with rfl | rfl | inside | rfl
    · cases symbol
    · exact noMark (by decide)
    · rw [alphanumeric char inside] at symbol
      cases symbol
    · exact noMark (by decide)

/-! ## The same modes in the template and in the reconstruction -/

/-- A state without the text read, and without the difference between open tokens. -/
def LexState.mode : LexState → LexState
  | .word _ | .closing _ _ => .plain
  | .quoted mark _ => .quoted mark []
  | state => state

theorem lexPlain_quote {rules : LexRules} {kind : QuoteMark} :
    lexPlain rules kind.char = ([], .quoted kind []) := by
  have noWord : rules.isWord kind.char = false := by
    cases kind <;> exact isWord_symbol rfl (by decide) (by decide) (by decide)
  have noMarker : kind.char ≠ '?' := by cases kind <;> decide
  have found : quoteMark kind.char = some kind := quoteMark_iff.mpr rfl
  simp [lexPlain, noWord, noMarker, found]

theorem mode_step {rules : LexRules} :
    (lexStep rules state char).2.mode = (lexStep rules state.mode char).2.mode := by
  cases state with
  | word word =>
      change _ = (lexPlain rules char).2.mode
      by_cases isWord : rules.isWord char = true
      · rw [lexStep, if_pos isWord, lexPlain, if_neg (ne_marker_of_isWord isWord), if_pos isWord]
        rfl
      · rw [lexStep, if_neg isWord, lexBehind]
  | quoted mark inner =>
      change _ = (lexStep rules (.quoted mark []) char).2.mode
      by_cases found : quoteMark char = some mark
      · rw [lexStep, lexStep, if_pos found, if_pos found]
        rfl
      · rw [lexStep, lexStep, if_neg found, if_neg found]
        rfl
  | closing mark inner =>
      change _ = (lexPlain rules char).2.mode
      by_cases found : quoteMark char = some mark
      · rw [lexStep, if_pos found, quoteMark_iff.mp found, lexPlain_quote]
        rfl
      · rw [lexStep, if_neg found, lexBehind]
  | _ => rfl

theorem isOpen_mode : state.mode.isOpen = state.isOpen := by
  cases state <;> rfl

/-- Letters and digits keep a text between tokens. -/
theorem mode_alphanumeric (between : state.mode = .plain)
    (alphanumeric : ∀ char ∈ text, char.isAlphanum = true) :
    ((lexer (serverRules isLetter)).after state text).mode = .plain := by
  induction text generalizing state with
  | nil => exact between
  | cons char text ih =>
      refine ih ?_ fun later inside => alphanumeric later (List.mem_cons_of_mem _ inside)
      change (lexStep (serverRules isLetter) state char).2.mode = .plain
      rw [mode_step, between, lexStep, lexPlain_alphanumeric (alphanumeric char List.mem_cons_self)]
      rfl

theorem after_lineComment (others : ∀ char ∈ text, char ≠ '\n') :
    (lexer (serverRules isLetter)).after .lineComment text = .lineComment := by
  induction text with
  | nil => rfl
  | cons char text ih =>
      have other := others char List.mem_cons_self
      have read : ((lexer (serverRules isLetter)).step .lineComment char).2 = .lineComment := by
        simp [lexer, lexStep, serverRules, other]
      rw [Transducer.after, read, ih fun later inside => others later (List.mem_cons_of_mem _ inside)]

theorem after_blockComment (others : ∀ char ∈ text, char ≠ '*') :
    (lexer (serverRules isLetter)).after .blockComment text = .blockComment := by
  induction text with
  | nil => rfl
  | cons char text ih =>
      have other := others char List.mem_cons_self
      have read : ((lexer (serverRules isLetter)).step .blockComment char).2 = .blockComment := by
        simp [lexer, lexStep, other]
      rw [Transducer.after, read, ih fun later inside => others later (List.mem_cons_of_mem _ inside)]

/-- A quoted literal within a quotation closes it and opens another. -/
theorem mode_requoted {inner digits : List Char}
    (alphanumeric : ∀ digit ∈ digits, digit.isAlphanum = true) :
    ((lexer (serverRules isLetter)).after (.quoted .single inner)
      ('X' :: '\'' :: (digits ++ ['\'']))).mode = .quoted .single [] := by
  have closed : (lexer (serverRules isLetter)).after (.quoted .single inner) ['X', '\''] =
      .closing .single (inner ++ ['X']) := rfl
  rw [show 'X' :: '\'' :: (digits ++ ['\'']) = ['X', '\''] ++ (digits ++ ['\'']) from rfl,
    Transducer.after_append, closed, Transducer.after_append]
  have between := @mode_alphanumeric isLetter (.closing .single (inner ++ ['X'])) digits rfl
    alphanumeric
  change (lexStep (serverRules isLetter) _ '\'').2.mode = _
  rw [mode_step, between]
  rfl

theorem quoteMark_unquoted (unquoted : char.isAlphanum = true ∨ char ∈ ['.', '+', '-']) :
    quoteMark char = none := by
  rcases unquoted with alphanumeric | isMark
  · exact quoteMark_alphanumeric alphanumeric
  · simp only [List.mem_cons, List.not_mem_nil, or_false] at isMark
    rcases isMark with rfl | rfl | rfl <;> rfl

/-- A literal leaves the same mode as the question mark in its place. -/
theorem Literal.mode (isLiteral : Literal text) :
    ((lexer (serverRules isLetter)).after state text).mode =
      (lexStep (serverRules isLetter) state '?').2.mode := by
  cases isOpen : state.isOpen with
  | true =>
      rw [lexStep_marker isOpen]
      rcases @Literal.after isLetter _ _ isLiteral isOpen with
        ⟨word, char, read, -⟩ | ⟨inner, read, -⟩
      · rw [read]
        rfl
      · rw [read]
        rfl
  | false =>
      cases state with
      | quoted mark inner =>
          by_cases single : mark = .single
          · subst single
            rcases isLiteral.chars with chars | ⟨digits, alphanumeric, rfl⟩
            · rw [after_quoted fun char inside => by simp [quoteMark_unquoted (chars char inside)]]
              rfl
            · exact mode_requoted alphanumeric
          · have others : ∀ char ∈ text, quoteMark char ≠ some mark := by
              intro char inside found
              refine isLiteral.char_ne inside ?_ ?_ (quoteMark_iff.mp found)
              · cases mark <;> rfl
              · cases mark with
                | single => exact absurd rfl single
                | double => decide
                | back => decide
            rw [after_quoted others]
            rfl
      | lineComment =>
          rw [after_lineComment fun char inside => isLiteral.char_ne inside rfl (by decide)]
          rfl
      | blockComment =>
          rw [after_blockComment fun char inside => isLiteral.char_ne inside rfl (by decide)]
          rfl
      | star =>
          obtain ⟨char, rest, rfl, -⟩ := isLiteral.opens
          have noSlash := isLiteral.char_ne List.mem_cons_self (show '/'.isAlphanum = false by rfl)
            (by decide)
          have noStar := isLiteral.char_ne List.mem_cons_self (show '*'.isAlphanum = false by rfl)
            (by decide)
          have read : ((lexer (serverRules isLetter)).step .star char).2 = .blockComment := by
            simp [lexer, lexStep, noSlash, noStar]
          rw [Transducer.after, read, after_blockComment fun later inside =>
            isLiteral.char_ne (List.mem_cons_of_mem _ inside) rfl (by decide)]
          rfl
      | _ => cases isOpen

end Literals

/-! ## Markers that are missed -/

section Markers

variable {isLetter : Char → Bool} {state reached : LexState} {parts : List Piece}

/-- Where the reconstruction has no marker, the template has none beyond the placeholders. -/
theorem markers_placed (same : state.mode = reached.mode)
    (all : ∀ text, .literal text ∈ parts → Literal text)
    (clean : .marker ∉ (lexer (serverRules isLetter)).run reached (parts.flatMap Piece.text)) :
    List.Forall₂ (fun isMarker isLiteral => isMarker = true → isLiteral = true)
      (markers (serverRules isLetter) state (parts.map Piece.source))
      (parts.map Piece.isLiteral) := by
  induction parts generalizing state reached with
  | nil => exact .nil
  | cons part parts ih =>
      have others := fun text inside => all text (List.mem_cons_of_mem part inside)
      cases part with
      | kept char =>
          have split : .marker ∉ (lexStep (serverRules isLetter) reached char).1 ++
              (lexer (serverRules isLetter)).run (lexStep (serverRules isLetter) reached char).2
                (parts.flatMap Piece.text) := clean
          rw [List.mem_append, not_or, ← List.count_eq_zero, count_lexStep] at split
          refine .cons ?_ (ih ?_ others split.2)
          · have noMarker := split.1
            rw [← isOpen_mode, ← same, isOpen_mode] at noMarker
            simpa [Piece.source, Piece.isLiteral] using noMarker
          · rw [mode_step, same, ← mode_step]
            rfl
      | literal text =>
          have isLiteral := all text List.mem_cons_self
          rw [List.flatMap_cons, Piece.text, Transducer.run_append, List.mem_append, not_or] at clean
          refine .cons (fun _ => rfl) (ih ?_ others clean.2)
          rw [isLiteral.mode, mode_step, same, ← mode_step]
          rfl

/-- Flags that are set only where others are, and as often, are the same. -/
theorem eq_of_count {first second : List Bool}
    (placed : List.Forall₂ (fun flag other => flag = true → other = true) first second)
    (counts : second.count true ≤ first.count true) : first = second := by
  have less : ∀ {first second : List Bool},
      List.Forall₂ (fun flag other => flag = true → other = true) first second →
        first.count true ≤ second.count true := by
    intro first second placed
    induction placed with
    | nil => exact Nat.le_refl _
    | @cons flag other first second le _ ih =>
        cases flag with
        | true =>
            rw [le rfl, List.count_cons_self, List.count_cons_self]
            exact Nat.succ_le_succ ih
        | false => exact Nat.le_trans (by simpa using ih) List.count_le_count_cons
  induction placed with
  | nil => rfl
  | @cons flag other first second le placed ih =>
      have bound := less placed
      cases flag with
      | true =>
          rw [le rfl] at counts ⊢
          rw [ih (by simpa using counts)]
      | false =>
          cases other with
          | false => rw [ih (by simpa using counts)]
          | true =>
              simp only [List.count_cons_self, List.count_cons_of_ne Bool.false_ne_true] at counts
              omega

end Markers

end SqlSafetyProxy.MySql
