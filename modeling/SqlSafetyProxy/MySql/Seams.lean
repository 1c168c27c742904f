import Mathlib.Data.List.Chain
import SqlSafetyProxy.MySql.Substitution

/-!
# Where literals meet their neighbours

Read along with its template, a reconstruction has the same tokens as long as no
literal goes on a token that stands before it, or is gone on behind.
-/

namespace SqlSafetyProxy.MySql

open SqlSafetyProxy.Wire SqlSafetyProxy.Runtime SqlSafetyProxy.Collections

section Filled

variable (isLetter : Char → Bool)

/-- The tokens of the parts, when every literal is read on its own. -/
def filled : LexState → List Piece → List Token
  | state, [] => lexEnd state
  | state, .kept char :: parts =>
      (lexStep (serverRules isLetter) state char).1 ++
        filled (lexStep (serverRules isLetter) state char).2 parts
  | state, .literal text :: parts =>
      flush state ++ (lex (serverRules isLetter) text ++ filled .plain parts)

variable {isLetter} {state : LexState} {parts : List Piece} {char : Char} {text rest : List Char}

theorem marker_flush (state : LexState) : Token.marker ∉ flush state :=
  List.count_eq_zero.mp (count_flush state)

theorem filled_eq
    (marks : markers (serverRules isLetter) state (parts.map Piece.source) =
      parts.map Piece.isLiteral) :
    fill .marker ((lexer (serverRules isLetter)).run state (parts.map Piece.source))
        ((parts.filterMap Piece.literal?).map (lex (serverRules isLetter))) =
      some (filled isLetter state parts) := by
  induction parts generalizing state with
  | nil => cases state <;> rfl
  | cons part parts ih =>
      cases part with
      | kept char =>
          obtain ⟨noMarker, marks⟩ := List.cons.inj marks
          have clean : Token.marker ∉ (lexStep (serverRules isLetter) state char).1 := by
            rw [← List.count_eq_zero, count_lexStep]
            simpa [Piece.source, Piece.isLiteral] using noMarker
          change fill .marker ((lexStep (serverRules isLetter) state char).1 ++ _) _ = _
          rw [fill_append clean]
          exact congrArg (Option.map _) (ih marks)
      | literal text =>
          obtain ⟨isMarker, marks⟩ := List.cons.inj marks
          have isOpen : state.isOpen = true := by
            simpa [Piece.source, Piece.isLiteral] using isMarker
          change markers _ (lexStep (serverRules isLetter) state '?').2 _ = _ at marks
          change fill .marker ((lexStep (serverRules isLetter) state '?').1 ++
            (lexer (serverRules isLetter)).run (lexStep (serverRules isLetter) state '?').2 _)
            (lex (serverRules isLetter) text :: _) = _
          rw [lexStep_marker isOpen] at marks ⊢
          rw [List.append_assoc, fill_append (marker_flush state), List.singleton_append,
            fill_marker, ih marks]
          rfl

/-! ## Tokens that go on -/

theorem run_cons (state : LexState) (char : Char) (rest : List Char) :
    (lexer (serverRules isLetter)).run state (char :: rest) =
      (lexStep (serverRules isLetter) state char).1 ++
        (lexer (serverRules isLetter)).run (lexStep (serverRules isLetter) state char).2 rest :=
  rfl

theorem run_step {emitted : List Token} {next : LexState}
    (step : lexStep (serverRules isLetter) state char = (emitted, next)) :
    (lexer (serverRules isLetter)).run state (char :: rest) =
      emitted ++ (lexer (serverRules isLetter)).run next rest := by
  rw [run_cons, step]

/-- A word goes on with what follows. -/
theorem run_word (word text : List Char) :
    ∃ more others, (lexer (serverRules isLetter)).run (.word word) text =
      .word (word ++ more) :: others := by
  induction text generalizing word with
  | nil => exact ⟨[], [], by rw [List.append_nil]; rfl⟩
  | cons char text ih =>
      by_cases isWord : (serverRules isLetter).isWord char = true
      · have step : lexStep (serverRules isLetter) (.word word) char =
            ([], .word (word ++ [char])) := if_pos isWord
        obtain ⟨more, others, read⟩ := ih (word ++ [char])
        rw [run_step step, read, List.append_assoc]
        exact ⟨char :: more, others, rfl⟩
      · have step : lexStep (serverRules isLetter) (.word word) char =
            lexBehind (serverRules isLetter) (.word word) char := if_neg isWord
        rw [run_step step]
        exact ⟨[], _, by rw [List.append_nil]; rfl⟩

theorem run_quotation (kind : QuoteMark) (text : List Char) :
    (∀ inner, ∃ more others, (lexer (serverRules isLetter)).run (.quoted kind inner) text =
        .quoted kind (inner ++ more) :: others) ∧
      ∀ inner, ∃ more others, (lexer (serverRules isLetter)).run (.closing kind inner) text =
        .quoted kind (inner ++ more) :: others := by
  induction text with
  | nil =>
      constructor
      · exact fun inner => ⟨[], [], by rw [List.append_nil]; rfl⟩
      · exact fun inner => ⟨[], [], by rw [List.append_nil]; rfl⟩
  | cons char text ih =>
      by_cases found : quoteMark char = some kind
      · constructor
        · intro inner
          have step : lexStep (serverRules isLetter) (.quoted kind inner) char =
              ([], .closing kind inner) := if_pos found
          obtain ⟨more, others, read⟩ := ih.2 inner
          exact ⟨more, others, (run_step step).trans read⟩
        · intro inner
          have step : lexStep (serverRules isLetter) (.closing kind inner) char =
              ([], .quoted kind (inner ++ [char])) := if_pos found
          obtain ⟨more, others, read⟩ := ih.1 (inner ++ [char])
          rw [run_step step, read, List.append_assoc]
          exact ⟨char :: more, others, rfl⟩
      · constructor
        · intro inner
          have step : lexStep (serverRules isLetter) (.quoted kind inner) char =
              ([], .quoted kind (inner ++ [char])) := if_neg found
          obtain ⟨more, others, read⟩ := ih.1 (inner ++ [char])
          rw [run_step step, read, List.append_assoc]
          exact ⟨char :: more, others, rfl⟩
        · intro inner
          have step : lexStep (serverRules isLetter) (.closing kind inner) char =
              lexBehind (serverRules isLetter) (.closing kind inner) char := if_neg found
          rw [run_step step]
          exact ⟨[], _, by rw [List.append_nil]; rfl⟩

/-- A word that goes on with a letter or digit is another token. -/
theorem run_word_ne (word : List Char) (others : List Token) :
    (lexer (serverRules isLetter)).run (.word (word ++ [char])) text ≠ .word word :: others := by
  obtain ⟨more, tokens, read⟩ := @run_word isLetter (word ++ [char]) text
  rw [read]
  intro same
  have word := Token.word.inj (List.cons.inj same).1
  simpa using congrArg List.length word

theorem run_quotation_ne {kind : QuoteMark} (inner : List Char) (others : List Token) :
    (lexer (serverRules isLetter)).run (.quoted kind (inner ++ [char])) text ≠
      .quoted kind inner :: others := by
  obtain ⟨more, tokens, read⟩ := (@run_quotation isLetter kind text).1 (inner ++ [char])
  rw [read]
  intro same
  have text := (Token.quoted.inj (List.cons.inj same).1).2
  simpa using congrArg List.length text

theorem run_detached (isOpen : state.isOpen = true) (noWord : state.inWord = false)
    (alphanumeric : char.isAlphanum = true) :
    (lexer (serverRules isLetter)).run state (char :: rest) =
      flush state ++ (lexer (serverRules isLetter)).run (.word [char]) rest :=
  run_step (lexStep_detached isOpen noWord alphanumeric)

/-- A minus sign before a letter or digit completes the token before it. -/
theorem run_minus (isOpen : state.isOpen = true) (alphanumeric : char.isAlphanum = true) :
    (lexer (serverRules isLetter)).run state ('-' :: char :: rest) =
      flush state ++ .symbol '-' :: (lexer (serverRules isLetter)).run (.word [char]) rest := by
  have behindDash : (lexer (serverRules isLetter)).run .dash (char :: rest) =
      .symbol '-' :: (lexer (serverRules isLetter)).run (.word [char]) rest :=
    run_detached rfl rfl alphanumeric
  have behindDashes : (lexer (serverRules isLetter)).run .dashes (char :: rest) =
      .symbol '-' :: .symbol '-' :: (lexer (serverRules isLetter)).run (.word [char]) rest :=
    run_detached rfl rfl alphanumeric
  have others : ∀ {state : LexState}, lexStep (serverRules isLetter) state '-' =
      (flush state, .dash) → (lexer (serverRules isLetter)).run state ('-' :: char :: rest) =
        flush state ++ .symbol '-' :: (lexer (serverRules isLetter)).run (.word [char]) rest := by
    intro state step
    rw [run_step step, behindDash]
  cases state with
  | dash => exact (run_step rfl).trans behindDashes
  | dashes => exact (run_step rfl).trans (congrArg (Token.symbol '-' :: ·) behindDashes)
  | quoted => cases isOpen
  | lineComment => cases isOpen
  | blockComment => cases isOpen
  | star => cases isOpen
  | _ => exact others rfl

/-- A literal that does not go on a word completes the token before it. -/
theorem Literal.detached (isLiteral : Literal text) (isOpen : state.isOpen = true)
    (apart : ∀ first ∈ text.head?, first.isAlphanum = true → state.inWord = false) :
    (lexer (serverRules isLetter)).run state (text ++ rest) =
      flush state ++ (lexer (serverRules isLetter)).run .plain (text ++ rest) := by
  obtain ⟨char, others, rfl, opens⟩ := isLiteral.opens
  rcases opens with alphanumeric | ⟨rfl, second, later, rfl, alphanumeric⟩
  · have noWord := apart char rfl alphanumeric
    rw [List.cons_append, run_detached isOpen noWord alphanumeric,
      run_detached rfl rfl alphanumeric]
    rfl
  · rw [List.cons_append, List.cons_append, run_minus isOpen alphanumeric,
      run_minus rfl alphanumeric]
    rfl

end Filled

/-! ## Between two parts -/

section Joints

variable {isLetter : Char → Bool} {state reached : LexState} {pending : List Token}
  {part : Piece} {parts : List Piece} {char : Char} {text rest : List Char}

/--
Behind a part, where the reconstruction is and where the template is, and the
token that is already complete when the literal is read on its own.
-/
inductive Joint (isLetter : Char → Bool) : Piece → LexState → LexState → List Token → Prop
  | kept {char : Char} {state : LexState} :
      (state.isOpen = true → state.inWord = (serverRules isLetter).isWord char) →
      Joint isLetter (.kept char) state state []
  | word {text : List Char} {char : Char} (word : List Char) : text.getLast? = some char →
      char.isAlphanum = true → Joint isLetter (.literal text) (.word word) .plain [.word word]
  | closing {text : List Char} (inner : List Char) : text.getLast? = some '\'' →
      Joint isLetter (.literal text) (.closing .single inner) .plain [.quoted .single inner]

theorem isWord_quote {kind : QuoteMark} : (serverRules isLetter).isWord kind.char = false := by
  cases kind <;> exact isWord_symbol rfl (by decide) (by decide) (by decide)

theorem inWord_lexPlain :
    (lexPlain (serverRules isLetter) char).2.inWord = (serverRules isLetter).isWord char := by
  by_cases marker : char = '?'
  · subst marker
    exact isWord_marker.symm
  cases isWord : (serverRules isLetter).isWord char with
  | true =>
      rw [lexPlain, if_neg marker, if_pos isWord]
      rfl
  | false =>
      simp only [lexPlain, marker, isWord, if_false, Bool.false_eq_true]
      repeat' split
      all_goals rfl

/-- Outside quotations and comments, the state tells whether the last character is of a word. -/
theorem inWord_step (isOpen : (lexStep (serverRules isLetter) state char).2.isOpen = true) :
    (lexStep (serverRules isLetter) state char).2.inWord =
      (serverRules isLetter).isWord char := by
  have symbol : ∀ {other : Char}, other.isAlphanum = false → other.toNat < 0x80 →
      other ≠ '_' → other ≠ '$' → char = other → (serverRules isLetter).isWord char = false := by
    rintro other symbol ascii noUnderscore noDollar rfl
    exact isWord_symbol symbol ascii noUnderscore noDollar
  cases state with
  | plain => exact inWord_lexPlain
  | word word =>
      by_cases isWord : (serverRules isLetter).isWord char = true
      · rw [lexStep, if_pos isWord, isWord]
        rfl
      · rw [lexStep, if_neg isWord]
        exact inWord_lexPlain
  | dash =>
      simp only [lexStep] at isOpen ⊢
      split
      · next isDash => exact (symbol rfl (by decide) (by decide) (by decide) isDash).symm
      · exact inWord_lexPlain
  | dashes =>
      simp only [lexStep] at isOpen ⊢
      split
      · next blank =>
          rw [if_pos blank] at isOpen
          split at isOpen
          · next ends =>
              have lineFeed : char = '\n' := of_decide_eq_true ends
              rw [if_pos ends, symbol rfl (by decide) (by decide) (by decide) lineFeed]
              rfl
          · cases isOpen
      · split
        · next isDash => exact (symbol rfl (by decide) (by decide) (by decide) isDash).symm
        · exact inWord_lexPlain
  | slash =>
      simp only [lexStep] at isOpen ⊢
      split
      · next isStar =>
          rw [if_pos isStar] at isOpen
          cases isOpen
      · exact inWord_lexPlain
  | quoted kind inner =>
      simp only [lexStep] at isOpen ⊢
      split
      · next found => rw [quoteMark_iff.mp found, isWord_quote]; rfl
      · next other =>
          rw [if_neg other] at isOpen
          cases isOpen
  | closing kind inner =>
      simp only [lexStep] at isOpen ⊢
      split
      · next found =>
          rw [if_pos found] at isOpen
          cases isOpen
      · exact inWord_lexPlain
  | lineComment =>
      simp only [lexStep] at isOpen ⊢
      split at isOpen
      · next ends =>
          have lineFeed : char = '\n' := of_decide_eq_true ends
          rw [if_pos ends, symbol rfl (by decide) (by decide) (by decide) lineFeed]
          rfl
      · cases isOpen
  | blockComment =>
      simp only [lexStep] at isOpen
      split at isOpen <;> cases isOpen
  | star =>
      simp only [lexStep] at isOpen ⊢
      split at isOpen
      · next isSlash =>
          rw [if_pos isSlash, symbol rfl (by decide) (by decide) (by decide) isSlash]
          rfl
      · split at isOpen <;> cases isOpen

theorem Joint.ofLiteral (isLiteral : Literal text) :
    ∃ reached emitted, Joint isLetter (.literal text) reached .plain (flush reached) ∧
      lex (serverRules isLetter) text = emitted ++ flush reached ∧
      ∀ rest, (lexer (serverRules isLetter)).run .plain (text ++ rest) =
        emitted ++ (lexer (serverRules isLetter)).run reached rest := by
  refine ⟨(lexer (serverRules isLetter)).after .plain text,
    (lexer (serverRules isLetter)).emitted .plain text, ?_, ?_, fun rest => ?_⟩
  · rcases @Literal.after isLetter _ _ isLiteral (show LexState.plain.isOpen = true from rfl) with
      ⟨word, char, read, last, alphanumeric⟩ | ⟨inner, read, last⟩
    · rw [read]
      exact .word word last alphanumeric
    · rw [read]
      exact .closing inner last
  · rw [lex, Transducer.run_eq]
    rcases @Literal.after isLetter _ _ isLiteral (show LexState.plain.isOpen = true from rfl) with
      ⟨word, char, read, -⟩ | ⟨inner, read, -⟩
    · rw [read]
      rfl
    · rw [read]
      rfl
  · rw [Transducer.run_append]

theorem touching_iff {left right : List Char} {before behind : Char}
    (last : left.getLast? = some before) (first : right.head? = some behind) :
    Touching isLetter left right ↔
      ((serverRules isLetter).isWord before = true ∧
        (serverRules isLetter).isWord behind = true) ∨ (before = '\'' ∧ behind = '\'') := by
  constructor
  · rintro ⟨other, isLast, next, isFirst, touch⟩
    rw [Option.mem_def, last] at isLast
    rw [Option.mem_def, first] at isFirst
    cases isLast
    cases isFirst
    exact touch
  · exact fun touch => ⟨before, last, behind, first, touch⟩

theorem alphanumeric_touches {left right : List Char} {before behind : Char}
    (last : left.getLast? = some before) (first : right.head? = some behind)
    (alphanumeric : before.isAlphanum = true) :
    Touching isLetter left right ↔ (serverRules isLetter).isWord behind = true := by
  have isWord : (serverRules isLetter).isWord before = true := isWord_alphanumeric alphanumeric
  have noQuote := alphanumeric_ne alphanumeric (show '\''.isAlphanum = false by rfl)
  rw [touching_iff last first]
  simp [isWord, noQuote]

theorem quote_touches {left right : List Char} {behind : Char}
    (last : left.getLast? = some '\'') (first : right.head? = some behind) :
    Touching isLetter left right ↔ behind = '\'' := by
  have noWord : (serverRules isLetter).isWord '\'' = false := @isWord_quote isLetter .single
  rw [touching_iff last first]
  simp [noWord]

theorem Joint.flush_eq (joint : Joint isLetter part reached state pending) :
    pending ++ flush state = flush reached := by
  cases joint with
  | kept => rfl
  | word => rfl
  | closing => rfl

theorem Joint.isOpen (joint : Joint isLetter part reached state pending)
    (isOpen : state.isOpen = true) : reached.isOpen = true := by
  cases joint with
  | kept => exact isOpen
  | word => rfl
  | closing => rfl

/-- A literal touches the part before it if it goes on its word. -/
theorem Joint.touching (joint : Joint isLetter part reached state pending)
    (isOpen : state.isOpen = true) (first : text.head? = some char) (noQuote : char ≠ '\'') :
    Touching isLetter part.text text ↔
      reached.inWord = true ∧ (serverRules isLetter).isWord char = true := by
  cases joint with
  | kept agrees =>
      rw [touching_iff rfl first, agrees isOpen]
      simp [noQuote]
  | word word last alphanumeric =>
      refine (alphanumeric_touches last first alphanumeric).trans ?_
      simp [LexState.inWord]
  | closing inner last =>
      refine (quote_touches last first).trans ?_
      simp [noQuote, LexState.inWord]

/-- A word is gone on by a letter or digit behind it. -/
theorem run_glued (inWord : reached.inWord = true)
    (isWord : (serverRules isLetter).isWord char = true) (others : List Token) :
    (lexer (serverRules isLetter)).run reached (char :: rest) ≠ flush reached ++ others := by
  cases reached with
  | word word =>
      have step : lexStep (serverRules isLetter) (.word word) char =
          ([], .word (word ++ [char])) := if_pos isWord
      rw [run_step step]
      exact run_word_ne word others
  | _ => cases inWord

/-- Before a literal, the tokens agree if it does not touch the part before it. -/
theorem Joint.beforeLiteral (joint : Joint isLetter part reached state pending)
    (isOpen : state.isOpen = true) (isLiteral : Literal text) :
    (¬ Touching isLetter part.text text →
      (lexer (serverRules isLetter)).run reached (text ++ rest) =
        flush reached ++ (lexer (serverRules isLetter)).run .plain (text ++ rest)) ∧
    (Touching isLetter part.text text → ∀ others,
      (lexer (serverRules isLetter)).run reached (text ++ rest) ≠ flush reached ++ others) := by
  obtain ⟨first, later, rfl, -⟩ := isLiteral.opens
  have noQuote : first ≠ '\'' := by
    rintro rfl
    cases isLiteral with
    | plain alphanumeric => cases alphanumeric
  rw [joint.touching isOpen rfl noQuote]
  constructor
  · intro apart
    refine isLiteral.detached (joint.isOpen isOpen) ?_
    rintro char ⟨⟩ alphanumeric
    cases inWord : reached.inWord with
    | false => rfl
    | true => exact absurd ⟨inWord, isWord_alphanumeric alphanumeric⟩ apart
  · rintro ⟨inWord, isWord⟩ others
    exact run_glued inWord isWord others

/-- Behind a literal, the tokens agree if the next character does not touch it. -/
theorem Joint.behindLiteral (joint : Joint isLetter (.literal text) reached .plain pending) :
    (¬ Touching isLetter text [char] →
      lexStep (serverRules isLetter) reached char = lexBehind (serverRules isLetter) reached char) ∧
    (Touching isLetter text [char] → ∀ others,
      (lexer (serverRules isLetter)).run reached (char :: rest) ≠ flush reached ++ others) := by
  cases joint with
  | word word last alphanumeric =>
      rw [alphanumeric_touches last rfl alphanumeric]
      exact ⟨fun apart => if_neg apart, fun isWord others => run_glued rfl isWord others⟩
  | closing inner last =>
      rw [quote_touches last rfl]
      constructor
      · intro apart
        exact if_neg (mt quoteMark_iff.mp apart)
      · rintro rfl others
        have step : lexStep (serverRules isLetter) (.closing .single inner) '\'' =
            ([], .quoted .single (inner ++ ['\''])) := rfl
        rw [run_step step]
        exact run_quotation_ne inner others

/-- The tokens of a reconstruction are those of its template with the literals, part for part. -/
theorem Joint.run_iff (joint : Joint isLetter part reached state pending)
    (marks : markers (serverRules isLetter) state (parts.map Piece.source) =
      parts.map Piece.isLiteral)
    (all : ∀ text, .literal text ∈ parts → Literal text) :
    (lexer (serverRules isLetter)).run reached (parts.flatMap Piece.text) =
        pending ++ filled isLetter state parts ↔
      (part :: parts).IsChain (Apart isLetter) := by
  induction parts generalizing part reached state pending with
  | nil =>
      refine iff_of_true ?_ (List.isChain_singleton part)
      cases joint with
      | kept => rfl
      | word => rfl
      | closing => rfl
  | cons next parts ih =>
      have others := fun text inside => all text (List.mem_cons_of_mem next inside)
      rw [List.isChain_cons_cons]
      cases next with
      | kept char =>
          obtain ⟨-, marks⟩ := List.cons.inj marks
          change markers _ (lexStep (serverRules isLetter) state char).2 _ = _ at marks
          have step := ih (.kept inWord_step) marks others
          rw [List.flatMap_cons, Piece.text, List.singleton_append, filled]
          cases part with
          | kept before =>
              cases joint
              rw [run_cons, List.nil_append, List.append_right_inj, ← step, List.nil_append]
              exact (and_iff_right trivial).symm
          | literal text =>
              have plain : state = .plain := by cases joint <;> rfl
              subst plain
              have complete : pending = flush reached := by
                rw [← joint.flush_eq, flush, List.append_nil]
              obtain ⟨agree, differ⟩ :=
                @Joint.behindLiteral isLetter _ _ char text (parts.flatMap Piece.text) joint
              change _ ↔ ¬ Touching isLetter text [char] ∧ _
              by_cases touch : Touching isLetter text [char]
              · rw [complete]
                exact iff_of_false (differ touch _) fun apart => apart.1 touch
              · rw [run_cons, agree touch, lexBehind, complete, List.append_assoc,
                  List.append_right_inj]
                rw [List.nil_append] at step
                change (lexPlain _ _).1 ++ _ = (lexPlain _ _).1 ++ _ ↔ _
                rw [List.append_right_inj]
                exact step.trans (and_iff_right touch).symm
      | literal text =>
          obtain ⟨isMarker, marks⟩ := List.cons.inj marks
          have isOpen : state.isOpen = true := by
            simpa [Piece.source, Piece.isLiteral] using isMarker
          change markers _ (lexStep (serverRules isLetter) state '?').2 _ = _ at marks
          rw [lexStep_marker isOpen] at marks
          have isLiteral := all text List.mem_cons_self
          obtain ⟨agree, differ⟩ :=
            @Joint.beforeLiteral isLetter _ _ _ _ text (parts.flatMap Piece.text) joint isOpen
              isLiteral
          obtain ⟨behind, emitted, joint', alone, along⟩ := @Joint.ofLiteral isLetter text isLiteral
          have apart : Apart isLetter part (.literal text) ↔ ¬ Touching isLetter part.text text := by
            cases part <;> rfl
          rw [List.flatMap_cons, Piece.text, filled, apart, ← List.append_assoc, joint.flush_eq]
          by_cases touch : Touching isLetter part.text text
          · exact iff_of_false (differ touch _) fun apart => apart.1 touch
          · rw [agree touch, along, alone, List.append_right_inj, List.append_assoc,
              List.append_right_inj, ih joint' marks others]
            exact (and_iff_right touch).symm

end Joints

/-! ## The whole statement -/

section Whole

variable {isLetter : Char → Bool} {state : LexState} {parts : List Piece} {text : List Char}

theorem markers_none (others : ∀ char ∈ text, char ≠ '?') :
    (markers (serverRules isLetter) state text).count true = 0 := by
  induction text generalizing state with
  | nil => rfl
  | cons char text ih =>
      have noMarker : (char == '?') = false := by simpa using others char List.mem_cons_self
      rw [markers, noMarker, Bool.false_and, List.count_cons_of_ne Bool.false_ne_true,
        ih fun later inside => others later (List.mem_cons_of_mem _ inside)]

/-- A literal has no markers among its tokens. -/
theorem Literal.clean (isLiteral : Literal text) :
    .marker ∉ lex (serverRules isLetter) text := by
  rw [← List.count_eq_zero, lex, count_run]
  exact markers_none fun char inside => isLiteral.char_ne inside rfl (by decide)

theorem count_isLiteral (parts : List Piece) :
    (parts.map Piece.isLiteral).count true = (parts.filterMap Piece.literal?).length := by
  induction parts with
  | nil => rfl
  | cons part parts ih =>
      cases part with
      | kept char => exact (List.count_cons_of_ne Bool.false_ne_true).trans ih
      | literal text => exact List.count_cons_self.trans (congrArg Nat.succ ih)

theorem literal_of_mem (inside : text ∈ parts.filterMap Piece.literal?) :
    .literal text ∈ parts := by
  obtain ⟨part, inside, shown⟩ := List.mem_filterMap.mp inside
  cases part with
  | kept => cases shown
  | literal => cases shown; exact inside

theorem LexesAsFilled.markers
    (all : ∀ text, .literal text ∈ parts → Literal text)
    (lexed : LexesAsFilled isLetter (parts.map Piece.source) (parts.filterMap Piece.literal?)
      (parts.flatMap Piece.text)) :
    markers (serverRules isLetter) .plain (parts.map Piece.source) = parts.map Piece.isLiteral := by
  have clean : .marker ∉ lex (serverRules isLetter) (parts.flatMap Piece.text) := by
    refine fill_clean lexed fun tokens inside => ?_
    obtain ⟨text, among, rfl⟩ := List.mem_map.mp inside
    exact (all text (literal_of_mem among)).clean
  have counts := fill_count lexed
  rw [lex, count_run, List.length_map] at counts
  refine eq_of_count (markers_placed rfl all clean) ?_
  rw [counts, count_isLiteral]

/-- Nothing touches a space. -/
theorem space_apart (part : Piece) : Apart isLetter (.kept ' ') part := by
  cases part with
  | kept char => trivial
  | literal text =>
      rintro ⟨before, last, behind, -, ⟨isWord, -⟩ | ⟨isQuote, -⟩⟩
      · cases last
        cases isWord
      · cases last
        cases isQuote

/-- The tokens agree exactly if the markers do and no literal touches its neighbours. -/
theorem lexesAsFilled_iff (all : ∀ text, .literal text ∈ parts → Literal text) :
    LexesAsFilled isLetter (parts.map Piece.source) (parts.filterMap Piece.literal?)
        (parts.flatMap Piece.text) ↔
      markers (serverRules isLetter) .plain (parts.map Piece.source) = parts.map Piece.isLiteral ∧
        parts.IsChain (Apart isLetter) := by
  have start : Joint isLetter (.kept ' ') .plain .plain [] := .kept fun _ => rfl
  have joined : (Piece.kept ' ' :: parts).IsChain (Apart isLetter) ↔
      parts.IsChain (Apart isLetter) := by
    cases parts with
    | nil => exact iff_of_true (.singleton _) .nil
    | cons part parts =>
        rw [List.isChain_cons_cons]
        exact and_iff_right (space_apart part)
  have same : markers (serverRules isLetter) .plain (parts.map Piece.source) =
      parts.map Piece.isLiteral →
        (LexesAsFilled isLetter (parts.map Piece.source) (parts.filterMap Piece.literal?)
          (parts.flatMap Piece.text) ↔ parts.IsChain (Apart isLetter)) := by
    intro marks
    rw [← joined, ← start.run_iff marks all, LexesAsFilled, lex, filled_eq marks]
    exact ⟨fun read => (Option.some.inj read).symm, fun read => congrArg some read.symm⟩
  constructor
  · intro lexed
    have marks := LexesAsFilled.markers all lexed
    exact ⟨marks, (same marks).mp lexed⟩
  · rintro ⟨marks, chain⟩
    exact (same marks).mpr chain

end Whole

/--
A reconstruction has the tokens of its template with those of the literals in
place if both sets of rules have the same markers and no literal touches its
neighbours, and only then.
-/
theorem reconstruction_lexes_iff (isLetter : Char → Bool) (tools : Tools)
    (execution : StmtExecute) (count : Nat) (previousTypes : Option (List ParameterType))
    (decoded : StmtExecuteParameters) (sqlTemplate sql : String)
    (reprs : ∀ size bits, isFinite size bits = true →
      FloatRepr (tools.floatRepr size bits).toList)
    (parsed : parseStmtExecuteParameters tools execution count previousTypes = .ok decoded)
    (reconstructed : reconstructStmtExecuteSql sqlTemplate decoded.parameters = .ok sql) :
    LexesAsFilled isLetter sqlTemplate.toList
        (decoded.parameters.map fun parameter => parameter.sqlLiteral.toList) sql.toList ↔
      Separates isLetter sqlTemplate.toList
        (decoded.parameters.map fun parameter => parameter.sqlLiteral.toList) := by
  have scans := reconstruct_ok_iff.mp reconstructed
  obtain ⟨parts, composed⟩ := @Scans.composed isLetter _ _ _ _ _ _ scans (.plain _)
  have texts : parts.filterMap Piece.literal? =
      decoded.parameters.map fun parameter => parameter.sqlLiteral.toList := by
    rw [composed.literals, List.map_map]
    rfl
  have all : ∀ text, .literal text ∈ parts → Literal text := by
    intro text inside
    have among : text ∈ parts.filterMap Piece.literal? :=
      List.mem_filterMap.mpr ⟨_, inside, rfl⟩
    rw [texts] at among
    obtain ⟨parameter, isParameter, rfl⟩ := List.mem_map.mp among
    exact literal_of_parsed reprs parsed parameter isParameter
  rw [Separates, ← composed.marks, ← texts, ← composed.template, ← composed.out,
    lexesAsFilled_iff all, eq_comm]
  refine and_congr_right fun marks => ?_
  rw [← marks, pieces_eq]

/-- An execution with the number 1. -/
def numberExecution : StmtExecute where
  statementId := 1
  flags := 0
  iterationCount := 1
  parameterPayload := [0x00, 0x01, 0x03, 0x00, 0x01, 0x00, 0x00, 0x00]

def numberParameters : StmtExecuteParameters :=
  ⟨[0x00], true, [⟨0x03, false⟩], [⟨⟨0x03, false⟩, .integer 1, "1"⟩]⟩

/-- Spaces around the marker keep the literal apart. -/
theorem spaced_separates :
    Separates (fun _ => false)
      ['D', 'E', 'L', 'E', 'T', 'E', ' ', 'F', 'R', 'O', 'M', ' ', 't', ' ', 'W', 'H', 'E', 'R',
       'E', ' ', 'i', 'd', ' ', '=', ' ', '?', ' ', 'A', 'N', 'D', ' ', 'b']
      [['1']] := by
  decide +kernel

/-- With spaces around the marker the tokens agree. -/
theorem numberExecution_lexes :
    LexesAsFilled (fun _ => false) "DELETE FROM t WHERE id = ? AND b".toList [['1']]
      "DELETE FROM t WHERE id = 1 AND b".toList :=
  (reconstruction_lexes_iff (fun _ => false) plainTools numberExecution 1 none numberParameters
    "DELETE FROM t WHERE id = ? AND b" "DELETE FROM t WHERE id = 1 AND b"
    (fun _ _ _ => floatRepr_zero) (by decide +kernel) (by decide +kernel)).mpr spaced_separates

/-- A keyword behind the marker is gone on from the literal, whatever the letters are. -/
theorem numberExecution_glued :
    ¬ ∃ isLetter : Char → Bool, ∀ (tools : Tools) (execution : StmtExecute) (count : Nat)
      (previousTypes : Option (List ParameterType)) (decoded : StmtExecuteParameters)
      (sqlTemplate sql : String),
      (∀ size bits, isFinite size bits = true → FloatRepr (tools.floatRepr size bits).toList) →
      parseStmtExecuteParameters tools execution count previousTypes = .ok decoded →
      reconstructStmtExecuteSql sqlTemplate decoded.parameters = .ok sql →
      LexesAsFilled isLetter sqlTemplate.toList
        (decoded.parameters.map fun parameter => parameter.sqlLiteral.toList) sql.toList := by
  rintro ⟨isLetter, lexes⟩
  have lexed := lexes plainTools numberExecution 1 none numberParameters
    "DELETE FROM t WHERE id=?AND b" "DELETE FROM t WHERE id=1AND b"
    (fun _ _ _ => floatRepr_zero) (by decide +kernel) (by decide +kernel)
  have template : "DELETE FROM t WHERE id=?AND b".toList =
      ['D', 'E', 'L', 'E', 'T', 'E', ' ', 'F', 'R', 'O', 'M', ' ', 't', ' ', 'W', 'H', 'E', 'R',
       'E', ' ', 'i', 'd', '=', '?', 'A', 'N', 'D', ' ', 'b'] := by
    decide +kernel
  have filled : "DELETE FROM t WHERE id=1AND b".toList =
      ['D', 'E', 'L', 'E', 'T', 'E', ' ', 'F', 'R', 'O', 'M', ' ', 't', ' ', 'W', 'H', 'E', 'R',
       'E', ' ', 'i', 'd', '=', '1', 'A', 'N', 'D', ' ', 'b'] := by
    decide +kernel
  rw [template, filled] at lexed
  exact absurd lexed (of_decide_eq_false rfl)

end SqlSafetyProxy.MySql
