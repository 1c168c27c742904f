import SqlSafetyProxy.Runtime.StringConstants

/-!
# String constants of MySQL

The default lexical rules: constants stand between apostrophes or double
quotation marks, a backslash escapes and a mark is doubled in both.
-/

namespace SqlSafetyProxy.MySql

open SqlSafetyProxy.Runtime SqlSafetyProxy.Collections

inductive ConstantState where
  | plain
  | dash | dashes | slash
  /-- A comment was opened, unless it holds code behind a `!`. -/
  | opened
  /-- A star in code, which a slash makes the end of the comment that holds the code. -/
  | codeStar
  | lineComment | blockComment | star
  /-- A quoted identifier. -/
  | identifier
  | quoted (mark : ConstantMark) (contents : List Char)
  | escaped (mark : ConstantMark) (contents : List Char)
  /-- The mark was read that closes the constant, unless it is doubled. -/
  | closing (mark : ConstantMark) (contents : List Char)
  deriving DecidableEq, Repr

/-- What makes a comment of two dashes before it. -/
def opensDashComment (char : Char) : Bool := char.toNat ≤ 0x20 || char.toNat == 0x7F

/-- A character that does not belong to what is before it; `code` is that of a comment. -/
def constantPlain (code : Bool) (char : Char) : List Region × ConstantState :=
  if char = '*' ∧ code = true then ([.outside char], .codeStar)
  else if char = '\'' then ([], .quoted .single [])
  else if char = '"' then ([], .quoted .double [])
  else if char = '\x60' then ([.outside char], .identifier)
  else if char = '#' then ([.outside char], .lineComment)
  else if char = '-' then ([.outside char], .dash)
  else if char = '/' then ([.outside char], .slash)
  else ([.outside char], .plain)

def constantStep (code : Bool) (state : ConstantState) (char : Char) : List Region × ConstantState :=
  match state with
  | .plain => constantPlain code char
  | .dash => if char = '-' then ([.outside char], .dashes) else constantPlain code char
  | .dashes =>
      if opensDashComment char then
        ([.outside char], if char = '\n' then .plain else .lineComment)
      else if char = '-' then ([.outside char], .dashes)
      else constantPlain code char
  | .slash => if char = '*' then ([.outside char], .opened) else constantPlain code char
  | .opened =>
      ([.outside char], if char = '!' then .plain else if char = '*' then .star else .blockComment)
  | .codeStar => if char = '/' then ([.outside char], .plain) else constantPlain code char
  | .lineComment => ([.outside char], if char = '\n' then .plain else .lineComment)
  | .blockComment => ([.outside char], if char = '*' then .star else .blockComment)
  | .star =>
      ([.outside char], if char = '/' then .plain else if char = '*' then .star else .blockComment)
  | .identifier => ([.outside char], if char = '\x60' then .plain else .identifier)
  | .quoted mark contents =>
      if [char] = mark.text then ([], .closing mark contents)
      else if char = '\\' then ([], .escaped mark contents)
      else ([], .quoted mark (contents ++ [char]))
  | .escaped mark contents => ([], .quoted mark (contents ++ ['\\', char]))
  | .closing mark contents =>
      if [char] = mark.text then ([], .quoted mark (contents ++ (mark.text ++ mark.text)))
      else (.constant mark contents :: (constantPlain code char).1, (constantPlain code char).2)

/-- Whether what follows is the code of a comment. -/
def codeAfter (code : Bool) (state : ConstantState) (char : Char) : Bool :=
  if state = .opened ∧ char = '!' then true
  else if state = .codeStar ∧ char = '/' then false
  else code

def constantEnd : ConstantState → List Region
  | .quoted mark contents => [.unclosed mark contents]
  | .escaped mark contents => [.unclosed mark (contents ++ ['\\'])]
  | .closing mark contents => [.constant mark contents]
  | _ => []

/-- What has been read of a constant that is not complete. -/
def constantHeld : ConstantState → List Char
  | .quoted mark contents => mark.text ++ contents
  | .escaped mark contents => mark.text ++ (contents ++ ['\\'])
  | .closing mark contents => mark.text ++ (contents ++ mark.text)
  | _ => []

theorem constantPlain_text (code : Bool) (char : Char) :
    textOf (constantPlain code char).1 ++ constantHeld (constantPlain code char).2 = [char] := by
  unfold constantPlain
  repeat' split
  all_goals simp_all [textOf, Region.text, constantHeld, ConstantMark.text]

theorem constantStep_text (code : Bool) (state : ConstantState) (char : Char) :
    textOf (constantStep code state char).1 ++ constantHeld (constantStep code state char).2 =
      constantHeld state ++ [char] := by
  cases state with
  | plain => exact constantPlain_text code char
  | dash =>
      rw [constantStep]
      split
      · rfl
      · exact constantPlain_text code char
  | dashes =>
      rw [constantStep]
      split
      · split <;> rfl
      · split
        · rfl
        · exact constantPlain_text code char
  | slash =>
      rw [constantStep]
      split
      · rfl
      · exact constantPlain_text code char
  | opened =>
      rw [constantStep]
      split
      · rfl
      · split <;> rfl
  | codeStar =>
      rw [constantStep]
      split
      · rfl
      · exact constantPlain_text code char
  | lineComment =>
      rw [constantStep]
      split <;> rfl
  | blockComment =>
      rw [constantStep]
      split <;> rfl
  | star =>
      rw [constantStep]
      split
      · rfl
      · split <;> rfl
  | identifier =>
      rw [constantStep]
      split <;> rfl
  | quoted mark contents =>
      rw [constantStep]
      split
      · next isMark => simp [← isMark, textOf, constantHeld]
      · split
        · next isEscape => simp [isEscape, textOf, constantHeld]
        · simp [textOf, constantHeld]
  | escaped mark contents => simp [constantStep, textOf, constantHeld]
  | closing mark contents =>
      rw [constantStep]
      split
      · next isMark => simp [← isMark, textOf, constantHeld]
      · dsimp only
        rw [textOf, List.flatMap_cons, ← textOf, List.append_assoc, constantPlain_text code]
        simp [Region.text, constantHeld]

/-- The string constants of a text and the characters outside them. -/
def constants : Divider (Bool × ConstantState) where
  step state char :=
    ((constantStep state.1 state.2 char).1,
      (codeAfter state.1 state.2 char, (constantStep state.1 state.2 char).2))
  finish state := constantEnd state.2
  start := (false, .plain)
  held state := constantHeld state.2
  start_held := rfl
  step_text state char := constantStep_text state.1 state.2 char
  finish_text := by
    rintro ⟨code, state⟩
    cases state with
    | quoted | escaped | closing => simp [constantEnd, constantHeld, textOf, Region.text]
    | _ => rfl

/-- Behind a comment that holds code a star is no part of a mark. -/
example : (constants.regions "/*! 1 */* 2, 'a'".toList).getLast? =
    some (.constant .single ['a']) := by
  decide +kernel

end SqlSafetyProxy.MySql
