import SqlSafetyProxy.Postgres.Lexing
import SqlSafetyProxy.Runtime.StringConstants

/-!
# String constants of PostgreSQL

The lexical rules with standard conforming strings: a backslash escapes only in
constants that begin with an `E`, constants may be dollar quoted, comments nest.
-/

namespace SqlSafetyProxy.Postgres

open SqlSafetyProxy.Runtime SqlSafetyProxy.Collections

inductive ConstantState where
  | plain
  /-- Within a word, which may be the `E` before a constant. -/
  | word (isEscape : Bool)
  | number
  | dash | slash
  | lineComment
  | blockComment (depth : Nat)
  | star (depth : Nat)
  | slant (depth : Nat)
  /-- A quoted identifier. -/
  | identifier
  /-- A dollar was read, and what may be the tag of a constant. -/
  | tag (text : List Char)
  | dollar (tag contents : List Char)
  | quoted (escapes : Bool) (contents : List Char)
  | escaped (contents : List Char)
  /-- The mark was read that closes the constant, unless it is doubled. -/
  | closing (escapes : Bool) (contents : List Char)
  /-- Behind a constant with escapes, which goes on in another line. -/
  | resting (newline : Bool)
  | restingDash (newline : Bool)
  | restingComment (newline : Bool)
  deriving DecidableEq, Repr

def isNewline (char : Char) : Bool := char == '\n' || char == '\r'

/-- A character that does not belong to what is before it. -/
def constantPlain (char : Char) : List Region × ConstantState :=
  if isIdentStart char then ([.outside char], .word (char == 'e' || char == 'E'))
  else if char.isDigit then ([.outside char], .number)
  else if char = '$' then ([], .tag [])
  else if char = '\'' then ([], .quoted false [])
  else if char = '"' then ([.outside char], .identifier)
  else if char = '-' then ([.outside char], .dash)
  else if char = '/' then ([.outside char], .slash)
  else ([.outside char], .plain)

def constantWord (isEscape : Bool) (char : Char) : List Region × ConstantState :=
  if isIdentPart char then ([.outside char], .word false)
  else if char = '\'' ∧ isEscape then ([], .quoted true [])
  else constantPlain char

def constantDash (char : Char) : List Region × ConstantState :=
  if char = '-' then ([.outside char], .lineComment) else constantPlain char

def constantResting (newline : Bool) (char : Char) : List Region × ConstantState :=
  if isNewline char then ([.outside char], .resting true)
  else if isBlank char then ([.outside char], .resting newline)
  else if char = '-' then ([.outside char], .restingDash newline)
  else if char = '\'' ∧ newline then ([], .quoted true [])
  else constantPlain char

/-- What has been read when a dollar opens no constant. -/
def notTag (text : List Char) : List Region := .outside '$' :: text.map .outside

def behindTag (text : List Char) (char : Char) : List Region × ConstantState :=
  if text = [] then constantPlain char else constantWord (text = ['e'] ∨ text = ['E']) char

def constantStep (state : ConstantState) (char : Char) : List Region × ConstantState :=
  match state with
  | .plain => constantPlain char
  | .word isEscape => constantWord isEscape char
  | .number =>
      if isIdentStart char then ([.outside char], .word false)
      else if char.isDigit then ([.outside char], .number)
      else constantPlain char
  | .dash => constantDash char
  | .slash => if char = '*' then ([.outside char], .blockComment 0) else constantPlain char
  | .lineComment => ([.outside char], if isNewline char then .plain else .lineComment)
  | .blockComment depth =>
      ([.outside char], if char = '*' then .star depth else if char = '/' then .slant depth
        else .blockComment depth)
  | .star depth =>
      ([.outside char], if char = '/' then (match depth with
          | 0 => .plain
          | depth + 1 => .blockComment depth)
        else if char = '*' then .star depth else .blockComment depth)
  | .slant depth =>
      ([.outside char], if char = '*' then .blockComment (depth + 1)
        else if char = '/' then .slant depth else .blockComment depth)
  | .identifier => ([.outside char], if char = '"' then .plain else .identifier)
  | .tag text =>
      if char = '$' then ([], .dollar text [])
      else if isIdentStart char || (char.isDigit && !text.isEmpty) then ([], .tag (text ++ [char]))
      else (notTag text ++ (behindTag text char).1, (behindTag text char).2)
  | .dollar tag contents =>
      -- The constant ends where its tag is read for the first time.
      let mark := ConstantMark.dollar tag
      let read := contents ++ [char]
      if mark.text <:+ read then
        ([.constant mark (read.take (read.length - mark.text.length))], .plain)
      else ([], .dollar tag read)
  | .quoted escapes contents =>
      if char = '\'' then ([], .closing escapes contents)
      else if char = '\\' ∧ escapes then ([], .escaped contents)
      else ([], .quoted escapes (contents ++ [char]))
  | .escaped contents => ([], .quoted true (contents ++ ['\\', char]))
  | .closing escapes contents =>
      if char = '\'' then ([], .quoted escapes (contents ++ ['\'', '\'']))
      else
        let behind := if escapes then constantResting false char else constantPlain char
        (.constant .single contents :: behind.1, behind.2)
  | .resting newline => constantResting newline char
  | .restingDash newline =>
      if char = '-' then ([.outside char], .restingComment newline) else constantPlain char
  | .restingComment newline =>
      ([.outside char], if isNewline char then .resting true else .restingComment newline)

def constantEnd : ConstantState → List Region
  | .tag text => notTag text
  | .dollar tag contents => [.unclosed (.dollar tag) contents]
  | .quoted _ contents => [.unclosed .single contents]
  | .escaped contents => [.unclosed .single (contents ++ ['\\'])]
  | .closing _ contents => [.constant .single contents]
  | _ => []

/-- What has been read of a region that is not complete. -/
def constantHeld : ConstantState → List Char
  | .tag text => '$' :: text
  | .dollar tag contents => (ConstantMark.dollar tag).text ++ contents
  | .quoted _ contents => '\'' :: contents
  | .escaped contents => '\'' :: (contents ++ ['\\'])
  | .closing _ contents => '\'' :: (contents ++ ['\''])
  | _ => []

/-! ## Nothing is lost -/

section Steps

variable {char : Char}

theorem constantPlain_text (char : Char) :
    textOf (constantPlain char).1 ++ constantHeld (constantPlain char).2 = [char] := by
  unfold constantPlain
  repeat' split
  all_goals simp_all [textOf, Region.text, constantHeld]

theorem constantWord_text (isEscape : Bool) (char : Char) :
    textOf (constantWord isEscape char).1 ++ constantHeld (constantWord isEscape char).2 =
      [char] := by
  unfold constantWord
  split
  · rfl
  · split
    · next mark => rw [mark.1]; rfl
    · exact constantPlain_text char

theorem constantResting_text (newline : Bool) (char : Char) :
    textOf (constantResting newline char).1 ++ constantHeld (constantResting newline char).2 =
      [char] := by
  unfold constantResting
  split
  · rfl
  · split
    · rfl
    · split
      · rfl
      · split
        · next mark => rw [mark.1]; rfl
        · exact constantPlain_text char

theorem notTag_text (text : List Char) : textOf (notTag text) = '$' :: text := by
  have outside : textOf (text.map .outside) = text := by
    induction text with
    | nil => rfl
    | cons first text ih => rw [List.map_cons, textOf, List.flatMap_cons, ← textOf, ih]; rfl
  rw [notTag, textOf, List.flatMap_cons, ← textOf, outside]
  rfl

theorem constantTag_text (text : List Char) (char : Char) :
    textOf (constantStep (.tag text) char).1 ++ constantHeld (constantStep (.tag text) char).2 =
      '$' :: (text ++ [char]) := by
  rw [constantStep]
  split
  · next isDollar => simp [isDollar, textOf, constantHeld, ConstantMark.text]
  · split
    · rfl
    · have behind : textOf (behindTag text char).1 ++ constantHeld (behindTag text char).2 =
          [char] := by
        unfold behindTag
        split
        · exact constantPlain_text char
        · exact constantWord_text _ char
      dsimp only
      rw [textOf_append, notTag_text, List.append_assoc, behind, List.cons_append]

/-- A dollar quoted constant ends with its tag. -/
theorem constantDollar_text (tag contents : List Char) (char : Char) :
    textOf (constantStep (.dollar tag contents) char).1 ++
        constantHeld (constantStep (.dollar tag contents) char).2 =
      (ConstantMark.dollar tag).text ++ contents ++ [char] := by
  rw [constantStep]
  split
  · next closes =>
    obtain ⟨body, same⟩ := closes
    have taken : (contents ++ [char]).take
        ((contents ++ [char]).length - (ConstantMark.dollar tag).text.length) = body := by
      rw [← same, List.length_append, Nat.add_sub_cancel, List.take_left]
    rw [taken, List.append_assoc, ← same]
    simp [textOf, Region.text, constantHeld]
  · simp [textOf, constantHeld]

theorem constantClosing_text (escapes : Bool) (contents : List Char) (char : Char) :
    textOf (constantStep (.closing escapes contents) char).1 ++
        constantHeld (constantStep (.closing escapes contents) char).2 =
      '\'' :: (contents ++ ['\'']) ++ [char] := by
  rw [constantStep]
  split
  · next isMark => simp [isMark, textOf, constantHeld]
  · have behind : ∀ step : List Region × ConstantState,
        textOf step.1 ++ constantHeld step.2 = [char] →
          textOf (.constant .single contents :: step.1) ++ constantHeld step.2 =
            '\'' :: (contents ++ ['\'']) ++ [char] := by
      intro step rest
      rw [textOf, List.flatMap_cons, ← textOf, List.append_assoc, rest]
      rfl
    dsimp only
    refine behind _ ?_
    split
    · exact constantResting_text false char
    · exact constantPlain_text char

theorem constantStep_text (state : ConstantState) (char : Char) :
    textOf (constantStep state char).1 ++ constantHeld (constantStep state char).2 =
      constantHeld state ++ [char] := by
  cases state with
  | plain => exact constantPlain_text char
  | word isEscape => exact constantWord_text isEscape char
  | number =>
      rw [constantStep]
      split
      · rfl
      · split
        · rfl
        · exact constantPlain_text char
  | dash =>
      rw [constantStep, constantDash]
      split
      · rfl
      · exact constantPlain_text char
  | slash =>
      rw [constantStep]
      split
      · rfl
      · exact constantPlain_text char
  | lineComment =>
      rw [constantStep]
      cases isNewline char <;> rfl
  | blockComment depth =>
      rw [constantStep]
      split
      · rfl
      · split <;> rfl
  | star depth =>
      simp only [constantStep]
      split
      · cases depth <;> rfl
      · split <;> rfl
  | slant depth =>
      rw [constantStep]
      split
      · rfl
      · split <;> rfl
  | identifier =>
      rw [constantStep]
      split <;> rfl
  | tag text => exact constantTag_text text char
  | dollar tag contents => exact constantDollar_text tag contents char
  | quoted escapes contents =>
      rw [constantStep]
      split
      · next isMark => simp [isMark, textOf, constantHeld]
      · split
        · next isEscape => simp [isEscape.1, textOf, constantHeld]
        · simp [textOf, constantHeld]
  | escaped contents => simp [constantStep, textOf, constantHeld]
  | closing escapes contents => exact constantClosing_text escapes contents char
  | resting newline => exact constantResting_text newline char
  | restingDash newline =>
      rw [constantStep]
      split
      · rfl
      · exact constantPlain_text char
  | restingComment newline =>
      rw [constantStep]
      cases isNewline char <;> rfl

end Steps

/-- The string constants of a text and the characters outside them. -/
def constants : Divider ConstantState where
  step := constantStep
  finish := constantEnd
  start := .plain
  held := constantHeld
  start_held := rfl
  step_text := constantStep_text
  finish_text := by
    intro state
    cases state with
    | tag text => exact notTag_text text
    | dollar | quoted | escaped | closing =>
        simp [constantEnd, constantHeld, textOf, Region.text, ConstantMark.text]
    | _ => rfl

end SqlSafetyProxy.Postgres
