import Mathlib.Data.List.Basic
import Mathlib.Data.List.Infix

/-!
# Patterns and substitution

A pattern says what it matches at a place of a text, and what is put in the
match's place.  A text is scanned from left to right; behind a match the scan
goes on with what the match has left.
-/

namespace SqlSafetyProxy.Collections

variable {α : Type}

/-- The replacement and the match at the front of a text, with the symbol before the text. -/
abbrev Pattern (α : Type) := Option α → List α → Option (List α × List α)

namespace Pattern

/-- A match is not empty and lies at the front of the text. -/
def Proper (pattern : Pattern α) : Prop :=
  ∀ before text replacement found, pattern before text = some (replacement, found) →
    found ≠ [] ∧ found <+: text

/-- Put in the replacements; `skip` symbols belong to the last match. -/
def substitute (pattern : Pattern α) : Nat → Option α → List α → List α
  | _, _, [] => []
  | skip + 1, _, first :: rest => substitute pattern skip (some first) rest
  | 0, before, first :: rest =>
      match pattern before (first :: rest) with
      | none => first :: substitute pattern 0 (some first) rest
      | some (replacement, found) =>
          replacement ++ substitute pattern (found.length - 1) (some first) rest

/-- The scan of a text and what comes of it. -/
inductive Scans (pattern : Pattern α) : Option α → List α → List α → Prop where
  | nil {before : Option α} : Scans pattern before [] []
  | keep {before : Option α} {first : α} {rest out : List α} :
      pattern before (first :: rest) = none → Scans pattern (some first) rest out →
      Scans pattern before (first :: rest) (first :: out)
  | replace {before : Option α} {found rest replacement out : List α} :
      pattern before (found ++ rest) = some (replacement, found) → found ≠ [] →
      Scans pattern found.getLast? rest out →
      Scans pattern before (found ++ rest) (replacement ++ out)

variable {pattern : Pattern α} {before : Option α} {text out : List α}

theorem substitute_skip (first : α) (found rest : List α) :
    pattern.substitute found.length (some first) (found ++ rest) =
      pattern.substitute 0 (first :: found).getLast? rest := by
  induction found generalizing first with
  | nil => rfl
  | cons second found ih =>
      rw [List.length_cons, List.cons_append, substitute, ih, List.getLast?_cons_cons]

/-- Substitution scans the text. -/
theorem scans (proper : pattern.Proper) (before : Option α) (text : List α) :
    pattern.Scans before text (pattern.substitute 0 before text) := by
  induction size : text.length using Nat.strongRecOn generalizing before text with
  | ind size ih =>
      cases text with
      | nil => exact .nil
      | cons first rest =>
          rw [substitute]
          cases matched : pattern before (first :: rest) with
          | none => exact .keep matched (ih rest.length (by simp [← size]) _ _ rfl)
          | some answer =>
              obtain ⟨replacement, found⟩ := answer
              obtain ⟨nonempty, left, split⟩ := proper _ _ _ _ matched
              obtain ⟨head, found, rfl⟩ := List.exists_cons_of_ne_nil nonempty
              rw [List.cons_append, List.cons.injEq] at split
              obtain ⟨rfl, rfl⟩ := split
              dsimp only
              rw [List.length_cons, Nat.add_sub_cancel, substitute_skip]
              refine .replace matched nonempty (ih left.length ?_ _ _ rfl)
              simp only [List.length_cons, List.length_append] at size
              omega

theorem Scans.nil_inv (scanned : pattern.Scans before [] out) : [] = out := by
  generalize same : ([] : List α) = empty at scanned
  cases scanned with
  | nil => rfl
  | keep => cases same
  | replace _ nonempty => exact absurd (List.append_eq_nil_iff.mp same.symm).1 nonempty

theorem Scans.keep_inv {first : α} {rest : List α} (unmatched : pattern before (first :: rest) = none)
    (scanned : pattern.Scans before (first :: rest) out) :
    ∃ later, out = first :: later ∧ pattern.Scans (some first) rest later := by
  generalize same : first :: rest = whole at scanned
  cases scanned with
  | nil => cases same
  | keep _ scanned =>
      obtain ⟨rfl, rfl⟩ := List.cons.inj same
      exact ⟨_, rfl, scanned⟩
  | replace matched =>
      rw [← same, unmatched] at matched
      cases matched

theorem Scans.replace_inv {replacement found rest : List α}
    (matched : pattern before (found ++ rest) = some (replacement, found)) (nonempty : found ≠ [])
    (scanned : pattern.Scans before (found ++ rest) out) :
    ∃ later, out = replacement ++ later ∧ pattern.Scans found.getLast? rest later := by
  generalize same : found ++ rest = whole at scanned
  cases scanned with
  | nil => exact absurd (List.append_eq_nil_iff.mp same).1 nonempty
  | keep unmatched =>
      rw [← same, matched] at unmatched
      cases unmatched
  | replace matchedAgain _ scanned =>
      rw [← same, matched] at matchedAgain
      obtain ⟨rfl, rfl⟩ := Prod.mk.inj (Option.some.inj matchedAgain)
      obtain rfl := List.append_cancel_left same
      exact ⟨_, rfl, scanned⟩

/-- A scan has one outcome. -/
theorem Scans.unique (one : pattern.Scans before text out) {other : List α}
    (another : pattern.Scans before text other) : out = other := by
  induction one generalizing other with
  | nil => exact another.nil_inv
  | keep unmatched _ ih =>
      obtain ⟨later, rfl, scanned⟩ := another.keep_inv unmatched
      rw [ih scanned]
  | replace matched nonempty _ ih =>
      obtain ⟨later, rfl, scanned⟩ := another.replace_inv matched nonempty
      rw [ih scanned]

/-- No match begins within the symbols, whatever precedes and follows them. -/
def Inert (pattern : Pattern α) (front : List α) : Prop :=
  ∀ piece back, front = piece ++ back → back ≠ [] → ∀ before rest,
    pattern before (back ++ rest) = none

theorem Inert.tail {first : α} {front : List α} (inert : pattern.Inert (first :: front)) :
    pattern.Inert front :=
  fun piece back split => inert (first :: piece) back (by rw [split]; rfl)

theorem getLast?_cons_or (first : α) (front : List α) (before : Option α) :
    (first :: front).getLast?.or before = front.getLast?.or (some first) := by
  rw [List.getLast?_cons]
  cases front.getLast? <;> rfl

/-- The scan passes over inert symbols. -/
theorem Scans.skip {front rest : List α} (inert : pattern.Inert front)
    (scanned : pattern.Scans before (front ++ rest) out) :
    ∃ later, out = front ++ later ∧ pattern.Scans (front.getLast?.or before) rest later := by
  induction front generalizing before out with
  | nil => exact ⟨out, rfl, scanned⟩
  | cons first front ih =>
      have unmatched := inert [] (first :: front) rfl (by simp) before rest
      obtain ⟨middle, rfl, scannedFront⟩ := Scans.keep_inv unmatched scanned
      obtain ⟨later, rfl, scannedRest⟩ := ih inert.tail scannedFront
      exact ⟨later, rfl, getLast?_cons_or .. ▸ scannedRest⟩

/-- A text in which nothing is matched but what is replaced by itself. -/
theorem substitute_eq_of_scans (proper : pattern.Proper)
    (scanned : pattern.Scans before text out) : pattern.substitute 0 before text = out :=
  (scans proper before text).unique scanned

/-- The scan matches nothing but what is replaced by itself. -/
inductive Fixes (pattern : Pattern α) : Option α → List α → Prop where
  | nil {before : Option α} : Fixes pattern before []
  | keep {before : Option α} {first : α} {rest : List α} : pattern before (first :: rest) = none →
      Fixes pattern (some first) rest → Fixes pattern before (first :: rest)
  | replace {before : Option α} {found rest : List α} :
      pattern before (found ++ rest) = some (found, found) → found ≠ [] →
      Fixes pattern found.getLast? rest → Fixes pattern before (found ++ rest)

theorem Fixes.scans (fixes : pattern.Fixes before text) : pattern.Scans before text text := by
  induction fixes with
  | nil => exact .nil
  | keep unmatched _ ih => exact .keep unmatched ih
  | replace matched nonempty _ ih => exact .replace matched nonempty ih

end Pattern

/-- A symbol outside a block stands behind all of it. -/
theorem split_outside {block text front rest : List α} {symbol : α} (outside : symbol ∉ block)
    (same : block ++ text = front ++ symbol :: rest) :
    ∃ later, front = block ++ later ∧ text = later ++ symbol :: rest := by
  obtain ⟨middle, rfl, split⟩ | ⟨middle, rfl, split⟩ := List.append_eq_append_iff.mp same
  · exact ⟨middle, rfl, split⟩
  · cases middle with
    | nil => exact ⟨[], (List.append_nil _).symm.trans (List.append_nil _).symm, split.symm⟩
    | cons head middle =>
        obtain ⟨rfl, -⟩ := List.cons.inj split
        exact absurd (by simp) outside

/-- Two blocks without a symbol that both end at its first place are the same. -/
theorem split_unique {front other rest behind : List α} {symbol : α} (outside : symbol ∉ front)
    (outside' : symbol ∉ other) (same : front ++ symbol :: rest = other ++ symbol :: behind) :
    front = other ∧ rest = behind := by
  obtain ⟨later, -, split⟩ := split_outside outside same
  obtain ⟨later', -, split'⟩ := split_outside outside' same.symm
  have sizes := congrArg List.length split
  have sizes' := congrArg List.length split'
  simp only [List.length_append, List.length_cons] at sizes sizes'
  have empty : later = [] := List.length_eq_zero_iff.mp (by omega)
  rw [empty, List.nil_append, List.cons.injEq] at split
  rw [split.2] at same
  exact ⟨List.append_cancel_right same, split.2⟩

/-! ## Rewritten texts -/

/-- One text comes of another by putting inserted pieces in the places of dropped ones. -/
inductive Rewritten (inserted : List α → Prop) : List α → List α → Prop where
  | nil : Rewritten inserted [] []
  | keep {first : α} {text out : List α} : Rewritten inserted text out →
      Rewritten inserted (first :: text) (first :: out)
  | insert {dropped piece text out : List α} : inserted piece → Rewritten inserted text out →
      Rewritten inserted (dropped ++ text) (piece ++ out)

namespace Rewritten

variable {inserted : List α → Prop} {text out : List α}

theorem keeps (rewritten : Rewritten inserted text out) (front : List α) :
    Rewritten inserted (front ++ text) (front ++ out) := by
  induction front with
  | nil => exact rewritten
  | cons first front ih => exact .keep ih

theorem mono {other : List α → Prop} (rewritten : Rewritten inserted text out)
    (implies : ∀ piece, inserted piece → other piece) : Rewritten other text out := by
  induction rewritten with
  | nil => exact .nil
  | keep _ ih => exact .keep ih
  | insert isInserted _ ih => exact .insert (implies _ isInserted) ih

/-- No inserted piece is empty or begins with the symbol. -/
def Kept (inserted : List α → Prop) (symbol : α) : Prop :=
  ∀ piece, inserted piece → piece ≠ [] ∧ piece.head? ≠ some symbol

/-- A symbol that is in no inserted piece comes from the text. -/
theorem find {front : List α} {symbol : α} (absent : ∀ piece, inserted piece → symbol ∉ piece)
    (rewritten : Rewritten inserted text (front ++ symbol :: out)) :
    ∃ before rest, text = before ++ symbol :: rest ∧ Rewritten inserted rest out := by
  generalize same : front ++ symbol :: out = whole at rewritten
  induction rewritten generalizing front with
  | nil => simp at same
  | @keep first text later rewritten ih =>
      cases front with
      | nil =>
          obtain ⟨rfl, rfl⟩ := List.cons.inj same
          exact ⟨[], text, rfl, rewritten⟩
      | cons head front =>
          obtain ⟨-, same⟩ := List.cons.inj same
          obtain ⟨before, rest, rfl, later⟩ := ih same
          exact ⟨first :: before, rest, rfl, later⟩
  | @insert dropped piece text later isInserted rewritten ih =>
      obtain ⟨middle, rfl, split⟩ | ⟨middle, rfl, split⟩ := List.append_eq_append_iff.mp same
      · cases middle with
        | nil =>
            obtain ⟨before, rest, rfl, last⟩ := @ih [] split
            exact ⟨dropped ++ before, rest, (List.append_assoc ..).symm, last⟩
        | cons head middle =>
            obtain ⟨rfl, -⟩ := List.cons.inj split
            exact absurd (by simp) (absent _ isInserted)
      · obtain ⟨before, rest, rfl, last⟩ := ih split.symm
        exact ⟨dropped ++ before, rest, (List.append_assoc ..).symm, last⟩

/-- A symbol is kept, or it belongs to an inserted piece. -/
theorem mem {symbol : α} (rewritten : Rewritten inserted text out) (inside : symbol ∈ out) :
    symbol ∈ text ∨ ∃ piece, inserted piece ∧ symbol ∈ piece := by
  induction rewritten with
  | nil => cases inside
  | keep _ ih =>
      rcases List.mem_cons.mp inside with rfl | inside
      · exact .inl List.mem_cons_self
      · exact (ih inside).imp (List.mem_cons_of_mem _) id
  | @insert dropped piece text out isInserted _ ih =>
      rcases List.mem_append.mp inside with inside | inside
      · exact .inr ⟨piece, isInserted, inside⟩
      · exact (ih inside).imp (List.mem_append_right _) id

/-- Every part of an inserted piece may be inserted. -/
def Divisible (inserted : List α → Prop) : Prop :=
  ∀ piece part, inserted piece → part <:+: piece → inserted part

/-- What is in front of a place comes from what was in front of some place. -/
theorem split {front : List α} (divisible : Divisible inserted)
    (rewritten : Rewritten inserted text (front ++ out)) :
    ∃ before rest, text = before ++ rest ∧ Rewritten inserted before front ∧
      Rewritten inserted rest out := by
  generalize same : front ++ out = whole at rewritten
  induction rewritten generalizing front with
  | nil =>
      obtain ⟨rfl, rfl⟩ := List.append_eq_nil_iff.mp same
      exact ⟨[], [], rfl, .nil, .nil⟩
  | @keep first text later rewritten ih =>
      cases front with
      | nil =>
          obtain rfl : out = first :: later := same
          exact ⟨[], first :: text, rfl, .nil, .keep rewritten⟩
      | cons head front =>
          rw [List.cons_append, List.cons.injEq] at same
          obtain ⟨rfl, same⟩ := same
          obtain ⟨before, rest, rfl, inFront, behind⟩ := ih same
          exact ⟨head :: before, rest, rfl, .keep inFront, behind⟩
  | @insert dropped piece text later isInserted rewritten ih =>
      obtain ⟨middle, rfl, divided⟩ | ⟨middle, rfl, divided⟩ := List.append_eq_append_iff.mp same
      · have inFront := divisible _ front isInserted (List.infix_append [] front middle)
        have behind := divisible _ middle isInserted (List.suffix_append front middle).isInfix
        refine ⟨dropped, text, rfl, ?_, ?_⟩
        · have whole : Rewritten inserted (dropped ++ []) (front ++ []) := .insert inFront .nil
          rwa [List.append_nil, List.append_nil] at whole
        · rw [divided]
          exact @insert _ _ [] middle _ _ behind rewritten
      · obtain ⟨before, rest, rfl, inFront, behind⟩ := ih divided.symm
        exact ⟨dropped ++ before, rest, (List.append_assoc ..).symm, .insert isInserted inFront,
          behind⟩

theorem append {front other : List α} (rewritten : Rewritten inserted text out)
    (later : Rewritten inserted front other) : Rewritten inserted (text ++ front) (out ++ other) := by
  induction rewritten with
  | nil => exact later
  | keep _ ih => exact .keep ih
  | insert isInserted _ ih =>
      rw [List.append_assoc, List.append_assoc]
      exact .insert isInserted ih

/-- Rewriting twice is rewriting. -/
theorem trans {middle : List α} (divisible : Divisible inserted)
    (first : Rewritten inserted text middle) (second : Rewritten inserted middle out) :
    Rewritten inserted text out := by
  induction second generalizing text with
  | nil => exact first
  | @keep symbol middle out _ ih =>
      obtain ⟨before, rest, rfl, inFront, behind⟩ := @split _ _ _ _ [symbol] divisible first
      exact inFront.append (ih behind)
  | insert isInserted _ ih =>
      obtain ⟨before, rest, rfl, -, behind⟩ := split divisible first
      exact .insert isInserted (ih behind)

end Rewritten

namespace Pattern

/-- What is replaced is a piece of the match, and the piece in its place is an inserted one. -/
def Inserts (pattern : Pattern α) (inserted : List α → Prop) : Prop :=
  ∀ before text replacement found, pattern before text = some (replacement, found) →
    ∃ front dropped piece back, inserted piece ∧ replacement = front ++ (piece ++ back) ∧
      found = front ++ (dropped ++ back)

theorem Inserts.mono {pattern : Pattern α} {inserted other : List α → Prop}
    (inserts : pattern.Inserts inserted) (implies : ∀ piece, inserted piece → other piece) :
    pattern.Inserts other := by
  intro before text replacement found matched
  obtain ⟨front, dropped, piece, back, isInserted, split⟩ := inserts _ _ _ _ matched
  exact ⟨front, dropped, piece, back, implies piece isInserted, split⟩

theorem Scans.rewritten {pattern : Pattern α} {inserted : List α → Prop}
    (inserts : pattern.Inserts inserted) {before : Option α} {text out : List α}
    (scanned : pattern.Scans before text out) : Rewritten inserted text out := by
  induction scanned with
  | nil => exact .nil
  | keep _ _ ih => exact .keep ih
  | replace matched _ _ ih =>
      obtain ⟨front, dropped, piece, back, isInserted, rfl, rfl⟩ := inserts _ _ _ _ matched
      simp only [List.append_assoc]
      exact Rewritten.keeps (.insert isInserted (ih.keeps back)) front

/-! ## Blocks -/

section Blocks

variable [DecidableEq α] (pattern : Pattern α)

/-- No match begins in the block. -/
def passes (block rest : List α) : Bool :=
  block.tails.all fun back => back.isEmpty || (pattern none (back ++ rest)).isNone

/-- The pattern matches nothing but whole blocks, and puts in what stands beside them. -/
def aligned : List (List α × List α) → Bool
  | [] => true
  | (block, out) :: rest =>
      ((block == out && pattern.passes block (rest.flatMap Prod.fst)) ||
        (!block.isEmpty && pattern none (block ++ rest.flatMap Prod.fst) == some (out, block))) &&
      aligned rest

end Blocks

/-- A pattern that does not look at the symbol before. -/
def Blind (pattern : Pattern α) : Prop := ∀ before text, pattern before text = pattern none text

theorem passes_scans [DecidableEq α] {pattern : Pattern α} (blind : pattern.Blind)
    {block rest out : List α} {before : Option α} (passes : pattern.passes block rest = true)
    (scanned : pattern.Scans (block.getLast?.or before) rest out) :
    pattern.Scans before (block ++ rest) (block ++ out) := by
  induction block generalizing before with
  | nil => exact scanned
  | cons first block ih =>
      rw [Pattern.passes, List.tails_cons, List.all_cons, Bool.and_eq_true] at passes
      obtain ⟨here, later⟩ := passes
      rw [List.isEmpty_cons, Bool.false_or, Option.isNone_iff_eq_none, ← blind before] at here
      rw [getLast?_cons_or] at scanned
      exact .keep here (ih later scanned)

/-- Aligned blocks are replaced one by one. -/
theorem aligned_scans [DecidableEq α] {pattern : Pattern α} (blind : pattern.Blind)
    {blocks : List (List α × List α)} (isAligned : pattern.aligned blocks = true)
    (before : Option α) :
    pattern.Scans before (blocks.flatMap Prod.fst) (blocks.flatMap Prod.snd) := by
  induction blocks generalizing before with
  | nil => exact .nil
  | cons block blocks ih =>
      obtain ⟨block, out⟩ := block
      rw [Pattern.aligned, Bool.and_eq_true] at isAligned
      obtain ⟨here, later⟩ := isAligned
      rw [List.flatMap_cons, List.flatMap_cons]
      rcases Bool.or_eq_true_iff.mp here with kept | replaced
      · obtain ⟨same, passes⟩ := Bool.and_eq_true_iff.mp kept
        rw [← eq_of_beq same]
        exact passes_scans blind passes (ih later _)
      · obtain ⟨nonempty, matched⟩ := Bool.and_eq_true_iff.mp replaced
        have matchedHere := eq_of_beq matched
        rw [← blind before] at matchedHere
        exact .replace matchedHere (by simpa using nonempty) (ih later _)

end Pattern

end SqlSafetyProxy.Collections
