import SqlSafetyProxy.Collections.Patterns

/-!
# Veiled texts

An observer is not to learn what some pieces of a text hold.  Where every such
piece lies within a match, a pattern that respects them makes the same of the
text whatever they hold.
-/

namespace SqlSafetyProxy.Collections

variable {α : Type}

/-- A symbol of a text, or a piece that is hidden from the observer. -/
inductive Veiled (α : Type) where
  | shown (symbol : α)
  | hidden (piece : List α)
  deriving DecidableEq, Repr

namespace Veiled

/-- The text in which something is shown of each hidden piece. -/
def display (shows : List α → List α) (symbols : List (Veiled α)) : List α :=
  symbols.flatMap fun
    | .shown symbol => [symbol]
    | .hidden piece => shows piece

/-- The text with its hidden pieces. -/
def whole (symbols : List (Veiled α)) : List α := display id symbols

variable {shows : List α → List α} {symbols : List (Veiled α)}

@[simp] theorem display_nil : display shows [] = [] := rfl

@[simp] theorem display_shown (symbol : α) :
    display shows (.shown symbol :: symbols) = symbol :: display shows symbols := rfl

@[simp] theorem display_hidden (piece : List α) :
    display shows (.hidden piece :: symbols) = shows piece ++ display shows symbols := rfl

@[simp] theorem display_append (front back : List (Veiled α)) :
    display shows (front ++ back) = display shows front ++ display shows back :=
  List.flatMap_append

@[simp] theorem display_map_shown (text : List α) : display shows (text.map .shown) = text := by
  induction text with
  | nil => rfl
  | cons symbol text ih => rw [List.map_cons, display_shown, ih]

@[simp] theorem whole_nil : whole ([] : List (Veiled α)) = [] := rfl

@[simp] theorem whole_shown (symbol : α) :
    whole (.shown symbol :: symbols) = symbol :: whole symbols := rfl

@[simp] theorem whole_hidden (piece : List α) :
    whole (.hidden piece :: symbols) = piece ++ whole symbols := rfl

theorem whole_append (front back : List (Veiled α)) :
    whole (front ++ back) = whole front ++ whole back := display_append front back

theorem whole_map_shown (text : List α) : whole (text.map .shown) = text := display_map_shown text

/-- A condition on all hidden pieces. -/
def Hides (isPiece : List α → Prop) (symbols : List (Veiled α)) : Prop :=
  ∀ piece, .hidden piece ∈ symbols → isPiece piece

variable {isPiece : List α → Prop}

theorem Hides.subset {part : List (Veiled α)} (hides : Hides isPiece symbols)
    (within : part ⊆ symbols) : Hides isPiece part :=
  fun piece inside => hides piece (within inside)

theorem Hides.tail {symbol : Veiled α} (hides : Hides isPiece (symbol :: symbols)) :
    Hides isPiece symbols := hides.subset (List.subset_cons_self _ _)

theorem Hides.shown {symbol : α} (hides : Hides isPiece symbols) :
    Hides isPiece (.shown symbol :: symbols) := by
  intro piece inside
  rcases List.mem_cons.mp inside with same | inside
  · cases same
  · exact hides piece inside

/-- What is shown of a piece begins and ends as it does, and has no other symbols. -/
structure Outlines (shows : List α → List α) (isPiece : List α → Prop) : Prop where
  nonempty : ∀ piece, isPiece piece → piece ≠ []
  head : ∀ piece, isPiece piece → (shows piece).head? = piece.head?
  last : ∀ piece, isPiece piece → (shows piece).getLast? = piece.getLast?
  within : ∀ piece, isPiece piece → shows piece ⊆ piece

namespace Outlines

variable (outlines : Outlines shows isPiece) (hides : Hides isPiece symbols)
include outlines hides

theorem head?_display : (display shows symbols).head? = (whole symbols).head? := by
  cases symbols with
  | nil => rfl
  | cons symbol symbols =>
      cases symbol with
      | shown symbol => rfl
      | hidden piece =>
          have hidden := hides piece List.mem_cons_self
          have begins := outlines.head piece hidden
          obtain ⟨first, rest, rfl⟩ := List.exists_cons_of_ne_nil (outlines.nonempty piece hidden)
          rw [display_hidden, List.head?_append, begins]
          rfl

theorem getLast?_display (before : Option α) :
    (display shows symbols).getLast?.or before = (whole symbols).getLast?.or before := by
  induction symbols generalizing before with
  | nil => rfl
  | cons symbol symbols ih =>
      cases symbol with
      | shown symbol =>
          rw [whole_shown, display_shown, Pattern.getLast?_cons_or,
            Pattern.getLast?_cons_or]
          exact ih hides.tail _
      | hidden piece =>
          rw [whole_hidden, display_hidden, List.getLast?_append, List.getLast?_append,
            Option.or_assoc, Option.or_assoc, outlines.last piece (hides piece List.mem_cons_self)]
          exact ih hides.tail _

theorem eq_nil (empty : whole symbols = []) : symbols = [] := by
  cases symbols with
  | nil => rfl
  | cons symbol symbols =>
      cases symbol with
      | shown symbol => cases empty
      | hidden piece =>
          rw [whole_hidden, List.append_eq_nil_iff] at empty
          exact absurd empty.1 (outlines.nonempty piece (hides piece List.mem_cons_self))

theorem display_subset : display shows symbols ⊆ whole symbols := by
  intro symbol inside
  obtain ⟨veiled, isSymbol, inside⟩ := List.mem_flatMap.mp inside
  refine List.mem_flatMap.mpr ⟨veiled, isSymbol, ?_⟩
  cases veiled with
  | shown => exact inside
  | hidden piece => exact outlines.within piece (hides piece isSymbol) inside

end Outlines

end Veiled

open Veiled

namespace Pattern

/-- Each hidden piece lies within a match; `skip` symbols belong to the last one. -/
def covers (pattern : Pattern α) : Nat → Option α → List (Veiled α) → Bool
  | _, _, [] => true
  | skip, before, .hidden piece :: rest =>
      decide (piece.length ≤ skip) &&
        covers pattern (skip - piece.length) (piece.getLast?.or before) rest
  | skip + 1, _, .shown symbol :: rest => covers pattern skip (some symbol) rest
  | 0, before, .shown symbol :: rest =>
      match pattern before (whole (.shown symbol :: rest)) with
      | none => covers pattern 0 (some symbol) rest
      | some (_, found) => covers pattern (found.length - 1) (some symbol) rest

variable {pattern : Pattern α} {before : Option α}

/-- A match that covers what it meets ends between two symbols. -/
theorem covers_skip {skip : Nat} {symbols : List (Veiled α)}
    (covered : pattern.covers skip before symbols = true) (long : skip ≤ (whole symbols).length) :
    ∃ front back, symbols = front ++ back ∧ (whole front).length = skip ∧
      pattern.covers 0 ((whole front).getLast?.or before) back = true := by
  induction symbols generalizing skip before with
  | nil =>
      obtain rfl : skip = 0 := Nat.le_zero.mp long
      exact ⟨[], [], rfl, rfl, covered⟩
  | cons symbol symbols ih =>
      cases symbol with
      | shown symbol =>
          cases skip with
          | zero => exact ⟨[], _, rfl, rfl, covered⟩
          | succ skip =>
              rw [covers] at covered
              obtain ⟨front, back, rfl, size, later⟩ := ih covered (Nat.le_of_succ_le_succ long)
              refine ⟨.shown symbol :: front, back, rfl, by simp [size], ?_⟩
              rw [whole_shown, getLast?_cons_or]
              exact later
      | hidden piece =>
          rw [covers, Bool.and_eq_true, decide_eq_true_eq] at covered
          obtain ⟨fits, covered⟩ := covered
          rw [whole_hidden, List.length_append] at long
          obtain ⟨front, back, rfl, size, later⟩ := ih covered (by omega)
          refine ⟨.hidden piece :: front, back, rfl, ?_, ?_⟩
          · rw [whole_hidden, List.length_append, size]
            omega
          · rw [whole_hidden, List.getLast?_append, Option.or_assoc]
            exact later

/-- The pattern treats what is shown of the pieces as the pieces where it does not cut them. -/
structure Respects (pattern : Pattern α) (shows : List α → List α) (isPiece : List α → Prop) :
    Prop where
  unmatched : ∀ {before symbol rest}, Hides isPiece rest →
    pattern before (symbol :: whole rest) = none →
    pattern before (symbol :: display shows rest) = none
  matched : ∀ {before symbol front back replacement}, Hides isPiece (front ++ back) →
    pattern before (symbol :: whole (front ++ back)) = some (replacement, symbol :: whole front) →
    pattern before (symbol :: display shows (front ++ back)) =
      some (replacement, symbol :: display shows front)

variable {shows : List α → List α} {isPiece : List α → Prop} {symbols : List (Veiled α)}

theorem last_cons (first : α) (front : List α) :
    (first :: front).getLast? = front.getLast?.or (some first) := by
  rw [← getLast?_cons_or, Option.or_none]

/-- Covered pieces do not change the outcome of the scan. -/
theorem Respects.scans (respects : pattern.Respects shows isPiece)
    (outlines : Outlines shows isPiece) (proper : pattern.Proper) (hides : Hides isPiece symbols)
    (covered : pattern.covers 0 before symbols = true)
    {out : List α} (scanned : pattern.Scans before (whole symbols) out) :
    pattern.Scans before (display shows symbols) out := by
  induction size : symbols.length using Nat.strongRecOn generalizing before symbols out with
  | ind size ih =>
      cases symbols with
      | nil => exact scanned
      | cons symbol rest =>
          have hidesRest := hides.subset (List.subset_cons_self symbol rest)
          cases symbol with
          | hidden piece =>
              rw [covers, Bool.and_eq_true, decide_eq_true_eq] at covered
              exact absurd (List.length_eq_zero_iff.mp (Nat.le_zero.mp covered.1))
                (outlines.nonempty piece (hides piece List.mem_cons_self))
          | shown symbol =>
              rw [covers] at covered
              rw [whole_shown] at covered scanned
              cases matched : pattern before (symbol :: whole rest) with
              | none =>
                  rw [matched] at covered
                  obtain ⟨later, rfl, scannedRest⟩ := scanned.keep_inv matched
                  exact .keep (respects.unmatched hidesRest matched)
                    (ih _ (by simp [← size]) hidesRest covered scannedRest rfl)
              | some answer =>
                  obtain ⟨replacement, found⟩ := answer
                  rw [matched] at covered
                  obtain ⟨nonempty, left, split⟩ := proper _ _ _ _ matched
                  obtain ⟨head, found, rfl⟩ := List.exists_cons_of_ne_nil nonempty
                  rw [List.cons_append, List.cons.injEq] at split
                  obtain ⟨rfl, split⟩ := split
                  obtain ⟨front, back, rfl, length, coveredBack⟩ := covers_skip covered
                    (by rw [← split]; simp)
                  -- The match is a row of whole symbols.
                  rw [whole_append] at split
                  obtain ⟨rfl, rfl⟩ := List.append_inj split length.symm
                  have hidesFront : Hides isPiece front :=
                    hidesRest.subset (List.subset_append_left front back)
                  have hidesBack : Hides isPiece back :=
                    hidesRest.subset (List.subset_append_right front back)
                  rw [whole_append, ← List.cons_append] at scanned
                  have matchedHere := respects.matched hidesRest matched
                  rw [whole_append, ← List.cons_append] at matched
                  rw [display_append, ← List.cons_append] at matchedHere
                  obtain ⟨later, rfl, scannedBack⟩ := scanned.replace_inv matched nonempty
                  rw [display_shown, display_append, ← List.cons_append]
                  refine .replace matchedHere (by simp) ?_
                  rw [last_cons, outlines.getLast?_display hidesFront]
                  rw [last_cons] at scannedBack
                  refine ih _ ?_ hidesBack coveredBack scannedBack rfl
                  rw [← size, List.length_cons, List.length_append]
                  omega

/-- Texts that differ in covered pieces alone are treated alike. -/
theorem Respects.substitute (respects : pattern.Respects shows isPiece)
    (outlines : Outlines shows isPiece) (proper : pattern.Proper) (hides : Hides isPiece symbols)
    (covered : pattern.covers 0 before symbols = true) :
    pattern.substitute 0 before (whole symbols) =
      pattern.substitute 0 before (display shows symbols) := by
  have scanned := respects.scans outlines proper hides covered
    (Pattern.scans proper before (whole symbols))
  exact (substitute_eq_of_scans proper scanned).symm

end Pattern

end SqlSafetyProxy.Collections
