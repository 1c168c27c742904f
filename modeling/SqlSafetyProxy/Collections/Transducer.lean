import Mathlib.Data.List.Basic

/-!
# Transducers

A transducer reads a text from left to right and emits tokens, with those it
still owes at the end.  A token sequence with markers is filled in by putting
further sequences in their places.
-/

namespace SqlSafetyProxy.Collections

variable {σ α β : Type}

structure Transducer (σ α β : Type) where
  step : σ → α → List β × σ
  /-- What is emitted at the end of the text. -/
  finish : σ → List β

namespace Transducer

variable (machine : Transducer σ α β)

/-- What is emitted for a text, with its end. -/
def run : σ → List α → List β
  | state, [] => machine.finish state
  | state, first :: rest => (machine.step state first).1 ++ run (machine.step state first).2 rest

/-- What is emitted for a text when more follows. -/
def emitted : σ → List α → List β
  | _, [] => []
  | state, first :: rest =>
      (machine.step state first).1 ++ emitted (machine.step state first).2 rest

def after : σ → List α → σ
  | state, [] => state
  | state, first :: rest => after (machine.step state first).2 rest

theorem run_append (state : σ) (front back : List α) :
    machine.run state (front ++ back) =
      machine.emitted state front ++ machine.run (machine.after state front) back := by
  induction front generalizing state with
  | nil => rfl
  | cons first front ih =>
      rw [List.cons_append, run, ih, emitted, after, List.append_assoc]

theorem run_eq (state : σ) (text : List α) :
    machine.run state text =
      machine.emitted state text ++ machine.finish (machine.after state text) := by
  have split := machine.run_append state text []
  rwa [List.append_nil] at split

theorem after_append (state : σ) (front back : List α) :
    machine.after state (front ++ back) = machine.after (machine.after state front) back := by
  induction front generalizing state with
  | nil => rfl
  | cons first front ih => exact ih _

end Transducer

/-! ## Markers -/

section Fill

variable [DecidableEq β] (marker : β)

/-- The markers of a sequence, one after another, replaced by further sequences. -/
def fill : List β → List (List β) → Option (List β)
  | [], [] => some []
  | [], _ :: _ => none
  | token :: rest, fillings =>
      if token = marker then
        match fillings with
        | [] => none
        | filling :: fillings => (fill rest fillings).map (filling ++ ·)
      else (fill rest fillings).map (token :: ·)

variable {marker} {front rest filled : List β} {fillings : List (List β)}

theorem fill_marker (filling : List β) :
    fill marker (marker :: rest) (filling :: fillings) =
      (fill marker rest fillings).map (filling ++ ·) := by
  simp [fill]

theorem fill_token {token : β} (plain : token ≠ marker) :
    fill marker (token :: rest) fillings = (fill marker rest fillings).map (token :: ·) := by
  cases fillings <;> simp [fill, plain]

theorem fill_append (plain : marker ∉ front) :
    fill marker (front ++ rest) fillings = (fill marker rest fillings).map (front ++ ·) := by
  induction front with
  | nil => simp
  | cons token front ih =>
      rw [List.mem_cons, not_or] at plain
      rw [List.cons_append, fill_token (Ne.symm plain.1), ih plain.2, Option.map_map]
      rfl

/-- How a sequence that begins with a marker or another token is filled in. -/
theorem fill_cons {token : β} (done : fill marker (token :: rest) fillings = some filled) :
    (token = marker ∧ ∃ filling others inner, fillings = filling :: others ∧
        fill marker rest others = some inner ∧ filled = filling ++ inner) ∨
      (token ≠ marker ∧ ∃ inner, fill marker rest fillings = some inner ∧
        filled = token :: inner) := by
  by_cases isMarker : token = marker
  · subst isMarker
    cases fillings with
    | nil => simp [fill] at done
    | cons filling others =>
        rw [fill_marker] at done
        obtain ⟨inner, found, same⟩ := Option.map_eq_some_iff.mp done
        exact .inl ⟨rfl, filling, others, inner, rfl, found, same.symm⟩
  · rw [fill_token isMarker] at done
    obtain ⟨inner, found, same⟩ := Option.map_eq_some_iff.mp done
    exact .inr ⟨isMarker, inner, found, same.symm⟩

/-- There are as many markers as sequences to put in their places. -/
theorem fill_count (done : fill marker rest fillings = some filled) :
    rest.count marker = fillings.length := by
  induction rest generalizing fillings filled with
  | nil =>
      cases fillings with
      | nil => rfl
      | cons => cases done
  | cons token rest ih =>
      rcases fill_cons done with ⟨rfl, filling, others, inner, rfl, found, -⟩ |
        ⟨plain, inner, found, -⟩
      · rw [List.count_cons_self, ih found, List.length_cons]
      · rw [List.count_cons_of_ne plain, ih found]

/-- No marker is left. -/
theorem fill_clean (done : fill marker rest fillings = some filled)
    (clean : ∀ filling ∈ fillings, marker ∉ filling) : marker ∉ filled := by
  induction rest generalizing fillings filled with
  | nil =>
      cases fillings with
      | nil =>
          cases done
          exact List.not_mem_nil
      | cons => cases done
  | cons token rest ih =>
      rcases fill_cons done with ⟨-, filling, others, inner, rfl, found, rfl⟩ |
        ⟨plain, inner, found, rfl⟩
      · rw [List.mem_append, not_or]
        exact ⟨clean _ List.mem_cons_self,
          ih found fun later inside => clean later (List.mem_cons_of_mem _ inside)⟩
      · rw [List.mem_cons, not_or]
        exact ⟨Ne.symm plain, ih found clean⟩

end Fill

end SqlSafetyProxy.Collections
