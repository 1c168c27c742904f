import Mathlib.Algebra.Order.Ring.Nat
import Mathlib.Data.Finmap

/-!
# Dictionaries

Finite maps with the operations of a dictionary that association lists lack:
keeping the entries that meet a condition, the number of entries and the total
of a weight over them.
-/

namespace SqlSafetyProxy.Collections

abbrev Dict (κ ν : Type) := AList fun _ : κ => ν

namespace Dict

variable {κ ν : Type}

/-- The entries whose key and value meet the condition. -/
def filter (keeps : κ → ν → Bool) (dict : Dict κ ν) : Dict κ ν where
  entries := dict.entries.filter fun entry => keeps entry.1 entry.2
  nodupKeys := dict.nodupKeys.sublist List.filter_sublist

/-- The number of entries. -/
def count (dict : Dict κ ν) : Nat := dict.entries.length

/-- The sum of a weight over the entries. -/
def total (weight : κ → ν → Nat) (dict : Dict κ ν) : Nat :=
  (dict.entries.map fun entry => weight entry.1 entry.2).sum

theorem count_eq_total (dict : Dict κ ν) : count dict = total (fun _ _ => 1) dict := by
  simp [count, total]

/-- Entries that are left out take their weight with them. -/
theorem total_filter_le (weight : κ → ν → Nat) (keeps : κ → ν → Bool) (dict : Dict κ ν) :
    total weight (filter keeps dict) ≤ total weight dict := by
  simp only [total, filter]
  induction dict.entries with
  | nil => exact Nat.le_refl _
  | cons entry rest ih =>
      rw [List.filter_cons]
      split
      · simp only [List.map_cons, List.sum_cons]
        omega
      · simp only [List.map_cons, List.sum_cons]
        omega

variable [DecidableEq κ]

theorem lookup_filter_eq_some {keeps : κ → ν → Bool} {dict : Dict κ ν} {key : κ} {value : ν} :
    (filter keeps dict).lookup key = some value ↔
      dict.lookup key = some value ∧ keeps key value = true := by
  rw [← Option.mem_def, ← Option.mem_def, AList.mem_lookup_iff, AList.mem_lookup_iff]
  exact List.mem_filter

theorem lookup_erase_eq_some {dict : Dict κ ν} {key erased : κ} {value : ν} :
    (dict.erase erased).lookup key = some value ↔
      dict.lookup key = some value ∧ key ≠ erased := by
  by_cases same : key = erased
  · subst same
    simp
  · simp [AList.lookup_erase_ne same, same]

theorem lookup_filter_eq_none {keeps : κ → ν → Bool} {dict : Dict κ ν} {key : κ}
    (absent : dict.lookup key = none) : (filter keeps dict).lookup key = none := by
  refine Option.eq_none_iff_forall_ne_some.mpr fun value present => ?_
  obtain ⟨present, -⟩ := lookup_filter_eq_some.mp present
  rw [absent] at present
  cases present

theorem lookup_erase_eq_none {dict : Dict κ ν} {key erased : κ}
    (absent : dict.lookup key = none) : (dict.erase erased).lookup key = none := by
  refine Option.eq_none_iff_forall_ne_some.mpr fun value present => ?_
  obtain ⟨present, -⟩ := lookup_erase_eq_some.mp present
  rw [absent] at present
  cases present

theorem lookup_insert_eq_some {dict : Dict κ ν} {key inserted : κ} {value added : ν} :
    (dict.insert inserted added).lookup key = some value ↔
      (key = inserted ∧ value = added) ∨ (key ≠ inserted ∧ dict.lookup key = some value) := by
  by_cases same : key = inserted
  · subst same
    simp [eq_comm]
  · simp [AList.lookup_insert_ne same, same]

/-! ## Totals -/

theorem total_insert (weight : κ → ν → Nat) (dict : Dict κ ν) (key : κ) (value : ν) :
    total weight (dict.insert key value) = weight key value + total weight (dict.erase key) := by
  simp [total, AList.erase]

theorem erase_eq_self {dict : Dict κ ν} {key : κ} (absent : dict.lookup key = none) :
    dict.erase key = dict := by
  apply AList.ext
  exact List.kerase_of_notMem_keys (AList.lookup_eq_none.mp absent)

/-- An entry that is erased takes its weight with it. -/
theorem total_erase (weight : κ → ν → Nat) {dict : Dict κ ν} {key : κ} {value : ν}
    (known : dict.lookup key = some value) :
    total weight (dict.erase key) + weight key value = total weight dict := by
  have present : key ∈ dict.entries.keys := by
    rw [← List.dlookup_isSome]
    exact Option.isSome_iff_exists.mpr ⟨value, known⟩
  obtain ⟨found, before, after, fresh, split, erased⟩ := List.exists_of_kerase present
  have same : found = value := by
    have looked : dict.entries.dlookup key = some value := known
    rw [split, List.dlookup_append, List.dlookup_eq_none.mpr fresh] at looked
    simpa using looked
  subst same
  simp only [total, AList.erase, erased]
  rw [split]
  simp only [List.map_append, List.map_cons, List.sum_append, List.sum_cons]
  omega

theorem total_erase_le (weight : κ → ν → Nat) (dict : Dict κ ν) (key : κ) :
    total weight (dict.erase key) ≤ total weight dict := by
  cases known : dict.lookup key with
  | none => rw [erase_eq_self known]
  | some value =>
      have split := total_erase weight known
      omega

/-- The weight of a dictionary in which an entry replaces the one under its key. -/
theorem total_insert_of_lookup (weight : κ → ν → Nat) {dict : Dict κ ν} {key : κ} {old : ν}
    (known : dict.lookup key = some old) (value : ν) :
    total weight (dict.insert key value) + weight key old =
      total weight dict + weight key value := by
  have split := total_erase weight known
  rw [total_insert]
  omega

theorem total_insert_of_absent (weight : κ → ν → Nat) {dict : Dict κ ν} {key : κ}
    (absent : dict.lookup key = none) (value : ν) :
    total weight (dict.insert key value) = total weight dict + weight key value := by
  rw [total_insert, erase_eq_self absent, Nat.add_comm]

end Dict

end SqlSafetyProxy.Collections
