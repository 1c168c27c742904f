import Mathlib.Algebra.Order.Ring.Nat
import Mathlib.Data.List.Basic

/-!
# Bounded archives

An archive keeps the newest of the records appended to it, in a bounded chain of
files of a bounded size.  A record that does not fit any more starts a file of
its own, and the oldest file goes once there are too many.
-/

namespace SqlSafetyProxy.Collections

variable {ρ : Type}

/-- A chain of files, newest first, each within the capacity or of a single record. -/
structure Archive (size : ρ → Nat) (capacity backups : Nat) where
  files : List (List ρ)
  few : files.length ≤ backups + 1
  inhabited : ∀ file ∈ files, file ≠ []
  bounded : ∀ file ∈ files, (file.map size).sum ≤ capacity ∨ file.length = 1

namespace Archive

variable {size : ρ → Nat} {capacity backups : Nat}

def empty : Archive size capacity backups where
  files := []
  few := Nat.zero_le _
  inhabited := by simp
  bounded := by simp

/-- The records that are kept, oldest first. -/
def kept (archive : Archive size capacity backups) : List ρ := archive.files.reverse.flatten

/-- A further record fits into the newest file, if there is one. -/
def Fits (archive : Archive size capacity backups) (record : ρ) : Prop :=
  ∀ newest ∈ archive.files.head?, (newest.map size).sum + size record ≤ capacity

instance (archive : Archive size capacity backups) (record : ρ) :
    Decidable (archive.Fits record) :=
  inferInstanceAs (Decidable (∀ newest ∈ archive.files.head?, _ ≤ _))

/-- The record goes into the newest file. -/
def extend (archive : Archive size capacity backups) (record : ρ) (fits : archive.Fits record) :
    Archive size capacity backups where
  files := (archive.files.headD [] ++ [record]) :: archive.files.tail
  few := by
    have few := archive.few
    cases files : archive.files with
    | nil => simp
    | cons newest older => simpa [files] using few
  inhabited := by
    intro file inside
    rcases List.mem_cons.mp inside with rfl | inside
    · simp
    · exact archive.inhabited file (List.mem_of_mem_tail inside)
  bounded := by
    intro file inside
    rcases List.mem_cons.mp inside with rfl | inside
    · cases files : archive.files with
      | nil => exact .inr rfl
      | cons newest older =>
          have fits := fits newest (by simp [files])
          left
          simpa using fits
    · exact archive.bounded file (List.mem_of_mem_tail inside)

/-- The record starts a file, and the oldest of too many files goes. -/
def rotate (archive : Archive size capacity backups) (record : ρ) :
    Archive size capacity backups where
  files := [record] :: archive.files.take backups
  few := Nat.succ_le_succ (List.length_take_le backups archive.files)
  inhabited := by
    intro file inside
    rcases List.mem_cons.mp inside with rfl | inside
    · simp
    · exact archive.inhabited file (List.mem_of_mem_take inside)
  bounded := by
    intro file inside
    rcases List.mem_cons.mp inside with rfl | inside
    · exact .inr rfl
    · exact archive.bounded file (List.mem_of_mem_take inside)

/-- Append a record, to the newest file if it fits there. -/
def append (archive : Archive size capacity backups) (record : ρ) :
    Archive size capacity backups :=
  if fits : archive.Fits record then archive.extend record fits else archive.rotate record

/-! ## What appending keeps -/

theorem kept_extend (archive : Archive size capacity backups) (record : ρ)
    (fits : archive.Fits record) :
    (archive.extend record fits).kept = archive.kept ++ [record] := by
  cases files : archive.files with
  | nil => simp [kept, extend, files]
  | cons newest older => simp [kept, extend, files]

theorem kept_rotate (archive : Archive size capacity backups) (record : ρ) :
    (archive.rotate record).kept = (archive.files.take backups).reverse.flatten ++ [record] := by
  simp [kept, rotate]

/-- The records of the oldest file that an archive may have, if it has as many files. -/
def oldest (archive : Archive size capacity backups) : List ρ := archive.files.getD backups []

theorem kept_eq (archive : Archive size capacity backups) :
    archive.kept = archive.oldest ++ (archive.files.take backups).reverse.flatten := by
  have few := archive.few
  have last : archive.files.drop backups = archive.files[backups]?.toList := by
    cases found : archive.files[backups]? with
    | none =>
        have short := List.getElem?_eq_none_iff.mp found
        simpa using short
    | some file =>
        obtain ⟨inside, rfl⟩ := List.getElem?_eq_some_iff.mp found
        rw [List.drop_eq_getElem_cons inside, List.drop_eq_nil_of_le few]
        rfl
  calc archive.kept
      = (archive.files.take backups ++ archive.files.drop backups).reverse.flatten := by
        rw [List.take_append_drop, kept]
    _ = archive.oldest ++ (archive.files.take backups).reverse.flatten := by
        rw [last, oldest, List.getD_eq_getElem?_getD]
        cases archive.files[backups]? <;> simp

/-- Nothing is lost but the oldest file. -/
theorem kept_append (archive : Archive size capacity backups) (record : ρ) :
    (archive.append record).kept = archive.kept ++ [record] ∨
      ∃ later, archive.kept = archive.oldest ++ later ∧
        (archive.append record).kept = later ++ [record] := by
  unfold append
  split
  · next fits => exact .inl (kept_extend archive record fits)
  · exact .inr ⟨_, kept_eq archive, kept_rotate archive record⟩

def appendAll (archive : Archive size capacity backups) : List ρ → Archive size capacity backups
  | [] => archive
  | record :: records => (archive.append record).appendAll records

theorem kept_appendAll (archive : Archive size capacity backups) (records : List ρ) :
    (archive.appendAll records).kept <:+ archive.kept ++ records := by
  induction records generalizing archive with
  | nil => simp [appendAll]
  | cons record records ih =>
      have tail : (archive.append record).kept <:+ archive.kept ++ [record] := by
        rcases kept_append archive record with same | ⟨later, split, kept⟩
        · exact same ▸ List.suffix_rfl
        · rw [split, kept, List.append_assoc]
          exact List.suffix_append _ _
      rw [appendAll, List.append_cons]
      exact (ih (archive.append record)).trans (List.suffix_append_self_iff.mpr tail)

theorem appendAll_snoc (archive : Archive size capacity backups) (records : List ρ) (record : ρ) :
    archive.appendAll (records ++ [record]) = (archive.appendAll records).append record := by
  induction records generalizing archive with
  | nil => rfl
  | cons first records ih => exact ih (archive.append first)

/-- The newest record is never lost. -/
theorem getLast?_append (archive : Archive size capacity backups) (record : ρ) :
    (archive.append record).kept.getLast? = some record := by
  rcases kept_append archive record with same | ⟨later, -, kept⟩
  · rw [same, List.getLast?_concat]
  · rw [kept, List.getLast?_concat]

theorem getLast?_appendAll (records : List ρ) :
    ((empty : Archive size capacity backups).appendAll records).kept.getLast? =
      records.getLast? := by
  rcases List.eq_nil_or_concat records with rfl | ⟨records, record, rfl⟩
  · rfl
  · rw [List.concat_eq_append, appendAll_snoc, getLast?_append, List.getLast?_concat]

end Archive

end SqlSafetyProxy.Collections
