import SqlSafetyProxy.Runtime.Sanitization
import Mathlib.Data.List.Infix

/-!
# Quotations behind the substitutions

No dollar quotation arises in a text without one, and the replaced single
quotations are found again, whatever the later substitutions do to the text
around them.
-/

namespace SqlSafetyProxy.Runtime

open SqlSafetyProxy.Wire SqlSafetyProxy.Collections

/-! ## Dollar quotations -/

/-- Marks are those of replaced quotations, but for one behind them. -/
inductive Masked : List Char → Prop where
  | nil : Masked []
  | keep {char : Char} {text : List Char} : char ≠ '\'' → Masked text → Masked (char :: text)
  | last {text : List Char} : '\'' ∉ text → Masked ('\'' :: text)
  | quote {text : List Char} : Masked text → (text.head? = some '\'' → '\'' ∉ text.tail) →
      Masked (redactedQuote ++ text)

theorem quotedBody_eq_none_iff {text : List Char} : quotedBody text = none ↔ '\'' ∉ text := by
  induction text using quotedBody.induct with
  | case1 => simp [quotedBody]
  | case2 rest ih => simp [quotedBody]
  | case3 rest other =>
      rw [quotedBody]
      · simp
      · exact other
  | case4 char rest ih ih' =>
      rw [quotedBody, Option.or_eq_none_iff]
      simp only [Option.map_eq_none_iff, ih, ih']
      simp
  | case5 char rest noPair noQuote noEscape ih =>
      rw [quotedBody, Option.map_eq_none_iff, ih]
      · have other : '\'' ≠ char := fun same => noQuote same.symm
        simp [other]
      · exact noPair
      · exact noQuote
      · exact noEscape

namespace Masked

theorem of_noQuote {text : List Char} (noQuote : '\'' ∉ text) : Masked text := by
  induction text with
  | nil => exact .nil
  | cons char text ih =>
      rw [List.mem_cons, not_or] at noQuote
      exact .keep (Ne.symm noQuote.1) (ih noQuote.2)

theorem append {front text : List Char} (noQuote : '\'' ∉ front) (masked : Masked text) :
    Masked (front ++ text) := by
  induction front with
  | nil => exact masked
  | cons char front ih =>
      rw [List.mem_cons, not_or] at noQuote
      exact .keep (Ne.symm noQuote.1) (ih noQuote.2)

/-- Behind a symbol that is not part of a replaced quotation anything masked may follow. -/
theorem replace {front rest out : List Char} {symbol : Char} (outside : symbol ∉ redactedQuote)
    (masked : Masked (front ++ symbol :: rest)) (maskedOut : Masked out)
    (noQuote : '\'' ∉ rest → '\'' ∉ out) : Masked (front ++ symbol :: out) := by
  have other : symbol ≠ '\'' := by
    rintro rfl
    exact outside (by decide)
  generalize same : front ++ symbol :: rest = whole at masked
  induction masked generalizing front with
  | nil => simp at same
  | @keep char text different _ ih =>
      cases front with
      | nil => exact .keep other maskedOut
      | cons head front =>
          rw [List.cons_append, List.cons.injEq] at same
          obtain ⟨rfl, behind⟩ := same
          exact .keep different (ih behind)
  | @last text unquoted =>
      cases front with
      | nil => exact absurd (List.cons.inj same).1 other
      | cons head front =>
          rw [List.cons_append, List.cons.injEq] at same
          obtain ⟨rfl, rfl⟩ := same
          simp only [List.mem_append, List.mem_cons, not_or] at unquoted
          rw [List.cons_append]
          refine .last ?_
          simp only [List.mem_append, List.mem_cons, not_or]
          exact ⟨unquoted.1, unquoted.2.1, noQuote unquoted.2.2⟩
  | @quote text _ adjacent ih =>
      obtain ⟨later, rfl, rfl⟩ := split_outside outside same.symm
      rw [List.append_assoc]
      refine .quote (ih rfl) ?_
      intro begins
      cases later with
      | nil => exact absurd (Option.some.inj begins) other
      | cons head later =>
          have unquoted := adjacent begins
          simp only [List.cons_append, List.tail_cons, List.mem_append, List.mem_cons,
            not_or] at unquoted ⊢
          exact ⟨unquoted.1, unquoted.2.1, noQuote unquoted.2.2⟩

/-- What stands behind such a symbol is masked. -/
theorem drop {front rest : List Char} {symbol : Char} (outside : symbol ∉ redactedQuote)
    (masked : Masked (front ++ symbol :: rest)) : Masked rest := by
  generalize same : front ++ symbol :: rest = whole at masked
  induction masked generalizing front with
  | nil => simp at same
  | @keep char text different masked ih =>
      cases front with
      | nil =>
          obtain ⟨rfl, rfl⟩ := List.cons.inj same
          exact masked
      | cons head front =>
          rw [List.cons_append, List.cons.injEq] at same
          exact ih same.2
  | @last text unquoted =>
      cases front with
      | nil =>
          obtain ⟨rfl, -⟩ := List.cons.inj same
          exact absurd (by decide) outside
      | cons head front =>
          rw [List.cons_append, List.cons.injEq] at same
          obtain ⟨rfl, rfl⟩ := same
          refine of_noQuote fun inside => unquoted ?_
          exact List.mem_append_right _ (List.mem_cons_of_mem _ inside)
  | quote _ _ ih =>
      obtain ⟨later, rfl, rfl⟩ := split_outside outside same.symm
      exact ih rfl

end Masked

/-- Without marks there is nothing to replace. -/
theorem scans_noQuote {text : List Char} (noQuote : '\'' ∉ text) (before : Option Char) :
    singleQuoted.Scans before text text := by
  induction text generalizing before with
  | nil => exact .nil
  | cons char text ih =>
      rw [List.mem_cons, not_or] at noQuote
      refine .keep ?_ (ih noQuote.2 _)
      rw [singleQuoted]
      exact fun _ same => noQuote.1 (List.cons.inj same).1.symm

theorem singleQuoted_last {text : List Char} (noQuote : '\'' ∉ text) (before : Option Char) :
    singleQuoted before ('\'' :: text) = none := by
  rw [singleQuoted, Option.map_eq_none_iff, quotedBody_eq_none_iff]
  exact noQuote

/-- A replaced quotation is read to its end. -/
theorem singleQuoted_redacted {text : List Char} (adjacent : text.head? = some '\'' →
    '\'' ∉ text.tail) (before : Option Char) :
    singleQuoted before (redactedQuote ++ text) = some (redactedQuote, redactedQuote) := by
  have ends : quotedBody ('\'' :: text) = some ['\''] := by
    cases text with
    | nil => rfl
    | cons char text =>
        by_cases same : char = '\''
        · subst same
          have none_ := quotedBody_eq_none_iff.mpr (adjacent rfl)
          rw [List.tail_cons] at none_
          rw [quotedBody, none_]
          rfl
        · rw [quotedBody]
          exact fun _ split => same (List.cons.inj split).1
  have read : quotedBody (redactedWord ++ '\'' :: text) = some (redactedWord ++ ['\'']) := by
    simp [redactedWord, quotedBody, ends]
  rw [redactedQuote, List.cons_append, List.append_assoc, List.singleton_append, singleQuoted, read]
  rfl

namespace Masked

/-- The second pass finds the replaced quotations again. -/
theorem scans {text : List Char} (masked : Masked text) (before : Option Char) :
    singleQuoted.Scans before text text := by
  induction masked generalizing before with
  | nil => exact .nil
  | keep other _ ih =>
      refine .keep ?_ (ih _)
      rw [singleQuoted]
      exact fun _ same => other (List.cons.inj same).1
  | last unquoted => exact .keep (singleQuoted_last unquoted before) (scans_noQuote unquoted _)
  | quote masked adjacent ih =>
      exact .replace (singleQuoted_redacted adjacent before) (by decide) (ih _)

end Masked

section Pass

variable {pattern : Pattern Char} {before : Option Char} {text out : List Char}

end Pass

section Secrets

variable {isAlnum : Char → Bool}

/-- What follows the gap is the value and the text behind the clause. -/
theorem passwordClause_split {before : Option Char} {rest replacement found : List Char}
    (matched : passwordClause isAlnum before (found ++ rest) = some (replacement, found)) :
    ∃ keyword gap value, clauseKeyword (found ++ rest) = some (keyword, gap ++ (value ++ rest)) ∧
      gap ≠ [] ∧ (∀ char ∈ gap, isSpace char = true) ∧
      clauseValue (value ++ rest) = some value ∧ replacement = keyword ++ ' ' :: redactedWord ∧
      found = keyword ++ (gap ++ value) := by
  obtain ⟨-, keyword, later, value, readKeyword, gapped, readValue, rfl, rfl⟩ :=
    passwordClause_eq matched
  obtain ⟨split, -⟩ := clauseKeyword_eq readKeyword
  have whole : later = later.takeWhile isSpace ++ (value ++ rest) := by
    rw [List.append_assoc] at split
    exact (List.append_cancel_left split).symm.trans (List.append_assoc ..)
  have left : later.dropWhile isSpace = value ++ rest := by
    have parts := (List.takeWhile_append_dropWhile (p := isSpace) (l := later)).trans whole
    exact List.append_cancel_left parts
  refine ⟨keyword, later.takeWhile isSpace, value, ?_, gapped,
    List.all_eq_true.mp List.all_takeWhile, left ▸ readValue, rfl, rfl⟩
  rw [readKeyword, ← whole]

end Secrets

end SqlSafetyProxy.Runtime
