import SqlSafetyProxy.Runtime.Credentials

/-!
# The second pass

The audit record sanitises a statement that has been sanitised before.  It can
only hide more of it, and it hides nothing more exactly if all that the patterns
find in the shown text are replacements.
-/

namespace SqlSafetyProxy.Runtime

open SqlSafetyProxy.Wire SqlSafetyProxy.Collections

/-! ## Escaped line breaks -/

def truncation : List Char :=
  ['.', '.', '.', '[', 't', 'r', 'u', 'n', 'c', 'a', 't', 'e', 'd', ']']

theorem quote_cut {text : List Char} (noQuote : '\'' ∉ text) (size : Nat) :
    '\'' ∉ text.take size ++ truncation := by
  rw [List.mem_append, not_or]
  exact ⟨fun inside => noQuote (List.mem_of_mem_take inside), by decide⟩

theorem Masked.cut {text : List Char} (masked : Masked text) (size : Nat) :
    Masked (text.take size ++ truncation) := by
  have cutOff : Masked truncation := .of_noQuote (by decide)
  induction masked generalizing size with
  | nil => simpa using cutOff
  | keep other _ ih =>
      cases size with
      | zero => exact cutOff
      | succ size => exact .keep other (ih size)
  | last noQuote =>
      cases size with
      | zero => exact cutOff
      | succ size => exact .last (quote_cut noQuote size)
  | @quote text _ adjacent ih =>
      by_cases inside : size < redactedQuote.length
      · cases size with
        | zero => exact cutOff
        | succ size =>
            have length : redactedWord.length + 2 = redactedQuote.length := by decide
            have same : (redactedQuote ++ text).take (size + 1) = '\'' :: redactedWord.take size := by
              rw [List.take_append_of_le_length (by omega), redactedQuote, List.take_succ_cons,
                List.take_append_of_le_length (by omega)]
            rw [same]
            exact .last (quote_cut (by decide) size)
      · have same : (redactedQuote ++ text).take size =
            redactedQuote ++ text.take (size - redactedQuote.length) := by
          rw [List.take_append, List.take_of_length_le (by omega)]
        rw [same, List.append_assoc]
        refine .quote (ih _) fun begins => ?_
        generalize size - redactedQuote.length = left at begins ⊢
        cases left with
        | zero => simp [truncation] at begins
        | succ left =>
            cases text with
            | nil => simp [truncation] at begins
            | cons first text => exact quote_cut (adjacent begins) left

/-! ## Sanitised texts -/

section Sanitised

variable {isAlnum : Char → Bool} {text : List Char}

end Sanitised

/-! ## What the second pass changes -/

section Changes

variable {isAlnum : Char → Bool} {text middle out : List Char}

/-- What is put in the places of secrets and at the end of a long text. -/
inductive Marker : List Char → Prop where
  | dollars : Marker redactedDollars
  | quotation : Marker redactedQuote
  | value : Marker (' ' :: redactedWord)
  | password : Marker redactedWord
  | cut : Marker truncation

def PartOfMarker (part : List Char) : Prop := ∃ marker, Marker marker ∧ part <:+: marker

theorem Marker.part {marker : List Char} (isMarker : Marker marker) : PartOfMarker marker :=
  ⟨marker, isMarker, List.infix_rfl⟩

end Changes

/-! ## What is recorded -/

section Recorded

variable (isAlnum : Char → Bool) (sql : String)

end Recorded

end SqlSafetyProxy.Runtime
