import SqlSafetyProxy.Collections.Transducer
import SqlSafetyProxy.Runtime.Sanitization

/-!
# String constants in sanitised SQL

A server's lexical rules divide a text into string constants and the characters
outside them.  Where the quotation patterns find the constants, and nothing
else, what is shown of the text does not depend on their contents.
-/

namespace SqlSafetyProxy.Runtime

open SqlSafetyProxy.Wire SqlSafetyProxy.Collections

/-! ## Regions of a text -/

/-- What opens and closes a string constant. -/
inductive ConstantMark where
  | single | double
  /-- A tag between dollars. -/
  | dollar (tag : List Char)
  deriving DecidableEq, Repr

def ConstantMark.text : ConstantMark → List Char
  | .single => ['\'']
  | .double => ['"']
  | .dollar tag => '$' :: (tag ++ ['$'])

inductive Region where
  | outside (char : Char)
  | constant (mark : ConstantMark) (contents : List Char)
  /-- A constant that the text does not close. -/
  | unclosed (mark : ConstantMark) (contents : List Char)
  deriving DecidableEq, Repr

namespace Region

def text : Region → List Char
  | .outside char => [char]
  | .constant mark contents => mark.text ++ contents ++ mark.text
  | .unclosed mark contents => mark.text ++ contents

/-- A region without the contents of its constant. -/
def erase : Region → Region
  | .outside char => .outside char
  | .constant mark _ => .constant mark []
  | .unclosed mark _ => .unclosed mark []

/-- The contents of a constant that is not closed. -/
def unfinished : Region → List Char
  | .unclosed _ contents => contents
  | _ => []

/-- The region with a dollar quotation replaced. -/
def withoutDollars : Region → List Char
  | .constant (.dollar _) _ => redactedDollars
  | region => region.text

/-- The region with its quotation replaced. -/
def masked : Region → List Char
  | .constant .single _ => redactedQuote
  | region => region.withoutDollars

end Region

def textOf (regions : List Region) : List Char := regions.flatMap Region.text

theorem textOf_append (front back : List Region) :
    textOf (front ++ back) = textOf front ++ textOf back :=
  List.flatMap_append

/-- The patterns match whole constants and nothing else. -/
def recognized (regions : List Region) : Bool :=
  dollarQuoted.aligned (regions.map fun region => (region.text, region.withoutDollars)) &&
    singleQuoted.aligned (regions.map fun region => (region.withoutDollars, region.masked))

theorem dollarQuoted_blind : dollarQuoted.Blind := fun _ _ => rfl

theorem singleQuoted_blind : singleQuoted.Blind := by
  intro before text
  unfold singleQuoted
  split
  · rfl
  · rfl

/-- Of recognised constants only the marks are shown. -/
theorem maskQuotations_regions {regions : List Region} (isRecognized : recognized regions = true) :
    maskQuotations (textOf regions) = regions.flatMap Region.masked := by
  obtain ⟨dollars, quotes⟩ := Bool.and_eq_true_iff.mp isRecognized
  have scanned := Pattern.aligned_scans dollarQuoted_blind dollars none
  have scanned' := Pattern.aligned_scans singleQuoted_blind quotes none
  simp only [List.flatMap_map] at scanned scanned'
  rw [maskQuotations, textOf, Pattern.substitute_eq_of_scans dollarQuoted_proper scanned,
    Pattern.substitute_eq_of_scans singleQuoted_proper scanned']

/-- What sanitising makes of two texts that are alike with their passwords replaced. -/
theorem sanitizeSql_congr {isAlnum : Char → Bool} {sql other : String} {maxChars : Nat}
    (same : (passwordClause isAlnum).substitute 0 none (maskQuotations sql.toList) =
      (passwordClause isAlnum).substitute 0 none (maskQuotations other.toList)) :
    sanitizeSql isAlnum sql maxChars = sanitizeSql isAlnum other maxChars := by
  rw [sanitizeSql, sanitizeSql, maskSecrets, maskSecrets, same]

/-! ## Dividing a text -/

/-- A transducer whose regions, with the symbols it still holds, are the text it has read. -/
structure Divider (σ : Type) extends Transducer σ Char Region where
  start : σ
  held : σ → List Char
  start_held : held start = []
  step_text : ∀ state char,
    textOf (step state char).1 ++ held (step state char).2 = held state ++ [char]
  finish_text : ∀ state, textOf (finish state) = held state

namespace Divider

variable {σ : Type} (divider : Divider σ)

def regions (text : List Char) : List Region := divider.run divider.start text

theorem textOf_run (state : σ) (text : List Char) :
    textOf (divider.run state text) = divider.held state ++ text := by
  induction text generalizing state with
  | nil => rw [Transducer.run, divider.finish_text, List.append_nil]
  | cons char text ih =>
      rw [Transducer.run, textOf_append, ih, ← List.append_assoc, divider.step_text,
        List.append_assoc]
      rfl

/-- The regions make up the text. -/
theorem textOf_regions (text : List Char) : textOf (divider.regions text) = text := by
  rw [regions, textOf_run, divider.start_held, List.nil_append]

end Divider

end SqlSafetyProxy.Runtime
