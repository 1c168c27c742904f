import SqlSafetyProxy.Collections.Veils
import SqlSafetyProxy.MySql.StringConstants
import SqlSafetyProxy.Postgres.StringConstants
import SqlSafetyProxy.Runtime.Clauses

/-!
# What sanitised SQL discloses

Two texts that differ in the contents of their string constants are shown alike
where the patterns recognise the constants as the server does.  Constants
between double marks are replaced where they are the values of password clauses.
-/

namespace SqlSafetyProxy.Runtime

open SqlSafetyProxy.Wire SqlSafetyProxy.Collections
open SqlSafetyProxy.Collections.Veiled

/-! ## Password clauses over hidden values -/

/-- A constant between double marks. -/
def IsDoubled (piece : List Char) : Prop := ∃ contents, piece = '"' :: (contents ++ ['"'])

/-- A hidden constant is taken for an empty one. -/
def emptied (_ : List Char) : List Char := ['"', '"']

theorem outlines_id : Outlines id IsDoubled where
  nonempty := by
    rintro _ ⟨contents, rfl⟩
    exact List.cons_ne_nil _ _
  head _ _ := rfl
  last _ _ := rfl
  within _ _ := List.Subset.refl _

theorem outlines_emptied : Outlines emptied IsDoubled where
  nonempty := outlines_id.nonempty
  head := by
    rintro _ ⟨contents, rfl⟩
    rfl
  last := by
    rintro _ ⟨contents, rfl⟩
    rw [← List.cons_append, List.getLast?_concat]
    rfl
  within := by
    rintro _ ⟨contents, rfl⟩
    simp [emptied]

section Values

variable {shows : List Char → List Char} {symbols front back : List (Veiled Char)}

/-- What comes before the first mark is shown. -/
theorem shown_before (outlines : Outlines shows IsDoubled) (hides : Hides IsDoubled symbols)
    {text rest : List Char} (unmarked : '"' ∉ text) (split : display shows symbols = text ++ rest) :
    ∃ others, symbols = text.map .shown ++ others ∧ display shows others = rest := by
  induction text generalizing symbols with
  | nil => exact ⟨symbols, rfl, split⟩
  | cons first text ih =>
      rw [List.mem_cons, not_or] at unmarked
      cases symbols with
      | nil => cases split
      | cons symbol symbols =>
          cases symbol with
          | shown symbol =>
              obtain ⟨rfl, behind⟩ := List.cons.inj split
              obtain ⟨others, rfl, last⟩ := ih hides.tail unmarked.2 behind
              exact ⟨others, rfl, last⟩
          | hidden piece =>
              have begins := outlines.head?_display hides
              obtain ⟨contents, rfl⟩ := hides piece List.mem_cons_self
              rw [split] at begins
              exact absurd (Option.some.inj begins).symm unmarked.1

/-- A mark that occurs at the end alone is shown. -/
theorem shown_last (hides : Hides IsDoubled symbols) {mark : Char} {inner : List Char}
    (unmarked : mark ∉ inner) (split : whole symbols = inner ++ [mark]) :
    ∃ others, symbols = others ++ [.shown mark] ∧ whole others = inner := by
  rcases symbols.eq_nil_or_concat with rfl | ⟨others, symbol, rfl⟩
  · exact absurd split.symm (by simp)
  · rw [List.concat_eq_append] at hides split ⊢
    rw [whole_append] at split
    cases symbol with
    | shown symbol =>
        obtain ⟨same, last⟩ := List.append_inj' split rfl
        obtain rfl : symbol = mark := (List.cons.inj last).1
        exact ⟨others, rfl, same⟩
    | hidden piece =>
        obtain ⟨contents, rfl⟩ := hides piece (by simp)
        rw [whole_hidden, whole_nil, List.append_nil, ← List.cons_append, ← List.append_assoc]
          at split
        obtain ⟨rfl, last⟩ := List.append_inj' split rfl
        obtain rfl : '"' = mark := (List.cons.inj last).1
        exact absurd (by simp) unmarked

/-- A value of whole symbols is read whatever is hidden in it. -/
theorem clauseValue_emptied (hides : Hides IsDoubled (front ++ back))
    (read : clauseValue (whole front ++ whole back) = some (whole front)) :
    clauseValue (display emptied front ++ display emptied back) = some (display emptied front) := by
  have hidesFront := hides.subset (List.subset_append_left front back)
  have hidesBack := hides.subset (List.subset_append_right front back)
  obtain ⟨behind, split, isValue⟩ := clauseValue_iff.mp read
  obtain rfl := List.append_cancel_left split
  refine clauseValue_iff.mpr ⟨_, rfl, ?_⟩
  generalize value : whole front = text at isValue
  cases isValue with
  | @quoted mark inner _ isMark unmarked =>
      cases front with
      | nil => cases value
      | cons symbol front =>
          cases symbol with
          | shown symbol =>
              rw [whole_shown, List.cons.injEq] at value
              obtain ⟨rfl, inside⟩ := value
              obtain ⟨others, rfl, rfl⟩ := shown_last hidesFront.tail unmarked inside
              rw [display_shown, display_append]
              refine .quoted isMark fun inside => unmarked ?_
              exact outlines_emptied.display_subset
                (hidesFront.tail.subset (List.subset_append_left _ _)) inside
          | hidden piece =>
              obtain ⟨contents, rfl⟩ := hidesFront piece List.mem_cons_self
              rw [whole_hidden, List.cons_append, List.cons.injEq, List.append_assoc] at value
              obtain ⟨rfl, inside⟩ := value
              obtain ⟨later, -, last⟩ := split_outside unmarked inside.symm
              obtain rfl : front = [] := by
                refine outlines_id.eq_nil hidesFront.tail ?_
                cases later with
                | nil => exact (List.cons.inj last).2.symm
                | cons => exact absurd (congrArg List.length last) (by simp)
              exact @ClauseValue.quoted '"' [] _ isMark List.not_mem_nil
  | @word first rest _ unquoted solid ends =>
      have heads := outlines_emptied.head?_display hidesBack
      have within := outlines_emptied.display_subset hidesFront
      have withinBack := outlines_emptied.display_subset hidesBack
      cases front with
      | nil => cases value
      | cons symbol front =>
          cases symbol with
          | shown symbol =>
              have withinFront := outlines_emptied.display_subset hidesFront.tail
              rw [whole_shown, List.cons.injEq] at value
              obtain ⟨rfl, rfl⟩ := value
              refine .word ?_ ?_ ?_
              · rintro ⟨isMark, closed⟩
                refine unquoted ⟨isMark, ?_⟩
                exact (List.mem_append.mp closed).elim
                  (fun inside => List.mem_append_left _ (withinFront inside))
                  (fun inside => List.mem_append_right _ (withinBack inside))
              · intro char inside
                exact solid char (within inside)
              · rwa [heads]
          | hidden piece =>
              obtain ⟨contents, rfl⟩ := hidesFront piece List.mem_cons_self
              rw [whole_hidden, List.cons_append, List.cons.injEq] at value
              obtain ⟨rfl, rfl⟩ := value
              exact absurd ⟨.inr rfl, by simp⟩ unquoted

/-- No mark is part of a keyword or of the blanks behind it. -/
theorem unmarked_keyword {keyword gap : List Char} (isKeyword : Keyword keyword)
    (blank : ∀ char ∈ gap, isSpace char = true) : '"' ∉ keyword ++ gap := by
  intro inside
  rcases List.mem_append.mp inside with inside | inside
  · rcases isKeyword.chars _ inside with letter | space
    · exact absurd letter (by decide)
    · exact absurd space (by decide)
  · exact absurd (blank _ inside) (by decide)

/-- Clauses are found whatever is hidden in their values. -/
theorem passwordClause_respects (isAlnum : Char → Bool) :
    (passwordClause isAlnum).Respects emptied IsDoubled where
  unmatched := by
    intro before symbol rest hides unmatched
    cases matched : passwordClause isAlnum before (symbol :: display emptied rest) with
    | none => rfl
    | some answer =>
        obtain ⟨replacement, found⟩ := answer
        obtain ⟨-, left, split⟩ := passwordClause_proper isAlnum _ _ _ _ matched
        rw [← split] at matched
        obtain ⟨keyword, gap, value, rfl, isKeyword, boundary, gapped, blank, readValue, -⟩ :=
          passwordClause_keyword matched
        have text : display emptied (.shown symbol :: rest) =
            keyword ++ gap ++ (value ++ left) := by
          rw [display_shown, ← split]
          simp
        obtain ⟨others, isRest, behind⟩ :=
          shown_before outlines_emptied hides.shown (unmarked_keyword isKeyword blank) text
        have isWhole : symbol :: whole rest = keyword ++ (gap ++ whole others) := by
          rw [← whole_shown, isRest, whole_append, whole_map_shown, List.append_assoc]
        have hidesOthers : Hides IsDoubled others :=
          hides.shown.subset (by rw [isRest]; exact List.subset_append_right _ _)
        have solid := clauseValue_some_head readValue
        rw [← behind, outlines_emptied.head?_display hidesOthers] at solid
        have here : atBoundary isAlnum before (keyword ++ (gap ++ whole others)) = true := by
          rw [← boundary, split, ← isWhole]
          exact atBoundary_congr rfl
        rw [isWhole] at unmatched
        exact absurd unmatched (passwordClause_ne_none here isKeyword gapped blank solid)
  matched := by
    intro before symbol front back replacement hides matched
    have hidesFront := hides.subset (List.subset_append_left front back)
    rw [whole_append, ← List.cons_append] at matched
    obtain ⟨keyword, gap, value, split, isKeyword, boundary, gapped, blank, readValue, rfl⟩ :=
      passwordClause_keyword matched
    obtain ⟨others, isFront, rfl⟩ := shown_before outlines_id hidesFront.shown
      (unmarked_keyword isKeyword blank) (split.trans (List.append_assoc ..).symm)
    have isShown : symbol :: display emptied front =
        keyword ++ (gap ++ display emptied others) := by
      rw [← display_shown, isFront, display_append, display_map_shown, List.append_assoc]
    have hidesOthers : Hides IsDoubled (others ++ back) := by
      have hidesAll : Hides IsDoubled (.shown symbol :: (front ++ back)) := hides.shown
      refine hidesAll.subset ?_
      rw [← List.cons_append, isFront, List.append_assoc]
      exact List.subset_append_right _ _
    have here : atBoundary isAlnum before (keyword ++ (gap ++
        (display emptied others ++ display emptied back))) = true := by
      rw [← boundary]
      refine atBoundary_congr ?_
      rw [← List.append_assoc gap, ← List.append_assoc keyword, ← isShown]
      rfl
    have readShown := clauseValue_emptied hidesOthers readValue
    rw [display_append, ← List.cons_append, isShown, List.append_assoc, List.append_assoc]
    exact passwordClause_eq_some here isKeyword gapped blank readShown

end Values

/-! ## Disclosure -/

/-- Whose lexical rules say what a string constant is. -/
inductive Lexicon where
  | postgres | mySql
  deriving DecidableEq, Repr

def Lexicon.regions : Lexicon → List Char → List Region
  | .postgres => Postgres.constants.regions
  | .mySql => MySql.constants.regions

theorem Lexicon.textOf_regions (lexicon : Lexicon) (text : List Char) :
    textOf (lexicon.regions text) = text := by
  cases lexicon with
  | postgres => exact Postgres.constants.textOf_regions text
  | mySql => exact MySql.constants.textOf_regions text

/-- Where the other text has another constant between double marks this one is hidden. -/
def veil (region other : Region) : List (Veiled Char) :=
  match region with
  | .constant .double _ =>
      if region = other then region.text.map .shown else [.hidden region.text]
  | _ => region.masked.map .shown

def veils (regions others : List Region) : List (Veiled Char) :=
  (List.zipWith veil regions others).flatten

theorem whole_veil (region other : Region) : whole (veil region other) = region.masked := by
  unfold veil
  split
  · split
    · exact whole_map_shown _
    · exact List.append_nil _
  · exact whole_map_shown _

theorem hides_veil (region other : Region) : Hides IsDoubled (veil region other) := by
  have shows : ∀ text : List Char, Hides IsDoubled (text.map .shown) := by
    intro text piece inside
    obtain ⟨_, -, same⟩ := List.mem_map.mp inside
    cases same
  unfold veil
  split
  · next contents =>
    split
    · exact shows _
    · intro piece inside
      obtain rfl : piece = _ := (Veiled.hidden.inj (List.mem_singleton.mp inside))
      exact ⟨contents, rfl⟩
  · exact shows _

/-- Regions that differ in their contents alone are taken for one another. -/
theorem display_veil {region other : Region} (alike : region.erase = other.erase)
    (unfinished : region.unfinished = other.unfinished) :
    display emptied (veil region other) = display emptied (veil other region) := by
  cases region with
  | outside char =>
      cases other with
      | outside =>
          cases alike
          rfl
      | constant => cases alike
      | unclosed => cases alike
  | constant mark contents =>
      cases other with
      | outside => cases alike
      | constant mark' contents' =>
          obtain ⟨rfl, -⟩ := Region.constant.inj alike
          cases mark with
          | single => rfl
          | dollar tag => rfl
          | double =>
              by_cases same : contents = contents'
              · rw [same]
              · have differ : Region.constant .double contents ≠ .constant .double contents' :=
                  fun equal => same (Region.constant.inj equal).2
                rw [veil, if_neg differ, veil, if_neg differ.symm]
                rfl
      | unclosed => cases alike
  | unclosed mark contents =>
      cases other with
      | outside => cases alike
      | constant => cases alike
      | unclosed mark' contents' =>
          obtain ⟨rfl, -⟩ := Region.unclosed.inj alike
          obtain rfl : contents = contents' := unfinished
          rfl

section Veils

variable {regions others : List Region} (alike : regions.map Region.erase = others.map Region.erase)
include alike

theorem whole_veils : whole (veils regions others) = regions.flatMap Region.masked := by
  induction regions generalizing others with
  | nil => rfl
  | cons region regions ih =>
      cases others with
      | nil => cases alike
      | cons other others =>
          have later := ih (List.cons.inj alike).2
          rw [veils] at later
          rw [veils, List.zipWith_cons_cons, List.flatten_cons, whole_append, whole_veil, later,
            List.flatMap_cons]

omit alike in
theorem hides_veils : Hides IsDoubled (veils regions others) := by
  intro piece inside
  obtain ⟨symbols, isVeil, found⟩ := List.mem_flatten.mp inside
  obtain ⟨place, _, rfl⟩ := List.mem_iff_getElem.mp isVeil
  rw [List.getElem_zipWith] at found
  exact hides_veil _ _ piece found

theorem display_veils
    (unfinished : regions.map Region.unfinished = others.map Region.unfinished) :
    display emptied (veils regions others) = display emptied (veils others regions) := by
  induction regions generalizing others with
  | nil =>
      cases others with
      | nil => rfl
      | cons => cases alike
  | cons region regions ih =>
      cases others with
      | nil => cases alike
      | cons other others =>
          obtain ⟨here, behind⟩ := List.cons.inj alike
          obtain ⟨contents, contentsBehind⟩ := List.cons.inj unfinished
          have later := ih behind contentsBehind
          rw [veils, veils] at later
          rw [veils, veils, List.zipWith_cons_cons, List.zipWith_cons_cons, List.flatten_cons,
            List.flatten_cons, display_append, display_append, display_veil here contents, later]

end Veils

/-- The constants between double marks that differ from the other text's lie in clauses. -/
def clausesCover (isAlnum : Char → Bool) (regions others : List Region) : Bool :=
  (passwordClause isAlnum).covers 0 none (veils regions others)

/-- Clauses show nothing of what differs between the texts. -/
theorem substitute_regions {isAlnum : Char → Bool} {regions others : List Region}
    (alike : regions.map Region.erase = others.map Region.erase)
    (covered : clausesCover isAlnum regions others = true) :
    (passwordClause isAlnum).substitute 0 none (regions.flatMap Region.masked) =
      (passwordClause isAlnum).substitute 0 none (display emptied (veils regions others)) := by
  rw [← whole_veils alike]
  exact (passwordClause_respects isAlnum).substitute outlines_emptied
    (passwordClause_proper isAlnum) hides_veils covered

/-- What is shown does not depend on the contents of recognised constants. -/
theorem sanitizeSql_discloses_nothing (lexicon : Lexicon) (isAlnum : Char → Bool)
    (sql other : String) (maxChars : Nat)
    (alike : (lexicon.regions sql.toList).map Region.erase =
      (lexicon.regions other.toList).map Region.erase)
    (here : recognized (lexicon.regions sql.toList) = true)
    (there : recognized (lexicon.regions other.toList) = true)
    (unfinished : (lexicon.regions sql.toList).map Region.unfinished =
      (lexicon.regions other.toList).map Region.unfinished)
    (covered : clausesCover isAlnum (lexicon.regions sql.toList)
      (lexicon.regions other.toList) = true)
    (covered' : clausesCover isAlnum (lexicon.regions other.toList)
      (lexicon.regions sql.toList) = true) :
    sanitizeSql isAlnum sql maxChars = sanitizeSql isAlnum other maxChars := by
  have shown := maskQuotations_regions here
  have shown' := maskQuotations_regions there
  rw [lexicon.textOf_regions] at shown shown'
  refine sanitizeSql_congr ?_
  rw [shown, shown', substitute_regions alike covered, substitute_regions alike.symm covered',
    display_veils alike unfinished]

/-- Constants of each kind, and a password between double marks. -/
theorem sanitizeSql_discloses_nothing_statement :
    sanitizeSql (fun _ => false) "SELECT 'it''s', E'\\'', $t$a'b$t$ FROM \"t\" -- x" 2048 =
        sanitizeSql (fun _ => false) "SELECT 'a;b', E'', $t$$t$ FROM \"t\" -- x" 2048 ∧
      sanitizeSql (fun _ => false) "CREATE USER \"u\" IDENTIFIED BY \"a;b\" COMMENT 'a'" 2048 =
        sanitizeSql (fun _ => false) "CREATE USER \"u\" IDENTIFIED BY \"c d\" COMMENT 'b'" 2048 :=
  ⟨sanitizeSql_discloses_nothing .postgres _ _ _ _ (by decide +kernel) (by decide +kernel)
      (by decide +kernel) (by decide +kernel) (by decide +kernel) (by decide +kernel),
    sanitizeSql_discloses_nothing .mySql _ _ _ _ (by decide +kernel) (by decide +kernel)
      (by decide +kernel) (by decide +kernel) (by decide +kernel) (by decide +kernel)⟩

/-- A backslash before a closing mark, and a constant between double marks, disclose contents. -/
theorem sanitizeSql_discloses :
    ((Lexicon.postgres.regions "SELECT '\\', 'a'".toList).map Region.erase =
        (Lexicon.postgres.regions "SELECT '\\', 'b'".toList).map Region.erase ∧
      sanitizeSql (fun _ => false) "SELECT '\\', 'a'" 2048 ≠
        sanitizeSql (fun _ => false) "SELECT '\\', 'b'" 2048) ∧
    (Lexicon.mySql.regions "SELECT \"a\"".toList).map Region.erase =
        (Lexicon.mySql.regions "SELECT \"b\"".toList).map Region.erase ∧
      sanitizeSql (fun _ => false) "SELECT \"a\"" 2048 ≠
        sanitizeSql (fun _ => false) "SELECT \"b\"" 2048 := by
  decide +kernel

end SqlSafetyProxy.Runtime
