import SqlSafetyProxy.Runtime.Quotations

/-!
# Password clauses

Where a clause begins and ends, and when the scan finds no clause but replaced
ones.
-/

namespace SqlSafetyProxy.Runtime

open SqlSafetyProxy.Wire SqlSafetyProxy.Collections

/-! ## Keywords -/

theorem blank_code {char : Char} (blank : isSpace char = true) :
    char.toNat ≤ 0x20 ∨ 0x80 ≤ char.toNat := by
  unfold isSpace at blank
  simp only [Bool.or_eq_true, Bool.and_eq_true, decide_eq_true_eq, beq_iff_eq] at blank
  omega

/-- A blank matches itself alone. -/
theorem foldCase_blank {char : Char} (blank : isSpace char = true) :
    foldCase char = char ∧ char.isLower = false ∧ char.isDigit = false := by
  have code := blank_code blank
  have value : char.val.toNat = char.toNat := rfl
  have small : ∀ other, isSpace other = false → char ≠ other := by
    rintro other solid rfl
    rw [blank] at solid
    cases solid
  have notUpper : ¬ (char.val ≥ 'A'.val ∧ char.val ≤ 'Z'.val) := by
    rintro ⟨atLeast, atMost⟩
    have lower : 65 ≤ char.val.toNat := UInt32.le_iff_toNat_le.mp atLeast
    have upper : char.val.toNat ≤ 90 := UInt32.le_iff_toNat_le.mp atMost
    omega
  refine ⟨?_, ?_, ?_⟩
  · have kept : char.toLower = char := dif_neg notUpper
    rw [foldCase, if_neg, if_neg (small _ (by decide)), if_neg (small _ (by decide)), kept]
    rintro (same | same)
    · exact small _ (by decide) same
    · exact small _ (by decide) same
  · have isLower : char.isLower =
        (decide (char.val ≥ 'a'.val) && decide (char.val ≤ 'z'.val)) := rfl
    simp only [isLower, Bool.and_eq_false_iff, decide_eq_false_iff_not, ge_iff_le,
      UInt32.le_iff_toNat_le]
    change ¬ 97 ≤ char.toNat ∨ ¬ char.toNat ≤ 122
    omega
  · simp only [Char.isDigit, Bool.and_eq_false_iff, decide_eq_false_iff_not, ge_iff_le,
      UInt32.le_iff_toNat_le]
    change ¬ 48 ≤ char.toNat ∨ ¬ char.toNat ≤ 57
    omega

theorem letter_solid {char : Char} (letter : isLetter char = true) : isSpace char = false := by
  cases blank : isSpace char with
  | false => rfl
  | true =>
      obtain ⟨same, notLower, -⟩ := foldCase_blank blank
      rw [isLetter, same, notLower] at letter
      cases letter

theorem caseless_iff {word text found rest : List Char} :
    caseless word text = some (found, rest) ↔ text = found ++ rest ∧ found.map foldCase = word := by
  refine ⟨caseless_eq, ?_⟩
  rintro ⟨rfl, rfl⟩
  induction found with
  | nil => rfl
  | cons char found ih => rw [List.map_cons, List.cons_append, caseless, if_pos rfl, ih]; rfl

/-- `PASSWORD`, or `IDENTIFIED BY` with blanks between the words. -/
inductive Keyword : List Char → Prop where
  | password {word : List Char} :
      word.map foldCase = ['p', 'a', 's', 's', 'w', 'o', 'r', 'd'] → Keyword word
  | identifiedBy {identified gap by_ : List Char} :
      identified.map foldCase = ['i', 'd', 'e', 'n', 't', 'i', 'f', 'i', 'e', 'd'] → gap ≠ [] →
      (∀ char ∈ gap, isSpace char = true) → by_.map foldCase = ['b', 'y'] →
      Keyword (identified ++ (gap ++ by_))

/-- What a word of small letters is matched by are letters. -/
theorem letters_of_folded {word found : List Char} (folded : found.map foldCase = word)
    (small : word.all Char.isLower = true) : ∀ char ∈ found, isLetter char = true := by
  intro char inside
  have image := List.mem_map_of_mem (f := foldCase) inside
  rw [folded] at image
  exact List.all_eq_true.mp small _ image

/-- Blanks end where a solid symbol follows. -/
theorem takeWhile_blanks {gap rest : List Char} (blank : ∀ char ∈ gap, isSpace char = true)
    (solid : ∀ char ∈ rest.head?, isSpace char = false) :
    (gap ++ rest).takeWhile isSpace = gap ∧ (gap ++ rest).dropWhile isSpace = rest := by
  rw [List.takeWhile_append_of_pos blank, List.dropWhile_append_of_pos blank]
  cases rest with
  | nil => simp
  | cons first rest => simp [solid first rfl]

theorem clauseKeyword_iff {text keyword rest : List Char} :
    clauseKeyword text = some (keyword, rest) ↔ text = keyword ++ rest ∧ Keyword keyword := by
  constructor
  · intro read
    obtain ⟨split, folded | ⟨identified, gap, by_, rfl, folded, gapped, blank, foldedBy⟩⟩ :=
      clauseKeyword_eq read
    · exact ⟨split, .password folded⟩
    · exact ⟨split, .identifiedBy folded gapped blank foldedBy⟩
  · rintro ⟨rfl, isKeyword⟩
    cases isKeyword with
    | password folded => rw [clauseKeyword, caseless_iff.mpr ⟨rfl, folded⟩]
    | @identifiedBy identified gap by_ folded gapped blank foldedBy =>
        have unread : caseless ['p', 'a', 's', 's', 'w', 'o', 'r', 'd']
            (identified ++ (gap ++ by_) ++ rest) = none := by
          cases identified with
          | nil => cases folded
          | cons char identified =>
              have isI : foldCase char = 'i' := (List.cons.inj folded).1
              rw [List.cons_append, List.cons_append, caseless, if_neg (by rw [isI]; decide)]
        have readWord := caseless_iff.mpr
          (show identified ++ (gap ++ by_) ++ rest = identified ++ (gap ++ (by_ ++ rest)) ∧ _ from
            ⟨by simp, folded⟩)
        have solid : ∀ char ∈ (by_ ++ rest).head?, isSpace char = false := by
          cases by_ with
          | nil => cases foldedBy
          | cons first by_ =>
              intro char same
              cases same
              exact letter_solid (letters_of_folded foldedBy (by decide) first List.mem_cons_self)
        obtain ⟨taken, left⟩ := takeWhile_blanks blank solid
        rw [clauseKeyword, unread, readWord]
        simp only [Option.bind_eq_bind, Option.bind_some, taken, left, if_neg gapped,
          caseless_iff.mpr ⟨rfl, foldedBy⟩]

namespace Keyword

variable {isAlnum : Char → Bool} {keyword : List Char}

/-- A keyword begins with a P or an I. -/
theorem start (isKeyword : Keyword keyword) :
    ∃ char later, keyword = char :: later ∧ isLetter char = true ∧
      (foldCase char = 'p' ∨ foldCase char = 'i') := by
  have letterOf : ∀ {char small}, foldCase char = small → small.isLower = true →
      isLetter char = true := fun same small => by rw [isLetter, same, small]
  cases isKeyword with
  | password folded =>
      cases keyword with
      | nil => cases folded
      | cons char later =>
          have isP : foldCase char = 'p' := (List.cons.inj folded).1
          exact ⟨char, later, rfl, letterOf isP (by decide), .inl isP⟩
  | @identifiedBy identified gap by_ folded =>
      cases identified with
      | nil => cases folded
      | cons char later =>
          have isI : foldCase char = 'i' := (List.cons.inj folded).1
          exact ⟨char, _, rfl, letterOf isI (by decide), .inr isI⟩

/-- A symbol that begins no keyword. -/
def Idle (char : Char) : Prop := foldCase char ≠ 'p' ∧ foldCase char ≠ 'i'

theorem idle_of_folded {word found : List Char} (folded : found.map foldCase = word)
    (others : word.all (fun small => small != 'p' && small != 'i') = true) :
    ∀ char ∈ found, Idle char := by
  intro char inside
  have image := List.mem_map_of_mem (f := foldCase) inside
  rw [folded] at image
  have other := List.all_eq_true.mp others _ image
  simpa [Idle] using other

theorem idle_blank {char : Char} (blank : isSpace char = true) : Idle char := by
  obtain ⟨same, -⟩ := foldCase_blank blank
  rw [Idle, same]
  constructor
  · rintro rfl
    exact absurd blank (by decide)
  · rintro rfl
    exact absurd blank (by decide)

/-- A keyword is made of letters and blanks. -/
theorem chars (isKeyword : Keyword keyword) :
    ∀ char ∈ keyword, isLetter char = true ∨ isSpace char = true := by
  intro char inside
  cases isKeyword with
  | password folded => exact .inl (letters_of_folded folded (by decide) char inside)
  | identifiedBy folded _ blank foldedBy =>
      rcases List.mem_append.mp inside with inside | inside
      · exact .inl (letters_of_folded folded (by decide) char inside)
      · rcases List.mem_append.mp inside with inside | inside
        · exact .inr (blank char inside)
        · exact .inl (letters_of_folded foldedBy (by decide) char inside)

/-- Behind its first letter nothing in a keyword begins another one. -/
theorem inner (isKeyword : Keyword keyword) {piece back : List Char}
    (split : keyword = piece ++ back) (begun : piece ≠ []) :
    ∀ char ∈ back.head?, Idle char ∨
      ∃ last, piece.getLast? = some last ∧ isLetter last = true ∧ isLetter char = true := by
  intro char begins
  have inside : char ∈ back := List.mem_of_mem_head? begins
  cases isKeyword with
  | password folded =>
      left
      obtain ⟨first, piece, rfl⟩ := List.exists_cons_of_ne_nil begun
      rw [split] at folded
      have tail : (piece ++ back).map foldCase = ['a', 's', 's', 'w', 'o', 'r', 'd'] :=
        (List.cons.inj folded).2
      exact idle_of_folded tail (by decide) char (List.mem_append_right _ inside)
  | @identifiedBy identified gap by_ folded gapped blank foldedBy =>
      have behind : ∀ char ∈ gap ++ by_, Idle char := by
        intro char inside
        rcases List.mem_append.mp inside with inGap | inBy
        · exact idle_blank (blank char inGap)
        · exact idle_of_folded foldedBy (by decide) char inBy
      obtain ⟨middle, rfl, later⟩ | ⟨middle, rfl, rfl⟩ := List.append_eq_append_iff.mp split
      · left
        refine behind char ?_
        rw [later]
        exact List.mem_append_right _ inside
      · cases middle with
        | nil => exact .inl (behind char inside)
        | cons first middle =>
            obtain rfl : first = char := Option.some.inj begins
            right
            have letters := letters_of_folded folded (by decide)
            obtain ⟨last, isLast⟩ := List.getLast?_isSome.mpr begun |> Option.isSome_iff_exists.mp
            refine ⟨last, isLast, letters last ?_, letters first (by simp)⟩
            exact List.mem_append_left _ (List.mem_of_getLast? isLast)

end Keyword

/-! ## Where keywords begin -/

section Boundary

variable (isAlnum : Char → Bool)

variable {isAlnum} {before : Option Char} {text : List Char}

/-- Only the first symbol decides whether a word begins. -/
theorem atBoundary_congr {text other : List Char} (same : text.head? = other.head?) :
    atBoundary isAlnum before text = atBoundary isAlnum before other := by
  rw [atBoundary, atBoundary, same]

end Boundary

/-! ## Matched clauses -/

section Matched

variable {isAlnum : Char → Bool} {before : Option Char} {text out : List Char}

theorem Keyword.unique {one other rest rest' : List Char} (isKeyword : Keyword one)
    (isOther : Keyword other) (same : one ++ rest = other ++ rest') : one = other ∧ rest = rest' := by
  have read : clauseKeyword (one ++ rest) = some (one, rest) :=
    clauseKeyword_iff.mpr ⟨rfl, isKeyword⟩
  rw [clauseKeyword_iff.mpr ⟨same, isOther⟩] at read
  obtain ⟨rfl, rfl⟩ := Prod.mk.inj (Option.some.inj read)
  exact ⟨rfl, rfl⟩

/-- A clause has its keyword at a boundary of words. -/
theorem passwordClause_keyword {replacement found rest : List Char}
    (matched : passwordClause isAlnum before (found ++ rest) = some (replacement, found)) :
    ∃ keyword gap value, found = keyword ++ (gap ++ value) ∧ Keyword keyword ∧
      atBoundary isAlnum before (found ++ rest) = true ∧ gap ≠ [] ∧
      (∀ char ∈ gap, isSpace char = true) ∧ clauseValue (value ++ rest) = some value ∧
      replacement = keyword ++ ' ' :: redactedWord := by
  obtain ⟨keyword, gap, value, readKeyword, gapped, blank, readValue, replaced, split⟩ :=
    passwordClause_split matched
  obtain ⟨boundary, -⟩ := passwordClause_eq matched
  exact ⟨keyword, gap, value, split, (clauseKeyword_iff.mp readKeyword).2, boundary, gapped, blank,
    readValue, replaced⟩

theorem clauseValue_head {value : List Char} (read : clauseValue text = some value) :
    ∀ char ∈ text.head?, isSpace char = false := by
  intro char begins
  cases text with
  | nil => cases read
  | cons first rest =>
      obtain rfl : first = char := Option.some.inj begins
      rw [clauseValue] at read
      split at read
      · next quoted =>
        rcases quoted.1 with rfl | rfl
        · decide
        · decide
      · split at read
        · cases read
        · next solid => exact Bool.eq_false_iff.mpr solid

end Matched

/-! ## Settled clauses -/

section Settled

variable (isAlnum : Char → Bool)

variable {isAlnum} {before : Option Char} {text : List Char}

/-- Where a value begins one is read. -/
theorem clauseValue_ne_none {value : List Char}
    (solid : ∃ char ∈ value.head?, isSpace char = false) :
    clauseValue value ≠ none := by
  obtain ⟨first, begins, solid⟩ := solid
  obtain ⟨rest, rfl⟩ := List.head?_eq_some_iff.mp begins
  rw [clauseValue]
  split
  · exact Option.some_ne_none _
  · rw [if_neg (by simp [solid])]
    exact Option.some_ne_none _

/-- A value that is read begins with a solid symbol. -/
theorem clauseValue_some_head {value : List Char} (read : clauseValue text = some value) :
    ∃ char ∈ text.head?, isSpace char = false := by
  cases text with
  | nil => cases read
  | cons first rest => exact ⟨first, rfl, clauseValue_head read first rfl⟩

/-- A keyword, blanks and a value are matched. -/
theorem passwordClause_eq_some {keyword gap value rest : List Char}
    (boundary : atBoundary isAlnum before (keyword ++ (gap ++ (value ++ rest))) = true)
    (isKeyword : Keyword keyword) (gapped : gap ≠ []) (blank : ∀ char ∈ gap, isSpace char = true)
    (readValue : clauseValue (value ++ rest) = some value) :
    passwordClause isAlnum before (keyword ++ (gap ++ (value ++ rest))) =
      some (keyword ++ ' ' :: redactedWord, keyword ++ (gap ++ value)) := by
  have read : clauseKeyword (keyword ++ (gap ++ (value ++ rest))) =
      some (keyword, gap ++ (value ++ rest)) := clauseKeyword_iff.mpr ⟨rfl, isKeyword⟩
  obtain ⟨taken, left⟩ := takeWhile_blanks blank (clauseValue_head readValue)
  rw [passwordClause, if_pos boundary, read]
  simp only [Option.bind_eq_bind, Option.bind_some, taken, left, if_neg gapped, readValue]

/-- Where a value begins one is matched. -/
theorem passwordClause_ne_none {keyword gap value : List Char}
    (boundary : atBoundary isAlnum before (keyword ++ (gap ++ value)) = true)
    (isKeyword : Keyword keyword) (gapped : gap ≠ []) (blank : ∀ char ∈ gap, isSpace char = true)
    (solid : ∃ char ∈ value.head?, isSpace char = false) :
    passwordClause isAlnum before (keyword ++ (gap ++ value)) ≠ none := by
  cases readValue : clauseValue value with
  | none => exact absurd readValue (clauseValue_ne_none solid)
  | some found =>
      obtain ⟨behind, rfl, -⟩ := clauseValue_eq readValue
      rw [passwordClause_eq_some boundary isKeyword gapped blank readValue]
      exact Option.some_ne_none _

end Settled

end SqlSafetyProxy.Runtime
