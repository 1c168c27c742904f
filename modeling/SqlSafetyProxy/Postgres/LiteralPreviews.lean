import SqlSafetyProxy.Postgres.Substitution

/-!
# Literal previews

What `substituteParams` returns for a query, in terms of its placeholders, and
when the result has the tokens that the query has with its parameters bound.
-/

namespace SqlSafetyProxy.Postgres

open SqlSafetyProxy.Collections SqlSafetyProxy.Wire SqlSafetyProxy.Runtime

/-! ## What is put in place of a placeholder -/

section Replacements

variable {digit : Char → Option Nat} {params : List DecodedParam} {digits : List Char}
  {query : String} {pieces : List Piece}

theorem pythonIndex_last (some_ : params ≠ []) :
    ∃ bound ∈ params, params.getLast? = some bound ∧ pythonIndex params (-1) = .ok bound := by
  refine ⟨params.getLast some_, List.getLast_mem some_, List.getLast?_eq_some_getLast some_, ?_⟩
  have size : 0 < params.length := List.length_pos_iff.mpr some_
  have place : ((-1 : Int) + params.length) = Int.ofNat (params.length - 1) := by
    rw [Int.ofNat_eq_natCast]
    omega
  unfold pythonIndex
  simp only [show (-1 : Int) < 0 by decide, if_true, place]
  rw [List.getElem?_eq_getElem (by omega), List.getLast_eq_getElem]

theorem pythonIndex_nat {index : Nat} (inside : index < params.length) :
    ∃ bound ∈ params, params[index]? = some bound ∧ pythonIndex params index = .ok bound := by
  refine ⟨params[index], List.getElem_mem inside, List.getElem?_eq_getElem inside, ?_⟩
  have place : ¬ ((index : Int) < 0) := by omega
  unfold pythonIndex
  simp only [place, if_false]
  simp only [List.getElem?_eq_getElem inside]

theorem replacePiece_placeholder (digits : List Char) :
    replacePiece digit params (.placeholder digits) =
      if maxIntDigits < digits.length then .error (.failure "ValueError")
      else if params.length < placeholderNumber digit digits then
        .ok (String.ofList ('$' :: digits), .unknown)
      else (pythonIndex params ((placeholderNumber digit digits : Int) - 1)).map fun bound =>
        (bound.sqlLiteral, bound.confidence) := by
  have bounds : ((params.length : Int) ≤ (placeholderNumber digit digits : Int) - 1) =
      (params.length < placeholderNumber digit digits) := propext (by omega)
  rw [replacePiece]
  change (if _ then _ else if (params.length : Int) ≤ (placeholderNumber digit digits : Int) - 1
    then _ else _) = _
  simp only [bounds]
  congr 2

/-- A placeholder with a number to convert and a parameter to take is replaced. -/
theorem replacePiece_converts (converts : Converts digit params digits) :
    (params.length < placeholderNumber digit digits ∧
        replacement digit params digits = none ∧
        replacePiece digit params (.placeholder digits) =
          .ok (String.ofList ('$' :: digits), .unknown)) ∨
      ¬ params.length < placeholderNumber digit digits ∧ ∃ bound ∈ params,
        replacement digit params digits = some bound ∧
        replacePiece digit params (.placeholder digits) =
          .ok (bound.sqlLiteral, bound.confidence) := by
  rw [replacePiece_placeholder, if_neg (Nat.not_lt.mpr converts.1), replacement]
  by_cases beyond : params.length < placeholderNumber digit digits
  · refine .inl ⟨beyond, ?_, if_pos beyond⟩
    cases number : placeholderNumber digit digits with
    | zero =>
        rw [number] at beyond
        exact absurd beyond (Nat.not_lt_zero _)
    | succ index =>
        rw [number] at beyond
        exact List.getElem?_eq_none (Nat.le_of_lt_succ beyond)
  · refine .inr ⟨beyond, ?_⟩
    rw [if_neg beyond]
    cases number : placeholderNumber digit digits with
    | zero =>
        obtain ⟨bound, inside, last, found⟩ := pythonIndex_last (converts.2 number)
        refine ⟨bound, inside, last, ?_⟩
        rw [show ((0 : Nat) : Int) - 1 = -1 from rfl, found]
        rfl
    | succ index =>
        rw [number] at beyond
        obtain ⟨bound, inside, there, found⟩ := pythonIndex_nat (by omega : index < params.length)
        refine ⟨bound, inside, there, ?_⟩
        rw [show ((index + 1 : Nat) : Int) - 1 = index by omega, found]
        rfl

theorem converts_of_ok {part : String × Confidence}
    (replaced : replacePiece digit params (.placeholder digits) = .ok part) :
    Converts digit params digits := by
  rw [replacePiece_placeholder] at replaced
  split at replaced
  · cases replaced
  · next short =>
      refine ⟨Nat.le_of_not_lt short, fun zero empty => ?_⟩
      subst empty
      rw [zero] at replaced
      cases replaced

/-- The parts that replace the pieces, and whether one of them is not known. -/
theorem mapM_pieces
    (known : ∀ bound ∈ params, bound.confidence ≠ .unknown)
    (converts : ∀ digits, .placeholder digits ∈ pieces → Converts digit params digits) :
    ∃ parts, pieces.mapM (replacePiece digit params) = .ok parts ∧
      (String.join (parts.map Prod.fst)).toList = pieces.flatMap (Piece.placed digit params) ∧
      ((parts.any fun part => part.2 = .unknown) = true ↔
        ∃ digits, .placeholder digits ∈ pieces ∧
          params.length < placeholderNumber digit digits) := by
  induction pieces with
  | nil => exact ⟨[], rfl, by simp, by simp⟩
  | cons piece pieces ih =>
      obtain ⟨parts, replaced, joined, unknown⟩ := ih fun digits inside =>
        converts digits (List.mem_cons_of_mem _ inside)
      have extend : ∀ part, replacePiece digit params piece = .ok part →
          part.1.toList = piece.placed digit params →
          (part.2 = .unknown ↔ ∃ digits, piece = .placeholder digits ∧
            params.length < placeholderNumber digit digits) →
          ∃ parts, (piece :: pieces).mapM (replacePiece digit params) = .ok parts ∧
            (String.join (parts.map Prod.fst)).toList =
              (piece :: pieces).flatMap (Piece.placed digit params) ∧
            ((parts.any fun part => part.2 = .unknown) = true ↔
              ∃ digits, .placeholder digits ∈ piece :: pieces ∧
                params.length < placeholderNumber digit digits) := by
        intro part ran shown beyond
        refine ⟨part :: parts, ?_, ?_, ?_⟩
        · rw [List.mapM_cons, ran, replaced]
          rfl
        · rw [List.flatMap_cons, ← joined, ← shown]
          simp [String.toList_join]
        · rw [List.any_cons, Bool.or_eq_true, unknown, decide_eq_true_eq, beyond]
          simp only [List.mem_cons]
          constructor
          · rintro (⟨digits, rfl, far⟩ | ⟨digits, inside, far⟩)
            · exact ⟨digits, .inl rfl, far⟩
            · exact ⟨digits, .inr inside, far⟩
          · rintro ⟨digits, same | inside, far⟩
            · exact .inl ⟨digits, same.symm, far⟩
            · exact .inr ⟨digits, inside, far⟩
      cases piece with
      | text char => exact extend _ rfl (by simp [Piece.placed]) (by simp)
      | placeholder digits =>
          rcases replacePiece_converts (converts digits List.mem_cons_self) with
            ⟨beyond, nothing, ran⟩ | ⟨within, bound, inside, found, ran⟩
          · exact extend _ ran (by simp [Piece.placed, nothing]) (by simpa using beyond)
          · refine extend _ ran (by simp [Piece.placed, found]) ?_
            refine iff_of_false (known bound inside) ?_
            rintro ⟨digits, ⟨⟩, beyond⟩
            exact within beyond

/-- What `substituteParams` returns, in terms of the placeholders. -/
theorem lexesAsBound_iff (known : ∀ bound ∈ params, bound.confidence ≠ .unknown) :
    LexesAsBound digit query params ↔
      (∀ digits, .placeholder digits ∈ scanPlaceholders digit none query.toList →
        Converts digit params digits) ∧
      ((∃ digits, .placeholder digits ∈ scanPlaceholders digit none query.toList ∧
          params.length < placeholderNumber digit digits) ∨
        ReadsAs params .plain query.toList [] .plain
          ((scanPlaceholders digit none query.toList).flatMap (Piece.placed digit params))) := by
  by_cases converts : ∀ digits,
      .placeholder digits ∈ scanPlaceholders digit none query.toList → Converts digit params digits
  · obtain ⟨parts, replaced, joined, unknown⟩ := mapM_pieces known converts
    rw [and_iff_right converts, ← unknown, LexesAsBound, substituteParams, replaced]
    cases given : parts.any fun part => part.2 = .unknown with
    | true => simp [bind, Except.bind, given, pure, Except.pure]
    | false =>
        simp only [bind, Except.bind, given, Bool.false_eq_true, if_false, pure, Except.pure,
          false_or]
        rw [joined]
        constructor
        · exact fun filled => ⟨_, filled, rfl⟩
        · rintro ⟨filled, found, read⟩
          rw [lex, lex, found, read]
          rfl
  · refine iff_of_false ?_ fun both => converts both.1
    intro lexes
    refine converts fun digits inside => ?_
    rw [LexesAsBound, substituteParams] at lexes
    cases replaced : (scanPlaceholders digit none query.toList).mapM
        (replacePiece digit params) with
    | error error =>
        rw [replaced] at lexes
        exact lexes.elim
    | ok parts =>
        obtain ⟨part, -, ran⟩ := mapM_ok replaced inside
        exact converts_of_ok ran

end Replacements

/-! ## The literal preview -/

/-- The parameters of a bind message, decoded. -/
def decodeParams (raws : List (Option Bytes × Int)) : List DecodedParam :=
  raws.map fun raw => decodeParam raw.1 raw.2

/--
The literal preview has the tokens of the query with the literals of its
parameters if the query is substitutable; and only then, as long as what a
literal does in a comment cannot make up for it.
-/
theorem literalPreview_lexes (digit : Char → Option Nat) (query : String)
    (raws : List (Option Bytes × Int))
    (ascii : ∀ char, char.toNat < 0x80 → digit char = asciiDigit char)
    (known : ∀ bound ∈ decodeParams raws, bound.confidence ≠ .unknown) :
    (Substitutable digit query (decodeParams raws) →
      LexesAsBound digit query (decodeParams raws)) ∧
    (exposed digit (decodeParams raws) .plain (scanPlaceholders digit none query.toList) = true →
      LexesAsBound digit query (decodeParams raws) →
      Substitutable digit query (decodeParams raws)) := by
  have literals : ∀ bound ∈ decodeParams raws, Literal bound.sqlLiteral.toList := by
    intro bound inside
    obtain ⟨raw, -, rfl⟩ := List.mem_map.mp inside
    exact literal_decoded raw.1 raw.2
  have scanned := (scan_scanned digit query.toList).1
  have start : Joint .plain .plain [] := .same rfl
  rw [lexesAsBound_iff known]
  constructor
  · rintro ⟨converts, beyond | apart⟩
    · exact ⟨converts, .inl beyond⟩
    · exact ⟨converts, .inr (separated_readsAs ascii literals scanned start (by rintro ⟨⟩) apart)⟩
  · rintro open_ ⟨converts, beyond | reads⟩
    · exact ⟨converts, .inl beyond⟩
    · by_cases beyond : ∃ digits, .placeholder digits ∈ scanPlaceholders digit none query.toList ∧
        (decodeParams raws).length < placeholderNumber digit digits
      · exact ⟨converts, .inl beyond⟩
      · refine ⟨converts, .inr (readsAs_separated ascii literals (fun digits inside => ?_) scanned
          start (by rintro ⟨⟩) open_ reads)⟩
        rcases replacePiece_converts (converts digits inside) with
          ⟨tooLarge, -⟩ | ⟨-, bound, isParam, found, -⟩
        · exact absurd ⟨digits, inside, tooLarge⟩ beyond
        · exact ⟨bound, isParam, found⟩

/-- The text `5`, in the text format. -/
def textFive : List (Option Bytes × Int) := [(some [0x35], 0)]

/-- A string with a dollar sign is left alone, and a parameter among blanks is replaced. -/
theorem textFive_lexes :
    LexesAsBound asciiDigit "DELETE FROM t WHERE a = 'US$' AND b = $1" (decodeParams textFive) := by
  have pieces : scanPlaceholders asciiDigit none
      "DELETE FROM t WHERE a = 'US$' AND b = $1".toList =
      "DELETE FROM t WHERE a = 'US$' AND b = ".toList.map .text ++ [.placeholder ['1']] := by
    decide +kernel
  refine (literalPreview_lexes asciiDigit "DELETE FROM t WHERE a = 'US$' AND b = $1" textFive
    (fun _ _ => rfl) (by decide +kernel)).1 ⟨?_, .inr (by decide +kernel)⟩
  intro digits inside
  rw [pieces, List.mem_append] at inside
  rcases inside with inside | inside
  · obtain ⟨char, -, same⟩ := List.mem_map.mp inside
    cases same
  · cases List.mem_singleton.mp inside
    exact ⟨by decide, by decide⟩

/-- A placeholder within a string is replaced as well, and the string ends there. -/
theorem textFive_inString :
    ¬ ∀ (digit : Char → Option Nat) (query : String) (raws : List (Option Bytes × Int)),
      (∀ char, char.toNat < 0x80 → digit char = asciiDigit char) →
      (∀ bound ∈ decodeParams raws, bound.confidence ≠ .unknown) →
      LexesAsBound digit query (decodeParams raws) := by
  intro lexes
  have lexed := lexes asciiDigit "SELECT 1 FROM t WHERE a = 'win $1' AND b = $1" textFive
    (fun _ _ => rfl) (by decide +kernel)
  have replaced : substituteParams asciiDigit "SELECT 1 FROM t WHERE a = 'win $1' AND b = $1"
      (decodeParams textFive) =
      .ok (some "SELECT 1 FROM t WHERE a = 'win '5'' AND b = '5'", false) := by
    decide +kernel
  rw [LexesAsBound, replaced] at lexed
  exact absurd lexed (by decide +kernel)

end SqlSafetyProxy.Postgres
