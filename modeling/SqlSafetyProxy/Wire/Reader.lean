import SqlSafetyProxy.Wire.Bytes

/-!
# Exact readers

A reader takes a value off the front of its input.  It is exact for a format if
it accepts precisely the encodings of that format, whatever follows them; then
the readers made of it are exact for the formats made of its format.
-/

namespace SqlSafetyProxy.Wire

variable {ε α β : Type}

/-- A reader accepts exactly the encodings of a format, and leaves what follows. -/
def Exact (read : Bytes → Except ε (α × Bytes)) (format : α → Bytes → Prop) : Prop :=
  ∀ input value rest, read input = .ok (value, rest) ↔
    ∃ raw, format value raw ∧ input = raw ++ rest

namespace Exact

variable {read : Bytes → Except ε (α × Bytes)} {format : α → Bytes → Prop}

theorem congr {format' : α → Bytes → Prop} (exact : Exact read format)
    (same : ∀ value raw, format value raw ↔ format' value raw) : Exact read format' := by
  intro input value rest
  rw [exact]
  exact exists_congr fun raw => and_congr_left' (same value raw)

/-- A value that takes no bytes. -/
theorem pure (value : α) :
    Exact (fun input => (.ok (value, input) : Except ε (α × Bytes)))
      (fun found raw => found = value ∧ raw = []) := by
  intro input found rest
  constructor
  · rintro ⟨⟩
    exact ⟨[], ⟨rfl, rfl⟩, rfl⟩
  · rintro ⟨raw, ⟨rfl, rfl⟩, rfl⟩
    rfl

theorem fail (error : ε) :
    Exact (fun _ => (.error error : Except ε (α × Bytes))) (fun _ _ => False) := by
  intro input found rest
  constructor
  · rintro ⟨⟩
  · rintro ⟨raw, ⟨⟩, -⟩

/-- One reader after another, on what the first one has left. -/
theorem bind {next : α → Bytes → Except ε (β × Bytes)} {later : α → β → Bytes → Prop}
    (first : Exact read format) (second : ∀ value, Exact (next value) (later value)) :
    Exact (fun input => read input >>= fun found => next found.1 found.2)
      (fun result raw => ∃ value front back, format value front ∧ later value result back ∧
        raw = front ++ back) := by
  intro input result rest
  dsimp only
  constructor
  · intro done
    cases found : read input with
    | error error =>
        rw [found] at done
        cases done
    | ok pair =>
        obtain ⟨value, middle⟩ := pair
        rw [found] at done
        obtain ⟨front, meets, rfl⟩ := (first _ _ _).mp found
        obtain ⟨back, meetsLater, rfl⟩ := (second value _ _ _).mp done
        exact ⟨front ++ back, ⟨value, front, back, meets, meetsLater, rfl⟩,
          (List.append_assoc front back rest).symm⟩
  · rintro ⟨raw, ⟨value, front, back, meets, meetsLater, rfl⟩, rfl⟩
    have found := (first _ value (back ++ rest)).mpr ⟨front, meets, rfl⟩
    rw [List.append_assoc, found]
    exact (second value _ _ _).mpr ⟨back, meetsLater, rfl⟩

/-- The result of a reader under a function. -/
theorem map (exact : Exact read format) (f : α → β) :
    Exact (fun input => read input >>= fun found => .ok (f found.1, found.2))
      (fun result raw => ∃ value, format value raw ∧ result = f value) := by
  refine (exact.bind fun value => pure (f value)).congr fun result raw => ?_
  constructor
  · rintro ⟨value, front, back, meets, ⟨rfl, rfl⟩, rfl⟩
    exact ⟨value, by rwa [List.append_nil], rfl⟩
  · rintro ⟨value, meets, rfl⟩
    exact ⟨value, raw, [], meets, ⟨rfl, rfl⟩, (List.append_nil raw).symm⟩

/-- A reader behind a check that looks at none of the input. -/
theorem ite {condition : Prop} [Decidable condition]
    {read' : Bytes → Except ε (α × Bytes)} {format' : α → Bytes → Prop}
    (yes : condition → Exact read format) (no : ¬ condition → Exact read' format') :
    Exact (fun input => if condition then read input else read' input)
      (fun value raw => if condition then format value raw else format' value raw) := by
  by_cases holds : condition
  · simpa only [if_pos holds] using yes holds
  · simpa only [if_neg holds] using no holds

/-- A reader that goes on according to the first byte. -/
theorem byte {next : UInt8 → Bytes → Except ε (α × Bytes)} {later : UInt8 → α → Bytes → Prop}
    (error : ε) (second : ∀ byte, Exact (next byte) (later byte)) :
    Exact (fun input => match input with
        | [] => .error error
        | byte :: rest => next byte rest)
      (fun value raw => ∃ byte back, later byte value back ∧ raw = byte :: back) := by
  intro input value rest
  cases input with
  | nil =>
      constructor
      · rintro ⟨⟩
      · rintro ⟨raw, ⟨byte, back, -, rfl⟩, ⟨⟩⟩
  | cons byte input =>
      dsimp only
      rw [second byte]
      constructor
      · rintro ⟨back, meets, rfl⟩
        exact ⟨byte :: back, ⟨byte, back, meets, rfl⟩, rfl⟩
      · rintro ⟨raw, ⟨byte, back, meets, rfl⟩, split⟩
        cases split
        exact ⟨back, meets, rfl⟩

end Exact

/-- The first bytes, of a fixed number. -/
theorem splitExactly_eq_some {size : Nat} {input value rest : Bytes} :
    splitExactly size input = some (value, rest) ↔ value.length = size ∧ input = value ++ rest := by
  unfold splitExactly
  split
  · next enough =>
      constructor
      · rintro ⟨⟩
        exact ⟨List.length_take_of_le enough, (List.take_append_drop size input).symm⟩
      · rintro ⟨rfl, rfl⟩
        simp
  · next short =>
      constructor
      · rintro ⟨⟩
      · rintro ⟨rfl, rfl⟩
        simp at short

/-- The bytes before the first NUL. -/
theorem splitAtNul_eq_some {input text rest : Bytes} :
    splitAtNul input = some (text, rest) ↔ 0 ∉ text ∧ input = text ++ 0 :: rest := by
  induction input generalizing text with
  | nil =>
      refine iff_of_false (by rintro ⟨⟩) ?_
      rintro ⟨-, empty⟩
      cases text <;> cases empty
  | cons byte input ih =>
      rw [splitAtNul]
      by_cases nul : byte = 0
      · rw [if_pos nul]
        constructor
        · rintro ⟨⟩
          exact ⟨List.not_mem_nil, by rw [nul]; rfl⟩
        · rintro ⟨clean, split⟩
          cases text with
          | nil =>
              cases split
              rfl
          | cons first text =>
              cases split
              exact absurd (nul ▸ List.mem_cons_self) clean
      · rw [if_neg nul, Option.map_eq_some_iff]
        constructor
        · rintro ⟨⟨front, back⟩, found, same⟩
          cases same
          obtain ⟨clean, split⟩ := ih.mp found
          refine ⟨fun inside => ?_, by rw [split]; rfl⟩
          rcases List.mem_cons.mp inside with same | inside
          · exact nul same.symm
          · exact clean inside
        · rintro ⟨clean, split⟩
          cases text with
          | nil =>
              cases split
              exact absurd rfl nul
          | cons first text =>
              cases split
              exact ⟨(text, rest), ih.mpr
                ⟨fun inside => clean (List.mem_cons_of_mem _ inside), rfl⟩, rfl⟩

/-- One computation after another returns what both return. -/
theorem bind_eq_ok {first : Except ε α} {next : α → Except ε β} {result : β} :
    (first >>= next) = .ok result ↔ ∃ value, first = .ok value ∧ next value = .ok result := by
  cases first with
  | error error =>
      refine iff_of_false (by rintro ⟨⟩) ?_
      rintro ⟨value, ⟨⟩, -⟩
  | ok value =>
      constructor
      · exact fun done => ⟨value, rfl, done⟩
      · rintro ⟨value, ⟨⟩, done⟩
        exact done

/-! ## Numbers and text -/

/-- A non-negative number has one encoding of each size. -/
theorem beInt_eq_natCast {raw : Bytes} {value : Nat} :
    beInt raw = value ↔ value < 2 ^ (8 * raw.length - 1) ∧ raw = bePack raw.length value := by
  constructor
  · intro same
    have small := beNat_lt raw
    rw [pow_256] at small
    rw [beInt, signed_eq] at same
    split at same
    · next below =>
        have value := Int.ofNat.inj same
        subst value
        exact ⟨below, (bePack_beNat raw).symm⟩
    · omega
  · rintro ⟨fits, packed⟩
    rw [packed]
    exact beInt_bePack fits

theorem beInt_eq_minus_one {raw : Bytes} (some_ : raw ≠ []) :
    beInt raw = -1 ↔ raw = bePack raw.length (2 ^ (8 * raw.length) - 1) := by
  have small := beNat_lt raw
  have positive := List.length_pos_of_ne_nil some_
  have double := pow_double (Nat.mul_pos (by decide : 0 < 8) positive)
  have power : 0 < 2 ^ (8 * raw.length) := Nat.two_pow_pos _
  rw [pow_256] at small
  rw [beInt, signed_eq]
  constructor
  · intro same
    split at same
    · omega
    · have last : beNat raw = 2 ^ (8 * raw.length) - 1 := by omega
      rw [← last, bePack_beNat]
  · intro packed
    have last : beNat raw = 2 ^ (8 * raw.length) - 1 := by
      rw [packed, beNat_bePack, length_bePack, pow_256, Nat.mod_eq_of_lt (by omega)]
    rw [last, if_neg (by omega)]
    omega

/-- UTF-8 decoding accepts exactly the encodings. -/
theorem decodeUtf8_eq_some {bytes : Bytes} {text : String} :
    decodeUtf8 bytes = some text ↔ bytes = encodeUtf8 text := by
  constructor
  · intro decoded
    unfold decodeUtf8 String.fromUTF8? at decoded
    split at decoded
    · cases decoded
      simp [encodeUtf8, String.fromUTF8]
    · cases decoded
  · rintro rfl
    exact decodeUtf8_encodeUtf8 text

end SqlSafetyProxy.Wire
