import SqlSafetyProxy.Wire.Bytes

/-!
# Incremental framing

A stream arrives in chunks and is cut into frames from the front.  Whatever
cuts one frame off a buffer, without regard to what follows it, cuts the stream
the same way however it is chunked.
-/

namespace SqlSafetyProxy.Wire

variable {μ ε : Type}

/-- What follows a buffer does not change its front. -/
theorem take_drop_append {buffer : Bytes} {size : Nat} (more : Bytes)
    (whole : size ≤ buffer.length) :
    (buffer ++ more).take size = buffer.take size ∧
      (buffer ++ more).drop size = buffer.drop size ++ more :=
  ⟨List.take_append_of_le_length whole, List.drop_append_of_le_length whole⟩

/-- Cuts one frame off the front of a buffer; what follows the frame does not matter. -/
structure Cutter (μ ε : Type) where
  take : Bytes → Except ε (Option (μ × Bytes))
  raw : μ → Bytes
  take_nil : take [] = .ok none
  split : ∀ {buffer frame rest}, take buffer = .ok (some (frame, rest)) →
    buffer = raw frame ++ rest
  raw_ne_nil : ∀ {buffer frame rest}, take buffer = .ok (some (frame, rest)) → raw frame ≠ []
  take_append : ∀ {buffer frame rest} (more : Bytes), take buffer = .ok (some (frame, rest)) →
    take (buffer ++ more) = .ok (some (frame, rest ++ more))
  error_append : ∀ {buffer error} (more : Bytes), take buffer = .error error →
    take (buffer ++ more) = .error error

namespace Cutter

variable (cutter : Cutter μ ε)

/-- Cut off frames as long as there are any; the fuel bounds their number. -/
def frames : Nat → Bytes → Except ε (List μ × Bytes)
  | 0, buffer => .ok ([], buffer)
  | fuel + 1, buffer =>
      match cutter.take buffer with
      | .error error => .error error
      | .ok none => .ok ([], buffer)
      | .ok (some (frame, rest)) =>
          match frames fuel rest with
          | .error error => .error error
          | .ok (later, rest) => .ok (frame :: later, rest)

/-- Cut off all frames. -/
def cut (buffer : Bytes) : Except ε (List μ × Bytes) := cutter.frames buffer.length buffer

/-- Cut a stream that arrives in chunks, with what is left over from the chunks before. -/
def feed : Bytes → List Bytes → Except ε (List μ × Bytes)
  | buffer, [] => .ok ([], buffer)
  | buffer, chunk :: chunks => do
      let first ← cutter.cut (buffer ++ chunk)
      let later ← feed first.2 chunks
      return (first.1 ++ later.1, later.2)

variable {cutter}

theorem rest_shorter {buffer rest : Bytes} {frame : μ}
    (taken : cutter.take buffer = .ok (some (frame, rest))) : rest.length < buffer.length := by
  have positive := List.length_pos_of_ne_nil (cutter.raw_ne_nil taken)
  rw [cutter.split taken, List.length_append]
  omega

theorem frames_nil (fuel : Nat) : cutter.frames fuel [] = .ok ([], []) := by
  cases fuel with
  | zero => rfl
  | succ fuel => rw [frames, cutter.take_nil]

/-- The number of bytes is fuel enough. -/
theorem frames_enough {fuel : Nat} {buffer : Bytes} (enough : buffer.length ≤ fuel) :
    cutter.frames fuel buffer = cutter.cut buffer := by
  suffices same : ∀ {fuel fuel' : Nat} {buffer : Bytes}, buffer.length ≤ fuel →
      buffer.length ≤ fuel' → cutter.frames fuel buffer = cutter.frames fuel' buffer from
    same enough (Nat.le_refl _)
  intro fuel
  induction fuel with
  | zero =>
      intro fuel' buffer enough _
      have empty : buffer = [] := List.length_eq_zero_iff.mp (Nat.le_zero.mp enough)
      rw [empty, frames_nil, frames_nil]
  | succ fuel ih =>
      intro fuel' buffer enough enough'
      cases fuel' with
      | zero =>
          have empty : buffer = [] := List.length_eq_zero_iff.mp (Nat.le_zero.mp enough')
          rw [empty, frames_nil, frames_nil]
      | succ fuel' =>
          simp only [frames]
          cases taken : cutter.take buffer with
          | error error => rfl
          | ok found =>
              cases found with
              | none => rfl
              | some parts =>
                  have shorter : parts.2.length < _ := cutter.rest_shorter taken
                  have same := @ih fuel' parts.2 (by omega) (by omega)
                  simp only [same]

theorem cut_eq (buffer : Bytes) :
    cutter.cut buffer = match cutter.take buffer with
      | .error error => .error error
      | .ok none => .ok ([], buffer)
      | .ok (some (frame, rest)) => (do
          let later ← cutter.cut rest
          return (frame :: later.1, later.2)) := by
  rw [← frames_enough (Nat.le_succ buffer.length), frames]
  cases taken : cutter.take buffer with
  | error error => rfl
  | ok found =>
      cases found with
      | none => rfl
      | some parts =>
          have shorter : parts.2.length < _ := cutter.rest_shorter taken
          simp only [frames_enough (Nat.le_of_lt shorter)]
          cases cutter.cut parts.2 <;> rfl

theorem cut_nil : cutter.cut [] = .ok ([], []) := frames_nil 0

/-- Cutting a longer buffer goes on where cutting the shorter one has stopped. -/
theorem cut_append (buffer more : Bytes) :
    cutter.cut (buffer ++ more) = do
      let first ← cutter.cut buffer
      let later ← cutter.cut (first.2 ++ more)
      return (first.1 ++ later.1, later.2) := by
  induction size : buffer.length using Nat.strongRecOn generalizing buffer with
  | _ size ih =>
      subst size
      cases taken : cutter.take buffer with
      | error error =>
          rw [cut_eq buffer, cut_eq (buffer ++ more), taken, cutter.error_append more taken]
          rfl
      | ok found =>
          cases found with
          | none =>
              rw [cut_eq buffer, taken]
              change _ = (cutter.cut (buffer ++ more) >>= fun later => pure ([] ++ later.1, later.2))
              cases cutter.cut (buffer ++ more) <;> rfl
          | some parts =>
              obtain ⟨frame, rest⟩ := parts
              rw [cut_eq buffer, cut_eq (buffer ++ more), taken, cutter.take_append more taken]
              simp only [ih _ (rest_shorter taken) rest rfl]
              cases cutter.cut rest with
              | error error => rfl
              | ok first =>
                  change (((cutter.cut (first.2 ++ more) >>= fun later =>
                    pure (first.1 ++ later.1, later.2)) >>= fun later =>
                      pure (frame :: later.1, later.2)) : Except ε (List μ × Bytes)) =
                    (cutter.cut (first.2 ++ more) >>= fun later =>
                      pure (frame :: first.1 ++ later.1, later.2))
                  cases cutter.cut (first.2 ++ more) <;> rfl

/-- No more frames can be cut off what is left. -/
theorem cut_rest {buffer rest : Bytes} {found : List μ}
    (done : cutter.cut buffer = .ok (found, rest)) : cutter.take rest = .ok none := by
  induction size : buffer.length using Nat.strongRecOn generalizing buffer found with
  | _ size ih =>
      subst size
      rw [cut_eq] at done
      cases taken : cutter.take buffer with
      | error error =>
          rw [taken] at done
          cases done
      | ok result =>
          rw [taken] at done
          cases result with
          | none =>
              cases done
              exact taken
          | some parts =>
              obtain ⟨frame, after⟩ := parts
              cases cutLater : cutter.cut after with
              | error error =>
                  simp only [cutLater] at done
                  cases done
              | ok later =>
                  simp only [cutLater] at done
                  cases done
                  exact ih _ (rest_shorter taken) cutLater rfl

/-- How a stream is chunked makes no difference. -/
theorem feed_eq {buffer : Bytes} (settled : cutter.take buffer = .ok none)
    (chunks : List Bytes) : cutter.feed buffer chunks = cutter.cut (buffer ++ chunks.flatten) := by
  induction chunks generalizing buffer with
  | nil =>
      rw [List.flatten_nil, List.append_nil, cut_eq, settled]
      rfl
  | cons chunk chunks ih =>
      rw [List.flatten_cons, ← List.append_assoc, cut_append, feed]
      cases first : cutter.cut (buffer ++ chunk) with
      | error error => rfl
      | ok result =>
          change (cutter.feed result.2 chunks >>= _) = _
          rw [ih (cut_rest first)]
          rfl

theorem cut_split {buffer rest : Bytes} {found : List μ}
    (done : cutter.cut buffer = .ok (found, rest)) :
    buffer = (found.map cutter.raw).flatten ++ rest ∧
      ∀ frame ∈ found, ∃ buffer rest, cutter.take buffer = .ok (some (frame, rest)) := by
  induction size : buffer.length using Nat.strongRecOn generalizing buffer found with
  | _ size ih =>
      subst size
      rw [cut_eq] at done
      cases taken : cutter.take buffer with
      | error error =>
          rw [taken] at done
          cases done
      | ok result =>
          rw [taken] at done
          cases result with
          | none =>
              cases done
              simp
          | some parts =>
              obtain ⟨frame, after⟩ := parts
              cases cutLater : cutter.cut after with
              | error error =>
                  simp only [cutLater] at done
                  cases done
              | ok later =>
                  simp only [cutLater] at done
                  cases done
                  obtain ⟨split, all⟩ := ih _ (rest_shorter taken) cutLater rfl
                  refine ⟨?_, ?_⟩
                  · rw [cutter.split taken, split]
                    simp
                  · intro other inside
                    rcases List.mem_cons.mp inside with rfl | inside
                    · exact ⟨_, _, taken⟩
                    · exact all other inside

/-- Cutting fails only where cutting off one frame fails. -/
theorem cut_error {buffer : Bytes} {error : ε} (failed : cutter.cut buffer = .error error) :
    ∃ rest, cutter.take rest = .error error := by
  induction size : buffer.length using Nat.strongRecOn generalizing buffer with
  | _ size ih =>
      subst size
      rw [cut_eq] at failed
      cases taken : cutter.take buffer with
      | error other =>
          rw [taken] at failed
          cases failed
          exact ⟨_, taken⟩
      | ok result =>
          rw [taken] at failed
          cases result with
          | none => cases failed
          | some parts =>
              obtain ⟨frame, after⟩ := parts
              cases cutLater : cutter.cut after with
              | error other =>
                  simp only [cutLater] at failed
                  cases failed
                  exact ih _ (rest_shorter taken) cutLater rfl
              | ok later =>
                  simp only [cutLater] at failed
                  cases failed

/-- A stream that is made of frames is cut into them. -/
theorem cut_flatten {found : List μ} (whole : ∀ frame ∈ found, ∀ rest,
    cutter.take (cutter.raw frame ++ rest) = .ok (some (frame, rest))) :
    cutter.cut (found.map cutter.raw).flatten = .ok (found, []) := by
  induction found with
  | nil => exact cut_nil
  | cons frame later ih =>
      have first := whole frame List.mem_cons_self (later.map cutter.raw).flatten
      rw [List.map_cons, List.flatten_cons, cut_eq, first]
      simp only [ih fun other inside => whole other (List.mem_cons_of_mem _ inside)]
      rfl

end Cutter

end SqlSafetyProxy.Wire
