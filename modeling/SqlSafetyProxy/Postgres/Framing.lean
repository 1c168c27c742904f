import SqlSafetyProxy.Postgres.Protocol
import SqlSafetyProxy.Wire.Framing

/-!
# Framing of PostgreSQL messages

A framer cuts the stream of one party into messages.  The messages, the bytes
left over and the error do not depend on the chunks in which the stream arrives.
-/

namespace SqlSafetyProxy.Postgres

open SqlSafetyProxy.Wire SqlSafetyProxy.Runtime

/-! ## One message -/

theorem takeMessage_nil (maxMessageBytes : Nat) : takeMessage maxMessageBytes [] = .ok none := rfl

/-- A message is taken the same way whatever follows it. -/
theorem takeMessage_append {maxMessageBytes : Nat} {buffer : Bytes} (more : Bytes)
    {result : Except Exn (Option (Message × Bytes))}
    (taken : takeMessage maxMessageBytes buffer = result) (decided : result ≠ .ok none) :
    takeMessage maxMessageBytes (buffer ++ more) = result.map
      fun found => found.map fun parts => (parts.1, parts.2 ++ more) := by
  subst taken
  unfold takeMessage at decided ⊢
  split at decided
  case h_2 => exact absurd rfl decided
  case h_1 type b₁ b₂ b₃ b₄ tail =>
    simp only [List.cons_append] at decided ⊢
    by_cases short : beInt [b₁, b₂, b₃, b₄] < 4
    · simp only [short, if_true]
      rfl
    · simp only [short, if_false] at decided ⊢
      by_cases large : maxMessageBytes < 1 + (beInt [b₁, b₂, b₃, b₄]).toNat
      · simp only [large, if_true]
        rfl
      · simp only [large, if_false] at decided ⊢
        by_cases partial_ : (type :: b₁ :: b₂ :: b₃ :: b₄ :: tail).length <
            1 + (beInt [b₁, b₂, b₃, b₄]).toNat
        · simp only [partial_, if_true] at decided
          exact absurd rfl decided
        · have whole : 1 + (beInt [b₁, b₂, b₃, b₄]).toNat ≤
              (type :: b₁ :: b₂ :: b₃ :: b₄ :: tail).length := Nat.not_lt.mp partial_
          have enough : ¬ (type :: b₁ :: b₂ :: b₃ :: b₄ :: (tail ++ more)).length <
              1 + (beInt [b₁, b₂, b₃, b₄]).toNat := by
            simp only [List.length_cons, List.length_append] at whole ⊢
            omega
          simp only [partial_, enough, if_false]
          obtain ⟨front, back⟩ := take_drop_append more whole
          simp only [List.cons_append] at front back
          rw [front, back]
          cases asciiChar type with
          | none => simp only [Except.map]
          | some letter => simp only [Except.map, Option.map]

def messageCutter (maxMessageBytes : Nat) : Cutter Message Exn where
  take := takeMessage maxMessageBytes
  raw := Message.raw
  take_nil := takeMessage_nil maxMessageBytes
  split taken := (takeMessage_some taken).1
  raw_ne_nil taken := by
    have long := (takeMessage_some taken).2.2
    exact List.ne_nil_of_length_pos (by omega)
  take_append more taken := by
    have later := takeMessage_append more taken (by simp)
    exact later
  error_append more taken := by
    have later := takeMessage_append more taken (by simp)
    exact later

/-! ## Whole streams -/

theorem takeMessages_eq (maxMessageBytes fuel : Nat) (buffer : Bytes) :
    takeMessages maxMessageBytes fuel buffer =
      (messageCutter maxMessageBytes).frames fuel buffer := by
  induction fuel generalizing buffer with
  | zero => rfl
  | succ fuel ih =>
      have same : (messageCutter maxMessageBytes).take buffer = takeMessage maxMessageBytes buffer :=
        rfl
      rw [takeMessages, Cutter.frames, same]
      cases takeMessage maxMessageBytes buffer with
      | error error => rfl
      | ok found =>
          cases found with
          | none => rfl
          | some parts =>
              simp only [ih]
              cases (messageCutter maxMessageBytes).frames fuel parts.2 <;> rfl

/-- The framer with other bytes left over. -/
def Framer.holding (framer : Framer) (buffer : Bytes) : Framer := { framer with buffer := buffer }

theorem Framer.push_eq (framer : Framer) (chunk : Bytes) :
    framer.push chunk = ((messageCutter framer.maxMessageBytes).cut (framer.buffer ++ chunk)).map
      fun found => (found.1, framer.holding found.2) := by
  simp only [Framer.push, takeMessages_eq, Cutter.cut]
  cases (messageCutter framer.maxMessageBytes).frames (framer.buffer ++ chunk).length
    (framer.buffer ++ chunk) <;> rfl

/-- Push chunk after chunk. -/
def Framer.pushAll : Framer → List Bytes → Except Exn (List Message × Framer)
  | framer, [] => .ok ([], framer)
  | framer, chunk :: chunks => do
      let first ← framer.push chunk
      let later ← first.2.pushAll chunks
      return (first.1 ++ later.1, later.2)

theorem Framer.pushAll_eq (framer : Framer) (chunks : List Bytes) :
    framer.pushAll chunks =
      ((messageCutter framer.maxMessageBytes).feed framer.buffer chunks).map
        fun found => (found.1, framer.holding found.2) := by
  induction chunks generalizing framer with
  | nil => rfl
  | cons chunk chunks ih =>
      rw [Framer.pushAll, Framer.push_eq, Cutter.feed]
      cases (messageCutter framer.maxMessageBytes).cut (framer.buffer ++ chunk) with
      | error error => rfl
      | ok found =>
          change ((framer.holding found.2).pushAll chunks >>= _) = _
          rw [ih]
          change (((messageCutter framer.maxMessageBytes).feed found.2 chunks).map _ >>= _) =
            Except.map _ ((messageCutter framer.maxMessageBytes).feed found.2 chunks >>= _)
          cases (messageCutter framer.maxMessageBytes).feed found.2 chunks <;> rfl

/-! ## What is framed -/

/-- A message as it stands on the wire. -/
def OnWire (message : Message) : Prop :=
  ∃ type, asciiChar type = some message.type ∧
    message.raw = type :: (bePack 4 (message.payload.length + 4) ++ message.payload)

theorem takeMessage_onWire {maxMessageBytes : Nat} {buffer rest : Bytes} {message : Message}
    (taken : takeMessage maxMessageBytes buffer = .ok (some (message, rest))) : OnWire message := by
  obtain ⟨-, whole, -⟩ := takeMessage_some taken
  obtain ⟨letter, payload⟩ := takeMessage_fields taken
  obtain ⟨type, b₁, b₂, b₃, b₄, body, raw, size⟩ := isMessage_length whole
  rw [raw] at letter payload
  have same : message.payload = body := payload
  have length : beNat [b₁, b₂, b₃, b₄] = body.length + 4 := by
    have small := beNat_lt [b₁, b₂, b₃, b₄]
    rw [beInt, signed] at size
    simp only [List.length_cons, List.length_nil] at size small
    split at size <;> omega
  have packed := bePack_beNat [b₁, b₂, b₃, b₄]
  rw [length] at packed
  refine ⟨type, letter, ?_⟩
  rw [raw, same]
  change _ = type :: (bePack [b₁, b₂, b₃, b₄].length (body.length + 4) ++ body)
  rw [packed]
  rfl

theorem takeMessage_error {maxMessageBytes : Nat} {buffer : Bytes} {error : Exn}
    (failed : takeMessage maxMessageBytes buffer = .error error) :
    ∃ reason, error = .protocol reason := by
  unfold takeMessage at failed
  split at failed
  case h_2 => cases failed
  case h_1 =>
    simp only at failed
    split at failed
    · cases failed
      exact ⟨_, rfl⟩
    split at failed
    · cases failed
      exact ⟨_, rfl⟩
    split at failed
    · cases failed
    split at failed
    · cases failed
      exact ⟨_, rfl⟩
    · cases failed

/-- What is left over is shorter than the longest message. -/
theorem takeMessage_none {maxMessageBytes : Nat} {buffer : Bytes} (header : 5 ≤ maxMessageBytes)
    (waits : takeMessage maxMessageBytes buffer = .ok none) : buffer.length < maxMessageBytes := by
  unfold takeMessage at waits
  split at waits
  case h_1 =>
    simp only at waits
    split at waits
    · cases waits
    split at waits
    · cases waits
    split at waits
    · next small short => omega
    split at waits
    · cases waits
    · cases waits
  case h_2 short =>
    match buffer, short with
    | [], _ => exact Nat.lt_of_lt_of_le (by simp) header
    | [_], _ => exact Nat.lt_of_lt_of_le (by simp) header
    | [_, _], _ => exact Nat.lt_of_lt_of_le (by simp) header
    | [_, _, _], _ => exact Nat.lt_of_lt_of_le (by simp) header
    | [_, _, _, _], _ => exact Nat.lt_of_lt_of_le (by simp) header
    | a :: b :: c :: d :: e :: rest, short => exact (short a b c d e rest rfl).elim

/-! ## Every chunking -/

/-- A framer to which nothing has been pushed. -/
def newFramer (maxMessageBytes : Nat) (header : 5 ≤ maxMessageBytes) : Framer :=
  { maxMessageBytes := maxMessageBytes, header_le_max := header }

/-- The messages and the bytes left over make up the stream. -/
structure Lossless (maxMessageBytes : Nat) (stream : Bytes) (messages : List Message)
    (buffer : Bytes) : Prop where
  framed : ∀ message ∈ messages, OnWire message
  stream : stream = (messages.map Message.raw).flatten ++ buffer
  short : buffer.length < maxMessageBytes

theorem pushAll_newFramer {maxMessageBytes : Nat} (header : 5 ≤ maxMessageBytes)
    (chunks : List Bytes) :
    (newFramer maxMessageBytes header).pushAll chunks =
      (newFramer maxMessageBytes header).push chunks.flatten := by
  rw [Framer.pushAll_eq, Framer.push_eq]
  congr 1
  exact Cutter.feed_eq (takeMessage_nil maxMessageBytes) chunks

/--
However a stream is cut into chunks, a framer raises if and only if it raises on
the whole stream, and only a protocol error; otherwise it frames the same
messages, loses nothing and holds less than a message of the largest size.
-/
theorem framing_chunkIndependent {maxMessageBytes : Nat} (header : 5 ≤ maxMessageBytes)
    (chunks : List Bytes) :
    (newFramer maxMessageBytes header).pushAll chunks =
        (newFramer maxMessageBytes header).push chunks.flatten ∧
      (∀ error, (newFramer maxMessageBytes header).pushAll chunks = .error error →
        ∃ reason, error = .protocol reason) ∧
      ∀ messages framer,
        (newFramer maxMessageBytes header).pushAll chunks = .ok (messages, framer) →
        Lossless maxMessageBytes chunks.flatten messages framer.buffer := by
  have whole := pushAll_newFramer header chunks
  refine ⟨whole, ?_, ?_⟩
  · intro error failed
    rw [whole, Framer.push_eq] at failed
    cases cut : (messageCutter maxMessageBytes).cut chunks.flatten with
    | error other =>
        simp only [newFramer, List.nil_append, cut, Except.map] at failed
        cases failed
        obtain ⟨rest, taken⟩ := Cutter.cut_error cut
        exact takeMessage_error taken
    | ok found =>
        simp only [newFramer, List.nil_append, cut, Except.map] at failed
        cases failed
  · intro messages framer pushed
    rw [whole, Framer.push_eq] at pushed
    cases cut : (messageCutter maxMessageBytes).cut chunks.flatten with
    | error other =>
        simp only [newFramer, List.nil_append, cut, Except.map] at pushed
        cases pushed
    | ok found =>
        simp only [newFramer, List.nil_append, cut, Except.map] at pushed
        cases pushed
        obtain ⟨stream, taken⟩ := Cutter.cut_split cut
        refine ⟨?_, stream, takeMessage_none header (Cutter.cut_rest cut)⟩
        intro message inside
        obtain ⟨buffer, rest, isTaken⟩ := taken message inside
        exact takeMessage_onWire isTaken

/-- A Sync message that arrives in two pieces, and the first byte of another one. -/
theorem syncInPieces_framed :
    (newFramer 5 (Nat.le_refl 5)).pushAll [[0x53, 0], [0, 0, 4, 0x53]] =
        .ok ([⟨'S', [], [0x53, 0, 0, 0, 4]⟩], (newFramer 5 (Nat.le_refl 5)).holding [0x53]) ∧
      Lossless 5 [0x53, 0, 0, 0, 4, 0x53] [⟨'S', [], [0x53, 0, 0, 0, 4]⟩] [0x53] := by
  have pushed : (newFramer 5 (Nat.le_refl 5)).pushAll [[0x53, 0], [0, 0, 4, 0x53]] =
      .ok ([⟨'S', [], [0x53, 0, 0, 0, 4]⟩], (newFramer 5 (Nat.le_refl 5)).holding [0x53]) := rfl
  refine ⟨pushed, ?_⟩
  exact (framing_chunkIndependent (Nat.le_refl 5) [[0x53, 0], [0, 0, 4, 0x53]]).2.2 _ _ pushed

end SqlSafetyProxy.Postgres
