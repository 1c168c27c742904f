import SqlSafetyProxy.MySql.Splitting
import SqlSafetyProxy.Wire.Framing

/-!
# Framing and reassembly of MySQL messages

A logical message travels as physical packets with consecutive sequence
numbers.  The framer cuts the stream into packets whatever the chunks in which
it arrives, and the assembler puts the messages together again.
-/

namespace SqlSafetyProxy.MySql

open SqlSafetyProxy.Wire SqlSafetyProxy.Runtime

/-! ## One packet -/

theorem takePacket_nil (maxPacketBytes : Nat) : takePacket maxPacketBytes [] = .ok none := rfl

/-- A packet is taken the same way whatever follows it. -/
theorem takePacket_append {maxPacketBytes : Nat} {buffer : Bytes} (more : Bytes)
    {result : Except Exn (Option (Packet × Bytes))}
    (taken : takePacket maxPacketBytes buffer = result) (decided : result ≠ .ok none) :
    takePacket maxPacketBytes (buffer ++ more) = result.map
      fun found => found.map fun parts => (parts.1, parts.2 ++ more) := by
  subst taken
  unfold takePacket at decided ⊢
  split at decided
  case h_2 => exact absurd rfl decided
  case h_1 b₁ b₂ b₃ sequenceId tail =>
    simp only [List.cons_append] at decided ⊢
    by_cases large : maxPacketBytes < leNat [b₁, b₂, b₃] + 4
    · simp only [large, if_true]
      rfl
    · simp only [large, if_false] at decided ⊢
      by_cases partial_ : (b₁ :: b₂ :: b₃ :: sequenceId :: tail).length < leNat [b₁, b₂, b₃] + 4
      · simp only [partial_, if_true] at decided
        exact absurd rfl decided
      · have whole : leNat [b₁, b₂, b₃] + 4 ≤ (b₁ :: b₂ :: b₃ :: sequenceId :: tail).length :=
          Nat.not_lt.mp partial_
        have enough : ¬ (b₁ :: b₂ :: b₃ :: sequenceId :: (tail ++ more)).length <
            leNat [b₁, b₂, b₃] + 4 := by
          simp only [List.length_cons, List.length_append] at whole ⊢
          omega
        simp only [partial_, enough, if_false]
        obtain ⟨front, back⟩ := take_drop_append more whole
        simp only [List.cons_append] at front back
        rw [front, back]
        simp only [Except.map, Option.map]

/-- A packet as it stands on the wire. -/
def WellFramed (packet : Packet) : Prop :=
  packet = packetOf packet.sequenceId packet.payload ∧ packet.payload.length ≤ maxPacketPayload

theorem takePacket_some {maxPacketBytes : Nat} {buffer rest : Bytes} {packet : Packet}
    (taken : takePacket maxPacketBytes buffer = .ok (some (packet, rest))) :
    buffer = packet.raw ++ rest ∧ WellFramed packet := by
  unfold takePacket at taken
  split at taken
  case h_2 => cases taken
  case h_1 b₁ b₂ b₃ sequenceId tail =>
    simp only at taken
    split at taken
    · cases taken
    split at taken
    · cases taken
    next small enough =>
      simp only [Except.ok.injEq, Option.some.injEq, Prod.mk.injEq] at taken
      obtain ⟨rfl, rfl⟩ := taken
      have fits : leNat [b₁, b₂, b₃] ≤ tail.length := by
        simp only [List.length_cons] at enough
        omega
      have bound := leNat_lt [b₁, b₂, b₃]
      have packed := lePack_leNat [b₁, b₂, b₃]
      have front : (b₁ :: b₂ :: b₃ :: sequenceId :: tail).take (leNat [b₁, b₂, b₃] + 4) =
          b₁ :: b₂ :: b₃ :: sequenceId :: tail.take (leNat [b₁, b₂, b₃]) := rfl
      refine ⟨(List.take_append_drop _ _).symm, ?_, ?_⟩
      · rw [front]
        simp only [packetOf, List.drop_succ_cons, List.drop_zero, List.length_take,
          Nat.min_eq_left fits]
        congr 1
        change _ = lePack [b₁, b₂, b₃].length (leNat [b₁, b₂, b₃]) ++ [sequenceId] ++ _
        rw [packed]
        rfl
      · rw [front]
        simp only [List.drop_succ_cons, List.drop_zero, List.length_take, maxPacketPayload]
        simp only [List.length_cons, List.length_nil] at bound
        omega

/-- A packet within the limit is taken off the front of the stream. -/
theorem takePacket_packetOf {maxPacketBytes : Nat} {sequenceId : UInt8} {payload : Bytes}
    (fits : payload.length ≤ maxPacketPayload) (admitted : payload.length + 4 ≤ maxPacketBytes)
    (rest : Bytes) : takePacket maxPacketBytes ((packetOf sequenceId payload).raw ++ rest) =
      .ok (some (packetOf sequenceId payload, rest)) := by
  obtain ⟨b₁, b₂, b₃, packed⟩ : ∃ b₁ b₂ b₃, lePack 3 payload.length = [b₁, b₂, b₃] :=
    ⟨_, _, _, rfl⟩
  have length : leNat [b₁, b₂, b₃] = payload.length := by
    rw [← packed, leNat_lePack]
    apply Nat.mod_eq_of_lt
    rw [maxPacketPayload] at fits
    omega
  have raw : (packetOf sequenceId payload).raw = b₁ :: b₂ :: b₃ :: sequenceId :: payload := by
    simp only [packetOf, packed]
    rfl
  rw [raw]
  simp only [List.cons_append, takePacket, length]
  rw [if_neg (Nat.not_lt.mpr admitted), if_neg (by simp)]
  have front : (b₁ :: b₂ :: b₃ :: sequenceId :: (payload ++ rest)).take (payload.length + 4) =
      b₁ :: b₂ :: b₃ :: sequenceId :: payload := by simp
  have back : (b₁ :: b₂ :: b₃ :: sequenceId :: (payload ++ rest)).drop (payload.length + 4) =
      rest := by simp
  rw [front, back]
  simp only [List.drop_succ_cons, List.drop_zero]
  rw [← raw]
  rfl

theorem takePacket_error {maxPacketBytes : Nat} {buffer : Bytes} {error : Exn}
    (failed : takePacket maxPacketBytes buffer = .error error) :
    ∃ reason, error = .protocol reason := by
  unfold takePacket at failed
  split at failed
  case h_2 => cases failed
  case h_1 =>
    simp only at failed
    split at failed
    · cases failed
      exact ⟨_, rfl⟩
    split at failed
    · cases failed
    · cases failed

/-- What is left over is shorter than the largest packet. -/
theorem takePacket_none {maxPacketBytes : Nat} {buffer : Bytes} (header : 4 ≤ maxPacketBytes)
    (waits : takePacket maxPacketBytes buffer = .ok none) : buffer.length < maxPacketBytes := by
  unfold takePacket at waits
  split at waits
  case h_1 =>
    simp only at waits
    split at waits
    · cases waits
    split at waits
    · next small short => omega
    · cases waits
  case h_2 short =>
    match buffer, short with
    | [], _ => exact Nat.lt_of_lt_of_le (by simp) header
    | [_], _ => exact Nat.lt_of_lt_of_le (by simp) header
    | [_, _], _ => exact Nat.lt_of_lt_of_le (by simp) header
    | [_, _, _], _ => exact Nat.lt_of_lt_of_le (by simp) header
    | a :: b :: c :: d :: rest, short => exact (short a b c d rest rfl).elim

def packetCutter (maxPacketBytes : Nat) : Cutter Packet Exn where
  take := takePacket maxPacketBytes
  raw := Packet.raw
  take_nil := takePacket_nil maxPacketBytes
  split taken := (takePacket_some taken).1
  raw_ne_nil taken := by
    rw [(takePacket_some taken).2.1]
    simp [packetOf]
  take_append more taken := by
    have later := takePacket_append more taken (by simp)
    exact later
  error_append more taken := by
    have later := takePacket_append more taken (by simp)
    exact later

/-! ## Whole streams -/

theorem takePackets_eq (maxPacketBytes fuel : Nat) (buffer : Bytes) :
    takePackets maxPacketBytes fuel buffer =
      (packetCutter maxPacketBytes).frames fuel buffer := by
  induction fuel generalizing buffer with
  | zero => rfl
  | succ fuel ih =>
      have same : (packetCutter maxPacketBytes).take buffer = takePacket maxPacketBytes buffer :=
        rfl
      rw [takePackets, Cutter.frames, same]
      cases takePacket maxPacketBytes buffer with
      | error error => rfl
      | ok found =>
          cases found with
          | none => rfl
          | some parts =>
              simp only [ih]
              cases (packetCutter maxPacketBytes).frames fuel parts.2 <;> rfl

namespace PacketFramer

/-- The framer with other bytes left over. -/
def holding (framer : PacketFramer) (buffer : Bytes) : PacketFramer :=
  { framer with buffer := buffer }

theorem push_eq (framer : PacketFramer) (chunk : Bytes) :
    framer.push chunk = ((packetCutter framer.maxPacketBytes).cut (framer.buffer ++ chunk)).map
      fun found => (found.1, framer.holding found.2) := by
  simp only [push, takePackets_eq, Cutter.cut]
  cases (packetCutter framer.maxPacketBytes).frames (framer.buffer ++ chunk).length
    (framer.buffer ++ chunk) <;> rfl

/-- Push chunk after chunk. -/
def pushAll : PacketFramer → List Bytes → Except Exn (List Packet × PacketFramer)
  | framer, [] => .ok ([], framer)
  | framer, chunk :: chunks => do
      let first ← framer.push chunk
      let later ← first.2.pushAll chunks
      return (first.1 ++ later.1, later.2)

theorem pushAll_eq (framer : PacketFramer) (chunks : List Bytes) :
    framer.pushAll chunks = ((packetCutter framer.maxPacketBytes).feed framer.buffer chunks).map
      fun found => (found.1, framer.holding found.2) := by
  induction chunks generalizing framer with
  | nil => rfl
  | cons chunk chunks ih =>
      rw [pushAll, push_eq, Cutter.feed]
      cases (packetCutter framer.maxPacketBytes).cut (framer.buffer ++ chunk) with
      | error error => rfl
      | ok found =>
          change ((framer.holding found.2).pushAll chunks >>= _) = _
          rw [ih]
          change (((packetCutter framer.maxPacketBytes).feed found.2 chunks).map _ >>= _) =
            Except.map _ ((packetCutter framer.maxPacketBytes).feed found.2 chunks >>= _)
          cases (packetCutter framer.maxPacketBytes).feed found.2 chunks <;> rfl

end PacketFramer

/-- A framer to which nothing has been pushed. -/
def newPacketFramer (maxPacketBytes : Nat) (header : 4 ≤ maxPacketBytes) : PacketFramer :=
  { maxPacketBytes := maxPacketBytes, header_le_max := header }

theorem pushAll_newPacketFramer {maxPacketBytes : Nat} (header : 4 ≤ maxPacketBytes)
    (chunks : List Bytes) :
    (newPacketFramer maxPacketBytes header).pushAll chunks =
      ((packetCutter maxPacketBytes).cut chunks.flatten).map
        fun found => (found.1, (newPacketFramer maxPacketBytes header).holding found.2) := by
  rw [PacketFramer.pushAll_eq]
  congr 1
  exact Cutter.feed_eq (takePacket_nil maxPacketBytes) chunks

/-! ## Messages on the wire -/

/-- The packets of one message. -/
def packetsFrom : UInt8 → List Bytes → List Packet
  | _, [] => []
  | sequenceId, payload :: rest =>
      packetOf sequenceId payload :: packetsFrom (sequenceId + 1) rest

/-- A payload and the sequence number of its first packet. -/
structure Outgoing where
  sequenceId : UInt8
  payload : Bytes
  deriving DecidableEq, Repr

def Outgoing.packets (message : Outgoing) : List Packet :=
  packetsFrom message.sequenceId (physical message.payload)

def Outgoing.wire (message : Outgoing) : Bytes := (message.packets.map Packet.raw).flatten

/-- The message that is to be assembled from the packets. -/
def Outgoing.message (message : Outgoing) : LogicalMessage where
  firstSequenceId := message.sequenceId
  lastSequenceId := message.sequenceId + UInt8.ofNat ((physical message.payload).length - 1)
  payload := message.payload
  rawPackets := message.wire
  packetCount := (physical message.payload).length

theorem packetsFrom_raw {maxPacketBytes : Nat} {sequenceId : UInt8} {payloads : List Bytes}
    (fits : ∀ payload ∈ payloads, payload.length ≤ maxPacketPayload ∧
      payload.length + 4 ≤ maxPacketBytes) :
    ∀ packet ∈ packetsFrom sequenceId payloads, ∀ rest,
      (packetCutter maxPacketBytes).take (packet.raw ++ rest) = .ok (some (packet, rest)) := by
  induction payloads generalizing sequenceId with
  | nil => simp [packetsFrom]
  | cons payload later ih =>
      intro packet inside rest
      rcases List.mem_cons.mp inside with rfl | inside
      · obtain ⟨small, admitted⟩ := fits payload List.mem_cons_self
        exact takePacket_packetOf small admitted rest
      · exact ih (fun other found => fits other (List.mem_cons_of_mem _ found)) packet inside rest

theorem physical_length {payload packet : Bytes} (inside : packet ∈ physical payload) :
    packet.length ≤ maxPacketPayload := by
  induction payload using physical.induct with
  | case1 payload short =>
      rw [physical_short short] at inside
      rw [List.mem_singleton.mp inside]
      exact Nat.le_of_lt short
  | case2 payload long ih =>
      rw [physical, if_neg long] at inside
      rcases List.mem_cons.mp inside with rfl | later
      · exact List.length_take_le _ _
      · exact ih later

/-! ## Reassembly -/

/-- Push packet after packet and collect the messages. -/
def LogicalMessageAssembler.pushAll : LogicalMessageAssembler → List Packet →
    Except Exn (List LogicalMessage × LogicalMessageAssembler)
  | assembler, [] => .ok ([], assembler)
  | assembler, packet :: packets =>
      match assembler.push packet with
      | (.error error, _) => .error error
      | (.ok message, assembler) => do
          let later ← assembler.pushAll packets
          return (message.toList ++ later.1, later.2)

namespace LogicalMessageAssembler

/-- The assembler with the packets of a message that is not complete yet. -/
def holding (assembler : LogicalMessageAssembler) (parts : List Packet) :
    LogicalMessageAssembler := { assembler with parts := parts }

/-- The packet continues the sequence of those before it. -/
def Continues (before : List Packet) (sequenceId : UInt8) : Prop :=
  ∀ last, before.getLast? = some last → last.sequenceId + 1 = sequenceId

theorem inSequence_of_continues {assembler : LogicalMessageAssembler} {before : List Packet}
    {packet : Packet} (continues : Continues before packet.sequenceId) :
    (assembler.holding before).inSequence packet = .ok () := by
  unfold inSequence holding
  cases last : before.getLast? with
  | none => rfl
  | some last' =>
      have expected : packet.sequenceId.toNat = (last'.sequenceId.toNat + 1) % 256 := by
        rw [← continues last' last, UInt8.toNat_add]
        rfl
      simp only [expected, ne_eq, not_true, if_false]

theorem push_continues {assembler : LogicalMessageAssembler} {before : List Packet}
    {packet : Packet} (continues : Continues before packet.sequenceId)
    (fits : ((before ++ [packet]).map Packet.payload).flatten.length ≤ assembler.maxMessageBytes) :
    (assembler.holding before).push packet =
      if packet.payload.length = maxPacketPayload then
        (.ok none, assembler.holding (before ++ [packet]))
      else
        (.ok (some
          { firstSequenceId := ((before ++ [packet]).head?.getD packet).sequenceId
            lastSequenceId := packet.sequenceId
            payload := ((before ++ [packet]).map Packet.payload).flatten
            rawPackets := ((before ++ [packet]).map Packet.raw).flatten
            packetCount := (before ++ [packet]).length }), assembler.reset) := by
  unfold push
  rw [inSequence_of_continues continues]
  have within : ¬ assembler.maxMessageBytes <
      ((before ++ [packet]).map Packet.payload).flatten.length := Nat.not_lt.mpr fits
  simp only [holding, within, if_false]
  rfl

end LogicalMessageAssembler

open LogicalMessageAssembler

/-- The message assembled from some packets and those of the rest of its payload. -/
def assembled (before : List Packet) (sequenceId : UInt8) (payload : Bytes) : LogicalMessage where
  firstSequenceId := (before.head?.map Packet.sequenceId).getD sequenceId
  lastSequenceId := sequenceId + UInt8.ofNat ((physical payload).length - 1)
  payload := (before.map Packet.payload).flatten ++ payload
  rawPackets := (before.map Packet.raw).flatten ++
    ((packetsFrom sequenceId (physical payload)).map Packet.raw).flatten
  packetCount := before.length + (physical payload).length

/-- A full packet joins those before it. -/
theorem assembled_full {before : List Packet} {sequenceId : UInt8} {payload : Bytes}
    (long : ¬ payload.length < maxPacketPayload) :
    assembled (before ++ [packetOf sequenceId (payload.take maxPacketPayload)]) (sequenceId + 1)
      (payload.drop maxPacketPayload) = assembled before sequenceId payload := by
  obtain ⟨count, more⟩ : ∃ count, (physical (payload.drop maxPacketPayload)).length = count + 1 :=
    Nat.exists_eq_succ_of_ne_zero
      (List.length_pos_of_ne_nil (physical_ne_nil _)).ne'
  have split : physical payload = payload.take maxPacketPayload ::
      physical (payload.drop maxPacketPayload) := by
    rw [physical, if_neg long]
  have first : ((before ++ [packetOf sequenceId (payload.take maxPacketPayload)]).head?.map
      Packet.sequenceId).getD (sequenceId + 1) =
        (before.head?.map Packet.sequenceId).getD sequenceId := by
    cases before <;> rfl
  have last : sequenceId + 1 + UInt8.ofNat count = sequenceId + UInt8.ofNat (count + 1) := by
    rw [UInt8.ofNat_add, UInt8.add_assoc, UInt8.add_comm 1]
    rfl
  have parts : (before.map Packet.payload).flatten ++ (payload.take maxPacketPayload ++
      payload.drop maxPacketPayload) = (before.map Packet.payload).flatten ++ payload := by
    rw [List.take_append_drop]
  unfold assembled
  rw [first, split, List.length_cons, more, Nat.add_sub_cancel, Nat.add_sub_cancel, last]
  simp only [List.map_append, List.flatten_append, List.map_cons, List.map_nil, List.append_assoc,
    packetsFrom, List.flatten_cons, List.length_append, List.length_singleton]
  congr 1
  omega

/-- The packets of a payload complete the message that is being assembled. -/
theorem pushAll_physical {assembler : LogicalMessageAssembler} (later : List Packet)
    {before : List Packet} {sequenceId : UInt8} {payload : Bytes}
    (continues : Continues before sequenceId)
    (fits : (before.map Packet.payload).flatten.length + payload.length ≤
      assembler.maxMessageBytes) :
    (assembler.holding before).pushAll (packetsFrom sequenceId (physical payload) ++ later) = do
      let rest ← assembler.reset.pushAll later
      return (assembled before sequenceId payload :: rest.1, rest.2) := by
  induction payload using physical.induct generalizing before sequenceId with
  | case1 payload short =>
      have partial_ : (packetOf sequenceId payload).payload.length ≠ maxPacketPayload :=
        Nat.ne_of_lt short
      have room : ((before ++ [packetOf sequenceId payload]).map Packet.payload).flatten.length ≤
          assembler.maxMessageBytes := by simpa [packetOf] using fits
      have pushed := @push_continues assembler before (packetOf sequenceId payload) continues room
      rw [if_neg partial_] at pushed
      have first : ((before ++ [packetOf sequenceId payload]).head?.getD
          (packetOf sequenceId payload)).sequenceId =
            (before.head?.map Packet.sequenceId).getD sequenceId := by
        cases before <;> rfl
      simp only [physical_short short, packetsFrom, List.singleton_append, pushAll, pushed, assembled,
        first]
      cases assembler.reset.pushAll later with
      | error error => rfl
      | ok rest => simp [packetOf]
  | case2 payload long ih =>
      have full : (packetOf sequenceId (payload.take maxPacketPayload)).payload.length =
          maxPacketPayload := by
        simp only [packetOf, List.length_take]
        exact Nat.min_eq_left (Nat.not_lt.mp long)
      have total : (payload.take maxPacketPayload).length + (payload.drop maxPacketPayload).length =
          payload.length := by
        rw [← List.length_append, List.take_append_drop]
      have front : ((before ++ [packetOf sequenceId (payload.take maxPacketPayload)]).map
          Packet.payload).flatten.length = (before.map Packet.payload).flatten.length +
            (payload.take maxPacketPayload).length := by
        simp [packetOf]
      have pushed := @push_continues assembler before
        (packetOf sequenceId (payload.take maxPacketPayload)) continues (by omega)
      rw [if_pos full] at pushed
      have goesOn : Continues (before ++ [packetOf sequenceId (payload.take maxPacketPayload)])
          (sequenceId + 1) := by
        intro last isLast
        rw [List.getLast?_concat] at isLast
        cases isLast
        rfl
      have rest := ih goesOn (by omega)
      rw [assembled_full long] at rest
      rw [physical, if_neg long]
      simp only [packetsFrom, List.cons_append, pushAll, pushed, rest]
      cases assembler.reset.pushAll later <;> rfl

/-- An assembler without a partial message. -/
def newAssembler (maxMessageBytes : Nat) (positive : 0 < maxMessageBytes) :
    LogicalMessageAssembler := { maxMessageBytes := maxMessageBytes, positive := positive }

theorem pushAll_packets {maxMessageBytes : Nat} (positive : 0 < maxMessageBytes)
    {messages : List Outgoing}
    (fits : ∀ message ∈ messages, message.payload.length ≤ maxMessageBytes) :
    (newAssembler maxMessageBytes positive).pushAll (messages.flatMap Outgoing.packets) =
      .ok (messages.map Outgoing.message, newAssembler maxMessageBytes positive) := by
  induction messages with
  | nil => rfl
  | cons message later ih =>
      have room := fits message List.mem_cons_self
      have first := @pushAll_physical (newAssembler maxMessageBytes positive)
        (later.flatMap Outgoing.packets) [] message.sequenceId message.payload
        (by rintro last ⟨⟩) (by simpa [newAssembler] using room)
      have same : (newAssembler maxMessageBytes positive).holding [] =
          newAssembler maxMessageBytes positive := rfl
      have cleared : (newAssembler maxMessageBytes positive).reset =
          newAssembler maxMessageBytes positive := rfl
      rw [same, cleared, ih fun other inside => fits other (List.mem_cons_of_mem _ inside)] at first
      rw [List.flatMap_cons]
      refine first.trans ?_
      simp [assembled, Outgoing.message, Outgoing.wire, Outgoing.packets]

/-! ## Every chunking -/

/-- The limits admit every packet and every message. -/
structure Admissible (maxPacketBytes maxMessageBytes : Nat) (messages : List Outgoing) : Prop where
  packets : ∀ message ∈ messages, ∀ packet ∈ physical message.payload,
    packet.length + 4 ≤ maxPacketBytes
  messages : ∀ message ∈ messages, message.payload.length ≤ maxMessageBytes

/-- Messages that are split into packets are framed and assembled as they were. -/
theorem pushAll_messages {maxPacketBytes maxMessageBytes : Nat} (header : 4 ≤ maxPacketBytes)
    (positive : 0 < maxMessageBytes) {chunks : List Bytes} {messages : List Outgoing}
    (admissible : Admissible maxPacketBytes maxMessageBytes messages)
    (sent : chunks.flatten = (messages.map Outgoing.wire).flatten) :
    (newPacketFramer maxPacketBytes header).pushAll chunks =
        .ok (messages.flatMap Outgoing.packets, newPacketFramer maxPacketBytes header) ∧
      (newAssembler maxMessageBytes positive).pushAll (messages.flatMap Outgoing.packets) =
        .ok (messages.map Outgoing.message, newAssembler maxMessageBytes positive) := by
  refine ⟨?_, pushAll_packets positive admissible.messages⟩
  have wire : chunks.flatten = ((messages.flatMap Outgoing.packets).map Packet.raw).flatten := by
    rw [sent, List.map_flatMap, List.flatMap_def, List.flatten_flatten, List.map_map]
    rfl
  have cut := @Cutter.cut_flatten _ _ (packetCutter maxPacketBytes)
    (messages.flatMap Outgoing.packets) ?_
  · rw [pushAll_newPacketFramer header chunks, wire]
    exact (congrArg _ cut).trans rfl
  · intro packet inside rest
    obtain ⟨message, sent, isPacket⟩ := List.mem_flatMap.mp inside
    refine packetsFrom_raw ?_ packet isPacket rest
    intro payload isPayload
    exact ⟨physical_length isPayload, admissible.packets message sent payload isPayload⟩

/--
Messages that are split into packets and sent in any chunks are framed and
assembled as they were, and nothing is left over.  On any stream at all, neither
whether the framer raises nor what it frames depends on the chunks; it raises
only protocol errors, loses nothing and holds less than the largest packet.
-/
theorem reassembly_inverts_splitting {maxPacketBytes maxMessageBytes : Nat}
    (header : 4 ≤ maxPacketBytes) (positive : 0 < maxMessageBytes) (chunks : List Bytes) :
    (∀ messages : List Outgoing, Admissible maxPacketBytes maxMessageBytes messages →
      chunks.flatten = (messages.map Outgoing.wire).flatten →
      (newPacketFramer maxPacketBytes header).pushAll chunks =
          .ok (messages.flatMap Outgoing.packets, newPacketFramer maxPacketBytes header) ∧
        (newAssembler maxMessageBytes positive).pushAll (messages.flatMap Outgoing.packets) =
          .ok (messages.map Outgoing.message, newAssembler maxMessageBytes positive)) ∧
      (newPacketFramer maxPacketBytes header).pushAll chunks =
        (newPacketFramer maxPacketBytes header).push chunks.flatten ∧
      (∀ error, (newPacketFramer maxPacketBytes header).pushAll chunks = .error error →
        ∃ reason, error = .protocol reason) ∧
      ∀ packets framer,
        (newPacketFramer maxPacketBytes header).pushAll chunks = .ok (packets, framer) →
        (∀ packet ∈ packets, WellFramed packet) ∧
          chunks.flatten = (packets.map Packet.raw).flatten ++ framer.buffer ∧
          framer.buffer.length < maxPacketBytes := by
  have whole := pushAll_newPacketFramer header chunks
  refine ⟨?_, ?_, ?_, ?_⟩
  · intro messages admissible sent
    exact pushAll_messages header positive admissible sent
  · rw [whole, PacketFramer.push_eq]
    rfl
  · intro error failed
    rw [whole] at failed
    cases cut : (packetCutter maxPacketBytes).cut chunks.flatten with
    | error other =>
        simp only [cut, Except.map] at failed
        cases failed
        obtain ⟨rest, taken⟩ := Cutter.cut_error cut
        exact takePacket_error taken
    | ok found =>
        simp only [cut, Except.map] at failed
        cases failed
  · intro packets framer pushed
    rw [whole] at pushed
    cases cut : (packetCutter maxPacketBytes).cut chunks.flatten with
    | error other =>
        simp only [cut, Except.map] at pushed
        cases pushed
    | ok found =>
        simp only [cut, Except.map] at pushed
        cases pushed
        obtain ⟨stream, taken⟩ := Cutter.cut_split cut
        refine ⟨?_, stream, takePacket_none header (Cutter.cut_rest cut)⟩
        intro packet inside
        obtain ⟨buffer, rest, isTaken⟩ := taken packet inside
        exact (takePacket_some isTaken).2

/-- A ping with the sequence number 7. -/
def numberedPing : Outgoing := ⟨7, [0x0E]⟩

theorem numberedPing_packets : numberedPing.packets = [packetOf 7 [0x0E]] := by
  rw [Outgoing.packets, physical_short (by decide)]
  rfl

theorem physical_full {front : Bytes} (full : front.length = maxPacketPayload) (rest : Bytes) :
    physical (front ++ rest) = front :: physical rest := by
  have long : ¬ (front ++ rest).length < maxPacketPayload := by
    rw [List.length_append]
    omega
  rw [physical, if_neg long, List.take_left' full, List.drop_left' full]

/-- The first packet of a query of 16 MiB. -/
def longQueryFront : Bytes := 0x03 :: List.replicate (maxPacketPayload - 1) 0x20

/-- A query of 16 MiB: one byte more than a packet holds. -/
def longQuery : Outgoing := ⟨0, longQueryFront ++ [0x3B]⟩

theorem longQuery_physical : physical longQuery.payload = [longQueryFront, [0x3B]] := by
  have full : longQueryFront.length = maxPacketPayload := by
    rw [longQueryFront, List.length_cons, List.length_replicate]
    rfl
  rw [longQuery, physical_full full, physical_short (by decide)]

theorem longQuery_packets :
    longQuery.packets = [packetOf 0 longQueryFront, packetOf 1 [0x3B]] := by
  rw [Outgoing.packets, longQuery_physical]
  rfl

theorem admissible_long : Admissible 0x2000000 0x2000000 [numberedPing, longQuery] := by
  have front : longQueryFront.length = maxPacketPayload := by
    rw [longQueryFront, List.length_cons, List.length_replicate]
    rfl
  constructor
  · intro message inside packet isPacket
    rcases List.mem_pair.mp inside with rfl | rfl
    · rw [physical_short (by decide)] at isPacket
      rw [List.mem_singleton.mp isPacket]
      decide
    · rw [longQuery_physical] at isPacket
      rcases List.mem_pair.mp isPacket with rfl | rfl
      · rw [front]
        decide
      · decide
  · intro message inside
    rcases List.mem_pair.mp inside with rfl | rfl
    · decide
    · rw [longQuery, List.length_append, front]
      decide

/-- What is sent, cut after the length of the ping. -/
def longChunks : List Bytes :=
  [[1, 0, 0], ([numberedPing, longQuery].map Outgoing.wire).flatten.drop 3]

/-- A ping in two pieces and a query of two packets are put together again. -/
theorem longQuery_reassembled :
    (newPacketFramer 0x2000000 (by decide)).pushAll longChunks =
        .ok ([packetOf 7 [0x0E], packetOf 0 longQueryFront, packetOf 1 [0x3B]],
          newPacketFramer 0x2000000 (by decide)) ∧
      (newAssembler 0x2000000 (by decide)).pushAll
          [packetOf 7 [0x0E], packetOf 0 longQueryFront, packetOf 1 [0x3B]] =
        .ok ([numberedPing.message, longQuery.message], newAssembler 0x2000000 (by decide)) := by
  have front : ([numberedPing, longQuery].map Outgoing.wire).flatten.take 3 = [1, 0, 0] := by
    rw [List.map_cons, List.flatten_cons, Outgoing.wire, numberedPing_packets]
    rfl
  have sent : longChunks.flatten = ([numberedPing, longQuery].map Outgoing.wire).flatten := by
    rw [longChunks, List.flatten_cons, List.flatten_singleton, ← front, List.take_append_drop]
  have received := (@reassembly_inverts_splitting 0x2000000 0x2000000 (by decide) (by decide)
    longChunks).1 [numberedPing, longQuery] admissible_long sent
  rw [List.flatMap_cons, List.flatMap_singleton, numberedPing_packets, longQuery_packets]
    at received
  exact received

end SqlSafetyProxy.MySql
