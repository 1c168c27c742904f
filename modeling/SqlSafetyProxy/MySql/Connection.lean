import SqlSafetyProxy.MySql.Authentication
import SqlSafetyProxy.MySql.Framing

/-!
# The two tasks of a connection

The client's bytes are messages, one after another; what the backend is written
is some of them, in order and as they were sent: the response to its greeting,
replies, and commands.  Here is what the tasks promise each other about it.
-/

namespace SqlSafetyProxy.MySql

open SqlSafetyProxy.Sql SqlSafetyProxy.Policy SqlSafetyProxy.Wire SqlSafetyProxy.Runtime
open SqlSafetyProxy.Coroutine

/-! ## Both sockets -/

/-- What has been read from either side. -/
structure Sockets where
  clientRead : Bytes := []
  backendRead : Bytes := []
  deriving DecidableEq, Repr

abbrev LinkWorld := World adapter Sockets

def readClient (w : LinkWorld) (chunk : Bytes) : LinkWorld :=
  { w with peer := { w.peer with clientRead := w.peer.clientRead ++ chunk } }

def readBackend (w : LinkWorld) (chunk : Bytes) : LinkWorld :=
  { w with peer := { w.peer with backendRead := w.peer.backendRead ++ chunk } }

/-- What `pump_mysql_client` does with a chunk. -/
def pumpMysqlClient (tools : Tools) (opts : ProxyOptions) (chunk : Bytes) :
    Handler adapter Sockets Unit := do
  let _ ← processClientChunk tools opts chunk
  return ()

/-- What `pump_mysql_backend` does with a chunk. -/
def pumpMysqlBackend (chunk : Bytes) : Handler adapter Sockets Unit := do
  let _ ← processBackendChunk chunk
  return ()

/-- Both pumps read whatever chunks arrive; the client's stops once the session is closing. -/
def handleMysqlConnection (tools : Tools) (opts : ProxyOptions) :
    System awaits LinkWorld Exn Side where
  start
    | .client, w, task, w' => ∃ chunk, IsChunk chunk ∧ w.session.session.closing = false ∧
        task = pumpMysqlClient tools opts chunk ∧ w' = readClient w chunk
    | .backend, w, task, w' => ∃ chunk, IsChunk chunk ∧
        task = pumpMysqlBackend chunk ∧ w' = readBackend w chunk
  answers q w answer := answers q w answer
  environment _ _ := False

/-- A connection to the backend has been opened, and nothing has been read. -/
def newLink (relay : RelayState) : LinkWorld where
  session := relay
  trace := []
  clientOut := []
  peer := {}

/-! ## Messages of several packets -/

def wireOf (packets : List Packet) : Bytes := (packets.map Packet.raw).flatten

@[simp] theorem wireOf_append (first second : List Packet) :
    wireOf (first ++ second) = wireOf first ++ wireOf second := by
  simp [wireOf]

@[simp] theorem wireOf_cons (packet : Packet) (rest : List Packet) :
    wireOf (packet :: rest) = packet.raw ++ wireOf rest := rfl

@[simp] theorem wireOf_nil : wireOf [] = [] := rfl

/-- Each packet carries the number after that of the packet before it. -/
def InOrder (packets : List Packet) : Prop :=
  packets.IsChain fun packet next => next.sequenceId.toNat = (packet.sequenceId.toNat + 1) % 256

/-- Packets of a message of which more must follow. -/
structure Unfinished (parts : List Packet) : Prop where
  framed : ∀ packet ∈ parts, WellFramed packet
  full : ∀ packet ∈ parts, packet.payload.length = maxPacketPayload
  ordered : InOrder parts

/-- All packets of one message. -/
def Whole (group : List Packet) : Prop :=
  ∃ front last, group = front ++ [last] ∧ Unfinished front ∧ WellFramed last ∧ InOrder group

theorem unfinished_nil : Unfinished [] := ⟨by simp, by simp, .nil⟩

theorem whole_single {packet : Packet} (framed : WellFramed packet) : Whole [packet] :=
  ⟨[], packet, rfl, unfinished_nil, framed, .singleton _⟩

section Assembler

variable {assembler assembler' : LogicalMessageAssembler} {packet : Packet}

theorem inOrder_of_inSequence (ordered : InOrder assembler.parts)
    (inSequence : assembler.inSequence packet = .ok ()) :
    InOrder (assembler.parts ++ [packet]) := by
  refine ordered.append (.singleton _) ?_
  intro last isLast next isNext
  cases isNext
  unfold LogicalMessageAssembler.inSequence at inSequence
  rw [isLast] at inSequence
  dsimp only at inSequence
  split at inSequence
  · cases inSequence
  · next expected => exact not_not.mp expected

/-- What comes of a packet that is pushed. -/
theorem push_cases (assembler : LogicalMessageAssembler) (packet : Packet) :
    (∃ error, assembler.push packet = (.error error, assembler.reset)) ∨
    (assembler.inSequence packet = .ok () ∧ packet.payload.length = maxPacketPayload ∧
      assembler.push packet = (.ok none, assembler.holding (assembler.parts ++ [packet]))) ∨
    ∃ message, assembler.inSequence packet = .ok () ∧
      message.rawPackets = wireOf (assembler.parts ++ [packet]) ∧
      assembler.push packet = (.ok (some message), assembler.reset) := by
  unfold LogicalMessageAssembler.push
  cases inSequence : assembler.inSequence packet with
  | error error => exact .inl ⟨error, rfl⟩
  | ok done =>
      dsimp only
      split
      · exact .inl ⟨_, rfl⟩
      · split
        · next full => exact .inr (.inl ⟨rfl, full, rfl⟩)
        · exact .inr (.inr ⟨_, rfl, rfl, rfl⟩)

theorem Unfinished.push (unfinished : Unfinished assembler.parts) (framed : WellFramed packet)
    (full : packet.payload.length = maxPacketPayload)
    (inSequence : assembler.inSequence packet = .ok ()) :
    Unfinished (assembler.parts ++ [packet]) := by
  refine ⟨?_, ?_, inOrder_of_inSequence unfinished.ordered inSequence⟩
  · intro other inside
    rcases List.mem_append.mp inside with early | last
    · exact unfinished.framed other early
    · rw [List.mem_singleton.mp last]
      exact framed
  · intro other inside
    rcases List.mem_append.mp inside with early | last
    · exact unfinished.full other early
    · rw [List.mem_singleton.mp last]
      exact full

theorem Unfinished.whole (unfinished : Unfinished assembler.parts) (framed : WellFramed packet)
    (inSequence : assembler.inSequence packet = .ok ()) : Whole (assembler.parts ++ [packet]) :=
  ⟨_, _, rfl, unfinished, framed, inOrder_of_inSequence unfinished.ordered inSequence⟩

end Assembler

/-! ## What is written to the backend -/

/-- The writes to the backend, in order, each with what it was. -/
def backendWrites : List (Event adapter) → List (Source × Bytes)
  | [] => []
  | .forwarded source raw :: rest => (source, raw) :: backendWrites rest
  | _ :: rest => backendWrites rest

@[simp] theorem backendWrites_append (first second : List (Event adapter)) :
    backendWrites (first ++ second) = backendWrites first ++ backendWrites second := by
  induction first with
  | nil => rfl
  | cons event rest ih => cases event <;> simp [backendWrites, ih]

theorem backendWrites_decision {event : Event adapter} (isDecision : event.IsDecision) :
    backendWrites [event] = [] := by
  cases event with
  | forwarded source raw => exact isDecision.elim
  | _ => rfl

/-- The order of the writes: the response to the greeting, replies, and then commands. -/
inductive Staged : List Source → Prop where
  | silent : Staged []
  | responded (replies : Nat) (commands : List LogicalMessage) :
      Staged (.handshake :: List.replicate replies .passThrough ++ commands.map .command)

theorem staged_handshake : Staged [.handshake] := .responded 0 []

theorem Staged.reply {sources : List Source} (staged : Staged sources) (begun : sources ≠ [])
    (uncommanded : ∀ message, .command message ∉ sources) : Staged (sources ++ [.passThrough]) := by
  cases staged with
  | silent => exact absurd rfl begun
  | responded replies commands =>
      cases commands with
      | nil =>
          have longer := Staged.responded (replies + 1) []
          rw [List.replicate_succ'] at longer
          simpa using longer
      | cons message rest => exact absurd (by simp) (uncommanded message)

theorem Staged.command {sources : List Source} (staged : Staged sources) (begun : sources ≠ [])
    (message : LogicalMessage) : Staged (sources ++ [.command message]) := by
  cases staged with
  | silent => exact absurd rfl begun
  | responded replies commands =>
      have longer := Staged.responded replies (commands ++ [message])
      simpa using longer

/-! ## What holds between the segments -/

/-- The phase of the connection agrees with that of the authentication. -/
structure Agreed (state : RelayState) : Prop where
  commanding : state.phase = .commandResponse → state.auth.phase = .authenticated
  closed : state.phase = .closed → state.auth.phase = .tlsRejected ∨ state.auth.phase = .failed

/-- The client has responded and has not asked for TLS. -/
structure Underway (auth : AuthState) : Prop where
  responded : auth.phase ≠ .waitingForClientResponse
  admitted : auth.phase ≠ .tlsRejected

/-- What the state of a connection says of the writes to the backend. -/
structure InStage (state : RelayState) (sources : List Source) : Prop where
  staged : Staged sources
  greeted : sources ≠ [] → state.initialBackendHandshakeSeen = true
  begun : sources ≠ [] ↔ Underway state.auth
  commanding : ∀ message, .command message ∈ sources → state.phase = .commandResponse

/-- The messages that were handled, and the rest of what the client has sent. -/
structure Conveys (groups : List (List Packet)) (rest : Bytes) (w : LinkWorld) : Prop where
  agreed : Agreed w.session
  inStage : InStage w.session ((backendWrites w.trace).map Prod.fst)
  whole : ∀ group ∈ groups, Whole group
  unfinished : Unfinished w.session.commandAssembler.parts
  assembling : w.session.commandAssembler.parts ≠ [] →
    w.session.auth.phase ≠ .waitingForClientResponse ∧ w.session.phase ≠ .authentication
  read : w.peer.clientRead =
    wireOf groups.flatten ++ wireOf w.session.commandAssembler.parts ++ rest
  written : List.Sublist ((backendWrites w.trace).map Prod.snd) (groups.map wireOf)

/-- However far the client task has come. -/
def Conveying (w : LinkWorld) : Prop := ∃ groups rest, Conveys groups rest w

/-- How a segment of the client task moves the exchange on. -/
structure Proceeds (start w : LinkWorld) : Prop where
  auth : start.session.auth.phase ≠ .waitingForClientResponse →
    w.session.auth = start.session.auth
  phase : Underway start.session.auth → w.session.phase = start.session.phase
  closed : start.session.phase = .closed →
    w.session.phase = .closed ∧ backendWrites w.trace = backendWrites start.trace

/-- What a segment of the backend task leaves alone, and how it moves the exchange on. -/
structure Shades (start w : LinkWorld) : Prop where
  trace : w.trace = start.trace
  clientRead : w.peer.clientRead = start.peer.clientRead
  clientFramer : w.session.clientFramer = start.session.clientFramer
  assembler : w.session.commandAssembler = start.session.commandAssembler
  greeted : start.session.initialBackendHandshakeSeen = true →
    w.session.initialBackendHandshakeSeen = true
  agreed : Agreed start.session → Agreed w.session
  waits : start.session.auth.phase ≠ .authenticating →
    w.session.auth.phase = start.session.auth.phase
  authenticates : start.session.auth.phase = .authenticating →
    w.session.auth.phase ≠ .waitingForClientResponse ∧ w.session.auth.phase ≠ .tlsRejected
  phase : start.session.phase ≠ .authentication → w.session.phase = start.session.phase

section Shades

variable {start w w' : LinkWorld}

theorem Shades.refl (w : LinkWorld) : Shades w w :=
  ⟨rfl, rfl, rfl, rfl, id, id, fun _ => rfl, fun phase => by rw [phase]; decide, fun _ => rfl⟩

/-- Whether the client has responded is for the client task to say. -/
theorem Shades.responded (shades : Shades start w)
    (responded : start.session.auth.phase ≠ .waitingForClientResponse) :
    w.session.auth.phase ≠ .waitingForClientResponse := by
  by_cases authenticating : start.session.auth.phase = .authenticating
  · exact (shades.authenticates authenticating).1
  · rw [shades.waits authenticating]
    exact responded

theorem Shades.underway (shades : Shades start w) :
    Underway w.session.auth ↔ Underway start.session.auth := by
  by_cases authenticating : start.session.auth.phase = .authenticating
  · obtain ⟨responded, admitted⟩ := shades.authenticates authenticating
    refine iff_of_true ⟨responded, admitted⟩ ⟨?_, ?_⟩
    · rw [authenticating]
      decide
    · rw [authenticating]
      decide
  · have same := shades.waits authenticating
    refine ⟨fun underway => ⟨?_, ?_⟩, fun underway => ⟨?_, ?_⟩⟩
    · rw [← same]
      exact underway.responded
    · rw [← same]
      exact underway.admitted
    · rw [same]
      exact underway.responded
    · rw [same]
      exact underway.admitted

theorem InStage.shades {sources : List Source} (inStage : InStage start.session sources)
    (shades : Shades start w) : InStage w.session sources := by
  refine ⟨inStage.staged, fun begun => shades.greeted (inStage.greeted begun),
    inStage.begun.trans shades.underway.symm, ?_⟩
  intro message inside
  have commanding := inStage.commanding message inside
  rw [shades.phase (by rw [commanding]; decide)]
  exact commanding

theorem Conveys.shades {groups : List (List Packet)} {rest : Bytes}
    (conveys : Conveys groups rest start) (shades : Shades start w) : Conveys groups rest w where
  agreed := shades.agreed conveys.agreed
  inStage := by
    rw [shades.trace]
    exact conveys.inStage.shades shades
  whole := conveys.whole
  unfinished := by
    rw [shades.assembler]
    exact conveys.unfinished
  assembling := by
    rw [shades.assembler]
    intro begun
    obtain ⟨responded, entered⟩ := conveys.assembling begun
    refine ⟨shades.responded responded, ?_⟩
    rw [shades.phase entered]
    exact entered
  read := by
    rw [shades.clientRead, shades.assembler]
    exact conveys.read
  written := by
    rw [shades.trace]
    exact conveys.written

theorem Conveying.shades (conveying : Conveying start) (shades : Shades start w) :
    Conveying w := by
  obtain ⟨groups, rest, conveys⟩ := conveying
  exact ⟨groups, rest, conveys.shades shades⟩

end Shades

/-- What the backend task counts on. -/
structure Behind (w w' : LinkWorld) : Prop where
  auth : w.session.auth.phase ≠ .waitingForClientResponse → w'.session.auth = w.session.auth
  phase : Underway w.session.auth → w'.session.phase = w.session.phase

/-- What a task counts on in the other one. -/
def Counts : Side → LinkWorld → LinkWorld → Prop
  | .client, w, w' => Shades w w'
  | .backend, w, w' => Behind w w'

theorem counts_refl (side : Side) (w : LinkWorld) : Counts side w w := by
  cases side with
  | client => exact .refl w
  | backend => exact ⟨fun _ => rfl, fun _ => rfl⟩

theorem Shades.trans {w₁ w₂ w₃ : LinkWorld} (first : Shades w₁ w₂) (second : Shades w₂ w₃) :
    Shades w₁ w₃ where
  trace := second.trace.trans first.trace
  clientRead := second.clientRead.trans first.clientRead
  clientFramer := second.clientFramer.trans first.clientFramer
  assembler := second.assembler.trans first.assembler
  greeted seen := second.greeted (first.greeted seen)
  agreed agreed := second.agreed (first.agreed agreed)
  waits settled := by
    have same := first.waits settled
    rw [← same] at settled
    exact (second.waits settled).trans same
  authenticates authenticating := by
    have underway : Underway w₁.session.auth := by
      refine ⟨?_, ?_⟩
      · rw [authenticating]
        decide
      · rw [authenticating]
        decide
    have later := second.underway.mpr (first.underway.mpr underway)
    exact ⟨later.responded, later.admitted⟩
  phase entered := by
    have same := first.phase entered
    rw [← same] at entered
    exact (second.phase entered).trans same

theorem Behind.trans {w₁ w₂ w₃ : LinkWorld} (first : Behind w₁ w₂) (second : Behind w₂ w₃) :
    Behind w₁ w₃ where
  auth responded := by
    have same := first.auth responded
    rw [← same] at responded
    exact (second.auth responded).trans same
  phase underway := by
    have same := first.auth underway.responded
    have phase := first.phase underway
    rw [← same] at underway
    exact (second.phase underway).trans phase

theorem counts_trans (side : Side) (w₁ w₂ w₃ : LinkWorld) (first : Counts side w₁ w₂)
    (second : Counts side w₂ w₃) : Counts side w₁ w₃ := by
  cases side with
  | client => exact Shades.trans first second
  | backend => exact Behind.trans first second

/-- The promises of the two tasks. -/
def conveyance (tools : Tools) (opts : ProxyOptions) :
    Promises (handleMysqlConnection tools opts) anyTurn where
  invariant := Conveying
  guarantee
    | .client, start, w => Conveying w ∧ Proceeds start w
    | .backend, start, w => Shades start w
  rely := Counts
  rely_refl := counts_refl
  rely_trans := counts_trans
  environment_invariant _ _ _ moved _ := moved.elim
  environment_relied _ _ _ _ _ moved := moved.elim
  guarantee_invariant side _ _ conveying guaranteed _ := by
    cases side with
    | client => exact guaranteed.1
    | backend => exact conveying.shades guaranteed
  guarantee_relied side side' _ _ other _ _ guaranteed := by
    cases side with
    | client =>
        cases side' with
        | client => exact absurd rfl other
        | backend => exact guaranteed
    | backend =>
        cases side' with
        | client => exact ⟨guaranteed.2.auth, guaranteed.2.phase⟩
        | backend => exact absurd rfl other

end SqlSafetyProxy.MySql
