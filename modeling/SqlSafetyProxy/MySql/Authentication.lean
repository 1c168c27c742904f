import SqlSafetyProxy.MySql.Course
import SqlSafetyProxy.MySql.Exchange
import SqlSafetyProxy.MySql.Relay

/-!
# Across the authentication boundary

The two tasks of a connection from its first byte on.  The backend reads the
packets written to it in order, and at some point it accepts the client: what it
reads from then on it reads as commands.  The proxy stops passing packets
through unread only in a later turn, once the acceptance has drained.
-/

namespace SqlSafetyProxy.MySql

open SqlSafetyProxy.Sql SqlSafetyProxy.Policy SqlSafetyProxy.Wire SqlSafetyProxy.Runtime
open SqlSafetyProxy.Coroutine

/-! ## The far side -/

/-- A backend and what is under way to the proxy. -/
structure Authenticator where
  /-- How many of the packets written to it the backend has read. -/
  read : Nat := 0
  /-- How many it had read when it sent its authentication OK. -/
  accepted : Option Nat := none
  /-- What it has sent and the proxy has not read yet. -/
  sent : Bytes := []
  deriving DecidableEq, Repr

abbrev AuthWorld := World adapter Authenticator

/-- How many packets were written at once. -/
def Source.packetCount : Source → Nat
  | .command message => message.packetCount
  | _ => 1

/-- Only commands are written by the dispatcher. -/
def Source.isCommand : Source → Bool
  | .command _ => true
  | _ => false

/-- What each packet written to the backend was, in order. -/
def sources : List (Event adapter) → List Source
  | [] => []
  | .forwarded source _ :: rest => List.replicate source.packetCount source ++ sources rest
  | _ :: rest => sources rest

@[simp] theorem sources_append (first second : List (Event adapter)) :
    sources (first ++ second) = sources first ++ sources second := by
  induction first with
  | nil => rfl
  | cons event rest ih => cases event <;> simp [sources, ih]

theorem sources_decision {event : Event adapter} (isDecision : event.IsDecision) :
    sources [event] = [] := by
  cases event with
  | forwarded source raw => exact isDecision.elim
  | _ => rfl

/-- The backend sends a packet; its first OK accepts the client. -/
def send (w : AuthWorld) (packet : Packet) : AuthWorld :=
  { w with peer := { w.peer with
    accepted := w.peer.accepted.or
      (if packet.payload.head? = some 0x00 then some w.peer.read else none)
    sent := w.peer.sent ++ packet.raw } }

/-- The backend reads a packet that was written to it. -/
def readNext (w : AuthWorld) : AuthWorld :=
  { w with peer := { w.peer with read := w.peer.read + 1 } }

/-- The backend reads what was written in order, and it does not accept a client unheard. -/
inductive Speaks (w : AuthWorld) : AuthWorld → Prop where
  | reads : w.peer.read < (sources w.trace).length → Speaks w (readNext w)
  | sends {sequenceId : UInt8} {payload : Bytes} : payload.length < maxPacketPayload →
      (payload.head? = some 0x00 → 0 < w.peer.read) →
      Speaks w (send w (packetOf sequenceId payload))

/-! ## Connections -/

/-- How much is read from a socket at once. -/
def readChunkBytes : Nat := 64 * 1024

/-- What may be read at once. -/
def IsChunk (chunk : Bytes) : Prop := chunk ≠ [] ∧ chunk.length ≤ readChunkBytes

instance (chunk : Bytes) : Decidable (IsChunk chunk) := inferInstanceAs (Decidable (_ ∧ _))

/-- One turn of the client loop. -/
def pumpClient (tools : Tools) (opts : ProxyOptions) (chunk : Bytes) :
    Handler adapter Authenticator Unit := do
  let _ ← processClientChunk tools opts chunk
  return ()

/-- One turn of the backend loop. -/
def pumpBackend (chunk : Bytes) : Handler adapter Authenticator Unit := do
  let _ ← processBackendChunk chunk
  return ()

/-- A chunk is read from what the backend has sent. -/
def readSent (w : AuthWorld) (rest : Bytes) : AuthWorld :=
  { w with peer := { w.peer with sent := rest } }

/-- The tasks of a connection, which end once the session is closing, and the backend. -/
def connection (tools : Tools) (opts : ProxyOptions) : System awaits AuthWorld Exn Side where
  start
    | .client, w, task, w' => ∃ chunk, IsChunk chunk ∧ w.session.session.closing = false ∧
        task = pumpClient tools opts chunk ∧ w' = w
    | .backend, w, task, w' => ∃ chunk rest, IsChunk chunk ∧ w.peer.sent = chunk ++ rest ∧
        task = pumpBackend chunk ∧ w' = readSent w rest
  answers q w answer := answers q w answer
  environment := Speaks

/-- `MySqlRelayState(...)`. -/
def newRelay (database : String) (maxPacketBytes maxSessionItems maxSessionStateBytes : Nat)
    (enough : 4 ≤ maxPacketBytes) : RelayState where
  auth := { database }
  session := { database, maxPreparedStatements := maxSessionItems,
               maxStateBytes := maxSessionStateBytes }
  clientFramer := { maxPacketBytes, header_le_max := enough }
  backendFramer := { maxPacketBytes, header_le_max := enough }
  commandAssembler := { maxMessageBytes := maxPacketBytes, positive := by omega }

/-- A connection on which nothing has been read yet. -/
def unopened (relay : RelayState) : AuthWorld where
  session := relay
  trace := []
  clientOut := []
  peer := {}

/-! ## What is promised -/

/-- What the backend read after it had accepted the client was written by the dispatcher. -/
def CommandsMediated (w : AuthWorld) : Prop :=
  ∀ accepted place source, w.peer.accepted = some accepted → accepted ≤ place →
    place < w.peer.read → (sources w.trace)[place]? = some source → source.isCommand = true

/-- The client has been accepted, and the proxy does not know it yet. -/
def Unnoticed (w : AuthWorld) : Prop :=
  w.peer.accepted.isSome ∧ w.session.phase = .authentication

/--
The backend accepts the client once it has read everything, and until the proxy
has noticed it the client task writes nothing.
-/
def InTime : Option Side → AuthWorld → AuthWorld → Prop
  | none, w, w' => w.peer.accepted = none → w'.peer.accepted.isSome →
      w.peer.read = (sources w.trace).length
  | some .client, w, w' => Unnoticed w → sources w'.trace = sources w.trace
  | some .backend, _, _ => True

/-! ## Segments of the client task -/

/-- The client has responded to the backend's greeting. -/
def Responded (w : AuthWorld) : Prop := w.session.auth.phase ≠ .waitingForClientResponse

/-- Packets of the client are read as commands. -/
structure Commanding (w : AuthWorld) : Prop where
  responded : Responded w
  entered : w.session.phase ≠ .authentication

/-- What a segment of the client task has come to. -/
structure Advances (start w : AuthWorld) : Prop where
  peer : w.peer = start.peer
  begun : sources w.trace ≠ [] → Responded w
  responded : Responded start → Responded w
  entered : start.session.phase ≠ .authentication → w.session.phase ≠ .authentication
  writes : ∃ added, sources w.trace = sources start.trace ++ added ∧
    (Commanding start → ∀ source ∈ added, source.isCommand = true)

section Advances

variable {start w w' : AuthWorld}

theorem advances_refl (begun : sources w.trace ≠ [] → Responded w) : Advances w w :=
  ⟨rfl, begun, id, id, [], (List.append_nil _).symm, fun _ _ inside => absurd inside List.not_mem_nil⟩

/-- A change that writes nothing and leaves the exchange where it is. -/
theorem Advances.stays (advances : Advances start w) (peer : w'.peer = w.peer)
    (trace : sources w'.trace = sources w.trace) (auth : w'.session.auth = w.session.auth)
    (phase : w.session.phase ≠ .authentication → w'.session.phase ≠ .authentication) :
    Advances start w' := by
  have same : Responded w' ↔ Responded w := by rw [Responded, Responded, auth]
  refine ⟨peer.trans advances.peer, ?_, ?_, fun entered => phase (advances.entered entered), ?_⟩
  · rw [trace, same]
    exact advances.begun
  · rw [same]
    exact advances.responded
  · rw [trace]
    exact advances.writes

theorem Advances.withState (advances : Advances start w) (state : SessionState) :
    Advances start (withState w state) := advances.stays rfl rfl rfl id

theorem Advances.logs (advances : Advances start w) {event : Event adapter}
    (unwritten : sources [event] = []) : Advances start (w.log event) := by
  refine advances.stays rfl ?_ rfl id
  rw [World.log_trace, sources_append, unwritten, List.append_nil]

/-- A packet is written once the client has responded. -/
theorem Advances.forwards (advances : Advances start w) (responded : Responded w)
    {source : Source} (raw : Bytes) (mediated : Commanding start → source.isCommand = true) :
    Advances start (w.log (.forwarded source raw)) := by
  obtain ⟨added, writes, commands⟩ := advances.writes
  refine ⟨advances.peer, fun _ => responded, advances.responded, advances.entered,
    added ++ List.replicate source.packetCount source, ?_, ?_⟩
  · rw [World.log_trace, sources_append, writes, List.append_assoc]
    simp [sources]
  · intro commanding other inside
    rcases List.mem_append.mp inside with early | late
    · exact commands commanding other early
    · rw [List.eq_of_mem_replicate late]
      exact mediated commanding

end Advances

section Client

open Proc

variable {tools : Tools} {opts : ProxyOptions} {message : LogicalMessage}
  {C : Proc.Contract awaits AuthWorld}

/-- What the client task counts on between its segments. -/
structure Heeds (C : Proc.Contract awaits AuthWorld) : Prop where
  renews : Renews C Advances
  responds : ∀ q w answer w', Responded w → C.rely q w answer w' → Responded w'
  prepared : ∀ w answer w', C.rely .prepareEvent w answer w' →
    w'.session.session.pendingPrepareEvent = some true

/-- A dispatch writes nothing but its command. -/
theorem course_advances (heeds : Heeds C) :
    Course tools opts message C (fun _ _ start w => Advances start w ∧ Responded w) where
  records _ _ _ _ _ _ isDecision held := ⟨held.1.logs (sources_decision isDecision), held.2⟩
  pauses _ q _ start w _ held := heeds.renews.pauses q start w held.1
  resumes _ q _ start w answer w' _ held relied :=
    ⟨heeds.renews.resumes q start w answer w' held.1 relied,
      heeds.responds q w answer w' held.2 relied⟩
  prepared := heeds.prepared
  loses _ _ start w w' _ held relied _ :=
    ⟨(heeds.renews.resumes _ start w _ w' held.1 relied).withState _,
      heeds.responds _ w _ w' held.2 relied⟩
  breaks _ _ _ _ _ _ held _ := ⟨held.1.withState _, held.2⟩
  opens _ _ after held _ := ⟨(held.1.withState after).forwards held.2 _ fun _ => rfl, held.2⟩
  resolves _ _ _ _ _ held _ := ⟨held.1.logs rfl, held.2⟩
  abandons _ _ _ held := held
  queries _ _ _ held _ := ⟨held.1.withState _, held.2⟩
  executes _ _ _ held _ := ⟨held.1.withState _, held.2⟩
  forgets _ _ held := ⟨held.1.withState _, held.2⟩
  approves _ _ _ held _ := ⟨held.1.forwards held.2 _ fun _ => rfl, held.2⟩
  registers _ _ _ _ _ _ held _ _ := ⟨held.1.withState _, held.2⟩
  misses _ _ _ _ _ _ held _ _ := held
  refuses _ _ _ _ _ _ held _ := by
    refine ⟨Advances.stays (held.1.logs ?_) rfl rfl rfl id, held.2⟩
    rfl
  settles _ _ _ held := ⟨held.1.withState _, held.2⟩
  passes _ _ _ _ _ _ held := ⟨held.1.forwards held.2 _ fun _ => rfl, held.2⟩
  remembers _ _ _ _ _ held _ _ := ⟨held.1.withState _, held.2⟩
  overlooks _ _ _ _ _ held _ _ := held

theorem acceptClientResponse_responded {auth accepted : AuthState} {response : HandshakeResponse}
    (done : auth.acceptClientResponse response = .ok accepted) :
    accepted.phase ≠ .waitingForClientResponse := by
  unfold AuthState.acceptClientResponse at done
  split at done
  · cases done
  · split at done
    · cases done
      rintro ⟨⟩
    · cases done
      rintro ⟨⟩

theorem maintains_refuseTls (heeds : Heeds C) (packet : Packet) :
    Maintains C Advances (refuseTls packet : Handler adapter Authenticator Unit) := by
  refine maintains_bind maintains_session fun state => maintains_bind (maintains_ofExcept _) ?_
  intro answer
  refine maintains_bind (maintains_update ?_) fun _ =>
    maintains_bind (maintains_drain heeds.renews) fun _ => maintains_update ?_
  · exact fun _ _ advances => advances.stays rfl rfl rfl id
  · exact fun _ _ advances => advances.stays rfl rfl rfl fun _ => by rintro ⟨⟩

/-- The response is written as soon as it has been accepted. -/
theorem maintains_processHandshakeResponse (heeds : Heeds C) (packet : Packet) {start w : AuthWorld}
    (advances : Advances start w) (waiting : w.session.auth.phase = .waitingForClientResponse) :
    Proc.wp C (processHandshakeResponse packet) (fun _ start w => Advances start w)
      (fun _ start w => Advances start w) start w := by
  have uncommanding : ¬ Commanding start :=
    fun commanding => advances.responded commanding.responded waiting
  have unwritten : sources w.trace = [] := by
    by_contra written
    exact advances.begun written waiting
  unfold processHandshakeResponse
  rw [Proc.wp_bind]
  refine Proc.wp_ofExcept ?_ fun _ _ => advances
  intro response _
  rw [Proc.wp_bind]
  change Proc.wp C (Proc.ofExcept (w.session.auth.acceptClientResponse response) >>= _) _ _ start w
  rw [Proc.wp_bind]
  refine Proc.wp_ofExcept ?_ fun _ _ => advances
  intro accepted done
  have responded := acceptClientResponse_responded done
  have accepts : Advances start (w.withSession { w.session with auth := accepted }) := by
    refine ⟨advances.peer, fun _ => responded, fun _ => responded, advances.entered, ?_⟩
    obtain ⟨added, writes, -⟩ := advances.writes
    exact ⟨added, writes, fun commanding => absurd commanding uncommanding⟩
  change Proc.wp C (answerHandshake response packet) _ _ start
    (w.withSession { w.session with auth := accepted })
  unfold answerHandshake
  split
  · exact maintains_refuseTls heeds packet _ _ accepts
  · have updated := accepts.withState { w.session.session with database := accepted.database }
    refine maintains_drain heeds.renews _ _ (updated.forwards responded packet.raw ?_)
    exact fun commanding => absurd commanding uncommanding

theorem maintains_processClientPacket (heeds : Heeds C) (packet : Packet) :
    Maintains C Advances (processClientPacket tools opts packet) := by
  intro start w advances
  unfold processClientPacket
  rw [Proc.wp_bind]
  change Proc.wp C (if w.session.initialBackendHandshakeSeen = false then _ else
    (if w.session.auth.phase = .waitingForClientResponse then _ else _)) _ _ start w
  split
  · exact advances
  · split
    · next waiting => exact maintains_processHandshakeResponse heeds packet advances waiting
    · next responded =>
      cases phase : w.session.phase with
      | authentication =>
          -- A segment that was commanding when it began has not come here.
          refine maintains_drain heeds.renews _ _ (advances.forwards responded _ ?_)
          exact fun commanding => absurd phase (advances.entered commanding.entered)
      | closed => exact advances
      | commandResponse =>
          have pushed : Advances start (w.withSession
              { w.session with commandAssembler := (w.session.commandAssembler.push packet).2 }) :=
            advances.stays rfl rfl rfl id
          change Proc.wp C (Proc.ofExcept (w.session.commandAssembler.push packet).1 >>= _) _ _
            start (w.withSession _)
          rw [Proc.wp_bind]
          refine Proc.wp_ofExcept ?_ fun _ _ => pushed
          intro message _
          cases message with
          | none => exact pushed
          | some message =>
              have course := @course_advances tools opts message C heeds
              rw [Proc.wp_bind]
              refine Proc.wp_mono (course.dispatches ⟨pushed, responded⟩) ?_ ?_
              · rintro _ start w ⟨_, held, -⟩
                exact held
              · rintro _ start w ⟨_, held, -⟩
                exact held

theorem maintains_pumpClient (heeds : Heeds C) (chunk : Bytes) :
    Maintains C Advances (pumpClient tools opts chunk) := by
  refine maintains_bind (maintains_bind maintains_session fun state =>
    maintains_bind (maintains_ofExcept _) fun pushed => maintains_bind (maintains_update ?_) fun _ =>
      maintains_bind (maintains_forEach (maintains_processClientPacket heeds) _) fun _ =>
        maintains_pure _) fun _ => maintains_pure ()
  exact fun _ _ advances => advances.stays rfl rfl rfl id

end Client

/-! ## Segments of the backend task -/

/-- What a segment of the backend task leaves alone. -/
structure Shadows (start w : AuthWorld) : Prop where
  trace : w.trace = start.trace
  read : w.peer.read = start.peer.read
  accepted : w.peer.accepted = start.peer.accepted
  responded : Responded start → Responded w

section Backend

open Proc

variable {start w w' : AuthWorld} {C : Proc.Contract awaits AuthWorld}

theorem shadows_refl (w : AuthWorld) : Shadows w w := ⟨rfl, rfl, rfl, id⟩

theorem Shadows.stays (shadows : Shadows start w) (trace : w'.trace = w.trace)
    (peer : w'.peer = w.peer) (auth : Responded w → Responded w') : Shadows start w' :=
  ⟨trace.trans shadows.trace, (congrArg _ peer).trans shadows.read,
    (congrArg _ peer).trans shadows.accepted, fun responded => auth (shadows.responded responded)⟩

theorem session_shadows : IgnoresSession Shadows := fun _ _ _ shadows => shadows.stays rfl rfl id

theorem shadows_answer {write : ClientWrite} (start w : AuthWorld) (shadows : Shadows start w) :
    Shadows start (w.answer write) := shadows.stays rfl rfl id

theorem maintains_markAuthenticated (payload : Bytes) :
    Maintains C Shadows (markAuthenticated payload : Handler adapter Authenticator Unit) := by
  refine maintains_bind maintains_session fun _ =>
    maintains_bind (session_shadows.changeSession _) fun _ => maintains_bind maintains_session ?_
  intro state
  split
  · exact maintains_raised _
  · exact maintains_update fun _ _ shadows => shadows.stays rfl rfl id

theorem acceptBackendPacket_responded {auth : AuthState} {packet : Packet}
    {accepted : BackendAuthPacket × AuthState}
    (done : auth.acceptBackendPacket packet = .ok accepted) :
    accepted.2.phase ≠ .waitingForClientResponse := by
  unfold AuthState.acceptBackendPacket at done
  split at done
  · cases done
  · next authenticating =>
    obtain ⟨kind, -, done⟩ := bind_ok done
    have phase : auth.phase = .authenticating := not_not.mp authenticating
    cases kind with
    | ok =>
        cases done
        rintro ⟨⟩
    | error =>
        cases done
        rintro ⟨⟩
    | _ =>
        cases done
        rw [phase]
        rintro ⟨⟩

theorem maintains_routeAuthentication (renews : Renews C Shadows) (packet : Packet) :
    Maintains C Shadows (routeAuthentication packet : Handler adapter Authenticator Unit) := by
  refine maintains_bind maintains_session ?_
  intro state start w shadows
  rw [Proc.wp_bind]
  refine Proc.wp_ofExcept ?_ fun _ _ => shadows
  intro accepted done
  have accepts : Shadows start (w.withSession { w.session with auth := accepted.2 }) :=
    shadows.stays rfl rfl fun _ => acceptBackendPacket_responded done
  refine maintains_bind (maintains_update shadows_answer) (fun _ =>
    maintains_bind (maintains_drain renews) ?_) start _ accepts
  intro _
  split
  · exact maintains_markAuthenticated _
  · exact maintains_update fun _ _ shadows => shadows.stays rfl rfl id
  · exact maintains_pure ()

theorem maintains_processBackendPacket (renews : Renews C Shadows) (packet : Packet) :
    Maintains C Shadows (processBackendPacket packet : Handler adapter Authenticator Unit) := by
  refine maintains_bind maintains_session ?_
  intro state
  split
  · refine maintains_bind maintains_session ?_
    intro state
    split
    · exact maintains_raised _
    · exact maintains_routeAuthentication renews packet
    · exact session_shadows.routeResponse renews packet shadows_answer
  · exact maintains_bind (maintains_update shadows_answer) fun _ =>
      maintains_bind (maintains_drain renews) fun _ =>
        maintains_update fun _ _ shadows => shadows.stays rfl rfl id

theorem maintains_pumpBackend (renews : Renews C Shadows) (chunk : Bytes) :
    Maintains C Shadows (pumpBackend chunk) := by
  refine maintains_bind (maintains_bind maintains_session fun state =>
    maintains_bind (maintains_ofExcept _) fun pushed => maintains_bind (maintains_update ?_) fun _ =>
      maintains_bind (maintains_forEach (maintains_processBackendPacket renews) _) fun _ =>
        maintains_pure _) fun _ => maintains_pure ()
  exact fun _ _ shadows => shadows.stays rfl rfl id

end Backend

/-! ## Every run -/

/-- How far the backend has come, and what was written after it had accepted the client. -/
structure Bounded (w : AuthWorld) : Prop where
  begun : sources w.trace ≠ [] → Responded w
  within : w.peer.read ≤ (sources w.trace).length
  mediated : ∀ accepted, w.peer.accepted = some accepted →
    0 < accepted ∧ accepted ≤ (sources w.trace).length ∧
      ∀ source ∈ (sources w.trace).drop accepted, source.isCommand = true

section Runs

variable {w w' : AuthWorld}

theorem Bounded.commandsMediated (bounded : Bounded w) : CommandsMediated w := by
  intro accepted place source isAccepted after _ found
  obtain ⟨-, -, mediated⟩ := bounded.mediated accepted isAccepted
  refine mediated source (List.mem_of_getElem? (i := place - accepted) ?_)
  rw [List.getElem?_drop, Nat.add_sub_cancel' after]
  exact found

/-- The backend keeps within what was written, and accepts a client in time. -/
theorem Bounded.speaks (bounded : Bounded w) (speaks : Speaks w w') (inTime : InTime none w w') :
    Bounded w' := by
  cases speaks with
  | reads unread => exact ⟨bounded.begun, unread, bounded.mediated⟩
  | @sends sequenceId payload _ heard =>
      refine ⟨bounded.begun, bounded.within, ?_⟩
      intro accepted isAccepted
      cases before : w.peer.accepted with
      | some earlier =>
          simp only [send, before, Option.some_or] at isAccepted
          exact bounded.mediated accepted (before.trans isAccepted)
      | none =>
          simp only [send, before, Option.none_or] at isAccepted
          split at isAccepted
          · next isOk =>
            cases isAccepted
            have all : w.peer.read = (sources w.trace).length :=
              inTime before (by simp [send, before, isOk])
            refine ⟨heard isOk, bounded.within, ?_⟩
            intro source inside
            change source ∈ (sources w.trace).drop w.peer.read at inside
            rw [all, List.drop_length] at inside
            cases inside
          · cases isAccepted

/-- After the acceptance the client task writes commands only. -/
theorem Bounded.advances (bounded : Bounded w) (advances : Advances w w')
    (inTime : InTime (some .client) w w') : Bounded w' := by
  obtain ⟨added, writes, commands⟩ := advances.writes
  refine ⟨advances.begun, ?_, ?_⟩
  · rw [advances.peer, writes, List.length_append]
    exact Nat.le_add_right_of_le bounded.within
  · intro accepted isAccepted
    rw [advances.peer] at isAccepted
    obtain ⟨positive, within, mediated⟩ := bounded.mediated accepted isAccepted
    refine ⟨positive, ?_, ?_⟩
    · rw [writes, List.length_append]
      exact Nat.le_add_right_of_le within
    · by_cases unnoticed : Unnoticed w
      · rw [inTime unnoticed]
        exact mediated
      · have nonempty : sources w.trace ≠ [] := by
          rintro empty
          rw [empty] at within
          exact absurd positive (Nat.not_lt.mpr within)
        have entered : w.session.phase ≠ .authentication := fun phase =>
          unnoticed ⟨by rw [isAccepted]; rfl, phase⟩
        rw [writes, List.drop_append_of_le_length within]
        intro source inside
        rcases List.mem_append.mp inside with early | late
        · exact mediated source early
        · exact commands ⟨bounded.begun nonempty, entered⟩ source late

theorem Bounded.shadows (bounded : Bounded w) (shadows : Shadows w w') : Bounded w' := by
  refine ⟨?_, ?_, ?_⟩
  · rw [shadows.trace]
    exact fun written => shadows.responded (bounded.begun written)
  · rw [shadows.trace, shadows.read]
    exact bounded.within
  · rw [shadows.trace, shadows.accepted]
    exact bounded.mediated

/-- The promises of the two tasks. -/
def boundary (tools : Tools) (opts : ProxyOptions) : Promises (connection tools opts) InTime where
  invariant := Bounded
  guarantee
    | .client => Advances
    | .backend => Shadows
  rely
    | .client, w, w' => Responded w → Responded w'
    | .backend, _, _ => True
  rely_refl side _ := by
    cases side with
    | client => exact id
    | backend => trivial
  rely_trans side _ _ _ first second := by
    cases side with
    | client => exact fun responded => second (first responded)
    | backend => trivial
  environment_invariant _ _ bounded moved inTime := bounded.speaks moved inTime
  environment_relied side _ _ _ _ moved := by
    cases side with
    | client => cases moved with
      | reads _ => exact id
      | sends _ _ => exact id
    | backend => trivial
  guarantee_invariant side _ _ bounded guaranteed inTime := by
    cases side with
    | client => exact bounded.advances guaranteed inTime
    | backend => exact bounded.shadows guaranteed
  guarantee_relied side other _ _ different _ _ guaranteed := by
    cases side with
    | client =>
        cases other with
        | client => exact absurd rfl different
        | backend => exact Shadows.responded guaranteed
    | backend => trivial

theorem heeds_boundary (tools : Tools) (opts : ProxyOptions) :
    Heeds ((boundary tools opts).contract .client) where
  renews :=
    { pauses := fun _ _ _ advances => advances
      resumes := fun _ _ _ _ _ _ relied => advances_refl relied.1.begun }
  responds _ _ _ _ responded relied := relied.2.1 responded
  prepared _ _ _ relied := relied.2.2 rfl

/--
In every run in which the backend accepts the client once it has read everything,
and no packet is passed through from then on until the proxy has noticed it,
whatever the backend reads as a command was written by the dispatcher.
-/
theorem commands_mediated {tools : Tools} {opts : ProxyOptions} {database : String}
    {maxPacketBytes maxSessionItems maxSessionStateBytes : Nat} {enough : 4 ≤ maxPacketBytes}
    {c : Config awaits AuthWorld Exn Side}
    (run : (connection tools opts).Run InTime (Config.idle
      (unopened (newRelay database maxPacketBytes maxSessionItems maxSessionStateBytes enough))) c) :
    CommandsMediated c.shared := by
  have initial : Bounded (unopened
      (newRelay database maxPacketBytes maxSessionItems maxSessionStateBytes enough)) :=
    ⟨fun written => absurd rfl written, Nat.le_refl _, by rintro accepted ⟨⟩⟩
  refine Bounded.commandsMediated
    ((boundary tools opts).holds_of_run ?_ (Promises.holds_idle _ initial) run).1
  intro side w task w' bounded started
  cases side with
  | client =>
      obtain ⟨chunk, -, -, rfl, rfl⟩ := started
      exact maintains_pumpClient (heeds_boundary tools opts) chunk _ _ (advances_refl bounded.begun)
  | backend =>
      obtain ⟨chunk, rest, -, sent, rfl, rfl⟩ := started
      have renews : Proc.Renews ((boundary tools opts).contract .backend) Shadows :=
        { pauses := fun _ _ _ shadows => shadows
          resumes := fun _ _ _ _ w' _ _ => shadows_refl w' }
      exact maintains_pumpBackend renews chunk w _ ⟨rfl, rfl, rfl, id⟩

end Runs

/-! ## A client that is accepted -/

def greeting : Packet := packetOf 0 [0x0A]

/-- A user without a password. -/
def response : Packet := packetOf 1 (lePack 4 0x8201 ++ List.replicate 28 0 ++ [0x61, 0, 0])

def acceptance : Packet := packetOf 2 [0, 0, 0, 2, 0, 0, 0]

def ping : Packet := packetOf 0 [0x0E]

def deletion : Packet := packetOf 0 (0x03 :: encodeUtf8 "DELETE FROM users")

def shop : AuthWorld := unopened (newRelay "shop" 65536 256 4096 (by decide))

abbrev promptly (q : Request) (w : AuthWorld) : Request.Answer q × AuthWorld := (userAnswers true q, w)

/-- The proxy relays a packet that the backend has sent. -/
def relaysSent (w : AuthWorld) (packet : Packet) : AuthWorld :=
  ((pumpBackend packet.raw).run promptly (readSent (send w packet) [])).2

/-- The proxy handles a packet of the client. -/
def handles (w : AuthWorld) (packet : Packet) : AuthWorld :=
  ((pumpClient plainTools strictOptions packet.raw).run promptly w).2

/-- The backend has read the client's response, and the proxy has relayed its greeting. -/
def responded : AuthWorld := readNext (handles (relaysSent shop greeting) response)

theorem promptly_answers (q : Request) (w : AuthWorld) (other : decide (q ≠ .prepareEvent) = true) :
    answers q w (userAnswers true q) := fun isPrepare => absurd isPrepare (of_decide_eq_true other)

instance (side : Option Side) (w w' : AuthWorld) : Decidable (InTime side w w') :=
  match side with
  | none => inferInstanceAs (Decidable (_ → _ → _))
  | some .client => inferInstanceAs (Decidable (_ ∧ _ → _))
  | some .backend => isTrue trivial

/-- A task that returns without a wait for a prepare, each of its segments being in time. -/
def Prompt (side : Side) (w w' : AuthWorld) (task : Handler adapter Authenticator Unit) : Prop :=
  task.asksOnly (fun q : Request => decide (q ≠ .prepareEvent)) promptly w' = true ∧
    List.IsChain (InTime (some side)) (w :: stops (userAnswers true) task w') ∧
    (task.run promptly w').1 = .ok ()

instance (side : Side) (w w' : AuthWorld) (task : Handler adapter Authenticator Unit) :
    Decidable (Prompt side w w' task) := inferInstanceAs (Decidable (_ ∧ _ ∧ _))

abbrev shopRelay : System awaits AuthWorld Exn Side := connection plainTools strictOptions

theorem rests_relaysSent {w : AuthWorld} (sequenceId : UInt8) (payload : Bytes)
    (rests : shopRelay.RestsWithin InTime shop w)
    (sends : payload.length < maxPacketPayload ∧ (payload.head? = some 0x00 → 0 < w.peer.read) ∧
      InTime none w (send w (packetOf sequenceId payload)))
    (chunk : IsChunk (packetOf sequenceId payload).raw ∧ w.peer.sent = [])
    (prompt : Prompt .backend (send w (packetOf sequenceId payload))
      (readSent (send w (packetOf sequenceId payload)) [])
      (pumpBackend (packetOf sequenceId payload).raw)) :
    shopRelay.RestsWithin InTime shop (relaysSent w (packetOf sequenceId payload)) := by
  have sent := rests.environment (.sends sends.1 sends.2.1) sends.2.2
  refine sent.turn (userAnswers true) promptly_answers (i := .backend)
    ⟨_, [], chunk.1, ?_, rfl, rfl⟩ prompt.1 prompt.2.1 prompt.2.2
  simp [send, chunk.2]

theorem rests_handles {w : AuthWorld} (packet : Packet)
    (rests : shopRelay.RestsWithin InTime shop w)
    (chunk : IsChunk packet.raw ∧ w.session.session.closing = false)
    (prompt : Prompt .client w w (pumpClient plainTools strictOptions packet.raw)) :
    shopRelay.RestsWithin InTime shop (handles w packet) :=
  rests.turn (userAnswers true) promptly_answers (i := .client)
    ⟨packet.raw, chunk.1, chunk.2, rfl, rfl⟩ prompt.1 prompt.2.1 prompt.2.2

theorem rests_responded : shopRelay.RestsWithin InTime shop responded := by
  have greeted := rests_relaysSent 0 [0x0A] (.refl shop) (by decide +kernel) (by decide +kernel)
    (by decide +kernel)
  have answered := rests_handles response greeted (by decide +kernel) (by decide +kernel)
  exact answered.environment (.reads (by decide +kernel)) (by decide +kernel)

/-- The first command of a client that has been accepted is handed to the dispatcher. -/
theorem ping_mediated : ∃ c, shopRelay.Run InTime (Config.idle shop) c ∧
    c.shared.peer = { read := 2, accepted := some 1, sent := [] } ∧
    sources c.shared.trace = [.handshake, .command (messageOf [0x0E])] ∧
    CommandsMediated c.shared := by
  have accepted := rests_relaysSent 2 [0, 0, 0, 2, 0, 0, 0] rests_responded (by decide +kernel)
    (by decide +kernel) (by decide +kernel)
  have handled := rests_handles ping accepted (by decide +kernel) (by decide +kernel)
  obtain ⟨c, run, shared, -⟩ := handled.environment (.reads (by decide +kernel)) (by decide +kernel)
  refine ⟨c, run, ?_, ?_, commands_mediated run⟩
  · rw [shared]
    decide +kernel
  · rw [shared]
    decide +kernel

/-- The acceptance has been written to the client and has not drained. -/
def accepting : AuthWorld :=
  ((pumpBackend acceptance.raw).advance (readSent (send responded acceptance) [])).2

/-- Meanwhile the client sends its first command. -/
def passing : AuthWorld :=
  ((pumpClient plainTools strictOptions deletion.raw).advance accepting).2

/-- A deletion that follows the acceptance at once reaches the backend unread. -/
theorem deletion_unmediated :
    ¬ ∀ (tools : Tools) (opts : ProxyOptions) (database : String)
        (maxPacketBytes maxSessionItems maxSessionStateBytes : Nat) (enough : 4 ≤ maxPacketBytes)
        (c : Config awaits AuthWorld Exn Side),
      (connection tools opts).Run anyTurn (Config.idle (unopened
        (newRelay database maxPacketBytes maxSessionItems maxSessionStateBytes enough))) c →
      CommandsMediated c.shared := by
  intro always
  have speaks : Speaks responded (send responded acceptance) :=
    .sends (by decide +kernel) (by decide +kernel)
  obtain ⟨c, run, shared, idle⟩ := rests_responded.environment speaks (by decide +kernel)
  have any : shopRelay.Run anyTurn (Config.idle shop) c := run.mono fun _ _ _ _ => trivial
  obtain ⟨c₁, run₁, shared₁, idle₁⟩ : ∃ c₁, shopRelay.Run anyTurn (Config.idle shop) c₁ ∧
      c₁.shared = accepting ∧ c₁.task .client = .done () := by
    have relays : shopRelay.Step (some .backend) c
        (c.turn .backend (pumpBackend acceptance.raw) (readSent c.shared [])) := by
      refine .start (idle _) ⟨acceptance.raw, [], by decide +kernel, ?_, rfl, rfl⟩
      rw [shared]
      decide +kernel
    refine ⟨_, any.step relays trivial, ?_, ?_⟩
    · rw [shared]
      rfl
    · simp [Config.turn, idle]
  obtain ⟨c₂, run₂, shared₂⟩ : ∃ c₂, shopRelay.Run anyTurn (Config.idle shop) c₂ ∧
      c₂.shared = passing := by
    have passes : shopRelay.Step (some .client) c₁
        (c₁.turn .client (pumpClient plainTools strictOptions deletion.raw) c₁.shared) := by
      refine .start idle₁ ⟨deletion.raw, by decide +kernel, ?_, rfl, rfl⟩
      rw [shared₁]
      decide +kernel
    refine ⟨_, run₁.step passes trivial, ?_⟩
    rw [shared₁]
    rfl
  have reads : Speaks c₂.shared (readNext c₂.shared) := by
    rw [shared₂]
    exact .reads (by decide +kernel)
  have mediated : CommandsMediated (readNext c₂.shared) :=
    always _ _ _ _ _ _ _ _ (run₂.step (.environment reads) trivial)
  rw [shared₂] at mediated
  have unread := mediated 1 1 .passThrough (by decide +kernel) (by decide) (by decide +kernel)
    (by decide +kernel)
  cases unread

end SqlSafetyProxy.MySql
