import SqlSafetyProxy.MySql.Authentication
import SqlSafetyProxy.MySql.Framing
import SqlSafetyProxy.MySql.Moves
import SqlSafetyProxy.MySql.Serving

/-!
# The opening of a session

Until the client is authenticated the two tasks handle the greeting, the
client's response to it and whatever follows that.  When commands begin, the
session has the capabilities and the database of the response that the backend
has opened it with, and no statement has been prepared in it.
-/

namespace SqlSafetyProxy.MySql

open SqlSafetyProxy.Wire SqlSafetyProxy.Runtime SqlSafetyProxy.Coroutine
open SqlSafetyProxy.Collections

variable {σ : Type}

/-! ## The two tasks and the backend -/

/-- The response with which the backend has opened the session, and its state then. -/
abbrev OpeningWorld (σ : Type) := World adapter (Option (HandshakeResponse × σ))

/-- A response has been written to the backend. -/
def Presents (w : OpeningWorld σ) (response : HandshakeResponse) : Prop :=
  ∃ packet, WellFramed packet ∧ parseHandshakeResponse packet.payload = .ok response ∧
    .forwarded .handshake packet.raw ∈ w.trace

/-- The backend opens the session that a response asks for. -/
inductive Grants (opens : HandshakeResponse → σ → Prop) (w : OpeningWorld σ) :
    OpeningWorld σ → Prop where
  | mk {response : HandshakeResponse} {state : σ} : Presents w response →
      opens response state → Grants opens w { w with peer := some (response, state) }

/-- Any packets may be read from either side until the client is authenticated. -/
def opening (tools : Tools) (opts : ProxyOptions) (opens : HandshakeResponse → σ → Prop) :
    System awaits (OpeningWorld σ) Exn Side where
  start
    | .client, w, task, w' => ∃ packet, WellFramed packet ∧ w.session.phase = .authentication ∧
        task = processClientPacket tools opts packet ∧ w' = w
    | .backend, w, task, w' => ∃ packet, WellFramed packet ∧ w.session.phase = .authentication ∧
        task = processBackendPacket packet ∧ w' = w
  answers q w answer := answers q w answer
  environment := Grants opens

/-- A connection on which nothing has been read yet. -/
def unintroduced (relay : RelayState) : OpeningWorld σ where
  session := relay
  trace := []
  clientOut := []
  peer := none

/--
A session has been opened with the given response, and commands begin: the relay
and the backend are in these states.
-/
def Begun (tools : Tools) (opts : ProxyOptions) (opens : HandshakeResponse → σ → Prop)
    (response : HandshakeResponse) (relay : RelayState) (state : σ) : Prop :=
  ∃ (database : String) (maxPacketBytes maxSessionItems maxSessionStateBytes : Nat)
      (enough : 4 ≤ maxPacketBytes) (c : Config awaits (OpeningWorld σ) Exn Side),
    (opening tools opts opens).Run anyTurn (Config.idle (unintroduced
      (newRelay database maxPacketBytes maxSessionItems maxSessionStateBytes enough))) c ∧
    c.shared.session = relay ∧ relay.phase = .commandResponse ∧
    c.shared.peer = some (response, state)

/-- The response names the database. -/
def Opened (tools : Tools) (opts : ProxyOptions) (opens : HandshakeResponse → σ → Prop)
    (name : String) (relay : RelayState) (state : σ) : Prop :=
  ∃ response, Begun tools opts opens response relay state ∧ response.database = some name

/-! ## What holds until commands begin -/

/-- Whether something is pending, and the statements of a session. -/
def SessionState.usage (state : SessionState) : Bool × Dict Nat PreparedStatement × Option Nat :=
  (state.hasPendingLifecycleOperation, state.preparedStatements, state.lastPreparedStatementId)

/-- What the session knows of the response that was written. -/
structure Introduced (opens : HandshakeResponse → σ → Prop) (w : OpeningWorld σ) : Prop where
  unused : w.session.session.usage = (false, ∅, none)
  waiting : w.session.auth.phase = .waitingForClientResponse →
    ∀ raw, .forwarded .handshake raw ∉ w.trace
  capabilities : ∀ response, Presents w response →
    w.session.auth.capabilityFlags = response.capabilityFlags
  database : ∀ response name, Presents w response → response.database = some name → name ≠ "" →
    w.session.session.database = name
  granted : ∀ response state, w.peer = some (response, state) →
    Presents w response ∧ opens response state

section Introduced

variable {opens : HandshakeResponse → σ → Prop} {w w' : OpeningWorld σ}

theorem presents_congr (same : ∀ raw, .forwarded .handshake raw ∈ w'.trace ↔
    .forwarded .handshake raw ∈ w.trace) (response : HandshakeResponse) :
    Presents w' response ↔ Presents w response := by
  unfold Presents
  simp only [same]

/-- A change that leaves the names and what was written of the response alone. -/
theorem Introduced.stays (introduced : Introduced opens w)
    (same : ∀ raw, .forwarded .handshake raw ∈ w'.trace ↔ .forwarded .handshake raw ∈ w.trace)
    (usage : w'.session.session.usage = w.session.session.usage)
    (database : w'.session.session.database = w.session.session.database)
    (capabilities : w'.session.auth.capabilityFlags = w.session.auth.capabilityFlags)
    (waiting : w'.session.auth.phase = .waitingForClientResponse →
      w.session.auth.phase = .waitingForClientResponse)
    (peer : w'.peer = w.peer) : Introduced opens w' := by
  constructor
  · exact usage.trans introduced.unused
  · intro waits raw
    rw [same]
    exact introduced.waiting (waiting waits) raw
  · intro response presents
    rw [capabilities]
    exact introduced.capabilities response ((presents_congr same response).mp presents)
  · intro response name presents
    rw [database]
    exact introduced.database response name ((presents_congr same response).mp presents)
  · intro response state isPeer
    rw [peer] at isPeer
    obtain ⟨presents, isOpened⟩ := introduced.granted response state isPeer
    exact ⟨(presents_congr same response).mpr presents, isOpened⟩

theorem Introduced.grants (introduced : Introduced opens w) (grants : Grants opens w w') :
    Introduced opens w' := by
  obtain ⟨presents, isOpened⟩ := grants
  refine ⟨introduced.unused, introduced.waiting, introduced.capabilities, introduced.database, ?_⟩
  rintro response state ⟨⟩
  exact ⟨presents, isOpened⟩

/-- What stands on the wire says what it carries. -/
theorem payload_of_raw {packet other : Packet} (framed : WellFramed packet)
    (framed' : WellFramed other) (same : packet.raw = other.raw) :
    packet.payload = other.payload := by
  have raw : packet.raw = _ := congrArg Packet.raw framed.1
  have raw' : other.raw = _ := congrArg Packet.raw framed'.1
  rw [raw, raw'] at same
  exact List.append_inj_right same (by simp)

/-- The first response that is written is the one the session knows of. -/
theorem Introduced.presents {packet : Packet} {response : HandshakeResponse} {accepted : AuthState}
    (introduced : Introduced opens w) (framed : WellFramed packet)
    (parsed : parseHandshakeResponse packet.payload = .ok response)
    (waiting : w.session.auth.phase = .waitingForClientResponse)
    (responded : accepted.phase ≠ .waitingForClientResponse)
    (capabilities : accepted.capabilityFlags = response.capabilityFlags)
    (named : ∀ name, response.database = some name → name ≠ "" → accepted.database = name) :
    Introduced opens ((w.withSession { w.session with
      auth := accepted
      session := { w.session.session with database := accepted.database } }).log
        (.forwarded .handshake packet.raw)) := by
  have unwritten := introduced.waiting waiting
  have only : ∀ other, Presents ((w.withSession { w.session with
      auth := accepted
      session := { w.session.session with database := accepted.database } }).log
        (.forwarded .handshake packet.raw)) other → other = response := by
    rintro other ⟨packet', framed', parsed', inside⟩
    rw [World.log_trace, List.mem_append, List.mem_singleton] at inside
    rcases inside with early | last
    · exact absurd early (unwritten _)
    · rw [payload_of_raw framed' framed (Event.forwarded.inj last).2, parsed] at parsed'
      exact (Except.ok.inj parsed').symm
  constructor
  · exact introduced.unused
  · exact fun waits => absurd waits responded
  · intro other presents
    rw [only other presents]
    exact capabilities
  · intro other name presents
    rw [only other presents]
    exact named name
  · intro other state isPeer
    obtain ⟨⟨packet', -, -, inside⟩, -⟩ := introduced.granted other state isPeer
    exact absurd inside (unwritten _)

end Introduced

/-! ## Segments of the two tasks -/

section Segments

open Proc

variable {opens : HandshakeResponse → σ → Prop} {w : OpeningWorld σ}
  {C : Proc.Contract awaits (OpeningWorld σ)}

/-- What the session knows is all that matters about a segment. -/
abbrev Introduces (opens : HandshakeResponse → σ → Prop) (_ w : OpeningWorld σ) : Prop :=
  Introduced opens w

theorem introduces_answer (write : ClientWrite) (start w : OpeningWorld σ)
    (introduced : Introduces opens start w) : Introduces opens start (w.answer write) :=
  introduced.stays (fun _ => Iff.rfl) rfl rfl rfl id rfl

theorem acceptClientResponse_knows {auth accepted : AuthState} {response : HandshakeResponse}
    (done : auth.acceptClientResponse response = .ok accepted) :
    accepted.capabilityFlags = response.capabilityFlags ∧
      (response.isSslRequest = false → ∀ name, response.database = some name → name ≠ "" →
        accepted.database = name) := by
  unfold AuthState.acceptClientResponse at done
  split at done
  · cases done
  · split at done
    · next asksTls =>
      cases done
      exact ⟨rfl, fun noTls => absurd asksTls (by simp [noTls])⟩
    · cases done
      refine ⟨rfl, fun _ name isNamed nonempty => ?_⟩
      simp only [isNamed, if_neg nonempty]

theorem acceptBackendPacket_knows {auth : AuthState} {packet : Packet}
    {accepted : BackendAuthPacket × AuthState}
    (done : auth.acceptBackendPacket packet = .ok accepted) :
    accepted.2.capabilityFlags = auth.capabilityFlags := by
  unfold AuthState.acceptBackendPacket at done
  split at done
  · cases done
  · obtain ⟨kind, -, done⟩ := bind_ok done
    cases kind <;> (cases done; rfl)

theorem updateTransactionStatusFromOk_knows {flags : Nat} {payload : Bytes}
    {state state' : SessionState}
    (updated : updateTransactionStatusFromOk flags payload state = .ok state') :
    state'.usage = state.usage ∧ state'.database = state.database := by
  unfold updateTransactionStatusFromOk at updated
  split at updated
  · cases updated
    exact ⟨rfl, rfl⟩
  · cases parsed : parseOkPacketStatus payload flags with
    | error error =>
        rw [parsed] at updated
        cases updated
    | ok status =>
        rw [parsed] at updated
        cases updated
        exact ⟨rfl, rfl⟩

theorem introduces_refuseTls (renews : Renews C (Introduces opens)) (packet : Packet) :
    Maintains C (Introduces opens) (refuseTls packet) := by
  refine maintains_bind maintains_session fun state => maintains_bind (maintains_ofExcept _) ?_
  intro answer
  refine maintains_bind (maintains_update (introduces_answer _)) fun _ =>
    maintains_bind (maintains_drain renews) fun _ => maintains_update ?_
  exact fun _ _ introduced => introduced.stays (fun _ => Iff.rfl) rfl rfl rfl id rfl

/-- The response is accepted and written in one segment. -/
theorem introduces_processHandshakeResponse (renews : Renews C (Introduces opens))
    {packet : Packet} (framed : WellFramed packet) {start : OpeningWorld σ}
    (introduced : Introduced opens w)
    (waiting : w.session.auth.phase = .waitingForClientResponse) :
    Proc.wp C (processHandshakeResponse packet) (fun _ start w => Introduces opens start w)
      (fun _ start w => Introduces opens start w) start w := by
  unfold processHandshakeResponse
  rw [Proc.wp_bind]
  refine Proc.wp_ofExcept ?_ fun _ _ => introduced
  intro response parsed
  rw [Proc.wp_bind]
  change Proc.wp C (Proc.ofExcept (w.session.auth.acceptClientResponse response) >>= _) _ _ start w
  rw [Proc.wp_bind]
  refine Proc.wp_ofExcept ?_ fun _ _ => introduced
  intro accepted done
  have responded := acceptClientResponse_responded done
  obtain ⟨capabilities, named⟩ := acceptClientResponse_knows done
  change Proc.wp C (answerHandshake response packet) _ _ start
    (w.withSession { w.session with auth := accepted })
  unfold answerHandshake
  split
  · refine introduces_refuseTls renews packet _ _
      ⟨introduced.unused, ?_, ?_, ?_, introduced.granted⟩
    · exact fun waits => absurd waits responded
    · rintro other ⟨packet', -, -, inside⟩
      exact absurd inside (introduced.waiting waiting _)
    · rintro other name ⟨packet', -, -, inside⟩
      exact absurd inside (introduced.waiting waiting _)
  · next noTls =>
    exact maintains_drain renews _ _ (introduced.presents framed parsed waiting responded
      capabilities (named (by simpa using noTls)))

theorem introduces_processClientPacket {tools : Tools} {opts : ProxyOptions}
    (renews : Renews C (Introduces opens)) {packet : Packet} (framed : WellFramed packet)
    {start : OpeningWorld σ} (introduced : Introduced opens w)
    (phase : w.session.phase = .authentication) :
    Proc.wp C (processClientPacket tools opts packet) (fun _ start w => Introduces opens start w)
      (fun _ start w => Introduces opens start w) start w := by
  unfold processClientPacket
  rw [Proc.wp_bind]
  change Proc.wp C (if w.session.initialBackendHandshakeSeen = false then _ else
    (if w.session.auth.phase = .waitingForClientResponse then _ else _)) _ _ start w
  split
  · exact introduced
  · split
    · next waiting => exact introduces_processHandshakeResponse renews framed introduced waiting
    · rw [phase]
      refine maintains_drain renews _ _ (introduced.stays ?_ rfl rfl rfl id rfl)
      intro raw
      rw [World.log_trace]
      simp

theorem introduces_markAuthenticated (payload : Bytes) :
    Maintains C (Introduces opens) (markAuthenticated payload) := by
  intro start w introduced
  unfold markAuthenticated
  rw [Proc.wp_bind]
  change Proc.wp C (changeSession _ >>= _) _ _ start w
  rw [Proc.wp_bind]
  refine wp_changeSession ?_ fun _ _ => introduced
  intro changed updated
  obtain ⟨usage, database⟩ := updateTransactionStatusFromOk_knows updated
  have knows : Introduced opens (withState w changed) :=
    introduced.stays (fun _ => Iff.rfl) usage database rfl id rfl
  change Proc.wp C (if w.session.auth.phase ≠ .authenticated then _ else _) _ _ start
    (withState w changed)
  split
  · exact knows
  · exact knows.stays (fun _ => Iff.rfl) rfl rfl rfl id rfl

theorem introduces_routeAuthentication (renews : Renews C (Introduces opens)) (packet : Packet) :
    Maintains C (Introduces opens) (routeAuthentication packet) := by
  intro start w introduced
  unfold routeAuthentication
  rw [Proc.wp_bind]
  change Proc.wp C (Proc.ofExcept (w.session.auth.acceptBackendPacket packet) >>= _) _ _ start w
  rw [Proc.wp_bind]
  refine Proc.wp_ofExcept ?_ fun _ _ => introduced
  intro accepted done
  have capabilities := acceptBackendPacket_knows done
  have accepts : Introduced opens (w.withSession { w.session with auth := accepted.2 }) := by
    refine introduced.stays (fun _ => Iff.rfl) rfl rfl capabilities ?_ rfl
    exact fun waits => absurd waits (acceptBackendPacket_responded done)
  refine maintains_bind (maintains_update (introduces_answer _)) (fun _ =>
    maintains_bind (maintains_drain renews) ?_) start _ accepts
  intro _
  split
  · exact introduces_markAuthenticated _
  · refine maintains_update ?_
    exact fun _ _ introduced => introduced.stays (fun _ => Iff.rfl) rfl rfl rfl id rfl
  · exact maintains_pure ()

theorem introduces_processBackendPacket (renews : Renews C (Introduces opens)) (packet : Packet)
    {start : OpeningWorld σ} (introduced : Introduced opens w)
    (phase : w.session.phase = .authentication) :
    Proc.wp C (processBackendPacket packet) (fun _ start w => Introduces opens start w)
      (fun _ start w => Introduces opens start w) start w := by
  unfold processBackendPacket
  rw [Proc.wp_bind]
  change Proc.wp C (if w.session.initialBackendHandshakeSeen = true then _ else _) _ _ start w
  split
  · unfold routeBackendPacket
    rw [Proc.wp_bind]
    refine wp_session.mpr ?_
    simp only [phase]
    exact introduces_routeAuthentication renews packet _ _ introduced
  · have seen : Maintains C (Introduces opens) (changeRelay fun state =>
        { state with initialBackendHandshakeSeen := true }) := by
      refine maintains_update ?_
      exact fun _ _ introduced => introduced.stays (fun _ => Iff.rfl) rfl rfl rfl id rfl
    refine maintains_bind (maintains_update (introduces_answer _)) (fun _ =>
      maintains_bind (maintains_drain renews) fun _ => seen) start w introduced

end Segments

/-! ## Every run -/

/-- Each task keeps what the session knows, and counts on nothing else. -/
def introductions (tools : Tools) (opts : ProxyOptions) (opens : HandshakeResponse → σ → Prop) :
    Promises (opening tools opts opens) anyTurn where
  invariant := Introduced opens
  guarantee _ _ w := Introduced opens w
  rely _ _ _ := True
  rely_refl _ _ := trivial
  rely_trans _ _ _ _ _ _ := trivial
  environment_invariant _ _ introduced moved _ := introduced.grants moved
  environment_relied _ _ _ _ _ _ := trivial
  guarantee_invariant _ _ _ _ guaranteed _ := guaranteed
  guarantee_relied _ _ _ _ _ _ _ _ := trivial

theorem renews_introductions (tools : Tools) (opts : ProxyOptions)
    (opens : HandshakeResponse → σ → Prop) (side : Side) :
    Proc.Renews ((introductions tools opts opens).contract side) (Introduces opens) where
  pauses _ _ _ introduced := introduced
  resumes _ _ _ _ _ _ relied := relied.1

theorem introduced_of_run {tools : Tools} {opts : ProxyOptions}
    {opens : HandshakeResponse → σ → Prop} {database : String}
    {maxPacketBytes maxSessionItems maxSessionStateBytes : Nat} {enough : 4 ≤ maxPacketBytes}
    {c : Config awaits (OpeningWorld σ) Exn Side}
    (run : (opening tools opts opens).Run anyTurn (Config.idle (unintroduced
      (newRelay database maxPacketBytes maxSessionItems maxSessionStateBytes enough))) c) :
    Introduced opens c.shared := by
  have initial : Introduced opens (unintroduced
      (newRelay database maxPacketBytes maxSessionItems maxSessionStateBytes enough)) := by
    refine ⟨rfl, ?_, ?_, ?_, by rintro response state ⟨⟩⟩
    · rintro _ raw ⟨⟩
    · rintro response ⟨packet, -, -, ⟨⟩⟩
    · rintro response name ⟨packet, -, -, ⟨⟩⟩
  refine ((introductions tools opts opens).holds_of_run ?_ (Promises.holds_idle _ initial) run).1
  intro side w task w' introduced started
  cases side with
  | client =>
      obtain ⟨packet, framed, phase, rfl, rfl⟩ := started
      exact introduces_processClientPacket (renews_introductions tools opts opens .client) framed
        introduced phase
  | backend =>
      obtain ⟨packet, -, phase, rfl, rfl⟩ := started
      exact introduces_processBackendPacket (renews_introductions tools opts opens .backend) packet
        introduced phase

/-- What the relay knows of a session that was opened with a response. -/
structure Knows (opens : HandshakeResponse → σ → Prop) (response : HandshakeResponse)
    (relay : RelayState) (state : σ) : Prop where
  phase : relay.phase = .commandResponse
  unused : relay.session.usage = (false, ∅, none)
  database : ∀ name, response.database = some name → name ≠ "" → relay.session.database = name
  opened : opens response state
  capabilities : relay.auth.capabilityFlags = response.capabilityFlags

theorem Begun.knows {tools : Tools} {opts : ProxyOptions} {opens : HandshakeResponse → σ → Prop}
    {response : HandshakeResponse} {relay : RelayState} {state : σ}
    (begun : Begun tools opts opens response relay state) : Knows opens response relay state := by
  obtain ⟨database, maxPacketBytes, maxSessionItems, maxSessionStateBytes, enough, c, run, rfl,
    phase, isPeer⟩ := begun
  have introduced := introduced_of_run run
  obtain ⟨presents, isOpened⟩ := introduced.granted response state isPeer
  exact ⟨phase, introduced.unused, fun name => introduced.database response name presents,
    isOpened, introduced.capabilities response presents⟩

/-! ## From the opening to the commands -/

/-- The connection when commands begin: nothing is under way. -/
def entered (relay : RelayState) (server : σ) : Link σ where
  session := relay
  trace := []
  clientOut := []
  peer := { server }

theorem Knows.fresh {opens : HandshakeResponse → σ → Prop} {response : HandshakeResponse}
    {relay : RelayState} {state : σ} (knows : Knows opens response relay state) {o : Outlook}
    (flags : relay.auth.capabilityFlags = o.flags) : Fresh o (entered relay state) :=
  ⟨flags, knows.phase, rfl, rfl, rfl, rfl, rfl, congrArg Prod.fst knows.unused⟩

end SqlSafetyProxy.MySql
