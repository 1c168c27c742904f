import SqlSafetyProxy.MySql.Session

/-!
# Backend packets

Authentication is followed but not interpreted.  After it every backend packet
is matched with the command that awaits a response and relayed unchanged.
-/

namespace SqlSafetyProxy.MySql

open SqlSafetyProxy.Wire SqlSafetyProxy.Runtime SqlSafetyProxy.Coroutine

/-! ## Authentication -/

inductive AuthPhase where
  | waitingForClientResponse | authenticating | authenticated | failed | tlsRejected
  deriving DecidableEq, Repr

def AuthPhase.value : AuthPhase → String
  | .waitingForClientResponse => "waiting_for_client_response"
  | .authenticating => "authenticating"
  | .authenticated => "authenticated"
  | .failed => "failed"
  | .tlsRejected => "tls_rejected"

inductive BackendAuthPacket where
  | ok | error | authSwitch | authMoreData | other
  deriving DecidableEq, Repr

structure AuthState where
  database : String
  phase : AuthPhase := .waitingForClientResponse
  username : Option String := none
  capabilityFlags : Nat := 0
  authPlugin : Option String := none
  failureReason : Option String := none
  deriving DecidableEq, Repr

def classifyBackendAuthPacket (packet : Packet) : Except Exn BackendAuthPacket :=
  match packet.payload with
  | [] => .error (.protocol "Backend authentication packet has an empty payload")
  | marker :: _ =>
      if marker = 0x00 then .ok .ok
      else if marker = 0xFF then .ok .error
      else if marker = 0xFE then .ok .authSwitch
      else if marker = 0x01 then .ok .authMoreData
      else .ok .other

namespace AuthState

def acceptClientResponse (auth : AuthState) (response : HandshakeResponse) :
    Except Exn AuthState :=
  if auth.phase ≠ .waitingForClientResponse then
    .error (.protocol ("Client handshake response arrived in an invalid " ++
      "authentication phase: " ++ auth.phase.value))
  else
    let flagged := { auth with capabilityFlags := response.capabilityFlags }
    if response.isSslRequest then
      .ok { flagged with
        phase := .tlsRejected
        failureReason := some ("MySQL TLS is unsupported because encrypted SQL " ++
          "cannot be inspected safely") }
    else .ok { flagged with
      username := some response.username
      authPlugin := response.authPlugin
      database := match response.database with
        | some database => if database = "" then auth.database else database
        | none => auth.database
      phase := .authenticating }

def acceptBackendPacket (auth : AuthState) (packet : Packet) :
    Except Exn (BackendAuthPacket × AuthState) :=
  if auth.phase ≠ .authenticating then
    .error (.protocol ("Backend authentication packet arrived in an invalid " ++
      "authentication phase: " ++ auth.phase.value))
  else do
    match ← classifyBackendAuthPacket packet with
    | .ok => return (.ok, { auth with phase := .authenticated, failureReason := none })
    | .error => return (.error, { auth with
        phase := .failed
        failureReason := some "Backend rejected MySQL authentication" })
    | packetType => return (packetType, auth)

end AuthState

/-! ## The state of a connection -/

inductive BackendPhase where
  | authentication | commandResponse | closed
  deriving DecidableEq, Repr

structure RelayState where
  auth : AuthState
  session : SessionState
  phase : BackendPhase := .authentication
  initialBackendHandshakeSeen : Bool := false
  clientFramer : PacketFramer
  backendFramer : PacketFramer
  commandAssembler : LogicalMessageAssembler

/-- What a client packet was when it was written to the backend. -/
inductive Source where
  /-- The client's handshake response. -/
  | handshake
  /-- A packet of the authentication exchange, passed through unread. -/
  | passThrough
  | command (message : LogicalMessage)
  deriving DecidableEq, Repr

/-- Where the handling of a command begins and ends, what is inspected, and what is refused. -/
inductive Note where
  | received (message : LogicalMessage)
  | reconstructs (statement : PreparedStatement) (decoded : StmtExecuteParameters)
  | refuses (message : LogicalMessage) (packet : Bytes)
  | ended (result : Except Exn Bool)

abbrev adapter : Adapter := ⟨RelayState, Source, Note⟩

variable {Γ : Type}

def withState (w : World adapter Γ) (state : SessionState) : World adapter Γ :=
  w.withSession { w.session with session := state }

def sessionState : Handler adapter Γ SessionState := do
  let state ← session
  return state.session

def updateSession (change : SessionState → SessionState) : Handler adapter Γ Unit :=
  Proc.update fun w => withState w (change w.session.session)

/-- Replace the session by the result of an operation that leaves it alone when it raises. -/
def changeSession (change : SessionState → Except Exn SessionState) : Handler adapter Γ Unit := do
  let state ← sessionState
  let changed ← Proc.ofExcept (change state)
  updateSession fun _ => changed

section Rules

variable {C : Proc.Contract awaits (World adapter Γ)}
  {fail : Exn → World adapter Γ → World adapter Γ → Prop} {start w : World adapter Γ}

@[simp] theorem withState_session (state : SessionState) :
    (withState w state).session.session = state := rfl

@[simp] theorem withState_trace (state : SessionState) : (withState w state).trace = w.trace := rfl

@[simp] theorem withState_clientOut (state : SessionState) :
    (withState w state).clientOut = w.clientOut := rfl

@[simp] theorem withState_peer (state : SessionState) : (withState w state).peer = w.peer := rfl

@[simp] theorem wp_sessionState {post : SessionState → World adapter Γ → World adapter Γ → Prop} :
    Proc.wp C sessionState post fail start w = post w.session.session start w := rfl

@[simp] theorem wp_updateSession (change : SessionState → SessionState)
    {post : Unit → World adapter Γ → World adapter Γ → Prop} :
    Proc.wp C (updateSession change) post fail start w =
      post () start (withState w (change w.session.session)) := rfl

theorem wp_changeSession {change : SessionState → Except Exn SessionState}
    {post : Unit → World adapter Γ → World adapter Γ → Prop}
    (finish : ∀ changed, change w.session.session = .ok changed →
      post () start (withState w changed))
    (raises : ∀ error, change w.session.session = .error error → fail error start w) :
    Proc.wp C (changeSession change) post fail start w := by
  unfold changeSession
  simp only [Proc.wp_bind, wp_sessionState, wp_updateSession]
  exact Proc.wp_ofExcept finish raises

end Rules

/-! ## Matching a packet with its command -/

/-- What is left to do once a packet has been relayed. -/
inductive FollowUp where
  | nothing | finishPrepare | failPrepare
  deriving DecidableEq, Repr

def updateTransactionStatusFromOk (capabilityFlags : Nat) (payload : Bytes)
    (state : SessionState) : Except Exn SessionState :=
  if hasFlag capabilityFlags clientProtocol41 = false
      ∧ hasFlag capabilityFlags clientTransactions = false then .ok state
  else (parseOkPacketStatus payload capabilityFlags).map state.updateTransactionStatus

/-- A one-packet acknowledgment: an OK also reports the transaction status. -/
def acknowledge (capabilityFlags : Nat) (payload : Bytes)
    (completed : Except Exn Bool × SessionState) : Except Exn FollowUp × SessionState :=
  match completed with
  | (.error error, state) => (.error error, state)
  | (.ok _, state) =>
      if payload.head? = some 0x00 then
        match updateTransactionStatusFromOk capabilityFlags payload state with
        | .error error => (.error error, state)
        | .ok updated => (.ok .nothing, updated)
      else (.ok .nothing, state)

/-- A metadata packet; anything unexpected fails the prepare. -/
def trackPrepareMetadata (capabilityFlags : Nat) (payload : Bytes) (state : SessionState) :
    Except Exn FollowUp × SessionState :=
  if payload.head? = some 0xFF then (.ok .failPrepare, state)
  else match state.consumeStatementPrepareMetadata payload capabilityFlags with
  | .error (.protocol reason) => (.error (.protocol reason), state.failStatementPrepare)
  | .error error => (.error error, state)
  | .ok (last, consumed) => (.ok (if last then .finishPrepare else .nothing), consumed)

/-- The first packet of the response to a prepare. -/
def trackPrepareOk (capabilityFlags : Nat) (payload : Bytes) (state : SessionState) :
    Except Exn FollowUp × SessionState :=
  if payload.head? = some 0x00 then
    match (do
      let prepared ← parseStmtPrepareOk payload
      state.acceptStatementPrepareOk prepared (hasFlag capabilityFlags clientDeprecateEof)) with
    | .error error => (.error error, state)
    | .ok accepted =>
        (.ok (if accepted.pendingPrepareMetadataPackets = 0 then .finishPrepare else .nothing),
          accepted)
  else if payload.head? = some 0xFF then (.ok .failPrepare, state)
  else
    (.error (.protocol "Unexpected backend response to COM_STMT_PREPARE"),
      state.failStatementPrepare)

/-- Match a packet with whatever awaits a response; without one it is just relayed. -/
def trackResponse (capabilityFlags : Nat) (payload : Bytes) (state : SessionState) :
    Except Exn FollowUp × SessionState :=
  if state.pendingPing then acknowledge capabilityFlags payload (state.completePing payload)
  else if state.pendingStatementResetId.isSome then
    acknowledge capabilityFlags payload (state.completeStatementReset payload)
  else if state.pendingDatabase.isSome then
    acknowledge capabilityFlags payload (state.completeDatabaseChange payload)
  else if state.pendingStatementSql.isSome then
    if state.pendingPreparedStatementId.isSome then
      trackPrepareMetadata capabilityFlags payload state
    else trackPrepareOk capabilityFlags payload state
  else if state.pendingCommandResponse.isSome then
    match state.acceptCommandResponsePacket payload capabilityFlags with
    | (.error error, followed) => (.error error, followed)
    | (.ok (), followed) => (.ok .nothing, followed)
  else (.ok .nothing, state)

/-! ## Routing -/

def followUp : FollowUp → Handler adapter Γ Unit
  | .nothing => return ()
  | .finishPrepare => changeSession SessionState.finishStatementPrepareResponse
  | .failPrepare => updateSession SessionState.failStatementPrepare

/-- Relay a packet of a command response. -/
def routeResponse (packet : Packet) : Handler adapter Γ Unit := do
  let state ← session
  let tracked := trackResponse state.auth.capabilityFlags packet.payload state.session
  updateSession fun _ => tracked.2
  let next ← Proc.ofExcept tracked.1
  writeClient (.relayed packet.raw)
  drain
  followUp next

/-- Take up a session that the backend has accepted. -/
def markAuthenticated (payload : Bytes) : Handler adapter Γ Unit := do
  let state ← session
  changeSession (updateTransactionStatusFromOk state.auth.capabilityFlags payload)
  let state ← session
  if state.auth.phase ≠ .authenticated then
    Proc.raised (.protocol ("Cannot enter command-response phase before " ++
      "MySQL authentication succeeds"))
  else Proc.update fun w => w.withSession { w.session with phase := .commandResponse }

def markClosed : Handler adapter Γ Unit :=
  Proc.update fun w => w.withSession { w.session with phase := .closed }

/-- Relay a packet of the authentication exchange; the phase changes once it has drained. -/
def routeAuthentication (packet : Packet) : Handler adapter Γ Unit := do
  let state ← session
  let accepted ← Proc.ofExcept (state.auth.acceptBackendPacket packet)
  Proc.update fun w => w.withSession { w.session with auth := accepted.2 }
  writeClient (.relayed packet.raw)
  drain
  match accepted.1 with
  | .ok => markAuthenticated packet.payload
  | .error => markClosed
  | _ => return ()

/-- Route one backend packet to the client and follow it. -/
def routeBackendPacket (packet : Packet) : Handler adapter Γ Unit := do
  let state ← session
  match state.phase with
  | .closed =>
      Proc.raised (.protocol "Backend packet received after MySQL connection closed")
  | .authentication => routeAuthentication packet
  | .commandResponse => routeResponse packet

/-! ## Connections and packets -/

/-- A connection in the command phase with the given capabilities and session. -/
def commandPhase (flags : Nat) (session : SessionState) (peer : Γ) : World adapter Γ where
  session :=
    { auth := { database := session.database, phase := .authenticated, capabilityFlags := flags }
      session := session
      phase := .commandResponse
      initialBackendHandshakeSeen := true
      clientFramer := { maxPacketBytes := 64 * 1024 * 1024 }
      backendFramer := { maxPacketBytes := 64 * 1024 * 1024 }
      commandAssembler := { maxMessageBytes := 64 * 1024 * 1024 } }
  trace := []
  clientOut := []
  peer := peer

/-- The packet with the given payload. -/
def packetOf (sequenceId : UInt8) (payload : Bytes) : Packet where
  sequenceId := sequenceId
  payload := payload
  raw := lePack 3 payload.length ++ [sequenceId] ++ payload

/-- The message of one packet with the given payload. -/
def messageOf (payload : Bytes) : LogicalMessage where
  firstSequenceId := 0
  lastSequenceId := 0
  payload := payload
  rawPackets := (packetOf 0 payload).raw
  packetCount := 1

end SqlSafetyProxy.MySql
