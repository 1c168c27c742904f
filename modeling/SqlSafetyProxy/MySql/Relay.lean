import SqlSafetyProxy.MySql.Dispatcher

/-!
# Chunks of bytes

The client's and the backend's bytes are framed, and their packets are handled
one after another: the first packets belong to the handshake, later ones to the
authentication exchange or to commands and their responses.
-/

namespace SqlSafetyProxy.MySql

open SqlSafetyProxy.Wire SqlSafetyProxy.Runtime SqlSafetyProxy.Coroutine

variable {Γ : Type}

def mysqlTlsErrorCode : Nat := 3159

def mysqlTlsSqlState : String := "HY000"

def changeRelay (change : RelayState → RelayState) : Handler adapter Γ Unit :=
  Proc.update fun w => w.withSession (change w.session)

/-! ## The backend's bytes -/

/-- The initial handshake is relayed, what follows it is routed. -/
def processBackendPacket (packet : Packet) : Handler adapter Γ Unit := do
  let state ← session
  if state.initialBackendHandshakeSeen then routeBackendPacket packet
  else
    writeClient (.relayed packet.raw)
    drain
    changeRelay fun state => { state with initialBackendHandshakeSeen := true }

def forEach (body : Packet → Handler adapter Γ Unit) : List Packet → Handler adapter Γ Unit
  | [] => return ()
  | packet :: rest => do
      body packet
      forEach body rest

def processBackendChunk (chunk : Bytes) : Handler adapter Γ Nat := do
  let state ← session
  let pushed ← Proc.ofExcept (state.backendFramer.push chunk)
  changeRelay fun state => { state with backendFramer := pushed.2 }
  forEach processBackendPacket pushed.1
  return pushed.1.length

/-- Changes of the session do not touch the relation. -/
def IgnoresSession (related : World adapter Γ → World adapter Γ → Prop) : Prop :=
  ∀ start w state, related start w → related start (withState w state)

section IgnoresSession

open Proc

variable {related : World adapter Γ → World adapter Γ → Prop}
  {C : Proc.Contract awaits (World adapter Γ)}

theorem IgnoresSession.updateSession (ignores : IgnoresSession related)
    (change : SessionState → SessionState) :
    Maintains C related (updateSession change) :=
  maintains_update fun start w => ignores start w _

theorem IgnoresSession.changeSession (ignores : IgnoresSession related)
    (change : SessionState → Except Exn SessionState) :
    Maintains C related (changeSession change) := by
  have reads : Maintains C related sessionState :=
    maintains_bind maintains_session fun _ => maintains_pure _
  exact maintains_bind reads fun _ => maintains_bind (maintains_ofExcept _) fun _ =>
    ignores.updateSession _

theorem IgnoresSession.followUp (ignores : IgnoresSession related) (next : FollowUp) :
    Maintains C related (followUp next) := by
  cases next with
  | nothing => exact maintains_pure ()
  | finishPrepare => exact ignores.changeSession _
  | failPrepare => exact ignores.updateSession _

theorem IgnoresSession.routeResponse (ignores : IgnoresSession related)
    (renews : Renews C related) (packet : Packet)
    (relays : ∀ start w, related start w → related start (w.answer (.relayed packet.raw))) :
    Maintains C related (routeResponse packet) :=
  maintains_bind maintains_session fun _ => maintains_bind (ignores.updateSession _) fun _ =>
    maintains_bind (maintains_ofExcept _) fun next => maintains_bind (maintains_update relays)
      fun _ => maintains_bind (maintains_drain renews) fun _ => ignores.followUp next

theorem maintains_forEach {body : Packet → Handler adapter Γ Unit}
    (maintained : ∀ packet, Maintains C related (body packet)) (packets : List Packet) :
    Maintains C related (forEach body packets) := by
  induction packets with
  | nil => exact maintains_pure ()
  | cons packet rest ih => exact maintains_bind (maintained packet) fun _ => ih

end IgnoresSession

/-! ## The client's bytes -/

/-- A client that asks for TLS is answered with an error. -/
def refuseTls (packet : Packet) : Handler adapter Γ Unit := do
  let state ← session
  let reason := match state.auth.failureReason with
    | some reason => if reason = "" then "MySQL TLS is unsupported" else reason
    | none => "MySQL TLS is unsupported"
  let answer ← Proc.ofExcept (buildErrorPacket reason (nextSequenceId packet.sequenceId)
    mysqlTlsErrorCode mysqlTlsSqlState)
  writeClient (.built answer)
  drain
  markClosed

/-- The client's handshake response is forwarded unless it asks for TLS. -/
def answerHandshake (response : HandshakeResponse) (packet : Packet) : Handler adapter Γ Unit :=
  if response.isSslRequest then refuseTls packet
  else do
    changeRelay fun state =>
      { state with session := { state.session with database := state.auth.database } }
    writeBackend .handshake packet.raw
    drain

def processHandshakeResponse (packet : Packet) : Handler adapter Γ Unit := do
  let response ← Proc.ofExcept (parseHandshakeResponse packet.payload)
  let state ← session
  let accepted ← Proc.ofExcept (state.auth.acceptClientResponse response)
  changeRelay fun state => { state with auth := accepted }
  answerHandshake response packet

def processClientPacket (tools : Tools) (opts : ProxyOptions) (packet : Packet) :
    Handler adapter Γ Unit := do
  let state ← session
  if state.initialBackendHandshakeSeen = false then
    Proc.raised (.protocol "Client data arrived before the backend handshake")
  else if state.auth.phase = .waitingForClientResponse then processHandshakeResponse packet
  else match state.phase with
  | .authentication =>
      -- What is exchanged during authentication is not read.
      writeBackend .passThrough packet.raw
      drain
  | .closed => Proc.raised (.protocol "Client packet received after MySQL connection closed")
  | .commandResponse =>
      let pushed := state.commandAssembler.push packet
      changeRelay fun state => { state with commandAssembler := pushed.2 }
      match ← Proc.ofExcept pushed.1 with
      | none => return ()
      | some message =>
          let _ ← dispatchAuthenticatedCommand tools opts message
          return ()

def processClientChunk (tools : Tools) (opts : ProxyOptions) (chunk : Bytes) :
    Handler adapter Γ Nat := do
  let state ← session
  let pushed ← Proc.ofExcept (state.clientFramer.push chunk)
  changeRelay fun state => { state with clientFramer := pushed.2 }
  forEach (processClientPacket tools opts) pushed.1
  return pushed.1.length

/-! ## The handshake response -/

section Response

variable {tools : Tools} {opts : ProxyOptions} {w : World adapter Γ} {packet : Packet}

end Response

end SqlSafetyProxy.MySql
