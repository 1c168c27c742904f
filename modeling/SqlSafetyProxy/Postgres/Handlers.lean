import SqlSafetyProxy.Postgres.Connection
import SqlSafetyProxy.Postgres.Parameters
import SqlSafetyProxy.Runtime.Decision

/-!
# PostgreSQL message handlers

The client task handles one framed frontend message at a time; the backend task
relays one read chunk at a time and follows the transaction status in it.
-/

namespace SqlSafetyProxy.Postgres

open SqlSafetyProxy.Sql SqlSafetyProxy.Policy SqlSafetyProxy.Wire SqlSafetyProxy.Runtime
open SqlSafetyProxy.Coroutine

/-- The connection state and the framer of the backend task. -/
structure Connection where
  state : ConnectionState
  framer : Framer

/-- Where the handling of a message begins and ends. -/
inductive Note where
  | received (message : Message) (state : ConnectionState)
  | ended (error : Option Exn)

/-- Messages are forwarded on behalf of a frontend message. -/
abbrev adapter : Adapter := ⟨Connection, Message, Note⟩

variable {Γ : Type}

def withState (w : World adapter Γ) (state : ConnectionState) : World adapter Γ :=
  w.withSession { w.session with state := state }

def connectionState : Handler adapter Γ ConnectionState := do
  let connection ← session
  return connection.state

def updateState (change : ConnectionState → ConnectionState) : Handler adapter Γ Unit :=
  Proc.update fun w => withState w (change w.session.state)

/-- Write the message to the backend and wait for the write to drain. -/
def forward (message : Message) : Handler adapter Γ Unit := do
  writeBackend message message.raw
  drain

/-! ## Refusals -/

def blockedError (classification : Classification) (estimatedRows : Option Int)
    (decision : PolicyDecision) : Except Exn Bytes :=
  let parts :=
    ["Query blocked by OhMyDB.",
      "Policy: " ++ decision.reason ++ ".",
      "Severity: " ++ decision.severity.value ++ ".",
      "Operation: " ++ classification.statementType ++ "."]
    ++ (match classification.targetTable with
      | none => []
      | some table => if table = "" then [] else ["Table: " ++ table ++ "."])
    ++ (match estimatedRows with
      | none => []
      | some rows => ["Estimated rows affected: " ++ toString rows ++ "."])
  buildErrorResponse (" ".intercalate parts) "42000"

/-- An error inside an extended batch starts recovery; elsewhere the client expects a status. -/
def answerRecovery (extendedRecovery : Bool) : Handler adapter Γ Unit :=
  if extendedRecovery then
    updateState fun state => { state with extendedErrorPending := true }
  else do
    let state ← connectionState
    writeClient (.built (buildReadyForQuery state.transactionStatus))

/-- Handle SQL that cannot be reconstructed safely; true when the message was forwarded. -/
def handleProtocolGap (tools : Tools) (opts : ProxyOptions) (protocol reason sql : String)
    (message : Message) (database : String) (extendedRecovery : Bool) :
    Handler adapter Γ Bool := do
  let gapDecision := evaluateProtocolGap opts.failSafeMode reason
  let finalDecision :=
    if gapDecision.action = .allow then FinalDecision.allowedProtocolGap
    else FinalDecision.blockedProtocolGap
  writeAuditEvent tools opts sql protocol (gapClassification reason)
    (gapPolicyDecision gapDecision) finalDecision none (some reason) false database
  if gapDecision.action = .allow then
    forward message
    return true
  else
    let error ← Proc.ofExcept (buildErrorResponse
      ("Query blocked by OhMyDB. " ++ "Protocol gap: " ++ gapDecision.reason ++ ".") "0A000")
    writeClient (.built error)
    answerRecovery extendedRecovery
    drain
    return false

/-! ## Simple Query -/

def handleSimpleQuery (tools : Tools) (opts : ProxyOptions) (message : Message) :
    Handler adapter Γ Unit := do
  let sql ← Proc.ofExcept (parseSimpleQueryText message.payload)
  let classification ← classifySql tools opts sql
  if classification.risk = .safe then forward message
  else
    let state ← connectionState
    let estimated ← estimate classification state.database
    let state ← connectionState
    let outcome ← evaluateAndDecide tools opts sql "simple" classification estimated.1
      estimated.2 false state.database
    if outcome.1 then forward message
    else
      let error ← Proc.ofExcept (blockedError classification estimated.1 outcome.2)
      writeClient (.built error)
      answerRecovery false
      drain

/-! ## Execute -/

def decodedParameters (bind : BindMessage) : List DecodedParam :=
  (bind.paramValues.zip bind.formatCodes).map fun entry => decodeParam entry.1 entry.2

/-- The preview with the bound values put in, when the classification has one. -/
def literalPreview (tools : Tools) (classification : Classification) (bind : BindMessage) :
    Except Exn (Option (Option String × Bool)) :=
  match classification.previewQuery with
  | none => .ok none
  | some query =>
      if query = "" then .ok none
      else (substituteParams tools.digit query (decodedParameters bind)).map some

/-- Estimate the impact of an Execute: rows, error, and whether the estimate is approximate. -/
def estimateExecute (classification : Classification) (preview : Option (Option String × Bool))
    (database : String) : Handler adapter Γ ((Option Int × Option String) × Bool) :=
  match preview with
  | none => return ((none, none), false)
  | some (none, _) =>
      return ((none, some "Could not decode one or more bound parameters"), false)
  | some (some literalQuery, usedHeuristic) => do
      let estimated ← estimate { classification with previewQuery := some literalQuery } database
      return (estimated, usedHeuristic)

/-- The part of Execute handling that begins once the statement text is known. -/
def decideExecute (tools : Tools) (opts : ProxyOptions) (message : Message)
    (bind : BindMessage) (sqlTemplate : String) : Handler adapter Γ Unit := do
  let classification ← classifySql tools opts sqlTemplate
  if classification.risk = .safe then forward message
  else
    let preview ← Proc.ofExcept (literalPreview tools classification bind)
    let state ← connectionState
    let estimated ← estimateExecute classification preview state.database
    let state ← connectionState
    let outcome ← evaluateAndDecide tools opts sqlTemplate "extended" classification
      estimated.1.1 estimated.1.2 estimated.2 state.database
    if outcome.1 then forward message
    else
      let error ← Proc.ofExcept (blockedError classification estimated.1.1 outcome.2)
      writeClient (.built error)
      answerRecovery true
      drain

def executeGap (tools : Tools) (opts : ProxyOptions) (reason : String) (message : Message)
    (database : String) : Handler adapter Γ Unit := do
  let _ ← handleProtocolGap tools opts "extended" reason "<unavailable>" message database true
  return ()

def handleExecute (tools : Tools) (opts : ProxyOptions) (message : Message) :
    Handler adapter Γ Unit := do
  let execute ← Proc.ofExcept (parseExecuteMessage message.payload)
  let state ← connectionState
  match state.portals.lookup execute.portalName with
  | none =>
      executeGap tools opts "Execute referenced an unknown portal" message state.database
  | some bind =>
      match state.preparedStatements.lookup bind.statementName with
      | none =>
          executeGap tools opts "Portal references an unknown prepared statement" message
            state.database
      | some sqlTemplate => decideExecute tools opts message bind sqlTemplate

/-! ## Frontend messages -/

/-- Update the registries for a message, then forward it. -/
def registerAndForward (message : Message)
    (change : ConnectionState → Except Exn ConnectionState) : Handler adapter Γ Unit := do
  let state ← connectionState
  let registered ← Proc.ofExcept (change state)
  updateState fun _ => registered
  forward message

/-- What a Parse, Bind or Close message does to the registries. -/
def registryChange (message : Message) (state : ConnectionState) :
    Except Exn ConnectionState :=
  if message.type = 'P' then do
    let parsed ← parseParseMessage message.payload
    state.registerStatement parsed.statementName parsed.query
  else if message.type = 'B' then do
    let bind ← parseBindMessage message.payload
    state.registerPortal bind
  else do
    let close ← parseCloseMessage message.payload
    return state.close close

/-- Route a message outside recovery. -/
def routeMessage (tools : Tools) (opts : ProxyOptions) (message : Message) :
    Handler adapter Γ Unit :=
  if message.type = 'Q' then handleSimpleQuery tools opts message
  else if message.type = 'P' ∨ message.type = 'B' ∨ message.type = 'C' then
    registerAndForward message (registryChange message)
  else if message.type = 'E' then handleExecute tools opts message
  else forward message

/-- After an error only `Sync` and `Terminate` pass, and `Sync` ends the recovery. -/
def recoverMessage (message : Message) : Handler adapter Γ Unit :=
  if message.type = 'S' then do
    forward message
    updateState fun state => { state with extendedErrorPending := false }
  else if message.type = 'X' then forward message
  else return ()

/-- `Malformed frontend message` with `{msg.type!r}`; only letters reach it. -/
def malformedReason (message : Message) (reason : String) : String :=
  "Malformed frontend message '" ++ String.ofList [message.type] ++ "': " ++ reason

/-- Route one framed frontend message. -/
def handleFrontendMessage (tools : Tools) (opts : ProxyOptions) (message : Message) :
    Handler adapter Γ Unit := do
  let state ← connectionState
  if state.extendedErrorPending then recoverMessage message
  else (routeMessage tools opts message).handle fun error =>
    match error with
    | .protocol reason => do
        let state ← connectionState
        let _ ← handleProtocolGap tools opts
          (if message.type = 'Q' then "simple" else "extended")
          (malformedReason message reason) "<unavailable>" message state.database
          (message.type != 'Q')
        return ()
    | other => Proc.raised other

/-! ## Backend chunks -/

/-- Follow the transaction status reported in framed backend messages. -/
def trackStatus : List Message → Handler adapter Γ Unit
  | [] => return ()
  | message :: rest => do
      if message.type = 'Z' then
        let status ← Proc.ofExcept (parseReadyForQueryStatus message.payload)
        updateState fun state => state.updateTransactionStatus status
      trackStatus rest

/--
One turn of the backend loop: frame the chunk, follow the status, relay the
chunk.  A chunk that raises is never relayed, so the framer kept is the one that
has seen exactly the relayed bytes.
-/
def pipeBackend (chunk : Bytes) : Handler adapter Γ Unit := do
  let connection ← session
  let framed ← Proc.ofExcept (connection.framer.push chunk)
  trackStatus framed.1
  Proc.update fun w => w.withSession { w.session with framer := framed.2 }
  writeClient (.relayed chunk)
  drain

end SqlSafetyProxy.Postgres
