import SqlSafetyProxy.MySql.Handlers

/-!
# Routing of authenticated commands

One logical command at a time is parsed, checked against the session and either
forwarded or refused.
-/

namespace SqlSafetyProxy.MySql

open SqlSafetyProxy.Sql SqlSafetyProxy.Policy SqlSafetyProxy.Wire SqlSafetyProxy.Runtime
open SqlSafetyProxy.Coroutine

variable {Γ : Type}

def blockProtocolStateError (reason : String) (message : LogicalMessage) :
    Handler adapter Γ Bool :=
  refuse message ("Query blocked by OhMyDB. Protocol state error: " ++ reason ++ ".") 1148 "42000"

/-- Handle a protocol error of a command as a gap. -/
def commandGap (tools : Tools) (opts : ProxyOptions) (message : LogicalMessage)
    (command : Command) (reason : String) : Handler adapter Γ Bool := do
  let state ← sessionState
  handleMysqlProtocolGap tools opts reason (some command.commandCode) message state.database

/-! ## Queries -/

/-- The handler ran: forget the awaited response unless the query was forwarded. -/
def settleResponse (forwarded : Bool) : Handler adapter Γ Bool :=
  if forwarded then return true
  else do
    updateSession SessionState.failCommandForward
    return false

/-- Inspect a query whose response is already awaited. -/
def inspectQuery (tools : Tools) (opts : ProxyOptions) (message : LogicalMessage)
    (command : Command) : Handler adapter Γ Bool := do
  let state ← sessionState
  match ← onRaise (attempt (handleMysqlQuery tools opts message command.payload state.database))
    (updateSession SessionState.failCommandForward) with
  | .error reason => do
      updateSession SessionState.failCommandForward
      commandGap tools opts message command reason
  | .ok forwarded => settleResponse forwarded

def dispatchQuery (tools : Tools) (opts : ProxyOptions) (message : LogicalMessage)
    (command : Command) : Handler adapter Γ Bool := do
  match ← attempt (changeSession fun state => state.beginCommandResponse .query) with
  | .error reason => blockProtocolStateError reason message
  | .ok () => inspectQuery tools opts message command

/-! ## Commands that are forwarded when they parse -/

/-- Begin an operation and forward its command; a protocol error is a gap. -/
def dispatchBeginning (tools : Tools) (opts : ProxyOptions) (message : LogicalMessage)
    (command : Command) (change : SessionState → Except Exn SessionState) :
    Handler adapter Γ Bool := do
  match ← attempt (changeSession change) with
  | .error reason => commandGap tools opts message command reason
  | .ok () => forward message

def dispatchInitDb (tools : Tools) (opts : ProxyOptions) (message : LogicalMessage)
    (command : Command) : Handler adapter Γ Bool :=
  dispatchBeginning tools opts message command fun state => do
    let database ← parseDatabaseName command.payload
    state.beginDatabaseChange database

def dispatchStmtPrepare (tools : Tools) (opts : ProxyOptions) (message : LogicalMessage)
    (command : Command) : Handler adapter Γ Bool :=
  dispatchBeginning tools opts message command fun state => do
    let sql ← parseStmtPrepare command.payload
    state.beginStatementPrepare sql

def dispatchQuit (message : LogicalMessage) : Handler adapter Γ Bool := do
  updateSession SessionState.markClosing
  forward message

/-- Begin an acknowledged operation and forward it; a protocol error blocks, any other undoes. -/
def dispatchAcknowledged (message : LogicalMessage)
    (change : SessionState → Except Exn SessionState) (undo : SessionState → SessionState) :
    Handler adapter Γ Bool := do
  match ← onRaise
    (attempt do
      changeSession change
      forward message)
    (updateSession undo) with
  | .error reason => blockProtocolStateError reason message
  | .ok forwarded => return forwarded

def dispatchPing (message : LogicalMessage) (command : Command) : Handler adapter Γ Bool :=
  if command.payload ≠ [] then
    blockProtocolStateError "COM_PING payload must be empty" message
  else dispatchAcknowledged message SessionState.beginPing SessionState.failPing

def dispatchStmtReset (message : LogicalMessage) (command : Command) : Handler adapter Γ Bool :=
  dispatchAcknowledged message
    (fun state => do
      let statementId ← parseStmtReset command.payload
      state.beginStatementReset statementId)
    SessionState.failStatementReset

def dispatchStmtClose (tools : Tools) (opts : ProxyOptions) (message : LogicalMessage)
    (command : Command) : Handler adapter Γ Bool := do
  let state ← sessionState
  if state.hasPendingLifecycleOperation then
    blockProtocolStateError ("COM_STMT_CLOSE cannot run while a MySQL command " ++
      "acknowledgment is pending") message
  else match ← attempt (Proc.ofExcept (parseStatementId command.payload)) with
  | .error reason => commandGap tools opts message command reason
  | .ok statementId => do
      updateSession fun state => state.closePreparedStatement statementId
      forward message

/-! ## Executions -/

/-- The last statement, waiting for the one being prepared; none when that prepare failed. -/
def lastStatement : Handler adapter Γ (Option PreparedStatement) := do
  let state ← sessionState
  if state.pendingStatementSql.isSome then
    if state.pendingPrepareEvent.isNone then
      Proc.raised (.protocol "Pipelined COM_STMT_EXECUTE has no prepare event")
    else do
      let _ ← request .prepareEvent
      let state ← sessionState
      Proc.ofExcept state.awaitedStatement
  else do
    let statement ← Proc.ofExcept state.getLastPreparedStatement
    return some statement

def executedStatement (execution : StmtExecute) : Handler adapter Γ (Option PreparedStatement) :=
  if execution.statementId = mariadbStmtIdLast then lastStatement
  else do
    let state ← sessionState
    let statement ← Proc.ofExcept (state.getPreparedStatement execution.statementId)
    return some statement

def longDataError (parameters : Finset Nat) : Exn :=
  .protocol ("COM_STMT_EXECUTE references uninspectable long-data " ++ "parameters: " ++
    ", ".intercalate ((parameters.sort (· ≤ ·)).map toString))

/-- Decode the parameters of an execution and reconstruct its text. -/
def reconstructExecution (tools : Tools) (execution : StmtExecute)
    (statement : PreparedStatement) : Handler adapter Γ (StmtExecuteParameters × String) :=
  if statement.longDataParameters ≠ ∅ then Proc.raised (longDataError statement.longDataParameters)
  else do
    let decoded ← Proc.ofExcept (parseStmtExecuteParameters tools execution
      statement.parameterCount statement.parameterTypes)
    record (.noted (.reconstructs statement decoded))
    let inspectionSql ← Proc.ofExcept (reconstructStmtExecuteSql statement.sql decoded.parameters)
    return (decoded, inspectionSql)

/-- What is executed and how it is inspected; none after a failed prepare. -/
def resolveExecution (tools : Tools) (command : Command) :
    Handler adapter Γ (Option (PreparedStatement × StmtExecuteParameters × String)) := do
  let execution ← Proc.ofExcept (parseStmtExecute command.payload)
  match ← executedStatement execution with
  | none => return none
  | some statement => do
      let reconstructed ← reconstructExecution tools execution statement
      return some (statement, reconstructed)

/-- Remember the parameter types of a forwarded execution. -/
def settleExecution (statement : PreparedStatement) (decoded : StmtExecuteParameters)
    (forwarded : Bool) : Handler adapter Γ Bool :=
  if forwarded then do
    changeSession fun state =>
      state.registerStatementParameterTypes statement.statementId decoded.parameterTypes
    return true
  else settleResponse false

/-- Inspect a reconstructed execution, awaiting its response meanwhile. -/
def inspectExecution (tools : Tools) (opts : ProxyOptions) (message : LogicalMessage)
    (statement : PreparedStatement) (decoded : StmtExecuteParameters) (inspectionSql : String) :
    Handler adapter Γ Bool := do
  let forwarded ← onRaise
    (do
      changeSession fun state => state.beginCommandResponse .stmtExecute
      let state ← sessionState
      handleMysqlStmtExecute tools opts message inspectionSql
        ("MYSQL_PREPARED_STATEMENT_" ++ toString statement.statementId)
        (decoded.parameters.all fun parameter => !parameter.isBytes) state.database)
    (updateSession SessionState.failCommandForward)
  settleExecution statement decoded forwarded

def dispatchStmtExecute (tools : Tools) (opts : ProxyOptions) (message : LogicalMessage)
    (command : Command) : Handler adapter Γ Bool := do
  match ← attempt (resolveExecution tools command) with
  | .error reason => commandGap tools opts message command reason
  | .ok none => blockProtocolStateError ("Pipelined COM_STMT_EXECUTE follows a failed " ++
      "COM_STMT_PREPARE") message
  | .ok (some (statement, decoded, inspectionSql)) =>
      inspectExecution tools opts message statement decoded inspectionSql

/-! ## Long data -/

def checkLongData (command : Command) : Handler adapter Γ StmtLongData := do
  let longData ← Proc.ofExcept (parseStmtLongData command.payload)
  let state ← sessionState
  let statement ← Proc.ofExcept (state.getPreparedStatement longData.statementId)
  if statement.parameterCount ≤ longData.parameterId then
    Proc.raised (SessionState.outOfRangeParameter longData.parameterId)
  else return longData

/-- Remember which parameter has uninspected data. -/
def settleLongData (longData : StmtLongData) (forwarded : Bool) : Handler adapter Γ Bool :=
  if forwarded then do
    changeSession fun state =>
      state.markStatementLongData longData.statementId longData.parameterId
    return true
  else return false

def dispatchStmtSendLongData (tools : Tools) (opts : ProxyOptions) (message : LogicalMessage)
    (command : Command) : Handler adapter Γ Bool := do
  match ← attempt (checkLongData command) with
  | .error reason => commandGap tools opts message command reason
  | .ok longData => do
      let forwarded ← commandGap tools opts message command
        ("COM_STMT_SEND_LONG_DATA values cannot be inspected " ++
          "before prepared-statement execution")
      settleLongData longData forwarded

/-! ## Dispatch -/

/-- An execution of the statement that is being prepared may wait for it. -/
def isPipelinedExecute (command : Command) (state : SessionState) : Bool :=
  command.kind == .stmtExecute && decide (4 ≤ command.payload.length)
    && leNat (command.payload.take 4) == mariadbStmtIdLast && state.pendingStatementSql.isSome

/-- Route a command that may run now. -/
def routeCommand (tools : Tools) (opts : ProxyOptions) (message : LogicalMessage)
    (command : Command) : Handler adapter Γ Bool :=
  match command.kind with
  | .query => dispatchQuery tools opts message command
  | .initDb => dispatchInitDb tools opts message command
  | .quit => dispatchQuit message
  | .ping => dispatchPing message command
  | .stmtPrepare => dispatchStmtPrepare tools opts message command
  | .stmtClose => dispatchStmtClose tools opts message command
  | .stmtExecute => dispatchStmtExecute tools opts message command
  | .stmtSendLongData => dispatchStmtSendLongData tools opts message command
  | .stmtReset => dispatchStmtReset message command
  | .unsupported => commandGap tools opts message command
      ("Unsupported MySQL command " ++ hexCode command.commandCode)

/-- Route one authenticated logical command; true when it was forwarded. -/
def dispatchAuthenticatedCommand (tools : Tools) (opts : ProxyOptions)
    (message : LogicalMessage) : Handler adapter Γ Bool := do
  match parseLogicalCommand message with
  | .error (.protocol reason) => do
      let state ← sessionState
      handleMysqlProtocolGap tools opts reason none message state.database
  | .error error => Proc.raised error
  | .ok command => do
      let state ← sessionState
      if state.hasPendingLifecycleOperation = true ∧ command.kind ≠ .quit
          ∧ isPipelinedExecute command state = false then
        blockProtocolStateError ("A MySQL command cannot run while a prior command " ++
          "acknowledgment is pending") message
      else routeCommand tools opts message command

end SqlSafetyProxy.MySql
