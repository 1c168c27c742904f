import SqlSafetyProxy.Collections.Dict
import SqlSafetyProxy.Postgres.Protocol

/-!
# Connection state

The proxy's own record of a PostgreSQL session: the transaction status last
reported by the backend, the recovery flag of the extended protocol, and the
registries of prepared statements and portals with their size limits.
-/

namespace SqlSafetyProxy.Postgres

open SqlSafetyProxy.Wire SqlSafetyProxy.Runtime SqlSafetyProxy.Collections

structure ConnectionState where
  database : String := "postgres"
  transactionStatus : TransactionStatus := .idle
  extendedErrorPending : Bool := false
  preparedStatements : Dict String String := ∅
  portals : Dict String BindMessage := ∅
  maxItems : Nat := 256
  maxStateBytes : Nat := 8 * 1024 * 1024

/-- `len(text.encode("utf-8"))`. -/
def encodedLength (text : String) : Nat := text.utf8ByteSize

def portalBytes (name : String) (bind : BindMessage) : Nat :=
  encodedLength name + encodedLength bind.statementName
    + (bind.paramValues.map fun value => (value.getD []).length).sum

namespace ConnectionState

def stateBytes (state : ConnectionState) : Nat :=
  Dict.total (fun name query => encodedLength name + encodedLength query)
      state.preparedStatements
    + Dict.total portalBytes state.portals

/-- Record the text of a statement; redefining the unnamed one drops its portals. -/
def registerStatement (state : ConnectionState) (name query : String) :
    Except Exn ConnectionState :=
  let previous := state.preparedStatements.lookup name
  if previous = none ∧ state.maxItems ≤ Dict.count state.preparedStatements then
    .error (.protocol "PostgreSQL prepared-statement registry limit exceeded")
  else
    let released := (previous.map fun text => encodedLength name + encodedLength text).getD 0
    let projected := state.stateBytes - released + (encodedLength name + encodedLength query)
    if state.maxStateBytes < projected then
      .error (.protocol "PostgreSQL per-session state size limit exceeded")
    else
      let portals :=
        if name = "" then Dict.filter (fun _ bind => bind.statementName != "") state.portals
        else state.portals
      .ok { state with
        portals := portals
        preparedStatements := state.preparedStatements.insert name query }

def registerPortal (state : ConnectionState) (bind : BindMessage) :
    Except Exn ConnectionState :=
  let previous := state.portals.lookup bind.portalName
  if previous = none ∧ state.maxItems ≤ Dict.count state.portals then
    .error (.protocol "PostgreSQL portal registry limit exceeded")
  else
    let released := (previous.map (portalBytes bind.portalName)).getD 0
    let projected := state.stateBytes - released + portalBytes bind.portalName bind
    if state.maxStateBytes < projected then
      .error (.protocol "PostgreSQL per-session state size limit exceeded")
    else .ok { state with portals := state.portals.insert bind.portalName bind }

/-- Forget a statement and the portals bound to it. -/
def closeStatement (state : ConnectionState) (name : String) : ConnectionState :=
  { state with
    preparedStatements := state.preparedStatements.erase name
    portals := Dict.filter (fun _ bind => bind.statementName != name) state.portals }

def closePortal (state : ConnectionState) (name : String) : ConnectionState :=
  { state with portals := state.portals.erase name }

def close (state : ConnectionState) (message : CloseMessage) : ConnectionState :=
  match message.targetType with
  | .statement => state.closeStatement message.name
  | .portal => state.closePortal message.name

/-- Outside a transaction block no portal survives. -/
def updateTransactionStatus (state : ConnectionState) (status : TransactionStatus) :
    ConnectionState :=
  { state with
    transactionStatus := status
    portals := if status = .idle then ∅ else state.portals }

/-! ## What the operations change -/

theorem registerStatement_ok {state state' : ConnectionState} {name query : String}
    (registered : state.registerStatement name query = .ok state') :
    state' = { state with
      portals := if name = "" then
          Dict.filter (fun _ bind => bind.statementName != "") state.portals
        else state.portals
      preparedStatements := state.preparedStatements.insert name query } := by
  simp only [registerStatement] at registered
  split at registered
  · cases registered
  split at registered
  · cases registered
  cases registered
  rfl

theorem registerPortal_ok {state state' : ConnectionState} {bind : BindMessage}
    (registered : state.registerPortal bind = .ok state') :
    state' = { state with portals := state.portals.insert bind.portalName bind } := by
  simp only [registerPortal] at registered
  split at registered
  · cases registered
  split at registered
  · cases registered
  cases registered
  rfl

theorem raisesProtocol_registerStatement (state : ConnectionState) (name query : String) :
    RaisesProtocol (state.registerStatement name query) :=
  .ite (.protocol _) (.ite (.protocol _) (.ok _))

theorem raisesProtocol_registerPortal (state : ConnectionState) (bind : BindMessage) :
    RaisesProtocol (state.registerPortal bind) :=
  .ite (.protocol _) (.ite (.protocol _) (.ok _))

end ConnectionState

end SqlSafetyProxy.Postgres
