import SqlSafetyProxy.Collections.Dict
import SqlSafetyProxy.MySql.Parameters
import Mathlib.Data.Finset.Sort

/-!
# The state of an authenticated session

Prepared statements, the one command that awaits its acknowledgment, and how far
its response has been read.  An operation that may raise after it has changed
the state returns the state beside its result.
-/

namespace SqlSafetyProxy.MySql

open SqlSafetyProxy.Wire SqlSafetyProxy.Runtime SqlSafetyProxy.Collections

structure PreparedStatement where
  statementId : Nat
  sql : String
  parameterCount : Nat
  columnCount : Nat
  parameterTypes : Option (List ParameterType) := none
  longDataParameters : Finset Nat := ∅
  deriving DecidableEq

/-- Packets that follow a `COM_STMT_PREPARE_OK`. -/
inductive MetadataKind where
  | parameter | column | eof
  deriving DecidableEq, Repr

inductive ResponseKind where
  | query | stmtExecute
  deriving DecidableEq, Repr

/-- How far the response to a command has been read. -/
inductive ResponseStage where
  | initial | metadata | metadataEof | rows
  deriving DecidableEq, Repr

structure SessionState where
  database : String
  maxPreparedStatements : Nat := 256
  maxStateBytes : Nat := 8 * 1024 * 1024
  pendingDatabase : Option String := none
  pendingStatementSql : Option String := none
  /-- The event of the last prepare: whether it is set. -/
  pendingPrepareEvent : Option Bool := none
  pendingPreparedStatementId : Option Nat := none
  pendingPrepareMetadataPackets : Nat := 0
  pendingPrepareMetadataKinds : List MetadataKind := []
  lastPreparedStatementId : Option Nat := none
  lastPrepareFailed : Bool := false
  pendingPing : Bool := false
  pendingStatementResetId : Option Nat := none
  pendingCommandResponse : Option ResponseKind := none
  commandResponseStage : ResponseStage := .initial
  responseColumnsRemaining : Nat := 0
  preparedStatements : Dict Nat PreparedStatement := ∅
  serverStatusFlags : Option Nat := none
  transactionActive : Bool := false
  transactionReadOnly : Bool := false
  autocommit : Bool := true
  closing : Bool := false
  deriving DecidableEq

namespace SessionState

def hasPendingLifecycleOperation (state : SessionState) : Bool :=
  state.pendingDatabase.isSome || state.pendingStatementSql.isSome || state.pendingPing
    || state.pendingStatementResetId.isSome || state.pendingCommandResponse.isSome

def requireNoPendingLifecycleOperation (state : SessionState) : Except Exn Unit :=
  if state.hasPendingLifecycleOperation then
    .error (.protocol "A MySQL command acknowledgment is already pending")
  else .ok ()

/-- Bytes of statement text in the registry. -/
def stateBytes (state : SessionState) : Nat :=
  Dict.total (fun _ statement => (encodeUtf8 statement.sql).length) state.preparedStatements

def requirePreparedCapacity (state : SessionState) (statementId : Nat) (sql : String) :
    Except Exn Unit :=
  if state.preparedStatements.lookup statementId = none
      ∧ state.maxPreparedStatements ≤ Dict.count state.preparedStatements then
    .error (.protocol "MySQL prepared-statement registry limit exceeded")
  else
    let previous := match state.preparedStatements.lookup statementId with
      | some statement => (encodeUtf8 statement.sql).length
      | none => 0
    if state.maxStateBytes < state.stateBytes - previous + (encodeUtf8 sql).length then
      .error (.protocol "MySQL per-session state size limit exceeded")
    else .ok ()

/-! ## What may be awaited -/

def awaitingDatabase (state : SessionState) (database : String) : SessionState :=
  { state with pendingDatabase := some database }

def awaitingPing (state : SessionState) : SessionState := { state with pendingPing := true }

def awaitingReset (state : SessionState) (statementId : Nat) : SessionState :=
  { state with pendingStatementResetId := some statementId }

def awaitingPrepare (state : SessionState) (sql : String) : SessionState :=
  { state with
    pendingStatementSql := some sql
    pendingPrepareEvent := some false
    pendingPreparedStatementId := none
    pendingPrepareMetadataPackets := 0
    pendingPrepareMetadataKinds := []
    lastPrepareFailed := false }

def awaitingResponse (state : SessionState) (kind : ResponseKind) : SessionState :=
  { state with
    pendingCommandResponse := some kind
    commandResponseStage := .initial
    responseColumnsRemaining := 0 }

/-! ## Database changes -/

def beginDatabaseChange (state : SessionState) (database : String) : Except Exn SessionState :=
  let normalized := strip database
  if normalized = "" then .error (.protocol "COM_INIT_DB database name cannot be empty")
  else do
    state.requireNoPendingLifecycleOperation
    return state.awaitingDatabase normalized

/-- Apply a pending `COM_INIT_DB` only after the backend's OK. -/
def completeDatabaseChange (state : SessionState) (backendPayload : Bytes) :
    Except Exn Bool × SessionState :=
  match state.pendingDatabase with
  | none => (.error (.protocol "No MySQL database change is pending"), state)
  | some database =>
      let cleared := { state with pendingDatabase := none }
      match backendPayload with
      | [] => (.error (.protocol "COM_INIT_DB backend response is empty"), cleared)
      | marker :: _ =>
          if marker = 0x00 then (.ok true, { cleared with database := database })
          else if marker = 0xFF then (.ok false, cleared)
          else (.error (.protocol "Unexpected backend response to COM_INIT_DB"), cleared)

/-! ## Prepared statements -/

def beginStatementPrepare (state : SessionState) (sql : String) : Except Exn SessionState :=
  let normalized := strip sql
  if normalized = "" then .error (.protocol "COM_STMT_PREPARE SQL cannot be empty")
  else do
    state.requireNoPendingLifecycleOperation
    return state.awaitingPrepare normalized

/-- Set the event of the prepare, if there is one. -/
def setPrepareEvent (state : SessionState) : SessionState :=
  { state with pendingPrepareEvent := state.pendingPrepareEvent.map fun _ => true }

/-- A prepare that failed takes back what it has registered. -/
def failStatementPrepare (state : SessionState) : SessionState :=
  setPrepareEvent { state with
    preparedStatements := match state.pendingPreparedStatementId with
      | some statementId => state.preparedStatements.erase statementId
      | none => state.preparedStatements
    pendingStatementSql := none
    pendingPreparedStatementId := none
    pendingPrepareMetadataPackets := 0
    pendingPrepareMetadataKinds := []
    lastPreparedStatementId := none
    lastPrepareFailed := true }

/-- The packets announced by a `COM_STMT_PREPARE_OK`. -/
def announcedMetadata (prepared : StmtPrepareOk) (deprecateEof : Bool) : List MetadataKind :=
  List.replicate prepared.parameterCount .parameter
    ++ (if prepared.parameterCount ≠ 0 ∧ deprecateEof = false then [.eof] else [])
    ++ List.replicate prepared.columnCount .column
    ++ (if prepared.columnCount ≠ 0 ∧ deprecateEof = false then [.eof] else [])

def acceptStatementPrepareOk (state : SessionState) (prepared : StmtPrepareOk)
    (deprecateEof : Bool) : Except Exn SessionState :=
  match state.pendingStatementSql with
  | none => .error (.protocol "No MySQL statement prepare is pending")
  | some sql =>
      if state.pendingPreparedStatementId.isSome then
        .error (.protocol "Duplicate COM_STMT_PREPARE_OK packet")
      else do
        state.requirePreparedCapacity prepared.statementId sql
        let kinds := announcedMetadata prepared deprecateEof
        return { state with
          preparedStatements := state.preparedStatements.insert prepared.statementId
            { statementId := prepared.statementId
              sql := sql
              parameterCount := prepared.parameterCount
              columnCount := prepared.columnCount }
          pendingPreparedStatementId := some prepared.statementId
          pendingPrepareMetadataKinds := kinds
          pendingPrepareMetadataPackets := kinds.length }

/-- A metadata packet of the expected kind. -/
def checkMetadataPacket (kind : MetadataKind) (backendPayload : Bytes) (capabilityFlags : Nat) :
    Except Exn Unit :=
  if kind = .eof then
    if backendPayload.head? ≠ some 0xFE ∨ 9 ≤ backendPayload.length then
      .error (.protocol "Expected COM_STMT_PREPARE metadata EOF packet")
    else if hasFlag capabilityFlags clientProtocol41 then do
      let _ ← parseEofPacketStatus backendPayload capabilityFlags
      return ()
    else .ok ()
  else if backendPayload.head? = some 0xFF then
    .error (.protocol "COM_STMT_PREPARE metadata ended with an error")
  else .ok ()

/-- Take one metadata packet; true when it was the last one. -/
def consumeStatementPrepareMetadata (state : SessionState) (backendPayload : Bytes)
    (capabilityFlags : Nat) : Except Exn (Bool × SessionState) :=
  if state.pendingPreparedStatementId = none then
    .error (.protocol "No COM_STMT_PREPARE metadata is pending")
  else if state.pendingPrepareMetadataPackets = 0 then
    .error (.protocol "Unexpected extra COM_STMT_PREPARE metadata packet")
  else if backendPayload = [] then
    .error (.protocol "COM_STMT_PREPARE metadata packet is empty")
  else match state.pendingPrepareMetadataKinds with
  | [] => .error (.failure "IndexError")
  | kind :: kinds => do
      checkMetadataPacket kind backendPayload capabilityFlags
      let packets := state.pendingPrepareMetadataPackets - 1
      return (packets == 0, { state with
        pendingPrepareMetadataKinds := kinds
        pendingPrepareMetadataPackets := packets })

def finishStatementPrepareResponse (state : SessionState) : Except Exn SessionState :=
  match state.pendingPreparedStatementId with
  | none => .error (.protocol "No successful COM_STMT_PREPARE response is pending")
  | some statementId =>
      if state.pendingPrepareMetadataPackets ≠ 0 then
        .error (.protocol "COM_STMT_PREPARE metadata response is incomplete")
      else .ok (setPrepareEvent { state with
        pendingStatementSql := none
        pendingPreparedStatementId := none
        pendingPrepareMetadataKinds := []
        lastPreparedStatementId := some statementId
        lastPrepareFailed := false })

def getPreparedStatement (state : SessionState) (statementId : Nat) :
    Except Exn PreparedStatement :=
  match state.preparedStatements.lookup statementId with
  | some statement => .ok statement
  | none => .error (.protocol ("Unknown MySQL prepared statement id " ++ toString statementId))

/-- `wait_for_statement_prepare` once its event is set. -/
def awaitedStatement (state : SessionState) : Except Exn (Option PreparedStatement) :=
  if state.lastPrepareFailed then .ok none
  else match state.lastPreparedStatementId with
  | none => .error (.protocol "COM_STMT_PREPARE completed without a statement id")
  | some statementId => (state.getPreparedStatement statementId).map some

def getLastPreparedStatement (state : SessionState) : Except Exn PreparedStatement :=
  match state.lastPreparedStatementId with
  | none => .error (.protocol "No reusable MariaDB prepared statement is available")
  | some statementId => state.getPreparedStatement statementId

def closePreparedStatement (state : SessionState) (statementId : Nat) : SessionState :=
  { state with
    preparedStatements := state.preparedStatements.erase statementId
    lastPreparedStatementId :=
      if state.lastPreparedStatementId = some statementId then none
      else state.lastPreparedStatementId }

def storeStatement (state : SessionState) (statementId : Nat) (statement : PreparedStatement) :
    SessionState :=
  { state with preparedStatements := state.preparedStatements.insert statementId statement }

def registerStatementParameterTypes (state : SessionState) (statementId : Nat)
    (parameterTypes : List ParameterType) : Except Exn SessionState := do
  let statement ← state.getPreparedStatement statementId
  if parameterTypes.length ≠ statement.parameterCount then
    .error (.protocol "MySQL prepared-statement parameter type count mismatch")
  else .ok (state.storeStatement statementId
    { statement with parameterTypes := some parameterTypes, longDataParameters := ∅ })

def outOfRangeParameter (parameterId : Nat) : Exn :=
  .protocol ("COM_STMT_SEND_LONG_DATA references out-of-range " ++ s!"parameter {parameterId}")

def markStatementLongData (state : SessionState) (statementId parameterId : Nat) :
    Except Exn SessionState := do
  let statement ← state.getPreparedStatement statementId
  if statement.parameterCount ≤ parameterId then .error (outOfRangeParameter parameterId)
  else .ok (state.storeStatement statementId
    { statement with longDataParameters := insert parameterId statement.longDataParameters })

def resetPreparedStatement (state : SessionState) (statementId : Nat) :
    Except Exn SessionState := do
  let statement ← state.getPreparedStatement statementId
  return state.storeStatement statementId
    { statement with parameterTypes := none, longDataParameters := ∅ }

/-! ## Ping and statement reset -/

def beginPing (state : SessionState) : Except Exn SessionState := do
  state.requireNoPendingLifecycleOperation
  return state.awaitingPing

def failPing (state : SessionState) : SessionState := { state with pendingPing := false }

def completePing (state : SessionState) (backendPayload : Bytes) :
    Except Exn Bool × SessionState :=
  if state.pendingPing = false then (.error (.protocol "No MySQL ping is pending"), state)
  else
    let cleared := { state with pendingPing := false }
    match backendPayload with
    | [] => (.error (.protocol "COM_PING backend response is empty"), cleared)
    | marker :: _ =>
        if marker = 0x00 then (.ok true, cleared)
        else if marker = 0xFF then (.ok false, cleared)
        else (.error (.protocol "Unexpected backend response to COM_PING"), cleared)

def beginStatementReset (state : SessionState) (statementId : Nat) :
    Except Exn SessionState := do
  state.requireNoPendingLifecycleOperation
  let _ ← state.getPreparedStatement statementId
  return state.awaitingReset statementId

def failStatementReset (state : SessionState) : SessionState :=
  { state with pendingStatementResetId := none }

def completeStatementReset (state : SessionState) (backendPayload : Bytes) :
    Except Exn Bool × SessionState :=
  match state.pendingStatementResetId with
  | none => (.error (.protocol "No MySQL statement reset is pending"), state)
  | some statementId =>
      let cleared := { state with pendingStatementResetId := none }
      match backendPayload with
      | [] => (.error (.protocol "COM_STMT_RESET backend response is empty"), cleared)
      | marker :: _ =>
          if marker = 0x00 then
            match cleared.resetPreparedStatement statementId with
            | .ok reset => (.ok true, reset)
            | .error error => (.error error, cleared)
          else if marker = 0xFF then (.ok false, cleared)
          else (.error (.protocol "Unexpected backend response to COM_STMT_RESET"), cleared)

/-! ## Responses -/

def updateTransactionStatus (state : SessionState) (status : Nat) : SessionState :=
  { state with
    serverStatusFlags := some status
    transactionActive := hasFlag status serverStatusInTrans
    transactionReadOnly := hasFlag status serverStatusInTransReadonly
    autocommit := hasFlag status serverStatusAutocommit }

def beginCommandResponse (state : SessionState) (kind : ResponseKind) :
    Except Exn SessionState := do
  state.requireNoPendingLifecycleOperation
  return state.awaitingResponse kind

def failCommandForward (state : SessionState) : SessionState :=
  { state with
    pendingCommandResponse := none
    commandResponseStage := .initial
    responseColumnsRemaining := 0 }

/-- A result ends the response unless it announces another one. -/
def finishOrContinueResponse (state : SessionState) (status : Nat) : SessionState :=
  if hasFlag status serverMoreResultsExists then
    { state with commandResponseStage := .initial, responseColumnsRemaining := 0 }
  else state.failCommandForward

/-- Apply the status of a packet that ends a result. -/
def endResult (state : SessionState) (status : Except Exn Nat) :
    Except Exn Unit × SessionState :=
  match status with
  | .error error => (.error error, state)
  | .ok status => (.ok (), (state.updateTransactionStatus status).finishOrContinueResponse status)

/-- The stage after the column definitions. -/
def afterMetadata (deprecateEof : Bool) : ResponseStage :=
  if deprecateEof then .rows else .metadataEof

/-- Follow the first packet of a result. -/
def acceptInitialPacket (state : SessionState) (marker : UInt8) (backendPayload : Bytes)
    (capabilityFlags : Nat) : Except Exn Unit × SessionState :=
  if marker = 0x00 then state.endResult (parseOkPacketStatus backendPayload capabilityFlags)
  else if marker = 0xFB then
    (.error (.protocol "LOCAL INFILE responses are not safely tracked"), state.failCommandForward)
  else match parseResultsetHeader backendPayload capabilityFlags with
  | .error error => (.error error, state)
  | .ok (columns, metadataFollows) =>
      if metadataFollows then
        (.ok (), { state with
          responseColumnsRemaining := columns, commandResponseStage := .metadata })
      else
        (.ok (), { state with
          responseColumnsRemaining := 0
          commandResponseStage := afterMetadata (hasFlag capabilityFlags clientDeprecateEof) })

/-- Follow a packet among the column definitions. -/
def acceptMetadataPacket (state : SessionState) (capabilityFlags : Nat) :
    Except Exn Unit × SessionState :=
  if state.responseColumnsRemaining = 0 then
    (.error (.protocol "Unexpected result-set metadata packet"), state.failCommandForward)
  else
    let remaining := state.responseColumnsRemaining - 1
    (.ok (), { state with
      responseColumnsRemaining := remaining
      commandResponseStage :=
        if remaining = 0 then afterMetadata (hasFlag capabilityFlags clientDeprecateEof)
        else state.commandResponseStage })

/-- Follow a packet among the rows. -/
def acceptRowPacket (state : SessionState) (marker : UInt8) (backendPayload : Bytes)
    (capabilityFlags : Nat) : Except Exn Unit × SessionState :=
  if hasFlag capabilityFlags clientDeprecateEof then
    if marker ≠ 0xFE then (.ok (), state)
    else state.endResult (parseOkPacketStatus backendPayload capabilityFlags)
  else if marker ≠ 0xFE ∨ 9 ≤ backendPayload.length then (.ok (), state)
  else state.endResult (parseEofPacketStatus backendPayload capabilityFlags)

/-- Follow the EOF after the column definitions. -/
def acceptMetadataEof (state : SessionState) (backendPayload : Bytes) (capabilityFlags : Nat) :
    Except Exn Unit × SessionState :=
  match parseEofPacketStatus backendPayload capabilityFlags with
  | .error error => (.error error, state)
  | .ok status =>
      (.ok (), { state.updateTransactionStatus status with commandResponseStage := .rows })

/-- Follow a packet that is not an error at the given stage. -/
def acceptAtStage (state : SessionState) (stage : ResponseStage) (marker : UInt8)
    (backendPayload : Bytes) (capabilityFlags : Nat) : Except Exn Unit × SessionState :=
  match stage with
  | .initial => state.acceptInitialPacket marker backendPayload capabilityFlags
  | .metadata => state.acceptMetadataPacket capabilityFlags
  | .metadataEof => state.acceptMetadataEof backendPayload capabilityFlags
  | .rows => state.acceptRowPacket marker backendPayload capabilityFlags

/-- Follow one packet of the response to a query or an execution. -/
def acceptCommandResponsePacket (state : SessionState) (backendPayload : Bytes)
    (capabilityFlags : Nat) : Except Exn Unit × SessionState :=
  if state.pendingCommandResponse = none then
    (.error (.protocol "Backend command response has no pending client command"), state)
  else match backendPayload with
  | [] => (.error (.protocol "Backend command response packet is empty"), state.failCommandForward)
  | marker :: _ =>
      if marker = 0xFF then (.ok (), state.failCommandForward)
      else state.acceptAtStage state.commandResponseStage marker backendPayload capabilityFlags

def markClosing (state : SessionState) : SessionState := { state with closing := true }

end SessionState

/-! ## Beginning an operation -/

theorem hasPending_eq_false {state : SessionState} :
    state.hasPendingLifecycleOperation = false ↔
      state.pendingDatabase = none ∧ state.pendingStatementSql = none ∧
        state.pendingPing = false ∧ state.pendingStatementResetId = none ∧
        state.pendingCommandResponse = none := by
  simp [SessionState.hasPendingLifecycleOperation, and_assoc]

/-- An operation begins only when nothing is awaited. -/
theorem requires_free {state : SessionState} {α : Type} {rest : Unit → Except Exn α} {value : α}
    (done : (state.requireNoPendingLifecycleOperation >>= rest) = .ok value) :
    state.hasPendingLifecycleOperation = false ∧ rest () = .ok value := by
  unfold SessionState.requireNoPendingLifecycleOperation at done
  cases pending : state.hasPendingLifecycleOperation with
  | true =>
      simp only [pending, if_true] at done
      cases done
  | false =>
      simp only [pending, Bool.false_eq_true, if_false] at done
      exact ⟨rfl, done⟩

section Begins

variable {state begun : SessionState}

theorem beginCommandResponse_ok {kind : ResponseKind}
    (done : state.beginCommandResponse kind = .ok begun) :
    state.hasPendingLifecycleOperation = false ∧
      begun = state.awaitingResponse kind := by
  obtain ⟨free, same⟩ := requires_free done
  exact ⟨free, (Except.ok.inj same).symm⟩

theorem beginPing_ok (done : state.beginPing = .ok begun) :
    state.hasPendingLifecycleOperation = false ∧ begun = state.awaitingPing := by
  obtain ⟨free, same⟩ := requires_free done
  exact ⟨free, (Except.ok.inj same).symm⟩

theorem beginStatementReset_ok {statementId : Nat}
    (done : state.beginStatementReset statementId = .ok begun) :
    state.hasPendingLifecycleOperation = false ∧
      (∃ statement, state.preparedStatements.lookup statementId = some statement) ∧
      begun = state.awaitingReset statementId := by
  obtain ⟨free, same⟩ := requires_free done
  unfold SessionState.getPreparedStatement at same
  cases known : state.preparedStatements.lookup statementId with
  | none =>
      rw [known] at same
      cases same
  | some statement =>
      rw [known] at same
      exact ⟨free, ⟨statement, rfl⟩, (Except.ok.inj same).symm⟩

theorem beginDatabaseChange_ok {database : String}
    (done : state.beginDatabaseChange database = .ok begun) :
    state.hasPendingLifecycleOperation = false ∧
      begun = state.awaitingDatabase (strip database) := by
  unfold SessionState.beginDatabaseChange at done
  simp only at done
  split at done
  · cases done
  · obtain ⟨free, same⟩ := requires_free done
    exact ⟨free, (Except.ok.inj same).symm⟩

theorem beginStatementPrepare_ok {sql : String}
    (done : state.beginStatementPrepare sql = .ok begun) :
    state.hasPendingLifecycleOperation = false ∧
      begun = state.awaitingPrepare (strip sql) := by
  unfold SessionState.beginStatementPrepare at done
  simp only at done
  split at done
  · cases done
  · obtain ⟨free, same⟩ := requires_free done
    exact ⟨free, (Except.ok.inj same).symm⟩

end Begins

/-! ## Looking statements up -/

theorem getPreparedStatement_ok {state : SessionState} {statementId : Nat}
    {statement : PreparedStatement}
    (found : state.getPreparedStatement statementId = .ok statement) :
    state.preparedStatements.lookup statementId = some statement := by
  unfold SessionState.getPreparedStatement at found
  split at found
  · next known => exact known.trans (congrArg some (Except.ok.inj found))
  · cases found

end SqlSafetyProxy.MySql
