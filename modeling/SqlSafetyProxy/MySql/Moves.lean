import SqlSafetyProxy.MySql.Backend
import Mathlib.Logic.Relation

/-!
# What backend packets do to a session

The backend task changes the session only by tracking a packet and, once the
packet has been relayed, by ending a prepare.  The representation invariant of
the session survives each of these moves, and while no statement is prepared or
reset the registry does not change.
-/

namespace SqlSafetyProxy.MySql

open SqlSafetyProxy.Runtime SqlSafetyProxy.Wire SqlSafetyProxy.Collections

/-- One change of the session by the backend task. -/
inductive BackendMove : SessionState → SessionState → Prop where
  | tracks (state : SessionState) (flags : Nat) (payload : Bytes) :
      BackendMove state (trackResponse flags payload state).2
  | finishes {state state' : SessionState} :
      state.finishStatementPrepareResponse = .ok state' → BackendMove state state'
  | fails {state : SessionState} : state.pendingStatementSql.isSome →
      BackendMove state state.failStatementPrepare

/-! ## Parts of the session that a response leaves alone -/

/-- The session without how far a response has been read and the status it reported. -/
def SessionState.aside (state : SessionState) : SessionState :=
  { state with
    pendingCommandResponse := none
    commandResponseStage := .initial
    responseColumnsRemaining := 0
    serverStatusFlags := none
    transactionActive := false
    transactionReadOnly := false
    autocommit := true }

section Aside

variable {state state' : SessionState} {flags : Nat} {payload : Bytes}

theorem aside_endResult (status : Except Exn Nat) :
    (state.endResult status).2.aside = state.aside := by
  cases status with
  | error error => rfl
  | ok status =>
      simp only [SessionState.endResult, SessionState.finishOrContinueResponse]
      split <;> rfl

theorem aside_acceptAtStage (stage : ResponseStage) (marker : UInt8) :
    (state.acceptAtStage stage marker payload flags).2.aside = state.aside := by
  cases stage with
  | initial =>
      simp only [SessionState.acceptAtStage, SessionState.acceptInitialPacket]
      split
      · exact aside_endResult _
      · split
        · rfl
        · split
          · rfl
          · split <;> rfl
  | metadata =>
      simp only [SessionState.acceptAtStage, SessionState.acceptMetadataPacket]
      split <;> rfl
  | metadataEof =>
      simp only [SessionState.acceptAtStage, SessionState.acceptMetadataEof]
      split <;> rfl
  | rows =>
      simp only [SessionState.acceptAtStage, SessionState.acceptRowPacket]
      split
      · split
        · rfl
        · exact aside_endResult _
      · split
        · rfl
        · exact aside_endResult _

theorem aside_acceptCommandResponsePacket :
    (state.acceptCommandResponsePacket payload flags).2.aside = state.aside := by
  unfold SessionState.acceptCommandResponsePacket
  split
  · rfl
  · split
    · rfl
    · split
      · rfl
      · exact aside_acceptAtStage _ _

theorem aside_updateTransactionStatusFromOk
    (updated : updateTransactionStatusFromOk flags payload state = .ok state') :
    state'.aside = state.aside := by
  unfold updateTransactionStatusFromOk at updated
  split at updated
  · cases updated
    rfl
  · cases parsed : parseOkPacketStatus payload flags with
    | error error =>
        rw [parsed] at updated
        cases updated
    | ok status =>
        rw [parsed] at updated
        cases updated
        rfl

theorem aside_acknowledge {completed : Except Exn Bool × SessionState} :
    (acknowledge flags payload completed).2.aside = completed.2.aside := by
  obtain ⟨result, state⟩ := completed
  cases result with
  | error error => rfl
  | ok answer =>
      simp only [acknowledge]
      split
      · cases updated : updateTransactionStatusFromOk flags payload state with
        | error error => rfl
        | ok state' => exact aside_updateTransactionStatusFromOk updated
      · rfl

end Aside

/-! ## The representation invariant -/

/-- How many operations await a response. -/
def SessionState.awaitedOperations (state : SessionState) : Nat :=
  state.pendingDatabase.isSome.toNat + state.pendingStatementSql.isSome.toNat
    + state.pendingPing.toNat + state.pendingStatementResetId.isSome.toNat
    + state.pendingCommandResponse.isSome.toNat

/-- A statement as it is kept under an id. -/
structure PreparedStatement.WellFormed (statement : PreparedStatement) (statementId : Nat) :
    Prop where
  id : statement.statementId = statementId
  types : ∀ types, statement.parameterTypes = some types → types.length = statement.parameterCount
  longData : ∀ parameterId ∈ statement.longDataParameters, parameterId < statement.parameterCount

/-- What is always true of the registry. -/
structure Registry (state : SessionState) : Prop where
  statements : ∀ statementId statement,
    state.preparedStatements.lookup statementId = some statement → statement.WellFormed statementId
  entries : Dict.count state.preparedStatements ≤ state.maxPreparedStatements
  bytes : state.stateBytes ≤ state.maxStateBytes

def SessionState.Knows (state : SessionState) (statementId : Nat) : Prop :=
  ∃ statement, state.preparedStatements.lookup statementId = some statement

/-- The representation invariant of a session. -/
structure Consistent (state : SessionState) : Prop where
  awaited : state.awaitedOperations ≤ 1
  event : state.pendingStatementSql.isSome → state.pendingPrepareEvent = some false
  preparing : ∀ statementId, state.pendingPreparedStatementId = some statementId →
    state.pendingStatementSql.isSome ∧ state.Knows statementId
  metadata : state.pendingPrepareMetadataPackets = state.pendingPrepareMetadataKinds.length
  idle : state.pendingCommandResponse = none →
    state.commandResponseStage = .initial ∧ state.responseColumnsRemaining = 0
  columns : state.commandResponseStage = .metadata → 0 < state.responseColumnsRemaining
  last : ∀ statementId, state.lastPreparedStatementId = some statementId →
    state.Knows statementId
  registry : Registry state

theorem consistent_initial (database : String) (maxPreparedStatements maxStateBytes : Nat) :
    Consistent { database, maxPreparedStatements, maxStateBytes } where
  awaited := Nat.zero_le 1
  event := by rintro ⟨⟩
  preparing := by rintro _ ⟨⟩
  metadata := rfl
  idle _ := ⟨rfl, rfl⟩
  columns := by rintro ⟨⟩
  last := by rintro _ ⟨⟩
  registry :=
    { statements := by rintro _ _ ⟨⟩
      entries := Nat.zero_le _
      bytes := Nat.zero_le _ }

section Registry

variable {state state' : SessionState} {statementId : Nat} {statement : PreparedStatement}

/-- The registry does not change. -/
theorem Registry.of_eq (registry : Registry state)
    (same : state'.preparedStatements = state.preparedStatements)
    (entries : state'.maxPreparedStatements = state.maxPreparedStatements)
    (bytes : state'.maxStateBytes = state.maxStateBytes) : Registry state' where
  statements := by
    rw [same]
    exact registry.statements
  entries := by
    rw [same, entries]
    exact registry.entries
  bytes := by
    rw [SessionState.stateBytes, same, bytes]
    exact registry.bytes

theorem Registry.erase (registry : Registry state)
    (same : state'.preparedStatements = state.preparedStatements.erase statementId)
    (entries : state'.maxPreparedStatements = state.maxPreparedStatements)
    (bytes : state'.maxStateBytes = state.maxStateBytes) : Registry state' where
  statements other statement known := by
    rw [same] at known
    exact registry.statements other statement (Dict.lookup_erase_eq_some.mp known).1
  entries := by
    rw [same, entries, Dict.count_eq_total]
    have before := registry.entries
    rw [Dict.count_eq_total] at before
    exact (Dict.total_erase_le _ _ _).trans before
  bytes := by
    rw [SessionState.stateBytes, same, bytes]
    exact (Dict.total_erase_le _ _ _).trans registry.bytes

theorem capacity_new {sql : String} (absent : state.preparedStatements.lookup statementId = none)
    (hasRoom : state.requirePreparedCapacity statementId sql = .ok ()) :
    Dict.count state.preparedStatements < state.maxPreparedStatements ∧
      state.stateBytes + (encodeUtf8 sql).length ≤ state.maxStateBytes := by
  simp only [SessionState.requirePreparedCapacity, absent, true_and, Nat.sub_zero] at hasRoom
  split at hasRoom
  · cases hasRoom
  · split at hasRoom
    · cases hasRoom
    · constructor <;> omega

theorem capacity_replaced {sql : String} {old : PreparedStatement}
    (known : state.preparedStatements.lookup statementId = some old) :
    state.requirePreparedCapacity statementId sql = .ok () ↔
      state.stateBytes - (encodeUtf8 old.sql).length + (encodeUtf8 sql).length ≤
        state.maxStateBytes := by
  simp only [SessionState.requirePreparedCapacity, known, reduceCtorEq, false_and, if_false]
  split
  · next full =>
    constructor
    · rintro ⟨⟩
    · omega
  · next small =>
    constructor
    · intro _
      omega
    · intro _
      rfl

theorem Registry.insert (registry : Registry state) (sound : statement.WellFormed statementId)
    (same : state'.preparedStatements = state.preparedStatements.insert statementId statement)
    (entries : state'.maxPreparedStatements = state.maxPreparedStatements)
    (bytes : state'.maxStateBytes = state.maxStateBytes)
    (hasRoom : state.requirePreparedCapacity statementId statement.sql = .ok ()) :
    Registry state' := by
  have counted := registry.entries
  rw [Dict.count_eq_total] at counted
  refine ⟨?_, ?_, ?_⟩
  · intro other found known
    rw [same] at known
    rcases Dict.lookup_insert_eq_some.mp known with ⟨rfl, rfl⟩ | ⟨-, old⟩
    · exact sound
    · exact registry.statements other found old
  · rw [same, entries, Dict.count_eq_total, Dict.total_insert]
    cases known : state.preparedStatements.lookup statementId with
    | none =>
        have room := (capacity_new known hasRoom).1
        rw [Dict.count_eq_total] at room
        rw [Dict.erase_eq_self known]
        omega
    | some old =>
        have split := Dict.total_erase (fun _ _ => 1) known
        omega
  · rw [SessionState.stateBytes, same, bytes, Dict.total_insert]
    cases known : state.preparedStatements.lookup statementId with
    | none =>
        have room := (capacity_new known hasRoom).2
        rw [SessionState.stateBytes] at room
        rw [Dict.erase_eq_self known]
        omega
    | some old =>
        have room := (capacity_replaced known).mp hasRoom
        rw [SessionState.stateBytes] at room
        have split := Dict.total_erase (fun _ item => (encodeUtf8 item.sql).length) known
        omega

/-- A known statement may be replaced by one with the same text. -/
theorem Registry.store (registry : Registry state) {old : PreparedStatement}
    (known : state.preparedStatements.lookup statementId = some old) (text : statement.sql = old.sql)
    (sound : statement.WellFormed statementId) :
    Registry (state.storeStatement statementId statement) := by
  refine registry.insert sound rfl rfl rfl ((capacity_replaced known).mpr ?_)
  have split := Dict.total_erase (fun _ item => (encodeUtf8 item.sql).length) known
  have before := registry.bytes
  rw [SessionState.stateBytes] at before ⊢
  rw [text]
  omega

theorem knows_store {other : Nat} (known : state.Knows other) :
    (state.storeStatement statementId statement).Knows other := by
  obtain ⟨found, known⟩ := known
  by_cases same : other = statementId
  · exact ⟨statement, Dict.lookup_insert_eq_some.mpr (.inl ⟨same, rfl⟩)⟩
  · exact ⟨found, Dict.lookup_insert_eq_some.mpr (.inr ⟨same, known⟩)⟩

end Registry

/-! ## Operations of the client task -/

namespace Consistent

variable {state state' : SessionState} {flags : Nat} {payload : Bytes}

/-- While nothing is awaited no statement is half prepared. -/
theorem free_prepared (consistent : Consistent state)
    (free : state.hasPendingLifecycleOperation = false) :
    state.pendingPreparedStatementId = none := by
  cases prepared : state.pendingPreparedStatementId with
  | none => rfl
  | some statementId =>
      have pending := (consistent.preparing statementId prepared).1
      rw [(hasPending_eq_false.mp free).2.1] at pending
      cases pending

theorem awaitingDatabase (consistent : Consistent state)
    (free : state.hasPendingLifecycleOperation = false) (database : String) :
    Consistent (state.awaitingDatabase database) := by
  obtain ⟨database, sql, ping, reset, response⟩ := hasPending_eq_false.mp free
  exact { consistent with
    awaited := by
      simp [SessionState.awaitedOperations, SessionState.awaitingDatabase, sql, ping, reset,
        response]
    registry := consistent.registry.of_eq rfl rfl rfl }

theorem awaitingPing (consistent : Consistent state)
    (free : state.hasPendingLifecycleOperation = false) : Consistent state.awaitingPing := by
  obtain ⟨database, sql, ping, reset, response⟩ := hasPending_eq_false.mp free
  exact { consistent with
    awaited := by
      simp [SessionState.awaitedOperations, SessionState.awaitingPing, database, sql, reset,
        response]
    registry := consistent.registry.of_eq rfl rfl rfl }

theorem awaitingReset (consistent : Consistent state)
    (free : state.hasPendingLifecycleOperation = false) (statementId : Nat) :
    Consistent (state.awaitingReset statementId) := by
  obtain ⟨database, sql, ping, reset, response⟩ := hasPending_eq_false.mp free
  exact { consistent with
    awaited := by
      simp [SessionState.awaitedOperations, SessionState.awaitingReset, database, sql, ping,
        response]
    registry := consistent.registry.of_eq rfl rfl rfl }

theorem awaitingPrepare (consistent : Consistent state)
    (free : state.hasPendingLifecycleOperation = false) (text : String) :
    Consistent (state.awaitingPrepare text) := by
  obtain ⟨database, sql, ping, reset, response⟩ := hasPending_eq_false.mp free
  exact { consistent with
    awaited := by
      simp [SessionState.awaitedOperations, SessionState.awaitingPrepare, database, ping, reset,
        response]
    event := fun _ => rfl
    preparing := by rintro _ ⟨⟩
    metadata := rfl
    registry := consistent.registry.of_eq rfl rfl rfl }

theorem awaitingResponse (consistent : Consistent state)
    (free : state.hasPendingLifecycleOperation = false) (kind : ResponseKind) :
    Consistent (state.awaitingResponse kind) := by
  obtain ⟨database, sql, ping, reset, response⟩ := hasPending_eq_false.mp free
  exact { consistent with
    awaited := by
      simp [SessionState.awaitedOperations, SessionState.awaitingResponse, database, sql, ping,
        reset]
    idle := by rintro ⟨⟩
    columns := by rintro ⟨⟩
    registry := consistent.registry.of_eq rfl rfl rfl }

theorem closePreparedStatement (consistent : Consistent state)
    (free : state.hasPendingLifecycleOperation = false) (statementId : Nat) :
    Consistent (state.closePreparedStatement statementId) :=
  { consistent with
    preparing := by
      intro other prepared
      rw [show (state.closePreparedStatement statementId).pendingPreparedStatementId = _ from
        consistent.free_prepared free] at prepared
      cases prepared
    last := by
      intro other isLast
      simp only [SessionState.closePreparedStatement] at isLast
      split at isLast
      · cases isLast
      · next different =>
        obtain ⟨statement, known⟩ := consistent.last other isLast
        refine ⟨statement, Dict.lookup_erase_eq_some.mpr ⟨known, ?_⟩⟩
        rintro rfl
        exact different isLast
    registry := consistent.registry.erase rfl rfl rfl }

theorem markClosing (consistent : Consistent state) : Consistent state.markClosing :=
  { consistent with registry := consistent.registry.of_eq rfl rfl rfl }

theorem failPing (consistent : Consistent state) : Consistent state.failPing :=
  { consistent with
    awaited := by
      have awaited := consistent.awaited
      simp only [SessionState.awaitedOperations, SessionState.failPing, Bool.toNat_false]
        at awaited ⊢
      omega
    registry := consistent.registry.of_eq rfl rfl rfl }

theorem failStatementReset (consistent : Consistent state) :
    Consistent state.failStatementReset :=
  { consistent with
    awaited := by
      have awaited := consistent.awaited
      simp only [SessionState.awaitedOperations, SessionState.failStatementReset,
        Option.isSome_none, Bool.toNat_false] at awaited ⊢
      omega
    registry := consistent.registry.of_eq rfl rfl rfl }

theorem failCommandForward (consistent : Consistent state) :
    Consistent state.failCommandForward :=
  { consistent with
    awaited := by
      have awaited := consistent.awaited
      simp only [SessionState.awaitedOperations, SessionState.failCommandForward,
        Option.isSome_none, Bool.toNat_false] at awaited ⊢
      omega
    idle := fun _ => ⟨rfl, rfl⟩
    columns := by rintro ⟨⟩
    registry := consistent.registry.of_eq rfl rfl rfl }

/-- A known statement is replaced by a sound one with the same text. -/
theorem store (consistent : Consistent state) {statementId : Nat}
    {old statement : PreparedStatement}
    (known : state.preparedStatements.lookup statementId = some old)
    (text : statement.sql = old.sql) (sound : statement.WellFormed statementId) :
    Consistent (state.storeStatement statementId statement) :=
  { consistent with
    preparing := fun other prepared =>
      have half := consistent.preparing other prepared
      ⟨half.1, knows_store half.2⟩
    last := fun other isLast => knows_store (consistent.last other isLast)
    registry := consistent.registry.store known text sound }

theorem registerStatementParameterTypes (consistent : Consistent state) {statementId : Nat}
    {types : List ParameterType}
    (done : state.registerStatementParameterTypes statementId types = .ok state') :
    Consistent state' := by
  obtain ⟨statement, found, rest⟩ := bind_ok done
  have known := getPreparedStatement_ok found
  have sound := consistent.registry.statements _ _ known
  split at rest
  · cases rest
  · next count =>
    cases rest
    refine consistent.store known rfl ⟨sound.id, ?_, by simp⟩
    rintro _ ⟨⟩
    exact not_not.mp count

theorem markStatementLongData (consistent : Consistent state) {statementId parameterId : Nat}
    (done : state.markStatementLongData statementId parameterId = .ok state') :
    Consistent state' := by
  obtain ⟨statement, found, rest⟩ := bind_ok done
  have known := getPreparedStatement_ok found
  have sound := consistent.registry.statements _ _ known
  split at rest
  · cases rest
  · next inside =>
    cases rest
    refine consistent.store known rfl ⟨sound.id, sound.types, ?_⟩
    intro other marked
    rcases Finset.mem_insert.mp marked with rfl | old
    · exact Nat.lt_of_not_le inside
    · exact sound.longData other old

/-! ## Operations of the backend task -/

theorem resetPreparedStatement (consistent : Consistent state) {statementId : Nat}
    (done : state.resetPreparedStatement statementId = .ok state') : Consistent state' := by
  obtain ⟨statement, found, rest⟩ := bind_ok done
  have known := getPreparedStatement_ok found
  have sound := consistent.registry.statements _ _ known
  cases rest
  exact consistent.store known rfl ⟨sound.id, by simp, by simp⟩

theorem completePing (consistent : Consistent state) :
    Consistent (state.completePing payload).2 := by
  unfold SessionState.completePing
  split
  · exact consistent
  · have cleared := consistent.failPing
    dsimp only
    split
    · exact cleared
    · split
      · exact cleared
      · split <;> exact cleared

theorem completeStatementReset (consistent : Consistent state) :
    Consistent (state.completeStatementReset payload).2 := by
  unfold SessionState.completeStatementReset
  split
  · exact consistent
  · have cleared := consistent.failStatementReset
    dsimp only
    split
    · exact cleared
    · split
      · split
        · next reset done => exact cleared.resetPreparedStatement done
        · exact cleared
      · split <;> exact cleared

theorem completeDatabaseChange (consistent : Consistent state) :
    Consistent (state.completeDatabaseChange payload).2 := by
  unfold SessionState.completeDatabaseChange
  have cleared : Consistent { state with pendingDatabase := none } :=
    { consistent with
      awaited := by
        have awaited := consistent.awaited
        simp only [SessionState.awaitedOperations, Option.isSome_none, Bool.toNat_false]
          at awaited ⊢
        omega
      registry := consistent.registry.of_eq rfl rfl rfl }
  split
  · exact consistent
  · dsimp only
    split
    · exact cleared
    · split
      · exact { cleared with registry := cleared.registry.of_eq rfl rfl rfl }
      · split <;> exact cleared

theorem updateTransactionStatus (consistent : Consistent state) (status : Nat) :
    Consistent (state.updateTransactionStatus status) :=
  { consistent with registry := consistent.registry.of_eq rfl rfl rfl }

theorem updateTransactionStatusFromOk (consistent : Consistent state)
    (updated : MySql.updateTransactionStatusFromOk flags payload state = .ok state') :
    Consistent state' := by
  unfold MySql.updateTransactionStatusFromOk at updated
  split at updated
  · cases updated
    exact consistent
  · cases parsed : parseOkPacketStatus payload flags with
    | error error =>
        rw [parsed] at updated
        cases updated
    | ok status =>
        rw [parsed] at updated
        cases updated
        exact consistent.updateTransactionStatus status

theorem acknowledge {completed : Except Exn Bool × SessionState}
    (consistent : Consistent completed.2) :
    Consistent (MySql.acknowledge flags payload completed).2 := by
  obtain ⟨result, state⟩ := completed
  cases result with
  | error error => exact consistent
  | ok answer =>
      simp only [MySql.acknowledge]
      split
      · split
        · exact consistent
        · next updated done => exact consistent.updateTransactionStatusFromOk done
      · exact consistent

theorem failStatementPrepare (consistent : Consistent state) :
    Consistent state.failStatementPrepare :=
  { consistent with
    awaited := by
      have awaited := consistent.awaited
      simp only [SessionState.awaitedOperations, SessionState.failStatementPrepare,
        SessionState.setPrepareEvent, Option.isSome_none, Bool.toNat_false] at awaited ⊢
      omega
    event := by rintro ⟨⟩
    preparing := by rintro _ ⟨⟩
    metadata := rfl
    last := by rintro _ ⟨⟩
    registry := by
      cases half : state.pendingPreparedStatementId with
      | none =>
          refine consistent.registry.of_eq ?_ rfl rfl
          simp [SessionState.failStatementPrepare, SessionState.setPrepareEvent, half]
      | some statementId =>
          have erased : state.failStatementPrepare.preparedStatements =
              state.preparedStatements.erase statementId := by
            simp [SessionState.failStatementPrepare, SessionState.setPrepareEvent, half]
          exact consistent.registry.erase erased rfl rfl }

theorem finishStatementPrepareResponse (consistent : Consistent state)
    (done : state.finishStatementPrepareResponse = .ok state') : Consistent state' := by
  unfold SessionState.finishStatementPrepareResponse at done
  split at done
  · cases done
  · next statementId prepared =>
    split at done
    · cases done
    · next complete =>
      cases done
      exact { consistent with
        awaited := by
          have awaited := consistent.awaited
          simp only [SessionState.awaitedOperations, SessionState.setPrepareEvent,
            Option.isSome_none, Bool.toNat_false] at awaited ⊢
          omega
        event := by rintro ⟨⟩
        preparing := by rintro _ ⟨⟩
        metadata := not_not.mp complete
        last := by
          rintro _ ⟨⟩
          exact (consistent.preparing statementId prepared).2
        registry := consistent.registry.of_eq rfl rfl rfl }

theorem acceptStatementPrepareOk (consistent : Consistent state) {prepared : StmtPrepareOk}
    {deprecateEof : Bool}
    (done : state.acceptStatementPrepareOk prepared deprecateEof = .ok state') :
    Consistent state' := by
  unfold SessionState.acceptStatementPrepareOk at done
  split at done
  · cases done
  · next sql preparing =>
    split at done
    · cases done
    · obtain ⟨⟨⟩, hasRoom, rest⟩ := bind_ok done
      cases rest
      exact { consistent with
        preparing := by
          rintro _ ⟨⟩
          exact ⟨by simp [preparing], _, AList.lookup_insert _⟩
        metadata := rfl
        last := fun other isLast => knows_store (consistent.last other isLast)
        registry := by
          refine consistent.registry.insert ?_ rfl rfl rfl hasRoom
          exact ⟨rfl, by rintro _ ⟨⟩, by simp⟩ }

theorem consumeStatementPrepareMetadata (consistent : Consistent state) {last : Bool}
    (done : state.consumeStatementPrepareMetadata payload flags = .ok (last, state')) :
    Consistent state' := by
  unfold SessionState.consumeStatementPrepareMetadata at done
  split at done
  · cases done
  · split at done
    · cases done
    · split at done
      · cases done
      · split at done
        · cases done
        · next kind kinds expected =>
          obtain ⟨-, -, rest⟩ := bind_ok done
          cases rest
          exact { consistent with
            metadata := by
              have metadata := consistent.metadata
              rw [expected] at metadata
              simp [metadata]
            registry := consistent.registry.of_eq rfl rfl rfl }

/-- The response has been read on to another stage. -/
theorem reads (consistent : Consistent state) {stage : ResponseStage} {columns : Nat}
    (awaited : state.pendingCommandResponse ≠ none)
    (positive : stage = .metadata → 0 < columns) :
    Consistent { state with
      commandResponseStage := stage
      responseColumnsRemaining := columns } :=
  { consistent with
    idle := fun none => absurd none awaited
    columns := positive
    registry := consistent.registry.of_eq rfl rfl rfl }

theorem endResult (consistent : Consistent state) (awaited : state.pendingCommandResponse ≠ none)
    (status : Except Exn Nat) : Consistent (state.endResult status).2 := by
  cases status with
  | error error => exact consistent
  | ok status =>
      have updated := consistent.updateTransactionStatus status
      simp only [SessionState.endResult, SessionState.finishOrContinueResponse]
      split
      · exact updated.reads awaited (by rintro ⟨⟩)
      · exact updated.failCommandForward

theorem afterMetadata_ne {deprecateEof : Bool} :
    SessionState.afterMetadata deprecateEof ≠ .metadata := by
  cases deprecateEof <;> decide

theorem parseResultsetHeader_columns {columns : Nat} {follows : Bool}
    (parsed : parseResultsetHeader payload flags = .ok (columns, follows)) : 0 < columns := by
  obtain ⟨count, -, rest⟩ := bind_ok parsed
  split at rest
  · cases rest
  · next positive =>
    obtain ⟨indicator, -, rest⟩ := bind_ok rest
    split at rest
    · cases rest
    · cases rest
      omega

theorem acceptAtStage (consistent : Consistent state)
    (awaited : state.pendingCommandResponse ≠ none) (marker : UInt8) :
    Consistent (state.acceptAtStage state.commandResponseStage marker payload flags).2 := by
  cases stage : state.commandResponseStage with
  | initial =>
      simp only [SessionState.acceptAtStage, SessionState.acceptInitialPacket]
      split
      · exact consistent.endResult awaited _
      · split
        · exact consistent.failCommandForward
        · split
          · exact consistent
          · next columns follows parsed =>
            split
            · exact consistent.reads awaited fun _ => parseResultsetHeader_columns parsed
            · exact consistent.reads awaited fun isMetadata => absurd isMetadata afterMetadata_ne
  | metadata =>
      simp only [SessionState.acceptAtStage, SessionState.acceptMetadataPacket]
      split
      · exact consistent.failCommandForward
      · refine consistent.reads awaited ?_
        split
        · exact fun isMetadata => absurd isMetadata afterMetadata_ne
        · intro _
          omega
  | metadataEof =>
      simp only [SessionState.acceptAtStage, SessionState.acceptMetadataEof]
      split
      · exact consistent
      · next status parsed =>
        exact (consistent.updateTransactionStatus status).reads awaited (by rintro ⟨⟩)
  | rows =>
      simp only [SessionState.acceptAtStage, SessionState.acceptRowPacket]
      split
      · split
        · exact consistent
        · exact consistent.endResult awaited _
      · split
        · exact consistent
        · exact consistent.endResult awaited _

theorem acceptCommandResponsePacket (consistent : Consistent state) :
    Consistent (state.acceptCommandResponsePacket payload flags).2 := by
  unfold SessionState.acceptCommandResponsePacket
  split
  · exact consistent
  · next awaited =>
    split
    · exact consistent.failCommandForward
    · split
      · exact consistent.failCommandForward
      · exact consistent.acceptAtStage awaited _

theorem trackPrepareMetadata (consistent : Consistent state) :
    Consistent (MySql.trackPrepareMetadata flags payload state).2 := by
  unfold MySql.trackPrepareMetadata
  split
  · exact consistent
  · split
    · exact consistent.failStatementPrepare
    · exact consistent
    · next last consumed done => exact consistent.consumeStatementPrepareMetadata done

theorem trackPrepareOk (consistent : Consistent state) :
    Consistent (MySql.trackPrepareOk flags payload state).2 := by
  unfold MySql.trackPrepareOk
  split
  · split
    · exact consistent
    · next accepted done =>
      obtain ⟨prepared, -, rest⟩ := bind_ok done
      exact consistent.acceptStatementPrepareOk rest
  · split
    · exact consistent
    · exact consistent.failStatementPrepare

theorem trackResponse (consistent : Consistent state) :
    Consistent (MySql.trackResponse flags payload state).2 := by
  unfold MySql.trackResponse
  split
  · exact consistent.completePing.acknowledge
  · split
    · exact consistent.completeStatementReset.acknowledge
    · split
      · exact consistent.completeDatabaseChange.acknowledge
      · split
        · split
          · exact consistent.trackPrepareMetadata
          · exact consistent.trackPrepareOk
        · split
          · have followed : Consistent (state.acceptCommandResponsePacket payload flags).2 :=
              consistent.acceptCommandResponsePacket
            split
            · next same =>
              rw [same] at followed
              exact followed
            · next same =>
              rw [same] at followed
              exact followed
          · exact consistent

/-- Every change made by the backend task keeps the invariant. -/
theorem backendMove (consistent : Consistent state) (moved : BackendMove state state') :
    Consistent state' := by
  cases moved with
  | tracks flags payload => exact consistent.trackResponse
  | finishes done => exact consistent.finishStatementPrepareResponse done
  | fails _ => exact consistent.failStatementPrepare

end Consistent

end SqlSafetyProxy.MySql
