import SqlSafetyProxy.Postgres.Connection

/-!
# Limits of the registries

The statements and portals a session has registered stay within its limits, and
a call that raises leaves them as they were.
-/

namespace SqlSafetyProxy.Postgres

open SqlSafetyProxy.Wire SqlSafetyProxy.Runtime SqlSafetyProxy.Collections

/-! ## Calls -/

/-- A method of a connection: what it has changed before it raises stays changed. -/
abbrev Method := ExceptT Exn (StateM ConnectionState)

/-- The checks and changes of `register_statement`, in its order. -/
def registerStatementCall (name query : String) : Method Unit := do
  let state ← get
  let previous := state.preparedStatements.lookup name
  if previous = none ∧ state.maxItems ≤ Dict.count state.preparedStatements then
    throw (.protocol "PostgreSQL prepared-statement registry limit exceeded")
  else
    let released := (previous.map fun text => encodedLength name + encodedLength text).getD 0
    let projected := state.stateBytes - released + (encodedLength name + encodedLength query)
    if state.maxStateBytes < projected then
      throw (.protocol "PostgreSQL per-session state size limit exceeded")
    else do
      modify fun state =>
        if name = "" then
          { state with portals := Dict.filter (fun _ bind => bind.statementName != "") state.portals }
        else state
      modify fun state =>
        { state with preparedStatements := state.preparedStatements.insert name query }

def registerPortalCall (bind : BindMessage) : Method Unit := do
  let state ← get
  let previous := state.portals.lookup bind.portalName
  if previous = none ∧ state.maxItems ≤ Dict.count state.portals then
    throw (.protocol "PostgreSQL portal registry limit exceeded")
  else
    let released := (previous.map (portalBytes bind.portalName)).getD 0
    let projected := state.stateBytes - released + portalBytes bind.portalName bind
    if state.maxStateBytes < projected then
      throw (.protocol "PostgreSQL per-session state size limit exceeded")
    else modify fun state =>
      { state with portals := state.portals.insert bind.portalName bind }

inductive RegistryCall where
  | registerStatement (name query : String)
  | registerPortal (bind : BindMessage)
  | closeStatement (name : String)
  | closePortal (name : String)
  | updateTransactionStatus (status : TransactionStatus)
  deriving DecidableEq, Repr

def RegistryCall.method : RegistryCall → Method Unit
  | .registerStatement name query => registerStatementCall name query
  | .registerPortal bind => registerPortalCall bind
  | .closeStatement name => modify fun state => state.closeStatement name
  | .closePortal name => modify fun state => state.closePortal name
  | .updateTransactionStatus status => modify fun state => state.updateTransactionStatus status

/-- What a call returns or raises, and the state after it. -/
def RegistryCall.perform (call : RegistryCall) (state : ConnectionState) :
    Except Exn Unit × ConnectionState :=
  (call.method.run).run state

/-- The state after some calls, whether they have raised or not. -/
def performAll (state : ConnectionState) (calls : List RegistryCall) : ConnectionState :=
  calls.foldl (fun state call => (call.perform state).2) state

/-- A call that may be refused either has its effect or has none. -/
def outcome (state : ConnectionState) :
    Except Exn ConnectionState → Except Exn Unit × ConnectionState
  | .ok later => (.ok (), later)
  | .error error => (.error error, state)

theorem run_get (rest : ConnectionState → Method Unit) (state : ConnectionState) :
    ((do let state ← get; rest state) : Method Unit).run.run state = (rest state).run.run state :=
  rfl

theorem perform_registerStatement (state : ConnectionState) (name query : String) :
    (RegistryCall.registerStatement name query).perform state =
      outcome state (state.registerStatement name query) := by
  unfold RegistryCall.perform RegistryCall.method registerStatementCall
    ConnectionState.registerStatement
  rw [run_get]
  by_cases full : state.preparedStatements.lookup name = none ∧
      state.maxItems ≤ Dict.count state.preparedStatements
  · simp only [full, and_self, if_true]
    rfl
  · simp only [full, if_false]
    split
    · rfl
    · by_cases unnamed : name = ""
      · simp only [unnamed, if_true]
        rfl
      · simp only [unnamed, if_false]
        rfl

theorem perform_registerPortal (state : ConnectionState) (bind : BindMessage) :
    (RegistryCall.registerPortal bind).perform state =
      outcome state (state.registerPortal bind) := by
  unfold RegistryCall.perform RegistryCall.method registerPortalCall
    ConnectionState.registerPortal
  rw [run_get]
  by_cases full : state.portals.lookup bind.portalName = none ∧
      state.maxItems ≤ Dict.count state.portals
  · simp only [full, and_self, if_true]
    rfl
  · simp only [full, if_false]
    split
    · rfl
    · rfl

/-! ## Limits -/

/-- The registries are within the limits of the session. -/
structure Within (maxItems maxStateBytes : Nat) (state : ConnectionState) : Prop where
  items : state.maxItems = maxItems
  stateBytes : state.maxStateBytes = maxStateBytes
  statements : Dict.count state.preparedStatements ≤ maxItems
  portals : Dict.count state.portals ≤ maxItems
  bytes : state.stateBytes ≤ maxStateBytes

theorem count_filter_le {ν : Type} (keeps : String → ν → Bool) (dict : Dict String ν) :
    Dict.count (Dict.filter keeps dict) ≤ Dict.count dict := by
  rw [Dict.count_eq_total, Dict.count_eq_total]
  exact Dict.total_filter_le _ _ _

theorem count_erase_le {ν : Type} (key : String) (dict : Dict String ν) :
    Dict.count (dict.erase key) ≤ Dict.count dict := by
  rw [Dict.count_eq_total, Dict.count_eq_total]
  exact Dict.total_erase_le _ _ _

/-- An entry that is added within the limit, or that replaces another one, stays within it. -/
theorem count_insert_le {ν : Type} {dict : Dict String ν} {key : String} {limit : Nat}
    (within : Dict.count dict ≤ limit)
    (room : ¬ (dict.lookup key = none ∧ limit ≤ Dict.count dict)) (value : ν) :
    Dict.count (dict.insert key value) ≤ limit := by
  rw [Dict.count_eq_total] at within room ⊢
  cases known : dict.lookup key with
  | none =>
      have below : ¬ limit ≤ Dict.total (fun _ _ => 1) dict := fun full => room ⟨known, full⟩
      have added := Dict.total_insert_of_absent (fun _ _ => 1) known value
      omega
  | some old =>
      have replaced := Dict.total_insert_of_lookup (fun _ _ => 1) known value
      omega

/-- The projected size is the size after the entry has been added or replaced. -/
theorem total_insert_le {ν : Type} {weight : String → ν → Nat} {dict : Dict String ν}
    {key : String} {others limit : Nat} {value : ν}
    (room : ¬ limit < Dict.total weight dict + others -
      ((dict.lookup key).map (weight key)).getD 0 + weight key value) :
    Dict.total weight (dict.insert key value) + others ≤ limit := by
  cases known : dict.lookup key with
  | none =>
      have added := Dict.total_insert_of_absent weight known value
      rw [known] at room
      simp only [Option.map_none, Option.getD_none] at room
      omega
  | some old =>
      have replaced := Dict.total_insert_of_lookup weight known value
      have part := Dict.total_erase weight known
      rw [known] at room
      simp only [Option.map_some, Option.getD_some] at room
      omega

theorem Within.registerStatement {maxItems maxStateBytes : Nat} {state later : ConnectionState}
    {name query : String} (within : Within maxItems maxStateBytes state)
    (registered : state.registerStatement name query = .ok later) :
    Within maxItems maxStateBytes later := by
  have same := ConnectionState.registerStatement_ok registered
  simp only [ConnectionState.registerStatement] at registered
  split at registered
  · cases registered
  next room =>
    split at registered
    · cases registered
    next small =>
      rw [within.items] at room
      rw [within.stateBytes, ConnectionState.stateBytes] at small
      have bytes := total_insert_le small
      subst same
      refine ⟨within.items, within.stateBytes, count_insert_le within.statements room query, ?_, ?_⟩
      · simp only
        split
        · exact Nat.le_trans (count_filter_le _ _) within.portals
        · exact within.portals
      · simp only [ConnectionState.stateBytes]
        split
        · have dropped := Dict.total_filter_le portalBytes
            (fun _ bind => bind.statementName != "") state.portals
          omega
        · exact bytes

theorem Within.registerPortal {maxItems maxStateBytes : Nat} {state later : ConnectionState}
    {bind : BindMessage} (within : Within maxItems maxStateBytes state)
    (registered : state.registerPortal bind = .ok later) : Within maxItems maxStateBytes later := by
  have same := ConnectionState.registerPortal_ok registered
  simp only [ConnectionState.registerPortal] at registered
  split at registered
  · cases registered
  next room =>
    split at registered
    · cases registered
    next small =>
      rw [within.items] at room
      rw [within.stateBytes, ConnectionState.stateBytes, Nat.add_comm (Dict.total _ _)] at small
      have bytes := total_insert_le small
      subst same
      refine ⟨within.items, within.stateBytes, within.statements,
        count_insert_le within.portals room bind, ?_⟩
      rw [ConnectionState.stateBytes, Nat.add_comm]
      exact bytes

theorem Within.closeStatement {maxItems maxStateBytes : Nat} {state : ConnectionState}
    (within : Within maxItems maxStateBytes state) (name : String) :
    Within maxItems maxStateBytes (state.closeStatement name) := by
  refine ⟨within.items, within.stateBytes, Nat.le_trans (count_erase_le _ _) within.statements,
    Nat.le_trans (count_filter_le _ _) within.portals, Nat.le_trans ?_ within.bytes⟩
  exact Nat.add_le_add (Dict.total_erase_le _ _ _) (Dict.total_filter_le _ _ _)

theorem Within.closePortal {maxItems maxStateBytes : Nat} {state : ConnectionState}
    (within : Within maxItems maxStateBytes state) (name : String) :
    Within maxItems maxStateBytes (state.closePortal name) := by
  refine ⟨within.items, within.stateBytes, within.statements,
    Nat.le_trans (count_erase_le _ _) within.portals, Nat.le_trans ?_ within.bytes⟩
  exact Nat.add_le_add_left (Dict.total_erase_le _ _ _) _

theorem Within.updateTransactionStatus {maxItems maxStateBytes : Nat} {state : ConnectionState}
    (within : Within maxItems maxStateBytes state) (status : TransactionStatus) :
    Within maxItems maxStateBytes (state.updateTransactionStatus status) := by
  refine ⟨within.items, within.stateBytes, within.statements, ?_, Nat.le_trans ?_ within.bytes⟩
  · simp only [ConnectionState.updateTransactionStatus]
    split
    · exact Nat.zero_le _
    · exact within.portals
  · refine Nat.add_le_add_left ?_ _
    simp only [ConnectionState.updateTransactionStatus]
    split
    · exact Nat.zero_le _
    · exact Nat.le_refl _

theorem Within.perform {maxItems maxStateBytes : Nat} {state : ConnectionState}
    (within : Within maxItems maxStateBytes state) (call : RegistryCall) :
    Within maxItems maxStateBytes (call.perform state).2 := by
  cases call with
  | registerStatement name query =>
      rw [perform_registerStatement]
      cases registered : state.registerStatement name query with
      | error error => exact within
      | ok later => exact within.registerStatement registered
  | registerPortal bind =>
      rw [perform_registerPortal]
      cases registered : state.registerPortal bind with
      | error error => exact within
      | ok later => exact within.registerPortal registered
  | closeStatement name => exact within.closeStatement name
  | closePortal name => exact within.closePortal name
  | updateTransactionStatus status => exact within.updateTransactionStatus status

theorem Within.performAll {maxItems maxStateBytes : Nat} {state : ConnectionState}
    (within : Within maxItems maxStateBytes state) (calls : List RegistryCall) :
    Within maxItems maxStateBytes (performAll state calls) := by
  induction calls generalizing state with
  | nil => exact within
  | cons call later ih => exact ih (within.perform call)

/-! ## Refusals and removals -/

/-- A call that raises raises a protocol error and changes nothing. -/
theorem perform_error {call : RegistryCall} {state : ConnectionState} {error : Exn}
    (raised : (call.perform state).1 = .error error) :
    (∃ reason, error = .protocol reason) ∧ (call.perform state).2 = state := by
  cases call with
  | registerStatement name query =>
      rw [perform_registerStatement] at raised ⊢
      cases registered : state.registerStatement name query with
      | error other =>
          rw [registered] at raised
          cases raised
          exact ⟨ConnectionState.raisesProtocol_registerStatement state name query _ registered, rfl⟩
      | ok later =>
          rw [registered] at raised
          cases raised
  | registerPortal bind =>
      rw [perform_registerPortal] at raised ⊢
      cases registered : state.registerPortal bind with
      | error other =>
          rw [registered] at raised
          cases raised
          exact ⟨ConnectionState.raisesProtocol_registerPortal state bind _ registered, rfl⟩
      | ok later =>
          rw [registered] at raised
          cases raised
  | closeStatement name => cases raised
  | closePortal name => cases raised
  | updateTransactionStatus status => cases raised

/-- No portal was bound to the statement of the given name. -/
def Unbound (state : ConnectionState) (name : String) : Prop :=
  ∀ portal bind, state.portals.lookup portal = some bind → bind.statementName ≠ name

theorem unbound_filter {portals : Dict String BindMessage} {name : String} :
    ∀ portal bind, (Dict.filter (fun _ bind => bind.statementName != name) portals).lookup portal =
      some bind → bind.statementName ≠ name := by
  intro portal bind found
  exact bne_iff_ne.mp (Dict.lookup_filter_eq_some.mp found).2

theorem unbound_closeStatement (state : ConnectionState) (name : String) :
    Unbound ((RegistryCall.closeStatement name).perform state).2 name := unbound_filter

theorem unbound_registerStatement {state : ConnectionState} {query : String}
    (returned : ((RegistryCall.registerStatement "" query).perform state).1 = .ok ()) :
    Unbound ((RegistryCall.registerStatement "" query).perform state).2 "" := by
  rw [perform_registerStatement] at returned ⊢
  cases registered : state.registerStatement "" query with
  | error error =>
      rw [registered] at returned
      cases returned
  | ok later =>
      have same := ConnectionState.registerStatement_ok registered
      subst same
      exact unbound_filter

/--
After any calls on a new connection the registries are within the limits, the
next call that raises changes nothing, and no portal stays bound to a statement
that is closed or to the unnamed one when it is registered again.
-/
theorem registries_bounded (database : String) (maxItems maxStateBytes : Nat)
    (calls : List RegistryCall) (call : RegistryCall) :
    let state := performAll { database, maxItems, maxStateBytes } calls
    Within maxItems maxStateBytes state ∧
      (∀ error, (call.perform state).1 = .error error →
        (∃ reason, error = .protocol reason) ∧ (call.perform state).2 = state) ∧
      (∀ name, call = .closeStatement name → Unbound (call.perform state).2 name) ∧
      ∀ query, call = .registerStatement "" query → (call.perform state).1 = .ok () →
        Unbound (call.perform state).2 "" := by
  have initial : Within maxItems maxStateBytes { database, maxItems, maxStateBytes } :=
    ⟨rfl, rfl, Nat.zero_le _, Nat.zero_le _, Nat.zero_le _⟩
  refine ⟨initial.performAll calls, fun _ => perform_error, ?_, ?_⟩
  · rintro name rfl
    exact unbound_closeStatement _ _
  · rintro query rfl returned
    exact unbound_registerStatement returned

end SqlSafetyProxy.Postgres
