import SqlSafetyProxy.MySql.Course
import SqlSafetyProxy.MySql.Moves

/-!
# Mediation by the dispatcher

A dispatch writes its message once or not at all, writes a query or an execution
only on an approval, and leaves the session as it was when it refuses.  The
backend task may change the session while the dispatch is suspended.
-/

namespace SqlSafetyProxy.MySql

open SqlSafetyProxy.Sql SqlSafetyProxy.Policy SqlSafetyProxy.Wire SqlSafetyProxy.Runtime
open SqlSafetyProxy.Coroutine SqlSafetyProxy.Collections

variable {Γ : Type} {moves : SessionState → SessionState → Prop}

/-! ## Sessions without a prepare or a reset -/

/-- No operation of the registry is in flight. -/
structure SessionState.Quiet (state : SessionState) : Prop where
  database : state.pendingDatabase = none
  sql : state.pendingStatementSql = none
  ping : state.pendingPing = false
  reset : state.pendingStatementResetId = none
  prepared : state.pendingPreparedStatementId = none

/-- Only a response is followed then. -/
theorem SessionState.Quiet.aside {state state' : SessionState} (quiet : state.Quiet)
    (moved : BackendMove state state') : state'.aside = state.aside := by
  cases moved with
  | tracks flags payload =>
      simp only [trackResponse, quiet.ping, quiet.reset, quiet.database, quiet.sql,
        Option.isSome_none, Bool.false_eq_true, if_false]
      have frame : (state.acceptCommandResponsePacket payload flags).2.aside = state.aside :=
        aside_acceptCommandResponsePacket
      split
      · split
        · next same =>
          rw [same] at frame
          exact frame
        · next same =>
          rw [same] at frame
          exact frame
      · rfl
  | finishes done =>
      simp only [SessionState.finishStatementPrepareResponse, quiet.prepared] at done
      cases done
  | fails preparing =>
      rw [quiet.sql] at preparing
      cases preparing

theorem SessionState.Quiet.of_aside {state state' : SessionState} (quiet : state.Quiet)
    (same : state'.aside = state.aside) : state'.Quiet where
  database := (congrArg SessionState.pendingDatabase same).trans quiet.database
  sql := (congrArg SessionState.pendingStatementSql same).trans quiet.sql
  ping := (congrArg SessionState.pendingPing same).trans quiet.ping
  reset := (congrArg SessionState.pendingStatementResetId same).trans quiet.reset
  prepared := (congrArg SessionState.pendingPreparedStatementId same).trans quiet.prepared

theorem Consistent.quiet {state : SessionState} (consistent : Consistent state)
    (free : state.hasPendingLifecycleOperation = false) : state.Quiet := by
  obtain ⟨database, sql, ping, reset, -⟩ := hasPending_eq_false.mp free
  exact ⟨database, sql, ping, reset, consistent.free_prepared free⟩

/-- A statement that is still registered with as many parameters as were decoded. -/
def Registered (statement : PreparedStatement) (decoded : StmtExecuteParameters)
    (state : SessionState) : Prop :=
  ∃ kept, state.preparedStatements.lookup statement.statementId = some kept ∧
    decoded.parameterTypes.length = kept.parameterCount

theorem Registered.of_aside {statement : PreparedStatement} {decoded : StmtExecuteParameters}
    {state state' : SessionState} (registered : Registered statement decoded state)
    (same : state'.aside = state.aside) : Registered statement decoded state' := by
  obtain ⟨kept, known, count⟩ := registered
  have registry : state'.aside.preparedStatements = state.aside.preparedStatements := by rw [same]
  exact ⟨kept, registry ▸ known, count⟩

/-- The types of a registered statement can be remembered. -/
theorem Registered.registers {statement : PreparedStatement} {decoded : StmtExecuteParameters}
    {state : SessionState} (registered : Registered statement decoded state) {error : Exn} :
    state.registerStatementParameterTypes statement.statementId decoded.parameterTypes ≠
      .error error := by
  obtain ⟨kept, known, count⟩ := registered
  simp [SessionState.registerStatementParameterTypes, SessionState.getPreparedStatement, known,
    count, bind, Except.bind]

theorem Names.id {state : SessionState} {statementId : Nat} {statement : PreparedStatement}
    (consistent : Consistent state) (names : Names state statementId statement) :
    state.preparedStatements.lookup statement.statementId = some statement := by
  unfold Names at names
  split at names
  · obtain ⟨last, -, known⟩ := names
    rw [(consistent.registry.statements _ _ known).id]
    exact known
  · rw [(consistent.registry.statements _ _ names).id]
    exact names

theorem Resolves.registered {tools : Tools} {command : Command} {state : SessionState}
    {execution : StmtExecute} {statement : PreparedStatement} {decoded : StmtExecuteParameters}
    (consistent : Consistent state)
    (resolves : Resolves tools command state execution statement decoded) :
    Registered statement decoded state :=
  ⟨statement, resolves.names.id consistent, parseStmtExecuteParameters_length resolves.reads⟩

/-! ## What a refusal leaves behind -/

/--
The session is as it was, moved on by the backend task, with every response that
began to be awaited forgotten again.
-/
inductive Restored (moves : SessionState → SessionState → Prop) (before : SessionState) :
    SessionState → Prop where
  | refl : Restored moves before before
  | moved {state state' : SessionState} : Restored moves before state → moves state state' →
      Restored moves before state'
  | undone {state state' : SessionState} (kind : ResponseKind) : Restored moves before state →
      state.hasPendingLifecycleOperation = false →
      Relation.ReflTransGen moves (state.awaitingResponse kind) state' →
      Restored moves before state'.failCommandForward

section Restored

variable {before state state' : SessionState}

theorem Restored.movesOn (restored : Restored moves before state)
    (moved : Relation.ReflTransGen moves state state') : Restored moves before state' := by
  induction moved with
  | refl => exact restored
  | tail _ step ih => exact ih.moved step

theorem consistent_moves (within : ∀ state state', moves state state' → BackendMove state state')
    (consistent : Consistent state) (moved : Relation.ReflTransGen moves state state') :
    Consistent state' := by
  induction moved with
  | refl => exact consistent
  | tail _ step ih => exact ih.backendMove (within _ _ step)

theorem quiet_moves (within : ∀ state state', moves state state' → BackendMove state state')
    (quiet : state.Quiet) (moved : Relation.ReflTransGen moves state state') :
    state'.aside = state.aside := by
  induction moved with
  | refl => rfl
  | tail _ step ih => exact ((quiet.of_aside ih).aside (within _ _ step)).trans ih

theorem Restored.consistent
    (within : ∀ state state', moves state state' → BackendMove state state')
    (consistent : Consistent before) (restored : Restored moves before state) :
    Consistent state := by
  induction restored with
  | refl => exact consistent
  | moved _ step ih => exact ih.backendMove (within _ _ step)
  | undone kind _ free awaited ih =>
      exact (consistent_moves within (ih.awaitingResponse free kind) awaited).failCommandForward

/-- Forgetting an awaited response gives back the session in which nothing was awaited. -/
theorem forget_awaitingResponse (consistent : Consistent state)
    (free : state.hasPendingLifecycleOperation = false) (kind : ResponseKind) :
    (state.awaitingResponse kind).failCommandForward = state := by
  obtain ⟨-, -, -, -, response⟩ := hasPending_eq_false.mp free
  obtain ⟨stage, columns⟩ := consistent.idle response
  simp only [SessionState.failCommandForward, SessionState.awaitingResponse]
  rw [← response, ← stage, ← columns]

/-- Without backend packets the session is the very same. -/
theorem Restored.alone (within : ∀ state state', moves state state' → BackendMove state state')
    (consistent : Consistent before) (restored : Restored moves before state)
    (still : ∀ state state', moves state state' → state' = state) : state = before := by
  induction restored with
  | refl => rfl
  | moved _ step ih => exact (still _ _ step).trans ih
  | @undone middle after kind earlier free awaited ih =>
      have same : after = middle.awaitingResponse kind := by
        induction awaited with
        | refl => rfl
        | tail _ step same => exact (still _ _ step).trans same
      rw [same, forget_awaitingResponse (earlier.consistent within consistent) free kind]
      exact ih

end Restored

/-! ## What a dispatch does -/

/-- The payload parses; the parameters of an execution are read for the statement it names. -/
def Parses (tools : Tools) (command : Command) (state : SessionState) : Prop :=
  match command.kind with
  | .query => ∃ text, parseQuery command.payload = .ok text
  | .initDb => ∃ database, parseDatabaseName command.payload = .ok database
  | .quit => True
  | .ping => command.payload = []
  | .stmtPrepare => ∃ sql, parseStmtPrepare command.payload = .ok sql
  | .stmtClose => ∃ statementId, parseStatementId command.payload = .ok statementId
  | .stmtExecute => ∃ execution statement decoded,
      Resolves tools command state execution statement decoded
  | .stmtReset => ∃ statementId, parseStmtReset command.payload = .ok statementId
  | .stmtSendLongData => False
  | .unsupported => False

theorem Opens.parses {tools : Tools} {command : Command} {state after : SessionState}
    (opens : Opens command state after) : Parses tools command state := by
  unfold Parses
  cases opens with
  | initDb kind parsed _ =>
      rw [kind]
      exact ⟨_, parsed⟩
  | stmtPrepare kind parsed _ =>
      rw [kind]
      exact ⟨_, parsed⟩
  | ping kind empty _ =>
      rw [kind]
      exact empty
  | stmtReset kind parsed _ =>
      rw [kind]
      exact ⟨_, parsed⟩
  | stmtClose kind parsed _ =>
      rw [kind]
      exact ⟨_, parsed⟩
  | quit kind =>
      rw [kind]
      trivial

theorem Opens.uninspected {command : Command} {state after : SessionState}
    (opens : Opens command state after) : command.kind ≠ .query ∧ command.kind ≠ .stmtExecute := by
  cases opens with
  | initDb kind => simp [kind]
  | stmtPrepare kind => simp [kind]
  | ping kind => simp [kind]
  | stmtReset kind => simp [kind]
  | stmtClose kind => simp [kind]
  | quit kind => simp [kind]

/-- Why a message may be written after the events of its dispatch so far. -/
structure Cleared (tools : Tools) (opts : ProxyOptions)
    (moves : SessionState → SessionState → Prop) (message : LogicalMessage)
    (before : SessionState) (events : List (Event adapter)) : Prop where
  parses : ∃ state, Restored moves before state ∧ Parses tools (commandOf message) state
  approved : (commandOf message).kind = .query ∨ (commandOf message).kind = .stmtExecute →
    Approved tools opts (commandOf message) events

/-- What is true of a dispatch wherever it stands. -/
structure Mediated (tools : Tools) (opts : ProxyOptions)
    (moves : SessionState → SessionState → Prop) (message : LogicalMessage)
    (before after : SessionState) (events : List (Event adapter))
    (outcome : Proc.Outcome Exn Bool) : Prop where
  once : forwards events = [] ∨ forwards events = [message.rawPackets]
  returns : ∀ forwarded, outcome = .returned forwarded →
    (forwarded = true ↔ forwards events = [message.rawPackets])
  raises : ∀ error, outcome = .raised error → forwards events = []
  cleared : forwards events ≠ [] → ∃ earlier, events = earlier ++ [writeOf message] ∧
    Cleared tools opts moves message before earlier
  uninspectable : (commandOf message).kind = .stmtSendLongData ∨
    (commandOf message).kind = .unsupported ∨ (∃ error, parseLogicalCommand message = .error error) →
    forwards events = []
  restores : outcome = .returned false → Restored moves before after
  unchanged : (∀ state state', moves state state' → state' = state) →
    outcome = .returned false → after = before

/-- Writes and drains succeed, and the backend task moves only the session. -/
structure Surroundings (moves : SessionState → SessionState → Prop)
    (env : (q : Request) → World adapter Γ → q.Answer → World adapter Γ → Prop) : Prop where
  trace : ∀ q w answer w', env q w answer w' → w'.trace = w.trace
  session : ∀ q w answer w', env q w answer w' →
    Relation.ReflTransGen moves w.session.session w'.session.session
  drains : ∀ w completed w', env .drain w completed w' → completed = true
  prepared : ∀ w answer w', env .prepareEvent w answer w' →
    w'.session.session.pendingPrepareEvent = some true

/-! ## The conditions of the stages -/

/-- Where the session stands at a stage. -/
def Restorable (moves : SessionState → SessionState → Prop) (before state : SessionState) :
    Stage → Prop
  | .considering | .resolved | .refused => Restored moves before state
  | .awaiting | .declined => ∃ earlier kind, Restored moves before earlier ∧
      earlier.hasPendingLifecycleOperation = false ∧
      Relation.ReflTransGen moves (earlier.awaitingResponse kind) state
  | .written | .broken => True

/-- An inspected statement stays registered until its execution has been settled. -/
def Kept (statement : PreparedStatement) (decoded : StmtExecuteParameters)
    (state : SessionState) : Stage → Prop
  | .resolved => Registered statement decoded state
  | .awaiting | .written => Registered statement decoded state ∧ state.Quiet
  | _ => True

/-- What has been written at a stage. -/
def Writes (tools : Tools) (opts : ProxyOptions) (moves : SessionState → SessionState → Prop)
    (message : LogicalMessage) (before : SessionState) (events : List (Event adapter)) :
    Stage → Prop
  | .written => ∃ earlier, events = earlier ++ [writeOf message] ∧ forwards earlier = [] ∧
      Cleared tools opts moves message before earlier
  | _ => forwards events = []

/-- The condition of a stage. -/
structure Dispatching (tools : Tools) (opts : ProxyOptions)
    (moves : SessionState → SessionState → Prop) (message : LogicalMessage)
    (begun : World adapter Γ) (stage : Stage) (events : List (Event adapter))
    (_ w : World adapter Γ) : Prop where
  recorded : w.trace = begun.trace ++ events
  session : Restorable moves begun.session.session w.session.session stage
  inspects : ∀ statement decoded, reconstruction statement decoded ∈ events →
    (∃ state execution, Restored moves begun.session.session state ∧
      Resolves tools (commandOf message) state execution statement decoded) ∧
    Kept statement decoded w.session.session stage
  writes : Writes tools opts moves message begun.session.session events stage

/-- A dispatch may be suspended at any stage. -/
def suspension (tools : Tools) (opts : ProxyOptions)
    (moves : SessionState → SessionState → Prop) (message : LogicalMessage)
    (begun : World adapter Γ)
    (env : (q : Request) → World adapter Γ → q.Answer → World adapter Γ → Prop) :
    Proc.Contract awaits (World adapter Γ) where
  pause _ start w := ∃ stage events, Dispatching tools opts moves message begun stage events start w
  rely := env

section Course

variable {tools : Tools} {opts : ProxyOptions} {message : LogicalMessage}
  {begun : World adapter Γ}
  {env : (q : Request) → World adapter Γ → q.Answer → World adapter Γ → Prop}

/-- The awaited conditions survive what the backend task does meanwhile. -/
theorem Restorable.movesOn {before state state' : SessionState} {stage : Stage}
    (restorable : Restorable moves before state stage)
    (moved : Relation.ReflTransGen moves state state') : Restorable moves before state' stage := by
  cases stage with
  | considering => exact Restored.movesOn restorable moved
  | resolved => exact Restored.movesOn restorable moved
  | refused => exact Restored.movesOn restorable moved
  | awaiting =>
      obtain ⟨earlier, kind, restored, free, awaited⟩ := restorable
      exact ⟨earlier, kind, restored, free, awaited.trans moved⟩
  | declined =>
      obtain ⟨earlier, kind, restored, free, awaited⟩ := restorable
      exact ⟨earlier, kind, restored, free, awaited.trans moved⟩
  | written => trivial
  | broken => trivial

theorem Kept.movesOn (within : ∀ state state', moves state state' → BackendMove state state')
    {statement : PreparedStatement} {decoded : StmtExecuteParameters}
    {state state' : SessionState} {stage : Stage} (known : stage ≠ .resolved)
    (kept : Kept statement decoded state stage)
    (moved : Relation.ReflTransGen moves state state') : Kept statement decoded state' stage := by
  have settled : Registered statement decoded state ∧ state.Quiet →
      Registered statement decoded state' ∧ state'.Quiet := by
    rintro ⟨registered, quiet⟩
    have same := quiet_moves within quiet moved
    exact ⟨registered.of_aside same, quiet.of_aside same⟩
  cases stage with
  | resolved => exact absurd rfl known
  | awaiting => exact settled kept
  | written => exact settled kept
  | considering => trivial
  | declined => trivial
  | refused => trivial
  | broken => trivial

theorem writes_snoc {before : SessionState} {events : List (Event adapter)} {stage : Stage}
    {event : Event adapter} (isOpen : stage.Open) (quiet : forwards [event] = [])
    (writes : Writes tools opts moves message before events stage) :
    Writes tools opts moves message before (events ++ [event]) stage := by
  rcases isOpen with rfl | rfl
  · change forwards (events ++ [event]) = []
    rw [forwards_append, quiet, List.append_nil]
    exact writes
  · change forwards (events ++ [event]) = []
    rw [forwards_append, quiet, List.append_nil]
    exact writes

theorem mem_snoc_of_ne {events : List (Event adapter)} {event other : Event adapter}
    (present : other ∈ events ++ [event]) (different : other ≠ event) : other ∈ events := by
  rcases List.mem_append.mp present with early | last
  · exact early
  · exact absurd (List.mem_singleton.mp last) different

/-- A long-data or unsupported command and a message without a command parse as nothing. -/
theorem not_parses_uninspectable {state : SessionState}
    (uninspectable : (commandOf message).kind = .stmtSendLongData ∨
      (commandOf message).kind = .unsupported ∨
      ∃ error, parseLogicalCommand message = .error error) :
    ¬ Parses tools (commandOf message) state := by
  rcases uninspectable with kind | kind | ⟨error, failed⟩
  · simp [Parses, kind]
  · simp [Parses, kind]
  · simp [Parses, commandOf, failed, Except.toOption]

theorem course_dispatching (closed : opts.failSafeMode ≠ .permissive)
    (within : ∀ state state', moves state state' → BackendMove state state')
    (surroundings : Surroundings moves env) (consistent : Consistent begun.session.session) :
    Course tools opts message (suspension tools opts moves message begun env)
      (Dispatching tools opts moves message begun) where
  records := by
    intro stage events start w event isOpen isDecision held
    refine ⟨?_, held.session, ?_, writes_snoc isOpen ?_ held.writes⟩
    · rw [World.log_trace, held.recorded, List.append_assoc]
    · intro statement decoded present
      refine held.inspects statement decoded (mem_snoc_of_ne present ?_)
      rintro rfl
      exact isDecision
    · exact forwards_eq_nil_of_decisions (by simpa using isDecision)
  pauses stage q events start w _ held := ⟨stage, events, held⟩
  resumes := by
    intro stage q events start w answer w' known held relied
    have moved := surroundings.session q w answer w' relied
    refine ⟨?_, held.session.movesOn moved, ?_, held.writes⟩
    · exact (surroundings.trace q w answer w' relied).trans held.recorded
    · intro statement decoded present
      obtain ⟨resolved, kept⟩ := held.inspects statement decoded present
      exact ⟨resolved, kept.movesOn within known.1 moved⟩
  prepared := surroundings.prepared
  loses := by
    intro stage events start w w' session held relied _
    cases surroundings.drains w false w' relied
  breaks := by
    intro stage events start w session unwritten held _
    refine ⟨held.recorded, trivial, ?_, ?_⟩
    · intro statement decoded present
      exact ⟨(held.inspects statement decoded present).1, trivial⟩
    · have writes := held.writes
      cases stage with
      | written => exact absurd rfl unwritten
      | _ => exact writes
  opens := by
    intro start w after held opens
    refine ⟨?_, trivial, ?_, [], rfl, rfl, ?_⟩
    · have recorded := held.recorded
      rw [List.append_nil] at recorded
      simp [recorded]
    · intro statement decoded present
      simp at present
    · refine ⟨⟨_, held.session, opens.parses⟩, ?_⟩
      intro inspected
      exact absurd inspected (not_or.mpr opens.uninspected)
  resolves := by
    intro start w execution statement decoded held resolves
    refine ⟨?_, held.session, ?_, rfl⟩
    · have recorded := held.recorded
      rw [List.append_nil] at recorded
      simp [recorded]
    · intro other values present
      have same : statement = other ∧ decoded = values := by
        simpa [eq_comm] using present
      obtain ⟨rfl, rfl⟩ := same
      have sound := Restored.consistent within consistent held.session
      exact ⟨⟨_, _, held.session, resolves⟩, resolves.registered sound⟩
  abandons := by
    intro events start w held
    refine ⟨held.recorded, held.session, ?_, held.writes⟩
    intro statement decoded present
    exact ⟨(held.inspects statement decoded present).1, trivial⟩
  queries := by
    intro start w kind held free
    refine ⟨held.recorded, ⟨_, _, held.session, free, .refl⟩, ?_, held.writes⟩
    intro statement decoded present
    simp at present
  executes := by
    intro events start w held free
    refine ⟨held.recorded, ⟨_, _, held.session, free, .refl⟩, ?_, held.writes⟩
    intro statement decoded present
    obtain ⟨resolved, registered⟩ := held.inspects statement decoded present
    have quiet := (Restored.consistent within consistent held.session).quiet free
    have same : (w.session.session.awaitingResponse .stmtExecute).aside =
        w.session.session.aside := rfl
    exact ⟨resolved, registered.of_aside same, quiet.of_aside same⟩
  forgets := by
    intro start w held
    obtain ⟨earlier, kind, restored, free, awaited⟩ := held.session
    refine ⟨held.recorded, .undone kind restored free awaited, ?_, held.writes⟩
    intro statement decoded present
    simp at present
  approves := by
    intro events start w held approved
    refine ⟨?_, trivial, ?_, events, rfl, held.writes, ⟨?_, fun _ => approved⟩⟩
    · rw [World.log_trace, held.recorded, List.append_assoc]
    · intro statement decoded present
      exact held.inspects statement decoded (mem_snoc_of_ne present (by simp))
    · cases approved with
      | query kind parsed _ =>
          refine ⟨begun.session.session, .refl, ?_⟩
          simp only [Parses, kind]
          exact ⟨_, parsed⟩
      | execution kind reconstructed _ =>
          obtain ⟨⟨state, execution, restored, resolves⟩, -⟩ :=
            held.inspects _ _ List.mem_cons_self
          refine ⟨state, restored, ?_⟩
          simp only [Parses, kind]
          exact ⟨_, _, _, resolves⟩
  registers := by
    intro events start w statement decoded registered held present done
    refine ⟨held.recorded, trivial, ?_, held.writes⟩
    intro other values inside
    obtain ⟨resolved, ⟨kept, known, count⟩, quiet⟩ := held.inspects other values inside
    refine ⟨resolved, ?_, ?_⟩
    · obtain ⟨old, found, rest⟩ := bind_ok done
      split at rest
      · cases rest
      · cases rest
        by_cases same : other.statementId = statement.statementId
        · refine ⟨_, Dict.lookup_insert_eq_some.mpr (.inl ⟨same, rfl⟩), ?_⟩
          have oldKept := getPreparedStatement_ok found
          rw [← same, known] at oldKept
          cases oldKept
          exact count
        · exact ⟨kept, Dict.lookup_insert_eq_some.mpr (.inr ⟨same, known⟩), count⟩
    · obtain ⟨old, found, rest⟩ := bind_ok done
      split at rest
      · cases rest
      · cases rest
        exact ⟨quiet.database, quiet.sql, quiet.ping, quiet.reset, quiet.prepared⟩
  misses := by
    intro events start w statement decoded error held present failed
    obtain ⟨-, registered, -⟩ := held.inspects statement decoded present
    exact absurd failed registered.registers
  refuses := by
    intro stage events start w packet isOpen held refusal
    have silent : forwards [refusalOf message packet] = [] := rfl
    have writes := writes_snoc isOpen silent held.writes
    refine ⟨?_, ?_, ?_, ?_⟩
    · rw [World.answer_trace, World.log_trace, held.recorded, List.append_assoc]
    · have session := held.session
      rcases isOpen with rfl | rfl
      · exact session
      · exact session
    · intro statement decoded present
      obtain ⟨resolved, -⟩ := held.inspects statement decoded (mem_snoc_of_ne present (by simp))
      refine ⟨resolved, ?_⟩
      rcases isOpen with rfl | rfl
      · trivial
      · trivial
    · rcases isOpen with rfl | rfl
      · exact writes
      · exact writes
  settles := by
    intro events start w held
    obtain ⟨earlier, kind, restored, free, awaited⟩ := held.session
    refine ⟨held.recorded, .undone kind restored free awaited, ?_, held.writes⟩
    intro statement decoded present
    exact ⟨(held.inspects statement decoded present).1, trivial⟩
  passes := by
    intro stage events start w isOpen permissive held
    exact absurd permissive closed
  remembers := by
    intro events start w longData marked held kind done
    obtain ⟨earlier, -, -, ⟨state, -, parses⟩, -⟩ := held.writes
    exact absurd parses (not_parses_uninspectable (.inl kind))
  overlooks := by
    intro events start w longData error held kind failed
    obtain ⟨earlier, -, -, ⟨state, -, parses⟩, -⟩ := held.writes
    exact absurd parses (not_parses_uninspectable (.inl kind))

/-! ## Every dispatch -/

theorem dispatching_considering (begun : World adapter Γ) :
    Dispatching tools opts moves message begun .considering [] begun begun :=
  ⟨(List.append_nil _).symm, .refl, by simp, rfl⟩

theorem Dispatching.unwritten {stage : Stage} {events : List (Event adapter)}
    {start w : World adapter Γ} (held : Dispatching tools opts moves message begun stage events start w)
    (open_ : stage ≠ .written) : forwards events = [] := by
  have writes := held.writes
  cases stage with
  | written => exact absurd rfl open_
  | _ => exact writes

theorem Dispatching.written {events : List (Event adapter)} {start w : World adapter Γ}
    (held : Dispatching tools opts moves message begun .written events start w) :
    forwards events = [message.rawPackets] := by
  obtain ⟨earlier, rfl, silent, -⟩ := held.writes
  simp [silent, forwards]

/-- What is written and cleared at whatever stage a dispatch stands. -/
theorem Dispatching.mediated {stage : Stage} {events : List (Event adapter)}
    {start w : World adapter Γ} {outcome : Proc.Outcome Exn Bool}
    (within : ∀ state state', moves state state' → BackendMove state state')
    (consistent : Consistent begun.session.session)
    (held : Dispatching tools opts moves message begun stage events start w)
    (returned : ∀ forwarded, outcome = .returned forwarded → stage = Course.reached forwarded)
    (raised : ∀ error, outcome = .raised error → stage = .broken) :
    Mediated tools opts moves message begun.session.session w.session.session events outcome := by
  have cleared : forwards events ≠ [] → ∃ earlier, events = earlier ++ [writeOf message] ∧
      Cleared tools opts moves message begun.session.session earlier := by
    intro wrote
    by_cases isWritten : stage = .written
    · subst isWritten
      obtain ⟨earlier, rfl, -, cleared⟩ := held.writes
      exact ⟨earlier, rfl, cleared⟩
    · exact absurd (held.unwritten isWritten) wrote
  have restored : outcome = .returned false →
      Restored moves begun.session.session w.session.session := by
    intro refused
    have isRefused := returned false refused
    subst isRefused
    exact held.session
  refine ⟨?_, ?_, ?_, cleared, ?_, restored, ?_⟩
  · by_cases isWritten : stage = .written
    · subst isWritten
      exact .inr held.written
    · exact .inl (held.unwritten isWritten)
  · intro forwarded isReturned
    have isOver := returned forwarded isReturned
    subst isOver
    cases forwarded with
    | true =>
        constructor
        · intro _
          exact held.written
        · intro _
          rfl
    | false =>
        have silent := held.unwritten (by decide)
        rw [silent]
        simp
  · intro error isRaised
    have isBroken := raised error isRaised
    subst isBroken
    exact held.unwritten (by decide)
  · intro uninspectable
    by_contra wrote
    obtain ⟨earlier, -, ⟨state, -, parses⟩, -⟩ := cleared wrote
    exact not_parses_uninspectable uninspectable parses
  · intro still refused
    exact (restored refused).alone within consistent still

/--
In a closed fail-safe mode and with succeeding writes, every dispatch from a
consistent session is mediated, however it is suspended and answered.
-/
theorem dispatch_mediated (closed : opts.failSafeMode ≠ .permissive)
    (within : ∀ state state', moves state state' → BackendMove state state')
    (surroundings : Surroundings moves env) {w w' : World adapter Γ}
    (consistent : Consistent w.session.session) {outcome : Proc.Outcome Exn Bool}
    (execution : Proc.Exec env (dispatchAuthenticatedCommand tools opts message) w outcome w') :
    ∃ events, w'.trace = w.trace ++ events ∧
      Mediated tools opts moves message w.session.session w'.session.session events outcome := by
  have course : Course tools opts message (suspension tools opts moves message w env) _ :=
    course_dispatching closed within surroundings consistent
  have dispatched := course.dispatches (dispatching_considering w)
  have meets := Proc.wp_sound (fun _ _ _ _ moved => moved) dispatched execution
  cases outcome with
  | returned forwarded =>
      obtain ⟨start, events, held⟩ := meets
      refine ⟨events, held.recorded, held.mediated within consistent ?_ ?_⟩
      · rintro _ ⟨⟩
        rfl
      · rintro _ ⟨⟩
  | raised error =>
      obtain ⟨start, events, held⟩ := meets
      refine ⟨events, held.recorded, held.mediated within consistent ?_ ?_⟩
      · rintro _ ⟨⟩
      · rintro _ ⟨⟩
        rfl
  | suspended =>
      obtain ⟨q, start, stage, events, held⟩ := meets
      refine ⟨events, held.recorded, held.mediated within consistent ?_ ?_⟩
      · rintro _ ⟨⟩
      · rintro _ ⟨⟩

end Course

/-! ## A refused deletion -/

def deletionQuery : LogicalMessage := messageOf (0x03 :: encodeUtf8 "DELETE FROM users")

/-- The connection on which the deletion arrives. -/
def shopConnection : World adapter Unit := commandPhase clientProtocol41 { database := "shop" } ()

/-- The user declines and nothing else happens. -/
def undisturbed (q : Request) (w : World adapter Unit) (answer : q.Answer)
    (w' : World adapter Unit) : Prop :=
  q ≠ .prepareEvent ∧ answer = userAnswers false q ∧ w' = w

theorem surroundings_undisturbed : Surroundings (fun _ _ => False) undisturbed where
  trace := by
    rintro q w answer w' ⟨-, -, rfl⟩
    rfl
  session := by
    rintro q w answer w' ⟨-, -, rfl⟩
    exact .refl
  drains := by
    rintro w completed w' ⟨-, answered, -⟩
    exact answered
  prepared := by
    rintro w answer w' ⟨other, -⟩
    exact absurd rfl other

/-- The answers in these surroundings. -/
def declines (q : Request) (w : World adapter Unit) : q.Answer × World adapter Unit :=
  (userAnswers false q, w)

theorem undisturbed_declines (q : Request) (w : World adapter Unit)
    (other : decide (q ≠ Request.prepareEvent) = true) :
    undisturbed q w (declines q w).1 (declines q w).2 :=
  ⟨of_decide_eq_true other, rfl, rfl⟩

/-- The declined deletion is not written and leaves the session as it was. -/
theorem deletion_refused :
    Consistent shopConnection.session.session ∧
      ∃ w', Proc.Exec undisturbed
          (dispatchAuthenticatedCommand plainTools strictOptions deletionQuery) shopConnection
          (.returned false) w' ∧
        ∃ events, w'.trace = shopConnection.trace ++ events ∧
          Mediated plainTools strictOptions (fun _ _ => False) deletionQuery
            shopConnection.session.session w'.session.session events (.returned false) := by
  have consistent : Consistent shopConnection.session.session :=
    consistent_initial "shop" 256 (8 * 1024 * 1024)
  have asked : Proc.asksOnly (fun q : Request => decide (q ≠ .prepareEvent)) declines
      (dispatchAuthenticatedCommand plainTools strictOptions deletionQuery) shopConnection =
        true := by decide +kernel
  have refused : (Proc.run declines
      (dispatchAuthenticatedCommand plainTools strictOptions deletionQuery) shopConnection).1 =
        .ok false := by decide +kernel
  have execution := Proc.exec_run undisturbed_declines _ asked
  rw [refused] at execution
  refine ⟨consistent, _, execution, ?_⟩
  exact dispatch_mediated (by decide) (by simp) surroundings_undisturbed consistent execution

end SqlSafetyProxy.MySql
