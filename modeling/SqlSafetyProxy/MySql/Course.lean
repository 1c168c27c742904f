import SqlSafetyProxy.MySql.Dispatcher
import SqlSafetyProxy.Wire.Reader

/-!
# The course of one dispatch

Everything the dispatch of one message can do, said once.  It considers the
message, may begin to await a response and decide, and then writes the message,
refuses it or breaks off.  A property of the dispatcher is proved by giving a
condition for each stage and showing that the few moves between stages keep it.
-/

namespace SqlSafetyProxy.MySql

open SqlSafetyProxy.Sql SqlSafetyProxy.Policy SqlSafetyProxy.Wire SqlSafetyProxy.Runtime
open SqlSafetyProxy.Coroutine SqlSafetyProxy.Collections

variable {Γ : Type}

/-- The note of what an execution is inspected as. -/
abbrev reconstruction (statement : PreparedStatement) (decoded : StmtExecuteParameters) :
    Event adapter :=
  .noted (.reconstructs statement decoded)

/-- The write of a message to the backend. -/
abbrev writeOf (message : LogicalMessage) : Event adapter :=
  .forwarded (.command message) message.rawPackets

/-- The note of a refusal. -/
abbrev refusalOf (message : LogicalMessage) (packet : Bytes) : Event adapter :=
  .noted (.refuses message packet)

/-! ## Evidence -/

/-- The command of a message; an empty message stands for an unsupported one. -/
def commandOf (message : LogicalMessage) : Command :=
  (parseLogicalCommand message).toOption.getD ⟨0xFF, .unsupported, []⟩

/-- Why a command is written as soon as it has been considered. -/
inductive Opens (command : Command) (state : SessionState) : SessionState → Prop where
  | initDb {database : String} {after : SessionState} : command.kind = .initDb →
      parseDatabaseName command.payload = .ok database →
      state.beginDatabaseChange database = .ok after → Opens command state after
  | stmtPrepare {sql : String} {after : SessionState} : command.kind = .stmtPrepare →
      parseStmtPrepare command.payload = .ok sql →
      state.beginStatementPrepare sql = .ok after → Opens command state after
  | ping {after : SessionState} : command.kind = .ping → command.payload = [] →
      state.beginPing = .ok after → Opens command state after
  | stmtReset {statementId : Nat} {after : SessionState} : command.kind = .stmtReset →
      parseStmtReset command.payload = .ok statementId →
      state.beginStatementReset statementId = .ok after → Opens command state after
  | stmtClose {statementId : Nat} : command.kind = .stmtClose →
      parseStatementId command.payload = .ok statementId →
      state.hasPendingLifecycleOperation = false →
      Opens command state (state.closePreparedStatement statementId)
  | quit : command.kind = .quit → Opens command state state.markClosing

/-- The statement that an execution names in a session. -/
def Names (state : SessionState) (statementId : Nat) (statement : PreparedStatement) : Prop :=
  if statementId = mariadbStmtIdLast then
    ∃ last, state.lastPreparedStatementId = some last ∧
      state.preparedStatements.lookup last = some statement
  else state.preparedStatements.lookup statementId = some statement

/-- What is executed and how its parameters are read, with no prepare in flight. -/
structure Resolves (tools : Tools) (command : Command) (state : SessionState)
    (execution : StmtExecute) (statement : PreparedStatement)
    (decoded : StmtExecuteParameters) : Prop where
  kind : command.kind = .stmtExecute
  parsed : parseStmtExecute command.payload = .ok execution
  names : Names state execution.statementId statement
  ready : state.hasPendingLifecycleOperation = false ∨ state.pendingPrepareEvent = some true
  reads : parseStmtExecuteParameters tools execution statement.parameterCount
    statement.parameterTypes = .ok decoded

/-- The events under which a query or an execution is written. -/
inductive Approved (tools : Tools) (opts : ProxyOptions) (command : Command) :
    List (Event adapter) → Prop where
  | query {text : String} {decision : PolicyDecision} {events : List (Event adapter)} :
      command.kind = .query → parseQuery command.payload = .ok text →
      Verdict opts decision true events →
      Approved tools opts command
        (.classified text (classify tools.glot text opts.dialect) :: events)
  | execution {statement : PreparedStatement} {decoded : StmtExecuteParameters} {text : String}
      {decision : PolicyDecision} {events : List (Event adapter)} :
      command.kind = .stmtExecute →
      reconstructStmtExecuteSql statement.sql decoded.parameters = .ok text →
      Verdict opts decision true events →
      Approved tools opts command
        (reconstruction statement decoded ::
          .classified text (classify tools.glot text opts.dialect) :: events)

/-- The ERR packets that answer a message. -/
def RefusalOf (message : LogicalMessage) (packet : Bytes) : Prop :=
  ∃ text errorCode sqlState, buildErrorPacket text (nextSequenceId message.lastSequenceId)
    errorCode sqlState = .ok packet

/-- What is done to a session when a call breaks off: some of what it awaited is forgotten. -/
structure Undoes (state session : SessionState) : Prop where
  database : session.database = state.database
  pendingDatabase : session.pendingDatabase = state.pendingDatabase
  ping : session.pendingPing = true → state.pendingPing = true
  reset : session.pendingStatementResetId.isSome = true →
    state.pendingStatementResetId.isSome = true

theorem Undoes.refl (state : SessionState) : Undoes state state := ⟨rfl, rfl, id, id⟩

theorem Undoes.trans {state middle session : SessionState} (first : Undoes state middle)
    (second : Undoes middle session) : Undoes state session :=
  ⟨second.database.trans first.database, second.pendingDatabase.trans first.pendingDatabase,
    fun ping => first.ping (second.ping ping), fun reset => first.reset (second.reset reset)⟩

theorem undoes_failCommandForward (state : SessionState) :
    Undoes state state.failCommandForward := ⟨rfl, rfl, id, id⟩

theorem undoes_failPing (state : SessionState) : Undoes state state.failPing :=
  ⟨rfl, rfl, by rintro ⟨⟩, id⟩

theorem undoes_failStatementReset (state : SessionState) :
    Undoes state state.failStatementReset := ⟨rfl, rfl, id, by rintro ⟨⟩⟩

/-! ## Stages -/

/--
A message is considered, perhaps resolved to a prepared statement, and perhaps
inspected while its response is awaited; in the end it is written, or refused
(declined as long as the response is still awaited), or the call breaks off.
-/
inductive Stage where
  | considering | resolved | awaiting | written | declined | refused | broken
  deriving DecidableEq, Repr

/-- Stages at which nothing has been written and the call may be refused. -/
def Stage.Open (stage : Stage) : Prop := stage = .considering ∨ stage = .awaiting

def Stage.refusal : Stage → Stage
  | .awaiting => .declined
  | _ => .refused

/-- How a protocol gap ends the stage: only the permissive mode lets the message through. -/
def Stage.gapped (stage : Stage) (forwarded : Bool) : Stage :=
  if forwarded then .written else stage.refusal

/-- Stages at which the call may be suspended. -/
def Stage.Steady (stage : Stage) : Prop := stage ≠ .resolved ∧ stage ≠ .broken

instance (stage : Stage) : Decidable stage.Steady := inferInstanceAs (Decidable (_ ∧ _))

/-- A condition for each stage of the dispatch of `message` that every move keeps. -/
structure Course (tools : Tools) (opts : ProxyOptions) (message : LogicalMessage)
    (C : Proc.Contract awaits (World adapter Γ))
    (held : Stage → List (Event adapter) → World adapter Γ → World adapter Γ → Prop) :
    Prop where
  records : ∀ stage events start w event, stage.Open → event.IsDecision →
    held stage events start w → held stage (events ++ [event]) start (w.log event)
  pauses : ∀ stage q events start w, stage.Steady → held stage events start w →
    C.pause q start w
  resumes : ∀ stage q events start w answer w', stage.Steady →
    held stage events start w → C.rely q w answer w' → held stage events w' w'
  prepared : ∀ w answer w', C.rely .prepareEvent w answer w' →
    w'.session.session.pendingPrepareEvent = some true
  loses : ∀ stage events start w w' session, held stage events start w →
    C.rely .drain w false w' → Undoes w'.session.session session →
    held .broken events w' (withState w' session)
  breaks : ∀ stage events start w session, stage ≠ .written → held stage events start w →
    Undoes w.session.session session → held .broken events start (withState w session)
  opens : ∀ start w after, held .considering [] start w →
    Opens (commandOf message) w.session.session after →
    held .written [writeOf message] start ((withState w after).log (writeOf message))
  resolves : ∀ start w execution statement decoded, held .considering [] start w →
    Resolves tools (commandOf message) w.session.session execution statement decoded →
    held .resolved [reconstruction statement decoded] start
      (w.log (reconstruction statement decoded))
  abandons : ∀ events start w, held .resolved events start w → held .considering events start w
  queries : ∀ start w, (commandOf message).kind = .query → held .considering [] start w →
    w.session.session.hasPendingLifecycleOperation = false →
    held .awaiting [] start (withState w (w.session.session.awaitingResponse .query))
  executes : ∀ events start w, held .resolved events start w →
    w.session.session.hasPendingLifecycleOperation = false →
    held .awaiting events start (withState w (w.session.session.awaitingResponse .stmtExecute))
  forgets : ∀ start w, held .awaiting [] start w →
    held .considering [] start (withState w w.session.session.failCommandForward)
  approves : ∀ events start w, held .awaiting events start w →
    Approved tools opts (commandOf message) events →
    held .written (events ++ [writeOf message]) start (w.log (writeOf message))
  registers : ∀ events start w statement decoded registered, held .written events start w →
    reconstruction statement decoded ∈ events →
    w.session.session.registerStatementParameterTypes statement.statementId
      decoded.parameterTypes = .ok registered →
    held .written events start (withState w registered)
  misses : ∀ events start w statement decoded error, held .written events start w →
    reconstruction statement decoded ∈ events →
    w.session.session.registerStatementParameterTypes statement.statementId
      decoded.parameterTypes = .error error → held .broken events start w
  refuses : ∀ stage events start w packet, stage.Open → held stage events start w →
    RefusalOf message packet →
    held stage.refusal (events ++ [refusalOf message packet]) start
      ((w.log (refusalOf message packet)).answer (.built packet))
  settles : ∀ events start w, held .declined events start w →
    held .refused events start (withState w w.session.session.failCommandForward)
  passes : ∀ stage events start w, stage.Open → opts.failSafeMode = .permissive →
    held stage events start w →
    held .written (events ++ [writeOf message]) start (w.log (writeOf message))
  remembers : ∀ events start w (longData : StmtLongData) marked, held .written events start w →
    (commandOf message).kind = .stmtSendLongData →
    w.session.session.markStatementLongData longData.statementId longData.parameterId =
      .ok marked → held .written events start (withState w marked)
  overlooks : ∀ events start w (longData : StmtLongData) error, held .written events start w →
    (commandOf message).kind = .stmtSendLongData →
    w.session.session.markStatementLongData longData.statementId longData.parameterId =
      .error error → held .broken events start w

/-! ## Rules -/

/-- The call has broken off, whatever of the session is then undone. -/
def BrokenOff (held : Stage → List (Event adapter) → World adapter Γ → World adapter Γ → Prop)
    (start w : World adapter Γ) : Prop :=
  ∃ events, ∀ session, Undoes w.session.session session →
    held .broken events start (withState w session)

/-- A postcondition for raising that holds wherever a call breaks off, short of protocol errors. -/
def Admits (held : Stage → List (Event adapter) → World adapter Γ → World adapter Γ → Prop)
    (fail : Exn → World adapter Γ → World adapter Γ → Prop) : Prop :=
  ∀ error start w, (∀ reason, error ≠ .protocol reason) → BrokenOff held start w →
    fail error start w

theorem buildErrorPacket_error {text sqlState : String} {sequenceId : UInt8} {errorCode : Nat}
    {error : Exn} (failed : buildErrorPacket text sequenceId errorCode sqlState = .error error) :
    error = .failure "ValueError" := by
  unfold buildErrorPacket buildPacket at failed
  split at failed
  · cases failed
    rfl
  · split at failed
    · cases failed
      rfl
    · cases failed

theorem wp_estimateStmtExecute {C : Proc.Contract awaits (World adapter Γ)}
    {fail : Exn → World adapter Γ → World adapter Γ → Prop} {start w : World adapter Γ}
    {held : List (Event adapter) → World adapter Γ → World adapter Γ → Prop}
    (carried : Carried C held) {classification : Classification} {estimateSafe : Bool}
    {database : String} {events : List (Event adapter)}
    {post : Option Int × Option String → World adapter Γ → World adapter Γ → Prop}
    (holds : held events start w)
    (finish : ∀ result start w, held events start w → post result start w) :
    Proc.wp C (estimateStmtExecute classification estimateSafe database) post fail start w := by
  simp only [estimateStmtExecute, estimateWhenSafe, Proc.wp_bind, Proc.wp_pure]
  cases estimateSafe with
  | true => exact wp_estimate carried holds fun _ start w later => finish _ start w later
  | false => exact finish _ start w holds

/-- A text is read off its bytes. -/
theorem encodeUtf8_parseText {missing invalid : String} {payload : Bytes} {text : String}
    (parsed : parseText missing invalid payload = .ok text) : encodeUtf8 text = payload := by
  unfold parseText at parsed
  split at parsed
  · cases parsed
  · split at parsed
    · next decoded =>
      cases parsed
      exact (decodeUtf8_eq_some.mp decoded).symm
    · cases parsed

theorem parseText_error {missing invalid : String} {payload : Bytes} {error : Exn}
    (failed : parseText missing invalid payload = .error error) :
    ∃ reason, error = .protocol reason := by
  unfold parseText at failed
  split at failed
  · cases failed
    exact ⟨_, rfl⟩
  · split at failed
    · cases failed
    · cases failed
      exact ⟨_, rfl⟩

namespace Course

variable {tools : Tools} {opts : ProxyOptions} {message : LogicalMessage}
  {C : Proc.Contract awaits (World adapter Γ)}
  {held : Stage → List (Event adapter) → World adapter Γ → World adapter Γ → Prop}
  {fail : Exn → World adapter Γ → World adapter Γ → Prop}
  {start w : World adapter Γ} {events : List (Event adapter)} {stage : Stage}

theorem steady (isOpen : stage.Open) : stage.Steady := by
  rcases isOpen with rfl | rfl <;> decide

theorem ne_written (isOpen : stage.Open) : stage ≠ .written := by
  rcases isOpen with rfl | rfl <;> decide

theorem carried (course : Course tools opts message C held) (isOpen : stage.Open) :
    Carried C (held stage) where
  records events start w event isDecision _ holds :=
    course.records stage events start w event isOpen isDecision holds
  pauses q events start w holds := course.pauses stage q events start w (steady isOpen) holds
  resumes q events start w answer w' holds relied :=
    course.resumes stage q events start w answer w' (steady isOpen) holds relied

theorem brokenOff (course : Course tools opts message C held) (unwritten : stage ≠ .written)
    (holds : held stage events start w) : BrokenOff held start w :=
  ⟨events, fun session undoes => course.breaks stage events start w session unwritten holds undoes⟩

/-- A drain ends in the same stage, or the connection is lost. -/
theorem drains (course : Course tools opts message C held) (admits : Admits held fail)
    {post : Unit → World adapter Γ → World adapter Γ → Prop} (known : stage.Steady)
    (holds : held stage events start w)
    (finish : ∀ start w, held stage events start w → post () start w) :
    Proc.wp C drain post fail start w := by
  apply wp_drain (course.pauses _ _ _ _ _ known holds)
  · intro w' relied
    exact finish _ _ (course.resumes _ _ _ _ _ _ _ known holds relied)
  · intro w' relied
    refine admits _ _ _ (by simp) ⟨events, ?_⟩
    exact fun session undoes => course.loses _ _ _ _ _ session holds relied undoes

/-- Once the write is behind it, a forwarding call has written the message. -/
theorem forwards (course : Course tools opts message C held) (admits : Admits held fail)
    {post : Bool → World adapter Γ → World adapter Γ → Prop}
    (holds : held .written events start (w.log (writeOf message)))
    (finish : ∀ start w, held .written events start w → post true start w) :
    Proc.wp C (forward message) post fail start w := by
  simp only [forward, Proc.wp_bind, wp_writeBackend, Proc.wp_pure]
  exact course.drains admits (by decide) holds finish

theorem refusing (course : Course tools opts message C held) (admits : Admits held fail)
    (isOpen : stage.Open) {text sqlState : String} {errorCode : Nat}
    {post : Bool → World adapter Γ → World adapter Γ → Prop} (holds : held stage events start w)
    (finish : ∀ added start w, held stage.refusal (events ++ added) start w →
      post false start w) :
    Proc.wp C (refuse message text errorCode sqlState) post fail start w := by
  simp only [refuse, Proc.wp_bind, wp_record, wp_writeClient, Proc.wp_pure]
  apply Proc.wp_ofExcept
  · intro packet built
    have refused := course.refuses _ _ _ _ packet isOpen holds ⟨_, _, _, built⟩
    refine course.drains admits ?_ refused (finish _)
    rcases isOpen with rfl | rfl <;> decide
  · intro error failed
    rw [buildErrorPacket_error failed]
    exact admits _ _ _ (by simp) (course.brokenOff (ne_written isOpen) holds)

/-- A protocol gap is refused, or let through in the permissive mode. -/
theorem gap (course : Course tools opts message C held) (admits : Admits held fail)
    (isOpen : stage.Open) {reason database : String} {commandCode : Option UInt8}
    {post : Bool → World adapter Γ → World adapter Γ → Prop} (holds : held stage events start w)
    (finish : ∀ forwarded added start w, held (stage.gapped forwarded) (events ++ added) start w →
      (forwarded = true → opts.failSafeMode = .permissive) → post forwarded start w) :
    Proc.wp C (handleMysqlProtocolGap tools opts reason commandCode message database)
      post fail start w := by
  simp only [handleMysqlProtocolGap, Proc.wp_bind]
  refine wp_writeAuditEvent (course.carried isOpen) holds ?_
  intro added start w later audited
  by_cases permissive : opts.failSafeMode = .permissive
  · have allows : (evaluateProtocolGap opts.failSafeMode reason).action = .allow := by
      simp [evaluateProtocolGap, permissive]
    simp only [allows, if_true]
    have written := course.passes _ _ _ _ isOpen permissive later
    rw [List.append_assoc] at written
    refine course.forwards admits written ?_
    exact fun start w ended => finish true _ start w ended fun _ => permissive
  · have blocks : (evaluateProtocolGap opts.failSafeMode reason).action = .block :=
      evaluateProtocolGap_blocks reason permissive
    simp only [blocks, reduceCtorEq, if_false]
    refine course.refusing admits isOpen later ?_
    intro refusal start w refused
    rw [List.append_assoc] at refused
    exact finish false _ start w refused (by rintro ⟨⟩)

theorem commandGap (course : Course tools opts message C held) (admits : Admits held fail)
    (isOpen : stage.Open) {command : Command} {reason : String}
    {post : Bool → World adapter Γ → World adapter Γ → Prop} (holds : held stage events start w)
    (finish : ∀ forwarded added start w, held (stage.gapped forwarded) (events ++ added) start w →
      (forwarded = true → opts.failSafeMode = .permissive) → post forwarded start w) :
    Proc.wp C (MySql.commandGap tools opts message command reason) post fail start w := by
  simp only [MySql.commandGap, Proc.wp_bind, wp_sessionState]
  exact course.gap admits isOpen holds finish

/-! ### Decisions -/

/-- How an inspected call ends: written, or declined while its response is still awaited. -/
def inspected (forwarded : Bool) : Stage := if forwarded then .written else .declined

/-- Decide on an inspected message and carry the decision out. -/
theorem decides (course : Course tools opts message C held) (admits : Admits held fail)
    {sql protocol database : String} {classification : Classification}
    {estimatedRows : Option Int} {estimateError : Option String}
    {post : Bool → World adapter Γ → World adapter Γ → Prop}
    (holds : held .awaiting events start w)
    (clears : ∀ decision added, Verdict opts decision true added →
      Approved tools opts (commandOf message) (events ++ added))
    (finish : ∀ forwarded added start w, held (inspected forwarded) (events ++ added) start w →
      post forwarded start w) :
    Proc.wp C
      (evaluateAndDecide tools opts sql protocol classification estimatedRows estimateError false
        database >>= carryOut message classification estimatedRows) post fail start w := by
  simp only [Proc.wp_bind]
  refine wp_evaluateAndDecide (course.carried (.inr rfl)) holds ?_ ?_
  · intro decision approved added start w later _ verdict
    cases approved with
    | true =>
        have written := course.approves _ _ _ later (clears decision added verdict)
        rw [List.append_assoc] at written
        exact course.forwards admits written (finish true _)
    | false =>
        refine course.refusing admits (.inr rfl) later ?_
        intro refusal start w refused
        rw [List.append_assoc] at refused
        exact finish false _ start w refused
  · intro exception added start w later _
    exact admits _ _ _ (by simp) (course.brokenOff (by decide) later)

/-- A query is inspected while its response is awaited; its text may not decode. -/
theorem query (course : Course tools opts message C held) (admits : Admits held fail)
    {database : String} {post : Bool → World adapter Γ → World adapter Γ → Prop}
    (kind : (commandOf message).kind = .query) (holds : held .awaiting [] start w)
    (finish : ∀ forwarded events start w, held (inspected forwarded) events start w →
      post forwarded start w)
    (malformed : ∀ reason, fail (.protocol reason) start w) :
    Proc.wp C (handleMysqlQuery tools opts message (commandOf message).payload database)
      post fail start w := by
  simp only [handleMysqlQuery, Proc.wp_bind]
  apply Proc.wp_ofExcept
  · intro text parsed
    rw [wp_classifySql]
    have classified := course.records _ _ _ _
      (.classified text (classify tools.glot text opts.dialect)) (.inr rfl) trivial holds
    refine wp_estimate (course.carried (.inr rfl)) classified ?_
    intro estimated start w later
    rw [← Proc.wp_bind]
    refine course.decides admits later ?_ (fun forwarded added => finish forwarded _)
    intro decision added verdict
    exact .query kind parsed verdict
  · intro error failed
    obtain ⟨reason, rfl⟩ := parseText_error failed
    exact malformed reason

/-- An execution is inspected as its reconstructed text. -/
theorem execution (course : Course tools opts message C held) (admits : Admits held fail)
    {text description database : String} {estimateSafe : Bool} {statement : PreparedStatement}
    {decoded : StmtExecuteParameters}
    {post : Bool → World adapter Γ → World adapter Γ → Prop}
    (kind : (commandOf message).kind = .stmtExecute)
    (reconstructed : reconstructStmtExecuteSql statement.sql decoded.parameters = .ok text)
    (holds : held .awaiting [reconstruction statement decoded] start w)
    (finish : ∀ forwarded events start w,
      held (inspected forwarded) (reconstruction statement decoded :: events) start w →
      post forwarded start w) :
    Proc.wp C (handleMysqlStmtExecute tools opts message text description estimateSafe database)
      post fail start w := by
  simp only [handleMysqlStmtExecute, Proc.wp_bind, wp_classifySql]
  have classified := course.records _ _ _ _
    (.classified text (classify tools.glot text opts.dialect)) (.inr rfl) trivial holds
  split
  · refine course.gap admits (.inr rfl) classified ?_
    intro forwarded added start w ended _
    exact finish forwarded _ start w ended
  · rw [Proc.wp_bind]
    refine wp_estimateStmtExecute (course.carried (.inr rfl)) classified ?_
    intro estimated start w later
    refine course.decides admits later ?_ (fun forwarded added => finish forwarded _)
    intro decision added verdict
    exact .execution kind reconstructed verdict

/-! ### Ends of a call -/

/-- How a call that returns ends. -/
def reached (forwarded : Bool) : Stage := if forwarded then .written else .refused

/--
A postcondition of calls that return: it holds wherever a message has been
written or refused, and for an execution once its types have been registered.
-/
structure Concludes (opts : ProxyOptions) (message : LogicalMessage)
    (held : Stage → List (Event adapter) → World adapter Γ → World adapter Γ → Prop)
    (done : Bool → World adapter Γ → World adapter Γ → Prop) : Prop where
  returns : ∀ forwarded events start w, held (reached forwarded) events start w →
    (forwarded = true →
      (commandOf message).kind ≠ .stmtExecute ∨ opts.failSafeMode = .permissive) →
    done forwarded start w
  registers : ∀ events start w statement decoded registered, held .written events start w →
    reconstruction statement decoded ∈ events →
    w.session.session.registerStatementParameterTypes statement.statementId
      decoded.parameterTypes = .ok registered → done true start (withState w registered)

variable {done : Bool → World adapter Γ → World adapter Γ → Prop}

/-- A message that is considered has been let through, or refused. -/
theorem Concludes.gapped (concludes : Concludes opts message held done)
    (events : List (Event adapter)) (forwarded : Bool) (added : List (Event adapter))
    (start w : World adapter Γ)
    (ended : held (Stage.gapped .considering forwarded) (events ++ added) start w)
    (permissive : forwarded = true → opts.failSafeMode = .permissive) : done forwarded start w :=
  concludes.returns forwarded _ start w ended fun isForwarded => .inr (permissive isForwarded)

/-- The call has returned at one of the stages at which calls return. -/
theorem concludes_reached (course : Course tools opts message C held) :
    Concludes opts message held
      (fun forwarded start w => ∃ events, held (reached forwarded) events start w) where
  returns _ events _ _ ended _ := ⟨events, ended⟩
  registers events start w statement decoded registered written present done :=
    ⟨events, course.registers events start w statement decoded registered written present done⟩

/-- The call has broken off. -/
def Fails (held : Stage → List (Event adapter) → World adapter Γ → World adapter Γ → Prop)
    (start w : World adapter Γ) : Prop :=
  ∃ events, held .broken events start w

theorem admits_fails : Admits held (fun _ start w => Fails held start w) := by
  rintro error start w - ⟨events, broken⟩
  exact ⟨events, broken _ (.refl w.session.session)⟩

/-- Protocol errors may be caught. -/
theorem admits_attempt (admits : Admits held fail)
    {caught : String → World adapter Γ → World adapter Γ → Prop} :
    Admits held (fun error start w =>
      match error with
      | .protocol reason => caught reason start w
      | other => fail other start w) := by
  intro error start w other broken
  cases error with
  | protocol reason => exact absurd rfl (other reason)
  | connectionLost => exact admits _ _ _ other broken
  | failure exception => exact admits _ _ _ other broken

/-- What is undone in the session before an exception goes on. -/
theorem admits_onRaise (admits : Admits held fail) {cleanup : SessionState → SessionState}
    (undoes : ∀ state, Undoes state (cleanup state)) :
    Admits held (fun error start w =>
      Proc.wp C (updateSession cleanup) (fun _ start w => fail error start w) fail start w) := by
  rintro error start w other ⟨events, broken⟩
  exact admits _ _ _ other
    ⟨events, fun session later => broken session ((undoes w.session.session).trans later)⟩

/-! ### Queries -/

theorem settlesResponse (course : Course tools opts message C held)
    (concludes : Concludes opts message held done) {forwarded : Bool}
    (other : forwarded = true → (commandOf message).kind ≠ .stmtExecute)
    (holds : held (inspected forwarded) events start w) :
    Proc.wp C (settleResponse forwarded) done fail start w := by
  cases forwarded with
  | true => exact concludes.returns true events _ _ holds fun _ => .inl (other rfl)
  | false =>
      exact concludes.returns false events _ _ (course.settles _ _ _ holds) (by rintro ⟨⟩)

theorem inspectsQuery (course : Course tools opts message C held)
    (concludes : Concludes opts message held done)
    (kind : (commandOf message).kind = .query)
    (holds : held .awaiting [] start w) :
    Proc.wp C (inspectQuery tools opts message (commandOf message)) done
      (fun _ start w => Fails held start w) start w := by
  simp only [inspectQuery, Proc.wp_bind, wp_sessionState]
  apply wp_onRaise
  apply wp_attempt
  have undone := admits_onRaise (C := C) (@admits_fails _ held) undoes_failCommandForward
  refine course.query (admits_attempt undone) kind holds ?_ ?_
  · intro forwarded events start w ended
    exact course.settlesResponse concludes (fun _ => by simp [kind]) ended
  · intro reason
    simp only [Proc.wp_bind, wp_updateSession]
    have forgotten := course.forgets _ _ holds
    exact course.commandGap admits_fails (.inl rfl) forgotten (concludes.gapped [])

/-- A protocol error before any write is caught; any other breaks the call off. -/
theorem caught (course : Course tools opts message C held) (admits : Admits held fail)
    (unwritten : stage ≠ .written) (holds : held stage events start w)
    {handler : String → World adapter Γ → World adapter Γ → Prop}
    (handles : ∀ reason, handler reason start w) (error : Exn) :
    match error with
    | .protocol reason => handler reason start w
    | other => fail other start w := by
  cases error with
  | protocol reason => exact handles reason
  | connectionLost => exact admits _ _ _ (by simp) (course.brokenOff unwritten holds)
  | failure exception => exact admits _ _ _ (by simp) (course.brokenOff unwritten holds)

theorem blocks (course : Course tools opts message C held)
    (concludes : Concludes opts message held done) {reason : String}
    (holds : held .considering events start w) :
    Proc.wp C (blockProtocolStateError reason message) done
      (fun _ start w => Fails held start w) start w := by
  refine course.refusing admits_fails (.inl rfl) holds ?_
  exact fun added start w ended => concludes.gapped events false added start w ended (by rintro ⟨⟩)

theorem dispatchesQuery (course : Course tools opts message C held)
    (concludes : Concludes opts message held done)
    (kind : (commandOf message).kind = .query)
    (holds : held .considering [] start w) :
    Proc.wp C (dispatchQuery tools opts message (commandOf message)) done
      (fun _ start w => Fails held start w) start w := by
  simp only [dispatchQuery, Proc.wp_bind]
  apply wp_attempt
  apply wp_changeSession
  · intro begun started
    obtain ⟨free, rfl⟩ := beginCommandResponse_ok started
    exact course.inspectsQuery concludes kind (course.queries _ _ kind holds free)
  · intro error failed
    exact course.caught admits_fails (by decide) holds (fun _ => course.blocks concludes holds)
      error

/-! ### Commands written as they are -/

theorem gaps (course : Course tools opts message C held)
    (concludes : Concludes opts message held done) {command : Command} {reason : String}
    (holds : held .considering events start w) :
    Proc.wp C (MySql.commandGap tools opts message command reason) done
      (fun _ start w => Fails held start w) start w :=
  course.commandGap admits_fails (.inl rfl) holds (concludes.gapped events)

/-- An execution is not written as it stands. -/
theorem opens_kind {command : Command} {state after : SessionState}
    (opens : Opens command state after) : command.kind ≠ .stmtExecute := by
  cases opens with
  | initDb kind _ _ => simp [kind]
  | stmtPrepare kind _ _ => simp [kind]
  | ping kind _ _ => simp [kind]
  | stmtReset kind _ _ => simp [kind]
  | stmtClose kind _ _ => simp [kind]
  | quit kind => simp [kind]

/-- Forward a message whose command opens an operation. -/
theorem forwardsOpening (course : Course tools opts message C held)
    (concludes : Concludes opts message held done) (admits : Admits held fail)
    {after : SessionState} (holds : held .considering [] start w)
    (opens : Opens (commandOf message) w.session.session after) :
    Proc.wp C (forward message) done fail start (withState w after) :=
  course.forwards admits (course.opens _ _ _ holds opens) fun _ _ written =>
    concludes.returns true _ _ _ written fun _ => .inl (opens_kind opens)

theorem dispatchesBeginning (course : Course tools opts message C held)
    (concludes : Concludes opts message held done)
    {change : SessionState → Except Exn SessionState} (holds : held .considering [] start w)
    (opens : ∀ after, change w.session.session = .ok after →
      Opens (commandOf message) w.session.session after) :
    Proc.wp C (dispatchBeginning tools opts message (commandOf message) change) done
      (fun _ start w => Fails held start w) start w := by
  simp only [dispatchBeginning, Proc.wp_bind]
  apply wp_attempt
  apply wp_changeSession
  · intro after changed
    exact course.forwardsOpening concludes admits_fails holds (opens after changed)
  · intro error failed
    exact course.caught admits_fails (by decide) holds (fun _ => course.gaps concludes holds) error

theorem dispatchesAcknowledged (course : Course tools opts message C held)
    (concludes : Concludes opts message held done)
    {change : SessionState → Except Exn SessionState} {undo : SessionState → SessionState}
    (undoes : ∀ state, Undoes state (undo state)) (holds : held .considering [] start w)
    (opens : ∀ after, change w.session.session = .ok after →
      Opens (commandOf message) w.session.session after) :
    Proc.wp C (dispatchAcknowledged message change undo) done
      (fun _ start w => Fails held start w) start w := by
  simp only [dispatchAcknowledged, Proc.wp_bind]
  apply wp_onRaise
  apply wp_attempt
  simp only [Proc.wp_bind]
  apply wp_changeSession
  · intro after changed
    exact course.forwardsOpening concludes (admits_attempt (admits_onRaise admits_fails undoes))
      holds (opens after changed)
  · intro error failed
    exact course.caught (admits_onRaise admits_fails undoes) (by decide) holds
      (fun _ => course.blocks concludes holds) error

theorem dispatchesClose (course : Course tools opts message C held)
    (concludes : Concludes opts message held done)
    (kind : (commandOf message).kind = .stmtClose)
    (holds : held .considering [] start w) :
    Proc.wp C (dispatchStmtClose tools opts message (commandOf message)) done
      (fun _ start w => Fails held start w) start w := by
  simp only [dispatchStmtClose, Proc.wp_bind, wp_sessionState]
  cases pending : w.session.session.hasPendingLifecycleOperation with
  | true =>
      rw [if_pos rfl]
      generalize ("COM_STMT_CLOSE cannot run while a MySQL command " ++
        "acknowledgment is pending") = reason
      exact course.blocks concludes holds
  | false =>
      simp only [Bool.false_eq_true, if_false, Proc.wp_bind]
      apply wp_attempt
      apply Proc.wp_ofExcept
      · intro statementId parsed
        exact course.forwardsOpening concludes admits_fails holds (.stmtClose kind parsed pending)
      · intro error failed
        exact course.caught admits_fails (by decide) holds
          (fun _ => course.gaps concludes holds) error

/-! ### Executions -/

theorem getLastPreparedStatement_ok {state : SessionState} {statement : PreparedStatement}
    (found : state.getLastPreparedStatement = .ok statement) :
    ∃ last, state.lastPreparedStatementId = some last ∧
      state.preparedStatements.lookup last = some statement := by
  unfold SessionState.getLastPreparedStatement at found
  split at found
  · cases found
  · next last known => exact ⟨last, known, getPreparedStatement_ok found⟩

theorem awaitedStatement_ok {state : SessionState} {statement : PreparedStatement}
    (found : state.awaitedStatement = .ok (some statement)) :
    ∃ last, state.lastPreparedStatementId = some last ∧
      state.preparedStatements.lookup last = some statement := by
  unfold SessionState.awaitedStatement at found
  split at found
  · cases found
  · split at found
    · cases found
    · next last known =>
      cases looked : state.getPreparedStatement last with
      | error error =>
          rw [looked] at found
          cases found
      | ok same =>
          rw [looked] at found
          cases found
          exact ⟨last, known, getPreparedStatement_ok looked⟩

theorem parseStmtExecute_statementId {payload : Bytes} {execution : StmtExecute}
    (parsed : parseStmtExecute payload = .ok execution) :
    4 ≤ payload.length ∧ leNat (payload.take 4) = execution.statementId := by
  unfold parseStmtExecute at parsed
  split at parsed
  · cases parsed
    simp
  · cases parsed

/-- Nothing is awaited, or only the prepare that the execution may wait for. -/
def Admitted (command : Command) (state : SessionState) : Prop :=
  state.hasPendingLifecycleOperation = false ∨ isPipelinedExecute command state = true

theorem free_of_notPipelined {command : Command} {state : SessionState}
    (admitted : Admitted command state) (other : isPipelinedExecute command state = false) :
    state.hasPendingLifecycleOperation = false := by
  rcases admitted with free | pipelined
  · exact free
  · rw [other] at pipelined
    cases pipelined

/-- The statement of an execution is looked up when no prepare is in flight. -/
theorem executesStatement (course : Course tools opts message C held) {execution : StmtExecute}
    (parsed : parseStmtExecute (commandOf message).payload = .ok execution)
    (admitted : Admitted (commandOf message) w.session.session)
    (holds : held .considering [] start w)
    {post : Option PreparedStatement → World adapter Γ → World adapter Γ → Prop}
    (finish : ∀ statement start w, held .considering [] start w →
      (∀ known, statement = some known → Names w.session.session execution.statementId known ∧
        (w.session.session.hasPendingLifecycleOperation = false ∨
          w.session.session.pendingPrepareEvent = some true)) → post statement start w)
    (raises : ∀ error start w, held .considering [] start w → fail error start w) :
    Proc.wp C (executedStatement execution) post fail start w := by
  obtain ⟨long, same⟩ := parseStmtExecute_statementId parsed
  unfold executedStatement
  by_cases isLast : execution.statementId = mariadbStmtIdLast
  · simp only [if_pos isLast, lastStatement, Proc.wp_bind, wp_sessionState]
    have names : ∀ (state : SessionState) (known : PreparedStatement),
        (∃ last, state.lastPreparedStatementId = some last ∧
          state.preparedStatements.lookup last = some known) →
        Names state execution.statementId known := by
      intro state known found
      rw [Names, if_pos isLast]
      exact found
    cases preparing : w.session.session.pendingStatementSql with
    | none =>
        have free : w.session.session.hasPendingLifecycleOperation = false :=
          free_of_notPipelined admitted (by simp [isPipelinedExecute, preparing])
        simp only [Option.isSome_none, Bool.false_eq_true, if_false, Proc.wp_bind, Proc.wp_pure]
        apply Proc.wp_ofExcept
        · intro known found
          refine finish _ _ _ holds ?_
          rintro _ ⟨⟩
          exact ⟨names _ _ (getLastPreparedStatement_ok found), .inl free⟩
        · intro error failed
          exact raises error _ _ holds
    | some sql =>
        simp only [Option.isSome_some, if_true]
        split
        · rw [Proc.wp_raised]
          exact raises _ _ _ holds
        · simp only [Proc.wp_bind, wp_sessionState]
          apply wp_request _ (course.pauses _ _ _ _ _ (by decide) holds)
          intro answer w' relied
          have later := course.resumes _ _ _ _ _ _ _ (by decide) holds relied
          apply Proc.wp_ofExcept
          · intro statement found
            refine finish _ _ _ later ?_
            rintro known rfl
            exact ⟨names _ _ (awaitedStatement_ok found), .inr (course.prepared _ _ _ relied)⟩
          · intro error failed
            exact raises error _ _ later
  · have free : w.session.session.hasPendingLifecycleOperation = false := by
      refine free_of_notPipelined admitted ?_
      simp [isPipelinedExecute, same, isLast]
    simp only [if_neg isLast, Proc.wp_bind, wp_sessionState, Proc.wp_pure]
    apply Proc.wp_ofExcept
    · intro known found
      refine finish _ _ _ holds ?_
      rintro _ ⟨⟩
      rw [Names, if_neg isLast]
      exact ⟨getPreparedStatement_ok found, .inl free⟩
    · intro error failed
      exact raises error _ _ holds

/-- A reconstruction is noted once the parameters have been decoded. -/
theorem reconstructs (course : Course tools opts message C held) {execution : StmtExecute}
    {statement : PreparedStatement} (holds : held .considering [] start w)
    (resolves : ∀ decoded, parseStmtExecuteParameters tools execution statement.parameterCount
      statement.parameterTypes = .ok decoded →
      Resolves tools (commandOf message) w.session.session execution statement decoded)
    {post : StmtExecuteParameters × String → World adapter Γ → World adapter Γ → Prop}
    (finish : ∀ decoded text start w, held .resolved [reconstruction statement decoded] start w →
      reconstructStmtExecuteSql statement.sql decoded.parameters = .ok text →
      post (decoded, text) start w)
    (raises : ∀ error events start w, held .considering events start w → fail error start w) :
    Proc.wp C (reconstructExecution tools execution statement) post fail start w := by
  unfold reconstructExecution
  split
  · rw [Proc.wp_raised]
    exact raises _ _ _ _ holds
  · simp only [Proc.wp_bind, wp_record, Proc.wp_pure]
    apply Proc.wp_ofExcept
    · intro decoded parsed
      have resolved := course.resolves _ _ _ _ _ holds (resolves decoded parsed)
      apply Proc.wp_ofExcept
      · intro text reconstructed
        exact finish _ _ _ _ resolved reconstructed
      · intro error failed
        exact raises _ _ _ _ (course.abandons _ _ _ resolved)
    · intro error failed
      exact raises _ _ _ _ holds

theorem resolvesExecution (course : Course tools opts message C held)
    (kind : (commandOf message).kind = .stmtExecute)
    (admitted : Admitted (commandOf message) w.session.session)
    (holds : held .considering [] start w)
    {post : Option (PreparedStatement × StmtExecuteParameters × String) →
      World adapter Γ → World adapter Γ → Prop}
    (absent : ∀ start w, held .considering [] start w → post none start w)
    (finish : ∀ statement decoded text start w,
      held .resolved [reconstruction statement decoded] start w →
      reconstructStmtExecuteSql statement.sql decoded.parameters = .ok text →
      post (some (statement, decoded, text)) start w)
    (raises : ∀ error events start w, held .considering events start w → fail error start w) :
    Proc.wp C (resolveExecution tools (commandOf message)) post fail start w := by
  simp only [resolveExecution, Proc.wp_bind]
  apply Proc.wp_ofExcept
  · intro execution parsed
    refine course.executesStatement parsed admitted holds ?_ (fun error => raises error [])
    intro statement start w later named
    cases statement with
    | none => exact absent _ _ later
    | some known =>
        obtain ⟨names, ready⟩ := named known rfl
        simp only [Proc.wp_bind, Proc.wp_pure]
        refine course.reconstructs later ?_ (finish known) raises
        intro decoded reads
        exact ⟨kind, parsed, names, ready, reads⟩
  · intro error failed
    exact raises _ _ _ _ holds

theorem settlesExecution (course : Course tools opts message C held)
    (concludes : Concludes opts message held done)
    {statement : PreparedStatement} {decoded : StmtExecuteParameters} {forwarded : Bool}
    (holds : held (inspected forwarded) (reconstruction statement decoded :: events) start w) :
    Proc.wp C (settleExecution statement decoded forwarded) done
      (fun _ start w => Fails held start w) start w := by
  cases forwarded with
  | false => exact course.settlesResponse concludes (by rintro ⟨⟩) holds
  | true =>
      simp only [settleExecution, if_true, Proc.wp_bind, Proc.wp_pure]
      apply wp_changeSession
      · intro registered changed
        exact concludes.registers _ _ _ _ _ _ holds (by simp) changed
      · intro error failed
        exact ⟨_, course.misses _ _ _ _ _ _ holds (by simp) failed⟩

theorem inspectsExecution (course : Course tools opts message C held)
    (concludes : Concludes opts message held done)
    (kind : (commandOf message).kind = .stmtExecute)
    {statement : PreparedStatement} {decoded : StmtExecuteParameters} {text : String}
    (reconstructed : reconstructStmtExecuteSql statement.sql decoded.parameters = .ok text)
    (holds : held .resolved [reconstruction statement decoded] start w) :
    Proc.wp C (inspectExecution tools opts message statement decoded text) done
      (fun _ start w => Fails held start w) start w := by
  simp only [inspectExecution, Proc.wp_bind]
  apply wp_onRaise
  simp only [Proc.wp_bind]
  apply wp_changeSession
  · intro begun started
    obtain ⟨free, rfl⟩ := beginCommandResponse_ok started
    rw [wp_sessionState]
    refine course.execution (admits_onRaise admits_fails undoes_failCommandForward) kind
      reconstructed (course.executes _ _ _ holds free) ?_
    intro forwarded events start w ended
    exact course.settlesExecution concludes ended
  · intro error failed
    rw [wp_updateSession]
    exact ⟨_, course.breaks _ _ _ _ _ (by decide) holds (undoes_failCommandForward _)⟩

theorem dispatchesExecute (course : Course tools opts message C held)
    (concludes : Concludes opts message held done)
    (kind : (commandOf message).kind = .stmtExecute)
    (admitted : Admitted (commandOf message) w.session.session)
    (holds : held .considering [] start w) :
    Proc.wp C (dispatchStmtExecute tools opts message (commandOf message)) done
      (fun _ start w => Fails held start w) start w := by
  simp only [dispatchStmtExecute, Proc.wp_bind]
  generalize ("Pipelined COM_STMT_EXECUTE follows a failed " ++ "COM_STMT_PREPARE") = reason
  apply wp_attempt
  refine course.resolvesExecution kind admitted holds ?_ ?_ ?_
  · intro start w later
    exact course.blocks concludes later
  · intro statement decoded text start w resolved reconstructed
    exact course.inspectsExecution concludes kind reconstructed resolved
  · intro error events start w later
    exact course.caught admits_fails (by decide) later (fun _ => course.gaps concludes later)
      error

/-! ### The whole dispatch -/

/-- A check of long data changes nothing. -/
theorem wp_checkLongData {command : Command}
    {post : StmtLongData → World adapter Γ → World adapter Γ → Prop}
    (finish : ∀ longData, post longData start w) (raises : ∀ error, fail error start w) :
    Proc.wp C (checkLongData command) post fail start w := by
  simp only [checkLongData, Proc.wp_bind, wp_sessionState]
  apply Proc.wp_ofExcept
  · intro longData parsed
    apply Proc.wp_ofExcept
    · intro statement found
      split
      · exact raises _
      · exact finish longData
    · exact fun error _ => raises error
  · exact fun error _ => raises error

/-- Where long data was let through, its parameter is remembered. -/
theorem settlesLongData (course : Course tools opts message C held)
    (concludes : Concludes opts message held done)
    (kind : (commandOf message).kind = .stmtSendLongData) (longData : StmtLongData)
    {forwarded : Bool} (holds : held (reached forwarded) events start w) :
    Proc.wp C (settleLongData longData forwarded) done
      (fun _ start w => Fails held start w) start w := by
  cases forwarded with
  | false => exact concludes.returns false _ _ _ holds (by rintro ⟨⟩)
  | true =>
      simp only [settleLongData, if_true, Proc.wp_bind, Proc.wp_pure]
      apply wp_changeSession
      · intro marked changed
        refine concludes.returns true _ _ _ (course.remembers _ _ _ _ _ holds kind changed) ?_
        exact fun _ => .inl (by simp [kind])
      · intro error failed
        exact ⟨_, course.overlooks _ _ _ _ _ holds kind failed⟩

/-- Long data is a gap whether or not it names a known parameter. -/
theorem dispatchesLongData (course : Course tools opts message C held)
    (concludes : Concludes opts message held done)
    (kind : (commandOf message).kind = .stmtSendLongData) (holds : held .considering [] start w) :
    Proc.wp C (dispatchStmtSendLongData tools opts message (commandOf message)) done
      (fun _ start w => Fails held start w) start w := by
  simp only [dispatchStmtSendLongData, Proc.wp_bind]
  generalize ("COM_STMT_SEND_LONG_DATA values cannot be inspected " ++
    "before prepared-statement execution") = reason
  apply wp_attempt
  refine wp_checkLongData ?_ ?_
  · intro longData
    rw [Proc.wp_bind]
    refine course.commandGap admits_fails (.inl rfl) holds ?_
    intro forwarded added start w ended _
    exact course.settlesLongData concludes kind longData ended
  · exact course.caught admits_fails (by decide) holds (fun _ => course.gaps concludes holds)

theorem routes (course : Course tools opts message C held)
    (concludes : Concludes opts message held done)
    (admitted : (commandOf message).kind = .quit ∨
      Admitted (commandOf message) w.session.session)
    (holds : held .considering [] start w) :
    Proc.wp C (routeCommand tools opts message (commandOf message)) done
      (fun _ start w => Fails held start w) start w := by
  unfold routeCommand
  cases kind : (commandOf message).kind with
  | query => exact course.dispatchesQuery concludes kind holds
  | initDb =>
      refine course.dispatchesBeginning concludes holds ?_
      intro after changed
      obtain ⟨database, parsed, begun⟩ := bind_ok changed
      exact .initDb kind parsed begun
  | stmtPrepare =>
      refine course.dispatchesBeginning concludes holds ?_
      intro after changed
      obtain ⟨sql, parsed, begun⟩ := bind_ok changed
      exact .stmtPrepare kind parsed begun
  | quit => exact course.forwardsOpening concludes admits_fails holds (.quit kind)
  | ping =>
      simp only [dispatchPing]
      generalize "COM_PING payload must be empty" = reason
      split
      · exact course.blocks concludes holds
      · next empty =>
        exact course.dispatchesAcknowledged concludes undoes_failPing holds fun after begun =>
          .ping kind (not_not.mp empty) begun
  | stmtReset =>
      refine course.dispatchesAcknowledged concludes undoes_failStatementReset holds ?_
      intro after changed
      obtain ⟨statementId, parsed, begun⟩ := bind_ok changed
      exact .stmtReset kind parsed begun
  | stmtClose => exact course.dispatchesClose concludes kind holds
  | stmtExecute =>
      refine course.dispatchesExecute concludes kind ?_ holds
      rcases admitted with quit | admitted
      · rw [kind] at quit
        cases quit
      · exact admitted
  | stmtSendLongData => exact course.dispatchesLongData concludes kind holds
  | unsupported =>
      generalize ("Unsupported MySQL command " ++ hexCode (commandOf message).commandCode) = reason
      exact course.gaps concludes holds

theorem dispatchesTo (course : Course tools opts message C held)
    (concludes : Concludes opts message held done) (holds : held .considering [] start w) :
    Proc.wp C (dispatchAuthenticatedCommand tools opts message) done
      (fun _ start w => Fails held start w) start w := by
  unfold dispatchAuthenticatedCommand
  generalize ("A MySQL command cannot run while a prior command " ++
    "acknowledgment is pending") = reason
  cases parsed : parseLogicalCommand message with
  | error error =>
      cases error with
      | protocol reason =>
          simp only [Proc.wp_bind, wp_sessionState]
          exact course.gap admits_fails (.inl rfl) holds (concludes.gapped [])
      | connectionLost => exact ⟨_, course.breaks _ _ _ _ _ (by decide) holds (.refl _)⟩
      | failure exception => exact ⟨_, course.breaks _ _ _ _ _ (by decide) holds (.refl _)⟩
  | ok command =>
      have same : command = commandOf message := by simp [commandOf, parsed, Except.toOption]
      subst same
      simp only [Proc.wp_bind, wp_sessionState]
      split
      · exact course.blocks concludes holds
      · next free =>
        refine course.routes concludes ?_ holds
        by_cases quit : (commandOf message).kind = .quit
        · exact .inl quit
        · refine .inr ?_
          by_cases pending : w.session.session.hasPendingLifecycleOperation = true
          · right
            by_contra other
            exact free ⟨pending, quit, by simpa using other⟩
          · left
            simpa using pending

/-- A dispatch that returns has written the message or refused it; one that raises breaks off. -/
theorem dispatches (course : Course tools opts message C held)
    (holds : held .considering [] start w) :
    Proc.wp C (dispatchAuthenticatedCommand tools opts message)
      (fun forwarded start w => ∃ events, held (reached forwarded) events start w)
      (fun _ start w => Fails held start w) start w :=
  course.dispatchesTo course.concludes_reached holds

end Course

end SqlSafetyProxy.MySql
