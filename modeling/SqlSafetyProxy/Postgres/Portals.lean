import SqlSafetyProxy.Postgres.Relay
import Mathlib.Logic.Function.Basic

/-!
# Portals of pipelined batches

The client task registers a portal when it forwards a `Bind`; the backend task
forgets every portal when it reads a `ReadyForQuery` with the idle status.  The
portals bound since the last `Sync` survive as long as no idle status is read
while there are any.
-/

namespace SqlSafetyProxy.Postgres

open SqlSafetyProxy.Sql SqlSafetyProxy.Policy SqlSafetyProxy.Wire SqlSafetyProxy.Runtime
open SqlSafetyProxy.Coroutine SqlSafetyProxy.Collections

variable {tools : Tools} {opts : ProxyOptions}

/-! ## The portals of the current batch -/

/-- What a registered message does to the portals of a batch. -/
def batchChange (message : Message) (portals : String → Option BindMessage) :
    String → Option BindMessage :=
  if message.type = 'P' then
    match parseParseMessage message.payload with
    | .error _ => portals
    | .ok parsed =>
        if parsed.statementName = "" then
          fun name => (portals name).filter fun bind => bind.statementName != ""
        else portals
  else if message.type = 'B' then
    match parseBindMessage message.payload with
    | .error _ => portals
    | .ok bind => Function.update portals bind.portalName (some bind)
  else
    match parseCloseMessage message.payload with
    | .error _ => portals
    | .ok close =>
        match close.targetType with
        | .statement => fun name =>
            (portals name).filter fun bind => bind.statementName != close.name
        | .portal => Function.update portals close.name none

/-- The state in which the last message was received, and the portals bound since the last `Sync`. -/
structure Batch where
  received : ConnectionState
  portals : String → Option BindMessage

def Batch.step (batch : Batch) : Event adapter → Batch
  | .noted (.received _ state) => { batch with received := state }
  | .forwarded message _ =>
      if message.type = 'S' then { batch with portals := fun _ => none }
      else if (message.type = 'P' ∨ message.type = 'B' ∨ message.type = 'C')
          ∧ (registryChange message batch.received).isOk = true then
        { batch with portals := batchChange message batch.portals }
      else batch
  | _ => batch

/-- The batch that a trace leaves open. -/
def batchOf (trace : List (Event adapter)) : Batch :=
  trace.foldl Batch.step ⟨{}, fun _ => none⟩

theorem batchOf_snoc (trace : List (Event adapter)) (event : Event adapter) :
    batchOf (trace ++ [event]) = (batchOf trace).step event := by
  simp [batchOf]

/--
Every `Execute` outside recovery still finds the portal that a `Bind` since the
last `Sync` has registered, unless the client has closed or invalidated it.
-/
def PortalsSurvive (trace : List (Event adapter)) : Prop :=
  ∀ before message state later execute bind,
    trace = before ++ .noted (.received message state) :: later → message.type = 'E' →
    parseExecuteMessage message.payload = .ok execute →
    (batchOf before).portals execute.portalName = some bind →
    state.portals.lookup execute.portalName = some bind

/-! ## When the backend reports the idle status -/

/-- The bytes read between two states complete a `ReadyForQuery` with the idle status. -/
def ReportsIdle (w w' : PgWorld) : Prop :=
  ∃ chunk messages framer, w.peer.unread = chunk ++ w'.peer.unread ∧
    w.session.framer.push chunk = .ok (messages, framer) ∧
    ∃ message ∈ messages, message.status = some .idle

/-- The idle status is read only while no portal has been bound since the last `Sync`. -/
def IdleBetweenBatches : Option Side → PgWorld → PgWorld → Prop
  | some .backend, w, w' => ReportsIdle w w' → ∀ name, (batchOf w.trace).portals name = none
  | _, _, _ => True

/-! ## Registered portals -/

/-- The registry has the portals of the batch. -/
def Holds (batch : Batch) (state : ConnectionState) : Prop :=
  ∀ name bind, batch.portals name = some bind → state.portals.lookup name = some bind

theorem lookup_registered {state after : ConnectionState} {message : Message}
    {portals : String → Option BindMessage}
    (known : ∀ name bind, portals name = some bind → state.portals.lookup name = some bind)
    (changed : registryChange message state = .ok after) {name : String} {bind : BindMessage}
    (present : batchChange message portals name = some bind) :
    after.portals.lookup name = some bind := by
  unfold registryChange at changed
  unfold batchChange at present
  split at changed
  · next isParse =>
    rw [if_pos isParse] at present
    obtain ⟨parsed, parses, changed⟩ := bind_ok changed
    rw [parses] at present
    rw [ConnectionState.registerStatement_ok changed]
    simp only at present ⊢
    split at present
    · next unnamed =>
      obtain ⟨old, other⟩ := Option.filter_eq_some_iff.mp present
      rw [if_pos unnamed]
      exact Dict.lookup_filter_eq_some.mpr ⟨known name bind old, other⟩
    · next named =>
      rw [if_neg named]
      exact known name bind present
  · next notParse =>
    rw [if_neg notParse] at present
    split at changed
    · next isBind =>
      rw [if_pos isBind] at present
      obtain ⟨bound, parses, changed⟩ := bind_ok changed
      rw [parses] at present
      rw [ConnectionState.registerPortal_ok changed]
      simp only at present ⊢
      by_cases same : name = bound.portalName
      · rw [same, Function.update_self] at present
        exact Dict.lookup_insert_eq_some.mpr (.inl ⟨same, (Option.some.inj present).symm⟩)
      · rw [Function.update_of_ne same] at present
        exact Dict.lookup_insert_eq_some.mpr (.inr ⟨same, known name bind present⟩)
    · next notBind =>
      rw [if_neg notBind] at present
      obtain ⟨close, parses, changed⟩ := bind_ok changed
      rw [parses] at present
      cases changed
      unfold ConnectionState.close
      simp only at present
      cases target : close.targetType with
      | statement =>
          rw [target] at present
          obtain ⟨old, other⟩ := Option.filter_eq_some_iff.mp present
          exact Dict.lookup_filter_eq_some.mpr ⟨known name bind old, other⟩
      | portal =>
          rw [target] at present
          by_cases same : name = close.name
          · simp [same] at present
          · simp only [Function.update_of_ne same] at present
            exact Dict.lookup_erase_eq_some.mpr ⟨known name bind present, same⟩

theorem subject_type {state : ConnectionState} {message : Message} {text : String}
    (known : subject state message = some text) : message.type = 'Q' ∨ message.type = 'E' := by
  unfold subject at known
  split at known
  · next query => exact .inl query
  · split at known
    · next execute => exact .inr execute
    · cases known

theorem step_query_execute {batch : Batch} {message : Message} {raw : Bytes}
    (inspected : message.type = 'Q' ∨ message.type = 'E') :
    batch.step (.forwarded message raw) = batch := by
  rcases inspected with isType | isType <;> simp [Batch.step, isType]

/-- A message of no registry leaves the batch as it is or, being a `Sync`, ends it. -/
theorem holds_unregistered {batch : Batch} {state : ConnectionState} {message : Message}
    {raw : Bytes} (holds : Holds batch state)
    (other : ¬ (message.type = 'P' ∨ message.type = 'B' ∨ message.type = 'C')) :
    Holds (batch.step (.forwarded message raw)) state := by
  simp only [Batch.step, other, false_and, if_false]
  split
  · rintro name bind ⟨⟩
  · exact holds

/-- Writing a cleared message keeps the portals of its batch registered. -/
theorem holds_write {batch : Batch} {message : Message} {received state after : ConnectionState}
    {events : List (Event adapter)} (holds : Holds batch state) (current : batch.received = received)
    (clears : Clears tools opts message received events state after) :
    Holds (batch.step (.forwarded message message.raw)) after := by
  cases clears with
  | recovery pending passes =>
      refine holds_unregistered holds ?_
      rcases passes with isType | isType <;> simp [isType]
  | registry outside isType changed =>
      have notSync : message.type ≠ 'S' := by
        rcases isType with isType | isType | isType <;> simp [isType]
      have isOk : (registryChange message batch.received).isOk = true := by
        rw [current, changed]
        rfl
      simp only [Batch.step, if_neg notSync, isType, isOk, and_self, if_true]
      intro name bind present
      exact lookup_registered holds changed present
  | safe _ known _ =>
      rw [step_query_execute (subject_type known)]
      exact holds
  | approved _ known _ _ =>
      rw [step_query_execute (subject_type known)]
      exact holds
  | unlisted _ unrouted =>
      refine holds_unregistered holds ?_
      rintro (parse | bind | close)
      · exact unrouted (.inr (.inl parse))
      · exact unrouted (.inr (.inr (.inl bind)))
      · exact unrouted (.inr (.inr (.inr (.inl close))))
  | permitted _ gap _ =>
      by_cases registry : message.type = 'P' ∨ message.type = 'B' ∨ message.type = 'C'
      · obtain ⟨reason, failed⟩ := gap.unregistered registry
        have notSync : message.type ≠ 'S' := by
          rcases registry with isType | isType | isType <;> simp [isType]
        have unchanged : batch.step (.forwarded message message.raw) = batch := by
          simp [Batch.step, notSync, current, failed, Except.isOk, Except.toBool]
        rw [unchanged]
        exact holds
      · exact holds_unregistered holds registry

/-! ## Whole runs -/

/-- The portals of the open batch are registered, and so were those of every `Execute` before. -/
structure Survives (w : PgWorld) : Prop where
  holds : Holds (batchOf w.trace) w.session.state
  survive : PortalsSurvive w.trace

/-- An event that neither forwards nor receives a message. -/
def Event.Plain : Event adapter → Prop
  | .forwarded _ _ => False
  | .noted (.received _ _) => False
  | _ => True

theorem step_plain {batch : Batch} {event : Event adapter} (plain : Event.Plain event) :
    batch.step event = batch := by
  cases event with
  | forwarded message raw => exact plain.elim
  | noted note =>
      cases note with
      | received message state => exact plain.elim
      | ended error => rfl
  | _ => rfl

theorem portalsSurvive_snoc {trace : List (Event adapter)} {event : Event adapter}
    (survive : PortalsSurvive trace)
    (last : ∀ message state execute bind, event = .noted (.received message state) →
      message.type = 'E' → parseExecuteMessage message.payload = .ok execute →
      (batchOf trace).portals execute.portalName = some bind →
      state.portals.lookup execute.portalName = some bind) :
    PortalsSurvive (trace ++ [event]) := by
  intro before message state later execute bind split isExecute parsed live
  cases later using List.reverseRecOn with
  | nil =>
      obtain ⟨rfl, same⟩ := List.append_inj' split rfl
      exact last message state execute bind (List.cons.inj same).1 isExecute parsed live
  | append_singleton later other =>
      have longer : trace ++ [event] =
          (before ++ .noted (.received message state) :: later) ++ [other] := by
        rw [split]
        simp
      obtain ⟨rfl, -⟩ := List.append_inj' longer rfl
      exact survive before message state later execute bind rfl isExecute parsed live

theorem Survives.log {w : PgWorld} (survives : Survives w) {event : Event adapter}
    (plain : Event.Plain event) : Survives (w.log event) := by
  refine ⟨?_, portalsSurvive_snoc survives.survive ?_⟩
  · rw [World.log_trace, batchOf_snoc, step_plain plain]
    exact survives.holds
  · rintro message state execute bind rfl
    exact plain.elim

theorem Survives.receive {w : PgWorld} (survives : Survives w) (message : Message) :
    Survives (receive w message) := by
  refine ⟨?_, portalsSurvive_snoc survives.survive ?_⟩
  · rw [Postgres.receive, World.log_trace, batchOf_snoc]
    exact survives.holds
  · rintro _ _ execute bind ⟨⟩ isExecute parsed live
    exact survives.holds execute.portalName bind live

/-- Changes that leave the portals alone. -/
theorem Survives.withState {w : PgWorld} (survives : Survives w) {state : ConnectionState}
    (same : state.portals = w.session.state.portals) : Survives (withState w state) := by
  refine ⟨?_, survives.survive⟩
  intro name bind live
  change state.portals.lookup name = some bind
  rw [same]
  exact survives.holds name bind live

theorem reports_portals {messages : List Message} {state : ConnectionState}
    (busy : ∀ message ∈ messages, message.status ≠ some .idle) :
    (reports messages state).portals = state.portals := by
  induction messages generalizing state with
  | nil => rfl
  | cons message rest ih =>
      rw [reports_cons, ih fun other inside => busy other (List.mem_cons_of_mem _ inside)]
      cases status : message.status with
      | none => simp [reports, status]
      | some reported =>
          have notIdle : reported ≠ .idle := by
            rintro rfl
            exact busy message List.mem_cons_self status
          simp [reports, status, ConnectionState.updateTransactionStatus, notIdle]

/-- The promises of the two tasks about the portals. -/
def portalPromises (tools : Tools) (opts : ProxyOptions) :
    Promises (relay tools opts) IdleBetweenBatches where
  invariant := Survives
  guarantee
    | .client, _, w => Survives w
    | .backend, start, w => BackendTurn start w
  rely := KeepsTrace
  rely_refl := keepsTrace_refl
  rely_trans := keepsTrace_trans
  environment_invariant _ _ _ moved _ := moved.elim
  environment_relied _ _ _ _ _ moved := moved.elim
  guarantee_invariant i s s' inv guaranteed between := by
    cases i with
    | client => exact guaranteed
    | backend =>
        have turn : BackendTurn s s' := guaranteed
        refine ⟨?_, turn.trace_eq ▸ inv.survive⟩
        rw [turn.trace_eq]
        rcases turn.tracks with same |
          ⟨-, chunk, messages, framer, read, rest, unread, pushed, split, same⟩
        · rw [same]
          exact inv.holds
        · rw [same]
          by_cases idle : ∃ message ∈ read, message.status = some .idle
          · obtain ⟨message, inside, isIdle⟩ := idle
            have present : message ∈ messages := by
              rw [split]
              exact List.mem_append_left _ inside
            have closed := between ⟨chunk, messages, framer, unread, pushed, message, present, isIdle⟩
            intro name bind live
            rw [closed name] at live
            cases live
          · intro name bind live
            rw [reports_portals fun message inside isIdle => idle ⟨message, inside, isIdle⟩]
            exact inv.holds name bind live
  guarantee_relied i j _ _ other _ _ guaranteed := by
    cases i with
    | client =>
        cases j with
        | client => exact absurd rfl other
        | backend => exact BackendTurn.trace_eq guaranteed
    | backend => trivial

/-- The condition of each stage: the batch was received in, and its portals survive. -/
structure SurvivesCall (message : Message) (received : ConnectionState) (stage : Stage)
    (w : PgWorld) : Prop where
  current : stage = .deciding → (batchOf w.trace).received = received
  survives : Survives w

theorem course_survives (message : Message) (received : ConnectionState) :
    Course tools opts message received ((portalPromises tools opts).contract .client)
      (fun stage _ _ w => SurvivesCall message received stage w) where
  records := by
    intro events start w event isDecision _ held
    have plain : Event.Plain event := by
      cases event with
      | forwarded source raw => exact isDecision
      | noted note => exact isDecision.elim
      | _ => trivial
    refine ⟨?_, held.survives.log plain⟩
    rw [World.log_trace, batchOf_snoc, step_plain plain]
    exact held.current
  pauses _ _ _ _ _ held := held.survives
  resumes := by
    rintro stage q events start w answer w' held ⟨survives, same, -⟩
    refine ⟨?_, survives⟩
    rw [show w'.trace = w.trace from same]
    exact held.current
  writes := by
    intro events start w after held clears
    refine ⟨by rintro ⟨⟩, ?_, portalsSurvive_snoc held.survives.survive (by rintro _ _ _ _ ⟨⟩)⟩
    rw [World.log_trace, batchOf_snoc]
    exact holds_write held.survives.holds (held.current rfl) clears
  recovers _ _ _ _ _ held := ⟨by rintro ⟨⟩, held.survives.withState rfl⟩
  refuses _ _ _ held _ := ⟨by rintro ⟨⟩, held.survives⟩
  answers := by
    intro events start w text sqlState error built held
    refine ⟨by rintro ⟨⟩, ?_⟩
    have answered : Survives (w.answer (.built error)) :=
      ⟨held.survives.holds, held.survives.survive⟩
    rw [refusal]
    split
    · exact ⟨answered.holds, answered.survive⟩
    · exact answered.withState rfl
  drops _ _ _ held := ⟨by rintro ⟨⟩, held.survives⟩
  breaks _ _ _ held _ := ⟨by rintro ⟨⟩, held.survives⟩

/-- In every run in which the idle status is read between batches only, their portals survive. -/
theorem portals_survive {state : ConnectionState} {framer : Framer} {stream : Bytes}
    {c : Config awaits PgWorld Exn Side}
    (run : (relay tools opts).Run IdleBetweenBatches
      (Config.idle (opened state framer stream)) c) : PortalsSurvive c.shared.trace := by
  have start : (portalPromises tools opts).invariant (opened state framer stream) := by
    refine ⟨?_, ?_⟩
    · rintro name bind ⟨⟩
    · intro before message state later execute bind split
      simp [opened] at split
  have holds := (portalPromises tools opts).holds_of_run ?_ (Promises.holds_idle _ start) run
  · exact holds.1.survive
  · intro i w task w' inv started
    cases i with
    | client =>
        obtain ⟨message, -, rfl, rfl⟩ := started
        have begun : SurvivesCall message w.session.state .deciding (receive w message) :=
          ⟨fun _ => by rw [receive, World.log_trace, batchOf_snoc, Batch.step],
            Survives.receive inv message⟩
        have course : Course tools opts message w.session.state _ _ :=
          course_survives message w.session.state
        have current : (receive w message).session.state = w.session.state := rfl
        refine wp_clientTurn course current begun ?_
        intro error stage events start w _ held
        exact held.survives.log trivial
    | backend =>
        obtain ⟨chunk, rest, reading, unread, rfl, rfl⟩ := started
        exact wp_backendTurn (fun _ _ _ turn => turn) reading unread

/-! ## Two pipelined batches -/

/-- A batch that has been sent, and the beginning of the next one. -/
def pipelined : List Message :=
  [parseOf "" "SELECT 1", bindOf "" "", executeOf "", syncMessage, parseOf "" "SELECT 1",
    bindOf "" ""]

/-- The backend's answer to the first `Sync`. -/
def idleReport : Bytes := buildReadyForQuery .idle

/-- The client task has forwarded both batches up to the second `Bind`. -/
def bothSent : PgWorld :=
  (handledAll plainTools strictOptions (userAnswers true) (freshConnection idleReport) pipelined).2

/-- Then the backend task reads the answer to the first `Sync`. -/
def firstAnswered : PgWorld := (relayed (userAnswers true) bothSent idleReport []).2

theorem framed_pipelined : ∀ message ∈ executeOf "" :: pipelined, Framed message := by
  have takes : ∀ message ∈ executeOf "" :: pipelined,
      takeMessage message.raw.length message.raw = .ok (some (message, [])) := by decide +kernel
  exact fun message inside => framed_of_takes (takes message inside)

/-- The answer to the first batch makes the `Execute` of the second one fail. -/
theorem pipelinedPortal_lost :
    ∃ c, (relay plainTools strictOptions).Run anyTurn (Config.idle (freshConnection idleReport)) c ∧
      ¬ PortalsSurvive c.shared.trace := by
  have start : Reaches plainTools strictOptions (freshConnection idleReport)
      (freshConnection idleReport) := .refl
  have sent : Reaches plainTools strictOptions (freshConnection idleReport) bothSent :=
    start.handledAll (fun message inside => framed_pipelined message
      (List.mem_cons_of_mem _ inside)) (userAnswers true) (by decide +kernel)
  have reading : bothSent.peer.closed = false := by decide +kernel
  have unread : bothSent.peer.unread = idleReport ++ [] := by decide +kernel
  have answered : Reaches plainTools strictOptions (freshConnection idleReport) firstAnswered :=
    sent.relayed reading unread (userAnswers true) (by decide +kernel)
  obtain ⟨c, run, shared, -⟩ := answered.handled
    (framed_pipelined (executeOf "") List.mem_cons_self) (userAnswers true) (by decide +kernel)
  refine ⟨c, run, ?_⟩
  intro survive
  obtain ⟨state, split, lacks⟩ := split_at_receipt c.shared.trace 19 (executeOf "")
    (fun state => (state.portals.lookup "").isNone) (by rw [shared]; decide +kernel)
  have missing : state.portals.lookup "" = none := Option.isNone_iff_eq_none.mp lacks
  have parsed : parseExecuteMessage (executeOf "").payload = .ok ⟨"", 0⟩ := by decide +kernel
  have live : ((batchOf (c.shared.trace.take 19)).portals "").isSome = true := by
    rw [shared]
    decide +kernel
  obtain ⟨bind, bound⟩ := Option.isSome_iff_exists.mp live
  have kept := survive _ _ state _ _ bind split rfl parsed bound
  rw [missing] at kept
  cases kept

/-! ### One batch after another -/

/-- The last message written was a `Sync`. -/
def batchClosed (w : PgWorld) : Bool := (sentMessages w.trace).getLast?.any fun message =>
  message.type = 'S'

/-- A `Sync` leaves no portal of its batch. -/
theorem portals_of_sync {trace : List (Event adapter)} {message : Message}
    (last : (sentMessages trace).getLast? = some message) (sync : message.type = 'S') :
    ∀ name, (batchOf trace).portals name = none := by
  induction trace using List.reverseRecOn with
  | nil => cases last
  | append_singleton trace event ih =>
      rw [batchOf_snoc]
      cases event with
      | forwarded source raw =>
          have same : source = message := by simpa [sentMessages, Event.written] using last
          intro name
          simp [Batch.step, same, sync]
      | noted note =>
          have earlier := ih (by simpa [sentMessages, Event.written] using last)
          cases note with
          | received source state => exact earlier
          | ended error => exact earlier
      | _ => exact ih (by simpa [sentMessages, Event.written] using last)

theorem portals_of_batchClosed {w : PgWorld} (ends : batchClosed w = true) :
    ∀ name, (batchOf w.trace).portals name = none := by
  unfold batchClosed at ends
  cases last : (sentMessages w.trace).getLast? with
  | none => simp [last] at ends
  | some message => exact portals_of_sync last (by simpa [last] using ends)

/-- The first batch has been forwarded. -/
def firstSent : PgWorld :=
  (handledAll plainTools strictOptions (userAnswers true) (freshConnection idleReport)
    (pipelined.take 4)).2

/-- Then its `ReadyForQuery` has been relayed. -/
def firstReported : PgWorld := (relayed (userAnswers true) firstSent idleReport []).2

/-- Then the second batch has been forwarded up to its `Bind`. -/
def secondBound : PgWorld :=
  (handledAll plainTools strictOptions (userAnswers true) firstReported (pipelined.drop 4)).2

/-- Then its `Execute` has been handled. -/
def secondExecuted : PgWorld :=
  (handledAll plainTools strictOptions (userAnswers true) secondBound [executeOf ""]).2

/--
The answer to the first batch is read before the second one is begun, and the
`Execute` of the second one finds its portal.
-/
theorem secondBatch_survives :
    ∃ c before state later bind,
      (relay plainTools strictOptions).Run IdleBetweenBatches
        (Config.idle (freshConnection idleReport)) c ∧
      c.shared.session.state.transactionStatus = .idle ∧
      c.shared.trace = before ++ .noted (.received (executeOf "") state) :: later ∧
      (batchOf before).portals "" = some bind ∧ state.portals.lookup "" = some bind := by
  have free : ∀ w w', IdleBetweenBatches (some .client) w w' := fun _ _ => trivial
  have start : (relay plainTools strictOptions).RestsWithin IdleBetweenBatches
      (freshConnection idleReport) (freshConnection idleReport) := .refl _
  have sent : (relay plainTools strictOptions).RestsWithin IdleBetweenBatches
      (freshConnection idleReport) firstSent :=
    restsWithin_handledAll free start (fun message inside => framed_pipelined message
      (List.mem_cons_of_mem _ (List.mem_of_mem_take inside))) (userAnswers true) (by decide +kernel)
  have ended : ∀ w ∈ relayedStops (userAnswers true) firstSent idleReport [],
      batchClosed w = true := List.all_eq_true.mp (by decide +kernel)
  have reported : (relay plainTools strictOptions).RestsWithin IdleBetweenBatches
      (freshConnection idleReport) firstReported :=
    restsWithin_relayed sent (by decide +kernel) (by decide +kernel) (userAnswers true)
      (isChain_of_all ended fun w _ ends _ => portals_of_batchClosed ends) (by decide +kernel)
  have bound : (relay plainTools strictOptions).RestsWithin IdleBetweenBatches
      (freshConnection idleReport) secondBound :=
    restsWithin_handledAll free reported (fun message inside => framed_pipelined message
      (List.mem_cons_of_mem _ (List.mem_of_mem_drop inside))) (userAnswers true) (by decide +kernel)
  have executed : (relay plainTools strictOptions).RestsWithin IdleBetweenBatches
      (freshConnection idleReport) secondExecuted :=
    restsWithin_handledAll free bound (fun message inside => framed_pipelined message (by
      rw [List.mem_singleton.mp inside]
      exact List.mem_cons_self)) (userAnswers true) (by decide +kernel)
  obtain ⟨c, run, shared, -⟩ := executed
  obtain ⟨state, split, -⟩ := split_at_receipt c.shared.trace 19 (executeOf "")
    (fun _ => true) (by rw [shared]; decide +kernel)
  have parsed : parseExecuteMessage (executeOf "").payload = .ok ⟨"", 0⟩ := by decide +kernel
  have live : ((batchOf (c.shared.trace.take 19)).portals "").isSome = true := by
    rw [shared]
    decide +kernel
  obtain ⟨bind, known⟩ := Option.isSome_iff_exists.mp live
  have idle : c.shared.session.state.transactionStatus = .idle := by
    rw [shared]
    decide +kernel
  exact ⟨c, _, state, _, bind, run, idle, split, known,
    portals_survive run _ _ state _ _ bind split rfl parsed known⟩

end SqlSafetyProxy.Postgres
