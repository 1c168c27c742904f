import SqlSafetyProxy.MySql.Attention

/-!
# Where a connection stands

Everything the client task, the backend task and the server can do to a
connection, said once, and the invariant that each of these acts keeps: the
session is in step with the server, unless a message is being inspected, a
prepare has still to be settled, a packet could not be taken, or the client task
has been lost.
-/

namespace SqlSafetyProxy.MySql

open SqlSafetyProxy.Policy SqlSafetyProxy.Wire SqlSafetyProxy.Runtime
open SqlSafetyProxy.Coroutine SqlSafetyProxy.Collections

variable {σ : Type} {o : Outlook}

/-! ## The invariant -/

/-- The state of the session on a connection. -/
abbrev stateOf (w : Link σ) : SessionState := w.session.session

/-- The note of an exception that ends the client task. -/
abbrev lossOf (error : Exn) : Event adapter := .noted (.ended (.error error))

/-- The client task has ended with an exception. -/
def Lost (w : Link σ) : Prop := ∃ error, lossOf error ∈ w.trace

/-- A session in `state` can take everything that is under way. -/
def InStep (o : Outlook) (w : Link σ) (state : SessionState) : Prop :=
  o.Foresees (inFlight w) ((unread w).map Packet.payload) state

/-- Every packet that was taken up has been relayed. -/
def Relays (w : Link σ) : Prop :=
  relayed w.clientOut = (w.peer.sent.take w.peer.read).map Packet.raw

/-- A packet has been taken up that cannot be relayed. -/
structure Jammed (w : Link σ) : Prop where
  fewer : (relayed w.clientOut).length < w.peer.read
  due : w.peer.due = .nothing

/-- A response is awaited for a message that is still being inspected. -/
structure Inspects (o : Outlook) (w : Link σ) : Prop where
  relays : Relays w
  due : w.peer.due = .nothing
  received : Received w
  reading : Reading (stateOf w) .initial 0
  inStep : InStep o w (stateOf w).failCommandForward

/-- A message is being inspected, or nothing is taken up any more. -/
def Inspecting (o : Outlook) (w : Link σ) : Prop := Inspects o w ∨ Jammed w

/-- The response to a prepare has been relayed, but the prepare has still to be ended. -/
structure Ends (o : Outlook) (w : Link σ) : Prop where
  relays : Relays w
  unsettled : w.peer.due ≠ .nothing
  prepare : (stateOf w).pendingStatementSql.isSome = true
  due : ∃ later, w.peer.due.Due (stateOf w) later ∧ Following later ∧ InStep o w later

/-- No message is being inspected. -/
inductive Calm (o : Outlook) (w : Link σ) : Prop where
  | lost : Lost w → Calm o w
  | jammed : Jammed w → Calm o w
  | follows : Relays w → w.peer.due = .nothing → InStep o w (stateOf w) → Calm o w
  | ends : Ends o w → Calm o w

/-- What never changes on a connection, and counters that stay within what they count. -/
structure Sane (o : Outlook) (w : Link σ) : Prop where
  flags : w.session.auth.capabilityFlags = o.flags
  phase : w.session.phase = .commandResponse
  heard : w.peer.answered.length ≤ (written w.trace).length
  read : w.peer.read ≤ w.peer.sent.length

/--
A message may be acted on: every message is tracked and every well-formed
response understood, or the client has received all there is to receive.
-/
def Timely (o : Outlook) (w : Link σ) : Prop :=
  ¬ o.lenient ∨ ¬ o.cursors ∧ Received w

/-- Where a connection stands. -/
def Standing (o : Outlook) (w : Link σ) : Prop := Calm o w ∨ Inspects o w

/-! ## Acts -/

/-- The parties of a connection and what is known of them. -/
structure Scene (σ : Type) extends Outlook where
  tools : Tools
  opts : ProxyOptions
  server : Server flags σ
  sends : Link σ → LogicalMessage → Prop
  lenient_of : opts.failSafeMode = .permissive → lenient
  timely : ∀ {w message}, sends w message → Timely toOutlook w
  plain : ∀ {state message packets later}, server.replies state message packets later →
    ¬ cursors → (commandOf message).kind = .stmtExecute →
    Results flags (packets.map Packet.payload)

/-- An event in the dispatch of a message before anything comes of it. -/
def Undecided : Event adapter → Prop
  | .forwarded _ _ => False
  | .noted (.reconstructs _ _) => True
  | .noted _ => False
  | _ => True

/-- The dispatch of a message has recorded some events and not come to a decision. -/
def Handles (w : Link σ) (message : LogicalMessage) (events : List (Event adapter)) : Prop :=
  (∃ before, w.trace = before ++ .noted (.received message) :: events) ∧
    ∀ event ∈ events, Undecided event

/-- A message has been written after these events. -/
def Wrote (w : Link σ) (message : LogicalMessage) (events : List (Event adapter)) : Prop :=
  (∃ before, w.trace = before ++ .noted (.received message) :: (events ++ [writeOf message])) ∧
    ∀ event ∈ events, Undecided event

/-- No message is being handled. -/
def Unoccupied (w : Link σ) : Prop :=
  w.trace = [] ∨ ∃ before forwarded, w.trace = before ++ [.noted (.ended (.ok forwarded))]

/-- A statement with other parameter types or long data than the one registered. -/
def Retypes (state : SessionState) (statementId : Nat) (statement : PreparedStatement) : Prop :=
  ∃ old, state.preparedStatements.lookup statementId = some old ∧
    statement = { old with
      parameterTypes := statement.parameterTypes
      longDataParameters := statement.longDataParameters }

/-- The registry may be changed without disturbing what is under way. -/
def Storable (o : Outlook) (w : Link σ) : Prop := (Following (stateOf w) ∨ Ends o w) ∨ Jammed w

/-- A statement whose execution has just been written. -/
def Executing (w : Link σ) (statementId : Nat) : Prop :=
  ∃ message events statement decoded, Wrote w message events ∧
    reconstruction statement decoded ∈ events ∧ statement.statementId = statementId

/-- The types of an execution have been registered. -/
def Filed (state : SessionState) (events : List (Event adapter)) : Prop :=
  ∃ known decoded statement, reconstruction known decoded ∈ events ∧
    state.preparedStatements.lookup known.statementId = some statement ∧
    statement.parameterTypes = some decoded.parameterTypes

/-- What has come of a message when its dispatch returns. -/
inductive Closes (opts : ProxyOptions) (w : Link σ) : Bool → Prop where
  | refused {before : List (Event adapter)} {message : LogicalMessage} {packet : Bytes} :
      w.trace = before ++ [refusalOf message packet] → Closes opts w false
  | written {message : LogicalMessage} {events : List (Event adapter)} : Wrote w message events →
      ((commandOf message).kind ≠ .stmtExecute ∨ opts.failSafeMode = .permissive) ∨
        Filed (stateOf w) events → Closes opts w true

/-- What the client task does. -/
inductive ClientAct (scene : Scene σ) : Link σ → Link σ → Prop where
  | receives {w : Link σ} {message : LogicalMessage} : scene.sends w message → Unoccupied w →
      ClientAct scene w (receive w message)
  | records {w : Link σ} {message : LogicalMessage} {events : List (Event adapter)}
      {event : Event adapter} : Handles w message events → event.IsDecision →
      ClientAct scene w (w.log event)
  | resolves {w : Link σ} {message : LogicalMessage} {execution : StmtExecute}
      {statement : PreparedStatement} {decoded : StmtExecuteParameters} : Handles w message [] →
      Resolves scene.tools (commandOf message) (stateOf w) execution statement decoded →
      ClientAct scene w (w.log (reconstruction statement decoded))
  | begins {w : Link σ} (kind : ResponseKind) : Timely scene.toOutlook w →
      (stateOf w).hasPendingLifecycleOperation = false →
      ClientAct scene w (withState w ((stateOf w).awaitingResponse kind))
  | forgets {w : Link σ} : Inspecting scene.toOutlook w →
      ClientAct scene w (withState w (stateOf w).failCommandForward)
  | writes {w : Link σ} {message : LogicalMessage} {events : List (Event adapter)} :
      Handles w message events → Inspecting scene.toOutlook w →
      (commandOf message).kind = .query ∨ (commandOf message).kind = .stmtExecute →
      Approved scene.tools scene.opts (commandOf message) events ∨
        scene.opts.failSafeMode = .permissive →
      ClientAct scene w (w.log (writeOf message))
  | opens {w : Link σ} {message : LogicalMessage} {after : SessionState} : Handles w message [] →
      Timely scene.toOutlook w → Opens (commandOf message) (stateOf w) after →
      ClientAct scene w ((withState w after).log (writeOf message))
  | passes {w : Link σ} {message : LogicalMessage} {events : List (Event adapter)} :
      Handles w message events → scene.opts.failSafeMode = .permissive →
      Timely scene.toOutlook w → Calm scene.toOutlook w →
      ClientAct scene w (w.log (writeOf message))
  | stores {w : Link σ} {statementId : Nat} {statement : PreparedStatement} :
      Storable scene.toOutlook w → Retypes (stateOf w) statementId statement →
      scene.opts.failSafeMode = .permissive ∨ Executing w statementId →
      ClientAct scene w (withState w ((stateOf w).storeStatement statementId statement))
  | refuses {w : Link σ} {message : LogicalMessage} {packet : Bytes}
      {events : List (Event adapter)} : Handles w message events → RefusalOf message packet →
      ClientAct scene w ((w.log (refusalOf message packet)).answer (.built packet))
  | returns {w : Link σ} (forwarded : Bool) : Closes scene.opts w forwarded →
      ClientAct scene w (w.log (.noted (.ended (.ok forwarded))))
  | loses {w : Link σ} {state : SessionState} (error : Exn) : Undoes (stateOf w) state →
      ClientAct scene w ((withState w state).log (lossOf error))

/-- Nothing is left to do about the packets that were taken up, and all have been relayed. -/
structure AtRest (w : Link σ) : Prop where
  due : w.peer.due = .nothing
  relayed : w.peer.read ≤ (relayed w.clientOut).length

/-- What the backend task does. -/
inductive BackendAct (o : Outlook) : Link σ → Link σ → Prop where
  | relays {w : Link σ} {packet : Packet} {rest : List Packet} {next : FollowUp}
      {tracked : SessionState} : AtRest w → unread w = packet :: rest →
      trackResponse o.flags packet.payload (stateOf w) = (.ok next, tracked) →
      BackendAct o w ((withState (takeUp w packet) tracked).answer (.relayed packet.raw))
  | breaks {w : Link σ} {packet : Packet} {rest : List Packet} {error : Exn}
      {tracked : SessionState} : AtRest w → unread w = packet :: rest →
      trackResponse o.flags packet.payload (stateOf w) = (.error error, tracked) →
      BackendAct o w (withState (takeUp w packet) tracked)
  | settles {w : Link σ} {later : SessionState} : w.peer.due.Due (stateOf w) later →
      BackendAct o w (settle (withState w later))

section Counting

variable {w : Link σ}

/-- A message that is written is the last one in flight. -/
theorem inFlight_write (heard : w.peer.answered.length ≤ (written w.trace).length)
    (message : LogicalMessage) (after : SessionState) :
    inFlight ((withState w after).log (writeOf message)) = inFlight w ++ [message] := by
  simp only [inFlight, World.log_trace, World.log_peer, written_append]
  exact List.drop_append_of_le_length heard

theorem inFlight_log {event : Event adapter} (unwritten : written [event] = []) :
    inFlight (w.log event) = inFlight w := by
  simp only [inFlight, World.log_trace, World.log_peer, written_append, unwritten, List.append_nil]

theorem written_decision {event : Event adapter} (isDecision : event.IsDecision) :
    written [event] = [] := by
  cases event with
  | forwarded source raw => exact isDecision.elim
  | _ => rfl

/-- A client that has received everything has left nothing to take up. -/
theorem Received.unread (received : Received w) (relays : Relays w) : unread w = [] := by
  have same : (w.peer.sent.take w.peer.read).map Packet.raw = w.peer.sent.map Packet.raw :=
    relays.symm.trans received.1
  have count := congrArg List.length same
  simp only [List.length_map, List.length_take] at count
  simp only [MySql.unread, List.drop_eq_nil_iff]
  omega

theorem received_of_unread (relays : Relays w) (none : unread w = [])
    (silent : ∀ message ∈ inFlight w, silent message = true) : Received w := by
  refine ⟨?_, silent⟩
  rw [relays, List.take_of_length_le (by simpa [MySql.unread] using none)]

theorem Relays.count (sane : Sane o w) (relays : Relays w) :
    (relayed w.clientOut).length = w.peer.read := by
  rw [relays, List.length_map, List.length_take]
  exact Nat.min_eq_left sane.read

/-- Nothing that was taken up is lost on a client that has received everything. -/
theorem Jammed.not_received (sane : Sane o w) (jammed : Jammed w) : ¬ Received w := by
  intro received
  have fewer := jammed.fewer
  rw [received.1, List.length_map] at fewer
  exact absurd sane.read (by omega)

end Counting

/-! ## Changes that are no concern of what is under way -/

/-- The same messages and packets are under way. -/
structure SameTraffic (w w' : Link σ) : Prop where
  inFlight : inFlight w' = inFlight w
  peer : w'.peer = w.peer
  relayed : relayed w'.clientOut = relayed w.clientOut

namespace SameTraffic

variable {w w' : Link σ} {state : SessionState}

theorem unread (same : SameTraffic w w') : unread w' = unread w := by
  rw [MySql.unread, MySql.unread, same.peer]

theorem inStep (same : SameTraffic w w') (inStep : InStep o w state) : InStep o w' state := by
  rw [InStep, same.inFlight, same.unread]
  exact inStep

theorem relays (same : SameTraffic w w') (relays : Relays w) : Relays w' := by
  rw [Relays, same.relayed, same.peer]
  exact relays

theorem received (same : SameTraffic w w') (received : Received w) : Received w' := by
  rw [Received, same.relayed, same.peer, same.inFlight]
  exact received

theorem jammed (same : SameTraffic w w') (jammed : Jammed w) : Jammed w' := by
  refine ⟨?_, by rw [same.peer, jammed.due]⟩
  rw [same.relayed, same.peer]
  exact jammed.fewer

theorem calm (same : SameTraffic w w') (session : stateOf w' = stateOf w)
    (lost : Lost w → Lost w') (calm : Calm o w) : Calm o w' := by
  cases calm with
  | lost isLost => exact .lost (lost isLost)
  | jammed jammed => exact .jammed (same.jammed jammed)
  | follows relays due inStep =>
      refine .follows (same.relays relays) (by rw [same.peer, due]) ?_
      rw [session]
      exact same.inStep inStep
  | ends ends =>
      obtain ⟨later, due, following, inStep⟩ := ends.due
      refine .ends ⟨same.relays ends.relays, by rw [same.peer]; exact ends.unsettled, ?_,
        later, ?_, following, same.inStep inStep⟩
      · rw [session]
        exact ends.prepare
      · rw [session, same.peer]
        exact due

theorem inspects (same : SameTraffic w w') (session : stateOf w' = stateOf w)
    (inspects : Inspects o w) : Inspects o w' := by
  refine ⟨same.relays inspects.relays, by rw [same.peer, inspects.due],
    same.received inspects.received, ?_, ?_⟩
  · rw [session]
    exact inspects.reading
  · rw [session]
    exact same.inStep inspects.inStep

theorem inspecting (same : SameTraffic w w') (session : stateOf w' = stateOf w)
    (inspecting : Inspecting o w) : Inspecting o w' := by
  rcases inspecting with inspects | jammed
  · exact .inl (same.inspects session inspects)
  · exact .inr (same.jammed jammed)

theorem standing (same : SameTraffic w w') (session : stateOf w' = stateOf w)
    (lost : Lost w → Lost w') (standing : Standing o w) : Standing o w' := by
  rcases standing with calm | inspects
  · exact .inl (same.calm session lost calm)
  · exact .inr (same.inspects session inspects)

end SameTraffic

theorem sameTraffic_log {w : Link σ} {event : Event adapter} (unwritten : written [event] = []) :
    SameTraffic w (w.log event) :=
  ⟨inFlight_log unwritten, rfl, rfl⟩

theorem sameTraffic_withState {w : Link σ} (state : SessionState) :
    SameTraffic w (withState w state) := ⟨rfl, rfl, rfl⟩

theorem Lost.log {w : Link σ} (lost : Lost w) (event : Event adapter) : Lost (w.log event) := by
  obtain ⟨error, inside⟩ := lost
  exact ⟨error, List.mem_append_left _ inside⟩

/-! ## What the client task does -/

section Client

variable {w w' : Link σ}

/-- A session that awaits nothing belongs to a client that has received everything. -/
theorem received_of_free (timely : Timely o w) (relays : Relays w)
    (inStep : InStep o w (stateOf w)) (free : (stateOf w).hasPendingLifecycleOperation = false) :
    Received w := by
  rcases timely with strict | ⟨-, received⟩
  · obtain ⟨none, silent⟩ := Outlook.foresees_free strict inStep free
    exact received_of_unread relays (List.map_eq_nil_iff.mp none) silent
  · exact received

/-- Where nothing is under way a session in step has settled. -/
theorem settled_of_received {state : SessionState} (received : Received w) (relays : Relays w)
    (inStep : InStep o w state) : o.Settled state := by
  rw [InStep, received.unread relays, List.map_nil,
    Outlook.foresees_silent_iff received.2] at inStep
  rcases inStep with abides | ⟨-, free⟩
  · exact abides
  · exact .inl free

/-- A message is written and the session changed with it. -/
theorem calm_write {message : LogicalMessage} {after : SessionState} (sane : Sane o w)
    (relays : Relays w) (due : w.peer.due = .nothing)
    (foresees : o.Foresees (inFlight w ++ [message]) ((unread w).map Packet.payload) after) :
    Calm o ((withState w after).log (writeOf message)) := by
  refine .follows relays due ?_
  rw [InStep, inFlight_write sane.heard]
  exact foresees

theorem Ends.not_free (ends : Ends o w) :
    (stateOf w).hasPendingLifecycleOperation ≠ false := by
  intro free
  have prepare := ends.prepare
  rw [(hasPending_eq_false.mp free).2.1] at prepare
  cases prepare

/-- A message whose response begins to be awaited is inspected. -/
theorem Calm.begins (calm : Calm o w) (timely : Timely o w)
    (free : (stateOf w).hasPendingLifecycleOperation = false) (kind : ResponseKind) :
    Lost w ∨ Inspecting o (withState w ((stateOf w).awaitingResponse kind)) := by
  cases calm with
  | lost lost => exact .inl lost
  | jammed jammed => exact .inr (.inr ((sameTraffic_withState _).jammed jammed))
  | ends ends => exact absurd free ends.not_free
  | follows relays due inStep =>
      have received := received_of_free timely relays inStep free
      have reading := reading_awaiting free kind
      refine .inr (.inl ⟨relays, due, received, reading, ?_⟩)
      refine (sameTraffic_withState _).inStep ?_
      rw [InStep, received.unread relays]
      exact (Outlook.foresees_silent_iff received.2).mpr (.inl (.inl reading.forgotten))

theorem Inspects.forgets (inspects : Inspects o w) :
    Calm o (withState w (stateOf w).failCommandForward) :=
  .follows inspects.relays inspects.due inspects.inStep

theorem Inspecting.forgets (inspecting : Inspecting o w) :
    Calm o (withState w (stateOf w).failCommandForward) := by
  rcases inspecting with inspects | jammed
  · exact inspects.forgets
  · exact .jammed ((sameTraffic_withState _).jammed jammed)

/-- Nothing that is written relieves a jam. -/
theorem Jammed.writes (jammed : Jammed w) (message : LogicalMessage) (after : SessionState) :
    Jammed ((withState w after).log (writeOf message)) := ⟨jammed.fewer, jammed.due⟩

theorem Inspects.writes {message : LogicalMessage} (sane : Sane o w) (inspects : Inspects o w)
    (inspected : (commandOf message).kind = .query ∨ (commandOf message).kind = .stmtExecute) :
    Calm o (w.log (writeOf message)) := by
  change Calm o ((withState w (stateOf w)).log (writeOf message))
  refine calm_write sane inspects.relays inspects.due ?_
  rw [inspects.received.unread inspects.relays]
  refine Outlook.foresees_snoc inspects.received.2 ?_
  intro response answers
  exact .inl (Outlook.reading_attends inspects.reading inspected answers)

theorem Inspecting.writes {message : LogicalMessage} (sane : Sane o w)
    (inspecting : Inspecting o w)
    (inspected : (commandOf message).kind = .query ∨ (commandOf message).kind = .stmtExecute) :
    Calm o (w.log (writeOf message)) := by
  rcases inspecting with inspects | jammed
  · exact inspects.writes sane inspected
  · exact .jammed (jammed.writes message (stateOf w))

/-- What an operation leaves under way does not look at the registry or at `closing`. -/
theorem settled_reframe {state : SessionState} (closing : Bool)
    (registry : Dict Nat PreparedStatement) (settled : o.Settled state) :
    o.Settled (state.reframe closing registry) := by
  rcases settled with free | ⟨cursors, reading⟩
  · exact .inl free
  · exact .inr ⟨cursors, reading.ping, reading.reset, reading.database, reading.prepare,
      reading.response, reading.stage_eq, reading.columns_eq⟩

theorem settled_markClosing {state : SessionState} (settled : o.Settled state) :
    o.Settled state.markClosing := settled_reframe true state.preparedStatements settled

theorem inStep_quits {message : LogicalMessage} {state : SessionState} (sane : Sane o w)
    (unanswered : silent message = true) (inStep : InStep o w state) :
    InStep o ((withState w (stateOf w).markClosing).log (writeOf message)) state.markClosing := by
  rw [InStep, inFlight_write sane.heard]
  exact Outlook.foresees_blind (blind_markClosing o.flags) (fun _ => settled_markClosing) trivial
    (Outlook.foresees_snoc_silent unanswered inStep)

theorem silent_quit {message : LogicalMessage} (kind : (commandOf message).kind = .quit) :
    silent message = true := by
  rw [silent, kind]
  rfl

/-- The end of the session is marked and announced, whatever is under way. -/
theorem Calm.quits {message : LogicalMessage} (sane : Sane o w) (calm : Calm o w)
    (kind : (commandOf message).kind = .quit) :
    Calm o ((withState w (stateOf w).markClosing).log (writeOf message)) := by
  have unanswered := silent_quit kind
  cases calm with
  | lost lost => exact .lost (lost.log _)
  | jammed jammed => exact .jammed (jammed.writes message _)
  | follows relays due inStep => exact .follows relays due (inStep_quits sane unanswered inStep)
  | ends ends =>
      obtain ⟨later, due, following, inStep⟩ := ends.due
      exact .ends ⟨ends.relays, ends.unsettled, ends.prepare, later.markClosing,
        due_markClosing due, following.reframe true _, inStep_quits sane unanswered inStep⟩

theorem Inspects.quits {message : LogicalMessage} (sane : Sane o w) (inspects : Inspects o w)
    (kind : (commandOf message).kind = .quit) :
    Inspects o ((withState w (stateOf w).markClosing).log (writeOf message)) := by
  have unanswered := silent_quit kind
  have reading := inspects.reading
  refine ⟨inspects.relays, inspects.due, ⟨inspects.received.1, ?_⟩, ⟨reading.ping,
    reading.reset, reading.database, reading.prepare, reading.response, reading.stage_eq,
    reading.columns_eq⟩, inStep_quits sane unanswered inspects.inStep⟩
  rw [inFlight_write sane.heard]
  intro other inside
  rcases List.mem_append.mp inside with early | last
  · exact inspects.received.2 other early
  · rw [List.mem_singleton.mp last]
    exact unanswered

theorem opens_free {command : Command} {state after : SessionState}
    (opens : Opens command state after) :
    command.kind = .quit ∧ after = state.markClosing ∨
      state.hasPendingLifecycleOperation = false := by
  cases opens with
  | initDb kind parsed begun => exact .inr (beginDatabaseChange_ok begun).1
  | stmtPrepare kind parsed begun => exact .inr (beginStatementPrepare_ok begun).1
  | ping kind empty begun => exact .inr (beginPing_ok begun).1
  | stmtReset kind parsed begun => exact .inr (beginStatementReset_ok begun).1
  | stmtClose kind parsed free => exact .inr free
  | quit kind => exact .inl ⟨kind, rfl⟩

/-- A command is written as it stands. -/
theorem Calm.opens {message : LogicalMessage} {after : SessionState} (sane : Sane o w)
    (calm : Calm o w) (timely : Timely o w) (opens : Opens (commandOf message) (stateOf w) after) :
    Calm o ((withState w after).log (writeOf message)) := by
  rcases opens_free opens with ⟨kind, rfl⟩ | free
  · exact calm.quits sane kind
  · cases calm with
    | lost lost => exact .lost (lost.log _)
    | jammed jammed => exact .jammed (jammed.writes message _)
    | ends ends => exact absurd free ends.not_free
    | follows relays due inStep =>
        have received := received_of_free timely relays inStep free
        refine calm_write sane relays due ?_
        rw [received.unread relays]
        refine Outlook.foresees_snoc received.2 ?_
        intro response answers
        exact .inl (Outlook.opens_attends free opens answers)

theorem Inspects.opens {message : LogicalMessage} {after : SessionState} (sane : Sane o w)
    (inspects : Inspects o w) (opens : Opens (commandOf message) (stateOf w) after) :
    Inspects o ((withState w after).log (writeOf message)) := by
  rcases opens_free opens with ⟨kind, rfl⟩ | free
  · exact inspects.quits sane kind
  · rw [inspects.reading.pending] at free
    cases free

/-- A message is let through without anything being awaited for it. -/
theorem Calm.passes {message : LogicalMessage} (sane : Sane o w) (calm : Calm o w)
    (lenient : o.lenient) (plain : ¬ o.cursors) (received : Received w) :
    Calm o (w.log (writeOf message)) := by
  have foresees : ∀ state, Relays w → InStep o w state →
      InStep o (w.log (writeOf message)) state := by
    intro state relays inStep
    have free : state.hasPendingLifecycleOperation = false := by
      rcases settled_of_received received relays inStep with free | ⟨cursors, -⟩
      · exact free
      · exact absurd cursors plain
    have last := inFlight_write sane.heard message (stateOf w)
    have none : unread ((withState w (stateOf w)).log (writeOf message)) = [] :=
      received.unread relays
    change InStep o ((withState w (stateOf w)).log (writeOf message)) state
    rw [InStep, last, none]
    exact Outlook.foresees_snoc received.2 fun _ _ => .inr ⟨lenient, free⟩
  cases calm with
  | lost lost => exact .lost (lost.log _)
  | jammed jammed => exact absurd received (jammed.not_received sane)
  | follows relays due inStep => exact .follows relays due (foresees _ relays inStep)
  | ends ends =>
      obtain ⟨later, due, following, inStep⟩ := ends.due
      exact .ends ⟨ends.relays, ends.unsettled, ends.prepare, later, due, following,
        foresees _ ends.relays inStep⟩

theorem Timely.received (timely : Timely o w) (lenient : o.lenient) :
    ¬ o.cursors ∧ Received w := by
  rcases timely with strict | received
  · exact absurd lenient strict
  · exact received

/-- A prepare ends the same way with another registry. -/
theorem due_reframe {next : FollowUp} {tracked later : SessionState} (closing : Bool)
    (registry : Dict Nat PreparedStatement) (due : next.Due tracked later) :
    ∃ registry', next.Due (tracked.reframe closing registry) (later.reframe closing registry') := by
  cases next with
  | nothing =>
      cases due
      exact ⟨registry, rfl⟩
  | failPrepare =>
      cases due
      exact ⟨_, rfl⟩
  | finishPrepare =>
      unfold FollowUp.Due SessionState.finishStatementPrepareResponse at due
      simp only at due
      split at due
      · cases due
      · next statementId prepared =>
        split at due
        · cases due
        · next complete =>
          cases due
          exact ⟨registry, finishes_of_complete prepared (not_not.mp complete)⟩

theorem inStep_reframes {state state' : SessionState} (closing : Bool)
    (registry : Dict Nat PreparedStatement) (following : Following state)
    (inStep : InStep o w state) :
    InStep o (withState w state') (state.reframe closing registry) :=
  Outlook.foresees_blind (blind_reframe o.flags closing registry)
    (fun _ => settled_reframe closing registry) following inStep

/-- What is registered is no concern of what is under way. -/
theorem Calm.reframes (calm : Calm o w) (storable : Storable o w)
    (closing : Bool) (registry : Dict Nat PreparedStatement) :
    Calm o (withState w ((stateOf w).reframe closing registry)) := by
  cases calm with
  | lost lost => exact .lost lost
  | jammed jammed => exact .jammed ((sameTraffic_withState _).jammed jammed)
  | follows relays due inStep =>
      rcases storable with (following | ends) | jammed
      · exact .follows relays due (inStep_reframes closing registry following inStep)
      · exact absurd due ends.unsettled
      · exact .jammed ((sameTraffic_withState _).jammed jammed)
  | ends ends =>
      obtain ⟨later, due, following, inStep⟩ := ends.due
      obtain ⟨registry', due'⟩ := due_reframe closing registry due
      exact .ends ⟨ends.relays, ends.unsettled, ends.prepare, _, due', following.reframe _ _,
        inStep_reframes closing registry' following inStep⟩

theorem Inspects.reframes (inspects : Inspects o w) (closing : Bool)
    (registry : Dict Nat PreparedStatement) :
    Inspects o (withState w ((stateOf w).reframe closing registry)) := by
  have reading := inspects.reading
  exact ⟨inspects.relays, inspects.due, inspects.received, ⟨reading.ping, reading.reset,
    reading.database, reading.prepare, reading.response, reading.stage_eq, reading.columns_eq⟩,
    inStep_reframes closing registry (.inl reading.forgotten) inspects.inStep⟩

theorem sameTraffic_refusal (w : Link σ) (message : LogicalMessage) (packet : Bytes) :
    SameTraffic w ((w.log (refusalOf message packet)).answer (.built packet)) := by
  have inFlight : inFlight (w.log (refusalOf message packet)) = inFlight w := inFlight_log rfl
  exact ⟨inFlight, rfl, by simp [relayed]⟩

theorem Inspecting.standing (inspecting : Inspecting o w) : Standing o w := by
  rcases inspecting with inspects | jammed
  · exact .inr inspects
  · exact .inl (.jammed jammed)

/-- Every act of the client task leaves the connection standing. -/
theorem ClientAct.standing {scene : Scene σ} (sane : Sane scene.toOutlook w)
    (standing : Standing scene.toOutlook w) (act : ClientAct scene w w') :
    Standing scene.toOutlook w' := by
  cases act with
  | receives _ _ => exact (sameTraffic_log rfl).standing rfl (fun lost => lost.log _) standing
  | records _ isDecision =>
      exact (sameTraffic_log (written_decision isDecision)).standing rfl (fun lost => lost.log _)
        standing
  | resolves _ _ => exact (sameTraffic_log rfl).standing rfl (fun lost => lost.log _) standing
  | returns _ _ => exact (sameTraffic_log rfl).standing rfl (fun lost => lost.log _) standing
  | refuses _ _ =>
      exact (sameTraffic_refusal _ _ _).standing rfl (fun lost => lost.log _) standing
  | begins kind timely free =>
      rcases standing with calm | inspects
      · rcases calm.begins timely free kind with lost | inspecting
        · exact .inl (.lost lost)
        · exact inspecting.standing
      · rw [inspects.reading.pending] at free
        cases free
  | forgets inspects => exact .inl inspects.forgets
  | writes _ inspects inspected _ => exact .inl (inspects.writes sane inspected)
  | opens _ timely opens =>
      rcases standing with calm | inspects
      · exact .inl (calm.opens sane timely opens)
      · exact .inr (inspects.opens sane opens)
  | passes _ permissive timely calm =>
      obtain ⟨plain, received⟩ := timely.received (scene.lenient_of permissive)
      exact .inl (calm.passes sane (scene.lenient_of permissive) plain received)
  | stores ready _ _ =>
      rcases standing with calm | inspects
      · exact .inl (calm.reframes ready _ _)
      · exact .inr (inspects.reframes _ _)
  | loses error _ =>
      exact .inl (.lost ⟨error, List.mem_append_right _ (List.mem_singleton.mpr rfl)⟩)

theorem ClientAct.peer {scene : Scene σ} (act : ClientAct scene w w') : w'.peer = w.peer := by
  cases act <;> rfl

/-- Nothing is relayed by the client task. -/
theorem ClientAct.relayed {scene : Scene σ} (act : ClientAct scene w w') :
    relayed w'.clientOut = relayed w.clientOut := by
  cases act with
  | refuses _ => simp [MySql.relayed]
  | _ => rfl

theorem ClientAct.auth {scene : Scene σ} (act : ClientAct scene w w') :
    w'.session.auth = w.session.auth ∧ w'.session.phase = w.session.phase := by
  cases act <;> exact ⟨rfl, rfl⟩

/-- The client task only adds to its trace. -/
theorem ClientAct.trace {scene : Scene σ} (act : ClientAct scene w w') :
    ∃ events, w'.trace = w.trace ++ events := by
  cases act with
  | begins _ _ _ => exact ⟨[], (List.append_nil _).symm⟩
  | forgets _ => exact ⟨[], (List.append_nil _).symm⟩
  | stores _ _ _ => exact ⟨[], (List.append_nil _).symm⟩
  | _ => exact ⟨_, rfl⟩

theorem ClientAct.sane {scene : Scene σ} (sane : Sane scene.toOutlook w)
    (act : ClientAct scene w w') : Sane scene.toOutlook w' := by
  obtain ⟨auth, phase⟩ := act.auth
  refine ⟨by rw [auth]; exact sane.flags, phase.trans sane.phase, ?_, by
    rw [act.peer]; exact sane.read⟩
  obtain ⟨events, added⟩ := act.trace
  rw [act.peer, added, written_append, List.length_append]
  exact Nat.le_add_right_of_le sane.heard

end Client

/-! ## What the backend task does -/

section Backend

variable {w w' : Link σ}

theorem Lost.of_trace (lost : Lost w) (same : w'.trace = w.trace) : Lost w' := by
  obtain ⟨error, inside⟩ := lost
  exact ⟨error, by rw [same]; exact inside⟩

theorem sent_takeUp {packet : Packet} {rest : List Packet} (next : unread w = packet :: rest) :
    w.peer.sent.take (w.peer.read + 1) = w.peer.sent.take w.peer.read ++ [packet] := by
  have found : w.peer.sent[w.peer.read]? = some packet := by
    have head := congrArg List.head? next
    rwa [unread, List.head?_drop] at head
  rw [List.take_add_one, found]
  rfl

theorem AtRest.not_jammed (rest : AtRest w) : ¬ Jammed w := by
  intro jammed
  exact absurd jammed.fewer (Nat.not_lt.mpr rest.relayed)

/-- A packet is taken up by a session that is in step with it. -/
theorem Standing.takenUp {packet : Packet} {rest : List Packet} (standing : Standing o w)
    (atRest : AtRest w) (next : unread w = packet :: rest) :
    Lost w ∨ Relays w ∧ o.Foresees (inFlight w) (packet.payload :: rest.map Packet.payload)
      (stateOf w) := by
  rcases standing with calm | inspects
  · cases calm with
    | lost lost => exact .inl lost
    | jammed jammed => exact absurd jammed atRest.not_jammed
    | ends ends => exact absurd atRest.due ends.unsettled
    | follows relays due inStep =>
        rw [InStep, next, List.map_cons] at inStep
        exact .inr ⟨relays, inStep⟩
  · rw [inspects.received.unread inspects.relays] at next
    cases next

theorem Standing.relays {packet : Packet} {rest : List Packet} {next : FollowUp}
    {tracked : SessionState} (sane : Sane o w) (standing : Standing o w) (atRest : AtRest w)
    (taken : unread w = packet :: rest)
    (tracks : trackResponse o.flags packet.payload (stateOf w) = (.ok next, tracked)) :
    Calm o ((withState (takeUp w packet) tracked).answer (.relayed packet.raw)) := by
  have due : followUpOf w.session.auth.capabilityFlags packet.payload (stateOf w) = next := by
    rw [followUpOf, sane.flags, tracks]
  rcases standing.takenUp atRest taken with lost | ⟨relays, foresees⟩
  · exact .lost (lost.of_trace rfl)
  · have relays' : Relays ((withState (takeUp w packet) tracked).answer (.relayed packet.raw)) := by
      simp only [Relays, takeUp, World.answer_clientOut, World.answer_peer, withState_clientOut,
        withState_peer, relayed_append]
      rw [relays]
      have sent := sent_takeUp taken
      simp only [Peer.sent] at sent ⊢
      rw [sent, List.map_append]
      rfl
    have inStep : ∀ state, o.Foresees (inFlight w) (rest.map Packet.payload) state →
        InStep o ((withState (takeUp w packet) tracked).answer (.relayed packet.raw)) state := by
      intro state foresees
      have remaining : unread ((withState (takeUp w packet) tracked).answer (.relayed packet.raw)) =
          rest := unread_takeUp taken
      rw [InStep, remaining]
      exact foresees
    rcases Outlook.foresees_pop foresees with ⟨error, _, failed, -⟩ | ⟨later, absorbed, foresees⟩
    · rw [tracks] at failed
      cases failed
    · obtain ⟨next', tracked', tracks', isDue⟩ := absorb_ok_iff.mp absorbed
      rw [tracks] at tracks'
      cases tracks'
      by_cases nothing : next = .nothing
      · subst nothing
        cases isDue
        exact .follows relays' due (inStep _ foresees)
      · obtain ⟨prepare, other, otherDue, following⟩ := track_followUp tracks nothing
        have same : other = later := otherDue.unique isDue
        subst same
        refine .ends ⟨relays', ?_, prepare, other, ?_, following, inStep _ foresees⟩
        · exact fun none => nothing (due.symm.trans none)
        · change FollowUp.Due (followUpOf _ _ _) _ _
          rw [due]
          exact isDue

theorem Standing.breaks {packet : Packet} {rest : List Packet} {error : Exn}
    {tracked : SessionState} (sane : Sane o w) (standing : Standing o w) (atRest : AtRest w)
    (taken : unread w = packet :: rest)
    (tracks : trackResponse o.flags packet.payload (stateOf w) = (.error error, tracked)) :
    Calm o (withState (takeUp w packet) tracked) := by
  rcases standing.takenUp atRest taken with lost | ⟨relays, foresees⟩
  · exact .lost (lost.of_trace rfl)
  · rcases Outlook.foresees_pop foresees with ⟨_, _, failed, -⟩ | ⟨later, absorbed, -⟩
    · rw [tracks] at failed
      cases failed
      refine .jammed ⟨?_, ?_⟩
      · change (relayed w.clientOut).length < w.peer.read + 1
        rw [relays.count sane]
        exact Nat.lt_succ_self _
      · change followUpOf _ _ _ = _
        rw [followUpOf, sane.flags, tracks]
    · simp [absorb, tracks] at absorbed

/-- Nothing is left to do unless a prepare has to be ended. -/
theorem Calm.settles {later : SessionState} (calm : Calm o w)
    (isDue : w.peer.due.Due (stateOf w) later) : Calm o (settle (withState w later)) := by
  have nothing : w.peer.due = .nothing → later = stateOf w := by
    intro due
    rw [due] at isDue
    exact isDue
  cases calm with
  | lost lost => exact .lost lost
  | jammed jammed =>
      rw [nothing jammed.due]
      exact .jammed ⟨jammed.fewer, rfl⟩
  | follows relays due inStep =>
      rw [nothing due]
      exact .follows relays rfl inStep
  | ends ends =>
      obtain ⟨other, otherDue, -, inStep⟩ := ends.due
      have same : other = later := otherDue.unique isDue
      subst same
      exact .follows ends.relays rfl inStep

theorem Inspects.settles {later : SessionState} (inspects : Inspects o w)
    (isDue : w.peer.due.Due (stateOf w) later) :
    Inspects o (settle (withState w later)) ∧ later = stateOf w := by
  rw [inspects.due] at isDue
  have same : later = stateOf w := isDue
  subst same
  exact ⟨⟨inspects.relays, rfl, inspects.received, inspects.reading, inspects.inStep⟩, rfl⟩

/-- Every act of the backend task leaves the connection standing. -/
theorem BackendAct.standing (sane : Sane o w) (standing : Standing o w)
    (act : BackendAct o w w') : Standing o w' := by
  cases act with
  | relays atRest taken tracks => exact .inl (standing.relays sane atRest taken tracks)
  | breaks atRest taken tracks => exact .inl (standing.breaks sane atRest taken tracks)
  | settles due =>
      rcases standing with calm | inspects
      · exact .inl (calm.settles due)
      · exact .inr (inspects.settles due).1

theorem BackendAct.sane (sane : Sane o w) (act : BackendAct o w w') : Sane o w' := by
  have within : ∀ packet rest, unread w = packet :: rest →
      w.peer.read + 1 ≤ w.peer.sent.length := by
    intro packet rest taken
    have count := congrArg List.length taken
    simp only [unread, List.length_drop, List.length_cons] at count
    omega
  cases act with
  | relays _ taken _ => exact ⟨sane.flags, sane.phase, sane.heard, within _ _ taken⟩
  | breaks _ taken _ => exact ⟨sane.flags, sane.phase, sane.heard, within _ _ taken⟩
  | settles _ => exact ⟨sane.flags, sane.phase, sane.heard, sane.read⟩

end Backend

/-! ## What the server does -/

section Hears

variable {w w' : Link σ} {scene : Scene σ}

theorem answers_of_replies {state later : σ} {message : LogicalMessage} {packets : List Packet}
    (replies : scene.server.replies state message packets later) :
    scene.Answers message (packets.map Packet.payload) where
  responds := scene.server.responds replies
  short := by
    intro payload inside
    obtain ⟨packet, present, rfl⟩ := List.mem_map.mp inside
    exact scene.server.short replies packet present
  plain := scene.plain replies

theorem Hears.inStep {state : SessionState} (sane : Sane scene.toOutlook w)
    (hears : Hears scene.server w w') (inStep : InStep scene.toOutlook w state) :
    InStep scene.toOutlook w' state := by
  obtain ⟨next, replies⟩ := hears
  rw [InStep, next] at inStep
  rw [InStep, inFlight_hear next, unread_hear sane.read, List.map_append]
  exact inStep _ (answers_of_replies replies)

theorem Hears.relays (sane : Sane scene.toOutlook w) (hears : Hears scene.server w w')
    (relays : Relays w) : Relays w' := by
  obtain ⟨next, replies⟩ := hears
  rw [Relays, hear_sent]
  exact relays.trans (by rw [← List.take_append_of_le_length sane.read]; rfl)

/-- A message that expects no answer leaves the client with everything. -/
theorem Hears.received (hears : Hears scene.server w w') (received : Received w) :
    Received w' := by
  obtain ⟨next, replies⟩ := hears
  have unanswered := received.2 _ (by rw [next]; exact List.mem_cons_self)
  have nothing := List.map_eq_nil_iff.mp ((answers_of_replies replies).nil_iff.mpr unanswered)
  refine ⟨?_, ?_⟩
  · rw [hear_sent, nothing, List.append_nil]
    exact received.1
  · rw [inFlight_hear next]
    exact fun other inside => received.2 other (by rw [next]; exact List.mem_cons_of_mem _ inside)

theorem Hears.keeps (hears : Hears scene.server w w') :
    w'.session = w.session ∧ w'.trace = w.trace ∧ w'.clientOut = w.clientOut ∧
      w'.peer.due = w.peer.due ∧ w'.peer.read = w.peer.read := by
  obtain ⟨next, replies⟩ := hears
  exact ⟨rfl, rfl, rfl, rfl, rfl⟩

theorem Hears.jammed (hears : Hears scene.server w w') (jammed : Jammed w) : Jammed w' := by
  obtain ⟨-, -, out, due, read⟩ := hears.keeps
  exact ⟨by rw [out, read]; exact jammed.fewer, due.trans jammed.due⟩

theorem Hears.calm (sane : Sane scene.toOutlook w) (hears : Hears scene.server w w')
    (calm : Calm scene.toOutlook w) : Calm scene.toOutlook w' := by
  obtain ⟨session, trace, out, due, read⟩ := hears.keeps
  cases calm with
  | lost lost => exact .lost (lost.of_trace trace)
  | jammed jammed => exact .jammed (hears.jammed jammed)
  | follows relays nothing inStep =>
      refine .follows (hears.relays sane relays) (due.trans nothing) ?_
      rw [stateOf, session]
      exact hears.inStep sane inStep
  | ends ends =>
      obtain ⟨later, isDue, following, inStep⟩ := ends.due
      refine .ends ⟨hears.relays sane ends.relays, by rw [due]; exact ends.unsettled, ?_, later,
        ?_, following, hears.inStep sane inStep⟩
      · rw [stateOf, session]
        exact ends.prepare
      · rw [stateOf, session, due]
        exact isDue

theorem Hears.inspects (sane : Sane scene.toOutlook w) (hears : Hears scene.server w w')
    (inspects : Inspects scene.toOutlook w) : Inspects scene.toOutlook w' := by
  obtain ⟨session, trace, out, due, read⟩ := hears.keeps
  refine ⟨hears.relays sane inspects.relays, due.trans inspects.due,
    hears.received inspects.received, ?_, ?_⟩
  · rw [stateOf, session]
    exact inspects.reading
  · rw [stateOf, session]
    exact hears.inStep sane inspects.inStep

/-- A server that reads a message leaves the connection standing. -/
theorem Hears.standing (sane : Sane scene.toOutlook w) (hears : Hears scene.server w w')
    (standing : Standing scene.toOutlook w) : Standing scene.toOutlook w' := by
  rcases standing with calm | inspects
  · exact .inl (hears.calm sane calm)
  · exact .inr (hears.inspects sane inspects)

theorem Hears.sane (sane : Sane scene.toOutlook w) (hears : Hears scene.server w w') :
    Sane scene.toOutlook w' := by
  obtain ⟨next, replies⟩ := hears
  refine ⟨sane.flags, sane.phase, ?_, ?_⟩
  · have count := congrArg List.length next
    simp only [inFlight, List.length_drop, List.length_cons] at count
    simp only [hear, List.length_append, List.length_singleton]
    omega
  · rw [hear_sent, List.length_append]
    exact Nat.le_add_right_of_le sane.read

end Hears

end SqlSafetyProxy.MySql
