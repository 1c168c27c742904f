import SqlSafetyProxy.MySql.Preparation
import SqlSafetyProxy.MySql.Serving

/-!
# The registry of prepared statements

The registry follows the server's statements behind the prepares that are under
way.  While one is, nothing is looked up in it, and once the whole answer has been
relayed it names the statements that the server has prepared, with the types that
the executions written so far have bound.
-/

namespace SqlSafetyProxy.MySql

open SqlSafetyProxy.Policy SqlSafetyProxy.Wire SqlSafetyProxy.Runtime SqlSafetyProxy.Coroutine
open SqlSafetyProxy.Collections

variable {σ : Type}

/-! ## Faithful inspections -/

/-- A reconstruction that is true to what the server will run. -/
structure Faithful (tools : Tools) (catalog : Catalog) (message : LogicalMessage)
    (statement : PreparedStatement) (decoded : StmtExecuteParameters) : Prop where
  kind : (commandOf message).kind = .stmtExecute
  target : catalog.target (commandOf message).payload = some statement.statementId
  known : ∃ known, catalog.statements.lookup statement.statementId = some known ∧
    Renders known statement ∧
    known.bound ((commandOf message).payload.drop 9) = some decoded.parameterTypes ∧
    PayloadFormat tools known.parameterTypes known.parameterCount
      ((commandOf message).payload.drop 9) decoded

/-! ## Traces -/

section Traces

variable {w w' : Link σ} {message : LogicalMessage} {events : List (Event adapter)}

/-- Two splits of a list at the last item of a kind are the same. -/
theorem split_unique {α : Type} (kind : α → Prop) {first last first' last' : List α}
    {item item' : α} (same : first ++ item :: last = first' ++ item' :: last') (isKind : kind item)
    (isKind' : kind item') (none : ∀ other ∈ last, ¬ kind other)
    (none' : ∀ other ∈ last', ¬ kind other) : first = first' ∧ item = item' ∧ last = last' := by
  rcases List.append_eq_append_iff.mp same with ⟨middle, rfl, rest⟩ | ⟨middle, rfl, rest⟩
  · cases middle with
    | nil => simpa using rest
    | cons head middle =>
        obtain ⟨rfl, rfl⟩ := List.cons.inj rest
        exact absurd isKind' (none item' (by simp))
  · cases middle with
    | nil => simpa [eq_comm] using rest
    | cons head middle =>
        obtain ⟨rfl, rfl⟩ := List.cons.inj rest
        exact absurd isKind (none' item (by simp))

/-- The arrival of a message. -/
def IsArrival (event : Event adapter) : Prop := ∃ message, event = .noted (.received message)

theorem not_arrival_undecided {event : Event adapter} (undecided : Undecided event) :
    ¬ IsArrival event := by
  rintro ⟨message, rfl⟩
  exact undecided

theorem written_undecided {event : Event adapter} (undecided : Undecided event) :
    written [event] = [] := by
  cases event with
  | forwarded source raw => exact undecided.elim
  | _ => rfl

theorem written_allUndecided (all : ∀ event ∈ events, Undecided event) : written events = [] := by
  induction events with
  | nil => rfl
  | cons event events ih =>
      have first := written_undecided (all event List.mem_cons_self)
      have others := ih fun other inside => all other (List.mem_cons_of_mem _ inside)
      rw [← List.singleton_append, written_append, first, others]
      rfl

/-- The dispatch of a message writes nothing before it is decided. -/
theorem written_handled (before : List (Event adapter)) (all : ∀ event ∈ events, Undecided event) :
    written (before ++ .noted (.received message) :: events) = written before := by
  rw [written_append, ← List.singleton_append, written_append, written_allUndecided all]
  simp [written]

/-- What has been recorded last while a message is handled. -/
theorem Handles.log_inv {event : Event adapter} (handles : Handles (w.log event) message events) :
    events = [] ∨ ∃ earlier, events = earlier ++ [event] ∧ Handles w message earlier := by
  obtain ⟨⟨before, trace⟩, all⟩ := handles
  rw [World.log_trace] at trace
  rcases List.eq_nil_or_concat events with rfl | ⟨earlier, last, rfl⟩
  · exact .inl rfl
  · refine .inr ⟨earlier, ?_, ⟨before, ?_⟩, fun other inside => all other (by simp [inside])⟩
    · rw [List.concat_eq_append, ← List.cons_append, ← List.append_assoc] at trace
      rw [List.concat_eq_append, (List.cons.inj (List.append_inj_right' trace rfl)).1]
    · rw [List.concat_eq_append, ← List.cons_append, ← List.append_assoc] at trace
      exact List.append_inj_left' trace rfl

theorem Handles.unique {other : LogicalMessage} {others : List (Event adapter)}
    (handles : Handles w message events) (again : Handles w other others) :
    message = other ∧ events = others := by
  obtain ⟨⟨before, trace⟩, all⟩ := handles
  obtain ⟨⟨before', trace'⟩, all'⟩ := again
  obtain ⟨-, same, rest⟩ := split_unique IsArrival (trace.symm.trans trace') ⟨_, rfl⟩
    ⟨_, rfl⟩ (fun event inside => not_arrival_undecided (all event inside))
    (fun event inside => not_arrival_undecided (all' event inside))
  cases same
  exact ⟨rfl, rest⟩

theorem Wrote.last (wrote : Wrote w message events) :
    ∃ earlier, w.trace = earlier ++ [writeOf message] := by
  obtain ⟨⟨before, trace⟩, -⟩ := wrote
  exact ⟨before ++ .noted (.received message) :: events, by rw [trace]; simp⟩

theorem not_executing_of_last {event : Event adapter} {earlier : List (Event adapter)}
    (trace : w.trace = earlier ++ [event]) (other : ∀ message, event ≠ writeOf message)
    (statementId : Nat) : ¬ Executing w statementId := by
  rintro ⟨message, events, statement, decoded, wrote, -, -⟩
  obtain ⟨before, last⟩ := wrote.last
  rw [trace] at last
  exact other message (List.cons.inj (List.append_inj_right' last rfl)).1

theorem not_executing_of_handles (handles : Handles w message events) (statementId : Nat) :
    ¬ Executing w statementId := by
  obtain ⟨⟨before, trace⟩, all⟩ := handles
  rcases List.eq_nil_or_concat events with rfl | ⟨earlier, last, rfl⟩
  · exact not_executing_of_last trace (by rintro message ⟨⟩) statementId
  · have isLast : w.trace = before ++ .noted (.received message) :: earlier ++ [last] := by
      rw [trace, List.concat_eq_append]
      simp
    refine not_executing_of_last isLast ?_ statementId
    rintro other rfl
    exact all (writeOf other) (by simp)

theorem not_executing_of_unoccupied (unoccupied : Unoccupied w) (statementId : Nat) :
    ¬ Executing w statementId := by
  rcases unoccupied with nothing | ⟨before, forwarded, trace⟩
  · rintro ⟨message, events, statement, decoded, ⟨⟨before, trace⟩, -⟩, -⟩
    rw [nothing] at trace
    simp at trace
  · exact not_executing_of_last trace (by rintro message ⟨⟩) statementId

theorem Executing.of_trace {statementId : Nat} (executing : Executing w statementId)
    (same : w'.trace = w.trace) : Executing w' statementId := by
  obtain ⟨message, events, statement, decoded, wrote, rest⟩ := executing
  exact ⟨message, events, statement, decoded, wrote.of_trace same, rest⟩

theorem Wrote.unique {other : LogicalMessage} {others : List (Event adapter)}
    (wrote : Wrote w message events) (again : Wrote w other others) :
    message = other ∧ events = others := by
  obtain ⟨⟨before, trace⟩, all⟩ := wrote
  obtain ⟨⟨before', trace'⟩, all'⟩ := again
  have none : ∀ {message : LogicalMessage} {events : List (Event adapter)},
      (∀ event ∈ events, Undecided event) →
      ∀ event ∈ events ++ [writeOf message], ¬ IsArrival event := by
    intro message events all event inside
    rcases List.mem_append.mp inside with early | last
    · exact not_arrival_undecided (all event early)
    · rw [List.mem_singleton.mp last]
      rintro ⟨_, ⟨⟩⟩
  obtain ⟨-, same, rest⟩ := split_unique IsArrival (trace.symm.trans trace') ⟨_, rfl⟩
    ⟨_, rfl⟩ (none all) (none all')
  cases same
  exact ⟨rfl, List.append_inj_left' rest rfl⟩

end Traces

/-! ## The statements of the server -/

/-- The statements once the server has read everything that was written. -/
def catalogOf (w : Link σ) : Catalog := Catalog.heard {} (written w.trace) w.peer.answered

section CatalogOf

variable {w w' : Link σ} {message : LogicalMessage} {rest : List LogicalMessage}

theorem catalogOf_of_same (trace : written w'.trace = written w.trace)
    (answered : w'.peer.answered = w.peer.answered) : catalogOf w' = catalogOf w := by
  rw [catalogOf, trace, answered]
  rfl

/-- A message that is written has still to be answered. -/
theorem catalogOf_write (heard : w.peer.answered.length ≤ (written w.trace).length)
    (message : LogicalMessage) (after : SessionState) :
    catalogOf ((withState w after).log (writeOf message)) = (catalogOf w).after message [] := by
  have last : written ((withState w after).log (writeOf message)).trace =
      written w.trace ++ [message] := by
    rw [World.log_trace, withState_trace, written_append]
    rfl
  have unanswered : w.peer.answered[(written w.trace).length]? = none :=
    List.getElem?_eq_none heard
  rw [catalogOf, last, World.log_peer, withState_peer, Catalog.heard_snoc, unanswered]
  rfl

/-- What the answer to the next message makes of the statements. -/
theorem catalogOf_hear (next : inFlight w = message :: rest) (packets : List Packet) (later : σ) :
    ∃ base : Catalog, catalogOf w = (base.after message []).heard rest [] ∧
      catalogOf (hear w packets later) = (base.after message packets).heard rest [] := by
  have count := congrArg List.length next
  simp only [inFlight, List.length_drop, List.length_cons] at count
  have within : ((written w.trace).take w.peer.answered.length).length = w.peer.answered.length :=
    List.length_take_of_le (by omega)
  have whole : written w.trace =
      (written w.trace).take w.peer.answered.length ++ message :: rest := by
    rw [← next, inFlight, List.take_append_drop]
  refine ⟨Catalog.heard {} ((written w.trace).take w.peer.answered.length) w.peer.answered, ?_, ?_⟩
  · rw [catalogOf, whole, ← List.append_nil w.peer.answered, Catalog.heard_append]
    · simp only [List.append_nil, List.take_append_of_le_length within.ge, List.take_take,
        min_self]
      rfl
    · simpa using within
  · have heard : (hear w packets later).peer.answered = w.peer.answered ++ [packets] := rfl
    rw [catalogOf, hear_trace, heard, whole, Catalog.heard_append within]
    simp only [List.take_append_of_le_length within.ge, List.take_take, min_self]
    rfl

theorem catalogOf_hear_unprepared
    (unprepared : Catalog.Unprepared (inFlight w)) (packets : List Packet) (later : σ) :
    catalogOf (hear w packets later) = catalogOf w :=
  Catalog.heard_answered unprepared [packets]

end CatalogOf

/-! ## The registry -/

/-- No prepare is under way, and the registry is that of the server. -/
structure Current (w : Link σ) : Prop where
  due : w.peer.due = .nothing
  unprepared : Catalog.Unprepared (inFlight w)
  tallies : Tallies (Executing w) (catalogOf w) (stateOf w)

/-- A prepare has been written and is not answered. -/
structure Asking (w : Link σ) : Prop where
  atRest : AtRest w
  unexecuted : ∀ statementId, ¬ Executing w statementId
  preparing : Preparing (stateOf w) none []
  waits : Waits (stateOf w)
  unread : unread w = []
  asked : ∃ message text before after, inFlight w = before ++ message :: after ∧
    (∀ other ∈ before, silent other = true) ∧ (commandOf message).kind = .stmtPrepare ∧
    parseStmtPrepare (commandOf message).payload = .ok text ∧
    (stateOf w).pendingStatementSql = some (strip text) ∧
    ∀ other ∈ after, (commandOf other).kind = .quit
  mirrors : Mirrors (fun _ => False) (catalogOf w).statements (stateOf w).preparedStatements

/-- The answer to a prepare is being read. -/
structure Answering (o : Outlook) (w : Link σ) : Prop where
  atRest : AtRest w
  unexecuted : ∀ statementId, ¬ Executing w statementId
  quits : ∀ other ∈ inFlight w, (commandOf other).kind = .quit
  reports : Reports o.flags (catalogOf w) (stateOf w) ((unread w).map Packet.payload)

/-- The answer to a prepare has been read, and the prepare has still to be ended. -/
structure Ending (w : Link σ) : Prop where
  due : w.peer.due ≠ .nothing
  unexecuted : ∀ statementId, ¬ Executing w statementId
  quits : ∀ other ∈ inFlight w, (commandOf other).kind = .quit
  waits : Waits (stateOf w)
  later : ∃ later, w.peer.due.Due (stateOf w) later ∧
    Tallies (fun _ => False) (catalogOf w) later

/-- The registry has had no room for a statement. -/
structure Stuck (w : Link σ) : Prop where
  jammed : Jammed w
  waits : Waits (stateOf w)

/-- How far the registry has followed the server. -/
inductive Reflects (o : Outlook) (w : Link σ) : Prop where
  | lost : Lost w → Reflects o w
  | current : Current w → Reflects o w
  | asking : Asking w → Reflects o w
  | answering : Answering o w → Reflects o w
  | ending : Ending w → Reflects o w
  | stuck : Stuck w → Reflects o w

section Reflects

variable {o : Outlook} {w w' : Link σ}

theorem Waits.not_free {state : SessionState} (waits : Waits state) :
    state.hasPendingLifecycleOperation ≠ false := by
  intro free
  have prepare := waits.prepare
  rw [(hasPending_eq_false.mp free).2.1] at prepare
  cases prepare

theorem Reflects.of_free (reflects : Reflects o w)
    (free : (stateOf w).hasPendingLifecycleOperation = false) : Lost w ∨ Current w := by
  cases reflects with
  | lost lost => exact .inl lost
  | current current => exact .inr current
  | asking asking => exact absurd free asking.waits.not_free
  | answering answering => exact absurd free answering.reports.waits.not_free
  | ending ending => exact absurd free ending.waits.not_free
  | stuck stuck => exact absurd free stuck.waits.not_free

theorem Waits.not_inspects (waits : Waits (stateOf w)) : ¬ Inspects o w := by
  intro inspects
  have prepare := waits.prepare
  rw [inspects.reading.prepare] at prepare
  cases prepare

/-- Nothing is inspected while a prepare is under way. -/
theorem Reflects.of_inspecting (reflects : Reflects o w) (inspecting : Inspecting o w) :
    Lost w ∨ Current w ∨ Stuck w := by
  cases reflects with
  | lost lost => exact .inl lost
  | current current => exact .inr (.inl current)
  | stuck stuck => exact .inr (.inr stuck)
  | asking asking =>
      rcases inspecting with inspects | jammed
      · exact absurd inspects asking.waits.not_inspects
      · exact absurd jammed asking.atRest.not_jammed
  | answering answering =>
      rcases inspecting with inspects | jammed
      · exact absurd inspects answering.reports.waits.not_inspects
      · exact absurd jammed answering.atRest.not_jammed
  | ending ending =>
      rcases inspecting with inspects | jammed
      · exact absurd inspects ending.waits.not_inspects
      · exact absurd jammed.due ending.due

theorem Current.retains {state : SessionState} (current : Current w)
    (retains : Retains (stateOf w) state) : Current (withState w state) :=
  ⟨current.due, current.unprepared, current.tallies.retains retains⟩

/-- An event is recorded that is no write. -/
theorem Reflects.notes {event : Event adapter} (reflects : Reflects o w)
    (traffic : SameTraffic w w') (trace : w'.trace = w.trace ++ [event])
    (unwritten : written [event] = []) (session : stateOf w' = stateOf w)
    (filed : Current w → Tallies (fun _ => False) (catalogOf w) (stateOf w)) : Reflects o w' := by
  have catalog : catalogOf w' = catalogOf w := by
    refine catalogOf_of_same ?_ (by rw [traffic.peer])
    rw [trace, written_append, unwritten, List.append_nil]
  have unexecuted : ∀ statementId, ¬ Executing w' statementId := by
    refine not_executing_of_last trace ?_
    rintro message rfl
    cases unwritten
  have atRest : AtRest w → AtRest w' := by
    intro atRest
    refine ⟨by rw [traffic.peer, atRest.due], ?_⟩
    rw [traffic.peer, traffic.relayed]
    exact atRest.relayed
  cases reflects with
  | lost lost =>
      obtain ⟨error, inside⟩ := lost
      exact .lost ⟨error, by rw [trace]; exact List.mem_append_left _ inside⟩
  | current current =>
      refine .current ⟨by rw [traffic.peer, current.due], ?_, ?_⟩
      · rw [traffic.inFlight]
        exact current.unprepared
      · rw [catalog, session]
        exact (filed current).mono fun _ impossible => impossible.elim
  | asking asking =>
      refine .asking ⟨atRest asking.atRest, unexecuted, ?_, ?_,
        traffic.unread.trans asking.unread, ?_, ?_⟩
      · rw [session]
        exact asking.preparing
      · rw [session]
        exact asking.waits
      · rw [traffic.inFlight, session]
        exact asking.asked
      · rw [catalog, session]
        exact asking.mirrors
  | answering answering =>
      refine .answering ⟨atRest answering.atRest, unexecuted, ?_, ?_⟩
      · rw [traffic.inFlight]
        exact answering.quits
      · rw [catalog, session, traffic.unread]
        exact answering.reports
  | ending ending =>
      refine .ending ⟨by rw [traffic.peer]; exact ending.due, unexecuted, ?_, ?_, ?_⟩
      · rw [traffic.inFlight]
        exact ending.quits
      · rw [session]
        exact ending.waits
      · rw [traffic.peer, catalog, session]
        exact ending.later
  | stuck stuck =>
      refine .stuck ⟨traffic.jammed stuck.jammed, ?_⟩
      rw [session]
      exact stuck.waits

/-! ### Messages that are written -/

/-- A message that is written as it stands executes nothing. -/
theorem not_executing_opens {message : LogicalMessage} (handles : Handles w message [])
    (after : SessionState) (statementId : Nat) :
    ¬ Executing ((withState w after).log (writeOf message)) statementId := by
  rintro ⟨other, events, statement, decoded, wrote, inside, -⟩
  obtain ⟨-, none⟩ := wrote.unique (handles.wrote after)
  rw [none] at inside
  cases inside

/-- A message that leaves the statements alone is written while nothing is being prepared. -/
theorem Current.writes {message : LogicalMessage} {events : List (Event adapter)}
    {after : SessionState} (sane : Sane o w) (current : Current w)
    (handles : Handles w message events) (idle : Catalog.Idle message)
    (retains : Retains (stateOf w) after) :
    Current ((withState w after).log (writeOf message)) := by
  refine ⟨current.due, ?_, ?_⟩
  · rw [inFlight_write sane.heard]
    exact current.unprepared.snoc idle.1
  · rw [catalogOf_write sane.heard, Catalog.after_idle idle]
    exact (current.tallies.retains retains).mono fun statementId executing =>
      absurd executing (not_executing_of_handles handles statementId)

/-- An execution is written: only its own statement has other types at the server. -/
theorem Current.executes {tools : Tools} {message : LogicalMessage}
    {events : List (Event adapter)} {statement : PreparedStatement}
    {decoded : StmtExecuteParameters} (sane : Sane o w) (current : Current w)
    (handles : Handles w message events) (inside : reconstruction statement decoded ∈ events)
    (faithful : Faithful tools (catalogOf w) message statement decoded) :
    Current (w.log (writeOf message)) := by
  obtain ⟨known, isKnown, -, -, -⟩ := faithful.known
  have catalog : catalogOf (w.log (writeOf message)) =
      (catalogOf w).executed (commandOf message).payload := by
    exact (catalogOf_write sane.heard message (stateOf w)).trans
      (Catalog.after_execute faithful.kind [])
  have executing : Executing (w.log (writeOf message)) statement.statementId :=
    ⟨message, events, statement, decoded, handles.wrote (stateOf w), inside, rfl⟩
  have mirrors := current.tallies.mirrors.mono (not_executing_of_handles handles)
  refine ⟨current.due, ?_, current.tallies.none, ?_, ?_⟩
  · rw [show inFlight (w.log (writeOf message)) = inFlight w ++ [message] from
      inFlight_write sane.heard message (stateOf w)]
    refine current.unprepared.snoc ?_
    rw [faithful.kind]
    decide
  · rw [catalog, Catalog.executed_eq faithful.target isKnown]
    exact mirrors.executed isKnown _ executing
  · rw [catalog, Catalog.executed_eq faithful.target isKnown]
    exact current.tallies.last

/-- A statement is closed on both sides. -/
theorem Current.closes {message : LogicalMessage} {events : List (Event adapter)}
    (sane : Sane o w) (current : Current w) (handles : Handles w message events)
    (kind : (commandOf message).kind = .stmtClose) :
    Current ((withState w ((stateOf w).closePreparedStatement
      (leNat ((commandOf message).payload.take 4)))).log (writeOf message)) := by
  have mirrors := current.tallies.mirrors.mono (not_executing_of_handles handles)
  have catalog := catalogOf_write sane.heard message ((stateOf w).closePreparedStatement
    (leNat ((commandOf message).payload.take 4)))
  rw [Catalog.after_close kind] at catalog
  refine ⟨current.due, ?_, current.tallies.none, ?_, ?_⟩
  · rw [inFlight_write sane.heard]
    refine current.unprepared.snoc ?_
    rw [kind]
    decide
  · rw [catalog]
    exact (mirrors.erase _).mono fun _ impossible => impossible.elim
  · rw [catalog]
    intro statementId isLast
    change (if (stateOf w).lastPreparedStatementId =
        some (leNat ((commandOf message).payload.take 4)) then none
      else (stateOf w).lastPreparedStatementId) = some statementId at isLast
    simp only [Catalog.closed]
    split at isLast
    · cases isLast
    · next other =>
      have same := current.tallies.last statementId isLast
      rw [isLast] at other
      rw [same, if_neg other]

/-- A prepare is written: nothing else is under way. -/
theorem Current.asks {message : LogicalMessage} {text : String} (strict : ¬ o.lenient)
    (sane : Sane o w) (calm : Calm o w) (present : ¬ Lost w) (current : Current w)
    (handles : Handles w message [])
    (free : (stateOf w).hasPendingLifecycleOperation = false)
    (kind : (commandOf message).kind = .stmtPrepare)
    (parsed : parseStmtPrepare (commandOf message).payload = .ok text) :
    Reflects o ((withState w ((stateOf w).awaitingPrepare (strip text))).log
      (writeOf message)) := by
  have mirrors := current.tallies.mirrors.mono (not_executing_of_handles handles)
  have waits : Waits ((stateOf w).awaitingPrepare (strip text)) := ⟨rfl, rfl⟩
  cases calm with
  | lost lost => exact absurd lost present
  | ends ends => exact absurd free ends.not_free
  | jammed jammed => exact .stuck ⟨jammed.writes message _, waits⟩
  | follows relays due inStep =>
      have received := received_of_free (.inl strict) relays inStep free
      refine .asking ⟨⟨due, (relays.count sane).ge⟩, not_executing_opens handles _,
        preparing_awaiting free _, waits, received.unread relays,
        ⟨message, text, inFlight w, [], inFlight_write sane.heard message _, received.2, kind,
          parsed, rfl, by simp⟩, ?_⟩
      rw [catalogOf_write sane.heard, Catalog.after_prepare kind]
      exact mirrors

theorem idle_of_kind {message : LogicalMessage} {kind : CommandKind}
    (isKind : (commandOf message).kind = kind) (prepare : kind ≠ .stmtPrepare)
    (close : kind ≠ .stmtClose) (execute : kind ≠ .stmtExecute) : Catalog.Idle message := by
  subst isKind
  exact ⟨prepare, close, execute⟩

theorem idle_quit {message : LogicalMessage} (kind : (commandOf message).kind = .quit) :
    Catalog.Idle message := idle_of_kind kind (by decide) (by decide) (by decide)

/-- The end of the session is announced, whatever is under way. -/
theorem Reflects.quits {message : LogicalMessage} (sane : Sane o w) (reflects : Reflects o w)
    (handles : Handles w message []) (kind : (commandOf message).kind = .quit) :
    Reflects o ((withState w (stateOf w).markClosing).log (writeOf message)) := by
  have catalog : catalogOf ((withState w (stateOf w).markClosing).log (writeOf message)) =
      catalogOf w := by
    rw [catalogOf_write sane.heard, Catalog.after_idle (idle_quit kind)]
  have flight := inFlight_write sane.heard message (stateOf w).markClosing
  have unexecuted := not_executing_opens handles (stateOf w).markClosing
  have quits : ∀ messages, (∀ other ∈ messages, (commandOf other).kind = .quit) →
      ∀ other ∈ messages ++ [message], (commandOf other).kind = .quit := by
    intro messages all other inside
    rcases List.mem_append.mp inside with early | last
    · exact all other early
    · rw [List.mem_singleton.mp last]
      exact kind
  cases reflects with
  | lost lost => exact .lost (lost.log _)
  | current current =>
      exact .current (current.writes sane handles (idle_quit kind) (.of_same rfl rfl rfl))
  | asking asking =>
      obtain ⟨request, text, before, after, next, quiet, isPrepare, parsed, strips, late⟩ :=
        asking.asked
      have preparing := asking.preparing
      refine .asking ⟨⟨asking.atRest.due, asking.atRest.relayed⟩, unexecuted,
        ⟨preparing.ping, preparing.reset, preparing.database, preparing.prepare,
          preparing.response, preparing.statement, preparing.packets_eq, preparing.kinds_eq⟩,
        asking.waits.markClosing, asking.unread,
        ⟨request, text, before, after ++ [message], ?_, quiet, isPrepare, parsed, strips,
          quits after late⟩, ?_⟩
      · rw [flight, next, List.append_assoc, List.cons_append]
      · rw [catalog]
        exact asking.mirrors
  | answering answering =>
      refine .answering ⟨⟨answering.atRest.due, answering.atRest.relayed⟩, unexecuted, ?_, ?_⟩
      · rw [flight]
        exact quits _ answering.quits
      · rw [catalog]
        exact answering.reports.markClosing
  | ending ending =>
      obtain ⟨later, due, tallies⟩ := ending.later
      refine .ending ⟨ending.due, unexecuted, ?_, ending.waits.markClosing, later.markClosing,
        due_markClosing due, ?_⟩
      · rw [flight]
        exact quits _ ending.quits
      · rw [catalog]
        exact tallies.retains (.of_same rfl rfl rfl)
  | stuck stuck => exact .stuck ⟨stuck.jammed.writes message _, stuck.waits.markClosing⟩

theorem parseStatementId_ok {payload : Bytes} {statementId : Nat}
    (parsed : parseStatementId payload = .ok statementId) :
    statementId = leNat (payload.take 4) := by
  unfold parseStatementId at parsed
  split at parsed
  · cases parsed
  · exact (Except.ok.inj parsed).symm

/-- A command is written as it stands. -/
theorem Reflects.opens {message : LogicalMessage} {after : SessionState} (strict : ¬ o.lenient)
    (stands : Stands o w) (present : ¬ Lost w) (reflects : Reflects o w)
    (handles : Handles w message []) (opens : Opens (commandOf message) (stateOf w) after) :
    Reflects o ((withState w after).log (writeOf message)) := by
  have sane := stands.sane
  rcases opens_free opens with ⟨kind, rfl⟩ | free
  · exact reflects.quits sane handles kind
  · have current := (reflects.of_free free).resolve_left present
    cases opens with
    | initDb kind _ begun =>
        obtain ⟨-, rfl⟩ := beginDatabaseChange_ok begun
        exact .current (current.writes sane handles
          (idle_of_kind kind (by decide) (by decide) (by decide)) (.of_same rfl rfl rfl))
    | ping kind _ begun =>
        obtain ⟨-, rfl⟩ := beginPing_ok begun
        exact .current (current.writes sane handles
          (idle_of_kind kind (by decide) (by decide) (by decide)) (.of_same rfl rfl rfl))
    | stmtReset kind _ begun =>
        obtain ⟨-, -, rfl⟩ := beginStatementReset_ok begun
        exact .current (current.writes sane handles
          (idle_of_kind kind (by decide) (by decide) (by decide)) (.of_same rfl rfl rfl))
    | quit kind => exact reflects.quits sane handles kind
    | stmtClose kind parsed _ =>
        rw [parseStatementId_ok parsed]
        exact .current (current.closes sane handles kind)
    | stmtPrepare kind parsed begun =>
        obtain ⟨-, rfl⟩ := beginStatementPrepare_ok begun
        rcases stands.standing with calm | inspects
        · exact current.asks strict sane calm present handles free kind parsed
        · have busy := inspects.reading.pending
          rw [free] at busy
          cases busy

end Reflects

/-! ### What the backend task does -/

section Backend

variable {o : Outlook} {w w' : Link σ}

/-- A packet of another response leaves the registry to the server. -/
theorem Current.takesUp {flags : Nat} {payload : Bytes} (current : Current w)
    (written : w'.trace = w.trace) (answered : w'.peer.answered = w.peer.answered)
    (due : w'.peer.due = .nothing)
    (tracked : stateOf w' = (trackResponse flags payload (stateOf w)).2) : Current w' := by
  have flight : inFlight w' = inFlight w := by rw [inFlight, inFlight, written, answered]
  have catalog : catalogOf w' = catalogOf w := by
    refine catalogOf_of_same ?_ answered
    rw [written]
  refine ⟨due, by rw [flight]; exact current.unprepared, ?_⟩
  rw [catalog, tracked]
  refine (current.tallies.retains (retains_trackResponse current.tallies.none)).mono ?_
  exact fun statementId executing => executing.of_trace written

/-- Nothing is left to do about a packet that answers no prepare. -/
theorem nothing_due {packet : Packet} {next : FollowUp} {tracked : SessionState}
    {state : SessionState} (none : state.pendingStatementSql = none)
    (tracks : trackResponse o.flags packet.payload state = (.ok next, tracked)) :
    next = .nothing := by
  by_contra some_
  have prepare := (track_followUp tracks some_).1
  have retains := @retains_trackResponse o.flags packet.payload state none
  rw [tracks] at retains
  rw [retains.prepare, none] at prepare
  cases prepare

theorem Reflects.relays {packet : Packet} {rest : List Packet} {next : FollowUp}
    {tracked : SessionState} (sane : Sane o w) (reflects : Reflects o w) (atRest : AtRest w)
    (taken : unread w = packet :: rest)
    (tracks : trackResponse o.flags packet.payload (stateOf w) = (.ok next, tracked)) :
    Reflects o ((withState (takeUp w packet) tracked).answer (.relayed packet.raw)) := by
  have due : followUpOf w.session.auth.capabilityFlags packet.payload (stateOf w) = next := by
    rw [followUpOf, sane.flags, tracks]
  cases reflects with
  | lost lost => exact .lost (lost.of_trace rfl)
  | asking asking =>
      rw [asking.unread] at taken
      cases taken
  | ending ending => exact absurd atRest.due ending.due
  | stuck stuck => exact absurd stuck.jammed atRest.not_jammed
  | current current =>
      have nothing := nothing_due current.tallies.none tracks
      have followed : stateOf ((withState (takeUp w packet) tracked).answer (.relayed packet.raw)) =
          (trackResponse o.flags packet.payload (stateOf w)).2 := by
        rw [tracks]
        rfl
      exact .current (current.takesUp rfl rfl (due.trans nothing) followed)
  | answering answering =>
      have reports := answering.reports
      rw [taken, List.map_cons] at reports
      have remaining : unread ((withState (takeUp w packet) tracked).answer (.relayed packet.raw)) =
          rest := unread_takeUp taken
      have unexecuted : ∀ statementId, ¬ Executing
          ((withState (takeUp w packet) tracked).answer (.relayed packet.raw)) statementId :=
        fun statementId executing => answering.unexecuted statementId (executing.of_trace rfl)
      rcases reports.takesUp tracks with ⟨⟨error, failed⟩, -⟩ | ⟨same, later⟩ |
        ⟨other, later, same, some_, waits, isDue, tallies⟩
      · cases failed
      · cases same
        refine .answering ⟨⟨due, Nat.add_le_add_right atRest.relayed 1 |>.trans ?_⟩, unexecuted,
          answering.quits, ?_⟩
        · simp [relayed]
        · rw [remaining]
          exact later
      · cases same
        refine .ending ⟨fun nothing => some_ (due.symm.trans nothing), unexecuted,
          answering.quits, waits, later, ?_, tallies⟩
        change FollowUp.Due (followUpOf _ _ _) _ _
        rw [due]
        exact isDue

theorem Reflects.breaks {packet : Packet} {rest : List Packet} {error : Exn}
    {tracked : SessionState} (stands : Stands o w) (reflects : Reflects o w) (atRest : AtRest w)
    (taken : unread w = packet :: rest)
    (tracks : trackResponse o.flags packet.payload (stateOf w) = (.error error, tracked)) :
    Reflects o (withState (takeUp w packet) tracked) := by
  have due : followUpOf w.session.auth.capabilityFlags packet.payload (stateOf w) = .nothing := by
    rw [followUpOf, stands.sane.flags, tracks]
  cases reflects with
  | lost lost => exact .lost (lost.of_trace rfl)
  | asking asking =>
      rw [asking.unread] at taken
      cases taken
  | ending ending => exact absurd atRest.due ending.due
  | stuck stuck => exact absurd stuck.jammed atRest.not_jammed
  | current current =>
      have followed : stateOf (withState (takeUp w packet) tracked) =
          (trackResponse o.flags packet.payload (stateOf w)).2 := by
        rw [tracks]
        rfl
      exact .current (current.takesUp rfl rfl due followed)
  | answering answering =>
      by_cases lost : Lost w
      · exact .lost (lost.of_trace rfl)
      · have reports := answering.reports
        rw [taken, List.map_cons] at reports
        rcases reports.takesUp tracks with ⟨-, rfl⟩ | ⟨same, -⟩ | ⟨next, later, same, -⟩
        · refine .stuck ⟨⟨?_, due⟩, reports.waits⟩
          have relays := (stands.standing.relays_or_jammed lost).resolve_right atRest.not_jammed
          change (relayed w.clientOut).length < w.peer.read + 1
          rw [relays.count stands.sane]
          exact Nat.lt_succ_self _
        · cases same
        · cases same

/-- The end of a prepare makes the registry current. -/
theorem Reflects.settles {later : SessionState} (reflects : Reflects o w)
    (isDue : w.peer.due.Due (stateOf w) later) : Reflects o (settle (withState w later)) := by
  have same : w.peer.due = .nothing → later = stateOf w := by
    intro nothing
    rw [nothing] at isDue
    exact isDue
  cases reflects with
  | lost lost => exact .lost (lost.of_trace rfl)
  | current current =>
      rw [same current.due]
      exact .current ⟨rfl, current.unprepared, current.tallies⟩
  | asking asking =>
      rw [same asking.atRest.due]
      exact .asking ⟨⟨rfl, asking.atRest.relayed⟩, asking.unexecuted, asking.preparing,
        asking.waits, asking.unread, asking.asked, asking.mirrors⟩
  | answering answering =>
      rw [same answering.atRest.due]
      exact .answering ⟨⟨rfl, answering.atRest.relayed⟩, answering.unexecuted, answering.quits,
        answering.reports⟩
  | ending ending =>
      obtain ⟨other, otherDue, tallies⟩ := ending.later
      have same : other = later := otherDue.unique isDue
      subst same
      exact .current ⟨rfl, Catalog.unprepared_quits ending.quits,
        tallies.mono fun _ impossible => impossible.elim⟩
  | stuck stuck =>
      rw [same stuck.jammed.due]
      exact .stuck ⟨⟨stuck.jammed.fewer, rfl⟩, stuck.waits⟩

theorem BackendAct.reflects (stands : Stands o w) (reflects : Reflects o w)
    (act : BackendAct o w w') : Reflects o w' := by
  cases act with
  | relays atRest taken tracks => exact reflects.relays stands.sane atRest taken tracks
  | breaks atRest taken tracks => exact reflects.breaks stands atRest taken tracks
  | settles isDue => exact reflects.settles isDue

end Backend

/-! ### What the server does -/

section Hears

variable {scene : Scene σ} {w w' : Link σ}

theorem unprepared_tail {message : LogicalMessage} {rest : List LogicalMessage}
    (next : inFlight w = message :: rest) (unprepared : Catalog.Unprepared (inFlight w)) :
    Catalog.Unprepared rest := by
  intro other inside
  exact unprepared other (by rw [next]; exact List.mem_cons_of_mem _ inside)

/-- Nothing answers the end of a session. -/
theorem replies_quit {state later : σ} {message : LogicalMessage} {packets : List Packet}
    (replies : scene.server.replies state message packets later)
    (isSilent : silent message = true) : packets = [] :=
  List.map_eq_nil_iff.mp ((answers_of_replies replies).nil_iff.mpr isSilent)

/-- The server reads a message: a prepare that it reads is answered. -/
theorem Hears.reflects (sane : Sane scene.toOutlook w) (reflects : Reflects scene.toOutlook w)
    (hears : Hears scene.server w w') : Reflects scene.toOutlook w' := by
  obtain ⟨next, replies⟩ := hears
  next message rest packets later =>
  have flight : inFlight (hear w packets later) = rest := inFlight_hear next
  have reads := @unread_hear _ w packets later sane.read
  have head : message ∈ inFlight w := by rw [next]; exact List.mem_cons_self
  have tail : ∀ other ∈ rest, other ∈ inFlight w := by
    intro other inside
    rw [next]
    exact List.mem_cons_of_mem _ inside
  have unexecuted : (∀ statementId, ¬ Executing w statementId) →
      ∀ statementId, ¬ Executing (hear w packets later) statementId :=
    fun none statementId executing => none statementId (executing.of_trace rfl)
  cases reflects with
  | lost lost => exact .lost (lost.of_trace rfl)
  | stuck stuck => exact .stuck ⟨⟨stuck.jammed.fewer, stuck.jammed.due⟩, stuck.waits⟩
  | current current =>
      refine .current ⟨current.due, ?_, ?_⟩
      · rw [flight]
        exact unprepared_tail next current.unprepared
      · rw [catalogOf_hear_unprepared current.unprepared]
        exact current.tallies.mono fun statementId executing => executing.of_trace rfl
  | answering answering =>
      have isSilent := silent_quit (answering.quits message head)
      have none := replies_quit replies isSilent
      refine .answering ⟨⟨answering.atRest.due, answering.atRest.relayed⟩,
        unexecuted answering.unexecuted, ?_, ?_⟩
      · rw [flight]
        exact fun other inside => answering.quits other (tail other inside)
      · rw [catalogOf_hear_unprepared (Catalog.unprepared_quits answering.quits), reads, none,
          List.append_nil]
        exact answering.reports
  | ending ending =>
      refine .ending ⟨ending.due, unexecuted ending.unexecuted, ?_, ending.waits, ?_⟩
      · rw [flight]
        exact fun other inside => ending.quits other (tail other inside)
      · rw [catalogOf_hear_unprepared (Catalog.unprepared_quits ending.quits)]
        exact ending.later
  | asking asking =>
      obtain ⟨request, text, before, after, asked, quiet, isPrepare, parsed, strips, late⟩ :=
        asking.asked
      obtain ⟨base, earlier, later'⟩ := catalogOf_hear next packets later
      have atRest : AtRest (hear w packets later) := ⟨asking.atRest.due, asking.atRest.relayed⟩
      rw [next] at asked
      cases before with
      | cons first before =>
          -- A silent message is read on the way to the prepare.
          obtain ⟨rfl, ahead⟩ := List.cons.inj asked
          have isSilent := quiet message List.mem_cons_self
          have none := replies_quit replies isSilent
          have other : (commandOf message).kind ≠ .stmtPrepare := by
            intro prepares
            rw [silent, prepares] at isSilent
            cases isSilent
          refine .asking ⟨atRest, unexecuted asking.unexecuted, asking.preparing, asking.waits, ?_,
            ⟨request, text, before, after, flight.trans ahead,
              fun earlier inside => quiet earlier (List.mem_cons_of_mem _ inside), isPrepare,
              parsed, strips, late⟩, ?_⟩
          · rw [reads, asking.unread, none]
            rfl
          · rw [later', Catalog.after_answer other packets [], ← earlier]
            exact asking.mirrors
      | nil =>
          obtain ⟨rfl, ahead⟩ := List.cons.inj asked
          have idle : ∀ other ∈ rest, Catalog.Idle other := by
            intro other inside
            rw [ahead] at inside
            exact idle_quit (late other inside)
          rw [Catalog.heard_idle idle, Catalog.after_prepare isPrepare] at earlier later'
          have responds := scene.server.responds replies
          rw [isPrepare] at responds
          have mirrors : Mirrors (fun _ => False) base.statements
              (stateOf w).preparedStatements := by
            have same := asking.mirrors
            rw [earlier] at same
            exact same
          refine .answering ⟨atRest, unexecuted asking.unexecuted, ?_, ?_⟩
          · rw [flight, ahead]
            exact late
          · rw [later', reads, asking.unread, List.nil_append,
              ← encodeUtf8_parseText parsed]
            exact reports_response asking.preparing asking.waits strips rfl responds mirrors

end Hears

end SqlSafetyProxy.MySql
