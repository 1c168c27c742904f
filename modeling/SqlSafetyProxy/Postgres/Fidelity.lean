import SqlSafetyProxy.Postgres.Relay
import SqlSafetyProxy.Postgres.Server

/-!
# Inspection fidelity of the extended protocol

The proxy updates its registries when it forwards a message, the backend when
the message succeeds.  As long as every message that fails leaves the two in
step, each `Execute` that is written was inspected as the text of the
statement its portal was built from.
-/

namespace SqlSafetyProxy.Postgres

open SqlSafetyProxy.Sql SqlSafetyProxy.Policy SqlSafetyProxy.Wire SqlSafetyProxy.Runtime
open SqlSafetyProxy.Coroutine SqlSafetyProxy.Collections

variable {tools : Tools} {opts : ProxyOptions}

/-! ## What fidelity means -/

/-- The messages forwarded in a trace, in order. -/
def delivered : List (Event adapter) → List Message
  | [] => []
  | .forwarded message _ :: rest => message :: delivered rest
  | _ :: rest => delivered rest

@[simp] theorem delivered_append (first second : List (Event adapter)) :
    delivered (first ++ second) = delivered first ++ delivered second := by
  induction first with
  | nil => rfl
  | cons event rest ih => cases event <;> simp [delivered, ih]

/-- The texts passed to `classify` since the last message was received. -/
def inspected (trace : List (Event adapter)) : List String :=
  trace.foldl (fun texts event =>
    match event with
    | .noted (.received _ _) => []
    | .classified text _ => texts ++ [text]
    | _ => texts) []

/-- The backend when it comes to the next message after the trace. -/
def serverOf (fates : Nat → Fate) (trace : List (Event adapter)) : Server :=
  Server.after fates (delivered trace)

/--
Whenever an `Execute` was written and the backend has its portal, exactly the
text that portal was built from was inspected.
-/
def Faithful (fates : Nat → Fate) (trace : List (Event adapter)) : Prop :=
  ∀ before message raw later execute portal,
    trace = before ++ .forwarded message raw :: later → message.type = 'E' →
    parseExecuteMessage message.payload = .ok execute →
    (serverOf fates before).portals execute.portalName = some portal →
    inspected before = [portal.text]

/--
A message that has no effect at the backend leaves nothing else in its place: a
`Parse` leaves no statement of its name or one with the same text, a `Bind` no
portal of its name or one built from the current text of its statement.
-/
structure Harmless (server : Server) (fate : Fate) (message : Message) : Prop where
  parse : message.type = 'P' → server.effect fate message = none →
    ∀ parsed, parseParseMessage message.payload = .ok parsed →
      ∀ text, (server.process fate message).statements parsed.statementName = some text →
        text = parsed.query
  bind : message.type = 'B' → server.effect fate message = none →
    ∀ bound, parseBindMessage message.payload = .ok bound →
      ∀ portal, (server.process fate message).portals bound.portalName = some portal →
        portal.statement = bound.statementName ∧
          server.statements bound.statementName = some portal.text

/-- Every message of the trace was harmless when the backend came to it. -/
def InStep (fates : Nat → Fate) (trace : List (Event adapter)) : Prop :=
  ∀ before message raw later, trace = before ++ .forwarded message raw :: later →
    Harmless (serverOf fates before) (fates (delivered before).length) message

theorem InStep.init {fates : Nat → Fate} {first second : List (Event adapter)}
    (inStep : InStep fates (first ++ second)) : InStep fates first := by
  intro before message raw later split
  exact inStep before message raw (later ++ second) (by rw [split]; simp)

/-! ## Agreement of the registries -/

/-- What the two registries agree on. -/
structure Agrees (state : ConnectionState) (server : Server) : Prop where
  statements : ∀ name text text', state.preparedStatements.lookup name = some text →
    server.statements name = some text' → text = text'
  portals : ∀ name bind portal, state.portals.lookup name = some bind →
    server.portals name = some portal → bind.statementName = portal.statement ∧
      ∀ text, state.preparedStatements.lookup bind.statementName = some text → text = portal.text
  sources : ∀ name portal, server.portals name = some portal → portal.statement ≠ "" →
    server.statements portal.statement = some portal.text

namespace Agrees

variable {state : ConnectionState} {server : Server}

theorem shrinks {later : Server} (agrees : Agrees state server)
    (lost : Server.Shrinks server later) : Agrees state later where
  statements name text text' known found :=
    agrees.statements name text text' known (lost.statements name text' found)
  portals name bind portal known found :=
    agrees.portals name bind portal known (lost.portals name portal found)
  sources name portal found named := by
    rw [lost.named _ named]
    exact agrees.sources name portal (lost.portals name portal found) named

/-- The proxy may forget. -/
theorem forgets {later : ConnectionState} (agrees : Agrees state server)
    (statements : ∀ name text, later.preparedStatements.lookup name = some text →
      state.preparedStatements.lookup name = some text)
    (portals : ∀ name bind, later.portals.lookup name = some bind →
      state.portals.lookup name = some bind) : Agrees later server where
  statements name text text' known found :=
    agrees.statements name text text' (statements name text known) found
  portals name bind portal known found := by
    obtain ⟨source, texts⟩ := agrees.portals name bind portal (portals name bind known) found
    exact ⟨source, fun text present => texts text (statements _ _ present)⟩
  sources := agrees.sources

theorem reported {later : ConnectionState} (agrees : Agrees state server)
    (reported : Reported state later) : Agrees later server := by
  induction reported with
  | refl => exact agrees
  | tail _ status ih =>
      obtain ⟨status, rfl⟩ := status
      refine ih.forgets (fun _ _ known => known) ?_
      intro name bind known
      simp only [ConnectionState.updateTransactionStatus] at known
      split at known
      · cases known
      · exact known

/-! ### Parse -/

/-- The proxy's portals after a `Parse` are old ones, none of them of a redefined unnamed statement. -/
theorem mem_portals_of_registered {registered : ConnectionState} {name query portal : String}
    {bind : BindMessage} (done : state.registerStatement name query = .ok registered)
    (known : registered.portals.lookup portal = some bind) :
    state.portals.lookup portal = some bind ∧ (name = "" → bind.statementName ≠ "") := by
  rw [ConnectionState.registerStatement_ok done] at known
  simp only at known
  split at known
  · next unnamed =>
    obtain ⟨old, other⟩ := Dict.lookup_filter_eq_some.mp known
    exact ⟨old, fun _ => by simpa using other⟩
  · next named => exact ⟨known, fun unnamed => absurd unnamed named⟩

theorem statements_of_registered {registered : ConnectionState} {name query : String}
    (done : state.registerStatement name query = .ok registered) :
    registered.preparedStatements = state.preparedStatements.insert name query := by
  rw [ConnectionState.registerStatement_ok done]

/-- A `Parse` keeps the agreement when the backend's statement of its name, if any, has its text. -/
theorem registersStatement {registered : ConnectionState} {next : Server} {name query : String}
    (agrees : Agrees state server) (done : state.registerStatement name query = .ok registered)
    (same : ∀ text, next.statements name = some text → text = query)
    (others : ∀ other text, other ≠ name → next.statements other = some text →
      server.statements other = some text)
    (portals : ∀ name portal, next.portals name = some portal →
      server.portals name = some portal)
    (kept : ∀ other text, other ≠ "" → server.statements other = some text →
      next.statements other = some text) : Agrees registered next where
  statements other text text' known found := by
    rw [statements_of_registered done] at known
    rcases Dict.lookup_insert_eq_some.mp known with ⟨rfl, rfl⟩ | ⟨different, old⟩
    · exact (same text' found).symm
    · exact agrees.statements other text text' old (others other text' different found)
  portals portalName bind portal known found := by
    have found := portals portalName portal found
    obtain ⟨old, notUnnamed⟩ := mem_portals_of_registered done known
    obtain ⟨source, texts⟩ := agrees.portals portalName bind portal old found
    refine ⟨source, ?_⟩
    intro text present
    rw [statements_of_registered done] at present
    rcases Dict.lookup_insert_eq_some.mp present with ⟨isName, rfl⟩ | ⟨_, present⟩
    · have named : portal.statement ≠ "" := by
        intro unnamed
        rw [← source, isName] at unnamed
        exact notUnnamed unnamed (isName.trans unnamed)
      have atServer := agrees.sources portalName portal found named
      rw [← source, isName] at atServer named
      exact (same portal.text (kept name portal.text named atServer)).symm
    · exact texts text present
  sources portalName portal found named :=
    kept _ _ named (agrees.sources portalName portal (portals portalName portal found) named)

/-! ### Bind -/

/-- A `Bind` keeps the agreement when the backend's portal of its name comes from its statement. -/
theorem registersPortal {registered : ConnectionState} {next : Server} {bind : BindMessage}
    (agrees : Agrees state server) (done : state.registerPortal bind = .ok registered)
    (statements : ∀ name text, next.statements name = some text →
      server.statements name = some text)
    (kept : ∀ name, name ≠ "" → next.statements name = server.statements name)
    (others : ∀ other portal, other ≠ bind.portalName → next.portals other = some portal →
      server.portals other = some portal)
    (built : ∀ portal, next.portals bind.portalName = some portal →
      portal.statement = bind.statementName ∧
        server.statements bind.statementName = some portal.text) : Agrees registered next where
  statements name text text' known found := by
    rw [ConnectionState.registerPortal_ok done] at known
    exact agrees.statements name text text' known (statements name text' found)
  portals name other portal known found := by
    rw [ConnectionState.registerPortal_ok done] at known ⊢
    rcases Dict.lookup_insert_eq_some.mp known with ⟨rfl, rfl⟩ | ⟨different, old⟩
    · obtain ⟨source, current⟩ := built portal found
      exact ⟨source.symm, fun text present => agrees.statements _ text _ present current⟩
    · exact agrees.portals name other portal old (others name portal different found)
  sources name portal found named := by
    rw [kept _ named]
    by_cases isName : name = bind.portalName
    · rw [isName] at found
      obtain ⟨source, current⟩ := built portal found
      rw [source]
      exact current
    · exact agrees.sources name portal (others name portal isName found) named

/-! ### Close -/

theorem forgetsClosed (agrees : Agrees state server) (message : CloseMessage) :
    Agrees (state.close message) server := by
  unfold ConnectionState.close
  cases message.targetType with
  | statement =>
      apply agrees.forgets
      · intro name text known
        exact (Dict.lookup_erase_eq_some.mp known).1
      · intro name bind known
        exact (Dict.lookup_filter_eq_some.mp known).1
  | portal =>
      apply agrees.forgets
      · intro name text known
        exact known
      · intro name bind known
        exact (Dict.lookup_erase_eq_some.mp known).1

theorem closes (agrees : Agrees state server) (message : CloseMessage) :
    Agrees (state.close message) (server.close message) := by
  have forgotten := agrees.forgetsClosed message
  have update_some {value : Type} {table : String → Option value} {name other : String}
      {found : value} (present : Function.update table name none other = some found) :
      other ≠ name ∧ table other = some found := by
    by_cases same : other = name
    · simp [same] at present
    · exact ⟨same, by simpa [same] using present⟩
  unfold Server.close
  cases message.targetType with
  | statement =>
      refine ⟨?_, ?_, ?_⟩
      · intro name text text' known found
        exact forgotten.statements name text text' known (update_some found).2
      · intro name bind portal known found
        exact forgotten.portals name bind portal known (Option.filter_eq_some_iff.mp found).1
      · intro name portal found named
        obtain ⟨present, other⟩ := Option.filter_eq_some_iff.mp found
        have different : portal.statement ≠ message.name := by simpa using other
        simp only [Function.update_of_ne different]
        exact forgotten.sources name portal present named
  | portal =>
      refine ⟨forgotten.statements, ?_, ?_⟩
      · intro name bind portal known found
        exact forgotten.portals name bind portal known (update_some found).2
      · intro name portal found named
        exact forgotten.sources name portal (update_some found).2 named

end Agrees

/-! ## One message -/

section Message

variable {state received after : ConnectionState} {server next : Server} {fate : Fate}
  {message : Message}

theorem effect_eq_apply (taken : server.effect fate message = some next) :
    server.apply message = some next := by
  unfold Server.effect at taken
  split at taken
  · exact taken
  · cases taken

theorem agrees_parse (agrees : Agrees state server) (harmless : Harmless server fate message)
    (isParse : message.type = 'P') (changed : registryChange message state = .ok after) :
    Agrees after (server.process fate message) := by
  rw [registryChange, if_pos isParse] at changed
  cases parsed : parseParseMessage message.payload with
  | error error =>
      rw [parsed] at changed
      cases changed
  | ok parse =>
      rw [parsed] at changed
      have done : state.registerStatement parse.statementName parse.query = .ok after := changed
      cases taken : server.effect fate message with
      | none =>
          have lost := Server.process_without_effect (.inr taken)
          refine agrees.registersStatement done (harmless.parse isParse taken parse parsed)
            (fun other text _ found => lost.statements other text found) lost.portals ?_
          intro other text named found
          rw [lost.named other named]
          exact found
      | some next =>
          refine Agrees.shrinks ?_ (Server.process_effect (by simp [isParse]) taken)
          have applied := effect_eq_apply taken
          rw [Server.apply, if_pos isParse, parsed] at applied
          simp only [Except.toOption, Option.bind_some, Server.parse] at applied
          split at applied
          · next free =>
            cases applied
            refine agrees.registersStatement done ?_ ?_ (fun _ _ found => found) ?_
            · intro text found
              simpa [eq_comm] using found
            · intro other text different found
              simpa [different] using found
            · intro other text named found
              by_cases isName : other = parse.statementName
              · rw [isName] at found named
                rw [free.resolve_left named] at found
                cases found
              · simpa [isName] using found
          · cases applied

theorem agrees_bind (agrees : Agrees state server) (harmless : Harmless server fate message)
    (isBind : message.type = 'B') (changed : registryChange message state = .ok after) :
    Agrees after (server.process fate message) := by
  have notParse : message.type ≠ 'P' := by simp [isBind]
  rw [registryChange, if_neg notParse, if_pos isBind] at changed
  cases parsed : parseBindMessage message.payload with
  | error error =>
      rw [parsed] at changed
      cases changed
  | ok bind =>
      rw [parsed] at changed
      have done : state.registerPortal bind = .ok after := changed
      cases taken : server.effect fate message with
      | none =>
          have lost := Server.process_without_effect (.inr taken)
          exact agrees.registersPortal done lost.statements lost.named
            (fun other portal _ found => lost.portals other portal found)
            (harmless.bind isBind taken bind parsed)
      | some next =>
          refine Agrees.shrinks ?_ (Server.process_effect (by simp [isBind]) taken)
          have applied := effect_eq_apply taken
          rw [Server.apply, if_neg notParse, if_pos isBind, parsed] at applied
          simp only [Except.toOption, Option.bind_some, Server.bind] at applied
          split at applied
          · obtain ⟨text, current, rfl⟩ := Option.map_eq_some_iff.mp applied
            refine agrees.registersPortal done (fun _ _ found => found) (fun _ _ => rfl) ?_ ?_
            · intro other portal different found
              simpa [different] using found
            · intro portal found
              simp only [Function.update_self, Option.some.injEq] at found
              rw [← found]
              exact ⟨rfl, current⟩
          · cases applied

theorem agrees_close (agrees : Agrees state server) (isClose : message.type = 'C')
    (changed : registryChange message state = .ok after) :
    Agrees after (server.process fate message) := by
  have notParse : message.type ≠ 'P' := by simp [isClose]
  have notBind : message.type ≠ 'B' := by simp [isClose]
  rw [registryChange, if_neg notParse, if_neg notBind] at changed
  cases parsed : parseCloseMessage message.payload with
  | error error =>
      rw [parsed] at changed
      cases changed
  | ok close =>
      rw [parsed] at changed
      cases changed
      cases taken : server.effect fate message with
      | none =>
          exact (agrees.forgetsClosed close).shrinks
            (Server.process_without_effect (.inr taken))
      | some next =>
          refine Agrees.shrinks ?_ (Server.process_effect (by simp [isClose]) taken)
          have applied := effect_eq_apply taken
          rw [Server.apply, if_neg notParse, if_neg notBind, if_pos isClose, parsed] at applied
          simp only [Except.toOption, Option.map_some, Option.some.injEq] at applied
          rw [← applied]
          exact agrees.closes close

/-- A message of any other type changes neither registry. -/
theorem agrees_other (agrees : Agrees state server)
    (unregistered : message.type ≠ 'P' ∧ message.type ≠ 'B' ∧ message.type ≠ 'C') :
    Agrees state (server.process fate message) := by
  apply agrees.shrinks
  by_cases sync : message.type = 'S'
  · exact Server.process_without_effect (.inl sync)
  · cases taken : server.effect fate message with
    | none => exact Server.process_without_effect (.inr taken)
    | some next =>
        have applied := effect_eq_apply taken
        simp only [Server.apply, unregistered.1, unregistered.2.1, unregistered.2.2, if_false,
          Option.some.injEq] at applied
        have processed := Server.process_effect sync taken
        rwa [← applied] at processed

theorem type_of_subject {text : String} (known : subject received message = some text) :
    message.type = 'Q' ∨ message.type = 'E' := by
  unfold subject at known
  split at known
  · next query => exact .inl query
  · split at known
    · next execute => exact .inr execute
    · cases known

/-- The registries still agree after a message was written. -/
theorem agrees_clears (closed : opts.failSafeMode ≠ .permissive) {events : List (Event adapter)}
    (agrees : Agrees state server) (harmless : Harmless server fate message)
    (clears : Clears tools opts message received events state after) :
    Agrees after (server.process fate message) := by
  cases clears with
  | recovery _ passes =>
      apply agrees_other agrees
      rcases passes with sync | terminate
      · simp [sync]
      · simp [terminate]
  | registry _ registry changed =>
      rcases registry with isParse | isBind | isClose
      · exact agrees_parse agrees harmless isParse changed
      · exact agrees_bind agrees harmless isBind changed
      · exact agrees_close agrees isClose changed
  | safe _ known =>
      apply agrees_other agrees
      rcases type_of_subject known with query | execute
      · simp [query]
      · simp [execute]
  | approved _ known =>
      apply agrees_other agrees
      rcases type_of_subject known with query | execute
      · simp [query]
      · simp [execute]
  | unlisted _ unrouted =>
      apply agrees_other agrees
      refine ⟨?_, ?_, ?_⟩
      · exact fun isParse => unrouted (.inr (.inl isParse))
      · exact fun isBind => unrouted (.inr (.inr (.inl isBind)))
      · exact fun isClose => unrouted (.inr (.inr (.inr (.inl isClose))))
  | permitted permissive => exact absurd permissive closed

/-- The text an `Execute` was inspected as is the one its portal was built from. -/
theorem clears_execute (closed : opts.failSafeMode ≠ .permissive) {events : List (Event adapter)}
    (agrees : Agrees received server)
    (clears : Clears tools opts message received events state after)
    (isExecute : message.type = 'E') {execute : ExecuteMessage}
    (parsed : parseExecuteMessage message.payload = .ok execute) {portal : ServerPortal}
    (found : server.portals execute.portalName = some portal) :
    classifiedTexts events = [portal.text] := by
  have text_eq : ∀ text, subject received message = some text → text = portal.text := by
    intro text known
    rw [subject, if_neg (by simp [isExecute]), if_pos isExecute, boundText, parsed] at known
    simp only at known
    cases present : received.portals.lookup execute.portalName with
    | none => simp [present] at known
    | some bind =>
        simp only [present, Option.map_map, Option.map_eq_some_iff] at known
        obtain ⟨template, statement, rfl⟩ := known
        exact (agrees.portals _ bind portal present found).2 template statement
  cases clears with
  | recovery _ passes => simp [isExecute] at passes
  | registry _ registry => simp [isExecute] at registry
  | safe _ known => rw [← text_eq _ known]; rfl
  | approved _ known _ verdict =>
      rw [← text_eq _ known, classifiedTexts, verdict.unclassified]
  | unlisted _ unrouted => exact absurd (.inr (.inr (.inr (.inr isExecute)))) unrouted
  | permitted permissive => exact absurd permissive closed

end Message

/-! ## Traces -/

theorem inspected_call (before : List (Event adapter)) (message : Message)
    (state : ConnectionState) {events : List (Event adapter)}
    (decisions : ∀ event ∈ events, event.IsDecision) :
    inspected (before ++ .noted (.received message state) :: events) = classifiedTexts events := by
  induction events using List.reverseRecOn with
  | nil => simp [inspected, classifiedTexts]
  | append_singleton events event ih =>
      have earlier := ih fun other inside => decisions other (List.mem_append_left _ inside)
      have last := decisions event (by simp)
      simp only [inspected, List.foldl_append, List.foldl_cons, List.foldl_nil] at earlier ⊢
      rw [earlier]
      cases event with
      | classified text classification => simp [classifiedTexts]
      | forwarded source raw => exact last.elim
      | noted note => exact last.elim
      | _ => simp [classifiedTexts]

theorem delivered_eq_nil {events : List (Event adapter)}
    (decisions : ∀ event ∈ events, event.IsDecision) : delivered events = [] := by
  induction events with
  | nil => rfl
  | cons event rest ih =>
      have head := decisions event List.mem_cons_self
      have tail := ih fun later inside => decisions later (List.mem_cons_of_mem _ inside)
      cases event with
      | forwarded source raw => exact head.elim
      | _ => simpa [delivered] using tail

theorem faithful_event {fates : Nat → Fate} {trace : List (Event adapter)} {event : Event adapter}
    (faithful : Faithful fates trace)
    (last : ∀ message raw execute portal, event = .forwarded message raw → message.type = 'E' →
      parseExecuteMessage message.payload = .ok execute →
      (serverOf fates trace).portals execute.portalName = some portal →
      inspected trace = [portal.text]) : Faithful fates (trace ++ [event]) := by
  intro before message raw later execute portal split isExecute parsed found
  rcases List.eq_nil_or_concat later with rfl | ⟨others, other, rfl⟩
  · obtain ⟨rfl, same⟩ := List.append_inj' split rfl
    exact last message raw execute portal (List.cons.inj same).1 isExecute parsed found
  · have longer : trace ++ [event] = (before ++ .forwarded message raw :: others) ++ [other] := by
      rw [split]
      simp
    obtain ⟨rfl, -⟩ := List.append_inj' longer rfl
    exact faithful before message raw others execute portal rfl isExecute parsed found

/-! ## Whole runs -/

/-- What holds in every state of a run whose messages were all harmless. -/
def Inspects (fates : Nat → Fate) (w : PgWorld) : Prop :=
  InStep fates w.trace → Agrees w.session.state (serverOf fates w.trace) ∧ Faithful fates w.trace

section Inspects

variable {fates : Nat → Fate} {w : PgWorld}

/-- An event that forwards nothing changes neither the backend nor what was faithful. -/
theorem Inspects.log (inspects : Inspects fates w) {event : Event adapter}
    (quiet : ∀ message raw, event ≠ .forwarded message raw) : Inspects fates (w.log event) := by
  intro inStep
  obtain ⟨agrees, faithful⟩ := inspects inStep.init
  refine ⟨?_, faithful_event faithful ?_⟩
  · have same : serverOf fates (w.log event).trace = serverOf fates w.trace := by
      cases event with
      | forwarded message raw => exact absurd rfl (quiet message raw)
      | _ => simp [serverOf, delivered]
    rw [same]
    exact agrees
  · intro message raw _ _ isForward
    exact absurd isForward (quiet message raw)

/-- Changes of the connection state that leave both registries alone. -/
theorem Inspects.withState (inspects : Inspects fates w) {state : ConnectionState}
    (statements : state.preparedStatements = w.session.state.preparedStatements)
    (portals : state.portals = w.session.state.portals) :
    Inspects fates (withState w state) := by
  intro inStep
  obtain ⟨agrees, faithful⟩ := inspects inStep
  refine ⟨agrees.forgets ?_ ?_, faithful⟩
  · intro name text known
    rwa [← statements]
  · intro name bind known
    rwa [← portals]

end Inspects

/-- The promises of the two tasks: the client task alone adds to the trace. -/
def inspection (tools : Tools) (opts : ProxyOptions) (fates : Nat → Fate) :
    Promises (relay tools opts) anyTurn where
  invariant w := Inspects fates w
  guarantee
    | .client, _, w => Inspects fates w
    | .backend, start, w =>
        w.trace = start.trace ∧ Reported start.session.state w.session.state
  rely := KeepsTrace
  rely_refl := keepsTrace_refl
  rely_trans := keepsTrace_trans
  environment_invariant _ _ _ moved _ := moved.elim
  environment_relied _ _ _ _ _ moved := moved.elim
  guarantee_invariant i s s' inv guaranteed _ := by
    cases i with
    | client => exact guaranteed
    | backend =>
        obtain ⟨trace, reported⟩ := guaranteed
        intro inStep
        rw [trace] at inStep ⊢
        obtain ⟨agrees, faithful⟩ := inv inStep
        exact ⟨agrees.reported reported, faithful⟩
  guarantee_relied i j _ _ other _ _ guaranteed := by
    cases i with
    | client =>
        cases j with
        | client => exact absurd rfl other
        | backend => exact guaranteed.1
    | backend => trivial

/-- The condition of each stage: the call is the last of the trace, and the run so far is faithful. -/
def inspectsLast (fates : Nat → Fate) (message : Message) (received : ConnectionState)
    (before : List (Event adapter)) (stage : Stage) (events : List (Event adapter))
    (_ w : PgWorld) : Prop :=
  w.trace = before ++ .noted (.received message received) :: (events ++ stage.writes message) ∧
    (∀ event ∈ events, event.IsDecision) ∧ Inspects fates w

/-- Writing a cleared message keeps the run faithful. -/
theorem inspects_write (closed : opts.failSafeMode ≠ .permissive) {fates : Nat → Fate}
    {message : Message} {received after : ConnectionState} {before events : List (Event adapter)}
    {start w : PgWorld}
    (agreed : InStep fates before → Agrees received (serverOf fates before))
    (held : inspectsLast fates message received before .deciding events start w)
    (clears : Clears tools opts message received events w.session.state after) :
    Inspects fates ((withState w after).log (.forwarded message message.raw)) := by
  obtain ⟨trace, decisions, inspects⟩ := held
  simp only [Stage.writes, List.append_nil] at trace
  have undelivered : serverOf fates w.trace = serverOf fates before := by
    simp [serverOf, trace, delivered, delivered_eq_nil decisions]
  intro inStep
  have inStepTrace : InStep fates w.trace := InStep.init inStep
  have harmless := inStep w.trace message message.raw [] rfl
  obtain ⟨agrees, faithful⟩ := inspects inStepTrace
  refine ⟨?_, faithful_event faithful ?_⟩
  · have processed : serverOf fates (w.trace ++ [.forwarded message message.raw]) =
        (serverOf fates w.trace).process (fates (delivered w.trace).length) message := by
      simp [serverOf, delivered, Server.after_append]
    have agreement := agrees_clears closed agrees harmless clears
    rw [← processed] at agreement
    exact agreement
  · intro source raw execute portal isForward isExecute parsed found
    cases isForward
    have early : InStep fates before := by
      rw [trace] at inStepTrace
      exact inStepTrace.init
    rw [show (withState w after).trace = w.trace from rfl, undelivered] at found
    have texts := clears_execute closed (agreed early) clears isExecute parsed found
    rw [show (withState w after).trace = w.trace from rfl, trace,
      inspected_call before message received decisions, texts]

theorem course_inspectsLast (closed : opts.failSafeMode ≠ .permissive) {fates : Nat → Fate}
    (message : Message) (received : ConnectionState) {before : List (Event adapter)}
    (agreed : InStep fates before → Agrees received (serverOf fates before)) :
    Course tools opts message received ((inspection tools opts fates).contract .client)
      (inspectsLast fates message received before) where
  records := by
    rintro events start w event isDecision - ⟨trace, decisions, inspects⟩
    refine ⟨by simp [trace, Stage.writes], ?_, inspects.log ?_⟩
    · intro other present
      rcases List.mem_append.mp present with early | last
      · exact decisions other early
      · rwa [List.mem_singleton.mp last]
    · rintro source raw rfl
      exact isDecision
  pauses := by
    rintro stage q events start w ⟨-, -, inspects⟩
    exact inspects
  resumes := by
    rintro stage q events start w answer w' ⟨trace, decisions, -⟩ ⟨inspects, same, -⟩
    exact ⟨same.trans trace, decisions, inspects⟩
  writes := by
    rintro events start w after held clears
    have written := inspects_write closed agreed held clears
    obtain ⟨trace, decisions, -⟩ := held
    exact ⟨by simp [trace, Stage.writes, withState], decisions, written⟩
  recovers := by
    rintro events start w pending sync ⟨trace, decisions, inspects⟩
    exact ⟨trace, decisions, inspects.withState rfl rfl⟩
  refuses := by
    rintro events start w ⟨trace, decisions, inspects⟩ refused
    exact ⟨trace, decisions, inspects⟩
  answers := by
    rintro events start w text sqlState error built ⟨trace, decisions, inspects⟩
    refine ⟨(refusal_trace message error w).trans trace, decisions, ?_⟩
    rw [refusal]
    split
    · exact inspects
    · exact inspects.withState rfl rfl
  drops := by
    rintro start w pending ⟨trace, decisions, inspects⟩
    exact ⟨trace, decisions, inspects⟩
  breaks := by
    rintro events start w ⟨trace, decisions, inspects⟩ broken
    exact ⟨trace, decisions, inspects⟩

/-- In every run whose messages are all harmless, every written `Execute` was inspected faithfully. -/
theorem relay_faithful (closed : opts.failSafeMode ≠ .permissive) (fates : Nat → Fate)
    {state : ConnectionState} {framer : Framer} {stream : Bytes}
    {c : Config awaits PgWorld Exn Side}
    (run : (relay tools opts).Run anyTurn (Config.idle (opened state framer stream)) c)
    (inStep : InStep fates c.shared.trace) : Faithful fates c.shared.trace := by
  have start : (inspection tools opts fates).invariant (opened state framer stream) := by
    intro _
    refine ⟨⟨?_, ?_, ?_⟩, ?_⟩
    · rintro name text text' - ⟨⟩
    · rintro name bind portal - ⟨⟩
    · rintro name portal ⟨⟩
    · intro before message raw later _ _ split
      simp [opened] at split
  have holds := (inspection tools opts fates).holds_of_run ?_ (Promises.holds_idle _ start) run
  · exact (holds.1 inStep).2
  · intro i w task w' inv started
    cases i with
    | client =>
        obtain ⟨message, -, rfl, rfl⟩ := started
        have agreed : InStep fates w.trace →
            Agrees w.session.state (serverOf fates w.trace) := fun early => (inv early).1
        have course : Course tools opts message w.session.state _ _ :=
          course_inspectsLast closed message w.session.state agreed
        have begun : inspectsLast fates message w.session.state w.trace .deciding [] w
            (receive w message) :=
          ⟨by simp [receive, Stage.writes], by simp, Inspects.log inv (by simp)⟩
        have current : (receive w message).session.state = w.session.state := rfl
        refine wp_clientTurn course current begun ?_
        rintro error stage events start w - ⟨-, -, inspects⟩
        exact inspects.log (by simp)
    | backend =>
        obtain ⟨chunk, rest, reading, unread, rfl, rfl⟩ := started
        have pauses : ∀ q start w, BackendTurn start w →
            ((inspection tools opts fates).contract .backend).pause q start w :=
          fun _ _ _ turn => ⟨turn.trace_eq, turn.reported⟩
        refine Proc.wp_mono (wp_backendTurn pauses reading unread) ?_ ?_
        · intro _ _ _ turn
          exact ⟨turn.trace_eq, turn.reported⟩
        · intro _ _ _ turn
          exact ⟨turn.trace_eq, turn.reported⟩

/-! ## Sessions -/

/-- Every message that can succeed does, and nothing else is lost. -/
def obliging : Nat → Fate := fun _ => ⟨true, false, false, false⟩

/-- A named statement is defined, then redefined in a failing `Parse`, and executed. -/
def redefinition : List Message :=
  [parseOf "s" "DELETE FROM users", syncMessage, parseOf "s" "SELECT 1", syncMessage,
    bindOf "" "s", executeOf ""]

def Event.forwards (message : Message) : Event adapter → Bool
  | .forwarded source _ => source = message
  | _ => false

theorem split_at_forward (events : List (Event adapter)) (place : Nat) (message : Message)
    (found : (events[place]?).map (Event.forwards message) = some true) :
    ∃ raw, events = events.take place ++ .forwarded message raw :: events.drop (place + 1) := by
  obtain ⟨event, present, forwards⟩ := Option.map_eq_some_iff.mp found
  cases event with
  | forwarded source raw =>
      have same : source = message := by simpa [Event.forwards] using forwards
      subst same
      obtain ⟨inside, isEvent⟩ := List.getElem?_eq_some_iff.mp present
      refine ⟨raw, ?_⟩
      rw [← isEvent, List.getElem_cons_drop, List.take_append_drop]
  | _ => cases forwards

/-- The message forwarded at a place of the trace, if any, takes effect at the backend. -/
def effectAt (fates : Nat → Fate) (events : List (Event adapter)) (place : Nat) : Bool :=
  match events[place]? with
  | some (.forwarded message _) =>
      ((serverOf fates (events.take place)).effect
        (fates (delivered (events.take place)).length) message).isSome
  | _ => true

theorem inStep_of_effects {fates : Nat → Fate} {events : List (Event adapter)}
    (effects : ∀ place < events.length, effectAt fates events place = true) :
    InStep fates events := by
  intro before message raw later split
  have taken := effects before.length (by simp [split])
  simp only [effectAt, split, List.take_left, List.getElem?_append_right (Nat.le_refl _),
    Nat.sub_self, List.getElem?_cons_zero] at taken
  refine ⟨?_, ?_⟩
  · intro _ failed
    simp [failed] at taken
  · intro _ failed
    simp [failed] at taken

/-- A statement is defined, bound and executed. -/
def definition : List Message :=
  [parseOf "s" "DELETE FROM users", syncMessage, bindOf "" "s", executeOf ""]

/-- The deletion is inspected as itself and its portal exists at the backend. -/
theorem definition_faithful :
    strictOptions.failSafeMode ≠ .permissive ∧
      ∃ c, (relay plainTools strictOptions).Run anyTurn (Config.idle (freshConnection [])) c ∧
        delivered c.shared.trace = definition ∧ InStep obliging c.shared.trace ∧
        (serverOf obliging c.shared.trace).portals "" = some ⟨"s", "DELETE FROM users"⟩ ∧
        Faithful obliging c.shared.trace := by
  have takes : ∀ message ∈ definition,
      takeMessage message.raw.length message.raw = .ok (some (message, [])) := by decide +kernel
  have framed : ∀ message ∈ definition, Framed message :=
    fun message inside => framed_of_takes (takes message inside)
  have start : Reaches plainTools strictOptions (freshConnection []) (freshConnection []) := .refl
  obtain ⟨c, run, shared, -⟩ := start.handledAll framed (userAnswers true) (by decide +kernel)
  have inStep : InStep obliging c.shared.trace := by
    apply inStep_of_effects
    rw [shared]
    decide +kernel
  refine ⟨by decide, c, run, ?_, inStep, ?_, relay_faithful (by decide) obliging run inStep⟩
  · rw [shared]
    decide +kernel
  · rw [shared]
    decide +kernel

/-- The backend runs a `DELETE` that was inspected as the `SELECT` of a failed redefinition. -/
theorem redefinition_not_faithful :
    ∃ c, (relay plainTools strictOptions).Run anyTurn (Config.idle (freshConnection [])) c ∧
      ¬ Faithful obliging c.shared.trace := by
  have takes : ∀ message ∈ redefinition,
      takeMessage message.raw.length message.raw = .ok (some (message, [])) := by decide +kernel
  have framed : ∀ message ∈ redefinition, Framed message :=
    fun message inside => framed_of_takes (takes message inside)
  have start : Reaches plainTools strictOptions (freshConnection []) (freshConnection []) := .refl
  obtain ⟨c, run, shared, -⟩ := start.handledAll framed (userAnswers true) (by decide +kernel)
  refine ⟨c, run, ?_⟩
  intro faithful
  obtain ⟨raw, split⟩ := split_at_forward c.shared.trace 17 (executeOf "")
    (by rw [shared]; decide +kernel)
  have parsed : parseExecuteMessage (executeOf "").payload = .ok ⟨"", 0⟩ := by decide +kernel
  have built : (serverOf obliging (c.shared.trace.take 17)).portals "" =
      some ⟨"s", "DELETE FROM users"⟩ := by
    rw [shared]
    decide +kernel
  have texts := faithful _ _ raw _ _ _ split rfl parsed built
  rw [shared] at texts
  revert texts
  decide +kernel

end SqlSafetyProxy.Postgres
