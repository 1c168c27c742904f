import SqlSafetyProxy.Postgres.Mediation
import Mathlib.Data.List.TakeWhile

/-!
# Gaps that are let through

In permissive mode a `Parse` or `Bind` that cannot be followed is written all
the same, and the registries keep what they had under its name.  An `Execute`
that depends on the name is handled as a gap as long as they had nothing.
-/

namespace SqlSafetyProxy.Postgres

open SqlSafetyProxy.Sql SqlSafetyProxy.Policy SqlSafetyProxy.Wire SqlSafetyProxy.Runtime
open SqlSafetyProxy.Coroutine SqlSafetyProxy.Collections

variable {tools : Tools} {opts : ProxyOptions}

/-! ## Overwritten names -/

/-- The statement a `Parse` names, or the portal a `Bind` names, if it can be read. -/
def namedBy (message : Message) : Option String :=
  (readCString message.payload).toOption.map Prod.fst

/-- The state in which the last message was received, and the names that gaps have overwritten. -/
structure Overwritten where
  received : ConnectionState
  statements : String → Bool
  portals : String → Bool

/-- A message that could not be followed takes over the name it gives. -/
def Overwritten.overwrite (names : Overwritten) (message : Message) : Overwritten :=
  match namedBy message with
  | none => names
  | some name =>
      if message.type = 'P' then
        { names with statements := Function.update names.statements name true }
      else if message.type = 'B' then
        { names with portals := Function.update names.portals name true }
      else names

/-- A message that was followed registers or closes the name it gives. -/
def Overwritten.renew (names : Overwritten) (message : Message) : Overwritten :=
  if message.type = 'P' then
    match parseParseMessage message.payload with
    | .error _ => names
    | .ok parsed =>
        { names with statements := Function.update names.statements parsed.statementName false }
  else if message.type = 'B' then
    match parseBindMessage message.payload with
    | .error _ => names
    | .ok bind => { names with portals := Function.update names.portals bind.portalName false }
  else if message.type = 'C' then
    match parseCloseMessage message.payload with
    | .error _ => names
    | .ok close =>
        match close.targetType with
        | .statement =>
            { names with statements := Function.update names.statements close.name false }
        | .portal => { names with portals := Function.update names.portals close.name false }
  else names

def Overwritten.step (names : Overwritten) : Event adapter → Overwritten
  | .noted (.received _ state) => { names with received := state }
  | .forwarded message _ =>
      match registryChange message names.received with
      | .ok _ => names.renew message
      | .error _ => names.overwrite message
  | _ => names

/-- The names that the gaps of a trace leave overwritten. -/
def overwrittenOf (trace : List (Event adapter)) : Overwritten :=
  trace.foldl Overwritten.step ⟨{}, fun _ => false, fun _ => false⟩

theorem overwrittenOf_snoc (trace : List (Event adapter)) (event : Event adapter) :
    overwrittenOf (trace ++ [event]) = (overwrittenOf trace).step event := by
  simp [overwrittenOf]

/-! ## What is promised about them -/

/-- The `Execute` depends on an overwritten portal, or on one bound to an overwritten statement. -/
def Overwritten.Concerns (names : Overwritten) (state : ConnectionState) (message : Message) :
    Prop :=
  ∃ execute, parseExecuteMessage message.payload = .ok execute ∧
    (names.portals execute.portalName = true ∨
      ∃ bind, state.portals.lookup execute.portalName = some bind ∧
        names.statements bind.statementName = true)

/-- A call is handled as a protocol gap that is let through. -/
structure HandledAsGap (opts : ProxyOptions) (call : Call) : Prop where
  unclassified : classifiedTexts call.events = []
  reported : call.received.extendedErrorPending = false →
    ∀ error, Event.noted (Note.ended error) ∈ call.events →
      forwards call.events = [call.message.raw] ∧
      if opts.auditing then
        ∃ event, audits call.events = [event] ∧ event.finalDecision = .allowedProtocolGap
      else audits call.events = []

/-- Whether an event begins a call. -/
def Event.isReceipt : Event adapter → Bool
  | .noted (.received _ _) => true
  | _ => false

theorem Event.isReceipt_eq_false {event : Event adapter} (inside : ¬ Event.IsReceipt event) :
    Event.isReceipt event = false := by
  cases event with
  | noted note =>
      cases note with
      | received message state => exact absurd trivial inside
      | ended error => rfl
  | _ => rfl

/-- The events of a call, out of all events after its receipt. -/
def ownEvents (later : List (Event adapter)) : List (Event adapter) :=
  later.takeWhile fun event => !Event.isReceipt event

/-- Every `Execute` that depends on an overwritten name is handled as a gap again. -/
def GapsStay (opts : ProxyOptions) (trace : List (Event adapter)) : Prop :=
  ∀ before message state later, trace = before ++ .noted (.received message state) :: later →
    message.type = 'E' → (overwrittenOf before).Concerns state message →
    HandledAsGap opts ⟨message, state, ownEvents later⟩

/-- A message taken up as a gap names nothing that is registered. -/
structure NamesNothing (message : Message) (state : ConnectionState) : Prop where
  statement : state.extendedErrorPending = false → message.type = 'P' →
    (registryChange message state).isOk = false →
    ∀ name, namedBy message = some name → state.preparedStatements.lookup name = none
  portal : state.extendedErrorPending = false → message.type = 'B' →
    (registryChange message state).isOk = false →
    ∀ name, namedBy message = some name → state.portals.lookup name = none

/-- No gap of the trace names anything that is registered when it is taken up. -/
def GapsNameNothing (trace : List (Event adapter)) : Prop :=
  ∀ message state, .noted (.received message state) ∈ trace → NamesNothing message state

/-! ## Registries without the overwritten names -/

/-- Nothing is registered under the overwritten names. -/
structure Unregistered (names : Overwritten) (state : ConnectionState) : Prop where
  statements : ∀ name, names.statements name = true →
    state.preparedStatements.lookup name = none
  portals : ∀ name, names.portals name = true → state.portals.lookup name = none

/-- Registrations are only lost. -/
structure Fewer (state state' : ConnectionState) : Prop where
  statements : ∀ name, state.preparedStatements.lookup name = none →
    state'.preparedStatements.lookup name = none
  portals : ∀ name, state.portals.lookup name = none → state'.portals.lookup name = none

theorem Fewer.refl (state : ConnectionState) : Fewer state state :=
  ⟨fun _ missing => missing, fun _ missing => missing⟩

theorem Fewer.trans {first second third : ConnectionState} (one : Fewer first second)
    (two : Fewer second third) : Fewer first third :=
  ⟨fun name missing => two.statements name (one.statements name missing),
    fun name missing => two.portals name (one.portals name missing)⟩

theorem Unregistered.fewer {names : Overwritten} {state state' : ConnectionState}
    (unregistered : Unregistered names state) (fewer : Fewer state state') :
    Unregistered names state' :=
  ⟨fun name hit => fewer.statements name (unregistered.statements name hit),
    fun name hit => fewer.portals name (unregistered.portals name hit)⟩

theorem fewer_updateTransactionStatus (state : ConnectionState) (status : TransactionStatus) :
    Fewer state (state.updateTransactionStatus status) := by
  refine ⟨fun _ missing => missing, fun name missing => ?_⟩
  unfold ConnectionState.updateTransactionStatus
  by_cases idle : status = .idle
  · simp only [if_pos idle]
    rfl
  · simpa only [if_neg idle] using missing

theorem fewer_reported {state state' : ConnectionState} (reported : Reported state state') :
    Fewer state state' := by
  induction reported with
  | refl => exact .refl _
  | tail _ step ih =>
      obtain ⟨status, rfl⟩ := step
      exact ih.trans (fewer_updateTransactionStatus _ status)

/-- An update to `false` is `true` only where the function was. -/
theorem update_false_eq_true {flags : String → Bool} {name other : String}
    (hit : Function.update flags name false other = true) : other ≠ name ∧ flags other = true := by
  by_cases same : other = name
  · rw [same, Function.update_self] at hit
    cases hit
  · rw [Function.update_of_ne same] at hit
    exact ⟨same, hit⟩

theorem unregistered_renew {names : Overwritten} {message : Message}
    {state after : ConnectionState}
    (registry : message.type = 'P' ∨ message.type = 'B' ∨ message.type = 'C')
    (unregistered : Unregistered names state)
    (changed : registryChange message state = .ok after) :
    Unregistered (names.renew message) after := by
  unfold registryChange at changed
  unfold Overwritten.renew
  split at changed
  · next isParse =>
    rw [if_pos isParse]
    obtain ⟨parsed, parses, changed⟩ := bind_ok changed
    rw [parses, ConnectionState.registerStatement_ok changed]
    refine ⟨?_, ?_⟩
    · intro name hit
      obtain ⟨other, old⟩ := update_false_eq_true hit
      exact (AList.lookup_insert_ne other).trans (unregistered.statements name old)
    · intro name hit
      have missing := unregistered.portals name hit
      by_cases unnamed : parsed.statementName = ""
      · simp only [if_pos unnamed]
        exact Dict.lookup_filter_eq_none missing
      · simpa only [if_neg unnamed] using missing
  · next notParse =>
    rw [if_neg notParse]
    split at changed
    · next isBind =>
      rw [if_pos isBind]
      obtain ⟨bound, parses, changed⟩ := bind_ok changed
      rw [parses, ConnectionState.registerPortal_ok changed]
      refine ⟨unregistered.statements, ?_⟩
      intro name hit
      obtain ⟨other, old⟩ := update_false_eq_true hit
      exact (AList.lookup_insert_ne other).trans (unregistered.portals name old)
    · next notBind =>
      have isClose : message.type = 'C' := by
        rcases registry with isType | isType | isType
        · exact absurd isType notParse
        · exact absurd isType notBind
        · exact isType
      rw [if_neg notBind, if_pos isClose]
      obtain ⟨close, parses, changed⟩ := bind_ok changed
      rw [parses]
      cases changed
      unfold ConnectionState.close
      cases target : close.targetType with
      | statement =>
          simp only [target]
          refine ⟨?_, ?_⟩
          · intro name hit
            obtain ⟨-, old⟩ := update_false_eq_true hit
            exact Dict.lookup_erase_eq_none (unregistered.statements name old)
          · intro name hit
            exact Dict.lookup_filter_eq_none (unregistered.portals name hit)
      | portal =>
          simp only [target]
          refine ⟨unregistered.statements, ?_⟩
          intro name hit
          obtain ⟨-, old⟩ := update_false_eq_true hit
          exact Dict.lookup_erase_eq_none (unregistered.portals name old)

/-- A message of no registry overwrites and renews nothing. -/
theorem step_unregistered {names : Overwritten} {message : Message} {raw : Bytes}
    (other : ¬ (message.type = 'P' ∨ message.type = 'B' ∨ message.type = 'C')) :
    names.step (.forwarded message raw) = names := by
  have notParse : message.type ≠ 'P' := fun isType => other (.inl isType)
  have notBind : message.type ≠ 'B' := fun isType => other (.inr (.inl isType))
  have notClose : message.type ≠ 'C' := fun isType => other (.inr (.inr isType))
  simp only [Overwritten.step]
  split
  · simp [Overwritten.renew, notParse, notBind, notClose]
  · unfold Overwritten.overwrite
    split
    · rfl
    · simp [notParse, notBind]

/-- A gap that names nothing registered overwrites only what is not registered. -/
theorem unregistered_overwrite {names : Overwritten} {message : Message}
    {received state : ConnectionState} (unregistered : Unregistered names state)
    (gap : Gap message received) (nothing : NamesNothing message received)
    (fewer : Fewer received state)
    (registry : message.type = 'P' ∨ message.type = 'B' ∨ message.type = 'C') :
    Unregistered (names.overwrite message) state := by
  obtain ⟨reason, failed⟩ := gap.unregistered registry
  have notOk : (registryChange message received).isOk = false := by
    rw [failed]
    rfl
  unfold Overwritten.overwrite
  cases named : namedBy message with
  | none => exact unregistered
  | some name =>
      simp only
      split
      · next isParse =>
        refine ⟨?_, unregistered.portals⟩
        intro other hit
        by_cases same : other = name
        · rw [same]
          exact fewer.statements name (nothing.statement gap.outside isParse notOk name named)
        · simp only [Function.update_of_ne same] at hit
          exact unregistered.statements other hit
      · split
        · next isBind =>
          refine ⟨unregistered.statements, ?_⟩
          intro other hit
          by_cases same : other = name
          · rw [same]
            exact fewer.portals name (nothing.portal gap.outside isBind notOk name named)
          · simp only [Function.update_of_ne same] at hit
            exact unregistered.portals other hit
        · exact unregistered

/-- Writing a cleared message registers nothing under an overwritten name. -/
theorem unregistered_write {names : Overwritten} {message : Message}
    {received state after : ConnectionState} {events : List (Event adapter)}
    (unregistered : Unregistered names state) (current : names.received = received)
    (nothing : NamesNothing message received) (fewer : Fewer received state)
    (clears : Clears tools opts message received events state after) :
    Unregistered (names.step (.forwarded message message.raw)) after := by
  cases clears with
  | recovery pending passes =>
      rw [step_unregistered]
      · exact unregistered
      · rcases passes with isType | isType <;> simp [isType]
  | registry outside isType changed =>
      simp only [Overwritten.step, current, changed]
      exact unregistered_renew isType unregistered changed
  | safe _ known _ =>
      rw [step_unregistered]
      · exact unregistered
      · intro registry
        rw [subject_eq_none_of_registry registry] at known
        cases known
  | approved _ known _ _ =>
      rw [step_unregistered]
      · exact unregistered
      · intro registry
        rw [subject_eq_none_of_registry registry] at known
        cases known
  | unlisted _ unrouted =>
      rw [step_unregistered]
      · exact unregistered
      · rintro (parse | bind | close)
        · exact unrouted (.inr (.inl parse))
        · exact unrouted (.inr (.inr (.inl bind)))
        · exact unrouted (.inr (.inr (.inr (.inl close))))
  | permitted _ gap _ =>
      by_cases registry : message.type = 'P' ∨ message.type = 'B' ∨ message.type = 'C'
      · obtain ⟨reason, failed⟩ := gap.unregistered registry
        simp only [Overwritten.step, current, failed]
        exact unregistered_overwrite unregistered gap nothing fewer registry
      · rw [step_unregistered registry]
        exact unregistered

/-! ## The handling of a dependent Execute -/

/-- An `Execute` that depends on an overwritten name has no text in the registries. -/
theorem boundText_eq_none {names : Overwritten} {state : ConnectionState} {message : Message}
    (unregistered : Unregistered names state) (concerns : names.Concerns state message) :
    boundText state message = none := by
  obtain ⟨execute, parsed, portal | ⟨bind, bound, statement⟩⟩ := concerns
  · simp [boundText, parsed, unregistered.portals _ portal]
  · simp [boundText, parsed, bound, unregistered.statements _ statement]

/-- In permissive mode only a text that is known is refused. -/
theorem refuses_unknown {message : Message} {received : ConnectionState}
    {events : List (Event adapter)} (permissive : opts.failSafeMode = .permissive)
    (unknown : subject received message = none) :
    ¬ Refuses tools opts message received events := by
  intro refuses
  cases refuses with
  | blocked _ known _ _ =>
      rw [unknown] at known
      cases known
  | gap closed _ _ => exact closed permissive

/-- The events of a call that is over and was neither refused nor dropped. -/
theorem Stands.handledAsGap {message : Message} {received : ConnectionState} {stage : Stage}
    {events tail : List (Event adapter)}
    (stands : Stands tools opts message received stage events tail)
    (permissive : opts.failSafeMode = .permissive) (isExecute : message.type = 'E')
    (unknown : boundText received message = none)
    (texts : ∀ text ∈ classifiedTexts events, subject received message = some text) :
    HandledAsGap opts ⟨message, received, events ++ stage.writes message ++ tail⟩ := by
  have noSubject : subject received message = none := by simp [subject, isExecute, unknown]
  refine ⟨?_, ?_⟩
  · have early : classifiedTexts events = [] := by
      refine List.eq_nil_iff_forall_not_mem.mpr fun text inside => ?_
      have known := texts text inside
      rw [noSubject] at known
      cases known
    have write : classifiedTexts (stage.writes message) = [] := by cases stage <;> rfl
    have late : classifiedTexts tail = [] := by
      rcases stands.tail_eq with rfl | ⟨-, error, rfl⟩ <;> rfl
    simp [early, write, late]
  · intro outside error ended
    have final := stands.final ended
    have evidence := stands.evidence
    simp only [stands.audits_eq, stands.forwards_eq, forwards_writes]
    cases stage with
    | deciding => exact absurd rfl final
    | written =>
        obtain ⟨state, after, clears⟩ := evidence
        refine ⟨if_pos rfl, ?_⟩
        cases clears with
        | recovery pending =>
            rw [pending] at outside
            cases outside
        | registry _ registry => simp [isExecute] at registry
        | safe _ known =>
            rw [noSubject] at known
            cases known
        | approved _ known =>
            rw [noSubject] at known
            cases known
        | unlisted _ unrouted => exact absurd (.inr (.inr (.inr (.inr isExecute)))) unrouted
        | permitted _ _ audited =>
            unfold GapAudited at audited
            split at audited
            · next auditing =>
              obtain ⟨event, rfl, isGap⟩ := audited
              rw [if_pos auditing]
              exact ⟨event, rfl, isGap⟩
            · next silent =>
              rw [if_neg silent, audited]
              rfl
    | refused => exact absurd evidence (refuses_unknown permissive noSubject)
    | answered => exact absurd evidence (refuses_unknown permissive noSubject)
    | dropped =>
        have pending : received.extendedErrorPending = true := evidence
        rw [pending] at outside
        cases outside
    | broken =>
        exfalso
        cases evidence with
        | confirmation known raised =>
            rw [noSubject] at known
            cases known
        | substitution _ _ bound _ =>
            rw [unknown] at bound
            cases bound

/-! ## Whole runs -/

theorem gapsNameNothing_append {trace later : List (Event adapter)}
    (nothing : GapsNameNothing (trace ++ later)) : GapsNameNothing trace :=
  fun message state inside => nothing message state (List.mem_append_left _ inside)

/-- The names are not registered, and every dependent `Execute` was handled as a gap. -/
structure Attended (opts : ProxyOptions) (w : PgWorld) : Prop where
  unregistered : GapsNameNothing w.trace → Unregistered (overwrittenOf w.trace) w.session.state
  stay : GapsNameNothing w.trace → GapsStay opts w.trace

theorem ownEvents_all {events : List (Event adapter)}
    (inside : ∀ event ∈ events, ¬ Event.IsReceipt event) : ownEvents events = events := by
  refine List.takeWhile_eq_self_iff.mpr fun event present => ?_
  rw [Event.isReceipt_eq_false (inside event present)]
  rfl

theorem ownEvents_append (events : List (Event adapter)) (message : Message)
    (state : ConnectionState) (later : List (Event adapter)) :
    ownEvents (events ++ .noted (.received message state) :: later) = ownEvents events := by
  have receipt : (Event.noted (.received message state) :: later : List (Event adapter)).takeWhile
      (fun event => !Event.isReceipt event) = [] := rfl
  unfold ownEvents
  rw [List.takeWhile_append, receipt]
  split
  · next whole =>
    rw [List.append_nil]
    exact ((List.takeWhile_prefix _).eq_of_length whole).symm
  · rfl

/-- The promise is kept by one more call that keeps it. -/
theorem GapsStay.append {before events : List (Event adapter)} {message : Message}
    {state : ConnectionState} (earlier : GapsStay opts before)
    (inside : ∀ event ∈ events, ¬ Event.IsReceipt event)
    (last : message.type = 'E' → (overwrittenOf before).Concerns state message →
      HandledAsGap opts ⟨message, state, events⟩) :
    GapsStay opts (before ++ .noted (.received message state) :: events) := by
  intro before' message' state' later split isExecute concerns
  rcases List.append_eq_append_iff.mp split with ⟨middle, rfl, rest⟩ | ⟨middle, rfl, rest⟩
  · cases middle with
    | nil =>
        cases rest
        rw [List.append_nil] at concerns
        rw [ownEvents_all inside]
        exact last isExecute concerns
    | cons first others =>
        exfalso
        have present : Event.noted (Note.received message' state') ∈ events := by
          rw [(List.cons.inj rest).2]
          simp
        exact inside _ present trivial
  · cases middle with
    | nil =>
        cases rest
        rw [List.append_nil] at last
        rw [ownEvents_all inside]
        exact last isExecute concerns
    | cons first others =>
        simp only [List.cons_append, List.cons.injEq] at rest
        obtain ⟨rfl, rfl⟩ := rest
        rw [ownEvents_append]
        exact earlier before' message' state' others rfl isExecute concerns

/-- A call in progress, after the calls of `before`. -/
structure Attends (tools : Tools) (opts : ProxyOptions) (message : Message)
    (received : ConnectionState) (before : List (Event adapter)) (stage : Stage)
    (events : List (Event adapter)) (w : PgWorld) : Prop where
  last : standsLast tools opts message received before stage events w w
  texts : ∀ text ∈ classifiedTexts events, subject received message = some text
  current : stage = .deciding → (overwrittenOf w.trace).received = received
  fewer : stage = .deciding → Fewer received w.session.state
  unregistered : GapsNameNothing w.trace → Unregistered (overwrittenOf w.trace) w.session.state

/-- A call in progress keeps the promise of the calls before it. -/
theorem Attends.attended {message : Message} {received : ConnectionState}
    {before events tail : List (Event adapter)} {stage : Stage} {w : PgWorld}
    (attends : Attends tools opts message received before stage events w)
    (permissive : opts.failSafeMode = .permissive)
    (earlier : GapsNameNothing before →
      Unregistered (overwrittenOf before) received ∧ GapsStay opts before)
    (ends : tail = [] ∨ stage ≠ .deciding ∧ ∃ error, tail = [.noted (.ended error)]) :
    GapsNameNothing (w.trace ++ tail) → GapsStay opts (w.trace ++ tail) := by
  intro nothing
  obtain ⟨trace, stands⟩ := attends.last
  have ended : Stands tools opts message received stage events tail :=
    ⟨stands.decisions, stands.evidence, ends⟩
  have whole : w.trace ++ tail = before ++ .noted (.received message received) ::
      (events ++ stage.writes message ++ tail) := by
    rw [trace]
    simp
  rw [whole] at nothing ⊢
  obtain ⟨unregistered, stay⟩ := earlier (gapsNameNothing_append nothing)
  refine stay.append ended.no_receipt ?_
  intro isExecute concerns
  exact ended.handledAsGap permissive isExecute (boundText_eq_none unregistered concerns)
    attends.texts

/-- The promises of the two tasks: the backend task only takes portals away. -/
def attendance (tools : Tools) (opts : ProxyOptions) : Promises (relay tools opts) anyTurn where
  invariant w := Attended opts w
  guarantee
    | .client, _, w => Attended opts w
    | .backend, start, w => w.trace = start.trace ∧ Fewer start.session.state w.session.state
  rely
    | .client, w, w' => w'.trace = w.trace ∧ Fewer w.session.state w'.session.state
    | .backend, _, _ => True
  rely_refl i _ := by
    cases i with
    | client => exact ⟨rfl, .refl _⟩
    | backend => trivial
  rely_trans i _ _ _ first second := by
    cases i with
    | client => exact ⟨second.1.trans first.1, first.2.trans second.2⟩
    | backend => trivial
  environment_invariant _ _ _ moved _ := moved.elim
  environment_relied _ _ _ _ _ moved := moved.elim
  guarantee_invariant i s s' inv guaranteed _ := by
    cases i with
    | client => exact guaranteed
    | backend =>
        obtain ⟨same, fewer⟩ := guaranteed
        refine ⟨?_, same ▸ inv.stay⟩
        rw [same]
        exact fun nothing => (inv.unregistered nothing).fewer fewer
  guarantee_relied i j _ _ other _ _ guaranteed := by
    cases i with
    | client =>
        cases j with
        | client => exact absurd rfl other
        | backend => exact guaranteed
    | backend => trivial

/-- Decision events overwrite nothing. -/
theorem overwritten_step_decision {names : Overwritten} {event : Event adapter}
    (isDecision : event.IsDecision) : names.step event = names := by
  cases event with
  | forwarded source raw => exact isDecision.elim
  | noted note => exact isDecision.elim
  | _ => rfl

theorem classifiedTexts_singleton {event : Event adapter} {text : String}
    (inside : text ∈ classifiedTexts [event]) :
    ∃ classification, event = .classified text classification := by
  cases event with
  | classified sql classification =>
      rw [classifiedTexts, classifiedTexts, List.mem_singleton] at inside
      exact ⟨classification, by rw [inside]⟩
  | _ => cases inside

/-- A later stage of the same call. -/
theorem Attends.stage {message : Message} {received : ConnectionState}
    {before events : List (Event adapter)} {stage later : Stage} {w w' : PgWorld}
    (attends : Attends tools opts message received before stage events w)
    (evidence : Evidence tools opts message received events later)
    (written : stage.writes message = later.writes message) (final : later ≠ .deciding)
    (trace : w'.trace = w.trace) (fewer : Fewer w.session.state w'.session.state) :
    Attends tools opts message received before later events w' where
  last := ⟨by rw [trace, ← written]; exact attends.last.1, attends.last.2.stage evidence⟩
  texts := attends.texts
  current isDeciding := absurd isDeciding final
  fewer isDeciding := absurd isDeciding final
  unregistered nothing := by
    rw [trace] at nothing ⊢
    exact (attends.unregistered nothing).fewer fewer

theorem course_attends (permissive : opts.failSafeMode = .permissive) (message : Message)
    (received : ConnectionState) {before : List (Event adapter)}
    (earlier : GapsNameNothing before →
      Unregistered (overwrittenOf before) received ∧ GapsStay opts before) :
    Course tools opts message received ((attendance tools opts).contract .client)
      (fun stage events _ w => Attends tools opts message received before stage events w) where
  records := by
    intro events start w event isDecision known attends
    obtain ⟨trace, stands⟩ := attends.last
    have unchanged : overwrittenOf (w.log event).trace = overwrittenOf w.trace := by
      rw [World.log_trace, overwrittenOf_snoc, overwritten_step_decision isDecision]
    refine ⟨⟨by simp [trace, Stage.writes], ?_, trivial, .inl rfl⟩, ?_, ?_, attends.fewer, ?_⟩
    · intro other present
      rcases List.mem_append.mp present with early | last
      · exact stands.decisions other early
      · rwa [List.mem_singleton.mp last]
    · intro text inside
      rw [classifiedTexts_append] at inside
      rcases List.mem_append.mp inside with early | last
      · exact attends.texts text early
      · obtain ⟨classification, isEvent⟩ := classifiedTexts_singleton last
        exact known text classification isEvent
    · rw [unchanged]
      exact attends.current
    · intro nothing
      rw [unchanged]
      exact attends.unregistered (gapsNameNothing_append nothing)
  pauses := by
    intro stage q events start w attends
    refine ⟨attends.unregistered, ?_⟩
    simpa using attends.attended permissive earlier (.inl rfl)
  resumes := by
    rintro stage q events start w answer w' attends ⟨attended, ⟨same, fewer⟩, -⟩
    refine ⟨⟨same.trans attends.last.1, attends.last.2⟩, attends.texts, ?_, ?_,
      attended.unregistered⟩
    · rw [same]
      exact attends.current
    · exact fun isDeciding => (attends.fewer isDeciding).trans fewer
  writes := by
    intro events start w after attends clears
    obtain ⟨trace, stands⟩ := attends.last
    refine ⟨⟨by simp [trace, Stage.writes, withState], stands.stage ⟨_, _, clears⟩⟩,
      attends.texts, by rintro ⟨⟩, by rintro ⟨⟩, ?_⟩
    intro nothing
    have named : NamesNothing message received :=
      nothing message received (List.mem_append_left _ (by simp [withState, trace]))
    rw [World.log_trace, overwrittenOf_snoc]
    exact unregistered_write (attends.unregistered (gapsNameNothing_append nothing))
      (attends.current rfl) named (attends.fewer rfl) clears
  recovers := by
    intro events start w pending sync attends
    exact attends.stage attends.last.2.evidence rfl (by decide) rfl
      ⟨fun _ missing => missing, fun _ missing => missing⟩
  refuses := by
    intro events start w attends refuses
    exact attends.stage refuses rfl (by decide) rfl (.refl _)
  answers := by
    intro events start w text sqlState error built attends
    refine attends.stage attends.last.2.evidence rfl (by decide) (refusal_trace message error w) ?_
    unfold refusal
    split
    · exact .refl _
    · exact ⟨fun _ missing => missing, fun _ missing => missing⟩
  drops := by
    intro start w dropped attends
    exact attends.stage dropped.1 rfl (by decide) rfl (.refl _)
  breaks := by
    intro events start w attends broken
    exact attends.stage broken rfl (by decide) rfl (.refl _)

/--
In permissive mode, an `Execute` that depends on a name a gap has overwritten is
handled as a gap again, in every run whose gaps name nothing that is registered.
-/
theorem gaps_stay (permissive : opts.failSafeMode = .permissive) {state : ConnectionState}
    {framer : Framer} {stream : Bytes} {c : Config awaits PgWorld Exn Side}
    (run : (relay tools opts).Run anyTurn (Config.idle (opened state framer stream)) c)
    (nothing : GapsNameNothing c.shared.trace) : GapsStay opts c.shared.trace := by
  have start : (attendance tools opts).invariant (opened state framer stream) := by
    refine ⟨fun _ => ⟨by rintro name ⟨⟩, by rintro name ⟨⟩⟩, ?_⟩
    intro _ before message state later split
    simp [opened] at split
  have holds := (attendance tools opts).holds_of_run ?_ (Promises.holds_idle _ start) run
  · exact holds.1.stay nothing
  · intro i w task w' inv started
    cases i with
    | client =>
        obtain ⟨message, -, rfl, rfl⟩ := started
        have earlier : GapsNameNothing w.trace →
            Unregistered (overwrittenOf w.trace) w.session.state ∧ GapsStay opts w.trace :=
          fun nothing => ⟨inv.unregistered nothing, inv.stay nothing⟩
        have course : Course tools opts message w.session.state _ _ :=
          course_attends permissive message w.session.state earlier
        have begun : Attends tools opts message w.session.state w.trace .deciding []
            (receive w message) := by
          refine ⟨⟨by simp [receive, Stage.writes], by simp, trivial, .inl rfl⟩, by rintro _ ⟨⟩,
            fun _ => ?_, fun _ => .refl _, fun nothing => ?_⟩
          · rw [receive, World.log_trace, overwrittenOf_snoc]
            rfl
          · rw [receive, World.log_trace, overwrittenOf_snoc]
            exact ⟨(inv.unregistered (gapsNameNothing_append nothing)).statements,
              (inv.unregistered (gapsNameNothing_append nothing)).portals⟩
        refine wp_clientTurn course rfl begun ?_
        intro error stage events start w final attends
        refine ⟨?_, attends.attended permissive earlier (.inr ⟨final, error, rfl⟩)⟩
        intro nothing
        rw [World.log_trace, overwrittenOf_snoc]
        exact attends.unregistered (gapsNameNothing_append nothing)
    | backend =>
        obtain ⟨chunk, rest, reading, unread, rfl, rfl⟩ := started
        have promised : ∀ start w, BackendTurn start w →
            w.trace = start.trace ∧ Fewer start.session.state w.session.state :=
          fun _ _ turn => ⟨turn.trace_eq, fewer_reported turn.reported⟩
        refine Proc.wp_mono (wp_backendTurn (fun _ _ _ turn => promised _ _ turn) reading unread)
          ?_ ?_
        · intro _ _ _ turn
          exact promised _ _ turn
        · intro _ _ _ turn
          exact promised _ _ turn

/-! ## Texts in another encoding -/

def permissiveOptions : ProxyOptions := { strictOptions with failSafeMode := .permissive }

/-- A `Bind` of the unnamed portal to the statement `é`, in Latin-1. -/
def foreignBind : Message := frame 'B' ([0] ++ [0xE9, 0] ++ [0, 0, 0, 0, 0, 0])

/-- A `Parse` of the unnamed statement whose comment is in Latin-1. -/
def foreignParse : Message :=
  frame 'P' ([0] ++ encodeUtf8 "DELETE FROM users --" ++ [0xE9, 0] ++ [0, 0])

/-- Whether nothing is registered when the event is the receipt of a message. -/
def Event.emptyHanded : Event adapter → Bool
  | .noted (.received _ state) =>
      state.preparedStatements.entries.isEmpty && state.portals.entries.isEmpty
  | _ => true

theorem gapsNameNothing_emptyHanded {trace : List (Event adapter)}
    (empty : trace.all Event.emptyHanded = true) : GapsNameNothing trace := by
  intro message state inside
  have none := List.all_eq_true.mp empty _ inside
  simp only [Event.emptyHanded, Bool.and_eq_true, List.isEmpty_iff] at none
  refine ⟨fun _ _ _ name _ => ?_, fun _ _ _ name _ => ?_⟩
  · simp [AList.lookup, none.1]
  · simp [AList.lookup, none.2]

theorem framed_foreign : ∀ message ∈ [foreignBind, parseOf "" "SELECT 1", foreignParse,
    bindOf "" "", executeOf ""], Framed message := by
  have takes : ∀ message ∈ [foreignBind, parseOf "" "SELECT 1", foreignParse, bindOf "" "",
      executeOf ""], takeMessage message.raw.length message.raw = .ok (some (message, [])) := by
    decide +kernel
  exact fun message inside => framed_of_takes (takes message inside)

/-- An `Execute` of a portal that only a gap has bound is let through as a gap. -/
theorem foreignBind_stays : permissiveOptions.failSafeMode = .permissive ∧
    ∃ c, (relay plainTools permissiveOptions).Run anyTurn (Config.idle (freshConnection [])) c ∧
      GapsNameNothing c.shared.trace ∧
      forwards c.shared.trace = [foreignBind.raw, (executeOf "").raw] ∧
      GapsStay permissiveOptions c.shared.trace := by
  have start : Reaches plainTools permissiveOptions (freshConnection []) (freshConnection []) :=
    .refl
  have framed : ∀ message ∈ [foreignBind, executeOf ""], Framed message := by
    intro message inside
    refine framed_foreign message ?_
    simp only [List.mem_cons, List.not_mem_nil, or_false] at inside ⊢
    rcases inside with rfl | rfl <;> simp
  obtain ⟨c, run, shared, -⟩ := start.handledAll framed (userAnswers true) (by decide +kernel)
  have nothing : GapsNameNothing c.shared.trace :=
    gapsNameNothing_emptyHanded (by rw [shared]; decide +kernel)
  refine ⟨rfl, c, run, nothing, ?_, gaps_stay rfl run nothing⟩
  rw [shared]
  decide +kernel

/-- The unnamed statement is overwritten by a gap, and executed on its old text. -/
def overwritten : List Message :=
  [parseOf "" "SELECT 1", foreignParse, bindOf "" "", executeOf ""]

/-- The `Execute` of the overwritten statement is classified on the text before the gap. -/
theorem foreignParse_stale : permissiveOptions.failSafeMode = .permissive ∧
    ∃ c, (relay plainTools permissiveOptions).Run anyTurn (Config.idle (freshConnection [])) c ∧
      ¬ GapsStay permissiveOptions c.shared.trace := by
  have start : Reaches plainTools permissiveOptions (freshConnection []) (freshConnection []) :=
    .refl
  have framed : ∀ message ∈ overwritten, Framed message :=
    fun message inside => framed_foreign message (List.mem_cons_of_mem _ inside)
  obtain ⟨c, run, shared, -⟩ := start.handledAll framed (userAnswers true) (by decide +kernel)
  refine ⟨rfl, c, run, ?_⟩
  intro stay
  obtain ⟨state, split, bound⟩ := split_at_receipt c.shared.trace 10 (executeOf "")
    (fun state => (state.portals.lookup "").any fun bind => bind.statementName = "")
    (by rw [shared]; decide +kernel)
  obtain ⟨bind, present, unnamed⟩ := (Option.any_eq_true _ _).mp bound
  have parsed : parseExecuteMessage (executeOf "").payload = .ok ⟨"", 0⟩ := by decide +kernel
  have replaced : (overwrittenOf (c.shared.trace.take 10)).statements "" = true := by
    rw [shared]
    decide +kernel
  have concerns : (overwrittenOf (c.shared.trace.take 10)).Concerns state (executeOf "") :=
    ⟨_, parsed, .inr ⟨bind, present, by rw [of_decide_eq_true unnamed]; exact replaced⟩⟩
  have unclassified := (stay _ _ state _ split rfl concerns).unclassified
  have classified : classifiedTexts (ownEvents (c.shared.trace.drop 11)) = ["SELECT 1"] := by
    rw [shared]
    decide +kernel
  rw [classified] at unclassified
  cases unclassified

end SqlSafetyProxy.Postgres
