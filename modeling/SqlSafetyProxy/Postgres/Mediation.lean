import SqlSafetyProxy.Postgres.Relay

/-!
# Mediation of frontend messages

Over every run of a connection, what reaches the backend is a subsequence of
the received messages, and each call that meets `Regular` is mediated: nothing
is executed without an inspection that passed, and the audit log agrees with
what was written.
-/

namespace SqlSafetyProxy.Postgres

open SqlSafetyProxy.Sql SqlSafetyProxy.Policy SqlSafetyProxy.Wire SqlSafetyProxy.Runtime
open SqlSafetyProxy.Coroutine

variable {tools : Tools} {opts : ProxyOptions}

/-! ## What mediation means -/

/-- Messages that make the backend execute something. -/
def Message.Executes (message : Message) : Prop :=
  message.type = 'Q' ∨ message.type = 'E' ∨ message.type = 'F'

/-- Among the events, the message's own text was classified and passed. -/
def Passed (tools : Tools) (opts : ProxyOptions) (call : Call)
    (events : List (Event adapter)) : Prop :=
  ∃ text, subject call.received call.message = some text ∧
    Event.classified text (classify tools.glot text opts.dialect) ∈ events ∧
    ((classify tools.glot text opts.dialect).risk = .safe ∨
      ∃ decision, Event.decided decision ∈ events ∧
        (decision.action = .allow ∨
          decision.action = .confirm ∧ ∃ context, Event.confirmed context (.ok true) ∈ events))

/-- A call is mediated. -/
structure Mediated (tools : Tools) (opts : ProxyOptions) (call : Call) : Prop where
  /-- The message is written at most once, unmodified. -/
  once : forwards call.events = [] ∨ forwards call.events = [call.message.raw]
  /-- What makes the backend execute something had passed its inspection. -/
  inspected : ∀ before source raw after, call.events = before ++ .forwarded source raw :: after →
    call.message.Executes → Passed tools opts call before
  /-- A risky text outside recovery is audited once, as forwarded exactly when it was written. -/
  audited : opts.auditing = true → call.received.extendedErrorPending = false →
    ∀ text, subject call.received call.message = some text →
      (classify tools.glot text opts.dialect).risk ≠ .safe →
      ∀ error, Event.noted (Note.ended error) ∈ call.events →
        ∃ event, audits call.events = [event] ∧
          (event.finalDecision.forwards = true ↔ forwards call.events = [call.message.raw])

/--
The calls the handler mediates: outside recovery the message is no
`FunctionCall` and the parameters of an `Execute` can be substituted, and the
confirmation answers when it is asked.
-/
structure Regular (tools : Tools) (opts : ProxyOptions) (call : Call) : Prop where
  listed : call.received.extendedErrorPending = false → call.message.type ≠ 'F'
  substitutes : call.received.extendedErrorPending = false → call.message.type = 'E' →
    ∀ bind text, boundText call.received call.message = some (bind, text) →
    ∃ preview, literalPreview tools (classify tools.glot text opts.dialect) bind = .ok preview
  answers : ¬ ConfirmRaised call.events

/-! ## The evidence of a call -/

/-- What is known of the events of a call in each stage. -/
def Evidence (tools : Tools) (opts : ProxyOptions) (message : Message)
    (received : ConnectionState) (events : List (Event adapter)) : Stage → Prop
  | .deciding => True
  | .written => ∃ state after, Clears tools opts message received events state after
  | .refused => Refuses tools opts message received events
  | .answered => Refuses tools opts message received events
  | .dropped => received.extendedErrorPending = true
  | .broken => Breaks tools opts message received events

theorem audits_eq_of_verdict {decision : PolicyDecision} {approved : Bool}
    {events : List (Event adapter)} (verdict : Verdict opts decision approved events)
    (auditing : opts.auditing = true) :
    ∃ event, audits events = [event] ∧ event.finalDecision.forwards = approved := by
  have audited := verdict.audited
  rwa [AuditedOnce, if_pos auditing] at audited

/-- A text that makes the backend execute something was inspected before it was written. -/
theorem Clears.passed {message : Message} {received state after : ConnectionState}
    {events later : List (Event adapter)}
    (clears : Clears tools opts message received events state after)
    (closed : opts.failSafeMode ≠ .permissive) (executes : message.Executes)
    (listed : received.extendedErrorPending = false → message.type ≠ 'F') :
    Passed tools opts ⟨message, received, later⟩ events := by
  cases clears with
  | recovery pending passes =>
      rcases executes with isType | isType | isType <;> simp [isType] at passes
  | registry _ registry =>
      rcases executes with isType | isType | isType <;> simp [isType] at registry
  | safe _ known safe => exact ⟨_, known, List.mem_singleton.mpr rfl, .inl safe⟩
  | approved _ known _ verdict =>
      obtain ⟨decided, approves⟩ := verdict.approves rfl
      refine ⟨_, known, List.mem_cons_self, .inr ⟨_, List.mem_cons_of_mem _ decided, ?_⟩⟩
      refine approves.imp id ?_
      rintro ⟨confirm, context, confirmed⟩
      exact ⟨confirm, context, List.mem_cons_of_mem _ confirmed⟩
  | unlisted outside unrouted =>
      exfalso
      rcases executes with query | execute | function
      · exact unrouted (.inl query)
      · exact unrouted (.inr (.inr (.inr (.inr execute))))
      · exact listed outside function
  | permitted permissive => exact absurd permissive closed

theorem subject_eq_none_of_registry {state : ConnectionState} {message : Message}
    (registry : message.type = 'P' ∨ message.type = 'B' ∨ message.type = 'C') :
    subject state message = none := by
  rcases registry with isType | isType | isType <;> simp [subject, isType]

theorem subject_eq_none_of_unrouted {state : ConnectionState} {message : Message}
    (unrouted : ¬ IsRouted message) : subject state message = none := by
  have notQuery : message.type ≠ 'Q' := fun query => unrouted (.inl query)
  have notExecute : message.type ≠ 'E' :=
    fun execute => unrouted (.inr (.inr (.inr (.inr execute))))
  simp [subject, notQuery, notExecute]

/-- A risky text that was written is audited as forwarded. -/
theorem Clears.audited {message : Message} {received state after : ConnectionState}
    {events : List (Event adapter)}
    (clears : Clears tools opts message received events state after)
    (closed : opts.failSafeMode ≠ .permissive) (outside : received.extendedErrorPending = false)
    {text : String} (known : subject received message = some text)
    (risky : (classify tools.glot text opts.dialect).risk ≠ .safe)
    (auditing : opts.auditing = true) :
    ∃ event, audits events = [event] ∧ event.finalDecision.forwards = true := by
  cases clears with
  | recovery pending =>
      rw [pending] at outside
      cases outside
  | registry _ registry =>
      rw [subject_eq_none_of_registry registry] at known
      cases known
  | safe _ inspected safe =>
      rw [inspected] at known
      cases known
      exact absurd safe risky
  | approved _ _ _ verdict => simpa only [audits] using audits_eq_of_verdict verdict auditing
  | unlisted _ unrouted =>
      rw [subject_eq_none_of_unrouted unrouted] at known
      cases known
  | permitted permissive => exact absurd permissive closed

/-- A known text that was refused is audited as blocked. -/
theorem Refuses.audited {message : Message} {received : ConnectionState}
    {events : List (Event adapter)} (refuses : Refuses tools opts message received events)
    {text : String} (known : subject received message = some text)
    (auditing : opts.auditing = true) :
    ∃ event, audits events = [event] ∧ event.finalDecision.forwards = false := by
  cases refuses with
  | blocked _ _ _ verdict => simpa only [audits] using audits_eq_of_verdict verdict auditing
  | gap _ gap =>
      rw [gap.unknown] at known
      cases known

/-- A call as it stands in a stage, before or after its end is noted. -/
structure Stands (tools : Tools) (opts : ProxyOptions) (message : Message)
    (received : ConnectionState) (stage : Stage) (events tail : List (Event adapter)) : Prop where
  decisions : ∀ event ∈ events, event.IsDecision
  evidence : Evidence tools opts message received events stage
  tail_eq : tail = [] ∨ stage ≠ .deciding ∧ ∃ error, tail = [.noted (.ended error)]

section Stands

variable {message : Message} {received : ConnectionState} {stage : Stage}
  {events tail : List (Event adapter)}

theorem Stands.forwards_tail (stands : Stands tools opts message received stage events tail) :
    forwards tail = [] ∧ audits tail = [] := by
  rcases stands.tail_eq with rfl | ⟨-, error, rfl⟩
  · exact ⟨rfl, rfl⟩
  · exact ⟨rfl, rfl⟩

theorem Stands.forwards_eq (stands : Stands tools opts message received stage events tail) :
    forwards (events ++ stage.writes message ++ tail) = forwards (stage.writes message) := by
  rw [forwards_append, forwards_append, forwards_eq_nil_of_decisions stands.decisions,
    stands.forwards_tail.1]
  simp

theorem forwards_writes (message : Message) (stage : Stage) :
    forwards (stage.writes message) = if stage = .written then [message.raw] else [] := by
  cases stage <;> rfl

theorem Stands.audits_eq (stands : Stands tools opts message received stage events tail) :
    audits (events ++ stage.writes message ++ tail) = audits events := by
  have unaudited : audits (stage.writes message) = [] := by
    cases stage <;> rfl
  rw [audits_append, audits_append, unaudited, stands.forwards_tail.2]
  simp

/-- The end of a call is noted in a final stage. -/
theorem Stands.final (stands : Stands tools opts message received stage events tail)
    {error : Option Exn}
    (ended : Event.noted (Note.ended error) ∈ events ++ stage.writes message ++ tail) :
    stage ≠ .deciding := by
  rcases stands.tail_eq with rfl | ⟨final, -⟩
  · exfalso
    rw [List.append_nil] at ended
    rcases List.mem_append.mp ended with early | write
    · exact stands.decisions _ early
    · cases stage <;> simp [Stage.writes] at write
  · exact final

theorem Stands.once (stands : Stands tools opts message received stage events tail) :
    forwards (events ++ stage.writes message ++ tail) = [] ∨
      forwards (events ++ stage.writes message ++ tail) = [message.raw] := by
  rw [stands.forwards_eq, forwards_writes]
  split
  · exact .inr rfl
  · exact .inl rfl

/-- The only write of a call comes right after its decision events. -/
theorem Stands.before_eq (stands : Stands tools opts message received stage events tail)
    {before after : List (Event adapter)} {source : Message} {raw : Bytes}
    (written : events ++ stage.writes message ++ tail = before ++ .forwarded source raw :: after) :
    stage = .written ∧ before = events := by
  have clean : ∀ event ∈ events, ∀ source raw, event ≠ .forwarded source raw := by
    rintro _ inside source raw rfl
    exact stands.decisions _ inside
  have inside : Event.forwarded source raw ∈ stage.writes message ++ tail := by
    have present : Event.forwarded source raw ∈ events ++ stage.writes message ++ tail := by
      rw [written]
      simp
    rw [List.append_assoc] at present
    rcases List.mem_append.mp present with early | late
    · exact absurd rfl (clean _ early source raw)
    · exact late
  have isWritten : stage = .written := by
    rcases List.mem_append.mp inside with write | ended
    · cases stage <;> simp_all [Stage.writes]
    · rcases stands.tail_eq with rfl | ⟨-, error, rfl⟩
      · cases ended
      · simp at ended
  refine ⟨isWritten, ?_⟩
  subst isWritten
  have tailClean : ∀ event ∈ tail, ∀ source raw, event ≠ .forwarded source raw := by
    rcases stands.tail_eq with rfl | ⟨-, error, rfl⟩ <;> simp
  simp only [Stage.writes, List.append_assoc, List.singleton_append] at written
  rcases List.append_eq_append_iff.mp written with ⟨middle, split, rest⟩ | ⟨middle, split, rest⟩
  · cases middle with
    | nil => simpa using split
    | cons first others =>
        simp only [List.cons_append, List.cons.injEq] at rest
        exact absurd rfl (tailClean (.forwarded source raw) (by simp [rest.2]) source raw)
  · cases middle with
    | nil => simpa using split.symm
    | cons first others =>
        simp only [List.cons_append, List.cons.injEq] at rest
        exact absurd rest.1.symm (clean first (by simp [split]) source raw)

theorem Stands.no_receipt (stands : Stands tools opts message received stage events tail) :
    ∀ event ∈ events ++ stage.writes message ++ tail, ¬ Event.IsReceipt event := by
  intro event present receipt
  rcases List.mem_append.mp present with early | ended
  · rcases List.mem_append.mp early with decision | write
    · have isDecision := stands.decisions event decision
      cases event <;> first | exact isDecision | exact receipt
    · cases stage <;> simp [Stage.writes] at write
      subst write
      exact receipt
  · rcases stands.tail_eq with rfl | ⟨-, error, rfl⟩
    · cases ended
    · rw [List.mem_singleton.mp ended] at receipt
      exact receipt

/-- A regular call is mediated however far it has come. -/
theorem Stands.mediated (stands : Stands tools opts message received stage events tail)
    (closed : opts.failSafeMode ≠ .permissive)
    (regular : Regular tools opts ⟨message, received, events ++ stage.writes message ++ tail⟩) :
    Mediated tools opts ⟨message, received, events ++ stage.writes message ++ tail⟩ where
  once := stands.once
  inspected := by
    intro before source raw after written executes
    obtain ⟨rfl, rfl⟩ := stands.before_eq written
    obtain ⟨state, later, clears⟩ := stands.evidence
    exact clears.passed closed executes regular.listed
  audited := by
    intro auditing outside text known risky error ended
    have final := stands.final ended
    have evidence := stands.evidence
    simp only [stands.audits_eq, stands.forwards_eq, forwards_writes]
    cases stage with
    | deciding => exact absurd rfl final
    | written =>
        obtain ⟨state, after, clears⟩ := evidence
        obtain ⟨event, once, forwarded⟩ := clears.audited closed outside known risky auditing
        exact ⟨event, once, by simp [forwarded]⟩
    | refused =>
        obtain ⟨event, once, blocked⟩ := evidence.audited known auditing
        exact ⟨event, once, by simp [blocked]⟩
    | answered =>
        obtain ⟨event, once, blocked⟩ := evidence.audited known auditing
        exact ⟨event, once, by simp [blocked]⟩
    | dropped =>
        have pending : received.extendedErrorPending = true := evidence
        rw [pending] at outside
        cases outside
    | broken =>
        exfalso
        cases evidence with
        | confirmation _ raised =>
            obtain ⟨context, exception, inside⟩ := raised
            exact regular.answers ⟨context, exception, by simp [inside]⟩
        | substitution _ isExecute bound failed =>
            obtain ⟨preview, succeeds⟩ := regular.substitutes outside isExecute _ _ bound
            rw [failed] at succeeds
            cases succeeds

end Stands

/-! ## Whole runs -/

/-- What holds of the trace in every state of a run. -/
structure TraceMediated (tools : Tools) (opts : ProxyOptions) (trace : List (Event adapter)) :
    Prop where
  subsequence : List.Sublist (forwards trace) ((calls trace).map fun call => call.message.raw)
  mediated : ∀ call ∈ calls trace, Regular tools opts call → Mediated tools opts call

/-- A call that stands at some stage extends a mediated trace to a mediated trace. -/
theorem Stands.traceMediated {message : Message} {received : ConnectionState} {stage : Stage}
    {events tail before : List (Event adapter)}
    (stands : Stands tools opts message received stage events tail)
    (closed : opts.failSafeMode ≠ .permissive) (earlier : TraceMediated tools opts before) :
    TraceMediated tools opts (before ++ .noted (.received message received) ::
      (events ++ stage.writes message ++ tail)) := by
  have split := calls_append before message received stands.no_receipt
  refine ⟨?_, ?_⟩
  · have alone : List.Sublist (forwards (events ++ stage.writes message ++ tail))
        [message.raw] := by
      rcases stands.once with none | once
      · rw [none]
        exact List.nil_sublist _
      · rw [once]
    rw [split, forwards_append, List.map_append]
    exact earlier.subsequence.append alone
  · intro call present regular
    rw [split] at present
    rcases List.mem_append.mp present with early | last
    · exact earlier.mediated call early regular
    · cases List.mem_singleton.mp last
      exact stands.mediated closed regular

/-- The promises of the two tasks: only the client task adds to the trace. -/
def mediation (tools : Tools) (opts : ProxyOptions) : Promises (relay tools opts) anyTurn where
  invariant w := TraceMediated tools opts w.trace
  guarantee
    | .client, _, w => TraceMediated tools opts w.trace
    | .backend, start, w => w.trace = start.trace
  rely := KeepsTrace
  rely_refl := keepsTrace_refl
  rely_trans := keepsTrace_trans
  environment_invariant _ _ _ moved _ := moved.elim
  environment_relied _ _ _ _ _ moved := moved.elim
  guarantee_invariant i s s' inv guaranteed _ := by
    cases i with
    | client => exact guaranteed
    | backend =>
        have same : s'.trace = s.trace := guaranteed
        rw [same]
        exact inv
  guarantee_relied i j _ _ other _ _ guaranteed := by
    cases i with
    | client =>
        cases j with
        | client => exact absurd rfl other
        | backend => exact guaranteed
    | backend => trivial

/-- The condition of each stage: the call is the last of the trace and stands at the stage. -/
def standsLast (tools : Tools) (opts : ProxyOptions) (message : Message)
    (received : ConnectionState) (before : List (Event adapter)) (stage : Stage)
    (events : List (Event adapter)) (_ w : PgWorld) : Prop :=
  w.trace = before ++ .noted (.received message received) :: (events ++ stage.writes message) ∧
    Stands tools opts message received stage events []

theorem Stands.stage {message : Message} {received : ConnectionState} {stage : Stage}
    {events : List (Event adapter)} {later : Stage}
    (stands : Stands tools opts message received stage events [])
    (evidence : Evidence tools opts message received events later) :
    Stands tools opts message received later events [] :=
  ⟨stands.decisions, evidence, .inl rfl⟩

theorem course_standsLast (closed : opts.failSafeMode ≠ .permissive) (message : Message)
    (received : ConnectionState) {before : List (Event adapter)}
    (earlier : TraceMediated tools opts before) :
    Course tools opts message received ((mediation tools opts).contract .client)
      (standsLast tools opts message received before) where
  records := by
    rintro events start w event isDecision - ⟨trace, stands⟩
    refine ⟨by simp [trace, Stage.writes], ?_, trivial, .inl rfl⟩
    intro other present
    rcases List.mem_append.mp present with early | last
    · exact stands.decisions other early
    · rwa [List.mem_singleton.mp last]
  pauses := by
    rintro stage q events start w ⟨trace, stands⟩
    have extended := stands.traceMediated closed earlier
    rw [List.append_nil, ← trace] at extended
    exact extended
  resumes := by
    rintro stage q events start w answer w' ⟨trace, stands⟩ ⟨-, same, -⟩
    exact ⟨same.trans trace, stands⟩
  writes := by
    rintro events start w after ⟨trace, stands⟩ clears
    exact ⟨by simp [trace, Stage.writes, withState], stands.stage ⟨_, _, clears⟩⟩
  recovers := by
    rintro events start w pending sync ⟨trace, stands⟩
    exact ⟨trace, stands⟩
  refuses := by
    rintro events start w ⟨trace, stands⟩ refused
    exact ⟨trace, stands.stage refused⟩
  answers := by
    rintro events start w text sqlState error built ⟨trace, stands⟩
    exact ⟨(refusal_trace message error w).trans trace, stands.stage stands.evidence⟩
  drops := by
    rintro start w dropped ⟨trace, stands⟩
    exact ⟨trace, stands.stage dropped.1⟩
  breaks := by
    rintro events start w ⟨trace, stands⟩ broken
    exact ⟨trace, stands.stage broken⟩

/-- Noting the end of a call keeps the trace mediated. -/
theorem traceMediated_ended {message : Message} {received : ConnectionState}
    {before : List (Event adapter)} {start w : PgWorld} (error : Option Exn)
    (closed : opts.failSafeMode ≠ .permissive) (earlier : TraceMediated tools opts before)
    (stopped : Over (standsLast tools opts message received before) start w) :
    TraceMediated tools opts (w.log (.noted (.ended error))).trace := by
  obtain ⟨stage, events, final, trace, stands⟩ := stopped
  have ended : Stands tools opts message received stage events [.noted (.ended error)] :=
    ⟨stands.decisions, stands.evidence, .inr ⟨final, error, rfl⟩⟩
  have extended := ended.traceMediated closed earlier
  simpa [trace] using extended

/-- In every run, each regular call is mediated and the writes are a subsequence of the messages. -/
theorem relay_mediates (closed : opts.failSafeMode ≠ .permissive) {state : ConnectionState}
    {framer : Framer} {stream : Bytes} {c : Config awaits PgWorld Exn Side}
    (run : (relay tools opts).Run anyTurn (Config.idle (opened state framer stream)) c) :
    List.Sublist (forwards c.shared.trace)
        ((calls c.shared.trace).map fun call => call.message.raw) ∧
      ∀ call ∈ calls c.shared.trace, Regular tools opts call → Mediated tools opts call := by
  have start : (mediation tools opts).invariant (opened state framer stream) :=
    ⟨List.nil_sublist _, by simp [calls, opened]⟩
  have holds := (mediation tools opts).holds_of_run ?_ (Promises.holds_idle _ start) run
  · exact ⟨holds.1.subsequence, holds.1.mediated⟩
  · intro i w task w' inv started
    cases i with
    | client =>
        obtain ⟨message, -, rfl, rfl⟩ := started
        have course := course_standsLast closed message w.session.state inv
        have begun : standsLast tools opts message w.session.state w.trace .deciding [] w
            (receive w message) :=
          ⟨by simp [receive, Stage.writes], by simp, trivial, .inl rfl⟩
        have current : (receive w message).session.state = w.session.state := rfl
        refine wp_clientTurn course current begun ?_
        intro error stage events start w final held
        exact traceMediated_ended error closed inv ⟨stage, events, final, held⟩
    | backend =>
        obtain ⟨chunk, rest, reading, unread, rfl, rfl⟩ := started
        have pauses : ∀ q start w, BackendTurn start w →
            ((mediation tools opts).contract .backend).pause q start w :=
          fun _ _ _ turn => turn.trace_eq
        refine Proc.wp_mono (wp_backendTurn pauses reading unread) ?_ ?_
        · intro _ _ _ turn
          exact turn.trace_eq
        · intro _ _ _ turn
          exact turn.trace_eq

/-- The query `SELECT 1`. -/
def selectOne : Message := frame 'Q' (encodeUtf8 "SELECT 1" ++ [0])

/-- A safe query is written and its call mediated. -/
theorem selectOne_mediated :
    strictOptions.failSafeMode ≠ .permissive ∧
      ∃ c, (relay plainTools strictOptions).Run anyTurn (Config.idle (freshConnection [])) c ∧
        forwards c.shared.trace = [selectOne.raw] ∧
        ∀ call ∈ calls c.shared.trace, Regular plainTools strictOptions call →
          Mediated plainTools strictOptions call := by
  have framed : Framed selectOne := framed_of_takes (by decide +kernel)
  have start : Reaches plainTools strictOptions (freshConnection []) (freshConnection []) := .refl
  obtain ⟨c, run, shared, -⟩ := start.handled framed (userAnswers true) (by decide +kernel)
  refine ⟨by decide, c, run, ?_, (relay_mediates (by decide) run).2⟩
  rw [shared]
  decide +kernel

/-- The call `lo_unlink(16401)` as a `FunctionCall` message. -/
def unlinkCall : Message :=
  frame 'F' [0, 0, 3, 0xC4, 0, 0, 0, 1, 0, 0, 0, 4, 0, 0, 0x40, 0x11, 0, 0]

/-- A function call is written without any inspection. -/
theorem unlinkCall_not_mediated :
    ∃ c, (relay plainTools strictOptions).Run anyTurn (Config.idle (freshConnection [])) c ∧
      forwards c.shared.trace = [unlinkCall.raw] ∧
      ¬ ∀ call ∈ calls c.shared.trace, Mediated plainTools strictOptions call := by
  have framed : Framed unlinkCall := framed_of_takes (by decide +kernel)
  have start : Reaches plainTools strictOptions (freshConnection []) (freshConnection []) := .refl
  obtain ⟨c, run, shared, -⟩ := start.handled framed (userAnswers true) (by decide)
  have only : calls c.shared.trace =
      [⟨unlinkCall, {}, [.forwarded unlinkCall unlinkCall.raw, .noted (.ended none)]⟩] := by
    rw [shared]
    rfl
  refine ⟨c, run, by rw [shared]; decide, ?_⟩
  intro mediated
  rw [only] at mediated
  have alone := mediated _ (List.mem_singleton.mpr rfl)
  obtain ⟨text, known, -⟩ := alone.inspected [] _ _ _ rfl (.inr (.inr rfl))
  cases known

end SqlSafetyProxy.Postgres
