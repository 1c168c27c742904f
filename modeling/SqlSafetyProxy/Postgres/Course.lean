import SqlSafetyProxy.Postgres.Handlers

/-!
# The course of one call

Everything the handling of one frontend message can do, said once: it decides,
then writes the message, refuses it, drops it, or breaks off.  A property of
the handler is proved by giving a condition for each stage and showing that the
few moves between stages keep it.
-/

namespace SqlSafetyProxy.Postgres

open SqlSafetyProxy.Sql SqlSafetyProxy.Policy SqlSafetyProxy.Wire SqlSafetyProxy.Runtime
open SqlSafetyProxy.Coroutine

variable {Γ : Type}

/-! ## Evidence -/

/-- The portal an Execute message runs, when the state knows it and its statement. -/
def boundText (state : ConnectionState) (message : Message) : Option (BindMessage × String) :=
  match parseExecuteMessage message.payload with
  | .error _ => none
  | .ok execute =>
      match state.portals.lookup execute.portalName with
      | none => none
      | some bind =>
          (state.preparedStatements.lookup bind.statementName).map fun text => (bind, text)

/-- The SQL text a Simple Query or Execute message stands for. -/
def subject (state : ConnectionState) (message : Message) : Option String :=
  if message.type = 'Q' then (parseSimpleQueryText message.payload).toOption
  else if message.type = 'E' then (boundText state message).map Prod.snd
  else none

/-- The messages the router inspects or registers. -/
def IsRouted (message : Message) : Prop :=
  message.type = 'Q' ∨ message.type = 'P' ∨ message.type = 'B' ∨ message.type = 'C' ∨
    message.type = 'E'

/-- A message that cannot be followed: it does not parse, or names or registers nothing. -/
structure Gap (message : Message) (received : ConnectionState) : Prop where
  outside : received.extendedErrorPending = false
  routed : IsRouted message
  unknown : subject received message = none
  unregistered : message.type = 'P' ∨ message.type = 'B' ∨ message.type = 'C' →
    ∃ reason, registryChange message received = .error (.protocol reason)

/-- A gap is audited once, when there is an audit log, and nothing else is noted about it. -/
def GapAudited (opts : ProxyOptions) (finalDecision : FinalDecision)
    (events : List (Event adapter)) : Prop :=
  if opts.auditing then
    ∃ event, events = [.audited event] ∧ event.finalDecision = finalDecision
  else events = []

/--
Why a message received in the state `received` is written: the decision events
before the write, and the state before and after it.
-/
inductive Clears (tools : Tools) (opts : ProxyOptions) (message : Message)
    (received : ConnectionState) :
    List (Event adapter) → ConnectionState → ConnectionState → Prop where
  | recovery : received.extendedErrorPending = true → message.type = 'S' ∨ message.type = 'X' →
      Clears tools opts message received [] received received
  | registry {registered : ConnectionState} : received.extendedErrorPending = false →
      message.type = 'P' ∨ message.type = 'B' ∨ message.type = 'C' →
      registryChange message received = .ok registered →
      Clears tools opts message received [] received registered
  | safe {text : String} {state : ConnectionState} : received.extendedErrorPending = false →
      subject received message = some text →
      (classify tools.glot text opts.dialect).risk = .safe →
      Clears tools opts message received
        [.classified text (classify tools.glot text opts.dialect)] state state
  | approved {text : String} {state : ConnectionState} {decision : PolicyDecision}
      {events : List (Event adapter)} : received.extendedErrorPending = false →
      subject received message = some text →
      (classify tools.glot text opts.dialect).risk ≠ .safe →
      Verdict opts decision true events →
      Clears tools opts message received
        (.classified text (classify tools.glot text opts.dialect) :: events) state state
  | unlisted : received.extendedErrorPending = false → ¬ IsRouted message →
      Clears tools opts message received [] received received
  | permitted {state : ConnectionState} {events : List (Event adapter)} :
      opts.failSafeMode = .permissive → Gap message received →
      GapAudited opts .allowedProtocolGap events →
      Clears tools opts message received events state state

/-- Why a message is refused, after the decision events of the call. -/
inductive Refuses (tools : Tools) (opts : ProxyOptions) (message : Message)
    (received : ConnectionState) : List (Event adapter) → Prop where
  | blocked {text : String} {decision : PolicyDecision} {events : List (Event adapter)} :
      received.extendedErrorPending = false → subject received message = some text →
      (classify tools.glot text opts.dialect).risk ≠ .safe →
      Verdict opts decision false events →
      Refuses tools opts message received
        (.classified text (classify tools.glot text opts.dialect) :: events)
  | gap {events : List (Event adapter)} : opts.failSafeMode ≠ .permissive →
      Gap message received → GapAudited opts .blockedProtocolGap events →
      Refuses tools opts message received events

/-- `Sync` is never refused. -/
theorem Refuses.not_sync {tools : Tools} {opts : ProxyOptions} {message : Message}
    {received : ConnectionState}
    {events : List (Event adapter)} (refuses : Refuses tools opts message received events) :
    message.type ≠ 'S' := by
  intro sync
  cases refuses with
  | blocked _ known _ _ => simp [subject, sync] at known
  | gap _ gap _ =>
      have routed := gap.routed
      simp [IsRouted, sync] at routed

/-- Why a call breaks off: the confirmation or the parameter substitution raised. -/
inductive Breaks (tools : Tools) (opts : ProxyOptions) (message : Message)
    (received : ConnectionState) : List (Event adapter) → Prop where
  | confirmation {text : String} {events : List (Event adapter)} :
      subject received message = some text → ConfirmRaised events →
      Breaks tools opts message received events
  | substitution {bind : BindMessage} {text : String} {events : List (Event adapter)} {error : Exn} :
      received.extendedErrorPending = false → message.type = 'E' →
      boundText received message = some (bind, text) →
      literalPreview tools (classify tools.glot text opts.dialect) bind = .error error →
      Breaks tools opts message received events

/-- Why a message is dropped: during recovery only `Sync` and `Terminate` pass. -/
def Drops (message : Message) (received : ConnectionState) : Prop :=
  received.extendedErrorPending = true ∧ message.type ≠ 'S' ∧ message.type ≠ 'X'

/-! ## Stages -/

inductive Stage where
  | deciding | written | refused | answered | dropped | broken
  deriving DecidableEq, Repr

/-- The stages in which a call returns. -/
def Stage.returns : Stage → Bool
  | .written | .answered | .dropped => true
  | _ => false

/-- The write that a stage has behind it. -/
def Stage.writes (message : Message) : Stage → List (Event adapter)
  | .written => [.forwarded message message.raw]
  | _ => []

/-- Messages to the client that the proxy built itself. -/
def BuiltMessage (write : ClientWrite) : Prop :=
  ∃ raw, write = .built raw ∧ IsMessage raw

/-- The answer to a refused message: the error, then the recovery flag or the status. -/
def refusal (message : Message) (error : Bytes) (w : World adapter Γ) : World adapter Γ :=
  if message.type = 'Q' then
    (w.answer (.built error)).answer
      (.built (buildReadyForQuery w.session.state.transactionStatus))
  else withState (w.answer (.built error)) { w.session.state with extendedErrorPending := true }

theorem refusal_trace (message : Message) (error : Bytes) (w : World adapter Γ) :
    (refusal message error w).trace = w.trace := by
  unfold refusal
  split <;> rfl

/--
A condition for each stage of the handling of `message`, received in the state
`received`, that every move of the handler keeps.
-/
structure Course (tools : Tools) (opts : ProxyOptions) (message : Message)
    (received : ConnectionState) (C : Proc.Contract awaits (World adapter Γ))
    (held : Stage → List (Event adapter) → World adapter Γ → World adapter Γ → Prop) :
    Prop where
  records : ∀ events start w event, event.IsDecision →
    (∀ text classification, event = .classified text classification →
      subject received message = some text) →
    held .deciding events start w → held .deciding (events ++ [event]) start (w.log event)
  pauses : ∀ stage q events start w, held stage events start w → C.pause q start w
  resumes : ∀ stage q events start w answer w', held stage events start w →
    C.rely q w answer w' → held stage events w' w'
  writes : ∀ events start w after, held .deciding events start w →
    Clears tools opts message received events w.session.state after →
    held .written events start ((withState w after).log (.forwarded message message.raw))
  recovers : ∀ events start w, received.extendedErrorPending = true → message.type = 'S' →
    held .written events start w →
    held .written events start
      (withState w { w.session.state with extendedErrorPending := false })
  refuses : ∀ events start w, held .deciding events start w →
    Refuses tools opts message received events → held .refused events start w
  answers : ∀ events start w text sqlState error,
    buildErrorResponse text sqlState = .ok error → held .refused events start w →
    held .answered events start (refusal message error w)
  drops : ∀ start w, Drops message received → held .deciding [] start w →
    held .dropped [] start w
  breaks : ∀ events start w, held .deciding events start w →
    Breaks tools opts message received events → held .broken events start w

/-- The call is over, in one of the final stages. -/
def Over (held : Stage → List (Event adapter) → World adapter Γ → World adapter Γ → Prop)
    (start w : World adapter Γ) : Prop :=
  ∃ stage events, stage ≠ .deciding ∧ held stage events start w

/-- The call has returned. -/
def Returned (held : Stage → List (Event adapter) → World adapter Γ → World adapter Γ → Prop)
    (start w : World adapter Γ) : Prop :=
  ∃ stage events, stage.returns = true ∧ held stage events start w

/-! ## Rules -/

/-- How a call may raise: a malformed message before any decision, or in a final stage. -/
def Fails (message : Message) (received : ConnectionState)
    (held : Stage → List (Event adapter) → World adapter Γ → World adapter Γ → Prop) :
    Exn → World adapter Γ → World adapter Γ → Prop
  | .protocol _, start, w => Gap message received ∧ held .deciding [] start w
  | _, start, w => Over held start w

/-- A postcondition for raising that every final stage meets, short of protocol errors. -/
def Admits (held : Stage → List (Event adapter) → World adapter Γ → World adapter Γ → Prop)
    (fail : Exn → World adapter Γ → World adapter Γ → Prop) : Prop :=
  ∀ error start w, (∀ reason, error ≠ .protocol reason) → Over held start w →
    fail error start w

theorem admits_fails (message : Message) (received : ConnectionState)
    (held : Stage → List (Event adapter) → World adapter Γ → World adapter Γ → Prop) :
    Admits held (Fails message received held) := by
  intro error start w other stopped
  cases error with
  | protocol reason => exact absurd rfl (other reason)
  | connectionLost => exact stopped
  | failure name => exact stopped

theorem admits_over
    (held : Stage → List (Event adapter) → World adapter Γ → World adapter Γ → Prop) :
    Admits held (fun _ start w => Over held start w) :=
  fun _ _ _ _ stopped => stopped

section Rules

variable {tools : Tools} {opts : ProxyOptions} {message : Message} {received : ConnectionState}
  {C : Proc.Contract awaits (World adapter Γ)}
  {held : Stage → List (Event adapter) → World adapter Γ → World adapter Γ → Prop}
  {fail : Exn → World adapter Γ → World adapter Γ → Prop}
  {start w : World adapter Γ} {events : List (Event adapter)}

@[simp] theorem wp_connectionState
    {post : ConnectionState → World adapter Γ → World adapter Γ → Prop} :
    Proc.wp C connectionState post fail start w = post w.session.state start w := rfl

@[simp] theorem wp_updateState
    {post : Unit → World adapter Γ → World adapter Γ → Prop}
    (change : ConnectionState → ConnectionState) :
    Proc.wp C (updateState change) post fail start w =
      post () start (withState w (change w.session.state)) := rfl

theorem Course.carried (course : Course tools opts message received C held) :
    Carried C (held .deciding) where
  records events start w event isDecision unclassified holds := by
    refine course.records events start w event isDecision ?_ holds
    rintro text classification rfl
    cases unclassified
  pauses q events start w := course.pauses .deciding q events start w
  resumes q events start w := course.resumes .deciding q events start w

/-- A drain in a final stage ends the call in that stage, or loses the connection there. -/
theorem Course.drains (course : Course tools opts message received C held)
    (admits : Admits held fail) {stage : Stage}
    {post : Unit → World adapter Γ → World adapter Γ → Prop} (final : stage ≠ .deciding)
    (holds : held stage events start w)
    (finish : ∀ start w, held stage events start w → post () start w) :
    Proc.wp C drain post fail start w := by
  apply wp_drain (course.pauses _ _ _ _ _ holds)
  · intro w' relied
    exact finish _ _ (course.resumes _ _ _ _ _ _ _ holds relied)
  · intro w' relied
    refine admits _ _ _ (by simp) ?_
    exact ⟨stage, events, final, course.resumes _ _ _ _ _ _ _ holds relied⟩

theorem Course.forwards (course : Course tools opts message received C held)
    (admits : Admits held fail) {after : ConnectionState} (holds : held .deciding events start w)
    (clears : Clears tools opts message received events w.session.state after) :
    Proc.wp C (forward message) (fun _ start w => held .written events start w)
      fail start (withState w after) := by
  simp only [forward, Proc.wp_bind, wp_writeBackend]
  apply course.drains admits (by decide) (course.writes _ _ _ _ holds clears)
  intro start w written
  exact written

theorem Course.forwards_over (course : Course tools opts message received C held)
    (admits : Admits held fail) {after : ConnectionState} (holds : held .deciding events start w)
    (clears : Clears tools opts message received events w.session.state after) :
    Proc.wp C (forward message) (fun _ start w => Returned held start w)
      fail start (withState w after) := by
  apply Proc.wp_mono (course.forwards admits holds clears)
  · intro _ start w written
    exact ⟨.written, events, by decide, written⟩
  · intro _ _ _ failed
    exact failed

theorem buildErrorResponse_error {text sqlState : String} {error : Exn}
    (built : buildErrorResponse text sqlState = .error error) : error = .failure "error" := by
  unfold buildErrorResponse packInt32 at built
  simp only at built
  split at built
  · cases built
  · cases built
    rfl

/-- The rest of a refusal: the error, the recovery flag or status, and the drain. -/
theorem Course.refusal (course : Course tools opts message received C held)
    (admits : Admits held fail) {text sqlState : String} {extendedRecovery : Bool}
    {post : Unit → World adapter Γ → World adapter Γ → Prop}
    (extended : extendedRecovery = (message.type != 'Q')) (holds : held .refused events start w)
    (finish : ∀ start w, held .answered events start w → post () start w) :
    Proc.wp C (Proc.ofExcept (buildErrorResponse text sqlState))
      (fun error start w => Proc.wp C (writeClient (.built error))
        (fun _ start w => Proc.wp C (answerRecovery extendedRecovery)
          (fun _ start w => Proc.wp C drain post fail start w) fail start w) fail start w)
      fail start w := by
  apply Proc.wp_ofExcept
  · intro error built
    have answered := course.answers _ _ _ _ _ _ built holds
    rw [wp_writeClient]
    by_cases query : message.type = 'Q'
    · have simple : extendedRecovery = false := by simp [extended, query]
      rw [Postgres.refusal, if_pos query] at answered
      rw [simple]
      exact course.drains admits (by decide) answered finish
    · have recovers : extendedRecovery = true := by simp [extended, query]
      rw [Postgres.refusal, if_neg query] at answered
      rw [recovers]
      exact course.drains admits (by decide) answered finish
  · intro error failed
    rw [buildErrorResponse_error failed]
    exact admits _ _ _ (by simp) ⟨.refused, events, by decide, holds⟩

/-! ## The handlers -/

theorem Course.protocolGap (course : Course tools opts message received C held)
    (admits : Admits held fail) {protocol reason sql database : String}
    {extendedRecovery : Bool} {post : Bool → World adapter Γ → World adapter Γ → Prop}
    (extended : extendedRecovery = (message.type != 'Q'))
    (gap : Gap message received) (holds : held .deciding [] start w)
    (finish : ∀ forwarded start w, Returned held start w → post forwarded start w) :
    Proc.wp C (handleProtocolGap tools opts protocol reason sql message database
      extendedRecovery) post fail start w := by
  simp only [handleProtocolGap, Proc.wp_bind]
  refine wp_writeAuditEvent course.carried holds ?_
  intro added start w later audited
  by_cases permissive : opts.failSafeMode = .permissive
  · have allows : (evaluateProtocolGap opts.failSafeMode reason).action = .allow := by
      simp [evaluateProtocolGap, permissive]
    simp only [allows, if_true, Proc.wp_bind, Proc.wp_pure] at audited ⊢
    refine Proc.wp_mono (course.forwards_over admits later (.permitted permissive gap audited)) ?_
      fun _ _ _ failed => failed
    intro _ start w stopped
    exact finish _ _ _ stopped
  · have blocks : (evaluateProtocolGap opts.failSafeMode reason).action = .block :=
      evaluateProtocolGap_blocks reason permissive
    simp only [blocks, reduceCtorEq, if_false, Proc.wp_bind] at audited ⊢
    have refused : held .refused ([] ++ added) start w :=
      course.refuses _ _ _ later (.gap permissive gap audited)
    refine course.refusal admits extended refused ?_
    intro start w stopped
    exact finish _ _ _ ⟨.answered, _, by decide, stopped⟩

theorem Course.evaluates (course : Course tools opts message received C held)
    (open_ : received.extendedErrorPending = false) {text protocol database : String}
    {estimatedRows : Option Int} {estimateError : Option String} {approximate : Bool}
    (known : subject received message = some text)
    (risky : (classify tools.glot text opts.dialect).risk ≠ .safe)
    {post : Bool × PolicyDecision → World adapter Γ → World adapter Γ → Prop}
    (holds : held .deciding [.classified text (classify tools.glot text opts.dialect)] start w)
    (approves : ∀ decision events start w, held .deciding events start w →
      (∀ state, Clears tools opts message received events state state) →
      post (true, decision) start w)
    (refuses : ∀ decision events start w, held .refused events start w →
      post (false, decision) start w) :
    Proc.wp C (evaluateAndDecide tools opts text protocol
      (classify tools.glot text opts.dialect) estimatedRows estimateError approximate database)
      post (Fails message received held) start w := by
  refine wp_evaluateAndDecide course.carried holds ?_ ?_
  · intro decision approved added start w later _ verdict
    cases approved with
    | true =>
        exact approves decision _ _ _ later fun state => .approved open_ known risky verdict
    | false =>
        exact refuses decision _ _ _
          (course.refuses _ _ _ later (.blocked open_ known risky verdict))
  · intro exception added start w later raised
    obtain ⟨context, raisedWith, inside⟩ := raised
    refine ⟨.broken, _, by decide, course.breaks _ _ _ later (.confirmation known ?_)⟩
    exact ⟨context, raisedWith, List.mem_append_right _ inside⟩

/-- The end of a decided call: it is forwarded, or the blocked error is written. -/
theorem Course.settles (course : Course tools opts message received C held)
    (open_ : received.extendedErrorPending = false) {text protocol database : String}
    {estimatedRows : Option Int} {estimateError : Option String} {approximate : Bool}
    {extendedRecovery : Bool} (extended : extendedRecovery = (message.type != 'Q'))
    (known : subject received message = some text)
    (risky : (classify tools.glot text opts.dialect).risk ≠ .safe)
    (holds : held .deciding [.classified text (classify tools.glot text opts.dialect)] start w) :
    Proc.wp C (evaluateAndDecide tools opts text protocol
      (classify tools.glot text opts.dialect) estimatedRows estimateError approximate database)
      (fun outcome start w => Proc.wp C
        (if outcome.1 then forward message
        else do
          let error ← Proc.ofExcept (blockedError (classify tools.glot text opts.dialect)
            estimatedRows outcome.2)
          writeClient (.built error)
          answerRecovery extendedRecovery
          drain)
        (fun _ start w => Returned held start w) (Fails message received held) start w)
      (Fails message received held) start w := by
  refine course.evaluates open_ known risky holds ?_ ?_
  · intro decision events start w later clears
    simp only [if_true]
    exact course.forwards_over (admits_fails _ _ _) later (clears _)
  · intro decision events start w refused
    simp only [Bool.false_eq_true, if_false, Proc.wp_bind, blockedError]
    refine course.refusal (admits_fails _ _ _) extended refused ?_
    intro start w stopped
    exact ⟨.answered, _, by decide, stopped⟩

theorem Course.simpleQuery (course : Course tools opts message received C held)
    (open_ : received.extendedErrorPending = false) (query : message.type = 'Q')
    (holds : held .deciding [] start w) :
    Proc.wp C (handleSimpleQuery tools opts message) (fun _ start w => Returned held start w)
      (Fails message received held) start w := by
  unfold handleSimpleQuery
  cases parsed : parseSimpleQueryText message.payload with
  | error error =>
      obtain ⟨reason, rfl⟩ := raisesProtocol_parseSimpleQueryText _ _ parsed
      simp only [Proc.wp_bind, Proc.wp_ofExcept_error]
      exact ⟨⟨open_, .inl query, by simp [subject, query, parsed, Except.toOption],
        by simp [query]⟩, holds⟩
  | ok text =>
      have known : subject received message = some text := by
        simp [subject, query, parsed, Except.toOption]
      simp only [Proc.wp_bind, Proc.wp_ofExcept_ok, wp_classifySql]
      have noted := course.records _ _ _
        (.classified text (classify tools.glot text opts.dialect)) trivial
        (by rintro _ _ ⟨⟩; exact known) holds
      by_cases safe : (classify tools.glot text opts.dialect).risk = .safe
      · simp only [safe, if_true]
        exact course.forwards_over (admits_fails _ _ _) noted (.safe open_ known safe)
      · simp only [safe, if_false, Proc.wp_bind, wp_connectionState]
        refine wp_estimate course.carried noted ?_
        intro estimated start w later
        exact course.settles open_ (by simp [query]) known safe later

theorem literalPreview_error {classification : Classification} {bind : BindMessage}
    {error : Exn} (failed : literalPreview tools classification bind = .error error) :
    ∃ name, error = .failure name := by
  unfold literalPreview at failed
  cases preview : classification.previewQuery with
  | none => simp [preview] at failed
  | some query =>
      simp only [preview] at failed
      split at failed
      · cases failed
      · cases substituted : substituteParams tools.digit query (decodedParameters bind) with
        | error inner =>
            rw [substituted] at failed
            cases failed
            exact substituteParams_error substituted
        | ok result =>
            rw [substituted] at failed
            cases failed

theorem Course.decidesExecute (course : Course tools opts message received C held)
    (open_ : received.extendedErrorPending = false) (isExecute : message.type = 'E')
    {bind : BindMessage} {text : String} (bound : boundText received message = some (bind, text))
    (holds : held .deciding [] start w) :
    Proc.wp C (decideExecute tools opts message bind text) (fun _ start w => Returned held start w)
      (Fails message received held) start w := by
  have known : subject received message = some text := by
    simp [subject, isExecute, bound]
  unfold decideExecute
  simp only [Proc.wp_bind, wp_classifySql]
  have noted := course.records _ _ _
    (.classified text (classify tools.glot text opts.dialect)) trivial
    (by rintro _ _ ⟨⟩; exact known) holds
  by_cases safe : (classify tools.glot text opts.dialect).risk = .safe
  · simp only [safe, if_true]
    exact course.forwards_over (admits_fails _ _ _) noted (.safe open_ known safe)
  · simp only [safe, if_false, Proc.wp_bind]
    cases preview : literalPreview tools (classify tools.glot text opts.dialect) bind with
    | error error =>
        have broken := course.breaks _ _ _ noted (.substitution open_ isExecute bound preview)
        obtain ⟨name, rfl⟩ := literalPreview_error preview
        exact ⟨.broken, _, by decide, broken⟩
    | ok literal =>
        simp only [Proc.wp_ofExcept_ok, wp_connectionState]
        rcases literal with _ | ⟨_ | query, usedHeuristic⟩
        · exact course.settles open_ (by simp [isExecute]) known safe noted
        · exact course.settles open_ (by simp [isExecute]) known safe noted
        · simp only [estimateExecute, Proc.wp_bind, Proc.wp_pure]
          refine wp_estimate course.carried noted ?_
          intro estimated start w later
          exact course.settles open_ (by simp [isExecute]) known safe later

theorem Course.executeGap (course : Course tools opts message received C held)
    {reason database : String} (isExecute : message.type = 'E') (gap : Gap message received)
    (holds : held .deciding [] start w) :
    Proc.wp C (executeGap tools opts reason message database)
      (fun _ start w => Returned held start w) (Fails message received held) start w := by
  unfold Postgres.executeGap
  simp only [Proc.wp_bind, Proc.wp_pure]
  exact course.protocolGap (admits_fails _ _ _) (by simp [isExecute]) gap holds
    fun _ _ _ stopped => stopped

theorem gap_execute (outside : received.extendedErrorPending = false)
    (isExecute : message.type = 'E') (unknown : boundText received message = none) :
    Gap message received :=
  ⟨outside, .inr (.inr (.inr (.inr isExecute))), by simp [subject, isExecute, unknown],
    by simp [isExecute]⟩

theorem Course.executes (course : Course tools opts message received C held)
    (open_ : received.extendedErrorPending = false)
    (isExecute : message.type = 'E') (current : w.session.state = received)
    (holds : held .deciding [] start w) :
    Proc.wp C (handleExecute tools opts message) (fun _ start w => Returned held start w)
      (Fails message received held) start w := by
  unfold handleExecute
  cases parsed : parseExecuteMessage message.payload with
  | error error =>
      obtain ⟨reason, rfl⟩ := raisesProtocol_parseExecuteMessage _ _ parsed
      simp only [Proc.wp_bind, Proc.wp_ofExcept_error]
      exact ⟨gap_execute open_ isExecute (by simp [boundText, parsed]), holds⟩
  | ok execute =>
      simp only [Proc.wp_bind, Proc.wp_ofExcept_ok, wp_connectionState, current]
      split
      · next portal =>
        refine course.executeGap isExecute (gap_execute open_ isExecute ?_) holds
        simp [boundText, parsed, portal]
      · next bind portal =>
        split
        · next statement =>
          refine course.executeGap isExecute (gap_execute open_ isExecute ?_) holds
          simp [boundText, parsed, portal, statement]
        · next text statement =>
          apply course.decidesExecute open_ isExecute _ holds
          simp [boundText, parsed, portal, statement]

theorem raisesProtocol_registryChange (message : Message) (state : ConnectionState) :
    RaisesProtocol (registryChange message state) :=
  .ite
    (.bind (raisesProtocol_parseParseMessage _) fun _ =>
      ConnectionState.raisesProtocol_registerStatement _ _ _)
    (.ite
      (.bind (raisesProtocol_parseBindMessage _) fun _ =>
        ConnectionState.raisesProtocol_registerPortal _ _)
      (.bind (raisesProtocol_parseCloseMessage _) fun _ => .ok _))

theorem registryChange_status {state registered : ConnectionState}
    (changed : registryChange message state = .ok registered) :
    registered.transactionStatus = state.transactionStatus := by
  unfold registryChange at changed
  split at changed
  · obtain ⟨parsed, -, changed⟩ := bind_ok changed
    rw [ConnectionState.registerStatement_ok changed]
  · split at changed
    · obtain ⟨bind, -, changed⟩ := bind_ok changed
      rw [ConnectionState.registerPortal_ok changed]
    · obtain ⟨close, -, changed⟩ := bind_ok changed
      cases changed
      unfold ConnectionState.close
      split <;> rfl

theorem Course.registers (course : Course tools opts message received C held)
    (open_ : received.extendedErrorPending = false)
    (registry : message.type = 'P' ∨ message.type = 'B' ∨ message.type = 'C')
    (current : w.session.state = received) (holds : held .deciding [] start w) :
    Proc.wp C (registerAndForward message (registryChange message))
      (fun _ start w => Returned held start w) (Fails message received held) start w := by
  simp only [registerAndForward, Proc.wp_bind, wp_connectionState, current]
  cases changed : registryChange message received with
  | error error =>
      obtain ⟨reason, rfl⟩ := raisesProtocol_registryChange _ _ _ changed
      simp only [Proc.wp_ofExcept_error]
      refine ⟨⟨open_, ?_, ?_, fun _ => ⟨reason, changed⟩⟩, holds⟩
      · rcases registry with isType | isType | isType <;> simp [IsRouted, isType]
      · rcases registry with isType | isType | isType <;> simp [subject, isType]
  | ok registered =>
      simp only [Proc.wp_ofExcept_ok, wp_updateState]
      refine course.forwards_over (admits_fails _ _ _) holds ?_
      rw [current]
      exact .registry open_ registry changed

theorem Course.routes (course : Course tools opts message received C held)
    (open_ : received.extendedErrorPending = false)
    (current : w.session.state = received) (holds : held .deciding [] start w) :
    Proc.wp C (routeMessage tools opts message) (fun _ start w => Returned held start w)
      (Fails message received held) start w := by
  unfold routeMessage
  split
  · next query => exact course.simpleQuery open_ query holds
  · split
    · next registry => exact course.registers open_ registry current holds
    · split
      · next isExecute => exact course.executes open_ isExecute current holds
      · next notQuery notRegistry notExecute =>
        have unlisted : ¬ IsRouted message := by
          rintro (query | parse | bind | close | execute)
          · exact notQuery query
          · exact notRegistry (.inl parse)
          · exact notRegistry (.inr (.inl bind))
          · exact notRegistry (.inr (.inr close))
          · exact notExecute execute
        have clears : Clears tools opts message received [] w.session.state w.session.state := by
          rw [current]
          exact .unlisted open_ unlisted
        exact course.forwards_over (admits_fails _ _ _) holds clears

theorem Course.recoversMessage (course : Course tools opts message received C held)
    (pending : received.extendedErrorPending = true) (current : w.session.state = received)
    (holds : held .deciding [] start w) :
    Proc.wp C (recoverMessage message) (fun _ start w => Returned held start w)
      (fun _ start w => Over held start w) start w := by
  have clears (passes : message.type = 'S' ∨ message.type = 'X') :
      Clears tools opts message received [] w.session.state w.session.state := by
    rw [current]
    exact .recovery pending passes
  unfold recoverMessage
  split
  · next sync =>
    simp only [Proc.wp_bind, wp_updateState]
    refine Proc.wp_mono (course.forwards (admits_over held) holds (clears (.inl sync))) ?_
      fun _ _ _ stopped => stopped
    intro _ start w written
    exact ⟨.written, [], by decide, course.recovers _ _ _ pending sync written⟩
  · next notSync =>
    split
    · next terminate =>
      exact course.forwards_over (admits_over held) holds (clears (.inr terminate))
    · next notTerminate =>
      exact ⟨.dropped, [], by decide, course.drops _ _ ⟨pending, notSync, notTerminate⟩ holds⟩

/-- Every move of the handling of one frontend message is one of the course. -/
theorem Course.handles (course : Course tools opts message received C held)
    (current : w.session.state = received)
    (holds : held .deciding [] start w) :
    Proc.wp C (handleFrontendMessage tools opts message) (fun _ start w => Returned held start w)
      (fun _ start w => Over held start w) start w := by
  simp only [handleFrontendMessage, Proc.wp_bind, wp_connectionState, current]
  cases pending : received.extendedErrorPending with
  | true =>
      simp only [if_true]
      exact course.recoversMessage pending current holds
  | false =>
      simp only [Bool.false_eq_true, if_false, Proc.wp_handle]
      refine Proc.wp_mono (course.routes pending current holds) (fun _ _ _ stopped => stopped) ?_
      intro error start w failed
      cases error with
      | protocol reason =>
          simp only [Proc.wp_bind, wp_connectionState, Proc.wp_pure]
          exact course.protocolGap (admits_over held) rfl failed.1 failed.2
            fun _ _ _ stopped => stopped
      | connectionLost => exact failed
      | failure name => exact failed

end Rules

end SqlSafetyProxy.Postgres
