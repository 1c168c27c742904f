import SqlSafetyProxy.Runtime.World

/-!
# The shared decision path

Both adapters estimate, evaluate the policy, ask for confirmation and write the
audit log through the functions of this module.
-/

namespace SqlSafetyProxy.Runtime

open SqlSafetyProxy.Sql SqlSafetyProxy.Policy SqlSafetyProxy.Coroutine

/-- Libraries and presentation the decisions are built on. -/
structure Tools where
  glot : Sqlglot
  sanitizeSql : String → Nat → String
  /-- The decimal value of a Unicode digit (`\d`). -/
  digit : Char → Option Nat
  /-- `repr` of the finite float with the given size and bit pattern. -/
  floatRepr : Nat → Nat → String

structure ProxyOptions where
  dialect : Dialect
  policyConfig : PolicyConfig
  /-- `audit_logger is not None`. -/
  auditing : Bool
  failSafeMode : FailSafeMode

variable {A : Adapter} {Γ : Type}

/-- Classify a text, noting the call. -/
def classifySql (tools : Tools) (opts : ProxyOptions) (sql : String) :
    Handler A Γ Classification := do
  let classification := classify tools.glot sql opts.dialect
  record (.classified sql classification)
  return classification

/-- Run the read-only preview on the estimator connection. -/
def estimate (classification : Classification) (database : String) :
    Handler A Γ (Option Int × Option String) :=
  match classification.previewQuery with
  | none => return (none, none)
  | some query =>
      if query = "" then return (none, none)
      else do
        let result : Except String Int ← request (.estimate query database)
        match result with
        | .ok rows => return (some rows, none)
        | .error exception =>
            return (none, some (safeExceptionSummary exception "row-impact estimation"))

/-- The audit record of a decision (its timestamp is left out). -/
def buildAuditEvent (tools : Tools) (sql protocol : String)
    (classification : Classification) (decision : PolicyDecision)
    (finalDecision : FinalDecision) (estimatedRows : Option Int) (estimateError : Option String)
    (approximate : Bool) (database : String) : AuditEvent where
  sql := tools.sanitizeSql sql 4096
  database := boundExternalText database 512
  operation := classification.statementType
  targetTable := classification.targetTable
  severity := decision.severity
  policyAction := decision.action
  finalDecision := finalDecision
  estimatedRows := estimatedRows
  estimateError := estimateError.map fun text => boundExternalText text 1024
  classificationReason := boundExternalText classification.reason 1024
  policyReason := boundExternalText decision.reason 1024
  approximateEstimate := approximate
  protocol := protocol

/-- Hand an event to the audit logger; a failed write is not an error. -/
def logAudit (event : AuditEvent) : Handler A Γ Unit := do
  record (.audited event)
  let _ : Bool ← request (.auditLog event)
  return ()

/-- Append the final decision to the configured audit log. -/
def writeAuditEvent (tools : Tools) (opts : ProxyOptions) (sql protocol : String)
    (classification : Classification) (decision : PolicyDecision)
    (finalDecision : FinalDecision) (estimatedRows : Option Int) (estimateError : Option String)
    (approximate : Bool) (database : String) : Handler A Γ Unit :=
  if opts.auditing then
    logAudit (buildAuditEvent tools sql protocol classification decision finalDecision
      estimatedRows estimateError approximate database)
  else return ()

/-- Ask the confirmation provider, noting its answer. -/
def confirm (context : QueryContext) : Handler A Γ Bool := do
  let answer : Except String Bool ← request (.confirm context)
  record (.confirmed context answer)
  Proc.ofExcept (answer.mapError .failure)

/-- Carry out the action of a policy decision: whether to forward, and how that is audited. -/
def settle (decision : PolicyDecision) (context : QueryContext) :
    Handler A Γ (Bool × FinalDecision) :=
  match decision.action with
  | .allow => return (true, .allowed)
  | .block => return (false, .blockedByPolicy)
  | .confirm => do
      let approved ← confirm context
      return (approved, if approved then .approvedByUser else .blockedByUser)

/-- Apply the policy and return whether the SQL should be forwarded. -/
def evaluateAndDecide (tools : Tools) (opts : ProxyOptions) (sql protocol : String)
    (classification : Classification) (estimatedRows : Option Int)
    (estimateError : Option String) (approximate : Bool) (database : String) :
    Handler A Γ (Bool × PolicyDecision) := do
  let decision := evaluatePolicy classification estimatedRows estimateError opts.policyConfig
  record (.decided decision)
  let displaySql := tools.sanitizeSql sql 2048
  let outcome ← settle decision
    { sql := displaySql
      classification := classification
      estimatedRows := estimatedRows
      estimateError := estimateError
      policyDecision := decision
      database := database
      approximateEstimate := approximate }
  writeAuditEvent tools opts displaySql protocol classification decision outcome.2
    estimatedRows estimateError approximate database
  return (outcome.1, decision)

/-- The classification of traffic that cannot be inspected. -/
def gapClassification (reason : String) : Classification :=
  { risk := .unknown
    statementType := "PROTOCOL_GAP"
    reason := reason
    impactKind := .protocol
    severity := .critical }

/-- The policy decision that stands for a protocol-gap decision. -/
def gapPolicyDecision (gap : ProtocolGapDecision) : PolicyDecision :=
  { action := if gap.action = .allow then .allow else .block
    severity := .critical
    reason := gap.reason }

/-! ## What the decision path adds to the trace -/

/-- An event of the decision path: none of them forwards anything. -/
def Event.IsDecision : Event A → Prop
  | .classified _ _ => True
  | .decided _ => True
  | .confirmed _ _ => True
  | .audited _ => True
  | .forwarded _ _ => False
  | .noted _ => False

/-- A decision approves: it allows, or it was confirmed by the user. -/
def Approves (decision : PolicyDecision) (approved : Bool) (events : List (Event A)) : Prop :=
  approved = true →
    Event.decided decision ∈ events ∧
      (decision.action = .allow ∨
        decision.action = .confirm ∧ ∃ context, Event.confirmed context (.ok true) ∈ events)

/-- The final decisions under which a message is forwarded. -/
def FinalDecision.forwards : FinalDecision → Bool
  | .allowed | .approvedByUser => true
  | _ => false

/-- The audit events of a trace, in order. -/
def audits : List (Event A) → List AuditEvent
  | [] => []
  | .audited event :: rest => event :: audits rest
  | _ :: rest => audits rest

@[simp] theorem audits_append (first second : List (Event A)) :
    audits (first ++ second) = audits first ++ audits second := by
  induction first with
  | nil => rfl
  | cons event rest ih => cases event <;> simp [audits, ih]

/-- The texts classified in a trace, in order. -/
def classifiedTexts : List (Event A) → List String
  | [] => []
  | .classified text _ :: rest => text :: classifiedTexts rest
  | _ :: rest => classifiedTexts rest

@[simp] theorem classifiedTexts_append (first second : List (Event A)) :
    classifiedTexts (first ++ second) = classifiedTexts first ++ classifiedTexts second := by
  induction first with
  | nil => rfl
  | cons event rest ih => cases event <;> simp [classifiedTexts, ih]

/-- One audit event, for the final decision, exactly when a logger is configured. -/
def AuditedOnce (opts : ProxyOptions) (approved : Bool) (events : List (Event A)) : Prop :=
  if opts.auditing then
    ∃ event, audits events = [event] ∧ event.finalDecision.forwards = approved
  else audits events = []

/-- What a run of `evaluateAndDecide` adds to the trace. -/
structure Verdict (opts : ProxyOptions) (decision : PolicyDecision) (approved : Bool)
    (events : List (Event A)) : Prop where
  approves : Approves decision approved events
  audited : AuditedOnce opts approved events
  decisions : ∀ event ∈ events, event.IsDecision
  unclassified : classifiedTexts events = []

theorem forwards_eq_nil_of_decisions {events : List (Event A)}
    (decisions : ∀ event ∈ events, event.IsDecision) : forwards events = [] := by
  induction events with
  | nil => rfl
  | cons event rest ih =>
      have head := decisions event List.mem_cons_self
      have tail := ih fun later inside => decisions later (List.mem_cons_of_mem _ inside)
      cases event with
      | forwarded source raw => exact head.elim
      | _ => simpa [forwards] using tail

/-! ## Rules -/

section Rules

variable {C : Proc.Contract awaits (World A Γ)} {fail : Exn → World A Γ → World A Γ → Prop}
  {start w : World A Γ} {tools : Tools} {opts : ProxyOptions}

/--
A condition a caller carries through the decision path: it may mention the
events added so far, survives recording a decision event and every suspension,
and is enough to suspend.
-/
structure Carried (C : Proc.Contract awaits (World A Γ))
    (held : List (Event A) → World A Γ → World A Γ → Prop) : Prop where
  records : ∀ events start w event, event.IsDecision → classifiedTexts [event] = [] →
    held events start w → held (events ++ [event]) start (w.log event)
  pauses : ∀ q events start w, held events start w → C.pause q start w
  resumes : ∀ q events start w answer w', held events start w → C.rely q w answer w' →
    held events w' w'

variable {held : List (Event A) → World A Γ → World A Γ → Prop}

theorem wp_classifySql (sql : String)
    {post : Classification → World A Γ → World A Γ → Prop} :
    Proc.wp C (classifySql tools opts sql) post fail start w =
      post (classify tools.glot sql opts.dialect) start
        (w.log (.classified sql (classify tools.glot sql opts.dialect))) := rfl

theorem wp_estimate (carried : Carried C held) {classification : Classification}
    {database : String} {events : List (Event A)}
    {post : Option Int × Option String → World A Γ → World A Γ → Prop}
    (holds : held events start w)
    (finish : ∀ result start w, held events start w → post result start w) :
    Proc.wp C (estimate classification database) post fail start w := by
  unfold estimate
  cases classification.previewQuery with
  | none => exact finish _ _ _ holds
  | some query =>
      by_cases empty : query = ""
      · simp only [empty, if_true]
        exact finish _ _ _ holds
      · simp only [empty, if_false, Proc.wp_bind]
        apply wp_request _ (carried.pauses _ _ _ _ holds)
        intro result w' relied
        have later := carried.resumes _ _ _ _ _ _ holds relied
        cases result with
        | ok rows => exact finish _ _ _ later
        | error exception => exact finish _ _ _ later

theorem wp_writeAuditEvent (carried : Carried C held) {sql protocol : String}
    {classification : Classification} {decision : PolicyDecision}
    {finalDecision : FinalDecision} {estimatedRows : Option Int} {estimateError : Option String}
    {approximate : Bool} {database : String} {events : List (Event A)}
    {post : Unit → World A Γ → World A Γ → Prop}
    (holds : held events start w)
    (finish : ∀ added start w, held (events ++ added) start w →
      (if opts.auditing then
        ∃ event, added = [.audited event] ∧ event.finalDecision = finalDecision
      else added = []) → post () start w) :
    Proc.wp C (writeAuditEvent tools opts sql protocol classification decision finalDecision
      estimatedRows estimateError approximate database) post fail start w := by
  unfold writeAuditEvent
  cases auditing : opts.auditing with
  | false =>
      simp only [Bool.false_eq_true, if_false]
      exact finish [] _ _ (by simpa using holds) (by simp [auditing])
  | true =>
      simp only [if_true, logAudit, Proc.wp_bind, wp_record]
      have logged := carried.records _ _ _ (.audited (buildAuditEvent tools sql protocol
        classification decision finalDecision estimatedRows estimateError approximate database))
        trivial rfl holds
      apply wp_request _ (carried.pauses _ _ _ _ logged)
      intro answer w' relied
      exact finish _ _ _ (carried.resumes _ _ _ _ _ _ logged relied)
        (by simp only [auditing, if_true]; exact ⟨_, rfl, rfl⟩)

theorem wp_confirm (carried : Carried C held) {context : QueryContext}
    {events : List (Event A)} {post : Bool → World A Γ → World A Γ → Prop}
    (holds : held events start w)
    (finish : ∀ approved start w,
      held (events ++ [.confirmed context (.ok approved)]) start w → post approved start w)
    (raises : ∀ exception start w,
      held (events ++ [.confirmed context (.error exception)]) start w →
        fail (.failure exception) start w) :
    Proc.wp C (confirm context) post fail start w := by
  unfold confirm
  simp only [Proc.wp_bind, wp_record]
  apply wp_request _ (carried.pauses _ _ _ _ holds)
  intro answer w' relied
  have noted := carried.records _ _ _ (.confirmed context answer) trivial rfl
    (carried.resumes _ _ _ _ _ _ holds relied)
  cases answer with
  | ok approved => exact finish approved _ _ noted
  | error exception => exact raises exception _ _ noted

/-- The confirmation provider raised instead of answering. -/
def ConfirmRaised (events : List (Event A)) : Prop :=
  ∃ context exception, Event.confirmed context (.error exception) ∈ events

/-- What carrying out a decision adds to the trace after the decision itself. -/
structure Settled (decision : PolicyDecision) (outcome : Bool × FinalDecision)
    (added : List (Event A)) : Prop where
  approves : Approves decision outcome.1 (.decided decision :: added)
  agrees : outcome.2.forwards = outcome.1
  unaudited : audits added = []
  unclassified : classifiedTexts added = []
  decisions : ∀ event ∈ added, event.IsDecision

theorem wp_settle (carried : Carried C held) {decision : PolicyDecision}
    {context : QueryContext} {events : List (Event A)}
    {post : Bool × FinalDecision → World A Γ → World A Γ → Prop}
    (holds : held events start w)
    (finish : ∀ outcome added start w, held (events ++ added) start w →
      Settled decision outcome added → post outcome start w)
    (raises : ∀ exception added start w, held (events ++ added) start w →
      ConfirmRaised added → fail (.failure exception) start w) :
    Proc.wp C (settle decision context) post fail start w := by
  unfold settle
  cases action : decision.action with
  | allow =>
      exact finish _ [] _ _ (by simpa using holds)
        ⟨fun _ => ⟨by simp, .inl action⟩, rfl, rfl, rfl, by simp⟩
  | block =>
      exact finish _ [] _ _ (by simpa using holds)
        ⟨(by rintro ⟨⟩), rfl, rfl, rfl, by simp⟩
  | confirm =>
      simp only [Proc.wp_bind, Proc.wp_pure]
      refine wp_confirm carried holds ?_ ?_
      · intro approved start w later
        refine finish _ _ _ _ later ⟨?_, ?_, rfl, rfl, ?_⟩
        · rintro rfl
          exact ⟨by simp, .inr ⟨action, context, by simp⟩⟩
        · cases approved <;> rfl
        · intro event inside
          rw [List.mem_singleton.mp inside]
          trivial
      · intro exception start w later
        exact raises _ _ _ _ later ⟨context, exception, List.mem_singleton.mpr rfl⟩

theorem Settled.verdict {decision : PolicyDecision} {outcome : Bool × FinalDecision}
    {added audit : List (Event A)} (settled : Settled decision outcome added)
    (audited : if opts.auditing then
        ∃ event, audit = [.audited event] ∧ event.finalDecision = outcome.2
      else audit = []) :
    Verdict opts decision outcome.1 (.decided decision :: (added ++ audit)) := by
  refine ⟨?_, ?_, ?_, ?_⟩
  · intro yes
    obtain ⟨inside, action⟩ := settled.approves yes
    refine ⟨List.mem_cons_self, action.imp id ?_⟩
    rintro ⟨confirmed, context, present⟩
    refine ⟨confirmed, context, ?_⟩
    rw [← List.cons_append]
    exact List.mem_append_left _ present
  · unfold AuditedOnce
    cases auditing : opts.auditing with
    | false =>
        simp only [auditing, Bool.false_eq_true, if_false] at audited ⊢
        simp [audits, settled.unaudited, audited]
    | true =>
        simp only [auditing, if_true] at audited ⊢
        obtain ⟨event, rfl, isFinal⟩ := audited
        exact ⟨event, by simp [audits, settled.unaudited], by rw [isFinal, settled.agrees]⟩
  · intro event inside
    rcases List.mem_cons.mp inside with rfl | later
    · trivial
    rcases List.mem_append.mp later with noted | logged
    · exact settled.decisions event noted
    · cases auditing : opts.auditing with
      | false => simp_all
      | true =>
          simp only [auditing, if_true] at audited
          obtain ⟨auditEvent, rfl, -⟩ := audited
          rw [List.mem_singleton.mp logged]
          trivial
  · have unclassified : classifiedTexts audit = [] := by
      cases auditing : opts.auditing with
      | false =>
          simp only [auditing, Bool.false_eq_true, if_false] at audited
          rw [audited]
          rfl
      | true =>
          simp only [auditing, if_true] at audited
          obtain ⟨auditEvent, rfl, -⟩ := audited
          rfl
    simp [classifiedTexts, settled.unclassified, unclassified]

/-- The decision path returns a verdict and carries the caller's condition to its end. -/
theorem wp_evaluateAndDecide (carried : Carried C held) {sql protocol : String}
    {classification : Classification} {estimatedRows : Option Int}
    {estimateError : Option String} {approximate : Bool} {database : String}
    {events : List (Event A)}
    {post : Bool × PolicyDecision → World A Γ → World A Γ → Prop}
    (holds : held events start w)
    (finish : ∀ decision approved added start w, held (events ++ added) start w →
      decision = evaluatePolicy classification estimatedRows estimateError opts.policyConfig →
      Verdict opts decision approved added → post (approved, decision) start w)
    (raises : ∀ exception added start w, held (events ++ added) start w →
      ConfirmRaised added → fail (.failure exception) start w) :
    Proc.wp C (evaluateAndDecide tools opts sql protocol classification estimatedRows
      estimateError approximate database) post fail start w := by
  unfold evaluateAndDecide
  simp only [Proc.wp_bind, Proc.wp_pure, wp_record]
  have logged := carried.records _ _ _ (.decided
    (evaluatePolicy classification estimatedRows estimateError opts.policyConfig)) trivial rfl
    holds
  refine wp_settle carried logged ?_ ?_
  · intro outcome added start w later settled
    refine wp_writeAuditEvent carried later ?_
    intro audit start w finally_held audited
    exact finish _ _ (.decided _ :: (added ++ audit)) _ _ (by simpa using finally_held) rfl
      (settled.verdict audited)
  · intro exception added start w later raised
    obtain ⟨context, raisedWith, inside⟩ := raised
    exact raises _ (.decided _ :: added) _ _ (by simpa using later)
      ⟨context, raisedWith, List.mem_cons_of_mem _ inside⟩

end Rules

/-! ## A small setting -/

/-- A parser library that knows one `DELETE` and reads every other text as a `SELECT`. -/
def plainTools : Tools where
  glot :=
    { parse := fun sql _ =>
        if sql = "DELETE FROM users" then
          .ok [some (Expression.build .delete [(.this, Expression.build .table [])])]
        else .ok [some (Expression.build .select
          [(.expressions, Expression.build (.other "Literal") [])])]
      sql := fun _ _ => "SELECT COUNT(*) FROM users"
      upper := upperAscii }
  sanitizeSql sql _ := sql
  digit char := if char.isDigit then some (char.toNat - '0'.toNat) else none
  floatRepr _ _ := "0.0"

def strictOptions : ProxyOptions where
  dialect := "postgres"
  policyConfig := {}
  auditing := true
  failSafeMode := .strict

/-- Every write drains, three rows are estimated, and the user answers as given. -/
def userAnswers (approved : Bool) : (q : Request) → q.Answer
  | .drain => true
  | .estimate _ _ => .ok 3
  | .confirm _ => .ok approved
  | .auditLog _ => true
  | .prepareEvent => ()

end SqlSafetyProxy.Runtime
