import SqlSafetyProxy.Runtime.Decision

/-!
# What a handler records

A condition on every event that a handler records is kept step by step: each
function of the decision path records few kinds of events, and the surroundings
of a handler record none.
-/

namespace SqlSafetyProxy.Runtime

open SqlSafetyProxy.Sql SqlSafetyProxy.Policy SqlSafetyProxy.Coroutine Proc

variable {A : Adapter} {Γ : Type}

/-- Everything recorded since `base` is fine. -/
def Traced (base : List (Event A)) (fine : Event A → Prop) (w : World A Γ) : Prop :=
  ∃ events, w.trace = base ++ events ∧ ∀ event ∈ events, fine event

/-- Events that neither decide nor write. -/
structure Tolerant (fine : Event A → Prop) : Prop where
  classified : ∀ sql classification, fine (.classified sql classification)
  confirmed : ∀ context answer, fine (.confirmed context answer)
  audited : ∀ event, fine (.audited event)
  noted : ∀ note, fine (.noted note)

/-- The surroundings of a dispatch do not record on its behalf. -/
def LeavesTrace (env : (q : Request) → World A Γ → q.Answer → World A Γ → Prop) : Prop :=
  ∀ q w answer w', env q w answer w' → w'.trace = w.trace

/-- A dispatch that keeps a condition at every suspension in the given surroundings. -/
def keeping (condition : World A Γ → Prop)
    (env : (q : Request) → World A Γ → q.Answer → World A Γ → Prop) :
    Proc.Contract awaits (World A Γ) where
  pause _ _ w := condition w
  rely q w answer w' := env q w answer w'

/-- Nothing is allowed by the policy alone. -/
def Unallowed (event : Event A) : Prop :=
  ∀ decision, event = .decided decision → decision.action ≠ .allow

theorem tolerant_unallowed : Tolerant (@Unallowed A) where
  classified := by rintro _ _ _ ⟨⟩
  confirmed := by rintro _ _ _ ⟨⟩
  audited := by rintro _ _ ⟨⟩
  noted := by rintro _ _ ⟨⟩

/-- Nothing is written to the backend. -/
def Unwritten (event : Event A) : Prop := ∀ source raw, event ≠ .forwarded source raw

theorem tolerant_unwritten : Tolerant (@Unwritten A) where
  classified := by rintro _ _ _ _ ⟨⟩
  confirmed := by rintro _ _ _ _ ⟨⟩
  audited := by rintro _ _ _ ⟨⟩
  noted := by rintro _ _ _ ⟨⟩

/-! ## Steps of any condition -/

section Steps

variable {C : Proc.Contract awaits (World A Γ)} {condition : World A Γ → Prop}

theorem keeps_session : Keeps C condition (session : Handler A Γ A.Session) :=
  keeps_bind keeps_get fun _ => keeps_pure _

theorem keeps_drain (guards : Guards C condition) :
    Keeps C condition (drain : Handler A Γ Unit) := by
  refine keeps_bind (keeps_ask guards _) ?_
  intro completed
  cases completed with
  | true => exact keeps_pure ()
  | false => exact keeps_raised _

theorem keeps_attempt {α : Type} {body : Handler A Γ α} (kept : Keeps C condition body) :
    Keeps C condition (attempt body) := by
  refine keeps_handle (keeps_bind kept fun _ => keeps_pure _) ?_
  intro error
  cases error with
  | protocol reason => exact keeps_pure _
  | connectionLost => exact keeps_raised _
  | failure exception => exact keeps_raised _

theorem keeps_onRaise {α : Type} {body : Handler A Γ α} {cleanup : Handler A Γ Unit}
    (kept : Keeps C condition body) (cleaned : Keeps C condition cleanup) :
    Keeps C condition (onRaise body cleanup) :=
  keeps_handle kept fun _ => keeps_bind cleaned fun _ => keeps_raised _

/-- However a call stands, what it keeps holds. -/
theorem keeping_sound {α : Type}
    {env : (q : Request) → World A Γ → q.Answer → World A Γ → Prop} {task : Handler A Γ α}
    {outcome : Proc.Outcome Exn α} {w w' : World A Γ}
    (kept : Proc.wp (keeping condition env) task (fun _ _ w => condition w)
      (fun _ _ w => condition w) w w)
    (execution : Proc.Exec env task w outcome w') : condition w' := by
  have meets := Proc.wp_sound (fun _ _ _ _ moved => moved) kept execution
  cases outcome with
  | returned value =>
      obtain ⟨_, holds⟩ := meets
      exact holds
  | raised error =>
      obtain ⟨_, holds⟩ := meets
      exact holds
  | suspended =>
      obtain ⟨_, _, holds⟩ := meets
      exact holds

end Steps

/-! ## The decision path -/

section Traced

variable {base : List (Event A)} {fine : Event A → Prop}
  {C : Proc.Contract awaits (World A Γ)} {tools : Tools} {opts : ProxyOptions}
  {env : (q : Request) → World A Γ → q.Answer → World A Γ → Prop}

theorem traced_self (fine : Event A → Prop) (w : World A Γ) : Traced w.trace fine w :=
  ⟨[], by simp, by simp⟩

theorem guards_traced (kept : LeavesTrace env) :
    Guards (keeping (Traced base fine) env) (Traced base fine) where
  pauses _ _ _ holds := holds
  resumes q w answer w' holds moved := by
    obtain ⟨events, recorded, allFine⟩ := holds
    exact ⟨events, (kept q w answer w' moved).trans recorded, allFine⟩

/-- A recorded event has to be fine. -/
theorem traced_record {event : Event A} (isFine : fine event) :
    Keeps C (Traced base fine) (record event : Handler A Γ Unit) := by
  refine keeps_update ?_
  rintro w ⟨events, recorded, allFine⟩
  refine ⟨events ++ [event], ?_, ?_⟩
  · rw [World.log_trace, recorded, List.append_assoc]
  · intro other inside
    rcases List.mem_append.mp inside with earlier | now
    · exact allFine other earlier
    · rwa [List.mem_singleton.mp now]

theorem traced_writeClient (write : ClientWrite) :
    Keeps C (Traced base fine) (writeClient write : Handler A Γ Unit) :=
  keeps_update fun _ holds => holds

theorem traced_writeAuditEvent (guards : Guards C (Traced base fine)) (tolerant : Tolerant fine)
    (sql protocol : String) (classification : Classification) (decision : PolicyDecision)
    (finalDecision : FinalDecision) (estimatedRows : Option Int) (estimateError : Option String)
    (approximate : Bool) (database : String) :
    Keeps C (Traced base fine) (writeAuditEvent tools opts sql protocol classification decision
      finalDecision estimatedRows estimateError approximate database : Handler A Γ Unit) := by
  unfold writeAuditEvent
  split
  · exact keeps_bind (traced_record (tolerant.audited _)) fun _ =>
      keeps_bind (keeps_ask guards _) fun _ => keeps_pure _
  · exact keeps_pure _

theorem traced_settle (guards : Guards C (Traced base fine)) (tolerant : Tolerant fine)
    (decision : PolicyDecision) (context : QueryContext) :
    Keeps C (Traced base fine) (settle decision context : Handler A Γ _) := by
  unfold settle
  cases decision.action with
  | allow => exact keeps_pure _
  | block => exact keeps_pure _
  | confirm =>
      refine keeps_bind ?_ fun _ => keeps_pure _
      exact keeps_bind (keeps_ask guards _) fun _ =>
        keeps_bind (traced_record (tolerant.confirmed _ _)) fun _ => keeps_ofExcept _

theorem traced_evaluateAndDecide (guards : Guards C (Traced base fine)) (tolerant : Tolerant fine)
    {sql protocol database : String} {classification : Classification}
    {estimatedRows : Option Int} {estimateError : Option String} {approximate : Bool}
    (isFine : fine (.decided (evaluatePolicy classification estimatedRows estimateError
      opts.policyConfig))) :
    Keeps C (Traced base fine) (evaluateAndDecide tools opts sql protocol classification
      estimatedRows estimateError approximate database : Handler A Γ _) :=
  keeps_bind (traced_record isFine) fun _ => keeps_bind (traced_settle guards tolerant _ _) fun _ =>
    keeps_bind (traced_writeAuditEvent guards tolerant _ _ _ _ _ _ _ _ _) fun _ => keeps_pure _

end Traced

end SqlSafetyProxy.Runtime
