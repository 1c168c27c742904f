import Mathlib.Logic.Relation

/-!
# Cooperative tasks

A task is a computation over a shared state that runs without interruption
between suspension points.  At a suspension point it issues a request and is
resumed later with an answer, after other parties may have changed the shared
state.  `advance` runs one uninterrupted segment, `Exec` runs a whole call
against an environment, and `wp` is the weakest precondition of a call whose
environment is only known through a rely condition.
-/

namespace SqlSafetyProxy.Coroutine

/-- The requests a task may suspend on, with the type of their answers. -/
structure Interface where
  Request : Type
  Answer : Request → Type

/-- A computation over the shared state `σ` that returns `α` or raises `ε`. -/
inductive Proc (I : Interface) (σ ε α : Type) : Type where
  | done (value : α)
  | raised (error : ε)
  | read (next : σ → Proc I σ ε α)
  | modify (change : σ → σ) (next : Proc I σ ε α)
  | await (request : I.Request) (next : I.Answer request → Proc I σ ε α)

namespace Proc

variable {I : Interface} {σ ε α β : Type}

protected def bind : Proc I σ ε α → (α → Proc I σ ε β) → Proc I σ ε β
  | .done value, rest => rest value
  | .raised error, _ => .raised error
  | .read next, rest => .read fun s => (next s).bind rest
  | .modify change next, rest => .modify change (next.bind rest)
  | .await request next, rest => .await request fun answer => (next answer).bind rest

instance : Monad (Proc I σ ε) where
  pure := .done
  bind := Proc.bind

/-- Read the shared state. -/
def get : Proc I σ ε σ := .read .done

/-- Change the shared state. -/
def update (change : σ → σ) : Proc I σ ε Unit := .modify change (.done ())

/-- Suspend on a request and return its answer. -/
def ask (request : I.Request) : Proc I σ ε (I.Answer request) := .await request .done

/-- Run `body`, handing an exception it raises to `handler`. -/
def handle : Proc I σ ε α → (ε → Proc I σ ε α) → Proc I σ ε α
  | .done value, _ => .done value
  | .raised error, handler => handler error
  | .read next, handler => .read fun s => (next s).handle handler
  | .modify change next, handler => .modify change (next.handle handler)
  | .await request next, handler => .await request fun answer => (next answer).handle handler

/-- Lift a fallible pure computation. -/
def ofExcept : Except ε α → Proc I σ ε α
  | .ok value => .done value
  | .error error => .raised error

/-- Run one uninterrupted segment: up to the next suspension, return or raise. -/
def advance : Proc I σ ε α → σ → Proc I σ ε α × σ
  | .done value, s => (.done value, s)
  | .raised error, s => (.raised error, s)
  | .read next, s => (next s).advance s
  | .modify change next, s => next.advance (change s)
  | .await request next, s => (.await request next, s)

/-- The segment does not reach the end of the task. -/
def Unreturned (task : Proc I σ ε α) (s : σ) : Prop := ∀ value s', task.advance s ≠ (.done value, s')

/-- A sequence is in its first part as long as that has not returned. -/
theorem Unreturned.bind {task : Proc I σ ε α} {s : σ} (unreturned : task.Unreturned s)
    (rest : α → Proc I σ ε β) :
    (task >>= rest).Unreturned s ∧ ((task >>= rest).advance s).2 = (task.advance s).2 := by
  change (task.bind rest).Unreturned s ∧ ((task.bind rest).advance s).2 = _
  induction task generalizing s with
  | done value => exact absurd rfl (unreturned value s)
  | raised error => exact ⟨by rintro value s' ⟨⟩, rfl⟩
  | read next ih => exact ih s unreturned
  | modify change next ih => exact ih unreturned
  | await request next => exact ⟨by rintro value s' ⟨⟩, rfl⟩

/-! ## Whole calls against an environment -/

/-- How a call stands: returned, raised, or suspended at one of its requests. -/
inductive Outcome (ε α : Type) where
  | returned (value : α)
  | raised (error : ε)
  | suspended
  deriving DecidableEq, Repr

/--
`Exec env task s outcome s'`: the call started in `s` stands at `outcome` with
the shared state `s'`.  At every suspension the environment may replace the
state and chooses the answer.
-/
inductive Exec (env : (request : I.Request) → σ → I.Answer request → σ → Prop) :
    Proc I σ ε α → σ → Outcome ε α → σ → Prop where
  | done {value : α} {s : σ} : Exec env (.done value) s (.returned value) s
  | raised {error : ε} {s : σ} : Exec env (.raised error) s (.raised error) s
  | read {next : σ → Proc I σ ε α} {s s' : σ} {outcome : Outcome ε α} :
      Exec env (next s) s outcome s' → Exec env (.read next) s outcome s'
  | modify {change : σ → σ} {next : Proc I σ ε α} {s s' : σ} {outcome : Outcome ε α} :
      Exec env next (change s) outcome s' → Exec env (.modify change next) s outcome s'
  | suspended {request : I.Request} {next : I.Answer request → Proc I σ ε α} {s : σ} :
      Exec env (.await request next) s .suspended s
  | resumed {request : I.Request} {next : I.Answer request → Proc I σ ε α}
      {s middle s' : σ} {answer : I.Answer request} {outcome : Outcome ε α} :
      env request s answer middle → Exec env (next answer) middle outcome s' →
      Exec env (.await request next) s outcome s'

/-- A sequence goes on from where its first part returned. -/
theorem exec_bind {env : (request : I.Request) → σ → I.Answer request → σ → Prop}
    {task : Proc I σ ε α} {rest : α → Proc I σ ε β} {s middle s' : σ} {value : α}
    {outcome : Outcome ε β} (first : Exec env task s (.returned value) middle)
    (later : Exec env (rest value) middle outcome s') : Exec env (task >>= rest) s outcome s' := by
  generalize stands : Outcome.returned value = first_ at first
  induction first with
  | done =>
      cases stands
      exact later
  | raised => cases stands
  | read _ ih => exact .read (ih later stands)
  | modify _ ih => exact .modify (ih later stands)
  | suspended => cases stands
  | resumed answered _ ih => exact .resumed answered (ih later stands)

/-- A body that is suspended leaves its handler where it is. -/
theorem exec_handle {env : (request : I.Request) → σ → I.Answer request → σ → Prop}
    {task : Proc I σ ε α} {handler : ε → Proc I σ ε α} {s s' : σ}
    (body : Exec env task s .suspended s') : Exec env (task.handle handler) s .suspended s' := by
  generalize stands : Outcome.suspended = outcome at body
  induction body with
  | done => cases stands
  | raised => cases stands
  | read _ ih => exact .read (ih stands)
  | modify _ ih => exact .modify (ih stands)
  | suspended => exact .suspended
  | resumed answered _ ih => exact .resumed answered (ih stands)

/--
An executable environment: the state after each suspension and the answer are
a function of the request and the state before it.
-/
def run (oracle : (request : I.Request) → σ → I.Answer request × σ) :
    Proc I σ ε α → σ → Except ε α × σ
  | .done value, s => (.ok value, s)
  | .raised error, s => (.error error, s)
  | .read next, s => (next s).run oracle s
  | .modify change next, s => next.run oracle (change s)
  | .await request next, s =>
      (next (oracle request s).1).run oracle (oracle request s).2

/-- A sequence runs its second part from where the first one returned. -/
theorem run_bind (oracle : (request : I.Request) → σ → I.Answer request × σ)
    (task : Proc I σ ε α) (rest : α → Proc I σ ε β) (s : σ) :
    (task >>= rest).run oracle s =
      match task.run oracle s with
      | (.ok value, s') => (rest value).run oracle s'
      | (.error error, s') => (.error error, s') := by
  change (task.bind rest).run oracle s = _
  induction task generalizing s with
  | done value => rfl
  | raised error => rfl
  | read next ih => exact ih s s
  | modify change next ih => exact ih (change s)
  | await request next ih => exact ih _ _

/-- A handler runs from where the body raised. -/
theorem run_handle (oracle : (request : I.Request) → σ → I.Answer request × σ)
    (task : Proc I σ ε α) (handler : ε → Proc I σ ε α) (s : σ) :
    (task.handle handler).run oracle s =
      match task.run oracle s with
      | (.ok value, s') => (.ok value, s')
      | (.error error, s') => (handler error).run oracle s' := by
  induction task generalizing s with
  | done value => rfl
  | raised error => rfl
  | read next ih => exact ih s s
  | modify change next ih => exact ih (change s)
  | await request next ih => exact ih _ _

/-- What a completed run amounts to. -/
def Outcome.ofExcept : Except ε α → Outcome ε α
  | .ok value => .returned value
  | .error error => .raised error

/-- Whether every request of a run is an admitted one. -/
def asksOnly (admitted : I.Request → Bool)
    (oracle : (request : I.Request) → σ → I.Answer request × σ) : Proc I σ ε α → σ → Bool
  | .done _, _ => true
  | .raised _, _ => true
  | .read next, s => (next s).asksOnly admitted oracle s
  | .modify change next, s => next.asksOnly admitted oracle (change s)
  | .await request next, s =>
      admitted request && (next (oracle request s).1).asksOnly admitted oracle (oracle request s).2

theorem asksOnly_any (oracle : (request : I.Request) → σ → I.Answer request × σ)
    (task : Proc I σ ε α) (s : σ) : task.asksOnly (fun _ => true) oracle s = true := by
  induction task generalizing s with
  | done value => rfl
  | raised error => rfl
  | read next ih => exact ih s s
  | modify change next ih => exact ih (change s)
  | await request next ih => exact ih _ _

/-- A run is an execution in an environment that may answer its requests as the oracle does. -/
theorem exec_run {env : (request : I.Request) → σ → I.Answer request → σ → Prop}
    {admitted : I.Request → Bool} {oracle : (request : I.Request) → σ → I.Answer request × σ}
    (allowed : ∀ request s, admitted request = true →
      env request s (oracle request s).1 (oracle request s).2)
    (task : Proc I σ ε α) {s : σ} (asked : task.asksOnly admitted oracle s = true) :
    Exec env task s (Outcome.ofExcept (task.run oracle s).1) (task.run oracle s).2 := by
  induction task generalizing s with
  | done value => exact .done
  | raised error => exact .raised
  | read next ih => exact .read (ih s asked)
  | modify change next ih => exact .modify (ih asked)
  | await request next ih =>
      obtain ⟨isAdmitted, later⟩ := Bool.and_eq_true_iff.mp asked
      exact .resumed (allowed request s isAdmitted) (ih _ later)

/-! ## Weakest preconditions -/

/--
The obligations of a call at its suspension points: `pause` must hold of the
state at the start of the segment and the state at the suspension, and `rely`
is all that is known of the answer and of the state after it.
-/
structure Contract (I : Interface) (σ : Type) where
  pause : I.Request → σ → σ → Prop
  rely : (request : I.Request) → σ → I.Answer request → σ → Prop

/--
Weakest precondition of a call.  `start` is the state at the beginning of the
current segment and `s` the current state; the postconditions see both.
-/
def wp (C : Contract I σ) : Proc I σ ε α → (α → σ → σ → Prop) → (ε → σ → σ → Prop) →
    σ → σ → Prop
  | .done value, post, _, start, s => post value start s
  | .raised error, _, fail, start, s => fail error start s
  | .read next, post, fail, start, s => (next s).wp C post fail start s
  | .modify change next, post, fail, start, s => next.wp C post fail start (change s)
  | .await request next, post, fail, start, s =>
      C.pause request start s ∧
        ∀ answer s', C.rely request s answer s' → (next answer).wp C post fail s' s'

section Rules

variable {C : Contract I σ} {post : α → σ → σ → Prop} {fail : ε → σ → σ → Prop} {start s : σ}

@[simp] theorem wp_pure (value : α) :
    wp C (pure value : Proc I σ ε α) post fail start s = post value start s := rfl

@[simp] theorem wp_done (value : α) :
    wp C (.done value : Proc I σ ε α) post fail start s = post value start s := rfl

@[simp] theorem wp_raised (error : ε) :
    wp C (.raised error : Proc I σ ε α) post fail start s = fail error start s := rfl

@[simp] theorem wp_get {post : σ → σ → σ → Prop} :
    wp C (get : Proc I σ ε σ) post fail start s = post s start s := rfl

@[simp] theorem wp_update {post : Unit → σ → σ → Prop} (change : σ → σ) :
    wp C (update change : Proc I σ ε Unit) post fail start s = post () start (change s) := rfl

@[simp] theorem wp_ask (request : I.Request) {post : I.Answer request → σ → σ → Prop} :
    wp C (ask request : Proc I σ ε (I.Answer request)) post fail start s =
      (C.pause request start s ∧
        ∀ answer s', C.rely request s answer s' → post answer s' s') := rfl

@[simp] theorem wp_ofExcept_ok (value : α) :
    wp C (ofExcept (.ok value) : Proc I σ ε α) post fail start s = post value start s := rfl

@[simp] theorem wp_ofExcept_error (error : ε) :
    wp C (ofExcept (.error error) : Proc I σ ε α) post fail start s = fail error start s := rfl

theorem wp_ofExcept {result : Except ε α} (finish : ∀ value, result = .ok value → post value start s)
    (raises : ∀ error, result = .error error → fail error start s) :
    wp C (ofExcept result : Proc I σ ε α) post fail start s := by
  cases result with
  | ok value => exact finish value rfl
  | error error => exact raises error rfl

@[simp] theorem wp_bind (task : Proc I σ ε α) (rest : α → Proc I σ ε β)
    {post : β → σ → σ → Prop} :
    wp C (task >>= rest) post fail start s =
      wp C task (fun value start s => wp C (rest value) post fail start s) fail start s := by
  change wp C (task.bind rest) post fail start s = _
  induction task generalizing start s with
  | done value => rfl
  | raised error => rfl
  | read next ih => exact ih s
  | modify change next ih => exact ih
  | await request next ih =>
      simp only [Proc.bind, wp]
      congr 1
      exact forall_congr fun answer => forall_congr fun s' =>
        forall_congr fun _ => ih answer

@[simp] theorem wp_handle (task : Proc I σ ε α) (handler : ε → Proc I σ ε α) :
    wp C (task.handle handler) post fail start s =
      wp C task post (fun error start s => wp C (handler error) post fail start s) start s := by
  induction task generalizing start s with
  | done value => rfl
  | raised error => rfl
  | read next ih => exact ih s
  | modify change next ih => exact ih
  | await request next ih =>
      simp only [Proc.handle, wp]
      congr 1
      exact forall_congr fun answer => forall_congr fun s' =>
        forall_congr fun _ => ih answer

end Rules

/-- The rule of consequence. -/
theorem wp_mono {C : Contract I σ} {task : Proc I σ ε α}
    {post post' : α → σ → σ → Prop} {fail fail' : ε → σ → σ → Prop} {start s : σ}
    (holds : wp C task post fail start s)
    (onReturn : ∀ value start s, post value start s → post' value start s)
    (onRaise : ∀ error start s, fail error start s → fail' error start s) :
    wp C task post' fail' start s := by
  induction task generalizing start s with
  | done value => exact onReturn _ _ _ holds
  | raised error => exact onRaise _ _ _ holds
  | read next ih => exact ih s holds
  | modify change next ih => exact ih holds
  | await request next ih =>
      exact ⟨holds.1, fun answer s' allowed => ih answer (holds.2 answer s' allowed)⟩

/-- Two facts about one call, of which only the first answers for the suspensions. -/
theorem wp_and {C : Contract I σ} {task : Proc I σ ε α} {post post' : α → σ → σ → Prop}
    {fail fail' : ε → σ → σ → Prop} {start s : σ} (first : wp C task post fail start s)
    (second : wp ⟨fun _ _ _ => True, C.rely⟩ task post' fail' start s) :
    wp C task (fun value start s => post value start s ∧ post' value start s)
      (fun error start s => fail error start s ∧ fail' error start s) start s := by
  induction task generalizing start s with
  | done value => exact ⟨first, second⟩
  | raised error => exact ⟨first, second⟩
  | read next ih => exact ih s first second
  | modify change next ih => exact ih first second
  | await request next ih =>
      exact ⟨first.1, fun answer s' allowed =>
        ih answer (first.2 answer s' allowed) (second.2 answer s' allowed)⟩

/-- What a weakest precondition says of a call standing at an outcome in the state `s`. -/
def Outcome.Meets (C : Contract I σ) (post : α → σ → σ → Prop) (fail : ε → σ → σ → Prop)
    (s : σ) : Outcome ε α → Prop
  | .returned value => ∃ start, post value start s
  | .raised error => ∃ start, fail error start s
  | .suspended => ∃ request start, C.pause request start s

/-- A weakest precondition holds of every execution in an environment it relies on. -/
theorem wp_sound {C : Contract I σ} {task : Proc I σ ε α}
    {env : (request : I.Request) → σ → I.Answer request → σ → Prop}
    (relied : ∀ request s answer s', env request s answer s' → C.rely request s answer s')
    {post : α → σ → σ → Prop} {fail : ε → σ → σ → Prop} {start s s' : σ} {outcome : Outcome ε α}
    (holds : wp C task post fail start s) (execution : Exec env task s outcome s') :
    outcome.Meets C post fail s' := by
  induction execution generalizing start with
  | done => exact ⟨start, holds⟩
  | raised => exact ⟨start, holds⟩
  | read _ ih => exact ih holds
  | modify _ ih => exact ih holds
  | suspended => exact ⟨_, start, holds.1⟩
  | resumed allowed _ ih => exact ih (holds.2 _ _ (relied _ _ _ _ allowed))

/-- One segment of a call either ends it or leaves it suspended with the rest still in order. -/
theorem wp_advance {C : Contract I σ} {task : Proc I σ ε α}
    {post : α → σ → σ → Prop} {fail : ε → σ → σ → Prop} {start s : σ}
    (holds : wp C task post fail start s) :
    match task.advance s with
    | (.done value, s') => post value start s'
    | (.raised error, s') => fail error start s'
    | (.await request next, s') =>
        C.pause request start s' ∧
          ∀ answer s'', C.rely request s' answer s'' → (next answer).wp C post fail s'' s''
    | _ => False := by
  induction task generalizing s with
  | done value => exact holds
  | raised error => exact holds
  | read next ih => exact ih s holds
  | modify change next ih => exact ih holds
  | await request next ih => exact holds

/-! ## Conditions that a task keeps throughout -/

/-- A task that keeps a condition on the shared state up to its end, however it ends. -/
def Keeps (C : Contract I σ) (condition : σ → Prop) (task : Proc I σ ε α) : Prop :=
  ∀ start s, condition s →
    wp C task (fun _ _ s => condition s) (fun _ _ s => condition s) start s

/-- The condition is what is promised and relied on at every suspension. -/
structure Guards (C : Contract I σ) (condition : σ → Prop) : Prop where
  pauses : ∀ request start s, condition s → C.pause request start s
  resumes : ∀ request s answer s', condition s → C.rely request s answer s' → condition s'

section Keeps

variable {C : Contract I σ} {condition : σ → Prop}

theorem keeps_pure (value : α) : Keeps C condition (pure value : Proc I σ ε α) :=
  fun _ _ holds => holds

theorem keeps_raised (error : ε) : Keeps C condition (.raised error : Proc I σ ε α) :=
  fun _ _ holds => holds

theorem keeps_get : Keeps C condition (get : Proc I σ ε σ) := fun _ _ holds => holds

theorem keeps_update {change : σ → σ} (kept : ∀ s, condition s → condition (change s)) :
    Keeps C condition (update change : Proc I σ ε Unit) := fun _ s holds => kept s holds

theorem keeps_ask (guards : Guards C condition) (request : I.Request) :
    Keeps C condition (ask request : Proc I σ ε (I.Answer request)) :=
  fun start s holds => ⟨guards.pauses request start s holds,
    fun answer s' relied => guards.resumes request s answer s' holds relied⟩

theorem keeps_ofExcept (result : Except ε α) :
    Keeps C condition (ofExcept result : Proc I σ ε α) := by
  intro start s holds
  cases result with
  | ok value => exact holds
  | error error => exact holds

theorem keeps_bind {task : Proc I σ ε α} {rest : α → Proc I σ ε β}
    (first : Keeps C condition task) (later : ∀ value, Keeps C condition (rest value)) :
    Keeps C condition (task >>= rest) := by
  intro start s holds
  rw [wp_bind]
  refine wp_mono (first start s holds) ?_ ?_
  · intro value start s kept
    exact later value start s kept
  · intro error start s kept
    exact kept

theorem keeps_handle {task : Proc I σ ε α} {handler : ε → Proc I σ ε α}
    (body : Keeps C condition task) (handled : ∀ error, Keeps C condition (handler error)) :
    Keeps C condition (task.handle handler) := by
  intro start s holds
  rw [wp_handle]
  refine wp_mono (body start s holds) ?_ ?_
  · intro value start s kept
    exact kept
  · intro error start s kept
    exact handled error start s kept

end Keeps

/-! ## Relations that a task maintains throughout -/

/-- In every segment, the state the task has come to is related to where the segment began. -/
def Maintains (C : Contract I σ) (related : σ → σ → Prop) (task : Proc I σ ε α) : Prop :=
  ∀ start s, related start s →
    wp C task (fun _ start s => related start s) (fun _ start s => related start s) start s

/-- The relation is what is promised at a suspension, and it holds at the start of a segment. -/
structure Renews (C : Contract I σ) (related : σ → σ → Prop) : Prop where
  pauses : ∀ request start s, related start s → C.pause request start s
  resumes : ∀ request start s answer s', related start s → C.rely request s answer s' →
    related s' s'

section Maintains

variable {C : Contract I σ} {related : σ → σ → Prop}

theorem maintains_pure (value : α) : Maintains C related (pure value : Proc I σ ε α) :=
  fun _ _ holds => holds

theorem maintains_raised (error : ε) : Maintains C related (.raised error : Proc I σ ε α) :=
  fun _ _ holds => holds

theorem maintains_get : Maintains C related (get : Proc I σ ε σ) := fun _ _ holds => holds

theorem maintains_update {change : σ → σ}
    (kept : ∀ start s, related start s → related start (change s)) :
    Maintains C related (update change : Proc I σ ε Unit) :=
  fun start s holds => kept start s holds

theorem maintains_ask (renews : Renews C related) (request : I.Request) :
    Maintains C related (ask request : Proc I σ ε (I.Answer request)) :=
  fun start s holds => ⟨renews.pauses request start s holds,
    fun answer s' relied => renews.resumes request start s answer s' holds relied⟩

theorem maintains_ofExcept (result : Except ε α) :
    Maintains C related (ofExcept result : Proc I σ ε α) := by
  intro start s holds
  cases result with
  | ok value => exact holds
  | error error => exact holds

theorem maintains_bind {task : Proc I σ ε α} {rest : α → Proc I σ ε β}
    (first : Maintains C related task) (later : ∀ value, Maintains C related (rest value)) :
    Maintains C related (task >>= rest) := by
  intro start s holds
  rw [wp_bind]
  refine wp_mono (first start s holds) ?_ ?_
  · intro value start s kept
    exact later value start s kept
  · intro error start s kept
    exact kept

end Maintains

end Proc

end SqlSafetyProxy.Coroutine
