import SqlSafetyProxy.Coroutine.Interleaving

/-!
# Tasks within a larger state

A task over a part of a state runs as a task over the whole.  A system whose
tasks do nothing to the part but take the turns of a smaller system, one after
another, is simulated by the smaller one: what holds of the smaller system in
every run holds of the part.
-/

namespace SqlSafetyProxy.Coroutine

variable {I J : Interface} {σ τ ε ι α β γ : Type}

/-- The requests of two interfaces. -/
def Interface.plus (I J : Interface) : Interface where
  Request := I.Request ⊕ J.Request
  Answer := Sum.elim I.Answer J.Answer

/-- A part of a larger state. -/
structure Part (τ σ : Type) where
  get : τ → σ
  set : τ → σ → τ
  get_set : ∀ t s, get (set t s) = s
  set_get : ∀ t, set t (get t) = t
  set_set : ∀ t s s', set (set t s) s' = set t s'

attribute [simp] Part.get_set Part.set_get Part.set_set

namespace Proc

/-- Run a task on a part of the state. -/
def within (part : Part τ σ) : Proc I σ ε α → Proc (I.plus J) τ ε α
  | .done value => .done value
  | .raised error => .raised error
  | .read next => .read fun t => (next (part.get t)).within part
  | .modify change next => .modify (fun t => part.set t (change (part.get t))) (next.within part)
  | .await request next => .await (.inl request) fun answer => (next answer).within part

/-- Go on from the end of a task, however it ends. -/
def proceed : Proc I σ ε α → (Except ε α → Proc I σ ε β) → Proc I σ ε β
  | .done value, after => after (.ok value)
  | .raised error, after => after (.error error)
  | .read next, after => .read fun s => (next s).proceed after
  | .modify change next, after => .modify change (next.proceed after)
  | .await request next, after => .await request fun answer => (next answer).proceed after

/-- Go on after a return only. -/
def onReturn (rest : α → Proc I σ ε β) : Except ε α → Proc I σ ε β
  | .ok value => rest value
  | .error error => .raised error

theorem bind_eq_proceed (task : Proc I σ ε α) (rest : α → Proc I σ ε β) :
    task >>= rest = task.proceed (onReturn rest) := by
  change task.bind rest = _
  induction task with
  | done value => rfl
  | raised error => rfl
  | read next ih => exact congrArg Proc.read (funext ih)
  | modify change next ih => exact congrArg (Proc.modify change) ih
  | await request next ih => exact congrArg (Proc.await request) (funext ih)

theorem proceed_handle (task : Proc I σ ε α) (after : Except ε α → Proc I σ ε β)
    (handler : ε → Proc I σ ε β) :
    (task.proceed after).handle handler =
      task.proceed fun result => (after result).handle handler := by
  induction task with
  | done value => rfl
  | raised error => rfl
  | read next ih => exact congrArg Proc.read (funext ih)
  | modify change next ih => exact congrArg (Proc.modify change) ih
  | await request next ih => exact congrArg (Proc.await request) (funext ih)

/-- To end as the task has ended is to add nothing. -/
theorem proceed_ofExcept (task : Proc I σ ε α) : task.proceed ofExcept = task := by
  induction task with
  | done value => rfl
  | raised error => rfl
  | read next ih => exact congrArg Proc.read (funext ih)
  | modify change next ih => exact congrArg (Proc.modify change) ih
  | await request next ih => exact congrArg (Proc.await request) (funext ih)

/-- A segment changes the part alone, up to the end of the task within it. -/
theorem advance_within {part : Part τ σ} {after : Except ε α → Proc (I.plus J) τ ε β}
    (task : Proc I σ ε α) (t : τ) :
    ((task.within part).proceed after).advance t =
      ((((task.advance (part.get t)).1.within part).proceed after).advance
        (part.set t (task.advance (part.get t)).2)) := by
  induction task generalizing t with
  | done value => simp only [advance, part.set_get]
  | raised error => simp only [advance, part.set_get]
  | read next ih => exact ih (part.get t) t
  | modify change next ih =>
      have later := ih (part.set t (change (part.get t)))
      simp only [part.get_set, part.set_set] at later
      exact later
  | await request next => simp only [advance, part.set_get]

end Proc

open Proc

/-! ## Tasks that take turns -/

/-- A task that leaves the part alone and never returns. -/
inductive Aborts (part : Part τ σ) : Proc (I.plus J) τ ε Unit → Prop
  | raised {error : ε} : Aborts part (.raised error)
  | read {next : τ → Proc (I.plus J) τ ε Unit} :
      (∀ t, Aborts part (next t)) → Aborts part (.read next)
  | modify {change : τ → τ} {next : Proc (I.plus J) τ ε Unit} :
      (∀ t, part.get (change t) = part.get t) → Aborts part next →
      Aborts part (.modify change next)
  | await {request : (I.plus J).Request}
      {next : (I.plus J).Answer request → Proc (I.plus J) τ ε Unit} :
      (∀ answer, Aborts part (next answer)) → Aborts part (.await request next)

/--
A task that does nothing to the part but take turns there; `opens` says with
which changes it may begin a turn.
-/
inductive TakesTurns (part : Part τ σ) (opens : (τ → τ) → Proc I σ ε Unit → Prop) :
    Proc (I.plus J) τ ε Unit → Prop
  | done : TakesTurns part opens (.done ())
  | raised {error : ε} : TakesTurns part opens (.raised error)
  | read {next : τ → Proc (I.plus J) τ ε Unit} :
      (∀ t, TakesTurns part opens (next t)) → TakesTurns part opens (.read next)
  | modify {change : τ → τ} {next : Proc (I.plus J) τ ε Unit} :
      (∀ t, part.get (change t) = part.get t) → TakesTurns part opens next →
      TakesTurns part opens (.modify change next)
  | await {request : (I.plus J).Request}
      {next : (I.plus J).Answer request → Proc (I.plus J) τ ε Unit} :
      (∀ answer, TakesTurns part opens (next answer)) →
      TakesTurns part opens (.await request next)
  | turn {enter : τ → τ} {task : Proc I σ ε Unit}
      {after : Except ε Unit → Proc (I.plus J) τ ε Unit} :
      opens enter task → TakesTurns part opens (after (.ok ())) →
      (∀ error, Aborts part (after (.error error))) →
      TakesTurns part opens (.modify enter ((task.within part).proceed after))

/-- How far the larger system has come where a task of the smaller one stands. -/
inductive Accompanies (part : Part τ σ) (opens : (τ → τ) → Proc I σ ε Unit → Prop) :
    Proc (I.plus J) τ ε Unit → Proc I σ ε Unit → Prop
  | between {task : Proc (I.plus J) τ ε Unit} :
      TakesTurns part opens task → Accompanies part opens task (.done ())
  | during {request : I.Request} {next : I.Answer request → Proc I σ ε Unit}
      {after : Except ε Unit → Proc (I.plus J) τ ε Unit} :
      TakesTurns part opens (after (.ok ())) → (∀ error, Aborts part (after (.error error))) →
      Accompanies part opens (((Proc.await request next).within part).proceed after)
        (.await request next)
  | aborting {task : Proc (I.plus J) τ ε Unit} {error : ε} : Aborts part task →
      Accompanies part opens task (.raised error)

variable {part : Part τ σ} {opens : (τ → τ) → Proc I σ ε Unit → Prop}

theorem Aborts.advance {task : Proc (I.plus J) τ ε Unit} (aborts : Aborts part task) (t : τ) :
    part.get (task.advance t).2 = part.get t ∧ Aborts part (task.advance t).1 := by
  induction aborts generalizing t with
  | raised => exact ⟨rfl, .raised⟩
  | read _ ih => exact ih t t
  | @modify change _ kept _ ih =>
      obtain ⟨same, later⟩ := ih (change t)
      exact ⟨same.trans (kept t), later⟩
  | await later => exact ⟨rfl, .await later⟩

/-- How a segment of a task ends. -/
theorem advance_cases (task : Proc I σ ε Unit) (s : σ) :
    (∃ s', task.advance s = (.done (), s')) ∨
      (∃ error s', task.advance s = (.raised error, s')) ∨
      ∃ request next s', task.advance s = (.await request next, s') := by
  induction task generalizing s with
  | done value => exact .inl ⟨s, rfl⟩
  | raised error => exact .inr (.inl ⟨error, s, rfl⟩)
  | read next ih => exact ih s s
  | modify change next ih => exact ih (change s)
  | await request next => exact .inr (.inr ⟨request, next, s, rfl⟩)

/-- The promises of tasks that all keep a condition. -/
def keepsAll (S : System I σ ε ι) (condition : σ → Prop)
    (environment : ∀ s s', condition s → S.environment s s' → condition s') :
    Promises S anyTurn where
  invariant := condition
  guarantee _ _ s := condition s
  rely _ s s' := condition s → condition s'
  rely_refl _ _ := id
  rely_trans _ _ _ _ first second := second ∘ first
  environment_invariant s s' holds moved _ := environment s s' holds moved
  environment_relied _ _ _ _ holds _ _ := holds
  guarantee_invariant _ _ _ _ guaranteed _ := guaranteed
  guarantee_relied _ _ _ _ _ _ _ guaranteed _ := guaranteed

theorem guards_keepsAll {S : System I σ ε ι} {condition : σ → Prop}
    (environment : ∀ s s', condition s → S.environment s s' → condition s') (i : ι) :
    Guards ((keepsAll S condition environment).contract i) condition :=
  ⟨fun _ _ _ holds => holds, fun _ _ _ _ _ relied => relied.1⟩

variable [DecidableEq ι] {S : System I σ ε ι} {c₀ d : Config I σ ε ι} {i : ι}

/-- The smaller system has come as far as a task of the larger one has. -/
def Reached (S : System I σ ε ι) (part : Part τ σ)
    (opens : (τ → τ) → Proc I σ ε Unit → Prop) (c₀ d : Config I σ ε ι) (i : ι)
    (task : Proc (I.plus J) τ ε Unit) (t : τ) : Prop :=
  ∃ d', S.Run anyTurn c₀ d' ∧ d'.shared = part.get t ∧
    Accompanies part opens task (d'.task i) ∧ ∀ j, j ≠ i → d'.task j = d.task j

theorem Config.turn_others {c : Config I σ ε ι} {next : Proc I σ ε Unit} {s : σ} {j : ι}
    (other : j ≠ i) : (c.turn i next s).task j = c.task j := by
  simp [Config.turn, other]

theorem Config.turn_task {c : Config I σ ε ι} {next : Proc I σ ε Unit} {s : σ} :
    (c.turn i next s).task i = (next.advance s).1 := by
  simp [Config.turn]

/-- The segment in which a turn ends goes on with what comes after it. -/
theorem reached_proceed {after : Except ε Unit → Proc (I.plus J) τ ε Unit}
    {task : Proc I σ ε Unit} {t : τ} (run : S.Run anyTurn c₀ (d.turn i task (part.get t)))
    (takes : TakesTurns part opens (after (.ok ())))
    (aborts : ∀ error, Aborts part (after (.error error)))
    (goesOn : ∀ t' d', S.Run anyTurn c₀ d' → d'.shared = part.get t' →
      d'.task i = .done () → Reached S part opens c₀ d' i
        ((after (.ok ())).advance t').1 ((after (.ok ())).advance t').2) :
    Reached S part opens c₀ d i (((task.within part).proceed after).advance t).1
      (((task.within part).proceed after).advance t).2 := by
  have shared : (d.turn i task (part.get t)).shared = (task.advance (part.get t)).2 := rfl
  have current : (d.turn i task (part.get t)).task i = (task.advance (part.get t)).1 :=
    Config.turn_task
  rw [advance_within]
  rcases advance_cases task (part.get t) with
    ⟨s, ends⟩ | ⟨error, s, ends⟩ | ⟨request, next, s, ends⟩
  · rw [ends] at shared current ⊢
    obtain ⟨d', run', shared', stands, others⟩ :=
      goesOn (part.set t s) _ run (shared.trans (part.get_set t s).symm) current
    refine ⟨d', run', shared', stands, ?_⟩
    intro j other
    exact (others j other).trans (Config.turn_others other)
  · rw [ends] at shared current ⊢
    obtain ⟨same, later⟩ := (aborts error).advance (part.set t s)
    refine ⟨_, run, ?_, ?_, fun j other => Config.turn_others other⟩
    · exact shared.trans ((part.get_set t s).symm.trans same.symm)
    · rw [current]
      exact .aborting later
  · rw [ends] at shared current ⊢
    refine ⟨_, run, shared.trans (part.get_set t s).symm, ?_,
      fun j other => Config.turn_others other⟩
    rw [current]
    exact .during takes aborts

/-- A segment of a task between two turns. -/
theorem TakesTurns.reached
    (opening : ∀ enter task, opens enter task →
      ∀ t, S.start i (part.get t) task (part.get (enter t)))
    {task : Proc (I.plus J) τ ε Unit} (takes : TakesTurns part opens task) {t : τ}
    (run : S.Run anyTurn c₀ d) (shared : d.shared = part.get t) (idle : d.task i = .done ()) :
    Reached S part opens c₀ d i (task.advance t).1 (task.advance t).2 := by
  induction takes generalizing t d with
  | done => exact ⟨d, run, shared, idle ▸ .between .done, fun _ _ => rfl⟩
  | raised => exact ⟨d, run, shared, idle ▸ .between .raised, fun _ _ => rfl⟩
  | read _ ih => exact ih t run shared idle
  | modify kept _ ih => exact ih run (shared.trans (kept t).symm) idle
  | await later => exact ⟨d, run, shared, idle ▸ .between (.await later), fun _ _ => rfl⟩
  | @turn enter task after opened takes aborts ih =>
      have started := opening enter task opened t
      rw [← shared] at started
      exact reached_proceed (run.step (.start idle started) trivial) takes aborts
        fun t' d' run' shared' idle' => ih run' shared' idle'

/--
A larger system hosts a smaller one: in the states that meet `inv`, its tasks
do nothing to the part but take turns of the smaller system there.
-/
structure Hosts (T : System (I.plus J) τ ε ι) (S : System I σ ε ι) (part : Part τ σ)
    (opens : ι → (τ → τ) → Proc I σ ε Unit → Prop) (inv : τ → Prop) : Prop where
  opening : ∀ i enter task, opens i enter task →
    ∀ t, S.start i (part.get t) task (part.get (enter t))
  starts : ∀ i t task t', inv t → T.start i t task t' →
    (part.get t' = part.get t ∧ TakesTurns part (opens i) task) ∨
    ∃ first after, S.start i (part.get t) first (part.get t') ∧
      task = (first.within part).proceed after ∧ TakesTurns part (opens i) (after (.ok ())) ∧
      ∀ error, Aborts part (after (.error error))
  answers : ∀ request t answer, T.answers (.inl request) t answer →
    S.answers request (part.get t) answer
  environment : ∀ t t', T.environment t t' →
    part.get t' = part.get t ∨ S.environment (part.get t) (part.get t')

/-- The smaller system has come to the part, and each of its tasks as far as the larger one's. -/
def Hosted (S : System I σ ε ι) (part : Part τ σ)
    (opens : ι → (τ → τ) → Proc I σ ε Unit → Prop) (c₀ : Config I σ ε ι)
    (c : Config (I.plus J) τ ε ι) : Prop :=
  ∃ d, S.Run anyTurn c₀ d ∧ d.shared = part.get c.shared ∧
    ∀ i, Accompanies part (opens i) (c.task i) (d.task i)

theorem Reached.hosted {opens : ι → (τ → τ) → Proc I σ ε Unit → Prop}
    {c : Config (I.plus J) τ ε ι} {next : Proc (I.plus J) τ ε Unit} {t : τ}
    (reached : Reached S part (opens i) c₀ d i (next.advance t).1 (next.advance t).2)
    (others : ∀ j, Accompanies part (opens j) (c.task j) (d.task j)) :
    Hosted S part opens c₀ (c.turn i next t) := by
  obtain ⟨d', run, shared, stands, same⟩ := reached
  refine ⟨d', run, shared, ?_⟩
  intro j
  by_cases other : j = i
  · subst other
    rw [Config.turn_task]
    exact stands
  · rw [Config.turn_others other, same j other]
    exact others j

/-- What one turn of the larger system comes to in the smaller one. -/
theorem Hosts.step {T : System (I.plus J) τ ε ι}
    {opens : ι → (τ → τ) → Proc I σ ε Unit → Prop} {inv : τ → Prop}
    (hosts : Hosts T S part opens inv) {c c' : Config (I.plus J) τ ε ι}
    {who : Option ι} (hosted : Hosted S part opens c₀ c) (kept : inv c.shared)
    (turn : T.Step who c c') : Hosted S part opens c₀ c' := by
  obtain ⟨d, run, shared, stands⟩ := hosted
  cases turn with
  | environment moved =>
      rcases hosts.environment _ _ moved with same | moved
      · exact ⟨d, run, shared.trans same.symm, stands⟩
      · rw [← shared] at moved
        exact ⟨_, run.step (.environment moved) trivial, rfl, stands⟩
  | @start _ i next t' done started =>
      have idle : d.task i = .done () := by
        have stands := stands i
        rw [done] at stands
        generalize d.task i = task at stands
        cases stands with
        | between => rfl
        | aborting aborts => cases aborts
      rcases hosts.starts _ _ _ _ kept started with
        ⟨same, takes⟩ | ⟨first, after, begun, rfl, takes, aborts⟩
      · have shared := shared.trans same.symm
        exact Reached.hosted (takes.reached (hosts.opening i) run shared idle) stands
      · rw [← shared] at begun
        have run := run.step (.start idle begun) trivial
        refine Reached.hosted (reached_proceed run takes aborts ?_) stands
        intro later d' run' shared' idle'
        exact takes.reached (hosts.opening i) run' shared' idle'
  | @resume _ i request next answer suspended answered =>
      have stands := stands i
      rw [suspended] at stands
      generalize current : d.task i = task at stands
      cases stands with
      | between takes =>
          cases takes with
          | await later =>
              have reached := (later answer).reached (hosts.opening i) run shared current
              exact Reached.hosted reached stands
      | @during inner following after takes aborts =>
          have resumed : S.Step (some i) d (d.turn i (following answer) d.shared) :=
            .resume current (shared ▸ hosts.answers _ _ _ answered)
          rw [shared] at resumed
          have run := run.step resumed trivial
          refine Reached.hosted (reached_proceed run takes aborts ?_) stands
          intro later d' run' shared' idle'
          exact takes.reached (hosts.opening i) run' shared' idle'
      | aborting aborts =>
          cases aborts with
          | await later =>
              obtain ⟨same, ends⟩ := (later answer).advance c.shared
              refine Reached.hosted ⟨d, run, shared.trans same.symm, ?_, fun _ _ => rfl⟩ stands
              rw [current]
              exact .aborting ends

/-- Every run of the larger system is, in the part, a run of the smaller one. -/
theorem Hosts.simulates {T : System (I.plus J) τ ε ι}
    {opens : ι → (τ → τ) → Proc I σ ε Unit → Prop} {inv : τ → Prop}
    (hosts : Hosts T S part opens inv) {t₀ : τ} {c : Config (I.plus J) τ ε ι}
    (run : T.Run anyTurn (Config.idle t₀) c)
    (kept : ∀ c, T.Run anyTurn (Config.idle t₀) c → inv c.shared) :
    Hosted S part opens (Config.idle (part.get t₀)) c := by
  induction run with
  | refl => exact ⟨_, .refl, rfl, fun _ => .between .done⟩
  | step run turn _ ih => exact hosts.step ih (kept _ run) turn

/-! ## Conditions that every task keeps -/

/-- A condition that every task keeps holds in every state of every run. -/
theorem System.Run.keeps {condition : σ → Prop}
    (environment : ∀ s s', condition s → S.environment s s' → condition s')
    (starts : ∀ i s task s', condition s → S.start i s task s' →
      condition s' ∧ ∀ C, Guards C condition → Keeps C condition task)
    {s₀ : σ} {c : Config I σ ε ι} (initial : condition s₀)
    (run : S.Run anyTurn (Config.idle s₀) c) : condition c.shared := by
  have holds := (keepsAll S condition environment).holds_of_run ?_
    (Promises.holds_idle _ initial) run
  · exact holds.1
  · intro i s task s' holds started
    obtain ⟨begun, kept⟩ := starts i s task s' holds started
    exact kept _ (guards_keepsAll environment i) s s' begun

/-! ## Weakest preconditions -/

/-- A condition that is not about the part is kept by every task on the part. -/
theorem keeps_within {C : Contract (I.plus J) τ} {condition : τ → Prop}
    (guards : Guards C condition) (apart : ∀ t s, condition t → condition (part.set t s))
    (task : Proc I σ ε α) :
    Keeps C condition (task.within part) := by
  intro start t holds
  induction task generalizing start t with
  | done value => exact holds
  | raised error => exact holds
  | read next ih => exact ih (part.get t) start t holds
  | modify change next ih => exact ih start _ (apart t _ holds)
  | await request next ih =>
      refine ⟨guards.pauses _ start t holds, ?_⟩
      intro answer t' relied
      exact ih answer t' t' (guards.resumes _ t answer t' holds relied)

/--
What is known of a task holds of it within a larger state that the others
change in the part only.
-/
theorem wp_within {C : Contract I σ} {C' : Contract (I.plus J) τ} {task : Proc I σ ε α}
    {post : α → σ → σ → Prop} {fail : ε → σ → σ → Prop}
    {post' : α → τ → τ → Prop} {fail' : ε → τ → τ → Prop} {start s : σ} {start' t : τ}
    (holds : Proc.wp C task post fail start s) (shared : part.get t = s)
    (pauses : ∀ request start start' s, C.pause request start s →
      C'.pause (.inl request) start' (part.set t s))
    (resumes : ∀ request s answer t', C'.rely (.inl request) (part.set t s) answer t' →
      ∃ s', t' = part.set t s' ∧ C.rely request s answer s')
    (returns : ∀ value start s start', post value start s → post' value start' (part.set t s))
    (raises : ∀ error start s start', fail error start s → fail' error start' (part.set t s)) :
    Proc.wp C' (task.within part) post' fail' start' t := by
  have whole : t = part.set t s := by rw [← shared, part.set_get]
  rw [whole]
  clear whole shared
  induction task generalizing start s start' with
  | done value => exact returns value start s start' holds
  | raised error => exact raises error start s start' holds
  | read next ih =>
      simp only [within, Proc.wp, part.get_set]
      exact ih s holds
  | modify change next ih =>
      simp only [within, Proc.wp, part.get_set, part.set_set]
      exact ih holds
  | await request next ih =>
      refine ⟨pauses _ _ _ _ holds.1, ?_⟩
      intro answer t' relied
      obtain ⟨s', rfl, known⟩ := resumes _ _ _ _ relied
      exact ih answer (holds.2 answer s' known)

/-- A change of the part alone, by which it is related to what it was. -/
def Along (part : Part τ σ) (related : σ → σ → Prop) (start t : τ) : Prop :=
  ∃ s, t = part.set start s ∧ related (part.get start) s

/-- A task that counts on nothing may promise how each segment changes the part. -/
theorem wp_along {C' : Contract (I.plus J) τ} {related : σ → σ → Prop} {task : Proc I σ ε α}
    {start : τ} {s : σ}
    (pauses : ∀ request start t, Along part related start t → C'.pause (.inl request) start t)
    (holds : Proc.wp ⟨fun _ => related, fun _ _ _ _ => True⟩ task (fun _ => related)
      (fun _ => related) (part.get start) s) :
    Proc.wp C' (task.within part) (fun _ => Along part related) (fun _ => Along part related) start
      (part.set start s) := by
  induction task generalizing start s with
  | done value => exact ⟨s, rfl, holds⟩
  | raised error => exact ⟨s, rfl, holds⟩
  | read next ih =>
      simp only [within, Proc.wp, part.get_set]
      exact ih s holds
  | modify change next ih =>
      simp only [within, Proc.wp, part.get_set, part.set_set]
      exact ih holds
  | await request next ih =>
      refine ⟨pauses _ _ _ ⟨s, rfl, holds.1⟩, ?_⟩
      intro answer t' _
      have later := ih answer (holds.2 answer (part.get t') trivial)
      rw [part.set_get] at later
      exact later

end SqlSafetyProxy.Coroutine
