import SqlSafetyProxy.Coroutine.Proc
import Mathlib.Data.List.Chain
import Mathlib.Logic.Function.Basic

/-!
# Interleaved tasks

Several tasks share one state and take turns at their suspension points, while
an environment acts between the turns.  A run may be restricted by a condition
on its turns.  The rely-guarantee rule reduces an invariant of every run to one
weakest precondition for each task and one preservation argument for each party.
-/

namespace SqlSafetyProxy.Coroutine

open Proc

/-- Tasks named by `ι`, the states in which they start, and their environment. -/
structure System (I : Interface) (σ ε ι : Type) where
  start : ι → σ → Proc I σ ε Unit → σ → Prop
  answers : (request : I.Request) → σ → I.Answer request → Prop
  environment : σ → σ → Prop

/-- The shared state and how far each task has come. -/
structure Config (I : Interface) (σ ε ι : Type) where
  shared : σ
  task : ι → Proc I σ ε Unit

variable {I : Interface} {σ ε ι : Type}

/-- Nothing has been started yet. -/
def Config.idle (s : σ) : Config I σ ε ι := ⟨s, fun _ => .done ()⟩

/-! ## Promises of the parties -/

/--
What each party promises, and what each task may count on.  `allowed` is the
condition under which the turns of a run are admitted (`none` labels the
environment's turns).
-/
structure Promises (S : System I σ ε ι) (allowed : Option ι → σ → σ → Prop) where
  invariant : σ → Prop
  guarantee : ι → σ → σ → Prop
  rely : ι → σ → σ → Prop
  rely_refl : ∀ i s, rely i s s
  rely_trans : ∀ i s₁ s₂ s₃, rely i s₁ s₂ → rely i s₂ s₃ → rely i s₁ s₃
  environment_invariant : ∀ s s', invariant s → S.environment s s' → allowed none s s' →
    invariant s'
  environment_relied : ∀ i s s', invariant s → invariant s' → S.environment s s' → rely i s s'
  guarantee_invariant : ∀ i s s', invariant s → guarantee i s s' → allowed (some i) s s' →
    invariant s'
  guarantee_relied : ∀ i j s s', i ≠ j → invariant s → invariant s' → guarantee j s s' →
    rely i s s'

namespace Promises

variable {S : System I σ ε ι} {allowed : Option ι → σ → σ → Prop}

/-- The contract of task `i`: it keeps its guarantee and sees only relied-on changes. -/
def contract (P : Promises S allowed) (i : ι) : Contract I σ where
  pause _ start s := P.guarantee i start s
  rely request s answer s' := P.invariant s' ∧ P.rely i s s' ∧ S.answers request s' answer

/-- Task `i` keeps its guarantee in every remaining segment. -/
def Keeps (P : Promises S allowed) (i : ι) (task : Proc I σ ε Unit) (start s : σ) : Prop :=
  wp (P.contract i) task (fun _ start s => P.guarantee i start s)
    (fun _ start s => P.guarantee i start s) start s

/-- Task `i` keeps its guarantee and leaves `rest` behind when it returns. -/
def Completes (P : Promises S allowed) (rest : ι → σ → Prop) (i : ι) (task : Proc I σ ε Unit)
    (start s : σ) : Prop :=
  wp (P.contract i) task (fun _ start s => P.guarantee i start s ∧ rest i s)
    (fun _ start s => P.guarantee i start s) start s

/-- A task between two of its segments: it goes on as promised however it is resumed. -/
def Ready (P : Promises S allowed) (rest : ι → σ → Prop) (i : ι) (s : σ) :
    Proc I σ ε Unit → Prop
  | .await request next => ∀ answer s', (P.contract i).rely request s answer s' →
      P.Completes rest i (next answer) s' s'
  | .done _ => rest i s
  | _ => True

section Rest

variable {P : Promises S allowed} {rest : ι → σ → Prop}

theorem ready_of_rely (stable : ∀ i s s', rest i s → P.rely i s s' → rest i s') {i : ι}
    {s s' : σ} {task : Proc I σ ε Unit} (ready : P.Ready rest i s task)
    (relied : P.rely i s s') : P.Ready rest i s' task := by
  cases task with
  | await request next =>
      intro answer later ⟨inv, later_relied, answered⟩
      exact ready answer later ⟨inv, P.rely_trans i s s' later relied later_relied, answered⟩
  | done value => exact stable i s s' ready relied
  | raised error => trivial
  | read next => trivial
  | modify change next => trivial

/-- A segment that keeps its guarantee, and what is left of the task after it. -/
theorem completes_advance {i : ι} {task : Proc I σ ε Unit} {start s : σ}
    (completes : P.Completes rest i task start s) :
    P.guarantee i start (task.advance s).2 ∧
      P.Ready rest i (task.advance s).2 (task.advance s).1 := by
  have segment := wp_advance completes
  rcases advanced : task.advance s with ⟨remaining, s'⟩
  rw [advanced] at segment
  cases remaining with
  | done value => exact segment
  | raised error => exact ⟨segment, trivial⟩
  | read next => exact segment.elim
  | modify change next => exact segment.elim
  | await request next => exact ⟨segment.1, segment.2⟩

end Rest

/-- The state of a run: the invariant holds and every suspended task is in order. -/
def Holds (P : Promises S allowed) (rest : ι → σ → Prop) (c : Config I σ ε ι) : Prop :=
  P.invariant c.shared ∧ ∀ i, P.Ready rest i c.shared (c.task i)

/-- No task leaves anything behind. -/
def nothing : ι → σ → Prop := fun _ _ => True

theorem holds_idle (P : Promises S allowed) {s : σ} (initial : P.invariant s) :
    P.Holds nothing (Config.idle s) :=
  ⟨initial, fun _ => trivial⟩

theorem completes_of_keeps {P : Promises S allowed} {i : ι} {task : Proc I σ ε Unit} {start s : σ}
    (keeps : P.Keeps i task start s) : P.Completes nothing i task start s :=
  Proc.wp_mono keeps (fun _ _ _ guaranteed => ⟨guaranteed, trivial⟩)
    (fun _ _ _ guaranteed => guaranteed)

/-! ### Tasks that have not raised -/

/-- The contract of a task that keeps a condition as long as it does not raise. -/
def keeping (P : Promises S allowed) (kept : σ → Prop) (i : ι) : Contract I σ where
  pause _ _ s := kept s
  rely := (P.contract i).rely

/-- The condition holds unless the task has raised, and the task will keep it that way. -/
def Alive (P : Promises S allowed) (kept : σ → Prop) (i : ι) (s : σ) : Proc I σ ε Unit → Prop
  | .raised _ => True
  | .await request next => kept s ∧ ∀ answer s', (P.contract i).rely request s answer s' →
      wp (P.keeping kept i) (next answer) (fun _ _ s => kept s) (fun _ _ _ => True) s' s'
  | _ => kept s

section Alive

variable {P : Promises S allowed} {kept : σ → Prop} {i : ι}

theorem Alive.holds {s : σ} {task : Proc I σ ε Unit} (alive : P.Alive kept i s task)
    (unraised : ∀ error, task ≠ .raised error) : kept s := by
  cases task with
  | raised error => exact absurd rfl (unraised error)
  | await request next => exact alive.1
  | done value => exact alive
  | read next => exact alive
  | modify change next => exact alive

theorem Alive.of_rely (relied : ∀ s s', kept s → P.rely i s s' → kept s') {s s' : σ}
    {task : Proc I σ ε Unit} (alive : P.Alive kept i s task) (change : P.rely i s s') :
    P.Alive kept i s' task := by
  cases task with
  | raised error => trivial
  | await request next =>
      refine ⟨relied _ _ alive.1 change, ?_⟩
      intro answer later ⟨inv, later_relied, answered⟩
      exact alive.2 answer later ⟨inv, P.rely_trans i s s' later change later_relied, answered⟩
  | done value => exact relied _ _ alive change
  | read next => exact relied _ _ alive change
  | modify change' next => exact relied _ _ alive change

theorem alive_advance {task : Proc I σ ε Unit} {start s : σ}
    (lives : wp (P.keeping kept i) task (fun _ _ s => kept s) (fun _ _ _ => True) start s) :
    P.Alive kept i (task.advance s).2 (task.advance s).1 := by
  have segment := wp_advance lives
  rcases advanced : task.advance s with ⟨remaining, s'⟩
  rw [advanced] at segment
  cases remaining with
  | done value => exact segment
  | raised error => trivial
  | read next => exact segment.elim
  | modify change next => exact segment.elim
  | await request next => exact ⟨segment.1, segment.2⟩

end Alive

end Promises

/-! ## Turns and runs -/

variable [DecidableEq ι]

/-- Task `i` runs one segment of `next` from the state `s`. -/
def Config.turn (c : Config I σ ε ι) (i : ι) (next : Proc I σ ε Unit) (s : σ) :
    Config I σ ε ι :=
  ⟨(next.advance s).2, Function.update c.task i (next.advance s).1⟩

/-- One turn, labelled by the task that takes it. -/
inductive System.Step (S : System I σ ε ι) :
    Option ι → Config I σ ε ι → Config I σ ε ι → Prop where
  | environment {c : Config I σ ε ι} {s' : σ} :
      S.environment c.shared s' → S.Step none c ⟨s', c.task⟩
  | start {c : Config I σ ε ι} {i : ι} {next : Proc I σ ε Unit} {s' : σ} :
      c.task i = .done () → S.start i c.shared next s' →
      S.Step (some i) c (c.turn i next s')
  | resume {c : Config I σ ε ι} {i : ι} {request : I.Request}
      {next : I.Answer request → Proc I σ ε Unit} {answer : I.Answer request} :
      c.task i = .await request next → S.answers request c.shared answer →
      S.Step (some i) c (c.turn i (next answer) c.shared)

/-- The configurations reached from `c₀` by turns that all meet `allowed`. -/
inductive System.Run (S : System I σ ε ι) (allowed : Option ι → σ → σ → Prop)
    (c₀ : Config I σ ε ι) : Config I σ ε ι → Prop where
  | refl : S.Run allowed c₀ c₀
  | step {c c' : Config I σ ε ι} {who : Option ι} :
      S.Run allowed c₀ c → S.Step who c c' → allowed who c.shared c'.shared →
      S.Run allowed c₀ c'

/-- Every turn is admitted. -/
def anyTurn : Option ι → σ → σ → Prop := fun _ _ _ => True

/-- How a task stands after a completed run. -/
def ended : Except ε Unit → Proc I σ ε Unit
  | .ok _ => .done ()
  | .error error => .raised error

/-- Where a task that runs without interference stands at its suspensions and at its end. -/
def stops (answer : (request : I.Request) → I.Answer request) : Proc I σ ε Unit → σ → List σ
  | .done _, s => [s]
  | .raised _, s => [s]
  | .read next, s => stops answer (next s) s
  | .modify change next, s => stops answer next (change s)
  | .await request next, s => s :: stops answer (next (answer request)) s

theorem stops_advance (answer : (request : I.Request) → I.Answer request)
    (task : Proc I σ ε Unit) (s : σ) : ∃ later, stops answer task s = (task.advance s).2 :: later := by
  induction task generalizing s with
  | done value => exact ⟨_, rfl⟩
  | raised error => exact ⟨_, rfl⟩
  | read next ih => exact ih s s
  | modify change next ih => exact ih (change s)
  | await request next ih => exact ⟨_, rfl⟩

/-- A condition on turns that follows from what holds wherever a task stops. -/
theorem isChain_of_all {related : σ → σ → Prop} {holds : σ → Prop} {states : List σ}
    (all : ∀ s ∈ states, holds s) (implies : ∀ s s', holds s → related s s') :
    List.IsChain related states := by
  apply List.Pairwise.isChain
  apply List.pairwise_of_forall_mem_list
  intro s inside s' _
  exact implies s s' (all s inside)

/-- A task that is resumed without interference reaches the end of its own run. -/
theorem System.run_resumed_within {S : System I σ ε ι}
    (answer : (request : I.Request) → I.Answer request) {admitted : I.Request → Bool}
    (answered : ∀ request s, admitted request = true → S.answers request s (answer request))
    {allowed : Option ι → σ → σ → Prop} {c₀ : Config I σ ε ι} {i : ι} (task : Proc I σ ε Unit)
    {c : Config I σ ε ι} {s : σ} (run : S.Run allowed c₀ c)
    (asked : task.asksOnly admitted (fun q s => (answer q, s)) s = true)
    (within : List.IsChain (allowed (some i)) (stops answer task s))
    (current : c.task i = (task.advance s).1) (shared : c.shared = (task.advance s).2) :
    ∃ c', S.Run allowed c₀ c' ∧ c'.shared = (task.run (fun q s => (answer q, s)) s).2 ∧
      c'.task i = ended (task.run (fun q s => (answer q, s)) s).1 ∧
      ∀ j, j ≠ i → c'.task j = c.task j := by
  induction task generalizing c s with
  | done value => exact ⟨c, run, shared, current, fun _ _ => rfl⟩
  | raised error => exact ⟨c, run, shared, current, fun _ _ => rfl⟩
  | read next ih => exact ih s run asked within current shared
  | modify change next ih => exact ih run asked within current shared
  | await request next ih =>
      obtain ⟨isAdmitted, later⟩ := Bool.and_eq_true_iff.mp asked
      have same : c.shared = s := shared
      have resumed : S.Step (some i) c (c.turn i (next (answer request)) c.shared) :=
        .resume current (answered request c.shared isAdmitted)
      rw [same] at resumed
      obtain ⟨stopped, next_stops⟩ := stops_advance answer (next (answer request)) s
      have chained : List.IsChain (allowed (some i)) (s :: stops answer (next (answer request)) s) :=
        within
      rw [next_stops] at chained
      obtain ⟨first, rest⟩ := List.isChain_cons_cons.mp chained
      rw [← next_stops] at rest
      have condition : allowed (some i) c.shared (c.turn i (next (answer request)) s).shared := by
        rw [same]
        exact first
      obtain ⟨c', reached, shared', task', others⟩ :=
        ih (answer request) (run.step resumed condition) later rest (by simp [Config.turn]) rfl
      refine ⟨c', reached, shared', task', ?_⟩
      intro j other
      rw [others j other]
      simp [Config.turn, other]

/-- A task that is started and then runs without interference. -/
theorem System.run_alone_within {S : System I σ ε ι}
    (answer : (request : I.Request) → I.Answer request) {admitted : I.Request → Bool}
    (answered : ∀ request s, admitted request = true → S.answers request s (answer request))
    {allowed : Option ι → σ → σ → Prop} {c₀ c : Config I σ ε ι} {i : ι} {task : Proc I σ ε Unit}
    {s : σ} (run : S.Run allowed c₀ c) (idle : c.task i = .done ())
    (started : S.start i c.shared task s)
    (asked : task.asksOnly admitted (fun q s => (answer q, s)) s = true)
    (within : List.IsChain (allowed (some i)) (c.shared :: stops answer task s)) :
    ∃ c', S.Run allowed c₀ c' ∧ c'.shared = (task.run (fun q s => (answer q, s)) s).2 ∧
      c'.task i = ended (task.run (fun q s => (answer q, s)) s).1 ∧
      ∀ j, j ≠ i → c'.task j = c.task j := by
  have begun : S.Step (some i) c (c.turn i task s) := .start idle started
  obtain ⟨stopped, task_stops⟩ := stops_advance answer task s
  rw [task_stops] at within
  obtain ⟨first, rest⟩ := List.isChain_cons_cons.mp within
  rw [← task_stops] at rest
  have current : (c.turn i task s).task i = (task.advance s).1 := by simp [Config.turn]
  obtain ⟨c', reached, shared, current, others⟩ :=
    run_resumed_within answer answered task (run.step begun first) asked rest current rfl
  refine ⟨c', reached, shared, current, ?_⟩
  intro j other
  rw [others j other]
  simp [Config.turn, other]

/-- A task that is started and then runs without interference, with every turn admitted. -/
theorem System.run_alone {S : System I σ ε ι} (answer : (request : I.Request) → I.Answer request)
    {admitted : I.Request → Bool}
    (answered : ∀ request s, admitted request = true → S.answers request s (answer request))
    {c₀ c : Config I σ ε ι} {i : ι} {task : Proc I σ ε Unit} {s : σ} (run : S.Run anyTurn c₀ c)
    (idle : c.task i = .done ()) (started : S.start i c.shared task s)
    (asked : task.asksOnly admitted (fun q s => (answer q, s)) s = true) :
    ∃ c', S.Run anyTurn c₀ c' ∧ c'.shared = (task.run (fun q s => (answer q, s)) s).2 ∧
      c'.task i = ended (task.run (fun q s => (answer q, s)) s).1 ∧
      ∀ j, j ≠ i → c'.task j = c.task j :=
  run_alone_within answer answered run idle started asked
    (List.Pairwise.isChain (List.pairwise_of_forall fun _ _ => trivial))

/-- A state in which every task is between two turns, after turns that all meet `allowed`. -/
def System.RestsWithin (S : System I σ ε ι) (allowed : Option ι → σ → σ → Prop) (s₀ s : σ) : Prop :=
  ∃ c, S.Run allowed (Config.idle s₀) c ∧ c.shared = s ∧ ∀ i, c.task i = .done ()

section RestsWithin

variable {S : System I σ ε ι} {allowed : Option ι → σ → σ → Prop} {s₀ s s' : σ}

theorem System.RestsWithin.refl (s : σ) : S.RestsWithin allowed s s :=
  ⟨_, .refl, rfl, fun _ => rfl⟩

/-- The environment acts while every task is between two turns. -/
theorem System.RestsWithin.environment (rests : S.RestsWithin allowed s₀ s)
    (moved : S.environment s s') (condition : allowed none s s') : S.RestsWithin allowed s₀ s' := by
  obtain ⟨c, run, rfl, idle⟩ := rests
  exact ⟨_, run.step (.environment moved) condition, rfl, idle⟩

/-- A turn that returns without interference leaves every task between two turns. -/
theorem System.RestsWithin.turn (rests : S.RestsWithin allowed s₀ s) {i : ι}
    {task : Proc I σ ε Unit} (answer : (request : I.Request) → I.Answer request)
    {admitted : I.Request → Bool}
    (answered : ∀ request s, admitted request = true → S.answers request s (answer request))
    (started : S.start i s task s')
    (asked : task.asksOnly admitted (fun q s => (answer q, s)) s' = true)
    (within : List.IsChain (allowed (some i)) (s :: stops answer task s'))
    (returned : (task.run (fun q s => (answer q, s)) s').1 = .ok ()) :
    S.RestsWithin allowed s₀ (task.run (fun q s => (answer q, s)) s').2 := by
  obtain ⟨c, run, rfl, idle⟩ := rests
  obtain ⟨c', run', shared, current, others⟩ :=
    run_alone_within answer answered run (idle i) started asked within
  refine ⟨c', run', shared, ?_⟩
  intro j
  by_cases same : j = i
  · subst same
    rw [current, returned]
    rfl
  · rw [others j same, idle]

end RestsWithin

/-- A state in which every task is between two turns. -/
def System.Rests (S : System I σ ε ι) (s₀ s : σ) : Prop :=
  ∃ c, S.Run anyTurn (Config.idle s₀) c ∧ c.shared = s ∧ ∀ i, c.task i = .done ()

theorem System.Rests.refl {S : System I σ ε ι} (s : σ) : S.Rests s s := RestsWithin.refl s

theorem System.Rests.environment {S : System I σ ε ι} {s₀ s s' : σ} (rests : S.Rests s₀ s)
    (moved : S.environment s s') : S.Rests s₀ s' :=
  RestsWithin.environment rests moved trivial

theorem System.Rests.turn {S : System I σ ε ι} {s₀ s s' : σ} (rests : S.Rests s₀ s) {i : ι}
    {task : Proc I σ ε Unit} (answer : (request : I.Request) → I.Answer request)
    {admitted : I.Request → Bool}
    (answered : ∀ request s, admitted request = true → S.answers request s (answer request))
    (started : S.start i s task s')
    (asked : task.asksOnly admitted (fun q s => (answer q, s)) s' = true)
    (returned : (task.run (fun q s => (answer q, s)) s').1 = .ok ()) :
    S.Rests s₀ (task.run (fun q s => (answer q, s)) s').2 :=
  RestsWithin.turn rests answer answered started asked
    (List.Pairwise.isChain (List.pairwise_of_forall fun _ _ => trivial)) returned

namespace Promises

variable {S : System I σ ε ι} {allowed : Option ι → σ → σ → Prop}

section Rest

variable {P : Promises S allowed} {rest : ι → σ → Prop}

theorem holds_turn (stable : ∀ i s s', rest i s → P.rely i s s' → rest i s')
    {c : Config I σ ε ι} {i : ι} {next : Proc I σ ε Unit} {s : σ} (holds : P.Holds rest c)
    (completes : P.Completes rest i next c.shared s)
    (condition : allowed (some i) c.shared (c.turn i next s).shared) :
    P.Holds rest (c.turn i next s) := by
  obtain ⟨guaranteed, ready⟩ := completes_advance completes
  have inv := P.guarantee_invariant i _ _ holds.1 guaranteed condition
  refine ⟨inv, fun j => ?_⟩
  by_cases same : j = i
  · subst same
    simpa [Config.turn] using ready
  · have relied := P.guarantee_relied j i _ _ same holds.1 inv guaranteed
    simpa [Config.turn, same] using ready_of_rely stable (holds.2 j) relied

/--
The rely-guarantee rule with what the tasks leave behind.  A task starts where
it has returned before, so it finds there what it has left.
-/
theorem holds_of_run_resting (stable : ∀ i s s', rest i s → P.rely i s s' → rest i s')
    (starts : ∀ i s next s', P.invariant s → rest i s → S.start i s next s' →
      P.Completes rest i next s s')
    {c₀ c : Config I σ ε ι} (initial : P.Holds rest c₀) (run : S.Run allowed c₀ c) :
    P.Holds rest c := by
  induction run with
  | refl => exact initial
  | step _ turn condition ih =>
      cases turn with
      | environment moved =>
          have inv := P.environment_invariant _ _ ih.1 moved condition
          exact ⟨inv, fun i => ready_of_rely stable (ih.2 i)
            (P.environment_relied i _ _ ih.1 inv moved)⟩
      | @start _ i _ _ done started =>
          have rests := ih.2 i
          rw [done] at rests
          exact holds_turn stable ih (starts _ _ _ _ ih.1 rests started) condition
      | @resume _ i _ _ answer suspended answered =>
          have ready := ih.2 i
          rw [suspended] at ready
          exact holds_turn stable ih (ready answer _ ⟨ih.1, P.rely_refl i _, answered⟩) condition

/-- Every turn of a task keeps its guarantee. -/
theorem guarantee_of_step_resting
    (starts : ∀ i s next s', P.invariant s → rest i s → S.start i s next s' →
      P.Completes rest i next s s')
    {c c' : Config I σ ε ι} {i : ι} (holds : P.Holds rest c) (turn : S.Step (some i) c c') :
    P.guarantee i c.shared c'.shared := by
  have ready := holds.2 i
  cases turn with
  | start done started =>
      rw [done] at ready
      exact (completes_advance (starts _ _ _ _ holds.1 ready started)).1
  | resume suspended answered =>
      rw [suspended] at ready
      exact (completes_advance (ready _ _ ⟨holds.1, P.rely_refl i _, answered⟩)).1

end Rest

/--
The rely-guarantee rule.  If every task keeps its guarantee from each state in
which it starts, the invariant holds in every state of every admitted run.
-/
theorem holds_of_run (P : Promises S allowed)
    (starts : ∀ i s next s', P.invariant s → S.start i s next s' → P.Keeps i next s s')
    {c₀ c : Config I σ ε ι} (initial : P.Holds nothing c₀) (run : S.Run allowed c₀ c) :
    P.Holds nothing c :=
  holds_of_run_resting (fun _ _ _ _ _ => trivial)
    (fun i s next s' inv _ started => completes_of_keeps (starts i s next s' inv started))
    initial run

theorem guarantee_of_step {P : Promises S allowed}
    (starts : ∀ i s next s', P.invariant s → S.start i s next s' → P.Keeps i next s s')
    {c c' : Config I σ ε ι} {i : ι} (holds : P.Holds nothing c) (turn : S.Step (some i) c c') :
    P.guarantee i c.shared c'.shared :=
  guarantee_of_step_resting
    (fun i s next s' inv _ started => completes_of_keeps (starts i s next s' inv started))
    holds turn

section Alive

variable {P : Promises S allowed} {rest : ι → σ → Prop} {kept : σ → Prop} {i : ι}

/-- A condition that no other party disturbs holds in every run until the task raises. -/
theorem alive_of_run (stable : ∀ i s s', rest i s → P.rely i s s' → rest i s')
    (starts : ∀ i s next s', P.invariant s → rest i s → S.start i s next s' →
      P.Completes rest i next s s')
    (relied : ∀ s s', kept s → P.rely i s s' → kept s')
    (lives : ∀ s next s', P.invariant s → rest i s → kept s → S.start i s next s' →
      wp (P.keeping kept i) next (fun _ _ s => kept s) (fun _ _ _ => True) s s')
    {c₀ c : Config I σ ε ι} (initial : P.Holds rest c₀)
    (fresh : P.Alive kept i c₀.shared (c₀.task i)) (run : S.Run allowed c₀ c) :
    P.Alive kept i c.shared (c.task i) := by
  induction run with
  | refl => exact fresh
  | @step c c' who run turn condition ih =>
      have before := holds_of_run_resting stable starts initial run
      have after := holds_of_run_resting stable starts initial (run.step turn condition)
      cases who with
      | none =>
          cases turn with
          | environment moved =>
              exact ih.of_rely relied (P.environment_relied i _ _ before.1 after.1 moved)
      | some j =>
          have guaranteed := guarantee_of_step_resting starts before turn
          by_cases same : i = j
          · subst same
            cases turn with
            | @start _ _ next s' done started =>
                have rests := before.2 i
                rw [done] at rests ih
                simpa [Config.turn] using alive_advance (lives _ _ _ before.1 rests ih started)
            | @resume _ _ request next answer suspended answered =>
                rw [suspended] at ih
                simpa [Config.turn] using
                  alive_advance (ih.2 answer _ ⟨before.1, P.rely_refl i _, answered⟩)
          · have change := P.guarantee_relied i j _ _ same before.1 after.1 guaranteed
            have task : c'.task i = c.task i := by
              cases turn <;> simp [Config.turn, same]
            rw [task]
            exact ih.of_rely relied change

end Alive

end Promises

/-- A run is one of another system if each of its turns is one there. -/
theorem System.Run.turns {S S' : System I σ ε ι} {allowed : Option ι → σ → σ → Prop}
    {c₀ c : Config I σ ε ι} (run : S.Run allowed c₀ c)
    (turns : ∀ {c c' : Config I σ ε ι} {who : Option ι}, S.Run allowed c₀ c → S.Step who c c' →
      allowed who c.shared c'.shared → S'.Step who c c') : S'.Run allowed c₀ c := by
  induction run with
  | refl => exact .refl
  | step run turn condition ih => exact ih.step (turns run turn condition) condition

/-- Fewer turns are admitted under a stronger condition. -/
theorem System.Run.mono {S : System I σ ε ι} {allowed allowed' : Option ι → σ → σ → Prop}
    {c₀ c : Config I σ ε ι} (run : S.Run allowed c₀ c)
    (implies : ∀ who s s', allowed who s s' → allowed' who s s') : S.Run allowed' c₀ c := by
  induction run with
  | refl => exact .refl
  | step _ turn condition ih => exact ih.step turn (implies _ _ _ condition)

/-- A system whose environment meets a condition on its turns. -/
def System.confined (S : System I σ ε ι) (allowed : Option ι → σ → σ → Prop) :
    System I σ ε ι where
  start := S.start
  answers := S.answers
  environment s s' := S.environment s s' ∧ allowed none s s'

end SqlSafetyProxy.Coroutine
