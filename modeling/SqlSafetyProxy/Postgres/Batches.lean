import SqlSafetyProxy.Postgres.Relay

/-!
# Refused batches

A refused `Execute` is answered by the proxy and dropped; the backend never
hears of it.  Everything the client has sent before it in the batch has been
forwarded, and is committed by the `Sync` unless the backend raises an error
of its own.
-/

namespace SqlSafetyProxy.Postgres

open SqlSafetyProxy.Sql SqlSafetyProxy.Policy SqlSafetyProxy.Wire SqlSafetyProxy.Runtime
open SqlSafetyProxy.Coroutine

variable {tools : Tools} {opts : ProxyOptions}

/-! ## The backend's side of a batch -/

/--
A backend, by what it does about the last of the messages it has received:
whether it raises an error, and the effects it has when it does not.
-/
structure Database (Effect : Type) where
  raises : List Message → Bool
  effects : List Message → List Effect

/--
The implicit transaction of a backend: all it has received, whether it has
failed since the last `Sync`, the effects since then and those committed.
-/
structure Transaction (Effect : Type) where
  received : List Message
  failed : Bool
  pending : List Effect
  committed : List Effect
  deriving DecidableEq

namespace Database

variable {Effect : Type} (database : Database Effect)

/-- `Sync` commits; an error undoes, and what follows it is skipped until `Sync`. -/
def hear (transaction : Transaction Effect) (message : Message) : Transaction Effect :=
  let received := transaction.received ++ [message]
  if message.type = 'S' then
    ⟨received, false, [], transaction.committed ++ transaction.pending⟩
  else if transaction.failed then { transaction with received := received }
  else if database.raises received then ⟨received, true, [], transaction.committed⟩
  else if message.type = 'E' then
    { transaction with
      received := received
      pending := transaction.pending ++ database.effects received }
  else { transaction with received := received }

/-- The backend after some messages. -/
def after (messages : List Message) : Transaction Effect :=
  messages.foldl database.hear ⟨[], false, [], []⟩

/-- It raises an error for one of the messages, after everything before it. -/
def Raises (earlier messages : List Message) : Prop :=
  ∃ before message later, messages = before ++ message :: later ∧
    database.raises (earlier ++ before ++ [message]) = true

/-- No `Execute` among the messages has an effect. -/
def Harmless (earlier messages : List Message) : Prop :=
  ∀ before message later, messages = before ++ message :: later → message.type = 'E' →
    database.effects (earlier ++ before ++ [message]) = []

/-- Between two batches nothing has failed and nothing is pending. -/
structure Between (messages : List Message) : Prop where
  sound : (database.after messages).failed = false
  empty : (database.after messages).pending = []

/-- A batch so far: it has failed if a message raised, and only its effects are pending. -/
structure Underway (earlier messages : List Message) : Prop where
  failed : (database.after (earlier ++ messages)).failed = true ↔ database.Raises earlier messages
  pending : (database.after (earlier ++ messages)).pending = [] ↔
    database.Raises earlier messages ∨ database.Harmless earlier messages
  committed : (database.after (earlier ++ messages)).committed =
    (database.after earlier).committed

variable {database} {earlier messages : List Message} {message : Message}

theorem after_snoc : database.after (messages ++ [message]) =
    database.hear (database.after messages) message := by
  simp [after]

theorem hear_received {transaction : Transaction Effect} :
    (database.hear transaction message).received = transaction.received ++ [message] := by
  simp only [hear]
  split_ifs <;> rfl

theorem after_received : (database.after messages).received = messages := by
  induction messages using List.reverseRecOn with
  | nil => rfl
  | append_singleton messages message ih => rw [after_snoc, hear_received, ih]

theorem raises_snoc : database.Raises earlier (messages ++ [message]) ↔
    database.Raises earlier messages ∨
      database.raises (earlier ++ messages ++ [message]) = true := by
  constructor
  · rintro ⟨before, raising, later, split, raises⟩
    cases later using List.reverseRecOn with
    | nil =>
        obtain ⟨rfl, last⟩ := List.append_inj' split rfl
        cases last
        exact .inr raises
    | append_singleton later other =>
        rw [← List.cons_append, ← List.append_assoc] at split
        exact .inl ⟨before, raising, later, (List.append_inj' split rfl).1, raises⟩
  · rintro (⟨before, raising, later, rfl, raises⟩ | raises)
    · exact ⟨before, raising, later ++ [message], by simp, raises⟩
    · exact ⟨messages, message, [], rfl, raises⟩

theorem harmless_snoc : database.Harmless earlier (messages ++ [message]) ↔
    database.Harmless earlier messages ∧
      (message.type = 'E' → database.effects (earlier ++ messages ++ [message]) = []) := by
  constructor
  · intro harmless
    refine ⟨fun before executed later split isExecute => ?_, harmless messages message [] rfl⟩
    exact harmless before executed (later ++ [message]) (by rw [split]; simp) isExecute
  · rintro ⟨harmless, last⟩ before executed later split isExecute
    cases later using List.reverseRecOn with
    | nil =>
        obtain ⟨rfl, same⟩ := List.append_inj' split rfl
        cases same
        exact last isExecute
    | append_singleton later other =>
        rw [← List.cons_append, ← List.append_assoc] at split
        exact harmless before executed later (List.append_inj' split rfl).1 isExecute

theorem harmless_of_none (none : ∀ message ∈ messages, message.type ≠ 'E') :
    database.Harmless earlier messages := by
  intro before message later split isExecute
  exact absurd isExecute (none message (by rw [split]; simp))

/-- One more message of a batch. -/
theorem Underway.hear (underway : database.Underway earlier messages)
    (unsynced : message.type ≠ 'S') : database.Underway earlier (messages ++ [message]) := by
  obtain ⟨failed, pending, committed⟩ := underway
  have received := @after_received _ database (earlier ++ messages)
  have heard : database.after (earlier ++ (messages ++ [message])) =
      database.hear (database.after (earlier ++ messages)) message := by
    rw [← List.append_assoc, after_snoc]
  have raised := @raises_snoc _ database earlier messages message
  have harmless := @harmless_snoc _ database earlier messages message
  simp only [Database.hear, received, if_neg unsynced] at heard
  by_cases skipping : (database.after (earlier ++ messages)).failed = true
  · have before := failed.mp skipping
    rw [if_pos skipping] at heard
    constructor <;> rw [heard]
    · exact iff_of_true skipping (raised.mpr (.inl before))
    · exact iff_of_true (pending.mpr (.inl before)) (.inl (raised.mpr (.inl before)))
    · exact committed
  · have before : ¬ database.Raises earlier messages := fun raises => skipping (failed.mpr raises)
    rw [if_neg skipping] at heard
    by_cases raises : database.raises (earlier ++ messages ++ [message]) = true
    · rw [if_pos raises] at heard
      constructor <;> rw [heard]
      · exact iff_of_true rfl (raised.mpr (.inr raises))
      · exact iff_of_true rfl (.inl (raised.mpr (.inr raises)))
      · exact committed
    · have sound : ¬ database.Raises earlier (messages ++ [message]) :=
        fun any => (raised.mp any).elim before raises
      rw [if_neg raises] at heard
      rw [or_iff_right before] at pending
      by_cases isExecute : message.type = 'E'
      · rw [if_pos isExecute] at heard
        constructor <;> rw [heard]
        · exact iff_of_false skipping sound
        · rw [or_iff_right sound, harmless, ← pending, List.append_eq_nil_iff]
          exact and_congr_right fun _ => ⟨fun none _ => none, fun none => none isExecute⟩
        · exact committed
      · rw [if_neg isExecute] at heard
        constructor <;> rw [heard]
        · exact iff_of_false skipping sound
        · rw [or_iff_right sound, harmless, ← pending]
          exact (and_iff_left fun execute => absurd execute isExecute).symm
        · exact committed

theorem underway_of_between (between : database.Between earlier)
    (unsynced : ∀ message ∈ messages, message.type ≠ 'S') : database.Underway earlier messages := by
  induction messages using List.reverseRecOn with
  | nil =>
      constructor <;> rw [List.append_nil]
      · simp [between.sound, Raises]
      · simp [between.empty, Harmless]
  | append_singleton messages message ih =>
      have before := ih fun other inside => unsynced other (List.mem_append_left _ inside)
      exact before.hear (unsynced message (by simp))

theorem between_sync (sync : message.type = 'S') : database.Between (messages ++ [message]) := by
  constructor <;> rw [after_snoc, hear, if_pos sync]

/-- What a `Sync` commits is what is pending. -/
theorem committed_sync (sync : message.type = 'S') :
    (database.after (messages ++ [message])).committed =
      (database.after messages).committed ++ (database.after messages).pending := by
  rw [after_snoc, hear, if_pos sync]

/-- The `Sync` of a batch commits nothing of it exactly when it failed or has no effects. -/
theorem commitsNothing_iff (between : database.Between earlier)
    (unsynced : ∀ message ∈ messages, message.type ≠ 'S') (sync : message.type = 'S') :
    (database.after (earlier ++ messages ++ [message])).committed =
        (database.after earlier).committed ↔
      database.Raises earlier messages ∨ database.Harmless earlier messages := by
  have underway := underway_of_between between unsynced
  rw [committed_sync sync, underway.committed, ← underway.pending]
  exact List.append_right_eq_self

end Database

/-! ## The client's side of a batch -/

/-- The messages of the extended query protocol that stand before a `Sync`. -/
def Message.IsExtended (message : Message) : Prop :=
  message.type ∈ ['P', 'B', 'D', 'E', 'C', 'H']

/-- A call in progress: its message, received in a state after what the client had sent before. -/
structure Pending where
  message : Message
  received : ConnectionState
  sent : List Message

/--
A batch: what was forwarded in earlier ones, what the client has sent in this
one and what of it was forwarded, what it had sent before the first `Execute`
that was refused, and the call in progress as long as nothing is forwarded for it.
-/
structure Ledger where
  earlier : List Message
  sent : List Message
  written : List Message
  refused : Option (List Message)
  call : Option Pending

/-- `Sync` is not counted among what it ends. -/
def Ledger.receive (ledger : Ledger) (message : Message) (state : ConnectionState) : Ledger :=
  { ledger with
    sent := if message.type = 'S' then ledger.sent else ledger.sent ++ [message]
    call := some ⟨message, state, ledger.sent⟩ }

/-- A call has returned and nothing was forwarded for it. -/
def Ledger.unanswered (ledger : Ledger) (call : Pending) : Ledger :=
  if call.message.type = 'E' ∧ call.received.extendedErrorPending = false then
    { ledger with call := none, refused := some (ledger.refused.getD call.sent) }
  else { ledger with call := none }

/-- `Sync` ends the batch. -/
def Ledger.write (ledger : Ledger) (message : Message) : Ledger :=
  if message.type = 'S' then ⟨ledger.earlier ++ ledger.written ++ [message], [], [], none, none⟩
  else { ledger with call := none, written := ledger.written ++ [message] }

def Ledger.step (ledger : Ledger) : Event adapter → Ledger
  | .noted (.received message state) => ledger.receive message state
  | .noted (.ended none) => (ledger.call.map ledger.unanswered).getD ledger
  | .forwarded message _ => ledger.write message
  | _ => ledger

/-- The batch that a trace leaves open. -/
def ledgerOf (trace : List (Event adapter)) : Ledger :=
  trace.foldl Ledger.step ⟨[], [], [], none, none⟩

theorem ledgerOf_snoc (trace : List (Event adapter)) (event : Event adapter) :
    ledgerOf (trace ++ [event]) = (ledgerOf trace).step event := by
  simp [ledgerOf]

@[simp] theorem unanswered_earlier (ledger : Ledger) (call : Pending) :
    (ledger.unanswered call).earlier = ledger.earlier := by
  unfold Ledger.unanswered
  split <;> rfl

@[simp] theorem unanswered_written (ledger : Ledger) (call : Pending) :
    (ledger.unanswered call).written = ledger.written := by
  unfold Ledger.unanswered
  split <;> rfl

@[simp] theorem unanswered_sent (ledger : Ledger) (call : Pending) :
    (ledger.unanswered call).sent = ledger.sent := by
  unfold Ledger.unanswered
  split <;> rfl

/-- What was forwarded in a trace: whole batches, and the open one without a `Sync`. -/
structure Batched (trace : List (Event adapter)) : Prop where
  forwarded : sentMessages trace = (ledgerOf trace).earlier ++ (ledgerOf trace).written
  unsynced : ∀ message ∈ (ledgerOf trace).written, message.type ≠ 'S'
  between : ∀ {Effect : Type} (database : Database Effect),
    database.Between (ledgerOf trace).earlier

theorem batched_of_same {trace : List (Event adapter)} {event : Event adapter}
    (batched : Batched trace) (unwritten : Event.written event = none)
    (earlier : ((ledgerOf trace).step event).earlier = (ledgerOf trace).earlier)
    (written : ((ledgerOf trace).step event).written = (ledgerOf trace).written) :
    Batched (trace ++ [event]) := by
  have sent : sentMessages [event] = [] := by simp [sentMessages, unwritten]
  constructor
  · rw [ledgerOf_snoc, earlier, written, sentMessages_append, sent, List.append_nil]
    exact batched.forwarded
  · rw [ledgerOf_snoc, written]
    exact batched.unsynced
  · intro Effect database
    rw [ledgerOf_snoc, earlier]
    exact batched.between database

theorem batched_written {trace : List (Event adapter)} {message : Message} {raw : Bytes}
    (batched : Batched trace) : Batched (trace ++ [.forwarded message raw]) := by
  have sent : sentMessages (trace ++ [.forwarded message raw]) =
      (ledgerOf trace).earlier ++ (ledgerOf trace).written ++ [message] := by
    rw [sentMessages_append, batched.forwarded]
    rfl
  have step : ledgerOf (trace ++ [.forwarded message raw]) = (ledgerOf trace).write message :=
    ledgerOf_snoc _ _
  unfold Ledger.write at step
  split at step
  · next sync =>
    constructor
    · rw [sent, step, List.append_nil]
    · simp [step]
    · intro Effect database
      rw [step]
      exact Database.between_sync sync
  · next open_ =>
    constructor
    · rw [sent, step, List.append_assoc]
    · intro other inside
      rw [step, List.mem_append, List.mem_singleton] at inside
      rcases inside with inside | rfl
      · exact batched.unsynced other inside
      · exact open_
    · intro Effect database
      rw [step]
      exact batched.between database

theorem batched (trace : List (Event adapter)) : Batched trace := by
  induction trace using List.reverseRecOn with
  | nil => exact ⟨rfl, by rintro _ ⟨⟩, fun _ => ⟨rfl, rfl⟩⟩
  | append_singleton trace event ih =>
      cases event with
      | forwarded message raw => exact batched_written ih
      | noted note =>
          cases note with
          | received message state => exact batched_of_same ih rfl rfl rfl
          | ended error =>
              cases error with
              | some error => exact batched_of_same ih rfl rfl rfl
              | none =>
                  refine batched_of_same ih rfl ?_ ?_
                  · unfold Ledger.step
                    cases (ledgerOf trace).call with
                    | none => rfl
                    | some call => exact unanswered_earlier _ call
                  · unfold Ledger.step
                    cases (ledgerOf trace).call with
                    | none => rfl
                    | some call => exact unanswered_written _ call
      | _ => exact batched_of_same ih rfl rfl rfl

/-! ## What is forwarded of a batch -/

/-- The client has kept to the extended protocol since the last `Sync`. -/
def Ledger.Extended (ledger : Ledger) : Prop := ∀ message ∈ ledger.sent, message.IsExtended

/-- Of a batch with a refused `Execute` exactly what was sent before that is forwarded. -/
def Ledger.Kept (ledger : Ledger) : Prop :=
  ledger.Extended → ∀ early, ledger.refused = some early → ledger.written = early

/--
Between two calls: a batch with a refused `Execute` is in recovery, and outside
recovery the whole batch has been forwarded.
-/
structure Ledger.Agrees (ledger : Ledger) (state : ConnectionState) : Prop where
  kept : ledger.Kept
  recovering : ledger.Extended → ledger.refused ≠ none → state.extendedErrorPending = true
  complete : ledger.Extended → state.extendedErrorPending = false → ledger.written = ledger.sent

theorem Message.IsExtended.passes {message : Message} (extended : message.IsExtended) :
    message.type ≠ 'S' ∧ message.type ≠ 'X' ∧ message.type ≠ 'Q' := by
  unfold Message.IsExtended at extended
  refine ⟨?_, ?_, ?_⟩ <;> (intro same; rw [same] at extended; revert extended; decide)

/-- In recovery only `Sync` and `Terminate` are cleared. -/
theorem Clears.recovers {message : Message} {received state after : ConnectionState}
    {events : List (Event adapter)}
    (clears : Clears tools opts message received events state after)
    (pending : received.extendedErrorPending = true) :
    message.type = 'S' ∨ message.type = 'X' := by
  cases clears with
  | recovery _ passes => exact passes
  | registry outside => simp [pending] at outside
  | safe outside => simp [pending] at outside
  | approved outside => simp [pending] at outside
  | unlisted outside => simp [pending] at outside
  | permitted _ gap => simp [gap.outside] at pending

section Ledger

variable {ledger : Ledger} {message : Message} {received state : ConnectionState}

theorem extended_receive (extended : (ledger.receive message received).Extended) :
    ledger.Extended := by
  intro other inside
  refine extended other ?_
  simp only [Ledger.receive]
  split
  · exact inside
  · exact List.mem_append_left _ inside

/-- A message that is not `Sync` is in the batch from its receipt on. -/
theorem isExtended_of_receive (extended : (ledger.receive message received).Extended)
    (open_ : message.type ≠ 'S') : message.IsExtended := by
  refine extended message ?_
  simp [Ledger.receive, open_]

theorem kept_receive (kept : ledger.Kept) : (ledger.receive message received).Kept :=
  fun extended => kept (extended_receive extended)

/-- A call that returns behind a write leaves the batch forwarded as far as it goes. -/
theorem agrees_write (agrees : ledger.Agrees received)
    (outside : received.extendedErrorPending = true → message.type = 'S' ∨ message.type = 'X') :
    ((ledger.receive message received).write message).Agrees state := by
  unfold Ledger.write
  split
  · next sync => exact ⟨fun _ _ => by simp, fun _ none => absurd rfl none, fun _ _ => rfl⟩
  · next open_ =>
    -- outside recovery nothing was refused before
    have fresh : (ledger.receive message received).Extended →
        ledger.refused = none ∧ ledger.written = ledger.sent := by
      intro extended
      have isExtended := isExtended_of_receive extended open_
      have before := extended_receive extended
      cases pending : received.extendedErrorPending with
      | true => exact ((outside pending).elim open_ isExtended.passes.2.1).elim
      | false =>
          refine ⟨?_, agrees.complete before pending⟩
          by_contra refused
          rw [agrees.recovering before refused] at pending
          cases pending
    refine ⟨?_, ?_, ?_⟩
    · intro extended early refused
      rw [show ledger.refused = some early from refused] at fresh
      cases (fresh extended).1
    · intro extended refused
      exact absurd (fresh extended).1 refused
    · intro extended _
      simp [Ledger.receive, open_, (fresh extended).2]

/-- A call that returns without a write was refused, and then recovery has begun, or dropped. -/
theorem agrees_unanswered (agrees : ledger.Agrees received)
    (pending : message.type ≠ 'Q' → state.extendedErrorPending = true)
    (open_ : message.type ≠ 'S') :
    ((ledger.receive message received).unanswered ⟨message, received, ledger.sent⟩).Agrees state := by
  have extends_ : ((ledger.receive message received).unanswered
      ⟨message, received, ledger.sent⟩).Extended → (ledger.receive message received).Extended := by
    intro extended
    rwa [Ledger.Extended, unanswered_sent] at extended
  have recovering : ((ledger.receive message received).unanswered
      ⟨message, received, ledger.sent⟩).Extended → state.extendedErrorPending = true :=
    fun extended => pending (isExtended_of_receive (extends_ extended) open_).passes.2.2
  refine ⟨?_, fun extended _ => recovering extended, ?_⟩
  · intro extended early refused
    have before := extended_receive (extends_ extended)
    rw [unanswered_written]
    change ledger.written = early
    unfold Ledger.unanswered at refused
    split at refused
    · next execute =>
      -- the first refusal: the batch was complete
      have fresh : ledger.refused = none := by
        by_contra refused
        have flag := agrees.recovering before refused
        rw [execute.2] at flag
        cases flag
      rw [agrees.complete before execute.2]
      change some (ledger.refused.getD ledger.sent) = some early at refused
      rw [fresh] at refused
      exact Option.some.inj refused
    · exact agrees.kept before early refused
  · intro extended outside
    rw [recovering extended] at outside
    cases outside

end Ledger

/-! ## Whole runs -/

/-- At every place in the trace the batch is kept. -/
def KeptThroughout (trace : List (Event adapter)) : Prop :=
  ∀ before, before <+: trace → (ledgerOf before).Kept

theorem KeptThroughout.snoc {trace : List (Event adapter)} {event : Event adapter}
    (kept : KeptThroughout trace) (last : ((ledgerOf trace).step event).Kept) :
    KeptThroughout (trace ++ [event]) := by
  intro before early
  rcases List.prefix_concat_iff.mp early with rfl | early
  · rw [ledgerOf_snoc]
    exact last
  · exact kept before early

/-- What the client task leaves behind between two of its turns. -/
def BetweenTurns : Side → PgWorld → Prop
  | .client, w => (ledgerOf w.trace).Agrees w.session.state
  | .backend, _ => True

/-- The promises of the two tasks: the backend task leaves the recovery flag alone. -/
def bookkeeping (tools : Tools) (opts : ProxyOptions) : Promises (relay tools opts) anyTurn where
  invariant w := KeptThroughout w.trace
  guarantee
    | .client, _, w => KeptThroughout w.trace
    | .backend, start, w => w.trace = start.trace ∧
        w.session.state.extendedErrorPending = start.session.state.extendedErrorPending
  rely
    | .client, w, w' => w'.trace = w.trace ∧
        w'.session.state.extendedErrorPending = w.session.state.extendedErrorPending
    | .backend, _, _ => True
  rely_refl i _ := by
    cases i with
    | client => exact ⟨rfl, rfl⟩
    | backend => trivial
  rely_trans i _ _ _ first second := by
    cases i with
    | client => exact ⟨second.1.trans first.1, second.2.trans first.2⟩
    | backend => trivial
  environment_invariant _ _ _ moved _ := moved.elim
  environment_relied _ _ _ _ _ moved := moved.elim
  guarantee_invariant i s s' inv guaranteed _ := by
    cases i with
    | client => exact guaranteed
    | backend =>
        rw [guaranteed.1]
        exact inv
  guarantee_relied i j _ _ other _ _ guaranteed := by
    cases i with
    | client =>
        cases j with
        | client => exact absurd rfl other
        | backend => exact guaranteed
    | backend => trivial

theorem betweenTurns_stable (i : Side) (w w' : PgWorld) (between : BetweenTurns i w)
    (relied : (bookkeeping tools opts).rely i w w') : BetweenTurns i w' := by
  cases i with
  | client =>
      obtain ⟨trace, pending⟩ := relied
      have agrees : (ledgerOf w.trace).Agrees w.session.state := between
      rw [← trace] at agrees
      exact ⟨agrees.kept, fun extended refused => pending.trans (agrees.recovering extended refused),
        fun extended outside => agrees.complete extended (pending.symm.trans outside)⟩
  | backend => trivial

/--
The condition of each stage of a call that begins with the batch `base`: the
message has been received, and is in the batch once it is forwarded.
-/
structure Entered (base : Ledger) (message : Message) (received : ConnectionState)
    (stage : Stage) (w : PgWorld) : Prop where
  kept : KeptThroughout w.trace
  ledger : ledgerOf w.trace = if stage = .written then
    (base.receive message received).write message else base.receive message received
  unchanged : stage = .deciding ∨ stage = .dropped →
    w.session.state.extendedErrorPending = received.extendedErrorPending
  cleared : stage = .written → received.extendedErrorPending = true →
    message.type = 'S' ∨ message.type = 'X'
  answered : stage = .answered → message.type ≠ 'Q' → w.session.state.extendedErrorPending = true
  blocked : stage = .refused ∨ stage = .answered ∨ stage = .dropped → message.type ≠ 'S'
  dropped : stage = .dropped → received.extendedErrorPending = true

theorem course_entered {base : Ledger} {received : ConnectionState} (agrees : base.Agrees received)
    (message : Message) :
    Course tools opts message received ((bookkeeping tools opts).contract .client)
      (fun stage _ _ w => Entered base message received stage w) where
  records := by
    intro events start w event isDecision _ entered
    have unchanged : (ledgerOf w.trace).step event = ledgerOf w.trace := by
      cases event with
      | forwarded source raw => exact isDecision.elim
      | noted note => exact isDecision.elim
      | _ => rfl
    refine ⟨?_, ?_, entered.unchanged, by rintro ⟨⟩, by rintro ⟨⟩, by rintro (⟨⟨⟩⟩ | ⟨⟨⟩⟩ | ⟨⟨⟩⟩),
      by rintro ⟨⟩⟩
    · rw [World.log_trace]
      refine entered.kept.snoc ?_
      rw [unchanged]
      exact entered.kept _ List.prefix_rfl
    · rw [World.log_trace, ledgerOf_snoc, unchanged]
      exact entered.ledger
  pauses _ _ _ _ _ entered := entered.kept
  resumes := by
    rintro stage q events start w answer w' entered ⟨kept, ⟨trace, pending⟩, -⟩
    refine ⟨kept, trace ▸ entered.ledger, ?_, entered.cleared, ?_, entered.blocked,
      entered.dropped⟩
    · rw [pending]
      exact entered.unchanged
    · rw [pending]
      exact entered.answered
  writes := by
    intro events start w after entered clears
    have base_ : ledgerOf w.trace = base.receive message received := entered.ledger
    have written := @agrees_write base message received after agrees clears.recovers
    refine ⟨?_, ?_, by rintro (⟨⟨⟩⟩ | ⟨⟨⟩⟩), fun _ => clears.recovers, by rintro ⟨⟩,
      by rintro (⟨⟨⟩⟩ | ⟨⟨⟩⟩ | ⟨⟨⟩⟩), by rintro ⟨⟩⟩
    · rw [World.log_trace]
      refine entered.kept.snoc ?_
      change ((ledgerOf w.trace).write message).Kept
      rw [base_]
      exact written.kept
    · rw [World.log_trace, ledgerOf_snoc, if_pos rfl]
      change (ledgerOf w.trace).write message = _
      rw [base_]
  recovers _ _ _ _ _ entered :=
    ⟨entered.kept, entered.ledger, by rintro (⟨⟨⟩⟩ | ⟨⟨⟩⟩), entered.cleared, by rintro ⟨⟩,
      by rintro (⟨⟨⟩⟩ | ⟨⟨⟩⟩ | ⟨⟨⟩⟩), by rintro ⟨⟩⟩
  refuses _ _ _ entered refuses :=
    ⟨entered.kept, entered.ledger, by rintro (⟨⟨⟩⟩ | ⟨⟨⟩⟩), by rintro ⟨⟩, by rintro ⟨⟩,
      fun _ => refuses.not_sync, by rintro ⟨⟩⟩
  answers := by
    intro events start w text sqlState error built entered
    have trace := refusal_trace message error w
    refine ⟨trace ▸ entered.kept, trace ▸ entered.ledger, by rintro (⟨⟨⟩⟩ | ⟨⟨⟩⟩), by rintro ⟨⟩, ?_,
      fun _ => entered.blocked (.inl rfl), by rintro ⟨⟩⟩
    intro _ notQuery
    rw [refusal, if_neg notQuery]
    rfl
  drops _ _ dropped entered :=
    ⟨entered.kept, entered.ledger, fun _ => entered.unchanged (.inl rfl), by rintro ⟨⟩,
      by rintro ⟨⟩, fun _ => dropped.2.1, fun _ => dropped.1⟩
  breaks _ _ _ entered _ :=
    ⟨entered.kept, entered.ledger, by rintro (⟨⟨⟩⟩ | ⟨⟨⟩⟩), by rintro ⟨⟩, by rintro ⟨⟩,
      by rintro (⟨⟨⟩⟩ | ⟨⟨⟩⟩ | ⟨⟨⟩⟩), by rintro ⟨⟩⟩

/-- What a call leaves behind when it returns. -/
theorem Entered.returns {base : Ledger} {message : Message} {received : ConnectionState}
    {stage : Stage} {w : PgWorld} (agrees : base.Agrees received)
    (entered : Entered base message received stage w) (returned : stage.returns = true) :
    ((ledgerOf w.trace).step (.noted (.ended none))).Agrees w.session.state := by
  have ledger := entered.ledger
  cases stage with
  | deciding => cases returned
  | refused => cases returned
  | broken => cases returned
  | written =>
      have uncalled : ((base.receive message received).write message).call = none := by
        unfold Ledger.write
        split <;> rfl
      rw [if_pos rfl] at ledger
      rw [ledger, Ledger.step, uncalled]
      exact agrees_write agrees (entered.cleared rfl)
  | answered =>
      rw [if_neg (by decide)] at ledger
      rw [ledger]
      exact agrees_unanswered agrees (entered.answered rfl) (entered.blocked (.inr (.inl rfl)))
  | dropped =>
      rw [if_neg (by decide)] at ledger
      rw [ledger]
      refine agrees_unanswered agrees (fun _ => ?_) (entered.blocked (.inr (.inr rfl)))
      rw [entered.unchanged (.inr rfl)]
      exact entered.dropped rfl

theorem starts_entered (i : Side) (w : PgWorld) (task : Proc awaits PgWorld Exn Unit)
    (w' : PgWorld) (inv : (bookkeeping tools opts).invariant w) (between : BetweenTurns i w)
    (started : (relay tools opts).start i w task w') :
    (bookkeeping tools opts).Completes BetweenTurns i task w w' := by
  cases i with
  | client =>
      obtain ⟨message, -, rfl, rfl⟩ := started
      have agrees : (ledgerOf w.trace).Agrees w.session.state := between
      have course := @course_entered tools opts _ _ agrees message
      have kept : KeptThroughout w.trace := inv
      have step : ledgerOf (receive w message).trace =
          (ledgerOf w.trace).receive message w.session.state := by
        rw [receive, World.log_trace, ledgerOf_snoc]
        rfl
      have begun : Entered (ledgerOf w.trace) message w.session.state .deciding
          (receive w message) := by
        refine ⟨?_, step, fun _ => rfl, by rintro ⟨⟩, by rintro ⟨⟩,
          by rintro (⟨⟨⟩⟩ | ⟨⟨⟩⟩ | ⟨⟨⟩⟩), by rintro ⟨⟩⟩
        rw [receive, World.log_trace]
        exact kept.snoc (kept_receive agrees.kept)
      refine wp_clientTurn_returned course rfl begun ?_ ?_
      · intro stage events start w returned entered
        have left := entered.returns agrees returned
        refine ⟨?_, ?_⟩
        · exact entered.kept.snoc left.kept
        · change (ledgerOf (w.trace ++ [_])).Agrees _
          rw [ledgerOf_snoc]
          exact left
      · intro error stage events start w _ entered
        exact entered.kept.snoc (entered.kept _ List.prefix_rfl)
  | backend =>
      obtain ⟨chunk, rest, reading, unread, rfl, rfl⟩ := started
      have promised : ∀ start w, BackendTurn start w → w.trace = start.trace ∧
          w.session.state.extendedErrorPending = start.session.state.extendedErrorPending :=
        fun _ _ turn => ⟨turn.trace_eq, turn.reported.pending⟩
      refine Proc.wp_mono (wp_backendTurn (fun _ _ _ turn => promised _ _ turn) reading unread)
        ?_ ?_
      · intro _ _ _ turn
        exact ⟨promised _ _ turn, trivial⟩
      · intro _ _ _ turn
        exact promised _ _ turn

/-- In every run, of a batch with a refused `Execute` what was sent before that is forwarded. -/
theorem kept_of_run {state : ConnectionState} {framer : Framer} {stream : Bytes}
    {c : Config awaits PgWorld Exn Side}
    (run : (relay tools opts).Run anyTurn (Config.idle (opened state framer stream)) c) :
    KeptThroughout c.shared.trace := by
  have start : (bookkeeping tools opts).invariant (opened state framer stream) := by
    intro before early
    rw [List.prefix_nil.mp early]
    rintro _ _ ⟨⟩
  have rests : ∀ i, BetweenTurns i (opened state framer stream) := by
    intro i
    cases i with
    | client => exact ⟨by rintro _ _ ⟨⟩, fun _ none => absurd rfl none, fun _ _ => rfl⟩
    | backend => trivial
  have initially : (bookkeeping tools opts).Holds BetweenTurns
      (Config.idle (opened state framer stream)) := ⟨start, rests⟩
  exact (Promises.holds_of_run_resting betweenTurns_stable starts_entered initially run).1

/-- Whether the `Sync` behind a trace commits anything of its batch. -/
def CommitsNothing {Effect : Type} (database : Database Effect) (trace : List (Event adapter))
    (sync : Message) : Prop :=
  (database.after (sentMessages trace ++ [sync])).committed =
    (database.after (ledgerOf trace).earlier).committed

/-- A backend that raises no error and whose every `Execute` has an effect. -/
def eager {Effect : Type} (effect : Effect) : Database Effect :=
  ⟨fun _ => false, fun _ => [effect]⟩

/--
The `Sync` of an extended batch with a refused `Execute` commits nothing of the
batch exactly when the backend raises an error for a message that the client had
sent before that `Execute`, or none of the `Execute` messages before it has an
effect; and this is so for every backend exactly when there are none.
-/
theorem refusedBatch_committed {Effect : Type} [Nonempty Effect]
    {state : ConnectionState} {framer : Framer} {stream : Bytes}
    {c : Config awaits PgWorld Exn Side}
    (run : (relay tools opts).Run anyTurn (Config.idle (opened state framer stream)) c)
    {before after : List (Event adapter)} {sync : Message} {raw : Bytes} {early : List Message}
    (ends : c.shared.trace = before ++ .forwarded sync raw :: after) (isSync : sync.type = 'S')
    (batch : (ledgerOf before).Extended) (refused : (ledgerOf before).refused = some early) :
    (∀ database : Database Effect, CommitsNothing database before sync ↔
      database.Raises (ledgerOf before).earlier early ∨
        database.Harmless (ledgerOf before).earlier early) ∧
    ((∀ database : Database Effect, CommitsNothing database before sync) ↔
      ∀ message ∈ early, message.type ≠ 'E') := by
  have batched := batched before
  have kept := kept_of_run run before (ends ▸ List.prefix_append _ _) batch early refused
  have each : ∀ database : Database Effect, CommitsNothing database before sync ↔
      database.Raises (ledgerOf before).earlier early ∨
        database.Harmless (ledgerOf before).earlier early := by
    intro database
    rw [CommitsNothing, batched.forwarded, ← kept]
    exact Database.commitsNothing_iff (batched.between database) batched.unsynced isSync
  refine ⟨each, ?_, ?_⟩
  · intro all message inside isExecute
    obtain ⟨first, later, split⟩ := List.append_of_mem inside
    obtain ⟨effect⟩ := ‹Nonempty Effect›
    rcases (each (eager effect)).mp (all (eager effect)) with ⟨_, _, _, _, raises⟩ | harmless
    · cases raises
    · cases harmless first message later split isExecute
  · intro none database
    exact (each database).mpr (.inr (Database.harmless_of_none none))

/-! ## A deletion that is run twice -/

/-- A trace around the write found at a place. -/
theorem split_at_write (events : List (Event adapter)) (place : Nat) (message : Message)
    (found : (events[place]?).bind Event.written = some message) :
    ∃ raw, events = events.take place ++ .forwarded message raw :: events.drop (place + 1) := by
  obtain ⟨event, present, written⟩ := Option.bind_eq_some_iff.mp found
  cases event with
  | forwarded source raw =>
      obtain rfl : source = message := Option.some.inj written
      obtain ⟨inside, isEvent⟩ := List.getElem?_eq_some_iff.mp present
      refine ⟨raw, ?_⟩
      rw [← isEvent, List.getElem_cons_drop, List.take_append_drop]
  | _ => cases written

/-- A backend on which an `Execute` has an effect when the last `Parse` is a deletion. -/
def deletingDatabase : Database Message where
  raises _ := false
  effects messages :=
    (messages.filter fun message => message.type = 'P').getLast?.filter
      (· = parseOf "" "DELETE FROM users") |>.toList

def deletion : List Message :=
  [parseOf "" "DELETE FROM users", bindOf "" "", executeOf ""]

def reading : List Message := [parseOf "" "SELECT 1", bindOf "" "", executeOf ""]

theorem framed_batch : ∀ message ∈ syncMessage :: (reading ++ deletion), Framed message := by
  have takes : ∀ message ∈ syncMessage :: (reading ++ deletion),
      takeMessage message.raw.length message.raw = .ok (some (message, [])) := by decide +kernel
  exact fun message inside => framed_of_takes (takes message inside)

theorem framed_deletion : ∀ message ∈ deletion, Framed message :=
  fun message inside =>
    framed_batch message (List.mem_cons_of_mem _ (List.mem_append_right _ inside))

/-- The reading has no effect, and the deletion behind it is not executed. -/
theorem harmless_reading : deletingDatabase.Harmless [] (reading ++ deletion.take 2) := by
  have parts : reading ++ deletion.take 2 = [parseOf "" "SELECT 1", bindOf "" ""] ++
      [executeOf ""] ++ [parseOf "" "DELETE FROM users"] ++ [bindOf "" ""] := rfl
  have unexecuted : ∀ message ∈ [parseOf "" "SELECT 1", bindOf "" ""], message.type ≠ 'E' := by
    decide +kernel
  rw [parts]
  refine Database.harmless_snoc.mpr ⟨?_, fun isExecute => absurd isExecute (by decide +kernel)⟩
  refine Database.harmless_snoc.mpr ⟨?_, fun isExecute => absurd isExecute (by decide +kernel)⟩
  refine Database.harmless_snoc.mpr ⟨Database.harmless_of_none unexecuted, fun _ => ?_⟩
  decide +kernel

/-- The user is asked about a deletion and declines it. -/
def declined (w : PgWorld) : PgWorld :=
  (handledAll plainTools strictOptions (userAnswers false) w deletion).2

/-- Something is read before. -/
def readFirst : PgWorld :=
  (handledAll plainTools strictOptions (userAnswers false) (freshConnection []) reading).2

/-- A deletion is approved before. -/
def approvedOnce : PgWorld :=
  (handledAll plainTools strictOptions (userAnswers true) (freshConnection []) deletion).2

/-- A batch that reads, and whose deletion is refused, commits nothing. -/
theorem declined_commitsNothing :
    ∃ c before after raw early,
      (relay plainTools strictOptions).Run anyTurn (Config.idle (freshConnection [])) c ∧
      c.shared.trace = before ++ .forwarded syncMessage raw :: after ∧
      (ledgerOf before).refused = some early ∧ early = reading ++ deletion.take 2 ∧
      CommitsNothing deletingDatabase before syncMessage := by
  have start : Reaches plainTools strictOptions (freshConnection []) (freshConnection []) := .refl
  have first : Reaches plainTools strictOptions (freshConnection []) readFirst :=
    start.handledAll (fun message inside => framed_batch message
      (List.mem_cons_of_mem _ (List.mem_append_left _ inside))) (userAnswers false)
      (by decide +kernel)
  have refusing : Reaches plainTools strictOptions (freshConnection []) (declined readFirst) :=
    first.handledAll framed_deletion (userAnswers false) (by decide +kernel)
  obtain ⟨c, run, shared, -⟩ := refusing.handled
    (framed_batch syncMessage List.mem_cons_self) (userAnswers false) (by decide +kernel)
  have found : (c.shared.trace[23]?).bind Event.written = some syncMessage := by
    rw [shared]
    decide +kernel
  obtain ⟨raw, split⟩ := split_at_write c.shared.trace 23 syncMessage found
  have refused : (ledgerOf (c.shared.trace.take 23)).refused =
      some (reading ++ deletion.take 2) := by
    rw [shared]
    decide +kernel
  have batch : (ledgerOf (c.shared.trace.take 23)).Extended := by
    rw [shared]
    unfold Ledger.Extended Message.IsExtended
    decide +kernel
  have earlier : (ledgerOf (c.shared.trace.take 23)).earlier = [] := by
    rw [shared]
    decide +kernel
  have inhabited : Nonempty Message := ⟨syncMessage⟩
  have both := @refusedBatch_committed _ _ Message inhabited _ _ _ _ run _ _ _ _ _ split rfl batch
    refused
  refine ⟨c, _, _, raw, _, run, split, refused, rfl, (both.1 deletingDatabase).mpr (.inr ?_)⟩
  rw [earlier]
  exact harmless_reading

/-- A batch whose deletion is approved once and then refused commits the first run. -/
theorem approvedOnce_committed :
    ∃ c before after raw early,
      (relay plainTools strictOptions).Run anyTurn (Config.idle (freshConnection [])) c ∧
      c.shared.trace = before ++ .forwarded syncMessage raw :: after ∧
      (ledgerOf before).Extended ∧ (ledgerOf before).refused = some early ∧
      ¬ CommitsNothing deletingDatabase before syncMessage := by
  have start : Reaches plainTools strictOptions (freshConnection []) (freshConnection []) := .refl
  have approving : Reaches plainTools strictOptions (freshConnection []) approvedOnce :=
    start.handledAll framed_deletion (userAnswers true) (by decide +kernel)
  have refusing : Reaches plainTools strictOptions (freshConnection []) (declined approvedOnce) :=
    approving.handledAll framed_deletion (userAnswers false) (by decide +kernel)
  obtain ⟨c, run, shared, -⟩ := refusing.handled
    (framed_batch syncMessage List.mem_cons_self) (userAnswers false) (by decide +kernel)
  have found : (c.shared.trace[26]?).bind Event.written = some syncMessage := by
    rw [shared]
    decide +kernel
  obtain ⟨raw, split⟩ := split_at_write c.shared.trace 26 syncMessage found
  refine ⟨c, _, _, raw, deletion ++ deletion.take 2, run, split, ?_, ?_, ?_⟩
  · rw [shared]
    unfold Ledger.Extended Message.IsExtended
    decide +kernel
  · rw [shared]
    decide +kernel
  · rw [shared]
    unfold CommitsNothing
    decide +kernel

end SqlSafetyProxy.Postgres
