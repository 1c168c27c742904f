import SqlSafetyProxy.Postgres.Responses

/-!
# The order of responses

The proxy answers a refused message at once, while responses to what it has
forwarded may still be on their way.  They come first exactly when the backend
has answered everything and the backend task has read all of it.
-/

namespace SqlSafetyProxy.Postgres

open SqlSafetyProxy.Sql SqlSafetyProxy.Policy SqlSafetyProxy.Wire SqlSafetyProxy.Runtime
open SqlSafetyProxy.Coroutine

variable {tools : Tools} {opts : ProxyOptions} {responder : Responder}
  {initial : TransactionStatus}

/-! ## What is on its way -/

/-- The messages from the first one on whose response is not among the bytes in full. -/
def Responder.unanswered (responder : Responder) (earlier : List Message) :
    List Message → Bytes → List Message
  | [], _ => []
  | message :: rest, bytes =>
      if bytesOf (responder.answers (earlier ++ [message])) <+: bytes then
        unanswered responder (earlier ++ [message]) rest
          (bytes.drop (bytesOf (responder.answers (earlier ++ [message]))).length)
      else message :: rest

/-- The backend has answered all it was sent, and the backend task has read all it has sent. -/
structure Quiet (responder : Responder) (w : PgWorld) : Prop where
  answered : responder.unanswered [] (sentMessages w.trace) w.peer.sent = []
  read : w.peer.unread = []

/-- The status of the backend has not changed since it was reported last. -/
def StatusReported (responder : Responder) (initial : TransactionStatus) (w : PgWorld) : Prop :=
  responder.status (sentMessages w.trace) =
    lastReported initial (responder.owed (sentMessages w.trace))

theorem unanswered_eq_nil {earlier messages : List Message} {bytes : Bytes} :
    responder.unanswered earlier messages bytes = [] ↔
      bytesOf (responder.owedFrom earlier messages) <+: bytes := by
  induction messages generalizing earlier bytes with
  | nil => exact iff_of_true rfl List.nil_prefix
  | cons message rest ih =>
      rw [Responder.unanswered, Responder.owedFrom, bytesOf_append]
      split
      · next answered =>
        obtain ⟨later, rfl⟩ := answered
        rw [ih, List.drop_left, List.prefix_append_right_inj]
      · next missing =>
        refine iff_of_false (List.cons_ne_nil _ _) fun all => missing ?_
        exact (List.prefix_append _ _).trans all

/-! ## Answers to refused messages -/

/-- The message that the client task has taken up last. -/
def inHand (w : PgWorld) : Option Message := (receivedMessages w.trace).getLast?

/-- The `ReadyForQuery` behind the error that answers a message. -/
def readyAfter (message : Message) (status : TransactionStatus) : List ClientWrite :=
  if message.type = 'Q' then [.built (buildReadyForQuery status)] else []

/-- What a turn of the client task writes to the client: nothing, or an answer that refuses. -/
inductive Answers (w w' : PgWorld) : Prop where
  | silent : w'.clientOut = w.clientOut → Answers w w'
  | refused {message : Message} {error : Bytes} : inHand w' = some message →
      error.head? = some 0x45 → sentMessages w'.trace = sentMessages w.trace →
      w'.clientOut = w.clientOut ++
        .built error :: readyAfter message w.session.state.transactionStatus →
      Answers w w'

/--
What the proxy writes itself in a turn comes after the responses to everything
forwarded before, and with the backend's status.
-/
structure InOrder (responder : Responder) (w w' : PgWorld) : Prop where
  responses : ∀ before raw after, w'.clientOut = before ++ .built raw :: after →
    w.clientOut.length ≤ before.length →
    (fromBackend before).flatten = bytesOf (responder.owed (sentMessages w.trace))
  status : ∀ status, .built (buildReadyForQuery status) ∈ w'.clientOut.drop w.clientOut.length →
    status = responder.status (sentMessages w.trace)

/-! ### When they come in order -/

/-- What has been relayed and what is still to be read is all that the backend has sent. -/
def AllKept (w : PgWorld) : Prop :=
  w.peer.closed = false → relayedBytes w ++ w.peer.unread = w.peer.sent

section Order

variable {w w' : PgWorld}

theorem Served.status_eq (served : Served responder initial w)
    (all : relayedBytes w = owedBytes responder w) :
    w.session.state.transactionStatus =
      lastReported initial (responder.owed (sentMessages w.trace)) := by
  obtain ⟨messages, rest, owed, relayed, status⟩ := served.progress
  rw [relayed, owedBytes, owed, bytesOf_append, List.append_cancel_left_eq] at all
  cases rest with
  | nil =>
      rw [owed, List.append_nil]
      exact status (.inr rfl)
  | cons next later =>
      exfalso
      have framed : Framed next := by
        refine responder.framed_owedFrom [] (sentMessages w.trace) next ?_
        rw [show responder.owedFrom [] (sentMessages w.trace) = messages ++ next :: later from owed]
        simp
      have waiting := served.waiting
      rw [all, bytesOf, List.map_cons, List.flatten_cons] at waiting
      exact takeMessage_ne_none (isMessage_of_framed framed) waiting

/-- All responses have been relayed when nothing is on its way, and not before. -/
theorem quiet_iff (served : Served responder initial w) (kept : AllKept w)
    (reachable : w.peer.closed = false) :
    Quiet responder w ↔ relayedBytes w = owedBytes responder w := by
  have sent := kept reachable
  constructor
  · rintro ⟨answered, read⟩
    rw [read, List.append_nil] at sent
    have all := unanswered_eq_nil.mp answered
    rw [← sent] at all
    exact served.causal.eq_of_length_le all.length_le
  · intro all
    have arrived := served.arrived reachable
    rw [all] at arrived
    have read : w.peer.unread = [] := by
      have lengths := arrived.length_le
      rw [List.length_append] at lengths
      exact List.length_eq_zero_iff.mp (by omega)
    rw [read, List.append_nil, all] at sent
    refine ⟨unanswered_eq_nil.mpr ?_, read⟩
    rw [← sent]
    exact List.prefix_rfl

theorem fromBackend_readyAfter (message : Message) (status : TransactionStatus) :
    fromBackend (readyAfter message status) = [] := by
  unfold readyAfter
  split <;> rfl

/-- What has been relayed before an answer had been relayed before its turn. -/
theorem relayed_before {added before after : List ClientWrite} {raw : Bytes}
    (unrelayed : fromBackend added = [])
    (split : w.clientOut ++ added = before ++ .built raw :: after)
    (late : w.clientOut.length ≤ before.length) :
    (fromBackend before).flatten = relayedBytes w := by
  obtain ⟨middle, rfl, rest⟩ | ⟨middle, same, -⟩ := List.append_eq_append_iff.mp split
  · rw [rest, fromBackend_append, List.append_eq_nil_iff] at unrelayed
    rw [fromBackend_append, unrelayed.1, List.append_nil]
    rfl
  · have empty : middle = [] := by
      rw [same, List.length_append] at late
      exact List.length_eq_zero_iff.mp (by omega)
    rw [relayedBytes, same, empty, List.append_nil]

/-- An answer is in order exactly when nothing is on its way and its status is the backend's. -/
theorem inOrder_iff (served : Served responder initial w) (kept : AllKept w)
    (reachable : w.peer.closed = false) (answers : Answers w w')
    (wrote : w'.clientOut ≠ w.clientOut) :
    InOrder responder w w' ↔ Quiet responder w ∧
      ((inHand w').any (fun message => message.type = 'Q') = true →
        StatusReported responder initial w) := by
  rw [quiet_iff served kept reachable]
  cases answers with
  | silent same => exact absurd same wrote
  | @refused message error hand head _ out =>
      have unrelayed : fromBackend (.built error ::
          readyAfter message w.session.state.transactionStatus) = [] :=
        fromBackend_readyAfter message _
      constructor
      · rintro ⟨responses, status⟩
        have all : relayedBytes w = owedBytes responder w :=
          responses w.clientOut error _ out (Nat.le_refl _)
        refine ⟨all, fun isQuery => ?_⟩
        rw [hand, Option.any_some, decide_eq_true_eq] at isQuery
        rw [StatusReported, ← served.status_eq all]
        refine (status _ ?_).symm
        rw [out, List.drop_left, readyAfter, if_pos isQuery]
        simp
      · rintro ⟨all, isReported⟩
        refine ⟨?_, ?_⟩
        · intro before raw after split late
          rw [out] at split
          rw [relayed_before unrelayed split late, all]
          rfl
        · intro status inside
          rw [out, List.drop_left, List.mem_cons] at inside
          rcases inside with same | inside
          · rw [← ClientWrite.built.inj same] at head
            cases head
          · unfold readyAfter at inside
            split at inside
            · next isQuery =>
              have sent := buildReadyForQuery_inj (ClientWrite.built.inj (List.mem_singleton.mp inside))
              rw [sent, served.status_eq all]
              exact (isReported (by rw [hand]; simpa using isQuery)).symm
            · cases inside

end Order

/-! ## The two tasks -/

theorem allKept_backend {w w' : PgWorld} (kept : AllKept w) (turn : BackendTurn w w') :
    AllKept w' := by
  intro reachable
  cases turn.relays with
  | idle same =>
      rw [same] at reachable ⊢
      exact kept reachable
  | stopped closed _ _ =>
      rw [closed] at reachable
      cases reachable
  | @chunk chunk _ reading unread _ _ out =>
      have grown : relayedBytes w' = relayedBytes w ++ chunk := by
        rw [relayedBytes, out, fromBackend_append]
        simp [fromBackend, relayedBytes]
      rw [grown, List.append_assoc, ← unread, turn.sent_eq]
      exact kept reading

/-- The promises of the two tasks about the order of responses. -/
def ordering (tools : Tools) (opts : ProxyOptions) (responder : Responder)
    (ready : PgWorld → Message → Prop) (initial : TransactionStatus) :
    Promises (served tools opts responder ready) anyTurn where
  invariant w := Served responder initial w ∧ AllKept w
  guarantee
    | .client, start, w => ClientMove start w ∧ Answers start w
    | .backend, start, w => BackendTurn start w
  rely
    | .client, w, w' => w'.trace = w.trace
    | .backend, _, _ => True
  rely_refl i _ := by
    cases i with
    | client => rfl
    | backend => trivial
  rely_trans i _ _ _ first second := by
    cases i with
    | client => exact second.trans first
    | backend => trivial
  environment_invariant w _ inv moved _ := by
    obtain ⟨bytes, rfl, sends⟩ := moved
    refine ⟨served_arrive inv.1 sends, fun reachable => ?_⟩
    have kept := inv.2 reachable
    change relayedBytes w ++ (w.peer.unread ++ bytes) = w.peer.sent ++ bytes
    rw [← List.append_assoc, kept]
  environment_relied i _ _ _ _ moved := by
    obtain ⟨bytes, rfl, -⟩ := moved
    cases i with
    | client => rfl
    | backend => trivial
  guarantee_invariant i w w' inv guaranteed _ := by
    cases i with
    | client =>
        obtain ⟨move, -⟩ := guaranteed
        refine ⟨served_client inv.1 move, fun reachable => ?_⟩
        rw [move.turn.peer_eq] at reachable ⊢
        rw [move.turn.relayedBytes_eq]
        exact inv.2 reachable
    | backend => exact ⟨served_backend inv.1 guaranteed, allKept_backend inv.2 guaranteed⟩
  guarantee_relied i j _ _ other _ _ guaranteed := by
    cases i with
    | client =>
        cases j with
        | client => exact absurd rfl other
        | backend => exact BackendTurn.trace_eq guaranteed
    | backend => trivial

/-- The condition of each stage of a call. -/
structure Orderly (message : Message) (stage : Stage) (start w : PgWorld) : Prop where
  move : ClientMove start w
  hand : inHand w = some message
  quiet : stage = .deciding ∨ stage = .refused →
    sentMessages w.trace = sentMessages start.trace ∧ w.clientOut = start.clientOut
  answers : Answers start w

theorem inHand_log {w : PgWorld} {event : Event adapter} (inside : Event.received event = none) :
    inHand (w.log event) = inHand w := by
  simp [inHand, receivedMessages, inside]

theorem inHand_receive (w : PgWorld) (message : Message) :
    inHand (receive w message) = some message := by
  simp [inHand, receive, receivedMessages, Event.received]

/-- Neither the state nor what is noted changes what has been answered. -/
theorem Answers.congr {start w w' : PgWorld} (answers : Answers start w)
    (hand : inHand w' = inHand w) (sent : sentMessages w'.trace = sentMessages w.trace)
    (out : w'.clientOut = w.clientOut) : Answers start w' := by
  cases answers with
  | silent same => exact .silent (out.trans same)
  | refused inHand' head same added =>
      exact .refused (hand.trans inHand') head (sent.trans same) (out.trans added)

/-- The answer to a refused message. -/
theorem answers_refusal {message : Message} {start w : PgWorld} (move : ClientMove start w)
    (hand : inHand w = some message) (sent : sentMessages w.trace = sentMessages start.trace)
    (out : w.clientOut = start.clientOut) {text sqlState : String} {error : Bytes}
    (built : buildErrorResponse text sqlState = .ok error) :
    Answers start (refusal message error w) := by
  have trace := refusal_trace message error w
  refine @Answers.refused _ _ message error ?_ (buildErrorResponse_head built)
    (by rw [trace]; exact sent) ?_
  · rw [inHand, trace]
    exact hand
  · rw [refusal, readyAfter, ← move.status_eq]
    split
    · simp [out]
    · simp [Postgres.withState, out]

theorem course_orderly {ready : PgWorld → Message → Prop} (message : Message)
    (received : ConnectionState) :
    Course tools opts message received
      ((ordering tools opts responder ready initial).contract .client)
      (fun stage _ start w => Orderly message stage start w) where
  records := by
    intro events start w event isDecision _ orderly
    have silent : Event.written event = none ∧ Event.received event = none := by
      cases event with
      | forwarded source raw => exact isDecision.elim
      | noted note => exact isDecision.elim
      | _ => exact ⟨rfl, rfl⟩
    have sent : sentMessages (w.log event).trace = sentMessages w.trace := by
      simp [sentMessages, silent.1]
    have hand := @inHand_log w event silent.2
    obtain ⟨same, out⟩ := orderly.quiet (.inl rfl)
    exact ⟨orderly.move.log event, hand.trans orderly.hand, fun _ => ⟨sent.trans same, out⟩,
      orderly.answers.congr hand sent rfl⟩
  pauses _ _ _ _ _ orderly := ⟨orderly.move, orderly.answers⟩
  resumes := by
    rintro stage q events start w answer w' orderly ⟨-, same, -⟩
    have trace : w'.trace = w.trace := same
    refine ⟨clientMove_refl w', ?_, fun _ => ⟨rfl, rfl⟩, .silent rfl⟩
    rw [inHand, trace]
    exact orderly.hand
  writes := by
    intro events start w after orderly clears
    obtain ⟨-, out⟩ := orderly.quiet (.inl rfl)
    exact ⟨(orderly.move.withState clears.status_eq).log _,
      (inHand_log rfl).trans orderly.hand, by rintro (⟨⟨⟩⟩ | ⟨⟨⟩⟩), .silent out⟩
  recovers _ _ _ _ _ orderly :=
    ⟨orderly.move.withState rfl, orderly.hand, by rintro (⟨⟨⟩⟩ | ⟨⟨⟩⟩),
      orderly.answers.congr rfl rfl rfl⟩
  refuses _ _ _ orderly _ :=
    ⟨orderly.move, orderly.hand, fun _ => orderly.quiet (.inl rfl), orderly.answers⟩
  answers := by
    intro events start w text sqlState error built orderly
    obtain ⟨sent, out⟩ := orderly.quiet (.inr rfl)
    refine ⟨orderly.move.refusal message built, ?_, by rintro (⟨⟨⟩⟩ | ⟨⟨⟩⟩),
      answers_refusal orderly.move orderly.hand sent out built⟩
    rw [inHand, refusal_trace]
    exact orderly.hand
  drops _ _ _ orderly :=
    ⟨orderly.move, orderly.hand, by rintro (⟨⟨⟩⟩ | ⟨⟨⟩⟩), orderly.answers⟩
  breaks _ _ _ orderly _ :=
    ⟨orderly.move, orderly.hand, by rintro (⟨⟨⟩⟩ | ⟨⟨⟩⟩), orderly.answers⟩

theorem starts_orderly {ready : PgWorld → Message → Prop} (i : Side) (w : PgWorld)
    (task : Proc awaits PgWorld Exn Unit) (w' : PgWorld)
    (_ : (ordering tools opts responder ready initial).invariant w)
    (started : (served tools opts responder ready).start i w task w') :
    (ordering tools opts responder ready initial).Keeps i task w w' := by
  cases i with
  | client =>
      obtain ⟨message, -, -, rfl, rfl⟩ := started
      have course := @course_orderly tools opts responder initial ready message w.session.state
      have sent : sentMessages (receive w message).trace = sentMessages w.trace := by
        simp [receive, sentMessages, Event.written]
      have begun : Orderly message .deciding w (receive w message) :=
        ⟨(clientMove_refl w).log _, inHand_receive w message, fun _ => ⟨sent, rfl⟩, .silent rfl⟩
      refine wp_clientTurn course rfl begun ?_
      intro error stage events start w _ orderly
      refine ⟨orderly.move.log _, orderly.answers.congr (inHand_log rfl) ?_ rfl⟩
      simp [sentMessages, Event.written]
  | backend =>
      obtain ⟨chunk, rest, reading, unread, rfl, rfl⟩ := started
      exact wp_backendTurn (fun _ _ _ turn => turn) reading unread

/--
In every run and every turn in it that writes to a client that can be reached:
all responses to what was forwarded come first and the status is the backend's
exactly when nothing is on its way and, if the refused message is a query, the
backend has reported its status.
-/
theorem refusals_inOrder_iff {ready : PgWorld → Message → Prop} {state : ConnectionState}
    {framer : Framer} {c c' : Config awaits PgWorld Exn Side}
    (run : (served tools opts responder ready).Run anyTurn
      (Config.idle (opened state framer [])) c)
    (turn : (served tools opts responder ready).Step (some .client) c c')
    (reachable : c.shared.peer.closed = false)
    (wrote : c'.shared.clientOut ≠ c.shared.clientOut) :
    InOrder responder c.shared c'.shared ↔ Quiet responder c.shared ∧
      ((inHand c'.shared).any (fun message => message.type = 'Q') = true →
        StatusReported responder state.transactionStatus c.shared) := by
  have start : (ordering tools opts responder ready state.transactionStatus).invariant
      (opened state framer []) := ⟨served_opened, fun _ => rfl⟩
  have holds := (ordering tools opts responder ready state.transactionStatus).holds_of_run
    starts_orderly (Promises.holds_idle _ start) run
  have kept := Promises.guarantee_of_step starts_orderly holds turn
  exact inOrder_iff holds.1.1 holds.1.2 reachable kept.2 wrote

/-! ## A refusal after a batch -/

/-- A batch of a `Parse` and a `Sync` has been forwarded. -/
def syncSent : PgWorld :=
  (handled plainTools silentOptions (userAnswers true) parseSent syncMessage).2

/-- The responses to a `Parse` and a `Sync`. -/
def syncResponses : Bytes := [0x31, 0, 0, 0, 4] ++ buildReadyForQuery .idle

/-- They have been relayed. -/
def syncRelayed : PgWorld :=
  (relayed (userAnswers true) (arrive syncSent syncResponses) syncResponses []).2

/-- A system in which any message may come at any time. -/
abbrev plainlyServed : System awaits PgWorld Exn Side :=
  served plainTools silentOptions plainResponder fun _ _ => True

theorem rests_syncRelayed : plainlyServed.Rests (freshConnection []) syncRelayed := by
  have framedParse : Framed (parseOf "" "SELECT 1") := framed_of_takes (by decide +kernel)
  have framedSync : Framed syncMessage := framed_of_takes (by decide +kernel)
  have start : plainlyServed.Rests (freshConnection []) (freshConnection []) := System.Rests.refl _
  have parsed := rests_handled start framedParse trivial (userAnswers true) (by decide +kernel)
  have sent : plainlyServed.Rests (freshConnection []) syncSent :=
    rests_handled parsed framedSync trivial (userAnswers true) (by decide +kernel)
  have answered : plainlyServed.Rests (freshConnection []) (arrive syncSent syncResponses) :=
    rests_arrive sent (by decide +kernel)
  exact rests_relayed answered (by decide +kernel) (by decide +kernel) (userAnswers true)
    (by decide +kernel)

/-- A query that nobody could execute is refused after the responses to the batch before it. -/
theorem openQuery_inOrder :
    ∃ c c', plainlyServed.Run anyTurn (Config.idle (freshConnection [])) c ∧
      plainlyServed.Step (some .client) c c' ∧
      sentMessages c.shared.trace = [parseOf "" "SELECT 1", syncMessage] ∧
      relayedBytes c.shared = syncResponses ∧
      c'.shared.clientOut ≠ c.shared.clientOut ∧ InOrder plainResponder c.shared c'.shared := by
  obtain ⟨c, run, shared, idle⟩ := rests_syncRelayed
  have turn : plainlyServed.Step (some .client) c _ :=
    .start (idle .client) ⟨openQuery, framed_openQuery, trivial, rfl, rfl⟩
  have wrote : (begun c.shared openQuery).clientOut ≠ c.shared.clientOut := by
    rw [shared]
    decide +kernel
  have reachable : c.shared.peer.closed = false := by
    rw [shared]
    decide +kernel
  have quiet : Quiet plainResponder c.shared := by
    rw [shared]
    exact ⟨by decide +kernel, by decide +kernel⟩
  have reported : StatusReported plainResponder .idle c.shared := by
    rw [shared]
    unfold StatusReported
    decide +kernel
  refine ⟨c, _, run, turn, ?_, ?_, wrote, (refusals_inOrder_iff run turn reachable wrote).mpr
    ⟨quiet, fun _ => reported⟩⟩
  · rw [shared]
    decide +kernel
  · rw [shared]
    decide +kernel

theorem built_of_single {writes : List ClientWrite} (single : writes.length = 1)
    (unrelayed : fromBackend writes = []) : ∃ raw, writes = [.built raw] := by
  obtain ⟨write, rfl⟩ := List.length_eq_one_iff.mp single
  cases write with
  | relayed raw => cases unrelayed
  | built raw => exact ⟨raw, rfl⟩

/-- `ParseComplete` is on its way when the `Execute` of an unknown portal is refused. -/
theorem unboundExecute_early :
    ∃ c c', plainlyServed.Run anyTurn (Config.idle (freshConnection [])) c ∧
      plainlyServed.Step (some .client) c c' ∧ c.shared.peer.closed = false ∧
      c'.shared.clientOut ≠ c.shared.clientOut ∧ ¬ InOrder plainResponder c.shared c'.shared := by
  have framedParse : Framed (parseOf "" "SELECT 1") := framed_of_takes (by decide +kernel)
  have framedExecute : Framed (executeOf "") := framed_of_takes (by decide +kernel)
  have start : plainlyServed.Rests (freshConnection []) (freshConnection []) := System.Rests.refl _
  obtain ⟨c, run, shared, idle⟩ : plainlyServed.Rests (freshConnection []) parseSent :=
    rests_handled start framedParse trivial (userAnswers true) (by decide +kernel)
  have turn : plainlyServed.Step (some .client) c _ :=
    .start (idle .client) ⟨executeOf "", framedExecute, trivial, rfl, rfl⟩
  have silent : c.shared.clientOut = [] := by
    rw [shared]
    decide +kernel
  obtain ⟨error, out⟩ : ∃ error, (begun c.shared (executeOf "")).clientOut = [.built error] := by
    rw [shared]
    exact built_of_single (by decide +kernel) (by decide +kernel)
  refine ⟨c, _, run, turn, ?_, ?_, ?_⟩
  · rw [shared]
    decide +kernel
  · rw [silent]
    exact fun none => List.cons_ne_nil _ _ (out.symm.trans none)
  · intro inOrder
    have all := inOrder.responses [] error [] out (by rw [silent])
    rw [shared] at all
    exact absurd all (by decide +kernel)

end SqlSafetyProxy.Postgres
