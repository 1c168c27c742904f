import SqlSafetyProxy.Postgres.ClientStream

/-!
# Responses of the backend

A backend answers the messages it is sent in order; its bytes arrive at the
proxy at any later time and in any pieces.  What the proxy has relayed is then
always a part of what is owed, and the status it keeps is the one that the
relayed part reports last.
-/

namespace SqlSafetyProxy.Postgres

open SqlSafetyProxy.Wire SqlSafetyProxy.Runtime SqlSafetyProxy.Coroutine

variable {tools : Tools} {opts : ProxyOptions}

/-! ## A backend that answers in order -/

/--
A backend, by the responses to the last of the messages it has received and by
its transaction status after them.
-/
structure Responder where
  answers : List Message → List Message
  status : List Message → TransactionStatus
  framed : ∀ messages, ∀ answer ∈ answers messages, Framed answer

namespace Responder

variable (responder : Responder)

def owedFrom (earlier : List Message) : List Message → List Message
  | [] => []
  | message :: rest =>
      responder.answers (earlier ++ [message]) ++ owedFrom (earlier ++ [message]) rest

/-- The responses to some messages, in order. -/
def owed (messages : List Message) : List Message := responder.owedFrom [] messages

theorem owedFrom_append (earlier first second : List Message) :
    responder.owedFrom earlier (first ++ second) =
      responder.owedFrom earlier first ++ responder.owedFrom (earlier ++ first) second := by
  induction first generalizing earlier with
  | nil => simp [owedFrom]
  | cons message rest ih => simp [owedFrom, ih]

theorem owed_prefix {first second : List Message} (isPrefix : first <+: second) :
    responder.owed first <+: responder.owed second := by
  obtain ⟨rest, rfl⟩ := isPrefix
  rw [owed, owed, owedFrom_append]
  exact List.prefix_append _ _

theorem framed_owedFrom (earlier messages : List Message) :
    ∀ answer ∈ responder.owedFrom earlier messages, Framed answer := by
  induction messages generalizing earlier with
  | nil => simp [owedFrom]
  | cons message rest ih =>
      intro answer inside
      rcases List.mem_append.mp inside with now | later
      · exact responder.framed _ answer now
      · exact ih _ answer later

end Responder

/-- The bytes of some messages. -/
def bytesOf (messages : List Message) : Bytes := (messages.map Message.raw).flatten

@[simp] theorem bytesOf_append (first second : List Message) :
    bytesOf (first ++ second) = bytesOf first ++ bytesOf second := by
  simp [bytesOf]

/-- The bytes that were relayed to the client. -/
def relayedBytes (w : PgWorld) : Bytes := (fromBackend w.clientOut).flatten

/-- The bytes of all responses to what was written to the backend. -/
def owedBytes (responder : Responder) (w : PgWorld) : Bytes :=
  bytesOf (responder.owed (sentMessages w.trace))

/-- Some more bytes of the backend arrive. -/
def arrive (w : PgWorld) (bytes : Bytes) : PgWorld :=
  { w with peer := { w.peer with
    unread := w.peer.unread ++ bytes
    sent := w.peer.sent ++ bytes } }

/--
The two tasks with a backend that answers in order.  The client task takes up
any framed message for which `ready` holds.
-/
def served (tools : Tools) (opts : ProxyOptions) (responder : Responder)
    (ready : PgWorld → Message → Prop) : System awaits PgWorld Exn Side where
  start
    | .client, w, task, w' => ∃ message, Framed message ∧ ready w message ∧
        task = clientTurn tools opts message ∧ w' = receive w message
    | .backend, w, task, w' => ∃ chunk rest, w.peer.closed = false ∧
        w.peer.unread = chunk ++ rest ∧ task = backendTurn chunk ∧ w' = readChunk w rest
  answers _ _ _ := True
  environment w w' := ∃ bytes, w' = arrive w bytes ∧
    relayedBytes w ++ w.peer.unread ++ bytes <+: owedBytes responder w

/-- The status that the messages report last. -/
def lastReported (initial : TransactionStatus) (messages : List Message) : TransactionStatus :=
  (messages.filterMap Message.status).getLast?.getD initial

theorem transactionStatus_reports (initial : TransactionStatus) (earlier messages : List Message)
    (state : ConnectionState) (current : state.transactionStatus = lastReported initial earlier) :
    (reports messages state).transactionStatus = lastReported initial (earlier ++ messages) := by
  induction messages using List.reverseRecOn with
  | nil => simpa [reports] using current
  | append_singleton rest message ih =>
      cases status : message.status with
      | none => simpa [reports, lastReported, List.filterMap_append, status] using ih
      | some reported =>
          simp [reports, lastReported, List.filterMap_append, status, List.foldl_append,
            ConnectionState.updateTransactionStatus]

/-! ## Framing is unique -/

/-- A framed message is determined by its bytes. -/
theorem framed_eq {first second : Message} (one : Framed first) (two : Framed second)
    (same : first.raw = second.raw) : first = second := by
  obtain ⟨_, _, _, taken⟩ := one
  obtain ⟨_, _, _, taken'⟩ := two
  obtain ⟨type, payload⟩ := takeMessage_fields taken
  obtain ⟨type', payload'⟩ := takeMessage_fields taken'
  rw [same, type'] at type
  rw [same, ← payload'] at payload
  cases first
  cases second
  simp only [Option.some.injEq] at type
  simp_all

theorem isMessage_of_framed {message : Message} (framed : Framed message) :
    IsMessage message.raw := by
  obtain ⟨_, _, _, taken⟩ := framed
  exact (takeMessage_some taken).2.1

/-- Framed bytes of framed messages are the first of these messages. -/
theorem framed_split {found messages : List Message} {tail : Bytes}
    (framed : ∀ message ∈ found, Framed message)
    (others : ∀ message ∈ messages, Framed message)
    (same : bytesOf found ++ tail = bytesOf messages) :
    ∃ rest, messages = found ++ rest ∧ tail = bytesOf rest := by
  induction found generalizing messages with
  | nil => exact ⟨messages, rfl, by simpa [bytesOf] using same⟩
  | cons first later ih =>
      have isFirst := framed first List.mem_cons_self
      cases messages with
      | nil =>
          obtain ⟨type, b₁, b₂, b₃, b₄, payload, raw, -⟩ :=
            isMessage_length (isMessage_of_framed isFirst)
          simp [bytesOf, raw] at same
      | cons message remaining =>
          have isMessage := others message List.mem_cons_self
          simp only [bytesOf, List.map_cons, List.flatten_cons, List.append_assoc] at same
          obtain ⟨sameRaw, sameLater⟩ := isMessage_unique (isMessage_of_framed isFirst)
            (isMessage_of_framed isMessage) same
          obtain rfl := framed_eq isFirst isMessage sameRaw
          obtain ⟨rest, rfl, rfl⟩ := ih
            (fun message inside => framed message (List.mem_cons_of_mem _ inside))
            (fun message inside => others message (List.mem_cons_of_mem _ inside)) sameLater
          exact ⟨rest, rfl, rfl⟩

theorem Framer.push_framed {framer framer' : Framer} {chunk : Bytes} {messages : List Message}
    (pushed : framer.push chunk = .ok (messages, framer')) :
    ∀ message ∈ messages, Framed message := by
  unfold Framer.push at pushed
  simp only at pushed
  split at pushed
  · cases pushed
  · next taken =>
    cases pushed
    intro message inside
    obtain ⟨buffer, rest, one⟩ := takeMessages_taken taken message inside
    exact ⟨_, _, _, one⟩

/-! ## What has been relayed -/

/--
What is known in every state: the relayed bytes are a part of what is owed, cut
where the framer stands, and the status is the one they report last, as long as
no later report has been read in vain.
-/
structure Served (responder : Responder) (initial : TransactionStatus) (w : PgWorld) : Prop where
  progress : ∃ messages rest, responder.owed (sentMessages w.trace) = messages ++ rest ∧
    relayedBytes w = bytesOf messages ++ w.session.framer.buffer ∧
    (w.peer.closed = false ∨ rest.filterMap Message.status = [] →
      w.session.state.transactionStatus = lastReported initial messages)
  causal : relayedBytes w <+: owedBytes responder w
  arrived : w.peer.closed = false → relayedBytes w ++ w.peer.unread <+: owedBytes responder w
  waiting : takeMessage w.session.framer.maxMessageBytes w.session.framer.buffer = .ok none

/-- What a turn of the client task does to the backend's side. -/
structure ClientMove (w w' : PgWorld) : Prop where
  turn : ClientTurn w w'
  status_eq : w'.session.state.transactionStatus = w.session.state.transactionStatus
  sends : sentMessages w.trace <+: sentMessages w'.trace

theorem clientMove_refl (w : PgWorld) : ClientMove w w :=
  ⟨clientTurn_refl w, rfl, List.prefix_rfl⟩

theorem ClientTurn.relayedBytes_eq {w w' : PgWorld} (turn : ClientTurn w w') :
    relayedBytes w' = relayedBytes w := by
  obtain ⟨added, out, built⟩ := turn.writes
  rw [relayedBytes, out, fromBackend_append, fromBackend_built built, List.append_nil]
  rfl

theorem ClientMove.log {start w : PgWorld} (move : ClientMove start w) (event : Event adapter) :
    ClientMove start (w.log event) := by
  refine ⟨⟨move.turn.framer_eq, move.turn.peer_eq, move.turn.writes⟩, move.status_eq, ?_⟩
  rw [World.log_trace, sentMessages_append]
  exact move.sends.trans (List.prefix_append _ _)

theorem ClientMove.withState {start w : PgWorld} (move : ClientMove start w)
    {state : ConnectionState}
    (same : state.transactionStatus = w.session.state.transactionStatus) :
    ClientMove start (withState w state) :=
  ⟨⟨move.turn.framer_eq, move.turn.peer_eq, move.turn.writes⟩, same.trans move.status_eq,
    move.sends⟩

theorem ClientMove.refusal {start w : PgWorld} (move : ClientMove start w) (message : Message)
    {text sqlState : String} {error : Bytes}
    (built : buildErrorResponse text sqlState = .ok error) :
    ClientMove start (refusal message error w) := by
  have answered : ClientMove start (w.answer (.built error)) :=
    ⟨move.turn.answers ⟨error, rfl, isMessage_buildErrorResponse built⟩, move.status_eq,
      move.sends⟩
  rw [Postgres.refusal]
  split
  · exact ⟨answered.turn.answers ⟨_, rfl, isMessage_buildReadyForQuery _⟩, answered.status_eq,
      answered.sends⟩
  · exact answered.withState rfl

/-- The only `ReadyForQuery` of a refusal answers a query, with the status kept. -/
theorem ready_refusal {start w : PgWorld} {message : Message} (out : w.clientOut = start.clientOut)
    {text sqlState : String} {error : Bytes}
    (built : buildErrorResponse text sqlState = .ok error) {status : TransactionStatus}
    (inside : .built (buildReadyForQuery status) ∈
      (refusal message error w).clientOut.drop start.clientOut.length) :
    message.type = 'Q' ∧ status = w.session.state.transactionStatus := by
  have notError : ClientWrite.built (buildReadyForQuery status) ≠ .built error := by
    intro same
    have head := buildErrorResponse_head built
    rw [← ClientWrite.built.inj same] at head
    cases head
  unfold Postgres.refusal at inside
  split at inside
  · next isQuery =>
    simp only [World.answer_clientOut, out, List.append_assoc, List.drop_left,
      List.cons_append, List.nil_append, List.mem_cons, List.not_mem_nil, or_false] at inside
    rcases inside with isError | isReady
    · exact absurd isError notError
    · exact ⟨isQuery, buildReadyForQuery_inj (ClientWrite.built.inj isReady)⟩
  · simp only [Postgres.withState, World.withSession_clientOut, World.answer_clientOut, out,
      List.drop_left, List.mem_singleton] at inside
    exact absurd inside notError

/-- A cleared message leaves the status alone. -/
theorem Clears.status_eq {message : Message} {received state after : ConnectionState}
    {events : List (Event adapter)}
    (clears : Clears tools opts message received events state after) :
    after.transactionStatus = state.transactionStatus := by
  cases clears with
  | registry _ _ changed => exact registryChange_status changed
  | _ => rfl

theorem bytesOf_prefix {first second : List Message} (isPrefix : first <+: second) :
    bytesOf first <+: bytesOf second := by
  obtain ⟨rest, rfl⟩ := isPrefix
  rw [bytesOf_append]
  exact List.prefix_append _ _

section Preservation

variable {responder : Responder} {initial : TransactionStatus} {w w' : PgWorld}

theorem served_client (served : Served responder initial w) (move : ClientMove w w') :
    Served responder initial w' := by
  obtain ⟨messages, rest, owed, relayed, status⟩ := served.progress
  obtain ⟨more, grown⟩ := responder.owed_prefix move.sends
  have owes : owedBytes responder w <+: owedBytes responder w' :=
    bytesOf_prefix (responder.owed_prefix move.sends)
  refine ⟨⟨messages, rest ++ more, ?_, ?_, ?_⟩, ?_, ?_, ?_⟩
  · rw [← grown, owed, List.append_assoc]
  · rw [move.turn.relayedBytes_eq, relayed, move.turn.framer_eq]
  · rw [move.turn.peer_eq, move.status_eq]
    intro known
    refine status (known.imp id fun silent => ?_)
    rw [List.filterMap_append] at silent
    exact (List.append_eq_nil_iff.mp silent).1
  · rw [move.turn.relayedBytes_eq]
    exact served.causal.trans owes
  · rw [move.turn.relayedBytes_eq, move.turn.peer_eq]
    exact fun reading => (served.arrived reading).trans owes
  · rw [move.turn.framer_eq]
    exact served.waiting

/-- The bytes read next complete the messages that are owed next. -/
theorem Served.completes (served : Served responder initial w) (reading : w.peer.closed = false)
    {messages rest : List Message}
    (owed : responder.owed (sentMessages w.trace) = messages ++ rest)
    (relayed : relayedBytes w = bytesOf messages ++ w.session.framer.buffer)
    {chunk unread : Bytes} (read : w.peer.unread = chunk ++ unread)
    {framed : List Message} {framer : Framer}
    (pushed : w.session.framer.push chunk = .ok (framed, framer)) :
    ∃ later, rest = framed ++ later := by
  obtain ⟨split, -⟩ := Framer.push_ok pushed
  obtain ⟨more, arrived⟩ := served.arrived reading
  rw [relayed, read, owedBytes, owed, bytesOf_append] at arrived
  simp only [List.append_assoc, List.append_cancel_left_eq] at arrived
  rw [← List.append_assoc w.session.framer.buffer, split, List.append_assoc] at arrived
  have others : ∀ message ∈ rest, Framed message := by
    intro message inside
    refine responder.framed_owedFrom [] (sentMessages w.trace) message ?_
    rw [show responder.owedFrom [] (sentMessages w.trace) = messages ++ rest from owed]
    exact List.mem_append_right _ inside
  obtain ⟨later, isRest, -⟩ := framed_split (Framer.push_framed pushed) others arrived
  exact ⟨later, isRest⟩

theorem reports_silent {messages : List Message} (silent : messages.filterMap Message.status = [])
    (state : ConnectionState) : reports messages state = state := by
  rw [reports, silent]
  rfl

theorem BackendTurn.relayedBytes_prefix (turn : BackendTurn w w') :
    relayedBytes w <+: relayedBytes w' := by
  cases turn.relays with
  | idle same => exact same ▸ List.prefix_rfl
  | stopped _ _ out =>
      have kept : relayedBytes w' = relayedBytes w := by simp only [relayedBytes, out]
      exact kept ▸ List.prefix_rfl
  | chunk _ _ _ _ out =>
      rw [relayedBytes, relayedBytes, out, fromBackend_append, List.flatten_append]
      exact List.prefix_append _ _

theorem owedBytes_backend (turn : BackendTurn w w') :
    owedBytes responder w' = owedBytes responder w := by
  rw [owedBytes, turn.trace_eq]
  rfl

theorem served_backend (served : Served responder initial w) (turn : BackendTurn w w') :
    Served responder initial w' := by
  have owes : owedBytes responder w' = owedBytes responder w := owedBytes_backend turn
  obtain ⟨messages, rest, owed, relayed, status⟩ := served.progress
  cases turn.relays with
  | idle same =>
      rw [same]
      exact served
  | stopped closed framer out =>
      have unchanged : relayedBytes w' = relayedBytes w := by
        rw [relayedBytes, out]
        rfl
      refine ⟨⟨messages, rest, by rw [turn.trace_eq]; exact owed, ?_, ?_⟩, ?_, ?_, ?_⟩
      · rw [unchanged, relayed, framer]
      · rintro (reading | silent)
        · rw [closed] at reading
          cases reading
        · rcases turn.tracks with same |
            ⟨reading, chunk, framed, framer', read, others, unread, pushed, split, same⟩
          · rw [same]
            exact status (.inr silent)
          · obtain ⟨later, rfl⟩ := served.completes reading owed relayed unread pushed
            rw [split, List.append_assoc, List.filterMap_append] at silent
            rw [same, reports_silent (List.append_eq_nil_iff.mp silent).1]
            exact status (.inl reading)
      · rw [unchanged, owes]
        exact served.causal
      · intro reading
        rw [closed] at reading
        cases reading
      · rw [framer]
        exact served.waiting
  | @chunk chunk framed reading unread pushed state out =>
      obtain ⟨split, -⟩ := Framer.push_ok pushed
      obtain ⟨later, rfl⟩ := served.completes reading owed relayed unread pushed
      have grown : relayedBytes w' = relayedBytes w ++ chunk := by
        rw [relayedBytes, out, fromBackend_append]
        simp [fromBackend, relayedBytes]
      have arrived : relayedBytes w' ++ w'.peer.unread <+: owedBytes responder w' := by
        rw [grown, owes, List.append_assoc, ← unread]
        exact served.arrived reading
      refine ⟨⟨messages ++ framed, later, ?_, ?_, ?_⟩, ?_, fun _ => arrived,
        Framer.push_rest pushed⟩
      · rw [turn.trace_eq, owed, List.append_assoc]
      · rw [grown, relayed, bytesOf_append, List.append_assoc, split, ← List.append_assoc]
        rfl
      · intro _
        rw [state]
        exact transactionStatus_reports initial messages framed _ (status (.inl reading))
      · exact (List.prefix_append _ _).trans arrived

theorem served_arrive (served : Served responder initial w) {bytes : Bytes}
    (sends : relayedBytes w ++ w.peer.unread ++ bytes <+: owedBytes responder w) :
    Served responder initial (arrive w bytes) := by
  obtain ⟨messages, rest, owed, relayed, status⟩ := served.progress
  refine ⟨⟨messages, rest, owed, relayed, status⟩, served.causal, fun _ => ?_, served.waiting⟩
  have whole : relayedBytes w ++ (w.peer.unread ++ bytes) <+: owedBytes responder w := by
    rw [← List.append_assoc]
    exact sends
  exact whole

theorem served_opened {responder : Responder} {state : ConnectionState} {framer : Framer} :
    Served responder state.transactionStatus (opened state framer []) :=
  ⟨⟨[], [], rfl, rfl, fun _ => rfl⟩, List.nil_prefix, fun _ => List.nil_prefix, rfl⟩

end Preservation

/-! ### Turns without interference -/

section Rests

variable {responder : Responder} {ready : PgWorld → Message → Prop}
  {allowed : Option Side → PgWorld → PgWorld → Prop} {w₀ w : PgWorld}

theorem servedWithin_handled (rests : (served tools opts responder ready).RestsWithin allowed w₀ w)
    {message : Message} (framed : Framed message) (isReady : ready w message)
    (answer : (q : Request) → q.Answer)
    (within : List.IsChain (allowed (some .client)) (handledStops tools opts answer w message))
    (returned : (handled tools opts answer w message).1 = .ok ()) :
    (served tools opts responder ready).RestsWithin allowed w₀
      (handled tools opts answer w message).2 :=
  rests.turn (i := .client) answer (fun _ _ _ => trivial) ⟨message, framed, isReady, rfl, rfl⟩
    (Proc.asksOnly_any _ _ _) within returned

theorem servedWithin_relayed (rests : (served tools opts responder ready).RestsWithin allowed w₀ w)
    {chunk rest : Bytes} (reading : w.peer.closed = false)
    (unread : w.peer.unread = chunk ++ rest) (answer : (q : Request) → q.Answer)
    (within : List.IsChain (allowed (some .backend)) (relayedStops answer w chunk rest))
    (returned : (relayed answer w chunk rest).1 = .ok ()) :
    (served tools opts responder ready).RestsWithin allowed w₀ (relayed answer w chunk rest).2 :=
  rests.turn (i := .backend) answer (fun _ _ _ => trivial) ⟨chunk, rest, reading, unread, rfl, rfl⟩
    (Proc.asksOnly_any _ _ _) within returned

theorem servedWithin_arrive (rests : (served tools opts responder ready).RestsWithin allowed w₀ w)
    {bytes : Bytes} (sends : relayedBytes w ++ w.peer.unread ++ bytes <+: owedBytes responder w)
    (condition : allowed none w (arrive w bytes)) :
    (served tools opts responder ready).RestsWithin allowed w₀ (arrive w bytes) :=
  rests.environment ⟨bytes, rfl, sends⟩ condition

theorem isChain_any (states : List PgWorld) (side : Side) :
    List.IsChain (anyTurn (some side)) states :=
  isChain_of_all (fun _ _ => trivial) fun _ _ _ => trivial

theorem rests_handled (rests : (served tools opts responder ready).Rests w₀ w) {message : Message}
    (framed : Framed message) (isReady : ready w message) (answer : (q : Request) → q.Answer)
    (returned : (handled tools opts answer w message).1 = .ok ()) :
    (served tools opts responder ready).Rests w₀ (handled tools opts answer w message).2 :=
  servedWithin_handled rests framed isReady answer (isChain_any _ _) returned

theorem rests_relayed (rests : (served tools opts responder ready).Rests w₀ w) {chunk rest : Bytes}
    (reading : w.peer.closed = false) (unread : w.peer.unread = chunk ++ rest)
    (answer : (q : Request) → q.Answer) (returned : (relayed answer w chunk rest).1 = .ok ()) :
    (served tools opts responder ready).Rests w₀ (relayed answer w chunk rest).2 :=
  servedWithin_relayed rests reading unread answer (isChain_any _ _) returned

theorem rests_arrive (rests : (served tools opts responder ready).Rests w₀ w) {bytes : Bytes}
    (sends : relayedBytes w ++ w.peer.unread ++ bytes <+: owedBytes responder w) :
    (served tools opts responder ready).Rests w₀ (arrive w bytes) :=
  servedWithin_arrive rests sends trivial

end Rests

/-! ### A small backend -/

/-- The responses to a successful message of the given type. -/
def plainAnswers (type : Char) : List Message :=
  if type = 'P' then [frame '1' []]
  else if type = 'B' then [frame '2' []]
  else if type = 'E' then [frame 'C' (encodeUtf8 "SELECT 1" ++ [0])]
  else if type = 'S' then [frame 'Z' [0x49]]
  else if type = 'Q' then [frame 'C' (encodeUtf8 "SELECT 1" ++ [0]), frame 'Z' [0x49]]
  else []

theorem framed_plainAnswers (type : Char) : ∀ answer ∈ plainAnswers type, Framed answer := by
  have takes : ∀ answer ∈ [frame '1' [], frame '2' [], frame 'C' (encodeUtf8 "SELECT 1" ++ [0]),
      frame 'Z' [0x49]],
      takeMessage answer.raw.length answer.raw = .ok (some (answer, [])) := by decide +kernel
  intro answer inside
  refine framed_of_takes (takes answer ?_)
  unfold plainAnswers at inside
  split at inside
  · simp_all
  split at inside
  · simp_all
  split at inside
  · simp_all
  split at inside
  · simp_all
  split at inside
  · simp only [List.mem_cons, List.not_mem_nil, or_false] at inside ⊢
    rcases inside with rfl | rfl <;> simp
  · cases inside

/-- A backend outside transactions for which every message succeeds. -/
def plainResponder : Responder where
  answers messages := (messages.getLast?.map fun message => plainAnswers message.type).getD []
  status _ := .idle
  framed messages := by
    cases messages.getLast? with
    | none => simp
    | some message => exact framed_plainAnswers message.type

/-- Options without an audit log, so that a gap is answered in the turn that finds it. -/
def silentOptions : ProxyOptions := { strictOptions with auditing := false }

/-- A query whose text is not terminated. -/
def openQuery : Message := frame 'Q' (encodeUtf8 "SELECT 1")

theorem framed_openQuery : Framed openQuery := framed_of_takes (by decide +kernel)

/-- Where the handling of a message is suspended first. -/
def begun (w : PgWorld) (message : Message) : PgWorld :=
  ((clientTurn plainTools silentOptions message).advance (receive w message)).2

/-- The client task has forwarded a `Parse`. -/
def parseSent : PgWorld :=
  (handled plainTools silentOptions (userAnswers true) (freshConnection [])
    (parseOf "" "SELECT 1")).2

end SqlSafetyProxy.Postgres
