import SqlSafetyProxy.Postgres.Responses

/-!
# One ReadyForQuery for each request

A client that waits for `ReadyForQuery` before its next request receives exactly
one for each Simple Query and each `Sync`, from the backend for what was
forwarded and from the proxy for what was refused, as long as the proxy writes
on message boundaries only.
-/

namespace SqlSafetyProxy.Postgres

open SqlSafetyProxy.Sql SqlSafetyProxy.Policy SqlSafetyProxy.Wire SqlSafetyProxy.Runtime
open SqlSafetyProxy.Coroutine

variable {tools : Tools} {opts : ProxyOptions} {responder : Responder}
  {initial : TransactionStatus}

/-! ## What the client decodes -/

/-- Cut whole messages off a byte string; the fuel bounds their number. -/
def splitMessages : Nat → Bytes → List Bytes
  | 0, _ => []
  | fuel + 1, bytes =>
      match bytes with
      | _ :: b₁ :: b₂ :: b₃ :: b₄ :: _ =>
          let length := beInt [b₁, b₂, b₃, b₄]
          if 4 ≤ length ∧ length.toNat + 1 ≤ bytes.length then
            bytes.take (length.toNat + 1) :: splitMessages fuel (bytes.drop (length.toNat + 1))
          else []
      | _ => []

/-- The whole messages that a client finds in the bytes it has received. -/
def decoded (bytes : Bytes) : List Bytes := splitMessages bytes.length bytes

/-- `ReadyForQuery`. -/
def isReady (raw : Bytes) : Bool := raw.head? = some 0x5A

/-- The number of `ReadyForQuery` messages the client has received. -/
def readyCount (w : PgWorld) : Nat := (decoded (written w.clientOut)).countP isReady

theorem splitMessages_waiting {maxMessageBytes fuel : Nat} {bytes : Bytes}
    (waiting : takeMessage maxMessageBytes bytes = .ok none) : splitMessages fuel bytes = [] := by
  cases fuel with
  | zero => rfl
  | succ fuel =>
      rcases bytes with _ | ⟨type, _ | ⟨b₁, _ | ⟨b₂, _ | ⟨b₃, _ | ⟨b₄, tail⟩⟩⟩⟩⟩
      case cons.cons.cons.cons.cons =>
        unfold takeMessage at waiting
        unfold splitMessages
        simp only at waiting ⊢
        split at waiting
        · cases waiting
        · split at waiting
          · cases waiting
          · split at waiting
            · next short =>
                rw [if_neg]
                rintro ⟨-, enough⟩
                omega
            · split at waiting <;> cases waiting
      all_goals rfl

theorem splitMessages_message {fuel : Nat} {message tail : Bytes} (whole : IsMessage message) :
    splitMessages (fuel + 1) (message ++ tail) = message :: splitMessages fuel tail := by
  obtain ⟨type, b₁, b₂, b₃, b₄, payload, rfl, size⟩ := isMessage_length whole
  have total : ((payload.length : Int) + 4).toNat + 1 = payload.length + 5 := by omega
  have enough : (4 : Int) ≤ payload.length + 4 ∧
      payload.length + 5 ≤ (type :: b₁ :: b₂ :: b₃ :: b₄ :: payload ++ tail).length := by
    simp only [List.cons_append, List.length_cons, List.length_append]
    omega
  simp only [List.cons_append] at enough ⊢
  simp only [splitMessages, size, total]
  rw [if_pos enough]
  simp

theorem splitMessages_append {fuel : Nat} {messages : List Bytes} {tail : Bytes}
    (whole : ∀ message ∈ messages, IsMessage message) (enough : messages.length ≤ fuel) :
    splitMessages fuel (messages.flatten ++ tail) =
      messages ++ splitMessages (fuel - messages.length) tail := by
  induction messages generalizing fuel with
  | nil => simp
  | cons message rest ih =>
      obtain ⟨fuel, rfl⟩ : ∃ less, fuel = less + 1 := ⟨fuel - 1, by simp at enough; omega⟩
      rw [List.flatten_cons, List.append_assoc,
        splitMessages_message (whole message List.mem_cons_self),
        ih (fun other inside => whole other (List.mem_cons_of_mem _ inside)) (by simpa using enough)]
      simp

theorem length_le_flatten {messages : List Bytes}
    (whole : ∀ message ∈ messages, IsMessage message) :
    messages.length ≤ messages.flatten.length := by
  induction messages with
  | nil => simp
  | cons message rest ih =>
      have later := ih fun other inside => whole other (List.mem_cons_of_mem _ inside)
      obtain ⟨type, b₁, b₂, b₃, b₄, payload, rfl, -⟩ :=
        isMessage_length (whole message List.mem_cons_self)
      simp only [List.length_cons, List.flatten_cons, List.length_append]
      omega

/-- Whole messages followed by the beginning of another are decoded as they are. -/
theorem decoded_eq {maxMessageBytes : Nat} {messages : List Bytes} {tail : Bytes}
    (whole : ∀ message ∈ messages, IsMessage message)
    (waiting : takeMessage maxMessageBytes tail = .ok none) :
    decoded (messages.flatten ++ tail) = messages := by
  have enough : messages.length ≤ (messages.flatten ++ tail).length := by
    rw [List.length_append]
    exact Nat.le_add_right_of_le (length_le_flatten whole)
  rw [decoded, splitMessages_append whole enough, splitMessages_waiting waiting, List.append_nil]

/-! ## Requests and their answers -/

/-- The messages that the backend answers with `ReadyForQuery`. -/
def Message.awaitsReady (message : Message) : Bool := message.type = 'Q' ∨ message.type = 'S'

/-- A Simple Query, a message of an extended batch, or the end of the connection. -/
def IsRequest (message : Message) : Prop :=
  message.type ∈ ['Q', 'P', 'B', 'C', 'D', 'E', 'H', 'S', 'X']

/-- The backend answers each query and each `Sync` with exactly one `ReadyForQuery`. -/
def OneReady (responder : Responder) : Prop :=
  ∀ messages message, IsRequest message →
    (responder.answers (messages ++ [message])).countP (fun answer => isReady answer.raw) =
      if message.awaitsReady then 1 else 0

/-- The number of queries and `Sync` messages received. -/
def asked (trace : List (Event adapter)) : Nat :=
  (receivedMessages trace).countP Message.awaitsReady

/-- The number of queries and `Sync` messages written to the backend. -/
def passedOn (trace : List (Event adapter)) : Nat :=
  (sentMessages trace).countP Message.awaitsReady

/-- The number of `ReadyForQuery` messages that the proxy built. -/
def builtReady (w : PgWorld) : Nat := (fromProxy w.clientOut).countP isReady

/-- The number of `ReadyForQuery` messages among the relayed bytes. -/
def relayedReady (w : PgWorld) : Nat := (decoded (relayedBytes w)).countP isReady

/-- The number of `ReadyForQuery` messages owed by the backend. -/
def owedReady (responder : Responder) (w : PgWorld) : Nat :=
  (responder.owed (sentMessages w.trace)).countP fun answer => isReady answer.raw

/-- The last request is complete. -/
def betweenRequests (trace : List (Event adapter)) : Bool :=
  (receivedMessages trace).getLast?.all Message.awaitsReady

/--
The client sends a query, or a batch ended by one `Sync`, only after it has
received the `ReadyForQuery` of the one before.
-/
structure LockStep (w : PgWorld) (message : Message) : Prop where
  request : IsRequest message
  whole : message.type = 'Q' → betweenRequests w.trace = true
  waits : betweenRequests w.trace = true → message.type ≠ 'X' → readyCount w = asked w.trace

theorem owedReady_eq (one : OneReady responder) {w : PgWorld}
    (requests : ∀ message ∈ sentMessages w.trace, IsRequest message) :
    owedReady responder w = passedOn w.trace := by
  have counts : ∀ earlier messages, (∀ message ∈ messages, IsRequest message) →
      (responder.owedFrom earlier messages).countP (fun answer => isReady answer.raw) =
        messages.countP Message.awaitsReady := by
    intro earlier messages all
    induction messages generalizing earlier with
    | nil => rfl
    | cons message rest ih =>
        rw [Responder.owedFrom, List.countP_append, one _ _ (all message List.mem_cons_self),
          ih _ fun other inside => all other (List.mem_cons_of_mem _ inside), List.countP_cons]
        split <;> omega
  exact counts [] _ requests

theorem countP_writes (writes : List ClientWrite) :
    (writes.map ClientWrite.raw).countP isReady =
      (fromBackend writes).countP isReady + (fromProxy writes).countP isReady := by
  induction writes with
  | nil => rfl
  | cons write rest ih =>
      cases write with
      | relayed raw =>
          simp only [List.map_cons, ClientWrite.raw, fromBackend, fromProxy, List.countP_cons, ih]
          omega
      | built raw =>
          simp only [List.map_cons, ClientWrite.raw, fromBackend, fromProxy, List.countP_cons, ih]
          omega

/-- On an intact stream the client decodes the backend's and the proxy's messages. -/
theorem readyCount_eq {stream : List Bytes} {w : PgWorld} (framed : StreamFramed stream w) :
    readyCount w = relayedReady w + builtReady w := by
  obtain ⟨sent, bytes, whole, proxy, backend⟩ := framed.sent
  have all : ∀ raw ∈ sent.map ClientWrite.raw, IsMessage raw := by
    intro raw inside
    obtain ⟨write, present, rfl⟩ := List.mem_map.mp inside
    exact whole write present
  have wholeBackend : ∀ message ∈ fromBackend sent, IsMessage message :=
    fun message inside => whole _ (mem_of_mem_fromBackend inside)
  have client : decoded (written w.clientOut) = sent.map ClientWrite.raw := by
    rw [bytes]
    exact decoded_eq all framed.waiting
  have relayed : decoded (relayedBytes w) = fromBackend sent := by
    rw [relayedBytes, ← backend]
    exact decoded_eq wholeBackend framed.waiting
  rw [readyCount, relayedReady, builtReady, client, relayed, countP_writes, proxy]

/-! ## The reports that are still to come -/

section Reports

variable {w w' : PgWorld}

/-- The messages at the front of what is owed that have been relayed. -/
theorem Served.relayedReady_eq (served : Served responder initial w) :
    ∃ messages rest, responder.owed (sentMessages w.trace) = messages ++ rest ∧
      relayedBytes w = bytesOf messages ++ w.session.framer.buffer ∧
      relayedReady w = messages.countP (fun answer => isReady answer.raw) ∧
      (rest.filterMap Message.status = [] →
        w.session.state.transactionStatus = lastReported initial messages) := by
  obtain ⟨messages, rest, owed, relayed, status⟩ := served.progress
  refine ⟨messages, rest, owed, relayed, ?_, fun silent => status (.inr silent)⟩
  have whole : ∀ raw ∈ messages.map Message.raw, IsMessage raw := by
    intro raw inside
    obtain ⟨message, present, rfl⟩ := List.mem_map.mp inside
    refine isMessage_of_framed (responder.framed_owedFrom [] (sentMessages w.trace) message ?_)
    rw [show responder.owedFrom [] (sentMessages w.trace) = messages ++ rest from owed]
    exact List.mem_append_left _ present
  rw [relayedReady, relayed, bytesOf, decoded_eq whole served.waiting, List.countP_map]
  rfl

theorem Served.relayedReady_le (served : Served responder initial w) :
    relayedReady w ≤ owedReady responder w := by
  obtain ⟨messages, rest, owed, -, count, -⟩ := served.relayedReady_eq
  rw [owedReady, owed, List.countP_append, count]
  omega

theorem relayedReady_all (all : relayedBytes w = owedBytes responder w) :
    relayedReady w = owedReady responder w := by
  have whole : ∀ raw ∈ (responder.owed (sentMessages w.trace)).map Message.raw, IsMessage raw := by
    intro raw inside
    obtain ⟨message, present, rfl⟩ := List.mem_map.mp inside
    exact isMessage_of_framed (responder.framed_owedFrom [] (sentMessages w.trace) message present)
  have waiting : takeMessage 0 [] = .ok none := rfl
  have cut := decoded_eq whole waiting
  rw [List.append_nil] at cut
  rw [relayedReady, all, owedBytes, bytesOf, cut, List.countP_map, owedReady]
  rfl

theorem isReady_of_status {message : Message} (framed : Framed message)
    {status : TransactionStatus} (reports : message.status = some status) :
    isReady message.raw = true := by
  have ready : message.type = 'Z' := by
    unfold Message.status at reports
    split at reports
    · assumption
    · cases reports
  obtain ⟨_, _, _, taken⟩ := framed
  obtain ⟨head, -⟩ := takeMessage_fields taken
  obtain ⟨byte, first, letter⟩ := Option.bind_eq_some_iff.mp head
  rw [ready] at letter
  unfold asciiChar at letter
  split at letter
  · next small =>
    have isZ : Char.ofNat byte.toNat = 'Z' := Option.some.inj letter
    have valid : byte.toNat < 128 := small
    have code : byte.toNat = 90 := by
      have codes : ∀ n : Fin 128, Char.ofNat n = 'Z' → n = 90 := by decide
      exact congrArg Fin.val (codes ⟨byte.toNat, valid⟩ isZ)
    have isByte : byte = 0x5A := UInt8.toNat_inj.mp code
    rw [isReady, first, isByte]
    rfl
  · cases letter

/-- Once no report is to come, the status is the one the backend has sent last. -/
theorem Served.status_heard (served : Served responder initial w)
    (heard : relayedReady w = owedReady responder w) :
    w.session.state.transactionStatus =
      lastReported initial (responder.owed (sentMessages w.trace)) := by
  obtain ⟨messages, rest, owed, -, count, status⟩ := served.relayedReady_eq
  rw [owedReady, owed, List.countP_append, count] at heard
  have none : ∀ answer ∈ rest, ¬ isReady answer.raw = true := by
    have zero : rest.countP (fun answer => isReady answer.raw) = 0 := by omega
    exact List.countP_eq_zero.mp zero
  have silent : rest.filterMap Message.status = [] := by
    refine List.filterMap_eq_nil_iff.mpr fun answer inside => ?_
    cases reports : answer.status with
    | none => rfl
    | some status =>
        have framed : Framed answer := by
          refine responder.framed_owedFrom [] (sentMessages w.trace) answer ?_
          rw [show responder.owedFrom [] (sentMessages w.trace) = messages ++ rest from owed]
          exact List.mem_append_right _ inside
        exact absurd (isReady_of_status framed reports) (none answer inside)
  rw [status silent, owed, lastReported, lastReported, List.filterMap_append, silent,
    List.append_nil]

/-- What has been heard is not unheard. -/
theorem relayedReady_mono (served : Served responder initial w)
    (served' : Served responder initial w') (same : w'.trace = w.trace)
    (grown : relayedBytes w <+: relayedBytes w') : relayedReady w ≤ relayedReady w' := by
  obtain ⟨messages, rest, owed, relayed, count, -⟩ := served.relayedReady_eq
  obtain ⟨messages', rest', owed', relayed', count', -⟩ := served'.relayedReady_eq
  rw [same] at owed'
  rw [count, count']
  have one : messages <+: responder.owed (sentMessages w.trace) := ⟨rest, owed.symm⟩
  have two : messages' <+: responder.owed (sentMessages w.trace) := ⟨rest', owed'.symm⟩
  rcases List.prefix_or_prefix_of_prefix one two with before | after
  · exact before.sublist.countP_le
  · obtain ⟨extra, rfl⟩ := after
    cases extra with
    | nil => simp
    | cons next others =>
        exfalso
        have framed : Framed next := by
          refine responder.framed_owedFrom [] (sentMessages w.trace) next ?_
          rw [show responder.owedFrom [] (sentMessages w.trace) =
            messages' ++ next :: others ++ rest from owed]
          simp
        obtain ⟨more, split⟩ := grown
        rw [relayed, relayed', bytesOf_append, List.append_assoc, List.append_assoc,
          List.append_cancel_left_eq] at split
        have waiting := served'.waiting
        rw [← split, bytesOf, List.map_cons, List.flatten_cons, List.append_assoc] at waiting
        exact takeMessage_ne_none (isMessage_of_framed framed) waiting

end Reports

/-! ## What holds between the turns -/

/-- What holds in every state. -/
structure Accounted (responder : Responder) (initial : TransactionStatus) (w : PgWorld) :
    Prop where
  served : Served responder initial w
  framed : ∃ stream, StreamFramed stream w
  requests : ∀ message ∈ sentMessages w.trace, IsRequest message
  counted : passedOn w.trace + builtReady w ≤ asked w.trace

/-- What holds when the client task is between two messages. -/
structure Balanced (w : PgWorld) : Prop where
  counts : asked w.trace = passedOn w.trace + builtReady w
  open_ : betweenRequests w.trace = true → w.session.state.extendedErrorPending = false

/-- What a turn of the client task may do. -/
structure ClientAccount (responder : Responder) (initial : TransactionStatus) (w w' : PgWorld) :
    Prop where
  /-- A `ReadyForQuery` of the proxy carries the status that the backend has sent last. -/
  status : ∀ status, .built (buildReadyForQuery status) ∈ w'.clientOut.drop w.clientOut.length →
    status = lastReported initial (responder.owed (sentMessages w.trace))
  /-- During recovery only `Sync` and `Terminate` are written. -/
  writes : w.session.state.extendedErrorPending = true →
    ∃ more, sentMessages w'.trace = sentMessages w.trace ++ more ∧
      ∀ message ∈ more, message.type = 'S' ∨ message.type = 'X'
  /-- During recovery the registries are left alone. -/
  registries : w.session.state.extendedErrorPending = true →
    w'.session.state.preparedStatements = w.session.state.preparedStatements ∧
      w'.session.state.portals = w.session.state.portals

/-- What the client task promises about its turns. -/
structure ClientPromise (responder : Responder) (initial : TransactionStatus) (w w' : PgWorld) :
    Prop where
  move : ClientMove w w'
  account : ClientAccount responder initial w w'
  requests : ∀ message ∈ sentMessages w'.trace, IsRequest message
  counted : passedOn w'.trace + builtReady w' ≤ asked w'.trace

theorem clientAccount_refl (w : PgWorld) : ClientAccount responder initial w w :=
  ⟨by simp, fun _ => ⟨[], by simp, by simp⟩, fun _ => ⟨rfl, rfl⟩⟩

/-- A change that writes nothing and leaves the registries alone. -/
theorem ClientAccount.quiet {start w w' : PgWorld}
    (account : ClientAccount responder initial start w) (out : w'.clientOut = w.clientOut)
    (sent : sentMessages w'.trace = sentMessages w.trace)
    (statements : w'.session.state.preparedStatements = w.session.state.preparedStatements)
    (portals : w'.session.state.portals = w.session.state.portals) :
    ClientAccount responder initial start w' := by
  refine ⟨out ▸ account.status, sent ▸ account.writes, fun pending => ?_⟩
  rw [statements, portals]
  exact account.registries pending

theorem BackendTurn.fromProxy_eq {w w' : PgWorld} (turn : BackendTurn w w') :
    fromProxy w'.clientOut = fromProxy w.clientOut := by
  cases turn.relays with
  | idle same => rw [same]
  | stopped _ _ out => rw [out]
  | chunk _ _ _ _ out =>
      rw [out, fromProxy_append]
      exact List.append_nil _

theorem streamFramed_arrive {stream : List Bytes} {w : PgWorld} (framed : StreamFramed stream w)
    (bytes : Bytes) : ∃ stream', StreamFramed stream' (arrive w bytes) :=
  ⟨[relayedBytes w ++ (w.peer.unread ++ bytes)], framed.sent,
    ⟨w.peer.unread ++ bytes, by rw [List.flatten_singleton]; rfl, fun _ => rfl⟩, framed.waiting⟩

/-- The promises of the two tasks about `ReadyForQuery`. -/
def accounting (tools : Tools) (opts : ProxyOptions) (responder : Responder)
    (initial : TransactionStatus) :
    Promises (served tools opts responder LockStep) WritesOnBoundary where
  invariant := Accounted responder initial
  guarantee
    | .client, start, w => ClientPromise responder initial start w
    | .backend, start, w => BackendTurn start w
  rely
    | .client, w, w' => w'.trace = w.trace ∧ relayedBytes w <+: relayedBytes w' ∧
        fromProxy w'.clientOut = fromProxy w.clientOut ∧
        w'.session.state.extendedErrorPending = w.session.state.extendedErrorPending
    | .backend, _, _ => True
  rely_refl i _ := by
    cases i with
    | client => exact ⟨rfl, List.prefix_rfl, rfl, rfl⟩
    | backend => trivial
  rely_trans i _ _ _ first second := by
    cases i with
    | client =>
        exact ⟨second.1.trans first.1, first.2.1.trans second.2.1, second.2.2.1.trans first.2.2.1,
          second.2.2.2.trans first.2.2.2⟩
    | backend => trivial
  environment_invariant _ _ inv moved _ := by
    obtain ⟨bytes, rfl, sends⟩ := moved
    obtain ⟨stream, framed⟩ := inv.framed
    exact ⟨served_arrive inv.served sends, streamFramed_arrive framed bytes, inv.requests,
      inv.counted⟩
  environment_relied i _ _ _ _ moved := by
    obtain ⟨bytes, rfl, -⟩ := moved
    cases i with
    | client => exact ⟨rfl, List.prefix_rfl, rfl, rfl⟩
    | backend => trivial
  guarantee_invariant i s s' inv guaranteed boundary := by
    obtain ⟨stream, framed⟩ := inv.framed
    cases i with
    | client =>
        have promise : ClientPromise responder initial s s' := guaranteed
        exact ⟨served_client inv.served promise.move,
          ⟨stream, streamFramed_client framed promise.move.turn boundary⟩, promise.requests,
          promise.counted⟩
    | backend =>
        have turn : BackendTurn s s' := guaranteed
        refine ⟨served_backend inv.served turn, ⟨stream, streamFramed_backend framed turn⟩, ?_, ?_⟩
        · rw [turn.trace_eq]
          exact inv.requests
        · rw [turn.trace_eq, builtReady, turn.fromProxy_eq]
          exact inv.counted
  guarantee_relied i j _ _ other _ _ guaranteed := by
    cases i with
    | client =>
        cases j with
        | client => exact absurd rfl other
        | backend =>
            exact ⟨guaranteed.trace_eq, guaranteed.relayedBytes_prefix, guaranteed.fromProxy_eq,
              guaranteed.reported.pending⟩
    | backend => trivial

/-- The client task leaves the accounts balanced when a call returns. -/
def balance : Side → PgWorld → Prop
  | .client, w => Balanced w
  | .backend, _ => True

theorem balance_stable (i : Side) (w w' : PgWorld) (balanced : balance i w)
    (relied : (accounting tools opts responder initial).rely i w w') : balance i w' := by
  cases i with
  | client =>
      obtain ⟨trace, -, proxy, pending⟩ := relied
      refine ⟨?_, ?_⟩
      · rw [trace, builtReady, proxy]
        exact balanced.counts
      · rw [trace, pending]
        exact balanced.open_
  | backend => trivial

/-! ## The handling of a message -/

/-- The `ReadyForQuery` messages that a message asks for. -/
def Message.weight (message : Message) : Nat := if message.awaitsReady then 1 else 0

/-- The condition of each stage of a call. -/
structure Counting (responder : Responder) (initial : TransactionStatus) (message : Message)
    (received : ConnectionState) (stage : Stage) (start w : PgWorld) : Prop where
  accounted : Accounted responder initial start
  move : ClientMove start w
  account : ClientAccount responder initial start w
  requests : ∀ other ∈ sentMessages w.trace, IsRequest other
  counts : asked w.trace =
    passedOn w.trace + builtReady w + if stage.returns then 0 else message.weight
  still : stage = .deciding ∨ stage = .refused → sentMessages w.trace = sentMessages start.trace ∧
    w.clientOut = start.clientOut ∧ w.session.state = start.session.state
  flag : stage = .deciding →
    w.session.state.extendedErrorPending = received.extendedErrorPending
  heard : stage = .deciding ∨ stage = .refused → message.type = 'Q' →
    relayedReady w = owedReady responder w
  query : message.type = 'Q' → w.session.state.extendedErrorPending = false
  sync : stage = .refused → message.type ≠ 'S'
  last : (receivedMessages w.trace).getLast? = some message

theorem awaitsReady_iff {message : Message} :
    message.awaitsReady = true ↔ message.type = 'Q' ∨ message.type = 'S' := by
  simp [Message.awaitsReady]

/-- A cleared query changes nothing but the trace. -/
theorem Clears.query_state {message : Message} {received state after : ConnectionState}
    {events : List (Event adapter)}
    (clears : Clears tools opts message received events state after)
    (isQuery : message.type = 'Q') : after = state := by
  cases clears with
  | registry _ registry _ => simp [isQuery] at registry
  | _ => rfl

section Counting

variable {message : Message} {received : ConnectionState} {start w : PgWorld}

/-- Writing a cleared message. -/
theorem Counting.write (isRequest : IsRequest message) {events : List (Event adapter)}
    {after : ConnectionState}
    (counting : Counting responder initial message received .deciding start w)
    (clears : Clears tools opts message received events w.session.state after) :
    Counting responder initial message received .written start
      ((withState w after).log (.forwarded message message.raw)) := by
  obtain ⟨sent, out, state⟩ := counting.still (.inl rfl)
  have grown : sentMessages ((withState w after).log (.forwarded message message.raw)).trace =
      sentMessages w.trace ++ [message] := by
    rw [World.log_trace, sentMessages_append]
    rfl
  have heard : receivedMessages ((withState w after).log (.forwarded message message.raw)).trace =
      receivedMessages w.trace := by
    simp [receivedMessages, withState, Event.received]
  have recovery : start.session.state.extendedErrorPending = true →
      (message.type = 'S' ∨ message.type = 'X') ∧ after = w.session.state := by
    intro pending
    rw [← state, counting.flag rfl] at pending
    cases clears with
    | recovery _ passes => exact ⟨passes, rfl⟩
    | registry outside => simp [pending] at outside
    | safe outside => simp [pending] at outside
    | approved outside => simp [pending] at outside
    | unlisted outside => simp [pending] at outside
    | permitted _ gap => simp [gap.outside] at pending
  refine ⟨counting.accounted, (counting.move.withState clears.status_eq).log _, ⟨?_, ?_, ?_⟩, ?_,
    ?_, by rintro (⟨⟨⟩⟩ | ⟨⟨⟩⟩), by rintro ⟨⟩, by rintro (⟨⟨⟩⟩ | ⟨⟨⟩⟩), ?_, by rintro ⟨⟩, ?_⟩
  · exact counting.account.status
  · intro pending
    refine ⟨[message], by rw [grown, sent], ?_⟩
    intro other inside
    rw [List.mem_singleton.mp inside]
    exact (recovery pending).1
  · intro pending
    have same : ((withState w after).log (.forwarded message message.raw)).session.state =
        start.session.state := (recovery pending).2.trans state
    rw [same]
    exact ⟨rfl, rfl⟩
  · rw [grown]
    intro other inside
    rcases List.mem_append.mp inside with early | last
    · exact counting.requests other early
    · rw [List.mem_singleton.mp last]
      exact isRequest
  · have counts := counting.counts
    rw [asked, heard, passedOn, grown, List.countP_append, List.countP_singleton]
    simp only [asked, passedOn, Stage.returns, Bool.false_eq_true, if_false,
      Message.weight] at counts
    rw [counts]
    change _ = _ + builtReady w + 0
    omega
  · intro isQuery
    have unchanged := clears.query_state isQuery
    rw [World.log_session, unchanged]
    exact counting.query isQuery
  · rw [heard]
    exact counting.last

/-- Answering a refused message. -/
theorem Counting.answer {text sqlState : String} {error : Bytes}
    (counting : Counting responder initial message received .refused start w)
    (built : buildErrorResponse text sqlState = .ok error) :
    Counting responder initial message received .answered start (refusal message error w) := by
  obtain ⟨sent, out, state⟩ := counting.still (.inr rfl)
  have trace := refusal_trace message error w
  have notReady : isReady error = false := by
    rw [isReady, buildErrorResponse_head built]
    decide
  have registries : (refusal message error w).session.state.preparedStatements =
      w.session.state.preparedStatements ∧
      (refusal message error w).session.state.portals = w.session.state.portals := by
    unfold refusal
    split <;> exact ⟨rfl, rfl⟩
  refine ⟨counting.accounted, counting.move.refusal message built, ⟨?_, ?_, ?_⟩, ?_, ?_,
    by rintro (⟨⟨⟩⟩ | ⟨⟨⟩⟩), by rintro ⟨⟩, by rintro (⟨⟨⟩⟩ | ⟨⟨⟩⟩), ?_, by rintro ⟨⟩, ?_⟩
  · intro status inside
    obtain ⟨isQuery, isStatus⟩ := ready_refusal out built inside
    have heard := counting.heard (.inr rfl) isQuery
    rw [relayedReady, relayedBytes, out, owedReady, sent] at heard
    rw [isStatus, state, counting.accounted.served.status_heard heard]
  · rw [trace]
    exact counting.account.writes
  · rw [registries.1, registries.2]
    exact counting.account.registries
  · rw [trace]
    exact counting.requests
  · have counts := counting.counts
    simp only [Stage.returns, Bool.false_eq_true, if_false] at counts
    rw [trace, counts]
    by_cases isQuery : message.type = 'Q'
    · have ready : builtReady (refusal message error w) = builtReady w + 1 := by
        rw [refusal, if_pos isQuery, builtReady, World.answer_clientOut, World.answer_clientOut,
          fromProxy_append, fromProxy_append, List.countP_append, List.countP_append]
        have isReport : isReady (buildReadyForQuery w.session.state.transactionStatus) = true := rfl
        simp [fromProxy, notReady, builtReady, isReport]
      have weight : message.weight = 1 := by
        rw [Message.weight, if_pos (awaitsReady_iff.mpr (.inl isQuery))]
      rw [ready, weight]
      change _ = _ + _ + 0
      omega
    · have ready : builtReady (refusal message error w) = builtReady w := by
        rw [refusal, if_neg isQuery, builtReady]
        simp [withState, fromProxy, notReady, builtReady]
      have weight : message.weight = 0 := by
        rw [Message.weight, if_neg]
        rw [awaitsReady_iff]
        rintro (query | sync)
        · exact isQuery query
        · exact counting.sync rfl sync
      rw [ready, weight]
      rfl
  · intro isQuery
    rw [refusal, if_pos isQuery]
    exact counting.query isQuery
  · rw [trace]
    exact counting.last

/-- The next stage of a call, in the same state. -/
theorem Counting.stage {stage later : Stage}
    (counting : Counting responder initial message received stage start w)
    (weight : (if later.returns then 0 else message.weight) =
      if stage.returns then 0 else message.weight)
    (still : later = .deciding ∨ later = .refused → stage = .deciding ∨ stage = .refused)
    (deciding : later = .deciding → stage = .deciding)
    (sync : later = .refused → message.type ≠ 'S') :
    Counting responder initial message received later start w :=
  ⟨counting.accounted, counting.move, counting.account, counting.requests,
    counting.counts.trans (by rw [weight]), fun early => counting.still (still early),
    fun early => counting.flag (deciding early), fun early => counting.heard (still early),
    counting.query, sync, counting.last⟩

/-- A note that is neither a receipt nor a write. -/
theorem Counting.log {stage : Stage} {event : Event adapter}
    (counting : Counting responder initial message received stage start w)
    (unsent : Event.written event = none) (unreceived : Event.received event = none) :
    Counting responder initial message received stage start (w.log event) := by
  have sent : sentMessages (w.log event).trace = sentMessages w.trace := by
    simp [sentMessages, unsent]
  have heard : receivedMessages (w.log event).trace = receivedMessages w.trace := by
    simp [receivedMessages, unreceived]
  refine ⟨counting.accounted, counting.move.log event, counting.account.quiet rfl sent rfl rfl,
    sent ▸ counting.requests, ?_, ?_, counting.flag, ?_, counting.query, counting.sync,
    heard ▸ counting.last⟩
  · rw [asked, heard, passedOn, sent]
    exact counting.counts
  · rw [sent]
    exact counting.still
  · rw [owedReady, sent]
    exact counting.heard

end Counting

/-- What a call has promised when it ends. -/
theorem Counting.promised {message : Message} {received : ConnectionState} {stage : Stage}
    {start w : PgWorld} (counting : Counting responder initial message received stage start w) :
    ClientPromise responder initial start w := by
  refine ⟨counting.move, counting.account, counting.requests, ?_⟩
  rw [counting.counts]
  omega

/-- What a call leaves behind when it returns. -/
def Answered (message : Message) (w : PgWorld) : Prop :=
  asked w.trace = passedOn w.trace + builtReady w ∧
    (receivedMessages w.trace).getLast? = some message ∧
    (message.type = 'Q' → w.session.state.extendedErrorPending = false)

theorem Counting.returned {message : Message} {received : ConnectionState} {stage : Stage}
    {start w : PgWorld} (counting : Counting responder initial message received stage start w)
    (returned : stage.returns = true) :
    ClientPromise responder initial start w ∧ Answered message w := by
  refine ⟨counting.promised, ?_, counting.last, counting.query⟩
  have counts := counting.counts
  rwa [if_pos returned, Nat.add_zero] at counts

theorem unnoted_decision {event : Event adapter} (isDecision : event.IsDecision) :
    Event.written event = none ∧ Event.received event = none := by
  cases event with
  | forwarded source raw => exact isDecision.elim
  | noted note => exact isDecision.elim
  | _ => exact ⟨rfl, rfl⟩

theorem course_counting {message : Message} (isRequest : IsRequest message)
    (received : ConnectionState) :
    Course tools opts message received ((accounting tools opts responder initial).contract .client)
      (fun stage _ start w => Counting responder initial message received stage start w) where
  records := by
    intro events start w event isDecision _ counting
    obtain ⟨unsent, unreceived⟩ := unnoted_decision isDecision
    exact counting.log unsent unreceived
  pauses _ _ _ _ _ counting := counting.promised
  resumes := by
    rintro stage q events start w answer w' counting ⟨accounted, ⟨trace, grown, proxy, pending⟩, -⟩
    have built : builtReady w' = builtReady w := by rw [builtReady, proxy, builtReady]
    refine ⟨accounted, clientMove_refl w', clientAccount_refl w', trace ▸ counting.requests, ?_,
      fun _ => ⟨rfl, rfl, rfl⟩, ?_, ?_, ?_, counting.sync, trace ▸ counting.last⟩
    · rw [trace, built]
      exact counting.counts
    · rw [pending]
      exact counting.flag
    · intro early isQuery
      have heard := counting.heard early isQuery
      have before := served_client counting.accounted.served counting.move
      have more := relayedReady_mono before accounted.served trace grown
      have bound := accounted.served.relayedReady_le
      have same : owedReady responder w' = owedReady responder w := by
        rw [owedReady, trace, owedReady]
      omega
    · rw [pending]
      exact counting.query
  writes := by
    intro events start w after counting clears
    exact counting.write isRequest clears
  recovers := by
    intro events start w _ sync counting
    refine ⟨counting.accounted, counting.move.withState rfl, counting.account.quiet rfl rfl rfl rfl,
      counting.requests, counting.counts, by rintro (⟨⟨⟩⟩ | ⟨⟨⟩⟩), by rintro ⟨⟩,
      by rintro (⟨⟨⟩⟩ | ⟨⟨⟩⟩), ?_, by rintro ⟨⟩, counting.last⟩
    intro isQuery
    rw [sync] at isQuery
    cases isQuery
  refuses := by
    intro events start w counting refuses
    exact counting.stage rfl (fun _ => .inl rfl) (by rintro ⟨⟩) (fun _ => refuses.not_sync)
  answers := by
    intro events start w text sqlState error built counting
    exact counting.answer built
  drops := by
    intro start w dropped counting
    obtain ⟨pending, notSync, -⟩ := dropped
    have weight : message.weight = 0 := by
      rw [Message.weight, if_neg]
      rw [awaitsReady_iff]
      rintro (query | sync)
      · rw [← counting.flag rfl, counting.query query] at pending
        cases pending
      · exact notSync sync
    exact counting.stage (by rw [weight]; rfl) (by rintro (⟨⟨⟩⟩ | ⟨⟨⟩⟩)) (by rintro ⟨⟩)
      (by rintro ⟨⟩)
  breaks := by
    intro events start w counting _
    exact counting.stage rfl (by rintro (⟨⟨⟩⟩ | ⟨⟨⟩⟩)) (by rintro ⟨⟩) (by rintro ⟨⟩)

/-- When the handling of a `Sync` returns, recovery is over. -/
theorem wp_sync {C : Proc.Contract awaits PgWorld} {message : Message} (sync : message.type = 'S')
    (kept : ∀ q (w : PgWorld) answer w', C.rely q w answer w' →
      w'.session.state.extendedErrorPending = w.session.state.extendedErrorPending)
    (start w : PgWorld) :
    Proc.wp ⟨fun _ _ _ => True, C.rely⟩ (clientTurn tools opts message)
      (fun _ _ w => w.session.state.extendedErrorPending = false) (fun _ _ _ => True) start w := by
  simp only [clientTurn, Proc.wp_handle, Proc.wp_bind, wp_record, Proc.wp_raised,
    handleFrontendMessage, wp_connectionState]
  cases pending : w.session.state.extendedErrorPending with
  | true =>
      simp only [if_true, recoverMessage, if_pos sync, forward, Proc.wp_bind, wp_updateState,
        wp_writeBackend]
      refine wp_drain trivial ?_ ?_
      · intro w' _
        rfl
      · intro w' _
        trivial
  | false =>
      simp only [Bool.false_eq_true, if_false, routeMessage, sync, Proc.wp_handle, forward,
        Proc.wp_bind, wp_writeBackend, Char.reduceEq, or_self, if_false]
      refine wp_drain trivial ?_ ?_
      · intro w' relied
        exact (kept _ _ _ _ relied).trans pending
      · intro w' _
        trivial

/-! ## Whole runs -/

/-- What the client has received, request by request. -/
structure ReadyCounted (responder : Responder) (c : Config awaits PgWorld Exn Side) : Prop where
  /-- There is never a `ReadyForQuery` too many. -/
  atMost : readyCount c.shared ≤ asked c.shared.trace
  /-- There is one for each request once the backend's responses have been relayed. -/
  exactly : c.task .client = .done () → relayedBytes c.shared = owedBytes responder c.shared →
    readyCount c.shared = asked c.shared.trace

/-- What a turn of either task may do. -/
def AccountedTurn (responder : Responder) (initial : TransactionStatus) :
    Side → PgWorld → PgWorld → Prop
  | .client, w, w' => ClientAccount responder initial w w'
  | .backend, w, w' => sentMessages w'.trace = sentMessages w.trace ∧
      Reported w.session.state w'.session.state

theorem starts_counting (i : Side) (w : PgWorld)
    (task : Proc awaits PgWorld Exn Unit) (w' : PgWorld)
    (inv : (accounting tools opts responder initial).invariant w) (balanced : balance i w)
    (one : OneReady responder)
    (started : (served tools opts responder LockStep).start i w task w') :
    (accounting tools opts responder initial).Completes balance i task w w' := by
  cases i with
  | client =>
      obtain ⟨message, -, lockStep, rfl, rfl⟩ := started
      have resting : Balanced w := balanced
      have sent : sentMessages (receive w message).trace = sentMessages w.trace := by
        simp [receive, sentMessages, Event.written]
      have heard : receivedMessages (receive w message).trace =
          receivedMessages w.trace ++ [message] := by
        simp [receive, receivedMessages, Event.received]
      have begun : Counting responder initial message w.session.state .deciding w
          (receive w message) := by
        refine ⟨inv, (clientMove_refl w).log _, (clientAccount_refl w).quiet rfl sent rfl rfl,
          sent ▸ inv.requests, ?_, fun _ => ⟨sent, rfl, rfl⟩, fun _ => rfl, ?_, ?_, by rintro ⟨⟩, ?_⟩
        · rw [asked, heard, List.countP_append, List.countP_singleton, passedOn, sent]
          have counts := resting.counts
          simp only [asked, passedOn] at counts
          rw [counts]
          rfl
        · intro _ isQuery
          have between := lockStep.whole isQuery
          have waited := lockStep.waits between (by simp [isQuery])
          obtain ⟨stream, framed⟩ := inv.framed
          rw [readyCount_eq framed, resting.counts] at waited
          have owed : owedReady responder (receive w message) = passedOn w.trace := by
            rw [owedReady, sent]
            exact owedReady_eq one inv.requests
          change relayedReady w = _
          omega
        · intro isQuery
          exact resting.open_ (lockStep.whole isQuery)
        · rw [heard, List.getLast?_concat]
      have course := @course_counting tools opts responder initial message lockStep.request
        w.session.state
      have counted : Proc.wp ((accounting tools opts responder initial).contract .client)
          (clientTurn tools opts message)
          (fun _ start w => ClientPromise responder initial start w ∧ Answered message w)
          (fun _ start w => ClientPromise responder initial start w) w (receive w message) := by
        refine wp_clientTurn_returned course rfl begun ?_ ?_
        · intro stage events start w returned counting
          exact (counting.log rfl rfl).returned returned
        · intro error stage events start w _ counting
          exact (counting.log rfl rfl).promised
      by_cases sync : message.type = 'S'
      · have kept : ∀ q (w : PgWorld) answer w',
            ((accounting tools opts responder initial).contract .client).rely q w answer w' →
            w'.session.state.extendedErrorPending = w.session.state.extendedErrorPending :=
          fun _ _ _ _ relied => relied.2.1.2.2.2
        refine Proc.wp_mono (Proc.wp_and counted (wp_sync sync kept w (receive w message))) ?_ ?_
        · rintro _ start w ⟨⟨promised, settled⟩, pending⟩
          exact ⟨promised, settled.1, fun _ => pending⟩
        · rintro _ start w ⟨promised, -⟩
          exact promised
      · refine Proc.wp_mono counted ?_ fun _ _ _ promised => promised
        rintro _ start w ⟨promised, settled⟩
        refine ⟨promised, settled.1, fun between => settled.2.2 ?_⟩
        rw [betweenRequests, settled.2.1, Option.all_some, awaitsReady_iff] at between
        exact between.resolve_right sync
  | backend =>
      obtain ⟨chunk, rest, reading, unread, rfl, rfl⟩ := started
      refine Proc.wp_mono (wp_backendTurn (fun _ _ _ turn => turn) reading unread) ?_ ?_
      · intro _ _ _ turn
        exact ⟨turn, trivial⟩
      · intro _ _ _ turn
        exact turn

/--
In every run with a client that waits, in which the proxy writes on message
boundaries, the client receives one `ReadyForQuery` for each request, with the
status that the backend has sent last, and recovery lasts until `Sync`.
-/
theorem ready_accounted (one : OneReady responder) {state : ConnectionState} {framer : Framer}
    (fresh : state.extendedErrorPending = false) {c : Config awaits PgWorld Exn Side}
    (run : (served tools opts responder LockStep).Run WritesOnBoundary
      (Config.idle (opened state framer [])) c) :
    ReadyCounted responder c ∧
      ∀ side c', (served tools opts responder LockStep).Step (some side) c c' →
        AccountedTurn responder state.transactionStatus side c.shared c'.shared := by
  have starts := fun i w task w' inv balanced started =>
    @starts_counting tools opts responder state.transactionStatus i w task w' inv balanced one
      started
  have start : (accounting tools opts responder state.transactionStatus).invariant
      (opened state framer []) := by
    refine ⟨served_opened, ⟨[], ⟨[], rfl, by simp, rfl, rfl⟩, ⟨[], rfl, fun _ => rfl⟩, rfl⟩, ?_, ?_⟩
    · rintro message ⟨⟩
    · exact Nat.le_refl 0
  have rests : ∀ i, balance i (opened state framer []) := by
    intro i
    cases i with
    | client => exact ⟨rfl, fun _ => fresh⟩
    | backend => trivial
  have initially : (accounting tools opts responder state.transactionStatus).Holds balance
      (Config.idle (opened state framer [])) := ⟨start, rests⟩
  have holds := Promises.holds_of_run_resting balance_stable starts initially run
  obtain ⟨stream, framed⟩ := holds.1.framed
  have owed := owedReady_eq one holds.1.requests
  refine ⟨⟨?_, ?_⟩, ?_⟩
  · have bound := holds.1.served.relayedReady_le
    have counted := holds.1.counted
    rw [readyCount_eq framed]
    omega
  · intro done all
    have balanced := holds.2 .client
    rw [done] at balanced
    have counts : asked c.shared.trace = _ := Balanced.counts balanced
    rw [readyCount_eq framed, counts, ← owed, relayedReady_all all]
  · intro side c' turn
    have kept := Promises.guarantee_of_step_resting starts holds turn
    cases side with
    | client => exact kept.account
    | backend => exact ⟨by rw [kept.trace_eq], kept.reported⟩

/-! ## A refusal inside a message -/

theorem oneReady_plainResponder : OneReady plainResponder := by
  intro messages message isRequest
  have answers : plainResponder.answers (messages ++ [message]) = plainAnswers message.type := by
    simp [plainResponder]
  rw [answers, Message.awaitsReady]
  unfold IsRequest at isRequest
  generalize message.type = type at isRequest
  revert isRequest
  have counts : ['Q', 'P', 'B', 'C', 'D', 'E', 'H', 'S', 'X'].all (fun type =>
      (plainAnswers type).countP (fun answer => isReady answer.raw) ==
        if (decide (type = 'Q' ∨ type = 'S')) = true then 1 else 0) = true := by decide +kernel
  intro isRequest
  exact beq_iff_eq.mp (List.all_eq_true.mp counts type isRequest)

/-- A query that the proxy lets through. -/
def countQuery : Message := frame 'Q' (encodeUtf8 "SELECT 1" ++ [0])

/-- A query has been forwarded. -/
def querySent : PgWorld :=
  (handled plainTools silentOptions (userAnswers true) (freshConnection []) countQuery).2

def queryResponses : Bytes := bytesOf (plainAnswers 'Q')

/-- Its responses have been relayed. -/
def queryAnswered : PgWorld :=
  (relayed (userAnswers true) (arrive querySent queryResponses) queryResponses []).2

/-- Another query has been refused. -/
def queryRefused : PgWorld :=
  (handled plainTools silentOptions (userAnswers true) queryAnswered openQuery).2

/-- A forwarded query is answered by the backend, a refused one by the proxy. -/
theorem queries_accounted : OneReady plainResponder ∧
    ∃ c, (served plainTools silentOptions plainResponder LockStep).Run WritesOnBoundary
        (Config.idle (freshConnection [])) c ∧
      relayedReady c.shared = 1 ∧ builtReady c.shared = 1 ∧ readyCount c.shared = 2 ∧
      ReadyCounted plainResponder c ∧
      ∀ side c', (served plainTools silentOptions plainResponder LockStep).Step (some side) c c' →
        AccountedTurn plainResponder .idle side c.shared c'.shared := by
  have framed : Framed countQuery := framed_of_takes (by decide +kernel)
  have start : (served plainTools silentOptions plainResponder LockStep).RestsWithin
      WritesOnBoundary (freshConnection []) (freshConnection []) := .refl _
  have lockFirst : LockStep (freshConnection []) countQuery :=
    ⟨by unfold IsRequest; decide +kernel, by decide +kernel, by decide +kernel⟩
  have lockSecond : LockStep queryAnswered openQuery :=
    ⟨by unfold IsRequest; decide +kernel, by decide +kernel, by decide +kernel⟩
  have edges : ∀ {w : PgWorld} {message : Message}, (handledStops plainTools silentOptions
      (userAnswers true) w message).all (fun w => w.session.framer.buffer.isEmpty) = true →
      List.IsChain (WritesOnBoundary (some .client))
        (handledStops plainTools silentOptions (userAnswers true) w message) := fun all =>
    isChain_of_all (List.all_eq_true.mp all) fun _ _ edge _ => List.isEmpty_iff.mp edge
  have sent : (served plainTools silentOptions plainResponder LockStep).RestsWithin
      WritesOnBoundary (freshConnection []) querySent :=
    servedWithin_handled start framed lockFirst (userAnswers true) (edges (by decide +kernel))
      (by decide +kernel)
  have arrived : (served plainTools silentOptions plainResponder LockStep).RestsWithin
      WritesOnBoundary (freshConnection []) (arrive querySent queryResponses) :=
    servedWithin_arrive sent (by decide +kernel) trivial
  have answered : (served plainTools silentOptions plainResponder LockStep).RestsWithin
      WritesOnBoundary (freshConnection []) queryAnswered :=
    servedWithin_relayed arrived (by decide +kernel) (by decide +kernel) (userAnswers true)
      (isChain_of_all (fun _ _ => trivial) fun _ _ _ => trivial) (by decide +kernel)
  have refused : (served plainTools silentOptions plainResponder LockStep).RestsWithin
      WritesOnBoundary (freshConnection []) queryRefused :=
    servedWithin_handled answered framed_openQuery lockSecond (userAnswers true)
      (edges (by decide +kernel)) (by decide +kernel)
  obtain ⟨c, run, shared, -⟩ := refused
  have accounted := @ready_accounted plainTools silentOptions plainResponder
    oneReady_plainResponder {} { maxMessageBytes := 64 * 1024 * 1024 } rfl c run
  refine ⟨oneReady_plainResponder, c, run, ?_, ?_, ?_, accounted⟩
  · rw [shared]
    decide +kernel
  · rw [shared]
    decide +kernel
  · rw [shared]
    decide +kernel

/-- Part of `ParseComplete` has arrived. -/
def halfArrived : PgWorld := arrive parseSent [0x31, 0, 0]

/-- That part has been relayed. -/
def halfRelayed : PgWorld := (relayed (userAnswers true) halfArrived [0x31, 0, 0] []).2

/-- The `Execute` of an unknown portal has been refused. -/
def executeRefused : PgWorld :=
  (handled plainTools silentOptions (userAnswers true) halfRelayed (executeOf "")).2

/-- The `Sync` of the batch has been forwarded. -/
def batchEnded : PgWorld :=
  (handled plainTools silentOptions (userAnswers true) executeRefused syncMessage).2

/-- The rest of the responses has arrived. -/
def allArrived : PgWorld := arrive batchEnded ([0, 4] ++ buildReadyForQuery .idle)

/-- Everything has been relayed. -/
def allRelayed : PgWorld :=
  (relayed (userAnswers true) allArrived ([0, 4] ++ buildReadyForQuery .idle) []).2

/-- An error inside `ParseComplete` hides the `ReadyForQuery` of the batch. -/
theorem splitParse_unanswered : OneReady plainResponder ∧
    ∃ c, (served plainTools silentOptions plainResponder LockStep).Run anyTurn
        (Config.idle (freshConnection [])) c ∧ ¬ ReadyCounted plainResponder c := by
  have parse : Framed (parseOf "" "SELECT 1") := framed_of_takes (by decide +kernel)
  have execute : Framed (executeOf "") := framed_of_takes (by decide +kernel)
  have sync : Framed syncMessage := framed_of_takes (by decide +kernel)
  have start : (served plainTools silentOptions plainResponder LockStep).Rests
      (freshConnection []) (freshConnection []) := System.Rests.refl _
  have lockParse : LockStep (freshConnection []) (parseOf "" "SELECT 1") :=
    ⟨by unfold IsRequest; decide +kernel, by decide +kernel, by decide +kernel⟩
  have lockExecute : LockStep halfRelayed (executeOf "") :=
    ⟨by unfold IsRequest; decide +kernel, by decide +kernel, by decide +kernel⟩
  have lockSync : LockStep executeRefused syncMessage :=
    ⟨by unfold IsRequest; decide +kernel, by decide +kernel, by decide +kernel⟩
  have sent := rests_handled start parse lockParse (userAnswers true) (by decide +kernel)
  have arrived : (served plainTools silentOptions plainResponder LockStep).Rests
      (freshConnection []) halfArrived := rests_arrive sent (by decide +kernel)
  have half : (served plainTools silentOptions plainResponder LockStep).Rests
      (freshConnection []) halfRelayed :=
    rests_relayed arrived (by decide +kernel) (by decide +kernel) (userAnswers true)
      (by decide +kernel)
  have refused : (served plainTools silentOptions plainResponder LockStep).Rests
      (freshConnection []) executeRefused :=
    rests_handled half execute lockExecute (userAnswers true) (by decide +kernel)
  have ended : (served plainTools silentOptions plainResponder LockStep).Rests
      (freshConnection []) batchEnded :=
    rests_handled refused sync lockSync (userAnswers true) (by decide +kernel)
  have later : (served plainTools silentOptions plainResponder LockStep).Rests
      (freshConnection []) allArrived := rests_arrive ended (by decide +kernel)
  have final : (served plainTools silentOptions plainResponder LockStep).Rests
      (freshConnection []) allRelayed :=
    rests_relayed later (by decide +kernel) (by decide +kernel) (userAnswers true)
      (by decide +kernel)
  obtain ⟨c, run, shared, idle⟩ := final
  refine ⟨oneReady_plainResponder, c, run, ?_⟩
  intro counted
  have all : relayedBytes allRelayed = owedBytes plainResponder allRelayed := by decide +kernel
  have short : readyCount allRelayed ≠ asked allRelayed.trace := by decide +kernel
  have exactly := counted.exactly (idle .client)
  rw [shared] at exactly
  exact short (exactly all)

end SqlSafetyProxy.Postgres
