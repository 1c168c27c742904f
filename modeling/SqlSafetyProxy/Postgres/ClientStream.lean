import SqlSafetyProxy.Postgres.Relay

/-!
# What the client receives

Backend chunks are relayed as they were read, and the proxy writes its own
messages to the same stream.  The stream stays a sequence of whole messages as
long as the proxy writes only on a message boundary of the relayed bytes.
-/

namespace SqlSafetyProxy.Postgres

open SqlSafetyProxy.Wire SqlSafetyProxy.Runtime SqlSafetyProxy.Coroutine

variable {tools : Tools} {opts : ProxyOptions}

/-! ## The client's stream -/

/-- The bytes of a list of writes. -/
def written (writes : List ClientWrite) : Bytes := (writes.map ClientWrite.raw).flatten

/-- The writes that come from the backend. -/
def fromBackend : List ClientWrite → List Bytes
  | [] => []
  | .relayed raw :: rest => raw :: fromBackend rest
  | .built _ :: rest => fromBackend rest

/-- The writes that the proxy built. -/
def fromProxy : List ClientWrite → List Bytes
  | [] => []
  | .relayed _ :: rest => fromProxy rest
  | .built raw :: rest => raw :: fromProxy rest

/--
The client has received whole messages of the backend, in order, with the
proxy's messages between them, and at the end at most a proper part of the
backend's next message; nothing is cut off once the whole stream is relayed.
-/
def ClientStreamIntact (messages : List Bytes) (w : PgWorld) : Prop :=
  ∃ (sent : List ClientWrite) (rest : List Bytes) (begun : Bytes),
    written w.clientOut = written sent ++ begun ∧
    (∀ message ∈ sent, IsMessage message.raw) ∧
    fromProxy sent = fromProxy w.clientOut ∧
    messages = fromBackend sent ++ rest ∧
    (begun = [] ∨ ∃ next later, rest = next :: later ∧ begun <+: next ∧ begun ≠ next) ∧
    (w.peer.closed = false → w.peer.unread = [] → rest = [])

section Writes

variable (first second : List ClientWrite)

@[simp] theorem written_append : written (first ++ second) = written first ++ written second := by
  simp [written]

@[simp] theorem fromBackend_append :
    fromBackend (first ++ second) = fromBackend first ++ fromBackend second := by
  induction first with
  | nil => rfl
  | cons write rest ih => cases write <;> simp [fromBackend, ih]

@[simp] theorem fromProxy_append :
    fromProxy (first ++ second) = fromProxy first ++ fromProxy second := by
  induction first with
  | nil => rfl
  | cons write rest ih => cases write <;> simp [fromProxy, ih]

end Writes

theorem fromBackend_relayed (raws : List Bytes) :
    fromBackend (raws.map .relayed) = raws ∧ fromProxy (raws.map .relayed) = [] := by
  induction raws with
  | nil => exact ⟨rfl, rfl⟩
  | cons raw rest ih => exact ⟨by simp [fromBackend, ih.1], by simpa [fromProxy] using ih.2⟩

theorem mem_of_mem_fromBackend {writes : List ClientWrite} {raw : Bytes}
    (inside : raw ∈ fromBackend writes) : .relayed raw ∈ writes := by
  induction writes with
  | nil => cases inside
  | cons write rest ih =>
      cases write with
      | built other => exact List.mem_cons_of_mem _ (ih inside)
      | relayed other =>
          rcases List.mem_cons.mp inside with rfl | later
          · exact List.mem_cons_self
          · exact List.mem_cons_of_mem _ (ih later)

theorem fromBackend_built {writes : List ClientWrite} (built : ∀ write ∈ writes, BuiltMessage write) :
    fromBackend writes = [] := by
  induction writes with
  | nil => rfl
  | cons write rest ih =>
      obtain ⟨raw, rfl, -⟩ := built write List.mem_cons_self
      exact ih fun later inside => built later (List.mem_cons_of_mem _ inside)

/-! ## Messages are prefix-free -/

/-- A byte string begins with at most one whole message. -/
theorem isMessage_unique {first second tail rest : Bytes} (whole : IsMessage first)
    (other : IsMessage second) (same : first ++ tail = second ++ rest) :
    first = second ∧ tail = rest := by
  obtain ⟨type, b₁, b₂, b₃, b₄, payload, rfl, size⟩ := isMessage_length whole
  obtain ⟨type', c₁, c₂, c₃, c₄, payload', rfl, size'⟩ := isMessage_length other
  simp only [List.cons_append, List.cons.injEq] at same
  obtain ⟨rfl, rfl, rfl, rfl, rfl, same⟩ := same
  have lengths : payload.length = payload'.length := by omega
  obtain ⟨rfl, rfl⟩ := List.append_inj same lengths
  exact ⟨rfl, rfl⟩

/-- Framed messages are a prefix of the messages the stream was made of. -/
theorem framed_prefix {framed messages : List Bytes} {tail : Bytes}
    (whole : ∀ message ∈ framed, IsMessage message)
    (others : ∀ message ∈ messages, IsMessage message)
    (same : framed.flatten ++ tail = messages.flatten) :
    ∃ rest, messages = framed ++ rest ∧ tail = rest.flatten := by
  induction framed generalizing messages with
  | nil => exact ⟨messages, rfl, by simpa using same⟩
  | cons first later ih =>
      have wholeFirst := whole first List.mem_cons_self
      cases messages with
      | nil =>
          obtain ⟨type, b₁, b₂, b₃, b₄, payload, rfl, -⟩ := isMessage_length wholeFirst
          simp at same
      | cons message remaining =>
          simp only [List.flatten_cons, List.append_assoc] at same
          obtain ⟨rfl, sameLater⟩ :=
            isMessage_unique wholeFirst (others message List.mem_cons_self) same
          obtain ⟨rest, rfl, rfl⟩ := ih
            (fun message inside => whole message (List.mem_cons_of_mem _ inside))
            (fun message inside => others message (List.mem_cons_of_mem _ inside)) sameLater
          exact ⟨rest, rfl, rfl⟩

/-! ## The framer keeps no whole message back -/

/-- A buffer that begins with a whole message does not leave the framer waiting. -/
theorem takeMessage_ne_none {maxMessageBytes : Nat} {message tail : Bytes}
    (whole : IsMessage message) : takeMessage maxMessageBytes (message ++ tail) ≠ .ok none := by
  obtain ⟨type, b₁, b₂, b₃, b₄, payload, rfl, size⟩ := isMessage_length whole
  simp only [List.cons_append, takeMessage, size]
  have long : ¬ ((payload.length : Int) + 4 < 4) := by omega
  have total : 1 + ((payload.length : Int) + 4).toNat = payload.length + 5 := by omega
  rw [if_neg long, total]
  split
  · simp
  · simp only [List.length_cons, List.length_append]
    split
    · omega
    · cases asciiChar type <;> simp

theorem takeMessages_rest {maxMessageBytes fuel : Nat} {buffer rest : Bytes}
    {messages : List Message} (enough : buffer.length ≤ fuel)
    (taken : takeMessages maxMessageBytes fuel buffer = .ok (messages, rest)) :
    takeMessage maxMessageBytes rest = .ok none := by
  induction fuel generalizing buffer messages with
  | zero =>
      cases taken
      rw [List.eq_nil_of_length_eq_zero (Nat.le_zero.mp enough)]
      rfl
  | succ fuel ih =>
      unfold takeMessages at taken
      split at taken
      · cases taken
      · next waiting =>
        cases taken
        exact waiting
      · next message tail first =>
        split at taken
        · cases taken
        · next later remaining others =>
          cases taken
          obtain ⟨split, -, header⟩ := takeMessage_some first
          refine ih ?_ others
          rw [split, List.length_append] at enough
          omega

theorem Framer.push_rest {framer framer' : Framer} {chunk : Bytes} {messages : List Message}
    (pushed : framer.push chunk = .ok (messages, framer')) :
    takeMessage framer'.maxMessageBytes framer'.buffer = .ok none := by
  unfold Framer.push at pushed
  simp only at pushed
  split at pushed
  · cases pushed
  · next taken =>
    cases pushed
    exact takeMessages_rest (Nat.le_refl _) taken

/-! ## Runs in which the proxy writes on message boundaries -/

/-- The proxy writes to the client only when the relayed bytes end with a whole message. -/
def WritesOnBoundary : Option Side → PgWorld → PgWorld → Prop
  | some .client, w, w' => w'.clientOut ≠ w.clientOut → w.session.framer.buffer = []
  | _, _, _ => True

/-- What is known of the client's stream in every state of such a run. -/
structure StreamFramed (messages : List Bytes) (w : PgWorld) : Prop where
  sent : ∃ sent : List ClientWrite,
    written w.clientOut = written sent ++ w.session.framer.buffer ∧
    (∀ message ∈ sent, IsMessage message.raw) ∧
    fromProxy sent = fromProxy w.clientOut ∧
    (fromBackend sent).flatten ++ w.session.framer.buffer = (fromBackend w.clientOut).flatten
  position : ∃ tail, (fromBackend w.clientOut).flatten ++ tail = messages.flatten ∧
    (w.peer.closed = false → tail = w.peer.unread)
  waiting : takeMessage w.session.framer.maxMessageBytes w.session.framer.buffer = .ok none

/-- What a turn of the client task does to the stream. -/
structure ClientTurn (w w' : PgWorld) : Prop where
  framer_eq : w'.session.framer = w.session.framer
  peer_eq : w'.peer = w.peer
  writes : ∃ added, w'.clientOut = w.clientOut ++ added ∧ ∀ write ∈ added, BuiltMessage write

theorem clientTurn_refl (w : PgWorld) : ClientTurn w w :=
  ⟨rfl, rfl, [], by simp, by simp⟩

theorem ClientTurn.answers {start w : PgWorld} (turn : ClientTurn start w) {write : ClientWrite}
    (built : BuiltMessage write) : ClientTurn start (w.answer write) := by
  obtain ⟨added, out, all⟩ := turn.writes
  refine ⟨turn.framer_eq, turn.peer_eq, added ++ [write], ?_, ?_⟩
  · rw [World.answer_clientOut, out, List.append_assoc]
  · intro other inside
    rcases List.mem_append.mp inside with early | last
    · exact all other early
    · rwa [List.mem_singleton.mp last]

theorem streamFramed_client {messages : List Bytes} {w w' : PgWorld}
    (framed : StreamFramed messages w) (turn : ClientTurn w w')
    (boundary : WritesOnBoundary (some .client) w w') : StreamFramed messages w' := by
  obtain ⟨sent, bytes, whole, proxy, backend⟩ := framed.sent
  obtain ⟨added, out, built⟩ := turn.writes
  have none_relayed := fromBackend_built built
  refine ⟨⟨sent ++ added, ?_, ?_, ?_, ?_⟩, ?_, ?_⟩
  · rw [out, written_append, written_append, turn.framer_eq, bytes]
    by_cases quiet : added = []
    · simp [quiet, written]
    · have edge : w.session.framer.buffer = [] := by
        apply boundary
        rw [out]
        simpa using quiet
      simp [edge]
  · intro message inside
    rcases List.mem_append.mp inside with early | late
    · exact whole message early
    · obtain ⟨raw, rfl, isMessage⟩ := built message late
      exact isMessage
  · rw [fromProxy_append, proxy, out, fromProxy_append]
  · rw [fromBackend_append, none_relayed, out, fromBackend_append, none_relayed, turn.framer_eq]
    simpa using backend
  · obtain ⟨tail, position, reading⟩ := framed.position
    refine ⟨tail, ?_, ?_⟩
    · rw [out, fromBackend_append, none_relayed]
      simpa using position
    · rw [turn.peer_eq]
      exact reading
  · rw [turn.framer_eq]
    exact framed.waiting

theorem streamFramed_backend {messages : List Bytes} {w w' : PgWorld}
    (framed : StreamFramed messages w) (turn : BackendTurn w w') : StreamFramed messages w' := by
  obtain ⟨tail, position, reading⟩ := framed.position
  cases turn.relays with
  | idle same =>
      rw [same]
      exact framed
  | stopped closed framer out =>
      refine ⟨?_, ⟨tail, ?_, ?_⟩, ?_⟩
      · rw [framer, out]
        exact framed.sent
      · rw [out]
        exact position
      · intro open_
        rw [closed] at open_
        cases open_
      · rw [framer]
        exact framed.waiting
  | @chunk chunk framedMessages open_ unread pushed _ out =>
      obtain ⟨sent, bytes, whole, proxy, backend⟩ := framed.sent
      obtain ⟨split, isMessage⟩ := Framer.push_ok pushed
      have raws := fromBackend_relayed (framedMessages.map Message.raw)
      have relayedBytes : written ((framedMessages.map Message.raw).map .relayed) =
          (framedMessages.map Message.raw).flatten := by
        simp [written, Function.comp_def, ClientWrite.raw]
      refine ⟨⟨sent ++ (framedMessages.map Message.raw).map .relayed, ?_, ?_, ?_, ?_⟩,
        ⟨w'.peer.unread, ?_, fun _ => rfl⟩, Framer.push_rest pushed⟩
      · rw [out, written_append, written_append, relayedBytes, bytes, List.append_assoc,
          List.append_assoc, ← split]
        simp [written, ClientWrite.raw]
      · intro message inside
        rcases List.mem_append.mp inside with early | late
        · exact whole message early
        · obtain ⟨raw, present, rfl⟩ := List.mem_map.mp late
          obtain ⟨source, member, rfl⟩ := List.mem_map.mp present
          exact isMessage source member
      · rw [fromProxy_append, raws.2, out, fromProxy_append, proxy]
        rfl
      · rw [fromBackend_append, raws.1, out, fromBackend_append, List.flatten_append,
          List.flatten_append, List.append_assoc, ← split, ← List.append_assoc, backend]
        simp [fromBackend]
      · rw [out, fromBackend_append, List.flatten_append, ← position, reading open_, unread]
        simp [fromBackend]

/-- Framed bytes of whole messages are an intact stream. -/
theorem StreamFramed.intact {messages : List Bytes} {w : PgWorld}
    (framed : StreamFramed messages w) (others : ∀ message ∈ messages, IsMessage message) :
    ClientStreamIntact messages w := by
  obtain ⟨sent, bytes, whole, proxy, backend⟩ := framed.sent
  obtain ⟨tail, position, reading⟩ := framed.position
  have wholeBackend : ∀ message ∈ fromBackend sent, IsMessage message :=
    fun message inside => whole _ (mem_of_mem_fromBackend inside)
  have stream : (fromBackend sent).flatten ++ (w.session.framer.buffer ++ tail) =
      messages.flatten := by
    rw [← List.append_assoc, backend, position]
  obtain ⟨rest, split, remaining⟩ := framed_prefix wholeBackend others stream
  -- The framer would have taken a whole message off its buffer.
  have short : ∀ next later more, rest = next :: later →
      w.session.framer.buffer ≠ next ++ more := by
    intro next later more cut full
    have isMessage : IsMessage next := others next (by simp [split, cut])
    apply takeMessage_ne_none isMessage
    rw [← full]
    exact framed.waiting
  refine ⟨sent, rest, w.session.framer.buffer, bytes, whole, proxy, split, ?_, ?_⟩
  · cases rest with
    | nil =>
        left
        exact (List.append_eq_nil_iff.mp remaining).1
    | cons next later =>
        right
        refine ⟨next, later, rfl, ?_, ?_⟩
        · have start : w.session.framer.buffer <+: (next :: later).flatten := ⟨tail, remaining⟩
          have begins : next <+: (next :: later).flatten := ⟨later.flatten, by simp⟩
          rcases Nat.le_total w.session.framer.buffer.length next.length with inside | longer
          · exact List.prefix_of_prefix_length_le start begins inside
          · obtain ⟨more, full⟩ := List.prefix_of_prefix_length_le begins start longer
            exact absurd full.symm (short next later more rfl)
        · intro full
          exact short next later [] rfl (by simpa using full)
  · intro open_ finished
    cases rest with
    | nil => rfl
    | cons next later =>
        exfalso
        rw [reading open_, finished, List.append_nil] at remaining
        exact short next later later.flatten rfl (by simpa using remaining)

/-- The promises of the two tasks about the client's stream. -/
def streaming (tools : Tools) (opts : ProxyOptions) (messages : List Bytes) :
    Promises (relay tools opts) WritesOnBoundary where
  invariant w := StreamFramed messages w
  guarantee
    | .client, start, w => ClientTurn start w
    | .backend, start, w => BackendTurn start w
  rely _ _ _ := True
  rely_refl _ _ := trivial
  rely_trans _ _ _ _ _ _ := trivial
  environment_invariant _ _ _ moved _ := moved.elim
  environment_relied _ _ _ _ _ _ := trivial
  guarantee_invariant i _ _ inv guaranteed boundary := by
    cases i with
    | client => exact streamFramed_client inv guaranteed boundary
    | backend => exact streamFramed_backend inv guaranteed
  guarantee_relied _ _ _ _ _ _ _ _ := trivial

/-- The client task writes only messages it built, in every stage of a call. -/
theorem course_clientTurn (messages : List Bytes) (message : Message)
    (received : ConnectionState) :
    Course tools opts message received ((streaming tools opts messages).contract .client)
      (fun _ _ start w => ClientTurn start w) where
  records _ _ _ _ _ _ turn := ⟨turn.framer_eq, turn.peer_eq, turn.writes⟩
  pauses _ _ _ _ _ turn := turn
  resumes _ _ _ _ _ _ _ _ _ := clientTurn_refl _
  writes _ _ _ _ turn _ := ⟨turn.framer_eq, turn.peer_eq, turn.writes⟩
  recovers _ _ _ _ _ turn := ⟨turn.framer_eq, turn.peer_eq, turn.writes⟩
  refuses _ _ _ turn _ := turn
  answers := by
    intro _ start w text sqlState error built turn
    have answered := turn.answers ⟨error, rfl, isMessage_buildErrorResponse built⟩
    rw [refusal]
    split
    · exact answered.answers ⟨_, rfl, isMessage_buildReadyForQuery _⟩
    · exact ⟨answered.framer_eq, answered.peer_eq, answered.writes⟩
  drops _ _ _ turn := turn
  breaks _ _ _ turn _ := turn

/-- If the proxy writes on message boundaries only, the client's stream is intact. -/
theorem clientStream_intact {messages : List Bytes}
    (others : ∀ message ∈ messages, IsMessage message) {state : ConnectionState} {framer : Framer}
    {c : Config awaits PgWorld Exn Side}
    (run : (relay tools opts).Run WritesOnBoundary
      (Config.idle (opened state framer messages.flatten)) c) :
    ClientStreamIntact messages c.shared := by
  have start : (streaming tools opts messages).invariant (opened state framer messages.flatten) :=
    { sent := ⟨[], rfl, by simp, rfl, rfl⟩
      position := ⟨messages.flatten, rfl, fun _ => rfl⟩
      waiting := rfl }
  have holds := (streaming tools opts messages).holds_of_run ?_ (Promises.holds_idle _ start) run
  · exact holds.1.intact others
  · intro i w task w' _ started
    cases i with
    | client =>
        obtain ⟨message, -, rfl, rfl⟩ := started
        have course : Course tools opts message w.session.state _ _ :=
          course_clientTurn messages message w.session.state
        have begun : ClientTurn w (receive w message) := ⟨rfl, rfl, [], by simp [receive], by simp⟩
        have current : (receive w message).session.state = w.session.state := rfl
        refine wp_clientTurn course current begun ?_
        intro error stage events start w _ turn
        exact ⟨turn.framer_eq, turn.peer_eq, turn.writes⟩
    | backend =>
        obtain ⟨chunk, rest, reading, unread, rfl, rfl⟩ := started
        exact wp_backendTurn (fun _ _ _ turn => turn) reading unread

/-- A `DataRow` with the single value `7`. -/
def dataRow : Bytes := [0x44, 0, 0, 0, 11, 0, 1, 0, 0, 0, 1, 0x37]

theorem isMessage_dataRow : IsMessage dataRow := by
  have size : beInt [0, 0, 0, 11] = ((7 : Nat) : Int) + 4 := by decide
  exact size

/-- Two rows that the backend sends. -/
def twoRows : List Bytes := [dataRow, dataRow]

theorem isMessage_twoRows : ∀ message ∈ twoRows, IsMessage message := by
  intro message inside
  have same : message = dataRow := by simpa [twoRows] using inside
  rw [same]
  exact isMessage_dataRow

/-- The message `DELETE FROM users`. -/
def deleteUsers : Message := frame 'Q' (encodeUtf8 "DELETE FROM users" ++ [0])

theorem framed_deleteUsers : Framed deleteUsers := framed_of_takes (by decide +kernel)

/-- The first half of a row has been relayed. -/
def halfRow : PgWorld :=
  (relayed (userAnswers false) (freshConnection twoRows.flatten) (dataRow.take 6)
    (dataRow.drop 6 ++ dataRow)).2

/-- The whole row has been relayed. -/
def wholeRow : PgWorld := (relayed (userAnswers false) halfRow (dataRow.drop 6) dataRow).2

/-- Then a query has been blocked. -/
def rowThenError : PgWorld :=
  (handled plainTools strictOptions (userAnswers false) wholeRow deleteUsers).2

/-- Then the second row has been relayed. -/
def rowsAroundError : PgWorld := (relayed (userAnswers false) rowThenError dataRow []).2

/-- The answer to a blocked query comes between two rows. -/
theorem rowsAroundError_intact :
    ∃ c, (relay plainTools strictOptions).Run WritesOnBoundary
        (Config.idle (freshConnection twoRows.flatten)) c ∧
      c.shared.clientOut.take 2 = [.relayed (dataRow.take 6), .relayed (dataRow.drop 6)] ∧
      (fromProxy (c.shared.clientOut.take 4)).length = 2 ∧
      c.shared.clientOut.drop 4 = [.relayed dataRow] ∧ ClientStreamIntact twoRows c.shared := by
  have start : (relay plainTools strictOptions).RestsWithin WritesOnBoundary
      (freshConnection twoRows.flatten) (freshConnection twoRows.flatten) := .refl _
  have free : ∀ {w : PgWorld} {chunk rest : Bytes}, List.IsChain (WritesOnBoundary (some .backend))
      (relayedStops (userAnswers false) w chunk rest) :=
    isChain_of_all (fun _ _ => trivial) fun _ _ _ => trivial
  have half : (relay plainTools strictOptions).RestsWithin WritesOnBoundary
      (freshConnection twoRows.flatten) halfRow :=
    restsWithin_relayed start (by decide +kernel) (by decide +kernel) (userAnswers false) free
      (by decide +kernel)
  have whole : (relay plainTools strictOptions).RestsWithin WritesOnBoundary
      (freshConnection twoRows.flatten) wholeRow :=
    restsWithin_relayed half (by decide +kernel) (by decide +kernel) (userAnswers false) free
      (by decide +kernel)
  have boundary : ∀ w ∈ handledStops plainTools strictOptions (userAnswers false) wholeRow
      deleteUsers, w.session.framer.buffer.isEmpty = true :=
    List.all_eq_true.mp (by decide +kernel)
  have refused : (relay plainTools strictOptions).RestsWithin WritesOnBoundary
      (freshConnection twoRows.flatten) rowThenError :=
    restsWithin_handled whole framed_deleteUsers (userAnswers false)
      (isChain_of_all boundary fun _ _ edge _ => List.isEmpty_iff.mp edge) (by decide +kernel)
  have final : (relay plainTools strictOptions).RestsWithin WritesOnBoundary
      (freshConnection twoRows.flatten) rowsAroundError :=
    restsWithin_relayed refused (by decide +kernel) (by decide +kernel) (userAnswers false) free
      (by decide +kernel)
  obtain ⟨c, run, shared, -⟩ := final
  refine ⟨c, run, ?_, ?_, ?_, clientStream_intact isMessage_twoRows run⟩
  · rw [shared]
    decide +kernel
  · rw [shared]
    decide +kernel
  · rw [shared]
    decide +kernel

theorem length_written (writes : List ClientWrite) :
    (written writes).length =
      (fromBackend writes).flatten.length + (fromProxy writes).flatten.length := by
  induction writes with
  | nil => rfl
  | cons write rest ih =>
      have step : (written (write :: rest)).length = write.raw.length + (written rest).length := by
        simp [written]
      rw [step, ih]
      cases write with
      | relayed raw => simp [fromBackend, fromProxy, ClientWrite.raw, Nat.add_assoc]
      | built raw =>
          simp [fromBackend, fromProxy, ClientWrite.raw]
          omega

theorem written_eq_fromProxy {writes : List ClientWrite} (built : fromBackend writes = []) :
    written writes = (fromProxy writes).flatten := by
  induction writes with
  | nil => rfl
  | cons write rest ih =>
      cases write with
      | relayed raw => cases built
      | built raw =>
          have later := ih built
          simp only [written, List.map_cons, List.flatten_cons, fromProxy] at later ⊢
          rw [later]
          rfl

/-- The error of a blocked query lands inside a row that is being relayed. -/
theorem blockedDelete_splits_dataRow :
    ∃ c, (relay plainTools strictOptions).Run anyTurn
        (Config.idle (freshConnection [dataRow].flatten)) c ∧
      ¬ ClientStreamIntact [dataRow] c.shared := by
  have start : Reaches plainTools strictOptions (freshConnection [dataRow].flatten)
      (freshConnection [dataRow].flatten) := .refl
  have unread : (freshConnection [dataRow].flatten).peer.unread =
      dataRow.take 6 ++ dataRow.drop 6 := rfl
  have half := start.relayed rfl unread (userAnswers false) (by decide)
  obtain ⟨c, run, shared, -⟩ := half.handled framed_deleteUsers (userAnswers false) (by decide +kernel)
  refine ⟨c, run, ?_⟩
  rintro ⟨sent, rest, begun, bytes, -, proxy, split, -⟩
  have row : (written c.shared.clientOut).head? = some 0x44 := by
    rw [shared]
    decide +kernel
  have error : (fromProxy c.shared.clientOut).flatten.head? = some 0x45 := by
    rw [shared]
    decide +kernel
  have relayed : (fromBackend c.shared.clientOut).flatten.length = 6 := by
    rw [shared]
    decide +kernel
  have lengths := congrArg List.length bytes
  rw [List.length_append, length_written, length_written, proxy, relayed] at lengths
  cases whole : fromBackend sent with
  | nil =>
      rw [bytes, written_eq_fromProxy whole, proxy, List.head?_append, error] at row
      cases row
  | cons first others =>
      rw [whole] at split lengths
      have isRow : first = dataRow := (List.cons.inj split).1.symm
      have size : first.length = 12 := by
        rw [isRow]
        rfl
      simp only [List.flatten_cons, List.length_append, size] at lengths
      omega

end SqlSafetyProxy.Postgres
