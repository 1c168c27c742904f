import SqlSafetyProxy.MySql.Connection

/-!
# What a connection conveys

Each packet of the client and of the backend keeps what the tasks have promised,
so it holds in every state of every connection: what was handled, what of it was
written to the backend and in which order, and that nothing is written any more
once the connection is closed.
-/

namespace SqlSafetyProxy.MySql

open SqlSafetyProxy.Sql SqlSafetyProxy.Policy SqlSafetyProxy.Wire SqlSafetyProxy.Runtime
open SqlSafetyProxy.Coroutine

/-! ## Packets of the client -/

/-- Between two packets of the client. -/
structure Handling (framer : PacketFramer) (groups : List (List Packet)) (rest : Bytes)
    (start w : LinkWorld) : Prop where
  conveys : Conveys groups rest w
  proceeds : Proceeds start w
  framer : w.session.clientFramer = framer
  closing : w.session.auth.phase = .tlsRejected → w.session.phase = .closed

theorem Proceeds.refl (w : LinkWorld) : Proceeds w w :=
  ⟨fun _ => rfl, fun _ => rfl, fun closed => ⟨closed, rfl⟩⟩

/-- The contract of the client task. -/
abbrev conveying (tools : Tools) (opts : ProxyOptions) : Proc.Contract awaits LinkWorld :=
  (conveyance tools opts).contract .client

section Client

variable {tools : Tools} {opts : ProxyOptions} {framer : PacketFramer}
  {groups : List (List Packet)} {rest : Bytes} {start w w' : LinkWorld} {packet : Packet}

theorem Handling.promised (handling : Handling framer groups rest start w) :
    Conveying w ∧ Proceeds start w := ⟨⟨groups, rest, handling.conveys⟩, handling.proceeds⟩

theorem Handling.shades (handling : Handling framer groups rest start w) (shades : Shades w w') :
    Handling framer groups rest w' w' where
  conveys := handling.conveys.shades shades
  proceeds := .refl w'
  framer := shades.clientFramer.trans handling.framer
  closing rejected := by
    by_cases before : w.session.auth.phase = .tlsRejected
    · have closed := handling.closing before
      rw [shades.phase (by rw [closed]; decide)]
      exact closed
    · by_cases authenticating : w.session.auth.phase = .authenticating
      · exact absurd rejected (shades.authenticates authenticating).2
      · rw [shades.waits authenticating] at rejected
        exact absurd rejected before

theorem wp_handlingDrain (handling : Handling framer groups rest start w)
    {post : Unit → LinkWorld → LinkWorld → Prop}
    (finish : ∀ w', Handling framer groups rest w' w' → post () w' w') :
    Proc.wp (conveying tools opts) drain post (fun _ start w => Conveying w ∧ Proceeds start w)
      start w := by
  refine wp_drain handling.promised ?_ ?_
  · intro w' relied
    exact finish w' (handling.shades relied.2.1)
  · intro w' relied
    exact (handling.shades relied.2.1).promised

/-! ### The response to the greeting -/

theorem acceptClientResponse_phase {auth accepted : AuthState} {response : HandshakeResponse}
    (done : auth.acceptClientResponse response = .ok accepted) :
    auth.phase = .waitingForClientResponse ∧
      accepted.phase = if response.isSslRequest then .tlsRejected else .authenticating := by
  unfold AuthState.acceptClientResponse at done
  split at done
  · cases done
  · next waiting =>
    split at done
    · next asksTls =>
      cases done
      exact ⟨not_not.mp waiting, by rw [if_pos asksTls]⟩
    · next noTls =>
      cases done
      exact ⟨not_not.mp waiting, by rw [if_neg noTls]⟩

/-- Nothing is written before the client has responded. -/
theorem Conveys.unwritten (conveys : Conveys groups rest w)
    (waiting : w.session.auth.phase = .waitingForClientResponse) :
    backendWrites w.trace = [] := by
  by_contra written
  have begun : (backendWrites w.trace).map Prod.fst ≠ [] := by simpa using written
  exact (conveys.inStage.begun.mp begun).responded waiting

/-- Before the client has responded the connection is in the first phase. -/
theorem Agreed.unresponded {state : RelayState} (agreed : Agreed state)
    (waiting : state.auth.phase = .waitingForClientResponse) : state.phase = .authentication := by
  cases phase : state.phase with
  | authentication => rfl
  | commandResponse =>
      have same := agreed.commanding phase
      rw [waiting] at same
      cases same
  | closed =>
      rcases agreed.closed phase with same | same
      · rw [waiting] at same
        cases same
      · rw [waiting] at same
        cases same

/-- Until the client has responded, a segment has promised nothing. -/
theorem Proceeds.waiting (proceeds : Proceeds start w) (agreed : Agreed w.session)
    (waiting : w.session.auth.phase = .waitingForClientResponse) (w' : LinkWorld) :
    Proceeds start w' := by
  have started : start.session.auth.phase = .waitingForClientResponse := by
    by_contra responded
    rw [proceeds.auth responded] at waiting
    exact responded waiting
  refine ⟨fun responded => absurd started responded,
    fun underway => absurd started underway.responded, ?_⟩
  intro closed
  have same := (proceeds.closed closed).1
  rw [agreed.unresponded waiting] at same
  cases same

theorem Conveys.unassembled (conveys : Conveys groups rest w)
    (early : w.session.auth.phase = .waitingForClientResponse ∨
      w.session.phase = .authentication) : w.session.commandAssembler.parts = [] := by
  by_contra begun
  obtain ⟨responded, entered⟩ := conveys.assembling begun
  exact early.elim responded entered

/-- A packet that is a message of its own has been read and not been written. -/
theorem Conveys.reads (conveys : Conveys groups (packet.raw ++ rest) w)
    (framed : WellFramed packet) (unassembled : w.session.commandAssembler.parts = []) :
    Conveys (groups ++ [[packet]]) rest w where
  agreed := conveys.agreed
  inStage := conveys.inStage
  whole group inside := by
    rcases List.mem_append.mp inside with early | last
    · exact conveys.whole group early
    · rw [List.mem_singleton.mp last]
      exact whole_single framed
  unfinished := conveys.unfinished
  assembling := conveys.assembling
  read := by
    rw [conveys.read, unassembled]
    simp
  written := by
    rw [List.map_append]
    exact conveys.written.trans (List.sublist_append_left _ _)

/-- Nothing has been written when the client's response is answered. -/
structure Unanswered (framer : PacketFramer) (groups : List (List Packet)) (rest : Bytes)
    (start w : LinkWorld) : Prop where
  silent : backendWrites w.trace = []
  early : w.session.phase = .authentication
  unassembled : w.session.commandAssembler.parts = []
  greeted : w.session.initialBackendHandshakeSeen = true
  whole : ∀ group ∈ groups, Whole group
  read : w.peer.clientRead = wireOf groups.flatten ++ rest
  framer : w.session.clientFramer = framer
  proceeds : ∀ w', Proceeds start w'

theorem Handling.unanswered (handling : Handling framer groups (packet.raw ++ rest) start w)
    (framed : WellFramed packet) (greeted : w.session.initialBackendHandshakeSeen = true)
    (waiting : w.session.auth.phase = .waitingForClientResponse) :
    Unanswered framer (groups ++ [[packet]]) rest start w := by
  have agreed := handling.conveys.agreed
  have unassembled := handling.conveys.unassembled (.inl waiting)
  have reads := handling.conveys.reads framed unassembled
  refine ⟨handling.conveys.unwritten waiting, agreed.unresponded waiting, unassembled, greeted,
    reads.whole, ?_, handling.framer, handling.proceeds.waiting agreed waiting⟩
  rw [reads.read, unassembled, wireOf_nil, List.append_nil]

section Unanswered

variable (unanswered : Unanswered framer groups rest start w)

include unanswered

theorem Unanswered.agreed : Agreed w.session := by
  refine ⟨?_, ?_⟩
  · rw [unanswered.early]
    rintro ⟨⟩
  · rw [unanswered.early]
    rintro ⟨⟩

theorem Unanswered.unfinished : Unfinished w.session.commandAssembler.parts := by
  rw [unanswered.unassembled]
  exact unfinished_nil

/-- A client that asks for TLS is not written to the backend. -/
theorem Unanswered.rejected (rejected : w.session.auth.phase = .tlsRejected) :
    Conveys groups rest w where
  agreed := unanswered.agreed
  inStage := by
    rw [unanswered.silent]
    refine ⟨.silent, fun begun => absurd rfl begun, ?_, ?_⟩
    · exact iff_of_false (fun begun => begun rfl) fun underway => underway.admitted rejected
    · intro message inside
      cases inside
  whole := unanswered.whole
  unfinished := unanswered.unfinished
  assembling begun := absurd unanswered.unassembled begun
  read := by
    rw [unanswered.read, unanswered.unassembled, wireOf_nil, List.append_nil]
  written := by
    rw [unanswered.silent]
    exact List.nil_sublist _

/-- The response is the first packet that is written. -/
theorem Unanswered.responds {before : List (List Packet)} (last : groups = before ++ [[packet]])
    (responded : w.session.auth.phase = .authenticating) :
    Handling framer groups rest start (w.log (.forwarded .handshake packet.raw)) := by
  have only : backendWrites (w.log (.forwarded .handshake packet.raw)).trace =
      [(.handshake, packet.raw)] := by
    rw [World.log_trace, backendWrites_append, unanswered.silent]
    rfl
  refine ⟨⟨unanswered.agreed, ?_, unanswered.whole, unanswered.unfinished,
    fun begun => absurd unanswered.unassembled begun, ?_, ?_⟩, unanswered.proceeds _,
    unanswered.framer, ?_⟩
  · rw [only]
    refine ⟨staged_handshake, fun _ => unanswered.greeted, ?_, ?_⟩
    · refine iff_of_true (by simp) ⟨?_, ?_⟩
      · rw [World.log_session, responded]
        decide
      · rw [World.log_session, responded]
        decide
    · intro message inside
      simp at inside
  · rw [World.log_peer, unanswered.read, World.log_session, unanswered.unassembled, wireOf_nil,
      List.append_nil]
  · rw [only, last, List.map_append]
    have one : [packet.raw].Sublist [wireOf [packet]] := by simp [wireOf]
    exact one.trans (List.sublist_append_right _ _)
  · intro rejected
    rw [World.log_session, responded] at rejected
    cases rejected

end Unanswered

/-- The client has asked for TLS: it is refused, and the connection is closed. -/
theorem wp_refuseTls (handling : Conveys groups rest w) (proceeds : Proceeds start w)
    (framed : w.session.clientFramer = framer) (rejected : w.session.auth.phase = .tlsRejected) :
    Proc.wp (conveying tools opts) (refuseTls packet)
      (fun _ start w => Handling framer groups rest start w)
      (fun _ start w => Conveying w ∧ Proceeds start w) start w := by
  unfold refuseTls
  simp only [Proc.wp_bind, wp_writeClient]
  refine Proc.wp_ofExcept ?_ fun _ _ => ⟨⟨groups, rest, handling⟩, proceeds⟩
  intro answer _
  have answered : Conveys groups rest (w.answer (.built answer)) :=
    ⟨handling.agreed, handling.inStage, handling.whole, handling.unfinished, handling.assembling,
      handling.read, handling.written⟩
  have goesOn : Proceeds start (w.answer (.built answer)) :=
    ⟨proceeds.auth, proceeds.phase, proceeds.closed⟩
  refine wp_drain ⟨⟨groups, rest, answered⟩, goesOn⟩ ?_ ?_
  · rintro w' ⟨-, shades, -⟩
    have conveys := answered.shades shades
    have still : w'.session.auth.phase = .tlsRejected := by
      have settled : (w.answer (.built answer)).session.auth.phase ≠ .authenticating := by
        rw [World.answer_session, rejected]
        decide
      exact (shades.waits settled).trans rejected
    have none_ : backendWrites w'.trace = [] := by
      by_contra written
      have begun : (backendWrites w'.trace).map Prod.fst ≠ [] := by simpa using written
      exact (conveys.inStage.begun.mp begun).admitted still
    unfold markClosed
    rw [Proc.wp_update]
    refine ⟨⟨⟨by rintro ⟨⟩, fun _ => .inl still⟩, ⟨conveys.inStage.staged, conveys.inStage.greeted,
      conveys.inStage.begun, ?_⟩, conveys.whole, conveys.unfinished, ?_, conveys.read,
      conveys.written⟩, ⟨fun _ => rfl, fun underway => absurd still underway.admitted,
        fun _ => ⟨rfl, rfl⟩⟩, shades.clientFramer.trans framed, fun _ => rfl⟩
    · intro message inside
      change .command message ∈ (backendWrites w'.trace).map Prod.fst at inside
      rw [none_] at inside
      cases inside
    · intro begun
      exact ⟨(conveys.assembling begun).1, by rintro ⟨⟩⟩
  · rintro w' ⟨-, shades, -⟩
    exact ⟨⟨groups, rest, answered.shades shades⟩, .refl w'⟩

theorem wp_processHandshakeResponse
    (handling : Handling framer groups (packet.raw ++ rest) start w) (framed : WellFramed packet)
    (greeted : w.session.initialBackendHandshakeSeen = true)
    (waiting : w.session.auth.phase = .waitingForClientResponse) :
    Proc.wp (conveying tools opts) (processHandshakeResponse packet)
      (fun _ start w => Handling framer (groups ++ [[packet]]) rest start w)
      (fun _ start w => Conveying w ∧ Proceeds start w) start w := by
  have unanswered := handling.unanswered framed greeted waiting
  unfold processHandshakeResponse
  rw [Proc.wp_bind]
  refine Proc.wp_ofExcept ?_ fun _ _ => handling.promised
  intro response _
  rw [Proc.wp_bind, wp_session, Proc.wp_bind]
  refine Proc.wp_ofExcept ?_ fun _ _ => handling.promised
  intro accepted done
  have phase := (acceptClientResponse_phase done).2
  have answers : Unanswered framer (groups ++ [[packet]]) rest start
      (w.withSession { w.session with auth := accepted }) :=
    ⟨unanswered.silent, unanswered.early, unanswered.unassembled, unanswered.greeted,
      unanswered.whole, unanswered.read, unanswered.framer, unanswered.proceeds⟩
  rw [Proc.wp_bind, changeRelay, Proc.wp_update]
  unfold answerHandshake
  split
  · next asksTls =>
    rw [if_pos asksTls] at phase
    exact wp_refuseTls (answers.rejected phase) (answers.proceeds _) answers.framer phase
  · next noTls =>
    rw [if_neg noTls] at phase
    rw [Proc.wp_bind, changeRelay, Proc.wp_update, Proc.wp_bind, wp_writeBackend]
    have updated : Unanswered framer (groups ++ [[packet]]) rest start (withState
        (w.withSession { w.session with auth := accepted })
        { w.session.session with database := accepted.database }) :=
      ⟨answers.silent, answers.early, answers.unassembled, answers.greeted, answers.whole,
        answers.read, answers.framer, answers.proceeds⟩
    exact wp_handlingDrain (updated.responds rfl phase) fun _ held => held

/-! ### Replies and commands -/

/-- Once the client has responded, its response has been written. -/
theorem Handling.underway (handling : Handling framer groups rest start w)
    (responded : w.session.auth.phase ≠ .waitingForClientResponse)
    (open_ : w.session.phase ≠ .closed) : Underway w.session.auth :=
  ⟨responded, fun rejected => open_ (handling.closing rejected)⟩

/-- A reply to the backend is passed through. -/
theorem Handling.passes (handling : Handling framer groups (packet.raw ++ rest) start w)
    (framed : WellFramed packet) (responded : w.session.auth.phase ≠ .waitingForClientResponse)
    (phase : w.session.phase = .authentication) :
    Handling framer (groups ++ [[packet]]) rest start
      (w.log (.forwarded .passThrough packet.raw)) := by
  have unassembled := handling.conveys.unassembled (.inr phase)
  have reads := handling.conveys.reads framed unassembled
  have underway := handling.underway responded (by rw [phase]; decide)
  have begun := reads.inStage.begun.mpr underway
  have uncommanded : ∀ message, .command message ∉ (backendWrites w.trace).map Prod.fst := by
    intro message inside
    have same := reads.inStage.commanding message inside
    rw [phase] at same
    cases same
  have more : backendWrites (w.log (.forwarded .passThrough packet.raw)).trace =
      backendWrites w.trace ++ [(.passThrough, packet.raw)] := by
    rw [World.log_trace, backendWrites_append]
    rfl
  refine ⟨⟨reads.agreed, ?_, reads.whole, reads.unfinished, reads.assembling, reads.read, ?_⟩,
    ⟨handling.proceeds.auth, handling.proceeds.phase, ?_⟩, handling.framer, handling.closing⟩
  · rw [more, List.map_append]
    refine ⟨reads.inStage.staged.reply begun uncommanded, fun _ => reads.inStage.greeted begun,
      iff_of_true (by simp) underway, ?_⟩
    intro message inside
    rcases List.mem_append.mp inside with early | last
    · exact absurd early (uncommanded message)
    · simp at last
  · rw [more, List.map_append, List.map_append]
    exact handling.conveys.written.append (by simp [wireOf])
  · intro closed
    have same := (handling.proceeds.closed closed).1
    rw [phase] at same
    cases same

/-- While a message is dispatched, it has been read; it may still be written once. -/
structure Dispatched (framer : PacketFramer) (groups : List (List Packet)) (group : List Packet)
    (rest : Bytes) (stage : Stage) (start w : LinkWorld) : Prop where
  handling : Handling framer (groups ++ [group]) rest start w
  commanding : w.session.phase = .commandResponse
  unwritten : stage ≠ .written → stage ≠ .broken →
    List.Sublist ((backendWrites w.trace).map Prod.snd) (groups.map wireOf)

section Dispatched

variable {group : List Packet} {stage later : Stage} {message : LogicalMessage}

theorem Dispatched.enters (dispatched : Dispatched framer groups group rest stage start w)
    (opens : later ≠ .written → later ≠ .broken → stage ≠ .written ∧ stage ≠ .broken) :
    Dispatched framer groups group rest later start w :=
  ⟨dispatched.handling, dispatched.commanding, fun unwritten unbroken =>
    dispatched.unwritten (opens unwritten unbroken).1 (opens unwritten unbroken).2⟩

theorem Dispatched.withState (dispatched : Dispatched framer groups group rest stage start w)
    (state : SessionState) :
    Dispatched framer groups group rest stage start (withState w state) := by
  obtain ⟨conveys, proceeds, framed, closing⟩ := dispatched.handling
  refine ⟨⟨⟨⟨conveys.agreed.commanding, conveys.agreed.closed⟩, ⟨conveys.inStage.staged,
    conveys.inStage.greeted, conveys.inStage.begun, conveys.inStage.commanding⟩, conveys.whole,
    conveys.unfinished, conveys.assembling, conveys.read, conveys.written⟩,
    ⟨proceeds.auth, proceeds.phase, proceeds.closed⟩, framed, closing⟩, dispatched.commanding,
    dispatched.unwritten⟩

/-- What is written to the client and noted is not written to the backend. -/
theorem Dispatched.sameWrites (dispatched : Dispatched framer groups group rest stage start w)
    (session : w'.session = w.session) (peer : w'.peer = w.peer)
    (writes : backendWrites w'.trace = backendWrites w.trace) :
    Dispatched framer groups group rest stage start w' := by
  obtain ⟨conveys, proceeds, framed, closing⟩ := dispatched.handling
  refine ⟨⟨⟨?_, ?_, conveys.whole, ?_, ?_, ?_, ?_⟩, ⟨?_, ?_, ?_⟩, ?_, ?_⟩, ?_, ?_⟩
  · rw [session]
    exact conveys.agreed
  · rw [session, writes]
    exact conveys.inStage
  · rw [session]
    exact conveys.unfinished
  · rw [session]
    exact conveys.assembling
  · rw [session, peer]
    exact conveys.read
  · rw [writes]
    exact conveys.written
  · rw [session]
    exact proceeds.auth
  · rw [session]
    exact proceeds.phase
  · rw [session, writes]
    exact proceeds.closed
  · rw [session]
    exact framed
  · rw [session]
    exact closing
  · rw [session]
    exact dispatched.commanding
  · rw [writes]
    exact dispatched.unwritten

theorem Dispatched.logs (dispatched : Dispatched framer groups group rest stage start w)
    {event : Event adapter} (unwritten : backendWrites [event] = []) :
    Dispatched framer groups group rest stage start (w.log event) := by
  refine dispatched.sameWrites rfl rfl ?_
  rw [World.log_trace, backendWrites_append, unwritten, List.append_nil]

/-- The message is written as it was sent. -/
theorem Dispatched.writes (dispatched : Dispatched framer groups group rest stage start w)
    (raw : message.rawPackets = wireOf group) (unwritten : stage ≠ .written)
    (unbroken : stage ≠ .broken) :
    Dispatched framer groups group rest .written start (w.log (writeOf message)) := by
  obtain ⟨conveys, proceeds, framed, closing⟩ := dispatched.handling
  have commanding := dispatched.commanding
  have underway : Underway w.session.auth := by
    have same := conveys.agreed.commanding commanding
    refine ⟨?_, ?_⟩
    · rw [same]
      decide
    · rw [same]
      decide
  have begun := conveys.inStage.begun.mpr underway
  have more : backendWrites (w.log (writeOf message)).trace =
      backendWrites w.trace ++ [(.command message, message.rawPackets)] := by
    rw [World.log_trace, backendWrites_append]
    rfl
  refine ⟨⟨⟨conveys.agreed, ?_, conveys.whole, conveys.unfinished, conveys.assembling,
    conveys.read, ?_⟩, ⟨proceeds.auth, proceeds.phase, ?_⟩, framed, closing⟩, commanding,
    fun absurd_ => absurd rfl absurd_⟩
  · rw [more, List.map_append]
    exact ⟨conveys.inStage.staged.command begun message, fun _ => conveys.inStage.greeted begun,
      iff_of_true (by simp) underway, fun _ _ => commanding⟩
  · rw [more, List.map_append, List.map_append]
    refine (dispatched.unwritten unwritten unbroken).append ?_
    simp [raw]
  · intro closed
    have same := (proceeds.closed closed).1
    rw [commanding] at same
    cases same

theorem Dispatched.shades (dispatched : Dispatched framer groups group rest stage start w)
    (shades : Shades w w') : Dispatched framer groups group rest stage w' w' := by
  refine ⟨dispatched.handling.shades shades, ?_, ?_⟩
  · rw [shades.phase (by rw [dispatched.commanding]; decide)]
    exact dispatched.commanding
  · rw [shades.trace]
    exact dispatched.unwritten

/-- A dispatch writes its own message or nothing. -/
theorem course_dispatched (raw : message.rawPackets = wireOf group) :
    Course tools opts message (conveying tools opts)
      (fun stage _ start w => Dispatched framer groups group rest stage start w) where
  records _ _ _ _ _ _ isDecision held := held.logs (backendWrites_decision isDecision)
  pauses _ _ _ _ _ _ held := held.handling.promised
  resumes _ _ _ _ _ _ _ _ held relied := held.shades relied.2.1
  prepared _ _ _ relied := relied.2.2 rfl
  loses _ _ _ _ _ session held relied _ :=
    ((held.shades relied.2.1).enters fun _ unbroken => absurd rfl unbroken).withState session
  breaks _ _ _ _ session _ held _ :=
    (held.enters fun _ unbroken => absurd rfl unbroken).withState session
  opens _ _ after held _ := (held.withState after).writes raw (by decide) (by decide)
  resolves _ _ _ _ _ held _ := (held.logs rfl).enters fun _ _ => by decide
  abandons _ _ _ held := held.enters fun _ _ => by decide
  queries _ _ _ held _ := (held.withState _).enters fun _ _ => by decide
  executes _ _ _ held _ := (held.withState _).enters fun _ _ => by decide
  forgets _ _ held := (held.withState _).enters fun _ _ => by decide
  approves _ _ _ held _ := held.writes raw (by decide) (by decide)
  registers _ _ _ _ _ _ held _ _ := held.withState _
  misses _ _ _ _ _ _ held _ _ := held.enters fun _ unbroken => absurd rfl unbroken
  refuses stage _ start w packet isOpen held _ := by
    have refused : Dispatched framer groups group rest stage.refusal start w := by
      rcases isOpen with rfl | rfl
      · exact held.enters fun _ _ => by decide
      · exact held.enters fun _ _ => by decide
    refine refused.sameWrites rfl rfl ?_
    rw [World.answer_trace, World.log_trace, backendWrites_append]
    exact List.append_nil _
  settles _ _ _ held := (held.withState _).enters fun _ _ => by decide
  passes stage _ _ _ isOpen _ held := by
    rcases isOpen with rfl | rfl
    · exact held.writes raw (by decide) (by decide)
    · exact held.writes raw (by decide) (by decide)
  remembers _ _ _ _ _ held _ _ := held.withState _
  overlooks _ _ _ _ _ held _ _ := held.enters fun _ unbroken => absurd rfl unbroken

end Dispatched

/-- Packets are put together to the message they belong to, and the message is dispatched. -/
theorem Handling.incomplete (handling : Handling framer groups (packet.raw ++ rest) start w)
    (framed : WellFramed packet) (responded : w.session.auth.phase ≠ .waitingForClientResponse)
    (commanding : w.session.phase = .commandResponse)
    (full : packet.payload.length = maxPacketPayload)
    (inSequence : w.session.commandAssembler.inSequence packet = .ok ()) :
    Handling framer groups rest start (w.withSession { w.session with
      commandAssembler := w.session.commandAssembler.holding
        (w.session.commandAssembler.parts ++ [packet]) }) := by
  obtain ⟨conveys, proceeds, framer_, closing⟩ := handling
  refine ⟨⟨⟨conveys.agreed.commanding, conveys.agreed.closed⟩, ⟨conveys.inStage.staged,
    conveys.inStage.greeted, conveys.inStage.begun, conveys.inStage.commanding⟩, conveys.whole,
    conveys.unfinished.push framed full inSequence, ?_, ?_, conveys.written⟩,
    ⟨proceeds.auth, proceeds.phase, proceeds.closed⟩, framer_, closing⟩
  · exact fun _ => ⟨responded, by rw [World.withSession_session, commanding]; decide⟩
  · rw [World.withSession_peer, conveys.read]
    simp [LogicalMessageAssembler.holding]

/-- The assembler has been emptied, with what it held handled or still to be handled. -/
theorem Handling.reset (handling : Handling framer groups rest start w)
    {groups' : List (List Packet)} (rest' : Bytes) (whole : ∀ group ∈ groups', Whole group)
    (read : wireOf groups.flatten ++ wireOf w.session.commandAssembler.parts ++ rest =
      wireOf groups'.flatten ++ rest')
    (written : List.Sublist (groups.map wireOf) (groups'.map wireOf)) :
    Handling framer groups' rest' start (w.withSession { w.session with
      commandAssembler := w.session.commandAssembler.reset }) := by
  obtain ⟨conveys, proceeds, framed, closing⟩ := handling
  refine ⟨⟨⟨conveys.agreed.commanding, conveys.agreed.closed⟩, ⟨conveys.inStage.staged,
    conveys.inStage.greeted, conveys.inStage.begun, conveys.inStage.commanding⟩, whole,
    unfinished_nil, fun begun => absurd rfl begun, ?_, conveys.written.trans written⟩,
    ⟨proceeds.auth, proceeds.phase, proceeds.closed⟩, framed, closing⟩
  rw [World.withSession_peer, conveys.read, read]
  simp [LogicalMessageAssembler.reset]

/-- The last packet of a message completes it. -/
theorem Handling.completes {message : LogicalMessage}
    (handling : Handling framer groups (packet.raw ++ rest) start w) (framed : WellFramed packet)
    (commanding : w.session.phase = .commandResponse)
    (inSequence : w.session.commandAssembler.inSequence packet = .ok ())
    (raw : message.rawPackets = wireOf (w.session.commandAssembler.parts ++ [packet])) :
    Proc.wp (conveying tools opts) (dispatchAuthenticatedCommand tools opts message)
      (fun _ start w => ∃ groups', Handling framer groups' rest start w)
      (fun _ start w => Conveying w ∧ Proceeds start w) start (w.withSession { w.session with
        commandAssembler := w.session.commandAssembler.reset }) := by
  have conveys := handling.conveys
  have whole : ∀ group ∈ groups ++ [w.session.commandAssembler.parts ++ [packet]],
      Whole group := by
    intro group inside
    rcases List.mem_append.mp inside with early | last
    · exact conveys.whole group early
    · rw [List.mem_singleton.mp last]
      exact conveys.unfinished.whole framed inSequence
  have assembled := handling.reset rest whole (by simp) (by simp)
  have begun : Dispatched framer groups (w.session.commandAssembler.parts ++ [packet]) rest
      .considering start _ := ⟨assembled, commanding, fun _ _ => conveys.written⟩
  refine Proc.wp_mono ((course_dispatched raw).dispatches begun) ?_ ?_
  · rintro _ start w ⟨_, held⟩
    exact ⟨_, held.handling⟩
  · rintro _ start w ⟨_, held⟩
    exact held.handling.promised

theorem wp_processClientPacket (handling : Handling framer groups (packet.raw ++ rest) start w)
    (framed : WellFramed packet) :
    Proc.wp (conveying tools opts) (processClientPacket tools opts packet)
      (fun _ start w => ∃ groups', Handling framer groups' rest start w)
      (fun _ start w => Conveying w ∧ Proceeds start w) start w := by
  unfold processClientPacket
  rw [Proc.wp_bind, wp_session]
  split
  · exact handling.promised
  · next seen =>
    split
    · next waiting =>
      have greeted : w.session.initialBackendHandshakeSeen = true := by simpa using seen
      refine Proc.wp_mono (wp_processHandshakeResponse handling framed greeted waiting) ?_
        fun _ _ _ promised => promised
      exact fun _ _ _ handled => ⟨_, handled⟩
    · next responded =>
      cases phase : w.session.phase with
      | authentication =>
          rw [Proc.wp_bind, wp_writeBackend]
          exact wp_handlingDrain (handling.passes framed responded phase) fun _ held => ⟨_, held⟩
      | closed => exact handling.promised
      | commandResponse =>
          rcases push_cases w.session.commandAssembler packet with
            ⟨error, pushed⟩ | ⟨inSequence, full, pushed⟩ | ⟨message, inSequence, raw, pushed⟩
          · have dropped := handling.reset _ handling.conveys.whole (List.append_assoc _ _ _)
              (.refl _)
            rw [pushed]
            exact dropped.promised
          · rw [pushed]
            exact ⟨groups, handling.incomplete framed responded phase full inSequence⟩
          · rw [pushed]
            change Proc.wp _ (dispatchAuthenticatedCommand tools opts message >>= _) _ _ start _
            rw [Proc.wp_bind]
            exact handling.completes framed phase inSequence raw

theorem wp_clientPackets {pending : List Packet} {buffer : Bytes}
    (handling : Handling framer groups (wireOf pending ++ buffer) start w)
    (framed : ∀ packet ∈ pending, WellFramed packet) :
    Proc.wp (conveying tools opts) (forEach (processClientPacket tools opts) pending)
      (fun _ start w => ∃ groups', Handling framer groups' buffer start w)
      (fun _ start w => Conveying w ∧ Proceeds start w) start w := by
  induction pending generalizing groups start w with
  | nil => exact ⟨groups, handling⟩
  | cons packet pending ih =>
      rw [wireOf_cons, List.append_assoc] at handling
      rw [forEach, Proc.wp_bind]
      refine Proc.wp_mono (wp_processClientPacket handling (framed packet List.mem_cons_self)) ?_
        fun _ _ _ promised => promised
      rintro _ start w ⟨groups', handled⟩
      exact ih handled fun other inside => framed other (List.mem_cons_of_mem _ inside)

/-! ### Chunks -/

/-- The packets of a chunk are cut off what has been read, and no more of them are left. -/
theorem PacketFramer.push_ok {framer framer' : PacketFramer} {chunk : Bytes}
    {packets : List Packet} (pushed : framer.push chunk = .ok (packets, framer')) :
    framer.buffer ++ chunk = wireOf packets ++ framer'.buffer ∧
      (∀ packet ∈ packets, WellFramed packet) ∧
      takePacket framer'.maxPacketBytes framer'.buffer = .ok none := by
  rw [PacketFramer.push_eq] at pushed
  cases cut : (packetCutter framer.maxPacketBytes).cut (framer.buffer ++ chunk) with
  | error error =>
      rw [cut] at pushed
      cases pushed
  | ok parts =>
      rw [cut] at pushed
      cases pushed
      obtain ⟨split, taken⟩ := Cutter.cut_split cut
      refine ⟨split, ?_, Cutter.cut_rest cut⟩
      intro packet inside
      obtain ⟨_, _, takes⟩ := taken packet inside
      exact (takePacket_some takes).2

/-- Between two reads every message is handled that is complete. -/
structure UpToDate (w : LinkWorld) : Prop where
  conveys : ∃ groups, Conveys groups w.session.clientFramer.buffer w
  unframed : takePacket w.session.clientFramer.maxPacketBytes w.session.clientFramer.buffer =
    .ok none
  closing : w.session.auth.phase = .tlsRejected → w.session.phase = .closed

theorem Conveys.reading {buffer : Bytes} (conveys : Conveys groups buffer w) (chunk : Bytes) :
    Conveys groups (buffer ++ chunk) (readClient w chunk) := by
  refine ⟨conveys.agreed, conveys.inStage, conveys.whole, conveys.unfinished, conveys.assembling,
    ?_, conveys.written⟩
  change w.peer.clientRead ++ chunk = _
  rw [conveys.read, List.append_assoc]
  rfl

theorem Conveys.framing (conveys : Conveys groups rest w) (framer : PacketFramer) :
    Conveys groups rest (w.withSession { w.session with clientFramer := framer }) :=
  ⟨⟨conveys.agreed.commanding, conveys.agreed.closed⟩, ⟨conveys.inStage.staged,
    conveys.inStage.greeted, conveys.inStage.begun, conveys.inStage.commanding⟩, conveys.whole,
    conveys.unfinished, conveys.assembling, conveys.read, conveys.written⟩

/-- A turn of the client task. -/
theorem wp_pumpMysqlClient (upToDate : UpToDate w) (chunk : Bytes) :
    Proc.wp (conveying tools opts) (pumpMysqlClient tools opts chunk)
      (fun _ start w => (Conveying w ∧ Proceeds start w) ∧ UpToDate w)
      (fun _ start w => Conveying w ∧ Proceeds start w) w (readClient w chunk) := by
  obtain ⟨groups, conveys⟩ := upToDate.conveys
  have arrived := conveys.reading chunk
  have idle : ∀ session : RelayState, session.auth = w.session.auth →
      session.phase = w.session.phase →
      Proceeds w ((readClient w chunk).withSession session) := by
    intro session auth phase
    exact ⟨fun _ => auth, fun _ => phase, fun closed => ⟨phase.trans closed, rfl⟩⟩
  unfold pumpMysqlClient processClientChunk
  simp only [Proc.wp_bind]
  refine Proc.wp_ofExcept ?_ fun _ _ => ⟨⟨_, _, arrived⟩, idle _ rfl rfl⟩
  rintro ⟨packets, framer⟩ pushed
  obtain ⟨split, framed, unframed⟩ := PacketFramer.push_ok pushed
  change w.session.clientFramer.buffer ++ chunk = wireOf packets ++ framer.buffer at split
  have cut := arrived.framing framer
  rw [split] at cut
  rw [changeRelay, Proc.wp_update]
  refine Proc.wp_mono (wp_clientPackets ⟨cut, idle _ rfl rfl, rfl, upToDate.closing⟩ framed) ?_
    fun _ _ _ promised => promised
  rintro _ start w' ⟨groups', handled⟩
  refine ⟨handled.promised, ⟨groups', ?_⟩, ?_, handled.closing⟩
  · rw [handled.framer]
    exact handled.conveys
  · rw [handled.framer]
    exact unframed

end Client

/-! ## Packets of the backend -/

section Backend

open Proc

variable {tools : Tools} {opts : ProxyOptions} {start w w' : LinkWorld} {packet : Packet}

/-- The contract of the backend task. -/
abbrev shading (tools : Tools) (opts : ProxyOptions) : Proc.Contract awaits LinkWorld :=
  (conveyance tools opts).contract .backend

/-- A change of what the client task does not look at. -/
theorem Shades.stays (shades : Shades start w) (trace : w'.trace = w.trace)
    (peer : w'.peer.clientRead = w.peer.clientRead)
    (framer : w'.session.clientFramer = w.session.clientFramer)
    (assembler : w'.session.commandAssembler = w.session.commandAssembler)
    (greeted : w.session.initialBackendHandshakeSeen = true →
      w'.session.initialBackendHandshakeSeen = true)
    (auth : w'.session.auth = w.session.auth) (phase : w'.session.phase = w.session.phase) :
    Shades start w' := by
  refine shades.trans ⟨trace, peer, framer, assembler, greeted, ?_, ?_, ?_, ?_⟩
  · intro agreed
    refine ⟨?_, ?_⟩
    · rw [auth, phase]
      exact agreed.commanding
    · rw [auth, phase]
      exact agreed.closed
  · intro _
    rw [auth]
  · intro authenticating
    rw [auth, authenticating]
    decide
  · intro _
    exact phase

theorem renews_shades : Renews (shading tools opts) Shades :=
  ⟨fun _ _ _ shades => shades, fun _ _ _ _ w' _ _ => .refl w'⟩

theorem session_shades : IgnoresSession Shades :=
  fun _ _ _ shades => shades.stays rfl rfl rfl rfl id rfl rfl

theorem shades_answer {write : ClientWrite} (start w : LinkWorld) (shades : Shades start w) :
    Shades start (w.answer write) := shades.stays rfl rfl rfl rfl id rfl rfl

/-- The first phase may be left for any that agrees with the authentication. -/
theorem Shades.leaves (shades : Shades start w) (early : w.session.phase = .authentication)
    {phase : BackendPhase} (agreed : Agreed { w.session with phase := phase }) :
    Shades start (w.withSession { w.session with phase := phase }) := by
  refine shades.trans ⟨rfl, rfl, rfl, rfl, id, fun _ => agreed, fun _ => rfl, ?_, ?_⟩
  · intro authenticating
    rw [World.withSession_session, authenticating]
    decide
  · exact fun entered => absurd early entered

theorem acceptBackendPacket_phase {auth : AuthState} {accepted : BackendAuthPacket × AuthState}
    (done : auth.acceptBackendPacket packet = .ok accepted) :
    auth.phase = .authenticating ∧ Underway accepted.2 ∧
      (accepted.1 = .error → accepted.2.phase = .failed) := by
  unfold AuthState.acceptBackendPacket at done
  split at done
  · cases done
  · next authenticating =>
    have phase : auth.phase = .authenticating := not_not.mp authenticating
    obtain ⟨kind, -, done⟩ := bind_ok done
    refine ⟨phase, ?_⟩
    cases kind with
    | ok =>
        cases done
        exact ⟨⟨by rintro ⟨⟩, by rintro ⟨⟩⟩, by rintro ⟨⟩⟩
    | error =>
        cases done
        exact ⟨⟨by rintro ⟨⟩, by rintro ⟨⟩⟩, fun _ => rfl⟩
    | _ =>
        cases done
        refine ⟨⟨?_, ?_⟩, by rintro ⟨⟩⟩
        · rw [phase]
          decide
        · rw [phase]
          decide

theorem wp_linkAuthenticated (early : w.session.phase = .authentication) (payload : Bytes) :
    Proc.wp (shading tools opts) (markAuthenticated payload) (fun _ start w => Shades start w)
      (fun _ start w => Shades start w) w w := by
  unfold markAuthenticated
  rw [Proc.wp_bind, wp_session, Proc.wp_bind]
  refine wp_changeSession ?_ fun _ _ => .refl w
  intro changed _
  have updated : Shades w (withState w changed) :=
    (Shades.refl w).stays rfl rfl rfl rfl id rfl rfl
  rw [Proc.wp_bind, wp_session]
  split
  · exact updated
  · next authenticated =>
    rw [Proc.wp_update]
    exact updated.leaves early ⟨fun _ => not_not.mp authenticated, by rintro ⟨⟩⟩

theorem wp_linkAuthentication (shades : Shades start w)
    (early : w.session.phase = .authentication) :
    Proc.wp (shading tools opts) (routeAuthentication packet) (fun _ start w => Shades start w)
      (fun _ start w => Shades start w) start w := by
  unfold routeAuthentication
  rw [Proc.wp_bind, wp_session, Proc.wp_bind]
  refine Proc.wp_ofExcept ?_ fun _ _ => shades
  intro accepted done
  obtain ⟨authenticating, underway, failed⟩ := acceptBackendPacket_phase done
  have accepts : Shades start ((w.withSession { w.session with auth := accepted.2 }).answer
      (.relayed packet.raw)) := by
    refine shades.trans ⟨rfl, rfl, rfl, rfl, id, ?_, fun other => absurd authenticating other,
      fun _ => ⟨underway.responded, underway.admitted⟩, fun _ => rfl⟩
    intro _
    refine ⟨?_, ?_⟩
    · change w.session.phase = _ → _
      rw [early]
      rintro ⟨⟩
    · change w.session.phase = _ → _
      rw [early]
      rintro ⟨⟩
  rw [Proc.wp_bind, Proc.wp_update, Proc.wp_bind, wp_writeClient, Proc.wp_bind]
  refine wp_drain accepts ?_ fun w' _ => .refl w'
  rintro w' ⟨-, behind, -⟩
  have auth : w'.session.auth = accepted.2 := behind.auth underway.responded
  have still : w'.session.phase = .authentication := (behind.phase underway).trans early
  cases kind : accepted.1 with
  | ok => exact wp_linkAuthenticated still _
  | error =>
      refine (Shades.refl w').leaves still ⟨by rintro ⟨⟩, fun _ => .inr ?_⟩
      rw [auth]
      exact failed kind
  | _ => exact .refl w'

theorem maintains_linkPacket (packet : Packet) :
    Maintains (shading tools opts) Shades (processBackendPacket packet) := by
  intro start w shades
  unfold processBackendPacket
  rw [Proc.wp_bind, wp_session]
  split
  · unfold routeBackendPacket
    rw [Proc.wp_bind, wp_session]
    cases phase : w.session.phase with
    | closed => exact shades
    | authentication => exact wp_linkAuthentication shades phase
    | commandResponse =>
        exact session_shades.routeResponse renews_shades packet shades_answer start w shades
  · refine maintains_bind (maintains_update shades_answer) (fun _ =>
      maintains_bind (maintains_drain renews_shades) fun _ => maintains_update ?_) start w shades
    exact fun _ _ shades => shades.stays rfl rfl rfl rfl (fun _ => rfl) rfl rfl

theorem maintains_pumpMysqlBackend (chunk : Bytes) :
    Maintains (shading tools opts) Shades (pumpMysqlBackend chunk) := by
  refine maintains_bind (maintains_bind maintains_session fun _ =>
    maintains_bind (maintains_ofExcept _) fun _ => maintains_bind (maintains_update ?_) fun _ =>
      maintains_bind (maintains_forEach maintains_linkPacket _) fun _ => maintains_pure _)
    fun _ => maintains_pure ()
  exact fun _ _ shades => shades.stays rfl rfl rfl rfl id rfl rfl

end Backend

/-! ## Every run -/

/-- What the client has sent, the messages handled, and which of them were written. -/
structure Conveyed (w : LinkWorld) (groups : List (List Packet)) (rest : Bytes) : Prop where
  whole : ∀ group ∈ groups, Whole group
  read : w.peer.clientRead = wireOf groups.flatten ++ rest
  written : List.Sublist ((backendWrites w.trace).map Prod.snd) (groups.map wireOf)

/-- Between two reads: packets of an unfinished message, and the beginning of the next packet. -/
def LeftOver (w : LinkWorld) (rest : Bytes) : Prop :=
  ∃ parts buffer, rest = wireOf parts ++ buffer ∧ Unfinished parts ∧
    takePacket w.session.clientFramer.maxPacketBytes buffer = .ok none

/-- What each task leaves behind. -/
def leavesRead : Side → LinkWorld → Prop
  | .client, w => UpToDate w
  | .backend, _ => True

section Runs

variable {tools : Tools} {opts : ProxyOptions} {w w' : LinkWorld}

theorem UpToDate.shades (upToDate : UpToDate w) (shades : Shades w w') : UpToDate w' := by
  obtain ⟨groups, conveys⟩ := upToDate.conveys
  have handling : Handling w.session.clientFramer groups w.session.clientFramer.buffer w w :=
    ⟨conveys, .refl w, rfl, upToDate.closing⟩
  have later := handling.shades shades
  refine ⟨⟨groups, ?_⟩, ?_, later.closing⟩
  · rw [later.framer]
    exact later.conveys
  · rw [later.framer]
    exact upToDate.unframed

theorem reads_stable (side : Side) (w w' : LinkWorld) (rests : leavesRead side w)
    (relied : (conveyance tools opts).rely side w w') : leavesRead side w' := by
  cases side with
  | client => exact UpToDate.shades rests relied
  | backend => trivial

theorem completes_conveyance (side : Side) (w : LinkWorld)
    (task : Proc awaits LinkWorld Exn Unit) (w' : LinkWorld)
    (_ : (conveyance tools opts).invariant w)
    (rests : leavesRead side w)
    (started : (handleMysqlConnection tools opts).start side w task w') :
    (conveyance tools opts).Completes leavesRead side task w w' := by
  cases side with
  | client =>
      obtain ⟨chunk, -, -, rfl, rfl⟩ := started
      exact wp_pumpMysqlClient rests chunk
  | backend =>
      obtain ⟨chunk, -, rfl, rfl⟩ := started
      have begun : Shades w (readBackend w chunk) :=
        (Shades.refl w).stays rfl rfl rfl rfl id rfl rfl
      exact Proc.wp_mono (maintains_pumpMysqlBackend chunk w _ begun)
        (fun _ _ _ shades => ⟨shades, trivial⟩) fun _ _ _ shades => shades

/-- A relay that has been created and used for nothing yet. -/
structure UnusedRelay (relay : RelayState) : Prop where
  waiting : relay.auth.phase = .waitingForClientResponse
  phase : relay.phase = .authentication
  unseen : relay.initialBackendHandshakeSeen = false
  clientFramer : relay.clientFramer.buffer = []
  backendFramer : relay.backendFramer.buffer = []
  assembler : relay.commandAssembler.parts = []

theorem unused_newRelay (database : String)
    (maxPacketBytes maxSessionItems maxSessionStateBytes : Nat) (enough : 4 ≤ maxPacketBytes) :
    UnusedRelay (newRelay database maxPacketBytes maxSessionItems maxSessionStateBytes enough) :=
  ⟨rfl, rfl, rfl, rfl, rfl, rfl⟩

theorem upToDate_newLink {relay : RelayState} (unused : UnusedRelay relay) :
    UpToDate (newLink relay) where
  conveys := by
    refine ⟨[], ⟨?_, ?_⟩, ⟨.silent, fun begun => absurd rfl begun, ?_, by rintro _ ⟨⟩⟩,
      by rintro _ ⟨⟩, ?_, fun begun => absurd unused.assembler begun, ?_, .refl _⟩
    · intro commanding
      exact absurd (unused.phase.symm.trans commanding) (by decide)
    · intro closed
      exact absurd (unused.phase.symm.trans closed) (by decide)
    · exact iff_of_false (fun begun => begun rfl) fun underway => underway.responded unused.waiting
    · rw [newLink, unused.assembler]
      exact unfinished_nil
    · rw [newLink, unused.assembler, unused.clientFramer]
      rfl
  unframed := by
    rw [newLink, unused.clientFramer]
    exact takePacket_nil _
  closing rejected := absurd (unused.waiting.symm.trans rejected) (by decide)

/-- What holds of every run. -/
theorem holds_conveyance {relay : RelayState} (unused : UnusedRelay relay)
    {c : Config awaits LinkWorld Exn Side}
    (run : (handleMysqlConnection tools opts).Run anyTurn (Config.idle (newLink relay)) c) :
    (conveyance tools opts).Holds leavesRead c := by
  have upToDate := upToDate_newLink unused
  have initial : (conveyance tools opts).Holds leavesRead (Config.idle (newLink relay)) := by
    refine ⟨?_, ?_⟩
    · obtain ⟨groups, conveys⟩ := upToDate.conveys
      exact ⟨groups, _, conveys⟩
    · intro side
      cases side with
      | client => exact upToDate
      | backend => trivial
  exact Promises.holds_of_run_resting reads_stable completes_conveyance initial run

/-- A turn after the connection was closed writes nothing to the backend. -/
theorem closed_step {c c' : Config awaits LinkWorld Exn Side} {who : Option Side}
    (holds : (conveyance tools opts).Holds leavesRead c)
    (turn : (handleMysqlConnection tools opts).Step who c c')
    (closed : c.shared.session.phase = .closed) :
    c'.shared.session.phase = .closed ∧
      backendWrites c'.shared.trace = backendWrites c.shared.trace := by
  cases who with
  | none =>
      cases turn with
      | environment moved => exact moved.elim
  | some side =>
      have guaranteed := Promises.guarantee_of_step_resting completes_conveyance holds turn
      cases side with
      | client => exact guaranteed.2.closed closed
      | backend =>
          have shades : Shades c.shared c'.shared := guaranteed
          have entered : c.shared.session.phase ≠ .authentication := by
            rw [closed]
            decide
          exact ⟨(shades.phase entered).trans closed, congrArg _ shades.trace⟩

/-- Once a connection is closed nothing more is written to the backend. -/
theorem closed_silent {database : String}
    {maxPacketBytes maxSessionItems maxSessionStateBytes : Nat} {enough : 4 ≤ maxPacketBytes}
    {c c' : Config awaits LinkWorld Exn Side}
    (run : (handleMysqlConnection tools opts).Run anyTurn (Config.idle (newLink
      (newRelay database maxPacketBytes maxSessionItems maxSessionStateBytes enough))) c)
    (closed : c.shared.session.phase = .closed)
    (more : (handleMysqlConnection tools opts).Run anyTurn c c') :
    c'.shared.session.phase = .closed ∧
      backendWrites c'.shared.trace = backendWrites c.shared.trace := by
  have holds := holds_conveyance (unused_newRelay _ _ _ _ enough) run
  suffices kept : (conveyance tools opts).Holds leavesRead c' ∧ c'.shared.session.phase = .closed ∧
      backendWrites c'.shared.trace = backendWrites c.shared.trace from kept.2
  induction more with
  | refl => exact ⟨holds, closed, rfl⟩
  | step _ turn condition ih =>
      obtain ⟨held, still, same⟩ := ih
      obtain ⟨later, writes⟩ := closed_step held turn still
      have next := Promises.holds_of_run_resting reads_stable completes_conveyance held
        (.step .refl turn condition)
      exact ⟨next, later, writes.trans same⟩

end Runs

/-! ## A small connection -/

abbrev atOnce (q : Request) (w : LinkWorld) : Request.Answer q × LinkWorld :=
  (userAnswers true q, w)

abbrev shopTasks : System awaits LinkWorld Exn Side :=
  handleMysqlConnection plainTools strictOptions

def shopOpened : LinkWorld :=
  newLink (newRelay "shop" 65536 256 4096 (Nat.le_of_ble_eq_true rfl))

/-- The backend sends a packet. -/
def afterBackend (w : LinkWorld) (packet : Packet) : LinkWorld :=
  ((pumpMysqlBackend packet.raw).run atOnce (readBackend w packet.raw)).2

/-- The client sends some bytes. -/
def afterClient (w : LinkWorld) (chunk : Bytes) : LinkWorld :=
  ((pumpMysqlClient plainTools strictOptions chunk).run atOnce (readClient w chunk)).2

theorem atOnce_answers (q : Request) (w : LinkWorld)
    (other : decide (q ≠ .prepareEvent) = true) : answers q w (userAnswers true q) :=
  fun isPrepare => absurd isPrepare (of_decide_eq_true other)

/-- A task that returns without a wait for a prepare. -/
def ReturnsAtOnce (task : Handler adapter Sockets Unit) (w : LinkWorld) : Prop :=
  task.asksOnly (fun q : Request => decide (q ≠ .prepareEvent)) atOnce w = true ∧
    (task.run atOnce w).1 = .ok ()

instance (task : Handler adapter Sockets Unit) (w : LinkWorld) :
    Decidable (ReturnsAtOnce task w) := inferInstanceAs (Decidable (_ ∧ _))

theorem rests_afterBackend {w : LinkWorld} (packet : Packet)
    (rests : shopTasks.Rests shopOpened w) (chunk : IsChunk packet.raw)
    (returns : ReturnsAtOnce (pumpMysqlBackend packet.raw) (readBackend w packet.raw)) :
    shopTasks.Rests shopOpened (afterBackend w packet) :=
  rests.turn (userAnswers true) atOnce_answers (i := .backend) ⟨_, chunk, rfl, rfl⟩ returns.1
    returns.2

theorem rests_afterClient {w : LinkWorld} (chunk : Bytes)
    (rests : shopTasks.Rests shopOpened w)
    (reads : IsChunk chunk ∧ w.session.session.closing = false)
    (returns : ReturnsAtOnce (pumpMysqlClient plainTools strictOptions chunk)
      (readClient w chunk)) : shopTasks.Rests shopOpened (afterClient w chunk) :=
  rests.turn (userAnswers true) atOnce_answers (i := .client) ⟨_, reads.1, reads.2, rfl, rfl⟩
    returns.1 returns.2

def shopGreeted : LinkWorld := afterBackend shopOpened greeting

/-- A user without a password logs in, and a ping and a part of the next packet follow. -/
def shopPinged : LinkWorld :=
  afterClient (afterBackend (afterClient shopGreeted response.raw) acceptance) (ping.raw ++ [2, 0])

theorem rests_shopGreeted : shopTasks.Rests shopOpened shopGreeted :=
  rests_afterBackend greeting (.refl shopOpened) (by decide +kernel) (by decide +kernel)

theorem rests_shopPinged : shopTasks.Rests shopOpened shopPinged := by
  have answered := rests_afterClient response.raw rests_shopGreeted (by decide +kernel)
    (by decide +kernel)
  have accepted := rests_afterBackend acceptance answered (by decide +kernel) (by decide +kernel)
  exact rests_afterClient (ping.raw ++ [2, 0]) accepted (by decide +kernel) (by decide +kernel)

/-- The first bytes of a TLS connection. -/
def tlsRequest : Packet := packetOf 1 (lePack 4 0x8A01 ++ List.replicate 28 0)

def shopRefused : LinkWorld := afterClient shopGreeted tlsRequest.raw

/-- A client that asks for TLS is refused, and what it sends then goes nowhere. -/
theorem shopRefused_silent : ∃ c c',
    shopTasks.Run anyTurn (Config.idle shopOpened) c ∧ c.shared = shopRefused ∧
      shopTasks.Run anyTurn c c' ∧
      c'.shared.peer.clientRead = tlsRequest.raw ++ response.raw ∧
      backendWrites c'.shared.trace = [] := by
  obtain ⟨c, run, shared, idle⟩ := rests_afterClient tlsRequest.raw rests_shopGreeted
    (by decide +kernel) (by decide +kernel)
  have turn : shopTasks.Step (some .client) c (c.turn .client
      (pumpMysqlClient plainTools strictOptions response.raw)
      (readClient c.shared response.raw)) := by
    refine .start (idle .client) ⟨_, by decide +kernel, ?_, rfl, rfl⟩
    rw [shared]
    decide +kernel
  have closed : c.shared.session.phase = .closed := by
    rw [shared]
    decide +kernel
  have more : shopTasks.Run anyTurn c _ := System.Run.refl.step turn trivial
  refine ⟨c, _, run, shared, more, ?_, (closed_silent run closed more).2.trans ?_⟩
  · change ((pumpMysqlClient _ _ _).advance (readClient c.shared _)).2.peer.clientRead = _
    rw [shared]
    decide +kernel
  · rw [shared]
    decide +kernel

end SqlSafetyProxy.MySql
