import SqlSafetyProxy.Postgres.ClientStream
import SqlSafetyProxy.Postgres.Session

/-!
# What a session conveys

The bytes a client sends are the requests for encryption, the startup message
and its messages, one after another.  What the backend reads is the startup
message and then some of the messages, in order and as they were sent.
-/

namespace SqlSafetyProxy.Postgres

open SqlSafetyProxy.Sql SqlSafetyProxy.Policy SqlSafetyProxy.Wire SqlSafetyProxy.Runtime
open SqlSafetyProxy.Coroutine SqlSafetyProxy.Collections

/-! ## One message -/

/-- The messages received in a trace, in order. -/
def receipts (trace : List (Event adapter)) : List Message := (calls trace).map Call.message

theorem receipts_receipt (trace : List (Event adapter)) (message : Message) (state : ConnectionState) :
    receipts (trace ++ [.noted (.received message state)]) = receipts trace ++ [message] := by
  rw [receipts, calls_receipt, List.map_append]
  rfl

/-- Nothing but a receipt is the receipt of a message. -/
theorem receipts_event {trace : List (Event adapter)} {event : Event adapter}
    (inside : ¬ Event.IsReceipt event) : receipts (trace ++ [event]) = receipts trace := by
  rcases List.eq_nil_or_concat (calls trace) with none_ | ⟨others, call, soFar⟩
  · have step : calls (trace ++ [event]) = addEvent (calls trace) event := by simp [calls]
    rw [receipts, receipts, step, none_]
    cases event with
    | noted note =>
        cases note with
        | received message state => exact absurd trivial inside
        | ended error => rfl
    | _ => rfl
  · rw [List.concat_eq_append] at soFar
    rw [receipts, receipts, calls_event soFar inside, soFar]
    simp

theorem not_receipt_of_decision {event : Event adapter} (isDecision : event.IsDecision) :
    ¬ Event.IsReceipt event := by
  intro receipt
  cases event with
  | noted note => exact isDecision
  | _ => exact receipt

theorem forwards_of_decision {event : Event adapter} (isDecision : event.IsDecision) :
    forwards [event] = [] := by
  cases event with
  | forwarded source raw => exact isDecision.elim
  | _ => rfl

/-- After some earlier messages this one was received, and it was written if the stage says so. -/
structure HandledLast (earlier : List Message) (message : Message) (stage : Stage) (w : PgWorld) :
    Prop where
  received : receipts w.trace = earlier ++ [message]
  written : ∃ before, List.Sublist before (earlier.map Message.raw) ∧
    forwards w.trace = before ++ forwards (stage.writes message)

/-- The messages were received in order, and some of them were written. -/
structure Carries (messages : List Message) (w : PgWorld) : Prop where
  received : receipts w.trace = messages
  written : List.Sublist (forwards w.trace) (messages.map Message.raw)

theorem Carries.of_trace {messages : List Message} {w w' : PgWorld} (carries : Carries messages w)
    (same : w'.trace = w.trace) : Carries messages w' := by
  refine ⟨?_, ?_⟩
  · rw [same]
    exact carries.received
  · rw [same]
    exact carries.written

theorem Carries.ended {messages : List Message} {w : PgWorld} (carries : Carries messages w)
    (error : Option Exn) : Carries messages (w.log (.noted (.ended error))) := by
  refine ⟨?_, ?_⟩
  · rw [World.log_trace, receipts_event (by rintro ⟨⟩)]
    exact carries.received
  · rw [World.log_trace, forwards_append]
    exact (List.append_nil (forwards w.trace)).symm ▸ carries.written

section HandledLast

variable {earlier : List Message} {message : Message} {stage later : Stage} {w w' : PgWorld}

theorem HandledLast.carries (handled : HandledLast earlier message stage w) :
    Carries (earlier ++ [message]) w := by
  obtain ⟨before, subsequence, written⟩ := handled.written
  refine ⟨handled.received, ?_⟩
  have last : List.Sublist (forwards (stage.writes message)) [message.raw] := by
    cases stage with
    | written => exact List.Sublist.refl _
    | _ => exact List.nil_sublist _
  rw [written, List.map_append]
  exact subsequence.append last

theorem HandledLast.of_trace (handled : HandledLast earlier message stage w)
    (same : w'.trace = w.trace) : HandledLast earlier message stage w' := by
  refine ⟨?_, ?_⟩
  · rw [same]
    exact handled.received
  · rw [same]
    exact handled.written

/-- A stage without a write of its own. -/
theorem HandledLast.enters (handled : HandledLast earlier message stage w)
    (same : forwards (later.writes message) = forwards (stage.writes message)) :
    HandledLast earlier message later w := by
  refine ⟨handled.received, ?_⟩
  rw [same]
  exact handled.written

/-- What the client task counts on while it handles a message after some others. -/
def handling (earlier : List Message) (message : Message) : Proc.Contract awaits PgWorld where
  pause _ _ w := Carries (earlier ++ [message]) w
  rely _ w _ w' := w'.trace = w.trace

theorem course_handledLast (tools : Tools) (opts : ProxyOptions) (earlier : List Message)
    (message : Message) (received : ConnectionState) :
    Course tools opts message received (handling earlier message)
      fun stage _ _ w => HandledLast earlier message stage w where
  records events start w event isDecision _ handled := by
    refine ⟨?_, ?_⟩
    · rw [World.log_trace, receipts_event (not_receipt_of_decision isDecision)]
      exact handled.received
    · rw [World.log_trace, forwards_append, forwards_of_decision isDecision, List.append_nil]
      exact handled.written
  pauses _ _ _ _ _ handled := handled.carries
  resumes _ _ _ _ _ _ _ handled same := handled.of_trace same
  writes events start w after handled _ := by
    refine ⟨?_, ?_⟩
    · rw [World.log_trace, receipts_event (by rintro ⟨⟩)]
      exact handled.received
    · obtain ⟨before, subsequence, written⟩ := handled.written
      refine ⟨before, subsequence, ?_⟩
      rw [World.log_trace, forwards_append]
      change forwards w.trace ++ _ = _
      rw [written]
      simp [Stage.writes, forwards]
  recovers _ _ _ _ _ handled := handled.of_trace rfl
  refuses _ _ _ handled _ := handled.enters rfl
  answers events start w _ _ error _ handled :=
    (handled.of_trace (refusal_trace message error w)).enters rfl
  drops _ _ _ handled := handled.enters rfl
  breaks _ _ _ handled _ := handled.enters rfl

/-- A message is received and handled. -/
theorem wp_serveMessage {tools : Tools} {opts : ProxyOptions} {start : PgWorld}
    (carries : Carries earlier w) :
    Proc.wp (handling earlier message) (serveMessage tools opts message)
      (fun _ _ w => Carries (earlier ++ [message]) w) (fun _ _ w => Carries (earlier ++ [message]) w)
      start w := by
  have begun : HandledLast earlier message .deciding (receive w message) := by
    refine ⟨?_, forwards w.trace, carries.written, ?_⟩
    · rw [receive, World.log_trace, receipts_receipt, carries.received]
    · rw [receive, World.log_trace, forwards_append]
      rfl
  unfold serveMessage
  rw [Proc.wp_bind, Proc.wp_update]
  refine wp_clientTurn (course_handledLast tools opts earlier message w.session.state) rfl begun ?_
  intro error stage _ _ w _ handled
  exact handled.carries.ended error

end HandledLast

/-! ## A session after its startup -/

/-- What the client has sent and what of it the backend has been written. -/
structure Conveys (limits : SessionLimits) (startup : Bytes) (messages : List Message)
    (rest : Bytes) (t : Session) : Prop where
  carries : Carries messages t.world
  onWire : ∀ message ∈ messages, OnWire message
  received : t.received = t.negotiations.flatten ++ startup ++
    (messages.map Message.raw).flatten ++ rest
  bounded : t.framer.maxMessageBytes = limits.maxMessageBytes

/-- However far the client loop has come. -/
def Conveying (limits : SessionLimits) (startup : Bytes) (t : Session) : Prop :=
  ∃ messages rest, Conveys limits startup messages rest t

/-- Between two reads all messages have been handled, unless the loop has ended. -/
def UpToDate (limits : SessionLimits) (startup : Bytes) (t : Session) : Prop :=
  t.pastStartup = true ∧ (t.closed = false →
    (∃ messages, Conveys limits startup messages t.framer.buffer t) ∧
    takeMessage limits.maxMessageBytes t.framer.buffer = .ok none)

def SameTrace (w w' : PgWorld) : Prop := w'.trace = w.trace

/-- The other task changes what is shared, but it receives and writes no message. -/
def Aside : Session → Session → Prop := Along sharedWorld SameTrace

theorem Aside.refl (t : Session) : Aside t t := ⟨t.world, rfl, rfl⟩

theorem Aside.trans {t₁ t₂ t₃ : Session} (first : Aside t₁ t₂) (second : Aside t₂ t₃) :
    Aside t₁ t₃ := by
  obtain ⟨w, rfl, same⟩ := first
  obtain ⟨w', rfl, same'⟩ := second
  exact ⟨w', rfl, same'.trans same⟩

section Conveys

variable {limits : SessionLimits} {startup rest : Bytes} {messages : List Message} {t t' : Session}

theorem Conveys.aside (conveys : Conveys limits startup messages rest t) (aside : Aside t t') :
    Conveys limits startup messages rest t' := by
  obtain ⟨w, rfl, same⟩ := aside
  exact ⟨conveys.carries.of_trace same, conveys.onWire, conveys.received, conveys.bounded⟩

theorem Conveying.aside (conveying : Conveying limits startup t) (aside : Aside t t') :
    Conveying limits startup t' := by
  obtain ⟨messages, rest, conveys⟩ := conveying
  exact ⟨messages, rest, conveys.aside aside⟩

theorem UpToDate.aside (settled : UpToDate limits startup t) (aside : Aside t t') :
    UpToDate limits startup t' := by
  refine ⟨?_, ?_⟩
  · obtain ⟨w, rfl, -⟩ := aside
    exact settled.1
  · intro reading
    have same : t.closed = false := by
      obtain ⟨w, rfl, -⟩ := aside
      exact reading
    obtain ⟨⟨messages, conveys⟩, done⟩ := settled.2 same
    have conveys' := conveys.aside aside
    obtain ⟨w, rfl, -⟩ := aside
    exact ⟨⟨messages, conveys'⟩, done⟩

/-- What a task counts on where only the client task receives and writes messages. -/
def StandsAside : Side → Session → Session → Prop
  | .client, t, t' => Aside t t'
  | .backend, _, _ => True

theorem standsAside_refl (side : Side) (t : Session) : StandsAside side t t := by
  cases side with
  | client => exact .refl t
  | backend => trivial

theorem standsAside_trans (side : Side) (t₁ t₂ t₃ : Session) (first : StandsAside side t₁ t₂)
    (second : StandsAside side t₂ t₃) : StandsAside side t₁ t₃ := by
  cases side with
  | client => exact Aside.trans first second
  | backend => trivial

/-- The promises of the two tasks. -/
def conveyance (tools : Tools) (opts : ProxyOptions) (limits : SessionLimits) (startup : Bytes) :
    Promises (session tools opts limits) anyTurn where
  invariant := Conveying limits startup
  guarantee
    | .client, _, t => Conveying limits startup t
    | .backend, start, t => Aside start t
  rely := StandsAside
  rely_refl := standsAside_refl
  rely_trans := standsAside_trans
  environment_invariant _ _ _ moved _ := moved.elim
  environment_relied _ _ _ _ _ moved := moved.elim
  guarantee_invariant side _ _ conveying guaranteed _ := by
    cases side with
    | client => exact guaranteed
    | backend => exact conveying.aside guaranteed
  guarantee_relied side side' _ _ other _ _ guaranteed := by
    cases side with
    | client =>
        cases side' with
        | client => exact absurd rfl other
        | backend => exact guaranteed
    | backend => trivial

end Conveys

/-- What each task leaves behind. -/
def leaves (limits : SessionLimits) (startup : Bytes) : Side → Session → Prop
  | .client, t => UpToDate limits startup t
  | .backend, _ => True

section Tasks

variable {tools : Tools} {opts : ProxyOptions} {limits : SessionLimits} {startup : Bytes}
  {start t : Session}

/-- The contract of the client loop. -/
abbrev conveying (tools : Tools) (opts : ProxyOptions) (limits : SessionLimits) (startup : Bytes) :
    Proc.Contract (awaits.plus dials) Session :=
  (conveyance tools opts limits startup).contract .client

/-- The messages cut off the stream are handled one after another. -/
theorem wp_handleMessages {pending earlier : List Message} {buffer : Bytes}
    (conveys : Conveys limits startup earlier ((pending.map Message.raw).flatten ++ buffer) t)
    (onWire : ∀ message ∈ pending, OnWire message) :
    Proc.wp (conveying tools opts limits startup) (handleMessages tools opts pending)
      (fun _ _ t' => Conveys limits startup (earlier ++ pending) buffer t' ∧
        t'.framer = t.framer ∧ t'.closed = t.closed ∧ t'.pastStartup = t.pastStartup)
      (fun _ _ t => Conveying limits startup t) start t := by
  induction pending generalizing start t earlier with
  | nil =>
      rw [List.append_nil]
      exact ⟨conveys, rfl, rfl, rfl⟩
  | cons message pending ih =>
      have handled : ∀ w, Carries (earlier ++ [message]) w → Conveys limits startup
          (earlier ++ [message]) ((pending.map Message.raw).flatten ++ buffer)
          { t with world := w } := by
        intro w carries
        refine ⟨carries, ?_, ?_, conveys.bounded⟩
        · intro other inside
          rcases List.mem_append.mp inside with early | last
          · exact conveys.onWire other early
          · rw [List.mem_singleton.mp last]
            exact onWire message List.mem_cons_self
        · change t.received = _
          rw [conveys.received]
          simp
      unfold handleMessages
      rw [Proc.wp_bind]
      have serves : Proc.wp (handling earlier message) (serveMessage tools opts message) _ _
        t.world t.world := wp_serveMessage conveys.carries
      refine wp_within serves rfl ?_ ?_ ?_ ?_
      · intro request _ _ w carries
        exact ⟨_, _, handled w carries⟩
      · rintro request w answer t' ⟨-, ⟨w', rfl, same⟩, -⟩
        exact ⟨w', rfl, same⟩
      · intro _ _ w start' carries
        have later : Proc.wp (conveying tools opts limits startup) (handleMessages tools opts pending)
            _ _ start' _ := ih (handled w carries)
          fun other inside => onWire other (List.mem_cons_of_mem _ inside)
        rw [List.append_assoc] at later
        exact later
      · intro _ _ w _ carries
        exact ⟨_, _, handled w carries⟩

/-- A frame that is no message ends the loop. -/
theorem wp_refuseFrame (conveys : Conveying limits startup t) (late : t.pastStartup = true)
    (reason : String) :
    Proc.wp (conveying tools opts limits startup) (refuseFrame reason)
      (fun _ _ t => Conveying limits startup t ∧ UpToDate limits startup t)
      (fun _ _ t => Conveying limits startup t) start t := by
  obtain ⟨messages, rest, conveys⟩ := conveys
  unfold refuseFrame
  rw [Proc.wp_bind]
  refine Proc.wp_ofExcept ?_ fun _ _ => ⟨messages, rest, conveys⟩
  intro error _
  have answered : Conveying limits startup
      { t with malformed := some (t.world.clientOut.length, error) } :=
    ⟨messages, rest, conveys.carries, conveys.onWire, conveys.received, conveys.bounded⟩
  rw [Proc.wp_bind, Proc.wp_update, Proc.wp_bind]
  refine wp_onWorld_drain answered ?_ fun _ t' relied => relied.1
  rintro _ t' ⟨⟨messages, rest, conveys⟩, ⟨w, rfl, -⟩, -⟩
  rw [Proc.wp_update]
  exact ⟨⟨messages, rest, conveys.carries, conveys.onWire, conveys.received, conveys.bounded⟩,
    late, by rintro ⟨⟩⟩

theorem Framer.push_bound {framer framer' : Framer} {chunk : Bytes} {messages : List Message}
    (pushed : framer.push chunk = .ok (messages, framer')) :
    framer'.maxMessageBytes = framer.maxMessageBytes := by
  unfold Framer.push at pushed
  dsimp only at pushed
  split at pushed
  · cases pushed
  · cases pushed
    rfl

theorem onWire_of_framed {message : Message} (framed : Framed message) : OnWire message := by
  obtain ⟨_, buffer, rest, takes⟩ := framed
  exact takeMessage_onWire takes

/-- A turn of the client loop after the startup. -/
theorem wp_messageChunk (settled : UpToDate limits startup t) (reading : t.closed = false)
    (chunk : Bytes) :
    Proc.wp (conveying tools opts limits startup)
      (clientChunk tools opts limits t.pastStartup chunk)
      (fun _ _ t => Conveying limits startup t ∧ UpToDate limits startup t)
      (fun _ _ t => Conveying limits startup t) start (readClient t chunk) := by
  obtain ⟨⟨messages, conveys⟩, -⟩ := settled.2 reading
  rw [settled.1, clientChunk, Proc.wp_handle]
  have closes : ∀ {t : Session}, Conveying limits startup t →
      Conveying limits startup { t with closed := true } := by
    rintro t ⟨messages, rest, conveys⟩
    exact ⟨messages, rest, conveys.carries, conveys.onWire, conveys.received, conveys.bounded⟩
  have arrived : Conveys limits startup messages (t.framer.buffer ++ chunk) (readClient t chunk) := by
    refine ⟨conveys.carries, conveys.onWire, ?_, conveys.bounded⟩
    change t.received ++ chunk = _
    rw [conveys.received, List.append_assoc]
    rfl
  suffices held : Proc.wp (conveying tools opts limits startup) (messageChunk tools opts chunk)
      (fun _ _ t => Conveying limits startup t ∧ UpToDate limits startup t)
      (fun _ _ t => Conveying limits startup t) start (readClient t chunk) by
    exact Proc.wp_mono held (fun _ _ _ holds => holds) fun _ _ _ holds => closes holds
  change Proc.wp _ (handlePushed tools opts (t.framer.push chunk)) _ _ _ _
  cases pushed : t.framer.push chunk with
  | error error =>
      cases error with
      | protocol reason => exact wp_refuseFrame ⟨_, _, arrived⟩ settled.1 reason
      | connectionLost => exact ⟨_, _, arrived⟩
      | failure exception => exact ⟨_, _, arrived⟩
  | ok parts =>
      obtain ⟨pending, framer⟩ := parts
      have bounded := Framer.push_bound pushed
      have none_ := Framer.push_rest pushed
      rw [bounded] at none_
      have cut : Conveys limits startup messages ((pending.map Message.raw).flatten ++ framer.buffer)
          { readClient t chunk with framer := framer } := by
        refine ⟨arrived.carries, arrived.onWire, ?_, bounded.trans conveys.bounded⟩
        rw [← (Framer.push_ok pushed).1]
        exact arrived.received
      unfold handlePushed
      rw [Proc.wp_bind, Proc.wp_update]
      refine Proc.wp_mono (wp_handleMessages cut fun message inside =>
        onWire_of_framed (framed_of_push pushed message inside)) ?_ fun _ _ _ holds => holds
      rintro _ _ t' ⟨handled, same, -, late⟩
      refine ⟨⟨_, _, handled⟩, late.trans settled.1, fun _ => ?_⟩
      rw [same]
      refine ⟨⟨_, handled⟩, ?_⟩
      rw [← conveys.bounded]
      exact none_

/-- A turn of the backend task receives and writes no message. -/
theorem wp_backendAside {chunk rest : Bytes} (reading : t.world.peer.closed = false)
    (unread : t.world.peer.unread = chunk ++ rest) :
    Proc.wp ((conveyance tools opts limits startup).contract .backend)
      (onWorld (backendTurn chunk)) (fun _ => Aside) (fun _ => Aside) t
      { t with world := readChunk t.world rest } := by
  have turns : Proc.wp ⟨fun _ => SameTrace, fun _ _ _ _ => True⟩ (backendTurn chunk)
      (fun _ => SameTrace) (fun _ => SameTrace) t.world (readChunk t.world rest) :=
    Proc.wp_mono (wp_backendTurn (fun _ _ _ turn => turn.trace_eq) reading unread)
      (fun _ _ _ turn => turn.trace_eq) fun _ _ _ turn => turn.trace_eq
  exact wp_along (fun _ _ _ aside => aside) turns

theorem completes_conveyance {side : Side} {t' : Session} {task : SessionTask Unit}
    (inv : Conveying limits startup t) (rests : leaves limits startup side t)
    (started : (session tools opts limits).start side t task t') :
    (conveyance tools opts limits startup).Completes (leaves limits startup) side task t t' := by
  cases side with
  | client =>
      obtain ⟨reading, ⟨chunk, -, rfl, rfl⟩ | ⟨rfl, rfl⟩⟩ := started
      · exact wp_messageChunk rests reading chunk
      · obtain ⟨messages, rest, conveys⟩ := inv
        exact ⟨⟨messages, rest, conveys.carries, conveys.onWire, conveys.received, conveys.bounded⟩,
          rests.1, by rintro ⟨⟩⟩
  | backend =>
      obtain ⟨-, -, chunk, rest, -, reading, unread, rfl, rfl⟩ := started
      exact Proc.wp_mono (wp_backendAside reading unread) (fun _ _ _ aside => ⟨aside, trivial⟩)
        fun _ _ _ aside => aside

end Tasks

/-- What a session has read from the client, handled and written to the backend. -/
structure Conveyed (limits : SessionLimits) (t : Session) (messages : List Message) (rest : Bytes) :
    Prop where
  negotiated : Negotiated limits t
  opening : ∀ message, t.startupMessage = some message → ∃ params, Opening limits message params
  onWire : ∀ message ∈ messages, OnWire message
  received : t.received = t.negotiations.flatten ++ t.startupMessage.toList.flatten ++
    (messages.map Message.raw).flatten ++ rest
  handled : receipts t.world.trace = messages
  written : List.Sublist (forwards t.world.trace) (messages.map Message.raw)

/-- What is left over while the client loop reads: the beginning of a packet or of a message. -/
def LeftOver (limits : SessionLimits) (t : Session) (rest : Bytes) : Prop :=
  if t.pastStartup then takeMessage limits.maxMessageBytes rest = .ok none
  else t.startupMessage = none ∧ Unfinished limits.maxMessageBytes rest

/-- The client loop is between two reads and has not ended. -/
def Reading (c : Config (awaits.plus dials) Session Exn Side) : Prop :=
  c.task .client = .done () ∧ c.shared.closed = false

section Sessions

variable {tools : Tools} {opts : ProxyOptions} {limits : SessionLimits} {stream startup : Bytes}
  {t : Session}

/-- Before the startup is over no message has been handled. -/
theorem Starting.conveyed (starting : Starting limits stream t) :
    ∃ rest, Conveyed limits t [] rest := by
  obtain ⟨database, untouched⟩ := starting.untouched
  have trace : t.world.trace = [] := by rw [untouched]; rfl
  have silent : receipts t.world.trace = [] ∧ forwards t.world.trace = [] := by
    rw [trace]
    exact ⟨rfl, rfl⟩
  obtain ⟨rest, received⟩ := starting.accounted
  cases written : t.startupMessage with
  | none =>
      refine ⟨rest, starting.negotiated, ?_, by simp, ?_, silent.1, ?_⟩
      · intro message present
        rw [written] at present
        cases present
      · rw [written, received]
        simp
      · rw [silent.2]
        exact List.nil_sublist _
  | some message =>
      obtain ⟨whole, opening⟩ := starting.written message written
      refine ⟨[], starting.negotiated, ?_, by simp, ?_, silent.1, ?_⟩
      · intro other present
        rw [written] at present
        cases present
        exact opening
      · rw [written, whole]
        simp
      · rw [silent.2]
        exact List.nil_sublist _

theorem Waiting.conveyed (waiting : Waiting limits stream t) :
    Conveyed limits t [] t.startupFramer.buffer ∧ LeftOver limits t t.startupFramer.buffer := by
  have trace : t.world.trace = [] := by rw [waiting.untouched]; rfl
  refine ⟨⟨waiting.negotiated, ?_, by simp, ?_, ?_, ?_⟩, ?_⟩
  · intro message present
    rw [waiting.unwritten] at present
    cases present
  · rw [waiting.unwritten, waiting.accounted]
    simp
  · rw [trace]
    rfl
  · rw [trace]
    exact List.nil_sublist _
  · rw [LeftOver, waiting.early]
    exact ⟨waiting.unwritten, waiting.unfinished⟩

/-- A session that has just started has handled nothing. -/
theorem Begun.conveys {params : Dict String String} (begun : Begun limits stream startup params t) :
    Conveys limits startup [] t.framer.buffer t := by
  have trace : t.world.trace = [] := by rw [begun.untouched]; rfl
  refine ⟨⟨?_, ?_⟩, by simp, ?_, ?_⟩
  · rw [trace]
    rfl
  · rw [trace]
    exact List.nil_sublist _
  · rw [begun.accounted, begun.framer]
    simp [SessionLimits.framer, newFramer]
  · rw [begun.framer]
    rfl

/-- What is conveyed after the startup. -/
theorem Conveys.conveyed {messages : List Message} {rest : Bytes} {t₀ : Session}
    {params : Dict String String} (conveys : Conveys limits startup messages rest t)
    (begun : Begun limits stream startup params t₀) (settles : Settles t₀ t) :
    Conveyed limits t messages rest := by
  have written := settles.written.trans begun.written
  refine ⟨?_, ?_, conveys.onWire, ?_, conveys.carries.received, conveys.carries.written⟩
  · intro request inside
    rw [settles.negotiations] at inside
    exact begun.negotiated request inside
  · intro message present
    rw [written] at present
    cases present
    exact ⟨params, begun.opening⟩
  · rw [written, conveys.received]
    simp

/--
In every state of every session the client's bytes are the answered requests for
encryption, the startup message, the messages that were handled, in order, and a
rest; what was written to the backend is the startup message and then some of the
messages, in order and unchanged.  While the client loop reads, the rest is the
beginning of the next packet or message.
-/
theorem session_conveys {c : Config (awaits.plus dials) Session Exn Side}
    (run : (session tools opts limits).Run anyTurn (Config.idle (connected limits stream)) c) :
    ∃ messages rest, Conveyed limits c.shared messages rest ∧
      (c.shared.startupMessage = none → messages = []) ∧
      (Reading c → LeftOver limits c.shared rest) := by
  rcases phase_of_run run with ⟨starting, -, early⟩ | ⟨startup, params, t, begun, run⟩
  · by_cases done : c.task .client = .done ()
    · rw [done] at early
      obtain ⟨conveyed, leftOver⟩ := early.conveyed
      exact ⟨[], _, conveyed, fun _ => rfl, fun _ => leftOver⟩
    · obtain ⟨rest, conveyed⟩ := starting.conveyed
      exact ⟨[], rest, conveyed, fun _ => rfl, fun reading => absurd reading.1 done⟩
  · have settles := settled_of_run begun.late run
    have conveys := begun.conveys
    have none_ : takeMessage limits.maxMessageBytes t.framer.buffer = .ok none := by
      rw [begun.framer]
      exact takeMessage_nil _
    have initial : (conveyance tools opts limits startup).Holds (leaves limits startup)
        (Config.idle t) := by
      refine ⟨⟨[], _, conveys⟩, ?_⟩
      intro side
      cases side with
      | client => exact ⟨begun.late, fun _ => ⟨⟨[], conveys⟩, none_⟩⟩
      | backend => trivial
    have holds := Promises.holds_of_run_resting ?_ ?_ initial run
    · obtain ⟨messages, rest, conveys⟩ := holds.1
      by_cases reading : Reading c
      · have rests := holds.2 .client
        rw [reading.1] at rests
        obtain ⟨⟨messages, conveys⟩, none_⟩ := rests.2 reading.2
        refine ⟨messages, _, conveys.conveyed begun settles, ?_, fun _ => ?_⟩
        · intro unwritten
          rw [settles.written, begun.written] at unwritten
          cases unwritten
        · rw [LeftOver, settles.late]
          exact none_
      · refine ⟨messages, rest, conveys.conveyed begun settles, ?_, fun is => absurd is reading⟩
        intro unwritten
        rw [settles.written, begun.written] at unwritten
        cases unwritten
    · intro side t t' rests relied
      cases side with
      | client => exact UpToDate.aside rests relied
      | backend => trivial
    · intro side t task t' inv rests started
      exact completes_conveyance inv rests started

end Sessions

/-- A startup message and a Sync: nothing of them is left over. -/
theorem aliceSynced_conveys :
    aliceSynced.received = startupOf [("user", "alice")] ++ syncMessage.raw ∧
      ∃ messages rest, Conveyed {} aliceSynced messages rest ∧ LeftOver {} aliceSynced rest := by
  obtain ⟨c, run, shared, idle⟩ := aliceSynced_rests
  obtain ⟨messages, rest, conveyed, -, leftOver⟩ := session_conveys run
  have reading : c.shared.closed = false := by
    rw [shared]
    decide +kernel
  have left := leftOver ⟨idle .client, reading⟩
  rw [shared] at conveyed left
  exact ⟨by decide +kernel, messages, rest, conveyed, left⟩

/-! ## What the client is written -/

/-- The backend's bytes in order, and whole messages of the proxy between them. -/
structure RelayedInOrder (stream : Bytes) (w : PgWorld) : Prop where
  relayed : ∃ unread, (fromBackend w.clientOut).flatten ++ unread = stream ∧
    (w.peer.closed = false → unread = w.peer.unread)
  built : ∀ raw ∈ fromProxy w.clientOut, IsMessage raw

section RelayedInOrder

variable {tools : Tools} {opts : ProxyOptions} {limits : SessionLimits} {stream : Bytes}
  {w w' : PgWorld}

theorem fromProxy_of_built {writes : List ClientWrite} (built : ∀ write ∈ writes, BuiltMessage write) :
    ∀ raw ∈ fromProxy writes, IsMessage raw := by
  induction writes with
  | nil => simp [fromProxy]
  | cons write rest ih =>
      intro raw inside
      obtain ⟨message, rfl, whole⟩ := built write List.mem_cons_self
      rcases List.mem_cons.mp inside with rfl | later
      · exact whole
      · exact ih (fun other member => built other (List.mem_cons_of_mem _ member)) raw later

theorem RelayedInOrder.client (answered : RelayedInOrder stream w) (turn : ClientTurn w w') :
    RelayedInOrder stream w' := by
  obtain ⟨added, out, built⟩ := turn.writes
  refine ⟨?_, ?_⟩
  · rw [out, fromBackend_append, fromBackend_built built, List.append_nil, turn.peer_eq]
    exact answered.relayed
  · intro raw inside
    rw [out, fromProxy_append] at inside
    rcases List.mem_append.mp inside with early | late
    · exact answered.built raw early
    · exact fromProxy_of_built built raw late

theorem RelayedInOrder.backend (answered : RelayedInOrder stream w) (turn : BackendTurn w w') :
    RelayedInOrder stream w' := by
  obtain ⟨unread, split, reading⟩ := answered.relayed
  cases turn.relays with
  | idle same =>
      rw [same]
      exact answered
  | stopped closed _ out =>
      refine ⟨⟨unread, by rw [out]; exact split, ?_⟩, by rw [out]; exact answered.built⟩
      intro opened
      rw [closed] at opened
      cases opened
  | @chunk chunk _ opened cut _ _ out =>
      refine ⟨⟨w'.peer.unread, ?_, fun _ => rfl⟩, ?_⟩
      · rw [out, fromBackend_append, List.flatten_append, ← split, reading opened, cut]
        simp [fromBackend]
      · rw [out, fromProxy_append]
        simpa [fromProxy] using answered.built

/-- The promises of the two tasks about what the client is written. -/
def answering (tools : Tools) (opts : ProxyOptions) (stream : Bytes) :
    Promises (relay tools opts) anyTurn where
  invariant := RelayedInOrder stream
  guarantee
    | .client, start, w => ClientTurn start w
    | .backend, start, w => BackendTurn start w
  rely _ _ _ := True
  rely_refl _ _ := trivial
  rely_trans _ _ _ _ _ _ := trivial
  environment_invariant _ _ _ moved _ := moved.elim
  environment_relied _ _ _ _ _ _ := trivial
  guarantee_invariant side _ _ answered guaranteed _ := by
    cases side with
    | client => exact answered.client guaranteed
    | backend => exact answered.backend guaranteed
  guarantee_relied _ _ _ _ _ _ _ _ := trivial

end RelayedInOrder

end SqlSafetyProxy.Postgres
