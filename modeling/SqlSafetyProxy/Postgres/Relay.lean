import SqlSafetyProxy.Coroutine.Interleaving
import SqlSafetyProxy.Postgres.Course
import Mathlib.Data.List.Induction

/-!
# The two tasks of a connection

The client task handles frontend messages one after another; the backend task
relays the backend's byte stream chunk by chunk, however it is cut.  They share
the connection and take turns at their suspension points.
-/

namespace SqlSafetyProxy.Postgres

open SqlSafetyProxy.Sql SqlSafetyProxy.Policy SqlSafetyProxy.Wire SqlSafetyProxy.Runtime
open SqlSafetyProxy.Coroutine

/-! ## The system -/

/--
What the backend task has still to read, whether its loop has ended, and all
that the backend has sent so far.
-/
structure Upstream where
  unread : Bytes
  closed : Bool
  sent : Bytes
  deriving DecidableEq, Repr

abbrev PgWorld := World adapter Upstream

inductive Side where
  | client | backend
  deriving DecidableEq, Repr

/-- A message as the frontend framer produces it. -/
def Framed (message : Message) : Prop :=
  ∃ maxMessageBytes buffer rest, takeMessage maxMessageBytes buffer = .ok (some (message, rest))

/-- One turn of the client loop, noting how the handling of the message ends. -/
def clientTurn (tools : Tools) (opts : ProxyOptions) (message : Message) :
    Handler adapter Upstream Unit :=
  Proc.handle
    (do
      handleFrontendMessage tools opts message
      record (.noted (.ended none)))
    fun error => do
      record (.noted (.ended (some error)))
      Proc.raised error

/-- One turn of the backend loop, which an exception ends. -/
def backendTurn (chunk : Bytes) : Handler adapter Upstream Unit :=
  Proc.handle (pipeBackend chunk) fun error => do
    Proc.update fun w => { w with peer := { w.peer with closed := true } }
    Proc.raised error

/-- The next message is received. -/
def receive (w : PgWorld) (message : Message) : PgWorld :=
  w.log (.noted (.received message w.session.state))

/-- The next chunk is read. -/
def readChunk (w : PgWorld) (rest : Bytes) : PgWorld :=
  { w with peer := { w.peer with unread := rest } }

/-- Any framed message may arrive, any chunk may be read, any answer may be given. -/
def relay (tools : Tools) (opts : ProxyOptions) : System awaits PgWorld Exn Side where
  start
    | .client, w, task, w' => ∃ message, Framed message ∧
        task = clientTurn tools opts message ∧ w' = receive w message
    | .backend, w, task, w' => ∃ chunk rest, w.peer.closed = false ∧
        w.peer.unread = chunk ++ rest ∧ task = backendTurn chunk ∧ w' = readChunk w rest
  answers _ _ _ := True
  environment _ _ := False

/-- A connection after startup: nothing received, nothing relayed. -/
def opened (state : ConnectionState) (framer : Framer) (stream : Bytes) : PgWorld where
  session := ⟨state, { framer with buffer := [] }⟩
  trace := []
  clientOut := []
  peer := ⟨stream, false, stream⟩

/-! ## Turns without interference -/

/-- The client task handles a message while the backend task is at rest. -/
def handled (tools : Tools) (opts : ProxyOptions) (answer : (q : Request) → q.Answer)
    (w : PgWorld) (message : Message) : Except Exn Unit × PgWorld :=
  (clientTurn tools opts message).run (fun q s => (answer q, s)) (receive w message)

/-- The backend task relays a chunk while the client task is at rest. -/
def relayed (answer : (q : Request) → q.Answer) (w : PgWorld) (chunk rest : Bytes) :
    Except Exn Unit × PgWorld :=
  (backendTurn chunk).run (fun q s => (answer q, s)) (readChunk w rest)

/-- The message with the given type and payload. -/
def frame (type : Char) (payload : Bytes) : Message where
  type := type
  payload := payload
  raw := UInt8.ofNat type.toNat :: bePack 4 (payload.length + 4) ++ payload

theorem framed_of_takes {message : Message}
    (takes : takeMessage message.raw.length message.raw = .ok (some (message, []))) :
    Framed message :=
  ⟨_, _, _, takes⟩

/-- Both tasks are between two turns of their loops. -/
def Reaches (tools : Tools) (opts : ProxyOptions) (w₀ w : PgWorld) : Prop :=
  ∃ c, (relay tools opts).Run anyTurn (Config.idle w₀) c ∧ c.shared = w ∧
    ∀ side, c.task side = .done ()

section Reaches

variable {tools : Tools} {opts : ProxyOptions} {w₀ w : PgWorld}

theorem Reaches.refl : Reaches tools opts w w := ⟨_, .refl, rfl, fun _ => rfl⟩

theorem ended_eq_done {result : Except Exn Unit} (returned : result.isOk = true) :
    (ended result : Proc awaits PgWorld Exn Unit) = .done () := by
  cases result with
  | ok value => rfl
  | error error => cases returned

theorem Reaches.handled (reached : Reaches tools opts w₀ w) {message : Message}
    (framed : Framed message) (answer : (q : Request) → q.Answer)
    (returned : (handled tools opts answer w message).1.isOk = true) :
    Reaches tools opts w₀ (handled tools opts answer w message).2 := by
  obtain ⟨c, run, rfl, idle⟩ := reached
  obtain ⟨c', run', shared, current, others⟩ :=
    System.run_alone answer (fun _ _ _ => trivial) run (idle .client) ⟨message, framed, rfl, rfl⟩
      (Proc.asksOnly_any _ _ _)
  refine ⟨c', run', shared, ?_⟩
  intro side
  cases side with
  | client => exact current.trans (ended_eq_done returned)
  | backend => rw [others .backend (by decide), idle]

/-- The client task handles one message after another; whether every call returned. -/
def handledAll (tools : Tools) (opts : ProxyOptions) (answer : (q : Request) → q.Answer) :
    PgWorld → List Message → Bool × PgWorld
  | w, [] => (true, w)
  | w, message :: rest =>
      let first := Postgres.handled tools opts answer w message
      let later := handledAll tools opts answer first.2 rest
      (first.1.isOk && later.1, later.2)

theorem Reaches.handledAll (reached : Reaches tools opts w₀ w) {messages : List Message}
    (framed : ∀ message ∈ messages, Framed message) (answer : (q : Request) → q.Answer)
    (returned : (handledAll tools opts answer w messages).1 = true) :
    Reaches tools opts w₀ (handledAll tools opts answer w messages).2 := by
  induction messages generalizing w with
  | nil => exact reached
  | cons message rest ih =>
      obtain ⟨first, later⟩ := Bool.and_eq_true_iff.mp returned
      refine ih (reached.handled (framed message List.mem_cons_self) answer first) ?_ later
      exact fun other inside => framed other (List.mem_cons_of_mem _ inside)

theorem Reaches.relayed (reached : Reaches tools opts w₀ w) {chunk rest : Bytes}
    (reading : w.peer.closed = false) (unread : w.peer.unread = chunk ++ rest)
    (answer : (q : Request) → q.Answer)
    (returned : (relayed answer w chunk rest).1.isOk = true) :
    Reaches tools opts w₀ (relayed answer w chunk rest).2 := by
  obtain ⟨c, run, rfl, idle⟩ := reached
  obtain ⟨c', run', shared, current, others⟩ :=
    System.run_alone answer (fun _ _ _ => trivial) run (idle .backend)
      ⟨chunk, rest, reading, unread, rfl, rfl⟩ (Proc.asksOnly_any _ _ _)
  refine ⟨c', run', shared, ?_⟩
  intro side
  cases side with
  | client => rw [others .client (by decide), idle]
  | backend => exact current.trans (ended_eq_done returned)

end Reaches

/-! ### Turns that meet a condition -/

/-- Where the client task stops while it handles a message, from where it takes it up. -/
def handledStops (tools : Tools) (opts : ProxyOptions) (answer : (q : Request) → q.Answer)
    (w : PgWorld) (message : Message) : List PgWorld :=
  w :: stops answer (clientTurn tools opts message) (receive w message)

/-- Where the backend task stops while it relays a chunk, from where it reads it. -/
def relayedStops (answer : (q : Request) → q.Answer) (w : PgWorld) (chunk rest : Bytes) :
    List PgWorld :=
  w :: stops answer (backendTurn chunk) (readChunk w rest)

section RestsWithin

variable {tools : Tools} {opts : ProxyOptions} {allowed : Option Side → PgWorld → PgWorld → Prop}
  {w₀ w : PgWorld}

theorem restsWithin_handled (rests : (relay tools opts).RestsWithin allowed w₀ w)
    {message : Message} (framed : Framed message) (answer : (q : Request) → q.Answer)
    (within : List.IsChain (allowed (some .client)) (handledStops tools opts answer w message))
    (returned : (handled tools opts answer w message).1 = .ok ()) :
    (relay tools opts).RestsWithin allowed w₀ (handled tools opts answer w message).2 :=
  rests.turn (i := .client) answer (fun _ _ _ => trivial) ⟨message, framed, rfl, rfl⟩
    (Proc.asksOnly_any _ _ _) within returned

theorem restsWithin_relayed (rests : (relay tools opts).RestsWithin allowed w₀ w)
    {chunk rest : Bytes} (reading : w.peer.closed = false)
    (unread : w.peer.unread = chunk ++ rest) (answer : (q : Request) → q.Answer)
    (within : List.IsChain (allowed (some .backend)) (relayedStops answer w chunk rest))
    (returned : (relayed answer w chunk rest).1 = .ok ()) :
    (relay tools opts).RestsWithin allowed w₀ (relayed answer w chunk rest).2 :=
  rests.turn (i := .backend) answer (fun _ _ _ => trivial) ⟨chunk, rest, reading, unread, rfl, rfl⟩
    (Proc.asksOnly_any _ _ _) within returned

/-- One message after another, where the client task's turns are free. -/
theorem restsWithin_handledAll (free : ∀ w w', allowed (some .client) w w')
    (rests : (relay tools opts).RestsWithin allowed w₀ w) {messages : List Message}
    (framed : ∀ message ∈ messages, Framed message) (answer : (q : Request) → q.Answer)
    (returned : (handledAll tools opts answer w messages).1 = true) :
    (relay tools opts).RestsWithin allowed w₀ (handledAll tools opts answer w messages).2 := by
  induction messages generalizing w with
  | nil => exact rests
  | cons message rest ih =>
      obtain ⟨first, later⟩ := Bool.and_eq_true_iff.mp returned
      have within : List.IsChain (allowed (some .client))
          (handledStops tools opts answer w message) :=
        isChain_of_all (fun _ _ => trivial) fun w w' _ => free w w'
      have ok : (Postgres.handled tools opts answer w message).1 = .ok () := by
        cases result : (Postgres.handled tools opts answer w message).1 with
        | ok value => rfl
        | error error =>
            rw [result] at first
            cases first
      refine ih (restsWithin_handled rests (framed message List.mem_cons_self) answer within ok)
        ?_ later
      exact fun other inside => framed other (List.mem_cons_of_mem _ inside)

end RestsWithin

/-! ### A small setting -/

/-- A connection with the default state and limits. -/
def freshConnection (stream : Bytes) : PgWorld :=
  opened {} { maxMessageBytes := 64 * 1024 * 1024 } stream

def parseOf (name query : String) : Message :=
  frame 'P' (encodeUtf8 name ++ [0] ++ encodeUtf8 query ++ [0] ++ [0, 0])

def bindOf (portal name : String) : Message :=
  frame 'B' (encodeUtf8 portal ++ [0] ++ encodeUtf8 name ++ [0] ++ [0, 0, 0, 0, 0, 0])

def executeOf (portal : String) : Message :=
  frame 'E' (encodeUtf8 portal ++ [0] ++ [0, 0, 0, 0])

def syncMessage : Message := frame 'S' []

/-! ## What a turn of the backend task does -/

/-- The state after some `ReadyForQuery` messages. -/
def Reported : ConnectionState → ConnectionState → Prop :=
  Relation.ReflTransGen fun state state' =>
    ∃ status, state' = state.updateTransactionStatus status

theorem Reported.pending {state state' : ConnectionState} (reported : Reported state state') :
    state'.extendedErrorPending = state.extendedErrorPending := by
  induction reported with
  | refl => rfl
  | tail _ step ih =>
      obtain ⟨status, rfl⟩ := step
      exact ih

/-- The status that a backend message reports, if any. -/
def Message.status (message : Message) : Option TransactionStatus :=
  if message.type = 'Z' then (parseReadyForQueryStatus message.payload).toOption else none

/-- The state after the status reports among some messages. -/
def reports (messages : List Message) (state : ConnectionState) : ConnectionState :=
  (messages.filterMap Message.status).foldl ConnectionState.updateTransactionStatus state

theorem reported_reports (messages : List Message) (state : ConnectionState) :
    Reported state (reports messages state) := by
  unfold reports
  induction messages.filterMap Message.status generalizing state with
  | nil => exact .refl
  | cons status rest ih => exact .head ⟨status, rfl⟩ (ih _)

/-- How far the relaying came in one turn. -/
inductive Relays (w w' : PgWorld) : Prop where
  | chunk {chunk : Bytes} {messages : List Message} : w.peer.closed = false →
      w.peer.unread = chunk ++ w'.peer.unread →
      w.session.framer.push chunk = .ok (messages, w'.session.framer) →
      w'.session.state = reports messages w.session.state →
      w'.clientOut = w.clientOut ++ [.relayed chunk] → Relays w w'
  | stopped : w'.peer.closed = true → w'.session.framer = w.session.framer →
      w'.clientOut = w.clientOut → Relays w w'
  | idle : w' = w → Relays w w'

/-- The status reports at the front of the messages completed by the bytes that were read. -/
def Tracks (w w' : PgWorld) : Prop :=
  w.peer.closed = false ∧ ∃ chunk messages framer read rest,
    w.peer.unread = chunk ++ w'.peer.unread ∧
    w.session.framer.push chunk = .ok (messages, framer) ∧ messages = read ++ rest ∧
    w'.session.state = reports read w.session.state

structure BackendTurn (w w' : PgWorld) : Prop where
  trace_eq : w'.trace = w.trace
  sent_eq : w'.peer.sent = w.peer.sent
  tracks : w'.session.state = w.session.state ∨ Tracks w w'
  relays : Relays w w'

theorem backendTurn_refl (w : PgWorld) : BackendTurn w w :=
  ⟨rfl, rfl, .inl rfl, .idle rfl⟩

theorem BackendTurn.reported {w w' : PgWorld} (turn : BackendTurn w w') :
    Reported w.session.state w'.session.state := by
  rcases turn.tracks with same | ⟨-, chunk, messages, framer, read, rest, -, -, -, same⟩
  · rw [same]
    exact .refl
  · rw [same]
    exact reported_reports read _

section Rules

variable {C : Proc.Contract awaits PgWorld} {fail : Exn → PgWorld → PgWorld → Prop}
  {start w : PgWorld}

theorem reports_cons (message : Message) (rest : List Message) (state : ConnectionState) :
    reports (message :: rest) state = reports rest (reports [message] state) := by
  simp only [reports, List.filterMap_cons, List.filterMap_nil]
  cases message.status <;> rfl

/-- Following the status changes the connection state only. -/
theorem wp_trackStatus {messages : List Message} {post : Unit → PgWorld → PgWorld → Prop}
    (finish : post () start (withState w (reports messages w.session.state)))
    (raises : ∀ error read rest, messages = read ++ rest →
      fail error start (withState w (reports read w.session.state))) :
    Proc.wp C (trackStatus messages) post fail start w := by
  induction messages generalizing w with
  | nil => exact finish
  | cons message rest ih =>
      rw [reports_cons] at finish
      have later : ∀ error read others, rest = read ++ others →
          fail error start (withState w (reports read (reports [message] w.session.state))) := by
        intro error read others split
        rw [← reports_cons]
        exact raises error (message :: read) others (by rw [split, List.cons_append])
      simp only [trackStatus]
      split
      · next ready =>
        simp only [Proc.wp_bind]
        cases parsed : parseReadyForQueryStatus message.payload with
        | error error => exact raises error [] _ rfl
        | ok status =>
            have reported : reports [message] w.session.state =
                w.session.state.updateTransactionStatus status := by
              simp [reports, Message.status, ready, parsed, Except.toOption]
            rw [reported] at finish later
            simp only [Proc.wp_ofExcept_ok, wp_updateState]
            exact ih finish later
      · next other =>
        have silent : reports [message] w.session.state = w.session.state := by
          simp [reports, Message.status, other]
        rw [silent] at finish later
        exact ih finish later

/-- The client loop handles a message and notes whether that returns or raises. -/
theorem wp_clientTurn_returned {tools : Tools} {opts : ProxyOptions} {message : Message}
    {received : ConnectionState}
    {held : Stage → List (Event adapter) → PgWorld → PgWorld → Prop}
    {post fails : PgWorld → PgWorld → Prop} (course : Course tools opts message received C held)
    (current : w.session.state = received) (begun : held .deciding [] start w)
    (returns : ∀ stage events start w, stage.returns = true → held stage events start w →
      post start (w.log (.noted (.ended none))))
    (raises : ∀ error stage events start w, stage ≠ .deciding → held stage events start w →
      fails start (w.log (.noted (.ended (some error))))) :
    Proc.wp C (clientTurn tools opts message) (fun _ start w => post start w)
      (fun _ start w => fails start w) start w := by
  simp only [clientTurn, Proc.wp_handle, Proc.wp_bind, wp_record, Proc.wp_raised]
  refine Proc.wp_mono (course.handles current begun) ?_ ?_
  · rintro _ start w ⟨stage, events, final, holds⟩
    exact returns stage events start w final holds
  · rintro error start w ⟨stage, events, final, holds⟩
    exact raises error stage events start w final holds

/-- The client loop handles a message and notes how that ends. -/
theorem wp_clientTurn {tools : Tools} {opts : ProxyOptions} {message : Message}
    {received : ConnectionState}
    {held : Stage → List (Event adapter) → PgWorld → PgWorld → Prop}
    {post : PgWorld → PgWorld → Prop} (course : Course tools opts message received C held)
    (current : w.session.state = received) (begun : held .deciding [] start w)
    (ends : ∀ error stage events start w, stage ≠ .deciding → held stage events start w →
      post start (w.log (.noted (.ended error)))) :
    Proc.wp C (clientTurn tools opts message) (fun _ start w => post start w)
      (fun _ start w => post start w) start w := by
  refine wp_clientTurn_returned course current begun ?_ ?_
  · intro stage events start w returned holds
    refine ends none stage events start w ?_ holds
    rintro rfl
    cases returned
  · intro error stage events start w final holds
    exact ends (some error) stage events start w final holds

/-- The backend loop does in each turn what `BackendTurn` says, and nothing else. -/
theorem wp_backendTurn (pauses : ∀ q start w, BackendTurn start w → C.pause q start w)
    {chunk rest : Bytes} (reading : start.peer.closed = false)
    (unread : start.peer.unread = chunk ++ rest) :
    Proc.wp C (backendTurn chunk) (fun _ start w => BackendTurn start w)
      (fun _ start w => BackendTurn start w) start (readChunk start rest) := by
  simp only [backendTurn, pipeBackend, Proc.wp_handle, Proc.wp_bind, Proc.wp_update,
    Proc.wp_raised, wp_writeClient]
  apply Proc.wp_ofExcept
  · intro framed pushed
    apply wp_trackStatus
    · apply wp_drain
      · refine pauses _ _ _ ⟨rfl, rfl, .inr ?_, .chunk reading unread pushed rfl rfl⟩
        exact ⟨reading, chunk, _, _, framed.1, [], unread, pushed, (List.append_nil _).symm, rfl⟩
      · intro w' _
        exact backendTurn_refl w'
      · intro w' _
        exact ⟨rfl, rfl, .inl rfl, .stopped rfl rfl rfl⟩
    · intro error read others split
      refine ⟨rfl, rfl, .inr ?_, .stopped rfl rfl rfl⟩
      exact ⟨reading, chunk, _, _, read, others, unread, pushed, split, rfl⟩
  · intro error _
    exact ⟨rfl, rfl, .inl rfl, .stopped rfl rfl rfl⟩

end Rules

/-- What a task counts on where only the client task adds to the trace. -/
def KeepsTrace : Side → PgWorld → PgWorld → Prop
  | .client, w, w' => w'.trace = w.trace
  | .backend, _, _ => True

theorem keepsTrace_refl (side : Side) (w : PgWorld) : KeepsTrace side w w := by
  cases side with
  | client => rfl
  | backend => trivial

theorem keepsTrace_trans (side : Side) (w₁ w₂ w₃ : PgWorld) (first : KeepsTrace side w₁ w₂)
    (second : KeepsTrace side w₂ w₃) : KeepsTrace side w₁ w₃ := by
  cases side with
  | client => exact second.trans first
  | backend => trivial

/-! ## The calls of a trace -/

/-- One handled message: the state it was received in and what was done about it. -/
structure Call where
  message : Message
  received : ConnectionState
  events : List (Event adapter)

def addEvent (calls : List Call) : Event adapter → List Call
  | .noted (.received message state) => calls ++ [⟨message, state, []⟩]
  | event =>
      match calls.getLast? with
      | none => []
      | some call => calls.dropLast ++ [{ call with events := call.events ++ [event] }]

/-- The calls of a trace, in order. -/
def calls (trace : List (Event adapter)) : List Call := trace.foldl addEvent []

def Event.IsReceipt : Event adapter → Prop
  | .noted (.received _ _) => True
  | _ => False

theorem calls_receipt (trace : List (Event adapter)) (message : Message)
    (state : ConnectionState) :
    calls (trace ++ [.noted (.received message state)]) = calls trace ++ [⟨message, state, []⟩] := by
  simp [calls, addEvent]

theorem calls_event {trace : List (Event adapter)} {others : List Call} {call : Call}
    (soFar : calls trace = others ++ [call]) {event : Event adapter}
    (inside : ¬ Event.IsReceipt event) :
    calls (trace ++ [event]) = others ++ [{ call with events := call.events ++ [event] }] := by
  have step : calls (trace ++ [event]) = addEvent (calls trace) event := by
    simp [calls]
  rw [step, soFar]
  cases event with
  | noted note =>
      cases note with
      | received message state => exact absurd trivial inside
      | ended error => simp [addEvent]
  | _ => simp [addEvent]

/-- The events after a receipt make up its call. -/
theorem calls_append (before : List (Event adapter)) (message : Message)
    (state : ConnectionState) {events : List (Event adapter)}
    (inside : ∀ event ∈ events, ¬ Event.IsReceipt event) :
    calls (before ++ .noted (.received message state) :: events) =
      calls before ++ [⟨message, state, events⟩] := by
  induction events using List.reverseRecOn with
  | nil => exact calls_receipt before message state
  | append_singleton events event ih =>
      have soFar := ih fun other present => inside other (List.mem_append_left _ present)
      have last : ¬ Event.IsReceipt event := inside event (by simp)
      have extended := calls_event soFar last
      simpa using extended

/-- The message that an event writes. -/
def Event.written : Event adapter → Option Message
  | .forwarded message _ => some message
  | _ => none

/-- The messages written to the backend in a trace, in order. -/
def sentMessages (trace : List (Event adapter)) : List Message := trace.filterMap Event.written

@[simp] theorem sentMessages_append (first second : List (Event adapter)) :
    sentMessages (first ++ second) = sentMessages first ++ sentMessages second :=
  List.filterMap_append

/-- The message that an event receives. -/
def Event.received : Event adapter → Option Message
  | .noted (.received message _) => some message
  | _ => none

/-- The messages received in a trace, in order. -/
def receivedMessages (trace : List (Event adapter)) : List Message :=
  trace.filterMap Event.received

/-- Whether an event is the receipt of a message in a state that meets a test. -/
def Event.receives (message : Message) (test : ConnectionState → Bool) : Event adapter → Bool
  | .noted (.received source state) => source = message && test state
  | _ => false

/-- A trace around the receipt found at a place. -/
theorem split_at_receipt (events : List (Event adapter)) (place : Nat) (message : Message)
    (test : ConnectionState → Bool)
    (found : (events[place]?).map (Event.receives message test) = some true) :
    ∃ state, events = events.take place ++ .noted (.received message state) ::
        events.drop (place + 1) ∧ test state = true := by
  obtain ⟨event, present, receives⟩ := Option.map_eq_some_iff.mp found
  cases event with
  | noted note =>
      cases note with
      | ended error => cases receives
      | received source state =>
          simp only [Event.receives, Bool.and_eq_true, decide_eq_true_eq] at receives
          obtain ⟨rfl, passes⟩ := receives
          obtain ⟨inside, isEvent⟩ := List.getElem?_eq_some_iff.mp present
          refine ⟨state, ?_, passes⟩
          rw [← isEvent, List.getElem_cons_drop, List.take_append_drop]
  | _ => cases receives

end SqlSafetyProxy.Postgres
