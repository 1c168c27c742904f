import SqlSafetyProxy.Coroutine.Within
import SqlSafetyProxy.Postgres.Framing
import SqlSafetyProxy.Postgres.Relay
import SqlSafetyProxy.Postgres.Startup

/-!
# A PostgreSQL session from its first byte

The client loop reads chunk after chunk: it answers requests for encryption,
opens the backend connection with the startup message, and from then on frames
the stream and handles one message after another.  In what the two tasks share
it does nothing but handle messages, so the session is a relay of messages.
-/

namespace SqlSafetyProxy.Postgres

open SqlSafetyProxy.Sql SqlSafetyProxy.Policy SqlSafetyProxy.Wire SqlSafetyProxy.Runtime
open SqlSafetyProxy.Coroutine SqlSafetyProxy.Collections

/-! ## The client loop -/

/-- The limits a session is set up with; the framers reject bounds below their header sizes. -/
structure SessionLimits where
  maxMessageBytes : Nat := 64 * 1024 * 1024
  maxSessionItems : Nat := 256
  maxSessionStateBytes : Nat := 8 * 1024 * 1024
  header_le_max : 8 ≤ maxMessageBytes := by decide

def SessionLimits.startupFramer (limits : SessionLimits) : StartupFramer where
  maxMessageBytes := limits.maxMessageBytes
  header_le_max := limits.header_le_max

def SessionLimits.framer (limits : SessionLimits) : Framer :=
  newFramer limits.maxMessageBytes (Nat.le_trans (by decide) limits.header_le_max)

/-- The connection state of a session that asked for the given database. -/
def SessionLimits.state (limits : SessionLimits) (database : String) : ConnectionState where
  database := database
  maxItems := limits.maxSessionItems
  maxStateBytes := limits.maxSessionStateBytes

/-- The state the two tasks share and the variables of the client loop. -/
structure Session where
  world : PgWorld
  startupFramer : StartupFramer
  framer : Framer
  /-- What has been read from the client. -/
  received : Bytes := []
  /-- The requests for encryption, each of which was answered with `N`. -/
  negotiations : List Bytes := []
  /-- What was written to the backend first. -/
  startupMessage : Option Bytes := none
  pastStartup : Bool := false
  /-- The answer to a frame that is no message, after how many other writes to the client. -/
  malformed : Option (Nat × Bytes) := none
  /-- The loop has ended, and with it the backend task. -/
  closed : Bool := false

/-- The client loop also waits for the backend connection, which opens or fails. -/
abbrev dials : Interface := ⟨Unit, fun _ => Bool⟩

abbrev SessionTask := Proc (awaits.plus dials) Session Exn

def sharedWorld : Part Session PgWorld where
  get := Session.world
  set t w := { t with world := w }
  get_set _ _ := rfl
  set_get _ := rfl
  set_set _ _ _ := rfl

/-- Run a handler on what the two tasks share. -/
def onWorld (task : Handler adapter Upstream Unit) : SessionTask Unit := task.within sharedWorld

/-- `await asyncio.wait_for(asyncio.open_connection(...))`. -/
def openConnection : SessionTask Unit := do
  let opened : Bool ← @Proc.ask (awaits.plus dials) Session Exn (.inr ())
  if opened then pure () else Proc.raised .connectionLost

/-- The proxy does not terminate TLS: it answers `N` and waits for another packet. -/
def answerNegotiation (limits : SessionLimits) (request : Bytes) : SessionTask Unit := do
  Proc.update fun t => { t with negotiations := t.negotiations ++ [request] }
  onWorld drain
  Proc.update fun t => { t with startupFramer := limits.startupFramer }

/-- Connect to the backend and write it the startup message. -/
def connectBackend (startupMessage : Bytes) : SessionTask Unit := do
  let params ← Proc.ofExcept (parseStartupParams startupMessage)
  Proc.update fun t => { t with
    world := withState t.world
      { t.world.session.state with database := startupDatabase params } }
  openConnection
  Proc.update fun t => { t with startupMessage := some startupMessage }
  onWorld drain
  Proc.update fun t => { t with pastStartup := true }

/-- A chunk before the startup is over. -/
def startupChunk (limits : SessionLimits) (chunk : Bytes) : SessionTask Unit := do
  let t ← Proc.get
  let pushed ← Proc.ofExcept (t.startupFramer.push chunk)
  Proc.update fun t => { t with startupFramer := pushed.2 }
  match pushed.1 with
  | none => return ()
  | some startupMessage =>
      if isNegotiationRequest startupMessage then answerNegotiation limits startupMessage
      else connectBackend startupMessage

/-- Receive a message and handle it. -/
def serveMessage (tools : Tools) (opts : ProxyOptions) (message : Message) :
    Handler adapter Upstream Unit := do
  Proc.update fun w => receive w message
  clientTurn tools opts message

/-- `for message in messages`. -/
def handleMessages (tools : Tools) (opts : ProxyOptions) : List Message → SessionTask Unit
  | [] => return ()
  | message :: rest => do
      onWorld (serveMessage tools opts message)
      handleMessages tools opts rest

/-- Answer a frame that is no message, and end the loop. -/
def refuseFrame (reason : String) : SessionTask Unit := do
  let error ← Proc.ofExcept
    (buildErrorResponse ("Malformed PostgreSQL frontend frame: " ++ reason) "08P01")
  Proc.update fun t => { t with malformed := some (t.world.clientOut.length, error) }
  onWorld drain
  Proc.update fun t => { t with closed := true }

/-- Handle what the framer has cut off, or refuse what it could not cut. -/
def handlePushed (tools : Tools) (opts : ProxyOptions) :
    Except Exn (List Message × Framer) → SessionTask Unit
  | .ok pushed => do
      Proc.update fun t => { t with framer := pushed.2 }
      handleMessages tools opts pushed.1
  | .error (.protocol reason) => refuseFrame reason
  | .error other => Proc.raised other

/-- A chunk after the startup. -/
def messageChunk (tools : Tools) (opts : ProxyOptions) (chunk : Bytes) : SessionTask Unit := do
  let t ← Proc.get
  handlePushed tools opts (t.framer.push chunk)

/-- One turn of the client loop, which an exception ends. -/
def clientChunk (tools : Tools) (opts : ProxyOptions) (limits : SessionLimits)
    (pastStartup : Bool) (chunk : Bytes) : SessionTask Unit :=
  Proc.handle
    (if pastStartup then messageChunk tools opts chunk else startupChunk limits chunk)
    fun error => do
      Proc.update fun t => { t with closed := true }
      Proc.raised error

/-- The end of the client's stream, or a read that fails. -/
def hangUp : SessionTask Unit := Proc.update fun t => { t with closed := true }

/-! ## Sessions -/

/-- What one read returns. -/
def IsRead (chunk : Bytes) : Prop := chunk ≠ [] ∧ chunk.length ≤ 65536

instance (chunk : Bytes) : Decidable (IsRead chunk) := inferInstanceAs (Decidable (_ ∧ _))

/-- A chunk has been read from the client. -/
def readClient (t : Session) (chunk : Bytes) : Session :=
  { t with received := t.received ++ chunk }

/--
The client loop reads any chunk or comes to its end; the backend task reads once
the startup is over, and no more when the client loop has ended.
-/
def session (tools : Tools) (opts : ProxyOptions) (limits : SessionLimits) :
    System (awaits.plus dials) Session Exn Side where
  start
    | .client, t, task, t' => t.closed = false ∧
        ((∃ chunk, IsRead chunk ∧ task = clientChunk tools opts limits t.pastStartup chunk ∧
          t' = readClient t chunk) ∨ (task = hangUp ∧ t' = t))
    | .backend, t, task, t' => t.closed = false ∧ t.pastStartup = true ∧ ∃ chunk rest,
        IsRead chunk ∧ t.world.peer.closed = false ∧ t.world.peer.unread = chunk ++ rest ∧
        task = onWorld (backendTurn chunk) ∧
        t' = { t with world := readChunk t.world rest }
  answers _ _ _ := True
  environment _ _ := False

/-- A client that has just connected; the backend will send the given stream. -/
def connected (limits : SessionLimits) (stream : Bytes) : Session where
  world := opened (limits.state "postgres") limits.framer stream
  startupFramer := limits.startupFramer
  framer := limits.framer

/-! ## Before the startup is over -/

/-- The requests for encryption that were answered. -/
def Negotiated (limits : SessionLimits) (t : Session) : Prop :=
  ∀ request ∈ t.negotiations, StartupPacket limits.maxMessageBytes request ∧
    isNegotiationRequest request = true

/-- What may be written to the backend first. -/
structure Opening (limits : SessionLimits) (message : Bytes) (params : Dict String String) : Prop where
  packet : StartupPacket limits.maxMessageBytes message
  other : isNegotiationRequest message = false
  parsed : parseStartupParams message = .ok params

/-- The startup is not over: the two tasks share nothing that has been changed but the database. -/
structure Starting (limits : SessionLimits) (stream : Bytes) (t : Session) : Prop where
  early : t.pastStartup = false
  untouched : ∃ database, t.world = opened (limits.state database) limits.framer stream
  negotiated : Negotiated limits t
  accounted : ∃ rest, t.received = t.negotiations.flatten ++ rest
  written : ∀ message, t.startupMessage = some message →
    t.received = t.negotiations.flatten ++ message ∧ ∃ params, Opening limits message params
  unanswered : t.malformed = none

/-- The client loop waits for the rest of a packet of the startup phase. -/
structure Waiting (limits : SessionLimits) (stream : Bytes) (t : Session) : Prop where
  early : t.pastStartup = false
  untouched : t.world = opened (limits.state "postgres") limits.framer stream
  negotiated : Negotiated limits t
  startupFramer : t.startupFramer = limits.startupFramer.holding t.startupFramer.buffer
  framer : t.framer = limits.framer
  accounted : t.received = t.negotiations.flatten ++ t.startupFramer.buffer
  unfinished : Unfinished limits.maxMessageBytes t.startupFramer.buffer
  unwritten : t.startupMessage = none
  unanswered : t.malformed = none

/-- The startup is over and nothing has happened since. -/
structure Begun (limits : SessionLimits) (stream message : Bytes) (params : Dict String String)
    (t : Session) : Prop where
  opening : Opening limits message params
  late : t.pastStartup = true
  untouched : t.world = opened (limits.state (startupDatabase params)) limits.framer stream
  negotiated : Negotiated limits t
  framer : t.framer = limits.framer
  accounted : t.received = t.negotiations.flatten ++ message
  written : t.startupMessage = some message
  unanswered : t.malformed = none
  reading : t.closed = false

theorem Waiting.starting {limits : SessionLimits} {stream : Bytes} {t : Session}
    (waiting : Waiting limits stream t) : Starting limits stream t where
  early := waiting.early
  untouched := ⟨_, waiting.untouched⟩
  negotiated := waiting.negotiated
  accounted := ⟨_, waiting.accounted⟩
  written := by
    intro message written
    rw [waiting.unwritten] at written
    cases written
  unanswered := waiting.unanswered

section Startup

variable {tools : Tools} {opts : ProxyOptions} {limits : SessionLimits} {stream : Bytes}

/-- Before the startup is over no other task runs. -/
def startupContract (limits : SessionLimits) (stream : Bytes) :
    Proc.Contract (awaits.plus dials) Session where
  pause _ _ t := Starting limits stream t
  rely _ t _ t' := t' = t

/-- Where a turn of the client loop that began before the end of the startup returns. -/
def StartupTurn (limits : SessionLimits) (stream : Bytes) (t : Session) : Prop :=
  Waiting limits stream t ∨ ∃ message params, Begun limits stream message params t

theorem wp_onWorld_drain {C : Proc.Contract (awaits.plus dials) Session}
    {post : Unit → Session → Session → Prop} {fail : Exn → Session → Session → Prop}
    {start t : Session} (pause : C.pause (.inl .drain) start t)
    (completes : ∀ completed t', C.rely (.inl .drain) t completed t' → post () t' t')
    (raises : ∀ completed t', C.rely (.inl .drain) t completed t' → fail .connectionLost t' t') :
    Proc.wp C (onWorld drain) post fail start t := by
  refine ⟨pause, ?_⟩
  intro completed t' relied
  cases completed with
  | true => exact completes _ t' relied
  | false => exact raises _ t' relied

theorem wp_openConnection {C : Proc.Contract (awaits.plus dials) Session}
    {post : Unit → Session → Session → Prop} {fail : Exn → Session → Session → Prop}
    {start t : Session} (pause : C.pause (.inr ()) start t)
    (opens : ∀ opened t', C.rely (.inr ()) t opened t' → post () t' t')
    (raises : ∀ opened t', C.rely (.inr ()) t opened t' → fail .connectionLost t' t') :
    Proc.wp C openConnection post fail start t := by
  refine ⟨pause, ?_⟩
  intro opened t' relied
  cases opened with
  | true => exact opens _ t' relied
  | false => exact raises _ t' relied

/-- The request has been taken off the stream and is answered. -/
theorem wp_answerNegotiation {t start : Session} {request : Bytes}
    (waiting : Waiting limits stream { t with received := t.negotiations.flatten })
    (taken : t.received = t.negotiations.flatten ++ request)
    (packet : StartupPacket limits.maxMessageBytes request)
    (negotiates : isNegotiationRequest request = true) :
    Proc.wp (startupContract limits stream) (answerNegotiation limits request)
      (fun _ _ t => StartupTurn limits stream t) (fun _ _ t => Starting limits stream t) start t := by
  have negotiated : Negotiated limits { t with negotiations := t.negotiations ++ [request] } := by
    intro other inside
    rcases List.mem_append.mp inside with early | last
    · exact waiting.negotiated other early
    · rw [List.mem_singleton.mp last]
      exact ⟨packet, negotiates⟩
  have accounted : t.received = (t.negotiations ++ [request]).flatten := by
    rw [taken, List.flatten_append, List.flatten_singleton]
  have starting : Starting limits stream { t with negotiations := t.negotiations ++ [request] } := by
    refine ⟨waiting.early, ⟨_, waiting.untouched⟩, negotiated, ⟨[], ?_⟩, ?_, waiting.unanswered⟩
    · rw [List.append_nil]
      exact accounted
    · intro message written
      rw [waiting.unwritten] at written
      cases written
  unfold answerNegotiation
  rw [Proc.wp_bind, Proc.wp_update, Proc.wp_bind]
  refine wp_onWorld_drain starting ?_ ?_
  · rintro _ t' rfl
    rw [Proc.wp_update]
    refine .inl ⟨waiting.early, waiting.untouched, negotiated, rfl, waiting.framer, ?_,
      unfinished_nil _, waiting.unwritten, waiting.unanswered⟩
    exact accounted.trans (List.append_nil _).symm
  · rintro _ t' rfl
    exact starting

/-- The startup message has been taken off the stream and is passed on. -/
theorem wp_connectBackend {t start : Session} {message : Bytes}
    (waiting : Waiting limits stream { t with received := t.negotiations.flatten })
    (taken : t.received = t.negotiations.flatten ++ message) (reading : t.closed = false)
    (packet : StartupPacket limits.maxMessageBytes message)
    (other : isNegotiationRequest message = false) :
    Proc.wp (startupContract limits stream) (connectBackend message)
      (fun _ _ t => StartupTurn limits stream t) (fun _ _ t => Starting limits stream t) start t := by
  have shared : t.world = opened (limits.state "postgres") limits.framer stream := waiting.untouched
  have unwritten : t.startupMessage = none := waiting.unwritten
  have starting : ∀ state, t.world.session.state = limits.state "postgres" →
      Starting limits stream { t with
        world := withState t.world { t.world.session.state with database := state } } := by
    intro database _
    refine ⟨waiting.early, ⟨database, ?_⟩, waiting.negotiated, ⟨message, taken⟩, ?_, waiting.unanswered⟩
    · rw [shared]
      rfl
    · intro message written
      rw [unwritten] at written
      cases written
  have fresh : t.world.session.state = limits.state "postgres" := by
    rw [shared]
    rfl
  unfold connectBackend
  rw [Proc.wp_bind]
  refine Proc.wp_ofExcept ?_ ?_
  · intro params parsed
    have opening : Opening limits message params := ⟨packet, other, parsed⟩
    have named := starting (startupDatabase params) fresh
    have passed : Starting limits stream { t with
        world := withState t.world
          { t.world.session.state with database := startupDatabase params }
        startupMessage := some message } := by
      refine ⟨named.early, named.untouched, named.negotiated, named.accounted, ?_, named.unanswered⟩
      rintro _ ⟨⟩
      exact ⟨taken, params, opening⟩
    rw [Proc.wp_bind, Proc.wp_update, Proc.wp_bind]
    refine wp_openConnection named ?_ ?_
    · rintro _ t' rfl
      rw [Proc.wp_bind, Proc.wp_update, Proc.wp_bind]
      refine wp_onWorld_drain passed ?_ ?_
      · rintro _ t' rfl
        rw [Proc.wp_update]
        refine .inr ⟨message, params, opening, rfl, ?_, waiting.negotiated, waiting.framer,
          taken, rfl, waiting.unanswered, reading⟩
        change withState t.world _ = _
        rw [shared]
        rfl
      · rintro _ t' rfl
        exact passed
    · rintro _ t' rfl
      exact named
  · intro error _
    have untouched := starting "postgres" fresh
    refine ⟨untouched.early, ⟨_, shared⟩, untouched.negotiated, untouched.accounted, ?_,
      untouched.unanswered⟩
    intro message written
    rw [unwritten] at written
    cases written

/-- A turn of the client loop before the end of the startup. -/
theorem wp_startupTurn {t : Session} (waiting : Waiting limits stream t)
    (reading : t.closed = false) (chunk : Bytes) (start : Session) :
    Proc.wp (startupContract limits stream) (clientChunk tools opts limits t.pastStartup chunk)
      (fun _ _ t => StartupTurn limits stream t) (fun _ _ t => Starting limits stream t) start
      (readClient t chunk) := by
  have failing : ∀ {t : Session}, Starting limits stream t →
      Starting limits stream { t with closed := true } :=
    fun starting => ⟨starting.early, starting.untouched, starting.negotiated, starting.accounted,
      starting.written, starting.unanswered⟩
  rw [waiting.early, clientChunk, Proc.wp_handle]
  suffices held : Proc.wp (startupContract limits stream) (startupChunk limits chunk)
      (fun _ _ t => StartupTurn limits stream t) (fun _ _ t => Starting limits stream t) start
      (readClient t chunk) by
    exact Proc.wp_mono held (fun _ _ _ turn => turn) fun _ _ _ starting => failing starting
  have received : (readClient t chunk).received =
      t.negotiations.flatten ++ (t.startupFramer.buffer ++ chunk) := by
    change t.received ++ chunk = _
    rw [waiting.accounted, List.append_assoc]
  have bounded : t.startupFramer.maxMessageBytes = limits.maxMessageBytes := by
    rw [waiting.startupFramer]
    rfl
  unfold startupChunk
  rw [Proc.wp_bind, Proc.wp_get, Proc.wp_bind]
  refine Proc.wp_ofExcept ?_ ?_
  · rintro ⟨found, framer⟩ pushed
    change t.startupFramer.push chunk = _ at pushed
    rw [Proc.wp_bind, Proc.wp_update]
    rcases StartupFramer.push_ok.mp pushed with ⟨rfl, rfl, unfinished⟩ | ⟨rfl, rfl, packet⟩
    · rw [bounded] at unfinished
      refine .inl ⟨waiting.early, waiting.untouched, waiting.negotiated, ?_, waiting.framer, received,
        unfinished, waiting.unwritten, waiting.unanswered⟩
      change t.startupFramer.holding _ = _
      rw [waiting.startupFramer]
      rfl
    · have framer : t.startupFramer.holding [] = limits.startupFramer.holding [] := by
        rw [waiting.startupFramer]
        rfl
      rw [bounded] at packet
      have taken : Waiting limits stream { t with
          received := t.negotiations.flatten
          startupFramer := t.startupFramer.holding [] } := by
        refine ⟨waiting.early, waiting.untouched, waiting.negotiated, framer, waiting.framer,
          (List.append_nil _).symm, unfinished_nil _, waiting.unwritten, waiting.unanswered⟩
      dsimp only
      split
      · next negotiates =>
          exact wp_answerNegotiation taken received packet negotiates
      · next other =>
          exact wp_connectBackend taken received reading packet (by simpa using other)
  · intro error _
    refine ⟨waiting.early, ⟨_, waiting.untouched⟩, waiting.negotiated, ⟨_, received⟩, ?_,
      waiting.unanswered⟩
    intro message written
    change t.startupMessage = _ at written
    rw [waiting.unwritten] at written
    cases written

/-- The client loop before the end of the startup, between two of its segments. -/
def Early (limits : SessionLimits) (stream : Bytes) (t : Session) : SessionTask Unit → Prop
  | .done _ => Waiting limits stream t
  | .await _ next => ∀ answer, Proc.wp (startupContract limits stream) (next answer)
      (fun _ _ t => StartupTurn limits stream t) (fun _ _ t => Starting limits stream t) t t
  | _ => True

/-- The startup is not over yet, or the session has come here from where it was over. -/
def Phase (tools : Tools) (opts : ProxyOptions) (limits : SessionLimits) (stream : Bytes)
    (c : Config (awaits.plus dials) Session Exn Side) : Prop :=
  (Starting limits stream c.shared ∧ c.task .backend = .done () ∧
    Early limits stream c.shared (c.task .client)) ∨
  ∃ message params t, Begun limits stream message params t ∧
    (session tools opts limits).Run anyTurn (Config.idle t) c

/-- A segment of the client loop before the end of the startup. -/
theorem startup_segment {c : Config (awaits.plus dials) Session Exn Side} {task : SessionTask Unit}
    {start t : Session} (idle : c.task .backend = .done ())
    (holds : Proc.wp (startupContract limits stream) task (fun _ _ t => StartupTurn limits stream t)
      (fun _ _ t => Starting limits stream t) start t) :
    Phase tools opts limits stream (c.turn .client task t) := by
  have segment := Proc.wp_advance holds
  have shared : (c.turn .client task t).shared = (task.advance t).2 := rfl
  have current : (c.turn .client task t).task .client = (task.advance t).1 := Config.turn_task
  have other : (c.turn .client task t).task .backend = .done () :=
    (Config.turn_others (by decide)).trans idle
  rcases advance_cases task t with ⟨t', ends⟩ | ⟨error, t', ends⟩ | ⟨request, next, t', ends⟩
  · rw [ends] at segment shared current
    rcases segment with waiting | ⟨message, params, begun⟩
    · refine .inl ⟨shared ▸ waiting.starting, other, ?_⟩
      rw [current, shared]
      exact waiting
    · refine .inr ⟨message, params, t', begun, ?_⟩
      have same : c.turn .client task t = Config.idle t' := by
        have tasks : (c.turn .client task t).task = fun _ => .done () := by
          funext side
          cases side with
          | client => exact current
          | backend => exact other
        calc
          c.turn .client task t = ⟨(c.turn .client task t).shared, (c.turn .client task t).task⟩ := rfl
          _ = Config.idle t' := by rw [shared, tasks]; rfl
      rw [same]
      exact .refl
  · rw [ends] at segment shared current
    refine .inl ⟨shared ▸ segment, other, ?_⟩
    rw [current]
    trivial
  · rw [ends] at segment shared current
    refine .inl ⟨shared ▸ segment.1, other, ?_⟩
    rw [current, shared]
    exact fun answer => segment.2 answer t' rfl

/-- Every run is in the startup phase or has come from its end. -/
theorem phase_of_run {c : Config (awaits.plus dials) Session Exn Side}
    (run : (session tools opts limits).Run anyTurn (Config.idle (connected limits stream)) c) :
    Phase tools opts limits stream c := by
  induction run with
  | refl =>
      have waiting : Waiting limits stream (connected limits stream) :=
        ⟨rfl, rfl, by simp [Negotiated, connected], rfl, rfl, rfl, unfinished_nil _, rfl, rfl⟩
      exact .inl ⟨waiting.starting, rfl, waiting⟩
  | @step c c' who _ turn condition ih =>
      rcases ih with ⟨starting, idle, early⟩ | ⟨message, params, t, begun, run⟩
      · cases turn with
        | environment moved => exact moved.elim
        | @start _ i next t' done started =>
            cases i with
            | client =>
                rw [done] at early
                rcases started with ⟨reading, ⟨chunk, -, rfl, rfl⟩ | ⟨rfl, rfl⟩⟩
                · exact startup_segment idle (wp_startupTurn early reading chunk c.shared)
                · refine @startup_segment _ _ _ _ _ hangUp c.shared _ idle (.inl ?_)
                  exact ⟨early.early, early.untouched, early.negotiated, early.startupFramer,
                    early.framer, early.accounted, early.unfinished, early.unwritten, early.unanswered⟩
            | backend =>
                have late := started.2.1
                rw [starting.early] at late
                cases late
        | @resume _ i request next answer suspended answered =>
            cases i with
            | client =>
                rw [suspended] at early
                exact startup_segment idle (early answer)
            | backend =>
                rw [idle] at suspended
                cases suspended
      · exact .inr ⟨message, params, t, begun, run.step turn condition⟩

end Startup

/-! ## The relay within a session -/

/-- With which changes the tasks of a session begin the turns of the relay. -/
inductive Receives (tools : Tools) (opts : ProxyOptions) :
    Side → (Session → Session) → Handler adapter Upstream Unit → Prop
  | message {message : Message} : Framed message → Receives tools opts .client
      (fun t => { t with world := receive t.world message }) (clientTurn tools opts message)

section Messages

variable {tools : Tools} {opts : ProxyOptions} {limits : SessionLimits} {stream : Bytes}

/-- The error handler of the client loop. -/
def closing (error : Exn) : SessionTask Unit := do
  Proc.update fun t => { t with closed := true }
  Proc.raised error

theorem aborts_closing (error : Exn) : Aborts sharedWorld (closing error) :=
  .modify (fun _ => rfl) .raised

/-- Handling one message after another takes the turns of the relay for them. -/
theorem takesTurns_handleMessages {messages : List Message}
    (framed : ∀ message ∈ messages, Framed message) :
    TakesTurns sharedWorld (Receives tools opts .client)
      ((handleMessages tools opts messages).handle closing) := by
  induction messages with
  | nil => exact .done
  | cons message rest ih =>
      have later := ih fun other inside => framed other (List.mem_cons_of_mem _ inside)
      have turn : TakesTurns sharedWorld (Receives tools opts .client)
          (.modify (fun t => { t with world := receive t.world message })
            (((clientTurn tools opts message).within sharedWorld).proceed fun result =>
              (Proc.onReturn (fun _ => handleMessages tools opts rest) result).handle closing)) :=
        .turn (.message (framed message List.mem_cons_self)) later aborts_closing
      rw [← Proc.proceed_handle, ← Proc.bind_eq_proceed] at turn
      exact turn

theorem takesTurns_refuseFrame (reason : String) :
    TakesTurns sharedWorld (Receives tools opts .client) ((refuseFrame reason).handle closing) := by
  unfold refuseFrame
  cases buildErrorResponse ("Malformed PostgreSQL frontend frame: " ++ reason) "08P01" with
  | error error => exact .modify (fun _ => rfl) .raised
  | ok error =>
      refine .modify (fun _ => rfl) (.await ?_)
      intro completed
      cases completed with
      | true => exact .modify (fun _ => rfl) .done
      | false => exact .modify (fun _ => rfl) .raised

theorem framed_of_push {framer framer' : Framer} {chunk : Bytes} {messages : List Message}
    (pushed : framer.push chunk = .ok (messages, framer')) : ∀ message ∈ messages, Framed message := by
  unfold Framer.push at pushed
  dsimp only at pushed
  split at pushed
  · cases pushed
  · next taken =>
      cases pushed
      intro message inside
      obtain ⟨buffer, rest, takes⟩ := takeMessages_taken taken message inside
      exact ⟨_, buffer, rest, takes⟩

theorem takesTurns_messageChunk (chunk : Bytes) :
    TakesTurns sharedWorld (Receives tools opts .client)
      (clientChunk tools opts limits true chunk) := by
  refine .read fun t => ?_
  change TakesTurns _ _ ((handlePushed tools opts (t.framer.push chunk)).handle closing)
  cases pushed : t.framer.push chunk with
  | ok parts => exact .modify (fun _ => rfl) (takesTurns_handleMessages (framed_of_push pushed))
  | error error =>
      cases error with
      | protocol reason => exact takesTurns_refuseFrame reason
      | connectionLost => exact .modify (fun _ => rfl) .raised
      | failure exception => exact .modify (fun _ => rfl) .raised

/-- After the startup a session hosts the relay of messages. -/
theorem hosts_relay (tools : Tools) (opts : ProxyOptions) (limits : SessionLimits) :
    Hosts (session tools opts limits) (relay tools opts) sharedWorld (Receives tools opts)
      fun t => t.pastStartup = true where
  opening := by
    rintro i enter task ⟨framed⟩ t
    exact ⟨_, framed, rfl, rfl⟩
  starts := by
    intro i t task t' late started
    cases i with
    | client =>
        obtain ⟨-, ⟨chunk, -, rfl, rfl⟩ | ⟨rfl, rfl⟩⟩ := started
        · rw [late]
          exact .inl ⟨rfl, takesTurns_messageChunk chunk⟩
        · exact .inl ⟨rfl, .modify (fun _ => rfl) .done⟩
    | backend =>
        obtain ⟨-, -, chunk, rest, -, reading, unread, rfl, rfl⟩ := started
        refine .inr ⟨backendTurn chunk, Proc.ofExcept, ⟨chunk, rest, reading, unread, rfl, rfl⟩,
          (Proc.proceed_ofExcept _).symm, .done, fun _ => .raised⟩
  answers _ _ _ _ := trivial
  environment _ _ moved := moved.elim

/-- What the end of the startup settles. -/
structure Settles (t₀ t : Session) : Prop where
  late : t.pastStartup = true
  written : t.startupMessage = t₀.startupMessage
  negotiations : t.negotiations = t₀.negotiations

section Settled

open Proc

variable {C : Proc.Contract (awaits.plus dials) Session} {t₀ : Session}

theorem keeps_onWorld (guards : Guards C (Settles t₀)) (task : Handler adapter Upstream Unit) :
    Keeps C (Settles t₀) (onWorld task) :=
  keeps_within guards (fun _ _ settled => ⟨settled.late, settled.written, settled.negotiations⟩) task

theorem keeps_closing (error : Exn) : Keeps C (Settles t₀) (closing error) :=
  keeps_bind (keeps_update fun _ settled => ⟨settled.late, settled.written, settled.negotiations⟩)
    fun _ => keeps_raised error

theorem keeps_handleMessages (guards : Guards C (Settles t₀)) (messages : List Message) :
    Keeps C (Settles t₀) (handleMessages tools opts messages) := by
  induction messages with
  | nil => exact keeps_pure ()
  | cons message rest ih => exact keeps_bind (keeps_onWorld guards _) fun _ => ih

theorem keeps_refuseFrame (guards : Guards C (Settles t₀)) (reason : String) :
    Keeps C (Settles t₀) (refuseFrame reason) := by
  refine keeps_bind (keeps_ofExcept _) fun _ => keeps_bind (keeps_update ?_) fun _ =>
    keeps_bind (keeps_onWorld guards _) fun _ => keeps_update ?_
  · exact fun _ settled => ⟨settled.late, settled.written, settled.negotiations⟩
  · exact fun _ settled => ⟨settled.late, settled.written, settled.negotiations⟩

theorem keeps_handlePushed (guards : Guards C (Settles t₀))
    (pushed : Except Exn (List Message × Framer)) :
    Keeps C (Settles t₀) (handlePushed tools opts pushed) := by
  cases pushed with
  | ok parts =>
      refine keeps_bind (keeps_update ?_) fun _ => keeps_handleMessages guards parts.1
      exact fun _ settled => ⟨settled.late, settled.written, settled.negotiations⟩
  | error error =>
      cases error with
      | protocol reason => exact keeps_refuseFrame guards reason
      | connectionLost => exact keeps_raised _
      | failure exception => exact keeps_raised _

theorem keeps_messageChunk (guards : Guards C (Settles t₀)) (chunk : Bytes) :
    Keeps C (Settles t₀) (clientChunk tools opts limits true chunk) :=
  keeps_handle (keeps_bind keeps_get fun _ => keeps_handlePushed guards _) keeps_closing

end Settled

/-- The startup is over once and for all. -/
theorem settled_of_run {t₀ : Session} {c : Config (awaits.plus dials) Session Exn Side}
    (late : t₀.pastStartup = true)
    (run : (session tools opts limits).Run anyTurn (Config.idle t₀) c) : Settles t₀ c.shared := by
  refine System.Run.keeps (fun _ _ _ (moved : False) => moved.elim) ?_ ⟨late, rfl, rfl⟩ run
  intro i t task t' settled started
  cases i with
  | client =>
      obtain ⟨-, ⟨chunk, -, rfl, rfl⟩ | ⟨rfl, rfl⟩⟩ := started
      · rw [settled.late]
        exact ⟨⟨settled.late, settled.written, settled.negotiations⟩,
          fun C guards => keeps_messageChunk guards chunk⟩
      · exact ⟨settled, fun C _ => Proc.keeps_update fun _ settled =>
          ⟨settled.late, settled.written, settled.negotiations⟩⟩
  | backend =>
      obtain ⟨-, -, chunk, rest, -, -, -, rfl, rfl⟩ := started
      exact ⟨⟨settled.late, settled.written, settled.negotiations⟩,
        fun C guards => keeps_onWorld guards _⟩

/-- Once its startup is over, a session is a relay of messages for the database it has named. -/
structure RelaysFrom (tools : Tools) (opts : ProxyOptions) (limits : SessionLimits)
    (stream message : Bytes) (params : Dict String String)
    (c : Config (awaits.plus dials) Session Exn Side) : Prop where
  opening : Opening limits message params
  written : c.shared.startupMessage = some message
  hosted : Hosted (relay tools opts) sharedWorld (Receives tools opts)
    (Config.idle (opened (limits.state (startupDatabase params)) limits.framer stream)) c

theorem relays_or_starting {c : Config (awaits.plus dials) Session Exn Side}
    (run : (session tools opts limits).Run anyTurn (Config.idle (connected limits stream)) c) :
    Starting limits stream c.shared ∨
      c.shared.pastStartup = true ∧
        ∃ message params, RelaysFrom tools opts limits stream message params c := by
  rcases phase_of_run run with ⟨starting, -, -⟩ | ⟨message, params, t, begun, run⟩
  · exact .inl starting
  · have settled := settled_of_run begun.late run
    have hosted := (hosts_relay tools opts limits).simulates run
      fun c run => (settled_of_run begun.late run).late
    have world : sharedWorld.get t = opened _ _ _ := begun.untouched
    rw [world] at hosted
    exact .inr ⟨settled.late, message, params, begun.opening, settled.written.trans begun.written,
      hosted⟩

/--
Before its startup is over a session shares nothing between its tasks; after it,
every run of the session is a run of the relay of messages, from a connection to
the database that the startup message names.
-/
theorem session_relays {c : Config (awaits.plus dials) Session Exn Side}
    (run : (session tools opts limits).Run anyTurn (Config.idle (connected limits stream)) c) :
    (c.shared.pastStartup = false →
      ∃ database, c.shared.world = opened (limits.state database) limits.framer stream) ∧
    (c.shared.pastStartup = true → ∃ message params d,
      c.shared.startupMessage = some message ∧ Opening limits message params ∧
      (relay tools opts).Run anyTurn
        (Config.idle (opened (limits.state (startupDatabase params)) limits.framer stream)) d ∧
      d.shared = c.shared.world ∧ ∀ side, c.task side = .done () → d.task side = .done ()) := by
  rcases relays_or_starting run with starting | ⟨past, message, params, relays⟩
  · refine ⟨fun _ => starting.untouched, fun late => ?_⟩
    rw [starting.early] at late
    cases late
  · refine ⟨fun early => ?_, fun _ => ?_⟩
    · rw [past] at early
      cases early
    · obtain ⟨d, run, shared, stands⟩ := relays.hosted
      refine ⟨message, params, d, relays.written, relays.opening, run, shared, ?_⟩
      intro side done
      have current := stands side
      rw [done] at current
      generalize d.task side = task at current
      cases current with
      | between => rfl
      | aborting aborts => cases aborts

end Messages

/-! ### A small session -/

/-- The startup message of version 3.0 with the given parameters. -/
def startupOf (params : List (String × String)) : Bytes :=
  let body := params.flatMap encodeParam ++ [0]
  bePack 4 (8 + body.length) ++ ([0, 3, 0, 0] ++ body)

/-- The user approves everything, and the backend accepts the connection. -/
def approving : (q : (awaits.plus dials).Request) → (awaits.plus dials).Answer q
  | .inl q => userAnswers true q
  | .inr _ => true

/-- The client loop handles a chunk while the backend task is at rest. -/
def afterChunk (tools : Tools) (opts : ProxyOptions) (limits : SessionLimits) (t : Session)
    (chunk : Bytes) : Except Exn Unit × Session :=
  (clientChunk tools opts limits t.pastStartup chunk).run (fun q t => (approving q, t))
    (readClient t chunk)

theorem rests_afterChunk {tools : Tools} {opts : ProxyOptions} {limits : SessionLimits}
    {t₀ t : Session} (rests : (session tools opts limits).Rests t₀ t) (reading : t.closed = false)
    {chunk : Bytes} (isRead : IsRead chunk)
    (returned : (afterChunk tools opts limits t chunk).1 = .ok ()) :
    (session tools opts limits).Rests t₀ (afterChunk tools opts limits t chunk).2 :=
  rests.turn (i := .client) approving (fun _ _ _ => trivial)
    ⟨reading, .inl ⟨chunk, isRead, rfl, rfl⟩⟩ (Proc.asksOnly_any _ _ _) returned

/-- The backend task relays a chunk while the client loop is at rest. -/
def afterRelay (t : Session) (chunk rest : Bytes) : Except Exn Unit × Session :=
  (onWorld (backendTurn chunk)).run (fun q t => (approving q, t))
    { t with world := readChunk t.world rest }

theorem rests_afterRelay {tools : Tools} {opts : ProxyOptions} {limits : SessionLimits}
    {t₀ t : Session} (rests : (session tools opts limits).Rests t₀ t) (reading : t.closed = false)
    (late : t.pastStartup = true) {chunk rest : Bytes} (isRead : IsRead chunk)
    (open_ : t.world.peer.closed = false) (unread : t.world.peer.unread = chunk ++ rest)
    (returned : (afterRelay t chunk rest).1 = .ok ()) :
    (session tools opts limits).Rests t₀ (afterRelay t chunk rest).2 :=
  rests.turn (i := .backend) approving (fun _ _ _ => trivial)
    ⟨reading, late, chunk, rest, isRead, open_, unread, rfl, rfl⟩ (Proc.asksOnly_any _ _ _) returned

/-- A client whose backend will report that it is ready. -/
def aliceConnected : Session := connected {} (buildReadyForQuery .idle)

def aliceStarted : Session :=
  (afterChunk plainTools strictOptions {} aliceConnected (startupOf [("user", "alice")])).2

def aliceReady : Session := (afterRelay aliceStarted (buildReadyForQuery .idle) []).2

def aliceSynced : Session :=
  (afterChunk plainTools strictOptions {} aliceReady syncMessage.raw).2

theorem aliceSynced_rests :
    (session plainTools strictOptions {}).Rests aliceConnected aliceSynced := by
  have start : (session plainTools strictOptions {}).Rests aliceConnected aliceConnected := .refl _
  have started : (session plainTools strictOptions {}).Rests aliceConnected aliceStarted :=
    rests_afterChunk start rfl (by decide) (by decide +kernel)
  have ready : (session plainTools strictOptions {}).Rests aliceConnected aliceReady :=
    rests_afterRelay started (by decide +kernel) (by decide +kernel) (by decide) (by decide +kernel)
      (by decide +kernel) (by decide +kernel)
  exact rests_afterChunk ready (by decide +kernel) (by decide) (by decide +kernel)

/-- A session that handles a message is a relay from the database of its user. -/
theorem aliceSynced_relays :
    forwards aliceSynced.world.trace = [syncMessage.raw] ∧
      ∃ message params d, aliceSynced.startupMessage = some message ∧ Opening {} message params ∧
        (relay plainTools strictOptions).Run anyTurn (Config.idle
          (opened (({} : SessionLimits).state (startupDatabase params))
            ({} : SessionLimits).framer (buildReadyForQuery .idle))) d ∧
        d.shared = aliceSynced.world := by
  obtain ⟨c, run, shared, -⟩ := aliceSynced_rests
  have late : c.shared.pastStartup = true := by
    rw [shared]
    decide +kernel
  obtain ⟨message, params, d, written, opening, relays, same, -⟩ := (session_relays run).2 late
  rw [shared] at written same
  exact ⟨by decide +kernel, message, params, d, written, opening, relays, same⟩

end SqlSafetyProxy.Postgres
