import SqlSafetyProxy.MySql.Ledger
import SqlSafetyProxy.MySql.Lockstep

/-!
# Response accounting

The client sends a command that expects a response only when the one before has
been answered completely, and silent commands at any time.  In every run it
receives one response for each command that expects one, in order, and one ERR
packet besides for each silent command that is refused.
-/

namespace SqlSafetyProxy.MySql

open SqlSafetyProxy.Policy SqlSafetyProxy.Wire SqlSafetyProxy.Runtime SqlSafetyProxy.Coroutine

variable {σ : Type}

/-! ## Servers that answer once -/

/-- A server that answers every message but the silent ones, in whatever packets. -/
structure Responder (σ : Type) where
  replies : σ → LogicalMessage → List Packet → σ → Prop
  once : ∀ {state message packets later}, replies state message packets later →
    (packets = [] ↔ silent message = true)

inductive Attends (server : Responder σ) (w : Link σ) : Link σ → Prop where
  | mk {message : LogicalMessage} {rest : List LogicalMessage} {packets : List Packet} {later : σ} :
      inFlight w = message :: rest → server.replies w.peer.server message packets later →
      Attends server w (hear w packets later)

/-- The tasks of a connection, the messages that may arrive, and such a server. -/
def attended (tools : Tools) (opts : ProxyOptions) (server : Responder σ)
    (sends : Link σ → LogicalMessage → Prop) : System awaits (Link σ) Exn Side where
  start
    | .client, w, task, w' => ∃ message, sends w message ∧
        task = clientTurn tools opts message ∧ w' = receive w message
    | .backend, w, task, w' => ∃ packet rest, unread w = packet :: rest ∧
        task = backendTurn packet ∧ w' = takeUp w packet
  answers q w answer := answers q w answer
  environment := Attends server

/-! ## The accounts -/

/-- Packets of the server that have still to reach the client. -/
def unrelayed (w : Link σ) : List Packet := w.peer.sent.drop (relayed w.clientOut).length

/--
What the client has received and what the server has sent besides make up one
response for each command that expects one.  Beyond these it has received one
ERR packet for each refusal, and a connection is never refused its end.
-/
structure Accounted (w : Link σ) : Prop where
  responses : responsesIn w.clientOut (refusals (dealings w.trace)) ++
    (unrelayed w).map Packet.raw = owed (dealings w.trace) w.peer.answered
  built : built w.clientOut = (refusals (dealings w.trace)).map Prod.snd
  refused : ∀ refusal ∈ refusals (dealings w.trace),
    RefusalOf refusal.1 refusal.2 ∧ (commandOf refusal.1).kind ≠ .quit

/-- The invariant of every run. -/
structure Tallied (w : Link σ) : Prop extends Accounted w where
  phase : w.session.phase = .commandResponse
  heard : w.peer.answered.length ≤ (passedOn (dealings w.trace)).length
  taken : (relayed w.clientOut).length ≤ w.peer.read
  read : w.peer.read ≤ w.peer.sent.length
  relays : relayed w.clientOut ++ (unrelayed w).map Packet.raw = w.peer.sent.map Packet.raw
  clear : Clear (dealings w.trace) w.peer.answered.length

section Tallied

variable {w : Link σ}

theorem inFlight_eq (w : Link σ) :
    inFlight w = (passedOn (dealings w.trace)).drop w.peer.answered.length := by
  rw [inFlight, passedOn_dealings]

theorem Tallied.unrelayed (tallied : Tallied w) (received : Received w) : unrelayed w = [] := by
  have same := tallied.relays
  rw [received.1] at same
  exact List.map_eq_nil_iff.mp (List.append_right_eq_self.mp same)

/-- Neither the session nor an event that deals with nothing enters the accounts. -/
theorem Tallied.of_same {w' : Link σ} (tallied : Tallied w) (out : w'.clientOut = w.clientOut)
    (peer : w'.peer = w.peer) (dealt : dealings w'.trace = dealings w.trace)
    (phase : w'.session.phase = w.session.phase) : Tallied w' where
  responses := by
    rw [MySql.unrelayed, out, peer, dealt]
    exact tallied.responses
  built := by
    rw [out, dealt]
    exact tallied.built
  refused := by
    rw [dealt]
    exact tallied.refused
  phase := phase.trans tallied.phase
  heard := by
    rw [peer, dealt]
    exact tallied.heard
  taken := by
    rw [out, peer]
    exact tallied.taken
  read := by
    rw [peer]
    exact tallied.read
  relays := by
    rw [MySql.unrelayed, out, peer]
    exact tallied.relays
  clear := by
    rw [peer, dealt]
    exact tallied.clear

theorem Tallied.withState (tallied : Tallied w) (state : SessionState) :
    Tallied (withState w state) :=
  tallied.of_same rfl rfl rfl rfl

theorem Tallied.logs {event : Event adapter} (tallied : Tallied w)
    (undealt : dealings [event] = []) : Tallied (w.log event) := by
  refine tallied.of_same rfl rfl ?_ rfl
  rw [World.log_trace, dealings_append, undealt, List.append_nil]

/-- A message is passed on: its answer is owed once the server has read it. -/
theorem Tallied.writes (tallied : Tallied w) (message : LogicalMessage) :
    Tallied (w.log (writeOf message)) := by
  have dealt : dealings (w.log (writeOf message)).trace =
      dealings w.trace ++ [(message, .forwarded)] := by simp [dealings]
  have same : refusals (dealings (w.log (writeOf message)).trace) =
      refusals (dealings w.trace) := by
    rw [dealt, refusals_append]
    exact List.append_nil _
  refine ⟨⟨?_, ?_, ?_⟩, tallied.phase, ?_, tallied.taken, tallied.read, tallied.relays, ?_⟩
  · rw [same, dealt]
    exact tallied.responses.trans (owed_forwarded tallied.heard).symm
  · rw [same]
    exact tallied.built
  · rw [same]
    exact tallied.refused
  · rw [dealt, passedOn_append, List.length_append]
    exact Nat.le_add_right_of_le tallied.heard
  · rw [dealt]
    exact tallied.clear.snoc trivial

/-- A message is refused: a command that expects a response has waited for the others. -/
theorem Tallied.refuses {message : LogicalMessage} {packet : Bytes} (tallied : Tallied w)
    (refusal : RefusalOf message packet) (staying : (commandOf message).kind ≠ .quit)
    (waited : silent message = false → Received w) :
    Tallied ((w.log (refusalOf message packet)).answer (.built packet)) := by
  have dealt : dealings ((w.log (refusalOf message packet)).answer (.built packet)).trace =
      dealings w.trace ++ [(message, .refused packet)] := by simp [dealings]
  have listed : refusals (dealings w.trace ++ [(message, .refused packet)]) =
      refusals (dealings w.trace) ++ [(message, packet)] := by simp [refusals]
  have count : (MySql.built w.clientOut).length = (refusals (dealings w.trace)).length := by
    rw [tallied.built, List.length_map]
  have same : relayed (w.clientOut ++ [.built packet]) = relayed w.clientOut := by simp [relayed]
  refine ⟨⟨?_, ?_, ?_⟩, tallied.phase, ?_, ?_, tallied.read, ?_, ?_⟩
  · rw [dealt, listed, MySql.unrelayed, World.answer_clientOut, World.log_clientOut, same,
      responsesIn_refused count, owed_refused, World.answer_peer, World.log_peer]
    cases isSilent : silent message with
    | true =>
        simp only [if_true, List.append_nil]
        exact tallied.responses
    | false =>
        have none : w.peer.sent.drop (relayed w.clientOut).length = [] :=
          tallied.unrelayed (waited isSilent)
        have responses := tallied.responses
        rw [MySql.unrelayed, none, List.map_nil, List.append_nil] at responses
        rw [none, responses]
        simp
  · rw [dealt, listed, World.answer_clientOut, World.log_clientOut, built_append, tallied.built,
      List.map_append]
    rfl
  · rw [dealt, listed]
    intro other inside
    rcases List.mem_append.mp inside with early | last
    · exact tallied.refused other early
    · rw [List.mem_singleton.mp last]
      exact ⟨refusal, staying⟩
  · rw [dealt, passedOn_append, List.length_append]
    exact Nat.le_add_right_of_le tallied.heard
  · rw [World.answer_clientOut, World.log_clientOut, same]
    exact tallied.taken
  · rw [MySql.unrelayed, World.answer_clientOut, World.log_clientOut, same]
    exact tallied.relays
  · rw [dealt]
    cases isSilent : silent message with
    | true => exact tallied.clear.snoc isSilent
    | false =>
        refine tallied.clear.refuse ?_ packet
        rw [← inFlight_eq]
        exact (waited isSilent).2

theorem Tallied.takesUp {packet : Packet} {rest : List Packet} (tallied : Tallied w)
    (next : unread w = packet :: rest) : Tallied (takeUp w packet) := by
  have count := congrArg List.length next
  simp only [unread, List.length_drop, List.length_cons] at count
  exact ⟨⟨tallied.responses, tallied.built, tallied.refused⟩, tallied.phase, tallied.heard,
    Nat.le_succ_of_le tallied.taken, by change w.peer.read + 1 ≤ w.peer.sent.length; omega, tallied.relays, tallied.clear⟩

/-- The packet that was taken up is relayed: it is the next one the client is to receive. -/
theorem Tallied.relaysNext {packet : Packet} {rest : List Packet} (tallied : Tallied w)
    (next : MySql.unrelayed w = packet :: rest) (behind : (relayed w.clientOut).length < w.peer.read) :
    Tallied (w.answer (.relayed packet.raw)) := by
  have more : relayed (w.clientOut ++ [.relayed packet.raw]) =
      relayed w.clientOut ++ [packet.raw] := by simp [relayed]
  have remaining : MySql.unrelayed (w.answer (.relayed packet.raw)) = rest := by
    unfold MySql.unrelayed at next
    rw [MySql.unrelayed, World.answer_clientOut, more, World.answer_peer, List.length_append,
      List.length_singleton, ← List.drop_drop, next, List.drop_one, List.tail_cons]
  refine ⟨⟨?_, ?_, tallied.refused⟩, tallied.phase, tallied.heard, ?_, tallied.read, ?_,
    tallied.clear⟩
  · have responses := tallied.responses
    rw [next, List.map_cons] at responses
    rw [remaining, World.answer_clientOut, responsesIn_relayed, List.append_assoc]
    exact responses
  · rw [World.answer_clientOut, built_append, tallied.built]
    exact List.append_nil _
  · rw [World.answer_clientOut, more, List.length_append]
    exact behind
  · have relays := tallied.relays
    rw [next, List.map_cons] at relays
    rw [remaining, World.answer_clientOut, more, List.append_assoc]
    exact relays

/-- The server reads the next message. -/
theorem Tallied.attends {server : Responder σ} {w' : Link σ} (tallied : Tallied w)
    (attends : Attends server w w') : Tallied w' := by
  obtain ⟨next, replies⟩ := attends
  next message rest packets later =>
  rw [inFlight_eq] at next
  have within : (relayed w.clientOut).length ≤ w.peer.sent.length :=
    tallied.taken.trans tallied.read
  have remaining : MySql.unrelayed (hear w packets later) = MySql.unrelayed w ++ packets := by
    rw [MySql.unrelayed, hear_sent]
    exact List.drop_append_of_le_length within
  have count := congrArg List.length next
  simp only [List.length_drop, List.length_cons] at count
  refine ⟨⟨?_, tallied.built, tallied.refused⟩, tallied.phase, ?_, tallied.taken, ?_, ?_, ?_⟩
  · rw [remaining, List.map_append, ← List.append_assoc]
    change responsesIn w.clientOut (refusals (dealings w.trace)) ++ _ ++ _ =
      owed (dealings w.trace) (w.peer.answered ++ [packets])
    rw [tallied.responses, owed_answered tallied.clear next (server.once replies).mpr]
  · simp only [hear, List.length_append, List.length_singleton]
    omega
  · rw [hear_sent, List.length_append]
    exact Nat.le_add_right_of_le tallied.read
  · rw [remaining, hear_sent, List.map_append, List.map_append, ← List.append_assoc]
    exact congrArg (· ++ packets.map Packet.raw) tallied.relays
  · simp only [hear, List.length_append, List.length_singleton]
    exact tallied.clear.next

/-- A message that is left unanswered leaves the client with everything. -/
theorem Attends.received {server : Responder σ} {w' : Link σ} (attends : Attends server w w')
    (received : Received w) : Received w' := by
  obtain ⟨next, replies⟩ := attends
  have unanswered := received.2 _ (by rw [next]; exact List.mem_cons_self)
  have none := (server.once replies).mpr unanswered
  subst none
  refine ⟨?_, ?_⟩
  · rw [hear_sent, List.append_nil]
    exact received.1
  · rw [inFlight_hear next]
    exact fun other inside => received.2 other (by rw [next]; exact List.mem_cons_of_mem _ inside)

end Tallied

/-! ## The promises of the tasks -/

section Runs

variable {tools : Tools} {opts : ProxyOptions} {server : Responder σ}
  {sends : Link σ → LogicalMessage → Prop} {w w' : Link σ}

/-- What each task does to the accounts, and what it leaves to the other. -/
def tallying (tools : Tools) (opts : ProxyOptions) (server : Responder σ)
    (sends : Link σ → LogicalMessage → Prop) :
    Promises (attended tools opts server sends) anyTurn where
  invariant := Tallied
  guarantee
    | .client, w, w' => Tallied w' ∧ w'.peer = w.peer ∧ relayed w'.clientOut = relayed w.clientOut
    | .backend, w, w' => Tallied w' ∧ w'.trace = w.trace ∧ (Received w → Received w')
  rely
    | .client, w, w' => w'.trace = w.trace ∧ (Received w → Received w')
    | .backend, w, w' => w'.peer.read = w.peer.read ∧ relayed w'.clientOut = relayed w.clientOut
  rely_refl
    | .client, _ => ⟨rfl, id⟩
    | .backend, _ => ⟨rfl, rfl⟩
  rely_trans
    | .client, _, _, _ => fun first second =>
        ⟨second.1.trans first.1, fun received => second.2 (first.2 received)⟩
    | .backend, _, _, _ => fun first second =>
        ⟨second.1.trans first.1, second.2.trans first.2⟩
  environment_invariant _ _ tallied attends _ := Tallied.attends tallied attends
  environment_relied
    | .client, _, _, _, _, attends => by
        refine ⟨?_, Attends.received attends⟩
        cases attends
        rfl
    | .backend, _, _, _, _, attends => by
        cases attends
        exact ⟨rfl, rfl⟩
  guarantee_invariant
    | .client, _, _, _, guaranteed, _ => guaranteed.1
    | .backend, _, _, _, guaranteed, _ => guaranteed.1
  guarantee_relied
    | .client, .backend, _, _, _, _, _, guaranteed => guaranteed.2
    | .backend, .client, _, _, _, _, _, guaranteed => by
        obtain ⟨-, peer, out⟩ := guaranteed
        exact ⟨by rw [peer], out⟩
    | .client, .client, _, _, other, _, _, _ => absurd rfl other
    | .backend, .backend, _, _, other, _, _, _ => absurd rfl other

/-- Between two messages every one that arrived has been dealt with; every packet has been relayed. -/
def squares : Side → Link σ → Prop
  | .client, w => arrivals w.trace = (dealings w.trace).map Prod.fst
  | .backend, w => w.peer.read ≤ (relayed w.clientOut).length

theorem squares_stable (side : Side) (left : squares side w)
    (relied : (tallying tools opts server sends).rely side w w') : squares side w' := by
  cases side with
  | client =>
      have left : arrivals w.trace = (dealings w.trace).map Prod.fst := left
      have same : w'.trace = w.trace := relied.1
      change arrivals w'.trace = (dealings w'.trace).map Prod.fst
      rw [same]
      exact left
  | backend =>
      have left : w.peer.read ≤ (relayed w.clientOut).length := left
      have read : w'.peer.read = w.peer.read := relied.1
      have out : relayed w'.clientOut = relayed w.clientOut := relied.2
      change w'.peer.read ≤ (relayed w'.clientOut).length
      rw [read, out]
      exact left

/-! ## The backend task -/

theorem completes_relaying {packet : Packet} {rest : List Packet} (tallied : Tallied w)
    (left : w.peer.read ≤ (relayed w.clientOut).length) (next : unread w = packet :: rest) :
    (tallying tools opts server sends).Completes squares .backend (backendTurn packet) w
      (takeUp w packet) := by
  have level : (relayed w.clientOut).length = w.peer.read := le_antisymm tallied.taken left
  have isNext : unrelayed (takeUp w packet) = packet :: rest := by
    change w.peer.sent.drop (relayed w.clientOut).length = _
    rw [level]
    exact next
  have unready : ¬ Received w := by
    intro received
    have none := tallied.unrelayed received
    rw [show unrelayed w = packet :: rest from isNext] at none
    cases none
  have taken := tallied.takesUp next
  unfold Promises.Completes backendTurn
  rw [Proc.wp_bind, wp_routeBackendPacket taken.phase, wp_routeResponse]
  rcases trackResponse _ packet.payload _ with ⟨error | next, tracked⟩
  · exact ⟨taken.withState tracked, rfl, fun received => absurd received unready⟩
  · have behind : (relayed w.clientOut).length < w.peer.read + 1 := by omega
    have relays : Tallied ((withState (takeUp w packet) tracked).answer (.relayed packet.raw)) :=
      (taken.withState tracked).relaysNext isNext behind
    have caught : w.peer.read + 1 ≤
        (relayed ((withState (takeUp w packet) tracked).answer
          (.relayed packet.raw)).clientOut).length := by
      simp only [World.answer_clientOut, withState_clientOut, takeUp_clientOut, relayed_append,
        List.length_append]
      exact Nat.add_le_add_right left 1
    simp only [Proc.wp_bind, Proc.wp_ofExcept_ok, wp_writeClient]
    apply wp_drain
    · exact ⟨relays, rfl, fun received => absurd received unready⟩
    · rintro later ⟨tallied', relied, -⟩
      have read : later.peer.read = w.peer.read + 1 := relied.1
      have out : relayed later.clientOut = _ := relied.2
      have square : later.peer.read ≤ (relayed later.clientOut).length := by
        rw [read, out]
        exact caught
      have ends : ∀ state, (Tallied (settle (withState later state)) ∧
          (settle (withState later state)).trace = later.trace ∧
          (Received later → Received (settle (withState later state)))) ∧
            (settle (withState later state)).peer.read ≤
              (relayed (settle (withState later state)).clientOut).length := by
        intro state
        have kept := tallied'.withState state
        exact ⟨⟨⟨⟨kept.responses, kept.built, kept.refused⟩, kept.phase, kept.heard, kept.taken,
          kept.read, kept.relays, kept.clear⟩, rfl, id⟩, square⟩
      cases next with
      | nothing => exact ends (stateOf later)
      | failPrepare => exact ends _
      | finishPrepare =>
          apply wp_changeSession
          · intro changed _
            exact ends changed
          · intro error _
            exact ⟨tallied', rfl, id⟩
    · rintro later ⟨tallied', -, -⟩
      exact ⟨tallied', rfl, id⟩

/-! ## The client task -/

/-- Whether a message has been dealt with at a stage. -/
def DealtWith (message : LogicalMessage) (events : List (Event adapter)) (w : Link σ) :
    Stage → Prop
  | .considering | .resolved | .awaiting =>
      dealings events = [] ∧ (silent message = false → Received w) ∧ (commandOf message).kind ≠ .quit
  | .written | .declined | .refused => ∃ fate, dealings events = [(message, fate)]
  | .broken => True

/-- The accounts while a message is dispatched. -/
structure Dealing (before : List (Event adapter)) (message : LogicalMessage) (stage : Stage)
    (events : List (Event adapter)) (start w : Link σ) : Prop where
  tallied : Tallied w
  peer : w.peer = start.peer
  relayed : relayed w.clientOut = relayed start.clientOut
  trace : w.trace = before ++ .noted (.received message) :: events
  arrived : arrivals events = []
  dealt : DealtWith message events w stage

section Dealing

variable {before events : List (Event adapter)} {message : LogicalMessage} {stage : Stage}
  {start : Link σ}

theorem Dealing.opened (isOpen : stage.Open) (dealing : Dealing before message stage events start w) :
    dealings events = [] ∧ (silent message = false → Received w) ∧
      (commandOf message).kind ≠ .quit := by
  have dealt := dealing.dealt
  rcases isOpen with rfl | rfl
  · exact dealt
  · exact dealt

/-- The session may change, and the stage with it. -/
theorem Dealing.withState {stage' : Stage} (dealing : Dealing before message stage events start w)
    (state : SessionState) (dealt : DealtWith message events w stage') :
    Dealing before message stage' events start (withState w state) := by
  refine ⟨dealing.tallied.withState state, dealing.peer, dealing.relayed, dealing.trace,
    dealing.arrived, ?_⟩
  cases stage' <;> exact dealt

/-- An event that neither deals with the message nor announces another. -/
theorem Dealing.logs {event : Event adapter} (isOpen : stage.Open)
    (dealing : Dealing before message stage events start w) (undealt : dealings [event] = [])
    (unarrived : arrivals [event] = []) :
    Dealing before message stage (events ++ [event]) start (w.log event) := by
  have dealt := dealing.opened isOpen
  refine ⟨dealing.tallied.logs undealt, dealing.peer, dealing.relayed, ?_, ?_, ?_⟩
  · rw [World.log_trace, dealing.trace, List.append_assoc, List.cons_append]
  · rw [arrivals_append, dealing.arrived, unarrived]
    rfl
  · have still : dealings (events ++ [event]) = [] := by
      rw [dealings_append, dealt.1, undealt]
      rfl
    have received : silent message = false → Received (w.log event) :=
      fun speaks => (sameTraffic_log (by
        rw [← passedOn_dealings, undealt]
        rfl)).received (dealt.2.1 speaks)
    rcases isOpen with rfl | rfl
    · exact ⟨still, received, dealt.2.2⟩
    · exact ⟨still, received, dealt.2.2⟩

theorem Dealing.writes {stage' : Stage} (dealing : Dealing before message stage' events start w)
    (undealt : dealings events = []) :
    Dealing before message .written (events ++ [writeOf message]) start
      (w.log (writeOf message)) := by
  refine ⟨dealing.tallied.writes message, dealing.peer, dealing.relayed, ?_, ?_, .forwarded, ?_⟩
  · rw [World.log_trace, dealing.trace, List.append_assoc, List.cons_append]
  · rw [arrivals_append, dealing.arrived]
    rfl
  · rw [dealings_append, undealt]
    rfl

end Dealing

theorem course_deals (before : List (Event adapter)) (message : LogicalMessage) :
    Course tools opts message ((tallying tools opts server sends).contract .client)
      (Dealing before message) where
  records := by
    intro stage events start w event isOpen isDecision dealing
    obtain ⟨unarrived, undealt⟩ := decision_unlisted isDecision
    exact dealing.logs isOpen undealt unarrived
  pauses := by
    intro stage q events start w _ dealing
    exact ⟨dealing.tallied, dealing.peer, dealing.relayed⟩
  resumes := by
    rintro stage q events start w answer w' - dealing ⟨tallied, relied, -⟩
    have trace : w'.trace = w.trace := relied.1
    have received : Received w → Received w' := relied.2
    refine ⟨tallied, rfl, rfl, trace.trans dealing.trace, dealing.arrived, ?_⟩
    have dealt := dealing.dealt
    cases stage with
    | considering => exact ⟨dealt.1, fun speaks => received (dealt.2.1 speaks), dealt.2.2⟩
    | resolved => exact ⟨dealt.1, fun speaks => received (dealt.2.1 speaks), dealt.2.2⟩
    | awaiting => exact ⟨dealt.1, fun speaks => received (dealt.2.1 speaks), dealt.2.2⟩
    | written => exact dealt
    | declined => exact dealt
    | refused => exact dealt
    | broken => trivial
  prepared := by
    rintro w answer w' ⟨-, -, answered⟩
    exact answered rfl
  loses := by
    rintro stage events start w w' session dealing ⟨tallied, relied, -⟩ -
    have trace : w'.trace = w.trace := relied.1
    exact ⟨tallied.withState session, rfl, rfl, trace.trans dealing.trace, dealing.arrived, trivial⟩
  breaks stage events start w session _ dealing _ := dealing.withState session trivial
  opens start w after dealing _ := by
    have changed : Dealing before message .considering [] start (withState w after) :=
      dealing.withState after dealing.dealt
    exact changed.writes dealing.dealt.1
  resolves start w execution statement decoded dealing _ := by
    have logged : Dealing before message .considering [reconstruction statement decoded] start
        (w.log (reconstruction statement decoded)) := dealing.logs (.inl rfl) rfl rfl
    exact { logged with dealt := logged.dealt }
  abandons events start w dealing := { dealing with dealt := dealing.dealt }
  queries start w _ dealing _ := dealing.withState _ dealing.dealt
  executes events start w dealing _ := dealing.withState _ dealing.dealt
  forgets start w dealing := dealing.withState _ dealing.dealt
  approves events start w dealing _ := dealing.writes dealing.dealt.1
  registers events start w statement decoded registered dealing _ _ :=
    dealing.withState registered dealing.dealt
  misses events start w statement decoded error dealing _ _ := { dealing with dealt := trivial }
  refuses := by
    intro stage events start w packet isOpen dealing refusal
    obtain ⟨undealt, waited, staying⟩ := dealing.opened isOpen
    have dealt : dealings (events ++ [refusalOf message packet]) =
        [(message, .refused packet)] := by
      rw [dealings_append, undealt]
      rfl
    refine ⟨dealing.tallied.refuses refusal staying waited, dealing.peer, ?_, ?_, ?_, ?_⟩
    · simp only [World.answer_clientOut, World.log_clientOut, relayed_append]
      exact (List.append_nil _).trans dealing.relayed
    · rw [World.answer_trace, World.log_trace, dealing.trace, List.append_assoc, List.cons_append]
    · rw [arrivals_append, dealing.arrived]
      rfl
    · rcases isOpen with rfl | rfl
      · exact ⟨_, dealt⟩
      · exact ⟨_, dealt⟩
  settles events start w dealing := dealing.withState _ dealing.dealt
  passes stage events start w isOpen _ dealing := dealing.writes (dealing.opened isOpen).1
  remembers events start w longData marked dealing _ _ := dealing.withState marked dealing.dealt
  overlooks events start w longData error dealing _ _ := { dealing with dealt := trivial }

/-- The end of a connection is announced whatever is under way. -/
theorem wp_dispatch_quit {C : Proc.Contract awaits (Link σ)} {message : LogicalMessage}
    {post : Bool → Link σ → Link σ → Prop} {fail : Exn → Link σ → Link σ → Prop}
    {start : Link σ} (kind : (commandOf message).kind = .quit) :
    Proc.wp C (dispatchAuthenticatedCommand tools opts message) post fail start w =
      Proc.wp C (dispatchQuit message) post fail start w := by
  unfold dispatchAuthenticatedCommand
  cases parsed : parseLogicalCommand message with
  | error error => simp [commandOf, parsed, Except.toOption] at kind
  | ok command =>
      have same : command = commandOf message := by simp [commandOf, parsed, Except.toOption]
      subst same
      simp only [Proc.wp_bind, wp_sessionState]
      rw [if_neg fun guarded => guarded.2.1 kind]
      unfold routeCommand
      rw [kind]

/-- A dispatch that returns has dealt with its message. -/
theorem dispatch_deals {before : List (Event adapter)} {message : LogicalMessage} {start : Link σ}
    (dealing : Dealing before message .broken [] start w)
    (waited : silent message = false → Received w) :
    Proc.wp ((tallying tools opts server sends).contract .client)
      (dispatchAuthenticatedCommand tools opts message)
      (fun forwarded start w => ∃ events,
        Dealing before message (Course.reached forwarded) events start w)
      (fun _ start w => ∃ events, Dealing before message .broken events start w) start w := by
  have course : Course tools opts message ((tallying tools opts server sends).contract .client)
      (Dealing before message) := course_deals before message
  by_cases kind : (commandOf message).kind = .quit
  · rw [wp_dispatch_quit kind]
    simp only [dispatchQuit, Proc.wp_bind, wp_updateSession]
    have closing : Dealing before message .broken [] start (withState w (stateOf w).markClosing) :=
      dealing.withState _ trivial
    refine course.forwards Course.admits_fails (closing.writes rfl) ?_
    intro start w written
    exact ⟨_, written⟩
  · exact course.dispatches { dealing with dealt := ⟨rfl, waited, kind⟩ }

theorem completes_dealing {message : LogicalMessage} (tallied : Tallied w)
    (left : squares .client w) (waited : silent message = false → Received w) :
    (tallying tools opts server sends).Completes squares .client (clientTurn tools opts message) w
      (receive w message) := by
  have begun : Dealing w.trace message .broken [] w (receive w message) :=
    ⟨tallied.logs rfl, rfl, rfl, rfl, rfl, trivial⟩
  have ready : silent message = false → Received (receive w message) :=
    fun speaks => (sameTraffic_log rfl).received (waited speaks)
  unfold Promises.Completes clientTurn
  simp only [Proc.wp_handle, Proc.wp_bind, wp_record, Proc.wp_raised]
  apply Proc.wp_mono (dispatch_deals begun ready)
  · rintro forwarded start later ⟨events, dealing⟩
    obtain ⟨fate, dealt⟩ : ∃ fate, dealings events = [(message, fate)] := by
      have dealt := dealing.dealt
      cases forwarded with
      | true => exact dealt
      | false => exact dealt
    have balanced : arrivals w.trace = (dealings w.trace).map Prod.fst := left
    have trace : (later.log (.noted (.ended (.ok forwarded)))).trace =
        w.trace ++ ([.noted (.received message)] ++ events ++ [.noted (.ended (.ok forwarded))]) := by
      rw [World.log_trace, dealing.trace, List.append_assoc]
      rfl
    refine ⟨⟨dealing.tallied.logs rfl, dealing.peer, dealing.relayed⟩, ?_⟩
    change arrivals _ = (dealings _).map Prod.fst
    rw [trace]
    simp [balanced, dealing.arrived, dealt, arrivals, dealings]
  · rintro error start later ⟨events, dealing⟩
    exact ⟨dealing.tallied.logs rfl, dealing.peer, dealing.relayed⟩

/-! ## Every run -/

/-- A connection in the command phase on which nothing has been sent. -/
structure Unused (w : Link σ) : Prop where
  phase : w.session.phase = .commandResponse
  trace : w.trace = []
  out : w.clientOut = []
  answered : w.peer.answered = []
  read : w.peer.read = 0

theorem Unused.holds (unused : Unused w) :
    (tallying tools opts server sends).Holds squares (Config.idle w) := by
  have sent : w.peer.sent = [] := by rw [Peer.sent, unused.answered, List.flatten_nil]
  have none : MySql.unrelayed w = [] := by rw [MySql.unrelayed, sent, List.drop_nil]
  have tallied : Tallied w := by
    refine ⟨⟨?_, ?_, ?_⟩, unused.phase, ?_, ?_, ?_, ?_, ?_⟩
    · rw [none, unused.out, unused.trace, unused.answered]
      rfl
    · rw [unused.out, unused.trace]
      rfl
    · rw [unused.trace]
      intro refusal inside
      cases inside
    · rw [unused.answered]
      exact Nat.zero_le _
    · rw [unused.out]
      exact Nat.zero_le _
    · rw [unused.read]
      exact Nat.zero_le _
    · rw [none, sent, unused.out]
      rfl
    · rw [unused.trace]
      trivial
  refine ⟨tallied, ?_⟩
  intro side
  cases side with
  | client =>
      change arrivals w.trace = (dealings w.trace).map Prod.fst
      rw [unused.trace]
      rfl
  | backend =>
      change w.peer.read ≤ (relayed w.clientOut).length
      rw [unused.read]
      exact Nat.zero_le _

/--
In every run of a client that sends a command expecting a response only after
the response before is complete, the responses are accounted for; and between two
messages every message that has arrived has been forwarded or refused once.
-/
theorem responses_accounted
    (patient : ∀ w message, sends w message → silent message = false → Received w)
    (unused : Unused w) {c : Config awaits (Link σ) Exn Side}
    (run : (attended tools opts server sends).Run anyTurn (Config.idle w) c) :
    Accounted c.shared ∧ (c.task .client = .done () →
      arrivals c.shared.trace = (dealings c.shared.trace).map Prod.fst) := by
  have holds : (tallying tools opts server sends).Holds squares c := by
    refine Promises.holds_of_run_resting (fun side _ _ => squares_stable side) ?_ unused.holds run
    intro side s task s' tallied left started
    cases side with
    | client =>
        obtain ⟨message, sent, rfl, rfl⟩ := started
        exact completes_dealing tallied left (patient s message sent)
    | backend =>
        obtain ⟨packet, rest, isNext, rfl, rfl⟩ := started
        exact completes_relaying tallied left isNext
  refine ⟨holds.1.toAccounted, ?_⟩
  intro idle
  have left := holds.2 .client
  rwa [idle] at left

end Runs

/-! ## Long data that is refused -/

/-- A server that gives any answers. -/
def anyResponder : Responder Unit where
  replies _ message packets _ := packets = [] ↔ silent message = true
  once := id

/-- Long data for a statement that nobody has prepared. -/
def longDataChunk : LogicalMessage := messageOf [0x18, 42, 0, 0, 0, 0, 0]

theorem unused_quietLink : Unused quietLink := ⟨rfl, rfl, rfl, rfl, rfl⟩

/-- The chunk has been refused. -/
def chunkRefused : Link Unit :=
  ((clientTurn plainTools strictOptions longDataChunk).run
    (fun q s => (userAnswers true q, s)) (receive quietLink longDataChunk)).2

theorem rests_chunkRefused :
    (attended plainTools strictOptions anyResponder fun w _ => Received w).Rests quietLink
      chunkRefused := by
  have asked : Proc.asksOnly (fun q : Request => decide (q ≠ .prepareEvent))
      (fun q s => (userAnswers true q, s)) (clientTurn plainTools strictOptions longDataChunk)
      (receive quietLink longDataChunk) = true := by decide +kernel
  have returned : ((clientTurn plainTools strictOptions longDataChunk).run
      (fun q s => (userAnswers true q, s)) (receive quietLink longDataChunk)).1 = .ok () := by
    decide +kernel
  have ready : Received quietLink := by
    refine ⟨rfl, ?_⟩
    simp [inFlight, quietLink, commandPhase, written]
  have rests : (attended plainTools strictOptions anyResponder fun w _ => Received w).Rests
      quietLink quietLink := .refl quietLink
  have begun : (attended plainTools strictOptions anyResponder fun w _ => Received w).start .client
      quietLink (clientTurn plainTools strictOptions longDataChunk)
      (receive quietLink longDataChunk) := ⟨longDataChunk, ready, rfl, rfl⟩
  exact rests.turn (userAnswers true) answers_others begun asked returned

def statusPing : LogicalMessage := messageOf [0x0E]

def pingOk : Packet := packetOf 1 [0, 0, 0, 2, 0, 0, 0]

/-- The ping that comes next has been forwarded and answered. -/
def pingAnswered : Link Unit :=
  hear ((clientTurn plainTools strictOptions statusPing).run
    (fun q s => (userAnswers true q, s)) (receive chunkRefused statusPing)).2 [pingOk] ()

/-- The answer has been relayed. -/
def pingRelayed : Link Unit :=
  ((backendTurn pingOk).run (fun q s => (userAnswers true q, s)) (takeUp pingAnswered pingOk)).2

theorem rests_pingRelayed :
    (attended plainTools strictOptions anyResponder fun w _ => Received w).Rests quietLink
      pingRelayed := by
  have asked : Proc.asksOnly (fun q : Request => decide (q ≠ .prepareEvent))
      (fun q s => (userAnswers true q, s)) (clientTurn plainTools strictOptions statusPing)
      (receive chunkRefused statusPing) = true := by decide +kernel
  have returned : ((clientTurn plainTools strictOptions statusPing).run
      (fun q s => (userAnswers true q, s)) (receive chunkRefused statusPing)).1 = .ok () := by
    decide +kernel
  have ready : Received chunkRefused := by
    unfold Received
    decide +kernel
  have begun : (attended plainTools strictOptions anyResponder fun w _ => Received w).start .client
      chunkRefused (clientTurn plainTools strictOptions statusPing)
      (receive chunkRefused statusPing) := ⟨statusPing, ready, rfl, rfl⟩
  have forwarded := rests_chunkRefused.turn (userAnswers true) answers_others begun asked returned
  have isNext : inFlight ((clientTurn plainTools strictOptions statusPing).run
      (fun q s => (userAnswers true q, s)) (receive chunkRefused statusPing)).2 = [statusPing] := by
    decide +kernel
  have replies : anyResponder.replies () statusPing [pingOk] () := by
    change [pingOk] = [] ↔ silent statusPing = true
    decide +kernel
  have answered : (attended plainTools strictOptions anyResponder fun w _ => Received w).Rests
      quietLink pingAnswered := forwarded.environment (Attends.mk isNext replies)
  have asked' : Proc.asksOnly (fun q : Request => decide (q ≠ .prepareEvent))
      (fun q s => (userAnswers true q, s)) (backendTurn pingOk) (takeUp pingAnswered pingOk) =
      true := by decide +kernel
  have returned' : ((backendTurn pingOk).run (fun q s => (userAnswers true q, s))
      (takeUp pingAnswered pingOk)).1 = .ok () := by decide +kernel
  have unread' : unread pingAnswered = [pingOk] := by decide +kernel
  have begun' : (attended plainTools strictOptions anyResponder fun w _ => Received w).start
      .backend pingAnswered (backendTurn pingOk) (takeUp pingAnswered pingOk) :=
    ⟨pingOk, [], unread', rfl, rfl⟩
  exact answered.turn (userAnswers true) answers_others begun' asked' returned'

/--
A refused chunk is accounted for by one packet beyond the responses, a ping that
was forwarded by its response.
-/
theorem pingRelayed_accounted :
    Accounted pingRelayed ∧ (MySql.built pingRelayed.clientOut).length = 1 ∧
      relayed pingRelayed.clientOut = [pingOk.raw] := by
  obtain ⟨c, run, shared, -⟩ := rests_pingRelayed
  have accounted := (responses_accounted (fun _ _ received _ => received) unused_quietLink run).1
  rw [shared] at accounted
  exact ⟨accounted, by decide +kernel, by decide +kernel⟩

/-- A client that sends silent commands only does not always hear nothing. -/
theorem silent_answered :
    ¬ ∀ (opts : ProxyOptions) (server : Responder Unit)
      (sends : Link Unit → LogicalMessage → Prop) (w : Link Unit)
      (c : Config awaits (Link Unit) Exn Side), opts.failSafeMode ≠ .permissive →
      (∀ w message, sends w message → silent message = false → Received w) → Unused w →
      (attended plainTools opts server sends).Run anyTurn (Config.idle w) c →
      (∀ message ∈ arrivals c.shared.trace, silent message = true) → c.shared.clientOut = [] := by
  intro quiet
  obtain ⟨c, run, shared, -⟩ := rests_chunkRefused
  have nothing := quiet strictOptions anyResponder (fun w _ => Received w) quietLink c (by decide)
    (fun _ _ received _ => received) unused_quietLink run
  rw [shared] at nothing
  have arrived : arrivals chunkRefused.trace = [longDataChunk] := by decide +kernel
  have heard : chunkRefused.clientOut ≠ [] := by decide +kernel
  refine heard (nothing ?_)
  intro message inside
  rw [arrived, List.mem_singleton] at inside
  rw [inside]
  decide +kernel

end SqlSafetyProxy.MySql
