import SqlSafetyProxy.MySql.Conveyance

/-!
# What the client is written

Whatever the two tasks do meanwhile, each write to the client is a whole packet:
the backend's packets in order, none left out and unchanged, and between them
error packets of the proxy.
-/

namespace SqlSafetyProxy.MySql

open SqlSafetyProxy.Sql SqlSafetyProxy.Policy SqlSafetyProxy.Wire SqlSafetyProxy.Runtime
open SqlSafetyProxy.Coroutine

/-! ## Writes to the client -/

def relayedWrites : List ClientWrite → List Bytes
  | [] => []
  | .relayed raw :: rest => raw :: relayedWrites rest
  | .built _ :: rest => relayedWrites rest

def builtWrites : List ClientWrite → List Bytes
  | [] => []
  | .relayed _ :: rest => builtWrites rest
  | .built raw :: rest => raw :: builtWrites rest

@[simp] theorem relayedWrites_append (first second : List ClientWrite) :
    relayedWrites (first ++ second) = relayedWrites first ++ relayedWrites second := by
  induction first with
  | nil => rfl
  | cons write rest ih => cases write <;> simp [relayedWrites, ih]

@[simp] theorem builtWrites_append (first second : List ClientWrite) :
    builtWrites (first ++ second) = builtWrites first ++ builtWrites second := by
  induction first with
  | nil => rfl
  | cons write rest ih => cases write <;> simp [builtWrites, ih]

/-- An ERR packet of the proxy. -/
def IsErrorPacket (raw : Bytes) : Prop :=
  ∃ text sequenceId errorCode sqlState,
    buildErrorPacket text sequenceId errorCode sqlState = .ok raw

/-- What the proxy builds is a whole packet that says it is an error. -/
theorem IsErrorPacket.packet {raw : Bytes} (isError : IsErrorPacket raw) :
    ∃ packet, WellFramed packet ∧ packet.raw = raw ∧ packet.payload.head? = some 0xFF := by
  obtain ⟨text, sequenceId, errorCode, sqlState, built⟩ := isError
  unfold buildErrorPacket at built
  split at built
  · cases built
  · unfold buildPacket at built
    split at built
    · cases built
    · next fits =>
      cases built
      exact ⟨packetOf sequenceId _, ⟨rfl, Nat.not_lt.mp fits⟩, rfl, rfl⟩

/-! ## Promises -/

/-- What of the backend's packets has been relayed, and what was built. -/
structure RelaysAll (packets : List Packet) (rest : Bytes) (w : LinkWorld) : Prop where
  framed : ∀ packet ∈ packets, WellFramed packet
  read : w.peer.backendRead = wireOf packets ++ rest
  relayed : relayedWrites w.clientOut = packets.map Packet.raw
  built : ∀ raw ∈ builtWrites w.clientOut, IsErrorPacket raw

def Relaying (w : LinkWorld) : Prop := ∃ packets rest, RelaysAll packets rest w

/-- The client task writes nothing but errors to the client. -/
structure Refuses (start w : LinkWorld) : Prop where
  backendRead : w.peer.backendRead = start.peer.backendRead
  backendFramer : w.session.backendFramer = start.session.backendFramer
  relayed : relayedWrites w.clientOut = relayedWrites start.clientOut
  built : ∃ added, builtWrites w.clientOut = builtWrites start.clientOut ++ added ∧
    ∀ raw ∈ added, IsErrorPacket raw

section Refuses

variable {start w w' : LinkWorld} {packets : List Packet} {rest : Bytes}

theorem Refuses.refl (w : LinkWorld) : Refuses w w :=
  ⟨rfl, rfl, rfl, [], (List.append_nil _).symm, by simp⟩

theorem Refuses.trans {w₁ w₂ w₃ : LinkWorld} (first : Refuses w₁ w₂) (second : Refuses w₂ w₃) :
    Refuses w₁ w₃ := by
  obtain ⟨early, same, areErrors⟩ := first.built
  obtain ⟨late, same', areErrors'⟩ := second.built
  refine ⟨second.backendRead.trans first.backendRead,
    second.backendFramer.trans first.backendFramer, second.relayed.trans first.relayed,
    early ++ late, ?_, ?_⟩
  · rw [same', same, List.append_assoc]
  · intro raw inside
    rcases List.mem_append.mp inside with before | after
    · exact areErrors raw before
    · exact areErrors' raw after

theorem Refuses.stays (refuses : Refuses start w) (peer : w'.peer = w.peer)
    (framer : w'.session.backendFramer = w.session.backendFramer)
    (clientOut : w'.clientOut = w.clientOut) : Refuses start w' := by
  refine refuses.trans ⟨?_, framer, ?_, [], ?_, by simp⟩
  · rw [peer]
  · rw [clientOut]
  · rw [clientOut, List.append_nil]

theorem Refuses.answers (refuses : Refuses start w) {raw : Bytes} (isError : IsErrorPacket raw) :
    Refuses start (w.answer (.built raw)) := by
  refine refuses.trans ⟨rfl, rfl, ?_, [raw], ?_, ?_⟩
  · simp [relayedWrites]
  · simp [builtWrites]
  · intro other inside
    rw [List.mem_singleton.mp inside]
    exact isError

theorem RelaysAll.refuses (relays : RelaysAll packets rest start) (refuses : Refuses start w) :
    RelaysAll packets rest w := by
  obtain ⟨added, same, areErrors⟩ := refuses.built
  refine ⟨relays.framed, ?_, ?_, ?_⟩
  · rw [refuses.backendRead]
    exact relays.read
  · rw [refuses.relayed]
    exact relays.relayed
  · intro raw inside
    rw [same] at inside
    rcases List.mem_append.mp inside with before | after
    · exact relays.built raw before
    · exact areErrors raw after

end Refuses

/-- What a task counts on in the other one. -/
def Relies : Side → LinkWorld → LinkWorld → Prop
  | .client, _, _ => True
  | .backend, w, w' => Refuses w w'

theorem relies_refl (side : Side) (w : LinkWorld) : Relies side w w := by
  cases side with
  | client => trivial
  | backend => exact Refuses.refl w

theorem relies_trans (side : Side) (w₁ w₂ w₃ : LinkWorld) (first : Relies side w₁ w₂)
    (second : Relies side w₂ w₃) : Relies side w₁ w₃ := by
  cases side with
  | client => trivial
  | backend => exact Refuses.trans first second

/-- The promises of the two tasks. -/
def answering (tools : Tools) (opts : ProxyOptions) :
    Promises (handleMysqlConnection tools opts) anyTurn where
  invariant := Relaying
  guarantee
    | .client, start, w => Refuses start w
    | .backend, _, w => Relaying w
  rely := Relies
  rely_refl := relies_refl
  rely_trans := relies_trans
  environment_invariant _ _ _ moved _ := moved.elim
  environment_relied _ _ _ _ _ moved := moved.elim
  guarantee_invariant side _ _ relaying guaranteed _ := by
    cases side with
    | client =>
        obtain ⟨packets, rest, relays⟩ := relaying
        exact ⟨packets, rest, relays.refuses guaranteed⟩
    | backend => exact guaranteed
  guarantee_relied side side' _ _ other _ _ guaranteed := by
    cases side with
    | client => trivial
    | backend =>
        cases side' with
        | client => exact guaranteed
        | backend => exact absurd rfl other

/-! ## The client task -/

section Client

open Proc

variable {tools : Tools} {opts : ProxyOptions} {message : LogicalMessage} {packet : Packet}

abbrev refusing (tools : Tools) (opts : ProxyOptions) : Proc.Contract awaits LinkWorld :=
  (answering tools opts).contract .client

theorem renews_refuses : Renews (refusing tools opts) Refuses :=
  ⟨fun _ _ _ refuses => refuses, fun _ _ _ _ w' _ _ => .refl w'⟩

/-- A dispatch answers with errors only. -/
theorem course_refuses :
    Course tools opts message (refusing tools opts) (fun _ _ start w => Refuses start w) where
  records _ _ _ _ _ _ _ held := held.stays rfl rfl rfl
  pauses _ _ _ _ _ _ held := held
  resumes _ _ _ _ _ _ w' _ _ _ := .refl w'
  prepared _ _ _ relied := relied.2.2 rfl
  loses _ _ _ _ w' _ _ _ _ := (Refuses.refl w').stays rfl rfl rfl
  breaks _ _ _ _ _ _ held _ := held.stays rfl rfl rfl
  opens _ _ _ held _ := held.stays rfl rfl rfl
  resolves _ _ _ _ _ held _ := held.stays rfl rfl rfl
  abandons _ _ _ held := held
  queries _ _ _ held _ := held.stays rfl rfl rfl
  executes _ _ _ held _ := held.stays rfl rfl rfl
  forgets _ _ held := held.stays rfl rfl rfl
  approves _ _ _ held _ := held.stays rfl rfl rfl
  registers _ _ _ _ _ _ held _ _ := held.stays rfl rfl rfl
  misses _ _ _ _ _ _ held _ _ := held
  refuses _ _ _ w packet _ held refusal := by
    obtain ⟨text, errorCode, sqlState, built⟩ := refusal
    have logged : Refuses _ (w.log (refusalOf message packet)) := held.stays rfl rfl rfl
    exact logged.answers ⟨_, _, _, _, built⟩
  settles _ _ _ held := held.stays rfl rfl rfl
  passes _ _ _ _ _ _ held := held.stays rfl rfl rfl
  remembers _ _ _ _ _ held _ _ := held.stays rfl rfl rfl
  overlooks _ _ _ _ _ held _ _ := held

theorem maintains_relay (change : RelayState → RelayState)
    (framer : ∀ state, (change state).backendFramer = state.backendFramer) :
    Maintains (refusing tools opts) Refuses (changeRelay change) :=
  maintains_update fun _ _ refuses => refuses.stays rfl (framer _) rfl

theorem maintains_forwarded (source : Source) (raw : Bytes) :
    Maintains (refusing tools opts) Refuses (writeBackend source raw) :=
  maintains_update fun _ _ refuses => refuses.stays rfl rfl rfl

theorem refuses_refuseTls (packet : Packet) :
    Maintains (refusing tools opts) Refuses (refuseTls packet) := by
  intro start w refuses
  unfold refuseTls
  rw [Proc.wp_bind, wp_session, Proc.wp_bind]
  refine Proc.wp_ofExcept ?_ fun _ _ => refuses
  intro answer built
  have answered := refuses.answers ⟨_, _, _, _, built⟩
  rw [Proc.wp_bind, wp_writeClient]
  refine maintains_bind (maintains_drain renews_refuses) (fun _ => ?_) start _ answered
  exact maintains_update fun _ _ refuses => refuses.stays rfl rfl rfl

theorem refuses_handshakeResponse (packet : Packet) :
    Maintains (refusing tools opts) Refuses (processHandshakeResponse packet) := by
  refine maintains_bind (maintains_ofExcept _) fun response =>
    maintains_bind maintains_session fun _ => maintains_bind (maintains_ofExcept _) fun _ =>
      maintains_bind (maintains_relay _ fun _ => rfl) fun _ => ?_
  unfold answerHandshake
  split
  · exact refuses_refuseTls packet
  · exact maintains_bind (maintains_relay _ fun _ => rfl) fun _ =>
      maintains_bind (maintains_forwarded _ _) fun _ => maintains_drain renews_refuses

theorem refuses_dispatch (message : LogicalMessage) :
    Maintains (refusing tools opts) Refuses (dispatchAuthenticatedCommand tools opts message) := by
  intro start w refuses
  refine Proc.wp_mono (course_refuses.dispatches refuses) ?_ ?_
  · rintro _ start w ⟨_, held⟩
    exact held
  · rintro _ start w ⟨_, held⟩
    exact held

theorem refuses_clientPacket (packet : Packet) :
    Maintains (refusing tools opts) Refuses (processClientPacket tools opts packet) := by
  refine maintains_bind maintains_session fun state => ?_
  split
  · exact maintains_raised _
  · split
    · exact refuses_handshakeResponse packet
    · split
      · exact maintains_bind (maintains_forwarded _ _) fun _ => maintains_drain renews_refuses
      · exact maintains_raised _
      · refine maintains_bind (maintains_relay _ fun _ => rfl) fun _ =>
          maintains_bind (maintains_ofExcept _) fun message => ?_
        split
        · exact maintains_pure ()
        · exact maintains_bind (refuses_dispatch _) fun _ => maintains_pure ()

theorem refuses_pumpMysqlClient (chunk : Bytes) :
    Maintains (refusing tools opts) Refuses (pumpMysqlClient tools opts chunk) :=
  maintains_bind (maintains_bind maintains_session fun _ =>
    maintains_bind (maintains_ofExcept _) fun _ =>
      maintains_bind (maintains_relay _ fun _ => rfl) fun _ =>
        maintains_bind (maintains_forEach refuses_clientPacket _) fun _ => maintains_pure _)
    fun _ => maintains_pure ()

end Client

/-! ## The backend task -/

/-- Between two packets of the backend. -/
structure Relayed (framer : PacketFramer) (packets : List Packet) (rest : Bytes) (w : LinkWorld) :
    Prop where
  relays : RelaysAll packets rest w
  framer : w.session.backendFramer = framer

section Backend

open Proc

variable {tools : Tools} {opts : ProxyOptions} {framer : PacketFramer} {packets : List Packet}
  {rest : Bytes} {packet : Packet} {start w w' : LinkWorld}

abbrev relaying (tools : Tools) (opts : ProxyOptions) : Proc.Contract awaits LinkWorld :=
  (answering tools opts).contract .backend

theorem Relayed.refuses (relayed : Relayed framer packets rest w) (refuses : Refuses w w') :
    Relayed framer packets rest w' :=
  ⟨relayed.relays.refuses refuses, refuses.backendFramer.trans relayed.framer⟩

/-- A change of what has neither to do with the backend's bytes nor with the writes. -/
theorem Relayed.stays (relayed : Relayed framer packets rest w) (peer : w'.peer = w.peer)
    (same : w'.session.backendFramer = w.session.backendFramer)
    (clientOut : w'.clientOut = w.clientOut) : Relayed framer packets rest w' :=
  relayed.refuses ((Refuses.refl w).stays peer same clientOut)

theorem Relayed.promised (relayed : Relayed framer packets rest w) : Relaying w :=
  ⟨packets, rest, relayed.relays⟩

/-- The next packet is relayed. -/
theorem Relayed.answer (relayed : Relayed framer packets (packet.raw ++ rest) w)
    (framed : WellFramed packet) :
    Relayed framer (packets ++ [packet]) rest (w.answer (.relayed packet.raw)) := by
  obtain ⟨⟨areFramed, read, soFar, built⟩, same⟩ := relayed
  refine ⟨⟨?_, ?_, ?_, ?_⟩, same⟩
  · intro other inside
    rcases List.mem_append.mp inside with early | last
    · exact areFramed other early
    · rw [List.mem_singleton.mp last]
      exact framed
  · rw [World.answer_peer, read]
    simp
  · rw [World.answer_clientOut, relayedWrites_append, soFar, List.map_append]
    rfl
  · rw [World.answer_clientOut, builtWrites_append]
    intro raw inside
    exact built raw (by simpa [builtWrites] using inside)

theorem guards_relayed : Guards (relaying tools opts) (Relayed framer packets rest) :=
  ⟨fun _ _ _ relayed => relayed.promised, fun _ _ _ _ relayed relied => relayed.refuses relied.2.1⟩

theorem session_relayed : IgnoresSession fun _ w => Relayed framer packets rest w :=
  fun _ _ _ relayed => relayed.stays rfl rfl rfl

theorem keeps_drained : Keeps (relaying tools opts) (Relayed framer packets rest) drain :=
  maintains_drain ⟨guards_relayed.pauses, fun q _ => guards_relayed.resumes q⟩

/-- A task that keeps what has been relayed keeps the promise however it ends. -/
theorem wp_relayed {α : Type} {task : Handler adapter Sockets α}
    (keeps : Keeps (relaying tools opts) (Relayed framer packets rest) task)
    (relayed : Relayed framer packets rest w) :
    Proc.wp (relaying tools opts) task (fun _ _ w => Relayed framer packets rest w)
      (fun _ _ w => Relaying w) start w :=
  Proc.wp_mono (keeps start w relayed) (fun _ _ _ kept => kept) fun _ _ _ kept => kept.promised

theorem keeps_accepted (payload : Bytes) :
    Keeps (relaying tools opts) (Relayed framer packets rest) (markAuthenticated payload) := by
  refine keeps_bind maintains_session fun _ => keeps_bind (session_relayed.changeSession _) fun _ =>
    keeps_bind maintains_session fun _ => ?_
  split
  · exact keeps_raised _
  · exact keeps_update fun _ relayed => relayed.stays rfl rfl rfl

/-- A packet is relayed unless handling it raises. -/
theorem wp_relayedPacket (relayed : Relayed framer packets (packet.raw ++ rest) w)
    (framed : WellFramed packet) :
    Proc.wp (relaying tools opts) (processBackendPacket packet)
      (fun _ _ w => Relayed framer (packets ++ [packet]) rest w) (fun _ _ w => Relaying w)
      start w := by
  unfold processBackendPacket
  rw [Proc.wp_bind, wp_session]
  split
  · unfold routeBackendPacket
    rw [Proc.wp_bind, wp_session]
    cases w.session.phase with
    | closed => exact relayed.promised
    | authentication =>
        unfold routeAuthentication
        rw [Proc.wp_bind, wp_session, Proc.wp_bind]
        refine Proc.wp_ofExcept ?_ fun _ _ => relayed.promised
        intro accepted _
        have accepts : Relayed framer packets (packet.raw ++ rest)
            (w.withSession { w.session with auth := accepted.2 }) := relayed.stays rfl rfl rfl
        rw [Proc.wp_bind, Proc.wp_update, Proc.wp_bind, wp_writeClient]
        refine wp_relayed (keeps_bind keeps_drained fun _ => ?_) (accepts.answer framed)
        cases accepted.1 with
        | ok => exact keeps_accepted _
        | error => exact keeps_update fun _ relayed => relayed.stays rfl rfl rfl
        | _ => exact keeps_pure ()
    | commandResponse =>
        unfold routeResponse
        rw [Proc.wp_bind, wp_session, Proc.wp_bind, wp_updateSession, Proc.wp_bind]
        have tracks : Relayed framer packets (packet.raw ++ rest)
            (withState w (trackResponse w.session.auth.capabilityFlags packet.payload
              w.session.session).2) := relayed.stays rfl rfl rfl
        refine Proc.wp_ofExcept ?_ fun _ _ => tracks.promised
        intro next _
        rw [Proc.wp_bind, wp_writeClient]
        exact wp_relayed (keeps_bind keeps_drained fun _ => session_relayed.followUp next)
          (tracks.answer framed)
  · rw [Proc.wp_bind, wp_writeClient]
    refine wp_relayed (keeps_bind keeps_drained fun _ => keeps_update ?_) (relayed.answer framed)
    exact fun _ greeted => greeted.stays rfl rfl rfl

theorem wp_relayedPackets {pending : List Packet} {buffer : Bytes}
    (relayed : Relayed framer packets (wireOf pending ++ buffer) w)
    (framed : ∀ packet ∈ pending, WellFramed packet) :
    Proc.wp (relaying tools opts) (forEach processBackendPacket pending)
      (fun _ _ w => Relayed framer (packets ++ pending) buffer w) (fun _ _ w => Relaying w)
      start w := by
  induction pending generalizing packets start w with
  | nil =>
      rw [List.append_nil]
      exact relayed
  | cons packet pending ih =>
      rw [wireOf_cons, List.append_assoc] at relayed
      rw [forEach, Proc.wp_bind]
      refine Proc.wp_mono (wp_relayedPacket relayed (framed packet List.mem_cons_self)) ?_
        fun _ _ _ promised => promised
      intro _ start w first
      rw [← List.singleton_append, ← List.append_assoc]
      exact ih first fun other inside => framed other (List.mem_cons_of_mem _ inside)

/-- Between two reads every packet has been relayed that is complete. -/
structure Caught (w : LinkWorld) : Prop where
  relays : ∃ packets, RelaysAll packets w.session.backendFramer.buffer w
  unframed : takePacket w.session.backendFramer.maxPacketBytes w.session.backendFramer.buffer =
    .ok none

theorem Caught.refuses (caught : Caught w) (refuses : Refuses w w') : Caught w' := by
  obtain ⟨packets, relays⟩ := caught.relays
  refine ⟨⟨packets, ?_⟩, ?_⟩
  · rw [refuses.backendFramer]
    exact relays.refuses refuses
  · rw [refuses.backendFramer]
    exact caught.unframed

theorem RelaysAll.reading {buffer : Bytes} (relays : RelaysAll packets buffer w) (chunk : Bytes) :
    RelaysAll packets (buffer ++ chunk) (readBackend w chunk) := by
  refine ⟨relays.framed, ?_, relays.relayed, relays.built⟩
  change w.peer.backendRead ++ chunk = _
  rw [relays.read, List.append_assoc]

/-- A turn of the backend task. -/
theorem wp_pumpMysqlBackend (caught : Caught w) (chunk : Bytes) :
    Proc.wp (relaying tools opts) (pumpMysqlBackend chunk)
      (fun _ _ w => Relaying w ∧ Caught w) (fun _ _ w => Relaying w) start
      (readBackend w chunk) := by
  obtain ⟨packets, relays⟩ := caught.relays
  have arrived := relays.reading chunk
  unfold pumpMysqlBackend processBackendChunk
  simp only [Proc.wp_bind]
  refine Proc.wp_ofExcept ?_ fun _ _ => ⟨packets, _, arrived⟩
  rintro ⟨pending, framer⟩ pushed
  obtain ⟨split, framed, unframed⟩ := PacketFramer.push_ok pushed
  change w.session.backendFramer.buffer ++ chunk = wireOf pending ++ framer.buffer at split
  rw [split] at arrived
  have cut : Relayed framer packets (wireOf pending ++ framer.buffer)
      ((readBackend w chunk).withSession { w.session with backendFramer := framer }) :=
    ⟨⟨arrived.framed, arrived.read, arrived.relayed, arrived.built⟩, rfl⟩
  rw [changeRelay, Proc.wp_update]
  refine Proc.wp_mono (wp_relayedPackets cut framed) ?_ fun _ _ _ promised => promised
  intro _ _ w' relayed
  refine ⟨relayed.promised, ⟨packets ++ pending, ?_⟩, ?_⟩
  · rw [relayed.framer]
    exact relayed.relays
  · rw [relayed.framer]
    exact unframed

end Backend

/-! ## Every run -/

theorem mem_writes {write : ClientWrite} {writes : List ClientWrite} (inside : write ∈ writes) :
    write.raw ∈ relayedWrites writes ∨ write.raw ∈ builtWrites writes := by
  induction writes with
  | nil => cases inside
  | cons first rest ih =>
      rcases List.mem_cons.mp inside with rfl | later
      · cases write with
        | relayed raw => exact .inl List.mem_cons_self
        | built raw => exact .inr List.mem_cons_self
      · cases first with
        | relayed raw => exact (ih later).imp_left (List.mem_cons_of_mem _)
        | built raw => exact (ih later).imp_right (List.mem_cons_of_mem _)

/-- Each write is a packet, so no packet is interrupted by another. -/
theorem RelaysAll.whole {packets : List Packet} {rest : Bytes} {w : LinkWorld}
    (relays : RelaysAll packets rest w) {write : ClientWrite} (inside : write ∈ w.clientOut) :
    ∃ packet, WellFramed packet ∧ packet.raw = write.raw := by
  rcases mem_writes inside with relayed | built
  · rw [relays.relayed] at relayed
    obtain ⟨packet, present, same⟩ := List.mem_map.mp relayed
    exact ⟨packet, relays.framed packet present, same⟩
  · obtain ⟨packet, framed, same, -⟩ := (relays.built _ built).packet
    exact ⟨packet, framed, same⟩

/-- What each task leaves behind. -/
def catchesUp : Side → LinkWorld → Prop
  | .client, _ => True
  | .backend, w => Caught w

section Runs

variable {tools : Tools} {opts : ProxyOptions} {w w' : LinkWorld}

theorem catchesUp_stable (side : Side) (w w' : LinkWorld) (rests : catchesUp side w)
    (relied : (answering tools opts).rely side w w') : catchesUp side w' := by
  cases side with
  | client => trivial
  | backend => exact Caught.refuses rests relied

theorem completes_answering (side : Side) (w : LinkWorld)
    (task : Proc awaits LinkWorld Exn Unit) (w' : LinkWorld)
    (_ : (answering tools opts).invariant w) (rests : catchesUp side w)
    (started : (handleMysqlConnection tools opts).start side w task w') :
    (answering tools opts).Completes catchesUp side task w w' := by
  cases side with
  | client =>
      obtain ⟨chunk, -, -, rfl, rfl⟩ := started
      have begun : Refuses w (readClient w chunk) :=
        ⟨rfl, rfl, rfl, [], (List.append_nil _).symm, by simp⟩
      exact Proc.wp_mono (refuses_pumpMysqlClient chunk w _ begun)
        (fun _ _ _ refuses => ⟨refuses, trivial⟩) fun _ _ _ refuses => refuses
  | backend =>
      obtain ⟨chunk, -, rfl, rfl⟩ := started
      exact wp_pumpMysqlBackend rests chunk

/--
In every state of every connection the backend's bytes are packets and a rest,
and the client was written exactly these packets, in order and unchanged, with
error packets of the proxy between them; each write is a whole packet.  Between
two reads the rest is the beginning of the next packet.
-/
theorem connection_answers {database : String}
    {maxPacketBytes maxSessionItems maxSessionStateBytes : Nat} {enough : 4 ≤ maxPacketBytes}
    {c : Config awaits LinkWorld Exn Side}
    (run : (handleMysqlConnection tools opts).Run anyTurn (Config.idle (newLink
      (newRelay database maxPacketBytes maxSessionItems maxSessionStateBytes enough))) c) :
    ∃ packets rest, RelaysAll packets rest c.shared ∧
      (∀ write ∈ c.shared.clientOut, ∃ packet, WellFramed packet ∧ packet.raw = write.raw) ∧
      (c.task .backend = .done () →
        takePacket c.shared.session.backendFramer.maxPacketBytes rest = .ok none) := by
  have caught : Caught (newLink (newRelay database maxPacketBytes maxSessionItems
      maxSessionStateBytes enough)) :=
    ⟨⟨[], by rintro _ ⟨⟩, rfl, rfl, by rintro _ ⟨⟩⟩, takePacket_nil _⟩
  have initial : (answering tools opts).Holds catchesUp (Config.idle (newLink (newRelay database
      maxPacketBytes maxSessionItems maxSessionStateBytes enough))) := by
    refine ⟨?_, ?_⟩
    · obtain ⟨packets, relays⟩ := caught.relays
      exact ⟨packets, _, relays⟩
    · intro side
      cases side with
      | client => trivial
      | backend => exact caught
  have holds := Promises.holds_of_run_resting catchesUp_stable completes_answering initial run
  by_cases idle : c.task .backend = .done ()
  · have rests := holds.2 .backend
    rw [idle] at rests
    obtain ⟨packets, relays⟩ := Caught.relays rests
    exact ⟨packets, _, relays, fun _ => relays.whole, fun _ => Caught.unframed rests⟩
  · obtain ⟨packets, rest, relays⟩ := holds.1
    exact ⟨packets, rest, relays, fun _ => relays.whole, fun done => absurd done idle⟩

end Runs

/-- A greeting and an acceptance have been relayed, and nothing is left over. -/
theorem shopPinged_answers :
    shopPinged.clientOut = [.relayed greeting.raw, .relayed acceptance.raw] ∧
      ∃ packets rest, RelaysAll packets rest shopPinged ∧
        takePacket shopPinged.session.backendFramer.maxPacketBytes rest = .ok none := by
  obtain ⟨c, run, shared, idle⟩ := rests_shopPinged
  obtain ⟨packets, rest, relays, -, unframed⟩ := connection_answers run
  have left := unframed (idle .backend)
  rw [shared] at relays left
  exact ⟨by decide +kernel, packets, rest, relays, left⟩

end SqlSafetyProxy.MySql
