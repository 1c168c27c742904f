import SqlSafetyProxy.MySql.Lockstep
import SqlSafetyProxy.MySql.Opening

/-!
# The default schema

The session remembers the database that the backend resolves names in.  It has
the name from the handshake and takes a new one from a `COM_INIT_DB` that the
backend acknowledges, and the two agree as long as nothing else selects a
database and the backend's responses can be followed.
-/

namespace SqlSafetyProxy.MySql

open SqlSafetyProxy.Policy SqlSafetyProxy.Wire SqlSafetyProxy.Runtime SqlSafetyProxy.Coroutine
open SqlSafetyProxy.Collections

variable {σ : Type} {flags : Nat}

/-! ## The database of a session -/

/-- The database of the session and the one it has asked for. -/
def SessionState.naming (state : SessionState) : String × Option String :=
  (state.database, state.pendingDatabase)

section Naming

variable {state state' : SessionState} {payload : Bytes}

theorem naming_of_aside (same : state'.aside = state.aside) : state'.naming = state.naming := by
  have kept := congrArg SessionState.naming same
  exact kept

theorem naming_finishStatementPrepareResponse
    (done : state.finishStatementPrepareResponse = .ok state') : state'.naming = state.naming := by
  unfold SessionState.finishStatementPrepareResponse at done
  split at done
  · cases done
  · split at done
    · cases done
    · cases done
      rfl

/-- What is done once a packet has been relayed is no concern of the database. -/
theorem naming_due {next : FollowUp} (due : next.Due state state') :
    state'.naming = state.naming := by
  cases next with
  | nothing => rw [show state' = state from due]
  | failPrepare =>
      rw [show state' = state.failStatementPrepare from due]
      rfl
  | finishPrepare => exact naming_finishStatementPrepareResponse due

theorem naming_completePing : (state.completePing payload).2.naming = state.naming := by
  unfold SessionState.completePing
  split
  · rfl
  · cases payload with
    | nil => rfl
    | cons marker rest =>
        dsimp only
        split
        · rfl
        · split <;> rfl

theorem naming_resetPreparedStatement {statementId : Nat}
    (done : state.resetPreparedStatement statementId = .ok state') :
    state'.naming = state.naming := by
  obtain ⟨statement, -, rest⟩ := bind_ok done
  cases rest
  rfl

theorem naming_completeStatementReset :
    (state.completeStatementReset payload).2.naming = state.naming := by
  unfold SessionState.completeStatementReset
  split
  · rfl
  · cases payload with
    | nil => rfl
    | cons marker rest =>
        dsimp only
        split
        · split
          · next reset done =>
            have kept := naming_resetPreparedStatement done
            exact kept
          · rfl
        · split <;> rfl

theorem naming_trackPrepareMetadata :
    (trackPrepareMetadata flags payload state).2.naming = state.naming := by
  unfold trackPrepareMetadata
  split
  · rfl
  · split
    · rfl
    · rfl
    · next last consumed done =>
      unfold SessionState.consumeStatementPrepareMetadata at done
      split at done
      · cases done
      · split at done
        · cases done
        · split at done
          · cases done
          · split at done
            · cases done
            · obtain ⟨-, -, rest⟩ := bind_ok done
              cases rest
              rfl

theorem naming_trackPrepareOk : (trackPrepareOk flags payload state).2.naming = state.naming := by
  unfold trackPrepareOk
  split
  · split
    · rfl
    · next accepted done =>
      obtain ⟨prepared, -, rest⟩ := bind_ok done
      unfold SessionState.acceptStatementPrepareOk at rest
      split at rest
      · cases rest
      · split at rest
        · cases rest
        · obtain ⟨-, -, rest⟩ := bind_ok rest
          cases rest
          rfl
  · split
    · rfl
    · rfl

/-- A packet that answers no change of the database leaves it as it is. -/
theorem naming_trackResponse (none : state.pendingDatabase = none) :
    (trackResponse flags payload state).2.naming = state.naming := by
  unfold trackResponse
  split
  · exact (naming_of_aside aside_acknowledge).trans naming_completePing
  · split
    · exact (naming_of_aside aside_acknowledge).trans naming_completeStatementReset
    · rw [if_neg (by rw [none]; decide)]
      split
      · split
        · exact naming_trackPrepareMetadata
        · exact naming_trackPrepareOk
      · split
        · have frame : (state.acceptCommandResponsePacket payload flags).2.naming = state.naming :=
            naming_of_aside aside_acceptCommandResponsePacket
          split
          · next same =>
            rw [same] at frame
            exact frame
          · next same =>
            rw [same] at frame
            exact frame
        · rfl

/-- Only the acknowledgment of a change of the database is awaited. -/
structure AwaitsDatabase (state : SessionState) (database : String) : Prop where
  pending : state.pendingDatabase = some database
  ping : state.pendingPing = false
  reset : state.pendingStatementResetId = none

theorem AwaitsDatabase.busy {database : String} (awaits : AwaitsDatabase state database) :
    state.hasPendingLifecycleOperation = true := by
  simp [SessionState.hasPendingLifecycleOperation, awaits.pending]

theorem AwaitsDatabase.tracks {database : String} (awaits : AwaitsDatabase state database) :
    trackResponse flags payload state =
      acknowledge flags payload (state.completeDatabaseChange payload) := by
  simp [trackResponse, awaits.ping, awaits.reset, awaits.pending]

/-- The acknowledgment commits the name, an error forgets it. -/
theorem AwaitsDatabase.committed {database : String} (awaits : AwaitsDatabase state database) :
    (payload.head? = some 0x00 →
      (trackResponse flags payload state).2.naming = (database, none)) ∧
    (payload.head? = some 0xFF →
      (trackResponse flags payload state).2.naming = (state.database, none)) := by
  rw [awaits.tracks]
  have same : (acknowledge flags payload (state.completeDatabaseChange payload)).2.naming =
      (state.completeDatabaseChange payload).2.naming := naming_of_aside aside_acknowledge
  rw [same, SessionState.completeDatabaseChange, awaits.pending]
  cases payload with
  | nil => simp
  | cons marker rest =>
      constructor
      · intro head
        cases head
        rfl
      · intro head
        cases head
        rfl

end Naming

/-! ## Servers with a default schema -/

/-- The answer is an OK. -/
def Succeeds (packets : List Packet) : Prop :=
  ∃ packet rest, packets = packet :: rest ∧ packet.payload.head? = some 0x00

/-- The default schema that a command selects when it succeeds. -/
def selected (uses : Bytes → Option Bytes) (command : Command) : Option Bytes :=
  match command.kind with
  | .initDb => some command.payload
  | .query => uses command.payload
  | _ => none

/--
A server with a default schema: it is the one that the client asks for when the
session is opened, and then selected by database changes and `USE` statements.
-/
structure SchemaServer (σ : Type) where
  opens : HandshakeResponse → σ → Prop
  replies : σ → LogicalMessage → List Packet → σ → Prop
  schema : σ → Bytes
  /-- The name in a query that consists of a `USE` statement. -/
  uses : Bytes → Option Bytes
  begins : ∀ {response state name}, opens response state → response.database = some name →
    name ≠ "" → schema state = encodeUtf8 name
  switches : ∀ {state message packets later name}, replies state message packets later →
    Succeeds packets → selected uses (commandOf message) = some name → schema later = name
  keeps : ∀ {state message packets later}, replies state message packets later →
    (Succeeds packets → selected uses (commandOf message) = none) → schema later = schema state

/-- A response that has the form the protocol gives it, in packets of less than 16 MiB. -/
structure Orderly (flags : Nat) (message : LogicalMessage) (packets : List Packet) : Prop where
  responds : Responds flags (commandOf message).kind (packets.map Packet.payload)
  short : ∀ packet ∈ packets, packet.payload.length < maxPacketPayload

/-- The server as far as its responses are orderly. -/
def SchemaServer.orderly (server : SchemaServer σ) (flags : Nat) : Server flags σ where
  replies state message packets later :=
    server.replies state message packets later ∧ Orderly flags message packets
  responds replies := replies.2.responds
  short replies := replies.2.short

/-- The server reads the next message and answers it in any way. -/
inductive Replies (server : SchemaServer σ) (w : Link σ) : Link σ → Prop where
  | mk {message : LogicalMessage} {rest : List LogicalMessage} {packets : List Packet} {later : σ} :
      inFlight w = message :: rest → server.replies w.peer.server message packets later →
      Replies server w (hear w packets later)

/-- A name without blanks around it. -/
def Unpadded (payload : Bytes) : Prop :=
  ∀ name, parseDatabaseName payload = .ok name → strip name = name

/--
The server's responses are orderly, no query selects another schema, and no name
with blanks around it is selected.
-/
def Steady (flags : Nat) (server : SchemaServer σ) : Option Side → Link σ → Link σ → Prop
  | some _, _, _ => True
  | none, w, w' => ∀ message rest packets, inFlight w = message :: rest →
      w'.peer.answered = w.peer.answered ++ [packets] →
      Orderly flags message packets ∧ (Succeeds packets →
        ((commandOf message).kind = .query → ∀ name,
          server.uses (commandOf message).payload = some name →
          name = server.schema w.peer.server) ∧
        ((commandOf message).kind = .initDb → Unpadded (commandOf message).payload))

/-! ## Agreement -/

/-- A message that changes the database is none of these. -/
def Unasked (messages : List LogicalMessage) : Prop :=
  ∀ message ∈ messages, (commandOf message).kind ≠ .initDb

/--
The database of the session is the server's default schema, and a change of it is
under way to the server or acknowledged; a connection that is jammed waits for
the acknowledgment in vain.
-/
inductive Agrees (server : SchemaServer σ) (w : Link σ) : Prop where
  | settled : (stateOf w).pendingDatabase = none → Unasked (inFlight w) →
      encodeUtf8 (stateOf w).database = server.schema w.peer.server → Agrees server w
  | asked {name : String} {message : LogicalMessage} {before after : List LogicalMessage} :
      AwaitsDatabase (stateOf w) (strip name) → w.peer.due = .nothing →
      inFlight w = before ++ message :: after →
      (∀ other ∈ before, silent other = true) → (commandOf message).kind = .initDb →
      parseDatabaseName (commandOf message).payload = .ok name → Unasked after →
      unread w = [] → encodeUtf8 (stateOf w).database = server.schema w.peer.server →
      Agrees server w
  | acknowledged {database : String} {packet : Packet} {rest : List Packet} :
      AwaitsDatabase (stateOf w) database → w.peer.due = .nothing → Unasked (inFlight w) →
      unread w = packet :: rest →
      packet.payload.head? = some 0x00 ∧
          encodeUtf8 database = server.schema w.peer.server ∨
        packet.payload.head? = some 0xFF ∧
          encodeUtf8 (stateOf w).database = server.schema w.peer.server →
      Agrees server w
  | jammed : Jammed w → (stateOf w).pendingDatabase.isSome = true → Agrees server w

section Agreement

variable {server : SchemaServer σ} {w w' : Link σ}

/-- Where nothing is awaited the two agree. -/
theorem Agrees.of_free (agrees : Agrees server w)
    (free : (stateOf w).hasPendingLifecycleOperation = false) :
    Unasked (inFlight w) ∧ encodeUtf8 (stateOf w).database = server.schema w.peer.server := by
  have none := (hasPending_eq_false.mp free).1
  cases agrees with
  | settled _ unasked same => exact ⟨unasked, same⟩
  | asked awaits =>
      rw [awaits.pending] at none
      cases none
  | acknowledged awaits =>
      rw [awaits.pending] at none
      cases none
  | jammed _ pending =>
      rw [none] at pending
      cases pending

/-- A session with the same database that goes on awaiting what it awaited. -/
structure Keeping (state state' : SessionState) : Prop where
  naming : state'.naming = state.naming
  awaits : ∀ database, AwaitsDatabase state database → AwaitsDatabase state' database

theorem Keeping.of_free {state state' : SessionState} (naming : state'.naming = state.naming)
    (free : state.hasPendingLifecycleOperation = false) : Keeping state state' := by
  refine ⟨naming, fun database awaits => ?_⟩
  have busy := awaits.busy
  rw [free] at busy
  cases busy

theorem Keeping.database {state state' : SessionState} (keeping : Keeping state state') :
    state'.database = state.database := congrArg Prod.fst keeping.naming

theorem Keeping.pending {state state' : SessionState} (keeping : Keeping state state') :
    state'.pendingDatabase = state.pendingDatabase := congrArg Prod.snd keeping.naming

/-- The session keeps its database, and further messages are no changes of it. -/
theorem Agrees.keeps {more : List LogicalMessage} (agrees : Agrees server w)
    (keeping : Keeping (stateOf w) (stateOf w')) (peer : w'.peer = w.peer)
    (out : relayed w'.clientOut = relayed w.clientOut)
    (flight : inFlight w' = inFlight w ++ more) (unasked : Unasked more) : Agrees server w' := by
  have reads : unread w' = unread w := by rw [unread, unread, peer]
  have all : Unasked (inFlight w) → Unasked (inFlight w') := by
    intro early message inside
    rw [flight] at inside
    rcases List.mem_append.mp inside with old | new
    · exact early message old
    · exact unasked message new
  cases agrees with
  | settled none early same =>
      refine .settled (keeping.pending.trans none) (all early) ?_
      rw [keeping.database, peer]
      exact same
  | @asked name message before after awaits due next quiet kind parsed late none same =>
      have next' : inFlight w' = before ++ message :: (after ++ more) := by
        rw [flight, next, List.append_assoc, List.cons_append]
      have late' : Unasked (after ++ more) := by
        intro other inside
        rcases List.mem_append.mp inside with old | new
        · exact late other old
        · exact unasked other new
      have same' : encodeUtf8 (stateOf w').database = server.schema w'.peer.server := by
        rw [keeping.database, peer]
        exact same
      exact .asked (keeping.awaits _ awaits) (by rw [peer]; exact due) next' quiet kind parsed late'
        (reads.trans none) same'
  | acknowledged awaits due early next answer =>
      refine .acknowledged (keeping.awaits _ awaits) (by rw [peer]; exact due) (all early)
        (reads.trans next) ?_
      rw [keeping.database, peer]
      exact answer
  | jammed jammed pending =>
      refine .jammed ⟨?_, ?_⟩ ?_
      · rw [out, peer]
        exact jammed.fewer
      · rw [peer]
        exact jammed.due
      · rw [keeping.pending]
        exact pending

theorem Agrees.of_traffic (agrees : Agrees server w) (keeping : Keeping (stateOf w) (stateOf w'))
    (same : SameTraffic w w') : Agrees server w' := by
  have flight : inFlight w' = inFlight w ++ [] := by
    rw [List.append_nil]
    exact same.inFlight
  refine agrees.keeps keeping same.peer same.relayed flight ?_
  intro message none
  cases none

/-! ## What the tasks and the server do -/

theorem unasked_singleton {message : LogicalMessage} (kind : (commandOf message).kind ≠ .initDb) :
    Unasked [message] := by
  intro other inside
  rw [List.mem_singleton.mp inside]
  exact kind

theorem keeping_rfl (state : SessionState) : Keeping state state := ⟨rfl, fun _ => id⟩

/-- A message that is no change of the database is written. -/
theorem Agrees.writes {o : Outlook} {message : LogicalMessage} {after : SessionState}
    (agrees : Agrees server w) (sane : Sane o w) (keeping : Keeping (stateOf w) after)
    (kind : (commandOf message).kind ≠ .initDb) :
    Agrees server ((withState w after).log (writeOf message)) :=
  agrees.keeps keeping rfl rfl (inFlight_write sane.heard message after) (unasked_singleton kind)

/-- A change of the database is written: nothing else is under way. -/
theorem Agrees.asks {o : Outlook} {message : LogicalMessage} {name : String} (strict : ¬ o.lenient)
    (agrees : Agrees server w) (sane : Sane o w) (calm : Calm o w) (present : ¬ Lost w)
    (free : (stateOf w).hasPendingLifecycleOperation = false)
    (kind : (commandOf message).kind = .initDb)
    (parsed : parseDatabaseName (commandOf message).payload = .ok name) :
    Agrees server ((withState w ((stateOf w).awaitingDatabase (strip name))).log
      (writeOf message)) := by
  obtain ⟨unasked, same⟩ := agrees.of_free free
  obtain ⟨-, -, ping, reset, -⟩ := hasPending_eq_false.mp free
  have awaits : AwaitsDatabase ((stateOf w).awaitingDatabase (strip name)) (strip name) :=
    ⟨rfl, ping, reset⟩
  cases calm with
  | lost lost => exact absurd lost present
  | ends ends => exact absurd free ends.not_free
  | jammed jammed => exact .jammed (jammed.writes message _) rfl
  | follows relays due inStep =>
      have received := received_of_free (.inl strict) relays inStep free
      have flight := inFlight_write sane.heard message ((stateOf w).awaitingDatabase (strip name))
      exact .asked awaits due flight received.2 kind parsed (by intro other none; cases none)
        (received.unread relays) same

theorem keeping_opens {command : Command} {state after : SessionState}
    (opens : Opens command state after) (other : command.kind ≠ .initDb) :
    Keeping state after := by
  cases opens with
  | initDb kind parsed begun => exact absurd kind other
  | stmtPrepare kind parsed begun =>
      obtain ⟨free, rfl⟩ := beginStatementPrepare_ok begun
      exact .of_free rfl free
  | ping kind empty begun =>
      obtain ⟨free, rfl⟩ := beginPing_ok begun
      exact .of_free rfl free
  | stmtReset kind parsed begun =>
      obtain ⟨free, -, rfl⟩ := beginStatementReset_ok begun
      exact .of_free rfl free
  | stmtClose kind parsed free => exact .of_free rfl free
  | quit kind => exact ⟨rfl, fun database awaits => ⟨awaits.pending, awaits.ping, awaits.reset⟩⟩

theorem Undoes.keeping {state session : SessionState} (undoes : Undoes state session) :
    Keeping state session := by
  refine ⟨Prod.ext undoes.database undoes.pendingDatabase, fun database awaits => ⟨?_, ?_, ?_⟩⟩
  · rw [undoes.pendingDatabase]
    exact awaits.pending
  · by_contra pinging
    have pending := undoes.ping (by simpa using pinging)
    rw [awaits.ping] at pending
    cases pending
  · cases awaited : session.pendingStatementResetId with
    | none => rfl
    | some statementId =>
        have pending := undoes.reset (by rw [awaited]; rfl)
        rw [awaits.reset] at pending
        cases pending

/-- Every act of the client task keeps the agreement. -/
theorem ClientAct.agrees {scene : Scene σ} (strict : ¬ scene.lenient)
    (stands : Stands scene.toOutlook w) (isSealed : Sealed w) (agrees : Agrees server w)
    (act : ClientAct scene w w') : Agrees server w' := by
  have sane := stands.sane
  cases act with
  | receives _ _ => exact agrees.of_traffic (keeping_rfl _) (sameTraffic_log rfl)
  | records _ isDecision =>
      exact agrees.of_traffic (keeping_rfl _) (sameTraffic_log (written_decision isDecision))
  | resolves _ _ => exact agrees.of_traffic (keeping_rfl _) (sameTraffic_log rfl)
  | returns _ _ => exact agrees.of_traffic (keeping_rfl _) (sameTraffic_log rfl)
  | refuses _ _ => exact agrees.of_traffic (keeping_rfl _) (sameTraffic_refusal _ _ _)
  | begins kind _ free => exact agrees.of_traffic (.of_free rfl free) (sameTraffic_withState _)
  | forgets _ =>
      exact agrees.of_traffic (undoes_failCommandForward _).keeping (sameTraffic_withState _)
  | stores _ _ _ =>
      have keeping : ∀ statementId statement,
          Keeping (stateOf w) ((stateOf w).storeStatement statementId statement) :=
        fun _ _ => ⟨rfl, fun database awaits => ⟨awaits.pending, awaits.ping, awaits.reset⟩⟩
      exact agrees.of_traffic (keeping _ _) (sameTraffic_withState _)
  | @writes message events _ _ inspected _ =>
      have kind : (commandOf message).kind ≠ .initDb := by
        rcases inspected with kind | kind <;> simp [kind]
      exact agrees.writes sane (keeping_rfl _) kind
  | passes _ permissive _ _ => exact absurd (scene.lenient_of permissive) strict
  | @loses state error undoes =>
      have undone : Agrees server (withState w state) :=
        agrees.of_traffic undoes.keeping (sameTraffic_withState _)
      exact undone.of_traffic (keeping_rfl _) (sameTraffic_log rfl)
  | @opens message after handles _ opens =>
      by_cases kind : (commandOf message).kind = .initDb
      · cases opens with
        | @initDb database _ _ parsed begun =>
            obtain ⟨free, rfl⟩ := beginDatabaseChange_ok begun
            have calm : Calm scene.toOutlook w := by
              rcases stands.standing with calm | inspects
              · exact calm
              · have busy := inspects.reading.pending
                rw [free] at busy
                cases busy
            exact agrees.asks strict sane calm (isSealed.present handles) free kind parsed
        | stmtPrepare other => simp [kind] at other
        | ping other => simp [kind] at other
        | stmtReset other => simp [kind] at other
        | stmtClose other => simp [kind] at other
        | quit other => simp [kind] at other
      · exact agrees.writes sane (keeping_opens opens kind) kind

/-- A packet is taken up, whether or not it can be relayed. -/
theorem Agrees.takesUp {packet : Packet} {rest : List Packet} {capabilities : Nat}
    (agrees : Agrees server w) (atRest : AtRest w) (next : unread w = packet :: rest)
    (server' : w'.peer.server = w.peer.server) (flight : inFlight w' = inFlight w)
    (tracked : stateOf w' = (trackResponse capabilities packet.payload (stateOf w)).2) :
    Agrees server w' := by
  cases agrees with
  | settled none unasked same =>
      have naming : (stateOf w').naming = (stateOf w).naming := by
        rw [tracked]
        exact naming_trackResponse none
      have database : (stateOf w').database = (stateOf w).database := congrArg Prod.fst naming
      have pending : (stateOf w').pendingDatabase = (stateOf w).pendingDatabase :=
        congrArg Prod.snd naming
      refine .settled (pending.trans none) (by rw [flight]; exact unasked) ?_
      rw [database, server']
      exact same
  | asked _ _ _ _ _ _ _ nothing _ =>
      rw [nothing] at next
      cases next
  | jammed jammed _ => exact absurd jammed atRest.not_jammed
  | @acknowledged database packet' rest' awaits due unasked next' answer =>
      rw [next] at next'
      cases next'
      obtain ⟨commits, forgets⟩ := @AwaitsDatabase.committed capabilities _ packet.payload _ awaits
      rcases answer with ⟨ok, same⟩ | ⟨failed, same⟩
      · have naming := commits ok
        rw [← tracked] at naming
        have name : (stateOf w').database = database := congrArg Prod.fst naming
        have pending : (stateOf w').pendingDatabase = none := congrArg Prod.snd naming
        refine .settled pending (by rw [flight]; exact unasked) ?_
        rw [name, server']
        exact same
      · have naming := forgets failed
        rw [← tracked] at naming
        have name : (stateOf w').database = (stateOf w).database := congrArg Prod.fst naming
        have pending : (stateOf w').pendingDatabase = none := congrArg Prod.snd naming
        refine .settled pending (by rw [flight]; exact unasked) ?_
        rw [name, server']
        exact same

/-- Ending a prepare leaves a change of the database as it is. -/
theorem Agrees.settles {later : SessionState} (agrees : Agrees server w)
    (isDue : w.peer.due.Due (stateOf w) later) : Agrees server (settle (withState w later)) := by
  have naming := naming_due isDue
  have database : later.database = (stateOf w).database := congrArg Prod.fst naming
  have pending : later.pendingDatabase = (stateOf w).pendingDatabase := congrArg Prod.snd naming
  have same : w.peer.due = .nothing → later = stateOf w := by
    intro nothing
    rw [nothing] at isDue
    exact isDue
  cases agrees with
  | settled none unasked agreed =>
      refine .settled (pending.trans none) unasked ?_
      change encodeUtf8 later.database = _
      rw [database]
      exact agreed
  | asked awaits due flight quiet kind parsed late nothing agreed =>
      rw [same due]
      exact .asked awaits rfl flight quiet kind parsed late nothing agreed
  | acknowledged awaits due unasked next answer =>
      rw [same due]
      exact .acknowledged awaits rfl unasked next answer
  | jammed jammed asks =>
      rw [same jammed.due]
      exact .jammed ⟨jammed.fewer, rfl⟩ asks

theorem BackendAct.agrees {o : Outlook} (agrees : Agrees server w) (act : BackendAct o w w') :
    Agrees server w' := by
  cases act with
  | @relays packet rest next' tracked atRest next tracks =>
      have follows : tracked = (trackResponse o.flags packet.payload (stateOf w)).2 := by
        rw [tracks]
      exact agrees.takesUp atRest next rfl rfl follows
  | @breaks packet rest error tracked atRest next tracks =>
      have follows : tracked = (trackResponse o.flags packet.payload (stateOf w)).2 := by
        rw [tracks]
      exact agrees.takesUp atRest next rfl rfl follows
  | settles isDue => exact agrees.settles isDue

theorem succeeds_ok {packet : Packet} {rest : List Packet}
    (ok : packet.payload.head? = some 0x00) : Succeeds (packet :: rest) := ⟨packet, rest, rfl, ok⟩

theorem not_succeeds_error {packet : Packet} {rest : List Packet}
    (failed : packet.payload.head? = some 0xFF) : ¬ Succeeds (packet :: rest) := by
  rintro ⟨first, others, same, ok⟩
  cases same
  rw [failed] at ok
  cases ok

/-- A change of the database is answered by an OK or an error. -/
theorem initDb_answer {state later : σ} {message : LogicalMessage} {packets : List Packet}
    (replies : (server.orderly flags).replies state message packets later)
    (kind : (commandOf message).kind = .initDb) :
    ∃ packet, packets = [packet] ∧
      (packet.payload.head? = some 0x00 ∨ packet.payload.head? = some 0xFF) := by
  have responds := replies.2.responds
  rw [kind] at responds
  generalize same : packets.map Packet.payload = payloads at responds
  cases responds with
  | @ok status payload ok =>
      obtain ⟨packet, rfl, payload'⟩ := List.map_eq_singleton_iff.mp same
      refine ⟨packet, rfl, .inl ?_⟩
      rw [payload']
      cases ok
      rfl
  | @error payload failed =>
      obtain ⟨packet, rfl, payload'⟩ := List.map_eq_singleton_iff.mp same
      refine ⟨packet, rfl, .inr ?_⟩
      rw [payload']
      cases failed
      rfl

/-- A message that is no change of the database leaves the schema as it is. -/
theorem schema_kept {message : LogicalMessage} {packets : List Packet} {later : σ}
    {rest : List LogicalMessage} (steady : Steady flags server none w (hear w packets later))
    (next : inFlight w = message :: rest)
    (replies : (server.orderly flags).replies w.peer.server message packets later)
    (kind : (commandOf message).kind ≠ .initDb) :
    server.schema later = server.schema w.peer.server := by
  by_cases selects : Succeeds packets ∧ selected server.uses (commandOf message) ≠ none
  · obtain ⟨succeeds, asks⟩ := selects
    obtain ⟨name, named⟩ := Option.ne_none_iff_exists'.mp asks
    have switched := server.switches replies.1 succeeds named
    have query : (commandOf message).kind = .query := by
      cases other : (commandOf message).kind <;> simp [selected, other] at named kind ⊢
    have uses : server.uses (commandOf message).payload = some name := by
      simpa [selected, query] using named
    exact switched.trans (((steady message rest packets next rfl).2 succeeds).1 query name uses)
  · refine server.keeps replies.1 fun succeeds => ?_
    by_contra asks
    exact selects ⟨succeeds, asks⟩

theorem Hears.agrees {o : Outlook} (sane : Sane o w) (agrees : Agrees server w)
    (hears : Hears (server.orderly flags) w w') (steady : Steady flags server none w w') :
    Agrees server w' := by
  obtain ⟨next, replies⟩ := hears
  next message rest packets later =>
  have flight := @inFlight_hear _ w message rest packets later next
  have reads := @unread_hear _ w packets later sane.read
  cases agrees with
  | settled none unasked same =>
      have kind := unasked message (by rw [next]; exact List.mem_cons_self)
      refine .settled none ?_ ?_
      · rw [flight]
        exact fun other inside => unasked other (by rw [next]; exact List.mem_cons_of_mem _ inside)
      · exact same.trans (schema_kept steady next replies kind).symm
  | acknowledged awaits due unasked first answer =>
      have kind := unasked message (by rw [next]; exact List.mem_cons_self)
      have schema := schema_kept steady next replies kind
      refine .acknowledged awaits due ?_ (by rw [reads, first]; rfl) ?_
      · rw [flight]
        exact fun other inside => unasked other (by rw [next]; exact List.mem_cons_of_mem _ inside)
      · change _ ∧ _ = server.schema later ∨ _ ∧ _ = server.schema later
        rw [schema]
        exact answer
  | jammed jammed asks => exact .jammed ⟨jammed.fewer, jammed.due⟩ asks
  | @asked name request before after awaits due asking quiet kind parsed late nothing same =>
      rw [next] at asking
      cases before with
      | cons first before =>
          -- A silent message is read on the way to the request.
          obtain ⟨rfl, ahead⟩ := List.cons.inj asking
          have isSilent := quiet message List.mem_cons_self
          have none := (responds_nil_iff replies.2.responds).mpr isSilent
          have other : (commandOf message).kind ≠ .initDb := by
            intro asks
            rw [silent, asks] at isSilent
            cases isSilent
          have none := List.map_eq_nil_iff.mp none
          refine .asked awaits due (flight.trans ahead)
            (fun earlier inside => quiet earlier (List.mem_cons_of_mem _ inside)) kind parsed late
            ?_ ?_
          · rw [reads, nothing, none]
            rfl
          · exact same.trans (schema_kept steady next replies other).symm
      | nil =>
          obtain ⟨rfl, ahead⟩ := List.cons.inj asking
          obtain ⟨packet, rfl, answer⟩ := initDb_answer replies kind
          refine .acknowledged awaits due (by rw [flight, ahead]; exact late)
            (by rw [reads, nothing]; rfl) ?_
          rcases answer with ok | failed
          · refine .inl ⟨ok, ?_⟩
            have plain := ((steady message rest _ next rfl).2 (succeeds_ok ok)).2 kind name parsed
            rw [plain]
            have names : selected server.uses (commandOf message) =
                some (commandOf message).payload := by simp [selected, kind]
            have switched := server.switches replies.1 (succeeds_ok ok) names
            exact (encodeUtf8_parseText parsed).trans switched.symm
          · refine .inr ⟨failed, ?_⟩
            refine same.trans (server.keeps replies.1 ?_).symm
            exact fun succeeds => absurd succeeds (not_succeeds_error failed)

end Agreement

/-! ## Every run -/

/-- A server with a default schema and the client of a proxy that inspects what it can. -/
structure SchemaClient (σ : Type) where
  tools : Tools
  opts : ProxyOptions
  server : SchemaServer σ
  sends : Link σ → LogicalMessage → Prop
  strict : opts.failSafeMode ≠ .permissive

/-- The tasks of a connection whose server may answer in any way. -/
def SchemaClient.system (client : SchemaClient σ) : System awaits (Link σ) Exn Side where
  start
    | .client, w, task, w' => ∃ message, client.sends w message ∧
        task = clientTurn client.tools client.opts message ∧ w' = receive w message
    | .backend, w, task, w' => ∃ packet rest, unread w = packet :: rest ∧
        task = backendTurn packet ∧ w' = takeUp w packet
  answers q w answer := answers q w answer
  environment := Replies client.server

/-- The same tasks while the server's responses are orderly. -/
def SchemaClient.scene (client : SchemaClient σ) (flags : Nat) : Scene σ where
  flags := flags
  cursors := True
  lenient := False
  tools := client.tools
  opts := client.opts
  server := client.server.orderly flags
  sends := client.sends
  lenient_of permissive := client.strict permissive
  timely _ := .inl id
  plain _ none := absurd trivial none

section Runs

variable {client : SchemaClient σ} {w w' : Link σ}

theorem orderly_of_run {c₀ c : Config awaits (Link σ) Exn Side}
    (run : client.system.Run (Steady flags client.server) c₀ c) :
    (client.scene flags).system.Run (Steady flags client.server) c₀ c := by
  refine run.turns ?_
  intro c c' who _ turn steady
  cases turn with
  | start done started => exact .start done started
  | resume suspended answered => exact .resume suspended answered
  | environment moved =>
      obtain ⟨next, replies⟩ := moved
      refine .environment (.mk next ⟨replies, ?_⟩)
      exact (steady _ _ _ next rfl).1

/-- Acts of a client whose messages find a task keep the agreement. -/
theorem agrees_clientActs (stands : Stands (client.scene flags).toOutlook w) (isSealed : Sealed w)
    (agrees : Agrees client.server w)
    (acts : Relation.ReflTransGen (ClientAct (client.scene flags).heeded) w w') :
    Agrees client.server w' ∧ Sealed w' := by
  induction acts with
  | refl => exact ⟨agrees, isSealed⟩
  | tail acts act ih =>
      have strict : ¬ (client.scene flags).heeded.lenient := id
      have stands : Stands (client.scene flags).heeded.toOutlook _ := stands_clientActs stands acts
      exact ⟨act.agrees strict stands ih.2 ih.1, act.sealed ih.2⟩

theorem agrees_backendActs {o : Outlook} (isSealed : Sealed w) (agrees : Agrees client.server w)
    (acts : Relation.ReflTransGen (BackendAct o) w w') :
    Agrees client.server w' ∧ Sealed w' := by
  induction acts with
  | refl => exact ⟨agrees, isSealed⟩
  | tail _ act ih =>
      refine ⟨act.agrees ih.1, ih.2.of_trace ?_⟩
      cases act <;> rfl

/-- The agreement holds in every run that is steady, with messages that find a task. -/
theorem agrees_of_heeded (fresh : Fresh (client.scene flags).toOutlook w)
    (agreed : encodeUtf8 (stateOf w).database = client.server.schema w.peer.server)
    {c : Config awaits (Link σ) Exn Side}
    (run : (client.scene flags).heeded.system.Run (Steady flags client.server) (Config.idle w) c) :
    Agrees client.server c.shared ∧ Sealed c.shared := by
  induction run with
  | refl =>
      have idle : inFlight w = [] := by rw [inFlight, fresh.trace]; exact List.drop_nil
      refine ⟨.settled (hasPending_eq_false.mp fresh.free).1 ?_ agreed, ?_⟩
      · change Unasked (inFlight w)
        rw [idle]
        exact fun message none => absurd none List.not_mem_nil
      · rintro ⟨error, inside⟩
        rw [Config.idle, fresh.trace] at inside
        cases inside
  | @step c c' who run turn steady ih =>
      have holds : (promises (client.scene flags).heeded).Holds
          (leaves (client.scene flags).heeded) c :=
        holds_of_turns fresh (run.mono fun _ _ _ _ => trivial)
      cases who with
      | none =>
          cases turn with
          | environment moved =>
              have hears : Hears (client.scene flags).heeded.server c.shared _ := moved
              exact ⟨Hears.agrees holds.1.sane ih.1 moved steady,
                ih.2.of_trace hears.keeps.2.1⟩
      | some side =>
          have acts := Promises.guarantee_of_step_resting
            (fun side _ _ _ stands left started => completes_start side stands left started)
            holds turn
          cases side with
          | client => exact agrees_clientActs holds.1 ih.2 ih.1 acts
          | backend => exact agrees_backendActs ih.2 ih.1 acts

/-- When commands begin, the session's database is the server's schema. -/
theorem agreed_entered {response : HandshakeResponse} {name : String} {relay : RelayState}
    {state : σ} (knows : Knows client.server.opens response relay state)
    (named : response.database = some name) (nonempty : name ≠ "") :
    encodeUtf8 (stateOf (entered relay state)).database =
      client.server.schema (entered relay state).peer.server := by
  change encodeUtf8 relay.session.database = client.server.schema state
  rw [knows.database name named nonempty, client.server.begins knows.opened named nonempty]

/--
In every session whose handshake response named a database, and in which the
server's responses are orderly, no query selects another schema and no name with
blanks around it is selected, the session's database is the server's default
schema whenever no command is pending.
-/
theorem schemas_agree (client : SchemaClient σ) {name : String} {relay : RelayState} {state : σ}
    (opened : Opened client.tools client.opts client.server.opens name relay state)
    (nonempty : name ≠ "") {c : Config awaits (Link σ) Exn Side}
    (run : client.system.Run (Steady relay.auth.capabilityFlags client.server)
      (Config.idle (entered relay state)) c)
    (free : (stateOf c.shared).hasPendingLifecycleOperation = false) :
    encodeUtf8 (stateOf c.shared).database = client.server.schema c.shared.peer.server := by
  obtain ⟨response, begun, named⟩ := opened
  have fresh : Fresh (client.scene relay.auth.capabilityFlags).toOutlook (entered relay state) :=
    begun.knows.fresh rfl
  have heeded := heeded_of_run fresh (orderly_of_run run)
  have agrees := agrees_of_heeded fresh (agreed_entered begun.knows named nonempty) heeded
  exact (agrees.1.of_free free).2

end Runs

/-! ## A change of the database and a `USE` statement -/

/-- A parser library that knows one `USE` statement. -/
def useTools : Tools :=
  { plainTools with
    glot := { plainTools.glot with
      parse := fun sql dialect =>
        if sql = "USE archive" then .ok [some (Sql.Expression.build (.other "Use") [])]
        else plainTools.glot.parse sql dialect } }

/-- The schema that the one known `USE` statement names. -/
def usesArchive (payload : Bytes) : Option Bytes :=
  if payload = encodeUtf8 "USE archive" then some (encodeUtf8 "archive") else none

/-- A server that gives any answers and knows one `USE` statement; its state is the schema. -/
def archiveServer : SchemaServer Bytes where
  opens response state := ∀ name, response.database = some name → state = encodeUtf8 name
  replies state message packets later :=
    (Succeeds packets → ∀ name, selected usesArchive (commandOf message) = some name →
      later = name) ∧
    ((Succeeds packets → selected usesArchive (commandOf message) = none) → later = state)
  schema := id
  uses := usesArchive
  begins opened named _ := opened _ named
  switches replies succeeds names := replies.1 succeeds _ names
  keeps replies kept := replies.2 kept

/-- Any message may come at any time. -/
def archiveClient : SchemaClient Bytes where
  tools := useTools
  opts := strictOptions
  server := archiveServer
  sends _ _ := True
  strict := by decide

/-! ### A session in the database `shop` -/

/-- A user without a password asks for the database. -/
def shopResponse : Packet :=
  packetOf 1 (lePack 4 0x8209 ++ List.replicate 28 0 ++ [0x61, 0, 0] ++ encodeUtf8 "shop" ++ [0])

def shopNames : HandshakeResponse where
  capabilityFlags := 0x8209
  username := "a"
  database := some "shop"
  authPlugin := none
  isSslRequest := false

theorem parsed_shopResponse : parseHandshakeResponse shopResponse.payload = .ok shopNames := by
  decide +kernel

theorem header_fits : 4 ≤ 65536 := by decide

/-- A connection to a proxy that is configured with another database. -/
def unnamed : OpeningWorld Bytes := unintroduced (newRelay "main" 65536 256 4096 header_fits)

/-- The backend has greeted. -/
def greeted : OpeningWorld Bytes :=
  ((processBackendPacket greeting).run (fun q s => (userAnswers true q, s)) unnamed).2

/-- The client has responded. -/
def introduced : OpeningWorld Bytes :=
  ((processClientPacket useTools strictOptions shopResponse).run
    (fun q s => (userAnswers true q, s)) greeted).2

/-- The backend has opened the session. -/
def granted : OpeningWorld Bytes :=
  { introduced with peer := some (shopNames, encodeUtf8 "shop") }

/-- The proxy knows it. -/
def admitted : OpeningWorld Bytes :=
  ((processBackendPacket acceptance).run (fun q s => (userAnswers true q, s)) granted).2

/-- Whether an event is the write of the response. -/
def isResponse : Event adapter → Bool
  | .forwarded .handshake raw => raw = shopResponse.raw
  | _ => false

theorem presents_shop : Presents introduced shopNames := by
  have written : introduced.trace.any isResponse = true := by decide +kernel
  obtain ⟨event, inside, isWrite⟩ := List.any_eq_true.mp written
  refine ⟨shopResponse, ⟨rfl, by decide +kernel⟩, parsed_shopResponse, ?_⟩
  cases event with
  | forwarded source raw =>
      cases source with
      | handshake =>
          rw [← of_decide_eq_true isWrite]
          exact inside
      | passThrough => cases isWrite
      | command message => cases isWrite
  | _ => cases isWrite

theorem begun_shop : Begun useTools strictOptions archiveServer.opens shopNames
    admitted.session (encodeUtf8 "shop") := by
  have greets := (System.Rests.refl (S := opening useTools strictOptions archiveServer.opens)
    unnamed).turn (userAnswers true) answers_others (i := .backend)
    ⟨greeting, ⟨rfl, by decide⟩, rfl, rfl, rfl⟩ (by decide +kernel) (by decide +kernel)
  have responds := greets.turn (userAnswers true) answers_others (i := .client)
    ⟨shopResponse, ⟨rfl, by decide +kernel⟩, by decide +kernel, rfl, rfl⟩ (by decide +kernel)
    (by decide +kernel)
  have opens : archiveServer.opens shopNames (encodeUtf8 "shop") := by
    rintro name ⟨⟩
    rfl
  have grants := responds.environment (.mk presents_shop opens)
  obtain ⟨c, run, shared, -⟩ := grants.turn (userAnswers true) answers_others (i := .backend)
    ⟨acceptance, ⟨rfl, by decide⟩, by decide +kernel, rfl, rfl⟩ (by decide +kernel)
    (by decide +kernel)
  refine ⟨_, _, _, _, _, c, run, ?_, by decide +kernel, ?_⟩
  · rw [shared]
    rfl
  · rw [shared]
    decide +kernel

theorem opened_shop : Opened useTools strictOptions archiveServer.opens "shop"
    admitted.session (encodeUtf8 "shop") :=
  ⟨shopNames, begun_shop, rfl⟩

/-- The connection when commands begin. -/
def shopLink : Link Bytes := entered admitted.session (encodeUtf8 "shop")

/-! ### One command -/

def succeeded : Packet := packetOf 1 [0, 0, 0, 2, 0, 0, 0]

theorem succeeded_ok : OkPacket 0x00 2 succeeded.payload :=
  .mk 2 0 0 0 (@Lenenc.one 0 (by decide)) (@Lenenc.one 0 (by decide))

/-- The user has approved the message, and it has been written. -/
def asked (message : LogicalMessage) : Link Bytes :=
  ((clientTurn useTools strictOptions message).run
    (fun q s => (userAnswers true q, s)) (receive shopLink message)).2

/-- The server has accepted the message and selected a schema. -/
def accepted (message : LogicalMessage) : Link Bytes :=
  hear (asked message) [succeeded] (encodeUtf8 "archive")

/-- The acceptance has been relayed. -/
def acknowledged (message : LogicalMessage) : Link Bytes :=
  ((backendTurn succeeded).run (fun q s => (userAnswers true q, s))
    (takeUp (accepted message) succeeded)).2

/-- Neither task is disturbed on the way. -/
def Undisrupted (message : LogicalMessage) : Prop :=
  (Proc.asksOnly (fun q : Request => decide (q ≠ .prepareEvent))
      (fun q s => (userAnswers true q, s)) (clientTurn useTools strictOptions message)
      (receive shopLink message) = true ∧
    ((clientTurn useTools strictOptions message).run
      (fun q s => (userAnswers true q, s)) (receive shopLink message)).1 = .ok () ∧
    inFlight (asked message) = [message]) ∧
  unread (accepted message) = [succeeded] ∧
  Proc.asksOnly (fun q : Request => decide (q ≠ .prepareEvent))
    (fun q s => (userAnswers true q, s)) (backendTurn succeeded)
    (takeUp (accepted message) succeeded) = true ∧
  ((backendTurn succeeded).run (fun q s => (userAnswers true q, s))
    (takeUp (accepted message) succeeded)).1 = .ok ()

instance (message : LogicalMessage) : Decidable (Undisrupted message) :=
  inferInstanceAs (Decidable ((_ ∧ _ ∧ _) ∧ _ ∧ _ ∧ _))

/-- The message is the only one on its way, and the acceptance its response. -/
theorem answered_alone {message next : LogicalMessage} {rest : List LogicalMessage}
    {packets : List Packet} (undisrupted : Undisrupted message)
    (isNext : inFlight (asked message) = next :: rest)
    (answered : (accepted message).peer.answered = (asked message).peer.answered ++ [packets]) :
    next = message ∧ packets = [succeeded] := by
  have flight : inFlight (asked message) = [message] := undisrupted.1.2.2
  have heard : (accepted message).peer.answered =
      (asked message).peer.answered ++ [[succeeded]] := rfl
  rw [flight] at isNext
  rw [heard, List.append_cancel_left_eq] at answered
  exact ⟨(List.cons.inj isNext).1.symm, (List.cons.inj answered).1.symm⟩

theorem rests_acknowledged {message : LogicalMessage}
    {allowed : Option Side → Link Bytes → Link Bytes → Prop}
    (free : ∀ side w w', allowed (some side) w w') (undisrupted : Undisrupted message)
    (replies : archiveServer.replies (asked message).peer.server message [succeeded]
      (encodeUtf8 "archive"))
    (condition : allowed none (asked message) (accepted message)) :
    archiveClient.system.RestsWithin allowed shopLink (acknowledged message) := by
  obtain ⟨⟨asks, returned, flight⟩, next, asks', returned'⟩ := undisrupted
  have untouched : archiveClient.system.RestsWithin allowed shopLink shopLink := .refl _
  have wrote := untouched.turn (userAnswers true) answers_others (i := .client)
    ⟨message, trivial, rfl, rfl⟩ asks
    (isChain_of_all (fun _ _ => trivial) fun w w' _ => free .client w w') returned
  have hears : Replies archiveServer (asked message) (accepted message) := .mk flight replies
  have heard := wrote.environment hears condition
  exact heard.turn (userAnswers true) answers_others (i := .backend) ⟨_, _, next, rfl, rfl⟩ asks'
    (isChain_of_all (fun _ _ => trivial) fun w w' _ => free .backend w w') returned'

/-- The change of the database to `archive`. -/
def initArchive : LogicalMessage := messageOf (0x02 :: encodeUtf8 "archive")

theorem initArchive_replies : archiveServer.replies (asked initArchive).peer.server initArchive
    [succeeded] (encodeUtf8 "archive") := by
  have kind : (commandOf initArchive).kind = .initDb := by decide +kernel
  have payload : (commandOf initArchive).payload = encodeUtf8 "archive" := by decide +kernel
  refine ⟨?_, ?_⟩
  · intro _ name named
    simp only [selected, kind, payload] at named
    exact (Option.some.inj named)
  · intro kept
    have none := kept (succeeds_ok (by decide))
    simp [selected, kind] at none

/-- A database change that is acknowledged leaves session and server in agreement. -/
theorem initArchive_agrees : ∃ c,
    archiveClient.system.Run (Steady 0x8209 archiveServer) (Config.idle shopLink) c ∧
      (stateOf c.shared).hasPendingLifecycleOperation = false ∧
      (stateOf c.shared).database = "archive" ∧
      encodeUtf8 (stateOf c.shared).database = archiveServer.schema c.shared.peer.server := by
  have flags : admitted.session.auth.capabilityFlags = 0x8209 := by decide +kernel
  have undisrupted : Undisrupted initArchive := by decide +kernel
  have steady : Steady 0x8209 archiveServer none (asked initArchive) (accepted initArchive) := by
    intro message rest packets next answered
    obtain ⟨rfl, rfl⟩ := answered_alone undisrupted next answered
    have kind : (commandOf initArchive).kind = .initDb := by decide +kernel
    refine ⟨⟨?_, by decide⟩, fun _ => ⟨fun query => absurd (kind.symm.trans query) (by decide), ?_⟩⟩
    · rw [kind]
      exact .ok succeeded_ok
    · intro _ name parsed
      have same : parseDatabaseName (commandOf initArchive).payload = .ok "archive" := by
        decide +kernel
      rw [same] at parsed
      cases parsed
      decide +kernel
  obtain ⟨c, run, shared, -⟩ := rests_acknowledged (fun _ _ _ => trivial) undisrupted
    initArchive_replies steady
  have free : (stateOf c.shared).hasPendingLifecycleOperation = false := by
    rw [shared]
    decide +kernel
  refine ⟨c, run, free, ?_, ?_⟩
  · rw [shared]
    decide +kernel
  · rw [← flags] at run
    exact schemas_agree archiveClient opened_shop (by decide) run free

/-- The user's approval lets `USE archive` through. -/
def useArchive : LogicalMessage := messageOf (0x03 :: encodeUtf8 "USE archive")

theorem useArchive_replies : archiveServer.replies (asked useArchive).peer.server useArchive
    [succeeded] (encodeUtf8 "archive") := by
  have kind : (commandOf useArchive).kind = .query := by decide +kernel
  have payload : (commandOf useArchive).payload = encodeUtf8 "USE archive" := by decide +kernel
  refine ⟨?_, ?_⟩
  · intro _ name named
    simp only [selected, kind, payload, usesArchive, if_true] at named
    exact Option.some.inj named
  · intro kept
    have none := kept (succeeds_ok (by decide))
    simp [selected, kind, payload, usesArchive] at none

/-- Every response of the run is orderly. -/
def InOrderly (flags : Nat) : Option Side → Link Bytes → Link Bytes → Prop
  | some _, _, _ => True
  | none, w, w' => ∀ message rest packets, inFlight w = message :: rest →
      w'.peer.answered = w.peer.answered ++ [packets] → Orderly flags message packets

/-- After `USE archive` the session still names `shop`. -/
theorem useArchive_drifts :
    ¬ ∀ (client : SchemaClient Bytes) (name : String) (relay : RelayState) (state : Bytes)
        (c : Config awaits (Link Bytes) Exn Side),
      Opened client.tools client.opts client.server.opens name relay state → name ≠ "" →
      client.system.Run (InOrderly relay.auth.capabilityFlags)
        (Config.idle (entered relay state)) c →
      (stateOf c.shared).hasPendingLifecycleOperation = false →
      encodeUtf8 (stateOf c.shared).database = client.server.schema c.shared.peer.server := by
  intro always
  have flags : admitted.session.auth.capabilityFlags = 0x8209 := by decide +kernel
  have undisrupted : Undisrupted useArchive := by decide +kernel
  have orderly : InOrderly 0x8209 none (asked useArchive) (accepted useArchive) := by
    intro message rest packets next answered
    obtain ⟨rfl, rfl⟩ := answered_alone undisrupted next answered
    have kind : (commandOf useArchive).kind = .query := by decide +kernel
    refine ⟨?_, by decide⟩
    rw [kind]
    exact .last (.ok succeeded_ok)
  obtain ⟨c, run, shared, -⟩ := rests_acknowledged (fun _ _ _ => trivial) undisrupted
    useArchive_replies orderly
  have free : (stateOf c.shared).hasPendingLifecycleOperation = false := by
    rw [shared]
    decide +kernel
  rw [← flags] at run
  have agree := always archiveClient "shop" _ _ c opened_shop (by decide) run free
  rw [shared] at agree
  exact absurd agree (by decide +kernel)

end SqlSafetyProxy.MySql
