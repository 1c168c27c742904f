import SqlSafetyProxy.MySql.Standing

/-!
# Runs against a server

Each turn of the two tasks is a sequence of acts, and each lets the other go on:
the client task finds its session as it left it while it inspects a message, and
the backend task finds what it has still to do.  So in every run the connection
stands, and a property of runs is proved act by act.
-/

namespace SqlSafetyProxy.MySql

open SqlSafetyProxy.Sql SqlSafetyProxy.Policy SqlSafetyProxy.Wire SqlSafetyProxy.Runtime
open SqlSafetyProxy.Coroutine SqlSafetyProxy.Collections Proc

variable {σ : Type} {scene : Scene σ} {w w' : Link σ}

/-! ## What the tasks rely on -/

/-- What the client task may count on while it is suspended. -/
structure Undisturbed (o : Outlook) (w w' : Link σ) : Prop where
  trace : w'.trace = w.trace
  calm : Calm o w → Calm o w'
  inspecting : Inspecting o w → Inspecting o w' ∧ stateOf w' = stateOf w
  received : ¬ Lost w → Received w → Received w'
  storable : ¬ Lost w → Storable o w → Storable o w'
  following : ¬ Lost w → Following (stateOf w) → (stateOf w').aside = (stateOf w).aside

/-- What the backend task may count on while it is suspended. -/
structure Unhurried (w w' : Link σ) : Prop where
  due : w'.peer.due = w.peer.due
  read : w'.peer.read = w.peer.read
  relayed : relayed w'.clientOut = relayed w.clientOut

theorem Undisturbed.refl (o : Outlook) (w : Link σ) : Undisturbed o w w :=
  ⟨rfl, id, fun inspects => ⟨inspects, rfl⟩, fun _ => id, fun _ => id, fun _ _ => rfl⟩

theorem not_lost_of_trace (present : ¬ Lost w) (same : w'.trace = w.trace) : ¬ Lost w' :=
  fun lost => present (lost.of_trace same.symm)

theorem Undisturbed.trans {o : Outlook} {w₁ w₂ w₃ : Link σ} (first : Undisturbed o w₁ w₂)
    (second : Undisturbed o w₂ w₃) : Undisturbed o w₁ w₃ where
  trace := second.trace.trans first.trace
  calm calm := second.calm (first.calm calm)
  inspecting inspecting := by
    obtain ⟨middle, same⟩ := first.inspecting inspecting
    obtain ⟨later, same'⟩ := second.inspecting middle
    exact ⟨later, same'.trans same⟩
  received present received :=
    second.received (not_lost_of_trace present first.trace) (first.received present received)
  storable present storable :=
    second.storable (not_lost_of_trace present first.trace) (first.storable present storable)
  following present following := by
    have same := first.following present following
    have same' := second.following (not_lost_of_trace present first.trace)
      (following.of_aside same)
    exact same'.trans same

/-- Outside a loss every packet that was taken up has been relayed, or the connection is jammed. -/
theorem Standing.relays_or_jammed {o : Outlook} (standing : Standing o w) (present : ¬ Lost w) :
    Relays w ∨ Jammed w := by
  rcases standing with (lost | jammed | ⟨relays, -, -⟩ | ends) | inspects
  · exact absurd lost present
  · exact .inr jammed
  · exact .inl relays
  · exact .inl ends.relays
  · exact .inl inspects.relays

theorem Standing.unread {o : Outlook} (sane : Sane o w) (standing : Standing o w)
    (present : ¬ Lost w) (received : Received w) : unread w = [] := by
  rcases standing.relays_or_jammed present with relays | jammed
  · exact received.unread relays
  · exact absurd received (jammed.not_received sane)

/-- Only a prepare that has still to be ended is left to do. -/
theorem Standing.due {o : Outlook} (standing : Standing o w) (present : ¬ Lost w) :
    w.peer.due = .nothing ∨ Ends o w := by
  rcases standing with (lost | jammed | ⟨-, due, -⟩ | ends) | inspects
  · exact absurd lost present
  · exact .inl jammed.due
  · exact .inl due
  · exact .inr ends
  · exact .inl inspects.due

/-- Nothing is taken up while a message is inspected or the client has received everything. -/
theorem Standing.not_taken {o : Outlook} {packet : Packet} {rest : List Packet}
    (sane : Sane o w) (standing : Standing o w) (atRest : AtRest w)
    (isNext : MySql.unread w = packet :: rest) :
    ¬ Inspecting o w ∧ (¬ Lost w → ¬ Received w) := by
  refine ⟨?_, ?_⟩
  · rintro (inspects | jammed)
    · rw [inspects.received.unread inspects.relays] at isNext
      cases isNext
    · exact atRest.not_jammed jammed
  · intro present received
    rw [standing.unread sane present received] at isNext
    cases isNext

/-- A packet that is tracked leaves alone what is no concern of a response. -/
theorem undisturbed_takeUp {o : Outlook} {packet : Packet} {rest : List Packet}
    {tracked : SessionState} {result : Except Exn FollowUp} (sane : Sane o w) (standing : Standing o w) (atRest : AtRest w)
    (isNext : MySql.unread w = packet :: rest)
    (tracks : trackResponse o.flags packet.payload (stateOf w) = (result, tracked))
    (session : stateOf w' = tracked) (trace : w'.trace = w.trace)
    (calm : Calm o w → Calm o w') : Undisturbed o w w' := by
  obtain ⟨notInspecting, notReceived⟩ := standing.not_taken sane atRest isNext
  have frame : Following (stateOf w) → (stateOf w').aside = (stateOf w).aside := by
    intro following
    have same := @Following.tracks o.flags (stateOf w) following packet.payload
    rw [session]
    rwa [tracks] at same
  refine ⟨trace, calm, fun inspecting => absurd inspecting notInspecting,
    fun present received => absurd received (notReceived present), ?_, fun _ => frame⟩
  rintro present ((following | ends) | jammed)
  · exact .inl (.inl (following.of_aside (frame following)))
  · exact absurd atRest.due ends.unsettled
  · exact absurd jammed atRest.not_jammed

theorem BackendAct.undisturbed {o : Outlook} (sane : Sane o w) (standing : Standing o w)
    (act : BackendAct o w w') : Undisturbed o w w' := by
  cases act with
  | relays atRest isNext tracks =>
      exact undisturbed_takeUp sane standing atRest isNext tracks rfl rfl
        fun calm => Standing.relays sane (.inl calm) atRest isNext tracks
  | breaks atRest isNext tracks =>
      exact undisturbed_takeUp sane standing atRest isNext tracks rfl rfl
        fun calm => Standing.breaks sane (.inl calm) atRest isNext tracks
  | @settles later isDue =>
      have same : w.peer.due = .nothing → later = stateOf w := by
        intro nothing
        rw [nothing] at isDue
        exact isDue
      have follows : ¬ Lost w → Following (stateOf w) → later = stateOf w := by
        intro present following
        rcases standing.due present with nothing | ends
        · exact same nothing
        · have prepare := ends.prepare
          rw [following.none.2.2.2] at prepare
          cases prepare
      refine ⟨rfl, fun calm => calm.settles isDue, ?_, fun _ received => received, ?_, ?_⟩
      · rintro (inspects | jammed)
        · exact ⟨.inl (inspects.settles isDue).1, (inspects.settles isDue).2⟩
        · exact ⟨.inr ⟨jammed.fewer, rfl⟩, same jammed.due⟩
      · rintro present ((following | ends) | jammed)
        · rw [follows present following]
          exact .inl (.inl following)
        · obtain ⟨other, otherDue, following, -⟩ := ends.due
          rw [← otherDue.unique isDue]
          exact .inl (.inl following)
        · exact .inr ⟨jammed.fewer, rfl⟩
      · intro present following
        rw [follows present following]
        rfl

theorem Hears.undisturbed (sane : Sane scene.toOutlook w) (hears : Hears scene.server w w') :
    Undisturbed scene.toOutlook w w' := by
  obtain ⟨session, trace, -, due, -⟩ := hears.keeps
  have same : stateOf w' = stateOf w := by rw [stateOf, session]
  refine ⟨trace, hears.calm sane, ?_, fun _ => hears.received, ?_, fun _ _ => by rw [same]⟩
  · rintro (inspects | jammed)
    · exact ⟨.inl (hears.inspects sane inspects), same⟩
    · exact ⟨.inr (hears.jammed jammed), same⟩
  · rintro present ((following | ends) | jammed)
    · rw [← same] at following
      exact .inl (.inl following)
    · obtain ⟨later, isDue, following, inStep⟩ := ends.due
      refine .inl (.inr ⟨hears.relays sane ends.relays, by rw [due]; exact ends.unsettled, ?_,
        later, ?_, following, hears.inStep sane inStep⟩)
      · rw [same]
        exact ends.prepare
      · rw [same, due]
        exact isDue
    · exact .inr (hears.jammed jammed)

/-! ## The promises of the tasks -/

/-- The tasks of a connection against its server. -/
abbrev Scene.system (scene : Scene σ) : System awaits (Link σ) Exn Side :=
  served scene.tools scene.opts scene.server scene.sends

/-- The invariant of every run. -/
structure Stands (o : Outlook) (w : Link σ) : Prop where
  sane : Sane o w
  standing : Standing o w

/-- Acts of the given side, one after another. -/
def Acts (scene : Scene σ) : Side → Link σ → Link σ → Prop
  | .client => Relation.ReflTransGen (ClientAct scene)
  | .backend => Relation.ReflTransGen (BackendAct scene.toOutlook)

theorem stands_clientActs (stands : Stands scene.toOutlook w)
    (acts : Relation.ReflTransGen (ClientAct scene) w w') : Stands scene.toOutlook w' := by
  induction acts with
  | refl => exact stands
  | tail _ act ih => exact ⟨act.sane ih.sane, act.standing ih.sane ih.standing⟩

theorem stands_backendActs {o : Outlook} (stands : Stands o w)
    (acts : Relation.ReflTransGen (BackendAct o) w w') : Stands o w' := by
  induction acts with
  | refl => exact stands
  | tail _ act ih => exact ⟨act.sane ih.sane, act.standing ih.sane ih.standing⟩

theorem undisturbed_backendActs {o : Outlook} (stands : Stands o w)
    (acts : Relation.ReflTransGen (BackendAct o) w w') : Undisturbed o w w' := by
  induction acts with
  | refl => exact .refl o w
  | tail acts act ih =>
      have middle := stands_backendActs stands acts
      exact ih.trans (act.undisturbed middle.sane middle.standing)

theorem unhurried_clientActs (acts : Relation.ReflTransGen (ClientAct scene) w w') :
    Unhurried w w' := by
  induction acts with
  | refl => exact ⟨rfl, rfl, rfl⟩
  | tail _ act ih =>
      refine ⟨?_, ?_, act.relayed.trans ih.relayed⟩
      · rw [act.peer, ih.due]
      · rw [act.peer, ih.read]

/-- Each side acts and leaves the other what it counts on. -/
def promises (scene : Scene σ) : Promises scene.system anyTurn where
  invariant := Stands scene.toOutlook
  guarantee := Acts scene
  rely
    | .client => Undisturbed scene.toOutlook
    | .backend => Unhurried
  rely_refl
    | .client, w => .refl _ w
    | .backend, _ => ⟨rfl, rfl, rfl⟩
  rely_trans
    | .client, _, _, _ => Undisturbed.trans
    | .backend, _, _, _ => fun first second =>
        ⟨second.due.trans first.due, second.read.trans first.read,
          second.relayed.trans first.relayed⟩
  environment_invariant _ _ stands hears _ :=
    ⟨Hears.sane stands.sane hears, Hears.standing stands.sane hears stands.standing⟩
  environment_relied
    | .client, _, _, stands, _, hears => Hears.undisturbed stands.sane hears
    | .backend, _, _, _, _, hears => by
        obtain ⟨-, -, out, due, read⟩ := Hears.keeps hears
        exact ⟨due, read, by rw [out]⟩
  guarantee_invariant
    | .client, _, _, stands, acts, _ => stands_clientActs stands acts
    | .backend, _, _, stands, acts, _ => stands_backendActs stands acts
  guarantee_relied
    | .client, .backend, _, _, _, stands, _, acts => undisturbed_backendActs stands acts
    | .backend, .client, _, _, _, _, _, acts => unhurried_clientActs acts
    | .client, .client, _, _, other, _, _, _ => absurd rfl other
    | .backend, .backend, _, _, other, _, _, _ => absurd rfl other

/-- How a task leaves the connection when it returns. -/
def leaves (scene : Scene σ) : Side → Link σ → Prop
  | .client, w => ¬ Lost w ∧ Calm scene.toOutlook w ∧ Unoccupied w
  | .backend, w => AtRest w

theorem Unoccupied.of_trace (unoccupied : Unoccupied w) (same : w'.trace = w.trace) :
    Unoccupied w' := by
  rw [Unoccupied, same]
  exact unoccupied

theorem leaves_stable (side : Side) (left : leaves scene side w)
    (relied : (promises scene).rely side w w') : leaves scene side w' := by
  cases side with
  | client =>
      have undisturbed : Undisturbed scene.toOutlook w w' := relied
      exact ⟨not_lost_of_trace left.1 undisturbed.trace, undisturbed.calm left.2.1,
        left.2.2.of_trace undisturbed.trace⟩
  | backend =>
      have unhurried : Unhurried w w' := relied
      have atRest : AtRest w := left
      exact ⟨unhurried.due.trans atRest.due, by
        rw [unhurried.read, unhurried.relayed]; exact atRest.relayed⟩

/-! ## The backend task -/

/-- What is left to do about a packet is done. -/
theorem wp_followUp {next : FollowUp} (due : w.peer.due = next)
    (relays : w.peer.read ≤ (relayed w.clientOut).length) :
    Proc.wp ((promises scene).contract .backend)
      (followUp next >>= fun _ => Proc.update settle)
      (fun _ start w => Acts scene .backend start w ∧ AtRest w)
      (fun _ start w => Acts scene .backend start w) w w := by
  have settles : ∀ later, next.Due (stateOf w) later →
      Acts scene .backend w (settle (withState w later)) ∧ AtRest (settle (withState w later)) := by
    intro later isDue
    rw [← due] at isDue
    exact ⟨.single (.settles isDue), rfl, relays⟩
  rw [Proc.wp_bind]
  cases next with
  | nothing => exact settles (stateOf w) rfl
  | failPrepare => exact settles _ rfl
  | finishPrepare =>
      apply wp_changeSession
      · intro changed done
        exact settles changed done
      · intro error failed
        exact .refl

section Rules

variable {C : Proc.Contract awaits (Link σ)} {post : Unit → Link σ → Link σ → Prop}
  {fail : Exn → Link σ → Link σ → Prop} {start : Link σ} {packet : Packet}

/-- A packet of a response is tracked before it is relayed. -/
theorem wp_routeResponse :
    Proc.wp C (routeResponse packet) post fail start w =
      Proc.wp C (Proc.ofExcept (trackResponse w.session.auth.capabilityFlags packet.payload
          (stateOf w)).1 >>= fun next => do
        writeClient (.relayed packet.raw)
        drain
        followUp next : Handler adapter (Peer σ) Unit) post fail start
        (withState w (trackResponse w.session.auth.capabilityFlags packet.payload
          (stateOf w)).2) := rfl

theorem wp_routeBackendPacket (phase : w.session.phase = .commandResponse) :
    Proc.wp C (routeBackendPacket packet) post fail start w =
      Proc.wp C (routeResponse packet) post fail start w := by
  unfold routeBackendPacket
  rw [Proc.wp_bind]
  refine wp_session.trans ?_
  simp only [phase]

end Rules

theorem completes_backendTurn {packet : Packet} {rest : List Packet}
    (stands : Stands scene.toOutlook w) (atRest : AtRest w) (isNext : unread w = packet :: rest) :
    (promises scene).Completes (leaves scene) .backend (backendTurn packet) w
      (takeUp w packet) := by
  have sane := stands.sane
  have phase : (takeUp w packet).session.phase = .commandResponse := sane.phase
  have session : stateOf (takeUp w packet) = stateOf w := rfl
  unfold Promises.Completes backendTurn
  rw [Proc.wp_bind, wp_routeBackendPacket phase, wp_routeResponse, takeUp_session, sane.flags,
    session]
  rcases tracks : trackResponse scene.flags packet.payload (stateOf w) with ⟨error | next, tracked⟩
  · have act : BackendAct scene.toOutlook w (withState (takeUp w packet) tracked) :=
      .breaks atRest isNext tracks
    exact .single act
  · have act : BackendAct scene.toOutlook w
        ((withState (takeUp w packet) tracked).answer (.relayed packet.raw)) :=
      .relays atRest isNext tracks
    have acts : Acts scene .backend w _ := .single act
    have due : ((withState (takeUp w packet) tracked).answer (.relayed packet.raw)).peer.due =
        next := by
      change followUpOf _ _ _ = _
      rw [followUpOf, sane.flags, tracks]
    have relays : w.peer.read + 1 ≤
        (relayed ((withState (takeUp w packet) tracked).answer
          (.relayed packet.raw)).clientOut).length := by
      have count := atRest.relayed
      simp only [World.answer_clientOut, withState_clientOut, takeUp_clientOut, relayed_append,
        List.length_append]
      exact Nat.add_le_add_right count 1
    simp only [Proc.wp_bind, Proc.wp_ofExcept_ok, wp_writeClient]
    apply wp_drain acts
    · rintro later ⟨stands', relied, -⟩
      have unhurried : Unhurried _ later := relied
      rw [← Proc.wp_bind]
      refine wp_followUp (unhurried.due.trans due) ?_
      rw [unhurried.read, unhurried.relayed]
      exact relays
    · rintro later -
      exact .refl

/-! ## The client task -/

/-- What the client task has done in its segment. -/
structure Present (scene : Scene σ) (start w : Link σ) : Prop where
  acts : Acts scene .client start w
  stands : Stands scene.toOutlook w
  present : ¬ Lost w

/-- A message has been written as the last of these events; long data only where gaps pass. -/
structure Penned (scene : Scene σ) (w : Link σ) (message : LogicalMessage)
    (events : List (Event adapter)) : Prop where
  wrote : ∃ inspected, events = inspected ++ [writeOf message] ∧ Wrote w message inspected
  longData : (commandOf message).kind = .stmtSendLongData → scene.opts.failSafeMode = .permissive

/-- A message has just been refused. -/
def Refused (w : Link σ) : Prop :=
  ∃ before message packet, w.trace = before ++ [refusalOf message packet]

/-- Where a connection stands at a stage of the dispatch of a message. -/
def Amid (scene : Scene σ) (message : LogicalMessage) (events : List (Event adapter)) :
    Stage → Link σ → Prop
  | .considering, w =>
      Calm scene.toOutlook w ∧ Timely scene.toOutlook w ∧ Handles w message events
  | .resolved, w =>
      (Calm scene.toOutlook w ∧ Timely scene.toOutlook w ∧ Handles w message events) ∧
        (commandOf message).kind = .stmtExecute
  | .awaiting, w =>
      (Inspecting scene.toOutlook w ∧ Timely scene.toOutlook w ∧ Handles w message events) ∧
        ((commandOf message).kind = .query ∨ (commandOf message).kind = .stmtExecute)
  | .written, w =>
      Calm scene.toOutlook w ∧
        ((commandOf message).kind = .stmtSendLongData ∨
          (∃ statement decoded, reconstruction statement decoded ∈ events) →
            Storable scene.toOutlook w) ∧
        Penned scene w message events
  | .declined, w => Inspecting scene.toOutlook w ∧ Refused w
  | .refused, w => Calm scene.toOutlook w ∧ Refused w
  | .broken, _ => True

/-- Of a call that breaks off only what it has done and what is undone remains. -/
def Serves (scene : Scene σ) (message : LogicalMessage) :
    Stage → List (Event adapter) → Link σ → Link σ → Prop
  | .broken, _, start, w => ∃ w₀ state, Acts scene .client start w₀ ∧
      Undoes (stateOf w₀) state ∧ w = withState w₀ state
  | stage, events, start, w => Present scene start w ∧ Amid scene message events stage w

theorem Present.act {start : Link σ} (held : Present scene start w) (act : ClientAct scene w w')
    (present : ¬ Lost w') : Present scene start w' where
  acts := Relation.ReflTransGen.tail held.acts act
  stands := ⟨act.sane held.stands.sane, act.standing held.stands.sane held.stands.standing⟩
  present := present

/-- Only the note of an exception tells of a loss. -/
theorem not_lost_log {event : Event adapter} (present : ¬ Lost w)
    (other : ∀ error, event ≠ lossOf error) : ¬ Lost (w.log event) := by
  rintro ⟨error, inside⟩
  rcases List.mem_append.mp inside with early | last
  · exact present ⟨error, early⟩
  · exact other error (List.mem_singleton.mp last).symm

theorem decision_not_loss {event : Event adapter} (isDecision : event.IsDecision) (error : Exn) :
    event ≠ lossOf error := by
  rintro rfl
  exact isDecision

theorem Handles.snoc {message : LogicalMessage} {events : List (Event adapter)}
    {event : Event adapter} (handles : Handles w message events) (undecided : Undecided event) :
    Handles (w.log event) message (events ++ [event]) := by
  obtain ⟨⟨before, trace⟩, all⟩ := handles
  refine ⟨⟨before, ?_⟩, ?_⟩
  · rw [World.log_trace, trace, List.append_assoc, List.cons_append]
  · intro other inside
    rcases List.mem_append.mp inside with early | last
    · exact all other early
    · rw [List.mem_singleton.mp last]
      exact undecided

theorem undecided_decision {event : Event adapter} (isDecision : event.IsDecision) :
    Undecided event := by
  cases event with
  | forwarded source raw => exact isDecision.elim
  | noted note => exact isDecision.elim
  | _ => trivial

theorem Handles.of_trace {message : LogicalMessage} {events : List (Event adapter)}
    (handles : Handles w message events) (same : w'.trace = w.trace) :
    Handles w' message events := by
  rw [Handles, same]
  exact handles

theorem Timely.of_received {o : Outlook} (timely : Timely o w)
    (received : Received w → Received w') : Timely o w' := by
  rcases timely with strict | ⟨plain, all⟩
  · exact .inl strict
  · exact .inr ⟨plain, received all⟩

theorem Refused.of_trace (refused : Refused w) (same : w'.trace = w.trace) : Refused w' := by
  rw [Refused, same]
  exact refused

theorem Wrote.of_trace {message : LogicalMessage} {events : List (Event adapter)}
    (wrote : Wrote w message events) (same : w'.trace = w.trace) : Wrote w' message events := by
  rw [Wrote, same]
  exact wrote

theorem Penned.of_trace {message : LogicalMessage} {events : List (Event adapter)}
    (penned : Penned scene w message events) (same : w'.trace = w.trace) :
    Penned scene w' message events := by
  obtain ⟨⟨inspected, split, wrote⟩, longData⟩ := penned
  exact ⟨⟨inspected, split, wrote.of_trace same⟩, longData⟩

theorem Handles.wrote {message : LogicalMessage} {events : List (Event adapter)}
    (handles : Handles w message events) (after : SessionState) :
    Wrote ((withState w after).log (writeOf message)) message events := by
  obtain ⟨⟨before, trace⟩, all⟩ := handles
  refine ⟨⟨before, ?_⟩, all⟩
  rw [World.log_trace, withState_trace, trace, List.append_assoc, List.cons_append]

/-- Between the acts of others a stage stays what it is. -/
theorem Amid.undisturbed {message : LogicalMessage} {events : List (Event adapter)} {stage : Stage}
    (amid : Amid scene message events stage w) (present : ¬ Lost w)
    (undisturbed : Undisturbed scene.toOutlook w w') : Amid scene message events stage w' := by
  have timely : Timely scene.toOutlook w → Timely scene.toOutlook w' :=
    fun timely => timely.of_received (undisturbed.received present)
  have handles : Handles w message events → Handles w' message events :=
    fun handles => handles.of_trace undisturbed.trace
  cases stage with
  | considering => exact ⟨undisturbed.calm amid.1, timely amid.2.1, handles amid.2.2⟩
  | resolved =>
      exact ⟨⟨undisturbed.calm amid.1.1, timely amid.1.2.1, handles amid.1.2.2⟩, amid.2⟩
  | awaiting =>
      exact ⟨⟨(undisturbed.inspecting amid.1.1).1, timely amid.1.2.1, handles amid.1.2.2⟩, amid.2⟩
  | written =>
      exact ⟨undisturbed.calm amid.1, fun stores => undisturbed.storable present (amid.2.1 stores),
        amid.2.2.of_trace undisturbed.trace⟩
  | declined => exact ⟨(undisturbed.inspecting amid.1).1, amid.2.of_trace undisturbed.trace⟩
  | refused => exact ⟨undisturbed.calm amid.1, amid.2.of_trace undisturbed.trace⟩
  | broken => trivial

theorem serves_of_present {message : LogicalMessage} {stage : Stage}
    {events : List (Event adapter)} {start : Link σ} (held : Present scene start w)
    (amid : Amid scene message events stage w) : Serves scene message stage events start w := by
  cases stage with
  | broken => exact ⟨w, stateOf w, held.acts, .refl _, rfl⟩
  | _ => exact ⟨held, amid⟩

theorem Serves.present {message : LogicalMessage} {stage : Stage}
    {events : List (Event adapter)} {start : Link σ}
    (serves : Serves scene message stage events start w) (unbroken : stage ≠ .broken) :
    Present scene start w ∧ Amid scene message events stage w := by
  cases stage with
  | broken => exact absurd rfl unbroken
  | _ => exact serves

theorem Serves.breaks {message : LogicalMessage} {stage : Stage} {events : List (Event adapter)}
    {start : Link σ} (serves : Serves scene message stage events start w) {state : SessionState}
    (undoes : Undoes (stateOf w) state) :
    Serves scene message .broken events start (withState w state) := by
  by_cases broken : stage = .broken
  · subst broken
    obtain ⟨w₀, before, acts, undone, rfl⟩ := serves
    exact ⟨w₀, state, acts, undone.trans undoes, rfl⟩
  · exact ⟨w, state, (serves.present broken).1.acts, undoes, rfl⟩

/-- Where a prepare has to be ended, only the end of it changes that. -/
theorem Calm.still_ends {o : Outlook} (calm : Calm o w') (sane : Sane o w) (present : ¬ Lost w')
    (ends : Ends o w) (peer : w'.peer = w.peer) (out : w'.clientOut = w.clientOut) : Ends o w' := by
  cases calm with
  | lost lost => exact absurd lost present
  | jammed jammed =>
      have fewer := jammed.fewer
      rw [peer, out, ends.relays.count sane] at fewer
      exact absurd fewer (lt_irrefl _)
  | follows _ due _ =>
      rw [peer] at due
      exact absurd due ends.unsettled
  | ends ends => exact ends

theorem Inspecting.storable {o : Outlook} (inspecting : Inspecting o w)
    (message : LogicalMessage) : Storable o (w.log (writeOf message)) := by
  rcases inspecting with inspects | jammed
  · exact .inl (.inl (.inr ⟨_, _, inspects.reading⟩))
  · exact .inr (jammed.writes message (stateOf w))

/-- What is let through without inspection leaves the registry free to be changed. -/
theorem storable_passes {message : LogicalMessage} (sane : Sane scene.toOutlook w)
    (present : ¬ Lost w) (calm : Calm scene.toOutlook w) (plain : ¬ scene.cursors)
    (received : Received w) (later : Calm scene.toOutlook (w.log (writeOf message))) :
    Storable scene.toOutlook (w.log (writeOf message)) := by
  cases calm with
  | lost lost => exact absurd lost present
  | jammed jammed => exact absurd received (jammed.not_received sane)
  | follows relays due inStep =>
      rcases settled_of_received received relays inStep with free | ⟨cursors, -⟩
      · exact .inl (.inl (.inl free))
      · exact absurd cursors plain
  | ends ends =>
      have remains : ¬ Lost (w.log (writeOf message)) :=
        not_lost_log present (by rintro error ⟨⟩)
      exact .inl (.inr (later.still_ends sane remains ends rfl rfl))

theorem Serves.stores {message : LogicalMessage} {events : List (Event adapter)} {start : Link σ}
    {statementId : Nat} {statement : PreparedStatement}
    (serves : Serves scene message .written events start w)
    (stores : (commandOf message).kind = .stmtSendLongData ∨
      ∃ known decoded, reconstruction known decoded ∈ events ∧ known.statementId = statementId)
    (retypes : Retypes (stateOf w) statementId statement) :
    Serves scene message .written events start
      (withState w ((stateOf w).storeStatement statementId statement)) := by
  obtain ⟨held, calm, storable, penned⟩ := serves
  have ready : Storable scene.toOutlook w := by
    refine storable (stores.imp_right ?_)
    rintro ⟨known, decoded, inside, -⟩
    exact ⟨known, decoded, inside⟩
  have later := calm.reframes ready (stateOf w).closing
    ((stateOf w).preparedStatements.insert statementId statement)
  refine ⟨held.act (.stores ready retypes ?_) held.present, later, fun _ => ?_,
    penned.of_trace rfl⟩
  · obtain ⟨⟨inspected, rfl, wrote⟩, longData⟩ := penned
    rcases stores with kind | ⟨known, decoded, inside, isKnown⟩
    · exact .inl (longData kind)
    · exact .inr ⟨message, inspected, known, decoded, wrote, by simpa using inside, isKnown⟩
  rcases ready with (following | ends) | jammed
  · exact .inl (.inl (following.reframe _ _))
  · exact .inl (.inr (later.still_ends held.stands.sane held.present ends rfl rfl))
  · exact .inr ((sameTraffic_withState _).jammed jammed)

/-- The dispatch of a message against the server. -/
theorem course_serves (scene : Scene σ) (message : LogicalMessage) :
    Course scene.tools scene.opts message ((promises scene).contract .client)
      (Serves scene message) where
  records := by
    intro stage events start w event isOpen isDecision serves
    have act : ∀ {handled}, Handles w message handled → ClientAct scene w (w.log event) :=
      fun handles => .records handles isDecision
    have traffic : SameTraffic w (w.log event) := sameTraffic_log (written_decision isDecision)
    rcases isOpen with rfl | rfl
    · obtain ⟨held, calm, timely, handles⟩ := serves
      refine ⟨held.act (act handles) (not_lost_log held.present (decision_not_loss isDecision)),
        traffic.calm rfl (fun lost => lost.log _) calm, timely.of_received traffic.received,
        handles.snoc (undecided_decision isDecision)⟩
    · obtain ⟨held, ⟨inspecting, timely, handles⟩, kind⟩ := serves
      refine ⟨held.act (act handles) (not_lost_log held.present (decision_not_loss isDecision)),
        ⟨traffic.inspecting rfl inspecting, timely.of_received traffic.received,
        handles.snoc (undecided_decision isDecision)⟩, kind⟩
  pauses := by
    intro stage q events start w steady serves
    exact (serves.present steady.2).1.acts
  resumes := by
    rintro stage q events start w answer w' steady serves ⟨stands, relied, -⟩
    have undisturbed : Undisturbed scene.toOutlook w w' := relied
    obtain ⟨held, amid⟩ := serves.present steady.2
    exact serves_of_present
      ⟨.refl, stands, not_lost_of_trace held.present undisturbed.trace⟩
      (amid.undisturbed held.present undisturbed)
  prepared := by
    rintro w answer w' ⟨-, -, answered⟩
    exact answered rfl
  loses := by
    intro stage events start w w' session serves relied undoes
    exact ⟨w', session, .refl, undoes, rfl⟩
  breaks := by
    intro stage events start w session unwritten serves undoes
    exact serves.breaks undoes
  opens := by
    rintro start w after ⟨held, calm, timely, handles⟩ opens
    refine ⟨held.act (.opens handles timely opens)
      (not_lost_log (w := withState w after) held.present (by rintro error ⟨⟩)),
      calm.opens held.stands.sane timely opens, ?_, ⟨[], rfl, handles.wrote after⟩, ?_⟩
    · rintro (longData | ⟨statement, decoded, inside⟩)
      · cases opens <;> simp_all
      · simp at inside
    · intro longData
      cases opens <;> simp_all
  resolves := by
    rintro start w execution statement decoded ⟨held, calm, timely, handles⟩ resolves
    have traffic : SameTraffic w (w.log (reconstruction statement decoded)) := sameTraffic_log rfl
    exact ⟨held.act (.resolves handles resolves) (not_lost_log held.present (by rintro error ⟨⟩)),
      ⟨traffic.calm rfl (fun lost => lost.log _) calm, timely.of_received traffic.received,
      handles.snoc trivial⟩, resolves.kind⟩
  abandons := by
    rintro events start w ⟨held, amid, -⟩
    exact ⟨held, amid⟩
  queries := by
    rintro start w kind ⟨held, calm, timely, handles⟩ free
    have act : ClientAct scene w _ := .begins .query timely free
    refine ⟨held.act act held.present, ⟨?_, timely.of_received id, handles⟩, .inl kind⟩
    exact (calm.begins timely free .query).resolve_left held.present
  executes := by
    rintro events start w ⟨held, ⟨calm, timely, handles⟩, kind⟩ free
    have act : ClientAct scene w _ := .begins .stmtExecute timely free
    refine ⟨held.act act held.present, ⟨?_, timely.of_received id, handles⟩, .inr kind⟩
    exact (calm.begins timely free .stmtExecute).resolve_left held.present
  forgets := by
    rintro start w ⟨held, ⟨inspecting, timely, handles⟩, -⟩
    exact ⟨held.act (.forgets inspecting) held.present, inspecting.forgets, timely.of_received id,
      handles⟩
  approves := by
    rintro events start w ⟨held, ⟨inspecting, timely, handles⟩, kind⟩ approved
    exact ⟨held.act (.writes handles inspecting kind (.inl approved))
      (not_lost_log held.present (by rintro error ⟨⟩)),
      inspecting.writes held.stands.sane kind, fun _ => inspecting.storable message,
      ⟨_, rfl, handles.wrote (stateOf w)⟩, fun longData => by simp [longData] at kind⟩
  registers := by
    intro events start w statement decoded registered serves present done
    obtain ⟨old, found, rest⟩ := bind_ok done
    split at rest
    · cases rest
    · cases rest
      exact serves.stores (.inr ⟨_, _, present, rfl⟩) ⟨old, getPreparedStatement_ok found, rfl⟩
  misses := by
    intro events start w statement decoded error serves _ _
    exact serves.breaks (.refl (stateOf w))
  refuses := by
    intro stage events start w packet isOpen serves refusal
    have traffic := sameTraffic_refusal w message packet
    have present : ¬ Lost w → ¬ Lost ((w.log (refusalOf message packet)).answer (.built packet)) :=
      fun present => not_lost_log present (by rintro error ⟨⟩)
    have refused : Refused ((w.log (refusalOf message packet)).answer (.built packet)) :=
      ⟨w.trace, message, packet, rfl⟩
    rcases isOpen with rfl | rfl
    · obtain ⟨held, calm, timely, handles⟩ := serves
      exact ⟨held.act (.refuses handles refusal) (present held.present),
        traffic.calm rfl (fun lost => lost.log _) calm, refused⟩
    · obtain ⟨held, ⟨inspecting, timely, handles⟩, -⟩ := serves
      exact ⟨held.act (.refuses handles refusal) (present held.present),
        traffic.inspecting rfl inspecting, refused⟩
  settles := by
    rintro events start w ⟨held, inspecting, refused⟩
    exact ⟨held.act (.forgets inspecting) held.present, inspecting.forgets,
      refused.of_trace rfl⟩
  passes := by
    intro stage events start w isOpen permissive serves
    have lost : ¬ Lost w → ¬ Lost (w.log (writeOf message)) :=
      fun present => not_lost_log present (by rintro error ⟨⟩)
    rcases isOpen with rfl | rfl
    · obtain ⟨held, calm, timely, handles⟩ := serves
      have lenient := scene.lenient_of permissive
      obtain ⟨plain, received⟩ := timely.received lenient
      have later : Calm scene.toOutlook (w.log (writeOf message)) :=
        calm.passes held.stands.sane lenient plain received
      exact ⟨held.act (.passes handles permissive timely calm) (lost held.present), later,
        fun _ => storable_passes held.stands.sane held.present calm plain received later,
        ⟨_, rfl, handles.wrote (stateOf w)⟩, fun _ => permissive⟩
    · obtain ⟨held, ⟨inspecting, timely, handles⟩, kind⟩ := serves
      exact ⟨held.act (.writes handles inspecting kind (.inr permissive)) (lost held.present),
        inspecting.writes held.stands.sane kind, fun _ => inspecting.storable message,
        ⟨_, rfl, handles.wrote (stateOf w)⟩, fun _ => permissive⟩
  remembers := by
    intro events start w longData marked serves kind done
    obtain ⟨old, found, rest⟩ := bind_ok done
    split at rest
    · cases rest
    · cases rest
      exact serves.stores (.inl kind) ⟨old, getPreparedStatement_ok found, rfl⟩
  overlooks := by
    intro events start w longData error serves _ _
    exact serves.breaks (.refl (stateOf w))

/-- How the dispatch of a message leaves the connection when it returns. -/
structure Closed (scene : Scene σ) (forwarded : Bool) (start w : Link σ) : Prop where
  held : Present scene start w
  calm : Calm scene.toOutlook w
  closes : Closes scene.opts w forwarded

theorem Penned.closes {message : LogicalMessage} {events : List (Event adapter)}
    (penned : Penned scene w message events)
    (filed : ((commandOf message).kind ≠ .stmtExecute ∨ scene.opts.failSafeMode = .permissive) ∨
      Filed (stateOf w) events) : Closes scene.opts w true := by
  obtain ⟨⟨inspected, rfl, wrote⟩, -⟩ := penned
  refine .written wrote (filed.imp_right ?_)
  rintro ⟨known, decoded, statement, inside, found, types⟩
  exact ⟨known, decoded, statement, by simpa using inside, found, types⟩

/-- Types are registered under the id of the statement. -/
theorem filed_registers {state registered : SessionState} {statement : PreparedStatement}
    {decoded : StmtExecuteParameters} {events : List (Event adapter)}
    (inside : reconstruction statement decoded ∈ events)
    (done : state.registerStatementParameterTypes statement.statementId decoded.parameterTypes =
      .ok registered) : Filed registered events := by
  obtain ⟨old, -, rest⟩ := bind_ok done
  split at rest
  · cases rest
  · cases rest
    exact ⟨statement, decoded, _, inside, AList.lookup_insert _, rfl⟩

theorem concludes_closed (scene : Scene σ) (message : LogicalMessage) :
    Course.Concludes scene.opts message (Serves scene message) (Closed scene) where
  returns := by
    intro forwarded events start w serves other
    obtain ⟨held, amid⟩ := serves.present (by cases forwarded <;> decide)
    cases forwarded with
    | true => exact ⟨held, amid.1, amid.2.2.closes (.inl (other rfl))⟩
    | false =>
        obtain ⟨calm, before, refused, packet, trace⟩ := amid
        exact ⟨held, calm, .refused trace⟩
  registers := by
    intro events start w statement decoded registered serves inside done
    obtain ⟨held, amid⟩ := (course_serves scene message).registers _ _ _ _ _ _ serves inside done
    exact ⟨held, amid.1, amid.2.2.closes (.inr (filed_registers inside done))⟩

theorem completes_clientTurn {message : LogicalMessage} (stands : Stands scene.toOutlook w)
    (left : leaves scene .client w) (sends : scene.sends w message) :
    (promises scene).Completes (leaves scene) .client
      (clientTurn scene.tools scene.opts message) w (receive w message) := by
  obtain ⟨present, calm, unoccupied⟩ := left
  have traffic : SameTraffic w (receive w message) := sameTraffic_log rfl
  have begun : Serves scene message .considering [] w (receive w message) := by
    have held : Present scene w w := ⟨.refl, stands, present⟩
    refine ⟨held.act (.receives sends unoccupied) (not_lost_log present (by rintro error ⟨⟩)),
      traffic.calm rfl (fun lost => lost.log _) calm,
      (scene.timely sends).of_received traffic.received, ⟨w.trace, rfl⟩, ?_⟩
    simp
  unfold Promises.Completes clientTurn
  simp only [Proc.wp_handle, Proc.wp_bind, wp_record, Proc.wp_raised]
  apply Proc.wp_mono ((course_serves scene message).dispatchesTo (concludes_closed scene message)
    begun)
  · rintro forwarded start later ⟨held, calm, closes⟩
    have returned := held.act (.returns forwarded closes)
      (not_lost_log held.present (by rintro error ⟨⟩))
    exact ⟨returned.acts, returned.present,
      (sameTraffic_log rfl).calm rfl (fun lost => lost.log _) calm, .inr ⟨_, _, rfl⟩⟩
  · rintro error start later ⟨events, w₀, state, acts, undoes, rfl⟩
    exact Relation.ReflTransGen.tail acts (.loses error undoes)

/-! ## Every run -/

theorem completes_start (side : Side) {task : Handler adapter (Peer σ) Unit}
    (stands : Stands scene.toOutlook w) (left : leaves scene side w)
    (started : scene.system.start side w task w') :
    (promises scene).Completes (leaves scene) side task w w' := by
  cases side with
  | client =>
      obtain ⟨message, sends, rfl, rfl⟩ := started
      exact completes_clientTurn stands left sends
  | backend =>
      obtain ⟨packet, rest, isNext, rfl, rfl⟩ := started
      exact completes_backendTurn stands left isNext

/-- A connection on which nothing is under way. -/
structure Fresh (o : Outlook) (w : Link σ) : Prop where
  flags : w.session.auth.capabilityFlags = o.flags
  phase : w.session.phase = .commandResponse
  trace : w.trace = []
  out : w.clientOut = []
  answered : w.peer.answered = []
  read : w.peer.read = 0
  due : w.peer.due = .nothing
  free : (stateOf w).hasPendingLifecycleOperation = false

theorem Fresh.holds (fresh : Fresh scene.toOutlook w) :
    (promises scene).Holds (leaves scene) (Config.idle w) := by
  have sent : w.peer.sent = [] := by rw [Peer.sent, fresh.answered, List.flatten_nil]
  have none : unread w = [] := by rw [unread, sent, List.drop_nil]
  have relays : Relays w := by
    rw [Relays, fresh.out, sent, List.take_nil]
    rfl
  have idle : inFlight w = [] := by rw [inFlight, fresh.trace]; exact List.drop_nil
  have inStep : InStep scene.toOutlook w (stateOf w) := by
    rw [InStep, idle, none]
    exact (Outlook.foresees_silent_iff (by simp)).mpr (.inl (.inl fresh.free))
  have calm : Calm scene.toOutlook w := .follows relays fresh.due inStep
  have present : ¬ Lost w := by
    rintro ⟨error, inside⟩
    rw [fresh.trace] at inside
    cases inside
  have sane : Sane scene.toOutlook w := by
    refine ⟨fresh.flags, fresh.phase, ?_, ?_⟩
    · rw [fresh.answered]
      exact Nat.zero_le _
    · rw [fresh.read]
      exact Nat.zero_le _
  have atRest : AtRest w := ⟨fresh.due, by rw [fresh.read]; exact Nat.zero_le _⟩
  refine ⟨⟨sane, .inl calm⟩, ?_⟩
  intro side
  cases side with
  | client => exact ⟨present, calm, .inl fresh.trace⟩
  | backend => exact atRest

theorem holds_of_turns {c : Config awaits (Link σ) Exn Side}
    (fresh : Fresh scene.toOutlook w) (run : scene.system.Run anyTurn (Config.idle w) c) :
    (promises scene).Holds (leaves scene) c :=
  Promises.holds_of_run_resting (P := promises scene) (fun side _ _ => leaves_stable side)
    (fun side _ _ _ stands left started => completes_start side stands left started)
    fresh.holds run

/-! ## Client tasks that have not raised -/

/-- Short of breaking off, no move of a dispatch notes a loss. -/
theorem course_present (scene : Scene σ) (message : LogicalMessage) :
    Course scene.tools scene.opts message ((promises scene).keeping (fun w => ¬ Lost w) .client)
      (fun stage _ _ w => stage ≠ .broken → ¬ Lost w) where
  records := by
    intro stage events start w event isOpen isDecision held unbroken
    exact not_lost_log (held unbroken) (decision_not_loss isDecision)
  pauses := by
    intro stage q events start w steady held
    exact held steady.2
  resumes := by
    rintro stage q events start w answer w' steady held ⟨-, relied, -⟩ unbroken
    have undisturbed : Undisturbed scene.toOutlook w w' := relied
    exact not_lost_of_trace (held unbroken) undisturbed.trace
  prepared := by
    rintro w answer w' ⟨-, -, answered⟩
    exact answered rfl
  loses := fun _ _ _ _ _ _ _ _ _ broken => absurd rfl broken
  breaks := fun _ _ _ _ _ _ _ _ broken => absurd rfl broken
  opens := by
    intro start w after held opens _
    exact not_lost_log (w := withState w after) (held (by decide)) (by rintro error ⟨⟩)
  resolves := by
    intro start w execution statement decoded held resolves _
    exact not_lost_log (held (by decide)) (by rintro error ⟨⟩)
  abandons := fun _ _ _ held _ => held (by decide)
  queries := fun _ _ _ held _ _ => held (by decide)
  executes := fun _ _ _ held _ _ => held (by decide)
  forgets := fun _ _ held _ => held (by decide)
  approves := by
    intro events start w held approved _
    exact not_lost_log (held (by decide)) (by rintro error ⟨⟩)
  registers := fun _ _ _ _ _ _ held _ _ _ => held (by decide)
  misses := fun _ _ _ _ _ _ _ _ _ broken => absurd rfl broken
  refuses := by
    intro stage events start w packet isOpen held refusal _
    have other : ∀ error, refusalOf message packet ≠ lossOf error := by rintro error ⟨⟩
    refine not_lost_log (held ?_) other
    rcases isOpen with rfl | rfl <;> decide
  settles := fun _ _ _ held _ => held (by decide)
  passes := by
    intro stage events start w isOpen permissive held _
    refine not_lost_log (held ?_) (by rintro error ⟨⟩)
    rcases isOpen with rfl | rfl <;> decide
  remembers := fun _ _ _ _ _ held _ _ _ => held (by decide)
  overlooks := fun _ _ _ _ _ _ _ _ broken => absurd rfl broken

theorem clientTurn_present {message : LogicalMessage} (present : ¬ Lost w) :
    Proc.wp ((promises scene).keeping (fun w => ¬ Lost w) .client)
      (clientTurn scene.tools scene.opts message) (fun _ _ w => ¬ Lost w) (fun _ _ _ => True) w
      (receive w message) := by
  have begun : ¬ Lost (receive w message) := not_lost_log present (by rintro error ⟨⟩)
  unfold clientTurn
  simp only [Proc.wp_handle, Proc.wp_bind, wp_record, Proc.wp_raised]
  apply Proc.wp_mono ((course_present scene message).dispatches fun _ => begun)
  · rintro forwarded start later ⟨events, held⟩
    exact not_lost_log (held (by cases forwarded <;> decide)) (by rintro error ⟨⟩)
  · intro error start later _
    trivial

/-- In every run a loss is noted only by a client task that raises. -/
theorem present_of_run {c : Config awaits (Link σ) Exn Side}
    (fresh : Fresh scene.toOutlook w) (run : scene.system.Run anyTurn (Config.idle w) c)
    (unraised : ∀ error, c.task .client ≠ .raised error) : ¬ Lost c.shared := by
  have holds : (promises scene).Holds (leaves scene) (Config.idle w) := fresh.holds
  have relies : ∀ w w', ¬ Lost w → (promises scene).rely .client w w' → ¬ Lost w' :=
    fun w w' present relied =>
      not_lost_of_trace present (show Undisturbed scene.toOutlook w w' from relied).trace
  have alive := Promises.alive_of_run (P := promises scene) (fun side _ _ => leaves_stable side)
    (fun side _ _ _ stands left started => completes_start side stands left started) relies
    (by
      rintro w task w' - - present ⟨message, -, rfl, rfl⟩
      exact clientTurn_present present)
    holds (holds.2 .client).1 run
  exact alive.holds unraised

/-! ### Clients whose messages find a task -/

/-- The same scene, with messages only for a client task that has not raised. -/
def Scene.heeded (scene : Scene σ) : Scene σ where
  toOutlook := scene.toOutlook
  tools := scene.tools
  opts := scene.opts
  server := scene.server
  sends w message := ¬ Lost w ∧ scene.sends w message
  lenient_of := scene.lenient_of
  timely sends := scene.timely sends.2
  plain := scene.plain

/-- Messages find no task that has raised. -/
theorem heeded_of_run {allowed : Option Side → Link σ → Link σ → Prop}
    {c : Config awaits (Link σ) Exn Side} (fresh : Fresh scene.toOutlook w)
    (run : scene.system.Run allowed (Config.idle w) c) :
    scene.heeded.system.Run allowed (Config.idle w) c := by
  refine run.turns ?_
  intro c c' who run turn _
  have present := present_of_run fresh (run.mono fun _ _ _ _ => trivial)
  cases turn with
  | environment moved => exact .environment moved
  | resume suspended answered => exact .resume suspended answered
  | @start _ side task w' done started =>
      refine .start done ?_
      cases side with
      | backend => exact started
      | client =>
          obtain ⟨message, sends, rfl, rfl⟩ := started
          exact ⟨message, ⟨present (by rw [done]; rintro error ⟨⟩), sends⟩, rfl, rfl⟩

/-- After a loss no message is being handled. -/
def Sealed (w : Link σ) : Prop := Lost w → ∀ message events, ¬ Handles w message events

/-- The note of a loss, or of an end, is no part of handling a message. -/
theorem not_handles_log {event : Event adapter} {message : LogicalMessage}
    {events : List (Event adapter)} (decided : ¬ Undecided event)
    (other : event ≠ .noted (.received message)) : ¬ Handles (w.log event) message events := by
  rintro ⟨⟨before, trace⟩, all⟩
  rw [World.log_trace] at trace
  cases events using List.reverseRecOn with
  | nil =>
      have last := List.append_inj_right' trace rfl
      exact other (List.cons.inj last).1
  | append_singleton events last =>
      rw [← List.cons_append, ← List.append_assoc] at trace
      have same := List.append_inj_right' trace rfl
      rw [(List.cons.inj same).1] at decided
      exact decided (all last (by simp))

theorem Sealed.of_trace (isSealed : Sealed w) (same : w'.trace = w.trace) : Sealed w' := by
  intro lost message events handles
  exact isSealed (lost.of_trace same.symm) message events (handles.of_trace same.symm)

/-- A message that is being handled finds the client task alive. -/
theorem Sealed.present (isSealed : Sealed w) {message : LogicalMessage}
    {events : List (Event adapter)} (handles : Handles w message events) : ¬ Lost w :=
  fun lost => isSealed lost message events handles

/-- No message is being handled right after one has ended. -/
theorem sealed_closing {event : Event adapter} (decided : ¬ Undecided event)
    (other : ∀ message, event ≠ .noted (.received message)) : Sealed (w.log event) :=
  fun _ message _ => not_handles_log decided (other message)

theorem sealed_present {event : Event adapter} (present : ¬ Lost w)
    (quiet : ∀ error, event ≠ lossOf error) : Sealed (w.log event) :=
  fun lost => absurd lost (not_lost_log present quiet)

/-- A message that finds a task seals nothing that is being handled. -/
theorem ClientAct.sealed (isSealed : Sealed w) (act : ClientAct scene.heeded w w') :
    Sealed w' := by
  cases act with
  | receives sends _ => exact sealed_present sends.1 (by rintro error ⟨⟩)
  | records handles isDecision =>
      exact sealed_present (isSealed.present handles) (decision_not_loss isDecision)
  | resolves handles _ => exact sealed_present (isSealed.present handles) (by rintro error ⟨⟩)
  | begins _ _ _ => exact isSealed.of_trace rfl
  | forgets _ => exact isSealed.of_trace rfl
  | stores _ _ _ => exact isSealed.of_trace rfl
  | writes handles => exact sealed_present (isSealed.present handles) (by rintro error ⟨⟩)
  | passes handles => exact sealed_present (isSealed.present handles) (by rintro error ⟨⟩)
  | opens handles _ _ =>
      exact sealed_present (w := withState w _) (isSealed.present handles) (by rintro error ⟨⟩)
  | @refuses message packet _ handles _ =>
      have after : Sealed (w.log (refusalOf message packet)) :=
        sealed_present (isSealed.present handles) (by rintro error ⟨⟩)
      exact after.of_trace rfl
  | returns _ _ => exact sealed_closing id (by rintro message ⟨⟩)
  | loses _ _ => exact sealed_closing id (by rintro message ⟨⟩)

end SqlSafetyProxy.MySql
