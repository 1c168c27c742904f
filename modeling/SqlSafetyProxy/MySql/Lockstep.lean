import SqlSafetyProxy.MySql.Serving
import SqlSafetyProxy.MySql.SessionInvariant

/-!
# Clients that wait for each response

A client in lock-step sends a command only after it has received the complete
response to the one before.  Its next command can still be refused as coming
too early: a prepare is ended only after its last packet has drained.
-/

namespace SqlSafetyProxy.MySql

open SqlSafetyProxy.Policy SqlSafetyProxy.Wire SqlSafetyProxy.Runtime SqlSafetyProxy.Coroutine

variable {Γ σ : Type}

/-! ## The refusal of a command that comes too early -/

/-- The reason that is given when another command is still pending. -/
def pendingReason : String :=
  "A MySQL command cannot run while a prior command " ++ "acknowledgment is pending"

/-- A command is refused because another one is still pending. -/
def RefusedAsPending (state : SessionState) (message : LogicalMessage) : Prop :=
  ∃ command, parseLogicalCommand message = .ok command ∧
    state.hasPendingLifecycleOperation = true ∧ command.kind ≠ .quit ∧
    isPipelinedExecute command state = false

/-- Commands that are never refused for that reason. -/
def Unhindered (state : SessionState) (message : LogicalMessage) : Prop :=
  ∀ command, parseLogicalCommand message = .ok command →
    command.kind = .quit ∨ isPipelinedExecute command state = true

/-- The dispatch of a refused command is the refusal and nothing else. -/
theorem dispatch_refusedAsPending {tools : Tools} {opts : ProxyOptions}
    {message : LogicalMessage} {w : World adapter Γ}
    (refused : RefusedAsPending w.session.session message) :
    (dispatchAuthenticatedCommand tools opts message).advance w =
      (blockProtocolStateError pendingReason message).advance w := by
  obtain ⟨command, parsed, guarded⟩ := refused
  unfold dispatchAuthenticatedCommand
  rw [parsed]
  change Proc.advance (if _ then _ else _ : Handler adapter Γ Bool) w = _
  rw [if_pos guarded]
  rfl

/-- Every other command is routed. -/
theorem dispatch_routed {tools : Tools} {opts : ProxyOptions} {message : LogicalMessage}
    {command : Command} {w : World adapter Γ} (parsed : parseLogicalCommand message = .ok command)
    (taken : ¬ RefusedAsPending w.session.session message) :
    (dispatchAuthenticatedCommand tools opts message).advance w =
      (routeCommand tools opts message command).advance w := by
  unfold dispatchAuthenticatedCommand
  rw [parsed]
  change Proc.advance (if _ then _ else _ : Handler adapter Γ Bool) w = _
  rw [if_neg fun guarded => taken ⟨command, parsed, guarded⟩]

theorem not_refusedAsPending_iff {state : SessionState} {message : LogicalMessage} :
    ¬ RefusedAsPending state message ↔
      state.hasPendingLifecycleOperation = false ∨ Unhindered state message := by
  constructor
  · intro taken
    cases pending : state.hasPendingLifecycleOperation with
    | false => exact .inl rfl
    | true =>
        refine .inr ?_
        intro command parsed
        by_contra hindered
        obtain ⟨other, single⟩ := not_or.mp hindered
        exact taken ⟨command, parsed, pending, other, by simpa using single⟩
  · rintro (free | unhindered) ⟨command, parsed, pending, other, single⟩
    · rw [free] at pending
      cases pending
    · rcases unhindered command parsed with quit | pipelined
      · exact other quit
      · rw [single] at pipelined
        cases pipelined

/-! ## Clients in lock-step -/

/-- A client in lock-step that opens no cursors, and the server it talks to. -/
structure Lockstep (σ : Type) where
  flags : Nat
  tools : Tools
  opts : ProxyOptions
  server : Server flags σ
  sends : Link σ → LogicalMessage → Prop
  complete : ∀ {w message}, sends w message → Received w
  plain : ∀ {state message packets later}, server.replies state message packets later →
    (commandOf message).kind = .stmtExecute → Results flags (packets.map Packet.payload)

def Lockstep.scene (client : Lockstep σ) : Scene σ where
  flags := client.flags
  cursors := False
  lenient := client.opts.failSafeMode = .permissive
  tools := client.tools
  opts := client.opts
  server := client.server
  sends := client.sends
  lenient_of := id
  timely sends := .inr ⟨id, client.complete sends⟩
  plain replies _ := client.plain replies

/-- What a command of such a client meets: nothing, or a prepare that has not been ended. -/
theorem Lockstep.meets {client : Lockstep σ} {w : Link σ}
    (stands : Stands client.scene.toOutlook w) (left : leaves client.scene .client w)
    (received : Received w) :
    (stateOf w).hasPendingLifecycleOperation = false ∨ Ends client.scene.toOutlook w := by
  obtain ⟨present, calm, -⟩ := left
  cases calm with
  | lost lost => exact absurd lost present
  | jammed jammed => exact absurd received (jammed.not_received stands.sane)
  | ends ends => exact .inr ends
  | follows relays due inStep =>
      rcases settled_of_received received relays inStep with free | ⟨cursors, -⟩
      · exact .inl free
      · exact cursors.elim

/--
In every run a command of a client in lock-step is taken up exactly if the
backend task is between two packets, no prepare is pending, or the command is
one that need not wait.
-/
theorem lockstep_taken_iff (client : Lockstep σ) {w : Link σ}
    (fresh : Fresh client.scene.toOutlook w) {c : Config awaits (Link σ) Exn Side}
    (run : client.scene.system.Run anyTurn (Config.idle w) c)
    (idle : c.task .client = .done ()) {message : LogicalMessage}
    (sends : client.sends c.shared message) :
    ¬ RefusedAsPending (stateOf c.shared) message ↔
      c.task .backend = .done () ∨ (stateOf c.shared).pendingStatementSql = none ∨
        Unhindered (stateOf c.shared) message := by
  obtain ⟨stands, ready⟩ := holds_of_turns fresh run
  have left : leaves client.scene .client c.shared := by
    have isReady := ready .client
    rwa [idle] at isReady
  have meets := Lockstep.meets stands left (client.complete sends)
  rw [not_refusedAsPending_iff]
  constructor
  · rintro (free | unhindered)
    · exact .inr (.inl (hasPending_eq_false.mp free).2.1)
    · exact .inr (.inr unhindered)
  · rintro (between | none | unhindered)
    · refine .inl (meets.resolve_right ?_)
      intro ends
      have atRest : AtRest c.shared := by
        have isReady := ready .backend
        rwa [between] at isReady
      exact ends.unsettled atRest.due
    · refine .inl (meets.resolve_right ?_)
      intro ends
      have prepare := ends.prepare
      rw [none] at prepare
      cases prepare
    · exact .inr unhindered

/-! ## A ping that comes too early -/

/-- A server that gives any well-formed answers and opens no cursors. -/
def plainServer (flags : Nat) : Server flags Unit where
  replies _ message packets _ :=
    Responds flags (commandOf message).kind (packets.map Packet.payload) ∧
      (∀ packet ∈ packets, packet.payload.length < maxPacketPayload) ∧
      ((commandOf message).kind = .stmtExecute → Results flags (packets.map Packet.payload))
  responds replies := replies.1
  short replies := replies.2.1

/-- Any command may come as soon as the responses are complete. -/
def patientClient : Lockstep Unit where
  flags := clientProtocol41
  tools := plainTools
  opts := strictOptions
  server := plainServer clientProtocol41
  sends w _ := Received w
  complete := id
  plain replies := replies.2.2

/-- The connection before anything has been sent. -/
def quietLink : Link Unit := commandPhase clientProtocol41 { database := "shop" } { server := () }

theorem fresh_quietLink : Fresh patientClient.scene.toOutlook quietLink :=
  ⟨rfl, rfl, rfl, rfl, rfl, rfl, rfl, rfl⟩

/-- A prepare is acknowledged: one statement without parameters and columns. -/
def preparationOk : Packet := packetOf 1 [0, 1, 0, 0, 0, 0, 0, 0, 0, 0, 0, 0]

theorem preparationOk_responds :
    PrepareResponse clientProtocol41 [preparationOk.payload] := by
  have metadata : PrepareMetadata clientProtocol41 ⟨1, 0, 0⟩ ([] ++ []) :=
    .mk (.none rfl) (.none rfl)
  exact .ok (.mk 1 0 0 0 0 0 0 0 0 0 0 []) metadata

/-- The prepare has been written and answered. -/
def answeredLink : Link Unit :=
  hear ((clientTurn plainTools strictOptions preparation).run
    (fun q s => (userAnswers true q, s)) (receive quietLink preparation)).2 [preparationOk] ()

theorem rests_answeredLink : patientClient.scene.system.Rests quietLink answeredLink := by
  have asked : Proc.asksOnly (fun q : Request => decide (q ≠ .prepareEvent))
      (fun q s => (userAnswers true q, s)) (clientTurn plainTools strictOptions preparation)
      (receive quietLink preparation) = true := by decide +kernel
  have returned : ((clientTurn plainTools strictOptions preparation).run
      (fun q s => (userAnswers true q, s)) (receive quietLink preparation)).1 = .ok () := by
    decide +kernel
  have ready : Received quietLink := by
    refine ⟨rfl, ?_⟩
    simp [inFlight, quietLink, commandPhase, written]
  have rests := (System.Rests.refl (S := patientClient.scene.system) quietLink).turn
    (userAnswers true) answers_others (i := .client) ⟨preparation, ready, rfl, rfl⟩ asked returned
  have isNext : inFlight ((clientTurn plainTools strictOptions preparation).run
      (fun q s => (userAnswers true q, s)) (receive quietLink preparation)).2 = [preparation] := by
    decide +kernel
  have replies : (plainServer clientProtocol41).replies () preparation [preparationOk] () := by
    refine ⟨preparationOk_responds, by decide, ?_⟩
    rintro ⟨⟩
  exact rests.environment (.mk isNext replies)

/-- The acknowledgment has been relayed and has still to drain. -/
def relayingLink : Config awaits (Link Unit) Exn Side :=
  (Config.idle answeredLink).turn .backend (backendTurn preparationOk)
    (takeUp answeredLink preparationOk)

theorem reaches_relayingLink : ∃ c, patientClient.scene.system.Run anyTurn (Config.idle quietLink) c ∧
    c.shared = relayingLink.shared ∧ c.task .client = .done () := by
  obtain ⟨c, run, shared, idle⟩ := rests_answeredLink
  have isNext : unread c.shared = [preparationOk] := by
    rw [shared]
    decide +kernel
  have started : patientClient.scene.system.Step (some .backend) c
      (c.turn .backend (backendTurn preparationOk) (takeUp c.shared preparationOk)) :=
    .start (idle _) ⟨_, _, isNext, rfl, rfl⟩
  refine ⟨_, run.step started trivial, ?_, ?_⟩
  · rw [shared]
    rfl
  · simpa [Config.turn] using idle .client

theorem received_relayingLink : Received relayingLink.shared := by
  unfold Received
  decide +kernel

def parting : LogicalMessage := messageOf [0x01]

theorem parting_parses {command : Command} (parsed : parseLogicalCommand parting = .ok command) :
    command.kind = .quit := by
  have same : parseLogicalCommand parting = .ok ⟨0x01, .quit, []⟩ := by decide +kernel
  rw [same] at parsed
  cases parsed
  rfl

def earlyPing : LogicalMessage := messageOf [0x0E]

/-- The acknowledgment has drained and the prepare has been ended. -/
def preparedLink : Link Unit :=
  ((backendTurn preparationOk).run (fun q s => (userAnswers true q, s))
    (takeUp answeredLink preparationOk)).2

theorem rests_preparedLink : patientClient.scene.system.Rests quietLink preparedLink := by
  have asked : Proc.asksOnly (fun q : Request => decide (q ≠ .prepareEvent))
      (fun q s => (userAnswers true q, s)) (backendTurn preparationOk)
      (takeUp answeredLink preparationOk) = true := by decide +kernel
  have returned : ((backendTurn preparationOk).run (fun q s => (userAnswers true q, s))
      (takeUp answeredLink preparationOk)).1 = .ok () := by decide +kernel
  have isNext : unread answeredLink = [preparationOk] := by decide +kernel
  exact rests_answeredLink.turn (userAnswers true) answers_others (i := .backend)
    ⟨preparationOk, [], isNext, rfl, rfl⟩ asked returned

/-- The client may leave while the acknowledgment drains, and ping when it has drained. -/
theorem preparedPing_taken :
    (∃ c, patientClient.scene.system.Run anyTurn (Config.idle quietLink) c ∧
      c.shared = relayingLink.shared ∧ patientClient.sends c.shared parting ∧
      ¬ RefusedAsPending (stateOf c.shared) parting) ∧
    ∃ c, patientClient.scene.system.Run anyTurn (Config.idle quietLink) c ∧
      c.shared = preparedLink ∧ patientClient.sends c.shared earlyPing ∧
      ¬ RefusedAsPending (stateOf c.shared) earlyPing := by
  constructor
  · obtain ⟨c, run, shared, idle⟩ := reaches_relayingLink
    have sends : patientClient.sends c.shared parting := by
      rw [shared]
      exact received_relayingLink
    refine ⟨c, run, shared, sends, ?_⟩
    exact (lockstep_taken_iff patientClient fresh_quietLink run idle sends).mpr
      (.inr (.inr fun command parsed => .inl (parting_parses parsed)))
  · obtain ⟨c, run, shared, idle⟩ := rests_preparedLink
    have sends : patientClient.sends c.shared earlyPing := by
      rw [shared]
      change Received preparedLink
      unfold Received
      decide +kernel
    refine ⟨c, run, shared, sends, ?_⟩
    exact (lockstep_taken_iff patientClient fresh_quietLink run (idle .client) sends).mpr
      (.inl (idle .backend))

/-- A ping that comes after the whole response to a prepare is refused as coming too early. -/
theorem earlyPing_refused :
    ¬ ∀ (client : Lockstep Unit) (w : Link Unit) (c : Config awaits (Link Unit) Exn Side)
      (message : LogicalMessage), Fresh client.scene.toOutlook w →
      client.scene.system.Run anyTurn (Config.idle w) c → c.task .client = .done () →
      client.sends c.shared message → ¬ RefusedAsPending (stateOf c.shared) message := by
  intro never
  obtain ⟨c, run, shared, idle⟩ := reaches_relayingLink
  have sends : patientClient.sends c.shared earlyPing := by
    rw [shared]
    exact received_relayingLink
  have taken := never patientClient quietLink c earlyPing fresh_quietLink run idle sends
  rw [shared] at taken
  exact taken ⟨⟨0x0E, .ping, []⟩, by decide +kernel, by decide +kernel, by decide, by decide +kernel⟩

end SqlSafetyProxy.MySql
