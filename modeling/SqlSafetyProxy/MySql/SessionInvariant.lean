import SqlSafetyProxy.MySql.Exchange
import SqlSafetyProxy.MySql.Moves
import SqlSafetyProxy.Runtime.Recording

/-!
# The session invariant in every run

Each operation of the two tasks keeps the representation invariant, so every
state reached by any interleaving of them has it, in every fail-safe mode.
-/

namespace SqlSafetyProxy.MySql

open SqlSafetyProxy.Sql SqlSafetyProxy.Policy SqlSafetyProxy.Wire SqlSafetyProxy.Runtime
open SqlSafetyProxy.Coroutine Proc

variable {Γ : Type} {tools : Tools} {opts : ProxyOptions} {message : LogicalMessage}
  {command : Command} {C : Proc.Contract awaits (World adapter Γ)}

/-- A connection with a consistent session. -/
def Sound (w : World adapter Γ) : Prop := Consistent w.session.session

/-! ## Steps -/

section Steps

variable {condition : World adapter Γ → Prop}

theorem keeps_sessionState : Keeps C condition (sessionState : Handler adapter Γ SessionState) :=
  keeps_bind keeps_session fun _ => keeps_pure _

end Steps

theorem keeps_record (event : Event adapter) :
    Keeps C Sound (record event : Handler adapter Γ Unit) := keeps_update fun _ sound => sound

theorem keeps_writeBackend (source : Source) (raw : Bytes) :
    Keeps C Sound (writeBackend source raw : Handler adapter Γ Unit) := keeps_record _

theorem keeps_writeClient (write : ClientWrite) :
    Keeps C Sound (writeClient write : Handler adapter Γ Unit) := keeps_update fun _ sound => sound

theorem keeps_updateSession {change : SessionState → SessionState}
    (kept : ∀ state, Consistent state → Consistent (change state)) :
    Keeps C Sound (updateSession change : Handler adapter Γ Unit) :=
  keeps_update fun _ sound => kept _ sound

theorem keeps_changeSession {change : SessionState → Except Exn SessionState}
    (kept : ∀ state changed, Consistent state → change state = .ok changed → Consistent changed) :
    Keeps C Sound (changeSession change : Handler adapter Γ Unit) := by
  intro start w sound
  apply wp_changeSession
  · intro changed done
    exact kept _ _ sound done
  · intro error failed
    exact sound

/-! ## The decision path -/

/-- The condition as the decision path carries it. -/
def Holds (_ : List (Event adapter)) (_ w : World adapter Γ) : Prop := Sound w

theorem carried_sound (guards : Guards C Sound) : Carried C Holds where
  records _ _ _ _ _ _ sound := sound
  pauses q _ start w sound := guards.pauses q start w sound
  resumes q _ _ w answer w' sound relied := guards.resumes q w answer w' sound relied

theorem keeps_classifySql (sql : String) :
    Keeps C Sound (classifySql tools opts sql : Handler adapter Γ Classification) := by
  intro start w sound
  rw [wp_classifySql]
  exact sound

theorem keeps_estimate (guards : Guards C Sound) (classification : Classification)
    (database : String) :
    Keeps C Sound (estimate classification database : Handler adapter Γ _) := by
  intro start w sound
  have holds : Holds [] start w := sound
  exact wp_estimate (carried_sound guards) holds fun _ _ _ later => later

theorem keeps_evaluateAndDecide (guards : Guards C Sound) (sql protocol : String)
    (classification : Classification) (estimatedRows : Option Int)
    (estimateError : Option String) (approximate : Bool) (database : String) :
    Keeps C Sound (evaluateAndDecide tools opts sql protocol classification estimatedRows
      estimateError approximate database : Handler adapter Γ _) := by
  intro start w sound
  have holds : Holds [] start w := sound
  refine wp_evaluateAndDecide (carried_sound guards) holds ?_ ?_
  · intro _ _ _ _ _ later _ _
    exact later
  · intro _ _ _ _ later _
    exact later

theorem keeps_writeAuditEvent (guards : Guards C Sound) (sql protocol : String)
    (classification : Classification) (decision : PolicyDecision) (finalDecision : FinalDecision)
    (estimatedRows : Option Int) (estimateError : Option String) (approximate : Bool)
    (database : String) :
    Keeps C Sound (writeAuditEvent tools opts sql protocol classification decision finalDecision
      estimatedRows estimateError approximate database : Handler adapter Γ Unit) := by
  intro start w sound
  have holds : Holds [] start w := sound
  refine wp_writeAuditEvent (carried_sound guards) holds ?_
  intro _ _ _ later _
  exact later

/-! ## Handlers -/

theorem keeps_forward (guards : Guards C Sound) :
    Keeps C Sound (forward message : Handler adapter Γ Bool) :=
  keeps_bind (keeps_writeBackend _ _) fun _ =>
    keeps_bind (keeps_drain guards) fun _ => keeps_pure true

theorem keeps_refuse (guards : Guards C Sound) (text : String) (errorCode : Nat)
    (sqlState : String) :
    Keeps C Sound (refuse message text errorCode sqlState : Handler adapter Γ Bool) :=
  keeps_bind (keeps_ofExcept _) fun _ => keeps_bind (keeps_record _) fun _ =>
    keeps_bind (keeps_writeClient _) fun _ => keeps_bind (keeps_drain guards) fun _ =>
      keeps_pure false

theorem keeps_gap (guards : Guards C Sound) (reason : String) (commandCode : Option UInt8)
    (database : String) :
    Keeps C Sound (handleMysqlProtocolGap tools opts reason commandCode message database :
      Handler adapter Γ Bool) := by
  refine keeps_bind (keeps_writeAuditEvent guards _ _ _ _ _ _ _ _ _) ?_
  intro _
  split
  · exact keeps_forward guards
  · exact keeps_refuse guards _ _ _

theorem keeps_commandGap (guards : Guards C Sound) (reason : String) :
    Keeps C Sound (commandGap tools opts message command reason : Handler adapter Γ Bool) :=
  keeps_bind keeps_sessionState fun _ => keeps_gap guards _ _ _

theorem keeps_blockProtocolStateError (guards : Guards C Sound) (reason : String) :
    Keeps C Sound (blockProtocolStateError reason message : Handler adapter Γ Bool) :=
  keeps_refuse guards _ _ _

theorem keeps_carryOut (guards : Guards C Sound) (classification : Classification)
    (estimatedRows : Option Int) (outcome : Bool × PolicyDecision) :
    Keeps C Sound (carryOut message classification estimatedRows outcome :
      Handler adapter Γ Bool) := by
  unfold carryOut
  split
  · exact keeps_forward guards
  · exact keeps_refuse guards _ _ _

theorem keeps_handleMysqlQuery (guards : Guards C Sound) (payload : Bytes) (database : String) :
    Keeps C Sound (handleMysqlQuery tools opts message payload database :
      Handler adapter Γ Bool) :=
  keeps_bind (keeps_ofExcept _) fun _ => keeps_bind (keeps_classifySql _) fun _ =>
    keeps_bind (keeps_estimate guards _ _) fun _ =>
      keeps_bind (keeps_evaluateAndDecide guards _ _ _ _ _ _ _) fun _ =>
        keeps_carryOut guards _ _ _

theorem keeps_estimateStmtExecute (guards : Guards C Sound) (classification : Classification)
    (estimateSafe : Bool) (database : String) :
    Keeps C Sound (estimateStmtExecute classification estimateSafe database :
      Handler adapter Γ _) := by
  refine keeps_bind ?_ fun _ => keeps_pure _
  unfold estimateWhenSafe
  split
  · exact keeps_estimate guards _ _
  · exact keeps_pure _

theorem keeps_handleMysqlStmtExecute (guards : Guards C Sound)
    (inspectionSql sqlDescription : String) (estimateSafe : Bool) (database : String) :
    Keeps C Sound (handleMysqlStmtExecute tools opts message inspectionSql sqlDescription
      estimateSafe database : Handler adapter Γ Bool) := by
  refine keeps_bind (keeps_classifySql _) ?_
  intro inspected
  split
  · exact keeps_gap guards _ _ _
  · exact keeps_bind (keeps_estimateStmtExecute guards _ _ _) fun _ =>
      keeps_bind (keeps_evaluateAndDecide guards _ _ _ _ _ _ _) fun _ =>
        keeps_carryOut guards _ _ _

/-! ## The dispatcher -/

theorem keeps_failCommandForward :
    Keeps C Sound (updateSession SessionState.failCommandForward : Handler adapter Γ Unit) :=
  keeps_updateSession fun _ consistent => consistent.failCommandForward

theorem keeps_settleResponse (forwarded : Bool) :
    Keeps C Sound (settleResponse forwarded : Handler adapter Γ Bool) := by
  cases forwarded with
  | true => exact keeps_pure true
  | false => exact keeps_bind keeps_failCommandForward fun _ => keeps_pure false

theorem keeps_beginCommandResponse (kind : ResponseKind) :
    Keeps C Sound (changeSession fun state => state.beginCommandResponse kind :
      Handler adapter Γ Unit) := by
  refine keeps_changeSession ?_
  intro state begun consistent done
  obtain ⟨free, rfl⟩ := beginCommandResponse_ok done
  exact consistent.awaitingResponse free kind

theorem keeps_dispatchQuery (guards : Guards C Sound) :
    Keeps C Sound (dispatchQuery tools opts message command : Handler adapter Γ Bool) := by
  refine keeps_bind (keeps_attempt (keeps_beginCommandResponse _)) ?_
  intro begun
  cases begun with
  | error reason => exact keeps_blockProtocolStateError guards _
  | ok _ =>
      refine keeps_bind keeps_sessionState fun state => keeps_bind (keeps_onRaise
        (keeps_attempt (keeps_handleMysqlQuery guards _ _)) keeps_failCommandForward) ?_
      intro handled
      cases handled with
      | error reason =>
          exact keeps_bind keeps_failCommandForward fun _ => keeps_commandGap guards _
      | ok forwarded => exact keeps_settleResponse forwarded

theorem keeps_dispatchBeginning (guards : Guards C Sound)
    {change : SessionState → Except Exn SessionState}
    (kept : ∀ state changed, Consistent state → change state = .ok changed → Consistent changed) :
    Keeps C Sound (dispatchBeginning tools opts message command change :
      Handler adapter Γ Bool) := by
  refine keeps_bind (keeps_attempt (keeps_changeSession kept)) ?_
  intro begun
  cases begun with
  | error reason => exact keeps_commandGap guards _
  | ok _ => exact keeps_forward guards

theorem keeps_dispatchAcknowledged (guards : Guards C Sound)
    {change : SessionState → Except Exn SessionState} {undo : SessionState → SessionState}
    (kept : ∀ state changed, Consistent state → change state = .ok changed → Consistent changed)
    (undone : ∀ state, Consistent state → Consistent (undo state)) :
    Keeps C Sound (dispatchAcknowledged message change undo : Handler adapter Γ Bool) := by
  refine keeps_bind (keeps_onRaise (keeps_attempt (keeps_bind (keeps_changeSession kept) fun _ =>
    keeps_forward guards)) (keeps_updateSession undone)) ?_
  intro handled
  cases handled with
  | error reason => exact keeps_blockProtocolStateError guards _
  | ok forwarded => exact keeps_pure forwarded

theorem keeps_dispatchPing (guards : Guards C Sound) :
    Keeps C Sound (dispatchPing message command : Handler adapter Γ Bool) := by
  unfold dispatchPing
  split
  · exact keeps_blockProtocolStateError guards _
  · refine keeps_dispatchAcknowledged guards ?_ fun _ consistent => consistent.failPing
    intro state begun consistent done
    obtain ⟨free, rfl⟩ := beginPing_ok done
    exact consistent.awaitingPing free

theorem keeps_dispatchStmtReset (guards : Guards C Sound) :
    Keeps C Sound (dispatchStmtReset message command : Handler adapter Γ Bool) := by
  refine keeps_dispatchAcknowledged guards ?_ fun _ consistent => consistent.failStatementReset
  intro state begun consistent done
  obtain ⟨statementId, -, done⟩ := bind_ok done
  obtain ⟨free, -, rfl⟩ := beginStatementReset_ok done
  exact consistent.awaitingReset free statementId

theorem keeps_dispatchInitDb (guards : Guards C Sound) :
    Keeps C Sound (dispatchInitDb tools opts message command : Handler adapter Γ Bool) := by
  refine keeps_dispatchBeginning guards ?_
  intro state begun consistent done
  obtain ⟨database, -, done⟩ := bind_ok done
  obtain ⟨free, rfl⟩ := beginDatabaseChange_ok done
  exact consistent.awaitingDatabase free _

theorem keeps_dispatchStmtPrepare (guards : Guards C Sound) :
    Keeps C Sound (dispatchStmtPrepare tools opts message command : Handler adapter Γ Bool) := by
  refine keeps_dispatchBeginning guards ?_
  intro state begun consistent done
  obtain ⟨sql, -, done⟩ := bind_ok done
  obtain ⟨free, rfl⟩ := beginStatementPrepare_ok done
  exact consistent.awaitingPrepare free _

theorem keeps_dispatchQuit (guards : Guards C Sound) :
    Keeps C Sound (dispatchQuit message : Handler adapter Γ Bool) :=
  keeps_bind (keeps_updateSession fun _ consistent => consistent.markClosing) fun _ =>
    keeps_forward guards

/-- A statement is closed in the segment in which nothing was found pending. -/
theorem keeps_dispatchStmtClose (guards : Guards C Sound) :
    Keeps C Sound (dispatchStmtClose tools opts message command : Handler adapter Γ Bool) := by
  intro start w sound
  simp only [dispatchStmtClose, wp_bind, wp_sessionState]
  generalize ("COM_STMT_CLOSE cannot run while a MySQL command " ++
    "acknowledgment is pending") = reason
  cases pending : w.session.session.hasPendingLifecycleOperation with
  | true =>
      rw [if_pos rfl]
      exact keeps_blockProtocolStateError guards reason start w sound
  | false =>
      simp only [Bool.false_eq_true, if_false, wp_bind]
      apply wp_attempt
      apply wp_ofExcept
      · intro statementId parsed
        have closed : Sound (withState w
            (w.session.session.closePreparedStatement statementId)) :=
          Consistent.closePreparedStatement sound pending statementId
        exact keeps_forward guards start _ closed
      · intro error failed
        cases error with
        | protocol reason => exact keeps_commandGap guards reason start w sound
        | connectionLost => exact sound
        | failure exception => exact sound

theorem keeps_executedStatement (guards : Guards C Sound) (execution : StmtExecute) :
    Keeps C Sound (executedStatement execution : Handler adapter Γ _) := by
  unfold executedStatement
  split
  · refine keeps_bind keeps_sessionState ?_
    intro state
    split
    · split
      · exact keeps_raised _
      · exact keeps_bind (keeps_ask guards _) fun _ =>
          keeps_bind keeps_sessionState fun _ => keeps_ofExcept _
    · exact keeps_bind (keeps_ofExcept _) fun _ => keeps_pure _
  · exact keeps_bind keeps_sessionState fun _ =>
      keeps_bind (keeps_ofExcept _) fun _ => keeps_pure _

theorem keeps_reconstructExecution (execution : StmtExecute) (statement : PreparedStatement) :
    Keeps C Sound (reconstructExecution tools execution statement : Handler adapter Γ _) := by
  unfold reconstructExecution
  split
  · exact keeps_raised _
  · exact keeps_bind (keeps_ofExcept _) fun _ => keeps_bind (keeps_record _) fun _ =>
      keeps_bind (keeps_ofExcept _) fun _ => keeps_pure _

theorem keeps_resolveExecution (guards : Guards C Sound) :
    Keeps C Sound (resolveExecution tools command : Handler adapter Γ _) := by
  refine keeps_bind (keeps_ofExcept _) fun execution =>
    keeps_bind (keeps_executedStatement guards execution) ?_
  intro statement
  cases statement with
  | none => exact keeps_pure none
  | some statement =>
      exact keeps_bind (keeps_reconstructExecution _ _) fun _ => keeps_pure _

theorem keeps_inspectExecution (guards : Guards C Sound) (statement : PreparedStatement)
    (decoded : StmtExecuteParameters) (inspectionSql : String) :
    Keeps C Sound (inspectExecution tools opts message statement decoded inspectionSql :
      Handler adapter Γ Bool) := by
  refine keeps_bind (keeps_onRaise (keeps_bind (keeps_beginCommandResponse _) fun _ =>
    keeps_bind keeps_sessionState fun _ => keeps_handleMysqlStmtExecute guards _ _ _ _)
    keeps_failCommandForward) ?_
  intro forwarded
  cases forwarded with
  | true =>
      refine keeps_bind (keeps_changeSession ?_) fun _ => keeps_pure true
      intro state changed consistent done
      exact consistent.registerStatementParameterTypes done
  | false => exact keeps_settleResponse false

theorem keeps_dispatchStmtExecute (guards : Guards C Sound) :
    Keeps C Sound (dispatchStmtExecute tools opts message command : Handler adapter Γ Bool) := by
  refine keeps_bind (keeps_attempt (keeps_resolveExecution guards)) ?_
  intro resolved
  cases resolved with
  | error reason => exact keeps_commandGap guards _
  | ok resolved =>
      cases resolved with
      | none => exact keeps_blockProtocolStateError guards _
      | some execution => exact keeps_inspectExecution guards _ _ _

/-- In the permissive mode long data is forwarded and then remembered. -/
theorem keeps_dispatchStmtSendLongData (guards : Guards C Sound) :
    Keeps C Sound (dispatchStmtSendLongData tools opts message command :
      Handler adapter Γ Bool) := by
  have checks : Keeps C Sound (checkLongData command : Handler adapter Γ StmtLongData) := by
    refine keeps_bind (keeps_ofExcept _) fun longData => keeps_bind keeps_sessionState fun state =>
      keeps_bind (keeps_ofExcept _) ?_
    intro statement
    split
    · exact keeps_raised _
    · exact keeps_pure _
  refine keeps_bind (keeps_attempt checks) ?_
  intro checked
  cases checked with
  | error reason => exact keeps_commandGap guards _
  | ok longData =>
      refine keeps_bind (keeps_commandGap guards _) ?_
      intro forwarded
      cases forwarded with
      | true =>
          refine keeps_bind (keeps_changeSession ?_) fun _ => keeps_pure true
          intro state changed consistent done
          exact consistent.markStatementLongData done
      | false => exact keeps_pure false

theorem keeps_routeCommand (guards : Guards C Sound) :
    Keeps C Sound (routeCommand tools opts message command : Handler adapter Γ Bool) := by
  unfold routeCommand
  cases command.kind with
  | query => exact keeps_dispatchQuery guards
  | initDb => exact keeps_dispatchInitDb guards
  | quit => exact keeps_dispatchQuit guards
  | ping => exact keeps_dispatchPing guards
  | stmtPrepare => exact keeps_dispatchStmtPrepare guards
  | stmtClose => exact keeps_dispatchStmtClose guards
  | stmtExecute => exact keeps_dispatchStmtExecute guards
  | stmtSendLongData => exact keeps_dispatchStmtSendLongData guards
  | stmtReset => exact keeps_dispatchStmtReset guards
  | unsupported => exact keeps_commandGap guards _

theorem keeps_dispatchAuthenticatedCommand (guards : Guards C Sound) :
    Keeps C Sound (dispatchAuthenticatedCommand tools opts message : Handler adapter Γ Bool) := by
  unfold dispatchAuthenticatedCommand
  cases parseLogicalCommand message with
  | error error =>
      cases error with
      | protocol reason =>
          exact keeps_bind keeps_sessionState fun _ => keeps_gap guards _ _ _
      | connectionLost => exact keeps_raised _
      | failure exception => exact keeps_raised _
  | ok command =>
      refine keeps_bind keeps_sessionState ?_
      intro state
      split
      · exact keeps_blockProtocolStateError guards _
      · exact keeps_routeCommand guards

/-! ## Backend packets -/

theorem keeps_followUp (next : FollowUp) :
    Keeps C Sound (followUp next : Handler adapter Γ Unit) := by
  cases next with
  | nothing => exact keeps_pure ()
  | finishPrepare =>
      exact keeps_changeSession fun _ _ consistent done =>
        consistent.finishStatementPrepareResponse done
  | failPrepare => exact keeps_updateSession fun _ consistent => consistent.failStatementPrepare

theorem keeps_routeResponse (guards : Guards C Sound) (packet : Packet) :
    Keeps C Sound (routeResponse packet : Handler adapter Γ Unit) := by
  intro start w sound
  have tracked : Sound (withState w (trackResponse w.session.auth.capabilityFlags packet.payload
      w.session.session).2) := Consistent.trackResponse sound
  have relays : ∀ result : Except Exn FollowUp, Keeps C Sound (Proc.ofExcept result >>= fun next =>
      writeClient (.relayed packet.raw) >>= fun _ => drain >>= fun _ => followUp next) := by
    intro result
    exact keeps_bind (keeps_ofExcept _) fun next => keeps_bind (keeps_writeClient _) fun _ =>
      keeps_bind (keeps_drain guards) fun _ => keeps_followUp next
  exact relays _ start _ tracked

theorem keeps_markAuthenticated (payload : Bytes) :
    Keeps C Sound (markAuthenticated payload : Handler adapter Γ Unit) := by
  refine keeps_bind keeps_session fun state => keeps_bind (keeps_changeSession ?_) fun _ =>
    keeps_bind keeps_session ?_
  · intro state changed consistent done
    exact consistent.updateTransactionStatusFromOk done
  · intro state
    split
    · exact keeps_raised _
    · exact keeps_update fun _ sound => sound

theorem keeps_routeAuthentication (guards : Guards C Sound) (packet : Packet) :
    Keeps C Sound (routeAuthentication packet : Handler adapter Γ Unit) := by
  refine keeps_bind keeps_session fun state => keeps_bind (keeps_ofExcept _) fun accepted =>
    keeps_bind (keeps_update fun _ sound => sound) fun _ => keeps_bind (keeps_writeClient _) fun _ =>
      keeps_bind (keeps_drain guards) ?_
  intro _
  split
  · exact keeps_markAuthenticated _
  · exact keeps_update fun _ sound => sound
  · exact keeps_pure ()

theorem keeps_routeBackendPacket (guards : Guards C Sound) (packet : Packet) :
    Keeps C Sound (routeBackendPacket packet : Handler adapter Γ Unit) := by
  refine keeps_bind keeps_session ?_
  intro state
  split
  · exact keeps_raised _
  · exact keeps_routeAuthentication guards packet
  · exact keeps_routeResponse guards packet

/-! ## Every run -/

/-- Any message may arrive and any packet may be read at any time. -/
def anyParties : Parties Γ where
  sends _ _ := True
  reads w _ w' := w' = w

/-- Both tasks promise a consistent session. -/
def soundness (tools : Tools) (opts : ProxyOptions) :
    Promises (exchange tools opts (anyParties : Parties Γ)) anyTurn where
  invariant := Sound
  guarantee _ _ w := Sound w
  rely _ _ _ := True
  rely_refl _ _ := trivial
  rely_trans _ _ _ _ _ _ := trivial
  environment_invariant _ _ _ moved _ := moved.elim
  environment_relied _ _ _ _ _ _ := trivial
  guarantee_invariant _ _ _ _ guaranteed _ := guaranteed
  guarantee_relied _ _ _ _ _ _ _ _ := trivial

theorem guards_soundness (tools : Tools) (opts : ProxyOptions) (side : Side) :
    Guards ((soundness tools opts : Promises (exchange tools opts (anyParties : Parties Γ))
      anyTurn).contract side) Sound where
  pauses _ _ _ sound := sound
  resumes _ _ _ _ _ relied := relied.1

theorem keeps_clientTurn (guards : Guards C Sound) :
    Keeps C Sound (clientTurn tools opts message : Handler adapter Γ Unit) :=
  keeps_handle (keeps_bind (keeps_dispatchAuthenticatedCommand guards) fun _ => keeps_record _)
    fun _ => keeps_bind (keeps_record _) fun _ => keeps_raised _

/-- A connection whose session has just been created with the given limits. -/
def connected (relay : RelayState) (database : String)
    (maxPreparedStatements maxStateBytes : Nat) (peer : Γ) : World adapter Γ where
  session := { relay with session := { database, maxPreparedStatements, maxStateBytes } }
  trace := []
  clientOut := []
  peer := peer

/-- The session invariant holds in every state of every interleaving of the two tasks. -/
theorem session_consistent {relay : RelayState} {database : String}
    {maxPreparedStatements maxStateBytes : Nat} {peer : Γ}
    {c : Config awaits (World adapter Γ) Exn Side}
    (run : (exchange tools opts anyParties).Run anyTurn
      (Config.idle (connected relay database maxPreparedStatements maxStateBytes peer)) c) :
    Consistent c.shared.session.session := by
  have initial : Sound (connected relay database maxPreparedStatements maxStateBytes peer) :=
    consistent_initial database maxPreparedStatements maxStateBytes
  have holds := (soundness tools opts).holds_of_run ?_ (Promises.holds_idle _ initial) run
  · exact holds.1
  · intro side w task w' sound started
    have guards := @guards_soundness Γ tools opts side
    cases side with
    | client =>
        obtain ⟨message, -, rfl, rfl⟩ := started
        exact keeps_clientTurn guards w (receive w message) sound
    | backend =>
        obtain ⟨packet, rfl, rfl⟩ := started
        exact keeps_routeBackendPacket guards packet w' w' sound

/-! ## A prepare in flight -/

def preparation : LogicalMessage := messageOf (0x16 :: encodeUtf8 "DELETE FROM users")

/-- A connection on which nothing has happened yet. -/
def newConnection : World adapter Unit :=
  connected (commandPhase clientProtocol41 { database := "shop" } ()).session "shop" 256 4096 ()

theorem answers_others (q : Request) (w : World adapter Γ)
    (other : decide (q ≠ .prepareEvent) = true) : answers q w (userAnswers true q) :=
  fun isPrepare => absurd isPrepare (of_decide_eq_true other)

/-- A session that awaits the acknowledgment of a prepare. -/
theorem preparing_consistent :
    ∃ c, (exchange plainTools strictOptions anyParties).Run anyTurn (Config.idle newConnection) c ∧
      c.shared.session.session.pendingStatementSql = some "DELETE FROM users" ∧
      Consistent c.shared.session.session := by
  have asked : Proc.asksOnly (fun q : Request => decide (q ≠ .prepareEvent))
      (fun q s => (userAnswers true q, s)) (clientTurn plainTools strictOptions preparation)
      (receive newConnection preparation) = true := by decide +kernel
  have returned : ((clientTurn plainTools strictOptions preparation).run
      (fun q s => (userAnswers true q, s)) (receive newConnection preparation)).1 = .ok () := by
    decide +kernel
  have rests : (exchange plainTools strictOptions anyParties).Rests newConnection newConnection :=
    .refl _
  obtain ⟨c, run, shared, -⟩ := rests.turn (userAnswers true) answers_others
    (show (exchange plainTools strictOptions anyParties).start .client newConnection _ _ from
      ⟨preparation, trivial, rfl, rfl⟩) asked returned
  refine ⟨c, run, ?_, session_consistent run⟩
  rw [shared]
  decide +kernel

end SqlSafetyProxy.MySql
