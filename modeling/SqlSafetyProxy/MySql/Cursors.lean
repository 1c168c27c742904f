import SqlSafetyProxy.MySql.Lockstep

/-!
# Executions that open a cursor

An execution may ask for a cursor.  The backend then answers with the columns
alone and says so in the status of the packet that closes them; the tracker
takes that packet for the start of the rows.
-/

namespace SqlSafetyProxy.MySql

open SqlSafetyProxy.Wire SqlSafetyProxy.Runtime SqlSafetyProxy.Coroutine

/-! ## Responses to executions -/

/-- The status flag of a response whose rows wait to be fetched. -/
def serverStatusCursorExists : Nat := 0x0040

/-- The columns of a cursor that has been opened, without any rows. -/
inductive OpensCursor (flags : Nat) : List Bytes → Prop where
  | mk {columns status : Nat} {follows : Bool} {header eof : Bytes} {definitions : List Bytes} :
      Header flags columns follows header →
      definitions.length = (if follows then columns else 0) →
      (∀ payload ∈ definitions, Definition payload) → EofPacket status eof →
      hasFlag status serverStatusCursorExists = true →
      OpensCursor flags (header :: (definitions ++ [eof]))

/-- A cursor is opened only for an execution that asked for one. -/
inductive AnswersExecution (flags : Nat) (execution : StmtExecute) : List Bytes → Prop where
  | results {packets : List Bytes} : Results flags packets →
      AnswersExecution flags execution packets
  | cursor {packets : List Bytes} : execution.flags ≠ 0 → OpensCursor flags packets →
      AnswersExecution flags execution packets

/-- Up to its end the response to a cursor is that of a result set before its rows. -/
theorem OpensCursor.resultSet {flags : Nat} {packets : List Bytes}
    (opened : OpensCursor flags packets) (old : hasFlag flags clientDeprecateEof = false) :
    ResultSet flags packets := by
  obtain @⟨columns, status, follows, header, eof, definitions, isHeader, counted, areDefinitions,
    isEof, -⟩ := opened
  have separator : Separator flags [eof] := by
    rw [Separator, if_neg (by simp [old])]
    exact ⟨status, eof, isEof, rfl⟩
  have set : ResultSet flags (header :: (definitions ++ ([eof] ++ []))) :=
    .mk isHeader counted areDefinitions separator (by simp)
  rwa [List.append_nil] at set

theorem OpensCursor.two_le_length {flags : Nat} {packets : List Bytes}
    (opened : OpensCursor flags packets) : 2 ≤ packets.length := by
  obtain ⟨-, -, -, -, -⟩ := opened
  simp

/-! ## Release -/

variable {Γ : Type}

/-- The response is no longer awaited, and no command is refused on its account. -/
structure Released (state : SessionState) : Prop where
  cleared : state.pendingCommandResponse = none
  admits : ∀ message, ¬ RefusedAsPending state message

theorem released_of_free {state : SessionState}
    (free : state.hasPendingLifecycleOperation = false) : Released state := by
  obtain ⟨-, -, -, -, cleared⟩ := hasPending_eq_false.mp free
  exact ⟨cleared, fun message => not_refusedAsPending_iff.mpr (.inl free)⟩

namespace Reading

variable {state : SessionState} {stage : ResponseStage} {columns : Nat}

theorem not_released (reading : Reading state stage columns) : ¬ Released state :=
  fun released => reading.response released.cleared

/-- While a response is read, nothing but a quit is let through. -/
theorem refuses (reading : Reading state stage columns) {message : LogicalMessage}
    {command : Command} (parsed : parseLogicalCommand message = .ok command)
    (stays : command.kind ≠ .quit) : RefusedAsPending state message := by
  refine ⟨command, parsed, reading.pending, stays, ?_⟩
  simp [isPipelinedExecute, reading.prepare]

end Reading

/-! ## Physical packets -/

/-- Where the long packets are harmless, the physical packets lead where the whole ones do. -/
theorem readAll_physical {flags : Nat} {state final : SessionState} {logical : List Bytes}
    (following : Following state) (clean : Clean flags state logical)
    (reads : readAll (absorbWhole flags) logical state = .ok final) :
    readAll (absorb flags) (logical.flatMap physical) state = .ok final := by
  induction logical generalizing state with
  | nil => exact reads
  | cons payload rest ih =>
      obtain ⟨next, read, later⟩ := readAll_cons_ok.mp reads
      obtain ⟨harmless, clean⟩ := clean next read
      have held := (following.held_iff read).mpr harmless
      rw [List.flatMap_cons, readAll_append,
        held.reads (physical_ne_nil payload) (List.prefix_refl _)]
      exact ih (following.kept read) clean later

/-- Without long packets nothing can be misread. -/
theorem clean_of_short {flags : Nat} {state : SessionState} {logical : List Bytes}
    (short : ∀ payload ∈ logical, payload.length < maxPacketPayload) :
    Clean flags state logical := by
  induction logical generalizing state with
  | nil => trivial
  | cons payload rest ih =>
      refine fun next read => ⟨fun _ long => ?_, ih ?_⟩
      · exact absurd (short payload List.mem_cons_self) (Nat.not_lt.mpr long)
      · exact fun other inside => short other (List.mem_cons_of_mem _ inside)

/-- Short packets are sent as they are. -/
theorem sent_short {logical : List Bytes}
    (short : ∀ payload ∈ logical, payload.length < maxPacketPayload) {sequenceId : UInt8} :
    (logical.map (packetOf sequenceId)).map Packet.payload = logical.flatMap physical := by
  induction logical with
  | nil => rfl
  | cons payload rest ih =>
      rw [List.flatMap_cons, physical_short (short payload List.mem_cons_self), List.map_cons,
        List.map_cons, ih fun other inside => short other (List.mem_cons_of_mem _ inside)]
      rfl

/-! ## The end of the response -/

section Executions

variable {answer : (q : Request) → q.Answer} {w : World adapter Γ} {state : SessionState}
  {execution : StmtExecute} {logical : List Bytes} {packets : List Packet}

theorem awaiting_of_begun (begun : state.beginCommandResponse .stmtExecute = .ok w.session.session) :
    Reading w.session.session .initial 0 := by
  obtain ⟨free, same⟩ := beginCommandResponse_ok begun
  rw [same]
  exact reading_awaiting free .stmtExecute

/-- Routing the packets of a response leads where reading the logical packets leads. -/
theorem fed_reads (drains : answer .drain = true) (phase : w.session.phase = .commandResponse)
    (modern : hasFlag w.session.auth.capabilityFlags clientProtocol41 = true)
    (begun : state.beginCommandResponse .stmtExecute = .ok w.session.session)
    (clean : Clean w.session.auth.capabilityFlags w.session.session logical)
    (sent : packets.map Packet.payload = logical.flatMap physical) {post : SessionState → Prop}
    (follows : FollowsBy (absorbWhole w.session.auth.capabilityFlags)
      w.session.auth.capabilityFlags post w.session.session logical) :
    (fed answer packets w).1 = .ok () ∧ post (fed answer packets w).2.session.session := by
  have following : Following w.session.session := .inr ⟨_, _, awaiting_of_begun begun⟩
  obtain ⟨final, reads, holds⟩ := readAll_follows modern follows
  have physically := readAll_physical following clean reads
  rw [← sent] at physically
  obtain ⟨returns, rfl⟩ := (fed_iff drains phase).mpr physically
  exact ⟨returns, holds⟩

/-- After the columns of a cursor the tracker waits for rows that never come. -/
theorem awaitsRows_of_opensCursor (drains : answer .drain = true)
    (phase : w.session.phase = .commandResponse)
    (modern : hasFlag w.session.auth.capabilityFlags clientProtocol41 = true)
    (old : hasFlag w.session.auth.capabilityFlags clientDeprecateEof = false)
    (begun : state.beginCommandResponse .stmtExecute = .ok w.session.session)
    (clean : Clean w.session.auth.capabilityFlags w.session.session logical)
    (sent : packets.map Packet.payload = logical.flatMap physical)
    (opened : OpensCursor w.session.auth.capabilityFlags logical) :
    Reading (fed answer packets w).2.session.session .rows 0 := by
  have follows := (awaiting_of_begun begun).follows_resultSet (opened.resultSet old)
  exact (fed_reads drains phase modern begun clean sent follows).2

/--
For every well-formed response to an execution, the command is no longer
awaited after its last packet exactly when the response opens no cursor.
-/
theorem execution_released_iff (drains : answer .drain = true)
    (phase : w.session.phase = .commandResponse)
    (modern : hasFlag w.session.auth.capabilityFlags clientProtocol41 = true)
    (old : hasFlag w.session.auth.capabilityFlags clientDeprecateEof = false)
    (begun : state.beginCommandResponse .stmtExecute = .ok w.session.session)
    (answers : AnswersExecution w.session.auth.capabilityFlags execution logical)
    (clean : Clean w.session.auth.capabilityFlags w.session.session logical)
    (sent : packets.map Packet.payload = logical.flatMap physical) :
    Released (fed answer packets w).2.session.session ↔
      ¬ OpensCursor w.session.auth.capabilityFlags logical := by
  have wedges : OpensCursor w.session.auth.capabilityFlags logical →
      ¬ Released (fed answer packets w).2.session.session := fun opened =>
    (awaitsRows_of_opensCursor drains phase modern old begun clean sent opened).not_released
  cases answers with
  | cursor asked opened => exact iff_of_false (wedges opened) fun never => never opened
  | results results =>
      have follows := (awaiting_of_begun begun).follows_results results
      obtain ⟨-, free⟩ := fed_reads drains phase modern begun clean sent follows
      have released := released_of_free free
      exact iff_of_true released fun opened => wedges opened released

end Executions

/-! ### An update and a cursor -/

/-- An execution without parameters that asks for a read-only cursor. -/
def cursorExecution : StmtExecute := ⟨1, 0x01, 1, []⟩

/-- The session that awaits the response to an execution. -/
def executing : SessionState := SessionState.awaitingResponse { database := "" } .stmtExecute

theorem begun_executing :
    SessionState.beginCommandResponse { database := "" } .stmtExecute = .ok executing := rfl

/-- The response to an update of one row. -/
def updated : List Bytes := [[0x00, 1, 0, 2, 0, 0, 0]]

/-- An update ends with its OK. -/
theorem updated_released : Released (fed (userAnswers true) (updated.map (packetOf 0))
    (commandPhase clientProtocol41 executing ())).2.session.session := by
  have ok : OkPacket 0x00 2 [0x00, 1, 0, 2, 0, 0, 0] :=
    .mk 2 0 0 0 (@Lenenc.one 1 (by decide)) (@Lenenc.one 0 (by decide))
  have results : Results clientProtocol41 updated := .last (.ok ok)
  have short : ∀ payload ∈ updated, payload.length < maxPacketPayload := by decide
  have noCursor : ¬ OpensCursor clientProtocol41 updated := by
    intro opened
    have two := opened.two_le_length
    exact absurd two (by decide)
  have answers : AnswersExecution clientProtocol41 cursorExecution updated := .results results
  exact (execution_released_iff rfl rfl (by decide) (by decide) begun_executing answers
    (clean_of_short short) (sent_short short)).mpr noCursor

/-- The columns of a cursor over one column. -/
def oneColumn : List Bytes := [[1], [3, 0x64, 0x65, 0x66], [0xFE, 0, 0, 0x42, 0]]

theorem oneColumn_opensCursor : OpensCursor clientProtocol41 oneColumn := by
  have one : Lenenc 1 [1] := @Lenenc.one 1 (by decide)
  have eof : EofPacket 0x42 [0xFE, 0, 0, 0x42, 0] := .mk 0 0 0x42 0
  have definitions : ∀ payload ∈ [[3, 0x64, 0x65, 0x66]], Definition payload := by
    intro payload inside
    rw [List.mem_singleton.mp inside]
    exact .mk _ (by decide)
  exact .mk (.plain (by decide) (by decide) one) rfl definitions eof (by decide)

/-- A cursor that the parser admits wedges the session: not even a ping is let through. -/
theorem oneColumn_wedges :
    ¬ ∀ (execution : StmtExecute) (count : Nat) (decoded : StmtExecuteParameters)
      (w : World adapter Unit) (state : SessionState) (packets : List Packet),
      parseStmtExecuteParameters plainTools execution count none = .ok decoded →
      w.session.phase = .commandResponse → w.session.auth.capabilityFlags = clientProtocol41 →
      state.beginCommandResponse .stmtExecute = .ok w.session.session →
      AnswersExecution clientProtocol41 execution (packets.map Packet.payload) →
      Released (fed (userAnswers true) packets w).2.session.session := by
  intro always
  have released := always cursorExecution 0 ⟨[], false, [], []⟩
    (commandPhase clientProtocol41 executing ()) { database := "" } (oneColumn.map (packetOf 0))
    rfl rfl rfl begun_executing (.cursor (by decide) oneColumn_opensCursor)
  have short : ∀ payload ∈ oneColumn, payload.length < maxPacketPayload := by decide
  have modern : hasFlag clientProtocol41 clientProtocol41 = true := by decide
  have old : hasFlag clientProtocol41 clientDeprecateEof = false := by decide
  have reading : Reading (fed (userAnswers true) (oneColumn.map (packetOf 0))
      (commandPhase clientProtocol41 executing ())).2.session.session .rows 0 :=
    awaitsRows_of_opensCursor rfl rfl modern old begun_executing (clean_of_short short)
      (sent_short short) oneColumn_opensCursor
  exact reading.not_released released

end SqlSafetyProxy.MySql
