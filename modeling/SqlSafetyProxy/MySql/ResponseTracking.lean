import SqlSafetyProxy.MySql.Backend
import SqlSafetyProxy.MySql.Grammar

/-!
# Tracking of responses

The tracker reads a response to its last packet and not beyond it: over every
response of the grammar it awaits more before each packet and nothing after the
last one.
-/

namespace SqlSafetyProxy.MySql

open SqlSafetyProxy.Wire SqlSafetyProxy.Runtime SqlSafetyProxy.Coroutine
open SqlSafetyProxy.Collections

/-! ## Parsing well-formed packets -/

/-- The first byte of a length-encoded integer is its marker. -/
theorem lenenc_marker {value : Nat} {encoded : Bytes} (wellFormed : Lenenc value encoded) :
    ∃ marker rest, encoded = marker :: rest ∧ marker ≠ 0xFB ∧ marker ≠ 0xFF ∧
      (marker = 0x00 → value = 0) := by
  cases wellFormed with
  | @one byte small =>
      refine ⟨byte, [], rfl, ?_, ?_, ?_⟩
      · rintro rfl
        exact absurd small (by decide)
      · rintro rfl
        exact absurd small (by decide)
      · rintro rfl
        rfl
  | two b₀ b₁ =>
      exact ⟨0xFC, _, rfl, by decide, by decide, fun isZero => absurd isZero (by decide)⟩
  | three b₀ b₁ b₂ =>
      exact ⟨0xFD, _, rfl, by decide, by decide, fun isZero => absurd isZero (by decide)⟩
  | eight long =>
      exact ⟨0xFE, _, rfl, by decide, by decide, fun isZero => absurd isZero (by decide)⟩

/-- A status field is read, or the client did not negotiate protocol 4.1. -/
def Reads (flags : Nat) (parsed : Except Exn Nat) (status : Nat) : Prop :=
  parsed = .ok status ∨ hasFlag flags clientProtocol41 = false ∧ ∃ error, parsed = .error error

theorem reads_okPacket {flags status : Nat} {marker : UInt8} {payload : Bytes}
    (ok : OkPacket marker status payload) (known : marker = 0x00 ∨ marker = 0xFE) :
    Reads flags (parseOkPacketStatus payload flags) status := by
  obtain ⟨s₀, s₁, w₀, w₁, affected, insertId⟩ := ok
  have isOk : ¬ (marker ≠ 0x00 ∧ marker ≠ 0xFE) := by
    rintro ⟨notOk, notEnd⟩
    exact known.elim notOk notEnd
  simp only [parseOkPacketStatus, if_neg isOk, readPacketLengthEncodedInteger,
    readLenenc_append affected, readLenenc_append insertId, bind, Except.bind]
  cases protocol41 : hasFlag flags clientProtocol41 with
  | true =>
      left
      simp [pure, Except.pure]
  | false =>
      cases transactions : hasFlag flags clientTransactions with
      | true =>
          left
          simp [pure, Except.pure]
      | false => exact .inr ⟨protocol41, _, rfl⟩

theorem reads_eofPacket {flags status : Nat} {payload : Bytes} (eof : EofPacket status payload) :
    Reads flags (parseEofPacketStatus payload flags) status := by
  obtain ⟨w₀, w₁, s₀, s₁⟩ := eof
  cases protocol41 : hasFlag flags clientProtocol41 with
  | true =>
      left
      simp [parseEofPacketStatus, protocol41]
  | false =>
      refine .inr ⟨protocol41, .protocol "Backend EOF packet has no negotiated server-status field", ?_⟩
      simp [parseEofPacketStatus, protocol41]

theorem parseResultsetHeader_header {flags columns : Nat} {follows : Bool} {payload : Bytes}
    (header : Header flags columns follows payload) :
    parseResultsetHeader payload flags = .ok (columns, follows) := by
  cases header with
  | plain unflagged positive encoded =>
      have read := readLenenc_append encoded
      simp only [parseResultsetHeader, readPacketLengthEncodedInteger]
      rw [← List.append_nil payload, read]
      simp [bind, Except.bind, readMetadataIndicator, unflagged, Nat.pos_iff_ne_zero.mp positive,
        pure, Except.pure]
  | indicated follows flagged positive encoded =>
      simp only [parseResultsetHeader, readPacketLengthEncodedInteger, readLenenc_append encoded]
      cases follows <;>
        simp [bind, Except.bind, readMetadataIndicator, flagged, Nat.pos_iff_ne_zero.mp positive,
          pure, Except.pure]

theorem header_marker {flags columns : Nat} {follows : Bool} {payload : Bytes}
    (header : Header flags columns follows payload) :
    ∃ marker rest, payload = marker :: rest ∧ marker ≠ 0x00 ∧ marker ≠ 0xFB ∧ marker ≠ 0xFF := by
  cases header with
  | plain unflagged positive encoded =>
      obtain ⟨marker, rest, rfl, notNull, notError, zero⟩ := lenenc_marker encoded
      exact ⟨marker, rest, rfl, fun isZero => positive.ne' (zero isZero), notNull, notError⟩
  | indicated follows flagged positive encoded =>
      obtain ⟨marker, rest, rfl, notNull, notError, zero⟩ := lenenc_marker encoded
      exact ⟨marker, _, rfl, fun isZero => positive.ne' (zero isZero), notNull, notError⟩

theorem eof_short {status : Nat} {payload : Bytes} (eof : EofPacket status payload) :
    payload.length < maxPacketPayload := by
  obtain ⟨w₀, w₁, s₀, s₁⟩ := eof
  simp [maxPacketPayload]

theorem row_noError {payload : Bytes} (row : Row payload) : payload.head? ≠ some 0xFF := by
  cases row with
  | binary rest => exact fun same => absurd (Option.some.inj same) (by decide)
  | null rest => exact fun same => absurd (Option.some.inj same) (by decide)
  | text encoded minimal present =>
      obtain ⟨marker, rest, rfl, -, notError, -⟩ := lenenc_marker encoded
      exact fun same => notError (Option.some.inj same)

/-- A row that fits one packet cannot be taken for the end of the rows. -/
theorem row_marker {payload : Bytes} (row : Row payload) (fits : payload.length < maxPacketPayload) :
    ∃ marker rest, payload = marker :: rest ∧ marker ≠ 0xFE ∧ marker ≠ 0xFF := by
  cases row with
  | binary rest => exact ⟨0x00, rest, rfl, by decide, by decide⟩
  | null rest => exact ⟨0xFB, rest, rfl, by decide, by decide⟩
  | text encoded minimal present =>
      obtain ⟨marker, rest, rfl, -, notError, -⟩ := lenenc_marker encoded
      refine ⟨marker, _, rfl, ?_, notError⟩
      rintro rfl
      have large := minimal rfl
      simp only [List.cons_append, List.length_cons, List.length_append, maxPacketPayload] at fits
      omega

/-! ## Following packets -/

/-- Track a packet and do what is left to do once it has been relayed. -/
def absorb (flags : Nat) (payload : Bytes) (state : SessionState) : Except Exn SessionState :=
  match trackResponse flags payload state with
  | (.error error, _) => .error error
  | (.ok .nothing, tracked) => .ok tracked
  | (.ok .finishPrepare, tracked) => tracked.finishStatementPrepareResponse
  | (.ok .failPrepare, tracked) => .ok tracked.failStatementPrepare

/--
Read a packet that may be longer than one physical packet carries.  Among the
rows such a packet is a row or an error, whatever its first bytes are.
-/
def absorbWhole (flags : Nat) (payload : Bytes) (state : SessionState) : Except Exn SessionState :=
  if state.pendingCommandResponse ≠ none ∧ state.commandResponseStage = .rows
      ∧ maxPacketPayload ≤ payload.length ∧ payload.head? ≠ some 0xFF then .ok state
  else absorb flags payload state

theorem absorbWhole_eq {flags : Nat} {payload : Bytes} {state : SessionState}
    (plain : payload.length < maxPacketPayload ∨ payload.head? = some 0xFF
      ∨ state.commandResponseStage ≠ .rows) :
    absorbWhole flags payload state = absorb flags payload state := by
  refine if_neg ?_
  rintro ⟨-, rows, long, noError⟩
  rcases plain with short | isError | elsewhere
  · exact absurd short (Nat.not_lt.mpr long)
  · exact noError isError
  · exact elsewhere rows

/--
A response is awaited before each of the packets, and `post` holds after the
last one has been read.  Only without protocol 4.1 may reading break off.
-/
def FollowsBy (read : Bytes → SessionState → Except Exn SessionState) (flags : Nat)
    (post : SessionState → Prop) : SessionState → List Bytes → Prop
  | state, [] => post state
  | state, payload :: rest =>
      state.hasPendingLifecycleOperation = true ∧
        (hasFlag flags clientProtocol41 = false ∧ (∃ error, read payload state = .error error) ∨
          ∃ next, read payload state = .ok next ∧ FollowsBy read flags post next rest)

/-- The packets are followed one by one. -/
abbrev Follows (flags : Nat) (post : SessionState → Prop) :
    SessionState → List Bytes → Prop :=
  FollowsBy (absorb flags) flags post

section Follows

variable {read : Bytes → SessionState → Except Exn SessionState} {flags : Nat}
  {post post' : SessionState → Prop} {state : SessionState}

theorem follows_mono {packets : List Bytes} (follows : FollowsBy read flags post state packets)
    (implies : ∀ later, post later → post' later) : FollowsBy read flags post' state packets := by
  induction packets generalizing state with
  | nil => exact implies state follows
  | cons payload rest ih =>
      obtain ⟨pending, broken | ⟨next, absorbed, later⟩⟩ := follows
      · exact ⟨pending, .inl broken⟩
      · exact ⟨pending, .inr ⟨next, absorbed, ih later⟩⟩

/-- Before the last packet the response is still awaited. -/
theorem follows_read {front rest : List Bytes}
    (follows : FollowsBy read flags post state (front ++ rest)) (more : rest ≠ []) :
    FollowsBy read flags (fun later => later.hasPendingLifecycleOperation = true) state front := by
  induction front generalizing state with
  | nil =>
      cases rest with
      | nil => exact absurd rfl more
      | cons payload others => exact follows.1
  | cons payload others ih =>
      obtain ⟨pending, broken | ⟨next, absorbed, later⟩⟩ := follows
      · exact ⟨pending, .inl broken⟩
      · exact ⟨pending, .inr ⟨next, absorbed, ih later⟩⟩

theorem follows_append {packets rest : List Bytes}
    (follows : FollowsBy read flags (fun later => FollowsBy read flags post later rest) state packets) :
    FollowsBy read flags post state (packets ++ rest) := by
  induction packets generalizing state with
  | nil => exact follows
  | cons payload others ih =>
      obtain ⟨pending, broken | ⟨next, absorbed, later⟩⟩ := follows
      · exact ⟨pending, .inl broken⟩
      · exact ⟨pending, .inr ⟨next, absorbed, ih later⟩⟩

/-- Where every packet fits one physical packet, whole packets are what arrives. -/
theorem follows_short {packets : List Bytes}
    (follows : FollowsBy (absorbWhole flags) flags post state packets)
    (fit : ∀ payload ∈ packets, payload.length < maxPacketPayload) :
    Follows flags post state packets := by
  induction packets generalizing state with
  | nil => exact follows
  | cons payload others ih =>
      have same : absorbWhole flags payload state = absorb flags payload state :=
        absorbWhole_eq (.inl (fit _ List.mem_cons_self))
      obtain ⟨pending, ⟨old, broken⟩ | ⟨next, absorbed, later⟩⟩ := follows
      · exact ⟨pending, .inl ⟨old, by rwa [same] at broken⟩⟩
      · refine ⟨pending, .inr ⟨next, by rwa [same] at absorbed, ih later ?_⟩⟩
        exact fun payload inside => fit payload (List.mem_cons_of_mem _ inside)

end Follows

/-! ## Results -/

/-- The session awaits the response to a query or an execution and stands at a stage of it. -/
structure Reading (state : SessionState) (stage : ResponseStage) (columns : Nat) : Prop where
  ping : state.pendingPing = false
  reset : state.pendingStatementResetId = none
  database : state.pendingDatabase = none
  prepare : state.pendingStatementSql = none
  response : state.pendingCommandResponse ≠ none
  stage_eq : state.commandResponseStage = stage
  columns_eq : state.responseColumnsRemaining = columns

/-- A result has ended: another one is read, or the response is complete. -/
def Ended (more : Bool) (state : SessionState) : Prop :=
  if more then Reading state .initial 0 else state.hasPendingLifecycleOperation = false

namespace Reading

variable {flags columns : Nat} {state : SessionState} {stage : ResponseStage} {payload : Bytes}
  {post : SessionState → Prop}

theorem pending (reading : Reading state stage columns) :
    state.hasPendingLifecycleOperation = true := by
  cases response : state.pendingCommandResponse with
  | none => exact absurd response reading.response
  | some kind => simp [SessionState.hasPendingLifecycleOperation, response]

theorem forgotten (reading : Reading state stage columns) :
    state.failCommandForward.hasPendingLifecycleOperation = false := by
  simp [SessionState.hasPendingLifecycleOperation, SessionState.failCommandForward,
    reading.ping, reading.reset, reading.database, reading.prepare]

theorem absorb_eq (reading : Reading state stage columns) :
    absorb flags payload state = match state.acceptCommandResponsePacket payload flags with
      | (.error error, _) => .error error
      | (.ok (), followed) => .ok followed := by
  have response : state.pendingCommandResponse.isSome = true :=
    Option.isSome_iff_ne_none.mpr reading.response
  simp only [absorb, trackResponse, reading.ping, reading.reset, reading.database,
    reading.prepare, response, Option.isSome_none, Bool.false_eq_true, if_false, if_true]
  rcases state.acceptCommandResponsePacket payload flags with ⟨_ | _, followed⟩ <;> rfl

/-- A packet that cannot be a row longer than one physical packet. -/
def Unmistaken (stage : ResponseStage) (payload : Bytes) : Prop :=
  payload.length < maxPacketPayload ∨ payload.head? = some 0xFF ∨ stage ≠ .rows

/-- One packet of the response is followed to a state that meets `post`. -/
theorem follows (reading : Reading state stage columns) {followed : SessionState}
    (plain : Unmistaken stage payload)
    (accepted : state.acceptCommandResponsePacket payload flags = (.ok (), followed))
    (holds : post followed) : FollowsBy (absorbWhole flags) flags post state [payload] := by
  refine ⟨reading.pending, .inr ⟨followed, ?_, holds⟩⟩
  rw [absorbWhole_eq (reading.stage_eq ▸ plain), reading.absorb_eq, accepted]

/-- Outside an error, a packet is followed as its stage says. -/
theorem accept_eq (reading : Reading state stage columns) {marker : UInt8} {rest : Bytes}
    (notError : marker ≠ 0xFF) :
    state.acceptCommandResponsePacket (marker :: rest) flags =
      state.acceptAtStage stage marker (marker :: rest) flags := by
  rw [SessionState.acceptCommandResponsePacket, if_neg reading.response]
  simp only [if_neg notError, reading.stage_eq]

theorem follows_error (reading : Reading state stage columns) (failed : ErrPacket payload) :
    FollowsBy (absorbWhole flags) flags (Ended false) state [payload] := by
  obtain ⟨rest⟩ := failed
  refine reading.follows (.inr (.inl rfl)) ?_ reading.forgotten
  rw [SessionState.acceptCommandResponsePacket, if_neg reading.response]
  rfl

/-- A packet that reports the status at the end of a result. -/
theorem follows_end (reading : Reading state stage columns) {status : Nat}
    {parsed : Except Exn Nat} (plain : Unmistaken stage payload)
    (reads : Reads flags parsed status)
    (accepted : state.acceptCommandResponsePacket payload flags = state.endResult parsed) :
    FollowsBy (absorbWhole flags) flags (Ended (moreResults status)) state [payload] := by
  rcases reads with rfl | ⟨old, error, rfl⟩
  · refine reading.follows plain accepted ?_
    cases more : moreResults status with
    | true =>
        have continues : hasFlag status serverMoreResultsExists = true := more
        rw [SessionState.finishOrContinueResponse, if_pos continues]
        exact ⟨reading.ping, reading.reset, reading.database, reading.prepare, reading.response,
          rfl, rfl⟩
    | false =>
        have ends : ¬ hasFlag status serverMoreResultsExists = true := by
          rw [show hasFlag status serverMoreResultsExists = false from more]
          decide
        rw [SessionState.finishOrContinueResponse, if_neg ends]
        exact reading.forgotten
  · refine ⟨reading.pending, .inl ⟨old, error, ?_⟩⟩
    rw [absorbWhole_eq (reading.stage_eq ▸ plain), reading.absorb_eq, accepted]
    rfl

theorem follows_ok (reading : Reading state .initial columns) {status : Nat}
    (ok : OkPacket 0x00 status payload) :
    FollowsBy (absorbWhole flags) flags (Ended (moreResults status)) state [payload] := by
  have reads : Reads flags (parseOkPacketStatus payload flags) status :=
    reads_okPacket ok (.inl rfl)
  refine reading.follows_end (.inr (.inr (by decide))) reads ?_
  obtain ⟨s₀, s₁, w₀, w₁, affected, insertId⟩ := ok
  rw [reading.accept_eq (by decide)]
  simp only [SessionState.acceptAtStage, SessionState.acceptInitialPacket, if_true]

/-- The stage that the header of a result set leads to. -/
def afterHeader (flags : Nat) (follows : Bool) : ResponseStage :=
  if follows then .metadata
  else SessionState.afterMetadata (hasFlag flags clientDeprecateEof)

theorem follows_header (reading : Reading state .initial columns) {count : Nat} {follows : Bool}
    (header : Header flags count follows payload) :
    FollowsBy (absorbWhole flags) flags
      (fun later => Reading later (afterHeader flags follows) (if follows then count else 0))
      state [payload] := by
  have parsed := parseResultsetHeader_header header
  obtain ⟨marker, rest, rfl, notOk, notInfile, notError⟩ := header_marker header
  have accepted : state.acceptCommandResponsePacket (marker :: rest) flags = _ :=
    reading.accept_eq notError
  simp only [SessionState.acceptAtStage, SessionState.acceptInitialPacket, if_neg notOk,
    if_neg notInfile, parsed] at accepted
  have elsewhere : Unmistaken .initial (marker :: rest) := .inr (.inr (by decide))
  cases follows with
  | true =>
      exact reading.follows elsewhere accepted ⟨reading.ping, reading.reset, reading.database,
        reading.prepare, reading.response, rfl, rfl⟩
  | false =>
      exact reading.follows elsewhere accepted ⟨reading.ping, reading.reset, reading.database,
        reading.prepare, reading.response, rfl, rfl⟩

/-- The definitions are counted down to the last one. -/
theorem follows_definitions {definitions : List Bytes}
    (reading : Reading state .metadata definitions.length) (some_ : definitions ≠ [])
    (wellFormed : ∀ payload ∈ definitions, Definition payload) :
    FollowsBy (absorbWhole flags) flags
      (fun later => Reading later (SessionState.afterMetadata (hasFlag flags clientDeprecateEof)) 0)
      state definitions := by
  induction definitions generalizing state with
  | nil => exact absurd rfl some_
  | cons payload others ih =>
      obtain ⟨rest, notError⟩ := wellFormed payload List.mem_cons_self
      have accepted : state.acceptCommandResponsePacket (_ :: rest) flags = _ :=
        reading.accept_eq notError
      simp only [SessionState.acceptAtStage, SessionState.acceptMetadataPacket, reading.columns_eq,
        List.length_cons, Nat.add_one_ne_zero, if_false, Nat.add_sub_cancel] at accepted
      rw [← List.singleton_append]
      apply follows_append
      refine reading.follows (.inr (.inr (by decide))) accepted ?_
      cases others with
      | nil =>
          exact ⟨reading.ping, reading.reset, reading.database, reading.prepare,
            reading.response, rfl, rfl⟩
      | cons other later =>
          refine ih ⟨reading.ping, reading.reset, reading.database, reading.prepare,
            reading.response, ?_, rfl⟩ (by simp) ?_
          · simp [reading.stage_eq]
          · exact fun payload inside => wellFormed payload (List.mem_cons_of_mem _ inside)

theorem follows_separator {separator : List Bytes}
    (reading : Reading state (SessionState.afterMetadata (hasFlag flags clientDeprecateEof)) columns)
    (wellFormed : Separator flags separator) :
    FollowsBy (absorbWhole flags) flags (fun later => Reading later .rows columns) state separator := by
  unfold Separator at wellFormed
  cases deprecated : hasFlag flags clientDeprecateEof with
  | true =>
      simp only [deprecated, if_true] at wellFormed
      rw [deprecated, SessionState.afterMetadata, if_pos rfl] at reading
      rw [wellFormed]
      exact reading
  | false =>
      simp only [deprecated, Bool.false_eq_true, if_false] at wellFormed
      simp only [deprecated, SessionState.afterMetadata, Bool.false_eq_true, if_false] at reading
      obtain ⟨status, payload, eof, rfl⟩ := wellFormed
      have reads : Reads flags (parseEofPacketStatus payload flags) status := reads_eofPacket eof
      obtain ⟨w₀, w₁, s₀, s₁⟩ := eof
      have accepted : state.acceptCommandResponsePacket [0xFE, w₀, w₁, s₀, s₁] flags = _ :=
        reading.accept_eq (by decide)
      rcases reads with parsed | ⟨old, error, parsed⟩
      · simp only [SessionState.acceptAtStage, SessionState.acceptMetadataEof, parsed] at accepted
        exact reading.follows (.inr (.inr (by decide))) accepted ⟨reading.ping, reading.reset,
          reading.database, reading.prepare, reading.response, rfl, reading.columns_eq⟩
      · simp only [SessionState.acceptAtStage, SessionState.acceptMetadataEof, parsed] at accepted
        refine ⟨reading.pending, .inl ⟨old, error, ?_⟩⟩
        rw [absorbWhole_eq (.inr (.inr (by rw [reading.stage_eq]; decide))), reading.absorb_eq,
          accepted]

theorem row_read (reading : Reading state .rows columns) (row : Row payload) :
    absorbWhole flags payload state = .ok state := by
  by_cases fits : payload.length < maxPacketPayload
  · obtain ⟨marker, rest, rfl, notEnd, notError⟩ := row_marker row fits
    have unchanged : state.acceptRowPacket marker (marker :: rest) flags = (.ok (), state) := by
      simp [SessionState.acceptRowPacket, notEnd]
    rw [absorbWhole_eq (.inl fits), reading.absorb_eq, reading.accept_eq notError]
    simp only [SessionState.acceptAtStage, unchanged]
  · exact if_pos ⟨reading.response, reading.stage_eq, Nat.not_lt.mp fits, row_noError row⟩

theorem follows_rows {rows : List Bytes} (reading : Reading state .rows columns)
    (wellFormed : ∀ payload ∈ rows, Row payload) :
    FollowsBy (absorbWhole flags) flags (fun later => Reading later .rows columns) state rows := by
  induction rows with
  | nil => exact reading
  | cons payload others ih =>
      refine ⟨reading.pending, .inr ⟨state, ?_, ih ?_⟩⟩
      · exact reading.row_read (wellFormed _ List.mem_cons_self)
      · exact fun payload inside => wellFormed payload (List.mem_cons_of_mem _ inside)

theorem follows_terminator (reading : Reading state .rows columns) {status : Nat}
    (terminator : Terminator flags status payload) :
    FollowsBy (absorbWhole flags) flags (Ended (moreResults status)) state [payload] := by
  unfold Terminator at terminator
  cases deprecated : hasFlag flags clientDeprecateEof with
  | true =>
      simp only [deprecated, if_true] at terminator
      obtain ⟨ok, short⟩ := terminator
      refine reading.follows_end (.inl short) (reads_okPacket ok (.inr rfl)) ?_
      obtain ⟨s₀, s₁, w₀, w₁, affected, insertId⟩ := ok
      rw [reading.accept_eq (by decide)]
      simp [SessionState.acceptAtStage, SessionState.acceptRowPacket, deprecated]
  | false =>
      simp only [deprecated, Bool.false_eq_true, if_false] at terminator
      refine reading.follows_end (.inl (eof_short terminator)) (reads_eofPacket terminator) ?_
      obtain ⟨w₀, w₁, s₀, s₁⟩ := terminator
      rw [reading.accept_eq (by decide)]
      simp [SessionState.acceptAtStage, SessionState.acceptRowPacket, deprecated]

theorem follows_resultSet {packets : List Bytes} (reading : Reading state .initial columns)
    (resultSet : ResultSet flags packets) :
    FollowsBy (absorbWhole flags) flags (fun later => Reading later .rows 0) state packets := by
  obtain @⟨count, follows, header, definitions, separator, rows, isHeader, announced,
    areDefinitions, isSeparator, areRows⟩ := resultSet
  rw [← List.singleton_append]
  apply follows_append
  refine follows_mono (reading.follows_header isHeader) ?_
  intro begun reading
  apply follows_append
  have toRows : ∀ later, Reading later
      (SessionState.afterMetadata (hasFlag flags clientDeprecateEof)) 0 →
      FollowsBy (absorbWhole flags) flags (fun later => Reading later .rows 0) later
        (separator ++ rows) := by
    intro later reading
    apply follows_append
    refine follows_mono (reading.follows_separator isSeparator) ?_
    intro later reading
    exact reading.follows_rows areRows
  cases follows with
  | false =>
      have empty : definitions = [] := List.length_eq_zero_iff.mp announced
      rw [empty]
      exact toRows begun reading
  | true =>
      have counted : definitions.length = count := announced
      have some_ : definitions ≠ [] := by
        rintro rfl
        have positive : 0 < count := by cases isHeader <;> assumption
        exact absurd counted positive.ne
      have reading : Reading begun .metadata definitions.length := by
        rw [counted]
        exact reading
      exact follows_mono (reading.follows_definitions some_ areDefinitions) toRows

theorem follows_result {packets : List Bytes} {more : Bool}
    (reading : Reading state .initial columns) (result : Result flags more packets) :
    FollowsBy (absorbWhole flags) flags (Ended more) state packets := by
  cases result with
  | ok ok => exact reading.follows_ok ok
  | error failed => exact reading.follows_error failed
  | rows resultSet terminator =>
      apply follows_append
      refine follows_mono (reading.follows_resultSet resultSet) ?_
      exact fun later reading => reading.follows_terminator terminator
  | rowsError resultSet failed =>
      apply follows_append
      refine follows_mono (reading.follows_resultSet resultSet) ?_
      exact fun later reading => reading.follows_error failed

/-- The response to a query or an execution is followed to its end. -/
theorem follows_results {packets : List Bytes} (reading : Reading state .initial columns)
    (results : Results flags packets) :
    FollowsBy (absorbWhole flags) flags
      (fun later => later.hasPendingLifecycleOperation = false) state packets := by
  induction results generalizing state columns with
  | last result => exact reading.follows_result result
  | more result _ ih =>
      apply follows_append
      refine follows_mono (reading.follows_result result) ?_
      intro later continues
      exact ih continues

end Reading

/-! ## Acknowledgments -/

section Acknowledge

variable {flags : Nat} {state cleared : SessionState} {payload : Bytes}

/-- The status of a well-formed OK is taken over, whatever it is. -/
theorem acknowledge_ok {status : Nat} {answer : Bool} (ok : OkPacket 0x00 status payload) :
    acknowledge flags payload (.ok answer, cleared) = (.ok .nothing, cleared) ∨
      acknowledge flags payload (.ok answer, cleared) =
        (.ok .nothing, cleared.updateTransactionStatus status) ∨
      hasFlag flags clientProtocol41 = false ∧
        ∃ error, acknowledge flags payload (.ok answer, cleared) = (.error error, cleared) := by
  have reads : Reads flags (parseOkPacketStatus payload flags) status :=
    reads_okPacket ok (.inl rfl)
  have isOk : payload.head? = some 0x00 := by
    obtain ⟨s₀, s₁, w₀, w₁, affected, insertId⟩ := ok
    rfl
  by_cases stateless : hasFlag flags clientProtocol41 = false
      ∧ hasFlag flags clientTransactions = false
  · simp only [acknowledge, isOk, if_true, updateTransactionStatusFromOk, if_pos stateless]
    exact .inl trivial
  · simp only [acknowledge, isOk, if_true, updateTransactionStatusFromOk, if_neg stateless]
    rcases reads with parsed | ⟨old, error, parsed⟩
    · simp only [parsed, Except.map]
      exact .inr (.inl trivial)
    · simp only [parsed, Except.map]
      exact .inr (.inr ⟨old, error, rfl⟩)

theorem acknowledge_error {answer : Bool} (failed : ErrPacket payload) :
    acknowledge flags payload (.ok answer, cleared) = (.ok .nothing, cleared) := by
  obtain ⟨rest⟩ := failed
  rfl

/-- An acknowledged operation awaits exactly one packet. -/
theorem follows_acknowledgment {packets : List Bytes}
    (pending : state.hasPendingLifecycleOperation = true)
    (settled : cleared.hasPendingLifecycleOperation = false)
    (onOk : ∀ payload status, OkPacket 0x00 status payload →
      ∃ answer settled,
        trackResponse flags payload state = acknowledge flags payload (.ok answer, settled) ∧
        settled.hasPendingLifecycleOperation = false)
    (onError : ∀ payload, ErrPacket payload →
      ∃ answer, trackResponse flags payload state = acknowledge flags payload (.ok answer, cleared))
    (acknowledged : Acknowledgment packets) :
    Follows flags (fun later => later.hasPendingLifecycleOperation = false) state packets := by
  cases acknowledged with
  | @ok status payload ok =>
      obtain ⟨answer, settled, tracked, done⟩ := onOk payload status ok
      rcases @acknowledge_ok flags settled payload status answer ok with
        plain | updated | ⟨old, error, raised⟩
      · refine ⟨pending, .inr ⟨settled, ?_, done⟩⟩
        simp only [absorb, tracked, plain]
      · refine ⟨pending, .inr ⟨settled.updateTransactionStatus status, ?_, done⟩⟩
        simp only [absorb, tracked, updated]
      · refine ⟨pending, .inl ⟨old, error, ?_⟩⟩
        simp only [absorb, tracked, raised]
  | @error payload failed =>
      obtain ⟨answer, tracked⟩ := onError payload failed
      refine ⟨pending, .inr ⟨cleared, ?_, settled⟩⟩
      simp only [absorb, tracked, acknowledge_error failed]

end Acknowledge

/-! ## Prepares -/

/-- A packet of the metadata of a prepare. -/
inductive MetadataPacket : MetadataKind → Bytes → Prop where
  | parameter {payload : Bytes} : Definition payload → MetadataPacket .parameter payload
  | column {payload : Bytes} : Definition payload → MetadataPacket .column payload
  | eof {status : Nat} {payload : Bytes} : EofPacket status payload → MetadataPacket .eof payload

theorem definitions_match {kind : MetadataKind} {definitions : List Bytes}
    (isKind : ∀ payload, Definition payload → MetadataPacket kind payload)
    (wellFormed : ∀ payload ∈ definitions, Definition payload) :
    List.Forall₂ MetadataPacket (List.replicate definitions.length kind) definitions := by
  induction definitions with
  | nil => exact .nil
  | cons payload others ih =>
      refine .cons (isKind payload (wellFormed payload List.mem_cons_self)) (ih ?_)
      exact fun payload inside => wellFormed payload (List.mem_cons_of_mem _ inside)

theorem definitions_announced {flags count : Nat} {packets : List Bytes} {kind : MetadataKind}
    (isKind : ∀ payload, Definition payload → MetadataPacket kind payload)
    (definitions : Definitions flags count packets) :
    List.Forall₂ MetadataPacket
      (List.replicate count kind
        ++ (if count ≠ 0 ∧ hasFlag flags clientDeprecateEof = false then [.eof] else []))
      packets := by
  cases definitions with
  | none zero => simp [zero]
  | some some_ counted wellFormed isSeparator =>
      refine List.rel_append (counted ▸ definitions_match isKind wellFormed) ?_
      unfold Separator at isSeparator
      cases deprecated : hasFlag flags clientDeprecateEof with
      | true =>
          simp only [deprecated, if_true] at isSeparator
          simp [isSeparator]
      | false =>
          simp only [deprecated, Bool.false_eq_true, if_false] at isSeparator
          obtain ⟨status, payload, eof, rfl⟩ := isSeparator
          rw [if_pos ⟨some_, rfl⟩]
          exact .cons (.eof eof) .nil

/-- The metadata of a response is the announced metadata. -/
theorem metadata_announced {flags : Nat} {prepared : StmtPrepareOk} {packets : List Bytes}
    (metadata : PrepareMetadata flags prepared packets) :
    List.Forall₂ MetadataPacket
      (SessionState.announcedMetadata prepared (hasFlag flags clientDeprecateEof)) packets := by
  obtain ⟨parameters, columns⟩ := metadata
  rw [SessionState.announcedMetadata, List.append_assoc]
  exact List.rel_append (definitions_announced (fun _ => .parameter) parameters)
    (definitions_announced (fun _ => .column) columns)

/-- Packets read and packets to come divide the announced kinds. -/
theorem announced_split {kinds : List MetadataKind} {read rest : List Bytes}
    (announced : List.Forall₂ MetadataPacket kinds (read ++ rest)) (more : rest ≠ []) :
    ∃ before after, kinds = before ++ after ∧ after ≠ [] ∧
      List.Forall₂ MetadataPacket before read ∧ List.Forall₂ MetadataPacket after rest := by
  have back := List.forall₂_drop_append kinds read rest announced
  refine ⟨_, _, (List.take_append_drop read.length kinds).symm, ?_,
    List.forall₂_take_append kinds read rest announced, back⟩
  intro nothing
  rw [nothing] at back
  exact more (List.forall₂_nil_left_iff.mp back)

/-- The session awaits the answer to a prepare and nothing else. -/
structure Preparing (state : SessionState) (statementId : Option Nat)
    (kinds : List MetadataKind) : Prop where
  ping : state.pendingPing = false
  reset : state.pendingStatementResetId = none
  database : state.pendingDatabase = none
  prepare : state.pendingStatementSql ≠ none
  response : state.pendingCommandResponse = none
  statement : state.pendingPreparedStatementId = statementId
  packets_eq : state.pendingPrepareMetadataPackets = kinds.length
  kinds_eq : state.pendingPrepareMetadataKinds = kinds

namespace Preparing

variable {flags statementId : Nat} {state : SessionState} {kind : MetadataKind}
  {kinds : List MetadataKind} {payload : Bytes}

theorem pending {started : Option Nat} (preparing : Preparing state started kinds) :
    state.hasPendingLifecycleOperation = true := by
  cases prepare : state.pendingStatementSql with
  | none => exact absurd prepare preparing.prepare
  | some sql => simp [SessionState.hasPendingLifecycleOperation, prepare]

theorem failed {started : Option Nat} (preparing : Preparing state started kinds) :
    state.failStatementPrepare.hasPendingLifecycleOperation = false := by
  simp [SessionState.hasPendingLifecycleOperation, SessionState.failStatementPrepare,
    SessionState.setPrepareEvent, preparing.ping, preparing.reset, preparing.database,
    preparing.response]

theorem track_eq {started : Option Nat} (preparing : Preparing state started kinds) :
    trackResponse flags payload state =
      if started.isSome then trackPrepareMetadata flags payload state
      else trackPrepareOk flags payload state := by
  have prepare : state.pendingStatementSql.isSome = true :=
    Option.isSome_iff_ne_none.mpr preparing.prepare
  simp only [trackResponse, preparing.ping, preparing.reset, preparing.database, prepare,
    preparing.statement, Option.isSome_none, Bool.false_eq_true, if_false, if_true]

/-- An error answers a prepare at any point. -/
theorem track_error {started : Option Nat} (preparing : Preparing state started kinds)
    (failed : ErrPacket payload) : trackResponse flags payload state = (.ok .failPrepare, state) := by
  obtain ⟨rest⟩ := failed
  rw [preparing.track_eq]
  cases started <;> rfl

/-- The session after one metadata packet. -/
def consumed (state : SessionState) (kinds : List MetadataKind) : SessionState :=
  { state with
    pendingPrepareMetadataKinds := kinds
    pendingPrepareMetadataPackets := kinds.length }

theorem check_metadata (isKind : MetadataPacket kind payload) :
    payload ≠ [] ∧ payload.head? ≠ some 0xFF ∧
      SessionState.checkMetadataPacket kind payload flags = .ok () := by
  cases isKind with
  | parameter definition =>
      obtain ⟨rest, notError⟩ := definition
      simp [SessionState.checkMetadataPacket, notError]
  | column definition =>
      obtain ⟨rest, notError⟩ := definition
      simp [SessionState.checkMetadataPacket, notError]
  | eof eof =>
      obtain ⟨w₀, w₁, s₀, s₁⟩ := eof
      refine ⟨by simp, by simp, ?_⟩
      cases protocol41 : hasFlag flags clientProtocol41 with
      | false => simp [SessionState.checkMetadataPacket, protocol41]
      | true =>
          simp [SessionState.checkMetadataPacket, protocol41, parseEofPacketStatus, bind,
            Except.bind, pure, Except.pure]

/-- A metadata packet is consumed, and the last one completes the prepare. -/
theorem track_metadata (preparing : Preparing state (some statementId) (kind :: kinds))
    (isKind : MetadataPacket kind payload) :
    trackResponse flags payload state =
      (.ok (if kinds = [] then .finishPrepare else .nothing), consumed state kinds) := by
  obtain ⟨nonempty, notError, checked⟩ := @check_metadata flags kind payload isKind
  have taken : state.consumeStatementPrepareMetadata payload flags =
      .ok (decide (kinds.length = 0), consumed state kinds) := by
    rw [SessionState.consumeStatementPrepareMetadata, if_neg (by simp [preparing.statement]),
      if_neg (by simp [preparing.packets_eq]), if_neg nonempty]
    simp only [preparing.kinds_eq, checked, preparing.packets_eq, List.length_cons,
      Nat.add_sub_cancel, bind, Except.bind, pure, Except.pure]
    rfl
  rw [preparing.track_eq, if_pos Option.isSome_some, trackPrepareMetadata, if_neg notError, taken]
  simp

theorem consumes (preparing : Preparing state (some statementId) (kind :: kinds)) :
    Preparing (consumed state kinds) (some statementId) kinds :=
  ⟨preparing.ping, preparing.reset, preparing.database, preparing.prepare, preparing.response,
    preparing.statement, rfl, rfl⟩

/-- The session after the last packet of a successful prepare. -/
def finished (state : SessionState) (statementId : Nat) : SessionState :=
  SessionState.setPrepareEvent { state with
    pendingStatementSql := none
    pendingPreparedStatementId := none
    pendingPrepareMetadataKinds := []
    lastPreparedStatementId := some statementId
    lastPrepareFailed := false }

/-- A prepare whose metadata has all been read can be finished. -/
theorem finishes (preparing : Preparing state (some statementId) []) :
    state.finishStatementPrepareResponse = .ok (finished state statementId) ∧
      (finished state statementId).hasPendingLifecycleOperation = false := by
  constructor
  · simp [SessionState.finishStatementPrepareResponse, preparing.statement, preparing.packets_eq,
      finished]
  · simp [SessionState.hasPendingLifecycleOperation, finished, SessionState.setPrepareEvent,
      preparing.ping, preparing.reset, preparing.database, preparing.response]

/-- Some of the announced packets, with more to come. -/
theorem follows_part {read rest : List MetadataKind} {packets : List Bytes}
    (preparing : Preparing state (some statementId) (read ++ rest)) (more : rest ≠ [])
    (announced : List.Forall₂ MetadataPacket read packets) :
    Follows flags (fun later => Preparing later (some statementId) rest) state packets := by
  induction announced generalizing state with
  | nil => exact preparing
  | @cons kind payload kinds others isKind _ ih =>
      refine ⟨preparing.pending, .inr ⟨consumed state (kinds ++ rest), ?_, ih ?_⟩⟩
      · have tracked : trackResponse flags payload state =
            (.ok (if kinds ++ rest = [] then .finishPrepare else .nothing),
              consumed state (kinds ++ rest)) := preparing.track_metadata isKind
        rw [if_neg (by simp [more])] at tracked
        simp only [absorb, tracked]
      · exact preparing.consumes

theorem follows_last (preparing : Preparing state (some statementId) [kind])
    (isKind : MetadataPacket kind payload) :
    Follows flags (fun later => later.hasPendingLifecycleOperation = false) state [payload] := by
  obtain ⟨done, settled⟩ := preparing.consumes.finishes
  refine ⟨preparing.pending, .inr ⟨_, ?_, settled⟩⟩
  have tracked : trackResponse flags payload state = _ := preparing.track_metadata isKind
  rw [if_pos rfl] at tracked
  simp only [absorb, tracked, done]

theorem follows_failure {started : Option Nat} (preparing : Preparing state started kinds)
    (failed : ErrPacket payload) :
    Follows flags (fun later => later.hasPendingLifecycleOperation = false) state [payload] := by
  refine ⟨preparing.pending, .inr ⟨state.failStatementPrepare, ?_, preparing.failed⟩⟩
  simp only [absorb, preparing.track_error failed]

/-- The session once the first packet of a successful prepare has been read. -/
def accepted (state : SessionState) (sql : String) (prepared : StmtPrepareOk)
    (deprecateEof : Bool) : SessionState :=
  { state with
    preparedStatements := state.preparedStatements.insert prepared.statementId
      { statementId := prepared.statementId
        sql := sql
        parameterCount := prepared.parameterCount
        columnCount := prepared.columnCount }
    pendingPreparedStatementId := some prepared.statementId
    pendingPrepareMetadataKinds := SessionState.announcedMetadata prepared deprecateEof
    pendingPrepareMetadataPackets :=
      (SessionState.announcedMetadata prepared deprecateEof).length }

theorem accepts (preparing : Preparing state none kinds) (sql : String) (prepared : StmtPrepareOk)
    (deprecateEof : Bool) :
    Preparing (accepted state sql prepared deprecateEof) (some prepared.statementId)
      (SessionState.announcedMetadata prepared deprecateEof) :=
  ⟨preparing.ping, preparing.reset, preparing.database, preparing.prepare, preparing.response,
    rfl, rfl, rfl⟩

/-- The first packet registers the statement, unless the registry is full. -/
theorem track_prepareOk (preparing : Preparing state none kinds) {sql : String}
    (text : state.pendingStatementSql = some sql) {prepared : StmtPrepareOk}
    (ok : PrepareOkPacket prepared payload) :
    trackResponse flags payload state =
      match state.requirePreparedCapacity prepared.statementId sql with
      | .error error => (.error error, state)
      | .ok () =>
          (.ok (if SessionState.announcedMetadata prepared (hasFlag flags clientDeprecateEof) = []
            then .finishPrepare else .nothing),
            accepted state sql prepared (hasFlag flags clientDeprecateEof)) := by
  have parsed : parseStmtPrepareOk payload = .ok prepared ∧ payload.head? = some 0x00 := by
    obtain ⟨i₀, i₁, i₂, i₃, c₀, c₁, p₀, p₁, filler, w₀, w₁, rest⟩ := ok
    simp [parseStmtPrepareOk]
  rw [preparing.track_eq, if_neg (by simp), trackPrepareOk, if_pos parsed.2]
  simp only [parsed.1, bind, Except.bind, SessionState.acceptStatementPrepareOk, text,
    preparing.statement, Option.isSome_none, Bool.false_eq_true, if_false]
  cases state.requirePreparedCapacity prepared.statementId sql with
  | error error => rfl
  | ok room => simp [pure, Except.pure, accepted, text]

/-- The registry has room for the statement that a response announces. -/
def HasRoom (state : SessionState) (sql : String) (packets : List Bytes) : Prop :=
  ∀ payload prepared, packets.head? = some payload → PrepareOkPacket prepared payload →
    state.requirePreparedCapacity prepared.statementId sql = .ok ()

/-- The first packet is followed to where its metadata is read, or to the end without any. -/
theorem follows_prepareOk {sql : String} {packets : List Bytes} {prepared : StmtPrepareOk}
    (preparing : Preparing state none []) (text : state.pendingStatementSql = some sql)
    (ok : PrepareOkPacket prepared payload)
    (room : state.requirePreparedCapacity prepared.statementId sql = .ok ())
    (some_ : SessionState.announcedMetadata prepared (hasFlag flags clientDeprecateEof) ≠ [])
    (rest : ∀ later, Preparing later (some prepared.statementId)
        (SessionState.announcedMetadata prepared (hasFlag flags clientDeprecateEof)) →
      Follows flags (fun later => later.hasPendingLifecycleOperation = false) later packets) :
    Follows flags (fun later => later.hasPendingLifecycleOperation = false) state
      (payload :: packets) := by
  have tracked : trackResponse flags payload state = _ := preparing.track_prepareOk text ok
  simp only [room, if_neg some_] at tracked
  refine ⟨preparing.pending, .inr ⟨_, ?_, rest _ (preparing.accepts sql prepared _)⟩⟩
  simp only [absorb, tracked]

/-- A response to a prepare is followed to its end, as long as the registry has room. -/
theorem follows_response {packets : List Bytes} {sql : String}
    (preparing : Preparing state none []) (text : state.pendingStatementSql = some sql)
    (response : PrepareResponse flags packets) (room : HasRoom state sql packets) :
    Follows flags (fun later => later.hasPendingLifecycleOperation = false) state packets := by
  cases response with
  | error failed => exact preparing.follows_failure failed
  | @ok prepared payload metadata ok wellFormed =>
      have hasRoom := room payload prepared rfl ok
      have announced := metadata_announced wellFormed
      rcases List.eq_nil_or_concat metadata with rfl | ⟨first, last, rfl⟩
      · have empty := List.forall₂_nil_right_iff.mp announced
        have tracked : trackResponse flags payload state = _ := preparing.track_prepareOk text ok
        simp only [hasRoom, if_pos empty] at tracked
        have read := preparing.accepts sql prepared (hasFlag flags clientDeprecateEof)
        rw [empty] at read
        refine ⟨preparing.pending, .inr ⟨_, ?_, read.finishes.2⟩⟩
        simp only [absorb, tracked, read.finishes.1]
      · rw [List.concat_eq_append] at announced ⊢
        obtain ⟨before, after, split, more, front, back⟩ := announced_split announced (by simp)
        refine preparing.follows_prepareOk text ok hasRoom (by simp [split, more]) ?_
        intro later reading
        rw [split] at reading
        cases back with
        | cons isKind nothing =>
            cases nothing
            apply follows_append
            refine follows_mono (reading.follows_part more front) ?_
            exact fun later reading => reading.follows_last isKind
  | @broken prepared payload failure metadata rest ok wellFormed more failed =>
      have hasRoom := room payload prepared rfl ok
      obtain ⟨before, after, split, left, front, -⟩ :=
        announced_split (metadata_announced wellFormed) more
      refine preparing.follows_prepareOk text ok hasRoom (by simp [split, left]) ?_
      intro later reading
      rw [split] at reading
      apply follows_append
      refine follows_mono (reading.follows_part left front) ?_
      exact fun later reading => reading.follows_failure failed

end Preparing

/-! ## Operations -/

/-- The operations that await a response. -/
inductive Operation where
  | query | stmtExecute | ping
  | stmtPrepare (sql : String)
  | stmtReset (statementId : Nat)
  | initDb (database : String)
  deriving DecidableEq, Repr

/-- How the dispatcher begins an operation. -/
def Operation.begin (operation : Operation) (state : SessionState) : Except Exn SessionState :=
  match operation with
  | .query => state.beginCommandResponse .query
  | .stmtExecute => state.beginCommandResponse .stmtExecute
  | .ping => state.beginPing
  | .stmtPrepare sql => state.beginStatementPrepare sql
  | .stmtReset statementId => state.beginStatementReset statementId
  | .initDb database => state.beginDatabaseChange database

/-- The well-formed responses to an operation. -/
def Operation.Answered (operation : Operation) (flags : Nat) (packets : List Bytes) : Prop :=
  match operation with
  | .query | .stmtExecute => Results flags packets
  | .stmtPrepare _ => PrepareResponse flags packets
  | .ping | .stmtReset _ | .initDb _ => Acknowledgment packets

/-- The registry limits are not exceeded by the response to a prepare. -/
def Operation.Fits (operation : Operation) (state : SessionState) (packets : List Bytes) : Prop :=
  match operation with
  | .stmtPrepare sql => Preparing.HasRoom state (strip sql) packets
  | _ => True

section Begins

variable {state : SessionState}

theorem reading_awaiting (free : state.hasPendingLifecycleOperation = false) (kind : ResponseKind) :
    Reading (state.awaitingResponse kind) .initial 0 := by
  obtain ⟨database, prepare, ping, reset, -⟩ := hasPending_eq_false.mp free
  exact ⟨ping, reset, database, prepare, Option.some_ne_none kind, rfl, rfl⟩

theorem preparing_awaiting (free : state.hasPendingLifecycleOperation = false) (sql : String) :
    Preparing (state.awaitingPrepare sql) none [] := by
  obtain ⟨database, -, ping, reset, response⟩ := hasPending_eq_false.mp free
  exact ⟨ping, reset, database, Option.some_ne_none sql, response, rfl, rfl, rfl⟩

/-! ### Acknowledged operations -/

variable {flags : Nat} {packets : List Bytes}

theorem follows_ping (free : state.hasPendingLifecycleOperation = false)
    (answered : Acknowledgment packets) :
    Follows flags (fun later => later.hasPendingLifecycleOperation = false)
      state.awaitingPing packets := by
  have settled : state.awaitingPing.failPing.hasPendingLifecycleOperation = false := by
    obtain ⟨database, prepare, -, reset, response⟩ := hasPending_eq_false.mp free
    exact hasPending_eq_false.mpr ⟨database, prepare, rfl, reset, response⟩
  refine follows_acknowledgment (by simp [SessionState.hasPendingLifecycleOperation,
    SessionState.awaitingPing]) settled ?_ ?_ answered
  · rintro payload status ⟨s₀, s₁, w₀, w₁, affected, insertId⟩
    exact ⟨true, _, rfl, settled⟩
  · rintro payload ⟨rest⟩
    exact ⟨false, rfl⟩

theorem follows_database (free : state.hasPendingLifecycleOperation = false) (database : String)
    (answered : Acknowledgment packets) :
    Follows flags (fun later => later.hasPendingLifecycleOperation = false)
      (state.awaitingDatabase database) packets := by
  obtain ⟨-, prepare, ping, reset, response⟩ := hasPending_eq_false.mp free
  have settled : ∀ name, SessionState.hasPendingLifecycleOperation
      { state.awaitingDatabase database with pendingDatabase := none, database := name } = false :=
    fun _ => hasPending_eq_false.mpr ⟨rfl, prepare, ping, reset, response⟩
  have tracked : ∀ payload, trackResponse flags payload (state.awaitingDatabase database) =
      acknowledge flags payload
        ((state.awaitingDatabase database).completeDatabaseChange payload) := by
    intro payload
    simp [trackResponse, SessionState.awaitingDatabase, ping, reset]
  refine follows_acknowledgment (by simp [SessionState.hasPendingLifecycleOperation,
    SessionState.awaitingDatabase]) (settled state.database) ?_ ?_ answered
  · rintro payload status ⟨s₀, s₁, w₀, w₁, affected, insertId⟩
    exact ⟨true, _, tracked _, settled database⟩
  · rintro payload ⟨rest⟩
    exact ⟨false, tracked _⟩

theorem follows_reset (free : state.hasPendingLifecycleOperation = false) {statementId : Nat}
    {statement : PreparedStatement}
    (known : state.preparedStatements.lookup statementId = some statement)
    (answered : Acknowledgment packets) :
    Follows flags (fun later => later.hasPendingLifecycleOperation = false)
      (state.awaitingReset statementId) packets := by
  obtain ⟨database, prepare, ping, -, response⟩ := hasPending_eq_false.mp free
  have settled : (state.awaitingReset statementId).failStatementReset.hasPendingLifecycleOperation =
      false := hasPending_eq_false.mpr ⟨database, prepare, ping, rfl, response⟩
  have tracked : ∀ payload, trackResponse flags payload (state.awaitingReset statementId) =
      acknowledge flags payload
        ((state.awaitingReset statementId).completeStatementReset payload) := by
    intro payload
    simp [trackResponse, SessionState.awaitingReset, ping]
  have found : (state.awaitingReset statementId).failStatementReset.resetPreparedStatement
      statementId = .ok ((state.awaitingReset statementId).failStatementReset.storeStatement
        statementId { statement with parameterTypes := none, longDataParameters := ∅ }) := by
    simp [SessionState.resetPreparedStatement, SessionState.getPreparedStatement,
      SessionState.awaitingReset, SessionState.failStatementReset, known, bind, Except.bind,
      pure, Except.pure]
  refine follows_acknowledgment (by simp [SessionState.hasPendingLifecycleOperation,
    SessionState.awaitingReset]) settled ?_ ?_ answered
  · rintro payload status ⟨s₀, s₁, w₀, w₁, affected, insertId⟩
    refine ⟨true, (state.awaitingReset statementId).failStatementReset.storeStatement
        statementId { statement with parameterTypes := none, longDataParameters := ∅ }, ?_, settled⟩
    rw [tracked]
    unfold SessionState.failStatementReset at found
    simp only [SessionState.completeStatementReset, SessionState.awaitingReset, if_true]
    simp only [SessionState.awaitingReset] at found
    rw [found]
    rfl
  · rintro payload ⟨rest⟩
    exact ⟨false, tracked _⟩

end Begins

/-- Every well-formed response to an operation is followed to its end. -/
theorem Operation.follows {operation : Operation} {flags : Nat} {state begun : SessionState}
    {packets : List Bytes} (done : operation.begin state = .ok begun)
    (answered : operation.Answered flags packets) (fits : operation.Fits begun packets)
    (fit : ∀ payload ∈ packets, payload.length < maxPacketPayload) :
    Follows flags (fun later => later.hasPendingLifecycleOperation = false) begun packets := by
  cases operation with
  | query =>
      obtain ⟨free, rfl⟩ := beginCommandResponse_ok done
      exact follows_short ((reading_awaiting free _).follows_results answered) fit
  | stmtExecute =>
      obtain ⟨free, rfl⟩ := beginCommandResponse_ok done
      exact follows_short ((reading_awaiting free _).follows_results answered) fit
  | stmtPrepare sql =>
      obtain ⟨free, rfl⟩ := beginStatementPrepare_ok done
      exact (preparing_awaiting free _).follows_response rfl answered fits
  | ping =>
      obtain ⟨free, rfl⟩ := beginPing_ok done
      exact follows_ping free answered
  | stmtReset statementId =>
      obtain ⟨free, ⟨statement, known⟩, rfl⟩ := beginStatementReset_ok done
      exact follows_reset free known answered
  | initDb database =>
      obtain ⟨free, rfl⟩ := beginDatabaseChange_ok done
      exact follows_database free _ answered

/-! ## Routing a response -/

variable {Γ : Type}

/-- Route packets one after another. -/
def routeAll : List Packet → Handler adapter Γ Unit
  | [] => return ()
  | packet :: rest => do
      routeBackendPacket packet
      routeAll rest

/-- Packets are fed to the router while nothing else happens. -/
def fed (answer : (q : Request) → q.Answer) (packets : List Packet) (w : World adapter Γ) :
    Except Exn Unit × World adapter Γ :=
  (routeAll packets).run (fun q w => (answer q, w)) w

section Routing

variable {answer : (q : Request) → q.Answer} {w : World adapter Γ} {packet : Packet}

theorem run_drain (drains : answer .drain = true) :
    (drain : Handler adapter Γ Unit).run (fun q w => (answer q, w)) w = (.ok (), w) := by
  change (if answer .drain then pure () else Proc.raised .connectionLost : Handler adapter Γ Unit).run
    _ w = _
  rw [drains]
  rfl

/-- A packet is tracked before it is relayed. -/
theorem run_tracked :
    (routeResponse packet).run (fun q w => (answer q, w)) w =
      (Proc.ofExcept (trackResponse w.session.auth.capabilityFlags packet.payload
          w.session.session).1 >>= fun next => do
        writeClient (.relayed packet.raw)
        drain
        followUp next : Handler adapter Γ Unit).run (fun q w => (answer q, w))
        (withState w (trackResponse w.session.auth.capabilityFlags packet.payload
          w.session.session).2) := rfl

/-- What routing a packet of a response comes to without interference. -/
theorem run_routeResponse (drains : answer .drain = true) {next : FollowUp}
    {tracked : SessionState}
    (follows : trackResponse w.session.auth.capabilityFlags packet.payload w.session.session =
      (.ok next, tracked)) :
    (routeResponse packet).run (fun q w => (answer q, w)) w =
      (followUp next).run (fun q w => (answer q, w))
        ((withState w tracked).answer (.relayed packet.raw)) := by
  rw [run_tracked, follows]
  change (drain >>= fun _ => followUp next : Handler adapter Γ Unit).run _ _ = _
  rw [Proc.run_bind, run_drain drains]

theorem run_commandResponse (phase : w.session.phase = .commandResponse) :
    (routeBackendPacket packet).run (fun q w => (answer q, w)) w =
      (routeResponse packet).run (fun q w => (answer q, w)) w := by
  have current : (session : Handler adapter Γ RelayState).run (fun q w => (answer q, w)) w =
      (.ok w.session, w) := rfl
  unfold routeBackendPacket
  rw [Proc.run_bind, current]
  simp only [phase]

/-- A packet that is absorbed is relayed unchanged. -/
theorem run_routeBackendPacket (drains : answer .drain = true)
    (phase : w.session.phase = .commandResponse) {next : SessionState}
    (absorbed : absorb w.session.auth.capabilityFlags packet.payload w.session.session = .ok next) :
    (routeBackendPacket packet).run (fun q w => (answer q, w)) w =
      (.ok (), (withState w next).answer (.relayed packet.raw)) := by
  rw [run_commandResponse phase]
  rcases tracks : trackResponse w.session.auth.capabilityFlags packet.payload
    w.session.session with ⟨_ | _ | _ | _, tracked⟩
  · simp only [absorb, tracks, reduceCtorEq] at absorbed
  · simp only [absorb, tracks, Except.ok.injEq] at absorbed
    rw [run_routeResponse drains tracks, ← absorbed]
    rfl
  · simp only [absorb, tracks] at absorbed
    rw [run_routeResponse drains tracks]
    change (Proc.ofExcept tracked.finishStatementPrepareResponse >>= fun changed =>
      updateSession fun _ => changed : Handler adapter Γ Unit).run _ _ = _
    rw [absorbed]
    rfl
  · simp only [absorb, tracks, Except.ok.injEq] at absorbed
    rw [run_routeResponse drains tracks, ← absorbed]
    rfl

/-- What has been read and relayed after a part of a response that is followed. -/
theorem fed_follows (drains : answer .drain = true)
    (phase : w.session.phase = .commandResponse) {packets : List Packet}
    {post : SessionState → Prop}
    (modern : hasFlag w.session.auth.capabilityFlags clientProtocol41 = true)
    (follows : Follows w.session.auth.capabilityFlags post w.session.session
      (packets.map Packet.payload)) :
    ∃ later, fed answer packets w = (.ok (), later) ∧ post later.session.session ∧
      later.clientOut = w.clientOut ++ packets.map fun packet => .relayed packet.raw := by
  induction packets generalizing w with
  | nil => exact ⟨w, rfl, follows, by simp⟩
  | cons packet rest ih =>
      obtain ⟨-, ⟨old, -⟩ | ⟨next, absorbed, remaining⟩⟩ := follows
      · rw [modern] at old
        cases old
      · have step := run_routeBackendPacket drains phase absorbed
        obtain ⟨later, run, holds, out⟩ :=
          @ih ((withState w next).answer (.relayed packet.raw)) phase modern remaining
        refine ⟨later, ?_, holds, ?_⟩
        · simp only [fed, routeAll, Proc.run_bind, step] at run ⊢
          exact run
        · rw [out]
          simp

end Routing

/--
A response is tracked: nothing is raised, every packet is relayed unchanged,
more is awaited before the last packet and nothing after it.
-/
structure Tracked (answer : (q : Request) → q.Answer) (packets : List Packet)
    (w : World adapter Γ) : Prop where
  returns : (fed answer packets w).1 = .ok ()
  relays : (fed answer packets w).2.clientOut =
    w.clientOut ++ packets.map fun packet => .relayed packet.raw
  awaits : ∀ read rest, packets = read ++ rest → rest ≠ [] →
    (fed answer read w).2.session.session.hasPendingLifecycleOperation = true
  completes : (fed answer packets w).2.session.session.hasPendingLifecycleOperation = false

/-- Every well-formed response to every operation is tracked, under any mix of capabilities. -/
theorem response_tracked {answer : (q : Request) → q.Answer} (drains : answer .drain = true)
    {w : World adapter Γ} {operation : Operation} {state : SessionState} {packets : List Packet}
    (phase : w.session.phase = .commandResponse)
    (modern : hasFlag w.session.auth.capabilityFlags clientProtocol41 = true)
    (begun : operation.begin state = .ok w.session.session)
    (answered : operation.Answered w.session.auth.capabilityFlags (packets.map Packet.payload))
    (fits : operation.Fits w.session.session (packets.map Packet.payload))
    (short : ∀ packet ∈ packets, packet.payload.length < maxPacketPayload) :
    Tracked answer packets w := by
  have shortPayloads : ∀ payload ∈ packets.map Packet.payload,
      payload.length < maxPacketPayload := by
    intro payload inside
    obtain ⟨packet, present, rfl⟩ := List.mem_map.mp inside
    exact short packet present
  have follows := Operation.follows begun answered fits shortPayloads
  obtain ⟨later, run, complete, out⟩ := fed_follows drains phase modern follows
  refine ⟨by rw [run], by rw [run, out], ?_, by rw [run]; exact complete⟩
  intro read rest split more
  rw [split, List.map_append] at follows
  have part := follows_read follows (by simpa using more)
  obtain ⟨midway, run, pending, -⟩ := fed_follows drains phase modern part
  rw [run]
  exact pending

/-- An OK that announces a result set of one column and one row, and that result set. -/
def twoResults : List Packet :=
  [packetOf 1 [0x00, 0, 0, 0x08, 0, 0, 0], packetOf 2 [1], packetOf 3 [3, 0x64, 0x65, 0x66],
    packetOf 4 [0xFE, 0, 0, 2, 0], packetOf 5 [1, 0x31], packetOf 6 [0xFE, 0, 0, 2, 0]]

theorem twoResults_wellFormed : Results clientProtocol41 (twoResults.map Packet.payload) := by
  have one : Lenenc 1 [1] := @Lenenc.one 1 (by decide)
  have zero : Lenenc 0 [0] := @Lenenc.one 0 (by decide)
  have first : OkPacket 0x00 8 [0x00, 0, 0, 0x08, 0, 0, 0] := .mk 8 0 0 0 zero zero
  have eof : EofPacket 2 [0xFE, 0, 0, 2, 0] := .mk 0 0 2 0
  have set : ResultSet clientProtocol41
      ([1] :: ([[3, 0x64, 0x65, 0x66]] ++ ([[0xFE, 0, 0, 2, 0]] ++ [[1, 0x31]]))) := by
    refine .mk (.plain (by decide) (by decide) one) rfl ?_ ?_ ?_
    · intro payload inside
      rw [List.mem_singleton.mp inside]
      exact .mk _ (by decide)
    · exact ⟨2, _, eof, rfl⟩
    · intro payload inside
      rw [List.mem_singleton.mp inside]
      exact Row.text one (by decide) (by decide)
  have final : Result clientProtocol41 (moreResults 2) _ := .rows set eof
  exact .more (.ok first) (.last final)

/-- The session that awaits the response to a query. -/
def querying : SessionState := SessionState.awaitingResponse { database := "" } .query

theorem twoResults_tracked :
    Operation.query.begin { database := "" } = .ok querying ∧
      Tracked (userAnswers true) twoResults (commandPhase clientProtocol41 querying ()) := by
  have begun : Operation.query.begin { database := "" } = .ok querying := rfl
  exact ⟨begun, response_tracked rfl rfl (by decide) begun twoResults_wellFormed trivial
    (by decide)⟩

end SqlSafetyProxy.MySql
