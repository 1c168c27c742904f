import SqlSafetyProxy.MySql.Moves
import SqlSafetyProxy.MySql.ResponseTracking

/-!
# Packets longer than a physical packet

The backend sends a logical packet of `maxPacketPayload` bytes or more as
several physical packets.  The client's are put together again before they are
read; the backend's are tracked one by one.
-/

namespace SqlSafetyProxy.MySql

open SqlSafetyProxy.Wire SqlSafetyProxy.Runtime SqlSafetyProxy.Coroutine
open SqlSafetyProxy.Collections

/-! ## Physical packets -/

/-- The physical packets of a payload; only the last one is not full. -/
def physical (payload : Bytes) : List Bytes :=
  if payload.length < maxPacketPayload then [payload]
  else payload.take maxPacketPayload :: physical (payload.drop maxPacketPayload)
  termination_by payload.length
  decreasing_by
    simp only [List.length_drop, maxPacketPayload] at *
    omega

/-- The physical packets after the first one. -/
def continuations (payload : Bytes) : List Bytes := (physical payload).tail

theorem physical_short {payload : Bytes} (short : payload.length < maxPacketPayload) :
    physical payload = [payload] := by
  rw [physical, if_pos short]

theorem physical_long {payload : Bytes} (long : maxPacketPayload ≤ payload.length) :
    physical payload = payload.take maxPacketPayload :: continuations payload := by
  rw [continuations, physical, if_neg (Nat.not_lt.mpr long), List.tail_cons]

theorem continuations_long {payload : Bytes} (long : maxPacketPayload ≤ payload.length) :
    continuations payload = physical (payload.drop maxPacketPayload) := by
  rw [continuations, physical, if_neg (Nat.not_lt.mpr long), List.tail_cons]

theorem physical_ne_nil (payload : Bytes) : physical payload ≠ [] := by
  by_cases short : payload.length < maxPacketPayload
  · rw [physical_short short]
    exact List.cons_ne_nil _ _
  · rw [physical_long (Nat.not_lt.mp short)]
    exact List.cons_ne_nil _ _

/-- A long packet has at least one continuation. -/
theorem exists_continuation {payload : Bytes} (long : maxPacketPayload ≤ payload.length) :
    ∃ packet, packet ∈ continuations payload := by
  rw [continuations_long long]
  exact List.exists_mem_of_ne_nil _ (physical_ne_nil _)

theorem head?_take {payload : Bytes} : (payload.take maxPacketPayload).head? = payload.head? := by
  cases payload with
  | nil => rfl
  | cons first rest => rfl

/-! ## Reading the start of a packet -/

section Start

variable {count : Nat} {bytes : Bytes}

/-- A length-encoded integer is read from at most nine bytes. -/
theorem readLenenc_take (missing null truncated : String) (enough : 9 ≤ count)
    (present : count ≤ bytes.length) :
    (∃ error, readLenenc missing null truncated bytes = .error error ∧
      readLenenc missing null truncated (bytes.take count) = .error error) ∨
    ∃ value size, size ≤ 9 ∧ readLenenc missing null truncated bytes = .ok (value, bytes.drop size) ∧
      readLenenc missing null truncated (bytes.take count) =
        .ok (value, (bytes.drop size).take (count - size)) := by
  cases bytes with
  | nil => simp at present; omega
  | cons marker rest =>
      obtain ⟨more, rfl⟩ : ∃ more, count = more + 1 := ⟨count - 1, by omega⟩
      simp only [List.length_cons, Nat.add_le_add_iff_right] at present
      simp only [readLenenc, List.take_succ_cons]
      cases sized : lenencSize marker with
      | none => exact .inl ⟨_, rfl, rfl⟩
      | some size =>
          cases size with
          | zero => exact .inr ⟨_, 1, by decide, rfl, rfl⟩
          | succ size =>
              have bounded : size + 1 ≤ 8 := by
                unfold lenencSize at sized
                grind
              obtain ⟨whole, start⟩ : splitExactly (size + 1) rest =
                    some (rest.take (size + 1), rest.drop (size + 1)) ∧
                  splitExactly (size + 1) (rest.take more) =
                    some (rest.take (size + 1), (rest.drop (size + 1)).take (more - (size + 1))) := by
                have fits : size + 1 ≤ more := by omega
                have held : size + 1 ≤ rest.length := by omega
                simp [splitExactly, fits, held, List.take_take, List.drop_take]
              refine .inr ⟨leNat (rest.take (size + 1)), size + 2, by omega, ?_, ?_⟩
              · simp only [whole, List.drop_succ_cons]
              · simp only [start, List.drop_succ_cons, Nat.add_sub_add_right]

/-- The status of a long OK packet stands in its first physical packet. -/
theorem parseOkPacketStatus_take {payload : Bytes} (flags : Nat)
    (long : maxPacketPayload ≤ payload.length) :
    parseOkPacketStatus (payload.take maxPacketPayload) flags = parseOkPacketStatus payload flags := by
  cases payload with
  | nil => rfl
  | cons marker rest =>
      have present : maxPacketPayload - 1 ≤ rest.length := by
        simp only [List.length_cons] at long
        omega
      have taken : (marker :: rest).take maxPacketPayload =
          marker :: rest.take (maxPacketPayload - 1) := rfl
      simp only [taken, parseOkPacketStatus]
      split
      · rfl
      · simp only [readPacketLengthEncodedInteger]
        obtain ⟨error, whole, start⟩ | ⟨rows, used, few, whole, start⟩ :=
          readLenenc_take _ _ _ (by decide) present
        · rw [whole, start]
        · rw [whole, start]
          obtain ⟨error, whole, start⟩ | ⟨identifier, used', few', whole, start⟩ :=
            @readLenenc_take (maxPacketPayload - 1 - used) (rest.drop used)
              ("Backend packet is missing " ++ "OK last insert id")
              ("Backend packet contains NULL for " ++ "OK last insert id")
              ("Backend packet has truncated " ++ "OK last insert id")
              (by simp only [maxPacketPayload]; omega)
              (by simp only [List.length_drop]; omega)
          · simp only [bind, Except.bind, whole, start]
          · have atLeast : 4 ≤ ((rest.drop used).drop used').length := by
              simp only [List.length_drop]
              simp only [maxPacketPayload] at present
              omega
            have kept : 4 ≤ maxPacketPayload - 1 - used - used' := by
              simp only [maxPacketPayload]
              omega
            have same : (((rest.drop used).drop used').take
                (maxPacketPayload - 1 - used - used')).take 2 =
                ((rest.drop used).drop used').take 2 := by
              rw [List.take_take, Nat.min_eq_left (by omega)]
            have fullWhole : ∀ least ≤ 4, ¬ ((rest.drop used).drop used').length < least := by
              intro least small
              omega
            have fullStart : ∀ least ≤ 4, ¬ (((rest.drop used).drop used').take
                (maxPacketPayload - 1 - used - used')).length < least := by
              intro least small
              rw [List.length_take]
              omega
            simp only [bind, Except.bind, whole, start, same, fullWhole 4 (by decide),
              fullStart 4 (by decide), fullWhole 2 (by decide), fullStart 2 (by decide)]

/-- A long packet is no header of a result set. -/
theorem parseResultsetHeader_long {payload : Bytes} (flags : Nat)
    (long : maxPacketPayload ≤ payload.length) (read : Nat × Bool) :
    parseResultsetHeader payload flags ≠ .ok read := by
  intro parsed
  simp only [maxPacketPayload] at long
  simp only [parseResultsetHeader, readPacketLengthEncodedInteger] at parsed
  obtain ⟨error, whole, -⟩ | ⟨columns, used, few, whole, -⟩ :=
    @readLenenc_take 9 payload ("Backend packet is missing " ++ "result-set column count")
      ("Backend packet contains NULL for " ++ "result-set column count")
      ("Backend packet has truncated " ++ "result-set column count") le_rfl (by omega)
  · rw [whole] at parsed
    cases parsed
  · rw [whole] at parsed
    simp only [bind, Except.bind] at parsed
    split at parsed
    · cases parsed
    · obtain ⟨first, second, rest, split⟩ : ∃ first second rest,
          payload.drop used = first :: second :: rest := by
        cases left : payload.drop used with
        | nil =>
            have empty := congrArg List.length left
            simp only [List.length_drop, List.length_nil] at empty
            omega
        | cons first rest =>
            cases rest with
            | nil =>
                have single := congrArg List.length left
                simp only [List.length_drop, List.length_cons, List.length_nil] at single
                omega
            | cons second rest => exact ⟨first, second, rest, rfl⟩
      rw [split] at parsed
      cases flagged : hasFlag flags mariadbClientCacheMetadata with
      | true =>
          simp only [readMetadataIndicator, flagged, if_true] at parsed
          split at parsed
          · cases parsed
          · next read indicated =>
              split at indicated
              · cases indicated
              · rw [← Except.ok.inj indicated] at parsed
                simp only [ne_eq, reduceCtorEq, not_false_eq_true, if_true] at parsed
      | false =>
          simp only [readMetadataIndicator, flagged, Bool.false_eq_true, if_false, ne_eq,
            reduceCtorEq, not_false_eq_true, if_true] at parsed

end Start

/-! ## Packets that leave the session alone -/

/-- A physical packet that is taken for a row, or a part of one. -/
def Plain (flags : Nat) (packet : Bytes) : Prop :=
  packet ≠ [] ∧ packet.head? ≠ some 0xFF ∧
    (packet.head? = some 0xFE → hasFlag flags clientDeprecateEof = false ∧ 9 ≤ packet.length)

instance (flags : Nat) (packet : Bytes) : Decidable (Plain flags packet) :=
  inferInstanceAs (Decidable (_ ∧ _ ∧ _))

/-- Nothing is tracked while nothing is awaited. -/
theorem absorb_free {flags : Nat} {packet : Bytes} {state : SessionState}
    (free : state.hasPendingLifecycleOperation = false) :
    absorb flags packet state = .ok state := by
  obtain ⟨database, prepare, ping, reset, response⟩ := hasPending_eq_false.mp free
  simp [absorb, trackResponse, database, prepare, ping, reset, response]

namespace Reading

variable {flags columns : Nat} {state : SessionState} {stage : ResponseStage} {packet : Bytes}

theorem ne_forgotten (reading : Reading state stage columns) :
    state.failCommandForward ≠ state := by
  intro same
  have gone : state.pendingCommandResponse = none := by
    rw [← same]
    rfl
  exact reading.response gone

/-- An error ends the response, an empty packet breaks it off. -/
theorem idle_marker (reading : Reading state stage columns)
    (idle : absorb flags packet state = .ok state) :
    ∃ marker rest, packet = marker :: rest ∧ marker ≠ 0xFF ∧
      state.acceptAtStage stage marker packet flags = (.ok (), state) := by
  rw [reading.absorb_eq] at idle
  cases packet with
  | nil =>
      rw [SessionState.acceptCommandResponsePacket, if_neg reading.response] at idle
      cases idle
  | cons marker rest =>
      by_cases isError : marker = 0xFF
      · rw [SessionState.acceptCommandResponsePacket, if_neg reading.response] at idle
        simp only [if_pos isError] at idle
        exact absurd (Except.ok.inj idle) reading.ne_forgotten
      · rw [reading.accept_eq isError] at idle
        refine ⟨marker, rest, rfl, isError, ?_⟩
        rcases followed : state.acceptAtStage stage marker (marker :: rest) flags with ⟨_ | _, next⟩
        · rw [followed] at idle
          cases idle
        · rw [followed] at idle
          rw [Except.ok.inj idle]

theorem finish_ne (reading : Reading state stage columns) (status : Nat)
    (elsewhere : stage ≠ .initial) :
    (state.updateTransactionStatus status).finishOrContinueResponse status ≠ state := by
  intro same
  rw [SessionState.finishOrContinueResponse] at same
  split at same
  · have initial : state.commandResponseStage = .initial := by
      rw [← same]
    exact elsewhere (reading.stage_eq.symm.trans initial)
  · have gone : state.pendingCommandResponse = none := by
      rw [← same]
      rfl
    exact reading.response gone

theorem end_ne (reading : Reading state stage columns) (parsed : Except Exn Nat)
    (elsewhere : stage ≠ .initial) : state.endResult parsed ≠ (.ok (), state) := by
  intro same
  cases parsed with
  | error error => exact absurd (congrArg Prod.fst same) (by rintro ⟨⟩)
  | ok status => exact reading.finish_ne status elsewhere (congrArg Prod.snd same)

/-- Among the rows exactly the plain packets are passed over. -/
theorem idle_rows (reading : Reading state .rows columns) :
    absorb flags packet state = .ok state ↔ Plain flags packet := by
  constructor
  · intro idle
    obtain ⟨marker, rest, rfl, notError, accepted⟩ := reading.idle_marker idle
    refine ⟨List.cons_ne_nil _ _, fun same => notError (Option.some.inj same), ?_⟩
    intro ending
    have isEnd : marker = 0xFE := Option.some.inj ending
    simp only [SessionState.acceptAtStage, SessionState.acceptRowPacket] at accepted
    cases deprecated : hasFlag flags clientDeprecateEof with
    | true =>
        simp only [deprecated, if_true, isEnd, ne_eq, not_true_eq_false, if_false] at accepted
        exact absurd accepted (reading.end_ne _ (by decide))
    | false =>
        refine ⟨rfl, ?_⟩
        by_contra short
        simp only [deprecated, Bool.false_eq_true, if_false, isEnd, ne_eq, not_true_eq_false,
          false_or] at accepted
        rw [isEnd] at short
        rw [if_neg short] at accepted
        exact absurd accepted (reading.end_ne _ (by decide))
  · rintro ⟨present, notError, ending⟩
    cases packet with
    | nil => exact absurd rfl present
    | cons marker rest =>
        have noError : marker ≠ 0xFF := fun same => notError (congrArg some same)
        rw [reading.absorb_eq, reading.accept_eq noError]
        simp only [SessionState.acceptAtStage, SessionState.acceptRowPacket]
        by_cases isEnd : marker = 0xFE
        · obtain ⟨old, large⟩ := ending (congrArg some isEnd)
          simp only [old, Bool.false_eq_true, if_false, if_pos (Or.inr large)]
        · cases hasFlag flags clientDeprecateEof with
          | true => simp only [if_true, if_pos isEnd]
          | false => simp only [Bool.false_eq_true, if_false, if_pos (Or.inl isEnd)]

/-- No packet is passed over among the definitions. -/
theorem not_idle_metadata (reading : Reading state .metadata columns) :
    absorb flags packet state ≠ .ok state := by
  intro idle
  obtain ⟨marker, rest, rfl, notError, accepted⟩ := reading.idle_marker idle
  simp only [SessionState.acceptAtStage, SessionState.acceptMetadataPacket] at accepted
  split at accepted
  · cases congrArg Prod.fst accepted
  · next some_ =>
      have counted := congrArg (fun result => result.2.responseColumnsRemaining) accepted
      simp only at counted
      omega

theorem not_idle_metadataEof (reading : Reading state .metadataEof columns) :
    absorb flags packet state ≠ .ok state := by
  intro idle
  obtain ⟨marker, rest, rfl, notError, accepted⟩ := reading.idle_marker idle
  simp only [SessionState.acceptAtStage, SessionState.acceptMetadataEof] at accepted
  split at accepted
  · cases congrArg Prod.fst accepted
  · have moved := congrArg (fun result => result.2.commandResponseStage) accepted
    simp only [reading.stage_eq] at moved
    cases moved

/-- After an OK that announces more, only an OK with the same status changes nothing. -/
theorem idle_initial (reading : Reading state .initial 0) {status : Nat}
    (more : moreResults status = true) (updated : state.updateTransactionStatus status = state) :
    absorb flags packet state = .ok state ↔
      packet.head? = some 0x00 ∧ parseOkPacketStatus packet flags = .ok status := by
  have continues : hasFlag status serverMoreResultsExists = true := more
  have recorded : state.serverStatusFlags = some status := by
    rw [← updated]
    rfl
  have same : (state.updateTransactionStatus status).finishOrContinueResponse status = state := by
    rw [updated, SessionState.finishOrContinueResponse, if_pos continues, ← reading.stage_eq,
      ← reading.columns_eq]
  constructor
  · intro idle
    obtain ⟨marker, rest, rfl, notError, accepted⟩ := reading.idle_marker idle
    simp only [SessionState.acceptAtStage, SessionState.acceptInitialPacket] at accepted
    split at accepted
    · next isOk =>
        refine ⟨congrArg some isOk, ?_⟩
        cases parsed : parseOkPacketStatus (marker :: rest) flags with
        | error error =>
            rw [parsed] at accepted
            cases congrArg Prod.fst accepted
        | ok other =>
            rw [parsed] at accepted
            have flagged := congrArg (fun result => result.2.serverStatusFlags) accepted
            simp only [SessionState.endResult, SessionState.finishOrContinueResponse,
              SessionState.failCommandForward, SessionState.updateTransactionStatus,
              recorded] at flagged
            split at flagged <;> rw [Option.some.inj flagged]
    · split at accepted
      · cases congrArg Prod.fst accepted
      · split at accepted
        · cases congrArg Prod.fst accepted
        · split at accepted
          · have moved := congrArg (fun result => result.2.commandResponseStage) accepted
            simp only [reading.stage_eq] at moved
            cases moved
          · have moved := congrArg (fun result => result.2.commandResponseStage) accepted
            simp only [reading.stage_eq, SessionState.afterMetadata] at moved
            split at moved <;> cases moved
  · rintro ⟨isOk, parsed⟩
    cases packet with
    | nil => cases isOk
    | cons marker rest =>
        have zero : marker = 0x00 := Option.some.inj isOk
        have notError : marker ≠ 0xFF := by
          rw [zero]
          decide
        rw [reading.absorb_eq, reading.accept_eq notError]
        simp only [SessionState.acceptAtStage, SessionState.acceptInitialPacket, if_pos zero, parsed,
          SessionState.endResult, same]

end Reading

/-! ## One logical packet -/

/--
The first physical packet of a payload does what the whole payload does, and
every continuation leaves the session as it is.
-/
def Held (flags : Nat) (state : SessionState) (payload : Bytes) (next : SessionState) : Prop :=
  ∃ first later, physical payload = first :: later ∧ absorb flags first state = .ok next ∧
    ∀ packet ∈ later, absorb flags packet next = .ok next

/--
What makes the physical packets of a long payload harmless where the session
stands: it is an error; or a row, or the last column definition before the
rows, whose packets are plain; or an OK after which nothing is awaited or whose
continuations read as the same OK again.
-/
def Harmless (flags : Nat) (state : SessionState) (payload : Bytes) : Prop :=
  payload.head? = some 0xFF ∨ match state.commandResponseStage with
    | .initial => ∀ status, parseOkPacketStatus payload flags = .ok status →
        moreResults status = true → ∀ packet ∈ continuations payload,
          packet.head? = some 0x00 ∧ parseOkPacketStatus packet flags = .ok status
    | .metadata => state.responseColumnsRemaining = 1 ∧ hasFlag flags clientDeprecateEof = true ∧
        ∀ packet ∈ continuations payload, Plain flags packet
    | .metadataEof => False
    | .rows => ∀ packet ∈ physical payload, Plain flags packet

section Held

variable {flags columns : Nat} {state next : SessionState} {stage : ResponseStage}
  {payload : Bytes}

theorem held_short (short : payload.length < maxPacketPayload)
    (read : absorbWhole flags payload state = .ok next) : Held flags state payload next := by
  rw [absorbWhole_eq (.inl short)] at read
  refine ⟨payload, [], physical_short short, read, ?_⟩
  intro packet inside
  cases inside

theorem held_long (long : maxPacketPayload ≤ payload.length) :
    Held flags state payload next ↔
      absorb flags (payload.take maxPacketPayload) state = .ok next ∧
        ∀ packet ∈ continuations payload, absorb flags packet next = .ok next := by
  constructor
  · rintro ⟨first, later, split, begins, rest⟩
    rw [physical_long long] at split
    obtain ⟨rfl, rfl⟩ := List.cons.inj split
    exact ⟨begins, rest⟩
  · rintro ⟨begins, rest⟩
    exact ⟨_, _, physical_long long, begins, rest⟩

/-- Once nothing is awaited, no continuation matters. -/
theorem held_free (long : maxPacketPayload ≤ payload.length)
    (begins : absorb flags (payload.take maxPacketPayload) state = .ok next)
    (free : next.hasPendingLifecycleOperation = false) : Held flags state payload next :=
  (held_long long).mpr ⟨begins, fun _ _ => absorb_free free⟩

theorem Reading.held_rows (reading : Reading state .rows columns)
    (long : maxPacketPayload ≤ payload.length) :
    Held flags state payload state ↔ ∀ packet ∈ physical payload, Plain flags packet := by
  rw [held_long long, physical_long long]
  simp only [reading.idle_rows, List.forall_mem_cons]

theorem Reading.held_error (reading : Reading state stage columns)
    (long : maxPacketPayload ≤ payload.length) (isError : payload.head? = some 0xFF)
    (read : absorbWhole flags payload state = .ok next) : Held flags state payload next := by
  have ends : ∀ packet : Bytes, packet.head? = some 0xFF →
      absorb flags packet state = .ok state.failCommandForward := by
    intro packet isError
    cases packet with
    | nil => cases isError
    | cons marker rest =>
        have marked : marker = 0xFF := Option.some.inj isError
        rw [reading.absorb_eq, SessionState.acceptCommandResponsePacket, if_neg reading.response]
        simp only [if_pos marked]
  rw [absorbWhole_eq (.inr (.inl isError)), ends payload isError] at read
  rw [← Except.ok.inj read]
  exact held_free long (ends _ (head?_take.trans isError)) reading.forgotten

/-- A long packet that opens a result is an OK. -/
theorem Reading.long_initial (reading : Reading state .initial columns)
    (long : maxPacketPayload ≤ payload.length) (noError : payload.head? ≠ some 0xFF)
    (read : absorb flags payload state = .ok next) :
    payload.head? = some 0x00 ∧ ∃ status, parseOkPacketStatus payload flags = .ok status ∧
      next = (state.updateTransactionStatus status).finishOrContinueResponse status := by
  cases payload with
  | nil => exact absurd long (by decide)
  | cons marker rest =>
      rw [reading.absorb_eq, reading.accept_eq fun same => noError (congrArg some same)] at read
      simp only [SessionState.acceptAtStage, SessionState.acceptInitialPacket] at read
      by_cases isOk : marker = 0x00
      · rw [if_pos isOk] at read
        refine ⟨congrArg some isOk, ?_⟩
        cases parsed : parseOkPacketStatus (marker :: rest) flags with
        | error error =>
            rw [parsed] at read
            cases read
        | ok status =>
            rw [parsed] at read
            exact ⟨status, rfl, (Except.ok.inj read).symm⟩
      · rw [if_neg isOk] at read
        by_cases infile : marker = 0xFB
        · rw [if_pos infile] at read
          cases read
        · rw [if_neg infile] at read
          cases parsed : parseResultsetHeader (marker :: rest) flags with
          | error error =>
              rw [parsed] at read
              cases read
          | ok header => exact absurd parsed (parseResultsetHeader_long flags long header)

theorem Reading.held_initial (reading : Reading state .initial columns)
    (long : maxPacketPayload ≤ payload.length) (noError : payload.head? ≠ some 0xFF)
    (read : absorb flags payload state = .ok next) :
    Held flags state payload next ↔ ∀ status, parseOkPacketStatus payload flags = .ok status →
      moreResults status = true → ∀ packet ∈ continuations payload,
        packet.head? = some 0x00 ∧ parseOkPacketStatus packet flags = .ok status := by
  obtain ⟨isOk, status, parsed, rfl⟩ := reading.long_initial long noError read
  have begins : absorb flags (payload.take maxPacketPayload) state =
      .ok ((state.updateTransactionStatus status).finishOrContinueResponse status) := by
    have parsedStart := (parseOkPacketStatus_take flags long).trans parsed
    have starts := (@head?_take payload).trans isOk
    cases start : payload.take maxPacketPayload with
    | nil =>
        rw [start] at starts
        cases starts
    | cons marker rest =>
        rw [start] at starts parsedStart
        have zero : marker = 0x00 := Option.some.inj starts
        have notError : marker ≠ 0xFF := by
          rw [zero]
          decide
        rw [reading.absorb_eq, reading.accept_eq notError]
        simp only [SessionState.acceptAtStage, SessionState.acceptInitialPacket, if_pos zero,
          parsedStart, SessionState.endResult]
  cases more : moreResults status with
  | false =>
      have ends : ¬ hasFlag status serverMoreResultsExists = true := by
        rw [show hasFlag status serverMoreResultsExists = false from more]
        decide
      have free : SessionState.hasPendingLifecycleOperation
          ((state.updateTransactionStatus status).finishOrContinueResponse status) = false := by
        rw [SessionState.finishOrContinueResponse, if_neg ends]
        exact reading.forgotten
      refine iff_of_true (held_free long begins free) ?_
      intro other same continues
      rw [Except.ok.inj (parsed.symm.trans same), continues] at more
      cases more
  | true =>
      have continues : hasFlag status serverMoreResultsExists = true := more
      rw [SessionState.finishOrContinueResponse, if_pos continues] at begins ⊢
      have next : Reading { state.updateTransactionStatus status with
          commandResponseStage := .initial, responseColumnsRemaining := 0 } .initial 0 :=
        ⟨reading.ping, reading.reset, reading.database, reading.prepare, reading.response, rfl, rfl⟩
      rw [held_long long]
      simp only [begins, next.idle_initial more rfl, true_and]
      constructor
      · intro same other parsedAgain _
        rw [← Except.ok.inj (parsed.symm.trans parsedAgain)]
        exact same
      · intro same
        exact same status parsed more

/-- What a column definition leads to. -/
theorem Reading.defines (reading : Reading state .metadata columns)
    (noError : payload.head? ≠ some 0xFF) (read : absorb flags payload state = .ok next) :
    payload ≠ [] ∧ state.acceptMetadataPacket flags = (.ok (), next) ∧
      Reading next (if columns = 1 then SessionState.afterMetadata (hasFlag flags clientDeprecateEof)
        else .metadata) (columns - 1) := by
  cases payload with
  | nil =>
      rw [reading.absorb_eq, SessionState.acceptCommandResponsePacket, if_neg reading.response] at read
      cases read
  | cons marker rest =>
      rw [reading.absorb_eq, reading.accept_eq fun same => noError (congrArg some same)] at read
      simp only [SessionState.acceptAtStage, SessionState.acceptMetadataPacket,
        reading.columns_eq, reading.stage_eq] at read ⊢
      by_cases none_ : columns = 0
      · rw [if_pos none_] at read
        cases read
      · rw [if_neg none_] at read ⊢
        obtain rfl := Except.ok.inj read
        have last : (columns - 1 = 0) = (columns = 1) := propext (by omega)
        refine ⟨List.cons_ne_nil _ _, rfl, reading.ping, reading.reset, reading.database,
          reading.prepare, reading.response, ?_, rfl⟩
        simp only [last]

/-- Every packet that is no error does the same among the definitions. -/
theorem Reading.defines_same (reading : Reading state .metadata columns)
    (accepted : state.acceptMetadataPacket flags = (.ok (), next)) (present : payload ≠ [])
    (noError : payload.head? ≠ some 0xFF) : absorb flags payload state = .ok next := by
  cases payload with
  | nil => exact absurd rfl present
  | cons marker rest =>
      rw [reading.absorb_eq, reading.accept_eq fun same => noError (congrArg some same)]
      simp only [SessionState.acceptAtStage, accepted]

theorem Reading.held_metadata (reading : Reading state .metadata columns)
    (long : maxPacketPayload ≤ payload.length) (noError : payload.head? ≠ some 0xFF)
    (read : absorb flags payload state = .ok next) :
    Held flags state payload next ↔ state.responseColumnsRemaining = 1 ∧
      hasFlag flags clientDeprecateEof = true ∧
      ∀ packet ∈ continuations payload, Plain flags packet := by
  obtain ⟨present, accepted, later⟩ := reading.defines noError read
  have begins : absorb flags (payload.take maxPacketPayload) state = .ok next := by
    refine reading.defines_same accepted ?_ (by rwa [head?_take])
    intro empty
    have gone := congrArg List.head? empty
    rw [head?_take] at gone
    exact present (List.head?_eq_none_iff.mp gone)
  obtain ⟨continuation, known⟩ := exists_continuation long
  rw [held_long long, reading.columns_eq]
  simp only [begins, true_and]
  by_cases last : columns = 1
  · rw [if_pos last] at later
    cases deprecated : hasFlag flags clientDeprecateEof with
    | true =>
        rw [deprecated, SessionState.afterMetadata, if_pos rfl] at later
        simp only [later.idle_rows, last, true_and]
    | false =>
        simp only [deprecated, SessionState.afterMetadata, Bool.false_eq_true, if_false] at later
        refine iff_of_false ?_ ?_
        · intro idle
          exact later.not_idle_metadataEof (idle continuation known)
        · rintro ⟨-, ⟨⟩, -⟩
  · rw [if_neg last] at later
    refine iff_of_false ?_ ?_
    · intro idle
      exact later.not_idle_metadata (idle continuation known)
    · exact fun claimed => last claimed.1

/-- No long packet ends the definitions. -/
theorem Reading.not_long_metadataEof (reading : Reading state .metadataEof columns)
    (long : maxPacketPayload ≤ payload.length) (noError : payload.head? ≠ some 0xFF) :
    absorb flags payload state ≠ .ok next := by
  intro read
  have large : 9 ≤ payload.length := by
    simp only [maxPacketPayload] at long
    omega
  cases payload with
  | nil => exact absurd long (by decide)
  | cons marker rest =>
      rw [reading.absorb_eq, reading.accept_eq fun same => noError (congrArg some same)] at read
      simp only [SessionState.acceptAtStage, SessionState.acceptMetadataEof, parseEofPacketStatus,
        if_pos (Or.inr large)] at read
      cases read

/-- Where a response is read, the physical packets of a payload do no more than the payload. -/
theorem Reading.held_iff (reading : Reading state stage columns)
    (read : absorbWhole flags payload state = .ok next) :
    Held flags state payload next ↔
      (maxPacketPayload ≤ payload.length → Harmless flags state payload) := by
  by_cases short : payload.length < maxPacketPayload
  · refine iff_of_true (held_short short read) ?_
    intro long
    exact absurd short (Nat.not_lt.mpr long)
  · have long : maxPacketPayload ≤ payload.length := Nat.not_lt.mp short
    by_cases isError : payload.head? = some 0xFF
    · exact iff_of_true (reading.held_error long isError read) fun _ => .inl isError
    · simp only [long, true_implies, Harmless, isError, false_or, reading.stage_eq]
      cases stage with
      | initial =>
          rw [absorbWhole_eq (.inr (.inr (by rw [reading.stage_eq]; decide)))] at read
          exact reading.held_initial long isError read
      | metadata =>
          rw [absorbWhole_eq (.inr (.inr (by rw [reading.stage_eq]; decide)))] at read
          exact reading.held_metadata long isError read
      | metadataEof =>
          rw [absorbWhole_eq (.inr (.inr (by rw [reading.stage_eq]; decide)))] at read
          exact absurd read (reading.not_long_metadataEof long isError)
      | rows =>
          rw [absorbWhole, if_pos ⟨reading.response, reading.stage_eq, long, isError⟩] at read
          rw [← Except.ok.inj read]
          exact reading.held_rows long

end Held

/-! ## A whole response -/

/-- Read packets one after another. -/
def readAll (read : Bytes → SessionState → Except Exn SessionState) :
    List Bytes → SessionState → Except Exn SessionState
  | [], state => .ok state
  | payload :: rest, state => do
      let next ← read payload state
      readAll read rest next

section ReadAll

variable {read : Bytes → SessionState → Except Exn SessionState} {state next : SessionState}

theorem readAll_append (front rest : List Bytes) :
    readAll read (front ++ rest) state = readAll read front state >>= readAll read rest := by
  induction front generalizing state with
  | nil => rfl
  | cons payload others ih =>
      simp only [List.cons_append, readAll, bind_assoc, ih]

theorem readAll_cons_ok {payload : Bytes} {rest : List Bytes} :
    readAll read (payload :: rest) state = .ok next ↔
      ∃ middle, read payload state = .ok middle ∧ readAll read rest middle = .ok next := by
  simp only [readAll]
  cases read payload state with
  | error error => simp [bind, Except.bind]
  | ok middle => simp [bind, Except.bind]

theorem readAll_single {payload : Bytes} : readAll read [payload] state = read payload state := by
  simp only [readAll]
  cases read payload state <;> rfl

/-- A well-formed response of packets of any length is read to its end. -/
theorem readAll_follows {flags : Nat} {post : SessionState → Prop} {packets : List Bytes}
    (modern : hasFlag flags clientProtocol41 = true)
    (follows : FollowsBy read flags post state packets) :
    ∃ final, readAll read packets state = .ok final ∧ post final := by
  induction packets generalizing state with
  | nil => exact ⟨state, rfl, follows⟩
  | cons payload rest ih =>
      obtain ⟨-, ⟨old, -⟩ | ⟨next, read, later⟩⟩ := follows
      · rw [modern] at old
        cases old
      · obtain ⟨final, reads, holds⟩ := ih later
        exact ⟨final, readAll_cons_ok.mpr ⟨next, read, reads⟩, holds⟩

end ReadAll

/--
After each physical packet of a logical packet the session is in the state to
which reading whole logical packets leads.
-/
def InsensitiveFrom (flags : Nat) (state : SessionState) (logical : List Bytes) : Prop :=
  ∀ before payload after, logical = before ++ payload :: after → ∀ next,
    readAll (absorbWhole flags) (before ++ [payload]) state = .ok next →
    ∀ part, part ≠ [] → part <+: physical payload →
      readAll (absorb flags) (before.flatMap physical ++ part) state = .ok next

/-- Every long packet is harmless where it is read. -/
def Clean (flags : Nat) : SessionState → List Bytes → Prop
  | _, [] => True
  | state, payload :: rest => ∀ next, absorbWhole flags payload state = .ok next →
      (state.hasPendingLifecycleOperation = true → maxPacketPayload ≤ payload.length →
        Harmless flags state payload) ∧ Clean flags next rest

section Insensitive

variable {flags : Nat} {state next : SessionState} {payload : Bytes}

theorem readAll_idle {packets : List Bytes}
    (idle : ∀ packet ∈ packets, absorb flags packet state = .ok state) :
    readAll (absorb flags) packets state = .ok state := by
  induction packets with
  | nil => rfl
  | cons packet rest ih =>
      refine readAll_cons_ok.mpr ⟨state, idle packet List.mem_cons_self, ih ?_⟩
      exact fun packet inside => idle packet (List.mem_cons_of_mem _ inside)

theorem Held.reads (held : Held flags state payload next) {part : List Bytes} (some_ : part ≠ [])
    (isPart : part <+: physical payload) : readAll (absorb flags) part state = .ok next := by
  obtain ⟨first, later, split, begins, idle⟩ := held
  rw [split] at isPart
  cases part with
  | nil => exact absurd rfl some_
  | cons packet others =>
      obtain ⟨rfl, inside⟩ := List.cons_prefix_cons.mp isPart
      refine readAll_cons_ok.mpr ⟨next, begins, readAll_idle ?_⟩
      exact fun packet present => idle packet (inside.subset present)

theorem held_of_reads
    (reads : ∀ part, part ≠ [] → part <+: physical payload →
      readAll (absorb flags) part state = .ok next) : Held flags state payload next := by
  cases split : physical payload with
  | nil => exact absurd split (physical_ne_nil payload)
  | cons first later =>
      rw [split] at reads
      refine ⟨first, later, split, ?_, ?_⟩
      · have alone := reads [first] (by simp) (by simp)
        rwa [readAll_single] at alone
      · intro packet inside
        obtain ⟨front, rest, rfl⟩ := List.append_of_mem inside
        have upTo := reads (first :: front) (by simp) (by simp)
        have beyond := reads (first :: front ++ [packet]) (by simp) (by simp)
        rw [readAll_append, upTo] at beyond
        exact readAll_single.symm.trans beyond

theorem insensitive_cons {rest : List Bytes} :
    InsensitiveFrom flags state (payload :: rest) ↔
      ∀ next, absorbWhole flags payload state = .ok next →
        Held flags state payload next ∧ InsensitiveFrom flags next rest := by
  constructor
  · intro insensitive next read
    have held : Held flags state payload next := by
      refine held_of_reads fun part some_ isPart => ?_
      have reads := insensitive [] payload rest rfl next (readAll_single.trans read) part some_ isPart
      simpa using reads
    refine ⟨held, ?_⟩
    rintro before later after rfl final wholes part some_ isPart
    have reads := insensitive (payload :: before) later after rfl final
      (readAll_cons_ok.mpr ⟨next, read, wholes⟩) part some_ isPart
    rw [List.flatMap_cons, List.append_assoc, readAll_append,
      held.reads (physical_ne_nil payload) (List.prefix_refl _)] at reads
    exact reads
  · rintro step before later after split final wholes part some_ isPart
    cases before with
    | nil =>
        obtain ⟨rfl, rfl⟩ := List.cons.inj split
        rw [List.nil_append, readAll_single] at wholes
        exact (step final wholes).1.reads some_ isPart
    | cons first others =>
        obtain ⟨rfl, rfl⟩ := List.cons.inj split
        obtain ⟨next, read, wholes⟩ := readAll_cons_ok.mp wholes
        obtain ⟨held, insensitive⟩ := step next read
        rw [List.flatMap_cons, List.append_assoc, readAll_append,
          held.reads (physical_ne_nil payload) (List.prefix_refl _)]
        exact insensitive others later after rfl final wholes part some_ isPart

/-- A query or an execution is followed, or nothing is awaited. -/
def Following (state : SessionState) : Prop :=
  state.hasPendingLifecycleOperation = false ∨ ∃ stage columns, Reading state stage columns

theorem Following.kept (following : Following state)
    (read : absorbWhole flags payload state = .ok next) : Following next := by
  unfold absorbWhole at read
  split at read
  · rwa [← Except.ok.inj read]
  · rcases following with free | ⟨stage, columns, reading⟩
    · rw [absorb_free free] at read
      rw [← Except.ok.inj read]
      exact .inl free
    · rw [reading.absorb_eq] at read
      have kept := @aside_acceptCommandResponsePacket state flags payload
      split at read
      · cases read
      · next followed accepted =>
          rw [accepted, Except.ok.inj read] at kept
          have ping := congrArg SessionState.pendingPing kept
          have reset := congrArg SessionState.pendingStatementResetId kept
          have database := congrArg SessionState.pendingDatabase kept
          have prepare := congrArg SessionState.pendingStatementSql kept
          by_cases finished : next.pendingCommandResponse = none
          · left
            exact hasPending_eq_false.mpr ⟨database.trans reading.database,
              prepare.trans reading.prepare, ping.trans reading.ping,
              reset.trans reading.reset, finished⟩
          · right
            exact ⟨_, _, ping.trans reading.ping, reset.trans reading.reset,
              database.trans reading.database, prepare.trans reading.prepare, finished, rfl, rfl⟩

theorem Following.held_iff (following : Following state)
    (read : absorbWhole flags payload state = .ok next) :
    Held flags state payload next ↔ (state.hasPendingLifecycleOperation = true →
      maxPacketPayload ≤ payload.length → Harmless flags state payload) := by
  rcases following with free | ⟨stage, columns, reading⟩
  · refine iff_of_true ?_ ?_
    · by_cases short : payload.length < maxPacketPayload
      · exact held_short short read
      · have same : next = state := by
          unfold absorbWhole at read
          rw [absorb_free free, ite_self] at read
          exact (Except.ok.inj read).symm
        rw [same]
        exact held_free (Nat.not_lt.mp short) (absorb_free free) free
    · intro pending
      rw [free] at pending
      cases pending
  · simp only [reading.held_iff read, reading.pending, true_implies]

/-- The long packets decide whether the splitting shows. -/
theorem Following.insensitive_iff (following : Following state) (logical : List Bytes) :
    InsensitiveFrom flags state logical ↔ Clean flags state logical := by
  induction logical generalizing state with
  | nil =>
      refine iff_of_true ?_ trivial
      intro before payload after split
      simp at split
  | cons payload rest ih =>
      rw [insensitive_cons, Clean]
      refine forall_congr' fun next => forall_congr' fun read => ?_
      rw [following.held_iff read, ih (following.kept read)]

end Insensitive

/-! ## Routing physical packets -/

variable {Γ : Type}

/--
Routing the physical packets of a response leaves the session, after each of
them, in the state to which the whole logical packets lead.
-/
def Insensitive (answer : (q : Request) → q.Answer) (w : World adapter Γ) (logical : List Bytes) :
    Prop :=
  ∀ before payload after, logical = before ++ payload :: after → ∀ next,
    readAll (absorbWhole w.session.auth.capabilityFlags) (before ++ [payload])
      w.session.session = .ok next →
    ∀ part, part ≠ [] → part <+: physical payload → ∀ packets : List Packet,
      packets.map Packet.payload = before.flatMap physical ++ part →
        (fed answer packets w).1 = .ok () ∧ (fed answer packets w).2.session.session = next

section Routed

variable {answer : (q : Request) → q.Answer} {w : World adapter Γ} {packet : Packet}

/-- A packet that cannot be followed makes the router raise. -/
theorem run_routeBackendPacket_error (drains : answer .drain = true)
    (phase : w.session.phase = .commandResponse) {error : Exn}
    (absorbed : absorb w.session.auth.capabilityFlags packet.payload w.session.session =
      .error error) :
    ((routeBackendPacket packet).run (fun q w => (answer q, w)) w).1 = .error error := by
  rw [run_commandResponse phase]
  rcases tracks : trackResponse w.session.auth.capabilityFlags packet.payload
    w.session.session with ⟨_ | _ | _ | _, tracked⟩
  · simp only [absorb, tracks, Except.error.injEq] at absorbed
    rw [run_tracked, tracks, ← absorbed]
    rfl
  · simp only [absorb, tracks, reduceCtorEq] at absorbed
  · simp only [absorb, tracks] at absorbed
    rw [run_routeResponse drains tracks]
    change ((Proc.ofExcept tracked.finishStatementPrepareResponse >>= fun changed =>
      updateSession fun _ => changed : Handler adapter Γ Unit).run _ _).1 = _
    rw [absorbed]
    rfl
  · simp only [absorb, tracks, reduceCtorEq] at absorbed

/-- Feeding packets is reading them one after another. -/
theorem fed_iff (drains : answer .drain = true) (phase : w.session.phase = .commandResponse)
    {packets : List Packet} {next : SessionState} :
    ((fed answer packets w).1 = .ok () ∧ (fed answer packets w).2.session.session = next) ↔
      readAll (absorb w.session.auth.capabilityFlags) (packets.map Packet.payload)
        w.session.session = .ok next := by
  induction packets generalizing w with
  | nil =>
      simp only [List.map_nil, readAll, Except.ok.injEq]
      exact and_iff_right rfl
  | cons packet rest ih =>
      rw [List.map_cons, readAll_cons_ok]
      simp only [fed, routeAll, Proc.run_bind]
      cases absorbed : absorb w.session.auth.capabilityFlags packet.payload w.session.session with
      | error error =>
          have raised := run_routeBackendPacket_error drains phase absorbed
          rcases run : (routeBackendPacket packet).run (fun q w => (answer q, w)) w with ⟨result, later⟩
          rw [run] at raised
          subst raised
          simp [run]
      | ok middle =>
          rw [run_routeBackendPacket drains phase absorbed]
          simp only [Except.ok.injEq, exists_eq_left']
          exact @ih ((withState w middle).answer (.relayed packet.raw)) phase

theorem insensitive_iff_from (drains : answer .drain = true)
    (phase : w.session.phase = .commandResponse) (logical : List Bytes) :
    Insensitive answer w logical ↔
      InsensitiveFrom w.session.auth.capabilityFlags w.session.session logical := by
  constructor
  · intro insensitive before payload after split next wholes part some_ isPart
    have packets : ((before.flatMap physical ++ part).map (packetOf 0)).map Packet.payload =
        before.flatMap physical ++ part := by
      rw [List.map_map]
      exact List.map_id _
    have routed := insensitive before payload after split next wholes part some_ isPart _ packets
    rw [fed_iff drains phase, packets] at routed
    exact routed
  · intro insensitive before payload after split next wholes part some_ isPart packets sent
    rw [fed_iff drains phase, sent]
    exact insensitive before payload after split next wholes part some_ isPart

end Routed

/--
Whatever the logical packets of a response are, their splitting does not show
exactly when every long one is harmless where it is read.
-/
theorem splitting_insensitive_iff {answer : (q : Request) → q.Answer}
    (drains : answer .drain = true) {w : World adapter Γ} {state : SessionState}
    {kind : ResponseKind} (phase : w.session.phase = .commandResponse)
    (begun : state.beginCommandResponse kind = .ok w.session.session) (logical : List Bytes) :
    Insensitive answer w logical ↔
      Clean w.session.auth.capabilityFlags w.session.session logical := by
  obtain ⟨free, same⟩ := beginCommandResponse_ok begun
  have following : Following w.session.session := by
    rw [same]
    exact .inr ⟨_, _, reading_awaiting free kind⟩
  rw [insensitive_iff_from drains phase, following.insensitive_iff]

/-! ### A row of sixteen megabytes -/

/-- The first physical packet of a row of one cell with 0xFFFFFF bytes. -/
def rowStart : Bytes := 0xFD :: 0xFF :: 0xFF :: 0xFF :: List.replicate (maxPacketPayload - 4) 0x41

/-- A result set of one column with such a row; the last bytes of the cell are given. -/
def longResult (cellEnd : Bytes) : List Bytes :=
  [[1], [3, 0x64, 0x65, 0x66], [0xFE, 0, 0, 2, 0], rowStart ++ cellEnd, [0xFE, 0, 0, 2, 0]]

theorem rowStart_length : rowStart.length = maxPacketPayload := by
  rw [rowStart, List.length_cons, List.length_cons, List.length_cons, List.length_cons,
    List.length_replicate]
  decide

theorem physical_row {cellEnd : Bytes} (four : cellEnd.length = 4) :
    physical (rowStart ++ cellEnd) = [rowStart, cellEnd] := by
  have long : maxPacketPayload ≤ (rowStart ++ cellEnd).length := by
    simp [rowStart_length]
  have short : cellEnd.length < maxPacketPayload := by
    rw [four]
    decide
  rw [physical_long long, continuations_long long, List.take_left' rowStart_length,
    List.drop_left' rowStart_length, physical_short short]

theorem longResult_wellFormed {cellEnd : Bytes} (four : cellEnd.length = 4) :
    Results clientProtocol41 (longResult cellEnd) := by
  have one : Lenenc 1 [1] := @Lenenc.one 1 (by decide)
  have eof : EofPacket 2 [0xFE, 0, 0, 2, 0] := .mk 0 0 2 0
  have row : Row (rowStart ++ cellEnd) := by
    refine @Row.text _ _ (List.replicate (maxPacketPayload - 4) 0x41 ++ cellEnd)
      (.three 0xFF 0xFF 0xFF) (by decide) ?_
    rw [List.length_append, List.length_replicate, four]
    decide
  have set : ResultSet clientProtocol41
      ([1] :: ([[3, 0x64, 0x65, 0x66]] ++ ([[0xFE, 0, 0, 2, 0]] ++ [rowStart ++ cellEnd]))) := by
    refine .mk (.plain (by decide) (by decide) one) rfl ?_ ?_ ?_
    · intro payload inside
      rw [List.mem_singleton.mp inside]
      exact .mk _ (by decide)
    · exact ⟨2, _, eof, rfl⟩
    · intro payload inside
      rw [List.mem_singleton.mp inside]
      exact row
  have final : Result clientProtocol41 (moreResults 2) _ := .rows set eof
  exact .last final

theorem clean_short {flags : Nat} {state next : SessionState} {payload : Bytes}
    {rest : List Bytes} (short : payload.length < maxPacketPayload)
    (read : absorbWhole flags payload state = .ok next) :
    Clean flags state (payload :: rest) ↔ Clean flags next rest := by
  constructor
  · intro clean
    exact (clean next read).2
  · intro clean later readAgain
    refine ⟨fun _ long => absurd short (Nat.not_lt.mpr long), ?_⟩
    rwa [← Except.ok.inj (read.symm.trans readAgain)]

/-- The session of `querying` among the rows of the result. -/
def amongRows : SessionState :=
  { querying.updateTransactionStatus 2 with commandResponseStage := .rows }

theorem reading_amongRows : Reading amongRows .rows 0 :=
  ⟨rfl, rfl, rfl, rfl, Option.some_ne_none _, rfl, rfl⟩

/-- The end of the cell decides whether the splitting of the row shows. -/
theorem longResult_clean_iff {cellEnd : Bytes} (four : cellEnd.length = 4) :
    Clean clientProtocol41 querying (longResult cellEnd) ↔ Plain clientProtocol41 cellEnd := by
  have header : absorbWhole clientProtocol41 [1] querying = .ok { querying with
      responseColumnsRemaining := 1, commandResponseStage := .metadata } := rfl
  have definition : absorbWhole clientProtocol41 [3, 0x64, 0x65, 0x66] { querying with
      responseColumnsRemaining := 1, commandResponseStage := .metadata } =
        .ok { querying with commandResponseStage := .metadataEof } := rfl
  have separator : absorbWhole clientProtocol41 [0xFE, 0, 0, 2, 0] { querying with
      commandResponseStage := .metadataEof } = .ok amongRows := rfl
  rw [longResult, clean_short (by decide) header, clean_short (by decide) definition,
    clean_short (by decide) separator]
  have long : maxPacketPayload ≤ (rowStart ++ cellEnd).length := by
    simp [rowStart_length]
  have noError : (rowStart ++ cellEnd).head? ≠ some 0xFF := by
    intro same
    exact absurd (Option.some.inj same) (by decide)
  have kept : absorbWhole clientProtocol41 (rowStart ++ cellEnd) amongRows = .ok amongRows :=
    if_pos ⟨reading_amongRows.response, rfl, long, noError⟩
  constructor
  · intro clean
    obtain isError | plain := (clean amongRows kept).1 rfl long
    · exact absurd isError noError
    · refine plain cellEnd ?_
      rw [physical_row four]
      simp
  · intro plain next read
    rw [← Except.ok.inj (kept.symm.trans read)]
    refine ⟨fun _ _ => .inr ?_, ?_⟩
    · change ∀ packet ∈ physical (rowStart ++ cellEnd), Plain clientProtocol41 packet
      rw [physical_row four]
      intro packet inside
      rcases List.mem_pair.mp inside with rfl | rfl
      · refine ⟨List.cons_ne_nil _ _, ?_, ?_⟩
        · exact fun same => absurd (Option.some.inj same) (by decide)
        · exact fun same => absurd (Option.some.inj same) (by decide)
      · exact plain
    · exact (clean_short (by decide) (by rfl)).mpr trivial

/-- A cell of letters: the response is read as if the row had come whole. -/
theorem letters_insensitive :
    Results clientProtocol41 (longResult [0x41, 0x41, 0x41, 0x41]) ∧
      Insensitive (userAnswers true) (commandPhase clientProtocol41 querying ())
        (longResult [0x41, 0x41, 0x41, 0x41]) := by
  refine ⟨longResult_wellFormed rfl, ?_⟩
  have begun : SessionState.beginCommandResponse { database := "" } .query = .ok querying := rfl
  exact (splitting_insensitive_iff rfl rfl begun _).mpr
    ((longResult_clean_iff rfl).mpr (by decide))

/-- A byte 0xFF at the split: the rest of the row is taken for an error and ends the response. -/
theorem highByte_sensitive :
    Results clientProtocol41 (longResult [0xFF, 0x41, 0x41, 0x41]) ∧
      ¬ Insensitive (userAnswers true) (commandPhase clientProtocol41 querying ())
        (longResult [0xFF, 0x41, 0x41, 0x41]) := by
  refine ⟨longResult_wellFormed rfl, ?_⟩
  intro insensitive
  have following : Following querying := .inr ⟨_, _, reading_awaiting rfl .query⟩
  have clean := following.insensitive_iff _ |>.mp
    ((insensitive_iff_from rfl rfl _).mp insensitive)
  exact absurd ((longResult_clean_iff rfl).mp clean) (by decide)

end SqlSafetyProxy.MySql
