import SqlSafetyProxy.MySql.Server

/-!
# What the session is ready for

A session is in step with a server when it can follow whatever well-formed
responses the messages in flight will bring, after the packets that have been
sent already.  This survives every packet that is read and everything the client
task does meanwhile that is no concern of the response.
-/

namespace SqlSafetyProxy.MySql

open SqlSafetyProxy.Wire SqlSafetyProxy.Runtime SqlSafetyProxy.Collections

/-! ## Tracking and what follows it -/

/-- The session once a tracked packet has been relayed and dealt with. -/
def FollowUp.Due (next : FollowUp) (tracked later : SessionState) : Prop :=
  match next with
  | .nothing => later = tracked
  | .finishPrepare => tracked.finishStatementPrepareResponse = .ok later
  | .failPrepare => later = tracked.failStatementPrepare

section Tracking

variable {flags : Nat} {payload : Bytes} {state tracked later : SessionState} {next : FollowUp}

theorem FollowUp.Due.unique {other : SessionState} (due : next.Due tracked later)
    (otherDue : next.Due tracked other) : later = other := by
  cases next with
  | nothing => exact due.trans otherDue.symm
  | failPrepare => exact due.trans otherDue.symm
  | finishPrepare => exact Except.ok.inj (due.symm.trans otherDue)

theorem absorb_ok_iff :
    absorb flags payload state = .ok later ↔
      ∃ next tracked, trackResponse flags payload state = (.ok next, tracked) ∧
        next.Due tracked later := by
  rcases tracks : trackResponse flags payload state with ⟨_ | _ | _ | _, tracked⟩ <;>
    simp [absorb, tracks, FollowUp.Due, eq_comm]

theorem acknowledge_nothing {completed : Except Exn Bool × SessionState}
    (acknowledged : acknowledge flags payload completed = (.ok next, tracked)) :
    next = .nothing := by
  obtain ⟨result, cleared⟩ := completed
  cases result with
  | error error => cases acknowledged
  | ok answer =>
      simp only [acknowledge] at acknowledged
      split at acknowledged
      · split at acknowledged
        · cases acknowledged
        · cases acknowledged
          rfl
      · cases acknowledged
        rfl

theorem following_of_none (ping : state.pendingPing = false)
    (reset : state.pendingStatementResetId = none) (database : state.pendingDatabase = none)
    (prepare : state.pendingStatementSql = none) : Following state := by
  cases response : state.pendingCommandResponse with
  | none => exact .inl (hasPending_eq_false.mpr ⟨database, prepare, ping, reset, response⟩)
  | some kind => exact .inr ⟨_, _, ping, reset, database, prepare, by simp [response], rfl, rfl⟩

theorem consumeStatementPrepareMetadata_ok {last : Bool}
    (done : state.consumeStatementPrepareMetadata payload flags = .ok (last, tracked)) :
    (∃ statementId, state.pendingPreparedStatementId = some statementId) ∧
      ∃ kinds packets, (last = true ↔ packets = 0) ∧ tracked = { state with
        pendingPrepareMetadataKinds := kinds
        pendingPrepareMetadataPackets := packets } := by
  unfold SessionState.consumeStatementPrepareMetadata at done
  split at done
  · cases done
  · next prepared =>
    split at done
    · cases done
    · split at done
      · cases done
      · split at done
        · cases done
        · next kind kinds expected =>
          obtain ⟨-, -, rest⟩ := bind_ok done
          cases rest
          exact ⟨Option.ne_none_iff_exists'.mp prepared, kinds, _, by simp, rfl⟩

theorem acceptStatementPrepareOk_ok {prepared : StmtPrepareOk} {deprecateEof : Bool}
    (done : state.acceptStatementPrepareOk prepared deprecateEof = .ok tracked) :
    ∃ sql, state.pendingStatementSql = some sql ∧
      tracked = Preparing.accepted state sql prepared deprecateEof := by
  unfold SessionState.acceptStatementPrepareOk at done
  split at done
  · cases done
  · next sql preparing =>
    split at done
    · cases done
    · obtain ⟨⟨⟩, -, rest⟩ := bind_ok done
      cases rest
      exact ⟨sql, preparing, rfl⟩

/-- A prepare can be finished once its metadata has been read. -/
theorem finishes_of_complete {statementId : Nat}
    (prepared : state.pendingPreparedStatementId = some statementId)
    (complete : state.pendingPrepareMetadataPackets = 0) :
    state.finishStatementPrepareResponse = .ok (Preparing.finished state statementId) := by
  simp [SessionState.finishStatementPrepareResponse, prepared, complete, Preparing.finished]

/-- Only a prepare leaves something to do, and it can always be done. -/
theorem track_followUp (tracks : trackResponse flags payload state = (.ok next, tracked))
    (some_ : next ≠ .nothing) :
    tracked.pendingStatementSql.isSome = true ∧
      ∃ later, next.Due tracked later ∧ Following later := by
  unfold trackResponse at tracks
  split at tracks
  · exact absurd (acknowledge_nothing tracks) some_
  · next ping =>
    split at tracks
    · exact absurd (acknowledge_nothing tracks) some_
    · next reset =>
      split at tracks
      · exact absurd (acknowledge_nothing tracks) some_
      · next database =>
        simp only [Bool.not_eq_true, Option.isSome_eq_false_iff, Option.isNone_iff_eq_none]
          at ping reset database
        split at tracks
        · next prepare =>
          split at tracks
          · unfold trackPrepareMetadata at tracks
            split at tracks
            · cases tracks
              exact ⟨prepare, _, rfl, following_of_none ping reset database rfl⟩
            · split at tracks
              · cases tracks
              · cases tracks
              · next last consumed done =>
                obtain ⟨⟨statementId, prepared⟩, kinds, packets, isLast, rfl⟩ :=
                  consumeStatementPrepareMetadata_ok done
                cases last with
                | false =>
                    cases tracks
                    exact absurd rfl some_
                | true =>
                    cases tracks
                    exact ⟨prepare, _, finishes_of_complete prepared (isLast.mp rfl),
                      following_of_none ping reset database rfl⟩
          · unfold trackPrepareOk at tracks
            split at tracks
            · split at tracks
              · cases tracks
              · next accepted done =>
                obtain ⟨prepared, -, rest⟩ := bind_ok done
                obtain ⟨sql, -, rfl⟩ := acceptStatementPrepareOk_ok rest
                split at tracks
                · next complete =>
                  cases tracks
                  exact ⟨prepare, _, finishes_of_complete rfl complete,
                    following_of_none ping reset database rfl⟩
                · cases tracks
                  exact absurd rfl some_
            · split at tracks
              · cases tracks
                exact ⟨prepare, _, rfl, following_of_none ping reset database rfl⟩
              · cases tracks
        · split at tracks
          · split at tracks
            · cases tracks
            · cases tracks
              exact absurd rfl some_
          · cases tracks
            exact absurd rfl some_

/-- What cannot be absorbed cannot be tracked either. -/
theorem track_error_of_absorb {error : Exn} (failed : absorb flags payload state = .error error) :
    ∃ tracked, trackResponse flags payload state = (.error error, tracked) := by
  rcases tracks : trackResponse flags payload state with ⟨raised | next, tracked⟩
  · refine ⟨tracked, ?_⟩
    simp only [absorb, tracks, Except.error.injEq] at failed
    rw [failed]
  · have absorbed : ∃ later, absorb flags payload state = .ok later := by
      by_cases nothing : next = .nothing
      · subst nothing
        exact ⟨tracked, absorb_ok_iff.mpr ⟨_, _, tracks, rfl⟩⟩
      · obtain ⟨-, later, due, -⟩ := track_followUp tracks nothing
        exact ⟨later, absorb_ok_iff.mpr ⟨_, _, tracks, due⟩⟩
    obtain ⟨later, absorbed⟩ := absorbed
    rw [failed] at absorbed
    cases absorbed

end Tracking

/-! ## Parts of the session that tracking does not look at -/

/-- The session with another mark of its end and another registry. -/
def SessionState.reframe (state : SessionState) (closing : Bool)
    (registry : Dict Nat PreparedStatement) : SessionState :=
  { state with closing := closing, preparedStatements := registry }

section Frame

variable {flags : Nat} {payload : Bytes} {state : SessionState} (closing : Bool)
  (registry : Dict Nat PreparedStatement)

theorem reframe_endResult (status : Except Exn Nat) :
    (state.reframe closing registry).endResult status =
      ((state.endResult status).1, (state.endResult status).2.reframe closing registry) := by
  cases status with
  | error error => rfl
  | ok status =>
      simp only [SessionState.endResult, SessionState.finishOrContinueResponse]
      split <;> rfl

theorem reframe_acceptAtStage (stage : ResponseStage) (marker : UInt8) :
    (state.reframe closing registry).acceptAtStage stage marker payload flags =
      ((state.acceptAtStage stage marker payload flags).1,
        (state.acceptAtStage stage marker payload flags).2.reframe closing registry) := by
  cases stage with
  | initial =>
      simp only [SessionState.acceptAtStage, SessionState.acceptInitialPacket]
      split
      · exact reframe_endResult closing registry _
      · split
        · rfl
        · split
          · rfl
          · split <;> rfl
  | metadata =>
      simp only [SessionState.acceptAtStage, SessionState.acceptMetadataPacket]
      change (if state.responseColumnsRemaining = 0 then _ else _) = _
      split <;> rfl
  | metadataEof =>
      simp only [SessionState.acceptAtStage, SessionState.acceptMetadataEof]
      split <;> rfl
  | rows =>
      simp only [SessionState.acceptAtStage, SessionState.acceptRowPacket]
      split
      · split
        · rfl
        · exact reframe_endResult closing registry _
      · split
        · rfl
        · exact reframe_endResult closing registry _

theorem reframe_acceptCommandResponsePacket :
    (state.reframe closing registry).acceptCommandResponsePacket payload flags =
      ((state.acceptCommandResponsePacket payload flags).1,
        (state.acceptCommandResponsePacket payload flags).2.reframe closing registry) := by
  unfold SessionState.acceptCommandResponsePacket
  change (if state.pendingCommandResponse = none then _ else _) = _
  split
  · rfl
  · cases payload with
    | nil => rfl
    | cons marker rest =>
        simp only
        split
        · rfl
        · exact reframe_acceptAtStage closing registry _ _

theorem Following.none (following : Following state) :
    state.pendingPing = false ∧ state.pendingStatementResetId = none ∧
      state.pendingDatabase = none ∧ state.pendingStatementSql = none := by
  rcases following with free | ⟨stage, columns, reading⟩
  · obtain ⟨database, prepare, ping, reset, -⟩ := hasPending_eq_false.mp free
    exact ⟨ping, reset, database, prepare⟩
  · exact ⟨reading.ping, reading.reset, reading.database, reading.prepare⟩

/-- Only the response is looked at while nothing else is awaited. -/
theorem Following.track_eq (following : Following state) :
    trackResponse flags payload state =
      if state.pendingCommandResponse.isSome then
        match state.acceptCommandResponsePacket payload flags with
        | (.error error, followed) => (.error error, followed)
        | (.ok (), followed) => (.ok .nothing, followed)
      else (.ok .nothing, state) := by
  obtain ⟨ping, reset, database, prepare⟩ := following.none
  rw [trackResponse, ping, reset, database, prepare]
  rfl

theorem Following.reframe (following : Following state) :
    Following (state.reframe closing registry) := by
  obtain ⟨ping, reset, database, prepare⟩ := following.none
  exact following_of_none ping reset database prepare

/-- A response is followed the same way whatever the registry holds. -/
theorem reframe_track (following : Following state) :
    trackResponse flags payload (state.reframe closing registry) =
      ((trackResponse flags payload state).1,
        (trackResponse flags payload state).2.reframe closing registry) := by
  rw [(following.reframe closing registry).track_eq, following.track_eq,
    reframe_acceptCommandResponsePacket]
  change (if state.pendingCommandResponse.isSome then _ else _) = _
  split
  · rcases state.acceptCommandResponsePacket payload flags with ⟨_ | _, followed⟩ <;> rfl
  · rfl

/-! ### The mark of the end -/

theorem markClosing_acknowledge (result : Except Exn Bool) :
    acknowledge flags payload (result, state.markClosing) =
      ((acknowledge flags payload (result, state)).1,
        (acknowledge flags payload (result, state)).2.markClosing) := by
  cases result with
  | error error => rfl
  | ok answer =>
      by_cases isOk : payload.head? = some 0x00
      · simp only [acknowledge, if_pos isOk, updateTransactionStatusFromOk]
        by_cases stateless : hasFlag flags clientProtocol41 = false
            ∧ hasFlag flags clientTransactions = false
        · simp only [if_pos stateless]
        · simp only [if_neg stateless]
          cases parseOkPacketStatus payload flags with
          | error error => rfl
          | ok status => rfl
      · simp only [acknowledge, if_neg isOk]

theorem markClosing_completePing :
    state.markClosing.completePing payload =
      ((state.completePing payload).1, (state.completePing payload).2.markClosing) := by
  unfold SessionState.completePing
  change (if state.pendingPing = false then _ else _) = _
  split
  · rfl
  · cases payload with
    | nil => rfl
    | cons marker rest =>
        simp only
        split
        · rfl
        · split <;> rfl

theorem markClosing_completeDatabaseChange :
    state.markClosing.completeDatabaseChange payload =
      ((state.completeDatabaseChange payload).1,
        (state.completeDatabaseChange payload).2.markClosing) := by
  unfold SessionState.completeDatabaseChange
  rw [show state.markClosing.pendingDatabase = state.pendingDatabase from rfl]
  cases state.pendingDatabase with
  | none => rfl
  | some database =>
      cases payload with
      | nil => rfl
      | cons marker rest =>
          simp only
          split
          · rfl
          · split <;> rfl

theorem markClosing_completeStatementReset :
    state.markClosing.completeStatementReset payload =
      ((state.completeStatementReset payload).1,
        (state.completeStatementReset payload).2.markClosing) := by
  unfold SessionState.completeStatementReset
  rw [show state.markClosing.pendingStatementResetId = state.pendingStatementResetId from rfl]
  cases state.pendingStatementResetId with
  | none => rfl
  | some statementId =>
      cases payload with
      | nil => rfl
      | cons marker rest =>
          simp only [SessionState.resetPreparedStatement, SessionState.getPreparedStatement]
          rw [show state.markClosing.preparedStatements = state.preparedStatements from rfl]
          split
          · cases state.preparedStatements.lookup statementId with
            | none => rfl
            | some statement => rfl
          · split <;> rfl

theorem markClosing_consume :
    state.markClosing.consumeStatementPrepareMetadata payload flags =
      (state.consumeStatementPrepareMetadata payload flags).map
        fun result => (result.1, result.2.markClosing) := by
  unfold SessionState.consumeStatementPrepareMetadata
  change (if state.pendingPreparedStatementId = none then _
    else if state.pendingPrepareMetadataPackets = 0 then _ else _) = _
  split
  · rfl
  · split
    · rfl
    · split
      · rfl
      · rw [show state.markClosing.pendingPrepareMetadataKinds =
          state.pendingPrepareMetadataKinds from rfl]
        cases state.pendingPrepareMetadataKinds with
        | nil => rfl
        | cons kind kinds =>
            cases checked : SessionState.checkMetadataPacket kind payload flags with
            | error error => simp [checked, bind, Except.bind, Except.map]
            | ok value =>
                simp only [checked, bind, Except.bind, pure, Except.pure, Except.map]
                rfl

theorem markClosing_accept {prepared : StmtPrepareOk} {deprecateEof : Bool} :
    state.markClosing.acceptStatementPrepareOk prepared deprecateEof =
      (state.acceptStatementPrepareOk prepared deprecateEof).map SessionState.markClosing := by
  unfold SessionState.acceptStatementPrepareOk
  rw [show state.markClosing.pendingStatementSql = state.pendingStatementSql from rfl]
  cases state.pendingStatementSql with
  | none => rfl
  | some sql =>
      simp only
      rw [show state.markClosing.pendingPreparedStatementId = state.pendingPreparedStatementId
        from rfl]
      split
      · rfl
      · rw [show state.markClosing.requirePreparedCapacity prepared.statementId sql =
          state.requirePreparedCapacity prepared.statementId sql from rfl]
        cases state.requirePreparedCapacity prepared.statementId sql with
        | error error => rfl
        | ok room => rfl

theorem markClosing_trackPrepareMetadata :
    trackPrepareMetadata flags payload state.markClosing =
      ((trackPrepareMetadata flags payload state).1,
        (trackPrepareMetadata flags payload state).2.markClosing) := by
  unfold trackPrepareMetadata
  rw [markClosing_consume]
  split
  · rfl
  · rcases state.consumeStatementPrepareMetadata payload flags with error | ⟨last, after⟩
    · cases error <;> rfl
    · rfl

theorem markClosing_trackPrepareOk :
    trackPrepareOk flags payload state.markClosing =
      ((trackPrepareOk flags payload state).1,
        (trackPrepareOk flags payload state).2.markClosing) := by
  unfold trackPrepareOk
  split
  · simp only [markClosing_accept]
    cases parseStmtPrepareOk payload with
    | error error => rfl
    | ok prepared =>
        simp only [bind, Except.bind]
        cases state.acceptStatementPrepareOk prepared (hasFlag flags clientDeprecateEof) with
        | error error => rfl
        | ok accepted => rfl
  · split <;> rfl

theorem markClosing_acceptCommandResponsePacket :
    state.markClosing.acceptCommandResponsePacket payload flags =
      ((state.acceptCommandResponsePacket payload flags).1,
        (state.acceptCommandResponsePacket payload flags).2.markClosing) := by
  have frame := @aside_acceptCommandResponsePacket state flags payload
  have kept : (state.acceptCommandResponsePacket payload flags).2.preparedStatements =
      state.preparedStatements := by
    have same := congrArg SessionState.preparedStatements frame
    exact same
  have reframed : state.markClosing.acceptCommandResponsePacket payload flags = _ :=
    reframe_acceptCommandResponsePacket true state.preparedStatements
  rw [reframed, ← kept]
  rfl

/-- Tracking does not look at the mark. -/
theorem markClosing_track :
    trackResponse flags payload state.markClosing =
      ((trackResponse flags payload state).1,
        (trackResponse flags payload state).2.markClosing) := by
  unfold trackResponse
  rw [markClosing_acceptCommandResponsePacket, markClosing_trackPrepareMetadata, markClosing_trackPrepareOk,
    markClosing_completePing, markClosing_completeStatementReset, markClosing_completeDatabaseChange]
  simp only [markClosing_acknowledge]
  change (if state.pendingPing then _ else if state.pendingStatementResetId.isSome then _
    else if state.pendingDatabase.isSome then _ else if state.pendingStatementSql.isSome then
      (if state.pendingPreparedStatementId.isSome then _ else _)
    else if state.pendingCommandResponse.isSome then _ else _) = _
  split
  · rfl
  · split
    · rfl
    · split
      · rfl
      · split
        · split <;> rfl
        · split
          · rcases state.acceptCommandResponsePacket payload flags with ⟨_ | _, followed⟩ <;> rfl
          · rfl

end Frame

/-! ## Packets that are awaited -/

/-- A packet that cannot be taken; with protocol 4.1 only the answer to a prepare is one. -/
def Jams (flags : Nat) (payload : Bytes) (state : SessionState) : Prop :=
  ∃ error tracked, trackResponse flags payload state = (.error error, tracked) ∧
    (hasFlag flags clientProtocol41 = true → tracked = state ∧ Preparing state none [])

/--
Something is awaited before each of the packets, and `post` holds after the last
one, unless a packet cannot be taken.
-/
def Abides (flags : Nat) (post : SessionState → Prop) : SessionState → List Bytes → Prop
  | state, [] => post state
  | state, payload :: rest =>
      state.hasPendingLifecycleOperation = true ∧
        (Jams flags payload state ∨
          ∃ next, absorb flags payload state = .ok next ∧ Abides flags post next rest)

section Abides

variable {flags : Nat} {post post' : SessionState → Prop} {state : SessionState}
  {packets : List Bytes}

theorem abides_of_follows (follows : Follows flags post state packets) :
    Abides flags post state packets := by
  induction packets generalizing state with
  | nil => exact follows
  | cons payload rest ih =>
      obtain ⟨pending, ⟨old, error, failed⟩ | ⟨next, absorbed, later⟩⟩ := follows
      · obtain ⟨tracked, tracks⟩ := track_error_of_absorb failed
        refine ⟨pending, .inl ⟨error, tracked, tracks, ?_⟩⟩
        intro modern
        rw [modern] at old
        cases old
      · exact ⟨pending, .inr ⟨next, absorbed, ih later⟩⟩

theorem abides_mono (abides : Abides flags post state packets)
    (implies : ∀ later, post later → post' later) : Abides flags post' state packets := by
  induction packets generalizing state with
  | nil => exact implies state abides
  | cons payload rest ih =>
      obtain ⟨pending, jams | ⟨next, absorbed, later⟩⟩ := abides
      · exact ⟨pending, .inl jams⟩
      · exact ⟨pending, .inr ⟨next, absorbed, ih later⟩⟩

/-- While nothing is awaited no packet is. -/
theorem abides_free (abides : Abides flags post state packets)
    (free : state.hasPendingLifecycleOperation = false) : packets = [] ∧ post state := by
  cases packets with
  | nil => exact ⟨rfl, abides⟩
  | cons payload rest =>
      rw [abides.1] at free
      cases free

/-- A change of the session that tracking is blind to, as long as `kind` holds. -/
structure Blind (flags : Nat) (kind : SessionState → Prop) (change : SessionState → SessionState) :
    Prop where
  pending : ∀ state, (change state).hasPendingLifecycleOperation =
    state.hasPendingLifecycleOperation
  absorb : ∀ state payload, kind state →
    MySql.absorb flags payload (change state) = (MySql.absorb flags payload state).map change
  jams : ∀ state payload, kind state → Jams flags payload state →
    Jams flags payload (change state)
  kept : ∀ state payload next, kind state → MySql.absorb flags payload state = .ok next → kind next

theorem Blind.abides {kind : SessionState → Prop} {change : SessionState → SessionState}
    (blind : Blind flags kind change) (inside : kind state)
    (abides : Abides flags post state packets)
    (implies : ∀ later, post later → post' (change later)) :
    Abides flags post' (change state) packets := by
  induction packets generalizing state with
  | nil => exact implies state abides
  | cons payload rest ih =>
      obtain ⟨pending, jams | ⟨next, absorbed, later⟩⟩ := abides
      · exact ⟨(blind.pending state).trans pending, .inl (blind.jams _ _ inside jams)⟩
      · refine ⟨(blind.pending state).trans pending, .inr ⟨change next, ?_, ?_⟩⟩
        · rw [blind.absorb _ _ inside, absorbed]
          rfl
        · exact ih (blind.kept _ _ _ inside absorbed) later

theorem due_markClosing {next : FollowUp} {tracked later : SessionState}
    (due : next.Due tracked later) : next.Due tracked.markClosing later.markClosing := by
  cases next with
  | nothing =>
      cases due
      rfl
  | failPrepare =>
      cases due
      rfl
  | finishPrepare =>
      unfold FollowUp.Due SessionState.finishStatementPrepareResponse at due ⊢
      simp only at due ⊢
      rw [show tracked.markClosing.pendingPreparedStatementId = tracked.pendingPreparedStatementId
        from rfl]
      split at due
      · cases due
      · rw [show tracked.markClosing.pendingPrepareMetadataPackets =
          tracked.pendingPrepareMetadataPackets from rfl]
        split at due
        · cases due
        · next complete =>
          cases due
          rw [if_neg complete]
          rfl

/-- A session that marks its end follows its response as before. -/
theorem blind_markClosing (flags : Nat) :
    Blind flags (fun _ => True) SessionState.markClosing where
  pending _ := rfl
  absorb state payload _ := by
    rcases absorbed : MySql.absorb flags payload state with error | later
    · obtain ⟨tracked, tracks⟩ := track_error_of_absorb absorbed
      simp only [MySql.absorb, markClosing_track, tracks, Except.map]
    · obtain ⟨next, tracked, tracks, due⟩ := absorb_ok_iff.mp absorbed
      refine absorb_ok_iff.mpr ⟨next, tracked.markClosing, ?_, due_markClosing due⟩
      rw [markClosing_track, tracks]
  jams := by
    rintro state payload - ⟨error, tracked, tracks, jammed⟩
    refine ⟨error, tracked.markClosing, by rw [markClosing_track, tracks], ?_⟩
    intro modern
    obtain ⟨rfl, preparing⟩ := jammed modern
    exact ⟨rfl, ⟨preparing.ping, preparing.reset, preparing.database, preparing.prepare,
      preparing.response, preparing.statement, preparing.packets_eq, preparing.kinds_eq⟩⟩
  kept _ _ _ _ _ := trivial

/-- Nothing is left to do after a packet of a response. -/
theorem Following.absorb_eq (following : Following state) {payload : Bytes} :
    absorb flags payload state = (trackResponse flags payload state).1.map
      fun _ => (trackResponse flags payload state).2 := by
  unfold absorb
  rw [following.track_eq]
  split
  · next tracks =>
    rw [tracks]
    rfl
  · next tracks =>
    rw [tracks]
    rfl
  · next tracks =>
    split at tracks
    · split at tracks <;> cases tracks
    · cases tracks
  · next tracks =>
    split at tracks
    · split at tracks <;> cases tracks
    · cases tracks

/-- Tracking a response keeps everything but the response. -/
theorem Following.tracks (following : Following state) {payload : Bytes} :
    (trackResponse flags payload state).2.aside = state.aside := by
  rw [following.track_eq]
  have frame := @aside_acceptCommandResponsePacket state flags payload
  split
  · rcases accepted : state.acceptCommandResponsePacket payload flags with ⟨_ | _, followed⟩ <;>
    · rw [accepted] at frame
      exact frame
  · rfl

theorem Following.of_aside {other : SessionState} (following : Following state)
    (same : other.aside = state.aside) : Following other := by
  obtain ⟨ping, reset, database, prepare⟩ := following.none
  have ping' := congrArg SessionState.pendingPing same
  have reset' := congrArg SessionState.pendingStatementResetId same
  have database' := congrArg SessionState.pendingDatabase same
  have prepare' := congrArg SessionState.pendingStatementSql same
  exact following_of_none (ping'.trans ping) (reset'.trans reset) (database'.trans database)
    (prepare'.trans prepare)

theorem Following.absorbs (following : Following state) {payload : Bytes} {next : SessionState}
    (absorbed : absorb flags payload state = .ok next) : next.aside = state.aside := by
  have frame := @Following.tracks flags state following payload
  rw [following.absorb_eq] at absorbed
  rcases tracked : trackResponse flags payload state with ⟨_ | _, after⟩
  · rw [tracked] at absorbed
    cases absorbed
  · rw [tracked] at absorbed frame
    cases absorbed
    exact frame

/-- A session that only follows a response does so whatever its registry holds. -/
theorem blind_reframe (flags : Nat) (closing : Bool) (registry : Dict Nat PreparedStatement) :
    Blind flags Following (fun state => state.reframe closing registry) where
  pending _ := rfl
  absorb state payload following := by
    rw [(following.reframe closing registry).absorb_eq, following.absorb_eq,
      reframe_track closing registry following]
    rcases trackResponse flags payload state with ⟨_ | _, tracked⟩ <;> rfl
  jams := by
    rintro state payload following ⟨error, tracked, tracks, jammed⟩
    refine ⟨error, tracked.reframe closing registry,
      by rw [reframe_track closing registry following, tracks], ?_⟩
    intro modern
    obtain ⟨-, preparing⟩ := jammed modern
    exact absurd following.none.2.2.2 preparing.prepare
  kept _ _ _ following absorbed := following.of_aside (following.absorbs absorbed)

end Abides

/-! ## Messages in flight -/

/-- What may come of the messages on a connection. -/
structure Outlook where
  flags : Nat
  /-- Executions may open cursors. -/
  cursors : Prop
  /-- Messages may be let through that nothing is awaited for. -/
  lenient : Prop

namespace Outlook

/-- A response that the server may give. -/
structure Answers (o : Outlook) (message : LogicalMessage) (response : List Bytes) : Prop where
  responds : Responds o.flags (commandOf message).kind response
  short : ∀ payload ∈ response, payload.length < maxPacketPayload
  plain : ¬ o.cursors → (commandOf message).kind = .stmtExecute → Results o.flags response

/-- Nothing more will come: nothing is awaited, or rows that only a fetch would bring. -/
def Settled (o : Outlook) (state : SessionState) : Prop :=
  state.hasPendingLifecycleOperation = false ∨ o.cursors ∧ Reading state .rows 0

/-- The session can take the packets, or they are no concern of it. -/
def Attends (o : Outlook) (state : SessionState) (packets : List Bytes) : Prop :=
  Abides o.flags o.Settled state packets ∨ o.lenient ∧ state.hasPendingLifecycleOperation = false

/-- The session can take the packets and then whatever answers the messages in flight. -/
def Foresees (o : Outlook) : List LogicalMessage → List Bytes → SessionState → Prop
  | [], packets, state => o.Attends state packets
  | message :: rest, packets, state => ∀ response, o.Answers message response →
      o.Foresees rest (packets ++ response) state

variable {o : Outlook} {message : LogicalMessage} {messages : List LogicalMessage}
  {packets : List Bytes} {state : SessionState}

theorem Answers.nil_iff {response : List Bytes} (answers : o.Answers message response) :
    response = [] ↔ silent message = true := responds_nil_iff answers.responds

/-- Every message can be answered, with an error if need be. -/
theorem exists_answers (o : Outlook) (message : LogicalMessage) :
    ∃ response, o.Answers message response := by
  have failed : ErrPacket [0xFF] := .mk []
  have short : ∀ payload ∈ [[(0xFF : UInt8)]], payload.length < maxPacketPayload := by
    intro payload inside
    rw [List.mem_singleton.mp inside]
    decide
  have result : Results o.flags [[0xFF]] := .last (.error failed)
  cases kind : (commandOf message).kind with
  | query => exact ⟨[[0xFF]], by rw [kind]; exact result, short, fun _ _ => result⟩
  | stmtExecute => exact ⟨[[0xFF]], by rw [kind]; exact .inl result, short, fun _ _ => result⟩
  | stmtPrepare => exact ⟨[[0xFF]], by rw [kind]; exact .error failed, short, fun _ _ => result⟩
  | initDb => exact ⟨[[0xFF]], by rw [kind]; exact .error failed, short, fun _ _ => result⟩
  | ping => exact ⟨[[0xFF]], by rw [kind]; exact .error failed, short, fun _ _ => result⟩
  | stmtReset => exact ⟨[[0xFF]], by rw [kind]; exact .error failed, short, fun _ _ => result⟩
  | unsupported => exact ⟨[[0xFF]], by rw [kind]; exact List.cons_ne_nil _ _, short,
      fun _ _ => result⟩
  | quit => exact ⟨[], by rw [kind]; rfl, by simp, fun _ execute => by simp [kind] at execute⟩
  | stmtClose => exact ⟨[], by rw [kind]; rfl, by simp, fun _ execute => by simp [kind] at execute⟩
  | stmtSendLongData =>
      exact ⟨[], by rw [kind]; rfl, by simp, fun _ execute => by simp [kind] at execute⟩

/-- Something that may come is attended to. -/
theorem foresees_attends (foresees : o.Foresees messages packets state) :
    ∃ more, o.Attends state (packets ++ more) ∧
      (more = [] → ∀ message ∈ messages, silent message = true) := by
  induction messages generalizing packets with
  | nil => exact ⟨[], by rwa [List.append_nil], by simp⟩
  | cons message rest ih =>
      obtain ⟨response, answers⟩ := o.exists_answers message
      obtain ⟨more, attends, silent⟩ := ih (foresees response answers)
      rw [List.append_assoc] at attends
      refine ⟨response ++ more, attends, ?_⟩
      intro nothing
      obtain ⟨first, later⟩ := List.append_eq_nil_iff.mp nothing
      intro other inside
      rcases List.mem_cons.mp inside with rfl | inside
      · exact answers.nil_iff.mp first
      · exact silent later other inside

/-- Where every message is tracked, a session that awaits nothing has nothing to come. -/
theorem foresees_free (strict : ¬ o.lenient) (foresees : o.Foresees messages packets state)
    (free : state.hasPendingLifecycleOperation = false) :
    packets = [] ∧ ∀ message ∈ messages, silent message = true := by
  obtain ⟨more, abides | ⟨lenient, -⟩, silent⟩ := foresees_attends foresees
  · obtain ⟨nothing, -⟩ := abides_free abides free
    obtain ⟨none, later⟩ := List.append_eq_nil_iff.mp nothing
    exact ⟨none, silent later⟩
  · exact absurd lenient strict

theorem foresees_silent_iff (silent : ∀ message ∈ messages, silent message = true) :
    o.Foresees messages packets state ↔ o.Attends state packets := by
  induction messages generalizing packets with
  | nil => exact Iff.rfl
  | cons message rest ih =>
      have others := fun other inside => silent other (List.mem_cons_of_mem _ inside)
      have first := silent message List.mem_cons_self
      constructor
      · intro foresees
        obtain ⟨response, answers⟩ := o.exists_answers message
        have attends := (ih others).mp (foresees response answers)
        rwa [answers.nil_iff.mpr first, List.append_nil] at attends
      · intro attends response answers
        rw [answers.nil_iff.mpr first, List.append_nil]
        exact (ih others).mpr attends

/-- A last message that nothing precedes is all that will be answered. -/
theorem foresees_snoc (silent : ∀ message ∈ messages, silent message = true)
    (attends : ∀ response, o.Answers message response → o.Attends state response) :
    o.Foresees (messages ++ [message]) [] state := by
  induction messages with
  | nil => exact fun response answers => attends response answers
  | cons first rest ih =>
      intro response answers
      rw [answers.nil_iff.mpr (silent first List.mem_cons_self)]
      exact ih fun other inside => silent other (List.mem_cons_of_mem _ inside)

/-- Another message without an answer changes nothing. -/
theorem foresees_snoc_silent (unanswered : silent message = true)
    (foresees : o.Foresees messages packets state) :
    o.Foresees (messages ++ [message]) packets state := by
  induction messages generalizing packets with
  | nil =>
      intro response answers
      rw [answers.nil_iff.mpr unanswered, List.append_nil]
      exact foresees
  | cons first rest ih => exact fun response answers => ih (foresees response answers)

/-- The next packet is absorbed, or it is one that cannot be taken. -/
theorem foresees_pop {payload : Bytes} (foresees : o.Foresees messages (payload :: packets) state) :
    Jams o.flags payload state ∨
      ∃ next, absorb o.flags payload state = .ok next ∧ o.Foresees messages packets next := by
  cases absorbed : absorb o.flags payload state with
  | error error =>
      left
      obtain ⟨more, abides | ⟨-, free⟩, -⟩ := foresees_attends foresees
      · obtain ⟨-, jams | ⟨next, same, -⟩⟩ := abides
        · exact jams
        · rw [absorbed] at same
          cases same
      · rw [absorb_free free] at absorbed
        cases absorbed
  | ok next =>
      right
      refine ⟨next, rfl, ?_⟩
      induction messages generalizing packets with
      | cons message rest ih => exact fun response answers => ih (foresees response answers)
      | nil =>
          rcases foresees with ⟨-, jams | ⟨other, same, abides⟩⟩ | ⟨lenient, free⟩
          · obtain ⟨error, tracked, tracks, -⟩ := jams
            simp [absorb, tracks] at absorbed
          · rw [absorbed] at same
            cases same
            exact .inl abides
          · rw [absorb_free free] at absorbed
            cases absorbed
            exact .inr ⟨lenient, free⟩

/-- A change that tracking is blind to leaves the session in step. -/
theorem foresees_blind {kind : SessionState → Prop} {change : SessionState → SessionState}
    (blind : Blind o.flags kind change) (settled : ∀ later, o.Settled later → o.Settled (change later))
    (inside : kind state) (foresees : o.Foresees messages packets state) :
    o.Foresees messages packets (change state) := by
  induction messages generalizing packets with
  | cons message rest ih => exact fun response answers => ih (foresees response answers)
  | nil =>
      rcases foresees with abides | ⟨lenient, free⟩
      · exact .inl (blind.abides inside abides settled)
      · exact .inr ⟨lenient, (blind.pending state).trans free⟩

/-! ### Operations -/

theorem reading_results {response : List Bytes} {columns : Nat}
    (reading : Reading state .initial columns) (results : Results o.flags response)
    (short : ∀ payload ∈ response, payload.length < maxPacketPayload) :
    Abides o.flags o.Settled state response :=
  abides_mono (abides_of_follows (follows_short (reading.follows_results results) short))
    fun _ free => .inl free

/-- A session that awaits the response to a query or an execution can take any of them. -/
theorem reading_attends {response : List Bytes} {columns : Nat}
    (reading : Reading state .initial columns)
    (inspected : (commandOf message).kind = .query ∨ (commandOf message).kind = .stmtExecute)
    (answers : o.Answers message response) : Abides o.flags o.Settled state response := by
  have responds := answers.responds
  rcases inspected with kind | kind
  · rw [kind] at responds
    exact reading_results reading responds answers.short
  · rw [kind] at responds
    rcases responds with results | opened
    · exact reading_results reading results answers.short
    · by_cases cursors : o.cursors
      · obtain @⟨count, follows, header, definitions, separator, -, isHeader, announced,
          areDefinitions, isSeparator⟩ := opened
        have columns : ResultSet o.flags (header :: (definitions ++ (separator ++ []))) :=
          .mk isHeader announced areDefinitions isSeparator (by simp)
        rw [List.append_nil] at columns
        have follows := follows_short (reading.follows_resultSet columns) answers.short
        exact abides_mono (abides_of_follows follows) fun _ rows => .inr ⟨cursors, rows⟩
      · exact reading_results reading (answers.plain cursors kind) answers.short

/-- A statement that the registry has no room for jams the answer to its prepare. -/
theorem preparing_attends {sql : String} {response : List Bytes}
    (preparing : Preparing state none []) (text : state.pendingStatementSql = some sql)
    (responds : PrepareResponse o.flags response) : Abides o.flags o.Settled state response := by
  by_cases room : Preparing.HasRoom state sql response
  · have follows := preparing.follows_response text responds room
    exact abides_mono (abides_of_follows follows) fun _ free => .inl free
  · simp only [Preparing.HasRoom, not_forall] at room
    obtain ⟨payload, prepared, first, ok, full⟩ := room
    obtain ⟨rest, rfl⟩ : ∃ rest, response = payload :: rest := by
      cases response with
      | nil => cases first
      | cons head rest =>
          cases first
          exact ⟨rest, rfl⟩
    have tracked : trackResponse o.flags payload state = _ := preparing.track_prepareOk text ok
    refine ⟨preparing.pending, .inl ?_⟩
    cases capacity : state.requirePreparedCapacity prepared.statementId sql with
    | ok room => exact absurd capacity full
    | error error =>
        rw [capacity] at tracked
        exact ⟨error, state, tracked, fun _ => ⟨rfl, preparing⟩⟩

/-- A command that is written as it stands leaves the session ready for its response. -/
theorem opens_attends {after : SessionState} {response : List Bytes}
    (free : state.hasPendingLifecycleOperation = false)
    (opens : Opens (commandOf message) state after) (answers : o.Answers message response) :
    Abides o.flags o.Settled after response := by
  have responds := answers.responds
  have operates : ∀ operation : Operation, operation.begin state = .ok after →
      operation.Answered o.flags response → operation.Fits after response →
      Abides o.flags o.Settled after response := by
    intro operation begun answered fits
    have follows := Operation.follows begun answered fits answers.short
    exact abides_mono (abides_of_follows follows) fun _ free => .inl free
  cases opens with
  | initDb kind parsed begun =>
      rw [kind] at responds
      exact operates (.initDb _) begun responds trivial
  | ping kind empty begun =>
      rw [kind] at responds
      exact operates .ping begun responds trivial
  | stmtReset kind parsed begun =>
      rw [kind] at responds
      exact operates (.stmtReset _) begun responds trivial
  | stmtPrepare kind parsed begun =>
      rw [kind] at responds
      obtain ⟨-, rfl⟩ := beginStatementPrepare_ok begun
      exact preparing_attends (preparing_awaiting free _) rfl responds
  | stmtClose kind parsed _ =>
      rw [kind] at responds
      rw [show response = [] from responds]
      exact .inl free
  | quit kind =>
      rw [kind] at responds
      rw [show response = [] from responds]
      exact .inl free

end Outlook

end SqlSafetyProxy.MySql
