import SqlSafetyProxy.MySql.Attention
import SqlSafetyProxy.MySql.Catalog

/-!
# The registry and the server's statements

The registry of a session holds the server's statements, as far as it holds any:
each under its id, with the text up to blanks around it, and with the types bound
last or none.  A response to a prepare is followed to where this is so again.
-/

namespace SqlSafetyProxy.MySql

open SqlSafetyProxy.Wire SqlSafetyProxy.Runtime SqlSafetyProxy.Collections

/-! ## Registered statements -/

/-- A registered statement is one of the server. -/
structure Renders (known : Statement) (statement : PreparedStatement) : Prop where
  text : ∃ text, known.text = encodeUtf8 text ∧ statement.sql = strip text
  count : statement.parameterCount = known.parameterCount

/-- What is registered is known to the server, with the same types unless they are spared. -/
def Mirrors (spared : Nat → Prop) (statements : Dict Nat Statement)
    (registry : Dict Nat PreparedStatement) : Prop :=
  ∀ statementId statement, registry.lookup statementId = some statement →
    ∃ known, statements.lookup statementId = some known ∧ statement.statementId = statementId ∧
      Renders known statement ∧
      (spared statementId ∨ statement.parameterTypes = none ∨
        statement.parameterTypes = known.parameterTypes)

/-- No prepare is in flight, and the registry and the last statement are those of the server. -/
structure Tallies (spared : Nat → Prop) (catalog : Catalog) (state : SessionState) : Prop where
  none : state.pendingStatementSql = none
  mirrors : Mirrors spared catalog.statements state.preparedStatements
  last : ∀ statementId, state.lastPreparedStatementId = some statementId →
    catalog.last = some statementId

section Mirrors

variable {spared spared' : Nat → Prop} {statements : Dict Nat Statement}
  {registry : Dict Nat PreparedStatement} {statementId : Nat}

theorem Mirrors.mono (mirrors : Mirrors spared statements registry)
    (more : ∀ statementId, spared statementId → spared' statementId) :
    Mirrors spared' statements registry := by
  intro statementId statement found
  obtain ⟨known, isKnown, same, renders, types⟩ := mirrors statementId statement found
  exact ⟨known, isKnown, same, renders, types.imp_left (more statementId)⟩

theorem Mirrors.erase (mirrors : Mirrors spared statements registry) (closed : Nat) :
    Mirrors spared (statements.erase closed) (registry.erase closed) := by
  intro statementId statement found
  obtain ⟨present, other⟩ := Dict.lookup_erase_eq_some.mp found
  obtain ⟨known, isKnown, rest⟩ := mirrors statementId statement present
  exact ⟨known, Dict.lookup_erase_eq_some.mpr ⟨isKnown, other⟩, rest⟩

/-- A statement is registered as the server has prepared it. -/
theorem Mirrors.insert (mirrors : Mirrors spared statements registry) {known : Statement}
    {statement : PreparedStatement} (same : statement.statementId = statementId)
    (renders : Renders known statement) (untyped : statement.parameterTypes = none) :
    Mirrors spared (statements.insert statementId known)
      (registry.insert statementId statement) := by
  intro other found looked
  rcases Dict.lookup_insert_eq_some.mp looked with ⟨rfl, rfl⟩ | ⟨differs, present⟩
  · exact ⟨known, AList.lookup_insert _, same, renders, .inr (.inl untyped)⟩
  · obtain ⟨earlier, isKnown, rest⟩ := mirrors other found present
    exact ⟨earlier, Dict.lookup_insert_eq_some.mpr (.inr ⟨differs, isKnown⟩), rest⟩

/-- A registration that is taken back leaves what was there under other ids. -/
theorem Mirrors.undone (mirrors : Mirrors spared statements registry)
    (statement : PreparedStatement) :
    Mirrors spared statements ((registry.insert statementId statement).erase statementId) := by
  intro other found looked
  obtain ⟨present, differs⟩ := Dict.lookup_erase_eq_some.mp looked
  rw [AList.lookup_insert_ne differs] at present
  exact mirrors other found present

/-- A statement that is executed has its types bound, and they are spared. -/
theorem Mirrors.executed (mirrors : Mirrors (fun _ => False) statements registry)
    {known : Statement} (isKnown : statements.lookup statementId = some known)
    (types : Option (List ParameterType)) (isSpared : spared statementId) :
    Mirrors spared (statements.insert statementId { known with parameterTypes := types })
      registry := by
  intro other statement found
  obtain ⟨earlier, isEarlier, same, renders, kept⟩ := mirrors other statement found
  by_cases executed : other = statementId
  · subst executed
    rw [isKnown] at isEarlier
    cases isEarlier
    exact ⟨_, AList.lookup_insert _, same, ⟨renders.text, renders.count⟩, .inl isSpared⟩
  · refine ⟨earlier, ?_, same, renders, .inr (kept.resolve_left id)⟩
    exact Dict.lookup_insert_eq_some.mpr (.inr ⟨executed, isEarlier⟩)

/-- The types of a spared statement may be changed. -/
theorem Mirrors.stores (mirrors : Mirrors spared statements registry) {old : PreparedStatement}
    (found : registry.lookup statementId = some old) (isSpared : spared statementId)
    (types : Option (List ParameterType)) (longData : Finset Nat) :
    Mirrors spared statements (registry.insert statementId
      { old with parameterTypes := types, longDataParameters := longData }) := by
  intro other statement looked
  rcases Dict.lookup_insert_eq_some.mp looked with ⟨rfl, rfl⟩ | ⟨differs, present⟩
  · obtain ⟨known, isKnown, same, renders, -⟩ := mirrors _ old found
    exact ⟨known, isKnown, same, ⟨renders.text, renders.count⟩, .inl isSpared⟩
  · exact mirrors other statement present

end Mirrors

/-! ## What leaves the registry alone -/

/-- The session has the same statements, but may have forgotten types. -/
structure Retains (state state' : SessionState) : Prop where
  prepare : state'.pendingStatementSql = state.pendingStatementSql
  last : state'.lastPreparedStatementId = state.lastPreparedStatementId
  statements : ∀ statementId statement, state'.preparedStatements.lookup statementId =
    some statement → ∃ old, state.preparedStatements.lookup statementId = some old ∧
      statement.statementId = old.statementId ∧ statement.sql = old.sql ∧
      statement.parameterCount = old.parameterCount ∧
      (statement.parameterTypes = none ∨ statement.parameterTypes = old.parameterTypes)

section Retains

variable {flags : Nat} {payload : Bytes} {state state' : SessionState}

theorem Retains.of_same (registry : state'.preparedStatements = state.preparedStatements)
    (prepare : state'.pendingStatementSql = state.pendingStatementSql)
    (last : state'.lastPreparedStatementId = state.lastPreparedStatementId) :
    Retains state state' := by
  refine ⟨prepare, last, fun statementId statement found => ?_⟩
  rw [registry] at found
  exact ⟨statement, found, rfl, rfl, rfl, .inr rfl⟩

theorem Retains.trans {state'' : SessionState} (first : Retains state state')
    (second : Retains state' state'') : Retains state state'' := by
  refine ⟨second.prepare.trans first.prepare, second.last.trans first.last, ?_⟩
  intro statementId statement found
  obtain ⟨middle, isMiddle, same, sql, count, types⟩ :=
    second.statements statementId statement found
  obtain ⟨old, isOld, same', sql', count', types'⟩ := first.statements statementId middle isMiddle
  refine ⟨old, isOld, same.trans same', sql.trans sql', count.trans count', ?_⟩
  rcases types with forgotten | kept
  · exact .inl forgotten
  · rw [kept]
    exact types'

theorem Retains.of_aside (same : state'.aside = state.aside) : Retains state state' := by
  have registry := congrArg SessionState.preparedStatements same
  have prepare := congrArg SessionState.pendingStatementSql same
  have last := congrArg SessionState.lastPreparedStatementId same
  exact .of_same registry prepare last

theorem Tallies.retains {spared : Nat → Prop} {catalog : Catalog}
    (tallies : Tallies spared catalog state) (retains : Retains state state') :
    Tallies spared catalog state' := by
  refine ⟨retains.prepare.trans tallies.none, ?_, ?_⟩
  · intro statementId statement found
    obtain ⟨old, isOld, same, sql, count, types⟩ := retains.statements statementId statement found
    obtain ⟨known, isKnown, same', renders, types'⟩ := tallies.mirrors statementId old isOld
    refine ⟨known, isKnown, same.trans same', ⟨?_, count.trans renders.count⟩, ?_⟩
    · rw [sql]
      exact renders.text
    · rcases types with forgotten | kept
      · exact .inr (.inl forgotten)
      · rw [kept]
        exact types'
  · intro statementId isLast
    rw [retains.last] at isLast
    exact tallies.last statementId isLast

theorem Tallies.mono {spared spared' : Nat → Prop} {catalog : Catalog}
    (tallies : Tallies spared catalog state)
    (more : ∀ statementId, spared statementId → spared' statementId) :
    Tallies spared' catalog state :=
  ⟨tallies.none, tallies.mirrors.mono more, tallies.last⟩

theorem retains_completePing : Retains state (state.completePing payload).2 := by
  unfold SessionState.completePing
  split
  · exact .of_same rfl rfl rfl
  · cases payload with
    | nil => exact .of_same rfl rfl rfl
    | cons marker rest =>
        dsimp only
        split
        · exact .of_same rfl rfl rfl
        · split <;> exact .of_same rfl rfl rfl

theorem retains_completeDatabaseChange :
    Retains state (state.completeDatabaseChange payload).2 := by
  unfold SessionState.completeDatabaseChange
  split
  · exact .of_same rfl rfl rfl
  · cases payload with
    | nil => exact .of_same rfl rfl rfl
    | cons marker rest =>
        dsimp only
        split
        · exact .of_same rfl rfl rfl
        · split <;> exact .of_same rfl rfl rfl

/-- A reset forgets the types of its statement. -/
theorem retains_resetPreparedStatement {statementId : Nat}
    (done : state.resetPreparedStatement statementId = .ok state') : Retains state state' := by
  obtain ⟨old, found, rest⟩ := bind_ok done
  cases rest
  refine ⟨rfl, rfl, fun other statement looked => ?_⟩
  rcases Dict.lookup_insert_eq_some.mp looked with ⟨rfl, rfl⟩ | ⟨-, present⟩
  · exact ⟨old, getPreparedStatement_ok found, rfl, rfl, rfl, .inl rfl⟩
  · exact ⟨statement, present, rfl, rfl, rfl, .inr rfl⟩

theorem retains_completeStatementReset :
    Retains state (state.completeStatementReset payload).2 := by
  unfold SessionState.completeStatementReset
  split
  · exact .of_same rfl rfl rfl
  · cases payload with
    | nil => exact .of_same rfl rfl rfl
    | cons marker rest =>
        dsimp only
        split
        · split
          · next reset done =>
            have cleared : Retains state { state with pendingStatementResetId := none } :=
              .of_same rfl rfl rfl
            exact cleared.trans (retains_resetPreparedStatement done)
          · exact .of_same rfl rfl rfl
        · split <;> exact .of_same rfl rfl rfl

/-- A packet that answers no prepare leaves the statements. -/
theorem retains_trackResponse (none : state.pendingStatementSql = none) :
    Retains state (trackResponse flags payload state).2 := by
  unfold trackResponse
  split
  · exact retains_completePing.trans (.of_aside aside_acknowledge)
  · split
    · exact retains_completeStatementReset.trans (.of_aside aside_acknowledge)
    · split
      · exact retains_completeDatabaseChange.trans (.of_aside aside_acknowledge)
      · rw [if_neg (by rw [none]; decide)]
        split
        · have frame : Retains state (state.acceptCommandResponsePacket payload flags).2 :=
            .of_aside aside_acceptCommandResponsePacket
          split
          · next same =>
            rw [same] at frame
            exact frame
          · next same =>
            rw [same] at frame
            exact frame
        · exact .of_same rfl rfl rfl

end Retains

/-! ## Responses to a prepare -/

/-- The answer to a prepare has not been taken to its end. -/
structure Waits (state : SessionState) : Prop where
  prepare : state.pendingStatementSql.isSome = true
  event : state.pendingPrepareEvent = some false

/--
The packets end a prepare: then the registry is that of the server again.  The
registry may also have no room for the statement.
-/
inductive Reports (flags : Nat) (catalog : Catalog) : SessionState → List Bytes → Prop where
  | full {state : SessionState} {payload : Bytes} {rest : List Bytes} {error : Exn} : Waits state →
      trackResponse flags payload state = (.error error, state) →
      Reports flags catalog state (payload :: rest)
  | more {state tracked : SessionState} {payload : Bytes} {rest : List Bytes} : Waits state →
      trackResponse flags payload state = (.ok .nothing, tracked) →
      Reports flags catalog tracked rest → Reports flags catalog state (payload :: rest)
  | last {state tracked later : SessionState} {payload : Bytes} {next : FollowUp} : Waits state →
      trackResponse flags payload state = (.ok next, tracked) → next ≠ .nothing →
      Waits tracked → next.Due tracked later → Tallies (fun _ => False) catalog later →
      Reports flags catalog state [payload]

section Reports

variable {flags : Nat} {catalog : Catalog} {state : SessionState} {packets : List Bytes}

theorem Reports.waits (reports : Reports flags catalog state packets) : Waits state := by
  cases reports with
  | full waits _ => exact waits
  | more waits _ _ => exact waits
  | last waits _ _ _ _ _ => exact waits

/-- The next packet cannot be taken, or it is read, or it is the last one. -/
theorem Reports.takesUp {payload : Bytes} {result : Except Exn FollowUp} {tracked : SessionState}
    (reports : Reports flags catalog state (payload :: packets))
    (tracks : trackResponse flags payload state = (result, tracked)) :
    ((∃ error, result = .error error) ∧ tracked = state) ∨
      (result = .ok .nothing ∧ Reports flags catalog tracked packets) ∨
      ∃ next later, result = .ok next ∧ next ≠ .nothing ∧ Waits tracked ∧
        next.Due tracked later ∧ Tallies (fun _ => False) catalog later := by
  cases reports with
  | @full _ _ _ error _ same =>
      rw [tracks] at same
      cases same
      exact .inl ⟨⟨error, rfl⟩, rfl⟩
  | more _ same later =>
      rw [tracks] at same
      cases same
      exact .inr (.inl ⟨rfl, later⟩)
  | @last _ _ later _ next _ same some_ still due tallies =>
      rw [tracks] at same
      cases same
      exact .inr (.inr ⟨next, later, rfl, some_, still, due, tallies⟩)

theorem Waits.markClosing (waits : Waits state) : Waits state.markClosing :=
  ⟨waits.prepare, waits.event⟩

/-- Tracking does not look at the mark of the end. -/
theorem Reports.markClosing (reports : Reports flags catalog state packets) :
    Reports flags catalog state.markClosing packets := by
  induction reports with
  | full waits tracks => exact .full waits.markClosing (by rw [markClosing_track, tracks])
  | more waits tracks _ ih => exact .more waits.markClosing (by rw [markClosing_track, tracks]) ih
  | last waits tracks some_ still due tallies =>
      exact .last waits.markClosing (by rw [markClosing_track, tracks]) some_ still.markClosing
        (due_markClosing due) (tallies.retains (.of_same rfl rfl rfl))

/-- The metadata up to its last packet. -/
theorem reports_metadata {statementId : Nat} {kinds : List MetadataKind}
    (preparing : Preparing state (some statementId) kinds) (waits : Waits state)
    (some_ : kinds ≠ []) (announced : List.Forall₂ MetadataPacket kinds packets)
    (mirrors : Mirrors (fun _ => False) catalog.statements state.preparedStatements)
    (last : catalog.last = some statementId) : Reports flags catalog state packets := by
  induction announced generalizing state with
  | nil => exact absurd rfl some_
  | @cons kind payload kinds others isKind rest ih =>
      have tracked : trackResponse flags payload state = _ := preparing.track_metadata isKind
      have consumes := preparing.consumes
      have still : Waits (Preparing.consumed state kinds) := ⟨waits.prepare, waits.event⟩
      by_cases isLast : kinds = []
      · subst isLast
        cases rest
        rw [if_pos rfl] at tracked
        refine .last waits tracked (by decide) still consumes.finishes.1 ⟨rfl, mirrors, ?_⟩
        rintro other ⟨⟩
        exact last
      · rw [if_neg isLast] at tracked
        exact .more waits tracked (ih consumes still isLast mirrors)

/-- An error amid the metadata takes the statement back. -/
theorem reports_broken {statementId : Nat} {read rest : List MetadataKind} {failure : Bytes}
    (preparing : Preparing state (some statementId) (read ++ rest)) (waits : Waits state)
    (some_ : rest ≠ []) (announced : List.Forall₂ MetadataPacket read packets)
    (failed : ErrPacket failure)
    (mirrors : Mirrors (fun _ => False) catalog.statements
      (state.preparedStatements.erase statementId)) :
    Reports flags catalog state (packets ++ [failure]) := by
  induction announced generalizing state with
  | nil =>
      have kept : state.failStatementPrepare.preparedStatements =
          state.preparedStatements.erase statementId := by
        simp only [SessionState.failStatementPrepare, SessionState.setPrepareEvent,
          preparing.statement]
      refine .last waits (preparing.track_error failed) (by decide) waits rfl ⟨rfl, ?_, ?_⟩
      · rw [kept]
        exact mirrors
      · rintro other ⟨⟩
  | @cons kind payload kinds others isKind _ ih =>
      have tracked : trackResponse flags payload state = _ := preparing.track_metadata isKind
      rw [if_neg (by simp [some_])] at tracked
      exact .more waits tracked (ih preparing.consumes ⟨waits.prepare, waits.event⟩ mirrors)

/-- The first packet registers the statement, if there is room for it. -/
theorem reports_prepareOk {sql : String} {prepared : StmtPrepareOk} {payload : Bytes}
    {metadata : List Bytes} {tracked : SessionState} (preparing : Preparing state none [])
    (waits : Waits state) (asked : state.pendingStatementSql = some sql)
    (ok : PrepareOkPacket prepared payload)
    (accepts : tracked = Preparing.accepted state sql prepared (hasFlag flags clientDeprecateEof))
    (alone : tracked.pendingPrepareMetadataKinds = [] → metadata = [] ∧
      Tallies (fun _ => False) catalog (Preparing.finished tracked prepared.statementId))
    (rest : tracked.pendingPrepareMetadataKinds ≠ [] → Reports flags catalog tracked metadata) :
    Reports flags catalog state (payload :: metadata) := by
  subst accepts
  have tracks : trackResponse flags payload state = _ := preparing.track_prepareOk asked ok
  cases room : state.requirePreparedCapacity prepared.statementId sql with
  | error error =>
      simp only [room] at tracks
      exact .full waits tracks
  | ok _ =>
      have read := preparing.accepts sql prepared (hasFlag flags clientDeprecateEof)
      by_cases empty :
          SessionState.announcedMetadata prepared (hasFlag flags clientDeprecateEof) = []
      · obtain ⟨rfl, tallies⟩ := alone empty
        rw [empty] at read
        simp only [room, if_pos empty] at tracks
        exact .last waits tracks (by decide) ⟨waits.prepare, waits.event⟩ read.finishes.1 tallies
      · simp only [room, if_neg empty] at tracks
        exact .more waits tracks (rest empty)

/-- A response to a prepare leaves the registry as the server has prepared the statement. -/
theorem reports_response {packets : List Packet} {text sql : String}
    (preparing : Preparing state none []) (waits : Waits state)
    (asked : state.pendingStatementSql = some sql) (strips : sql = strip text)
    (response : PrepareResponse flags (packets.map Packet.payload))
    (mirrors : Mirrors (fun _ => False) catalog.statements state.preparedStatements) :
    Reports flags (catalog.prepared (encodeUtf8 text) (prepareOk packets)) state
      (packets.map Packet.payload) := by
  generalize same : packets.map Packet.payload = payloads at response
  cases response with
  | error failed =>
      rw [prepareOk_failed (same.trans (List.nil_append _).symm) failed]
      have kept : state.failStatementPrepare.preparedStatements = state.preparedStatements := by
        simp only [SessionState.failStatementPrepare, SessionState.setPrepareEvent,
          preparing.statement]
      refine .last waits (preparing.track_error failed) (by decide) waits rfl ⟨rfl, ?_, ?_⟩
      · rw [kept]
        exact mirrors
      · rintro other ⟨⟩
  | @ok prepared payload metadata ok complete =>
      rw [prepareOk_complete same ok complete]
      have announced := metadata_announced complete
      have read := preparing.accepts sql prepared (hasFlag flags clientDeprecateEof)
      have registered : Mirrors (fun _ => False)
          (catalog.prepared (encodeUtf8 text) (some prepared)).statements
          (Preparing.accepted state sql prepared
            (hasFlag flags clientDeprecateEof)).preparedStatements :=
        mirrors.insert rfl ⟨⟨text, rfl, strips⟩, rfl⟩ rfl
      refine reports_prepareOk preparing waits asked ok rfl ?_ ?_
      · intro empty
        rw [read.kinds_eq] at empty
        rw [empty] at announced
        refine ⟨List.forall₂_nil_left_iff.mp announced, rfl, registered, ?_⟩
        rintro other ⟨⟩
        rfl
      · intro some_
        rw [read.kinds_eq] at some_
        exact reports_metadata read ⟨waits.prepare, waits.event⟩ some_ announced registered rfl
  | @broken prepared payload failure metadata rest ok complete more failed =>
      rw [prepareOk_failed (same.trans (List.cons_append ..).symm) failed]
      obtain ⟨before, after, split, left, front, -⟩ :=
        announced_split (metadata_announced complete) more
      have read := preparing.accepts sql prepared (hasFlag flags clientDeprecateEof)
      have some_ :
          SessionState.announcedMetadata prepared (hasFlag flags clientDeprecateEof) ≠ [] := by
        simp [split, left]
      refine reports_prepareOk preparing waits asked ok rfl (fun empty => absurd empty some_) ?_
      rintro -
      rw [split] at read
      exact reports_broken read ⟨waits.prepare, waits.event⟩ left front failed (mirrors.undone _)

end Reports

end SqlSafetyProxy.MySql
