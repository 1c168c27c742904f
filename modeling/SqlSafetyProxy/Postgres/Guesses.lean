import SqlSafetyProxy.Postgres.Relay
import SqlSafetyProxy.Runtime.Recording

/-!
# Guessed parameters

A parameter in the binary format is decoded by its length, and broken text with
replacement characters.  The count of a preview with such a value decides like
any other: the statement is held back only if the count is large, or missing.
-/

namespace SqlSafetyProxy.Postgres

open SqlSafetyProxy.Sql SqlSafetyProxy.Policy SqlSafetyProxy.Wire SqlSafetyProxy.Runtime
open SqlSafetyProxy.Coroutine Proc

variable {Γ : Type}

/-! ## Guesses -/

/-- A parameter whose exact value `decodeParam` does not recover. -/
inductive Guessed : Option Bytes → Int → Prop
  | binary {bytes : Bytes} {formatCode : Int} : formatCode ≠ 0 →
      (decodeParam (some bytes) formatCode).confidence = .heuristic →
      Guessed (some bytes) formatCode
  | broken {bytes : Bytes} : decodeUtf8 bytes = none → Guessed (some bytes) 0

/-- A preview refers to a parameter that is guessed. -/
def RefersToGuess (digit : Char → Option Nat) (query : String) (bind : BindMessage) : Prop :=
  ∃ digits index raw formatCode,
    Piece.placeholder digits ∈ scanPlaceholders digit none query.toList ∧
      placeholderNumber digit digits = index + 1 ∧
      (bind.paramValues.zip bind.formatCodes)[index]? = some (raw, formatCode) ∧
      Guessed raw formatCode

/-- In some run the message is written although only the policy has allowed it. -/
def AllowedUnasked
    (env : (q : Request) → World adapter Γ → q.Answer → World adapter Γ → Prop) (tools : Tools)
    (opts : ProxyOptions) (message : Message) (w : World adapter Γ) : Prop :=
  ∃ outcome w' events decision,
    Exec env (handleFrontendMessage tools opts message) w outcome w' ∧
      w'.trace = w.trace ++ events ∧ Event.decided decision ∈ events ∧
      decision.action = .allow ∧ Event.forwarded message message.raw ∈ events

theorem ne_empty_of_toList {text : String} (some_ : text.toList ≠ []) : text ≠ "" := by
  rintro rfl
  exact some_ rfl

theorem quote_ne_empty (text : String) : quote text ≠ "" :=
  ne_empty_of_toList (by simp [quote])

theorem integer_ne_empty (value : Int) : toString value ≠ "" := by
  rw [Int.toString_eq_repr, Int.repr_eq_if]
  split
  · exact Nat.repr_ne_empty
  · exact ne_empty_of_toList (by simp)

/-- No literal is empty. -/
theorem literal_ne_empty (raw : Option Bytes) (formatCode : Int) :
    (decodeParam raw formatCode).sqlLiteral ≠ "" := by
  cases raw with
  | none => exact show "NULL" ≠ "" by decide
  | some bytes =>
      simp only [decodeParam]
      split
      · exact quote_ne_empty _
      split
      · dsimp only
        split <;> decide
      split
      · exact integer_ne_empty _
      split
      · exact quote_ne_empty _
      · exact show "NULL" ≠ "" by decide

theorem replacement_ne_empty {digit : Char → Option Nat} {bind : BindMessage} {digits : List Char}
    {part : String × Confidence}
    (replaced : replacePiece digit (decodedParameters bind) (.placeholder digits) = .ok part) :
    part.1 ≠ "" := by
  simp only [replacePiece] at replaced
  split at replaced
  · cases replaced
  split at replaced
  · cases replaced
    exact ne_empty_of_toList (by simp)
  · obtain ⟨decoded, found, replaced⟩ := bind_ok replaced
    cases replaced
    obtain ⟨entry, -, rfl⟩ := List.mem_map.mp (pythonIndex_mem found)
    exact literal_ne_empty _ _

/-- A preview that refers to a parameter has a placeholder to put its literal in. -/
theorem literalQuery_ne_empty {digit : Char → Option Nat} {query literal : String}
    {bind : BindMessage} {guessed : Bool} (refers : RefersToGuess digit query bind)
    (substituted : substituteParams digit query (decodedParameters bind) =
      .ok (some literal, guessed)) : literal ≠ "" := by
  obtain ⟨digits, index, raw, formatCode, inside, number, bound, -⟩ := refers
  unfold substituteParams at substituted
  obtain ⟨parts, replaced, substituted⟩ := bind_ok substituted
  split at substituted
  · cases substituted
  · cases substituted
    obtain ⟨part, among, found⟩ := mapM_ok replaced inside
    have some_ := replacement_ne_empty found
    refine ne_empty_of_toList fun empty => some_ ?_
    rw [String.toList_join, List.flatMap_eq_nil_iff] at empty
    exact String.toList_eq_nil_iff.mp (empty part.1 (List.mem_map_of_mem among))

/-- Only a mutation with a `WHERE` clause is reported to have one. -/
theorem classifyStatement_filtered {glot : Sqlglot} {dialect : Dialect} {ast : Expression}
    (filtered : (classifyStatement glot dialect ast).hasWhere = some true) :
    (classifyStatement glot dialect ast).risk = .risky ∧
      (classifyStatement glot dialect ast).impactKind = .rows := by
  have mutation : ∀ tree, (classifyMutation glot dialect tree).risk = .risky ∧
      (classifyMutation glot dialect tree).impactKind = .rows := by
    intro tree
    unfold classifyMutation
    dsimp only
    split <;> exact ⟨rfl, rfl⟩
  revert filtered
  unfold classifyStatement
  repeat' split
  all_goals first
    | exact fun _ => mutation _
    | exact fun filtered => absurd filtered (by simp)

theorem classify_filtered {glot : Sqlglot} {sql : String} {dialect : Dialect}
    (filtered : (classify glot sql dialect).hasWhere = some true) :
    (classify glot sql dialect).risk = .risky ∧ (classify glot sql dialect).impactKind = .rows := by
  revert filtered
  unfold classify
  split
  · exact fun filtered => absurd filtered (by simp)
  · exact fun filtered => absurd filtered (by simp)
  · exact classifyStatement_filtered
  · exact fun filtered => absurd filtered (by simp)

/-- What the policy makes of the count of a mutation with a `WHERE` clause. -/
theorem allow_iff {classification : Classification} {estimated : Option Int × Option String}
    {config : PolicyConfig} (risky : classification.risk = .risky)
    (rows : classification.impactKind = .rows) (filtered : classification.hasWhere = some true)
    (strict : config.estimationFailureAction ≠ .allow) :
    (evaluatePolicy classification estimated.1 estimated.2 config).action = .allow ↔
      truthyText estimated.2 = false ∧ ∃ count, estimated.1 = some count ∧
        count ≤ config.autoAllowMaxRows := by
  obtain ⟨estimatedRows, estimateError⟩ := estimated
  have order := config.autoAllow_lt_block
  unfold evaluatePolicy
  simp only [risky, rows, filtered, reduceCtorEq, if_false, Option.some.injEq, Bool.true_eq_false]
  cases error : truthyText estimateError with
  | true => simp [strict]
  | false =>
      cases estimatedRows with
      | none => simp [strict]
      | some count =>
          simp only [true_and, Option.some.injEq, exists_eq_left']
          split_ifs with large small
          · refine iff_of_false (by rintro ⟨⟩) ?_
            omega
          · exact iff_of_true rfl small
          · exact iff_of_false (by rintro ⟨⟩) small

/-! ## A statement that is held back -/

section Held

variable {base : List (Event adapter)} {C : Proc.Contract awaits (World adapter Γ)}
  {tools : Tools} {opts : ProxyOptions} {message : Message} {bind : BindMessage}
  {execute : ExecuteMessage} {sqlTemplate query : String} {start w : World adapter Γ}

theorem keeps_connectionState {condition : World adapter Γ → Prop} :
    Keeps C condition (connectionState : Handler adapter Γ ConnectionState) :=
  keeps_bind keeps_session fun _ => keeps_pure _

theorem traced_updateState {fine : Event adapter → Prop}
    (change : ConnectionState → ConnectionState) :
    Keeps C (Traced base fine) (updateState change : Handler adapter Γ Unit) :=
  keeps_update fun _ holds => holds

theorem traced_forward (guards : Guards C (Traced base Unallowed)) :
    Keeps C (Traced base Unallowed) (forward message : Handler adapter Γ Unit) :=
  keeps_bind (traced_record (by rintro _ ⟨⟩)) fun _ => keeps_drain guards

theorem traced_answerRecovery {fine : Event adapter → Prop} (extendedRecovery : Bool) :
    Keeps C (Traced base fine) (answerRecovery extendedRecovery : Handler adapter Γ Unit) := by
  unfold answerRecovery
  split
  · exact traced_updateState _
  · exact keeps_bind keeps_connectionState fun _ => traced_writeClient _

theorem traced_gap (guards : Guards C (Traced base Unallowed)) (protocol reason sql : String)
    (database : String) (extendedRecovery : Bool) :
    Keeps C (Traced base Unallowed) (handleProtocolGap tools opts protocol reason sql message
      database extendedRecovery : Handler adapter Γ Bool) := by
  refine keeps_bind (traced_writeAuditEvent guards tolerant_unallowed _ _ _ _ _ _ _ _ _) ?_
  intro _
  split
  · exact keeps_bind (traced_forward guards) fun _ => keeps_pure _
  · exact keeps_bind (keeps_ofExcept _) fun _ => keeps_bind (traced_writeClient _) fun _ =>
      keeps_bind (traced_answerRecovery _) fun _ => keeps_bind (keeps_drain guards) fun _ =>
        keeps_pure _

theorem traced_recover (guards : Guards C (Traced base Unallowed)) :
    Keeps C (Traced base Unallowed) (recoverMessage message : Handler adapter Γ Unit) := by
  unfold recoverMessage
  split
  · exact keeps_bind (traced_forward guards) fun _ => traced_updateState _
  · split
    · exact traced_forward guards
    · exact keeps_pure _

/-- Once the policy does not allow the statement, nothing else does so unasked. -/
theorem wp_conclude (guards : Guards C (Traced base Unallowed)) {classification : Classification}
    {rows : Option Int} {error : Option String} {approximate : Bool} {database : String}
    (asked : (evaluatePolicy classification rows error opts.policyConfig).action ≠ .allow)
    (holds : Traced base Unallowed w) :
    Proc.wp C (evaluateAndDecide tools opts sqlTemplate "extended" classification rows error
        approximate database)
      (fun outcome start s => Proc.wp C
        (if outcome.1 then forward message
        else do
          let error ← Proc.ofExcept (blockedError classification rows outcome.2)
          writeClient (.built error)
          answerRecovery true
          drain)
        (fun _ _ s => Traced base Unallowed s) (fun _ _ s => Traced base Unallowed s) start s)
      (fun _ _ s => Traced base Unallowed s) start w := by
  refine Proc.wp_mono (traced_evaluateAndDecide guards tolerant_unallowed ?_ start w holds) ?_ ?_
  · rintro decision ⟨⟩ allowed
    exact asked allowed
  · intro outcome start s holds
    split
    · exact traced_forward guards start s holds
    · exact keeps_bind (keeps_ofExcept _) (fun _ => keeps_bind (traced_writeClient _) fun _ =>
        keeps_bind (traced_answerRecovery _) fun _ => keeps_drain guards) start s holds
  · exact fun _ _ _ holds => holds

end Held

/-- The estimator may report so few rows for the literal preview that the policy allows them. -/
def CountedLow (env : (q : Request) → World adapter Γ → q.Answer → World adapter Γ → Prop)
    (tools : Tools) (opts : ProxyOptions) (bind : BindMessage) (sqlTemplate query : String)
    (w : World adapter Γ) : Prop :=
  ∃ literal guessed rows w',
    substituteParams tools.digit query (decodedParameters bind) = .ok (some literal, guessed) ∧
      env (.estimate literal w.session.state.database)
        (w.log (.classified sqlTemplate (classify tools.glot sqlTemplate opts.dialect)))
        (.ok rows) w' ∧
      rows ≤ opts.policyConfig.autoAllowMaxRows

/-- An Execute of a mutation with a `WHERE` clause whose preview refers to a guess. -/
structure GuessedExecute (tools : Tools) (opts : ProxyOptions) (state : ConnectionState)
    (message : Message) (bind : BindMessage) (sqlTemplate query : String) : Prop where
  isExecute : message.type = 'E'
  bound : boundText state message = some (bind, sqlTemplate)
  filtered : (classify tools.glot sqlTemplate opts.dialect).hasWhere = some true
  preview : (classify tools.glot sqlTemplate opts.dialect).previewQuery = some query
  refers : RefersToGuess tools.digit query bind

section Executes

variable {env : (q : Request) → World adapter Γ → q.Answer → World adapter Γ → Prop}
  {tools : Tools} {opts : ProxyOptions} {message : Message} {bind : BindMessage}
  {sqlTemplate query : String} {start w : World adapter Γ}

theorem GuessedExecute.query_ne_empty {state : ConnectionState}
    (guess : GuessedExecute tools opts state message bind sqlTemplate query) : query ≠ "" := by
  rintro rfl
  obtain ⟨digits, -, -, -, inside, -⟩ := guess.refers
  cases inside

theorem GuessedExecute.literalPreview {state : ConnectionState}
    (guess : GuessedExecute tools opts state message bind sqlTemplate query) :
    literalPreview tools (classify tools.glot sqlTemplate opts.dialect) bind =
      (substituteParams tools.digit query (decodedParameters bind)).map some := by
  unfold Postgres.literalPreview
  rw [guess.preview]
  exact if_neg guess.query_ne_empty

theorem GuessedExecute.allow_iff {state : ConnectionState}
    (guess : GuessedExecute tools opts state message bind sqlTemplate query)
    (strict : opts.policyConfig.estimationFailureAction ≠ .allow)
    (estimated : Option Int × Option String) :
    (evaluatePolicy (classify tools.glot sqlTemplate opts.dialect) estimated.1 estimated.2
        opts.policyConfig).action = .allow ↔
      truthyText estimated.2 = false ∧ ∃ count, estimated.1 = some count ∧
        count ≤ opts.policyConfig.autoAllowMaxRows :=
  Postgres.allow_iff (classify_filtered guess.filtered).1 (classify_filtered guess.filtered).2
    guess.filtered strict

theorem wp_decideExecute_unallowed (leaves : LeavesTrace env)
    (strict : opts.policyConfig.estimationFailureAction ≠ .allow)
    (guess : GuessedExecute tools opts w.session.state message bind sqlTemplate query)
    (high : ¬ CountedLow env tools opts bind sqlTemplate query w) :
    Proc.wp (keeping (Traced w.trace Unallowed) env)
      (decideExecute tools opts message bind sqlTemplate)
      (fun _ _ s => Traced w.trace Unallowed s) (fun _ _ s => Traced w.trace Unallowed s)
      start w := by
  have guards := @guards_traced adapter Γ w.trace Unallowed env leaves
  have noted := @traced_record adapter Γ w.trace Unallowed (keeping (Traced w.trace Unallowed) env)
    (.classified sqlTemplate (classify tools.glot sqlTemplate opts.dialect)) (by rintro _ ⟨⟩)
    start w (traced_self Unallowed w)
  have risky : (classify tools.glot sqlTemplate opts.dialect).risk ≠ .safe := by
    rw [(classify_filtered guess.filtered).1]
    decide
  unfold decideExecute
  simp only [Proc.wp_bind, wp_classifySql, if_neg risky, guess.literalPreview]
  cases substituted : substituteParams tools.digit query (decodedParameters bind) with
  | error error => exact noted
  | ok result =>
      obtain ⟨literal, guessed⟩ := result
      simp only [Except.map, Proc.wp_ofExcept_ok, wp_connectionState]
      cases literal with
      | none =>
          refine wp_conclude guards ?_ noted
          rw [ne_eq, guess.allow_iff strict (none, some _)]
          rintro ⟨known, -⟩
          cases known
      | some literal =>
          have some_ := literalQuery_ne_empty guess.refers substituted
          simp only [estimateExecute, estimate, if_neg some_, Proc.wp_bind]
          refine ⟨noted, ?_⟩
          intro answer w' answered
          have later := guards.resumes _ _ _ _ noted answered
          cases answer with
          | ok rows =>
              refine wp_conclude guards ?_ later
              rw [ne_eq, guess.allow_iff strict (some rows, none)]
              rintro ⟨-, count, ⟨⟩, low⟩
              exact high ⟨literal, guessed, _, w', substituted, answered, low⟩
          | error exception =>
              refine wp_conclude guards ?_ later
              rw [ne_eq, guess.allow_iff strict (none, some _)]
              rintro ⟨-, count, known, -⟩
              cases known

/-- How the handler finds the statement that an Execute runs. -/
theorem boundText_some {state : ConnectionState}
    (bound : boundText state message = some (bind, sqlTemplate)) :
    ∃ execute, parseExecuteMessage message.payload = .ok execute ∧
      state.portals.lookup execute.portalName = some bind ∧
      state.preparedStatements.lookup bind.statementName = some sqlTemplate := by
  unfold boundText at bound
  split at bound
  · cases bound
  · next execute parsed =>
      split at bound
      · cases bound
      · next other portal =>
          obtain ⟨text, prepared, same⟩ := Option.map_eq_some_iff.mp bound
          cases same
          exact ⟨execute, parsed, portal, prepared⟩

/-- A mutation that is not counted low is never allowed unasked. -/
theorem notAllowed (leaves : LeavesTrace env)
    (strict : opts.policyConfig.estimationFailureAction ≠ .allow)
    (guess : GuessedExecute tools opts w.session.state message bind sqlTemplate query)
    (held : w.session.state.extendedErrorPending = true ∨
      ¬ CountedLow env tools opts bind sqlTemplate query w) :
    ¬ AllowedUnasked env tools opts message w := by
  have guards := @guards_traced adapter Γ w.trace Unallowed env leaves
  have kept : Proc.wp (keeping (Traced w.trace Unallowed) env)
      (handleFrontendMessage tools opts message) (fun _ _ s => Traced w.trace Unallowed s)
      (fun _ _ s => Traced w.trace Unallowed s) w w := by
    simp only [handleFrontendMessage, Proc.wp_bind, wp_connectionState]
    cases pending : w.session.state.extendedErrorPending with
    | true => exact traced_recover guards w w (traced_self Unallowed w)
    | false =>
        have high := held.resolve_left (by rw [pending]; decide)
        obtain ⟨execute, parsed, portal, prepared⟩ := boundText_some guess.bound
        have isExecute := guess.isExecute
        simp only [Bool.false_eq_true, if_false, Proc.wp_handle, routeMessage, isExecute,
          handleExecute, parsed, Proc.wp_bind, Proc.wp_ofExcept_ok, wp_connectionState, portal,
          prepared, Char.reduceEq, false_or, if_true]
        refine Proc.wp_mono (wp_decideExecute_unallowed leaves strict guess high) ?_ ?_
        · exact fun _ _ _ holds => holds
        · intro error start s holds
          cases error with
          | protocol reason =>
              exact keeps_bind keeps_connectionState (fun _ =>
                keeps_bind (traced_gap guards _ _ _ _ _) fun _ => keeps_pure _) start s holds
          | connectionLost => exact holds
          | failure exception => exact holds
  rintro ⟨outcome, w', events, decision, ran, recorded, decided, allowed, -⟩
  obtain ⟨others, recordedToo, unallowed⟩ := keeping_sound kept ran
  have same : events = others := List.append_cancel_left (recorded.symm.trans recordedToo)
  rw [same] at decided
  exact unallowed _ decided decision rfl allowed

/-! ### A statement that is allowed -/

theorem exec_writeAuditEvent (leaves : LeavesTrace env)
    (audited : ∀ event (w : World adapter Γ), ∃ answer w', env (.auditLog event) w answer w')
    (sql protocol : String) (classification : Classification) (decision : PolicyDecision)
    (finalDecision : FinalDecision) (estimatedRows : Option Int) (estimateError : Option String)
    (approximate : Bool) (database : String) (w : World adapter Γ) :
    ∃ w' events, Exec env (writeAuditEvent tools opts sql protocol classification decision
        finalDecision estimatedRows estimateError approximate database) w (.returned ()) w' ∧
      w'.trace = w.trace ++ events := by
  unfold writeAuditEvent
  split
  · obtain ⟨answer, w', answered⟩ := audited (buildAuditEvent tools sql protocol classification
      decision finalDecision estimatedRows estimateError approximate database)
      (w.log (.audited (buildAuditEvent tools sql protocol classification decision finalDecision
        estimatedRows estimateError approximate database)))
    exact ⟨w', _, .modify (.resumed answered .done), leaves _ _ _ _ answered⟩
  · exact ⟨w, [], .done, (List.append_nil _).symm⟩

theorem exec_evaluateAndDecide (leaves : LeavesTrace env)
    (audited : ∀ event (w : World adapter Γ), ∃ answer w', env (.auditLog event) w answer w')
    {protocol database : String} {classification : Classification}
    {estimatedRows : Option Int} {estimateError : Option String} {approximate : Bool}
    (allowed : (evaluatePolicy classification estimatedRows estimateError
      opts.policyConfig).action = .allow) (w : World adapter Γ) :
    ∃ decision w' events, decision.action = .allow ∧
      Exec env (evaluateAndDecide tools opts sqlTemplate protocol classification estimatedRows
        estimateError approximate database) w (.returned (true, decision)) w' ∧
      w'.trace = w.trace ++ .decided decision :: events := by
  obtain ⟨w', events, wrote, recorded⟩ := @exec_writeAuditEvent Γ env tools opts leaves audited
    (tools.sanitizeSql sqlTemplate 2048) protocol classification
    (evaluatePolicy classification estimatedRows estimateError opts.policyConfig) .allowed
    estimatedRows estimateError approximate database
    (w.log (.decided (evaluatePolicy classification estimatedRows estimateError
      opts.policyConfig)))
  refine ⟨_, w', events, allowed, ?_, ?_⟩
  · unfold evaluateAndDecide Runtime.settle
    simp only [allowed]
    exact exec_bind (.modify .done) (exec_bind .done (exec_bind wrote .done))
  · rw [recorded, World.log_trace, List.append_assoc]
    rfl

theorem exec_decideExecute (leaves : LeavesTrace env)
    (audited : ∀ event (w : World adapter Γ), ∃ answer w', env (.auditLog event) w answer w')
    (strict : opts.policyConfig.estimationFailureAction ≠ .allow)
    (guess : GuessedExecute tools opts w.session.state message bind sqlTemplate query)
    (low : CountedLow env tools opts bind sqlTemplate query w) :
    ∃ w' events decision, Exec env (decideExecute tools opts message bind sqlTemplate) w
        .suspended w' ∧ w'.trace = w.trace ++ events ∧ Event.decided decision ∈ events ∧
      decision.action = .allow ∧ Event.forwarded message message.raw ∈ events := by
  obtain ⟨literal, guessed, rows, counted, substituted, answered, low⟩ := low
  have some_ := literalQuery_ne_empty guess.refers substituted
  have risky : (classify tools.glot sqlTemplate opts.dialect).risk ≠ .safe := by
    rw [(classify_filtered guess.filtered).1]
    decide
  have allowed := (guess.allow_iff strict (some rows, none)).mpr ⟨rfl, rows, rfl, low⟩
  obtain ⟨decision, w', events, isAllow, decided, recorded⟩ :=
    @exec_evaluateAndDecide Γ env tools opts sqlTemplate leaves audited "extended"
      counted.session.state.database _ _ _ guessed allowed counted
  refine ⟨w'.log (.forwarded message message.raw), .classified sqlTemplate (classify tools.glot
    sqlTemplate opts.dialect) :: .decided decision :: (events ++ [.forwarded message message.raw]),
    decision, ?_, ?_, ?_, isAllow, ?_⟩
  · have estimated : Exec env (estimateExecute (classify tools.glot sqlTemplate opts.dialect)
        (some (some literal, guessed)) w.session.state.database)
        (w.log (.classified sqlTemplate (classify tools.glot sqlTemplate opts.dialect)))
        (.returned ((some rows, none), guessed)) counted := by
      simp only [estimateExecute, estimate, if_neg some_]
      exact exec_bind (exec_bind (.resumed answered .done) .done) .done
    unfold decideExecute
    refine exec_bind (.modify .done) ?_
    rw [if_neg risky, guess.literalPreview, substituted]
    refine exec_bind .done (exec_bind (exec_bind (.read .done) .done) (exec_bind estimated ?_))
    refine exec_bind (exec_bind (.read .done) .done) (exec_bind decided ?_)
    exact .modify .suspended
  · rw [World.log_trace, recorded, leaves _ _ _ _ answered, World.log_trace]
    simp
  · simp
  · simp

/-- A mutation that is counted low is allowed unasked. -/
theorem allowedUnasked (leaves : LeavesTrace env)
    (audited : ∀ event (w : World adapter Γ), ∃ answer w', env (.auditLog event) w answer w')
    (strict : opts.policyConfig.estimationFailureAction ≠ .allow)
    (guess : GuessedExecute tools opts w.session.state message bind sqlTemplate query)
    (outside : w.session.state.extendedErrorPending = false)
    (low : CountedLow env tools opts bind sqlTemplate query w) :
    AllowedUnasked env tools opts message w := by
  obtain ⟨w', events, decision, ran, recorded, decided, allowed, forwarded⟩ :=
    exec_decideExecute leaves audited strict guess low
  refine ⟨.suspended, w', events, decision, ?_, recorded, decided, allowed, forwarded⟩
  obtain ⟨execute, parsed, portal, prepared⟩ := boundText_some guess.bound
  have handled : Exec env (handleExecute tools opts message) w .suspended w' := by
    unfold handleExecute
    rw [parsed]
    refine exec_bind .done (exec_bind (exec_bind (.read .done) .done) ?_)
    simpa only [portal, prepared] using ran
  have isExecute := guess.isExecute
  have routed : Exec env (routeMessage tools opts message) w .suspended w' := by
    simpa only [routeMessage, isExecute, Char.reduceEq, false_or, if_false, if_true] using handled
  unfold handleFrontendMessage
  refine exec_bind (exec_bind (.read .done) .done) ?_
  rw [outside]
  exact exec_handle routed

end Executes

/--
A mutation whose preview rests on a guess is kept from being allowed unasked
exactly when the guess is not used, or is not counted low.
-/
theorem guesses_askedFor_iff
    {env : (q : Request) → World adapter Γ → q.Answer → World adapter Γ → Prop}
    (leaves : LeavesTrace env)
    (audited : ∀ event (w : World adapter Γ), ∃ answer w', env (.auditLog event) w answer w')
    {tools : Tools} {opts : ProxyOptions} {message : Message} {bind : BindMessage}
    {sqlTemplate query : String} {w : World adapter Γ}
    (strict : opts.policyConfig.estimationFailureAction ≠ .allow)
    (guess : GuessedExecute tools opts w.session.state message bind sqlTemplate query) :
    ¬ AllowedUnasked env tools opts message w ↔
      w.session.state.extendedErrorPending = true ∨
        ¬ CountedLow env tools opts bind sqlTemplate query w := by
  refine ⟨fun kept => ?_, notAllowed leaves strict guess⟩
  cases outside : w.session.state.extendedErrorPending with
  | true => exact .inl rfl
  | false => exact .inr fun low => kept (allowedUnasked leaves audited strict guess outside low)

/-! ### A price of type `float8` -/

/-- A parser library that reads every text as a `DELETE` with a `WHERE` clause. -/
def pricedTools : Tools :=
  { plainTools with
    glot := { plainTools.glot with
      parse := fun _ _ => .ok [some (Expression.build .delete [
        (.this, Expression.build .table []),
        (.whereArg, Expression.build .whereClause [(.this, Expression.build (.other "EQ") [])])])]
      sql := fun _ _ => "SELECT COUNT(*) FROM items WHERE price = $1" } }

/-- The number 9.99 in the binary format. -/
def price : Bytes := [0x40, 0x23, 0xFA, 0xE1, 0x47, 0xAE, 0x14, 0x7B]

def pricedBind : Message :=
  frame 'B' ([0, 0] ++ [0, 1, 0, 1] ++ [0, 1, 0, 0, 0, 8] ++ price ++ [0, 0])

/-- The statement has been parsed and the price bound. -/
def pricedConnection : PgWorld :=
  (handledAll pricedTools strictOptions (userAnswers true) (freshConnection [])
    [parseOf "" "DELETE FROM items WHERE price = $1", pricedBind]).2

def pricedMessage : BindMessage := ⟨"", "", [some price], [1], []⟩

theorem pricedConnection_reached :
    Reaches pricedTools strictOptions (freshConnection []) pricedConnection := by
  refine Reaches.refl.handledAll ?_ (userAnswers true) (by decide +kernel)
  intro message inside
  simp only [List.mem_cons, List.not_mem_nil, or_false] at inside
  rcases inside with rfl | rfl
  · exact framed_of_takes (by decide +kernel)
  · exact framed_of_takes (by decide +kernel)

theorem priced_guess : GuessedExecute pricedTools strictOptions pricedConnection.session.state
    (executeOf "") pricedMessage "DELETE FROM items WHERE price = $1"
    "SELECT COUNT(*) FROM items WHERE price = $1" where
  isExecute := rfl
  bound := by decide +kernel
  filtered := by decide +kernel
  preview := by decide +kernel
  refers := ⟨['1'], 0, some price, 1, by decide +kernel, by decide +kernel, by decide +kernel,
    .binary (by decide) (by decide +kernel)⟩

/-- The answers of a user, while nothing else happens. -/
def userAlone (q : Request) (w : PgWorld) (answer : q.Answer) (w' : PgWorld) : Prop :=
  answer = userAnswers true q ∧ w' = w

/-- Three rows are counted, and the user is asked. -/
theorem priced_askedFor :
    ¬ AllowedUnasked userAlone pricedTools strictOptions (executeOf "") pricedConnection := by
  have leaves : LeavesTrace userAlone := by
    rintro q w answer w' ⟨-, rfl⟩
    rfl
  refine (guesses_askedFor_iff leaves (fun event w => ⟨true, w, rfl, rfl⟩) (by decide)
    priced_guess).mpr (.inr ?_)
  rintro ⟨literal, guessed, rows, w', -, ⟨counted, -⟩, low⟩
  cases counted
  exact absurd low (by decide)

/-- Any answer may be given while nothing else happens. -/
def undisturbed (q : Request) (w : PgWorld) (_ : q.Answer) (w' : PgWorld) : Prop := w' = w

/-- The price is counted as a huge integer that no row has, and its rows are deleted unasked. -/
theorem price_allowedUnasked :
    Reaches pricedTools strictOptions (freshConnection []) pricedConnection ∧
      strictOptions.policyConfig.estimationFailureAction ≠ .allow ∧
      GuessedExecute pricedTools strictOptions pricedConnection.session.state (executeOf "")
        pricedMessage "DELETE FROM items WHERE price = $1"
        "SELECT COUNT(*) FROM items WHERE price = $1" ∧
      AllowedUnasked undisturbed pricedTools strictOptions (executeOf "") pricedConnection := by
  have leaves : LeavesTrace undisturbed := by
    rintro q w answer w' rfl
    rfl
  refine ⟨pricedConnection_reached, by decide, priced_guess, ?_⟩
  refine allowedUnasked leaves (fun event w => ⟨true, w, rfl⟩) (by decide) priced_guess
    (by decide +kernel) ?_
  exact ⟨"SELECT COUNT(*) FROM items WHERE price = 4621813488089437307", true, 0, _,
    by decide +kernel, rfl, by decide⟩

end SqlSafetyProxy.Postgres
