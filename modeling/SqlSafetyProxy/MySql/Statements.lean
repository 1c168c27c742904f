import SqlSafetyProxy.MySql.Registry
import SqlSafetyProxy.MySql.Schemas

/-!
# Prepared statements

An execution is inspected as the text of the statement that the server will run,
with its parameters read as the server will read them.
-/

namespace SqlSafetyProxy.MySql

open SqlSafetyProxy.Policy SqlSafetyProxy.Wire SqlSafetyProxy.Runtime SqlSafetyProxy.Coroutine
open SqlSafetyProxy.Collections

variable {σ : Type}

/-! ## Reconstructions -/

/-- Every reconstruction in the dispatch of a message that was written is faithful. -/
structure Vouched (tools : Tools) (messages : List LogicalMessage) (answers : List (List Packet))
    (message : LogicalMessage) (events : List (Event adapter)) : Prop where
  inspected : (commandOf message).kind = .stmtExecute →
    ∃ statement decoded, reconstruction statement decoded ∈ events
  faithful : ∀ statement decoded, reconstruction statement decoded ∈ events →
    Catalog.Unprepared (messages.drop answers.length) ∧
      Faithful tools (Catalog.heard {} messages answers) message statement decoded

/-- What has been reconstructed for the message that is being handled is faithful. -/
def Considers (tools : Tools) (w : Link σ) : Prop :=
  ∀ message events statement decoded, Handles w message events →
    reconstruction statement decoded ∈ events →
    Catalog.Unprepared (inFlight w) ∧ Faithful tools (catalogOf w) message statement decoded

/-- Every message that has been written was received, and its dispatch is vouched for. -/
def Vouches (tools : Tools) (w : Link σ) : Prop :=
  ∀ earlier message after, w.trace = earlier ++ writeOf message :: after →
    ∃ before events, earlier = before ++ .noted (.received message) :: events ∧
      (∀ event ∈ events, Undecided event) ∧
      Vouched tools (written before) w.peer.answered message events

section Reconstructions

variable {tools : Tools} {w w' : Link σ} {event : Event adapter}

theorem Considers.of_same (considers : Considers tools w) (trace : w'.trace = w.trace)
    (answered : w'.peer.answered = w.peer.answered) : Considers tools w' := by
  have flight : inFlight w' = inFlight w := by rw [inFlight, inFlight, trace, answered]
  have catalog : catalogOf w' = catalogOf w := catalogOf_of_same (by rw [trace]) answered
  intro message events statement decoded handles inside
  rw [flight, catalog]
  exact considers message events statement decoded (handles.of_trace trace.symm) inside

/-- After an event that ends the handling of a message nothing is considered. -/
theorem considers_closing (trace : w'.trace = w.trace ++ [event]) (decided : ¬ Undecided event)
    (other : ∀ message, event ≠ .noted (.received message)) : Considers tools w' := by
  intro message events statement decoded handles _
  have logged : Handles (w.log event) message events := handles.of_trace trace.symm
  exact absurd logged (not_handles_log decided (other message))

theorem considers_receives (message : LogicalMessage) : Considers tools (receive w message) := by
  intro other events statement decoded handles inside
  rcases handles.log_inv with rfl | ⟨earlier, rfl, -⟩
  · cases inside
  · have undecided := handles.2 (.noted (.received message)) (by simp)
    exact absurd ⟨message, rfl⟩ (not_arrival_undecided undecided)

theorem Considers.records (considers : Considers tools w) (isDecision : event.IsDecision) :
    Considers tools (w.log event) := by
  have unwritten := written_decision isDecision
  have catalog : catalogOf (w.log event) = catalogOf w := by
    refine catalogOf_of_same ?_ rfl
    rw [World.log_trace, written_append, unwritten, List.append_nil]
  intro message events statement decoded handles inside
  rcases handles.log_inv with rfl | ⟨earlier, rfl, handled⟩
  · cases inside
  · rw [inFlight_log unwritten, catalog]
    rcases List.mem_append.mp inside with early | last
    · exact considers message earlier statement decoded handled early
    · rw [← List.mem_singleton.mp last] at isDecision
      exact isDecision.elim

/-- A statement is named that is the server's. -/
theorem Names.target {state : SessionState} {catalog : Catalog} {payload : Bytes}
    {execution : StmtExecute} {statement : PreparedStatement} {spared : Nat → Prop}
    (tallies : Tallies spared catalog state) (parsed : parseStmtExecute payload = .ok execution)
    (names : Names state execution.statementId statement) :
    catalog.target payload = some statement.statementId ∧
      state.preparedStatements.lookup statement.statementId = some statement := by
  obtain ⟨-, same⟩ := Course.parseStmtExecute_statementId parsed
  rw [Catalog.target, same]
  unfold Names at names
  split at names
  · next isLast =>
    obtain ⟨last, known, found⟩ := names
    obtain ⟨-, -, sameId, -⟩ := tallies.mirrors last statement found
    rw [if_pos isLast, sameId]
    exact ⟨tallies.last last known, found⟩
  · next other =>
    obtain ⟨-, -, sameId, -⟩ := tallies.mirrors _ statement names
    rw [if_neg other, sameId]
    exact ⟨rfl, names⟩

theorem parseStmtExecute_payload {payload : Bytes} {execution : StmtExecute}
    (parsed : parseStmtExecute payload = .ok execution) :
    execution.parameterPayload = payload.drop 9 := by
  unfold parseStmtExecute at parsed
  split at parsed
  · cases parsed
    rfl
  · cases parsed

/-- Parameters that are read without types from before are read the same with any. -/
theorem payloadFormat_untyped {previousTypes : Option (List ParameterType)} {count : Nat}
    {payload : Bytes} {decoded : StmtExecuteParameters}
    (format : PayloadFormat tools none count payload decoded) :
    PayloadFormat tools previousTypes count payload decoded := by
  cases format with
  | none => exact .none
  | some positive bitmap unset long types values =>
      refine .some positive bitmap unset long ?_ values
      cases types with
      | sent => exact .sent _
      | stored none => cases none

/-- What is resolved while the registry is current is faithful. -/
theorem Current.resolves {message : LogicalMessage} {execution : StmtExecute}
    {statement : PreparedStatement} {decoded : StmtExecuteParameters} (current : Current w)
    (handles : Handles w message [])
    (resolves : Resolves tools (commandOf message) (stateOf w) execution statement decoded) :
    Faithful tools (catalogOf w) message statement decoded := by
  obtain ⟨target, found⟩ := Names.target current.tallies resolves.parsed resolves.names
  obtain ⟨known, isKnown, -, renders, types⟩ := current.tallies.mirrors _ statement found
  have kept := types.resolve_left (not_executing_of_handles handles _)
  obtain ⟨-, -, format⟩ := parseStmtExecuteParameters_ok_iff.mp resolves.reads
  rw [parseStmtExecute_payload resolves.parsed, renders.count] at format
  have reads : PayloadFormat tools known.parameterTypes known.parameterCount
      ((commandOf message).payload.drop 9) decoded := by
    rcases kept with none | same
    · rw [none] at format
      exact payloadFormat_untyped format
    · rwa [same] at format
  exact ⟨resolves.kind, target, known, isKnown, renders, bound_of_format reads, reads⟩

theorem Vouches.of_same (vouches : Vouches tools w) (trace : w'.trace = w.trace)
    (answered : w'.peer.answered = w.peer.answered) : Vouches tools w' := by
  intro earlier message after split
  rw [answered]
  exact vouches earlier message after (trace.symm.trans split)

/-- What precedes the last event of a trace. -/
theorem split_snoc {trace earlier after : List (Event adapter)} {message : LogicalMessage}
    (split : trace ++ [event] = earlier ++ writeOf message :: after) :
    (event = writeOf message ∧ trace = earlier) ∨
      ∃ rest, trace = earlier ++ writeOf message :: rest := by
  rcases List.eq_nil_or_concat after with rfl | ⟨rest, last, rfl⟩
  · exact .inl ⟨(List.cons.inj (List.append_inj_right' split rfl)).1,
      List.append_inj_left' split rfl⟩
  · have same : trace ++ [event] = (earlier ++ writeOf message :: rest) ++ [last] := by
      rw [split, List.concat_eq_append, List.append_assoc, List.cons_append]
    exact .inr ⟨rest, List.append_inj_left' same rfl⟩

theorem Vouches.notes (vouches : Vouches tools w) (trace : w'.trace = w.trace ++ [event])
    (answered : w'.peer.answered = w.peer.answered)
    (other : ∀ message, event ≠ writeOf message) : Vouches tools w' := by
  intro earlier message after split
  rw [answered]
  rcases split_snoc (trace.symm.trans split) with ⟨isWrite, -⟩ | ⟨rest, same⟩
  · exact absurd isWrite (other message)
  · exact vouches earlier message rest same

/-- A message is written after what has been reconstructed for it. -/
theorem Vouches.writes {message : LogicalMessage} {events : List (Event adapter)}
    (vouches : Vouches tools w) (considers : Considers tools w)
    (handles : Handles w message events) (trace : w'.trace = w.trace ++ [writeOf message])
    (answered : w'.peer.answered = w.peer.answered)
    (inspected : (commandOf message).kind = .stmtExecute →
      ∃ statement decoded, reconstruction statement decoded ∈ events) : Vouches tools w' := by
  intro earlier other after split
  rw [answered]
  rcases split_snoc (trace.symm.trans split) with ⟨isWrite, rfl⟩ | ⟨rest, same⟩
  · obtain rfl : message = other := by
      cases isWrite
      rfl
    obtain ⟨⟨before, received⟩, all⟩ := handles
    refine ⟨before, events, received, all, inspected, fun statement decoded inside => ?_⟩
    have faithful := considers message events statement decoded ⟨⟨before, received⟩, all⟩ inside
    rwa [inFlight, catalogOf, received, written_handled before all] at faithful
  · exact vouches earlier other rest same

/-- An execution that has been written has bound its types at the server. -/
theorem Vouches.binds {message : LogicalMessage} {events : List (Event adapter)}
    {statement : PreparedStatement} {decoded : StmtExecuteParameters}
    (vouches : Vouches tools w) (wrote : Wrote w message events)
    (inside : reconstruction statement decoded ∈ events) :
    (commandOf message).kind = .stmtExecute ∧
      (∃ known, (catalogOf w).statements.lookup statement.statementId = some known ∧
        known.parameterTypes = some decoded.parameterTypes) ∧
      ∀ other others, reconstruction other others ∈ events →
        other.statementId = statement.statementId := by
  obtain ⟨⟨before, trace⟩, all⟩ := wrote
  have split : w.trace = (before ++ .noted (.received message) :: events) ++ [writeOf message] := by
    rw [trace, List.append_assoc, List.cons_append]
  obtain ⟨before', events', same, all', vouched⟩ := vouches _ message [] split
  obtain ⟨rfl, -, rfl⟩ := split_unique IsArrival same ⟨_, rfl⟩ ⟨_, rfl⟩
    (fun event inside => not_arrival_undecided (all event inside))
    (fun event inside => not_arrival_undecided (all' event inside))
  obtain ⟨-, faithful⟩ := vouched.faithful statement decoded inside
  obtain ⟨known, isKnown, -, bound, -⟩ := faithful.known
  refine ⟨faithful.kind,
    ⟨{ known with parameterTypes := some decoded.parameterTypes }, ?_, rfl⟩, ?_⟩
  · have messages : written w.trace = written before ++ [message] := by
      rw [split, written_append, written_handled before all]
      rfl
    rw [catalogOf, messages, Catalog.heard_snoc, Catalog.after_execute faithful.kind,
      Catalog.executed_eq faithful.target isKnown, bound]
    exact AList.lookup_insert _
  · intro other others present
    have same := (vouched.faithful other others present).2.target
    rw [faithful.target] at same
    exact (Option.some.inj same).symm

end Reconstructions

/-! ## Every act -/

section Acts

variable {scene : Scene σ} {w w' : Link σ}

/-- When a dispatch returns, the types of its execution have been registered. -/
theorem Closes.files {forwarded : Bool} (strict : scene.opts.failSafeMode ≠ .permissive)
    (vouches : Vouches scene.tools w) (closes : Closes scene.opts w forwarded)
    (current : Current w) : Tallies (fun _ => False) (catalogOf w) (stateOf w) := by
  have tallies := current.tallies
  cases closes with
  | refused trace =>
      exact tallies.mono (not_executing_of_last trace (by rintro message ⟨⟩))
  | @written message events wrote filed =>
      refine ⟨tallies.none, ?_, tallies.last⟩
      intro statementId statement found
      obtain ⟨known, isKnown, same, renders, types⟩ := tallies.mirrors statementId statement found
      refine ⟨known, isKnown, same, renders, .inr ?_⟩
      rcases types with ⟨other, others, executed, decoded, wrote', inside, rfl⟩ | types
      · obtain ⟨rfl, rfl⟩ := wrote.unique wrote'
        obtain ⟨kind, -, names⟩ := vouches.binds wrote inside
        rcases filed with (other | permissive) |
          ⟨filed, filedAs, stored, present, isStored, isTyped⟩
        · exact absurd kind other
        · exact absurd permissive strict
        · obtain ⟨-, ⟨bound, isBound, binds⟩, -⟩ := vouches.binds wrote present
          rw [names filed filedAs present] at isStored isBound
          rw [found] at isStored
          rw [isKnown] at isBound
          cases isStored
          cases isBound
          exact .inr (isTyped.trans binds.symm)
      · exact types

theorem Reflects.stores {statementId : Nat} {statement : PreparedStatement} {o : Outlook}
    (reflects : Reflects o w) (executing : Executing w statementId)
    (retypes : Retypes (stateOf w) statementId statement) :
    Reflects o (withState w ((stateOf w).storeStatement statementId statement)) := by
  cases reflects with
  | lost lost => exact .lost (lost.of_trace rfl)
  | asking asking => exact absurd executing (asking.unexecuted statementId)
  | answering answering => exact absurd executing (answering.unexecuted statementId)
  | ending ending => exact absurd executing (ending.unexecuted statementId)
  | stuck stuck =>
      exact .stuck ⟨(sameTraffic_withState _).jammed stuck.jammed, stuck.waits.prepare,
        stuck.waits.event⟩
  | current current =>
      obtain ⟨old, found, isRetyped⟩ := retypes
      refine .current ⟨current.due, current.unprepared, current.tallies.none, ?_,
        current.tallies.last⟩
      rw [isRetyped]
      exact current.tallies.mirrors.stores found executing _ _

/-- A query or an execution is written once it has been inspected. -/
theorem Reflects.writes {message : LogicalMessage} {events : List (Event adapter)}
    (strict : scene.opts.failSafeMode ≠ .permissive) (stands : Stands scene.toOutlook w)
    (reflects : Reflects scene.toOutlook w) (considers : Considers scene.tools w)
    (handles : Handles w message events) (inspecting : Inspecting scene.toOutlook w)
    (approved : Approved scene.tools scene.opts (commandOf message) events ∨
      scene.opts.failSafeMode = .permissive) :
    Reflects scene.toOutlook (w.log (writeOf message)) := by
  rcases reflects.of_inspecting inspecting with lost | current | stuck
  · exact .lost (lost.log _)
  · have isApproved := approved.resolve_right strict
    cases isApproved with
    | query kind _ _ =>
        have retains : Retains (stateOf w) (stateOf w) := .of_same rfl rfl rfl
        exact .current (current.writes stands.sane handles
          (idle_of_kind kind (by decide) (by decide) (by decide)) retains)
    | execution kind _ _ =>
        obtain ⟨-, faithful⟩ := considers message _ _ _ handles List.mem_cons_self
        exact .current (current.executes stands.sane handles List.mem_cons_self faithful)
  · exact .stuck ⟨stuck.jammed.writes message (stateOf w), stuck.waits⟩

/-- Every act of the client task leaves the registry as far as it has followed the server. -/
theorem ClientAct.reflects (strict : scene.opts.failSafeMode ≠ .permissive)
    (tracked : ¬ scene.lenient) (stands : Stands scene.toOutlook w) (isSealed : Sealed w)
    (reflects : Reflects scene.toOutlook w) (considers : Considers scene.tools w)
    (vouches : Vouches scene.tools w) (act : ClientAct scene w w') :
    Reflects scene.toOutlook w' := by
  cases act with
  | receives _ unoccupied =>
      exact reflects.notes (sameTraffic_log rfl) rfl rfl rfl fun current =>
        current.tallies.mono (not_executing_of_unoccupied unoccupied)
  | records handles isDecision =>
      have unwritten := written_decision isDecision
      exact reflects.notes (sameTraffic_log unwritten) rfl unwritten rfl fun current =>
        current.tallies.mono (not_executing_of_handles handles)
  | resolves handles _ =>
      exact reflects.notes (sameTraffic_log rfl) rfl rfl rfl fun current =>
        current.tallies.mono (not_executing_of_handles handles)
  | refuses handles _ =>
      exact reflects.notes (sameTraffic_refusal _ _ _) rfl rfl rfl fun current =>
        current.tallies.mono (not_executing_of_handles handles)
  | returns forwarded closes =>
      exact reflects.notes (sameTraffic_log rfl) rfl rfl rfl (closes.files strict vouches)
  | begins kind _ free =>
      rcases reflects.of_free free with lost | current
      · exact .lost (lost.of_trace rfl)
      · exact .current (current.retains (.of_same rfl rfl rfl))
  | forgets inspecting =>
      rcases reflects.of_inspecting inspecting with lost | current | stuck
      · exact .lost (lost.of_trace rfl)
      · exact .current (current.retains (.of_same rfl rfl rfl))
      · exact .stuck ⟨(sameTraffic_withState _).jammed stuck.jammed, stuck.waits.prepare,
          stuck.waits.event⟩
  | writes handles inspecting _ approved =>
      exact reflects.writes strict stands considers handles inspecting approved
  | opens handles _ opens =>
      exact reflects.opens tracked stands (isSealed.present handles) handles opens
  | passes _ permissive _ _ => exact absurd permissive strict
  | stores _ retypes executing => exact reflects.stores (executing.resolve_left strict) retypes
  | loses error _ =>
      exact .lost ⟨error, List.mem_append_right _ (List.mem_singleton.mpr rfl)⟩

/-- No execution is looked up while a prepare is under way. -/
theorem Reflects.resolves {message : LogicalMessage} {execution : StmtExecute}
    {statement : PreparedStatement} {decoded : StmtExecuteParameters} {tools : Tools}
    {o : Outlook} (reflects : Reflects o w) (present : ¬ Lost w)
    (resolves : Resolves tools (commandOf message) (stateOf w) execution statement decoded) :
    Current w := by
  have other : ¬ Waits (stateOf w) := by
    intro waits
    rcases resolves.ready with free | ended
    · exact waits.not_free free
    · rw [waits.event] at ended
      cases ended
  cases reflects with
  | lost lost => exact absurd lost present
  | current current => exact current
  | asking asking => exact absurd asking.waits other
  | answering answering => exact absurd answering.reports.waits other
  | ending ending => exact absurd ending.waits other
  | stuck stuck => exact absurd stuck.waits other

theorem ClientAct.considers (isSealed : Sealed w) (reflects : Reflects scene.toOutlook w)
    (considers : Considers scene.tools w) (act : ClientAct scene w w') :
    Considers scene.tools w' := by
  cases act with
  | receives _ _ => exact considers_receives _
  | records _ isDecision => exact considers.records isDecision
  | @resolves message execution statement decoded handles resolves =>
      have current := reflects.resolves (isSealed.present handles) resolves
      intro other events known read handled inside
      rcases handled.log_inv with rfl | ⟨earlier, rfl, before⟩
      · cases inside
      · obtain ⟨rfl, rfl⟩ := handles.unique before
        cases List.mem_singleton.mp inside
        have flight : inFlight (w.log (reconstruction statement decoded)) = inFlight w :=
          inFlight_log rfl
        have catalog : catalogOf (w.log (reconstruction statement decoded)) = catalogOf w := by
          refine catalogOf_of_same ?_ rfl
          simp [written]
        rw [flight, catalog]
        exact ⟨current.unprepared, current.resolves handles resolves⟩
  | begins _ _ _ => exact considers.of_same rfl rfl
  | forgets _ => exact considers.of_same rfl rfl
  | stores _ _ _ => exact considers.of_same rfl rfl
  | writes _ _ _ _ => exact considers_closing rfl id (by rintro message ⟨⟩)
  | opens _ _ _ => exact considers_closing (w := w) rfl id (by rintro message ⟨⟩)
  | passes _ _ _ _ => exact considers_closing rfl id (by rintro message ⟨⟩)
  | refuses _ _ => exact considers_closing (w := w) rfl id (by rintro message ⟨⟩)
  | returns _ _ => exact considers_closing rfl id (by rintro message ⟨⟩)
  | loses _ _ => exact considers_closing (w := w) rfl id (by rintro message ⟨⟩)

theorem ClientAct.vouches (strict : scene.opts.failSafeMode ≠ .permissive)
    (considers : Considers scene.tools w) (vouches : Vouches scene.tools w)
    (act : ClientAct scene w w') : Vouches scene.tools w' := by
  cases act with
  | receives _ _ => exact vouches.notes rfl rfl (by rintro message ⟨⟩)
  | records _ isDecision =>
      refine vouches.notes rfl rfl ?_
      rintro message rfl
      exact isDecision
  | resolves _ _ => exact vouches.notes rfl rfl (by rintro message ⟨⟩)
  | refuses _ _ => exact vouches.notes rfl rfl (by rintro message ⟨⟩)
  | returns _ _ => exact vouches.notes rfl rfl (by rintro message ⟨⟩)
  | loses _ _ => exact vouches.notes rfl rfl (by rintro message ⟨⟩)
  | begins _ _ _ => exact vouches.of_same rfl rfl
  | forgets _ => exact vouches.of_same rfl rfl
  | stores _ _ _ => exact vouches.of_same rfl rfl
  | passes _ permissive _ _ => exact absurd permissive strict
  | opens handles _ opens =>
      exact vouches.writes considers handles rfl rfl fun kind =>
        absurd kind (Course.opens_kind opens)
  | writes handles _ _ approved =>
      refine vouches.writes considers handles rfl rfl fun kind => ?_
      have isApproved := approved.resolve_right strict
      cases isApproved with
      | query other _ _ =>
          rw [kind] at other
          cases other
      | execution _ _ _ => exact ⟨_, _, List.mem_cons_self⟩

/-- The server's answers change nothing about what has been inspected. -/
theorem Hears.considers (considers : Considers scene.tools w) (hears : Hears scene.server w w') :
    Considers scene.tools w' := by
  obtain ⟨next, replies⟩ := hears
  intro message events statement decoded handles inside
  obtain ⟨unprepared, faithful⟩ :=
    considers message events statement decoded (handles.of_trace rfl) inside
  rw [inFlight_hear next, catalogOf_hear_unprepared unprepared]
  exact ⟨unprepared_tail next unprepared, faithful⟩

theorem Hears.vouches (vouches : Vouches scene.tools w) (hears : Hears scene.server w w') :
    Vouches scene.tools w' := by
  obtain ⟨next, replies⟩ := hears
  next packets later =>
  intro earlier message after split
  obtain ⟨before, events, received, all, vouched⟩ := vouches earlier message after split
  have answered : (hear w packets later).peer.answered = w.peer.answered ++ [packets] := rfl
  refine ⟨before, events, received, all, vouched.inspected, fun statement decoded inside => ?_⟩
  obtain ⟨unprepared, faithful⟩ := vouched.faithful statement decoded inside
  rw [answered, Catalog.heard_answered unprepared]
  refine ⟨?_, faithful⟩
  intro other present
  rw [List.length_append, ← List.drop_drop] at present
  exact unprepared other (List.mem_of_mem_drop present)

/-- The registry follows the server, and every execution is inspected as what it is. -/
structure Accounts (scene : Scene σ) (w : Link σ) : Prop where
  isSealed : Sealed w
  reflects : Reflects scene.toOutlook w
  considers : Considers scene.tools w
  vouches : Vouches scene.tools w

/-- What the connection has to account for does not depend on when its messages arrive. -/
theorem accounts_heeded : Accounts scene.heeded w ↔ Accounts scene w :=
  ⟨fun accounts => ⟨accounts.isSealed, accounts.reflects, accounts.considers, accounts.vouches⟩,
    fun accounts => ⟨accounts.isSealed, accounts.reflects, accounts.considers, accounts.vouches⟩⟩

theorem ClientAct.accounts (strict : scene.heeded.opts.failSafeMode ≠ .permissive)
    (tracked : ¬ scene.heeded.lenient) (stands : Stands scene.heeded.toOutlook w)
    (accounts : Accounts scene.heeded w) (act : ClientAct scene.heeded w w') :
    Accounts scene.heeded w' :=
  ⟨act.sealed accounts.isSealed,
    act.reflects strict tracked stands accounts.isSealed accounts.reflects accounts.considers
      accounts.vouches,
    act.considers accounts.isSealed accounts.reflects accounts.considers,
    act.vouches strict accounts.considers accounts.vouches⟩

theorem accounts_clientActs (strict : scene.opts.failSafeMode ≠ .permissive)
    (tracked : ¬ scene.lenient) (stands : Stands scene.toOutlook w) (accounts : Accounts scene w)
    (acts : Relation.ReflTransGen (ClientAct scene.heeded) w w') : Accounts scene w' := by
  rw [← accounts_heeded] at accounts ⊢
  induction acts with
  | refl => exact accounts
  | tail acts act ih => exact act.accounts strict tracked (stands_clientActs stands acts) ih

theorem accounts_backendActs (stands : Stands scene.toOutlook w) (accounts : Accounts scene w)
    (acts : Relation.ReflTransGen (BackendAct scene.toOutlook) w w') : Accounts scene w' := by
  induction acts with
  | refl => exact accounts
  | tail acts act ih =>
      have stands : Stands scene.toOutlook _ := stands_backendActs stands acts
      have same : ∀ {w w' : Link σ}, BackendAct scene.toOutlook w w' →
          w'.trace = w.trace ∧ w'.peer.answered = w.peer.answered := by
        intro w w' act
        cases act <;> exact ⟨rfl, rfl⟩
      obtain ⟨trace, answered⟩ := same act
      exact ⟨ih.isSealed.of_trace trace, act.reflects stands ih.reflects,
        ih.considers.of_same trace answered, ih.vouches.of_same trace answered⟩

theorem Hears.accounts (stands : Stands scene.toOutlook w) (accounts : Accounts scene w)
    (hears : Hears scene.server w w') : Accounts scene w' :=
  ⟨accounts.isSealed.of_trace hears.keeps.2.1, hears.reflects stands.sane accounts.reflects,
    hears.considers accounts.considers, hears.vouches accounts.vouches⟩

end Acts

/-! ## Every run -/

/-- A client of a proxy that lets nothing through uninspected, and its server. -/
structure PreparingClient (σ : Type) where
  flags : Nat
  tools : Tools
  opts : ProxyOptions
  server : Server flags σ
  sends : Link σ → LogicalMessage → Prop
  strict : opts.failSafeMode ≠ .permissive

def PreparingClient.scene (client : PreparingClient σ) : Scene σ where
  flags := client.flags
  cursors := True
  lenient := False
  tools := client.tools
  opts := client.opts
  server := client.server
  sends := client.sends
  lenient_of permissive := client.strict permissive
  timely _ := .inl id
  plain _ none := absurd trivial none

section Runs

variable {client : PreparingClient σ} {w : Link σ}

/-- A connection on which nothing is under way and nothing has been prepared. -/
structure Blank (client : PreparingClient σ) (w : Link σ) : Prop where
  fresh : Fresh client.scene.toOutlook w
  statements : (stateOf w).preparedStatements = ∅
  last : (stateOf w).lastPreparedStatementId = none

theorem Knows.blank {opens : HandshakeResponse → σ → Prop} {response : HandshakeResponse}
    {relay : RelayState} {state : σ} (knows : Knows opens response relay state)
    (flags : response.capabilityFlags = client.flags) : Blank client (entered relay state) where
  fresh := knows.fresh (knows.capabilities.trans flags)
  statements := congrArg (fun usage => usage.2.1) knows.unused
  last := congrArg (fun usage => usage.2.2) knows.unused

theorem Blank.accounts (blank : Blank client w) : Accounts client.scene w := by
  have trace := blank.fresh.trace
  have flight : inFlight w = [] := by rw [inFlight, trace]; exact List.drop_nil
  have tallies : Tallies (Executing w) (catalogOf w) (stateOf w) := by
    refine ⟨(hasPending_eq_false.mp blank.fresh.free).2.1, ?_, ?_⟩
    · intro statementId statement found
      rw [blank.statements, AList.lookup_empty] at found
      cases found
    · intro statementId isLast
      rw [blank.last] at isLast
      cases isLast
  refine ⟨?_, .current ⟨blank.fresh.due, ?_, tallies⟩, ?_, ?_⟩
  · rintro ⟨error, inside⟩
    rw [trace] at inside
    cases inside
  · rw [flight]
    intro message inside
    cases inside
  · rintro message events statement decoded ⟨⟨before, split⟩, -⟩
    rw [trace] at split
    simp at split
  · intro earlier message after split
    rw [trace] at split
    simp at split

theorem accounts_of_heeded (blank : Blank client w)
    {c : Config awaits (Link σ) Exn Side}
    (run : client.scene.heeded.system.Run anyTurn (Config.idle w) c) :
    Accounts client.scene c.shared := by
  induction run with
  | refl => exact blank.accounts
  | @step c c' who run turn _ ih =>
      have holds : (promises client.scene.heeded).Holds (leaves client.scene.heeded) c :=
        holds_of_turns blank.fresh run
      cases who with
      | none =>
          cases turn with
          | environment moved => exact Hears.accounts holds.1 ih moved
      | some side =>
          have acts := Promises.guarantee_of_step_resting
            (fun side _ _ _ stands left started => completes_start side stands left started)
            holds turn
          cases side with
          | client => exact accounts_clientActs client.strict id holds.1 ih acts
          | backend => exact accounts_backendActs holds.1 ih acts

/--
In every run of the commands of a session, each message that has been written was
received, and its dispatch is vouched for: an execution has been reconstructed, no
prepare was still to be answered when it was written, and whatever was
reconstructed is the statement that the server runs for it, with the number of
parameters and the types by which the server reads them.
-/
theorem executions_faithful (client : PreparingClient σ) {opens : HandshakeResponse → σ → Prop}
    {response : HandshakeResponse} {relay : RelayState} {state : σ}
    (begun : Begun client.tools client.opts opens response relay state)
    (flags : response.capabilityFlags = client.flags)
    {c : Config awaits (Link σ) Exn Side}
    (run : client.scene.system.Run anyTurn (Config.idle (entered relay state)) c)
    {earlier after : List (Event adapter)} {message : LogicalMessage}
    (trace : c.shared.trace = earlier ++ writeOf message :: after) :
    ∃ before events, earlier = before ++ .noted (.received message) :: events ∧
      (∀ event ∈ events, Undecided event) ∧
      Vouched client.tools (written before) c.shared.peer.answered message events := by
  have blank := begun.knows.blank flags
  have accounts := accounts_of_heeded blank (heeded_of_run blank.fresh run)
  exact accounts.vouches earlier message after trace

end Runs

/-! ### A statement with one parameter -/

/-- A server that gives any well-formed answers. -/
def formalServer (flags : Nat) : Server flags Bytes where
  replies _ message packets _ :=
    Responds flags (commandOf message).kind (packets.map Packet.payload) ∧
      ∀ packet ∈ packets, packet.payload.length < maxPacketPayload
  responds replies := replies.1
  short replies := replies.2

theorem strictOptions_strict : strictOptions.failSafeMode ≠ .permissive := by decide

/-- Any message may come at any time. -/
def formalClient : PreparingClient Bytes where
  flags := 0x8209
  tools := useTools
  opts := strictOptions
  server := formalServer 0x8209
  sends _ _ := True
  strict := strictOptions_strict

/-- The client has sent a message, and the user has approved it. -/
def sending (w : Link Bytes) (message : LogicalMessage) : Link Bytes :=
  ((clientTurn useTools strictOptions message).run (fun q s => (userAnswers true q, s))
    (receive w message)).2

/-- Nothing disturbs the sending, and no other message is under way. -/
def Sends (w : Link Bytes) (message : LogicalMessage) : Prop :=
  Proc.asksOnly (fun q : Request => decide (q ≠ .prepareEvent))
    (fun q s => (userAnswers true q, s)) (clientTurn useTools strictOptions message)
    (receive w message) = true ∧
  ((clientTurn useTools strictOptions message).run
    (fun q s => (userAnswers true q, s)) (receive w message)).1 = .ok () ∧
  inFlight (sending w message) = [message]

instance (w : Link Bytes) (message : LogicalMessage) : Decidable (Sends w message) :=
  inferInstanceAs (Decidable (_ ∧ _ ∧ _))

/-- A packet has been relayed. -/
def relayingNext (w : Link Bytes) (packet : Packet) : Link Bytes :=
  ((backendTurn packet).run (fun q s => (userAnswers true q, s)) (takeUp w packet)).2

/-- The packets have been relayed one after another. -/
def relayingEach : List Packet → Link Bytes → Link Bytes
  | [], w => w
  | packet :: rest, w => relayingEach rest (relayingNext w packet)

/-- Nothing disturbs the relaying. -/
def RelaysEach : List Packet → Link Bytes → Prop
  | [], _ => True
  | packet :: rest, w =>
      (unread w = packet :: rest ∧
        Proc.asksOnly (fun q : Request => decide (q ≠ .prepareEvent))
          (fun q s => (userAnswers true q, s)) (backendTurn packet) (takeUp w packet) = true ∧
        ((backendTurn packet).run (fun q s => (userAnswers true q, s))
          (takeUp w packet)).1 = .ok ()) ∧
      RelaysEach rest (relayingNext w packet)

def decidesRelaysEach : ∀ (packets : List Packet) (w : Link Bytes), Decidable (RelaysEach packets w)
  | [], _ => inferInstanceAs (Decidable True)
  | packet :: rest, w =>
      have := decidesRelaysEach rest (relayingNext w packet)
      inferInstanceAs (Decidable ((_ ∧ _ ∧ _) ∧ RelaysEach rest (relayingNext w packet)))

instance (packets : List Packet) (w : Link Bytes) : Decidable (RelaysEach packets w) :=
  decidesRelaysEach packets w

section Rests

variable {w₀ w : Link Bytes} {message : LogicalMessage} {packets : List Packet}

theorem rests_sending (rests : formalClient.scene.system.Rests w₀ w) (sends : Sends w message) :
    formalClient.scene.system.Rests w₀ (sending w message) :=
  rests.turn (userAnswers true) answers_others (i := .client) ⟨message, trivial, rfl, rfl⟩ sends.1
    sends.2.1

theorem rests_relayingEach (rests : formalClient.scene.system.Rests w₀ w)
    (relays : RelaysEach packets w) :
    formalClient.scene.system.Rests w₀ (relayingEach packets w) := by
  induction packets generalizing w with
  | nil => exact rests
  | cons packet rest ih =>
      obtain ⟨⟨next, asks, returned⟩, others⟩ := relays
      exact ih (rests.turn (userAnswers true) answers_others (i := .backend)
        ⟨packet, rest, next, rfl, rfl⟩ asks returned) others

/-- A message is sent and answered. -/
theorem rests_answered (rests : formalClient.scene.system.Rests w₀ w) (sends : Sends w message)
    (replies : (formalServer 0x8209).replies w.peer.server message packets w.peer.server)
    (relays : RelaysEach packets (hear (sending w message) packets w.peer.server))
    (same : (sending w message).peer.server = w.peer.server) :
    formalClient.scene.system.Rests w₀
      (relayingEach packets (hear (sending w message) packets w.peer.server)) := by
  have heard : Hears formalClient.server (sending w message)
      (hear (sending w message) packets w.peer.server) := by
    refine .mk sends.2.2 ?_
    rw [same]
    exact replies
  exact rests_relayingEach ((rests_sending rests sends).environment heard) relays

end Rests

def prepareSelect : LogicalMessage := messageOf (0x16 :: encodeUtf8 "SELECT ?")

def columnDefinition : Bytes := 0x03 :: encodeUtf8 "def"

def endOfDefinitions : Bytes := [0xFE, 0, 0, 2, 0]

/-- One column and one parameter. -/
def selectPrepared : List Packet :=
  [packetOf 1 [0, 1, 0, 0, 0, 1, 0, 1, 0, 0, 0, 0], packetOf 2 columnDefinition,
    packetOf 3 endOfDefinitions, packetOf 4 columnDefinition, packetOf 5 endOfDefinitions]

/-- The types are sent along. -/
def executeSelect : LogicalMessage :=
  messageOf ([0x17, 1, 0, 0, 0, 0, 1, 0, 0, 0] ++ [0, 1, 0x08, 0] ++ lePack 8 7)

def selectExecuted : List Packet :=
  [packetOf 1 [1], packetOf 2 columnDefinition, packetOf 3 endOfDefinitions,
    packetOf 4 ([0, 0] ++ lePack 8 7), packetOf 5 endOfDefinitions]

/-- The last statement is executed again, with the types bound before. -/
def executeLast : LogicalMessage :=
  messageOf ([0x17, 0xFF, 0xFF, 0xFF, 0xFF, 0, 1, 0, 0, 0] ++ [0, 0] ++ lePack 8 8)

def selectReady : Link Bytes :=
  relayingEach selectPrepared (hear (sending shopLink prepareSelect) selectPrepared
    shopLink.peer.server)

def selectRepeatable : Link Bytes :=
  relayingEach selectExecuted (hear (sending selectReady executeSelect) selectExecuted
    selectReady.peer.server)

theorem separator_endOfDefinitions : Separator 0x8209 [endOfDefinitions] := by
  have plain : hasFlag 0x8209 clientDeprecateEof = false := by decide
  unfold Separator
  rw [plain]
  exact ⟨2, _, .mk 0 0 2 0, rfl⟩

theorem definition_column : ∀ payload ∈ [columnDefinition], Definition payload := by
  intro payload inside
  rw [List.mem_singleton.mp inside]
  exact .mk _ (by decide)

theorem selectPrepared_replies (state : Bytes) :
    (formalServer 0x8209).replies state prepareSelect selectPrepared state := by
  have one : Definitions 0x8209 1 ([columnDefinition] ++ [endOfDefinitions]) :=
    .some (by decide) rfl definition_column separator_endOfDefinitions
  have metadata : PrepareMetadata 0x8209 ⟨1, 1, 1⟩ (([columnDefinition] ++ [endOfDefinitions]) ++
      ([columnDefinition] ++ [endOfDefinitions])) := .mk one one
  have kind : (commandOf prepareSelect).kind = .stmtPrepare := by decide +kernel
  refine ⟨?_, by decide +kernel⟩
  rw [kind]
  exact .ok (.mk 1 0 0 0 1 0 1 0 0 0 0 []) metadata

theorem selectExecuted_replies (state : Bytes) :
    (formalServer 0x8209).replies state executeSelect selectExecuted state := by
  have one : Lenenc 1 [1] := @Lenenc.one 1 (by decide)
  have header : Header 0x8209 1 true [1] := .plain (by decide) (by decide) one
  have rows : ∀ payload ∈ [[0, 0] ++ lePack 8 7], Row payload := by
    intro payload inside
    rw [List.mem_singleton.mp inside]
    exact .binary _
  have set : ResultSet 0x8209 ([1] :: ([columnDefinition] ++ ([endOfDefinitions] ++
      [[0, 0] ++ lePack 8 7]))) :=
    .mk header rfl definition_column separator_endOfDefinitions rows
  have last : Terminator 0x8209 2 endOfDefinitions := by
    have plain : hasFlag 0x8209 clientDeprecateEof = false := by decide
    unfold Terminator
    rw [plain]
    exact .mk 0 0 2 0
  have kind : (commandOf executeSelect).kind = .stmtExecute := by decide +kernel
  refine ⟨?_, by decide +kernel⟩
  rw [kind]
  exact .inl (.last (.rows set last))

theorem rests_selectRepeatable : formalClient.scene.system.Rests shopLink selectRepeatable := by
  have prepared : formalClient.scene.system.Rests shopLink selectReady :=
    rests_answered (.refl shopLink) (by decide +kernel) (selectPrepared_replies _)
      (by decide +kernel) (by decide +kernel)
  exact rests_answered prepared (by decide +kernel) (selectExecuted_replies _) (by decide +kernel)
    (by decide +kernel)

/-- The write of the message. -/
def writes (message : LogicalMessage) : Event adapter → Bool
  | .forwarded (.command other) raw => other = message ∧ raw = message.rawPackets
  | _ => false

/-- The position at which a message is written splits the trace. -/
theorem split_write {history : List (Event adapter)} {message : LogicalMessage} {n : Nat}
    (isWritten : history[n]?.any (writes message) = true) :
    history = history.take n ++ writeOf message :: history.drop (n + 1) := by
  obtain ⟨event, found, isWrite⟩ := (Option.any_eq_true _ _).mp isWritten
  have same : event = writeOf message := by
    cases event with
    | forwarded source raw =>
        cases source with
        | command other =>
            obtain ⟨rfl, rfl⟩ := of_decide_eq_true isWrite
            rfl
        | _ => cases isWrite
    | _ => cases isWrite
  obtain ⟨inside, isEvent⟩ := List.getElem?_eq_some_iff.mp found
  rw [← same, ← isEvent, ← List.drop_eq_getElem_cons inside, List.take_append_drop]

/-- The last statement is executed as the one with the identifier 1, by the types sent before. -/
theorem executeLast_faithful : ∃ (c : Config awaits (Link Bytes) Exn Side)
      (before events after : List (Event adapter)) (statement : PreparedStatement)
      (decoded : StmtExecuteParameters),
    formalClient.scene.system.Run anyTurn (Config.idle shopLink) c ∧
      c.shared.trace =
        (before ++ .noted (.received executeLast) :: events) ++ writeOf executeLast :: after ∧
      Vouched useTools (written before) c.shared.peer.answered executeLast events ∧
      reconstruction statement decoded ∈ events ∧ statement.statementId = 1 ∧
      decoded.parameterTypes = [⟨0x08, false⟩] := by
  have sends : Sends selectRepeatable executeLast := by decide +kernel
  obtain ⟨c, run, shared, -⟩ := rests_sending rests_selectRepeatable sends
  have isWritten : c.shared.trace[15]?.any (writes executeLast) = true := by
    rw [shared]
    decide +kernel
  have trace := split_write isWritten
  obtain ⟨before, events, received, all, vouched⟩ :=
    executions_faithful formalClient begun_shop rfl run trace
  have messages : written before = [prepareSelect, executeSelect] := by
    rw [← written_handled before all, ← received, shared]
    decide +kernel
  have answered : c.shared.peer.answered = [selectPrepared, selectExecuted] := by
    rw [shared]
    decide +kernel
  have kind : (commandOf executeLast).kind = .stmtExecute := by decide +kernel
  obtain ⟨statement, decoded, inside⟩ := vouched.inspected kind
  obtain ⟨-, faithful⟩ := vouched.faithful statement decoded inside
  rw [messages, answered] at faithful
  have target : (Catalog.heard {} [prepareSelect, executeSelect]
      [selectPrepared, selectExecuted]).target (commandOf executeLast).payload = some 1 := by
    decide +kernel
  have known : (Catalog.heard {} [prepareSelect, executeSelect]
      [selectPrepared, selectExecuted]).statements.lookup 1 =
        some ⟨encodeUtf8 "SELECT ?", 1, some [⟨0x08, false⟩]⟩ := by decide +kernel
  have same : statement.statementId = 1 :=
    Option.some.inj (faithful.target.symm.trans target)
  obtain ⟨found, isFound, -, bound, -⟩ := faithful.known
  rw [same, known] at isFound
  cases isFound
  have types : Statement.bound ⟨encodeUtf8 "SELECT ?", 1, some [⟨0x08, false⟩]⟩
      ((commandOf executeLast).payload.drop 9) = some [⟨0x08, false⟩] := by decide +kernel
  rw [received] at trace
  exact ⟨c, before, events, _, statement, decoded, run, trace, vouched, inside, same,
    Option.some.inj (bound.symm.trans types)⟩

end SqlSafetyProxy.MySql
