import SqlSafetyProxy.MySql.ParameterFormat
import SqlSafetyProxy.MySql.Server

/-!
# The statements of a server

What a server has prepared, as the conversation tells it: the commands that it
reads, and its answer to each.  A prepare counts when the whole of its answer is
without an error, an execution binds the types that it sends, and the last
statement is that of the last prepare, unless this one failed or the statement
has been closed.
-/

namespace SqlSafetyProxy.MySql

open SqlSafetyProxy.Wire SqlSafetyProxy.Runtime SqlSafetyProxy.Collections

/-! ## Statements -/

/-- A statement of the server: its text as it was sent, and the types bound last. -/
structure Statement where
  text : Bytes
  parameterCount : Nat
  parameterTypes : Option (List ParameterType) := none
  deriving DecidableEq

/-- Two bytes for each parameter. -/
def sentTypes : Nat → Bytes → List ParameterType
  | count + 1, typeCode :: flags :: rest =>
      ⟨typeCode, decide (0x80 ≤ flags.toNat)⟩ :: sentTypes count rest
  | _, _ => []

/-- The types by which an execution is read: those sent along, or those bound before. -/
def Statement.bound (statement : Statement) (parameterPayload : Bytes) :
    Option (List ParameterType) :=
  if statement.parameterCount = 0 then some []
  else match parameterPayload.drop ((statement.parameterCount + 7) / 8) with
  | [] => statement.parameterTypes
  | flag :: rest =>
      if flag = 1 then some (sentTypes statement.parameterCount rest)
      else statement.parameterTypes

theorem sentTypes_typeBytes (types : List ParameterType) (rest : Bytes) :
    sentTypes types.length (types.flatMap typeBytes ++ rest) = types := by
  induction types with
  | nil => rfl
  | cons metadata types ih =>
      obtain ⟨typeCode, unsigned⟩ := metadata
      have others : sentTypes types.length (types.flatMap typeBytes ++ rest) = types := ih
      cases unsigned <;> simp [typeBytes, sentTypes, others]

/-- The parameters of an execution are read by the types that it binds. -/
theorem bound_of_format {tools : Tools} {statement : Statement} {payload : Bytes}
    {decoded : StmtExecuteParameters}
    (format : PayloadFormat tools statement.parameterTypes statement.parameterCount payload
      decoded) :
    statement.bound payload = some decoded.parameterTypes := by
  generalize count : statement.parameterCount = size at format
  generalize stored : statement.parameterTypes = previous at format
  unfold Statement.bound
  rw [count, stored]
  cases format with
  | none => rfl
  | some positive bitmap _ long typesFormat _ =>
      rw [if_neg (Nat.pos_iff_ne_zero.mp positive), ← bitmap, List.drop_left]
      cases typesFormat with
      | sent types =>
          rw [← long]
          simp only [if_true, sentTypes_typeBytes]
      | stored same =>
          simp only [same]
          rfl

/-! ## Answers to a prepare -/

def isError (packet : Packet) : Bool := packet.payload.head? == some 0xFF

/-- The statement that an OK announces. -/
def announced : Bytes → Option StmtPrepareOk
  | marker :: i₀ :: i₁ :: i₂ :: i₃ :: c₀ :: c₁ :: p₀ :: p₁ :: _ =>
      if marker = 0x00 then
        some ⟨leNat [i₀, i₁, i₂, i₃], leNat [c₀, c₁], leNat [p₀, p₁]⟩
      else none
  | _ => none

/-- What a prepare has announced, if its whole answer is without an error. -/
def prepareOk : List Packet → Option StmtPrepareOk
  | [] => none
  | first :: metadata => if metadata.any isError then none else announced first.payload

section Answers

variable {flags : Nat}

theorem definition_noError {payload : Bytes} (definition : Definition payload) :
    payload.head? ≠ some 0xFF := by
  obtain ⟨rest, other⟩ := definition
  simpa using other

theorem separator_noError {packets : List Bytes} (separator : Separator flags packets) :
    ∀ payload ∈ packets, payload.head? ≠ some 0xFF := by
  unfold Separator at separator
  split at separator
  · simp [separator]
  · obtain ⟨status, payload, eof, rfl⟩ := separator
    cases eof
    simp

theorem definitions_noError {count : Nat} {packets : List Bytes}
    (definitions : Definitions flags count packets) :
    ∀ payload ∈ packets, payload.head? ≠ some 0xFF := by
  cases definitions with
  | none => simp
  | some _ _ all separator =>
      intro payload inside
      rcases List.mem_append.mp inside with early | late
      · exact definition_noError (all payload early)
      · exact separator_noError separator payload late

theorem any_isError {packets : List Packet} {payloads : List Bytes}
    (same : packets.map Packet.payload = payloads)
    (clean : ∀ payload ∈ payloads, payload.head? ≠ some 0xFF) : packets.any isError = false := by
  rw [List.any_eq_false]
  intro packet inside
  have other := clean packet.payload (same ▸ List.mem_map_of_mem inside)
  simpa [isError] using other

/-- A complete answer announces the statement. -/
theorem prepareOk_complete {packets : List Packet} {prepared : StmtPrepareOk} {payload : Bytes}
    {metadata : List Bytes} (same : packets.map Packet.payload = payload :: metadata)
    (ok : PrepareOkPacket prepared payload) (complete : PrepareMetadata flags prepared metadata) :
    prepareOk packets = some prepared := by
  obtain ⟨first, rest, rfl, isFirst, isRest⟩ := List.map_eq_cons_iff.mp same
  obtain ⟨parameters, columns⟩ := complete
  have clean : rest.any isError = false := by
    refine any_isError isRest ?_
    intro payload inside
    rcases List.mem_append.mp inside with early | late
    · exact definitions_noError parameters payload early
    · exact definitions_noError columns payload late
  obtain ⟨i₀, i₁, i₂, i₃, c₀, c₁, p₀, p₁, filler, w₀, w₁, others⟩ := ok
  simp [prepareOk, announced, isFirst, clean]

/-- An error at any point takes the announcement back. -/
theorem prepareOk_failed {packets : List Packet} {before : List Bytes} {failure : Bytes}
    (same : packets.map Packet.payload = before ++ [failure]) (failed : ErrPacket failure) :
    prepareOk packets = none := by
  obtain ⟨rest⟩ := failed
  cases packets with
  | nil => simp at same
  | cons first metadata =>
      rw [List.map_cons] at same
      cases before with
      | nil =>
          have alone : first.payload = 0xFF :: rest := (List.cons.inj same).1
          rw [prepareOk, alone, announced.eq_def]
          split
          · rfl
          · split
            · next split_ =>
              cases split_
              rfl
            · rfl
      | cons head before =>
          have later : metadata.map Packet.payload = before ++ [0xFF :: rest] :=
            (List.cons.inj same).2
          obtain ⟨packet, isPacket, payload⟩ := List.mem_map.mp
            (show 0xFF :: rest ∈ metadata.map Packet.payload by simp [later])
          have present : metadata.any isError = true :=
            List.any_eq_true.mpr ⟨packet, isPacket, by simp [isError, payload]⟩
          rw [prepareOk, if_pos present]

end Answers

/-! ## The catalog -/

/-- The open statements, and which of them is the last one. -/
structure Catalog where
  statements : Dict Nat Statement := ∅
  last : Option Nat := none

namespace Catalog

variable {catalog : Catalog} {message : LogicalMessage} {messages : List LogicalMessage}
  {answers : List (List Packet)}

/-- The statement that an execution runs. -/
def target (catalog : Catalog) (payload : Bytes) : Option Nat :=
  if leNat (payload.take 4) = mariadbStmtIdLast then catalog.last
  else some (leNat (payload.take 4))

def prepared (catalog : Catalog) (text : Bytes) : Option StmtPrepareOk → Catalog
  | none => { catalog with last := none }
  | some prepared =>
      { statements := catalog.statements.insert prepared.statementId
          { text := text, parameterCount := prepared.parameterCount }
        last := some prepared.statementId }

def closed (catalog : Catalog) (statementId : Nat) : Catalog where
  statements := catalog.statements.erase statementId
  last := if catalog.last = some statementId then none else catalog.last

/-- The statement that is executed has its types bound. -/
def executed (catalog : Catalog) (payload : Bytes) : Catalog :=
  match catalog.target payload with
  | none => catalog
  | some statementId =>
      match catalog.statements.lookup statementId with
      | none => catalog
      | some statement =>
          { catalog with
            statements := catalog.statements.insert statementId
              { statement with parameterTypes := statement.bound (payload.drop 9) } }

/-- The statements once a command has been read and answered. -/
def after (catalog : Catalog) (message : LogicalMessage) (answer : List Packet) : Catalog :=
  match (commandOf message).kind with
  | .stmtPrepare => catalog.prepared (commandOf message).payload (prepareOk answer)
  | .stmtClose => catalog.closed (leNat ((commandOf message).payload.take 4))
  | .stmtExecute => catalog.executed (commandOf message).payload
  | _ => catalog

/-- The statements once all messages have been read, as far as they have been answered. -/
def heard : Catalog → List LogicalMessage → List (List Packet) → Catalog
  | catalog, [], _ => catalog
  | catalog, message :: messages, [] => heard (catalog.after message []) messages []
  | catalog, message :: messages, answer :: answers =>
      heard (catalog.after message answer) messages answers

/-- Messages that leave the statements as they are. -/
def Idle (message : LogicalMessage) : Prop :=
  (commandOf message).kind ≠ .stmtPrepare ∧ (commandOf message).kind ≠ .stmtClose ∧
    (commandOf message).kind ≠ .stmtExecute

/-- No statement is being prepared. -/
def Unprepared (messages : List LogicalMessage) : Prop :=
  ∀ message ∈ messages, (commandOf message).kind ≠ .stmtPrepare

theorem Unprepared.snoc (unprepared : Unprepared messages)
    (other : (commandOf message).kind ≠ .stmtPrepare) : Unprepared (messages ++ [message]) := by
  intro request inside
  rcases List.mem_append.mp inside with early | last
  · exact unprepared request early
  · rw [List.mem_singleton.mp last]
    exact other

theorem unprepared_quits (quits : ∀ other ∈ messages, (commandOf other).kind = .quit) :
    Unprepared messages := by
  intro other inside
  rw [quits other inside]
  decide

theorem after_idle (idle : Idle message) (answer : List Packet) :
    catalog.after message answer = catalog := by
  obtain ⟨prepare, close, execute⟩ := idle
  unfold after
  split
  · next kind => exact absurd kind prepare
  · next kind => exact absurd kind close
  · next kind => exact absurd kind execute
  · rfl

theorem after_prepare (kind : (commandOf message).kind = .stmtPrepare) (answer : List Packet) :
    catalog.after message answer =
      catalog.prepared (commandOf message).payload (prepareOk answer) := by
  simp only [after, kind]

theorem after_close (kind : (commandOf message).kind = .stmtClose) (answer : List Packet) :
    catalog.after message answer = catalog.closed (leNat ((commandOf message).payload.take 4)) := by
  simp only [after, kind]

theorem after_execute (kind : (commandOf message).kind = .stmtExecute) (answer : List Packet) :
    catalog.after message answer = catalog.executed (commandOf message).payload := by
  simp only [after, kind]

/-- Only the answer to a prepare matters. -/
theorem after_answer (other : (commandOf message).kind ≠ .stmtPrepare)
    (answer answer' : List Packet) :
    catalog.after message answer = catalog.after message answer' := by
  unfold after
  split
  · next kind => exact absurd kind other
  · rfl
  · rfl
  · rfl

theorem heard_append {earlier : List LogicalMessage} {given : List (List Packet)}
    (same : earlier.length = given.length) :
    catalog.heard (earlier ++ messages) (given ++ answers) =
      (catalog.heard earlier given).heard messages answers := by
  induction earlier generalizing catalog given with
  | nil =>
      have none := List.eq_nil_of_length_eq_zero same.symm
      subst none
      rfl
  | cons message earlier ih =>
      cases given with
      | nil => cases same
      | cons answer given => exact ih (Nat.succ.inj same)

/-- The last message is answered, or not yet. -/
theorem heard_snoc :
    catalog.heard (messages ++ [message]) answers =
      (catalog.heard messages answers).after message (answers[messages.length]?.getD []) := by
  induction messages generalizing catalog answers with
  | nil => cases answers <;> rfl
  | cons earlier messages ih =>
      cases answers with
      | nil => exact ih
      | cons answer answers => simpa only [List.length_cons, List.getElem?_cons_succ] using! ih

/-- Further answers change nothing where every prepare has been answered. -/
theorem heard_answered (unprepared : Unprepared (messages.drop answers.length))
    (more : List (List Packet)) :
    catalog.heard messages (answers ++ more) = catalog.heard messages answers := by
  induction messages generalizing catalog answers more with
  | nil => rfl
  | cons message messages ih =>
      cases answers with
      | cons answer answers => exact ih unprepared more
      | nil =>
          have first := unprepared message List.mem_cons_self
          have others : Unprepared messages :=
            fun other inside => unprepared other (List.mem_cons_of_mem _ inside)
          cases more with
          | nil => rfl
          | cons answer more =>
              change (catalog.after message answer).heard messages more = _
              rw [after_answer first answer []]
              exact @ih (catalog.after message []) [] others more

theorem heard_idle (idle : ∀ message ∈ messages, Idle message) :
    catalog.heard messages answers = catalog := by
  induction messages generalizing catalog answers with
  | nil => rfl
  | cons message messages ih =>
      have first := idle message List.mem_cons_self
      have others := fun other inside => idle other (List.mem_cons_of_mem _ inside)
      cases answers with
      | nil => exact (ih others).trans (after_idle first [])
      | cons answer answers => exact (ih others).trans (after_idle first answer)

section Executed

variable {payload : Bytes} {statementId : Nat} {statement : Statement}

theorem executed_eq (isTarget : catalog.target payload = some statementId)
    (known : catalog.statements.lookup statementId = some statement) :
    catalog.executed payload = { catalog with
      statements := catalog.statements.insert statementId
        { statement with parameterTypes := statement.bound (payload.drop 9) } } := by
  simp only [executed, isTarget, known]

end Executed

end Catalog

end SqlSafetyProxy.MySql
