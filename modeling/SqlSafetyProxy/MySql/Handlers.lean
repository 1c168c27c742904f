import SqlSafetyProxy.MySql.Backend

/-!
# Policy handling of MySQL commands

A query or a reconstructed execution goes through the shared decision path;
traffic that cannot be inspected goes through the fail-safe policy.  Every
handler returns whether the message was forwarded.
-/

namespace SqlSafetyProxy.MySql

open SqlSafetyProxy.Sql SqlSafetyProxy.Policy SqlSafetyProxy.Wire SqlSafetyProxy.Runtime
open SqlSafetyProxy.Coroutine

variable {Γ : Type}

/-- Write the packets of a message to the backend and wait for the write to drain. -/
def forward (message : LogicalMessage) : Handler adapter Γ Bool := do
  writeBackend (.command message) message.rawPackets
  drain
  return true

/-- Answer a message with an ERR packet and wait for the write to drain. -/
def refuse (message : LogicalMessage) (text : String) (errorCode : Nat) (sqlState : String) :
    Handler adapter Γ Bool := do
  let packet ← Proc.ofExcept
    (buildErrorPacket text (nextSequenceId message.lastSequenceId) errorCode sqlState)
  record (.noted (.refuses message packet))
  writeClient (.built packet)
  drain
  return false

/-- The text of the error for a rejected statement. -/
def mysqlPolicyError (classification : Classification) (estimatedRows : Option Int)
    (decision : PolicyDecision) : String :=
  let parts :=
    ["Query blocked by OhMyDB.",
      "Policy: " ++ decision.reason ++ ".",
      "Severity: " ++ decision.severity.value ++ ".",
      "Operation: " ++ classification.statementType ++ "."]
    ++ (match estimatedRows with
      | none => []
      | some rows => ["Estimated rows affected: " ++ toString rows ++ "."])
  " ".intercalate parts

/-- How uninspectable traffic is named in the audit log. -/
def gapDescription : Option UInt8 → String
  | some commandCode => "MYSQL_COMMAND_" ++ hexCode commandCode
  | none => "MYSQL_MALFORMED_COMMAND"

/-- Apply the fail-safe policy to uninspectable traffic. -/
def handleMysqlProtocolGap (tools : Tools) (opts : ProxyOptions) (reason : String)
    (commandCode : Option UInt8) (message : LogicalMessage) (database : String) :
    Handler adapter Γ Bool := do
  let gapDecision := evaluateProtocolGap opts.failSafeMode reason
  let finalDecision :=
    if gapDecision.action = .allow then FinalDecision.allowedProtocolGap
    else FinalDecision.blockedProtocolGap
  writeAuditEvent tools opts (gapDescription commandCode) "mysql-protocol-gap"
    (gapClassification reason) (gapPolicyDecision gapDecision) finalDecision none (some reason)
    false database
  if gapDecision.action = .allow then
    forward message
  else
    refuse message
      ("Query blocked by OhMyDB. " ++ "Protocol gap: " ++ gapDecision.reason ++ ".") 1235 "0A000"

/-- Forward an approved message, refuse any other. -/
def carryOut (message : LogicalMessage) (classification : Classification)
    (estimatedRows : Option Int) (outcome : Bool × PolicyDecision) : Handler adapter Γ Bool :=
  if outcome.1 then forward message
  else refuse message (mysqlPolicyError classification estimatedRows outcome.2) 1148 "42000"

/-- Inspect one `COM_QUERY` and forward it only when approved. -/
def handleMysqlQuery (tools : Tools) (opts : ProxyOptions) (message : LogicalMessage)
    (commandPayload : Bytes) (database : String) : Handler adapter Γ Bool := do
  let sql ← Proc.ofExcept (parseQuery commandPayload)
  let classification ← classifySql tools opts sql
  let estimated ← estimate classification database
  let outcome ← evaluateAndDecide tools opts sql "mysql-com-query" classification estimated.1
    estimated.2 false database
  carryOut message classification estimated.1 outcome

/-- Estimate a reconstructed execution unless a parameter has no plain meaning. -/
def estimateWhenSafe (classification : Classification) (estimateSafe : Bool)
    (database : String) : Handler adapter Γ (Option Int × Option String) :=
  if estimateSafe then estimate classification database
  else return (none, some ("Prepared-statement parameter semantics cannot be " ++
    "estimated safely"))

/-- Estimate a reconstructed execution; any failure is reported in fixed words. -/
def estimateStmtExecute (classification : Classification) (estimateSafe : Bool)
    (database : String) : Handler adapter Γ (Option Int × Option String) := do
  let estimated ← estimateWhenSafe classification estimateSafe database
  return (estimated.1, estimated.2.map fun _ => "Prepared-statement row-impact estimation failed")

/-- Inspect a reconstructed execution, whose text is kept out of all output. -/
def handleMysqlStmtExecute (tools : Tools) (opts : ProxyOptions) (message : LogicalMessage)
    (inspectionSql sqlDescription : String) (estimateSafe : Bool) (database : String) :
    Handler adapter Γ Bool := do
  let inspected ← classifySql tools opts inspectionSql
  if inspected.statementType = "EMPTY" ∨ inspected.statementType = "UNPARSEABLE" then
    handleMysqlProtocolGap tools opts ("Reconstructed COM_STMT_EXECUTE SQL could not be " ++
      "parsed safely") (some 0x17) message database
  else
    let estimated ← estimateStmtExecute inspected estimateSafe database
    let classification := { inspected with previewQuery := none }
    let outcome ← evaluateAndDecide tools opts sqlDescription "mysql-com-stmt-execute"
      classification estimated.1 estimated.2 false database
    carryOut message classification estimated.1 outcome

end SqlSafetyProxy.MySql
