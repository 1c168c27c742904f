import SqlSafetyProxy.Sql.Classifier

/-!
# Safety policy

The policy turns a classification and a row estimate into an action.  Traffic
that cannot be inspected is decided by the fail-safe mode instead.
-/

namespace SqlSafetyProxy.Policy

open SqlSafetyProxy.Sql

inductive PolicyAction where
  | allow | confirm | block
  deriving DecidableEq, Repr

/-- Thresholds and fixed actions; the constructor rejects thresholds out of order. -/
structure PolicyConfig where
  autoAllowMaxRows : Int := 0
  blockAtRows : Int := 10000
  noWhereAction : PolicyAction := .confirm
  structuralAction : PolicyAction := .confirm
  unknownAction : PolicyAction := .confirm
  estimationFailureAction : PolicyAction := .confirm
  multiStatementAction : PolicyAction := .block
  autoAllow_nonneg : 0 ≤ autoAllowMaxRows := by decide
  autoAllow_lt_block : autoAllowMaxRows < blockAtRows := by decide

structure PolicyDecision where
  action : PolicyAction
  severity : Severity
  reason : String
  estimatedRows : Option Int := none
  deriving DecidableEq, Repr

/-- A Python string option that is neither `None` nor empty. -/
def truthyText : Option String → Bool
  | none => false
  | some text => text != ""

/-- Evaluate one classified statement against the configured policy. -/
def evaluatePolicy (classification : Classification) (estimatedRows : Option Int)
    (estimateError : Option String) (config : PolicyConfig) : PolicyDecision :=
  if classification.risk = .safe then
    { action := .allow
      severity := .low
      reason := "Read-only statement"
      estimatedRows := estimatedRows }
  else if classification.impactKind = .batch then
    { action := config.multiStatementAction
      severity := .critical
      reason := s!"The request contains {classification.statementCount} SQL " ++
        "statements; the multi-statement policy was applied" }
  else if classification.risk = .unknown then
    { action := config.unknownAction
      severity := .high
      reason := "No dedicated safety rule exists for this statement type; " ++
        "the unknown-query policy was applied"
      estimatedRows := estimatedRows }
  else if classification.impactKind = .schema then
    { action := config.structuralAction
      severity := .critical
      reason := "This statement changes database structure; " ++
        "the structural-query policy was applied"
      estimatedRows := estimatedRows }
  else if classification.hasWhere = some false then
    { action := config.noWhereAction
      severity := .critical
      reason := classification.statementType ++ " has no WHERE clause and " ++
        "may affect the entire target table"
      estimatedRows := estimatedRows }
  else match truthyText estimateError, estimatedRows with
  | false, some rows =>
      if config.blockAtRows ≤ rows then
        { action := .block
          severity := .critical
          reason := s!"Estimated impact of {rows} rows meets or exceeds " ++
            s!"the block threshold of {config.blockAtRows}"
          estimatedRows := some rows }
      else if rows ≤ config.autoAllowMaxRows then
        { action := .allow
          severity := .low
          reason := s!"Estimated impact of {rows} rows is within the " ++
            s!"automatic-allow threshold of {config.autoAllowMaxRows}"
          estimatedRows := some rows }
      else
        { action := .confirm
          severity := if rows < 100 then .medium else .high
          reason := s!"Estimated impact of {rows} rows requires explicit " ++ "confirmation"
          estimatedRows := some rows }
  | _, _ =>
      { action := config.estimationFailureAction
        severity := .high
        reason := "Affected-row estimation was unavailable; " ++
          "the estimation-failure policy was applied" }

/-! ## Protocol gaps -/

inductive FailSafeMode where
  | strict | balanced | permissive
  deriving DecidableEq, Repr

def FailSafeMode.value : FailSafeMode → String
  | .strict => "strict"
  | .balanced => "balanced"
  | .permissive => "permissive"

inductive ProtocolGapAction where
  | allow | block
  deriving DecidableEq, Repr

structure ProtocolGapDecision where
  action : ProtocolGapAction
  reason : String
  deriving DecidableEq, Repr

/-- Decide whether uninspectable protocol traffic may reach the backend. -/
def evaluateProtocolGap (mode : FailSafeMode) (reason : String) : ProtocolGapDecision :=
  if mode = .permissive then
    { action := .allow
      reason := reason ++ "; permissive fail-safe mode allows forwarding" }
  else
    { action := .block
      reason := reason ++ "; " ++ mode.value ++ " fail-safe mode blocks uninspectable SQL" }

theorem evaluateProtocolGap_blocks {mode : FailSafeMode} (reason : String)
    (closed : mode ≠ .permissive) : (evaluateProtocolGap mode reason).action = .block := by
  simp [evaluateProtocolGap, closed]

end SqlSafetyProxy.Policy
