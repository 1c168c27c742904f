import SqlSafetyProxy.Policy.Evaluation

/-!
# Danger

Actions and severities are ordered.  The outcome for a mutation with a `WHERE`
clause grows with the estimate; without one the action is a fixed choice of the
configuration, whatever the estimate.
-/

namespace SqlSafetyProxy.Policy

open SqlSafetyProxy.Sql

/-! ## The orders -/

def PolicyAction.rank : PolicyAction → Nat
  | .allow => 0
  | .confirm => 1
  | .block => 2

def severityRank : Severity → Nat
  | .low => 0
  | .medium => 1
  | .high => 2
  | .critical => 3

instance : LE PolicyAction := ⟨fun first second => first.rank ≤ second.rank⟩

instance : LE Severity := ⟨fun first second => severityRank first ≤ severityRank second⟩

instance (first second : PolicyAction) : Decidable (first ≤ second) :=
  inferInstanceAs (Decidable (first.rank ≤ second.rank))

instance (first second : Severity) : Decidable (first ≤ second) :=
  inferInstanceAs (Decidable (severityRank first ≤ severityRank second))

theorem allow_le (action : PolicyAction) : .allow ≤ action := Nat.zero_le action.rank

theorem low_le (severity : Severity) : .low ≤ severity := Nat.zero_le (severityRank severity)

theorem action_le_block (action : PolicyAction) : action ≤ .block := by
  cases action <;> decide

theorem severity_le_critical (severity : Severity) : severity ≤ .critical := by
  cases severity <;> decide

/-! ## Mutations that are estimated -/

/-- A risky mutation of rows, with a `WHERE` clause or without. -/
structure Mutation (filtered : Bool) (classification : Classification) : Prop where
  risky : classification.risk = .risky
  rows : classification.impactKind = .rows
  hasWhere : classification.hasWhere = some filtered

variable (config : PolicyConfig)

/-- The action and severity for a mutation with a `WHERE` clause. -/
def filteredOutcome (rows : Int) : PolicyAction × Severity :=
  if config.blockAtRows ≤ rows then (.block, .critical)
  else if rows ≤ config.autoAllowMaxRows then (.allow, .low)
  else (.confirm, if rows < 100 then .medium else .high)

variable {config} {classification : Classification} {rows : Int} {error : Option String}

theorem evaluatePolicy_filtered (mutation : Mutation true classification)
    (noError : truthyText error = false) :
    ((evaluatePolicy classification (some rows) error config).action,
      (evaluatePolicy classification (some rows) error config).severity) =
        filteredOutcome config rows := by
  simp only [evaluatePolicy, mutation.risky, mutation.rows, mutation.hasWhere, noError,
    reduceCtorEq, if_false, Option.some.injEq, Bool.true_eq_false, filteredOutcome]
  split_ifs <;> rfl

theorem evaluatePolicy_unfiltered (mutation : Mutation false classification) :
    (evaluatePolicy classification (some rows) error config).action = config.noWhereAction ∧
      (evaluatePolicy classification (some rows) error config).severity = .critical := by
  simp [evaluatePolicy, mutation.risky, mutation.rows, mutation.hasWhere]

theorem filteredOutcome_monotone {rows rows' : Int} (le : rows ≤ rows') :
    (filteredOutcome config rows).1 ≤ (filteredOutcome config rows').1 ∧
      (filteredOutcome config rows).2 ≤ (filteredOutcome config rows').2 := by
  have order := config.autoAllow_lt_block
  unfold filteredOutcome
  by_cases large' : config.blockAtRows ≤ rows'
  · rw [if_pos large']
    exact ⟨action_le_block _, severity_le_critical _⟩
  · have large : ¬ config.blockAtRows ≤ rows := by omega
    rw [if_neg large, if_neg large']
    by_cases small : rows ≤ config.autoAllowMaxRows
    · rw [if_pos small]
      exact ⟨allow_le _, low_le _⟩
    · have small' : ¬ rows' ≤ config.autoAllowMaxRows := by omega
      rw [if_neg small, if_neg small']
      refine ⟨show PolicyAction.confirm ≤ .confirm by decide, ?_⟩
      by_cases few : rows < 100
      · rw [if_pos few]
        dsimp only
        split <;> decide
      · rw [if_neg few, if_neg (by omega)]
        exact show Severity.high ≤ .high by decide

/-- The fixed action is smaller only if it is a confirmation and the estimate blocks. -/
theorem filteredOutcome_le_iff (inForce : config.noWhereAction ≠ .allow) :
    (filteredOutcome config rows).1 ≤ config.noWhereAction ↔
      ¬ (config.noWhereAction = .confirm ∧ config.blockAtRows ≤ rows) := by
  unfold filteredOutcome
  by_cases large : config.blockAtRows ≤ rows
  · rw [if_pos large]
    cases fixed : config.noWhereAction with
    | allow => exact absurd fixed inForce
    | confirm => exact iff_of_false (by decide) fun none_ => none_ ⟨rfl, large⟩
    | block => exact iff_of_true (by decide) (by rintro ⟨⟨⟩, -⟩)
  · rw [if_neg large]
    refine iff_of_true ?_ fun both => large both.2
    cases fixed : config.noWhereAction with
    | allow => exact absurd fixed inForce
    | confirm =>
        split
        · exact allow_le _
        · exact show PolicyAction.confirm ≤ .confirm by decide
    | block => exact action_le_block _

/--
With a `WHERE` clause, more rows never make an outcome weaker.  Without one the
severity is never smaller, and the action only where a confirmation is configured
and the same estimate would block.
-/
theorem evaluatePolicy_ordered (config : PolicyConfig) (inForce : config.noWhereAction ≠ .allow) :
    (∀ (classification classification' : Classification) (rows rows' : Int)
      (error error' : Option String),
      Mutation true classification → Mutation true classification' →
      truthyText error = false → truthyText error' = false → rows ≤ rows' →
      (evaluatePolicy classification (some rows) error config).action ≤
          (evaluatePolicy classification' (some rows') error' config).action ∧
        (evaluatePolicy classification (some rows) error config).severity ≤
          (evaluatePolicy classification' (some rows') error' config).severity) ∧
    ∀ (filtered unfiltered : Classification) (rows : Int) (error error' : Option String),
      Mutation true filtered → Mutation false unfiltered →
      truthyText error = false → truthyText error' = false →
      (evaluatePolicy filtered (some rows) error config).severity ≤
          (evaluatePolicy unfiltered (some rows) error' config).severity ∧
        ((evaluatePolicy filtered (some rows) error config).action ≤
            (evaluatePolicy unfiltered (some rows) error' config).action ↔
          ¬ (config.noWhereAction = .confirm ∧ config.blockAtRows ≤ rows)) := by
  constructor
  · intro classification classification' rows rows' error error' mutation mutation' noError
      noError' le
    obtain ⟨actions, severities⟩ := @filteredOutcome_monotone config rows rows' le
    rw [← evaluatePolicy_filtered mutation noError, ← evaluatePolicy_filtered mutation' noError']
      at actions severities
    exact ⟨actions, severities⟩
  · intro filtered unfiltered rows error error' mutation mutation' noError noError'
    obtain ⟨fixed, critical⟩ :=
      @evaluatePolicy_unfiltered config unfiltered rows error' mutation'
    rw [fixed, critical, ← filteredOutcome_le_iff inForce, ← evaluatePolicy_filtered mutation noError]
    exact ⟨severity_le_critical _, Iff.rfl⟩

/-- The classification of an update of a table, with a `WHERE` clause or without. -/
def updateWith (filtered : Bool) : Classification where
  risk := .risky
  statementType := "UPDATE"
  reason := ""
  impactKind := .rows
  hasWhere := some filtered

theorem updateWith_mutation (filtered : Bool) : Mutation filtered (updateWith filtered) :=
  ⟨rfl, rfl, rfl⟩

/-- Below the blocking threshold the default configuration is the stronger without a clause. -/
theorem update_ordered :
    (evaluatePolicy (updateWith true) (some 0) none {}).action ≤
        (evaluatePolicy (updateWith true) (some 5000) none {}).action ∧
      (evaluatePolicy (updateWith true) (some 5000) none {}).action ≤
        (evaluatePolicy (updateWith false) (some 5000) none {}).action :=
  have ordered := evaluatePolicy_ordered {} (by decide)
  ⟨(ordered.1 _ _ 0 5000 none none (updateWith_mutation true) (updateWith_mutation true) rfl rfl
      (by decide)).1,
    (ordered.2 _ _ 5000 none none (updateWith_mutation true) (updateWith_mutation false) rfl
      rfl).2.mpr (by decide)⟩

/-- From the threshold on, the same estimate blocks only with a `WHERE` clause. -/
theorem update_weakened :
    ¬ ∀ (config : PolicyConfig) (filtered unfiltered : Classification) (rows : Int),
      config.noWhereAction ≠ .allow → Mutation true filtered → Mutation false unfiltered →
      (evaluatePolicy filtered (some rows) none config).action ≤
        (evaluatePolicy unfiltered (some rows) none config).action := by
  intro ordered
  have le := ordered {} (updateWith true) (updateWith false) 10000 (by decide)
    (updateWith_mutation true) (updateWith_mutation false)
  exact absurd le (by decide)

end SqlSafetyProxy.Policy
