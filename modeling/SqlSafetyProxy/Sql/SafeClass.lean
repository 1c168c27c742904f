import SqlSafetyProxy.Sql.Classifier

/-!
# What a safe classification says about the tree

`classify` declares a statement safe from the class of its root alone.  The
class is sound exactly when nothing below such a root changes data or schema.
-/

namespace SqlSafetyProxy.Sql

open SqlSafetyProxy.Tree Expression

/-- Node classes that change rows, write a `SELECT ... INTO` target or change the schema. -/
def NodeClass.writes : NodeClass → Bool
  | .insert | .update | .delete | .merge => true
  | .into => true
  | .create | .drop | .alter | .truncateTable => true
  | _ => false

/-- A safe text has one statement, and no node of its tree writes. -/
def SafeIsReadOnly (glot : Sqlglot) (sql : String) (dialect : Dialect) : Prop :=
  (classify glot sql dialect).risk = .safe →
    ∃ ast : Expression, statements glot sql dialect = .ok [ast] ∧
      ∀ node ∈ ast.nodes, node.label.cls.writes = false

/-- The roots that `classify` declares safe without looking further. -/
def SafeRoot (glot : Sqlglot) (dialect : Dialect) (ast : Expression) : Prop :=
  statementClass ast ∈ transactionClasses ∨ isSessionLocalSet glot dialect ast = true ∨
    ast.cls = .select

/-- No node strictly below a safe root writes. -/
def NothingWritesBelowSafeRoot (glot : Sqlglot) (sql : String) (dialect : Dialect) : Prop :=
  ∀ ast : Expression, statements glot sql dialect = .ok [ast] → SafeRoot glot dialect ast →
    ∀ node ∈ ast.descendants, node.label.cls.writes = false

theorem classifyMutation_risk (glot : Sqlglot) (dialect : Dialect) (ast : Expression) :
    (classifyMutation glot dialect ast).risk = .risky := by
  unfold classifyMutation
  cases ast.findClass .whereClause <;> rfl

theorem classifyStatement_safe_iff (glot : Sqlglot) (dialect : Dialect) (ast : Expression) :
    (classifyStatement glot dialect ast).risk = .safe ↔ SafeRoot glot dialect ast := by
  unfold classifyStatement SafeRoot
  by_cases transaction : statementClass ast ∈ transactionClasses
  · simp [transaction]
  by_cases session : isSessionLocalSet glot dialect ast = true
  · simp [transaction, session]
  cases root : ast.cls <;> simp [transaction, session, classifyMutation_risk]

/-- Only a text with exactly one statement is classified as safe. -/
theorem classify_safe_iff (glot : Sqlglot) (sql : String) (dialect : Dialect) :
    (classify glot sql dialect).risk = .safe ↔
      ∃ ast : Expression, statements glot sql dialect = .ok [ast] ∧ SafeRoot glot dialect ast := by
  unfold classify
  cases parsed : statements glot sql dialect with
  | error message => simp
  | ok trees =>
      match trees with
      | [] => simp
      | [ast] => simp [classifyStatement_safe_iff]
      | first :: second :: rest => simp

/-- A root that is declared safe does not write itself. -/
theorem SafeRoot.writes_eq_false {glot : Sqlglot} {dialect : Dialect} {ast : Expression}
    (root : SafeRoot glot dialect ast) : ast.cls.writes = false := by
  rcases root with transaction | session | select
  · unfold statementClass at transaction
    cases cls : ast.cls with
    | other name => rfl
    | _ =>
        rw [cls] at transaction
        revert transaction
        decide
  · have isSet : ast.cls = .set := by
      simp only [isSessionLocalSet, Bool.and_eq_true, beq_iff_eq] at session
      exact session.1.1.1
    rw [isSet]
    rfl
  · rw [select]
    rfl

/-- The safe class is sound on exactly the texts with nothing writing below a safe root. -/
theorem safeIsReadOnly_iff (glot : Sqlglot) (sql : String) (dialect : Dialect) :
    SafeIsReadOnly glot sql dialect ↔ NothingWritesBelowSafeRoot glot sql dialect := by
  constructor
  · intro sound ast parsed root node below
    obtain ⟨tree, parsedTree, readOnly⟩ :=
      sound ((classify_safe_iff glot sql dialect).mpr ⟨ast, parsed, root⟩)
    rw [parsed] at parsedTree
    cases parsedTree
    apply readOnly
    rw [KeyedTree.nodes_eq]
    exact List.mem_cons_of_mem _ below
  · intro nothing safe
    obtain ⟨ast, parsed, root⟩ := (classify_safe_iff glot sql dialect).mp safe
    refine ⟨ast, parsed, ?_⟩
    intro node inside
    rw [KeyedTree.nodes_eq] at inside
    rcases List.mem_cons.mp inside with rfl | below
    · exact root.writes_eq_false
    · exact nothing ast parsed root node below

/-- `WITH gone AS (DELETE FROM users RETURNING id) SELECT id FROM gone`. -/
def deletingCte : Expression :=
  build .select [
    (.other "with_", build (.other "With") [
      (.expressions, build (.other "CTE") [
        (.this, build .delete [
          (.this, build .table []),
          (.other "returning", build (.other "Returning") [])])])]),
    (.expressions, build (.other "Column") []),
    (.fromArg, build .fromClause [(.this, build .table [])])]

def deletingCteParser : Sqlglot where
  parse _ _ := .ok [some deletingCte]
  sql _ _ := ""
  upper := upperAscii

/-- A `SELECT` over a deleting common table expression is classified as safe. -/
theorem deletingCte_not_readOnly :
    ¬ SafeIsReadOnly deletingCteParser
      "WITH gone AS (DELETE FROM users RETURNING id) SELECT id FROM gone" "postgres" := by
  intro sound
  obtain ⟨ast, parsed, readOnly⟩ := sound (by decide)
  have same : ast = deletingCte := by
    have shown : (Except.ok [deletingCte] : Except String (List Expression)) = .ok [ast] := parsed
    cases shown
    rfl
  subst same
  exact absurd readOnly (by decide)

end SqlSafetyProxy.Sql
