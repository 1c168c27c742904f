import SqlSafetyProxy.Sql.Classifier

/-!
# Where clauses and previews of mutations

The classifier locates the `WHERE` clause and the target table of an `UPDATE`
or `DELETE` by a breadth-first search of the whole tree.  The search finds the
statement's own clauses exactly when nothing else of their class comes first.
-/

namespace SqlSafetyProxy.Sql

open SqlSafetyProxy.Tree Expression

/-- The root's own `WHERE` clause. -/
def ownWhere (ast : Expression) : Option Expression :=
  (ast.under .whereArg).find? fun node => node.label.cls == .whereClause

/--
The table the statement changes: the root's `this`, or the entry of the target
list of a multi-table `DELETE`.  There is none when the list has several.
-/
def targetTable (ast : Expression) : Option Expression :=
  match (if ast.under .tables = [] then ast.under .this else ast.under .tables) with
  | [table] => if table.label.cls = .table then some table else none
  | _ => none

/-- The first direct argument of the root that has the class. -/
def firstArgument (ast : Expression) (cls : NodeClass) : Option Expression :=
  ast.children.find? fun node => node.label.cls == cls

/--
`has_where` is true exactly when the statement has its own `WHERE`, and the
preview counts the target table under exactly that condition.
-/
def WhereAndPreviewAgree (glot : Sqlglot) (sql : String) (dialect : Dialect)
    (ast : Expression) : Prop :=
  ((classify glot sql dialect).hasWhere = some true ↔ (ownWhere ast).isSome = true) ∧
    ∃ table preview, targetTable ast = some table ∧
      countQuery ast (ast.findClass .whereClause) = some preview ∧
      (classify glot sql dialect).previewQuery = some (glot.sql (some dialect) preview) ∧
      preview = selectCount table ((ownWhere ast).map fun clause => clause.arg .this)

/--
The clauses stand where the search finds them: the target is the first table
among the root's arguments; the own condition is that of the first `WHERE`
among them; and a statement without its own `WHERE` has none anywhere.
-/
def ClausesInPlace (ast : Expression) : Prop :=
  (∃ table, targetTable ast = some table ∧ firstArgument ast .table = some table) ∧
    match ownWhere ast with
    | none => ∀ node ∈ ast.nodes, node.label.cls ≠ .whereClause
    | some own => ∃ first, firstArgument ast .whereClause = some first ∧
        first.arg .this = own.arg .this

theorem mem_children_of_mem_under {ast node : Expression} {key : ArgKey}
    (inside : node ∈ ast.under key) : node ∈ ast.children := by
  obtain ⟨entry, kept, rfl⟩ := List.mem_map.mp inside
  exact List.mem_map.mpr ⟨entry, (List.mem_filter.mp kept).1, rfl⟩

/-- An argument of the class makes the search stop at the first such argument. -/
theorem findClass_eq_firstArgument {ast node : Expression} {cls : NodeClass}
    (root : ast.cls ≠ cls) (inside : node ∈ ast.children) (classed : node.label.cls = cls) :
    ∃ first, firstArgument ast cls = some first ∧ ast.findClass cls = some first := by
  have found : (firstArgument ast cls).isSome = true := by
    rw [firstArgument, List.find?_isSome]
    exact ⟨node, inside, by simpa using classed⟩
  obtain ⟨first, isFirst⟩ := Option.isSome_iff_exists.mp found
  refine ⟨first, isFirst, ?_⟩
  apply KeyedTree.find_eq_of_child
  · simpa [Expression.cls] using root
  · exact isFirst

theorem findClass_eq_none_iff {ast : Expression} {cls : NodeClass} :
    ast.findClass cls = none ↔ ∀ node ∈ ast.nodes, node.label.cls ≠ cls := by
  rw [findClass, KeyedTree.find_eq_none_iff]
  simp

theorem ownWhere_mem {ast own : Expression} (isOwn : ownWhere ast = some own) :
    own ∈ ast.children ∧ own.label.cls = .whereClause := by
  have inside := List.mem_of_find?_eq_some isOwn
  have classed := List.find?_some isOwn
  exact ⟨mem_children_of_mem_under inside, by simpa using classed⟩

theorem targetTable_mem {ast table : Expression} (isTarget : targetTable ast = some table) :
    table ∈ ast.children ∧ table.label.cls = .table := by
  unfold targetTable at isTarget
  split at isTarget
  case h_2 => cases isTarget
  case h_1 candidate single =>
    split at isTarget
    case isFalse => cases isTarget
    case isTrue classed =>
      cases isTarget
      refine ⟨?_, classed⟩
      split at single
      · exact mem_children_of_mem_under (single ▸ List.mem_singleton.mpr rfl)
      · exact mem_children_of_mem_under (single ▸ List.mem_singleton.mpr rfl)

/-- What `classify` reports for a text that is one `UPDATE` or `DELETE`. -/
theorem classify_mutation {glot : Sqlglot} {sql : String} {dialect : Dialect} {ast : Expression}
    (parsed : statements glot sql dialect = .ok [ast])
    (mutation : ast.cls = .update ∨ ast.cls = .delete) :
    (classify glot sql dialect).hasWhere = some (ast.findClass .whereClause).isSome ∧
      (classify glot sql dialect).previewQuery =
        (countQuery ast (ast.findClass .whereClause)).map (glot.sql (some dialect)) := by
  have notTransaction : statementClass ast ∉ transactionClasses := by
    unfold statementClass
    rcases mutation with update | delete
    · rw [update]; decide
    · rw [delete]; decide
  have notSession : isSessionLocalSet glot dialect ast = false := by
    rcases mutation with update | delete
    · simp [isSessionLocalSet, update]
    · simp [isSessionLocalSet, delete]
  have branch : classify glot sql dialect = classifyMutation glot dialect ast := by
    unfold classify
    rw [parsed]
    simp only [classifyStatement, notTransaction, notSession, if_false, Bool.false_eq_true]
    rcases mutation with update | delete
    · rw [update]
    · rw [delete]
  rw [branch]
  unfold classifyMutation buildCountQuery
  cases ast.findClass .whereClause <;> exact ⟨rfl, rfl⟩

/-- The mutation has the class of neither clause the search looks for. -/
theorem mutation_cls_ne {ast : Expression} (mutation : ast.cls = .update ∨ ast.cls = .delete) :
    ast.cls ≠ .whereClause ∧ ast.cls ≠ .table := by
  rcases mutation with update | delete
  · rw [update]; decide
  · rw [delete]; decide

/-- The report and the preview are right on exactly the trees whose clauses are in place. -/
theorem whereAndPreviewAgree_iff (glot : Sqlglot) (sql : String) (dialect : Dialect)
    (ast : Expression) (parsed : statements glot sql dialect = .ok [ast])
    (mutation : ast.cls = .update ∨ ast.cls = .delete) :
    WhereAndPreviewAgree glot sql dialect ast ↔ ClausesInPlace ast := by
  obtain ⟨reported, previewed⟩ := classify_mutation parsed mutation
  obtain ⟨notWhere, notTable⟩ := mutation_cls_ne mutation
  unfold WhereAndPreviewAgree ClausesInPlace
  rw [reported, previewed]
  constructor
  · rintro ⟨detected, table, preview, isTarget, counted, -, shape⟩
    obtain ⟨tableInside, tableClass⟩ := targetTable_mem isTarget
    obtain ⟨first, isFirst, isFound⟩ :=
      findClass_eq_firstArgument notTable tableInside tableClass
    rw [countQuery, isFound, Option.map_some, shape, Option.some_inj, selectCount_inj] at counted
    obtain ⟨rfl, conditions⟩ := counted
    refine ⟨⟨first, isTarget, isFirst⟩, ?_⟩
    cases isOwn : ownWhere ast with
    | none =>
        rw [isOwn] at detected
        rw [← findClass_eq_none_iff]
        simpa using detected
    | some own =>
        obtain ⟨inside, classed⟩ := ownWhere_mem isOwn
        obtain ⟨clause, isClause, clauseFound⟩ :=
          findClass_eq_firstArgument notWhere inside classed
        rw [clauseFound, isOwn] at conditions
        exact ⟨clause, isClause, Option.some.inj conditions⟩
  · rintro ⟨⟨table, isTarget, isFirst⟩, clauses⟩
    obtain ⟨tableInside, tableClass⟩ := targetTable_mem isTarget
    obtain ⟨first, isFirst', isFound⟩ :=
      findClass_eq_firstArgument notTable tableInside tableClass
    rw [isFirst] at isFirst'
    cases isFirst'
    cases isOwn : ownWhere ast with
    | none =>
        rw [isOwn] at clauses
        have missing := findClass_eq_none_iff.mpr clauses
        refine ⟨by simp [missing], table, _, isTarget, ?_, ?_, rfl⟩
        · rw [countQuery, isFound, missing]; rfl
        · rw [countQuery, isFound, missing]; rfl
    | some own =>
        rw [isOwn] at clauses
        obtain ⟨clause, isClause, sameCondition⟩ := clauses
        obtain ⟨inside, classed⟩ := ownWhere_mem isOwn
        obtain ⟨clause', isClause', clauseFound⟩ :=
          findClass_eq_firstArgument notWhere inside classed
        rw [isClause] at isClause'
        cases isClause'
        refine ⟨by simp [clauseFound], table, _, isTarget, ?_, ?_, rfl⟩
        · rw [countQuery, isFound, clauseFound, Option.map_some, Option.map_some, Option.map_some,
            sameCondition]
        · rw [countQuery, isFound, clauseFound, Option.map_some, Option.map_some, Option.map_some,
            Option.map_some, sameCondition]

/-- `DELETE FROM users WHERE id = 7`. -/
def filteredDelete : Expression :=
  build .delete [
    (.this, build .table []),
    (.whereArg, build .whereClause [(.this, build (.other "EQ") [])])]

/-- `UPDATE accounts SET balance = (SELECT amount FROM grants WHERE id = 1)`. -/
def updateFromFilteredSubquery : Expression :=
  build .update [
    (.this, build .table []),
    (.expressions, build (.other "EQ") [
      (.this, build (.other "Column") []),
      (.other "expression", build (.other "Subquery") [
        (.this, build .select [
          (.expressions, build (.other "Column") []),
          (.fromArg, build .fromClause [(.this, build .table [])]),
          (.whereArg, build .whereClause [(.this, build (.other "EQ") [])])])])])]

/-- A parser library that returns one given tree for every text. -/
def singleTreeParser (ast : Expression) : Sqlglot where
  parse _ _ := .ok [some ast]
  sql _ _ := "SELECT COUNT(*) FROM users WHERE id = 7"
  upper := upperAscii

theorem filteredDelete_agrees :
    (filteredDelete.cls = .update ∨ filteredDelete.cls = .delete) ∧
      (WhereAndPreviewAgree (singleTreeParser filteredDelete) "DELETE FROM users WHERE id = 7"
        "postgres" filteredDelete ↔ ClausesInPlace filteredDelete) :=
  ⟨.inr rfl, whereAndPreviewAgree_iff _ _ _ _ rfl (.inr rfl)⟩

/-- The `WHERE` of the subquery is reported as the `WHERE` of the update. -/
theorem updateFromFilteredSubquery_disagrees :
    ¬ WhereAndPreviewAgree (singleTreeParser updateFromFilteredSubquery)
      "UPDATE accounts SET balance = (SELECT amount FROM grants WHERE id = 1)" "postgres"
      updateFromFilteredSubquery := by
  rintro ⟨detected, -⟩
  exact absurd detected (by decide)

end SqlSafetyProxy.Sql
