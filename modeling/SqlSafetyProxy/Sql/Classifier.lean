import SqlSafetyProxy.Sql.Syntax

/-!
# Statement classification

`classify` maps a SQL text to a risk class, the kind of its impact and a
read-only preview that counts the affected rows.
-/

namespace SqlSafetyProxy.Sql

open SqlSafetyProxy.Tree Expression

inductive Severity where
  | low | medium | high | critical
  deriving DecidableEq, Repr

def Severity.value : Severity → String
  | .low => "LOW"
  | .medium => "MEDIUM"
  | .high => "HIGH"
  | .critical => "CRITICAL"

inductive Risk where
  | safe | risky | unknown
  deriving DecidableEq, Repr

inductive ImpactKind where
  | unknown | batch | transaction | session | rows | schema | protocol
  deriving DecidableEq, Repr

structure Classification where
  risk : Risk
  statementType : String
  reason : String
  previewQuery : Option String := none
  impactKind : ImpactKind := .unknown
  targetTable : Option String := none
  hasWhere : Option Bool := none
  severity : Severity := .high
  statementCount : Nat := 1
  deriving DecidableEq, Repr

/-- `needle in text`. -/
def containsText (needle text : String) : Bool :=
  text.toList.tails.any needle.toList.isPrefixOf

/-- Statement classes that only control transactions. -/
def transactionClasses : List String :=
  ["TRANSACTION", "COMMIT", "ROLLBACK", "SAVEPOINT", "RELEASE"]

def statementClass (ast : Expression) : String := upperAscii ast.cls.name

/-- Some item of a `SET` statement has global scope. -/
def hasGlobalScope (glot : Sqlglot) (ast : Expression) : Bool :=
  (ast.under .expressions).any fun (item : Expression) =>
    item.cls == .setItem &&
      (((item.scalar .globalArg).map Scalar.truthy).getD false ||
        glot.upper (match item.scalar .kind with
          | some value => if value.truthy then value.str else ""
          | none => "") == "GLOBAL")

/-- The `SET` statements classified as session-local configuration. -/
def isSessionLocalSet (glot : Sqlglot) (dialect : Dialect) (ast : Expression) : Bool :=
  let normalized := glot.upper (glot.sql (some dialect) ast)
  ast.cls == .set && !hasGlobalScope glot ast && !containsText "PASSWORD" normalized &&
    !containsText "PERSIST" normalized

def tableName (glot : Sqlglot) : Option Expression → Option String
  | none => none
  | some table => some (glot.sql none table)

/-- The tree that `_build_count_query` prints. -/
def countQuery (ast : Expression) (where_ : Option Expression) : Option Expression :=
  (ast.findClass .table).map fun table =>
    selectCount table (where_.map fun clause => clause.arg .this)

def buildCountQuery (glot : Sqlglot) (dialect : Dialect) (ast : Expression)
    (where_ : Option Expression) : Option String :=
  (countQuery ast where_).map (glot.sql (some dialect))

/-- The branch of `classify` for `UPDATE` and `DELETE`. -/
def classifyMutation (glot : Sqlglot) (dialect : Dialect) (ast : Expression) : Classification :=
  let statementType := if ast.cls = .update then "UPDATE" else "DELETE"
  let table := ast.findClass .table
  let where_ := ast.findClass .whereClause
  let previewQuery := buildCountQuery glot dialect ast where_
  match where_ with
  | none =>
      { risk := .risky
        statementType := statementType
        reason := statementType ++ " has no WHERE clause - " ++
          "this will affect every row in the target table"
        previewQuery := previewQuery
        impactKind := .rows
        targetTable := tableName glot table
        hasWhere := some false
        severity := .critical }
  | some _ =>
      { risk := .risky
        statementType := statementType
        reason := statementType ++ " has a WHERE clause - " ++
          "review the matching row count before running"
        previewQuery := previewQuery
        impactKind := .rows
        targetTable := tableName glot table
        hasWhere := some true
        severity := .medium }

/-- The branches of `classify` for one parsed statement. -/
def classifyStatement (glot : Sqlglot) (dialect : Dialect) (ast : Expression) : Classification :=
  if statementClass ast ∈ transactionClasses then
    { risk := .safe
      statementType := statementClass ast
      reason := "Transaction-control statement"
      impactKind := .transaction
      severity := .low }
  else if isSessionLocalSet glot dialect ast then
    { risk := .safe
      statementType := "SET"
      reason := "Session-local configuration statement"
      impactKind := .session
      severity := .low }
  else match ast.cls with
  | .select =>
      { risk := .safe
        statementType := "SELECT"
        reason := "Read-only query"
        impactKind := .rows
        severity := .low }
  | .update => classifyMutation glot dialect ast
  | .delete => classifyMutation glot dialect ast
  | .truncateTable =>
      let table := ast.findClass .table
      { risk := .risky
        statementType := "TRUNCATE"
        reason := "TRUNCATE removes all rows from the target table"
        previewQuery := table.map fun table => glot.sql (some dialect) (selectCount table none)
        impactKind := .rows
        targetTable := tableName glot table
        hasWhere := some false
        severity := .critical }
  | .drop =>
      { risk := .risky
        statementType := "DROP"
        reason := "DROP is a structural and potentially irreversible change"
        impactKind := .schema
        targetTable := tableName glot (ast.findClass .table)
        severity := .critical }
  | .alter =>
      { risk := .risky
        statementType := "ALTER"
        reason := "ALTER changes database structure"
        impactKind := .schema
        targetTable := tableName glot (ast.findClass .table)
        severity := .high }
  | .create =>
      { risk := .risky
        statementType := "CREATE"
        reason := "CREATE changes database structure"
        impactKind := .schema
        targetTable := tableName glot (ast.findClass .table)
        severity := .medium }
  | _ =>
      { risk := .unknown
        statementType := statementClass ast
        reason := "Statement type is not yet covered by a dedicated safety rule"
        severity := .high }

/-- The statements of a text: what `sqlglot.parse` returns without its `None` entries. -/
def statements (glot : Sqlglot) (sql : String) (dialect : Dialect) :
    Except String (List Expression) :=
  (glot.parse sql dialect).map (List.filterMap id)

def classify (glot : Sqlglot) (sql : String) (dialect : Dialect) : Classification :=
  match statements glot sql dialect with
  | .error _ =>
      { risk := .unknown
        statementType := "UNPARSEABLE"
        reason := "Could not parse SQL safely"
        severity := .high
        statementCount := 0 }
  | .ok [] =>
      { risk := .unknown
        statementType := "EMPTY"
        reason := "No SQL statement was found"
        severity := .high
        statementCount := 0 }
  | .ok [ast] => classifyStatement glot dialect ast
  | .ok parsed =>
      { risk := .risky
        statementType := "MULTI_STATEMENT"
        reason := s!"The request contains {parsed.length} SQL statements; " ++
          "batch execution requires a dedicated policy decision"
        impactKind := .batch
        severity := .critical
        statementCount := parsed.length }

end SqlSafetyProxy.Sql
