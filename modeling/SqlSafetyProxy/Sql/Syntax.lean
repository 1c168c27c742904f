import SqlSafetyProxy.Tree.Search

/-!
# SQL syntax trees

The parser library returns one typed tree for each statement of a text.  A node
has a class, scalar arguments and keyed subtrees; the library searches a tree
breadth first and prints it back as SQL.  Parsing and printing are parameters
of the development, the tree and the search are not.
-/

namespace SqlSafetyProxy.Sql

open SqlSafetyProxy.Tree

/-- Node classes the classifier distinguishes; any other class is known by its name. -/
inductive NodeClass where
  | select | insert | update | delete | merge | into
  | create | drop | alter | truncateTable
  | set | setItem | table | whereClause | fromClause | count | star
  | other (name : String)
  deriving DecidableEq, Repr

/-- `type(ast).__name__`. -/
def NodeClass.name : NodeClass → String
  | .select => "Select"
  | .insert => "Insert"
  | .update => "Update"
  | .delete => "Delete"
  | .merge => "Merge"
  | .into => "Into"
  | .create => "Create"
  | .drop => "Drop"
  | .alter => "Alter"
  | .truncateTable => "TruncateTable"
  | .set => "Set"
  | .setItem => "SetItem"
  | .table => "Table"
  | .whereClause => "Where"
  | .fromClause => "From"
  | .count => "Count"
  | .star => "Star"
  | .other name => name

/-- Argument names of a node. -/
inductive ArgKey where
  | this | expressions | tables | whereArg | fromArg | globalArg | kind
  | other (name : String)
  deriving DecidableEq, Repr

/-- Arguments that are not subtrees. -/
inductive Scalar where
  | flag (value : Bool)
  | text (value : String)
  deriving DecidableEq, Repr

def Scalar.truthy : Scalar → Bool
  | .flag value => value
  | .text value => value != ""

/-- `str(value)`. -/
def Scalar.str : Scalar → String
  | .flag true => "True"
  | .flag false => "False"
  | .text value => value

structure Label where
  cls : NodeClass
  scalars : List (ArgKey × Scalar) := []
  deriving DecidableEq, Repr

abbrev Expression := KeyedTree Label ArgKey

namespace Expression

def build (cls : NodeClass) (args : List (ArgKey × Expression)) : Expression :=
  .node { cls := cls } (Branches.ofList args)

def cls (ast : Expression) : NodeClass := ast.label.cls

/-- `args.get(key)` for an argument that is not a subtree. -/
def scalar (ast : Expression) (key : ArgKey) : Option Scalar :=
  (ast.label.scalars.find? fun entry => entry.1 == key).map Prod.snd

/-- `args.get(key)` for an argument that is one subtree. -/
def arg (ast : Expression) (key : ArgKey) : Option Expression :=
  (ast.under key).head?

/-- `find(cls)`: the first node of the class in breadth-first order. -/
def findClass (ast : Expression) (cls : NodeClass) : Option Expression :=
  ast.find fun label => label.cls == cls

/-- `exp.select("COUNT(*)").from_(table)`, filtered when a condition is given. -/
def selectCount (table : Expression) (condition : Option (Option Expression)) : Expression :=
  build .select (
    [(.expressions, build .count [(.this, build .star [])]),
      (.fromArg, build .fromClause [(.this, table)])] ++
    match condition with
    | none => []
    | some none => [(.whereArg, build .whereClause [])]
    | some (some this) => [(.whereArg, build .whereClause [(.this, this)])])

theorem selectCount_inj {table table' : Expression}
    {condition condition' : Option (Option Expression)} :
    selectCount table condition = selectCount table' condition' ↔
      table = table' ∧ condition = condition' := by
  constructor
  · intro same
    rcases condition with _ | _ | this <;> rcases condition' with _ | _ | this' <;>
      simp_all [selectCount, build, Branches.ofList]
  · rintro ⟨rfl, rfl⟩
    rfl

end Expression

/-- `str.upper` on ASCII text. -/
def upperAscii (text : String) : String :=
  String.ofList (text.toList.map Char.toUpper)

abbrev Dialect := String

/-- The parser library: `parse` may raise, `sql` prints a tree, `upper` is `str.upper`. -/
structure Sqlglot where
  parse : String → Dialect → Except String (List (Option Expression))
  sql : Option Dialect → Expression → String
  upper : String → String

end SqlSafetyProxy.Sql
