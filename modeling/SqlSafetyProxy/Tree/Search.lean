import Mathlib.Algebra.Order.Ring.Nat
import Mathlib.Data.List.Basic

/-!
# Breadth-first search in keyed trees

A node carries a label and an ordered sequence of keyed subtrees.  The search
visits a queue of subtrees, appending the subtrees of each visited node at the
end of the queue.
-/

namespace SqlSafetyProxy.Tree

mutual

/-- A labelled node with its keyed subtrees. -/
inductive KeyedTree (γ κ : Type) : Type where
  | node (label : γ) (branches : Branches γ κ)

/-- The keyed subtrees of a node, in order. -/
inductive Branches (γ κ : Type) : Type where
  | nil
  | cons (key : κ) (tree : KeyedTree γ κ) (rest : Branches γ κ)

end

deriving instance DecidableEq for KeyedTree, Branches

variable {γ κ : Type}

def Branches.toList : Branches γ κ → List (κ × KeyedTree γ κ)
  | .nil => []
  | .cons key tree rest => (key, tree) :: rest.toList

def Branches.ofList : List (κ × KeyedTree γ κ) → Branches γ κ
  | [] => .nil
  | (key, tree) :: rest => .cons key tree (ofList rest)

namespace KeyedTree

def label : KeyedTree γ κ → γ
  | .node label _ => label

def branches : KeyedTree γ κ → Branches γ κ
  | .node _ branches => branches

/-- The direct subtrees, in order. -/
def children (tree : KeyedTree γ κ) : List (KeyedTree γ κ) :=
  tree.branches.toList.map Prod.snd

/-- The direct subtrees stored under one key, in order. -/
def under [DecidableEq κ] (tree : KeyedTree γ κ) (key : κ) : List (KeyedTree γ κ) :=
  (tree.branches.toList.filter fun entry => entry.1 == key).map Prod.snd

end KeyedTree

mutual

/-- Every subtree of a tree, itself included. -/
def KeyedTree.nodes : KeyedTree γ κ → List (KeyedTree γ κ)
  | .node label branches => .node label branches :: branches.nodes

def Branches.nodes : Branches γ κ → List (KeyedTree γ κ)
  | .nil => []
  | .cons _ tree rest => tree.nodes ++ rest.nodes

end

mutual

def KeyedTree.size : KeyedTree γ κ → Nat
  | .node _ branches => branches.size + 1

def Branches.size : Branches γ κ → Nat
  | .nil => 0
  | .cons _ tree rest => tree.size + rest.size

end

namespace KeyedTree

/-- Visit a queue of trees, breadth first, for at most `fuel` nodes. -/
def visit : Nat → List (KeyedTree γ κ) → List (KeyedTree γ κ)
  | 0, _ => []
  | _ + 1, [] => []
  | fuel + 1, tree :: queue => tree :: visit fuel (queue ++ tree.children)

/-- All nodes of a tree in breadth-first order, the root first. -/
def bfs (tree : KeyedTree γ κ) : List (KeyedTree γ κ) :=
  visit tree.size [tree]

/-- The first node in breadth-first order whose label satisfies the test. -/
def find (tree : KeyedTree γ κ) (test : γ → Bool) : Option (KeyedTree γ κ) :=
  tree.bfs.find? fun node => test node.label

/-! ## The search visits exactly the nodes of the tree -/

/-- The nodes below the root. -/
def descendants (tree : KeyedTree γ κ) : List (KeyedTree γ κ) :=
  tree.branches.nodes

theorem nodes_eq (tree : KeyedTree γ κ) : tree.nodes = tree :: tree.descendants := by
  cases tree with
  | node label branches => simp [nodes, descendants, KeyedTree.branches]

theorem branches_nodes_eq : ∀ branches : Branches γ κ,
    branches.nodes = (branches.toList.map Prod.snd).flatMap KeyedTree.nodes
  | .nil => by simp [Branches.nodes, Branches.toList]
  | .cons key tree rest => by
      simp [Branches.nodes, Branches.toList, branches_nodes_eq rest]

theorem descendants_eq (tree : KeyedTree γ κ) :
    tree.descendants = tree.children.flatMap KeyedTree.nodes :=
  branches_nodes_eq tree.branches

theorem branches_size_eq : ∀ branches : Branches γ κ,
    branches.size = ((branches.toList.map Prod.snd).map KeyedTree.size).sum
  | .nil => by simp [Branches.size, Branches.toList]
  | .cons key tree rest => by
      simp [Branches.size, Branches.toList, branches_size_eq rest]

theorem size_eq (tree : KeyedTree γ κ) :
    tree.size = (tree.children.map KeyedTree.size).sum + 1 := by
  cases tree with
  | node label branches =>
      simp [size, children, KeyedTree.branches, branches_size_eq, Function.comp_def]

/-- With fuel for the whole queue, the visited nodes are the nodes of its trees. -/
theorem mem_visit_iff {fuel : Nat} {queue : List (KeyedTree γ κ)} {node : KeyedTree γ κ}
    (enough : (queue.map KeyedTree.size).sum ≤ fuel) :
    node ∈ visit fuel queue ↔ ∃ tree ∈ queue, node ∈ tree.nodes := by
  induction fuel generalizing queue with
  | zero =>
      cases queue with
      | nil => simp [visit]
      | cons tree queue =>
          rw [List.map_cons, List.sum_cons, size_eq] at enough
          omega
  | succ fuel ih =>
      cases queue with
      | nil => simp [visit]
      | cons tree queue =>
          have rest : ((queue ++ tree.children).map KeyedTree.size).sum ≤ fuel := by
            rw [List.map_cons, List.sum_cons, size_eq] at enough
            rw [List.map_append, List.sum_append]
            omega
          have split : node ∈ tree.nodes ↔
              node = tree ∨ ∃ child ∈ tree.children, node ∈ child.nodes := by
            rw [nodes_eq, descendants_eq, List.mem_cons, List.mem_flatMap]
          simp only [visit, List.mem_cons, ih rest, List.mem_append, or_and_right, exists_or,
            exists_eq_left, split]
          rw [or_assoc]
          exact or_congr_right or_comm

theorem mem_bfs_iff {tree node : KeyedTree γ κ} : node ∈ tree.bfs ↔ node ∈ tree.nodes := by
  rw [bfs, mem_visit_iff (by simp)]
  simp

/-- The search fails exactly when no node passes the test. -/
theorem find_eq_none_iff {tree : KeyedTree γ κ} {test : γ → Bool} :
    tree.find test = none ↔ ∀ node ∈ tree.nodes, test node.label = false := by
  simp [find, List.find?_eq_none, mem_bfs_iff]

/-! ## The direct subtrees come before everything deeper -/

theorem size_pos (tree : KeyedTree γ κ) : 0 < tree.size := by
  rw [size_eq]
  exact Nat.succ_pos _

theorem length_le_size_sum (queue : List (KeyedTree γ κ)) :
    queue.length ≤ (queue.map KeyedTree.size).sum := by
  induction queue with
  | nil => exact Nat.le_refl _
  | cons tree queue ih =>
      have positive := size_pos tree
      rw [List.length_cons, List.map_cons, List.sum_cons]
      omega

/-- The trees queued first are visited first. -/
theorem visit_append (fuel : Nat) (first later : List (KeyedTree γ κ))
    (enough : first.length ≤ fuel) :
    ∃ rest, visit fuel (first ++ later) = first ++ rest := by
  induction first generalizing fuel later with
  | nil => exact ⟨visit fuel later, rfl⟩
  | cons tree first ih =>
      cases fuel with
      | zero => simp at enough
      | succ fuel =>
          obtain ⟨rest, visited⟩ := ih fuel (later ++ tree.children)
            (Nat.le_of_succ_le_succ enough)
          refine ⟨rest, ?_⟩
          simp only [List.cons_append, visit, List.append_assoc, visited]

theorem bfs_eq (tree : KeyedTree γ κ) : ∃ rest, tree.bfs = tree :: (tree.children ++ rest) := by
  have enough := length_le_size_sum tree.children
  obtain ⟨rest, visited⟩ := visit_append (tree.children.map KeyedTree.size).sum tree.children []
    enough
  refine ⟨rest, ?_⟩
  rw [bfs, size_eq]
  simp only [visit, List.nil_append]
  rw [List.append_nil] at visited
  rw [visited]

/-- A direct subtree that passes the test hides everything deeper from the search. -/
theorem find_eq_of_child {tree : KeyedTree γ κ} {test : γ → Bool} {found : KeyedTree γ κ}
    (root : test tree.label = false)
    (first : tree.children.find? (fun node => test node.label) = some found) :
    tree.find test = some found := by
  obtain ⟨rest, order⟩ := bfs_eq tree
  rw [find, order, List.find?_cons, root, List.find?_append, first]
  rfl

end KeyedTree

end SqlSafetyProxy.Tree
