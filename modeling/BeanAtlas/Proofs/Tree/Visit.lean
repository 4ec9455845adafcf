import BeanAtlas.Tree.Node
import Mathlib.Data.List.Basic

/-!
The nodes of a tree in pre-order. Every node is listed with the nodes that it lies in, and their number is its
depth, so a search or a collection that stops early can be compared with a plain pass over this list.
-/
namespace BeanAtlas

structure Visit where
  /-- The nodes around the node, innermost first. -/
  around : List Node
  node : Node

def Visit.depth (visit : Visit) : Nat := visit.around.length

namespace Node

mutual

/-- A node and all nodes below it, where `around` are the nodes that it lies in. -/
def visitsFrom (around : List Node) : Node → List Visit
  | .node info children =>
    ⟨around, .node info children⟩ :: visitsAmong (.node info children :: around) children

def visitsAmong (around : List Node) : List Node → List Visit
  | [] => []
  | child :: rest => child.visitsFrom around ++ visitsAmong around rest

end

def visits (root : Node) : List Visit := root.visitsFrom []

/-- The nodes of a tree, without those around them. -/
def nodes (root : Node) : List Node := root.visits.map (·.node)

/-- What holds of a node whenever it holds of its children, holds of every node. -/
@[elab_as_elim, induction_eliminator]
theorem child_induction {motive : Node → Prop}
    (node : ∀ info children, (∀ child ∈ children, motive child) → motive (.node info children)) :
    ∀ root : Node, motive root
  | .node info children => node info children fun child _ => child_induction node child

variable {root inner child : Node} {around : List Node} {visit : Visit}

theorem visitsAmong_eq (around : List Node) (children : List Node) :
    visitsAmong around children = children.flatMap (·.visitsFrom around) := by
  induction children with
  | nil => rfl
  | cons child rest ih => rw [visitsAmong, ih, List.flatMap_cons]

theorem visitsFrom_node (around : List Node) (info : NodeInfo) (children : List Node) :
    (Node.node info children).visitsFrom around =
      ⟨around, .node info children⟩ :: children.flatMap (·.visitsFrom (.node info children :: around)) := by
  rw [visitsFrom, visitsAmong_eq]

/-- The nodes around the start are around every node that is visited from it. -/
theorem around_of_mem_visitsFrom (member : visit ∈ root.visitsFrom around) : around <:+ visit.around := by
  induction root generalizing around with
  | node info children ih =>
    rw [visitsFrom_node, List.mem_cons, List.mem_flatMap] at member
    obtain rfl | ⟨child, listed, member⟩ := member
    · exact List.suffix_rfl
    · exact (List.suffix_cons _ _).trans (ih child listed member)

theorem le_depth_of_mem_visitsFrom (member : visit ∈ root.visitsFrom around) : around.length ≤ visit.depth :=
  (around_of_mem_visitsFrom member).length_le

theorem map_node_visitsFrom (around : List Node) (root : Node) :
    (root.visitsFrom around).map (·.node) = root.nodes := by
  suffices same : ∀ other, (root.visitsFrom around).map (·.node) = (root.visitsFrom other).map (·.node) from
    same []
  induction root generalizing around with
  | node info children ih =>
    intro other
    simp only [visitsFrom_node, List.map_cons, List.map_flatMap]
    congr 1
    exact List.flatMap_congr fun child listed => ih child listed _ _

theorem nodes_node (info : NodeInfo) (children : List Node) :
    (Node.node info children).nodes = .node info children :: children.flatMap nodes := by
  simp only [nodes, visits, visitsFrom_node, List.map_cons, List.map_flatMap]
  congr 1
  exact List.flatMap_congr fun child _ => map_node_visitsFrom _ child

theorem mem_nodes : inner ∈ root.nodes ↔ inner = root ∨ ∃ child ∈ root.children, inner ∈ child.nodes := by
  obtain ⟨info, children⟩ := root
  rw [nodes_node, List.mem_cons, List.mem_flatMap, Node.children]

theorem self_mem_nodes (root : Node) : root ∈ root.nodes := mem_nodes.mpr (.inl rfl)

theorem mem_nodes_of_child (listed : child ∈ root.children) (member : inner ∈ child.nodes) :
    inner ∈ root.nodes :=
  mem_nodes.mpr (.inr ⟨child, listed, member⟩)

theorem child_mem_nodes (listed : child ∈ root.children) : child ∈ root.nodes :=
  mem_nodes_of_child listed child.self_mem_nodes

theorem mem_nodes_trans {middle : Node} (member : inner ∈ middle.nodes) (below : middle ∈ root.nodes) :
    inner ∈ root.nodes := by
  induction root with
  | node info children ih =>
    rcases mem_nodes.mp below with rfl | ⟨child, listed, below⟩
    · exact member
    · exact mem_nodes_of_child listed (ih child listed below)

/-! ### The search for a node -/

variable {wanted : Node → Bool}

theorem firstAmong?_eq (wanted : Node → Bool) (levels : Nat) (children : List Node) :
    firstAmong? wanted levels children = children.findSome? (·.first? wanted levels) := by
  induction children with
  | nil => rfl
  | cons child rest ih =>
    rw [firstAmong?, ih, List.findSome?_cons]
    cases child.first? wanted levels <;> rfl

theorem first?_succ (wanted : Node → Bool) (levels : Nat) (root : Node) :
    root.first? wanted (levels + 1) =
      if wanted root then some root else root.children.findSome? (·.first? wanted levels) := by
  obtain ⟨info, children⟩ := root
  rw [first?, firstAmong?_eq, Node.children]

/-- The search finds the first wanted node of the list, down to the depth that it goes to. -/
theorem first?_eq (wanted : Node → Bool) (levels : Nat) (root : Node) (around : List Node) :
    root.first? wanted levels = ((root.visitsFrom around).find? fun visit =>
      visit.depth < around.length + levels && wanted visit.node).map (·.node) := by
  induction levels generalizing root around with
  | zero =>
    have deep : ∀ visit ∈ root.visitsFrom around, ¬ (visit.depth < around.length + 0 && wanted visit.node) := by
      intro visit member
      simp [Nat.not_lt.mpr (le_depth_of_mem_visitsFrom member)]
    rw [List.find?_eq_none.mpr deep]
    cases root
    rfl
  | succ levels ih =>
    obtain ⟨info, children⟩ := root
    have shallow : Visit.depth ⟨around, .node info children⟩ < around.length + (levels + 1) := by
      simp [Visit.depth]
    rw [first?_succ, visitsFrom_node, List.find?_cons]
    cases here : wanted (.node info children) with
    | true => simp [shallow]
    | false =>
      simp only [Bool.and_false, Bool.false_eq_true, if_false, List.find?_flatMap, List.map_findSome?]
      congr 1
      funext child
      rw [ih child (.node info children :: around), List.length_cons, Nat.add_right_comm, Nat.add_assoc]
      rfl

theorem first?_of_wanted (levels : Nat) (here : wanted root) : root.first? wanted (levels + 1) = some root := by
  rw [first?_succ, if_pos here]

theorem first?_of_absent (levels : Nat) (absent : ∀ inner ∈ root.nodes, wanted inner = false) :
    root.first? wanted levels = none := by
  rw [first?_eq wanted levels root [], List.find?_eq_none.mpr, Option.map_none]
  intro visit member
  simp [absent visit.node (List.mem_map_of_mem member)]

end Node
end BeanAtlas
