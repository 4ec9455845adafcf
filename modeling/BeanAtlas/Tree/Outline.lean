import BeanAtlas.Tree.Node

/-!
A syntax tree written as an outline: its nodes in pre-order, each with its depth.
-/
namespace BeanAtlas.Node

/-- The trees of an outline, each with the depth of its root. The nodes that follow a node and are
deeper are its children with theirs. -/
def ofOutline : List (Nat × NodeInfo) → List (Nat × Node)
  | [] => []
  | (depth, info) :: rest =>
    let later := ofOutline rest
    let inner := later.takeWhile (depth < ·.1)
    (depth, .node info (inner.map (·.2))) :: later.drop inner.length

end BeanAtlas.Node
