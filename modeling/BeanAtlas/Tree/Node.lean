import BeanAtlas.Source.Text

/-!
Concrete syntax trees. A node has a kind, a span of bytes in its source, and may fill a field of its
parent. Tokens are nodes too; those with a kind of their own are named, keywords and punctuation are
not. Comments are named nodes that may stand between any two children. Where the source is malformed,
error nodes hold what fits nowhere and missing nodes, of no width, stand for what was expected.
-/
namespace BeanAtlas

structure NodeInfo where
  kind : String
  field : Option String := none
  start : Nat
  stop : Nat
  isNamed : Bool := true
  isError : Bool := false
  isMissing : Bool := false
  /-- The node is, or contains, an error or missing node. -/
  hasError : Bool := false
  deriving DecidableEq, Repr, Inhabited

inductive Node where
  | node (info : NodeInfo) (children : List Node)
  deriving Inhabited

namespace Node

def info : Node → NodeInfo
  | .node info _ => info

def children : Node → List Node
  | .node _ children => children

def kind (node : Node) : String := node.info.kind

def namedChildren (node : Node) : List Node := node.children.filter (·.info.isNamed)

def childOfKind? (node : Node) (kind : String) : Option Node := node.children.find? (·.kind == kind)

def childrenOfKind (node : Node) (kind : String) : List Node := node.children.filter (·.kind == kind)

/-- The first child that fills a field. -/
def childAt? (node : Node) (field : String) : Option Node :=
  node.children.find? (·.info.field == some field)

/-- All children that fill a field. -/
def childrenAt (node : Node) (field : String) : List Node :=
  node.children.filter (·.info.field == some field)

/-- The node as filler of a field. -/
def inField (node : Node) (field : String) : Node :=
  .node { node.info with field := some field } node.children

/-- The source text of a node; `none` when its ends fall inside characters. -/
def text? (node : Node) (source : Source) : Option String :=
  source.slice? node.info.start node.info.stop

def position (node : Node) (source : Source) : Position :=
  source.positionAt node.info.start

def range (node : Node) (source : Source) : Range :=
  ⟨node.position source, source.positionAt node.info.stop⟩

mutual

/-- The first node in pre-order that satisfies `wanted`, among `levels` levels starting at this one. -/
def first? (wanted : Node → Bool) (levels : Nat) : Node → Option Node
  | .node info children =>
    match levels with
    | 0 => none
    | levels + 1 =>
      if wanted (.node info children) then some (.node info children)
      else firstAmong? wanted levels children

def firstAmong? (wanted : Node → Bool) (levels : Nat) : List Node → Option Node
  | [] => none
  | child :: rest =>
    match first? wanted levels child with
    | some found => some found
    | none => firstAmong? wanted levels rest

end

/-- Searches go this many levels below the node they start at. -/
def searchDepth : Nat := 200

end Node
end BeanAtlas
