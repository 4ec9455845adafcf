import BeanAtlas.Text.Blank
import BeanAtlas.Tree.Node

/-!
The malformed places of a source that could still be read: one warning for every error or missing node
that lies in no other.
-/
namespace BeanAtlas

structure SyntaxWarning where
  message : String
  position : Position
  deriving DecidableEq, Repr

def SyntaxWarning.text (warning : SyntaxWarning) : String :=
  warning.message ++ " at " ++ warning.position.text

namespace Node

/-- The first characters of an error node are quoted in its warning. -/
def quotedLength : Nat := 30

def errorMessage (node : Node) (source : Source) : String :=
  let text := String.ofList (((node.text? source).getD "").toList.take quotedLength)
  let shown := Text.trim text
  if shown.isEmpty then "Syntax error" else "Syntax error near '" ++ shown ++ "'"

mutual

/-- The warnings of a node, among `levels` levels starting at this one. -/
def warningsWithin (source : Source) (levels : Nat) : Node → List SyntaxWarning
  | .node info children =>
    match levels with
    | 0 => []
    | levels + 1 =>
      let node := Node.node info children
      if info.isError then [⟨node.errorMessage source, node.position source⟩]
      else if info.isMissing then [⟨"Expected " ++ info.kind, node.position source⟩]
      else warningsAmong source levels children

def warningsAmong (source : Source) (levels : Nat) : List Node → List SyntaxWarning
  | [] => []
  | child :: rest =>
    (if child.info.hasError || child.info.isMissing then warningsWithin source levels child else []) ++
      warningsAmong source levels rest

end

def warnings (root : Node) (source : Source) : List SyntaxWarning :=
  if root.info.hasError then root.warningsWithin source (searchDepth + 1) else []

end Node
end BeanAtlas
