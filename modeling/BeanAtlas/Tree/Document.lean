import BeanAtlas.Tree.Node

/-!
A source text together with its syntax tree, or with the reason why there is none.
-/
namespace BeanAtlas

/-- Why there is no syntax tree. -/
inductive TreeFailure where
  | grammarUnavailable (detail : String)
  | busy
  | noTree
  | notCompilationUnit (position : Position)
  deriving DecidableEq, Repr

def TreeFailure.message : TreeFailure → String
  | .grammarUnavailable detail => "Java grammar could not be loaded: " ++ detail
  | .busy => "Java parser is already in use on this thread"
  | .noTree => "Parser did not produce a syntax tree"
  | .notCompilationUnit position =>
    "Source is not a Java compilation unit (syntax error at " ++ position.text ++ ")"

structure Document where
  source : Source
  tree : Except TreeFailure Node

/-- A document with a given tree, which has to be that of a compilation unit. -/
def Document.ofTree (text : String) (root : Node) : Document :=
  let source := Source.of text
  { source
    tree :=
      if root.info.isError || root.kind != "program" then
        .error (.notCompilationUnit (root.position source))
      else .ok root }

end BeanAtlas
