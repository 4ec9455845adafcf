import BeanAtlas.Model.Annotation
import BeanAtlas.Text.Search
import BeanAtlas.Tree.Node

/-!
The known annotations of a declaration, in source order, with the string argument of each.
-/
namespace BeanAtlas.Extract

def isComment (node : Node) : Bool := "comment".toList.isSuffixOf node.kind.toList

def isStringLiteral (node : Node) : Bool := node.kind == "string_literal"

/-- The content of a string literal or text block, without the line feeds at its ends. -/
def unquote (literal : String) : String :=
  let cs := Text.dropBlanks literal.toList
  let block := (Text.stripStart? ['"', '"', '"'] cs).bind (Text.stripEnd? ['"', '"', '"'])
  let plain := (Text.stripStart? ['"'] cs).bind (Text.stripEnd? ['"'])
  let inner := (block <|> plain).getD cs
  let isFeed : Char → Bool := (· == '\n')
  String.ofList ((inner.dropWhile isFeed).reverse.dropWhile isFeed).reverse

/-- The string argument of an annotation: its only argument, when that is a literal, else the first
literal anywhere in the argument list. -/
def stringArgument? (arguments : Node) (source : Source) : Option String :=
  match arguments.namedChildren.filter (!isComment ·) with
  | [only] =>
    if isStringLiteral only then (only.text? source).map unquote else searched
  | _ => searched
where
  searched : Option String := do
    let literal ← arguments.first? isStringLiteral (Node.searchDepth + 1)
    (literal.text? source).map unquote

/-- The last segment of a name that may be qualified. -/
def simpleName (name : String) : String :=
  let cs := (Text.dropBlanks name.toList).dropWhile (· == '@')
  String.ofList (Text.dropBlanks (Text.afterLast '.' cs))

/-- The annotation that a node stands for, when it is one of the known ones. -/
def annotationUse? (node : Node) (source : Source) : Option AnnotationUse := do
  if node.kind != "annotation" && node.kind != "marker_annotation" then none
  else
    let name ← (← node.childAt? "name").text? source
    let simple := simpleName name
    let kind ← AnnotationKind.ofName? simple
    let plain := AnnotationUse.new simple kind (node.position source)
    match (node.childAt? "arguments").bind (stringArgument? · source) with
    | some value => return plain.withValue value
    | none => return plain

/-- The annotations among the modifiers of a declaration. -/
def annotations (declaration : Node) (source : Source) : List AnnotationUse :=
  match declaration.childOfKind? "modifiers" with
  | some modifiers => modifiers.namedChildren.filterMap (annotationUse? · source)
  | none => []

end BeanAtlas.Extract
