import BeanAtlas.Extract.Annotation
import BeanAtlas.Model.Class
import BeanAtlas.Source.Locate

/-!
Fields, constructors and methods read from the members of a class body. A member without one of its
necessary parts yields nothing.
-/
namespace BeanAtlas.Extract

/-- The modifier keywords that matter here. -/
structure Modifiers where
  visibility : Visibility := .package
  isFinal : Bool := false
  isStatic : Bool := false
  deriving DecidableEq

/-- The effect of one child of a `modifiers` node; of several visibilities the last counts. -/
def Modifiers.with (modifiers : Modifiers) (kind : String) : Modifiers :=
  if kind == "public" then { modifiers with visibility := .public }
  else if kind == "protected" then { modifiers with visibility := .protected }
  else if kind == "private" then { modifiers with visibility := .private }
  else if kind == "final" then { modifiers with isFinal := true }
  else if kind == "static" then { modifiers with isStatic := true }
  else modifiers

def Modifiers.of (declaration : Node) : Modifiers :=
  match declaration.childOfKind? "modifiers" with
  | some node => (node.children.map (·.kind)).foldl Modifiers.with {}
  | none => {}

/-- The text of a type with every run of blanks as one space. -/
def typeText? (node : Node) (source : Source) : Option String :=
  (node.text? source).map Text.squeeze

/-- A type and the array brackets behind the name it declares. -/
def withDimensions? (type : String) (declarator : Node) (source : Source) : Option String :=
  match declarator.childAt? "dimensions" with
  | some dimensions => (dimensions.text? source).map (type ++ ·)
  | none => some type

/-- One field for each declarator. -/
def fields (node : Node) (source : Source) : List Field :=
  match (node.childAt? "type").bind (typeText? · source) with
  | none => []
  | some type =>
    let modifiers := Modifiers.of node
    (node.childrenAt "declarator").filterMap fun declarator => do
      let nameNode ← declarator.childAt? "name"
      let name ← nameNode.text? source
      let type ← withDimensions? type declarator source
      return {
        name
        type
        position := nameNode.position source
        range := node.range source
        annotations := annotations node source
        visibility := some modifiers.visibility
        isFinal := modifiers.isFinal
        isStatic := modifiers.isStatic }

def formalParameter? (node : Node) (source : Source) : Option Parameter := do
  let typeNode ← node.childAt? "type"
  let nameNode ← node.childAt? "name"
  let name ← nameNode.text? source
  let type ← typeText? typeNode source
  let type ← withDimensions? type node source
  return {
    name
    type
    position := some (nameNode.position source)
    range := some (node.range source)
    annotations := annotations node source }

/-- A variable-arity parameter. Its type is the first named child besides modifiers and declarator. -/
def spreadParameter? (node : Node) (source : Source) : Option Parameter := do
  let declarator ← node.childOfKind? "variable_declarator"
  let nameNode ← declarator.childAt? "name"
  let name ← nameNode.text? source
  let typeNode ← node.namedChildren.find? fun child =>
    child.kind != "modifiers" && child.kind != "variable_declarator"
  let type ← typeText? typeNode source
  return {
    name
    type := type ++ "..."
    position := some (nameNode.position source)
    range := some (node.range source)
    annotations := annotations node source }

def parameter? (node : Node) (source : Source) : Option Parameter :=
  if node.kind == "formal_parameter" then formalParameter? node source
  else if node.kind == "spread_parameter" then spreadParameter? node source
  else none

/-- The parameters of a list, numbered from zero. -/
def parameters (list : Node) (source : Source) : List Parameter :=
  Parameter.numbered (list.namedChildren.filterMap (parameter? · source))

/-- A constructor. Its place is that of its name, else the first line with the class name and an
opening parenthesis. -/
def constructor? (node : Node) (source : Source) (lines : List String) (className : String) :
    Option Constructor := do
  let list ← node.childAt? "parameters"
  return {
    parameters := parameters list source
    position := Source.locate lines ((node.childAt? "name").map (·.position source)) (className ++ "(")
    range := node.range source
    isAutowired := AnnotationUse.has (annotations node source) .autowired
    visibility := some (Modifiers.of node).visibility }

def method? (node : Node) (source : Source) : Option Method := do
  let nameNode ← node.childAt? "name"
  let name ← nameNode.text? source
  let list ← node.childAt? "parameters"
  let found := parameters list source
  return {
    name
    parameters := found
    position := nameNode.position source
    range := node.range source
    annotations := annotations node source
    isSetter := Method.isSetterShape name found.length
    visibility := some (Modifiers.of node).visibility
    returnType := (node.childAt? "type").bind (typeText? · source) }

end BeanAtlas.Extract
