import BeanAtlas.Extract.Member
import BeanAtlas.TypeText

/-!
The classes of a compilation unit: those declared directly in it and, behind each, the classes
declared directly in its body. Classes inside interfaces, enums, records, methods and blocks are not
among them.
-/
namespace BeanAtlas.Extract

mutual

/-- The identifiers of a dotted name, in order. -/
def identifiers (source : Source) : Node → List String
  | .node info children =>
    if info.kind == "identifier" then ((Node.node info children).text? source).toList
    else identifiersAmong source children

def identifiersAmong (source : Source) : List Node → List String
  | [] => []
  | child :: rest =>
    (if child.info.isNamed then identifiers source child else []) ++ identifiersAmong source rest

end

/-- The dotted name that a package or import declaration gives. -/
def declaredName? (declaration : Node) (source : Source) : Option String := do
  let name ← declaration.namedChildren.find? fun child =>
    child.kind == "scoped_identifier" || child.kind == "identifier"
  match identifiers source name with
  | [] => none
  | parts => return ".".intercalate parts

def importPath? (declaration : Node) (source : Source) : Option String := do
  let path ← declaredName? declaration source
  return if (declaration.childOfKind? "asterisk").isSome then path ++ ".*" else path

/-- The implemented interfaces without their type arguments. -/
def interfaces (declaration : Node) (source : Source) : List String :=
  match (declaration.childAt? "interfaces").bind (·.childOfKind? "type_list") with
  | none => []
  | some list =>
    (list.namedChildren.filterMap (·.text? source)).map TypeText.erased |>.filter (!·.isEmpty)

/-- What all classes of a compilation unit share. -/
structure Unit where
  file : FilePath
  source : Source
  lines : List String
  packageName : Option String
  imports : List String

def Unit.of (file : FilePath) (source : Source) (root : Node) : Unit where
  file := file
  source := source
  lines := Text.lines source.text
  packageName := (root.childOfKind? "package_declaration").bind (declaredName? · source)
  imports := (root.childrenOfKind "import_declaration").filterMap (importPath? · source)

/-- A name inside a scope; the empty scope is none. -/
def qualified (scope name : String) : String :=
  if scope.isEmpty then name else scope ++ "." ++ name

/-- The class that a declaration stands for, without the classes nested in it. -/
def classInfo? (unit : Unit) (scope : String) (declaration : Node) : Option JavaClass := do
  let nameNode ← declaration.childAt? "name"
  let name ← nameNode.text? unit.source
  let members := ((declaration.childAt? "body").map (·.namedChildren)).getD []
  let ofKind (kind : String) := members.filter (·.kind == kind)
  return {
    name
    packageName := unit.packageName
    qualifiedName := qualified scope name
    file := unit.file
    position := nameNode.position unit.source
    range := declaration.range unit.source
    annotations := annotations declaration unit.source
    fields := (ofKind "field_declaration").flatMap (fields · unit.source)
    constructors := (ofKind "constructor_declaration").filterMap
      (constructor? · unit.source unit.lines name)
    methods := (ofKind "method_declaration").filterMap (method? · unit.source)
    interfaces := interfaces declaration unit.source
    imports := unit.imports }

def isClass (node : Node) : Bool := node.kind == "class_declaration"

mutual

/-- A class and the classes nested in it, outer ones first. -/
def classes (unit : Unit) (scope : String) : Node → List JavaClass
  | .node info children =>
    match classInfo? unit scope (.node info children) with
    | none => []
    | some found => found :: bodyClasses unit found.qualifiedName children

/-- The classes declared in the body among the parts of a class declaration. -/
def bodyClasses (unit : Unit) (scope : String) : List Node → List JavaClass
  | [] => []
  | .node info members :: rest =>
    if info.field == some "body" then memberClasses unit scope members
    else bodyClasses unit scope rest

def memberClasses (unit : Unit) (scope : String) : List Node → List JavaClass
  | [] => []
  | member :: rest =>
    (if member.info.isNamed && isClass member then classes unit scope member else []) ++
      memberClasses unit scope rest

end

/-- All classes of a compilation unit. -/
def unitClasses (file : FilePath) (source : Source) (root : Node) : List JavaClass :=
  let unit := Unit.of file source root
  (root.children.filter isClass).flatMap (classes unit (unit.packageName.getD ""))

end BeanAtlas.Extract
