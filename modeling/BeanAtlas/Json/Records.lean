import BeanAtlas.Json.Reader
import BeanAtlas.Model.Bean

/-!
The records of the model as JSON objects. Members that are absent or empty are left out where the
reader restores them, so that reading what was written gives the record back.
-/
namespace BeanAtlas

open Json (required nullable defaulted)

/-- The member of a list of values whose text is the one read. -/
def Json.oneOf? {α : Type} (values : List α) (wire : α → String) (value : Json) : Option α :=
  value.text?.bind fun text => values.find? (wire · == text)

namespace AnnotationKind

def wire : AnnotationKind → String
  | component => "COMPONENT"
  | service => "SERVICE"
  | repository => "REPOSITORY"
  | controller => "CONTROLLER"
  | restController => "REST_CONTROLLER"
  | configuration => "CONFIGURATION"
  | bean => "BEAN"
  | autowired => "AUTOWIRED"
  | qualifier => "QUALIFIER"
  | value => "VALUE"
  | requiredArgsConstructor => "REQUIRED_ARGS_CONSTRUCTOR"
  | allArgsConstructor => "ALL_ARGS_CONSTRUCTOR"
  | noArgsConstructor => "NO_ARGS_CONSTRUCTOR"
  | data => "DATA"
  | slf4j => "SLF4J"
  | nonNull => "NON_NULL"

def toJson (kind : AnnotationKind) : Json := .str kind.wire

def ofJson? (value : Json) : Option AnnotationKind := value.oneOf? all wire

end AnnotationKind

namespace Visibility

def all : List Visibility := [.public, .protected, .package, .private]

def toJson (visibility : Visibility) : Json := .str visibility.text

def ofJson? (value : Json) : Option Visibility := value.oneOf? all text

end Visibility

namespace InjectionKind

def all : List InjectionKind := [.field, .constructor, .setter, .lombokConstructor, .beanMethod]

def wire : InjectionKind → String
  | .field => "FIELD"
  | .constructor => "CONSTRUCTOR"
  | .setter => "SETTER"
  | .lombokConstructor => "CONSTRUCTOR_LOMBOK"
  | .beanMethod => "BEAN_METHOD"

def toJson (kind : InjectionKind) : Json := .str kind.wire

def ofJson? (value : Json) : Option InjectionKind := value.oneOf? all wire

end InjectionKind

namespace BeanOrigin

def all : List BeanOrigin := [.classDeclaration, .factoryMethod]

def wire : BeanOrigin → String
  | .classDeclaration => "CLASS"
  | .factoryMethod => "METHOD"

def toJson (origin : BeanOrigin) : Json := .str origin.wire

def ofJson? (value : Json) : Option BeanOrigin := value.oneOf? all wire

end BeanOrigin

namespace FilePath

def toJson (path : FilePath) : Json := .str path.spelling

def ofJson? (value : Json) : Option FilePath := value.text?.map FilePath.mk

end FilePath

namespace Position

def toJson (position : Position) : Json :=
  .obj [("line", .nat position.line.toNat), ("column", .nat position.column.toNat)]

def ofJson? (value : Json) : Option Position := do
  let members ← value.members?
  return ⟨← required members "line" Json.uint32?, ← required members "column" Json.uint32?⟩

end Position

namespace Range

def toJson (range : Range) : Json :=
  .obj [("start", range.start.toJson), ("end", range.stop.toJson)]

def ofJson? (value : Json) : Option Range := do
  let members ← value.members?
  return ⟨← required members "start" Position.ofJson?, ← required members "end" Position.ofJson?⟩

end Range

namespace AnnotationUse

/-- The string members of an object, each under its key. -/
def parametersOfJson? (value : Json) : Option (SortedMap String String) := do
  let members ← value.members?
  members.foldlM (fun map (key, member) => member.text?.map (map.insert key)) ∅

def toJson (use : AnnotationUse) : Json :=
  let parameters := use.parameters.entries.map fun (key, text) => (key, Json.str text)
  .obj <|
    [("name", .str use.name), ("kind", use.kind.toJson),
      ("line", .nat use.line.toNat), ("column", .nat use.column.toNat)] ++
    if parameters.isEmpty then [] else [("parameters", .obj parameters)]

def ofJson? (value : Json) : Option AnnotationUse := do
  let members ← value.members?
  return {
    name := ← required members "name" Json.text?
    kind := ← required members "kind" AnnotationKind.ofJson?
    line := ← required members "line" Json.uint32?
    column := ← required members "column" Json.uint32?
    parameters := ← defaulted members "parameters" ∅ parametersOfJson? }

end AnnotationUse

namespace Field

def toJson (field : Field) : Json :=
  .obj <|
    [("name", .str field.name), ("type", .str field.type), ("position", field.position.toJson),
      ("range", field.range.toJson), ("annotations", .arr (field.annotations.map AnnotationUse.toJson))] ++
    Json.optional "visibility" (field.visibility.map Visibility.toJson) ++
    [("isFinal", .bool field.isFinal), ("isStatic", .bool field.isStatic)]

def ofJson? (value : Json) : Option Field := do
  let members ← value.members?
  return {
    name := ← required members "name" Json.text?
    type := ← required members "type" Json.text?
    position := ← required members "position" Position.ofJson?
    range := ← required members "range" Range.ofJson?
    annotations := ← required members "annotations" (Json.listOf? AnnotationUse.ofJson?)
    visibility := ← nullable members "visibility" Visibility.ofJson?
    isFinal := ← required members "isFinal" Json.bool?
    isStatic := ← required members "isStatic" Json.bool? }

end Field

namespace Parameter

def toJson (parameter : Parameter) : Json :=
  .obj <|
    [("name", .str parameter.name), ("type", .str parameter.type)] ++
    Json.optional "position" (parameter.position.map Position.toJson) ++
    Json.optional "range" (parameter.range.map Range.toJson) ++
    Json.optional "index" (parameter.index.map fun index => .nat index.toNat) ++
    Json.nonEmpty "annotations" (parameter.annotations.map AnnotationUse.toJson)

def ofJson? (value : Json) : Option Parameter := do
  let members ← value.members?
  return {
    name := ← required members "name" Json.text?
    type := ← required members "type" Json.text?
    position := ← nullable members "position" Position.ofJson?
    range := ← nullable members "range" Range.ofJson?
    index := ← nullable members "index" Json.uint64?
    annotations := ← defaulted members "annotations" [] (Json.listOf? AnnotationUse.ofJson?) }

end Parameter

namespace Constructor

def toJson (ctor : Constructor) : Json :=
  .obj <|
    [("parameters", .arr (ctor.parameters.map Parameter.toJson)),
      ("position", ctor.position.toJson), ("range", ctor.range.toJson),
      ("hasAutowiredAnnotation", .bool ctor.isAutowired)] ++
    Json.optional "visibility" (ctor.visibility.map Visibility.toJson)

def ofJson? (value : Json) : Option Constructor := do
  let members ← value.members?
  return {
    parameters := ← required members "parameters" (Json.listOf? Parameter.ofJson?)
    position := ← required members "position" Position.ofJson?
    range := ← required members "range" Range.ofJson?
    isAutowired := ← required members "hasAutowiredAnnotation" Json.bool?
    visibility := ← nullable members "visibility" Visibility.ofJson? }

end Constructor

namespace Method

def toJson (method : Method) : Json :=
  .obj <|
    [("name", .str method.name), ("parameters", .arr (method.parameters.map Parameter.toJson)),
      ("position", method.position.toJson), ("range", method.range.toJson),
      ("annotations", .arr (method.annotations.map AnnotationUse.toJson)),
      ("isSetterMethod", .bool method.isSetter)] ++
    Json.optional "visibility" (method.visibility.map Visibility.toJson) ++
    Json.optional "returnType" (method.returnType.map .str)

def ofJson? (value : Json) : Option Method := do
  let members ← value.members?
  return {
    name := ← required members "name" Json.text?
    parameters := ← required members "parameters" (Json.listOf? Parameter.ofJson?)
    position := ← required members "position" Position.ofJson?
    range := ← required members "range" Range.ofJson?
    annotations := ← required members "annotations" (Json.listOf? AnnotationUse.ofJson?)
    isSetter := ← required members "isSetterMethod" Json.bool?
    visibility := ← nullable members "visibility" Visibility.ofJson?
    returnType := ← nullable members "returnType" Json.text? }

end Method

namespace JavaClass

def toJson (info : JavaClass) : Json :=
  .obj <|
    [("name", .str info.name)] ++
    Json.optional "packageName" (info.packageName.map .str) ++
    [("fullyQualifiedName", .str info.qualifiedName), ("fileRef", info.file.toJson),
      ("position", info.position.toJson), ("range", info.range.toJson),
      ("annotations", .arr (info.annotations.map AnnotationUse.toJson)),
      ("fields", .arr (info.fields.map Field.toJson)),
      ("constructors", .arr (info.constructors.map Constructor.toJson)),
      ("methods", .arr (info.methods.map Method.toJson)),
      ("interfaces", .strings info.interfaces), ("imports", .strings info.imports)]

def ofJson? (value : Json) : Option JavaClass := do
  let members ← value.members?
  return {
    name := ← required members "name" Json.text?
    packageName := ← nullable members "packageName" Json.text?
    qualifiedName := ← required members "fullyQualifiedName" Json.text?
    file := ← required members "fileRef" FilePath.ofJson?
    position := ← required members "position" Position.ofJson?
    range := ← required members "range" Range.ofJson?
    annotations := ← required members "annotations" (Json.listOf? AnnotationUse.ofJson?)
    fields := ← required members "fields" (Json.listOf? Field.ofJson?)
    constructors := ← defaulted members "constructors" [] (Json.listOf? Constructor.ofJson?)
    methods := ← defaulted members "methods" [] (Json.listOf? Method.ofJson?)
    interfaces := ← defaulted members "interfaces" [] (Json.listOf? Json.text?)
    imports := ← required members "imports" (Json.listOf? Json.text?) }

end JavaClass

namespace Bean

def toJson (bean : Bean) : Json :=
  .obj <|
    [("name", .str bean.name), ("type", .str bean.type),
      ("implementationClassFqn", .str bean.implementation), ("fileRef", bean.file.toJson),
      ("position", bean.position.toJson), ("definitionKind", bean.origin.toJson),
      ("annotationKind", bean.declaredBy.toJson)] ++
    Json.nonEmpty "interfaces" (bean.interfaces.map .str)

def ofJson? (value : Json) : Option Bean := do
  let members ← value.members?
  return {
    name := ← required members "name" Json.text?
    type := ← required members "type" Json.text?
    implementation := ← required members "implementationClassFqn" Json.text?
    file := ← required members "fileRef" FilePath.ofJson?
    position := ← required members "position" Position.ofJson?
    origin := ← required members "definitionKind" BeanOrigin.ofJson?
    declaredBy := ← required members "annotationKind" AnnotationKind.ofJson?
    interfaces := ← defaulted members "interfaces" [] (Json.listOf? Json.text?) }

end Bean

namespace Injection

def members (injection : Injection) : List (String × Json) :=
  [("targetType", .str injection.targetType), ("injectionKind", injection.kind.toJson),
    ("position", injection.position.toJson), ("range", injection.range.toJson),
    ("targetName", .str injection.targetName)] ++
  Json.optional "qualifier" (injection.qualifier.map .str) ++
  [("ownerClass", .str injection.ownerClass), ("fileRef", injection.file.toJson)] ++
  Json.optional "resolvedBean" (injection.resolved.map Bean.toJson) ++
  Json.optional "candidateBeans" (injection.candidates.map fun beans => .arr (beans.map Bean.toJson))

def toJson (injection : Injection) : Json := .obj injection.members

def ofJson? (value : Json) : Option Injection := do
  let members ← value.members?
  return {
    targetType := ← required members "targetType" Json.text?
    kind := ← required members "injectionKind" InjectionKind.ofJson?
    position := ← required members "position" Position.ofJson?
    range := ← required members "range" Range.ofJson?
    targetName := ← required members "targetName" Json.text?
    qualifier := ← nullable members "qualifier" Json.text?
    ownerClass := ← required members "ownerClass" Json.text?
    file := ← required members "fileRef" FilePath.ofJson?
    resolved := ← nullable members "resolvedBean" Bean.ofJson?
    candidates := ← nullable members "candidateBeans" (Json.listOf? Bean.ofJson?) }

end Injection
end BeanAtlas
