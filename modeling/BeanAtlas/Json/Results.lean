import BeanAtlas.Json.Records
import BeanAtlas.Workspace

/-!
The results of an analysis as JSON objects.
-/
namespace BeanAtlas

open Json (required nullable defaulted)

namespace SyntaxWarning

def toJson (warning : SyntaxWarning) : Json :=
  .obj [("message", .str warning.message), ("position", warning.position.toJson)]

def ofJson? (value : Json) : Option SyntaxWarning := do
  let members ← value.members?
  return ⟨← required members "message" Json.text?, ← required members "position" Position.ofJson?⟩

end SyntaxWarning

namespace Lombok.VirtualConstructor

def toJson (ctor : VirtualConstructor) : Json :=
  .obj [("parameters", .arr (ctor.parameters.map Parameter.toJson)), ("range", ctor.range.toJson),
    ("lombokKind", ctor.kind.toJson), ("annotationSource", .str ctor.annotationSource),
    ("visibility", ctor.visibility.toJson), ("isVirtual", .bool ctor.isVirtual),
    ("position", ctor.position.toJson)]

def ofJson? (value : Json) : Option VirtualConstructor := do
  let members ← value.members?
  return {
    parameters := ← required members "parameters" (Json.listOf? Parameter.ofJson?)
    range := ← required members "range" Range.ofJson?
    kind := ← required members "lombokKind" AnnotationKind.ofJson?
    annotationSource := ← required members "annotationSource" Json.text?
    visibility := ← required members "visibility" Visibility.ofJson?
    isVirtual := ← required members "isVirtual" Json.bool?
    position := ← required members "position" Position.ofJson? }

end Lombok.VirtualConstructor

namespace Lombok.FieldAnalysis

def toJson (field : FieldAnalysis) : Json :=
  .obj [("name", .str field.name), ("type", .str field.type), ("isFinal", .bool field.isFinal),
    ("isStatic", .bool field.isStatic), ("isNonNull", .bool field.isNonNull),
    ("inRequiredArgs", .bool field.inRequiredArgs), ("inAllArgs", .bool field.inAllArgs)]

def ofJson? (value : Json) : Option FieldAnalysis := do
  let members ← value.members?
  return {
    name := ← required members "name" Json.text?
    type := ← required members "type" Json.text?
    isFinal := ← required members "isFinal" Json.bool?
    isStatic := ← required members "isStatic" Json.bool?
    isNonNull := ← required members "isNonNull" Json.bool?
    inRequiredArgs := ← required members "inRequiredArgs" Json.bool?
    inAllArgs := ← required members "inAllArgs" Json.bool? }

end Lombok.FieldAnalysis

namespace Lombok.Simulation

def toJson (simulation : Simulation) : Json :=
  .obj [("virtualConstructors", .arr (simulation.constructors.map VirtualConstructor.toJson)),
    ("fieldAnalysis", .arr (simulation.fields.map FieldAnalysis.toJson)),
    ("isSuccess", .bool simulation.isSuccess), ("errors", .strings simulation.errors)]

def ofJson? (value : Json) : Option Simulation := do
  let members ← value.members?
  return {
    constructors := ← required members "virtualConstructors" (Json.listOf? VirtualConstructor.ofJson?)
    fields := ← required members "fieldAnalysis" (Json.listOf? FieldAnalysis.ofJson?)
    isSuccess := ← required members "isSuccess" Json.bool?
    errors := ← required members "errors" (Json.listOf? Json.text?) }

end Lombok.Simulation

namespace Resolution

def toJson (resolution : Resolution) : Json :=
  .obj <|
    Json.optional "resolved" (resolution.resolved.map Bean.toJson) ++
    [("candidates", .arr (resolution.candidates.map Bean.toJson))] ++
    if resolution.collection then [("collection", .bool true)] else []

def ofJson? (value : Json) : Option Resolution := do
  let members ← value.members?
  return {
    resolved := ← nullable members "resolved" Bean.ofJson?
    candidates := ← required members "candidates" (Json.listOf? Bean.ofJson?)
    collection := ← defaulted members "collection" false Json.bool? }

end Resolution

namespace ResolutionStatus

def wire : ResolutionStatus → String
  | .resolved => "RESOLVED"
  | .collection => "COLLECTION"
  | .ambiguous => "AMBIGUOUS"
  | .unresolved => "UNRESOLVED"

def toJson (status : ResolutionStatus) : Json := .str status.wire

end ResolutionStatus

namespace Extraction

def toJson (extraction : Extraction) : Json :=
  .obj <|
    [("classes", .arr (extraction.classes.map JavaClass.toJson)),
      ("errors", .strings extraction.errors)] ++
    Json.nonEmpty "warnings" (extraction.warnings.map SyntaxWarning.toJson)

end Extraction

namespace FileAnalysis

def toJson (analysis : FileAnalysis) : Json :=
  .obj <|
    [("classes", .arr (analysis.classes.map JavaClass.toJson)),
      ("beanDefinitions", .arr (analysis.beans.map Bean.toJson)),
      ("injections", .arr (analysis.injections.map Injection.toJson)),
      ("errors", .strings analysis.errors)] ++
    Json.nonEmpty "warnings" (analysis.warnings.map SyntaxWarning.toJson)

def ofJson? (value : Json) : Option FileAnalysis := do
  let members ← value.members?
  return {
    classes := ← required members "classes" (Json.listOf? JavaClass.ofJson?)
    beans := ← required members "beanDefinitions" (Json.listOf? Bean.ofJson?)
    injections := ← required members "injections" (Json.listOf? Injection.ofJson?)
    errors := ← required members "errors" (Json.listOf? Json.text?)
    warnings := ← defaulted members "warnings" [] (Json.listOf? SyntaxWarning.ofJson?) }

end FileAnalysis

namespace Summary

def members (summary : Summary) : List (String × Json) :=
  [("files", .nat summary.files), ("classes", .nat summary.classes), ("beans", .nat summary.beans),
    ("injections", .nat summary.injections), ("resolved", .nat summary.resolved),
    ("collections", .nat summary.collections), ("ambiguous", .nat summary.ambiguous),
    ("unresolved", .nat summary.unresolved), ("filesWithErrors", .nat summary.filesWithErrors)]

def toJson (summary : Summary) : Json := .obj summary.members

end Summary
end BeanAtlas
