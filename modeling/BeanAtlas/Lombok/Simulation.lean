import BeanAtlas.Model.Class

/-!
The constructors that Lombok generates. `@RequiredArgsConstructor` takes the fields that are `final` or
`@NonNull`, `@AllArgsConstructor` every field; static fields are never among them.
-/
namespace BeanAtlas.Lombok

/-- A constructor that exists only after compilation, placed at the annotation that asks for it. -/
structure VirtualConstructor where
  parameters : List Parameter
  range : Range
  kind : AnnotationKind
  annotationSource : String
  visibility : Visibility
  isVirtual : Bool
  position : Position

/-- How a field takes part in the generated constructors. -/
structure FieldAnalysis where
  name : String
  type : String
  isFinal : Bool
  isStatic : Bool
  isNonNull : Bool
  inRequiredArgs : Bool
  inAllArgs : Bool
  deriving DecidableEq

structure Simulation where
  constructors : List VirtualConstructor := []
  fields : List FieldAnalysis := []
  isSuccess : Bool := false
  errors : List String := []

def inRequiredArgs (field : Field) : Bool := !field.isStatic && field.isRequired

def inAllArgs (field : Field) : Bool := !field.isStatic

def FieldAnalysis.of (field : Field) : FieldAnalysis where
  name := field.name
  type := field.type
  isFinal := field.isFinal
  isStatic := field.isStatic
  isNonNull := AnnotationUse.has field.annotations .nonNull
  inRequiredArgs := Lombok.inRequiredArgs field
  inAllArgs := Lombok.inAllArgs field

/-- The parameter that stands for a field; of its annotations it keeps the qualifiers. -/
def fieldParameter (field : Field) : Parameter where
  name := field.name
  type := field.type
  position := some field.position
  range := some field.range
  annotations := field.annotations.filter (·.kind = .qualifier)

def virtualConstructor (use : AnnotationUse) (fields : List Field) : VirtualConstructor where
  parameters := Parameter.numbered (fields.map fieldParameter)
  range := Range.at use.position
  kind := use.kind
  annotationSource := "@" ++ use.name
  visibility := .public
  isVirtual := true
  position := use.position

def requiredArgsConstructor? (info : JavaClass) : Option VirtualConstructor :=
  (AnnotationUse.first? info.annotations .requiredArgsConstructor).map fun use =>
    virtualConstructor use (info.fields.filter inRequiredArgs)

def allArgsConstructor? (info : JavaClass) : Option VirtualConstructor :=
  (AnnotationUse.first? info.annotations .allArgsConstructor).map fun use =>
    virtualConstructor use (info.fields.filter inAllArgs)

/-- An annotation is malformed when its name and its recorded kind disagree and Lombok is involved. -/
def malformed? (use : AnnotationUse) : Option String :=
  let named := AnnotationKind.ofName? use.name
  if named = some use.kind then none
  else if use.kind.isLombok || named.any (·.isLombok) then
    some ("Annotation @" ++ use.name ++ " at " ++ use.position.text ++
      " is recorded as " ++ use.kind.simpleName)
  else none

/-- The annotations of a class and, behind them, those of its fields. -/
def annotationsOf (info : JavaClass) : List AnnotationUse :=
  info.annotations ++ info.fields.flatMap (·.annotations)

/-- Fails on malformed annotations only. -/
def simulate (info : JavaClass) : Simulation :=
  let errors := (annotationsOf info).filterMap malformed?
  if errors.isEmpty then {
    constructors := (requiredArgsConstructor? info).toList ++ (allArgsConstructor? info).toList
    fields := info.fields.map FieldAnalysis.of
    isSuccess := true }
  else { errors }

/-- The generated constructor that is used for injection: the all-args one when there is one. -/
def chosen? (simulation : Simulation) : Option VirtualConstructor :=
  simulation.constructors.find? (·.kind = .allArgsConstructor) <|> simulation.constructors.head?

end BeanAtlas.Lombok
