import BeanAtlas.FilePath
import BeanAtlas.Model.Annotation

/-!
What is recorded of a class: its fields, constructors, methods and their parameters, each with its
place in the source.
-/
namespace BeanAtlas

inductive Visibility where
  | «public»
  | «protected»
  | «package»
  | «private»
  deriving DecidableEq, Repr, Inhabited

def Visibility.text : Visibility → String
  | .public => "public"
  | .protected => "protected"
  | .package => "package"
  | .private => "private"

structure Field where
  name : String
  type : String
  position : Position
  range : Range
  annotations : List AnnotationUse
  visibility : Option Visibility
  isFinal : Bool
  isStatic : Bool

structure Parameter where
  name : String
  type : String
  position : Option Position := none
  range : Option Range := none
  index : Option UInt64 := none
  annotations : List AnnotationUse := []

structure Constructor where
  parameters : List Parameter
  position : Position
  range : Range
  isAutowired : Bool
  visibility : Option Visibility

structure Method where
  name : String
  parameters : List Parameter
  position : Position
  range : Range
  annotations : List AnnotationUse
  isSetter : Bool
  visibility : Option Visibility
  returnType : Option String

structure JavaClass where
  name : String
  packageName : Option String
  qualifiedName : String
  file : FilePath
  position : Position
  range : Range
  annotations : List AnnotationUse
  fields : List Field
  constructors : List Constructor
  methods : List Method
  interfaces : List String
  imports : List String

/-- The fields that have to be given a value: `final` or `@NonNull`. -/
def Field.isRequired (field : Field) : Bool :=
  field.isFinal || AnnotationUse.has field.annotations .nonNull

/-- The shape of a setter: `set` and an ASCII capital, and exactly one parameter. -/
def Method.isSetterShape (name : String) (parameters : Nat) : Bool :=
  match name.toList with
  | 's' :: 'e' :: 't' :: c :: _ => parameters == 1 && c.isUpper
  | _ => false

/-- The first annotation that makes the class a bean. -/
def JavaClass.stereotype? (info : JavaClass) : Option AnnotationUse :=
  info.annotations.find? (·.kind.isStereotype)

/-- Parameters numbered from zero. -/
def Parameter.numbered (parameters : List Parameter) : List Parameter :=
  parameters.zipIdx.map fun (parameter, index) => { parameter with index := some index.toUInt64 }

end BeanAtlas
