import BeanAtlas.Model.Class

/-!
Beans and the places where beans are injected.
-/
namespace BeanAtlas

inductive BeanOrigin where
  | classDeclaration
  | factoryMethod
  deriving DecidableEq, Repr

/-- A bean found in a source. -/
structure Bean where
  name : String
  type : String
  implementation : String
  file : FilePath
  position : Position
  origin : BeanOrigin
  declaredBy : AnnotationKind
  interfaces : List String
  deriving DecidableEq

inductive InjectionKind where
  | field
  | «constructor»
  | setter
  | lombokConstructor
  | beanMethod
  deriving DecidableEq, Repr

def InjectionKind.text : InjectionKind → String
  | .field => "field"
  | .constructor => "constructor"
  | .setter => "setter"
  | .lombokConstructor => "lombok constructor"
  | .beanMethod => "bean method"

/-- A place where a bean is injected, with the outcome of its resolution once that is known. -/
structure Injection where
  targetType : String
  kind : InjectionKind
  position : Position
  range : Range
  targetName : String
  qualifier : Option String
  ownerClass : String
  file : FilePath
  resolved : Option Bean := none
  candidates : Option (List Bean) := none
  deriving DecidableEq

/-- The name that decides between candidates: the qualifier, else the name of the field or parameter. -/
def Injection.nameHint (injection : Injection) : String :=
  injection.qualifier.getD injection.targetName

end BeanAtlas
