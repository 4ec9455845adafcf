import BeanAtlas.Model.Bean
import BeanAtlas.Text.Capital
import BeanAtlas.TypeText

/-!
The beans of a list of classes: the classes with a stereotype annotation and, behind each of them, its
`@Bean` factory methods.
-/
namespace BeanAtlas

def JavaClass.declaresBeans (info : JavaClass) : Bool := info.stereotype?.isSome

/-- Primitive types and the types of `java.lang` that need no qualification. -/
def builtinTypes : List String :=
  ["boolean", "byte", "char", "short", "int", "long", "float", "double", "String", "Object",
    "Integer", "Long", "Boolean", "Double"]

/-- The qualified form of a type used in a class: as it is when it has a dot, else the first import that
ends in it, else in the package of the class. -/
def JavaClass.qualify (info : JavaClass) (type : String) : String :=
  let simple := TypeText.erased type
  if simple.toList.contains '.' then simple
  else
    match info.imports.find? fun path => ('.' :: simple.toList).isSuffixOf path.toList with
    | some path => path
    | none =>
      match info.packageName with
      | some package => if builtinTypes.contains simple then simple else package ++ "." ++ simple
      | none => simple

/-- The bean that a class with this stereotype is. -/
def JavaClass.bean (info : JavaClass) (stereotype : AnnotationUse) : Bean where
  name := stereotype.value?.getD (Text.decapitalize info.name)
  type := info.name
  implementation := info.qualifiedName
  file := info.file
  position := info.position
  origin := .classDeclaration
  declaredBy := stereotype.kind
  interfaces := info.interfaces

/-- The bean that a `@Bean` method makes, if it returns something. -/
def Method.bean? (owner : JavaClass) (method : Method) : Option Bean := do
  let use ← AnnotationUse.first? method.annotations .bean
  let type ← method.returnType
  if type == "void" then none
  else some {
    name := use.value?.getD method.name
    type := type
    implementation := owner.qualify type
    file := owner.file
    position := method.position
    origin := .factoryMethod
    declaredBy := .bean
    interfaces := [] }

def JavaClass.beans (info : JavaClass) : List Bean :=
  match info.stereotype? with
  | none => []
  | some stereotype => info.bean stereotype :: info.methods.filterMap (·.bean? info)

def Bean.discover (classes : List JavaClass) : List Bean := classes.flatMap (·.beans)

end BeanAtlas
