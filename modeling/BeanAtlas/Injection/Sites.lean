import BeanAtlas.Injection.Refine
import BeanAtlas.Lombok.Simulation
import BeanAtlas.Model.Bean

/-!
Where beans are injected. There are five kinds of sites, each found independently of the others.
-/
namespace BeanAtlas.Injection

/-- A site in a class, not resolved yet. -/
def site (kind : InjectionKind) (owner : JavaClass) (type name : String) (position : Position)
    (range : Range) (qualifier : Option String) : Injection where
  targetType := type
  kind := kind
  position := position
  range := range
  targetName := name
  qualifier := qualifier
  ownerClass := owner.qualifiedName
  file := owner.file

/-- One site for each parameter, placed at the parameter when its place is known. -/
def parameterSites (kind : InjectionKind) (owner : JavaClass) (parameters : List Parameter)
    (position : Position) (range : Range) : List Injection :=
  parameters.map fun parameter =>
    site kind owner parameter.type parameter.name (parameter.position.getD position)
      (parameter.range.getD range) (AnnotationUse.qualifier? parameter.annotations)

/-- The `@Autowired` fields. With the lines of the source their places are refined. -/
def fieldSites (lines : Option (List String)) (info : JavaClass) : List Injection :=
  (info.fields.filter (AnnotationUse.has ·.annotations .autowired)).map fun field =>
    let position := (lines.bind (refined? · field)).getD field.position
    site .field info field.type field.name position field.range
      (AnnotationUse.qualifier? field.annotations)

/-- The constructor that is used for injection: the only one, else the first `@Autowired` one. -/
def constructor? (info : JavaClass) : Option Constructor :=
  match info.constructors with
  | [] => none
  | [only] => some only
  | several => several.find? (·.isAutowired)

def constructorSites (info : JavaClass) : List Injection :=
  match constructor? info with
  | none => []
  | some ctor => parameterSites .constructor info ctor.parameters ctor.position ctor.range

/-- The parameters of `@Autowired` setters. -/
def setterSites (info : JavaClass) : List Injection :=
  (info.methods.filter fun method =>
    method.isSetter && AnnotationUse.has method.annotations .autowired).flatMap fun method =>
      parameterSites .setter info method.parameters method.position method.range

/-- The parameters of a generated constructor, in a class that declares none. -/
def lombokSites (info : JavaClass) : List Injection :=
  if info.constructors.isEmpty then
    match Lombok.chosen? (Lombok.simulate info) with
    | none => []
    | some ctor => parameterSites .lombokConstructor info ctor.parameters ctor.position ctor.range
  else []

/-- The parameters of `@Bean` methods in a class that declares beans. -/
def beanMethodSites (info : JavaClass) : List Injection :=
  if info.stereotype?.isSome then
    (info.methods.filter (AnnotationUse.has ·.annotations .bean)).flatMap fun method =>
      parameterSites .beanMethod info method.parameters method.position method.range
  else []

/-- The sites of one kind in a list of classes. -/
def sites (lines : Option (List String)) (kind : InjectionKind) (classes : List JavaClass) :
    List Injection :=
  classes.flatMap <| match kind with
    | .field => fieldSites lines
    | .constructor => constructorSites
    | .setter => setterSites
    | .lombokConstructor => lombokSites
    | .beanMethod => beanMethodSites

end BeanAtlas.Injection
