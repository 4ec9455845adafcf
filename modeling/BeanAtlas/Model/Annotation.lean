import BeanAtlas.SortedMap
import BeanAtlas.Source.Position
import BeanAtlas.Text.Blank

/-!
The annotations the analysis knows: a closed vocabulary of Spring and Lombok names, and the
occurrences of them found in a source.
-/
namespace BeanAtlas

inductive AnnotationKind where
  | component
  | service
  | repository
  | controller
  | restController
  | configuration
  | bean
  | autowired
  | qualifier
  | value
  | requiredArgsConstructor
  | allArgsConstructor
  | noArgsConstructor
  | data
  | slf4j
  | nonNull
  deriving DecidableEq, Repr

namespace AnnotationKind

def all : List AnnotationKind :=
  [component, service, repository, controller, restController, configuration, bean, autowired,
    qualifier, value, requiredArgsConstructor, allArgsConstructor, noArgsConstructor, data, slf4j,
    nonNull]

/-- The name as written in a source, without the `@`. -/
def simpleName : AnnotationKind → String
  | component => "Component"
  | service => "Service"
  | repository => "Repository"
  | controller => "Controller"
  | restController => "RestController"
  | configuration => "Configuration"
  | bean => "Bean"
  | autowired => "Autowired"
  | qualifier => "Qualifier"
  | value => "Value"
  | requiredArgsConstructor => "RequiredArgsConstructor"
  | allArgsConstructor => "AllArgsConstructor"
  | noArgsConstructor => "NoArgsConstructor"
  | data => "Data"
  | slf4j => "Slf4j"
  | nonNull => "NonNull"

def ofName? (name : String) : Option AnnotationKind :=
  all.find? (·.simpleName == name)

def text (kind : AnnotationKind) : String := "@" ++ kind.simpleName

def isLombok : AnnotationKind → Bool
  | requiredArgsConstructor | allArgsConstructor | noArgsConstructor | data | slf4j | nonNull => true
  | _ => false

/-- The annotations that turn a class into a bean. -/
def isStereotype : AnnotationKind → Bool
  | component | service | repository | controller | restController | configuration => true
  | _ => false

theorem ofName?_simpleName (kind : AnnotationKind) : ofName? kind.simpleName = some kind := by
  cases kind <;> decide

end AnnotationKind

/-- An occurrence of a known annotation, named by its simple name. -/
structure AnnotationUse where
  name : String
  kind : AnnotationKind
  line : UInt32
  column : UInt32
  parameters : SortedMap String String

namespace AnnotationUse

def new (name : String) (kind : AnnotationKind) (position : Position) : AnnotationUse :=
  ⟨name, kind, position.line, position.column, ∅⟩

def position (use : AnnotationUse) : Position := ⟨use.line, use.column⟩

/-- The parameter under which the string argument is recorded. -/
def valueKey : String := "value"

def withValue (use : AnnotationUse) (value : String) : AnnotationUse :=
  { use with parameters := use.parameters.insert valueKey value }

/-- The recorded string argument, unless it is blank. -/
def value? (use : AnnotationUse) : Option String :=
  (use.parameters.find? valueKey).filter (!Text.isBlankText ·)

/-- The first annotation of a kind. -/
def first? (annotations : List AnnotationUse) (kind : AnnotationKind) : Option AnnotationUse :=
  annotations.find? (·.kind = kind)

def has (annotations : List AnnotationUse) (kind : AnnotationKind) : Bool :=
  (first? annotations kind).isSome

/-- The name asked for by a `@Qualifier`. -/
def qualifier? (annotations : List AnnotationUse) : Option String :=
  (first? annotations .qualifier).bind value?

end AnnotationUse
end BeanAtlas
