import BeanAtlas.Registry.Basic
import BeanAtlas.Text.Capital

/-!
Which bean satisfies an injection. The beans of the target type are the candidates; for a collection
without beans of its own they are the beans of the element type, and all of them are injected. A single
candidate is chosen, and of several the one that the name hint picks.
-/
namespace BeanAtlas

structure Resolution where
  resolved : Option Bean := none
  candidates : List Bean := []
  collection : Bool := false

inductive ResolutionStatus where
  | resolved
  | collection
  | ambiguous
  | unresolved
  deriving DecidableEq, Repr

namespace Resolution

/-- A collection with at least one element bean. -/
def isCollection (resolution : Resolution) : Bool :=
  resolution.collection && !resolution.candidates.isEmpty

/-- Several candidates and none chosen. -/
def isAmbiguous (resolution : Resolution) : Bool :=
  resolution.resolved.isNone && !resolution.collection && resolution.candidates.length > 1

def status (resolution : Resolution) : ResolutionStatus :=
  if resolution.resolved.isSome then .resolved
  else if resolution.isCollection then .collection
  else if resolution.isAmbiguous then .ambiguous
  else .unresolved

end Resolution

/-- The first candidate with the name itself, else with the name but for ASCII case, else with the name
but for the case of the first letter. -/
def Bean.pick (candidates : List Bean) (name : String) : Option Bean :=
  candidates.find? (·.name == name) <|>
  candidates.find? (fun bean => Text.sameIgnoringAsciiCase bean.name name) <|>
  let wanted := Text.lowerFirst name
  candidates.find? fun bean => Text.lowerFirst bean.name == wanted || bean.name == wanted

namespace Registry

/-- The candidates for a type, and whether they are elements of a collection. -/
def candidates (registry : Registry) (type : String) : List Bean × Bool :=
  match registry.findByType type, TypeText.element? type with
  | [], some element => (registry.findByType element, true)
  | found, _ => (found, false)

/-- A hint without the blanks around it; a blank one is none. -/
def nameHint? (name : Option String) : Option String :=
  (name.map Text.trim).filter (!·.isEmpty)

def resolve (registry : Registry) (type : String) (name : Option String) : Resolution :=
  if Text.isBlankText type then {}
  else
    let (candidates, collection) := registry.candidates type
    let resolved :=
      if collection then none
      else
        match candidates with
        | [] => none
        | [only] => some only
        | several => (nameHint? name).bind (Bean.pick several)
    { resolved, candidates, collection }

def resolveInjection (registry : Registry) (injection : Injection) : Resolution :=
  registry.resolve injection.targetType (some injection.nameHint)

end Registry
end BeanAtlas
