import BeanAtlas.Model.Bean

/-!
Which kinds of injection sites are looked for.
-/
namespace BeanAtlas

structure DetectorSettings where
  field : Bool := true
  «constructor» : Bool := true
  setter : Bool := true
  lombok : Bool := true
  beanMethod : Bool := true
  deriving DecidableEq, Repr, Inhabited

def DetectorSettings.enables (settings : DetectorSettings) : InjectionKind → Bool
  | .field => settings.field
  | .constructor => settings.constructor
  | .setter => settings.setter
  | .lombokConstructor => settings.lombok
  | .beanMethod => settings.beanMethod

end BeanAtlas
