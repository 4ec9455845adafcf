import BeanAtlas.Json.Value

/-!
Reading typed values out of JSON. Each reader gives `none` for a value of another shape.
-/
namespace BeanAtlas.Json

variable {α : Type}

def text? : Json → Option String
  | .str text => some text
  | _ => none

def bool? : Json → Option Bool
  | .bool value => some value
  | _ => none

/-- A natural number below `bound`, written without a decimal point. -/
def natBelow? (bound : Nat) : Json → Option Nat
  | .num (.ofNat n) 0 => if n < bound then some n else none
  | _ => none

def uint32? (value : Json) : Option UInt32 :=
  (value.natBelow? UInt32.size).map UInt32.ofNat

def uint64? (value : Json) : Option UInt64 :=
  (value.natBelow? UInt64.size).map UInt64.ofNat

def members? : Json → Option (List (String × Json))
  | .obj members => some members
  | _ => none

def listOf? (read : Json → Option α) : Json → Option (List α)
  | .arr items => items.mapM read
  | _ => none

/-- A member that has to be there. -/
def required (members : List (String × Json)) (key : String) (read : Json → Option α) : Option α :=
  (lookup key members).bind read

/-- A member that may be absent or `null`. -/
def nullable (members : List (String × Json)) (key : String) (read : Json → Option α) :
    Option (Option α) :=
  match lookup key members with
  | none | some .null => some none
  | some value => (read value).map some

/-- A member that has a default when it is absent. -/
def defaulted (members : List (String × Json)) (key : String) (default : α)
    (read : Json → Option α) : Option α :=
  match lookup key members with
  | none => some default
  | some value => read value

end BeanAtlas.Json
