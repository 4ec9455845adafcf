import BeanAtlas.Config.Inline
import BeanAtlas.Text.Search

/-!
The configuration layer of environment variables. `SPRINGWIRE_DETECTORS__FIELD` sets the key `field` of
the table `detectors`, whatever the case of its letters.
-/
namespace BeanAtlas.Variables

def start : List Char := "SPRINGWIRE_".toList

/-- Two underscores in a row separate keys, as a dot does. -/
def separated : List Char → List Char
  | '_' :: '_' :: cs => '.' :: separated cs
  | c :: cs => c :: separated cs
  | [] => []

/-- The path of keys that a variable sets; `none` when it sets none. -/
def path? (name : String) : Option (List String) := do
  let trimmed := Text.dropBlanks name.toList
  if (trimmed.take start.length).map Char.toUpper == start then
    let keys := Text.splitAt '.' (separated ((trimmed.drop start.length).map Char.toLower))
    if keys.any (·.isEmpty) then none else some (keys.map String.ofList)
  else none

/-- A value under a path of keys. -/
def nest (value : Setting) : List String → Setting
  | [] => value
  | key :: rest => .table [(key, nest value rest)]

/-- The table that a single variable stands for. -/
def table (name value : String) : SettingTable :=
  match path? name with
  | some (key :: rest) => [(key, nest (Inline.read value) rest)]
  | _ => []

/-- The layer of all variables: each one, in the order in which the environment gives them, over those before it. -/
def layer (environment : List (String × String)) : SettingTable :=
  environment.foldl (fun lower (name, value) => (table name value).laidOver lower) []

end BeanAtlas.Variables
