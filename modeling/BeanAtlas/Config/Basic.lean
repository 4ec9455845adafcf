import BeanAtlas.Analysis.Settings
import BeanAtlas.Config.Variables
import BeanAtlas.Source.Failure
import BeanAtlas.Toml.Document

/-!
The configuration of a workspace: what the environment sets, else what the configuration file sets, else
the default. When a layer is malformed or a known key has a value of the wrong type, everything is at
its default.
-/
namespace BeanAtlas

structure Config where
  excludeDirs : List String := []
  respectGitignore : Bool := true
  detectors : DetectorSettings := {}
  deriving DecidableEq, Repr, Inhabited

namespace Config

/-- The name of the configuration file in the root of a workspace. -/
def fileName : String := ".springwire.toml"

/-- Directories of build output and tools, which are always excluded. -/
def standardExclusions : List String :=
  ["target", "build", "out", ".git", ".idea", ".gradle", "node_modules"]

/-- Adds the texts that are not there yet. -/
def addNew (known : List String) : List String → List String
  | [] => known
  | dir :: rest => if known.contains dir then addNew known rest else addNew (known ++ [dir]) rest

/-- The excluded directories, each once. -/
def excludedDirs (config : Config) : List String := addNew standardExclusions config.excludeDirs

def bool? : Setting → Option Bool
  | .bool value => some value
  | _ => none

def text? : Setting → Option String
  | .text value => some value
  | _ => none

def texts? : Setting → Option (List String)
  | .list items => items.mapM text?
  | _ => none

/-- The value of a key, or the default when the key is not set. -/
def setting {α : Type} (table : SettingTable) (key : String) (default : α) (read : Setting → Option α) :
    Option α :=
  match SettingTable.find? key table with
  | none => some default
  | some value => read value

/-- The switches by name. -/
def switches? (table : SettingTable) : Option DetectorSettings := do
  return {
    field := ← setting table "field" true bool?
    «constructor» := ← setting table "constructor" true bool?
    setter := ← setting table "setter" true bool?
    lombok := ← setting table "lombok" true bool?
    beanMethod := ← setting table "bean_method" true bool? }

/-- The switches in their order. -/
def switchList? (items : List Setting) : Option DetectorSettings := do
  let switch (index : Nat) : Option Bool := ((items[index]?).map bool?).getD (some true)
  return {
    field := ← switch 0
    «constructor» := ← switch 1
    setter := ← switch 2
    lombok := ← switch 3
    beanMethod := ← switch 4 }

def detectors? : Setting → Option DetectorSettings
  | .table entries => switches? entries
  | .list items => switchList? items
  | _ => none

/-- The configuration that a table sets; `none` when a known key has a value of the wrong type. -/
def ofTable? (table : SettingTable) : Option Config := do
  return {
    excludeDirs := ← setting table "exclude_dirs" [] texts?
    respectGitignore := ← setting table "respect_gitignore" true bool?
    detectors := ← setting table "detectors" {} detectors? }

/-- The layer of the configuration file, if there is one. -/
def fileLayer? (file : Option (Except Source.ReadFailure String)) : Option SettingTable :=
  match file with
  | none => some []
  | some (.error _) => none
  | some (.ok text) => Toml.read? text

def load (file : Option (Except Source.ReadFailure String)) (environment : List (String × String)) :
    Config :=
  ((fileLayer? file).bind fun lower => ofTable? ((Variables.layer environment).laidOver lower)).getD {}

end Config
end BeanAtlas
