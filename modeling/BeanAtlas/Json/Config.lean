import BeanAtlas.Config.Basic
import BeanAtlas.Json.Reader

/-!
Configurations as JSON objects, under the keys of the configuration file.
-/
namespace BeanAtlas

open Json (defaulted)

namespace DetectorSettings

def toJson (settings : DetectorSettings) : Json :=
  .obj [("field", .bool settings.field), ("constructor", .bool settings.constructor),
    ("setter", .bool settings.setter), ("lombok", .bool settings.lombok),
    ("bean_method", .bool settings.beanMethod)]

def ofJson? (value : Json) : Option DetectorSettings := do
  let members ← value.members?
  return {
    field := ← defaulted members "field" true Json.bool?
    «constructor» := ← defaulted members "constructor" true Json.bool?
    setter := ← defaulted members "setter" true Json.bool?
    lombok := ← defaulted members "lombok" true Json.bool?
    beanMethod := ← defaulted members "bean_method" true Json.bool? }

end DetectorSettings

namespace Config

def toJson (config : Config) : Json :=
  .obj [("exclude_dirs", .strings config.excludeDirs),
    ("respect_gitignore", .bool config.respectGitignore), ("detectors", config.detectors.toJson)]

def ofJson? (value : Json) : Option Config := do
  let members ← value.members?
  return {
    excludeDirs := ← defaulted members "exclude_dirs" [] (Json.listOf? Json.text?)
    respectGitignore := ← defaulted members "respect_gitignore" true Json.bool?
    detectors := ← defaulted members "detectors" {} DetectorSettings.ofJson? }

end Config
end BeanAtlas
