import BeanAtlas.Config.Basic
import BeanAtlas.Ignore.Scope

/-!
Which Java files belong to a workspace. Below its root, hidden entries, excluded directories and what
ignore files tell to ignore are left out; a rule of an ignore file may keep a hidden entry.
-/
namespace BeanAtlas

open Ignore (Scope Rule Verdict pathBytes)

/-- The root of a workspace and what is left out below it. -/
structure SourceRoot where
  path : FilePath
  excludedDirs : List String
  respectGitignore : Bool

namespace SourceRoot

def ofConfig (path : FilePath) (config : Config) : SourceRoot where
  path := path
  excludedDirs := config.excludedDirs
  respectGitignore := config.respectGitignore

def isHidden (name : String) : Bool := name.toList.head? == some '.'

/-- The rules of the excluded directories; a name that is no pattern excludes nothing. -/
def exclusions (root : SourceRoot) : List Rule := root.excludedDirs.filterMap Ignore.exclusion?

/-- Whether an entry is an excluded directory, where `names` lead to it from the root. -/
def isExcluded (root : SourceRoot) (names : List String) (isDir : Bool) : Bool :=
  Ignore.verdict? root.exclusions (pathBytes names) isDir == some .keep

/-- Whether the entry `name` belongs to the workspace, where `names` lead to its directory. -/
def admits (root : SourceRoot) (scope : Scope) (names : List String) (name : String) (isDir : Bool) :
    Bool :=
  if root.isExcluded (names ++ [name]) isDir then false
  else
    match if root.respectGitignore then scope.verdict? name isDir else none with
    | some verdict => verdict == .keep
    | none => !isHidden name

mutual

/-- The files of a tree, each with the names that lead to it from the root. -/
def filesFrom (root : SourceRoot) (scope : Scope) (names : List String) :
    FileTree → List (List String × FileContent)
  | .file content => [(names, content)]
  | .dir entries =>
    root.filesAmong ((Ignore.Local.of (.dir entries), []) :: scope) names entries

/-- The files in some entries of a directory. -/
def filesAmong (root : SourceRoot) (scope : Scope) (names : List String) :
    List (String × FileTree) → List (List String × FileContent)
  | [] => []
  | (name, node) :: rest =>
    (if root.admits scope names name node.isDir then
      root.filesFrom (scope.enter name) (names ++ [name]) node
    else []) ++ root.filesAmong scope names rest

end

/-- The Java files of a tree in path order, where `scope` holds around it. -/
def filesIn (root : SourceRoot) (scope : Scope) (tree : FileTree) : List (FilePath × FileContent) :=
  let files := (root.filesFrom scope [] tree).map fun (names, content) =>
    (root.path.descend names, content)
  (files.filter (·.1.isJava)).mergeSort fun a b => a.1.precedes b.1

/-- The Java files of a workspace whose root has the given names in the file system. -/
def files (root : SourceRoot) (system : FileTree) (location : List String) :
    List (FilePath × FileContent) :=
  match system.follow location with
  | .error _ => []
  | .ok tree => root.filesIn (Scope.around [] location system) tree

/-- The files that can be read as text. -/
def documents (root : SourceRoot) (system : FileTree) (location : List String) :
    List (FilePath × Document) :=
  (root.files system location).filterMap fun (path, content) =>
    content.document.toOption.map fun document => (path, document)

/-- Whether one of the directories on a way is hidden or excluded, where `names` lead to the first. -/
def isBarred (root : SourceRoot) (names : List String) : List Component → Bool
  | [] => false
  | step :: steps =>
    let inner := names ++ [step.label]
    isHidden step.label || root.isExcluded inner true || root.isBarred inner steps

/-- A spelling without a `./` in front. -/
def undotted (cs : List Char) : List Char := (Text.stripStart? ['.', '/'] cs).getD cs

/-- The spelling of a path without that of the directory above it. A `./` in front of either does not count, and
the current directory takes nothing off. -/
def textBelow (base path : List Char) : List Char :=
  let base := undotted base
  let path := undotted path
  if path.contains '/' && !(FilePath.mk (String.ofList base)).same ⟨"."⟩ then
    match Text.stripStart? base path with
    | some rest => (Text.stripStart? ['/'] rest).getD rest
    | none => path
  else path

/-- The verdict on a path or, when there is none, on the nearest directory above it that has one. -/
def nearestVerdict? (rules : List Rule) : Nat → FilePath → Bool → Option Verdict
  | 0, _, _ => none
  | bound + 1, path, isDir =>
    Ignore.verdict? rules (Text.bytes path.spelling.toList) isDir <|>
    path.parent?.bind fun parent => nearestVerdict? rules bound parent true

/-- Whether the rules of the root tell to ignore a path. There is no answer for a path that is spelled
with a slash more than its root asks for. -/
def isIgnored? (root : SourceRoot) (rules : List Rule) (path : FilePath) : Option Bool :=
  if rules.isEmpty then some false
  else
    let rest := textBelow root.path.spelling.toList path.spelling.toList
    if rest.head? == some '/' then none
    else
      let relative : FilePath := ⟨String.ofList rest⟩
      some (nearestVerdict? rules (rest.length + 2) relative false == some .ignore)

/-- Whether a single path belongs to the workspace, where `rules` are those of the `.gitignore` in the
root. -/
def includes? (root : SourceRoot) (rules : List Rule) (path : FilePath) : Option Bool :=
  if !path.isJava then some false
  else
    match path.below? root.path with
    | none => some false
    | some relative =>
      let folders := ((FilePath.mk relative).parent?.map (·.components)).getD []
      if root.isBarred [] folders then some false
      else if root.respectGitignore then (root.isIgnored? rules path).map (!·)
      else some true

end SourceRoot
end BeanAtlas
