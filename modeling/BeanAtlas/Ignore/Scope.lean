import BeanAtlas.FileTree
import BeanAtlas.Ignore.Rule

/-!
The ignore files in force at a directory: its own and those of the directories around it. Every kind of
file is asked from the innermost directory outwards; rules of `.ignore` win over those of `.gitignore`,
and these over the ones of `.git/info/exclude`.
-/
namespace BeanAtlas.Ignore

/-- The rules that one directory brings along. -/
structure Local where
  ignore : List Rule := []
  gitignore : List Rule := []
  exclude : List Rule := []

/-- The rules of a file below a directory, none when there is no such file. -/
def rulesAt (names : List String) (tree : FileTree) : List Rule :=
  match tree.read names with
  | .ok content => rules content.bytes.toList
  | .error _ => []

def Local.of (tree : FileTree) : Local where
  ignore := rulesAt [".ignore"] tree
  gitignore := rulesAt [".gitignore"] tree
  exclude := rulesAt [".git", "info", "exclude"] tree

/-- The rules of the directories around a place, innermost first, each with the names that lead from the
directory to that place. -/
abbrev Scope := List (Local × List String)

/-- The bytes of a relative path. -/
def pathBytes (names : List String) : List UInt8 :=
  Text.bytes ("/".intercalate names).toList

namespace Scope

/-- The scope inside an entry of the innermost directory. -/
def enter (scope : Scope) (name : String) : Scope :=
  scope.map fun (own, names) => (own, names ++ [name])

/-- The verdict of one kind of files on an entry of the innermost directory. -/
def verdictOf? (kind : Local → List Rule) (scope : Scope) (name : String) (isDir : Bool) :
    Option Verdict :=
  scope.findSome? fun (own, names) => verdict? (kind own) (pathBytes (names ++ [name])) isDir

def verdict? (scope : Scope) (name : String) (isDir : Bool) : Option Verdict :=
  scope.verdictOf? (·.ignore) name isDir <|>
  scope.verdictOf? (·.gitignore) name isDir <|>
  scope.verdictOf? (·.exclude) name isDir

/-- The scope of the directories on the way to a place, without the place itself. -/
def around (scope : Scope) : List String → FileTree → Scope
  | [], _ => scope
  | _ :: _, .file _ => scope
  | name :: rest, .dir entries =>
    let inner := Scope.enter ((Local.of (.dir entries), []) :: scope) name
    match FileTree.entry? name entries with
    | some node => around inner rest node
    | none => inner

end Scope
end BeanAtlas.Ignore
