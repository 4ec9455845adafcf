import BeanAtlas.Java.Declarations
import BeanAtlas.Source.Failure

/-!
Files and directories as a tree. A directory lists its entries by name, each name once. Names are Unicode strings, so
entries whose names are not UTF-8 are left out.
-/
namespace BeanAtlas

/-- The content of a file, with the syntax tree of its text when that is known already. -/
structure FileContent where
  bytes : ByteArray
  tree : Option Node := none

namespace FileContent

def text (content : FileContent) : Except Source.ReadFailure String :=
  match String.fromUTF8? content.bytes with
  | some text => .ok text
  | none => .error .notText

def document (content : FileContent) : Except Source.ReadFailure Document :=
  content.text.map fun text =>
    match content.tree with
    | some root => .ofTree text root
    | none => .ofText text

end FileContent

inductive FileTree where
  | file (content : FileContent)
  | dir (entries : List (String × FileTree))
  deriving Inhabited

namespace FileTree

def empty : FileTree := .dir []

def isDir : FileTree → Bool
  | .dir _ => true
  | .file _ => false

def entry? (name : String) : List (String × FileTree) → Option FileTree
  | [] => none
  | (other, node) :: rest => if other = name then some node else entry? name rest

/-- The node at the end of a list of names. -/
def follow : List String → FileTree → Except Source.ReadFailure FileTree
  | [], node => .ok node
  | _ :: _, .file _ => .error .notADirectory
  | name :: rest, .dir entries =>
    match entry? name entries with
    | some node => follow rest node
    | none => .error .notFound

/-- The content of the file at the end of a list of names. -/
def read (names : List String) (tree : FileTree) : Except Source.ReadFailure FileContent := do
  match ← tree.follow names with
  | .file content => .ok content
  | .dir _ => .error .isADirectory

def isFile (names : List String) (tree : FileTree) : Bool :=
  match tree.read names with
  | .ok _ => true
  | .error _ => false

/-- Changes the entry of a name, or adds it. -/
def setEntry (name : String) (change : Option FileTree → FileTree) :
    List (String × FileTree) → List (String × FileTree)
  | [] => [(name, change none)]
  | (other, node) :: rest =>
    if other = name then (other, change (some node)) :: rest else (other, node) :: setEntry name change rest

/-- Puts a node at the end of a list of names and makes the directories on the way. A directory that is
put in the place of another one keeps what is in that. -/
def put (tree : FileTree) (names : List String) (node : FileTree) : FileTree :=
  match names with
  | [] => if tree.isDir && node.isDir then tree else node
  | name :: rest =>
    let entries := match tree with
      | .dir entries => entries
      | .file _ => []
    .dir (setEntry name (fun old => (old.getD empty).put rest node) entries)

/-- The path of names that the steps lead to from a directory, which is itself given by its names. Every
step has to be made in a directory. -/
def resolveSteps (tree : FileTree) : List String → List Component → Except Source.ReadFailure (List String)
  | names, [] => .ok names
  | names, step :: steps => do
    match ← tree.follow names with
    | .file _ => .error .notADirectory
    | .dir _ =>
      match step with
      | .root => tree.resolveSteps [] steps
      | .here => tree.resolveSteps names steps
      | .up => tree.resolveSteps names.dropLast steps
      | .name text =>
        let next := names ++ [text]
        let _ ← tree.follow next
        tree.resolveSteps next steps

/-- Whether a spelling ends in a way that only directories have. -/
def asksForDirectory (path : FilePath) : Bool :=
  match (Text.splitAt '/' path.spelling.toList).getLast? with
  | some last => FilePath.isVoid last
  | none => false

/-- The names of an existing file or directory, for a path seen from the directory `current`. -/
def resolve (tree : FileTree) (current : List String) (path : FilePath) :
    Except Source.ReadFailure (List String) := do
  if path.spelling.isEmpty then .error .notFound
  else
    let names ← tree.resolveSteps current path.components
    match ← tree.follow names with
    | .file _ => if asksForDirectory path then .error .notADirectory else .ok names
    | .dir _ => .ok names

end FileTree
end BeanAtlas
