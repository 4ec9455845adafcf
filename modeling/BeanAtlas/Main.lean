import BeanAtlas.Command.Run

/-!
The program `swire`. It brings what a command can ask for from the disk into a file tree, carries the
command out on that and prints the outcome.
-/
namespace BeanAtlas.Main

open Command (Invocation Surroundings)

/-- The files of a directory that matter to the directories inside it. -/
def directoryFiles : List (List String) :=
  [[Config.fileName], [".gitignore"], [".ignore"], [".git", "info", "exclude"]]

/-- The variables that are looked up in the environment, in this order. -/
def variableNames : List String :=
  ["EXCLUDE_DIRS", "RESPECT_GITIGNORE", "DETECTORS", "DETECTORS__FIELD", "DETECTORS__CONSTRUCTOR",
    "DETECTORS__SETTER", "DETECTORS__LOMBOK", "DETECTORS__BEAN_METHOD"].map ("SPRINGWIRE_" ++ ·)

/-- The content of a file on the disk. -/
def readFile (names : List String) : IO FileTree := do
  return .file { bytes := ← IO.FS.readBinFile (FilePath.ofNames names).spelling }

/-- Everything below a directory on the disk. -/
partial def readBelow (tree : FileTree) (names : List String) : IO FileTree := do
  let path := (← IO.currentDir) / (FilePath.ofNames names).spelling
  if ← path.isDir then
    let mut tree := tree.put names .empty
    for entry in ← path.readDir do
      tree ← readBelow tree (names ++ [entry.fileName])
    return tree
  else if ← path.pathExists then return tree.put names (← readFile names)
  else return tree

/-- The directories on a way, each with the files that matter to the others. -/
def readAlong (tree : FileTree) (names : List String) : IO FileTree := do
  let mut tree := tree
  for count in List.range names.length do
    let directory := names.take count
    let place := (← IO.currentDir) / (FilePath.ofNames directory).spelling
    if ← place.isDir then tree := tree.put directory .empty
    else if ← place.pathExists then tree := tree.put directory (← readFile directory)
    for file in directoryFiles do
      let path := (← IO.currentDir) / (FilePath.ofNames (directory ++ file)).spelling
      if (← path.pathExists) && !(← path.isDir) then
        tree := tree.put (directory ++ file) (← readFile (directory ++ file))
  return tree

/-- The names that a path leads to, without a look at the disk. -/
def namesOf (current : List String) (path : FilePath) : List String :=
  path.components.foldl
    (fun names step =>
      match step with
      | .root => []
      | .here => names
      | .up => names.dropLast
      | .name text => names ++ [text])
    current

/-- The paths that a command looks at. -/
def pathsOf : Command.Action → List FilePath
  | .scan root => [root]
  | .beans root => [root]
  | .injections root file _ => root :: file.toList
  | .resolve root _ _ => [root]
  | .analyze file => [file]
  | .lombok file => [file]
  | .watch root => [root]

def surroundings (arguments : List String) : IO Surroundings := do
  let current := namesOf [] ⟨toString (← IO.currentDir)⟩
  let mut system := FileTree.empty.put current .empty
  if let .ok invocation := Invocation.read arguments then
    for path in pathsOf invocation.action do
      let names := namesOf current path
      system ← readBelow (← readAlong system names) names
  let environment ← variableNames.filterMapM fun name => do
    return (← IO.getEnv name).map fun value => (name, value)
  return { system, current, environment }

end BeanAtlas.Main

def main (arguments : List String) : IO UInt32 := do
  let outcome := BeanAtlas.Command.run arguments (← BeanAtlas.Main.surroundings arguments)
  IO.print outcome.output
  IO.eprint outcome.errors
  return outcome.exit.toUInt32
