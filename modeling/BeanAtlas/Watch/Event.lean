import BeanAtlas.FilePath

/-!
What a change reported by the file system means for the Java files of a workspace.
-/
namespace BeanAtlas.Watch

inductive DataChange where
  | any
  | size
  | content
  | other
  deriving DecidableEq, Repr

inductive RenameMode where
  | any
  | old
  | new
  | both
  | other
  deriving DecidableEq, Repr

inductive Modification where
  | any
  | data (change : DataChange)
  | metadata
  | rename (mode : RenameMode)
  | other
  deriving DecidableEq, Repr

/-- The kind of a reported change. -/
inductive Change where
  | any
  | access
  | create
  | modify (what : Modification)
  | remove
  | other
  deriving DecidableEq, Repr

/-- What happened to a Java file. -/
inductive Event where
  | created (path : FilePath)
  | modified (path : FilePath)
  | deleted (path : FilePath)
  | renamed (old new : FilePath)
  deriving DecidableEq, Repr

/-- Whether the content of a file may have changed. Changes of metadata, unspecified changes of data and
mere accesses do not count. -/
def Change.isMeaningful : Change → Bool
  | .modify .metadata => false
  | .modify (.data .any) => false
  | .access => false
  | .other => false
  | _ => true

/-- A rename seen from both sides: only the sides that are Java files count. -/
def renameEvent? (old new : FilePath) : Option Event :=
  match old.isJava, new.isJava with
  | true, true => some (.renamed old new)
  | true, false => some (.deleted old)
  | false, true => some (.created new)
  | false, false => none

/-- What a meaningful change means for one Java file. -/
def Change.eventFor? (change : Change) (path : FilePath) : Option Event :=
  match change with
  | .create => some (.created path)
  | .modify (.rename .old) => some (.deleted path)
  | .modify (.rename .new) => some (.created path)
  | .modify _ => some (.modified path)
  | .remove => some (.deleted path)
  | .any => some (.modified path)
  | _ => none

/-- The event for a reported change: about the two sides of a complete rename, else about the first Java
file among the paths. -/
def classify? (change : Change) (paths : List FilePath) : Option Event :=
  if !change.isMeaningful then none
  else
    match change, paths with
    | .modify (.rename .both), [old, new] => renameEvent? old new
    | _, _ => (paths.find? (·.isJava)).bind change.eventFor?

end BeanAtlas.Watch
