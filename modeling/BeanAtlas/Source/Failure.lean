import BeanAtlas.FilePath

/-!
Why the documents of a workspace or of a file could not be had.
-/
namespace BeanAtlas.Source

/-- Failures of the file system. -/
inductive ReadFailure where
  | notFound
  | notADirectory
  | isADirectory
  | notText
  deriving DecidableEq, Repr

def ReadFailure.message : ReadFailure → String
  | .notFound => "No such file or directory (os error 2)"
  | .notADirectory => "Not a directory (os error 20)"
  | .isADirectory => "Is a directory (os error 21)"
  | .notText => "stream did not contain valid UTF-8"

inductive Failure where
  | unreadable (reason : ReadFailure)
  | malformed (path : FilePath) (message : String)
  deriving DecidableEq, Repr

def Failure.message : Failure → String
  | .unreadable reason => "Failed to read file: " ++ reason.message
  | .malformed path message => "Failed to parse file " ++ path.spelling ++ ": " ++ message

end BeanAtlas.Source
