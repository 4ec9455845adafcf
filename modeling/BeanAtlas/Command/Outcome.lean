import BeanAtlas.Command.Arguments
import BeanAtlas.Json.Printer
import BeanAtlas.Source.Failure

/-!
What a command leaves behind: an exit code and the texts on the two output channels.
-/
namespace BeanAtlas.Command

structure Outcome where
  exit : Nat := 0
  output : String := ""
  errors : String := ""
  deriving DecidableEq, Repr

/-- The exit codes. -/
def success : Nat := 0

def notFound : Nat := 1

def failure : Nat := 2

/-- Each line with a line feed behind it. -/
def unlines (lines : List String) : String := String.join (lines.map (· ++ "\n"))

def printed (value : Json) : String := value.wide ++ "\n"

/-- Why a command could not be carried out: what was tried, and the causes from there on. -/
structure Fault where
  context : String
  causes : List String
  deriving DecidableEq, Repr

/-- A failure of a source with its causes; that of the file system is named twice. -/
def Fault.ofSource (context : String) (reason : Source.Failure) : Fault where
  context := context
  causes := match reason with
    | .unreadable cause => [reason.message, cause.message]
    | .malformed _ _ => [reason.message]

def Fault.ofRead (context : String) (reason : Source.ReadFailure) : Fault := ⟨context, [reason.message]⟩

/-- How a fault is told. As JSON only its context is given. -/
def Fault.text (fault : Fault) (format : Format) : String :=
  match format with
  | .json => Json.compact (.obj [("error", .str "CommandFailed"), ("message", .str fault.context)])
  | _ => "Error: " ++ ": ".intercalate (fault.context :: fault.causes)

def Fault.outcome (fault : Fault) (format : Format) : Outcome :=
  { exit := failure, errors := fault.text format ++ "\n" }

end BeanAtlas.Command
