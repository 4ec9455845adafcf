import BeanAtlas.Command.Outcome
import BeanAtlas.Workspace

/-!
The lines of the plain output.
-/
namespace BeanAtlas.Command

/-- The text with blanks behind it up to thirty characters. -/
def column (text : String) : String :=
  text ++ String.ofList (List.replicate (30 - text.length) ' ')

/-- A place in a file, seen from the root. -/
def place (root file : FilePath) (position : Position) : String :=
  file.shownFrom root ++ ":" ++ position.text

def summaryLines (root : FilePath) (summary : Summary) : List String :=
  ["Root:        " ++ root.spelling,
    "Files:       " ++ toString summary.files,
    "Classes:     " ++ toString summary.classes,
    "Beans:       " ++ toString summary.beans,
    "Injections:  " ++ toString summary.injections,
    "  resolved:  " ++ toString summary.resolved,
    "  collections: " ++ toString summary.collections,
    "  ambiguous: " ++ toString summary.ambiguous,
    "  unresolved: " ++ toString summary.unresolved] ++
  if summary.filesWithErrors > 0 then
    ["Files with errors: " ++ toString summary.filesWithErrors]
  else []

/-- The errors of the files of a workspace. -/
def errorLines (root : FilePath) (workspace : Workspace) : List String :=
  workspace.files.values.flatMap fun file =>
    file.analysis.errors.map fun error => file.path.shownFrom root ++ ": " ++ error

def beanLine (root : FilePath) (bean : Bean) : String :=
  column bean.name ++ " " ++ column bean.type ++ " " ++ place root bean.file bean.position

def namesOf (beans : List Bean) : String := ", ".intercalate (beans.map (·.name))

/-- The outcome of a resolution in words. -/
def describe (injection : Injection) (status : ResolutionStatus) : String :=
  let names := namesOf (injection.candidates.getD [])
  match status, injection.resolved with
  | .resolved, some bean => bean.name
  | .collection, _ => "collection (" ++ names ++ ")"
  | .ambiguous, _ => "ambiguous (" ++ names ++ ")"
  | _, _ => "unresolved"

def injectionLine (root : FilePath) (injection : Injection) (status : ResolutionStatus) : String :=
  " ".intercalate [place root injection.file injection.position, injection.kind.text,
    injection.targetType, injection.targetName, "->", describe injection status]

/-- The chosen bean, and the candidates when there is none or when all is to be shown. -/
def resolutionLines (root : FilePath) (resolution : Resolution) (all : Bool) : List String :=
  let candidates := resolution.candidates.map fun bean =>
    "  " ++ column bean.name ++ " " ++ place root bean.file bean.position
  match resolution.resolved with
  | some bean =>
    (bean.name ++ " " ++ place root bean.file bean.position) :: if all then candidates else []
  | none => ("Ambiguous: " ++ toString resolution.candidates.length ++ " candidates") :: candidates

def analysisLines (analysis : FileAnalysis) : List String :=
  (analysis.classes.map fun info => "class " ++ info.qualifiedName ++ " " ++ info.position.text) ++
  (analysis.beans.map fun bean => "bean  " ++ column bean.name ++ " " ++ bean.type) ++
  analysis.injections.map fun injection =>
    " ".intercalate [injection.position.text, injection.kind.text, injection.targetType,
      injection.targetName]

def analysisErrorLines (analysis : FileAnalysis) : List String :=
  (analysis.warnings.map fun warning => "warning: " ++ warning.text) ++
  analysis.errors.map ("error: " ++ ·)

def constructorLine (info : JavaClass) (ctor : Lombok.VirtualConstructor) : String :=
  let parameters := ctor.parameters.map fun parameter => parameter.type ++ " " ++ parameter.name
  "  " ++ ctor.annotationSource ++ " -> " ++ info.name ++ "(" ++ ", ".intercalate parameters ++ ")"

def simulationLines (info : JavaClass) (simulation : Lombok.Simulation) : List String :=
  info.qualifiedName ::
    simulation.constructors.map (constructorLine info) ++
    simulation.errors.map ("  error: " ++ ·)

end BeanAtlas.Command
