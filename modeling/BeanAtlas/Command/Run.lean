import BeanAtlas.Command.Layout
import BeanAtlas.Json.Results
import BeanAtlas.SourceRoot

/-!
The commands. JSON output is printed in any case; lines are left out when quiet output is asked for.
-/
namespace BeanAtlas.Command

/-- What a command can see: the file system, the current directory and the environment variables. -/
structure Surroundings where
  system : FileTree
  current : List String
  environment : List (String × String)

/-- The configuration file in a directory, when there is one. -/
def configFile? (system : FileTree) (directory : List String) :
    Option (Except Source.ReadFailure String) :=
  match system.read (directory ++ [Config.fileName]) with
  | .ok content => some content.text
  | .error _ => none

/-- The nearest directory around a file that has a configuration file, else the directory of the file. -/
def configDirectory (system : FileTree) (file : List String) : List String :=
  (nearest? file.length file.dropLast).getD file.dropLast
where
  nearest? : Nat → List String → Option (List String)
    | 0, _ => none
    | bound + 1, directory =>
      if system.isFile (directory ++ [Config.fileName]) then some directory
      else if directory.isEmpty then none
      else nearest? bound directory.dropLast

namespace Surroundings

def configAt (surroundings : Surroundings) (directory : List String) : Config :=
  Config.load (configFile? surroundings.system directory) surroundings.environment

def locate (surroundings : Surroundings) (path : FilePath) (context : String) :
    Except Fault (List String) :=
  (surroundings.system.resolve surroundings.current path).mapError (Fault.ofRead context)

/-- The analyzed workspace below a root. -/
def workspace (surroundings : Surroundings) (path : FilePath) : Except Fault (FilePath × Workspace) := do
  let location ← surroundings.locate path "Failed to resolve root directory"
  let config := surroundings.configAt location
  let root := FilePath.ofNames location
  let documents := (SourceRoot.ofConfig root config).documents surroundings.system location
  return (root, Workspace.refresh { settings := config.detectors } documents)

/-- The document of a file. -/
def document (surroundings : Surroundings) (location : List String) (context : String) :
    Except Fault Document :=
  let unreadable (reason : Source.ReadFailure) : Fault := Fault.ofSource context (.unreadable reason)
  ((surroundings.system.read location).mapError unreadable).bind fun content =>
    content.document.mapError unreadable

end Surroundings

/-- The lines of the two channels, unless quiet output is asked for. -/
def lines (quiet : Bool) (output errors : List String) : Outcome :=
  if quiet then {} else { output := unlines output, errors := unlines errors }

def scan (surroundings : Surroundings) (root : FilePath) (format : Format) (quiet : Bool) :
    Except Fault Outcome := do
  let (root, workspace) ← surroundings.workspace root
  let summary := workspace.summary
  match format with
  | .json =>
    let members := summary.members ++ [("root", .str root.spelling)]
    return { output := printed (Json.sorted (.obj members)) }
  | _ => return lines quiet (summaryLines root summary) (errorLines root workspace)

def beans (surroundings : Surroundings) (root : FilePath) (format : Format) (quiet : Bool) :
    Except Fault Outcome := do
  let (root, workspace) ← surroundings.workspace root
  let beans := workspace.registry.beans
  match format with
  | .json => return { output := printed (.arr (beans.map Bean.toJson)) }
  | _ => return lines quiet (beans.map (beanLine root)) []

/-- The injection sites to be listed, resolved, each with its status. -/
def listed (workspace : Workspace) (file : Option FilePath) (onlyUnresolved : Bool) :
    List (Injection × ResolutionStatus) :=
  let chosen := workspace.injections.filter fun injection =>
    file.all fun file => injection.file.same file
  let all := chosen.map fun injection =>
    (workspace.resolveInjection injection, workspace.status injection)
  all.filter fun (_, status) => !onlyUnresolved || status = .ambiguous || status = .unresolved

def injections (surroundings : Surroundings) (root : FilePath) (file : Option FilePath)
    (onlyUnresolved : Bool) (format : Format) (quiet : Bool) : Except Fault Outcome := do
  let (root, workspace) ← surroundings.workspace root
  let file ← file.mapM fun path =>
    (surroundings.locate path "Failed to resolve file path").map FilePath.ofNames
  let found := listed workspace file onlyUnresolved
  match format with
  | .json =>
    let items := found.map fun (injection, status) =>
      Json.obj (injection.members ++ [("status", status.toJson)])
    return { output := printed (.arr items) }
  | _ =>
    return lines quiet (found.map fun (injection, status) => injectionLine root injection status) []

def resolutionJson (type : String) (name : Option String) (resolution : Resolution) : Json :=
  .obj <|
    [("targetType", .str type)] ++
    Json.optional "targetName" (name.map .str) ++
    [("resolved", (resolution.resolved.map Bean.toJson).getD .null),
      ("candidates", .arr (resolution.candidates.map Bean.toJson))]

/-- How a resolution is told. Without candidates nothing was found. -/
def resolutionOutcome (root : FilePath) (type : String) (name : Option String)
    (resolution : Resolution) (format : Format) (quiet : Bool) : Outcome :=
  match resolution.candidates, format with
  | [], .json =>
    let answer := Json.obj [("error", .str "No matching bean"), ("targetType", .str type)]
    { exit := notFound, output := printed answer }
  | [], _ => { lines quiet [] ["No bean matches: " ++ type] with exit := notFound }
  | _, .json => { output := printed (resolutionJson type name resolution) }
  | _, _ => lines quiet (resolutionLines root resolution (format = .pretty)) []

def resolve (surroundings : Surroundings) (root : FilePath) (type : String) (name : Option String)
    (format : Format) (quiet : Bool) : Except Fault Outcome := do
  let (root, workspace) ← surroundings.workspace root
  return resolutionOutcome root type name (workspace.registry.resolve type name) format quiet

def analyze (surroundings : Surroundings) (file : FilePath) (format : Format) (quiet : Bool) :
    Except Fault Outcome := do
  let location ← surroundings.locate file "Failed to resolve file path"
  let path := FilePath.ofNames location
  let config := surroundings.configAt (configDirectory surroundings.system location)
  let document ← surroundings.document location ("Failed to analyze " ++ path.spelling)
  let analysis := document.analyze path config.detectors
  let exit := if analysis.hasErrors then failure else success
  match format with
  | .json => return { exit, output := printed analysis.toJson }
  | _ => return { lines quiet (analysisLines analysis) (analysisErrorLines analysis) with exit }

def lombok (surroundings : Surroundings) (file : FilePath) (format : Format) (quiet : Bool) :
    Except Fault Outcome := do
  let location ← surroundings.locate file "Failed to resolve file path"
  let path := FilePath.ofNames location
  let context := "Failed to parse " ++ path.spelling
  let extraction := (← surroundings.document location context).extract path
  match extraction.errors with
  | message :: _ => .error (Fault.ofSource context (.malformed path message))
  | [] =>
    let simulations := extraction.classes.map fun info => (info, Lombok.simulate info)
    match format with
    | .json =>
      let items := simulations.map fun (info, simulation) =>
        Json.obj [("class", .str info.qualifiedName), ("simulation", simulation.toJson)]
      return { output := printed (Json.sorted (.arr items)) }
    | _ =>
      return lines quiet (simulations.flatMap fun (info, simulation) => simulationLines info simulation)
        []

/-- The start of watching a workspace, up to the first report. -/
def watch (surroundings : Surroundings) (root : FilePath) (format : Format) (quiet : Bool) : Outcome :=
  let opening := if quiet then "" else "Analyzing workspace...\n"
  match surroundings.workspace root with
  | .error fault =>
    let outcome := fault.outcome format
    { outcome with errors := opening ++ outcome.errors }
  | .ok (root, workspace) =>
    let summary := workspace.summary
    let output := match format with
      | .json =>
        Json.compact (Json.sorted (.obj (summary.members ++ [("event", .str "ready")]))) ++ "\n"
      | _ => if quiet then "" else unlines (summaryLines root summary)
    let closing := if quiet then "" else "Watching for changes... (Ctrl+C to stop)\n"
    { output, errors := opening ++ closing }

/-- Carries out a command. -/
def Invocation.run (invocation : Invocation) (surroundings : Surroundings) : Outcome :=
  let format := invocation.format
  let quiet := invocation.quiet
  let told (result : Except Fault Outcome) : Outcome :=
    match result with
    | .ok outcome => outcome
    | .error fault => fault.outcome format
  match invocation.action with
  | .scan root => told (scan surroundings root format quiet)
  | .beans root => told (beans surroundings root format quiet)
  | .injections root file onlyUnresolved =>
    told (injections surroundings root file onlyUnresolved format quiet)
  | .resolve root type name => told (resolve surroundings root type name format quiet)
  | .analyze file => told (analyze surroundings file format quiet)
  | .lombok file => told (lombok surroundings file format quiet)
  | .watch root => watch surroundings root format quiet

/-- The outcome of a call that asks for nothing to be done. -/
def Stop.outcome : Stop → Outcome
  | .usage => { exit := failure, errors := "usage error" }
  | .version => { output := "swire 0.1.0\n" }
  | .help => {}

/-- The whole program. -/
def run (arguments : List String) (surroundings : Surroundings) : Outcome :=
  match Invocation.read arguments with
  | .ok invocation => invocation.run surroundings
  | .error stop => stop.outcome

end BeanAtlas.Command
