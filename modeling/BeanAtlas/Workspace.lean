import BeanAtlas.Analysis.File
import BeanAtlas.Registry.Resolution
import BeanAtlas.Source.Failure

/-!
A set of analyzed files with the registry of their beans. Files are identified by their path
components and listed in path order, each under the spelling it was first entered with.
-/
namespace BeanAtlas

structure WorkspaceFile where
  path : FilePath
  analysis : FileAnalysis

structure Workspace where
  settings : DetectorSettings := {}
  files : SortedMap (List Component) WorkspaceFile := ∅
  registry : Registry := ∅

structure Summary where
  files : Nat
  classes : Nat
  beans : Nat
  injections : Nat
  resolved : Nat
  collections : Nat
  ambiguous : Nat
  unresolved : Nat
  filesWithErrors : Nat
  deriving DecidableEq, Repr

namespace Workspace

/-- Enters the analysis of a file, in place of an earlier one of the same path. -/
def enter (workspace : Workspace) (path : FilePath) (analysis : FileAnalysis) : Workspace :=
  { workspace with
    registry := workspace.registry.addAll analysis.beans
    files := workspace.files.alter path.components fun
      | some earlier => some { earlier with analysis }
      | none => some ⟨path, analysis⟩ }

def clear (workspace : Workspace) : Workspace :=
  { workspace with files := ∅, registry := ∅ }

/-- Forgets everything and analyzes the given documents in order. -/
def refresh (workspace : Workspace) (documents : List (FilePath × Document)) : Workspace :=
  documents.foldl
    (fun workspace (path, document) =>
      workspace.enter path (document.analyze path workspace.settings))
    workspace.clear

/-- Refreshes from documents that may not be available; then the workspace stays as it is. -/
def refreshFrom (workspace : Workspace)
    (source : Except Source.Failure (List (FilePath × Document))) :
    Except Source.Failure Workspace :=
  source.map workspace.refresh

/-- Analyzes one file anew. -/
def update (workspace : Workspace) (path : FilePath) (document : Document) : Workspace :=
  { workspace with registry := workspace.registry.removeFile path }.enter path
    (document.analyze path workspace.settings)

/-- Forgets a file. -/
def remove (workspace : Workspace) (path : FilePath) : Workspace :=
  { workspace with
    registry := workspace.registry.removeFile path
    files := workspace.files.erase path.components }

def file? (workspace : Workspace) (path : FilePath) : Option FileAnalysis :=
  (workspace.files.find? path.components).map (·.analysis)

def analyses (workspace : Workspace) : List FileAnalysis :=
  workspace.files.values.map (·.analysis)

/-- Every injection site in file order. -/
def injections (workspace : Workspace) : List Injection :=
  workspace.analyses.flatMap (·.injections)

/-- An injection site with its resolution attached. -/
def resolveInjection (workspace : Workspace) (injection : Injection) : Injection :=
  let resolution := workspace.registry.resolveInjection injection
  { injection with resolved := resolution.resolved, candidates := some resolution.candidates }

def status (workspace : Workspace) (injection : Injection) : ResolutionStatus :=
  (workspace.registry.resolveInjection injection).status

/-- Where to go from an injection site: to the resolved bean, else to every candidate. -/
def navigationTargets (workspace : Workspace) (injection : Injection) : List (FilePath × Position) :=
  let resolution := workspace.registry.resolveInjection injection
  let beans := match resolution.resolved with
    | some bean => [bean]
    | none => resolution.candidates
  beans.map fun bean => (bean.file, bean.position)

def countStatus (workspace : Workspace) (status : ResolutionStatus) : Nat :=
  workspace.injections.countP (workspace.status · = status)

def summary (workspace : Workspace) : Summary where
  files := workspace.files.size
  classes := (workspace.analyses.flatMap (·.classes)).length
  beans := workspace.registry.size
  injections := workspace.injections.length
  resolved := workspace.countStatus .resolved
  collections := workspace.countStatus .collection
  ambiguous := workspace.countStatus .ambiguous
  unresolved := workspace.countStatus .unresolved
  filesWithErrors := workspace.analyses.countP (·.hasErrors)

end Workspace
end BeanAtlas
