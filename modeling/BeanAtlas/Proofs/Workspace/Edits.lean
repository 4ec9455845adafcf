import BeanAtlas.Proofs.Analysis.Origin
import BeanAtlas.Proofs.Registry.Resolution
import BeanAtlas.Workspace
import Mathlib.Data.List.Induction

/-!
Histories of a workspace. Every edit forgets some files and analyzes some documents; what it does to the
registry and to the files is said once here, for all kinds of edits, by what can be looked up afterwards.
-/
namespace BeanAtlas

/-- What can happen to a workspace. The documents of a refresh may not be available. -/
inductive Edit where
  | refresh (source : Except Source.Failure (List (FilePath × Document)))
  | update (path : FilePath) (document : Document)
  | remove (path : FilePath)

theorem FilePath.same_eq (path other : FilePath) :
    path.same other = (other.components == path.components) := by
  rw [FilePath.same, Bool.beq_comm]

/-- No two documents have the same path, whatever its spelling. -/
def PathsApart (documents : List (FilePath × Document)) : Prop :=
  (documents.map (·.1.components)).Nodup

instance (documents : List (FilePath × Document)) : Decidable (PathsApart documents) :=
  inferInstanceAs (Decidable (documents.map _).Nodup)

theorem PathsApart.eq_of_components {documents : List (FilePath × Document)}
    (apart : PathsApart documents) {first second : FilePath × Document} (member : first ∈ documents)
    (listed : second ∈ documents) (same : first.1.components = second.1.components) :
    first = second :=
  List.inj_on_of_nodup_map apart member listed same

namespace Edit

/-- The documents that are analyzed, in order. -/
def documents : Edit → List (FilePath × Document)
  | refresh (.ok documents) => documents
  | refresh (.error _) => []
  | update path document => [(path, document)]
  | remove _ => []

/-- Whether the edit discards what was known of the file with these path components. -/
def forgets (file : List Component) : Edit → Bool
  | refresh (.ok _) => true
  | refresh (.error _) => false
  | update path _ => path.components == file
  | remove path => path.components == file

/-- The beans of the analyzed documents, in order. -/
def beans (settings : DetectorSettings) (edit : Edit) : List Bean :=
  edit.documents.flatMap fun (path, document) => (document.analyze path settings).beans

/-- The registry without the beans of the forgotten files. -/
def prune (registry : Registry) : Edit → Registry
  | refresh (.ok _) => ∅
  | refresh (.error _) => registry
  | update path _ => registry.removeFile path
  | remove path => registry.removeFile path

theorem forgets_of_mem {edit : Edit} {path : FilePath} {document : Document}
    (member : (path, document) ∈ edit.documents) : edit.forgets path.components := by
  cases edit with
  | refresh source =>
    cases source with
    | ok sources => rfl
    | error failure => exact (List.not_mem_nil member).elim
  | update own text =>
    obtain ⟨rfl, -⟩ : path = own ∧ document = text := by simpa [documents] using member
    simp [forgets]
  | remove own => exact (List.not_mem_nil member).elim

theorem mem_beans {edit : Edit} {settings : DetectorSettings} {bean : Bean} :
    bean ∈ edit.beans settings ↔ ∃ path document, (path, document) ∈ edit.documents ∧
      bean ∈ (document.analyze path settings).beans := by
  simp [beans, List.mem_flatMap]

end Edit

namespace Registry

/-- The registry is that of some list of live beans. -/
def Consistent (registry : Registry) : Prop := ∃ live, registry.Represents live

variable {registry : Registry}

theorem Consistent.prune (consistent : registry.Consistent) (edit : Edit) :
    (edit.prune registry).Consistent := by
  obtain ⟨live, represents⟩ := consistent
  cases edit with
  | refresh source =>
    cases source with
    | ok sources => exact ⟨[], Represents.empty⟩
    | error failure => exact ⟨live, represents⟩
  | update path document => exact ⟨_, represents.removeFile path⟩
  | remove path => exact ⟨_, represents.removeFile path⟩

theorem Consistent.findByName?_prune (consistent : registry.Consistent) (edit : Edit) (name : String) :
    (edit.prune registry).findByName? name =
      (registry.findByName? name).filter fun bean => !edit.forgets bean.file.components := by
  obtain ⟨live, represents⟩ := consistent
  cases edit with
  | refresh source =>
    cases source with
    | ok sources => simp [Edit.prune, Edit.forgets]
    | error failure =>
      change registry.findByName? name = (registry.findByName? name).filter fun _ => true
      cases registry.findByName? name <;> rfl
  | update path document =>
    simp only [Edit.prune, represents.findByName?_removeFile, FilePath.same_eq, Edit.forgets]
  | remove path =>
    simp only [Edit.prune, represents.findByName?_removeFile, FilePath.same_eq, Edit.forgets]

theorem Consistent.addAll (consistent : registry.Consistent) (beans : List Bean) :
    (registry.addAll beans).Consistent := by
  obtain ⟨live, represents⟩ := consistent
  exact ⟨_, represents.addAll beans⟩

end Registry

namespace Workspace

/-- Carries out an edit; a refresh that fails changes nothing. -/
def apply (workspace : Workspace) : Edit → Workspace
  | .refresh source =>
    match workspace.refreshFrom source with
    | .ok refreshed => refreshed
    | .error _ => workspace
  | .update path document => workspace.update path document
  | .remove path => workspace.remove path

/-- The workspace after a history that starts with no files. -/
def after (settings : DetectorSettings) (edits : List Edit) : Workspace :=
  edits.foldl apply { settings }

/-- The analyses by path components, whatever the spelling of the paths. -/
def fileMap (workspace : Workspace) : SortedMap (List Component) FileAnalysis :=
  workspace.files.mapValues (·.analysis)

/-- Analyzes documents one after the other. -/
def enterAll (workspace : Workspace) (documents : List (FilePath × Document)) : Workspace :=
  documents.foldl
    (fun workspace (path, document) =>
      workspace.enter path (document.analyze path workspace.settings))
    workspace

variable (workspace : Workspace)

theorem file?_eq (path : FilePath) : workspace.file? path = workspace.fileMap.find? path.components := by
  rw [fileMap, SortedMap.find?_mapValues, file?]

theorem analyses_eq : workspace.analyses = workspace.fileMap.values := by
  rw [fileMap, SortedMap.values_mapValues, analyses]

@[simp]
theorem after_nil (settings : DetectorSettings) : after settings [] = { settings } := rfl

@[simp]
theorem after_concat (settings : DetectorSettings) (edits : List Edit) (edit : Edit) :
    after settings (edits ++ [edit]) = (after settings edits).apply edit := by
  simp [after]

theorem fileMap_enter (path : FilePath) (analysis : FileAnalysis) (file : List Component) :
    (workspace.enter path analysis).fileMap.find? file =
      if file = path.components then some analysis else workspace.fileMap.find? file := by
  simp only [fileMap, enter, SortedMap.find?_mapValues, SortedMap.find?_alter_eq]
  split
  · cases workspace.files.find? path.components <;> rfl
  · rfl

@[simp]
theorem settings_enterAll (documents : List (FilePath × Document)) :
    (workspace.enterAll documents).settings = workspace.settings := by
  unfold enterAll
  induction documents generalizing workspace with
  | nil => rfl
  | cons first rest ih => exact ih _

theorem registry_enterAll (documents : List (FilePath × Document)) :
    (workspace.enterAll documents).registry = workspace.registry.addAll
      (documents.flatMap fun (path, document) => (document.analyze path workspace.settings).beans) := by
  induction documents generalizing workspace with
  | nil => rfl
  | cons first rest ih =>
    have step : workspace.enterAll (first :: rest) =
      (workspace.enter first.1 (first.2.analyze first.1 workspace.settings)).enterAll rest := rfl
    rw [step, ih, List.flatMap_cons, Registry.addAll, Registry.addAll, List.foldl_append]
    rfl

theorem fileMap_enterAll (documents : List (FilePath × Document)) (file : List Component) :
    (workspace.enterAll documents).fileMap.find? file =
      ((documents.reverse.find? (·.1.components == file)).map
        fun (path, document) => document.analyze path workspace.settings).or
      (workspace.fileMap.find? file) := by
  induction documents generalizing workspace with
  | nil => rfl
  | cons first rest ih =>
    have step : workspace.enterAll (first :: rest) =
      (workspace.enter first.1 (first.2.analyze first.1 workspace.settings)).enterAll rest := rfl
    rw [step, ih, fileMap_enter, List.reverse_cons, List.find?_append, Option.map_or, Option.or_assoc]
    congr 1
    by_cases same : file = first.1.components
    · simp [same]
    · simp [same, Ne.symm same]

@[simp]
theorem settings_apply (edit : Edit) : (workspace.apply edit).settings = workspace.settings := by
  cases edit with
  | refresh source =>
    cases source with
    | ok documents => exact settings_enterAll workspace.clear documents
    | error failure => rfl
  | update path document => rfl
  | remove path => rfl

@[simp]
theorem settings_after (settings : DetectorSettings) (edits : List Edit) :
    (after settings edits).settings = settings := by
  induction edits using List.reverseRecOn with
  | nil => rfl
  | append_singleton edits edit ih => rw [after_concat, settings_apply, ih]

theorem registry_apply (edit : Edit) :
    (workspace.apply edit).registry =
      (edit.prune workspace.registry).addAll (edit.beans workspace.settings) := by
  cases edit with
  | refresh source =>
    cases source with
    | ok documents => exact registry_enterAll workspace.clear documents
    | error failure => rfl
  | update path document => simp [apply, update, enter, Edit.prune, Edit.beans, Edit.documents]
  | remove path => rfl

theorem consistent_after (settings : DetectorSettings) (edits : List Edit) :
    (after settings edits).registry.Consistent := by
  induction edits using List.reverseRecOn with
  | nil => exact ⟨[], Registry.Represents.empty⟩
  | append_singleton edits edit ih =>
    rw [after_concat, registry_apply]
    exact (ih.prune edit).addAll _

variable {workspace}

/-- By name, an edit finds its own last bean of the name, else what was there and is not forgotten. -/
theorem findByName?_apply (consistent : workspace.registry.Consistent) (edit : Edit) (name : String) :
    (workspace.apply edit).registry.findByName? name =
      (Bean.last? (edit.beans workspace.settings) name).or
        ((workspace.registry.findByName? name).filter fun bean => !edit.forgets bean.file.components) := by
  obtain ⟨live, represents⟩ := consistent.prune edit
  rw [registry_apply, represents.findByName?_addAll, consistent.findByName?_prune]

/-- By path, an edit finds its own last document of the path, else what was there and is not forgotten. -/
theorem fileMap_apply (edit : Edit) (file : List Component) :
    (workspace.apply edit).fileMap.find? file =
      ((edit.documents.reverse.find? (·.1.components == file)).map
        fun (path, document) => document.analyze path workspace.settings).or
      (if edit.forgets file then none else workspace.fileMap.find? file) := by
  cases edit with
  | refresh source =>
    cases source with
    | ok documents => exact fileMap_enterAll workspace.clear documents file
    | error failure => rfl
  | update path document =>
    change (enter _ path (document.analyze path workspace.settings)).fileMap.find? file = _
    rw [fileMap_enter]
    by_cases same : file = path.components
    · simp [Edit.documents, same]
    · simp [Edit.documents, Edit.forgets, same, Ne.symm same, fileMap]
  | remove path =>
    simp only [apply, remove, fileMap, SortedMap.find?_mapValues, SortedMap.erase,
      SortedMap.find?_alter_eq]
    by_cases same : file = path.components
    · simp [Edit.documents, Edit.forgets, same]
    · simp [Edit.documents, Edit.forgets, same, Ne.symm same]

/-- An analysis is that of a document of the edit, or it was there and is not forgotten. -/
theorem fileMap_apply_cases {edit : Edit} {file : List Component} {analysis : FileAnalysis}
    (found : (workspace.apply edit).fileMap.find? file = some analysis) :
    (∃ path document, (path, document) ∈ edit.documents ∧ path.components = file ∧
      document.analyze path workspace.settings = analysis) ∨
    (edit.forgets file = false ∧ workspace.fileMap.find? file = some analysis) := by
  rw [fileMap_apply, Option.or_eq_some_iff] at found
  rcases found with found | ⟨-, found⟩
  · obtain ⟨⟨path, document⟩, entered, same⟩ := Option.map_eq_some_iff.mp found
    have located : path.components = file := by simpa using List.find?_some entered
    exact .inl ⟨path, document, List.mem_reverse.mp (List.mem_of_find?_eq_some entered), located, same⟩
  · split at found
    · simp at found
    · next kept => exact .inr ⟨by simpa using kept, found⟩

theorem fileMap_apply_of_kept {edit : Edit} {file : List Component} (kept : edit.forgets file = false) :
    (workspace.apply edit).fileMap.find? file = workspace.fileMap.find? file := by
  have absent : edit.documents.reverse.find? (·.1.components == file) = none := by
    rw [List.find?_eq_none]
    rintro ⟨path, document⟩ member
    rw [beq_iff_eq]
    rintro rfl
    simp [Edit.forgets_of_mem (List.mem_reverse.mp member)] at kept
  simp [fileMap_apply, absent, kept]

theorem fileMap_apply_of_mem {edit : Edit} (apart : PathsApart edit.documents) {path : FilePath}
    {document : Document} (member : (path, document) ∈ edit.documents) :
    (workspace.apply edit).fileMap.find? path.components =
      some (document.analyze path workspace.settings) := by
  have found : edit.documents.reverse.find? (·.1.components == path.components) =
      some (path, document) := by
    cases found : edit.documents.reverse.find? (·.1.components == path.components) with
    | none => simpa using List.find?_eq_none.mp found _ (List.mem_reverse.mpr member)
    | some other =>
      have same : other.1.components = path.components := by simpa using List.find?_some found
      have listed := List.mem_reverse.mp (List.mem_of_find?_eq_some found)
      rw [apart.eq_of_components listed member same]
  simp [fileMap_apply, found]

end Workspace
end BeanAtlas
