import BeanAtlas.Java.Declarations
import BeanAtlas.Proofs.Workspace.Edits

/-!
What an edit of one file leaves as it was. The live beans afterwards are the survivors, in their old order,
and behind them the beans of the new text, each name at the place of its last definition. The registry's
maps are those of the live beans, so the frame of all of them is read off this one list.
-/
namespace BeanAtlas

/-- The bean belongs to another file, and none of the new beans has its name. -/
def Bean.survives (file : FilePath) (entered : List Bean) (bean : Bean) : Bool :=
  !bean.file.same file && entered.all (·.name != bean.name)

theorem Bean.survives_iff {file : FilePath} {entered : List Bean} {bean : Bean} :
    bean.survives file entered ↔
      bean.file.same file = false ∧ ∀ new ∈ entered, new.name ≠ bean.name := by
  simp [survives]

namespace Live

/-- Adding beans drops the live beans of their names, and the rest stays in front as it is. -/
theorem foldl_add (live entered : List Bean) :
    entered.foldl add live =
      live.filter (fun bean => entered.all (·.name != bean.name)) ++ entered.foldl add [] := by
  induction entered using List.reverseRecOn with
  | nil => simp only [List.foldl_nil, List.all_nil, List.filter_true, List.append_nil]
  | append_singleton entered last ih =>
    have step : ∀ live, (entered ++ [last]).foldl add live =
        (entered.foldl add live).filter (·.name != last.name) ++ [last] := by
      intro live
      rw [List.foldl_append]
      rfl
    have names : ∀ bean : Bean, (bean.name != last.name && entered.all (·.name != bean.name)) =
        (entered ++ [last]).all (·.name != bean.name) := by
      intro bean
      simp [Bool.and_comm, bne_comm]
    rw [step live, step [], ih, List.filter_append, List.filter_filter, List.append_assoc]
    simp only [names]

theorem foldl_add_removeFile (live : List Bean) (file : FilePath) (entered : List Bean) :
    entered.foldl add (removeFile live file) =
      live.filter (·.survives file entered) ++ entered.foldl add [] := by
  rw [foldl_add, removeFile_eq, List.filter_filter]
  congr 1
  exact List.filter_congr fun bean _ => Bool.and_comm _ _

/-- Of beans added to nothing those are live that are the last of their name. -/
theorem mem_foldl_add_nil {entered : List Bean} {bean : Bean} :
    bean ∈ entered.foldl add [] ↔ Bean.last? entered bean.name = some bean := by
  have represents := Registry.Represents.empty.addAll entered
  have found := Registry.Represents.empty.findByName?_addAll entered bean.name
  rw [Registry.findByName?_empty, Option.or_none] at found
  rw [← found, Registry.findByName?, represents.find?_eq_some]
  simp

end Live

namespace Registry

/-- Whether the bean of a name survives. -/
def keeps (registry : Registry) (file : FilePath) (entered : List Bean) (name : String) : Bool :=
  (registry.findByName? name).any (·.survives file entered)

/-- The beans of a file make way for new ones. A bean of another file stays unless its name is taken, and
no other comes; of the file itself there are the last new ones of each name. In every bucket the survivors
keep their order and the new beans follow. -/
structure Replaces (before after : Registry) (file : FilePath) (entered : List Bean) : Prop where
  others : ∀ bean, bean.file.same file = false →
    (bean ∈ after.beans ↔ bean ∈ before.beans ∧ ∀ new ∈ entered, new.name ≠ bean.name)
  own : ∀ bean, bean.file.same file →
    (bean ∈ after.beans ↔ Bean.last? entered bean.name = some bean)
  byType : ∀ key, after.byType.bucket key =
    (before.byType.bucket key).filter (before.keeps file entered) ++
      Live.names (entered.foldl Live.add []) (·.hasType key)
  byInterface : ∀ key, after.byInterface.bucket key =
    (before.byInterface.bucket key).filter (before.keeps file entered) ++
      Live.names (entered.foldl Live.add []) (·.hasInterface key)

variable {registry : Registry} {live : List Bean}

theorem Represents.names_survivors (represents : registry.Represents live) (file : FilePath)
    (entered : List Bean) (wanted : Bean → Bool) :
    Live.names (live.filter (·.survives file entered)) wanted =
      (Live.names live wanted).filter (registry.keeps file entered) := by
  have keeps : ∀ bean ∈ live, registry.keeps file entered bean.name = bean.survives file entered := by
    intro bean member
    have found : registry.findByName? bean.name = some bean := represents.find?_eq_some.mpr ⟨member, rfl⟩
    simp [Registry.keeps, found]
  simp only [Live.names, List.filter_map, List.filter_filter, Function.comp_def]
  congr 1
  refine List.filter_congr fun bean member => ?_
  rw [keeps bean member, Bool.and_comm]

theorem Consistent.replaces (consistent : registry.Consistent) {file : FilePath} {entered : List Bean}
    (located : ∀ bean ∈ entered, bean.file.same file) :
    registry.Replaces ((registry.removeFile file).addAll entered) file entered := by
  obtain ⟨live, represents⟩ := consistent
  have replaced := (represents.removeFile file).addAll entered
  rw [Live.foldl_add_removeFile] at replaced
  have listed : ∀ bean, bean ∈ ((registry.removeFile file).addAll entered).beans ↔
      (bean ∈ registry.beans ∧ bean.survives file entered) ∨
        Bean.last? entered bean.name = some bean := by
    intro bean
    rw [replaced.mem_beans, represents.mem_beans, List.mem_append, List.mem_filter,
      Live.mem_foldl_add_nil]
  have names : ∀ wanted, Live.names (live.filter (·.survives file entered) ++ entered.foldl Live.add [])
      wanted = (Live.names live wanted).filter (registry.keeps file entered) ++
        Live.names (entered.foldl Live.add []) wanted := by
    intro wanted
    rw [← represents.names_survivors file entered wanted]
    simp only [Live.names, List.filter_append, List.map_append]
  constructor
  · intro bean foreign
    rw [listed, Bean.survives_iff]
    constructor
    · rintro (⟨registered, -, free⟩ | written)
      · exact ⟨registered, free⟩
      · simp [located bean (Bean.last?_eq_some written).1] at foreign
    · rintro ⟨registered, free⟩
      exact .inl ⟨registered, foreign, free⟩
  · intro bean own
    rw [listed, Bean.survives_iff]
    constructor
    · rintro (⟨-, foreign, -⟩ | written)
      · simp [own] at foreign
      · exact written
    · exact .inr
  · intro key
    rw [replaced.byType.bucket_eq, represents.byType.bucket_eq, names]
  · intro key
    rw [replaced.byInterface.bucket_eq, represents.byInterface.bucket_eq, names]

end Registry

theorem Document.analyze_of_error {document : Document} {failure : TreeFailure}
    (failed : document.tree = .error failure) (file : FilePath) (settings : DetectorSettings) :
    document.analyze file settings = { errors := [failure.message] } := by
  simp [analyze, extract, failed]

namespace Workspace

/-- After an edit of a file every other file has the entry it had, and in the registry the beans of the
file make way for the new ones. -/
structure Frames (before after : Workspace) (file : FilePath) (entered : List Bean) : Prop where
  files : ∀ other, other ≠ file.components → after.files.find? other = before.files.find? other
  registry : before.registry.Replaces after.registry file entered

variable {workspace : Workspace}

theorem frames_update (consistent : workspace.registry.Consistent) (file : FilePath) (document : Document) :
    workspace.Frames (workspace.update file document) file
      (document.analyze file workspace.settings).beans where
  files other apart := by
    simp [update, enter, SortedMap.find?_alter_eq, apart]
  registry := by
    refine consistent.replaces fun bean declared => ?_
    simp [Document.file_of_mem_beans declared, FilePath.same]

theorem frames_remove (consistent : workspace.registry.Consistent) (file : FilePath) :
    workspace.Frames (workspace.remove file) file [] where
  files other apart := by
    simp [remove, SortedMap.erase, SortedMap.find?_alter_eq, apart]
  registry := by
    have located : ∀ bean ∈ ([] : List Bean), bean.file.same file := by simp
    exact consistent.replaces located

theorem file?_update (file : FilePath) (document : Document) :
    (workspace.update file document).file? file = some (document.analyze file workspace.settings) := by
  rw [file?_eq, update, fileMap_enter, if_pos rfl]

theorem file?_remove (file : FilePath) : (workspace.remove file).file? file = none := by
  simp [file?, remove, SortedMap.erase, SortedMap.find?_alter_eq]

/-- Whatever the history, an update touches its own file only and so does a removal; a text without a tree
leaves the file without classes, beans and injections, and takes nothing from other files. -/
theorem edit_touches_own_file (settings : DetectorSettings) (edits : List Edit) (file : FilePath)
    (document : Document) :
    let before := after settings edits
    let analysis := document.analyze file settings
    (before.Frames (before.update file document) file analysis.beans ∧
      (before.update file document).file? file = some analysis) ∧
    (∀ failure, document.tree = .error failure →
      before.Frames (before.update file document) file [] ∧
      analysis.classes = [] ∧ analysis.beans = [] ∧ analysis.injections = []) ∧
    before.Frames (before.remove file) file [] ∧ (before.remove file).file? file = none := by
  intro before analysis
  have consistent : before.registry.Consistent := consistent_after settings edits
  have own : document.analyze file before.settings = analysis := by rw [settings_after]
  have updated := frames_update consistent file document
  rw [own] at updated
  refine ⟨⟨updated, ?_⟩, ?_, frames_remove consistent file, file?_remove file⟩
  · rw [file?_update, own]
  · intro failure failed
    have bare : analysis = { errors := [failure.message] } := Document.analyze_of_error failed file settings
    rw [bare] at updated ⊢
    exact ⟨updated, rfl, rfl, rfl⟩

end Workspace
end BeanAtlas
