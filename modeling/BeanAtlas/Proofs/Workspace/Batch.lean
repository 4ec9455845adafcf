import BeanAtlas.Java.Declarations
import BeanAtlas.Proofs.Workspace.Edits

/-!
Loading many documents at once against loading them one by one. An update first takes out the beans of its
file; as long as no registered bean belongs to the file there is nothing to take out, and the update only
enters what it finds. Documents with different paths keep it so, whatever names their beans have.
-/
namespace BeanAtlas

theorem Registry.removeFile_of_foreign {registry : Registry} {file : FilePath}
    (foreign : ∀ bean ∈ registry.beans, bean.file.components ≠ file.components) :
    registry.removeFile file = registry := by
  have nothing : registry.beans.filter (·.file.same file) = [] := by
    rw [List.filter_eq_nil_iff]
    intro bean registered
    simpa [FilePath.same] using foreign bean registered
  rw [removeFile, nothing]
  rfl

namespace Workspace

/-- Updates file after file. -/
def updateAll (workspace : Workspace) (documents : List (FilePath × Document)) : Workspace :=
  documents.foldl (fun workspace (path, document) => workspace.update path document) workspace

/-- No registered bean belongs to the file of a document that is still to come. -/
def Awaits (workspace : Workspace) (documents : List (FilePath × Document)) : Prop :=
  ∀ bean ∈ workspace.registry.beans, ∀ entry ∈ documents,
    bean.file.components ≠ entry.1.components

variable {workspace : Workspace} {path : FilePath} {document : Document}
  {documents : List (FilePath × Document)}

theorem update_eq_enter
    (foreign : ∀ bean ∈ workspace.registry.beans, bean.file.components ≠ path.components) :
    workspace.update path document =
      workspace.enter path (document.analyze path workspace.settings) := by
  rw [update, Registry.removeFile_of_foreign foreign]

/-- The beans of a document belong to its file, so entering it leaves the later files free. -/
theorem Awaits.enter (consistent : workspace.registry.Consistent)
    (awaits : workspace.Awaits ((path, document) :: documents))
    (apart : PathsApart ((path, document) :: documents)) :
    (workspace.enter path (document.analyze path workspace.settings)).Awaits documents := by
  obtain ⟨live, represents⟩ := consistent
  intro bean registered entry later
  obtain ⟨name, found⟩ := Registry.mem_beans_iff.mp registered
  have found : (workspace.registry.addAll (document.analyze path workspace.settings).beans).findByName?
      name = some bean := found
  rw [represents.findByName?_addAll, Option.or_eq_some_iff] at found
  rcases found with written | ⟨-, earlier⟩
  · have own : bean.file = path := Document.file_of_mem_beans (Bean.last?_eq_some written).1
    rw [own]
    intro same
    have absent : path.components ∉ documents.map (·.1.components) := (List.nodup_cons.mp apart).1
    exact absent (List.mem_map.mpr ⟨entry, later, same.symm⟩)
  · exact awaits bean (Registry.mem_beans_iff.mpr ⟨name, earlier⟩) entry
      (List.mem_cons_of_mem _ later)

theorem updateAll_eq_enterAll (consistent : workspace.registry.Consistent)
    (awaits : workspace.Awaits documents) (apart : PathsApart documents) :
    workspace.updateAll documents = workspace.enterAll documents := by
  induction documents generalizing workspace with
  | nil => rfl
  | cons first rest ih =>
    obtain ⟨path, document⟩ := first
    have entered : workspace.update path document =
        workspace.enter path (document.analyze path workspace.settings) :=
      update_eq_enter fun bean registered => awaits bean registered (path, document) (by simp)
    have step : workspace.updateAll ((path, document) :: rest) =
        (workspace.update path document).updateAll rest := rfl
    rw [step, entered, ih (consistent.addAll _) (awaits.enter consistent apart)
      (List.nodup_cons.mp apart).2]
    rfl

/-- Whatever the workspace was before, a refresh from documents with different paths leaves it in the state
of an empty one with the same settings that is updated with the documents one by one: the same files, and
the same registry with every bucket in the same order, however often the documents repeat a name. -/
theorem refresh_loads_one_by_one (workspace : Workspace) (documents : List (FilePath × Document))
    (apart : PathsApart documents) :
    workspace.refreshFrom (.ok documents) =
      .ok (({ settings := workspace.settings } : Workspace).updateAll documents) := by
  have free : ({ settings := workspace.settings } : Workspace).Awaits documents := by
    intro bean registered
    exact (List.not_mem_nil registered).elim
  have empty : ({ settings := workspace.settings } : Workspace).registry.Consistent :=
    ⟨[], Registry.Represents.empty⟩
  rw [updateAll_eq_enterAll empty free apart]
  rfl

/-- Three files of which the first repeats a name of its own and the last one takes it over. -/
def crowded : List (FilePath × Document) := [
  (⟨"src/A.java"⟩, .ofText
    "@Service(\"x\") class A implements Foo \x7b\x7d @Service(\"x\") class A2 implements Foo \x7b\x7d"),
  (⟨"B.java"⟩, .ofText "@Service(\"y\") class B implements Foo \x7b\x7d"),
  (⟨"./B.java"⟩, .ofText "@Service(\"x\") class C implements Foo \x7b\x7d")]

theorem crowded_loads_one_by_one :
    PathsApart crowded ∧
    (({} : Workspace).updateAll crowded).registry.byInterface.bucket "Foo" = ["y", "x"] ∧
    (after {} [.update ⟨"B.java"⟩ (.ofText "@Service(\"z\") class Z \x7b\x7d")]).refreshFrom (.ok crowded) =
      .ok (({} : Workspace).updateAll crowded) :=
  ⟨by decide +kernel, by decide +kernel, refresh_loads_one_by_one _ crowded (by decide +kernel)⟩

end Workspace
end BeanAtlas
