import BeanAtlas.Proofs.Workspace.Frame

/-!
Saving a file again, and saving a file that is then removed. A registry is determined by its live beans and
their order, so both laws are equations between lists of live beans. The second save starts from a registry
in which the beans of the file stand last; taking them out leaves the survivors in the order they had.
-/
namespace BeanAtlas

variable {file : FilePath} {live entered : List Bean}

namespace Live

/-- Beans that replace those of their own file are all in that file, and what is left without them are the
survivors. -/
theorem removeFile_replaced (own : ∀ bean ∈ entered, bean.file.same file) (live : List Bean) :
    removeFile (entered.foldl add (removeFile live file)) file =
      live.filter (·.survives file entered) := by
  have foreign : ∀ bean ∈ live.filter (·.survives file entered), !bean.file.same file := by
    intro bean member
    simpa using (Bean.survives_iff.mp (List.mem_filter.mp member).2).1
  have located : ∀ bean ∈ entered.foldl add [], ¬ (!bean.file.same file) = true := by
    intro bean member
    have written := Bean.last?_eq_some (mem_foldl_add_nil.mp member)
    simp [own bean written.1]
  rw [foldl_add_removeFile, removeFile_eq, List.filter_append, List.filter_eq_self.mpr foreign,
    List.filter_eq_nil_iff.mpr located, List.append_nil]

/-- To replace the beans of a file a second time changes nothing. -/
theorem replace_replaced (own : ∀ bean ∈ entered, bean.file.same file) (live : List Bean) :
    entered.foldl add (removeFile (entered.foldl add (removeFile live file)) file) =
      entered.foldl add (removeFile live file) := by
  have free : ∀ bean ∈ live.filter (·.survives file entered), entered.all (·.name != bean.name) := by
    intro bean member
    simpa using (Bean.survives_iff.mp (List.mem_filter.mp member).2).2
  rw [removeFile_replaced own, foldl_add, List.filter_eq_self.mpr free, foldl_add_removeFile]

end Live

namespace Registry

variable {registry other : Registry}

/-- The live beans determine the registry. -/
theorem Represents.unique (left : registry.Represents live) (right : other.Represents live) :
    registry = other := by
  obtain ⟨byName, byType, byInterface⟩ := registry
  obtain ⟨byName', byType', byInterface'⟩ := other
  have names : byName = byName' := by
    refine SortedMap.ext_find fun name => ?_
    exact (left.byName name).trans (right.byName name).symm
  have types : byType = byType' := by
    refine SortedMap.ext_find fun key => ?_
    exact (left.byType key).trans (right.byType key).symm
  have interfaces : byInterface = byInterface' := by
    refine SortedMap.ext_find fun key => ?_
    exact (left.byInterface key).trans (right.byInterface key).symm
  rw [names, types, interfaces]

theorem Consistent.replace_replaced (consistent : registry.Consistent)
    (own : ∀ bean ∈ entered, bean.file.same file) :
    (((registry.removeFile file).addAll entered).removeFile file).addAll entered =
      (registry.removeFile file).addAll entered := by
  obtain ⟨live, represents⟩ := consistent
  have once := (represents.removeFile file).addAll entered
  have twice := (once.removeFile file).addAll entered
  rw [Live.replace_replaced own] at twice
  exact twice.unique once

/-- Beans that come and go with their file leave no trace exactly when they take no name from another
file. -/
theorem Consistent.removeFile_replaced_iff (consistent : registry.Consistent)
    (own : ∀ bean ∈ entered, bean.file.same file) :
    ((registry.removeFile file).addAll entered).removeFile file = registry.removeFile file ↔
      ∀ bean ∈ entered, ∀ holder, registry.findByName? bean.name = some holder →
        holder.file.same file := by
  obtain ⟨live, represents⟩ := consistent
  have left := ((represents.removeFile file).addAll entered).removeFile file
  have right := represents.removeFile file
  rw [Live.removeFile_replaced own] at left
  constructor
  · intro same bean written holder found
    obtain ⟨member, named⟩ := represents.find?_eq_some.mp found
    by_contra foreign
    -- The holder outlives the removal of the file alone, but not that of its name.
    have kept : holder ∈ Live.removeFile live file := by
      rw [Live.removeFile_eq, List.mem_filter]
      exact ⟨member, by simpa using foreign⟩
    rw [← right.mem_beans, ← same, left.mem_beans, List.mem_filter, Bean.survives_iff] at kept
    exact kept.2.2 bean written named.symm
  · intro free
    have survivors : live.filter (·.survives file entered) = Live.removeFile live file := by
      rw [Live.removeFile_eq]
      refine List.filter_congr fun holder member => ?_
      rw [Bool.eq_iff_iff, Bean.survives_iff]
      constructor
      · rintro ⟨foreign, -⟩
        simpa using foreign
      · intro foreign
        refine ⟨by simpa using foreign, fun bean written named => ?_⟩
        have found := represents.find?_eq_some.mpr ⟨member, named.symm⟩
        simp [free bean written holder found] at foreign
    rw [survivors] at left
    exact left.unique right

end Registry

namespace Workspace

variable {workspace : Workspace}

theorem eq_of_parts {left right : Workspace} (settings : left.settings = right.settings)
    (files : left.files = right.files) (registry : left.registry = right.registry) : left = right := by
  cases left
  cases right
  simp only at settings files registry
  rw [settings, files, registry]

theorem own_of_mem_beans (document : Document) (file : FilePath) (settings : DetectorSettings) :
    ∀ bean ∈ (document.analyze file settings).beans, bean.file.same file := by
  intro bean declared
  simp [Document.file_of_mem_beans declared, FilePath.same]

theorem update_update (consistent : workspace.registry.Consistent) (file : FilePath) (document : Document) :
    (workspace.update file document).update file document = workspace.update file document := by
  have files : ((workspace.update file document).update file document).files =
      (workspace.update file document).files := by
    refine SortedMap.ext_find fun other => ?_
    by_cases same : other = file.components
    · subst same
      simp only [update, enter, SortedMap.find?_alter_eq, if_true]
      cases workspace.files.find? file.components <;> rfl
    · simp only [update, enter, SortedMap.find?_alter_eq, if_neg same]
  have registry : ((workspace.update file document).update file document).registry =
      (workspace.update file document).registry :=
    consistent.replace_replaced (own_of_mem_beans document file workspace.settings)
  exact eq_of_parts rfl files registry

theorem remove_update_iff (consistent : workspace.registry.Consistent) (file : FilePath)
    (document : Document) :
    (workspace.update file document).remove file = workspace.remove file ↔
      ∀ bean ∈ (document.analyze file workspace.settings).beans, ∀ holder,
        workspace.registry.findByName? bean.name = some holder → holder.file.same file := by
  have files : ((workspace.update file document).remove file).files = (workspace.remove file).files := by
    refine SortedMap.ext_find fun other => ?_
    simp only [update, enter, remove, SortedMap.erase, SortedMap.find?_alter_eq]
    split <;> rfl
  rw [← consistent.removeFile_replaced_iff (own_of_mem_beans document file workspace.settings)]
  constructor
  · exact congrArg Workspace.registry
  · intro registry
    exact eq_of_parts rfl files registry

/-- Whatever the history, saving a file a second time with the same text changes nothing: neither the files nor
the registry with the order in its buckets. To save a file and then remove it is to remove it, exactly when
no name that the text defines is registered by another file. -/
theorem save_again_changes_nothing (settings : DetectorSettings) (edits : List Edit) (file : FilePath)
    (document : Document) :
    let before := after settings edits
    let saved := before.update file document
    saved.update file document = saved ∧
    (saved.remove file = before.remove file ↔
      ∀ bean ∈ (document.analyze file settings).beans, ∀ holder,
        before.registry.findByName? bean.name = some holder → holder.file.same file) := by
  intro before saved
  have consistent : before.registry.Consistent := consistent_after settings edits
  have removed := remove_update_iff consistent file document
  rw [settings_after] at removed
  exact ⟨update_update consistent file document, removed⟩

end Workspace
end BeanAtlas
