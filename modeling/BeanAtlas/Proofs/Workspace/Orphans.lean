import BeanAtlas.Java.Declarations
import BeanAtlas.Proofs.Workspace.Edits

/-!
When a bean of a present file is missing from the registry. The registry has one bean a name, that of the
last definition. Once an edit discards the file of that definition the name is gone, although another file
may still define it; it comes back only with the next definition. This is the only way to lose a bean.
-/
namespace BeanAtlas.Workspace

/-- The file of the last definition of the name was edited or removed afterwards, and the name has not
been defined again. -/
def Orphaned (settings : DetectorSettings) (edits : List Edit) (name : String) : Prop :=
  ∃ before edit later bean, edits = before ++ edit :: later ∧
    Bean.last? (edit.beans settings) name = some bean ∧
    (∀ next ∈ later, ∀ other ∈ next.beans settings, other.name ≠ name) ∧
    ∃ next ∈ later, next.forgets bean.file.components

variable {settings : DetectorSettings} {name : String} {bean : Bean}

/-- The last definition of a name is found until its file is discarded. -/
theorem findByName?_after_last (before later : List Edit) {edit : Edit}
    (written : Bean.last? (edit.beans settings) name = some bean)
    (silent : ∀ next ∈ later, ∀ other ∈ next.beans settings, other.name ≠ name) :
    (after settings (before ++ edit :: later)).registry.findByName? name =
      if later.any (·.forgets bean.file.components) then none else some bean := by
  induction later using List.reverseRecOn with
  | nil =>
    rw [after_concat, findByName?_apply (consistent_after settings before), settings_after, written]
    rfl
  | append_singleton later next ih =>
    have quiet : Bean.last? (next.beans settings) name = none :=
      Bean.last?_eq_none.mpr (silent next (by simp))
    have earlier := ih fun next member => silent next (by simp [member])
    rw [← List.cons_append, ← List.append_assoc, after_concat,
      findByName?_apply (consistent_after settings _), settings_after, quiet, earlier]
    cases kept : later.any (·.forgets bean.file.components) with
    | true => simp [kept]
    | false => cases last : next.forgets bean.file.components <;> simp [kept, last, Option.filter]

/-- A name that an edit defines has a last definition. -/
theorem exists_last_definition (edits : List Edit)
    (defined : ∃ edit ∈ edits, ∃ bean ∈ edit.beans settings, bean.name = name) :
    ∃ before edit later bean, edits = before ++ edit :: later ∧
      Bean.last? (edit.beans settings) name = some bean ∧
      ∀ next ∈ later, ∀ other ∈ next.beans settings, other.name ≠ name := by
  induction edits using List.reverseRecOn with
  | nil => simp at defined
  | append_singleton edits last ih =>
    cases written : Bean.last? (last.beans settings) name with
    | some bean => exact ⟨edits, last, [], bean, rfl, written, by simp⟩
    | none =>
      have silent := Bean.last?_eq_none.mp written
      obtain ⟨edit, member, bean, declared, named⟩ := defined
      have earlier : edit ∈ edits := by
        rcases List.mem_append.mp member with earlier | final
        · exact earlier
        · obtain rfl := List.mem_singleton.mp final
          exact absurd named (silent bean declared)
      obtain ⟨before, edit, later, bean, rfl, written, quiet⟩ := ih ⟨edit, earlier, bean, declared, named⟩
      refine ⟨before, edit, later ++ [last], bean, by simp, written, ?_⟩
      intro next listed
      rcases List.mem_append.mp listed with listed | final
      · exact quiet next listed
      · obtain rfl := List.mem_singleton.mp final
        exact silent

/-- What stands in a present analysis came with some edit. -/
theorem exists_edit_of_analysis (edits : List Edit) {file : List Component} {analysis : FileAnalysis}
    (present : (after settings edits).fileMap.find? file = some analysis) (declared : bean ∈ analysis.beans) :
    ∃ edit ∈ edits, bean ∈ edit.beans settings := by
  induction edits using List.reverseRecOn with
  | nil => simp [fileMap] at present
  | append_singleton edits edit ih =>
    rw [after_concat] at present
    rcases fileMap_apply_cases present with ⟨path, document, entered, -, rfl⟩ | ⟨-, earlier⟩
    · rw [settings_after] at declared
      exact ⟨edit, by simp, Edit.mem_beans.mpr ⟨path, document, entered, declared⟩⟩
    · obtain ⟨edit, member, written⟩ := ih earlier
      exact ⟨edit, by simp [member], written⟩

/-- A bean of a present file has its name in the registry unless the name is orphaned. -/
theorem registered_iff_not_orphaned (settings : DetectorSettings) (edits : List Edit) :
    ∀ analysis ∈ (after settings edits).analyses, ∀ bean ∈ analysis.beans,
      ((after settings edits).registry.findByName? bean.name).isSome ↔
        ¬ Orphaned settings edits bean.name := by
  intro analysis listed bean declared
  constructor
  · rintro registered ⟨before, edit, later, last, rfl, written, silent, lost⟩
    rw [findByName?_after_last before later written silent] at registered
    have forgotten : later.any (·.forgets last.file.components) := List.any_eq_true.mpr lost
    simp [forgotten] at registered
  · intro kept
    rw [analyses_eq, SortedMap.mem_values] at listed
    obtain ⟨file, present⟩ := listed
    obtain ⟨edit, member, written⟩ := exists_edit_of_analysis edits present declared
    obtain ⟨before, edit, later, last, rfl, written, silent⟩ :=
      exists_last_definition edits ⟨edit, member, bean, written, rfl⟩
    rw [findByName?_after_last before later written silent]
    split
    · next forgotten =>
      exact absurd ⟨before, edit, later, last, rfl, written, silent, List.any_eq_true.mp forgotten⟩ kept
    · rfl

/-- Two files define a name, and the one that did so last is removed. -/
def sharedName : List Edit := [
  .update ⟨"A.java"⟩ (.ofText "@Service(\"x\") class A \x7b\x7d"),
  .update ⟨"B.java"⟩ (.ofText "@Service(\"x\") class B \x7b\x7d"),
  .remove ⟨"B.java"⟩]

theorem sharedName_is_orphaned :
    ∃ analysis ∈ (after {} sharedName).analyses, ∃ bean ∈ analysis.beans,
      Orphaned {} sharedName bean.name := by
  have missing : ∃ analysis ∈ (after {} sharedName).analyses, ∃ bean ∈ analysis.beans,
      ¬ ((after {} sharedName).registry.findByName? bean.name).isSome := by decide +kernel
  obtain ⟨analysis, listed, bean, declared, missing⟩ := missing
  refine ⟨analysis, listed, bean, declared, ?_⟩
  by_contra kept
  exact missing ((registered_iff_not_orphaned {} sharedName analysis listed bean declared).mpr kept)

/-- The bean of the file that is left is not in the registry. -/
theorem sharedName_loses_bean :
    ∃ analysis ∈ (after {} sharedName).analyses, ∃ bean ∈ analysis.beans,
      (after {} sharedName).registry.findByName? bean.name = none := by
  decide +kernel

end BeanAtlas.Workspace
