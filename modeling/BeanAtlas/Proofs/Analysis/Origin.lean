import BeanAtlas.Analysis.File

/-!
Where everything found in a file comes from: each class is what one declaration of its tree stands for, nested
classes included, and classes and the beans they declare refer back to the file.
-/
namespace BeanAtlas

namespace Extract

variable {unit : Unit} {found : JavaClass}

/-- A class as it is read from a declaration of the unit. -/
def IsRead (unit : Unit) (found : JavaClass) : Prop :=
  ∃ scope declaration, classInfo? unit scope declaration = some found

theorem IsRead.file (read : IsRead unit found) : found.file = unit.file := by
  obtain ⟨scope, declaration, given⟩ := read
  simp only [classInfo?, Option.bind_eq_bind, Option.bind_eq_some_iff, Option.pure_def,
    Option.some.injEq] at given
  obtain ⟨nameNode, -, name, -, rfl⟩ := given
  rfl

theorem IsRead.imports (read : IsRead unit found) : found.imports = unit.imports := by
  obtain ⟨scope, declaration, given⟩ := read
  simp only [classInfo?, Option.bind_eq_bind, Option.bind_eq_some_iff, Option.pure_def,
    Option.some.injEq] at given
  obtain ⟨nameNode, -, name, -, rfl⟩ := given
  rfl

mutual

theorem isRead_of_mem_classes (unit : Unit) (scope : String) :
    ∀ (node : Node), ∀ found ∈ classes unit scope node, IsRead unit found
  | .node info children => by
    intro found member
    rw [classes] at member
    split at member
    · simp at member
    · next outer given =>
      rcases List.mem_cons.mp member with rfl | nested
      · exact ⟨scope, .node info children, given⟩
      · exact isRead_of_mem_bodyClasses unit outer.qualifiedName children found nested

theorem isRead_of_mem_bodyClasses (unit : Unit) (scope : String) :
    ∀ (parts : List Node), ∀ found ∈ bodyClasses unit scope parts, IsRead unit found
  | [] => by simp [bodyClasses]
  | .node info members :: rest => by
    intro found member
    rw [bodyClasses] at member
    split at member
    · exact isRead_of_mem_memberClasses unit scope members found member
    · exact isRead_of_mem_bodyClasses unit scope rest found member

theorem isRead_of_mem_memberClasses (unit : Unit) (scope : String) :
    ∀ (members : List Node), ∀ found ∈ memberClasses unit scope members, IsRead unit found
  | [] => by simp [memberClasses]
  | first :: rest => by
    intro found member
    rw [memberClasses] at member
    rcases List.mem_append.mp member with nested | later
    · split at nested
      · exact isRead_of_mem_classes unit scope first found nested
      · simp at nested
    · exact isRead_of_mem_memberClasses unit scope rest found later

end

theorem isRead_of_mem_unitClasses {file : FilePath} {source : Source} {root : Node}
    (member : found ∈ unitClasses file source root) : IsRead (.of file source root) found := by
  obtain ⟨node, -, member⟩ := List.mem_flatMap.mp member
  exact isRead_of_mem_classes _ _ node found member

end Extract

/-- Classes come from documents with a tree only. -/
theorem Document.exists_isRead_of_mem_classes {document : Document} {file : FilePath} {info : JavaClass}
    (member : info ∈ (document.extract file).classes) :
    ∃ root, Extract.IsRead (.of file document.source root) info := by
  unfold Document.extract at member
  split at member
  · simp at member
  · next root _ => exact ⟨root, Extract.isRead_of_mem_unitClasses member⟩

theorem Method.file_of_bean? {owner : JavaClass} {method : Method} {bean : Bean}
    (given : method.bean? owner = some bean) : bean.file = owner.file := by
  simp only [Method.bean?, Option.bind_eq_bind, Option.bind_eq_some_iff] at given
  obtain ⟨use, -, type, -, given⟩ := given
  split at given
  · simp at given
  · obtain rfl := Option.some.inj given
    rfl

theorem JavaClass.file_of_mem_beans {info : JavaClass} {bean : Bean} (member : bean ∈ info.beans) :
    bean.file = info.file := by
  unfold JavaClass.beans at member
  split at member
  · simp at member
  · rcases List.mem_cons.mp member with rfl | made
    · rfl
    · obtain ⟨method, -, given⟩ := List.mem_filterMap.mp made
      exact Method.file_of_bean? given

/-- The beans of a file carry the path under which it was analyzed, as it was spelled there. -/
theorem Document.file_of_mem_beans {document : Document} {path : FilePath} {settings : DetectorSettings}
    {bean : Bean} (member : bean ∈ (document.analyze path settings).beans) : bean.file = path := by
  unfold Document.analyze at member
  dsimp only at member
  split at member
  · obtain ⟨info, listed, declared⟩ := List.mem_flatMap.mp member
    obtain ⟨root, read⟩ := exists_isRead_of_mem_classes listed
    rw [JavaClass.file_of_mem_beans declared, read.file]
    rfl
  · simp at member

end BeanAtlas
