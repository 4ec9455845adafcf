import BeanAtlas.Proofs.SourceRoot.Walk

/-!
The question about a single path beside the walk through the whole tree. Without ignore files the two agree
on every file whose own name is not hidden: the walk looks at the name of the file as well, the question only
at the directories above it.
-/
namespace BeanAtlas.SourceRoot

open Ignore (Rule Scope)

/-- The walk lists the file, in whatever spelling. -/
def Lists (root : SourceRoot) (system : FileTree) (location : List String) (file : FilePath) : Prop :=
  ∃ found ∈ root.files system location, found.1.same file

instance (root : SourceRoot) (system : FileTree) (location : List String) (file : FilePath) :
    Decidable (root.Lists system location file) :=
  inferInstanceAs (Decidable (∃ found ∈ root.files system location, found.1.same file))

variable {root : SourceRoot} {file : FilePath} {names : List String}

theorem mem_filesIn {scope : Scope} {tree : FileTree} {found : FilePath × FileContent} :
    found ∈ root.filesIn scope tree ↔ ∃ steps content,
      (steps, content) ∈ root.filesFrom scope [] tree ∧ found = (root.path.descend steps, content) ∧
        found.1.isJava := by
  unfold filesIn
  simp only [List.mem_mergeSort, List.mem_filter, List.mem_map, Prod.exists]
  constructor
  · rintro ⟨⟨steps, content, reached, rfl⟩, java⟩
    exact ⟨steps, content, reached, rfl, java⟩
  · rintro ⟨steps, content, reached, rfl, java⟩
    exact ⟨⟨steps, content, reached, rfl⟩, java⟩

/-- A file of the tree is listed exactly when it is a Java file that the walk can pass to. -/
theorem lists_iff {system tree : FileTree} {location : List String} {content : FileContent}
    (plain : root.respectGitignore = false) (placed : system.follow location = .ok tree)
    (named : tree.WellNamed) (held : tree.Holds names content)
    (spelled : file.components = root.path.components ++ names.map .name) :
    root.Lists system location file ↔ file.isJava ∧ root.passes [] names := by
  unfold Lists files
  simp only [placed, mem_filesIn, FilePath.same, beq_iff_eq]
  constructor
  · rintro ⟨_, ⟨steps, other, reached, rfl, java⟩, same⟩
    obtain ⟨_, rfl, holds, passed⟩ := (mem_filesFrom plain _ _ tree named).mp reached
    have paths : root.path.components ++ steps.map .name =
        root.path.components ++ names.map Component.name := by
      rw [← spelled, ← same, ← FilePath.components_descend (holds.isEntryName named)]
    have alike : steps = names := FilePath.steps_cancel paths
    exact ⟨FilePath.isJava_congr same ▸ java, alike ▸ passed⟩
  · rintro ⟨java, passed⟩
    have same : (root.path.descend names).components = file.components :=
      (FilePath.components_descend (held.isEntryName named)).trans spelled.symm
    refine ⟨_, ⟨names, content, ?_, rfl, ?_⟩, same⟩
    · exact (mem_filesFrom plain _ _ tree named).mpr ⟨names, rfl, held, passed⟩
    · rwa [FilePath.isJava_congr same]

/-- The answer on a path below the root, in whatever spelling. -/
theorem includes?_of_components (rules : List Rule) {steps : List Component}
    (below : file.components = root.path.components ++ steps) :
    root.includes? rules file =
      if !file.isJava || root.isBarred [] steps.dropLast then some false
      else if root.respectGitignore then (root.isIgnored? rules file).map (!·)
      else some true := by
  obtain ⟨relative, cut, rest⟩ := FilePath.below?_of_components below
  have folders := FilePath.components_parent? ⟨relative⟩
  rw [rest] at folders
  unfold includes?
  cases java : file.isJava <;> cases barred : root.isBarred [] steps.dropLast <;>
    simp [cut, folders, barred]

theorem includes?_below (plain : root.respectGitignore = false) (rules : List Rule)
    {steps : List Component} (below : file.components = root.path.components ++ steps) :
    root.includes? rules file = some (file.isJava && !root.isBarred [] steps.dropLast) := by
  rw [includes?_of_components rules below]
  cases file.isJava <;> cases root.isBarred [] steps.dropLast <;> simp [plain]

/-- Without ignore files, a file of the tree is included exactly when the walk lists it, unless its own name
is hidden. A file with a hidden name is never listed, and included like any other. -/
theorem included_iff_listed_unless_hidden (root : SourceRoot) (rules : List Rule)
    (system tree : FileTree) (location names : List String) (content : FileContent) (file : FilePath)
    (plain : root.respectGitignore = false) (placed : system.follow location = .ok tree)
    (named : tree.WellNamed) (present : tree.read names = .ok content)
    (spelled : file.components = root.path.components ++ names.map .name) :
    ∃ included, root.includes? rules file = some included ∧
      if names.getLast?.any isHidden then
        ¬ root.Lists system location file ∧
          (included ↔ file.isJava ∧ ¬ root.isBarred [] (names.dropLast.map .name))
      else included ↔ root.Lists system location file := by
  have listed := lists_iff plain placed named (FileTree.holds_of_read present) spelled
  refine ⟨_, includes?_below plain rules spelled, ?_⟩
  rw [listed, ← List.map_dropLast]
  cases hidden : names.getLast?.any isHidden <;> simp [passes, hidden]

def mixedRoot : SourceRoot where
  path := ⟨"/work"⟩
  excludedDirs := ["target"]
  respectGitignore := false

def emptyFile : FileContent where
  bytes := .empty

/-- Sources beside a hidden file and an excluded directory. -/
def mixedTree : FileTree :=
  .dir [(".A.java", .file emptyFile), ("src", .dir [("B.java", .file emptyFile)]),
    ("target", .dir [("C.java", .file emptyFile)])]

theorem mixed_included_iff_listed :
    ∃ included, mixedRoot.includes? [] ⟨"/work/./src//B.java"⟩ = some included ∧
      (included ↔ mixedRoot.Lists (.dir [("work", mixedTree)]) ["work"] ⟨"/work/./src//B.java"⟩) :=
  included_iff_listed_unless_hidden mixedRoot [] (.dir [("work", mixedTree)]) mixedTree ["work"]
    ["src", "B.java"] emptyFile ⟨"/work/./src//B.java"⟩ rfl rfl (by decide) rfl (by decide)

/-- A hidden file in the root is included, and the walk does not list it. -/
theorem hidden_file_included_not_listed :
    mixedTree.read [".A.java"] = .ok emptyFile ∧
      mixedRoot.includes? [] ⟨"/work/.A.java"⟩ = some true ∧
      ¬ mixedRoot.Lists (.dir [("work", mixedTree)]) ["work"] ⟨"/work/.A.java"⟩ :=
  ⟨rfl, by decide +kernel⟩

end BeanAtlas.SourceRoot
