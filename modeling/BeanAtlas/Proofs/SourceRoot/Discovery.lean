import BeanAtlas.Proofs.SourceRoot.Exclusion
import BeanAtlas.Proofs.SourceRoot.Inclusion

/-!
Which files a workspace lists when no ignore files count and directories are excluded by plain names. These are
the Java files that are not hidden and to which no hidden or excluded directory leads, each once and in the order
of their paths.
-/
namespace BeanAtlas

open FilePath (IsEntryName)
open Ignore (Scope)

namespace FilePath

theorem precedes_trans {a b c : FilePath} (first : a.precedes b) (second : b.precedes c) : a.precedes c :=
  Std.TransCmp.isLE_trans first second

theorem precedes_total (a b : FilePath) : (a.precedes b || b.precedes a) = true := by
  have mirrored : compare b.components a.components = (compare a.components b.components).swap :=
    Std.OrientedCmp.eq_swap
  unfold precedes
  rw [mirrored]
  cases compare a.components b.components <;> rfl

/-- Of two paths that are not the same, the one that precedes comes strictly first. -/
theorem compare_of_precedes {a b : FilePath} (first : a.precedes b) (apart : a.components ≠ b.components) :
    compare a.components b.components = .lt := by
  unfold precedes at first
  cases order : compare a.components b.components with
  | lt => rfl
  | eq => exact absurd (Std.LawfulEqCmp.eq_of_compare order) apart
  | gt => simp [order] at first

end FilePath

namespace FileTree

mutual

/-- No directory has two entries of one name. -/
def NamedOnce : FileTree → Prop
  | .file _ => True
  | .dir entries => EntriesNamedOnce entries

def EntriesNamedOnce : List (String × FileTree) → Prop
  | [] => True
  | (name, node) :: rest => (∀ entry ∈ rest, entry.1 ≠ name) ∧ node.NamedOnce ∧ EntriesNamedOnce rest

end

mutual

instance decidableNamedOnce : (tree : FileTree) → Decidable tree.NamedOnce
  | .file _ => isTrue trivial
  | .dir entries => decidableEntriesNamedOnce entries

instance decidableEntriesNamedOnce :
    (entries : List (String × FileTree)) → Decidable (EntriesNamedOnce entries)
  | [] => isTrue trivial
  | (_, node) :: rest =>
    have := decidableNamedOnce node
    have := decidableEntriesNamedOnce rest
    inferInstanceAs (Decidable (_ ∧ _ ∧ _))

end

theorem lookup_of_mem {entries : List (String × FileTree)} (once : EntriesNamedOnce entries) {name : String}
    {node : FileTree} (listed : (name, node) ∈ entries) : entry? name entries = some node ∧ node.NamedOnce := by
  induction entries with
  | nil => simp at listed
  | cons first rest ih =>
    obtain ⟨apart, inner, later⟩ := once
    rcases List.mem_cons.mp listed with rfl | listed
    · exact ⟨if_pos rfl, inner⟩
    · have other : first.1 ≠ name := (apart (name, node) listed).symm
      obtain ⟨found, inner⟩ := ih later listed
      exact ⟨(if_neg other).trans found, inner⟩

/-- With every name once, the names lead to one file. -/
theorem read_of_holds {tree : FileTree} {names : List String} {content : FileContent}
    (holds : tree.Holds names content) (once : tree.NamedOnce) : tree.read names = .ok content := by
  have followed : tree.follow names = .ok (.file content) := by
    induction holds with
    | here content => rfl
    | inside listed below ih =>
      obtain ⟨found, inner⟩ := lookup_of_mem once listed
      rw [follow, found]
      exact ih inner
  simp [read, followed, bind, Except.bind]

end FileTree

namespace SourceRoot

variable {root : SourceRoot}

mutual

/-- The walk comes to no file twice. -/
theorem filesFrom_distinct (plain : root.respectGitignore = false) (scope : Scope) (base : List String) :
    ∀ tree : FileTree, tree.WellNamed → tree.NamedOnce →
      (root.filesFrom scope base tree).Pairwise fun a b => a.1 ≠ b.1
  | .file content, _, _ => by simp [filesFrom]
  | .dir entries, named, once => by
    rw [filesFrom]
    exact filesAmong_distinct plain _ base entries named once

theorem filesAmong_distinct (plain : root.respectGitignore = false) (scope : Scope) (base : List String) :
    ∀ entries : List (String × FileTree), FileTree.EntriesWellNamed entries → FileTree.EntriesNamedOnce entries →
      (root.filesAmong scope base entries).Pairwise fun a b => a.1 ≠ b.1
  | [], _, _ => by simp [filesAmong]
  | (name, node) :: rest, named, once => by
    obtain ⟨proper, inner, later⟩ := named
    obtain ⟨apart, onceInner, onceLater⟩ := once
    rw [filesAmong, List.pairwise_append]
    refine ⟨?_, filesAmong_distinct plain scope base rest later onceLater, ?_⟩
    · split
      · exact filesFrom_distinct plain _ _ node inner onceInner
      · exact .nil
    · -- The paths in two entries part at the names of the entries.
      rintro ⟨first, content⟩ inFirst ⟨second, content'⟩ inRest same
      obtain ⟨-, reached⟩ := List.mem_ite_nil_right.mp inFirst
      obtain ⟨names, rfl, -⟩ := (mem_filesFrom plain _ _ node inner).mp reached
      obtain ⟨other, next, names', listed, rfl, -⟩ := (mem_filesAmong plain scope base rest later).mp inRest
      have steps : name :: names = other :: names' := by simpa using same
      exact apart (other, next) listed (List.cons.inj steps).1.symm

end

/-- The paths of the files found are distinct, however they are spelled. -/
theorem filesIn_distinct (plain : root.respectGitignore = false) (scope : Scope) {tree : FileTree}
    (named : tree.WellNamed) (once : tree.NamedOnce) :
    (root.filesIn scope tree).Pairwise fun a b => a.1.components ≠ b.1.components := by
  have proper : ∀ found ∈ root.filesFrom scope [] tree, ∀ name ∈ found.1, IsEntryName name := by
    rintro ⟨steps, content⟩ reached
    obtain ⟨names, rfl, holds, -⟩ := (mem_filesFrom plain scope [] tree named).mp reached
    exact holds.isEntryName named
  have spelled : ((root.filesFrom scope [] tree).map fun found => (root.path.descend found.1, found.2)).Pairwise
      fun a b => a.1.components ≠ b.1.components := by
    rw [List.pairwise_map]
    refine (filesFrom_distinct plain scope [] tree named once).imp_of_mem ?_
    intro a b reached reached' apart same
    rw [FilePath.components_descend (proper a reached), FilePath.components_descend (proper b reached')] at same
    exact apart (FilePath.steps_cancel same)
  exact ((List.mergeSort_perm _ _).pairwise_iff Ne.symm).mpr (spelled.filter _)

/-- The files are in the order of their paths, and no path comes twice. -/
theorem filesIn_increasing (plain : root.respectGitignore = false) (scope : Scope) {tree : FileTree}
    (named : tree.WellNamed) (once : tree.NamedOnce) :
    (root.filesIn scope tree).Pairwise fun a b => compare a.1.components b.1.components = .lt := by
  have sorted : (root.filesIn scope tree).Pairwise fun a b => a.1.precedes b.1 := by
    apply List.pairwise_mergeSort
    · exact fun _ _ _ => FilePath.precedes_trans
    · exact fun _ _ => FilePath.precedes_total _ _
  refine (sorted.and (filesIn_distinct plain scope named once)).imp ?_
  rintro a b ⟨first, apart⟩
  exact FilePath.compare_of_precedes first apart

theorem isHidden_iff (name : String) : isHidden name ↔ name.toList.head? = some '.' := beq_iff_eq

theorem passes_concat (plain : ∀ dir ∈ root.excludedDirs, Ignore.IsPlainDir dir) {dirs : List String} {name : String}
    (proper : ∀ step ∈ dirs ++ [name], IsEntryName step) :
    root.passes [] (dirs ++ [name]) ↔
      ¬ isHidden name ∧ ∀ dir ∈ dirs, ¬ isHidden dir ∧ dir ∉ root.excludedDirs := by
  have barred := isBarred_iff plain [] fun dir member => proper dir (List.mem_append_left [name] member)
  simp only [passes, List.dropLast_concat, List.getLast?_concat, Option.any_some, Bool.and_eq_true,
    Bool.not_eq_true', ← Bool.not_eq_true, barred, not_exists, not_and, not_or]
  exact and_comm

end SourceRoot

/-- A file that a workspace is to list: it is a Java file, and neither its own name nor that of a directory on the
way to it is hidden, and none of these directories is excluded. -/
structure Config.IsSource (config : Config) (dirs : List String) (name : String) : Prop where
  java : ∃ stem, stem ≠ "" ∧ name = stem ++ ".java"
  visible : name.toList.head? ≠ some '.'
  reachable : ∀ dir ∈ dirs,
    dir.toList.head? ≠ some '.' ∧ dir ∉ Config.standardExclusions ∧ dir ∉ config.excludeDirs

namespace SourceRoot

theorem isSource_iff {path : FilePath} {config : Config} (plain : ∀ dir ∈ config.excludeDirs, Ignore.IsPlainDir dir)
    {dirs : List String} {name : String} (proper : ∀ step ∈ dirs ++ [name], IsEntryName step) :
    config.IsSource dirs name ↔
      (path.descend (dirs ++ [name])).isJava ∧ (ofConfig path config).passes [] (dirs ++ [name]) := by
  have excluded : ∀ dir, dir ∈ (ofConfig path config).excludedDirs ↔
      dir ∈ Config.standardExclusions ∨ dir ∈ config.excludeDirs := fun _ => Config.mem_excludedDirs
  have standard : ∀ dir ∈ Config.standardExclusions, Ignore.IsPlainDir dir := by decide
  have allPlain : ∀ dir ∈ (ofConfig path config).excludedDirs, Ignore.IsPlainDir dir :=
    fun dir member => ((excluded dir).mp member).elim (standard dir) (plain dir)
  rw [FilePath.isJava_descend proper, FilePath.extensionOf?_eq_java, passes_concat allPlain proper]
  simp only [isHidden_iff, excluded, not_or]
  constructor
  · rintro ⟨java, visible, reachable⟩
    exact ⟨java, visible, reachable⟩
  · rintro ⟨java, visible, reachable⟩
    exact ⟨java, visible, reachable⟩

/-- Without ignore files and with plain names for the excluded directories, a workspace lists exactly its source
files, in the order of their paths and each once. -/
theorem files_are_sources_in_order (path : FilePath) (config : Config) (system : FileTree) (location : List String)
    (entries : List (String × FileTree)) (unignored : config.respectGitignore = false)
    (plain : ∀ dir ∈ config.excludeDirs, Ignore.IsPlainDir dir)
    (placed : system.follow location = .ok (.dir entries)) (named : (FileTree.dir entries).WellNamed)
    (once : (FileTree.dir entries).NamedOnce) :
    ((ofConfig path config).files system location).Pairwise
        (fun a b => compare a.1.components b.1.components = .lt) ∧
      ∀ file content, (file, content) ∈ (ofConfig path config).files system location ↔
        ∃ dirs name, config.IsSource dirs name ∧ (FileTree.dir entries).read (dirs ++ [name]) = .ok content ∧
          file = path.descend (dirs ++ [name]) := by
  have found : (ofConfig path config).files system location =
      (ofConfig path config).filesIn (Scope.around [] location system) (.dir entries) := by
    simp only [files, placed]
  rw [found]
  refine ⟨filesIn_increasing unignored _ named once, fun file content => ?_⟩
  rw [mem_filesIn]
  constructor
  · rintro ⟨names, _, reached, same, java⟩
    obtain ⟨_, rfl, holds, passed⟩ := (mem_filesFrom unignored _ [] _ named).mp reached
    obtain ⟨rfl, rfl⟩ := Prod.mk.inj same
    rcases List.eq_nil_or_concat names with rfl | ⟨dirs, name, rfl⟩
    · nomatch holds
    · rw [List.concat_eq_append] at holds passed java ⊢
      have source := (isSource_iff plain (holds.isEntryName named)).mpr ⟨java, passed⟩
      exact ⟨dirs, name, source, FileTree.read_of_holds holds once, rfl⟩
  · rintro ⟨dirs, name, source, present, rfl⟩
    have holds := FileTree.holds_of_read present
    obtain ⟨java, passed⟩ := (isSource_iff plain (holds.isEntryName named)).mp source
    exact ⟨_, content, (mem_filesFrom unignored _ [] _ named).mpr ⟨_, rfl, holds, passed⟩, rfl, java⟩

/-- Sources beside a directory of generated ones, build output and files that only look like sources. -/
def generatedTree : FileTree :=
  .dir [("src", .dir [("B.java", .file emptyFile), (".C.java", .file emptyFile),
      ("generated", .dir [("D.java", .file emptyFile)])]),
    ("target", .dir [("E.java", .file emptyFile)]), (".java", .file emptyFile)]

theorem generated_source_listed :
    let config : Config := { excludeDirs := ["generated"], respectGitignore := false }
    (∀ dir ∈ config.excludeDirs, Ignore.IsPlainDir dir) ∧ generatedTree.WellNamed ∧ generatedTree.NamedOnce ∧
      config.IsSource ["src"] "B.java" ∧
      (⟨"/work/src/B.java"⟩, emptyFile) ∈
        (ofConfig ⟨"/work"⟩ config).files (.dir [("work", generatedTree)]) ["work"] := by
  intro config
  have plain : ∀ dir ∈ config.excludeDirs, Ignore.IsPlainDir dir := by decide
  have named : generatedTree.WellNamed := by decide
  have once : generatedTree.NamedOnce := by decide
  have source : config.IsSource ["src"] "B.java" := ⟨⟨"B", by decide, by decide⟩, by decide, by decide⟩
  have listed := (files_are_sources_in_order ⟨"/work"⟩ config (.dir [("work", generatedTree)]) ["work"] _ rfl plain
    rfl named once).2
  exact ⟨plain, named, once, source, (listed _ _).mpr ⟨["src"], "B.java", source, rfl, by decide⟩⟩

end SourceRoot
end BeanAtlas
