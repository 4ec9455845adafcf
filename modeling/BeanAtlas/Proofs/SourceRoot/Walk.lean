import BeanAtlas.Proofs.FilePath
import BeanAtlas.SourceRoot

/-!
The walk through a directory tree without ignore files. It comes to exactly the files whose directories are
neither hidden nor excluded and whose own name is not hidden. The rules that exclude are about directories
and never apply to a file.
-/
namespace BeanAtlas

open FilePath (IsEntryName)
open Ignore (Rule Scope pathBytes)

namespace Ignore

theorem Rule.Line.onlyDirs_of_slash {line : Rule.Line} {start : List Char}
    (slash : line.body = start ++ ['/']) : line.withoutEndSlash.onlyDirs = true := by
  simp [withoutEndSlash, Text.stripEnd?, slash]

theorem ofText_exclusion (dir : List Char) :
    (∃ start, (Rule.Line.ofText ('!' :: (dir ++ ['/']))).body = start ++ ['/']) ∨
      Rule.Line.ofText ('!' :: (dir ++ ['/'])) =
        { body := [], verdict := .keep, isAnchored := true } := by
  cases dir with
  | nil => exact .inr rfl
  | cons c cs =>
    refine .inl ?_
    by_cases slash : c = '/'
    · subst slash
      exact ⟨cs, rfl⟩
    · refine ⟨c :: cs, ?_⟩
      unfold Rule.Line.ofText
      split <;> simp_all

/-- The line of an excluded directory has no blanks to lose and is no comment. -/
theorem exclusion?_eq (dir : String) :
    exclusion? dir =
      let line := (Rule.Line.ofText ('!' :: (dir.toList ++ ['/']))).withoutEndSlash
      (Glob.read? false line.pattern).map fun pattern =>
        { pattern, verdict := line.verdict, onlyDirs := line.onlyDirs } := by
  have kept : Text.dropBlankEnd ('!' :: (dir.toList ++ ['/'])) = '!' :: (dir.toList ++ ['/']) := by
    simp [Text.dropBlankEnd, show Text.isBlank '/' = false by decide]
  have closed : ['\\', ' '].isSuffixOf ('!' :: (dir.toList ++ ['/'])) = false := by
    simp [List.isSuffixOf, List.isPrefixOf]
  simp only [exclusion?, Rule.ofLine?, List.cons_append, closed, kept, Bool.false_eq_true, if_false,
    List.isEmpty_cons, List.head?_cons, Bool.false_or, Option.some_beq_some, show ('!' == '#') = false by decide]
  cases Glob.read? false (Rule.Line.ofText ('!' :: (dir.toList ++ ['/']))).withoutEndSlash.pattern <;> rfl

/-- The rule of an excluded directory is for directories only, or it matches nothing but the empty path. -/
theorem exclusion?_cases {dir : String} {rule : Rule} (given : exclusion? dir = some rule) :
    rule.onlyDirs = true ∨ rule.pattern = [] := by
  rw [exclusion?_eq, Option.map_eq_some_iff] at given
  obtain ⟨pattern, read, rfl⟩ := given
  rcases ofText_exclusion dir.toList with ⟨start, slash⟩ | bare
  · exact .inl (Rule.Line.onlyDirs_of_slash slash)
  · rw [bare] at read
    exact .inr (Option.some.inj read).symm

end Ignore

theorem Text.bytes_ne_nil {cs : List Char} (filled : cs ≠ []) : bytes cs ≠ [] := by
  obtain ⟨c, rest, rfl⟩ := List.exists_cons_of_ne_nil filled
  simp [String.utf8EncodeChar_ne_nil]

theorem Ignore.pathBytes_ne_nil (names : List String) {name : String} (filled : name ≠ "") :
    pathBytes (names ++ [name]) ≠ [] := by
  have spelled : "/".intercalate (names ++ [name]) ≠ "" := by
    by_cases blank : names = []
    · simpa [blank] using filled
    · rw [String.intercalate_append_of_ne_nil blank (by simp)]
      simp [filled]
  exact Text.bytes_ne_nil (mt String.toList_eq_nil_iff.mp spelled)

namespace FileTree

/-- A file with this content stands at the end of the names. -/
inductive Holds : FileTree → List String → FileContent → Prop where
  | here (content : FileContent) : Holds (.file content) [] content
  | inside {entries : List (String × FileTree)} {name : String} {node : FileTree}
      {names : List String} {content : FileContent} (listed : (name, node) ∈ entries)
      (below : Holds node names content) : Holds (.dir entries) (name :: names) content

mutual

/-- All entries have names that an entry can have. -/
def WellNamed : FileTree → Prop
  | .file _ => True
  | .dir entries => EntriesWellNamed entries

def EntriesWellNamed : List (String × FileTree) → Prop
  | [] => True
  | (name, node) :: rest => IsEntryName name ∧ node.WellNamed ∧ EntriesWellNamed rest

end

mutual

instance decidableWellNamed : (tree : FileTree) → Decidable tree.WellNamed
  | .file _ => isTrue trivial
  | .dir entries => decidableEntriesWellNamed entries

instance decidableEntriesWellNamed :
    (entries : List (String × FileTree)) → Decidable (EntriesWellNamed entries)
  | [] => isTrue trivial
  | (_, node) :: rest =>
    have := decidableWellNamed node
    have := decidableEntriesWellNamed rest
    instDecidableAnd

end

theorem EntriesWellNamed.of_mem {entries : List (String × FileTree)} {name : String} {node : FileTree}
    (named : EntriesWellNamed entries) (listed : (name, node) ∈ entries) :
    IsEntryName name ∧ node.WellNamed := by
  induction entries with
  | nil => simp at listed
  | cons first rest ih =>
    obtain ⟨proper, inner, later⟩ := named
    rcases List.mem_cons.mp listed with rfl | listed
    · exact ⟨proper, inner⟩
    · exact ih later listed

theorem Holds.isEntryName {tree : FileTree} {names : List String} {content : FileContent}
    (holds : tree.Holds names content) (named : tree.WellNamed) : ∀ name ∈ names, IsEntryName name := by
  induction holds with
  | here content => simp
  | inside listed below ih =>
    obtain ⟨proper, inner⟩ := EntriesWellNamed.of_mem named listed
    simpa using ⟨proper, ih inner⟩

theorem mem_of_lookup {entries : List (String × FileTree)} {name : String} {node : FileTree}
    (found : entry? name entries = some node) : (name, node) ∈ entries := by
  induction entries with
  | nil => exact nomatch found
  | cons first rest ih =>
    unfold entry? at found
    split at found
    · next same =>
      obtain rfl := Option.some.inj found
      exact same ▸ List.mem_cons_self
    · exact List.mem_cons_of_mem _ (ih found)

theorem holds_of_follow {tree : FileTree} {names : List String} {content : FileContent}
    (found : tree.follow names = .ok (.file content)) : tree.Holds names content := by
  induction names generalizing tree with
  | nil =>
    obtain rfl : tree = .file content := by simpa [follow] using found
    exact .here content
  | cons name names ih =>
    cases tree with
    | file other => simp [follow] at found
    | dir entries =>
      rw [follow] at found
      split at found
      · next node entry => exact .inside (mem_of_lookup entry) (ih found)
      · simp at found

theorem holds_of_read {tree : FileTree} {names : List String} {content : FileContent}
    (found : tree.read names = .ok content) : tree.Holds names content := by
  apply holds_of_follow
  unfold read at found
  cases followed : tree.follow names with
  | error failure => simp [followed, bind, Except.bind] at found
  | ok node =>
    cases node with
    | dir entries => simp [followed, bind, Except.bind] at found
    | file other =>
      simp only [followed, bind, Except.bind, Except.ok.injEq] at found
      rw [found]

end FileTree

namespace SourceRoot

variable {root : SourceRoot}

theorem isExcluded_file (names : List String) {name : String} (filled : name ≠ "") :
    root.isExcluded (names ++ [name]) false = false := by
  have silent : ∀ rule ∈ root.exclusions.reverse,
      rule.applies (pathBytes (names ++ [name])) false = false := by
    intro rule member
    obtain ⟨dir, -, given⟩ := List.mem_filterMap.mp (List.mem_reverse.mp member)
    rcases Ignore.exclusion?_cases given with dirs | blank
    · simp [Rule.applies, dirs]
    · have path := Ignore.pathBytes_ne_nil names filled
      simp [Rule.applies, blank, Glob.isMatch, Glob.partsThen, path]
  have none : root.exclusions.reverse.find? (·.applies (pathBytes (names ++ [name])) false) = none :=
    List.find?_eq_none.mpr fun rule member => by simp [silent rule member]
  simp [isExcluded, Ignore.verdict?, none]

/-- The walk passes along the names from a directory: none of the directories on the way is hidden or
excluded, and the name at the end is not hidden. -/
def passes (root : SourceRoot) (base names : List String) : Bool :=
  !root.isBarred base (names.dropLast.map .name) && !names.getLast?.any isHidden

@[simp]
theorem passes_nil (base : List String) : root.passes base [] = true := rfl

@[simp]
theorem passes_single (base : List String) (name : String) :
    root.passes base [name] = !isHidden name := by
  simp [passes, isBarred]

@[simp]
theorem passes_cons (base : List String) (name next : String) (rest : List String) :
    root.passes base (name :: next :: rest) =
      ((!root.isExcluded (base ++ [name]) true && !isHidden name) &&
        root.passes (base ++ [name]) (next :: rest)) := by
  simp [passes, isBarred, Component.label, Bool.and_comm, Bool.and_assoc]

theorem admits_eq (plain : root.respectGitignore = false) (scope : Scope) (names : List String)
    (name : String) (isDir : Bool) :
    root.admits scope names name isDir =
      (!root.isExcluded (names ++ [name]) isDir && !isHidden name) := by
  unfold admits
  cases root.isExcluded (names ++ [name]) isDir <;> simp [plain]

/-- A name is passed and then what is below its node. -/
theorem passes_entry (plain : root.respectGitignore = false) (scope : Scope) (base : List String)
    {name : String} (proper : IsEntryName name) {node : FileTree} {names : List String}
    {content : FileContent} (holds : node.Holds names content) :
    root.passes base (name :: names) =
      (root.admits scope base name node.isDir && root.passes (base ++ [name]) names) := by
  cases holds with
  | here content => simp [admits_eq plain, FileTree.isDir, isExcluded_file base proper.2.1]
  | inside listed below => simp [admits_eq plain, FileTree.isDir]

mutual

/-- The walk finds exactly the files that it can pass to. -/
theorem mem_filesFrom (plain : root.respectGitignore = false) (scope : Scope) (base : List String)
    {found : List String} {content : FileContent} :
    ∀ (tree : FileTree), tree.WellNamed → ((found, content) ∈ root.filesFrom scope base tree ↔
      ∃ names, found = base ++ names ∧ tree.Holds names content ∧ root.passes base names)
  | .file other, _ => by
    rw [filesFrom, List.mem_singleton]
    constructor
    · intro same
      obtain ⟨rfl, rfl⟩ := Prod.mk.inj same
      exact ⟨[], by simp, .here content, by simp⟩
    · rintro ⟨names, rfl, holds, -⟩
      cases holds
      simp
  | .dir entries, named => by
    rw [filesFrom, mem_filesAmong plain _ base entries named]
    constructor
    · rintro ⟨name, node, names, listed, rfl, holds, passed⟩
      exact ⟨name :: names, rfl, .inside listed holds, passed⟩
    · rintro ⟨names, rfl, holds, passed⟩
      cases holds with
      | inside listed below => exact ⟨_, _, _, listed, rfl, below, passed⟩

theorem mem_filesAmong (plain : root.respectGitignore = false) (scope : Scope) (base : List String)
    {found : List String} {content : FileContent} :
    ∀ (entries : List (String × FileTree)), FileTree.EntriesWellNamed entries →
      ((found, content) ∈ root.filesAmong scope base entries ↔
        ∃ name node names, (name, node) ∈ entries ∧ found = base ++ name :: names ∧
          node.Holds names content ∧ root.passes base (name :: names))
  | [], _ => by simp [filesAmong]
  | (name, node) :: rest, named => by
    obtain ⟨proper, inner, later⟩ := named
    have first : (found, content) ∈ (if root.admits scope base name node.isDir then
        root.filesFrom (scope.enter name) (base ++ [name]) node else []) ↔
        ∃ names, found = base ++ name :: names ∧ node.Holds names content ∧
          root.passes base (name :: names) := by
      rw [List.mem_ite_nil_right, mem_filesFrom plain _ _ node inner]
      constructor
      · rintro ⟨admitted, names, rfl, holds, passed⟩
        refine ⟨names, by simp, holds, ?_⟩
        simp [passes_entry plain scope base proper holds, admitted, passed]
      · rintro ⟨names, rfl, holds, passed⟩
        rw [passes_entry plain scope base proper holds, Bool.and_eq_true] at passed
        exact ⟨passed.1, names, by simp, holds, passed.2⟩
    rw [filesAmong, List.mem_append, first, mem_filesAmong plain scope base rest later]
    constructor
    · rintro (⟨names, same, holds, passed⟩ | ⟨other, next, names, listed, same, holds, passed⟩)
      · exact ⟨name, node, names, by simp, same, holds, passed⟩
      · exact ⟨other, next, names, List.mem_cons_of_mem _ listed, same, holds, passed⟩
    · rintro ⟨other, next, names, listed, same, holds, passed⟩
      rcases List.mem_cons.mp listed with entry | listed
      · obtain ⟨rfl, rfl⟩ := Prod.mk.inj entry
        exact .inl ⟨names, same, holds, passed⟩
      · exact .inr ⟨other, next, names, listed, same, holds, passed⟩

end

end SourceRoot
end BeanAtlas
