import BeanAtlas.Proofs.FilePath.Spelling
import BeanAtlas.Proofs.SourceRoot.Inclusion
import Mathlib.Data.List.Infix

/-!
Files below an ignored directory. The walk does not enter the directory; the question about a single path goes
up from the file and stops at the first verdict, so a rule that keeps the file, or a directory nearer to it,
readmits what the walk never sees.
-/
namespace BeanAtlas

namespace Text

theorem stripStart?_append (start rest : List Char) : stripStart? start (start ++ rest) = some rest := by
  simp [stripStart?]

theorem stripStart?_slash {cs : List Char} (solid : cs.head? ≠ some '/') : stripStart? ['/'] cs = none := by
  cases cs with
  | nil => rfl
  | cons c cs =>
    have apart : c ≠ '/' := by simpa using solid
    simp [stripStart?, apart.symm]

end Text

namespace SourceRoot

open FilePath (IsEntryName)
open Ignore (Rule Verdict pathBytes)

variable {path : FilePath} {names dirs : List String} {name : String}

/-- A spelling of the current directory with one more `./` in front, as `./.`. -/
def repeatsDot (path : FilePath) : Bool :=
  (Text.stripStart? ['.', '/'] path.spelling.toList).any fun rest => (FilePath.mk (String.ofList rest)).same ⟨"."⟩

theorem undotted_dotted (rest : List Char) : undotted ('.' :: '/' :: rest) = rest := by
  simp [undotted, Text.stripStart?]

theorem undotted_of_ne {cs : List Char} (plain : ∀ rest, cs ≠ '.' :: '/' :: rest) : undotted cs = cs := by
  have absent : Text.stripStart? ['.', '/'] cs = none := by
    match cs with
    | [] => rfl
    | [c] => simp [Text.stripStart?]
    | c :: d :: rest =>
      have apart : ¬ ('.' = c ∧ '/' = d) := by
        rintro ⟨rfl, rfl⟩
        exact plain rest rfl
      simpa [Text.stripStart?] using apart
  simp [undotted, absent]

/-- Behind its base and at most one slash, a text is what is left. -/
theorem textBelow_of_undotted {base path start slash text : List Char} (dotless : undotted base = start)
    (apart : (FilePath.mk (String.ofList start)).same ⟨"."⟩ = false)
    (spelled : undotted path = start ++ slash ++ text)
    (gap : slash = ['/'] ∨ slash = [] ∧ (start = [] ∨ '/' ∈ start)) (solid : text.head? ≠ some '/') :
    textBelow base path = text := by
  have cut : Text.stripStart? start (start ++ slash ++ text) = some (slash ++ text) := by
    rw [List.append_assoc, Text.stripStart?_append]
  simp only [textBelow, dotless, spelled, apart, cut]
  rcases gap with rfl | ⟨rfl, rfl | inside⟩
  · simp [Text.stripStart?]
  · simp [Text.stripStart?_slash solid]
  · simp [inside, Text.stripStart?_slash solid]

/-- Below a directory the text of a path is that of the names that lead to it. -/
theorem textBelow_descend (once : repeatsDot path = false) (filled : names ≠ [])
    (proper : ∀ name ∈ names, IsEntryName name) :
    textBelow path.spelling.toList (path.descend names).spelling.toList = ("/".intercalate names).toList := by
  have solid := FilePath.head?_names proper
  have named := FilePath.names_not_dotted proper
  have gap := path.gap_eq
  rw [FilePath.toList_descend filled proper]
  generalize ("/".intercalate names).toList = text at solid named ⊢
  by_cases dotted : ∃ rest, path.spelling.toList = '.' :: '/' :: rest
  -- The same `./` is taken off both spellings, and the directory is taken off by what is left of it.
  · obtain ⟨rest, spelled⟩ := dotted
    rw [spelled] at gap ⊢
    refine textBelow_of_undotted (undotted_dotted rest) ?_ (undotted_dotted (rest ++ path.gap ++ text)) ?_ solid
    · simpa [repeatsDot, spelled, Text.stripStart?] using once
    · rcases gap with ⟨between, -⟩ | ⟨tight, last⟩
      · exact .inl between
      · cases rest with
        | nil => exact .inr ⟨tight, .inl rfl⟩
        | cons c cs => exact .inr ⟨tight, .inr (List.mem_of_getLast? (by simpa using last))⟩
  · have plain : undotted path.spelling.toList = path.spelling.toList :=
      undotted_of_ne fun rest spelled => dotted ⟨rest, spelled⟩
    by_cases dot : path.spelling.toList = ['.']
    -- Below `.` the path begins with `./` though the directory does not, and that is all that goes.
    · rw [dot] at gap ⊢
      have between : path.gap = ['/'] := by simpa using gap
      have here : (FilePath.mk (String.ofList (undotted ['.']))).same ⟨"."⟩ := by decide
      simp [textBelow, here, between, undotted_dotted]
    · refine textBelow_of_undotted plain ?_ (undotted_of_ne fun rest spelled => ?_) ?_ solid
      · exact Bool.not_eq_true _ ▸ fun same => (FilePath.dotted_of_same same).elim dot dotted
      · match outer : path.spelling.toList with
        | [] =>
          have tight : path.gap = [] := by simpa [outer] using gap
          exact named rest (by simpa [outer, tight] using spelled)
        | [c] => exact dot (by simp_all)
        | c :: d :: cs => exact dotted ⟨cs, by simp_all⟩
      · rcases gap with ⟨between, -⟩ | ⟨tight, blank | last⟩
        · exact .inl between
        · exact .inr ⟨tight, .inl blank⟩
        · exact .inr ⟨tight, .inr (List.mem_of_getLast? last)⟩

/-! ### The nearest verdict -/

variable {rules : List Rule} {bound : Nat} {isDir : Bool} {dir : List String}

theorem nearestVerdict?_nil :
    nearestVerdict? rules (bound + 1) ⟨"/".intercalate []⟩ isDir = Ignore.verdict? rules (pathBytes []) isDir := by
  have top : (FilePath.mk ("/".intercalate [])).parent? = none := rfl
  rw [nearestVerdict?, top, Option.bind_none, Option.orElse_eq_orElse, Option.orElse_eq_or, Option.or_none]
  rfl

theorem nearestVerdict?_concat (proper : ∀ step ∈ dirs ++ [name], IsEntryName step) :
    nearestVerdict? rules (bound + 1) ⟨"/".intercalate (dirs ++ [name])⟩ isDir =
      (Ignore.verdict? rules (pathBytes (dirs ++ [name])) isDir).or
        (nearestVerdict? rules bound ⟨"/".intercalate dirs⟩ true) := by
  rw [nearestVerdict?, FilePath.parent?_names proper, Option.bind_some, Option.orElse_eq_orElse,
    Option.orElse_eq_or]
  rfl

/-- The rules keep a directory below `dir` on the way to `inner`, and have no verdict on those nearer to it. -/
def Readmits (rules : List Rule) (dir inner : List String) : Prop :=
  ∃ kept ∈ inner.inits, dir <+: kept ∧ kept ≠ dir ∧ Ignore.verdict? rules (pathBytes kept) true = some .keep ∧
    ∀ nearer ∈ inner.inits, kept <+: nearer → nearer ≠ kept →
      Ignore.verdict? rules (pathBytes nearer) true = none

instance (rules : List Rule) (dir inner : List String) : Decidable (Readmits rules dir inner) :=
  inferInstanceAs (Decidable (∃ kept ∈ inner.inits, _ ∧ _))

theorem not_readmits_self : ¬ Readmits rules dir dir := by
  rintro ⟨kept, inside, below, apart, -⟩
  exact apart (((List.mem_inits kept dir).mp inside).eq_of_length_le below.length_le)

theorem ne_concat_of_start {start : List String} (inside : start <+: dirs) : start ≠ dirs ++ [name] := by
  rintro rfl
  have shorter := inside.length_le
  rw [List.length_append, List.length_singleton] at shorter
  omega

theorem readmits_concat (above : dir <+: dirs) :
    Readmits rules dir (dirs ++ [name]) ↔
      Ignore.verdict? rules (pathBytes (dirs ++ [name])) true = some .keep ∨
        Ignore.verdict? rules (pathBytes (dirs ++ [name])) true = none ∧ Readmits rules dir dirs := by
  have last : dirs <+: dirs ++ [name] := List.prefix_append _ _
  simp only [Readmits, List.mem_inits, List.prefix_concat_iff]
  constructor
  · rintro ⟨kept, rfl | inside, below, apart, keeps, nearer⟩
    · exact .inl keeps
    · have silent := nearer _ (.inl rfl) (inside.trans last) (ne_concat_of_start inside).symm
      exact .inr ⟨silent, kept, inside, below, apart, keeps, fun other within => nearer other (.inr within)⟩
  · rintro (keeps | ⟨silent, kept, inside, below, apart, keeps, nearer⟩)
    · refine ⟨_, .inl rfl, above.trans last, (ne_concat_of_start above).symm, keeps, ?_⟩
      rintro other (rfl | within) beyond differs
      · exact absurd rfl differs
      · exact absurd rfl (ne_concat_of_start (beyond.trans within))
    · refine ⟨kept, .inr inside, below, apart, keeps, ?_⟩
      rintro other (rfl | within) beyond differs
      · exact silent
      · exact nearer other within beyond differs

/-- Going up, the search ends at an ignored directory at the latest: only what lies below it can overrule it. -/
theorem nearestVerdict?_below_ignored (proper : ∀ step ∈ dirs, IsEntryName step) (enough : dirs.length < bound)
    (above : dir <+: dirs) (ignored : Ignore.verdict? rules (pathBytes dir) true = some .ignore) :
    nearestVerdict? rules bound ⟨"/".intercalate dirs⟩ true ≠ some .ignore ↔ Readmits rules dir dirs := by
  obtain ⟨fewer, rfl⟩ : ∃ fewer, bound = fewer + 1 := ⟨bound - 1, by omega⟩
  induction dirs using List.reverseRecOn generalizing fewer with
  | nil =>
    obtain rfl := List.prefix_nil.mp above
    rw [nearestVerdict?_nil, ignored]
    simp [not_readmits_self]
  | append_singleton outer last ih =>
    rw [nearestVerdict?_concat proper]
    rcases List.prefix_concat_iff.mp above with rfl | above
    · simp [ignored, not_readmits_self]
    · have shorter : outer.length < fewer := by simpa using enough
      obtain ⟨fewer, rfl⟩ : ∃ rest, fewer = rest + 1 := ⟨fewer - 1, by omega⟩
      have upwards := ih (fun step member => proper step (List.mem_append_left _ member)) above fewer shorter
      rw [readmits_concat above, ← upwards]
      cases own : Ignore.verdict? rules (pathBytes (outer ++ [last])) true with
      | none => simp
      | some verdict => cases verdict <;> simp

/-! ### The question about a single path -/

variable {root : SourceRoot}

theorem isIgnored?_descend (once : repeatsDot root.path = false) (filled : names ≠ [])
    (proper : ∀ name ∈ names, IsEntryName name) (asked : rules ≠ []) :
    root.isIgnored? rules (root.path.descend names) =
      some (nearestVerdict? rules (("/".intercalate names).toList.length + 2) ⟨"/".intercalate names⟩ false ==
        some .ignore) := by
  have filledRules : rules.isEmpty = false := by simpa using asked
  have solid := beq_eq_false_iff_ne.mpr (FilePath.head?_names proper)
  simp only [isIgnored?, filledRules, textBelow_descend once filled proper, solid, String.ofList_toList,
    Bool.false_eq_true, if_false]

/-- The path of a Java file below an ignored directory is included exactly when nothing on the way is hidden or
excluded and the rules keep the file or, without a verdict on it, readmit the directory it is in. -/
theorem included_below_ignored_iff_readmitted (root : SourceRoot) (rules : List Rule) (dir dirs : List String)
    (name : String) (respected : root.respectGitignore = true) (once : repeatsDot root.path = false)
    (proper : ∀ step ∈ dirs ++ [name], IsEntryName step)
    (java : (root.path.descend (dirs ++ [name])).isJava) (above : dir <+: dirs)
    (ignored : Ignore.verdict? rules (pathBytes dir) true = some .ignore) :
    ∃ included, root.includes? rules (root.path.descend (dirs ++ [name])) = some included ∧
      (included ↔ ¬ root.isBarred [] (dirs.map .name) ∧
        (Ignore.verdict? rules (pathBytes (dirs ++ [name])) false = some .keep ∨
          Ignore.verdict? rules (pathBytes (dirs ++ [name])) false = none ∧ Readmits rules dir dirs)) := by
  have asked : rules ≠ [] := by
    rintro rfl
    simp [Ignore.verdict?] at ignored
  have enough := FilePath.length_le_names (dirs ++ [name])
  rw [List.length_append, List.length_singleton] at enough
  have upwards := nearestVerdict?_below_ignored (fun step member => proper step (List.mem_append_left _ member))
    (Nat.lt_of_succ_le enough) above ignored
  have steps : ((dirs ++ [name]).map Component.name).dropLast = dirs.map .name := by simp
  rw [includes?_of_components rules (FilePath.components_descend proper), steps, java, respected,
    isIgnored?_descend once (by simp) proper asked, nearestVerdict?_concat proper, ← upwards]
  cases root.isBarred [] (dirs.map .name) with
  | true => exact ⟨false, by simp, by simp⟩
  | false =>
    refine ⟨_, rfl, ?_⟩
    cases own : Ignore.verdict? rules (pathBytes (dirs ++ [name])) false with
    | none => simp
    | some verdict => cases verdict <;> simp

def readmittingRoot : SourceRoot where
  path := ⟨"/work"⟩
  excludedDirs := ["target"]
  respectGitignore := true

/-- Generated sources are ignored, and files named `A.java` are kept. -/
def readmittingTree : FileTree :=
  .dir [(".gitignore", .file { bytes := "gen/\n!A.java\n".toUTF8 }),
    ("gen", .dir [("A.java", .file emptyFile), ("B.java", .file emptyFile)])]

def readmittingRules : List Rule := Ignore.rulesAt [".gitignore"] readmittingTree

theorem unkept_file_not_included :
    readmittingRoot.includes? readmittingRules (readmittingRoot.path.descend ["gen", "B.java"]) = some false := by
  obtain ⟨included, answer, readmitted⟩ := included_below_ignored_iff_readmitted readmittingRoot readmittingRules
    ["gen"] ["gen"] "B.java" rfl (by decide +kernel) (by decide +kernel) (by decide +kernel) (List.prefix_refl _)
    (by decide +kernel)
  have unkept : ¬ (Ignore.verdict? readmittingRules (pathBytes ["gen", "B.java"]) false = some .keep ∨
      Ignore.verdict? readmittingRules (pathBytes ["gen", "B.java"]) false = none ∧
        Readmits readmittingRules ["gen"] ["gen"]) := by decide +kernel
  have excluded : included = false := Bool.eq_false_iff.mpr fun kept => unkept (readmitted.mp kept).2
  exact excluded ▸ answer

/-- A kept file in an ignored directory is included, and the walk does not list it. -/
theorem kept_file_included_below_ignored :
    Ignore.verdict? readmittingRules (pathBytes ["gen"]) true = some .ignore ∧
      readmittingRoot.includes? readmittingRules ⟨"/work/gen/A.java"⟩ = some true ∧
      ¬ readmittingRoot.Lists (.dir [("work", readmittingTree)]) ["work"] ⟨"/work/gen/A.java"⟩ := by
  decide +kernel

end SourceRoot
end BeanAtlas
