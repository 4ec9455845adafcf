import BeanAtlas.Proofs.Glob
import BeanAtlas.Proofs.SourceRoot.Walk
import BeanAtlas.Proofs.Text.Ends

/-!
Directories that are excluded by plain names. The rule made of such a name applies to the directories of that
name at any depth and to nothing else, so a directory is excluded exactly when its name is listed.
-/
namespace BeanAtlas

open FilePath (IsEntryName)
open Ignore (Rule pathBytes)

namespace Ignore

/-- A directory name without slashes and wildcards. -/
def IsPlainDir (dir : String) : Prop := dir.toList.all fun c => c != '/' && !Glob.isWild c

instance (dir : String) : Decidable (IsPlainDir dir) := inferInstanceAs (Decidable (_ = true))

variable {dir : String}

theorem IsPlainDir.of_mem (plain : IsPlainDir dir) {c : Char} (member : c ∈ dir.toList) :
    c ≠ '/' ∧ Glob.isWild c = false := by
  have char := List.all_eq_true.mp plain c member
  simpa using char

theorem IsPlainDir.whole (plain : IsPlainDir dir) : '/' ∉ dir.toList := fun member => (plain.of_mem member).1 rfl

theorem line_of_plain (plain : IsPlainDir dir) (filled : dir ≠ "") :
    (Rule.Line.ofText ('!' :: (dir.toList ++ ['/']))).withoutEndSlash =
      { body := dir.toList, verdict := .keep, onlyDirs := true } := by
  obtain ⟨c, cs, spelled⟩ := List.exists_cons_of_ne_nil (mt String.toList_eq_nil_iff.mp filled)
  have named : c ≠ '/' := (plain.of_mem (spelled ▸ List.mem_cons_self)).1
  have read : Rule.Line.ofText ('!' :: (dir.toList ++ ['/'])) = { body := dir.toList ++ ['/'], verdict := .keep } := by
    rw [spelled, List.cons_append]
    exact Rule.Line.ofText.eq_4 _ (by simpa using named)
  have slash : Text.stripEnd? ['/'] (dir.toList ++ ['/']) = some dir.toList := Text.stripEnd?_eq_some.mpr rfl
  have escape : Text.stripEnd? ['\\'] dir.toList = none := by
    rw [Text.stripEnd?_eq_none]
    intro closing
    exact absurd (plain.of_mem (closing.mem List.mem_cons_self)).2 (by decide)
  simp [read, Rule.Line.withoutEndSlash, slash, escape]

theorem pattern_of_plain (plain : IsPlainDir dir) (filled : dir ≠ "") :
    Rule.Line.pattern { body := dir.toList, verdict := .keep, onlyDirs := true } = ['*', '*', '/'] ++ dir.toList := by
  have named : dir.toList ≠ [] := mt String.toList_eq_nil_iff.mp filled
  have noStar : '*' ∉ dir.toList := fun member => absurd (plain.of_mem member).2 (by decide)
  have stars : dir.toList ≠ ['*', '*'] := fun same => noStar (same ▸ List.mem_cons_self)
  have contents : ¬ ['/', '*', '*'] <:+ ['*', '*', '/'] ++ dir.toList := by
    rintro ⟨front, split⟩
    have final := congrArg List.getLast? split
    rw [List.getLast?_append_of_ne_nil _ named, List.getLast?_append_of_ne_nil _ (by simp)] at final
    exact noStar (List.mem_of_mem_getLast? final.symm)
  simp only [List.cons_append, List.nil_append] at contents
  simp [Rule.Line.pattern, Rule.everywhere, plain.whole, stars, contents]

/-- The rule of a plain name is about the directories of that name, wherever they are. -/
theorem exclusion?_of_plain (plain : IsPlainDir dir) (filled : dir ≠ "") :
    exclusion? dir = some {
      pattern := .leading :: (Text.bytes dir.toList).map .byte, verdict := .keep, onlyDirs := true } := by
  have read := Glob.read?_everywhere fun c member => (plain.of_mem member).2
  rw [exclusion?_eq, line_of_plain plain filled]
  simp only [pattern_of_plain plain filled, read, Option.map_some]

theorem endsIn_pathBytes (names : List String) (name : String) :
    Glob.EndsIn (pathBytes (names ++ [name])) (Text.bytes name.toList) := by
  by_cases blank : names = []
  · exact .inl (by simp [blank, pathBytes])
  · refine .inr ⟨pathBytes names, ?_⟩
    have slash : Text.bytes "/".toList = [Glob.slash] := by decide
    simp only [pathBytes, String.intercalate_append_of_ne_nil blank (List.cons_ne_nil name []),
      String.intercalate_singleton, String.toList_append, Text.bytes_append, slash, List.append_assoc,
      List.singleton_append]

/-- A path ends in the bytes of a name exactly when its last step has that name. -/
theorem endsIn_pathBytes_iff (names : List String) {name : String} (whole : '/' ∉ name.toList)
    (wholeDir : '/' ∉ dir.toList) :
    Glob.EndsIn (pathBytes (names ++ [name])) (Text.bytes dir.toList) ↔ name = dir := by
  have own := endsIn_pathBytes names name
  constructor
  · intro ends
    have same : Text.bytes name.toList = Text.bytes dir.toList :=
      (own.eq_behind (Text.slash_not_mem_bytes whole)).trans
        (ends.eq_behind (Text.slash_not_mem_bytes wholeDir)).symm
    exact String.toList_inj.mp (Text.bytes_injective same)
  · rintro rfl
    exact own

theorem verdict_of_exclusion? {rule : Rule} (given : exclusion? dir = some rule) : rule.verdict = .keep := by
  rw [exclusion?_eq, Option.map_eq_some_iff] at given
  obtain ⟨pattern, -, rfl⟩ := given
  have verdict : (Rule.Line.ofText ('!' :: (dir.toList ++ ['/']))).verdict = .keep := by
    unfold Rule.Line.ofText
    split <;> simp_all
  dsimp only [Rule.Line.withoutEndSlash]
  split <;> exact verdict

/-- The rule of a plain name applies to the directories of that name and to no others. -/
theorem applies_exclusion_iff (names : List String) {name : String} (proper : IsEntryName name)
    (plain : IsPlainDir dir) {rule : Rule} (given : exclusion? dir = some rule) :
    rule.applies (pathBytes (names ++ [name])) true ↔ name = dir := by
  by_cases filled : dir = ""
  · -- Without a name there is no directory to exclude, and the pattern is empty.
    subst filled
    have blank : exclusion? "" = some { pattern := [], verdict := .keep, onlyDirs := false } := rfl
    obtain rfl := Option.some.inj (blank.symm.trans given)
    have path := pathBytes_ne_nil names proper.2.1
    simp [Rule.applies, Glob.isMatch, Glob.partsThen, path, proper.2.1]
  · rw [exclusion?_of_plain plain filled] at given
    obtain rfl := Option.some.inj given
    have bytes : Text.bytes dir.toList ≠ [] := Text.bytes_ne_nil (mt String.toList_eq_nil_iff.mp filled)
    simp [Rule.applies, Glob.isMatch_everywhere bytes, endsIn_pathBytes_iff names proper.1 plain.whole]

end Ignore

namespace SourceRoot

variable {root : SourceRoot}

/-- Excluded is what the rule of some excluded directory applies to. -/
theorem isExcluded_iff (names : List String) (isDir : Bool) :
    root.isExcluded names isDir ↔
      ∃ dir ∈ root.excludedDirs, ∃ rule, Ignore.exclusion? dir = some rule ∧ rule.applies (pathBytes names) isDir := by
  have listed : ∀ rule, rule ∈ root.exclusions.reverse ↔
      ∃ dir ∈ root.excludedDirs, Ignore.exclusion? dir = some rule := by
    intro rule
    rw [List.mem_reverse, exclusions, List.mem_filterMap]
  simp only [isExcluded, Ignore.verdict?, beq_iff_eq, Option.map_eq_some_iff]
  constructor
  · rintro ⟨rule, found, -⟩
    obtain ⟨dir, member, given⟩ := (listed rule).mp (List.mem_of_find?_eq_some found)
    exact ⟨dir, member, rule, given, by simpa using List.find?_some found⟩
  · rintro ⟨dir, member, rule, given, applies⟩
    -- Some rule applies, so there is a last one, and every exclusion has the same verdict.
    have applied : (root.exclusions.reverse.find? (·.applies (pathBytes names) isDir)).isSome :=
      List.find?_isSome.mpr ⟨rule, (listed rule).mpr ⟨dir, member, given⟩, applies⟩
    obtain ⟨last, found⟩ := Option.isSome_iff_exists.mp applied
    obtain ⟨other, -, stated⟩ := (listed last).mp (List.mem_of_find?_eq_some found)
    exact ⟨last, found, Ignore.verdict_of_exclusion? stated⟩

/-- With plain names, a directory is excluded exactly when its name is listed. -/
theorem isExcluded_dir (plain : ∀ dir ∈ root.excludedDirs, Ignore.IsPlainDir dir) (names : List String)
    {name : String} (proper : IsEntryName name) :
    root.isExcluded (names ++ [name]) true ↔ name ∈ root.excludedDirs := by
  rw [isExcluded_iff]
  constructor
  · rintro ⟨dir, member, rule, given, applies⟩
    rwa [(Ignore.applies_exclusion_iff names proper (plain dir member) given).mp applies]
  · intro member
    have given := Ignore.exclusion?_of_plain (plain name member) proper.2.1
    exact ⟨name, member, _, given, (Ignore.applies_exclusion_iff names proper (plain name member) given).mpr rfl⟩

theorem isBarred_iff (plain : ∀ dir ∈ root.excludedDirs, Ignore.IsPlainDir dir) (base : List String)
    {dirs : List String} (proper : ∀ dir ∈ dirs, IsEntryName dir) :
    root.isBarred base (dirs.map .name) ↔ ∃ dir ∈ dirs, isHidden dir ∨ dir ∈ root.excludedDirs := by
  induction dirs generalizing base with
  | nil => simp [isBarred]
  | cons dir dirs ih =>
    have here := isExcluded_dir plain base (proper dir List.mem_cons_self)
    have later := ih (base ++ [dir]) fun other member => proper other (List.mem_cons_of_mem _ member)
    simp [isBarred, Component.label, here, later]

end SourceRoot

namespace Config

theorem mem_addNew {known dirs : List String} {dir : String} :
    dir ∈ addNew known dirs ↔ dir ∈ known ∨ dir ∈ dirs := by
  induction dirs generalizing known with
  | nil => simp [addNew]
  | cons first rest ih =>
    rw [addNew]
    split
    · next again =>
      have old : first ∈ known := by simpa using again
      rw [ih, List.mem_cons]
      constructor
      · exact Or.imp_right .inr
      · rintro (known | rfl | new)
        · exact .inl known
        · exact .inl old
        · exact .inr new
    · rw [ih]
      simp [or_assoc]

theorem mem_excludedDirs {config : Config} {dir : String} :
    dir ∈ config.excludedDirs ↔ dir ∈ standardExclusions ∨ dir ∈ config.excludeDirs := mem_addNew

end Config

end BeanAtlas
