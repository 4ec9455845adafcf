import BeanAtlas.Proofs.Registry.Live
import Mathlib.Data.List.Perm.Basic

/-!
Lookups by name and by type, read off the list of live beans. They find registered beans only, and another
order of the live beans shows in nothing but the order of the answer.
-/
namespace BeanAtlas

variable {registry other : Registry} {live live' : List Bean} {bean : Bean}

namespace Live

/-- The live beans of a type key, then those that only have it as an interface. -/
def ofKey (live : List Bean) (key : String) : List Bean :=
  live.filter (·.hasType key) ++
    live.filter fun bean => bean.hasInterface (TypeText.erased key) && !bean.hasType key

theorem ofKey_perm (same : live.Perm live') (key : String) :
    (ofKey live key).Perm (ofKey live' key) :=
  (same.filter _).append (same.filter _)

end Live

namespace NameIndex

theorem Lists.bucket_eq {index : NameIndex} {names : String → List String} (lists : index.Lists names)
    (key : String) : index.bucket key = names key := by
  rw [bucket, lists key]
  split <;> simp_all

end NameIndex

theorem eraseDups_of_nodup {names : List String} (nodup : names.Nodup) : names.eraseDups = names := by
  induction names with
  | nil => rfl
  | cons first rest ih =>
    obtain ⟨absent, nodup⟩ := List.nodup_cons.mp nodup
    have whole : rest.filter (fun name => !name == first) = rest := by
      refine List.filter_eq_self.mpr fun name member => ?_
      have apart : name ≠ first := by
        rintro rfl
        exact absent member
      simpa using apart
    rw [List.eraseDups_cons, whole, ih nodup]

/-- The last bean of a name. -/
def Bean.last? (beans : List Bean) (name : String) : Option Bean :=
  beans.reverse.find? (·.name == name)

theorem Bean.last?_append (beans more : List Bean) (name : String) :
    last? (beans ++ more) name = (last? more name).or (last? beans name) := by
  simp [last?]

theorem Bean.last?_eq_some {beans : List Bean} {name : String} (found : last? beans name = some bean) :
    bean ∈ beans ∧ bean.name = name :=
  ⟨List.mem_reverse.mp (List.mem_of_find?_eq_some found), by simpa using List.find?_some found⟩

theorem Bean.last?_eq_none {beans : List Bean} {name : String} :
    last? beans name = none ↔ ∀ bean ∈ beans, bean.name ≠ name := by
  simp [last?, List.find?_eq_none]

namespace Registry

@[simp]
theorem findByName?_empty (name : String) : (∅ : Registry).findByName? name = none := rfl

theorem Represents.findByName?_add (represents : registry.Represents live) (bean : Bean) (name : String) :
    (registry.add bean).findByName? name =
      if bean.name = name then some bean else registry.findByName? name := by
  refine Option.ext fun found => ?_
  have listed : found ∈ Live.add live bean ↔ found ∈ live ∧ found.name ≠ bean.name ∨ found = bean := by
    simp [Live.add]
  rw [findByName?, (represents.add bean).find?_eq_some, listed]
  split
  · next same =>
    subst same
    constructor
    · rintro ⟨⟨-, apart⟩ | rfl, named⟩
      · exact absurd named apart
      · rfl
    · rintro ⟨⟩
      exact ⟨.inr rfl, rfl⟩
  · next apart =>
    rw [findByName?, represents.find?_eq_some]
    constructor
    · rintro ⟨⟨member, -⟩ | rfl, named⟩
      · exact ⟨member, named⟩
      · exact absurd named apart
    · rintro ⟨member, rfl⟩
      exact ⟨.inl ⟨member, Ne.symm apart⟩, rfl⟩

/-- Of beans added in order the last of a name is found. -/
theorem Represents.findByName?_addAll (represents : registry.Represents live) (beans : List Bean)
    (name : String) :
    (registry.addAll beans).findByName? name = (Bean.last? beans name).or (registry.findByName? name) := by
  induction beans generalizing registry live with
  | nil => rfl
  | cons first rest ih =>
    have step : registry.addAll (first :: rest) = (registry.add first).addAll rest := rfl
    rw [step, ih (represents.add first), represents.findByName?_add, ← List.singleton_append,
      Bean.last?_append, Option.or_assoc]
    by_cases same : first.name = name
    · simp [Bean.last?, same]
    · simp [Bean.last?, same]

theorem Represents.findByName?_removeFile (represents : registry.Represents live) (file : FilePath)
    (name : String) :
    (registry.removeFile file).findByName? name =
      (registry.findByName? name).filter (!·.file.same file) := by
  refine Option.ext fun bean => ?_
  rw [findByName?, findByName?, (represents.removeFile file).find?_eq_some, Option.filter_eq_some_iff,
    represents.find?_eq_some, Live.removeFile_eq, List.mem_filter]
  exact and_right_comm

theorem Represents.filterMap_names (represents : registry.Represents live) (wanted : Bean → Bool) :
    (Live.names live wanted).filterMap registry.byName.find? = live.filter wanted := by
  have found : ∀ bean ∈ live.filter wanted, registry.byName.find? bean.name = some bean :=
    fun bean member => represents.find?_eq_some.mpr ⟨(List.mem_filter.mp member).1, rfl⟩
  rw [Live.names, List.filterMap_map]
  calc (live.filter wanted).filterMap (registry.byName.find? ∘ fun bean => bean.name)
      = (live.filter wanted).filterMap some := List.filterMap_congr found
    _ = live.filter wanted := List.filterMap_some

/-- A lookup is a scan of the live beans. -/
theorem Represents.lookup_eq (represents : registry.Represents live) (key : String) :
    registry.lookup key = Live.ofKey live key := by
  have nodup : ∀ wanted, (Live.names live wanted).Nodup := fun wanted =>
    represents.distinct.sublist (List.filter_sublist.map _)
  have listed : ∀ bean ∈ live, bean.name ∈ Live.names live (·.hasType key) ↔ bean.hasType key := by
    intro bean member
    constructor
    · intro listed
      obtain ⟨second, present, typed, named⟩ := Live.mem_names.mp listed
      rwa [← represents.eq_of_name present member named]
    · intro typed
      exact Live.mem_names.mpr ⟨bean, member, typed, rfl⟩
  have rest : (Live.names live (·.hasInterface (TypeText.erased key))).removeAll
        (Live.names live (·.hasType key)) =
      Live.names live fun bean => bean.hasInterface (TypeText.erased key) && !bean.hasType key := by
    generalize Live.names live (·.hasType key) = direct at listed ⊢
    simp only [List.removeAll, Live.names, List.filter_map, List.filter_filter, Function.comp_def]
    congr 1
    refine List.filter_congr fun bean member => ?_
    rw [Bool.and_comm, Bool.eq_iff_iff]
    simp [listed bean member]
  rw [lookup, named, represents.byType.bucket_eq, represents.byInterface.bucket_eq,
    List.eraseDups_append, rest, eraseDups_of_nodup (nodup _), eraseDups_of_nodup (nodup _),
    List.filterMap_append, represents.filterMap_names, represents.filterMap_names, Live.ofKey]

theorem mem_beans_iff : bean ∈ registry.beans ↔ ∃ name, registry.findByName? name = some bean :=
  registry.byName.mem_values

theorem mem_beans_of_lookup {key : String} (found : bean ∈ registry.lookup key) :
    bean ∈ registry.beans := by
  obtain ⟨name, -, found⟩ := List.mem_filterMap.mp found
  exact mem_beans_iff.mpr ⟨name, found⟩

theorem mem_beans_of_findByType {type : String} (found : bean ∈ registry.findByType type) :
    bean ∈ registry.beans := by
  unfold findByType at found
  dsimp only at found
  split at found
  · simp at found
  · split at found
    · cases simple : TypeText.simpleKey? (TypeText.key type) with
      | none => simp [simple] at found
      | some key => exact mem_beans_of_lookup (by simpa [simple] using found)
    · exact mem_beans_of_lookup found

/-- Two registries of the same beans, added in any two orders. -/
def Reordered (registry other : Registry) : Prop :=
  ∃ live live', registry.Represents live ∧ other.Represents live' ∧ live.Perm live'

/-- Registries of the same names and beans differ in their order only. -/
theorem Represents.reordered (left : registry.Represents live) (right : other.Represents live')
    (same : ∀ name, registry.byName.find? name = other.byName.find? name) :
    registry.Reordered other := by
  refine ⟨live, live', left, right, ?_⟩
  rw [List.perm_ext_iff_of_nodup left.distinct.of_map right.distinct.of_map]
  intro bean
  constructor
  · intro member
    have found := left.find?_eq_some.mpr ⟨member, rfl⟩
    rw [same] at found
    exact (right.find?_eq_some.mp found).1
  · intro member
    have found := right.find?_eq_some.mpr ⟨member, rfl⟩
    rw [← same] at found
    exact (left.find?_eq_some.mp found).1

theorem Reordered.lookup (same : registry.Reordered other) (key : String) :
    (registry.lookup key).Perm (other.lookup key) := by
  obtain ⟨live, live', left, right, perm⟩ := same
  rw [left.lookup_eq, right.lookup_eq]
  exact Live.ofKey_perm perm key

theorem Reordered.findByType (same : registry.Reordered other) (type : String) :
    (registry.findByType type).Perm (other.findByType type) := by
  unfold Registry.findByType
  dsimp only
  split
  · exact .refl _
  · have first := same.lookup (TypeText.key type)
    cases found : registry.lookup (TypeText.key type) with
    | nil =>
      rw [found, List.nil_perm] at first
      rw [first]
      cases simple : TypeText.simpleKey? (TypeText.key type) with
      | none => exact .refl _
      | some key => exact same.lookup key
    | cons head rest =>
      rw [found] at first
      cases found' : other.lookup (TypeText.key type) with
      | nil => simp [found'] at first
      | cons head' rest' => rwa [found'] at first

end Registry
end BeanAtlas
