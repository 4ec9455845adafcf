import BeanAtlas.Proofs.SortedMap
import BeanAtlas.Proofs.TypeText
import BeanAtlas.Registry.Basic
import Mathlib.Data.List.Nodup

/-!
A registry against the plain list of its beans in the order of their last addition. The list is changed in
the obvious way; the registry's three maps are determined by it after every change, so nothing is left
behind in an index.
-/
namespace BeanAtlas

/-- The bean is declared with exactly this type, blanks aside. -/
def Bean.hasType (bean : Bean) (key : String) : Bool := TypeText.compact bean.type == key

/-- One of the bean's interfaces, without blanks and type arguments, is this one. -/
def Bean.hasInterface (bean : Bean) (key : String) : Bool :=
  bean.interfaces.any fun type => TypeText.compact (TypeText.base type) == key

namespace NameIndex

/-- Under every key the index has these names, and a bucket only where there are some. -/
def Lists (index : NameIndex) (names : String → List String) : Prop :=
  ∀ key, index.find? key = if names key = [] then none else some (names key)

variable {index : NameIndex} {names : String → List String}

theorem Lists.empty : Lists ∅ fun _ => [] := fun _ => rfl

theorem Lists.congr {names' : String → List String} (lists : index.Lists names)
    (same : ∀ key, names key = names' key) : index.Lists names' :=
  funext same ▸ lists

theorem Lists.add (lists : index.Lists names) (key name : String) :
    (index.add key name).Lists fun other =>
      if other = key ∧ name ∉ names other then names other ++ [name] else names other := by
  intro other
  have bucket : (index.find? key).getD [] = names key := by
    rw [lists key]
    split <;> simp_all
  simp only [NameIndex.add, SortedMap.find?_alter_eq, bucket, List.contains_iff_mem]
  by_cases same : other = key
  · subst same
    by_cases present : name ∈ names other
    · have filled : names other ≠ [] := List.ne_nil_of_mem present
      simp [present, filled]
    · simp [present]
  · simpa [same] using lists other

theorem Lists.remove (lists : index.Lists names) (key name : String) :
    (index.remove key name).Lists fun other =>
      if other = key then (names other).filter (· != name) else names other := by
  intro other
  simp only [NameIndex.remove, SortedMap.find?_alter_eq]
  by_cases same : other = key
  · subst same
    rw [lists other]
    by_cases blank : names other = []
    · simp [blank]
    · simp only [if_true, if_neg blank, List.isEmpty_iff]
  · simpa [same] using lists other

/-- A new name goes to the end of the buckets of its keys, once however often a key is repeated. -/
theorem Lists.addAll (lists : index.Lists names) (keys : List String) {name : String}
    (new : ∀ key, name ∉ names key) :
    (keys.foldl (fun index key => index.add key name) index).Lists fun key =>
      if key ∈ keys then names key ++ [name] else names key := by
  -- The buckets met so far end in the name, so the induction is over any lists of names.
  have general : (keys.foldl (fun index key => index.add key name) index).Lists fun key =>
      if key ∈ keys ∧ name ∉ names key then names key ++ [name] else names key := by
    clear new
    induction keys generalizing index names with
    | nil => simpa using lists
    | cons first rest ih =>
      refine (ih (lists.add first name)).congr fun key => ?_
      by_cases same : key = first
      · subst same
        by_cases present : name ∈ names key
        · simp [present]
        · simp [present]
      · simp [same]
  exact general.congr fun key => by simp [new key]

/-- A name that only stands in the buckets of these keys leaves the whole index. -/
theorem Lists.removeAll (lists : index.Lists names) (keys : List String) {name : String}
    (elsewhere : ∀ key, name ∈ names key → key ∈ keys) :
    (keys.foldl (fun index key => index.remove key name) index).Lists fun key =>
      (names key).filter (· != name) := by
  have general : (keys.foldl (fun index key => index.remove key name) index).Lists fun key =>
      if key ∈ keys then (names key).filter (· != name) else names key := by
    clear elsewhere
    induction keys generalizing index names with
    | nil => simpa using lists
    | cons first rest ih =>
      refine (ih (lists.remove first name)).congr fun key => ?_
      by_cases same : key = first
      · simp [same]
      · simp [same]
  refine general.congr fun key => ?_
  split
  · rfl
  · next outside =>
    refine (List.filter_eq_self.mpr fun other member => ?_).symm
    have apart : other ≠ name := by
      rintro rfl
      exact outside (elsewhere key member)
    simpa using apart

end NameIndex

namespace Live

/-- The names of the live beans of some kind, in order. -/
def names (live : List Bean) (wanted : Bean → Bool) : List String := (live.filter wanted).map (·.name)

/-- Takes out the bean of the same name and adds the bean at the end. -/
def add (live : List Bean) (bean : Bean) : List Bean := live.filter (·.name != bean.name) ++ [bean]

/-- Takes out the beans of a file, however its path is spelled. -/
def removeFile (live : List Bean) (file : FilePath) : List Bean :=
  live.filter (·.file.components != file.components)

theorem removeFile_eq (live : List Bean) (file : FilePath) :
    removeFile live file = live.filter (!·.file.same file) := rfl

theorem mem_names {live : List Bean} {wanted : Bean → Bool} {name : String} :
    name ∈ names live wanted ↔ ∃ bean ∈ live, wanted bean ∧ bean.name = name := by
  simp only [names, List.mem_map, List.mem_filter, and_assoc]

theorem names_append (live : List Bean) (bean : Bean) (wanted : Bean → Bool) :
    names (live ++ [bean]) wanted =
      if wanted bean then names live wanted ++ [bean.name] else names live wanted := by
  cases kind : wanted bean <;> simp [names, kind]

theorem names_filter (live : List Bean) (name : String) (wanted : Bean → Bool) :
    names (live.filter (·.name != name)) wanted = (names live wanted).filter (· != name) := by
  simp only [names, List.filter_map, List.filter_filter, Function.comp_def, Bool.and_comm]

end Live

namespace NameIndex

variable {index : NameIndex} {live : List Bean} {bean : Bean} {kind : String → Bean → Bool}

/-- A bean of a new name, entered under its keys, is listed behind the live beans. -/
theorem Lists.enter (lists : index.Lists fun key => Live.names live (kind key)) (keys : List String)
    (keyed : ∀ key, kind key bean ↔ key ∈ keys) (new : ∀ other ∈ live, other.name ≠ bean.name) :
    (keys.foldl (fun index key => index.add key bean.name) index).Lists fun key =>
      Live.names (live ++ [bean]) (kind key) := by
  have absent : ∀ key, bean.name ∉ Live.names live (kind key) := by
    intro key listed
    obtain ⟨other, member, -, named⟩ := Live.mem_names.mp listed
    exact new other member named
  refine (lists.addAll keys absent).congr fun key => ?_
  simp only [Live.names_append, keyed]

/-- A bean that is withdrawn from its keys is listed nowhere, if no other live bean has its name. -/
theorem Lists.withdraw (lists : index.Lists fun key => Live.names live (kind key)) (keys : List String)
    (keyed : ∀ key, kind key bean ↔ key ∈ keys)
    (sole : ∀ other ∈ live, other.name = bean.name → other = bean) :
    (keys.foldl (fun index key => index.remove key bean.name) index).Lists fun key =>
      Live.names (live.filter (·.name != bean.name)) (kind key) := by
  have only : ∀ key, bean.name ∈ Live.names live (kind key) → key ∈ keys := by
    intro key listed
    obtain ⟨other, member, typed, named⟩ := Live.mem_names.mp listed
    rw [sole other member named] at typed
    exact (keyed key).mp typed
  exact (lists.removeAll keys only).congr fun key => (Live.names_filter live bean.name _).symm

end NameIndex

theorem Bean.hasType_iff {bean : Bean} (key : String) :
    bean.hasType key ↔ key ∈ [TypeText.key bean.type] := by
  rw [hasType, ← TypeText.key_eq_compact, beq_iff_eq, List.mem_singleton, eq_comm]

theorem Bean.hasInterface_iff {bean : Bean} (key : String) :
    bean.hasInterface key ↔ key ∈ bean.interfaces.map TypeText.interfaceKey := by
  simp [hasInterface, TypeText.interfaceKey_eq]

/-- Among beans of distinct names each is found by its own. -/
theorem Bean.find?_own_name {beans : List Bean} {bean : Bean} (distinct : (beans.map (·.name)).Nodup)
    (member : bean ∈ beans) : beans.find? (·.name == bean.name) = some bean := by
  cases found : beans.find? (·.name == bean.name) with
  | none => simpa using List.find?_eq_none.mp found bean member
  | some other =>
    have same : other.name = bean.name := by simpa using List.find?_some found
    rw [List.inj_on_of_nodup_map distinct (List.mem_of_find?_eq_some found) member same]

namespace Registry

/-- The three maps of a registry are those of a list of live beans. -/
structure Represents (registry : Registry) (live : List Bean) : Prop where
  distinct : (live.map (·.name)).Nodup
  byName : ∀ name, registry.byName.find? name = live.find? (·.name == name)
  byType : registry.byType.Lists fun key => Live.names live (·.hasType key)
  byInterface : registry.byInterface.Lists fun key => Live.names live (·.hasInterface key)

variable {registry : Registry} {live : List Bean} {bean : Bean}

theorem Represents.empty : (∅ : Registry).Represents [] where
  distinct := List.nodup_nil
  byName _ := rfl
  byType := NameIndex.Lists.empty
  byInterface := NameIndex.Lists.empty

theorem Represents.eq_of_name (represents : registry.Represents live) {other : Bean}
    (member : bean ∈ live) (second : other ∈ live) (same : bean.name = other.name) : bean = other :=
  List.inj_on_of_nodup_map represents.distinct member second same

theorem Represents.find?_eq_some (represents : registry.Represents live) {name : String} :
    registry.byName.find? name = some bean ↔ bean ∈ live ∧ bean.name = name := by
  rw [represents.byName]
  constructor
  · intro found
    exact ⟨List.mem_of_find?_eq_some found, by simpa using List.find?_some found⟩
  · rintro ⟨member, rfl⟩
    exact Bean.find?_own_name represents.distinct member

theorem Represents.mem_beans (represents : registry.Represents live) :
    bean ∈ registry.beans ↔ bean ∈ live := by
  simp [beans, SortedMap.mem_values, represents.find?_eq_some]

/-- Removing a bean removes its name, provided that no other live bean has the name. -/
theorem Represents.remove (represents : registry.Represents live)
    (sole : ∀ other ∈ live, other.name = bean.name → other = bean) :
    (registry.remove bean).Represents (live.filter (·.name != bean.name)) where
  distinct := represents.distinct.sublist (List.filter_sublist.map _)
  byName name := by
    change (registry.byName.erase bean.name).find? name = _
    rw [SortedMap.erase, SortedMap.find?_alter_eq, represents.byName, List.find?_filter]
    split
    · next same =>
      symm
      rw [List.find?_eq_none]
      simp [same]
    · next apart =>
      congr 1
      funext other
      by_cases named : other.name = name
      · simp [named, apart]
      · simp [named]
  byType := represents.byType.withdraw [TypeText.key bean.type] Bean.hasType_iff sole
  byInterface := by
    have withdrawn := represents.byInterface.withdraw _ Bean.hasInterface_iff sole
    rwa [List.foldl_map] at withdrawn

theorem Represents.enter (represents : registry.Represents live)
    (new : ∀ other ∈ live, other.name ≠ bean.name) :
    (registry.enter bean).Represents (live ++ [bean]) where
  distinct := by
    rw [List.map_append, List.nodup_append]
    refine ⟨represents.distinct, List.nodup_singleton _, ?_⟩
    intro name member last final same
    obtain ⟨other, present, named⟩ := List.mem_map.mp member
    have last : last = bean.name := by simpa using final
    exact new other present (named.trans (same.trans last))
  byName name := by
    change (registry.byName.insert bean.name bean).find? name = _
    rw [SortedMap.insert, SortedMap.find?_alter_eq, represents.byName, List.find?_append]
    split
    · next same =>
      subst same
      have absent : live.find? (·.name == bean.name) = none := by
        rw [List.find?_eq_none]
        intro other member
        simpa using new other member
      simp [absent]
    · next apart => simp [Ne.symm apart]
  byType := represents.byType.enter [TypeText.key bean.type] Bean.hasType_iff new
  byInterface := by
    have entered := represents.byInterface.enter _ Bean.hasInterface_iff new
    rwa [List.foldl_map] at entered

theorem Represents.add (represents : registry.Represents live) (bean : Bean) :
    (registry.add bean).Represents (Live.add live bean) := by
  unfold Registry.add
  split
  · next previous found =>
    obtain ⟨member, named⟩ := represents.find?_eq_some.mp found
    have removed := represents.remove fun other second same =>
      represents.eq_of_name second member same
    rw [named] at removed
    refine removed.enter fun other member => ?_
    simpa using (List.mem_filter.mp member).2
  · next free =>
    have absent : ∀ other ∈ live, other.name ≠ bean.name := by
      rw [represents.byName, List.find?_eq_none] at free
      simpa using free
    have whole : live.filter (·.name != bean.name) = live :=
      List.filter_eq_self.mpr fun other member => by simpa using absent other member
    rw [Live.add, whole]
    exact represents.enter absent

theorem Represents.addAll (represents : registry.Represents live) (beans : List Bean) :
    (registry.addAll beans).Represents (beans.foldl Live.add live) := by
  unfold Registry.addAll
  induction beans generalizing registry live with
  | nil => exact represents
  | cons first rest ih => exact ih (represents.add first)

/-- Removing beans one after the other removes their names. -/
theorem Represents.removeEach (represents : registry.Represents live) (stale : List Bean)
    (sole : ∀ bean ∈ stale, ∀ other ∈ live, other.name = bean.name → other = bean) :
    (stale.foldl Registry.remove registry).Represents
      (live.filter fun other => stale.all (other.name != ·.name)) := by
  induction stale generalizing registry live with
  | nil => simpa only [List.foldl_nil, List.all_nil, List.filter_true] using represents
  | cons first rest ih =>
    have removed := represents.remove (sole first (by simp))
    have next := ih removed fun bean member other remaining =>
      sole bean (by simp [member]) other (List.mem_filter.mp remaining).1
    simpa [List.filter_filter, Bool.and_comm] using next

theorem Represents.removeFile (represents : registry.Represents live) (file : FilePath) :
    (registry.removeFile file).Represents (Live.removeFile live file) := by
  have stale : ∀ bean, bean ∈ registry.beans.filter (·.file.same file) ↔
      bean ∈ live ∧ bean.file.same file := by
    intro bean
    rw [List.mem_filter, represents.mem_beans]
  have removed := represents.removeEach (registry.beans.filter (·.file.same file))
    fun bean member other second same =>
      represents.eq_of_name second ((stale bean).mp member).1 same
  have kept : live.filter (fun other => (registry.beans.filter (·.file.same file)).all
      (other.name != ·.name)) = Live.removeFile live file := by
    rw [Live.removeFile_eq]
    refine List.filter_congr fun other member => ?_
    rw [Bool.eq_iff_iff, List.all_eq_true]
    constructor
    · intro apart
      by_contra same
      have listed := (stale other).mpr ⟨member, by simpa using same⟩
      simpa using apart other listed
    · intro apart bean listed
      obtain ⟨second, same⟩ := (stale bean).mp listed
      rw [bne_iff_ne]
      intro named
      obtain rfl := represents.eq_of_name member second named
      simp [same] at apart
  rw [← kept]
  exact removed

/-- What can happen to a registry. -/
inductive Change where
  | add (bean : Bean)
  | addAll (beans : List Bean)
  | removeFile (file : FilePath)
  | clear

def apply (registry : Registry) : Change → Registry
  | .add bean => registry.add bean
  | .addAll beans => registry.addAll beans
  | .removeFile file => registry.removeFile file
  | .clear => ∅

/-- The change as it appears in the list of live beans. -/
def Change.onLive (live : List Bean) : Change → List Bean
  | .add bean => Live.add live bean
  | .addAll beans => beans.foldl Live.add live
  | .removeFile file => Live.removeFile live file
  | .clear => []

theorem Represents.apply (represents : registry.Represents live) (change : Change) :
    (registry.apply change).Represents (change.onLive live) := by
  cases change with
  | add bean => exact represents.add bean
  | addAll beans => exact represents.addAll beans
  | removeFile file => exact represents.removeFile file
  | clear => exact Represents.empty

theorem Represents.applyAll (represents : registry.Represents live) (changes : List Change) :
    (changes.foldl Registry.apply registry).Represents (changes.foldl Change.onLive live) := by
  induction changes generalizing registry live with
  | nil => exact represents
  | cons first rest ih => exact ih (represents.apply first)

/-- After any changes to the empty registry its maps are those of the live beans: every name leads to its
bean, every bucket lists the beans of its key in the order of their last addition, each once, and no
bucket is empty. -/
theorem changes_represent_live (changes : List Change) :
    (changes.foldl Registry.apply ∅).Represents (changes.foldl Change.onLive []) :=
  Represents.empty.applyAll changes

end Registry
end BeanAtlas
