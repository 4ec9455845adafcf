import BeanAtlas.Proofs.Registry.NameTier

/-!
Beans that have nothing to do with a type. A resolution looks up a few keys only: those of the type, with and without
its qualification, and for a collection those of its element type. Each lookup after the first depends on the earlier
ones being empty. A bean that none of the keys finds may be added, or take the place of another such bean, and leaves
no trace in the resolution.
-/
namespace BeanAtlas

namespace TypeText

/-- The keys under which the beans of a type are looked up, in order. -/
def keys (type : String) : List String :=
  if (key type).isEmpty then [] else key type :: (simpleKey? (key type)).toList

/-- The keys that a resolution may come to look up: those of the type, then those of its elements. -/
def asked (type : String) : List String := keys type ++ (element? type).toList.flatMap keys

end TypeText

/-- The bean is found under the key, by its type or by an interface. -/
def Bean.answers (bean : Bean) (key : String) : Bool :=
  bean.hasType key || bean.hasInterface (TypeText.erased key)

namespace Live

variable {live live' : List Bean} {bean : Bean} {key : String}

theorem mem_ofKey : bean ∈ ofKey live key ↔ bean ∈ live ∧ bean.answers key := by
  cases declared : bean.hasType key <;> simp [ofKey, Bean.answers, declared]

theorem ofKey_filter_answers (live : List Bean) (key : String) :
    ofKey (live.filter (·.answers key)) key = ofKey live key := by
  simp only [ofKey, List.filter_filter]
  refine congrArg₂ (· ++ ·) ?_ ?_
  all_goals
    refine List.filter_congr fun bean _ => ?_
    cases declared : bean.hasType key <;> simp [Bean.answers, declared]

/-- A lookup sees only the beans that answer. -/
theorem ofKey_congr (same : live.filter (·.answers key) = live'.filter (·.answers key)) :
    ofKey live key = ofKey live' key := by
  rw [← ofKey_filter_answers live, same, ofKey_filter_answers]

theorem ofKey_add_of_silent (silent : ¬ bean.answers key)
    (replaced : ∀ other ∈ live, other.name = bean.name → ¬ other.answers key) :
    ofKey (add live bean) key = ofKey live key := by
  apply ofKey_congr
  have last : [bean].filter (·.answers key) = [] := by simpa using silent
  rw [add, List.filter_append, List.filter_filter, last, List.append_nil]
  refine List.filter_congr fun other member => ?_
  by_cases same : other.name = bean.name
  · simp [same, replaced other member same]
  · simp [same]

end Live

namespace Registry

variable {registry other : Registry} {type : String}

/-- The beans of a type are those of the first of its keys that has any. -/
theorem findByType_eq_first (registry : Registry) (type : String) :
    registry.findByType type = (((TypeText.keys type).map registry.lookup).find? (!·.isEmpty)).getD [] := by
  unfold findByType TypeText.keys
  dsimp only
  split
  · rfl
  · cases found : registry.lookup (TypeText.key type) with
    | cons first rest => simp [found]
    | nil =>
      cases TypeText.simpleKey? (TypeText.key type) with
      | none => simp [found]
      | some simple => cases later : registry.lookup simple <;> simp [found, later]

theorem findByType_eq_nil_iff :
    registry.findByType type = [] ↔ ∀ key ∈ TypeText.keys type, registry.lookup key = [] := by
  rw [findByType_eq_first]
  constructor
  · intro empty
    cases first : ((TypeText.keys type).map registry.lookup).find? (!·.isEmpty) with
    | none => simpa using first
    | some found =>
      have filled := List.find?_some first
      rw [first, Option.getD_some] at empty
      simp [empty] at filled
  · intro empty
    have none : ((TypeText.keys type).map registry.lookup).find? (!·.isEmpty) = none := by simpa using empty
    rw [none, Option.getD_none]

theorem candidates_eq_nil_iff :
    (registry.candidates type).1 = [] ↔ ∀ key ∈ TypeText.asked type, registry.lookup key = [] := by
  simp only [TypeText.asked, List.mem_append, List.mem_flatMap, Option.mem_toList, or_imp, forall_and]
  rw [← findByType_eq_nil_iff]
  by_cases none : registry.findByType type = []
  · rw [candidates_of_none none]
    cases TypeText.element? type with
    | none => simp [none]
    | some element => simp [none, ← findByType_eq_nil_iff]
  · simp [candidates_of_found none, none]

/-- The registries have the same beans under these keys. -/
def AgreeOn (keys : List String) (registry other : Registry) : Prop :=
  ∀ key ∈ keys, registry.lookup key = other.lookup key

theorem AgreeOn.findByType (agree : AgreeOn (TypeText.keys type) registry other) :
    registry.findByType type = other.findByType type := by
  rw [findByType_eq_first, findByType_eq_first, List.map_congr_left agree]

/-- A resolution depends on the registry through the keys that it may look up. -/
theorem AgreeOn.resolve (agree : AgreeOn (TypeText.asked type) registry other) (name : Option String) :
    registry.resolve type name = other.resolve type name := by
  have direct : registry.findByType type = other.findByType type :=
    AgreeOn.findByType fun key asked => agree key (List.mem_append_left _ asked)
  have elements : (TypeText.element? type).map registry.findByType =
      (TypeText.element? type).map other.findByType := by
    refine Option.map_congr fun element given => ?_
    refine AgreeOn.findByType fun key asked => agree key (List.mem_append_right _ ?_)
    exact List.mem_flatMap.mpr ⟨element, Option.mem_toList.mpr given, asked⟩
  rw [resolve_eq, resolve_eq, candidates_congr direct fun _ => elements]

theorem lookup_single_eq_nil_iff (bean : Bean) (key : String) :
    ((∅ : Registry).add bean).lookup key = [] ↔ ¬ bean.answers key := by
  have single : ((∅ : Registry).add bean).Represents [bean] := Represents.empty.add bean
  rw [single.lookup_eq, List.eq_nil_iff_forall_not_mem]
  simp [Live.mem_ofKey]

end Registry

namespace Bean

variable {bean : Bean} {type : String}

/-- A registry of this bean alone has no candidates for the type. -/
def IsUnrelated (bean : Bean) (type : String) : Prop :=
  (((∅ : Registry).add bean).resolve type none).candidates = []

instance (bean : Bean) (type : String) : Decidable (bean.IsUnrelated type) :=
  inferInstanceAs (Decidable (_ = []))

theorem IsUnrelated.silent (unrelated : bean.IsUnrelated type) (visible : ¬ Text.isBlankText type) {key : String}
    (asked : key ∈ TypeText.asked type) : ¬ bean.answers key := by
  rw [IsUnrelated, Registry.resolve_eq, if_neg visible] at unrelated
  exact (Registry.lookup_single_eq_nil_iff bean key).mp (Registry.candidates_eq_nil_iff.mp unrelated key asked)

end Bean

namespace Registry

variable {registry : Registry} {live : List Bean} {bean : Bean} {type : String}

/-- An unrelated bean may be added, as long as it takes no place but that of an unrelated bean. -/
theorem Represents.resolve_add (represents : registry.Represents live) (unrelated : bean.IsUnrelated type)
    (replaced : ∀ previous, registry.findByName? bean.name = some previous → previous.IsUnrelated type)
    (name : Option String) : (registry.add bean).resolve type name = registry.resolve type name := by
  by_cases blank : Text.isBlankText type
  · rw [resolve_eq, resolve_eq, if_pos blank, if_pos blank]
  · refine AgreeOn.resolve (fun key asked => ?_) name
    rw [(represents.add bean).lookup_eq, represents.lookup_eq]
    refine Live.ofKey_add_of_silent (unrelated.silent blank asked) fun previous member same => ?_
    have found : registry.findByName? bean.name = some previous := represents.find?_eq_some.mpr ⟨member, same⟩
    exact (replaced previous found).silent blank asked

/-- After any changes, a bean that on its own is no candidate for a type may be added under a new name, or in place
of a bean that on its own is no candidate either: resolving the type gives the same bean, the same candidates in the
same order and the same collection flag as before. -/
theorem unrelated_bean_changes_nothing (changes : List Change) (type : String) (name : Option String) (bean : Bean)
    (unrelated : bean.IsUnrelated type) :
    let registry := changes.foldl Registry.apply ∅
    (registry.findByName? bean.name = none →
      (registry.add bean).resolve type name = registry.resolve type name) ∧
    ∀ previous, registry.findByName? bean.name = some previous → previous.IsUnrelated type →
      (registry.add bean).resolve type name = registry.resolve type name := by
  intro registry
  have represents := Represents.empty.applyAll changes
  refine ⟨fun free => ?_, fun previous taken unrelated' => ?_⟩
  · refine represents.resolve_add unrelated (fun previous found => ?_) name
    rw [free] at found
    cases found
  · refine represents.resolve_add unrelated (fun found present => ?_) name
    obtain rfl : previous = found := Option.some.inj (taken.symm.trans present)
    exact unrelated'

/-- A clock for senders is no sender. It is added between two senders and then replaced, while a collection of senders
is asked for by their qualified name. -/
theorem clock_changes_no_senders :
    let clock (type : String) : Bean := { Bean.sender "clock" type with interfaces := ["Ticking<Sender>"] }
    let changes := [Change.add (Bean.sender "smtp" "SmtpSender"), .add (clock "Clock<Sender>"),
      .add (Bean.sender "sms" "SmsSender")]
    let registry := changes.foldl Registry.apply ∅
    let type := "java.util.List<com.shop.Sender>"
    (clock "Clock<Sender>").IsUnrelated type ∧ (clock "SenderClock").IsUnrelated type ∧
      registry.findByName? "clock" = some (clock "Clock<Sender>") ∧
      (registry.resolve type none).candidates = [Bean.sender "smtp" "SmtpSender", Bean.sender "sms" "SmsSender"] ∧
      (registry.add (clock "SenderClock")).resolve type none = registry.resolve type none := by
  intro clock changes registry type
  have before : (clock "Clock<Sender>").IsUnrelated type := by decide +kernel
  have behind : (clock "SenderClock").IsUnrelated type := by decide +kernel
  have taken : registry.findByName? "clock" = some (clock "Clock<Sender>") := by decide +kernel
  refine ⟨before, behind, taken, by decide +kernel, ?_⟩
  exact (unrelated_bean_changes_nothing changes type none (clock "SenderClock") behind).2 _ taken before

end Registry
end BeanAtlas
