import BeanAtlas.Proofs.Registry.Resolution

/-!
The tiers by which a hint picks a bean among candidates: a later tier counts only where the earlier ones admit
no candidate, and within a tier the first candidate is taken.
-/
namespace BeanAtlas

inductive NameTier where
  | exact
  | ignoringCase
  | firstLetter
  deriving DecidableEq

/-- The bean's name agrees with the hint as far as the tier asks. -/
def NameTier.admits (tier : NameTier) (hint : String) (bean : Bean) : Bool :=
  match tier with
  | .exact => bean.name == hint
  | .ignoringCase => Text.sameIgnoringAsciiCase bean.name hint
  | .firstLetter =>
    Text.lowerFirst bean.name == Text.lowerFirst hint || bean.name == Text.lowerFirst hint

namespace NameTier

variable {hint : String} {bean : Bean}

theorem admits_exact_iff : exact.admits hint bean ↔ bean.name = hint := beq_iff_eq

theorem admits_ignoringCase_iff :
    ignoringCase.admits hint bean ↔ bean.name.toList.map Char.toLower = hint.toList.map Char.toLower := beq_iff_eq

theorem admits_firstLetter_iff :
    firstLetter.admits hint bean ↔
      Text.lowerFirst bean.name = Text.lowerFirst hint ∨ bean.name = Text.lowerFirst hint := by
  simp only [admits, Bool.or_eq_true, beq_iff_eq]

end NameTier

namespace Bean

variable {candidates others : List Bean} {hint : String}

theorem pick_eq (candidates : List Bean) (hint : String) :
    pick candidates hint =
      (candidates.find? (NameTier.exact.admits hint)).or
        ((candidates.find? (NameTier.ignoringCase.admits hint)).or
          (candidates.find? (NameTier.firstLetter.admits hint))) := by
  simp only [pick, Option.orElse_eq_orElse, Option.orElse_eq_or]
  rfl

/-- A hint picks nothing exactly when no tier admits a candidate. -/
theorem pick_eq_none_iff :
    pick candidates hint = none ↔ ∀ tier : NameTier, ∀ bean ∈ candidates, ¬ tier.admits hint bean := by
  rw [pick_eq, Option.or_eq_none_iff, Option.or_eq_none_iff, List.find?_eq_none, List.find?_eq_none,
    List.find?_eq_none]
  constructor
  · rintro ⟨exact, ignoringCase, firstLetter⟩ tier
    cases tier with
    | exact => exact exact
    | ignoringCase => exact ignoringCase
    | firstLetter => exact firstLetter
  · intro unmatched
    exact ⟨unmatched .exact, unmatched .ignoringCase, unmatched .firstLetter⟩

theorem pick_isSome_of_admits {bean : Bean} {tier : NameTier} (listed : bean ∈ candidates)
    (admitted : tier.admits hint bean) : (pick candidates hint).isSome := by
  rw [Option.isSome_iff_ne_none]
  intro unmatched
  exact pick_eq_none_iff.mp unmatched tier bean listed admitted

theorem admits_of_pick {bean : Bean} (picked : pick candidates hint = some bean) :
    ∃ tier : NameTier, tier.admits hint bean := by
  rw [pick_eq, Option.or_eq_some_iff, Option.or_eq_some_iff] at picked
  rcases picked with found | ⟨-, found | ⟨-, found⟩⟩
  · exact ⟨.exact, List.find?_some found⟩
  · exact ⟨.ignoringCase, List.find?_some found⟩
  · exact ⟨.firstLetter, List.find?_some found⟩

/-- A search with at most one possible answer does not see the order. -/
theorem find?_eq_of_perm (same : candidates.Perm others) {wanted : Bean → Bool}
    (sole : ∀ bean ∈ candidates, ∀ other ∈ candidates, wanted bean → wanted other → bean = other) :
    candidates.find? wanted = others.find? wanted := by
  cases found : others.find? wanted with
  | none =>
    rw [List.find?_eq_none] at found ⊢
    exact fun bean member => found bean (same.mem_iff.mp member)
  | some bean =>
    have member := same.mem_iff.mpr (List.mem_of_find?_eq_some found)
    have wantedBean := List.find?_some found
    obtain ⟨first, found'⟩ := Option.isSome_iff_exists.mp
      (List.find?_isSome.mpr ⟨bean, member, wantedBean⟩)
    rw [found', sole first (List.mem_of_find?_eq_some found') bean member (List.find?_some found') wantedBean]

theorem pick_eq_of_perm (same : candidates.Perm others)
    (sole : ∀ tier : NameTier, ∀ bean ∈ candidates, ∀ other ∈ candidates,
      tier.admits hint bean → tier.admits hint other → bean = other) :
    pick candidates hint = pick others hint := by
  rw [pick_eq, pick_eq, find?_eq_of_perm same (sole .exact), find?_eq_of_perm same (sole .ignoringCase),
    find?_eq_of_perm same (sole .firstLetter)]

/-- A component that can be injected as a `Sender`. -/
def sender (name type : String) : Bean where
  name := name
  type := type
  implementation := type
  file := ⟨"Senders.java"⟩
  position := .unknown
  origin := .classDeclaration
  declaredBy := .component
  interfaces := ["Sender"]

end Bean
end BeanAtlas
