import BeanAtlas.Analysis.File
import BeanAtlas.Java.Declarations
import BeanAtlas.Proofs.Registry.Scan
import BeanAtlas.Proofs.Registry.Spacing
import BeanAtlas.Proofs.Text.LetterCase

/-!
Beans that are asked for by their own name. A hint counts without the blanks around it, while a bean keeps the
blanks that its name is given with. Among several candidates a bean is therefore chosen by its own name exactly
when the name has no blanks at its ends and is not empty.
-/
namespace BeanAtlas

variable {bean : Bean} {hint : String}

/-- No tier of names goes beyond blanks at the ends of a name. -/
theorem NameTier.isTrimmed_of_admits {tier : NameTier} (trimmed : Text.IsTrimmed hint.toList)
    (admitted : tier.admits hint bean) : Text.IsTrimmed bean.name.toList := by
  cases tier with
  | exact =>
    rw [admits_exact_iff] at admitted
    rwa [admitted]
  | ignoringCase =>
    rw [admits_ignoringCase_iff] at admitted
    rw [← Text.isTrimmed_map Text.isBlank_toLower] at trimmed ⊢
    rwa [admitted]
  | firstLetter =>
    rw [← Text.isTrimmed_lowerFirst] at trimmed
    rcases admits_firstLetter_iff.mp admitted with lowered | whole
    · rwa [← Text.isTrimmed_lowerFirst, lowered]
    · rwa [whole]

theorem Bean.pick_own_name {candidates : List Bean} (distinct : (candidates.map (·.name)).Nodup)
    (member : bean ∈ candidates) : pick candidates bean.name = some bean := by
  have found : candidates.find? (NameTier.exact.admits bean.name) = some bean :=
    Bean.find?_own_name distinct member
  rw [pick_eq, found, Option.some_or]

namespace Registry

theorem nameHint?_of_isTrimmed (trimmed : Text.IsTrimmed hint.toList) : nameHint? (some hint) = some hint := by
  have whole : Text.trim hint = hint := by
    rw [Text.trim, trimmed.dropBlanks_self, String.ofList_toList]
  have filled : hint ≠ "" := by
    rintro rfl
    exact trimmed.filled rfl
  simp [nameHint?, whole, filled, Option.filter]

theorem isTrimmed_of_nameHint? {name : Option String} (given : nameHint? name = some hint) :
    Text.IsTrimmed hint.toList := by
  obtain ⟨cut, filled⟩ := Option.filter_eq_some_iff.mp given
  obtain ⟨text, -, rfl⟩ := Option.map_eq_some_iff.mp cut
  rw [Text.trim, String.toList_ofList]
  apply Text.isTrimmed_dropBlanks
  simpa [Text.trim] using filled

variable {registry : Registry} {type : String}

/-- A type with beans of its own is resolved among them. -/
theorem resolved_of_found (found : registry.findByType type ≠ []) (name : Option String) :
    (registry.resolve type name).resolved = chosen? (registry.findByType type) false (nameHint? name) := by
  have visible : ¬ Text.isBlankText type := by
    intro blank
    apply found
    simp [findByType, (isBlankText_iff type).mp blank]
  rw [resolve_eq, if_neg visible, candidates_of_found found]

theorem chosen?_own_name_iff {candidates : List Bean} (distinct : (candidates.map (·.name)).Nodup)
    (member : bean ∈ candidates) :
    chosen? candidates false (nameHint? (some bean.name)) = some bean ↔
      candidates = [bean] ∨ Text.IsTrimmed bean.name.toList := by
  match candidates, distinct, member with
  | [only], _, member =>
    obtain rfl := List.mem_singleton.mp member
    simp [chosen?]
  | first :: second :: rest, distinct, member =>
    have several : chosen? (first :: second :: rest) false (nameHint? (some bean.name)) =
      (nameHint? (some bean.name)).bind (Bean.pick (first :: second :: rest)) := rfl
    rw [several]
    constructor
    · intro chosen
      obtain ⟨hint, given, picked⟩ := Option.bind_eq_some_iff.mp chosen
      obtain ⟨tier, admitted⟩ := Bean.admits_of_pick picked
      exact .inr (NameTier.isTrimmed_of_admits (isTrimmed_of_nameHint? given) admitted)
    · rintro (single | trimmed)
      · simp at single
      · rw [nameHint?_of_isTrimmed trimmed, Option.bind_some]
        exact Bean.pick_own_name distinct member

/-- After any changes, asking for a bean of a type by its own name chooses it exactly when it is the only bean of
the type or its name is trimmed. The same holds of an injection that the name of the bean qualifies. -/
theorem own_name_chooses_iff_trimmed (changes : List Change) (type : String)
    (found : bean ∈ (changes.foldl Registry.apply ∅).findByType type) :
    let registry := changes.foldl Registry.apply ∅
    ((registry.resolve type (some bean.name)).resolved = some bean ↔
      registry.findByType type = [bean] ∨ Text.IsTrimmed bean.name.toList) ∧
    ∀ injection : Injection, injection.targetType = type → injection.qualifier = some bean.name →
      ((registry.resolveInjection injection).resolved = some bean ↔
        registry.findByType type = [bean] ∨ Text.IsTrimmed bean.name.toList) := by
  intro registry
  have represents := Represents.empty.applyAll changes
  have distinct : ((registry.findByType type).map (·.name)).Nodup := by
    rw [represents.findByType_eq]
    exact Live.names_scan_nodup represents.distinct type
  have law : (registry.resolve type (some bean.name)).resolved = some bean ↔
      registry.findByType type = [bean] ∨ Text.IsTrimmed bean.name.toList := by
    rw [resolved_of_found (List.ne_nil_of_mem found)]
    exact chosen?_own_name_iff distinct found
  refine ⟨law, fun injection asked qualified => ?_⟩
  rw [resolveInjection, Injection.nameHint, asked, qualified, Option.getD_some]
  exact law

/-- A sender is chosen by its name although another one is named like it but for case and comes first. -/
theorem cased_name_chooses_its_bean :
    let other := Bean.sender "fast" "A"
    let bean := Bean.sender "FAST" "B"
    let registry := [Change.add other, Change.add bean].foldl Registry.apply ∅
    registry.findByType "Sender" = [other, bean] ∧ Text.IsTrimmed bean.name.toList ∧
      (registry.resolve "Sender" (some bean.name)).resolved = some bean := by
  intro other bean registry
  have found : registry.findByType "Sender" = [other, bean] := by decide +kernel
  have trimmed : Text.IsTrimmed bean.name.toList := by
    constructor <;> simp [bean, Bean.sender, Text.isBlank]
  have member : bean ∈ registry.findByType "Sender" := by simp [found]
  have law := own_name_chooses_iff_trimmed [Change.add other, Change.add bean] "Sender" member
  refine ⟨found, trimmed, ?_⟩
  apply law.1.mpr
  right
  exact trimmed

/-- Two senders whose names differ in the blanks around them only. -/
def spacedNames : String :=
  "@Service(\" x \") class A implements Sender \x7b\x7d @Service(\"x\") class B implements Sender \x7b\x7d"

/-- The name with blanks around it chooses the other bean. -/
theorem spaced_name_chooses_another :
    let classes := ((Document.ofText spacedNames).extract ⟨"Senders.java"⟩).classes
    let registry := (∅ : Registry).addAll (Bean.discover classes)
    ¬ ∀ bean ∈ registry.findByType "Sender",
      (registry.resolve "Sender" (some bean.name)).resolved = some bean := by
  intro classes registry law
  have spaced : ∃ bean ∈ registry.findByType "Sender", bean.name = " x " ∧
      (registry.resolve "Sender" (some " x ")).resolved.map (·.name) = some "x" := by
    decide +kernel
  obtain ⟨bean, found, named, chosen⟩ := spaced
  have own := law bean found
  rw [named] at own
  simp [own, named] at chosen

end Registry
end BeanAtlas
