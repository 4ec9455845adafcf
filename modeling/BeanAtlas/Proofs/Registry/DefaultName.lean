import BeanAtlas.Proofs.Registry.NameTier
import BeanAtlas.Proofs.Text.LetterCase

/-!
Default names as answers to hints. A bean that is named after its class by default is found by the name of the
class, by the default name and by the class name with its first letter lowered, whichever of them its own name is:
lowering the first letter takes all of them to one text.
-/
namespace BeanAtlas.Bean

variable {candidates : List Bean} {bean : Bean} {className hint : String}

/-- What a place that asks for the bean of a class may be named. -/
def classHints (className : String) : List String :=
  [className, Text.decapitalize className, Text.lowerFirst className]

theorem lowerFirst_of_mem_classHints (given : hint ∈ classHints className) :
    Text.lowerFirst hint = Text.lowerFirst className := by
  simp only [classHints, List.mem_cons, List.not_mem_nil, or_false] at given
  rcases given with rfl | rfl | rfl
  · rfl
  · exact Text.lowerFirst_decapitalize className
  · exact Text.lowerFirst_lowerFirst className

theorem admits_default_name (named : bean.name = Text.decapitalize className) (given : hint ∈ classHints className) :
    NameTier.firstLetter.admits hint bean := by
  apply NameTier.admits_firstLetter_iff.mpr
  left
  rw [named, Text.lowerFirst_decapitalize, lowerFirst_of_mem_classHints given]

/-- A bean that any tier admits for one of the hints is named nearly as the class is. -/
theorem near_of_admits {tier : NameTier} (given : hint ∈ classHints className) (admitted : tier.admits hint bean) :
    (∃ spelling ∈ classHints className, Text.sameIgnoringAsciiCase bean.name spelling) ∨
      Text.lowerFirst bean.name = Text.lowerFirst className := by
  cases tier with
  | exact =>
    rw [NameTier.admits_exact_iff] at admitted
    exact .inl ⟨hint, given, by simp [Text.sameIgnoringAsciiCase, admitted]⟩
  | ignoringCase => exact .inl ⟨hint, given, admitted⟩
  | firstLetter =>
    rw [NameTier.admits_firstLetter_iff, lowerFirst_of_mem_classHints given] at admitted
    rcases admitted with lowered | whole
    · exact .inr lowered
    · refine .inl ⟨Text.lowerFirst className, by simp [classHints], ?_⟩
      simp [Text.sameIgnoringAsciiCase, whole]

/-- Candidates with a bean that has the default name of a class always answer to the name of the class, to the
default name and to the class name with its first letter lowered. All three pick this bean, unless another
candidate is named like one of them but for ASCII case, or like the class but for the case of the first letter. -/
theorem default_name_answers_class_hints (className : String) (listed : bean ∈ candidates)
    (named : bean.name = Text.decapitalize className) (given : hint ∈ classHints className) :
    (pick candidates hint).isSome ∧
      ((∀ other ∈ candidates, other ≠ bean →
          (∀ spelling ∈ classHints className, ¬ Text.sameIgnoringAsciiCase other.name spelling) ∧
            Text.lowerFirst other.name ≠ Text.lowerFirst className) →
        pick candidates hint = some bean) := by
  have answered := pick_isSome_of_admits listed (admits_default_name named given)
  refine ⟨answered, fun apart => ?_⟩
  obtain ⟨picked, found⟩ := Option.isSome_iff_exists.mp answered
  obtain ⟨tier, admitted⟩ := admits_of_pick found
  rw [found, Option.some.injEq]
  by_contra different
  obtain ⟨spelledApart, letterApart⟩ := apart picked (mem_of_pick found) different
  rcases near_of_admits given admitted with ⟨spelling, member, same⟩ | lowered
  · exact spelledApart spelling member same
  · exact letterApart lowered

/-- The capital I with a dot becomes two characters, and the hint still finds the bean behind another one. -/
theorem dotted_name_answers_class_hints :
    let dotted := sender (Text.decapitalize "\u0130letiSender") "\u0130letiSender"
    let candidates := [sender "smsSender" "SmsSender", dotted]
    dotted ∈ candidates ∧ "\u0130letiSender" ∈ classHints "\u0130letiSender" ∧
      dotted.name = "i\u0307letiSender" ∧ pick candidates "\u0130letiSender" = some dotted := by
  intro dotted candidates
  have listed : dotted ∈ candidates := by simp [candidates]
  have given : "\u0130letiSender" ∈ classHints "\u0130letiSender" := by simp [classHints]
  refine ⟨listed, given, by decide +kernel, ?_⟩
  exact (default_name_answers_class_hints "\u0130letiSender" listed rfl given).2 (by decide +kernel)

end BeanAtlas.Bean
