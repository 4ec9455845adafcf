import BeanAtlas.Proofs.ElementType
import BeanAtlas.Proofs.Registry.NameTier

/-!
How a type is spaced. The beans of a type are found by its key, so its blanks do not matter. They matter to the
fallback to the elements of a collection where the type is torn: then it does not count as a collection.
-/
namespace BeanAtlas.Registry

variable {registry : Registry} {type other : String}

theorem findByType_congr (registry : Registry) (same : TypeText.key type = TypeText.key other) :
    registry.findByType type = registry.findByType other := by
  unfold findByType
  rw [same]

theorem findByType_key (registry : Registry) (type : String) :
    registry.findByType (TypeText.key type) = registry.findByType type :=
  registry.findByType_congr (TypeText.key_key type)

/-- Element types with the same key have the same beans. -/
theorem map_findByType_congr (registry : Registry) {element element' : Option String}
    (same : element.map TypeText.key = element'.map TypeText.key) :
    element.map registry.findByType = element'.map registry.findByType := by
  have through : ∀ found : Option String,
      found.map registry.findByType = (found.map TypeText.key).map registry.findByType := by
    intro found
    simp [Function.comp_def, findByType_key]
  rw [through, same, ← through]

theorem isBlankText_iff (type : String) : Text.isBlankText type ↔ TypeText.key type = "" := by
  rw [← String.toList_eq_nil_iff, TypeText.toList_key]
  simp [Text.isBlankText, Text.solid, List.filter_eq_nil_iff]

/-- A resolution depends on the key of the type and, where it has no beans of its own, on that of its element
type. -/
theorem resolve_congr (registry : Registry) (same : TypeText.key type = TypeText.key other)
    (elements : registry.findByType type = [] →
      (TypeText.element? type).map TypeText.key = (TypeText.element? other).map TypeText.key)
    (name : Option String) : registry.resolve type name = registry.resolve other name := by
  have candidates : registry.candidates type = registry.candidates other :=
    candidates_congr (registry.findByType_congr same) fun none => registry.map_findByType_congr (elements none)
  rw [resolve_eq, resolve_eq]
  simp only [isBlankText_iff, same, candidates]

/-- Without beans of its own, a type that would be a collection is read as one if it is not torn. -/
theorem collection_of_none (none : registry.findByType type = []) {element : String}
    (given : TypeText.element? (TypeText.key type) = some element) (name : Option String) :
    (registry.resolve type name).collection = !TypeText.isTorn type := by
  have visible : TypeText.key type ≠ "" := by
    intro blank
    have nothing : TypeText.element? "" = Option.none := by decide
    rw [blank, nothing] at given
    simp at given
  rw [resolve_eq, if_neg (mt (isBlankText_iff type).mp visible), candidates_of_none none, ← Option.isSome_map,
    TypeText.map_key_element?, given]
  cases TypeText.isTorn type <;> rfl

/-- Two types that differ in their blanks only have the same resolution, unless they have no beans of their own,
would be a collection without the blanks, and one of the two is torn and the other is not. -/
theorem resolve_ignores_blanks_unless_torn (registry : Registry) (type other : String) (name : Option String)
    (same : TypeText.key type = TypeText.key other) :
    registry.resolve type name = registry.resolve other name ↔
      registry.findByType type ≠ [] ∨ TypeText.element? (TypeText.key type) = none ∨
        TypeText.isTorn type = TypeText.isTorn other := by
  have elements := TypeText.map_key_element? type
  have elements' := TypeText.map_key_element? other
  rw [← same] at elements'
  constructor
  · intro equal
    by_cases none : registry.findByType type = []
    · refine .inr ?_
      cases element : TypeText.element? (TypeText.key type) with
      | none => exact .inl rfl
      | some inner =>
        -- Either both types were read as a collection or neither was.
        have flags := congrArg Resolution.collection equal
        rw [collection_of_none none element, collection_of_none (registry.findByType_congr same ▸ none)
          (same ▸ element)] at flags
        exact .inr (by simpa using flags)
    · exact .inl none
  · rintro (found | missing | torn)
    · exact registry.resolve_congr same (fun none => absurd none found) name
    · simp only [missing, Option.map_none, ite_self] at elements elements'
      exact registry.resolve_congr same (fun _ => elements.trans elements'.symm) name
    · rw [torn, ← elements'] at elements
      exact registry.resolve_congr same (fun _ => elements) name

/-- A map is the same collection with and without blanks around its arguments. -/
theorem spaced_map_resolves_like_compact :
    let registry := (∅ : Registry).addAll [Bean.sender "smtp" "SmtpSender"]
    TypeText.key "Map< String , Sender >" = TypeText.key "Map<String,Sender>" ∧
      (registry.resolve "Map< String , Sender >" none).status = .collection ∧
      registry.resolve "Map< String , Sender >" none = registry.resolve "Map<String,Sender>" none := by
  intro registry
  refine ⟨by decide +kernel, by decide +kernel, ?_⟩
  exact (resolve_ignores_blanks_unless_torn registry _ _ none (by decide +kernel)).mpr
    (.inr (.inr (by decide +kernel)))

/-- A blank between the brackets of an array hides that it is a collection. -/
theorem parted_brackets_hide_collection :
    let registry := (∅ : Registry).addAll [Bean.sender "smtp" "SmtpSender"]
    TypeText.key "Sender[ ]" = TypeText.key "Sender[]" ∧
      registry.resolve "Sender[ ]" none ≠ registry.resolve "Sender[]" none := by
  intro registry
  refine ⟨by decide +kernel, fun equal => ?_⟩
  have parted : (registry.resolve "Sender[ ]" none).status = .unresolved := by decide +kernel
  have closed : (registry.resolve "Sender[]" none).status = .collection := by decide +kernel
  rw [equal, closed] at parted
  exact absurd parted (by decide)

end BeanAtlas.Registry
