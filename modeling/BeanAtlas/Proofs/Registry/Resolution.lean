import BeanAtlas.Proofs.Registry.Lookup
import BeanAtlas.Registry.Resolution

/-!
Resolutions over a registry. What they lead to is registered, and another order of the beans changes neither
the status nor the collection flag.
-/
namespace BeanAtlas

variable {registry other : Registry} {bean : Bean}

/-- The status sees of the chosen bean whether there is one, and of the candidates how many there are. -/
theorem Resolution.status_congr {left right : Resolution} (candidates : left.candidates.Perm right.candidates)
    (collection : left.collection = right.collection)
    (resolved : left.resolved.isSome = right.resolved.isSome) : left.status = right.status := by
  simp only [status, isCollection, isAmbiguous, ← Option.not_isSome, resolved, collection,
    candidates.length_eq, candidates.isEmpty_eq]

theorem Resolution.status_eq_resolved_iff {resolution : Resolution} :
    resolution.status = .resolved ↔ resolution.resolved.isSome := by
  unfold status
  split_ifs <;> simp_all

namespace Bean

theorem mem_of_pick {candidates : List Bean} {name : String}
    (picked : pick candidates name = some bean) : bean ∈ candidates := by
  simp only [pick, Option.orElse_eq_orElse, Option.orElse_eq_or, Option.or_eq_some_iff] at picked
  rcases picked with found | ⟨-, found | ⟨-, found⟩⟩
  all_goals exact List.mem_of_find?_eq_some found

/-- Whether a name picks one of the candidates does not depend on their order. -/
theorem pick_isSome_perm {candidates others : List Bean} (same : candidates.Perm others) (name : String) :
    (pick candidates name).isSome = (pick others name).isSome := by
  simp only [pick, Option.orElse_eq_orElse, Option.orElse_eq_or, Option.isSome_or, List.isSome_find?,
    same.any_eq]

end Bean

namespace Registry

/-- The bean that is chosen among the candidates. -/
def chosen? (candidates : List Bean) (collection : Bool) (hint : Option String) : Option Bean :=
  if collection then none
  else
    match candidates with
    | [] => none
    | [only] => some only
    | several => hint.bind (Bean.pick several)

theorem resolve_eq (registry : Registry) (type : String) (name : Option String) :
    registry.resolve type name =
      if Text.isBlankText type then {}
      else {
        resolved := chosen? (registry.candidates type).1 (registry.candidates type).2 (nameHint? name)
        candidates := (registry.candidates type).1
        collection := (registry.candidates type).2 } := by
  unfold resolve
  generalize registry.candidates type = found
  obtain ⟨candidates, collection⟩ := found
  rfl

theorem candidates_of_found {type : String} (found : registry.findByType type ≠ []) :
    registry.candidates type = (registry.findByType type, false) := by
  unfold candidates
  split
  · next none _ => exact absurd none found
  · rfl

/-- Without beans of its own a type has the candidates of its elements, if it is a collection. -/
theorem candidates_of_none {type : String} (none : registry.findByType type = []) :
    registry.candidates type =
      (((TypeText.element? type).map registry.findByType).getD [], (TypeText.element? type).isSome) := by
  unfold candidates
  rw [none]
  cases TypeText.element? type with
  | none => rfl
  | some element => simp only [Option.map_some, Option.getD_some, Option.isSome_some]

/-- Candidates depend on the beans of the type and, where there are none, on those of its elements. -/
theorem candidates_congr {type type' : String} (direct : registry.findByType type = other.findByType type')
    (elements : registry.findByType type = [] →
      (TypeText.element? type).map registry.findByType = (TypeText.element? type').map other.findByType) :
    registry.candidates type = other.candidates type' := by
  by_cases none : registry.findByType type = []
  · have flags := congrArg Option.isSome (elements none)
    rw [Option.isSome_map, Option.isSome_map] at flags
    rw [candidates_of_none none, candidates_of_none (direct ▸ none), elements none, flags]
  · rw [candidates_of_found none, candidates_of_found (direct ▸ none), direct]

theorem mem_of_chosen? {candidates : List Bean} {collection : Bool} {hint : Option String}
    (chosen : chosen? candidates collection hint = some bean) : bean ∈ candidates := by
  cases collection with
  | true => simp [chosen?] at chosen
  | false =>
    match candidates, chosen with
    | [only], chosen =>
      obtain rfl : only = bean := by simpa [chosen?] using chosen
      exact List.mem_singleton_self _
    | first :: second :: rest, chosen =>
      have chosen : hint.bind (Bean.pick (first :: second :: rest)) = some bean := chosen
      obtain ⟨name, -, picked⟩ := Option.bind_eq_some_iff.mp chosen
      exact Bean.mem_of_pick picked

theorem chosen?_isSome_perm {candidates others : List Bean} (same : candidates.Perm others)
    (collection : Bool) (hint : Option String) :
    (chosen? candidates collection hint).isSome = (chosen? others collection hint).isSome := by
  cases collection with
  | true => rfl
  | false =>
    match candidates, others, same, same.length_eq with
    | [], [], _, _ => rfl
    | [only], [_], same, _ => rfl
    | first :: second :: rest, first' :: second' :: rest', same, _ =>
      cases hint with
      | none => rfl
      | some name =>
        simp only [chosen?, Bool.false_eq_true, if_false, Option.bind_some]
        exact Bean.pick_isSome_perm same name

theorem mem_beans_of_candidates {type : String} (found : bean ∈ (registry.candidates type).1) :
    bean ∈ registry.beans := by
  by_cases none : registry.findByType type = []
  · rw [candidates_of_none none] at found
    cases element : TypeText.element? type with
    | none => simp [element] at found
    | some inner =>
      simp only [element, Option.map_some, Option.getD_some] at found
      exact mem_beans_of_findByType found
  · rw [candidates_of_found none] at found
    dsimp only at found
    exact mem_beans_of_findByType found

/-- Candidates of a resolution are registered beans. -/
theorem mem_beans_of_resolve_candidates {type : String} {name : Option String}
    (found : bean ∈ (registry.resolve type name).candidates) : bean ∈ registry.beans := by
  rw [resolve_eq] at found
  split at found
  · simp at found
  · dsimp only at found
    exact mem_beans_of_candidates found

/-- The bean of a resolution is a registered bean. -/
theorem mem_beans_of_resolved {type : String} {name : Option String}
    (found : (registry.resolve type name).resolved = some bean) : bean ∈ registry.beans := by
  rw [resolve_eq] at found
  split at found
  · simp at found
  · dsimp only at found
    exact mem_beans_of_candidates (mem_of_chosen? found)

theorem Reordered.candidates (same : registry.Reordered other) (type : String) :
    (registry.candidates type).1.Perm (other.candidates type).1 ∧
      (registry.candidates type).2 = (other.candidates type).2 := by
  have first := same.findByType type
  by_cases none : registry.findByType type = []
  · have none' : other.findByType type = [] := by
      rw [none, List.nil_perm] at first
      exact first
    rw [candidates_of_none none, candidates_of_none none']
    refine ⟨?_, rfl⟩
    cases TypeText.element? type with
    | none => simp
    | some element =>
      simp only [Option.map_some, Option.getD_some]
      exact same.findByType element
  · have found : other.findByType type ≠ [] := by
      intro none'
      rw [none', List.perm_nil] at first
      exact none first
    rw [candidates_of_found none, candidates_of_found found]
    dsimp only
    exact ⟨first, rfl⟩

/-- The order of the beans shows in a resolution only as the order of its candidates and, among several,
as which of them the hint picks. -/
theorem Reordered.resolve (same : registry.Reordered other) (type : String) (name : Option String) :
    (registry.resolve type name).candidates.Perm (other.resolve type name).candidates ∧
      (registry.resolve type name).collection = (other.resolve type name).collection ∧
      (registry.resolve type name).resolved.isSome = (other.resolve type name).resolved.isSome := by
  obtain ⟨candidates, collection⟩ := same.candidates type
  rw [resolve_eq, resolve_eq]
  split
  · exact ⟨.refl _, rfl, rfl⟩
  · dsimp only
    refine ⟨candidates, collection, ?_⟩
    rw [collection]
    exact chosen?_isSome_perm candidates _ _

theorem Reordered.status (same : registry.Reordered other) (type : String) (name : Option String) :
    (registry.resolve type name).status = (other.resolve type name).status := by
  obtain ⟨candidates, collection, resolved⟩ := same.resolve type name
  exact Resolution.status_congr candidates collection resolved

end Registry
end BeanAtlas
