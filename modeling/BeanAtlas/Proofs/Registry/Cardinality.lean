import BeanAtlas.Proofs.Registry.NameTier
import BeanAtlas.Proofs.Text.Ends

/-!
What a resolution can look like, and what its status tells about it. The shapes are read off the resolution
once; the laws of the status are cases over the shapes.
-/
namespace BeanAtlas

/-- The shapes of a resolution: without candidates, a collection of some, a single bean, or several
candidates among which the hint decides. -/
inductive Resolution.Shape (hint : Option String) : Resolution → Prop where
  | empty (collection : Bool) : Shape hint ⟨none, [], collection⟩
  | collection (first : Bean) (rest : List Bean) : Shape hint ⟨none, first :: rest, true⟩
  | single (only : Bean) : Shape hint ⟨some only, [only], false⟩
  | several (first second : Bean) (rest : List Bean) :
      Shape hint ⟨hint.bind (Bean.pick (first :: second :: rest)), first :: second :: rest, false⟩

namespace Resolution.Shape

variable {hint : Option String} {resolution : Resolution}

/-- The status from the candidates, the collection flag and what the hint picks. -/
theorem status_eq (shape : resolution.Shape hint) :
    resolution.status =
      if resolution.candidates = [] then .unresolved
      else if resolution.collection then .collection
      else if resolution.candidates.length = 1 then .resolved
      else if (hint.bind (Bean.pick resolution.candidates)).isSome then .resolved
      else .ambiguous := by
  cases shape with
  | empty collection => simp [status, isCollection, isAmbiguous]
  | collection first rest => simp [status, isCollection]
  | single only => simp [status]
  | several first second rest =>
    cases hint.bind (Bean.pick (first :: second :: rest)) with
    | none => simp [status, isCollection, isAmbiguous]
    | some bean => simp [status]

theorem unresolved_iff (shape : resolution.Shape hint) :
    resolution.status = .unresolved ↔ resolution.candidates = [] := by
  rw [shape.status_eq]
  split_ifs with empty <;> simp [empty]

/-- Candidates of which none is chosen are ambiguous or a collection. -/
theorem unchosen_iff (shape : resolution.Shape hint) :
    resolution.resolved = none ∧ resolution.candidates ≠ [] ↔
      resolution.status = .ambiguous ∨ resolution.status = .collection := by
  rw [← Option.not_isSome_iff_eq_none, ← status_eq_resolved_iff, ne_eq, ← shape.unresolved_iff]
  cases resolution.status <;> simp

theorem collection_iff (shape : resolution.Shape hint) :
    resolution.status = .collection ↔ resolution.collection = true ∧ resolution.candidates ≠ [] := by
  rw [shape.status_eq]
  split_ifs with empty collection <;> simp [*]

theorem ambiguous_iff (shape : resolution.Shape hint) :
    resolution.status = .ambiguous ↔ 2 ≤ resolution.candidates.length ∧ resolution.collection = false ∧
      hint.bind (Bean.pick resolution.candidates) = none := by
  have several : 2 ≤ resolution.candidates.length ↔
      resolution.candidates ≠ [] ∧ resolution.candidates.length ≠ 1 := by
    rw [← List.length_pos_iff_ne_nil]
    omega
  rw [shape.status_eq, several]
  generalize hint.bind (Bean.pick resolution.candidates) = picked
  cases picked with
  | none =>
    simp only [Option.isSome_none, Bool.false_eq_true, if_false]
    split_ifs with empty collection single <;> simp [*]
  | some bean =>
    simp only [Option.isSome_some, if_true]
    split_ifs <;> simp

theorem status_of_single (shape : resolution.Shape hint) (single : resolution.candidates.length = 1) :
    resolution.status = .resolved ∨ resolution.status = .collection := by
  cases shape with
  | empty collection => simp at single
  | collection first rest => exact .inr (by simp [status, isCollection])
  | single only => exact .inl (by simp [status])
  | several first second rest => simp at single

theorem mem_candidates (shape : resolution.Shape hint) {bean : Bean}
    (resolved : resolution.resolved = some bean) : bean ∈ resolution.candidates := by
  cases shape with
  | empty collection => simp at resolved
  | collection first rest => simp at resolved
  | single only => simpa using resolved.symm
  | several first second rest =>
    obtain ⟨name, -, picked⟩ := Option.bind_eq_some_iff.mp resolved
    exact Bean.mem_of_pick picked

/-- A bean that is chosen without a hint is chosen with any hint. -/
theorem resolved_of_unhinted {hinted : Resolution} (shape : resolution.Shape none)
    (shape' : hinted.Shape hint) (candidates : hinted.candidates = resolution.candidates)
    (collection : hinted.collection = resolution.collection) {bean : Bean}
    (resolved : resolution.resolved = some bean) : hinted.resolved = some bean := by
  cases shape with
  | empty collection => simp at resolved
  | collection first rest => simp at resolved
  | single only =>
    cases shape' with
    | empty collection => simp at candidates
    | collection first rest => simp at collection
    | single other =>
      obtain rfl : other = only := by simpa using candidates
      exact resolved
    | several first second rest => simp at candidates
  | several first second rest => simp at resolved

end Resolution.Shape

namespace Registry

variable {registry : Registry}

theorem resolve_shape (registry : Registry) (type : String) (name : Option String) :
    (registry.resolve type name).Shape (nameHint? name) := by
  rw [resolve_eq]
  split
  · exact .empty false
  · generalize registry.candidates type = found
    obtain ⟨candidates, collection⟩ := found
    match candidates, collection with
    | [], true => exact .empty true
    | [], false => exact .empty false
    | first :: rest, true => exact .collection first rest
    | [only], false => exact .single only
    | first :: second :: rest, false => exact .several first second rest

theorem resolve_hint_irrelevant (registry : Registry) (type : String) (name other : Option String) :
    (registry.resolve type other).candidates = (registry.resolve type name).candidates ∧
      (registry.resolve type other).collection = (registry.resolve type name).collection := by
  rw [resolve_eq, resolve_eq]
  split
  · exact ⟨rfl, rfl⟩
  · exact ⟨rfl, rfl⟩

theorem findByType_eq_nil_of_collection {type : String} {name : Option String}
    (collection : (registry.resolve type name).collection = true) : registry.findByType type = [] := by
  by_contra found
  rw [resolve_eq] at collection
  split at collection
  · simp at collection
  · simp [candidates_of_found found] at collection

/-- A hint that is not blank counts without the blanks around it. -/
theorem nameHint?_bind_eq_none_iff {α : Type} {name : Option String} {pick : String → Option α} :
    (nameHint? name).bind pick = none ↔
      ∀ hint inner, name = some hint → Text.IsTrimOf inner hint → inner = "" ∨ pick inner = none := by
  simp only [Text.isTrimOf_iff]
  cases name with
  | none => simp [nameHint?]
  | some hint =>
    by_cases blank : Text.trim hint = ""
    · simp [nameHint?, blank]
    · simp [nameHint?, blank, Option.filter]

/-- A resolution is unresolved exactly without candidates. It is a collection exactly when the flag is set and
there are candidates, and the flag takes that the type itself has no beans. It is ambiguous exactly with several
candidates that are no collection, where the hint is missing or blank or no tier admits a candidate for it. A
single candidate is never ambiguous, the chosen bean is a candidate, and the hint changes neither the
candidates nor the flag nor a choice made without it. -/
theorem resolve_cardinality (registry : Registry) (type : String) (name : Option String) :
    let result := registry.resolve type name
    (result.status = .unresolved ↔ result.candidates = []) ∧
    (result.candidates.length = 1 → result.status = .resolved ∨ result.status = .collection) ∧
    (result.status = .ambiguous ↔
      2 ≤ result.candidates.length ∧ result.collection = false ∧
        ∀ hint inner, name = some hint → Text.IsTrimOf inner hint →
          inner = "" ∨ ∀ tier : NameTier, ∀ bean ∈ result.candidates, ¬ tier.admits inner bean) ∧
    (result.status = .collection ↔ result.collection = true ∧ result.candidates ≠ []) ∧
    (result.collection = true → registry.findByType type = []) ∧
    (∀ bean, result.resolved = some bean → bean ∈ result.candidates) ∧
    (∀ other, (registry.resolve type other).candidates = result.candidates ∧
      (registry.resolve type other).collection = result.collection) ∧
    ∀ bean, (registry.resolve type none).resolved = some bean → result.resolved = some bean := by
  intro result
  have shape := registry.resolve_shape type name
  have unhinted := registry.resolve_hint_irrelevant type none name
  refine ⟨shape.unresolved_iff, shape.status_of_single, ?_, shape.collection_iff,
    findByType_eq_nil_of_collection, fun bean => shape.mem_candidates,
    registry.resolve_hint_irrelevant type name, fun bean resolved => ?_⟩
  · simp only [← Bean.pick_eq_none_iff]
    rw [shape.ambiguous_iff, nameHint?_bind_eq_none_iff]
  · exact (registry.resolve_shape type none).resolved_of_unhinted shape unhinted.1 unhinted.2 resolved

/-- A hint with blanks around it, in other letters than the name that it picks. -/
theorem spaced_hint_picks_sender :
    let result := ((∅ : Registry).addAll [Bean.sender "sms" "Sms", Bean.sender "smtp" "Smtp"]).resolve "Sender"
      (some " SMTP\t")
    Text.IsTrimOf "SMTP" " SMTP\t" ∧ NameTier.ignoringCase.admits "SMTP" (Bean.sender "smtp" "Smtp") ∧
      result.status ≠ .ambiguous ∧ result.resolved = some (Bean.sender "smtp" "Smtp") := by
  intro result
  have trimmed : Text.IsTrimOf "SMTP" " SMTP\t" := Text.isTrimOf_iff.mpr (by decide +kernel)
  have admitted : NameTier.ignoringCase.admits "SMTP" (Bean.sender "smtp" "Smtp") := by decide +kernel
  have candidate : Bean.sender "smtp" "Smtp" ∈ result.candidates := by decide +kernel
  obtain ⟨-, -, ambiguous, -⟩ := resolve_cardinality _ "Sender" (some " SMTP\t")
  refine ⟨trimmed, admitted, fun undecided => ?_, by decide +kernel⟩
  rcases (ambiguous.mp undecided).2.2 _ _ rfl trimmed with blank | unmatched
  · exact absurd blank (by decide)
  · exact unmatched .ignoringCase _ candidate admitted

/-- A blank hint is no hint, although without its blanks it is exactly the name of a bean with an empty name. -/
theorem blank_hint_leaves_unnamed_ambiguous :
    let result := ((∅ : Registry).addAll [Bean.sender "" "Unnamed", Bean.sender "b" "B"]).resolve "Sender"
      (some " ")
    Text.IsTrimOf "" " " ∧
    ¬ (result.status = .ambiguous ↔
      2 ≤ result.candidates.length ∧ result.collection = false ∧
        ∀ inner, Text.IsTrimOf inner " " →
          ∀ tier : NameTier, ∀ bean ∈ result.candidates, ¬ tier.admits inner bean) := by
  intro result
  have trimmed : Text.IsTrimOf "" " " := Text.isTrimOf_iff.mpr (by decide +kernel)
  refine ⟨trimmed, fun law => ?_⟩
  have ambiguous : result.status = .ambiguous := by decide +kernel
  have named : ∃ bean ∈ result.candidates, NameTier.exact.admits "" bean := by decide +kernel
  obtain ⟨bean, member, admitted⟩ := named
  exact (law.mp ambiguous).2.2 "" trimmed .exact bean member admitted

end Registry
end BeanAtlas
