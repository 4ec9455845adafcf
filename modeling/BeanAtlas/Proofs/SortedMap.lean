import BeanAtlas.SortedMap

/-!
Sorted maps over keys that are equal when they compare equal: what an altered map answers, which pairs a
map holds, and the map of a function of the values.
-/
namespace BeanAtlas

universe u v w

variable {κ : Type u} {β : Type v} {γ : Type w} [Ord κ]

namespace Entries

theorem find?_map (f : β → γ) (key : κ) (entries : List (κ × β)) :
    find? key (entries.map fun pair => (pair.1, f pair.2)) = (find? key entries).map f := by
  induction entries with
  | nil => rfl
  | cons head rest ih =>
    simp only [List.map_cons, find?]
    cases compare key head.1 with
    | lt => rfl
    | eq => rfl
    | gt => exact ih

theorem mem_iff_find? [Std.TransOrd κ] [Std.LawfulEqOrd κ] {entries : List (κ × β)}
    (sorted : Increasing entries) (key : κ) (value : β) :
    (key, value) ∈ entries ↔ find? key entries = some value := by
  induction entries with
  | nil => simp [find?]
  | cons head rest ih =>
    obtain ⟨other, first⟩ := head
    obtain ⟨smaller, sortedRest⟩ := List.pairwise_cons.mp sorted
    rw [List.mem_cons, ih sortedRest, find?]
    cases order : compare key other with
    | lt =>
      have absent : find? key rest = none :=
        find?_eq_none_of_lt fun pair member => Std.TransCmp.lt_trans order (smaller pair member)
      have apart : key ≠ other := by
        rintro rfl
        simp [Std.ReflCmp.compare_self] at order
      simp [absent, apart]
    | eq =>
      obtain rfl : key = other := Std.LawfulEqCmp.eq_of_compare order
      have absent : find? key rest = none := find?_eq_none_of_lt smaller
      simp [absent, eq_comm]
    | gt =>
      have apart : key ≠ other := by
        rintro rfl
        simp [Std.ReflCmp.compare_self] at order
      simp [apart]

end Entries

namespace SortedMap

/-- The map with a function applied to its values. -/
def mapValues (map : SortedMap κ β) (f : β → γ) : SortedMap κ γ where
  entries := map.entries.map fun pair => (pair.1, f pair.2)
  increasing := by
    rw [Increasing, List.pairwise_map]
    exact map.increasing

@[simp]
theorem find?_mapValues (map : SortedMap κ β) (f : β → γ) (key : κ) :
    (map.mapValues f).find? key = (map.find? key).map f :=
  Entries.find?_map f key map.entries

@[simp]
theorem values_mapValues (map : SortedMap κ β) (f : β → γ) :
    (map.mapValues f).values = map.values.map f := by
  simp [values, mapValues]

@[simp]
theorem size_mapValues (map : SortedMap κ β) (f : β → γ) : (map.mapValues f).size = map.size := by
  simp [size, mapValues]

variable [Std.TransOrd κ] [Std.LawfulEqOrd κ]

theorem find?_alter_eq [DecidableEq κ] (map : SortedMap κ β) (key other : κ)
    (f : Option β → Option β) :
    (map.alter key f).find? other = if other = key then f (map.find? key) else map.find? other := by
  rw [find?_alter]
  simp only [Std.LawfulEqCmp.compare_eq_iff_eq]

theorem mem_entries (map : SortedMap κ β) {key : κ} {value : β} :
    (key, value) ∈ map.entries ↔ map.find? key = some value :=
  Entries.mem_iff_find? map.increasing key value

theorem mem_values (map : SortedMap κ β) {value : β} :
    value ∈ map.values ↔ ∃ key, map.find? key = some value := by
  simp only [values, List.mem_map, Prod.exists, exists_eq_right, mem_entries]

end SortedMap
end BeanAtlas
