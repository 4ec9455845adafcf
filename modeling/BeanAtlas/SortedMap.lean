/-!
Finite maps as lists of pairs in strictly increasing key order. A map is determined by its answers
(`SortedMap.ext_find`), so equality of maps is plain equality.
-/
namespace BeanAtlas

universe u v

/-- Keys strictly increase along the list. -/
def Increasing {κ : Type u} {β : Type v} [Ord κ] (entries : List (κ × β)) : Prop :=
  entries.Pairwise fun a b => compare a.1 b.1 = .lt

namespace Entries

variable {κ : Type u} {β : Type v} [Ord κ]

def find? (key : κ) : List (κ × β) → Option β
  | [] => none
  | (other, value) :: rest =>
    match compare key other with
    | .lt => none
    | .eq => some value
    | .gt => find? key rest

/-- The pair that stands for an optional value. -/
def single (key : κ) : Option β → List (κ × β)
  | none => []
  | some value => [(key, value)]

/-- Replaces the value at `key` by `f` of it; `none` stands for an absent key on both sides. -/
def alter (key : κ) (f : Option β → Option β) : List (κ × β) → List (κ × β)
  | [] => single key (f none)
  | (other, old) :: rest =>
    match compare key other with
    | .lt => single key (f none) ++ (other, old) :: rest
    | .eq => single other (f (some old)) ++ rest
    | .gt => (other, old) :: alter key f rest

theorem mem_alter {key : κ} {f : Option β → Option β} {entries : List (κ × β)} {pair : κ × β}
    (found : pair ∈ alter key f entries) : compare key pair.1 = .eq ∨ pair.1 = key ∨ pair ∈ entries := by
  induction entries with
  | nil =>
    cases result : f none <;> simp_all [alter, single]
  | cons head rest ih =>
    obtain ⟨other, old⟩ := head
    rw [alter] at found
    split at found
    · cases result : f none <;> grind [single]
    · cases result : f (some old) <;> grind [single]
    · rcases List.mem_cons.mp found with same | found
      · exact .inr (.inr (by simp [same]))
      · rcases ih found with near | near | near
        · exact .inl near
        · exact .inr (.inl near)
        · exact .inr (.inr (List.mem_cons_of_mem _ near))

variable [Std.TransOrd κ]

theorem increasing_alter (key : κ) (f : Option β → Option β) {entries : List (κ × β)}
    (sorted : Increasing entries) : Increasing (alter key f entries) := by
  induction entries with
  | nil => cases result : f none <;> simp [alter, single, Increasing, result]
  | cons head rest ih =>
    obtain ⟨other, old⟩ := head
    obtain ⟨smaller, sortedRest⟩ := List.pairwise_cons.mp sorted
    rw [alter]
    split
    next below =>
      cases result : f none with
      | none => simpa [single] using sorted
      | some value =>
        refine List.pairwise_cons.mpr ⟨fun pair member => ?_, sorted⟩
        rcases List.mem_cons.mp member with same | member
        · simpa [same] using below
        · exact Std.TransCmp.lt_trans below (smaller pair member)
    next =>
      cases result : f (some old) with
      | none => exact sortedRest
      | some value => exact List.pairwise_cons.mpr ⟨smaller, sortedRest⟩
    next above =>
      have lower : compare other key = .lt := Std.OrientedCmp.gt_iff_lt.mp above
      refine List.pairwise_cons.mpr ⟨fun pair member => ?_, ih sortedRest⟩
      rcases mem_alter member with near | near | near
      · exact Std.TransCmp.lt_of_lt_of_eq lower near
      · simpa [near] using lower
      · exact smaller pair near

omit [Std.TransOrd κ] in
theorem find?_eq_none_of_lt {key : κ} {entries : List (κ × β)}
    (below : ∀ pair ∈ entries, compare key pair.1 = .lt) : find? key entries = none := by
  cases entries with
  | nil => rfl
  | cons head rest => simp [find?, below head (by simp)]

theorem find?_append_single (key : κ) {other : κ} (value : Option β) {rest : List (κ × β)}
    (below : ∀ pair ∈ rest, compare other pair.1 = .lt) :
    find? key (single other value ++ rest) =
      if compare key other = .eq then value else find? key rest := by
  cases value with
  | none =>
    by_cases same : compare key other = .eq
    · have absent : find? key rest = none :=
        find?_eq_none_of_lt fun pair member => Std.TransCmp.lt_of_eq_of_lt same (below pair member)
      simp [single, same, absent]
    · simp [single, same]
  | some value =>
    cases order : compare key other with
    | lt =>
      have absent : find? key rest = none :=
        find?_eq_none_of_lt fun pair member => Std.TransCmp.lt_trans order (below pair member)
      simp [single, find?, order, absent]
    | eq => simp [single, find?, order]
    | gt => simp [single, find?, order]

/-- Altering a key changes the answer there and nowhere else. -/
theorem find?_alter (key other : κ) (f : Option β → Option β) {entries : List (κ × β)}
    (sorted : Increasing entries) :
    find? other (alter key f entries) =
      if compare other key = .eq then f (find? key entries) else find? other entries := by
  induction entries with
  | nil =>
    have alone : find? other (single key (f none) ++ []) =
        if compare other key = .eq then f none else find? other [] :=
      find?_append_single other (f none) (by simp)
    simpa [alter, find?] using alone
  | cons head rest ih =>
    obtain ⟨first, old⟩ := head
    obtain ⟨smaller, sortedRest⟩ := List.pairwise_cons.mp sorted
    have smaller : ∀ pair ∈ rest, compare first pair.1 = .lt := smaller
    rw [alter]
    split
    next below =>
      have ahead : ∀ pair ∈ (first, old) :: rest, compare key pair.1 = .lt := by
        intro pair member
        rcases List.mem_cons.mp member with same | member
        · simpa [same] using below
        · exact Std.TransCmp.lt_trans below (smaller pair member)
      rw [find?_append_single other (f none) ahead, find?_eq_none_of_lt ahead]
    next same =>
      rw [find?_append_single other (f (some old)) smaller]
      simp only [find?, same]
      have keys : compare other first = compare other key :=
        (Std.TransCmp.congr_right same).symm
      rw [keys]
      cases order : compare other key with
      | lt =>
        have absent : find? other rest = none :=
          find?_eq_none_of_lt fun pair member =>
            Std.TransCmp.lt_trans (keys.trans order) (smaller pair member)
        simp [absent]
      | eq => simp
      | gt => simp
    next above =>
      have lower : compare first key = .lt := Std.OrientedCmp.gt_iff_lt.mp above
      simp only [find?, above, ih sortedRest]
      split
      · have apart : compare other key = .lt := Std.TransCmp.lt_trans (by assumption) lower
        simp [apart]
      · have apart : compare other key = .lt := Std.TransCmp.lt_of_eq_of_lt (by assumption) lower
        simp [apart]
      · rfl

theorem find?_head (key : κ) (value : β) (rest : List (κ × β)) :
    find? key ((key, value) :: rest) = some value := by
  simp [find?, Std.ReflCmp.compare_self]

/-- Lists in increasing key order with the same answers are equal. -/
theorem ext_find [Std.LawfulEqOrd κ] {left right : List (κ × β)} (sortedLeft : Increasing left)
    (sortedRight : Increasing right) (same : ∀ key, find? key left = find? key right) : left = right := by
  induction left generalizing right with
  | nil =>
    cases right with
    | nil => rfl
    | cons head rest => simpa [find?_head, find?] using same head.1
  | cons head rest ih =>
    obtain ⟨key, value⟩ := head
    cases right with
    | nil => simpa [find?_head, find?] using same key
    | cons head' rest' =>
      obtain ⟨key', value'⟩ := head'
      obtain ⟨smaller, sortedRest⟩ := List.pairwise_cons.mp sortedLeft
      obtain ⟨smaller', sortedRest'⟩ := List.pairwise_cons.mp sortedRight
      cases order : compare key key' with
      | lt => simpa [find?_head, find?, order] using same key
      | gt => simpa [find?_head, find?, Std.OrientedCmp.gt_iff_lt.mp order] using same key'
      | eq =>
        obtain rfl : key = key' := Std.LawfulEqCmp.eq_of_compare order
        have values : value = value' := by simpa [find?_head] using same key
        have tails : rest = rest' := by
          refine ih sortedRest sortedRest' fun other => ?_
          have answers := same other
          cases compared : compare other key with
          | gt => simpa [find?, compared] using answers
          | lt =>
            rw [find?_eq_none_of_lt fun pair member => Std.TransCmp.lt_trans compared (smaller pair member),
              find?_eq_none_of_lt fun pair member => Std.TransCmp.lt_trans compared (smaller' pair member)]
          | eq =>
            rw [find?_eq_none_of_lt fun pair member => Std.TransCmp.lt_of_eq_of_lt compared (smaller pair member),
              find?_eq_none_of_lt fun pair member => Std.TransCmp.lt_of_eq_of_lt compared (smaller' pair member)]
        rw [values, tails]

end Entries

/-- A finite map with its pairs in strictly increasing key order. -/
structure SortedMap (κ : Type u) (β : Type v) [Ord κ] where
  entries : List (κ × β)
  increasing : Increasing entries

namespace SortedMap

variable {κ : Type u} {β : Type v} [Ord κ]

def empty : SortedMap κ β := ⟨[], List.Pairwise.nil⟩

instance : Inhabited (SortedMap κ β) := ⟨empty⟩

instance : EmptyCollection (SortedMap κ β) := ⟨empty⟩

def find? (map : SortedMap κ β) (key : κ) : Option β := Entries.find? key map.entries

def keys (map : SortedMap κ β) : List κ := map.entries.map (·.1)

def values (map : SortedMap κ β) : List β := map.entries.map (·.2)

def size (map : SortedMap κ β) : Nat := map.entries.length

variable [Std.TransOrd κ]

/-- Replaces the value at `key` by `f` of it; `none` stands for an absent key on both sides. -/
def alter (map : SortedMap κ β) (key : κ) (f : Option β → Option β) : SortedMap κ β :=
  ⟨Entries.alter key f map.entries, Entries.increasing_alter key f map.increasing⟩

def insert (map : SortedMap κ β) (key : κ) (value : β) : SortedMap κ β :=
  map.alter key fun _ => some value

def erase (map : SortedMap κ β) (key : κ) : SortedMap κ β :=
  map.alter key fun _ => none

omit [Std.TransOrd κ] in
@[simp]
theorem find?_empty (key : κ) : (∅ : SortedMap κ β).find? key = none := rfl

theorem find?_alter (map : SortedMap κ β) (key other : κ) (f : Option β → Option β) :
    (map.alter key f).find? other =
      if compare other key = .eq then f (map.find? key) else map.find? other :=
  Entries.find?_alter key other f map.increasing

theorem find?_insert (map : SortedMap κ β) (key other : κ) (value : β) :
    (map.insert key value).find? other =
      if compare other key = .eq then some value else map.find? other :=
  map.find?_alter key other _

theorem find?_erase (map : SortedMap κ β) (key other : κ) :
    (map.erase key).find? other = if compare other key = .eq then none else map.find? other :=
  map.find?_alter key other _

theorem ext_find [Std.LawfulEqOrd κ] {left right : SortedMap κ β}
    (same : ∀ key, left.find? key = right.find? key) : left = right := by
  obtain ⟨entries, sorted⟩ := left
  obtain ⟨entries', sorted'⟩ := right
  have equal : entries = entries' := Entries.ext_find sorted sorted' same
  subst equal
  rfl

end SortedMap
end BeanAtlas
