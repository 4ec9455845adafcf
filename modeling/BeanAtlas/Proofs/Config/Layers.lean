import BeanAtlas.Config.Setting
import Mathlib.Data.List.Nodup

/-!
Layers of settings. On every path of keys the highest layer that sets it decides, and one layer put over another
behaves like the two, up to the entries of tables. That presupposes that no table of the upper layer has a key twice, as
its entries are put over the lower ones one by one.
-/
namespace BeanAtlas

namespace SettingTable

variable {α : Type} {key : String} {value : α} {entries : List (String × α)}

theorem mem_of_find? (found : find? key entries = some value) : (key, value) ∈ entries := by
  induction entries with
  | nil => cases found
  | cons head rest ih =>
    rw [find?] at found
    split at found
    · next same =>
      cases found
      subst same
      exact List.mem_cons_self
    · exact List.mem_cons_of_mem _ (ih found)

theorem find?_eq_none (absent : key ∉ entries.map Prod.fst) : find? key entries = none := by
  cases found : find? key entries with
  | none => rfl
  | some value => exact absurd (List.mem_map_of_mem (mem_of_find? found)) absent

theorem mem_put {entry : String × α} (member : entry ∈ put key value entries) :
    entry = (key, value) ∨ entry ∈ entries := by
  induction entries with
  | nil => exact .inl (List.mem_singleton.mp member)
  | cons head rest ih =>
    rw [put] at member
    split at member
    · rcases List.mem_cons.mp member with new | old
      · exact .inl new
      · exact .inr (List.mem_cons_of_mem _ old)
    · rcases List.mem_cons.mp member with rfl | later
      · exact .inr List.mem_cons_self
      · exact (ih later).imp_right (List.mem_cons_of_mem _)

theorem nodup_put (distinct : (entries.map Prod.fst).Nodup) : ((put key value entries).map Prod.fst).Nodup := by
  induction entries with
  | nil => simp [put]
  | cons head rest ih =>
    obtain ⟨fresh, distinct⟩ := List.nodup_cons.mp distinct
    rw [put]
    split
    · next same =>
      subst same
      exact List.nodup_cons.mpr ⟨fresh, distinct⟩
    · next other =>
      refine List.nodup_cons.mpr ⟨fun again => ?_, ih distinct⟩
      obtain ⟨entry, member, same⟩ := List.mem_map.mp again
      rcases mem_put member with rfl | old
      · exact other same.symm
      · exact fresh (same ▸ List.mem_map_of_mem old)

end SettingTable

namespace Setting

open SettingTable (find? put)

/-- No table has a key twice, nor has a table in it. -/
inductive Distinct : Setting → Prop where
  | bool (value : Bool) : Distinct (.bool value)
  | number (text : String) : Distinct (.number text)
  | text (value : String) : Distinct (.text value)
  | list (items : List Setting) : Distinct (.list items)
  | table {entries : List (String × Setting)} (keys : (entries.map Prod.fst).Nodup)
      (inner : ∀ entry ∈ entries, Distinct entry.2) : Distinct (.table entries)

variable {upper lower setting : Setting} {entries below : List (String × Setting)} {key : String}

theorem Distinct.put (distinct : (Setting.table entries).Distinct) (new : setting.Distinct) :
    (Setting.table (put key setting entries)).Distinct := by
  cases distinct with
  | table keys inner =>
    refine .table (SettingTable.nodup_put keys) fun entry member => ?_
    rcases SettingTable.mem_put member with rfl | old
    · exact new
    · exact inner entry old

theorem Distinct.find? (distinct : (Setting.table entries).Distinct) (found : find? key entries = some setting) :
    setting.Distinct := by
  cases distinct with
  | table keys inner => exact inner _ (SettingTable.mem_of_find? found)

/-- A value over what a lower table has under the same key. -/
def onto (upper : Setting) : Option Setting → Setting
  | some lower => upper.laidOver lower
  | none => upper

theorem allLaidOver_cons (key : String) (upper : Setting) (rest below : List (String × Setting)) :
    allLaidOver ((key, upper) :: rest) below = allLaidOver rest (put key (upper.onto (find? key below)) below) := by
  rw [allLaidOver]
  cases find? key below <;> rfl

theorem laidOver_table (entries below : List (String × Setting)) :
    (Setting.table entries).laidOver (.table below) = .table (allLaidOver entries below) := by
  rw [laidOver]

/-- The value itself, unless it is a table. -/
def leaf? : Setting → Option Setting
  | .table _ => none
  | leaf => some leaf

theorem exists_table (shape : setting.leaf? = none) : ∃ entries, setting = .table entries := by
  cases setting with
  | table entries => exact ⟨entries, rfl⟩
  | _ => cases shape

/-- Only tables are combined. -/
theorem laidOver_eq_self (leaf : upper.leaf?.isSome ∨ lower.leaf?.isSome) : upper.laidOver lower = upper := by
  cases upper with
  | table =>
    cases lower with
    | table => simp [leaf?] at leaf
    | _ => simp [laidOver]
  | _ => simp [laidOver]

theorem leaf?_laidOver (upper lower : Setting) : (upper.laidOver lower).leaf? = upper.leaf? := by
  cases upper with
  | table =>
    cases lower with
    | table => rw [laidOver_table]; rfl
    | _ => rw [laidOver_eq_self (.inr rfl)]
  | _ => rw [laidOver_eq_self (.inl rfl)]

/-- When the upper table has no key twice, the keys do not influence each other. -/
theorem find?_allLaidOver (distinct : (entries.map Prod.fst).Nodup) (below : List (String × Setting)) (key : String) :
    find? key (allLaidOver entries below) =
      match find? key entries with
      | some upper => some (upper.onto (find? key below))
      | none => find? key below := by
  induction entries generalizing below with
  | nil => rw [allLaidOver]; rfl
  | cons head rest ih =>
    obtain ⟨first, upper⟩ := head
    obtain ⟨fresh, distinct⟩ := List.nodup_cons.mp distinct
    rw [allLaidOver_cons, ih distinct, SettingTable.find?_put, SettingTable.find?]
    by_cases same : first = key
    · subst same
      simp [SettingTable.find?_eq_none fresh]
    · have other : key ≠ first := fun again => same again.symm
      simp only [same, other, if_false]

/-- The entries are put one by one over a table that stays free of repetitions. -/
theorem Distinct.allLaidOver (inner : ∀ entry ∈ entries, entry.2.Distinct)
    (kept : ∀ entry ∈ entries, ∀ {lower : Setting}, lower.Distinct → (entry.2.laidOver lower).Distinct)
    (distinct : (Setting.table below).Distinct) : (Setting.table (allLaidOver entries below)).Distinct := by
  induction entries generalizing below with
  | nil => rwa [Setting.allLaidOver]
  | cons head rest ih =>
    obtain ⟨key, value⟩ := head
    have new : (value.onto (SettingTable.find? key below)).Distinct := by
      cases found : SettingTable.find? key below with
      | none => exact inner (key, value) List.mem_cons_self
      | some old => exact kept (key, value) List.mem_cons_self (distinct.find? found)
    rw [allLaidOver_cons]
    exact ih (fun entry member => inner entry (List.mem_cons_of_mem _ member))
      (fun entry member => kept entry (List.mem_cons_of_mem _ member)) (distinct.put new)

theorem Distinct.laidOver (distinct : upper.Distinct) (distinctBelow : lower.Distinct) :
    (upper.laidOver lower).Distinct := by
  induction distinct generalizing lower with
  | table keys inner ih =>
    cases distinctBelow with
    | table keysBelow innerBelow =>
      rw [laidOver_table]
      exact .allLaidOver inner ih (.table keysBelow innerBelow)
    | _ =>
      rw [laidOver_eq_self (.inr rfl)]
      exact .table keys inner
  | _ =>
    rw [laidOver_eq_self (.inl rfl)]
    constructor

/-! ### Paths of keys -/

/-- The value at a path of keys. -/
def at? : List String → Setting → Option Setting
  | [], setting => some setting
  | key :: rest, .table entries => (find? key entries).bind (at? rest)
  | _ :: _, _ => none

/-- Every value on the way to the end of a path is a table. -/
def OpenTo : List String → Setting → Prop
  | [], _ => True
  | key :: rest, setting =>
    ∃ entries, setting = .table entries ∧ ∀ inner, find? key entries = some inner → inner.OpenTo rest

theorem at?_cons (key : String) (rest : List String) (entries : List (String × Setting)) :
    (Setting.table entries).at? (key :: rest) = (SettingTable.find? key entries).bind (at? rest) := rfl

theorem at?_single (entries : List (String × Setting)) (key : String) :
    (Setting.table entries).at? [key] = SettingTable.find? key entries := by
  rw [at?_cons]
  cases SettingTable.find? key entries <;> rfl

/-- The first key of a path leads to a value, the others on from there. -/
theorem at?_split (setting : Setting) (key : String) (rest : List String) :
    setting.at? (key :: rest) = (setting.at? [key]).bind (at? rest) := by
  cases setting with
  | table entries => rw [at?_cons, at?_single]
  | _ => rfl

theorem at?_of_leaf (leaf : setting.leaf?.isSome) (key : String) (rest : List String) :
    setting.at? (key :: rest) = none := by
  cases setting with
  | table => cases leaf
  | _ => rfl

theorem openTo_single (entries : List (String × Setting)) (key : String) :
    (Setting.table entries).OpenTo [key] :=
  ⟨entries, rfl, fun _ _ => trivial⟩

/-- A layer over another one has on every path the value of the upper layer, else that of the lower one, except that
tables are combined. -/
theorem leaf?_at?_laidOver {path : List String} (distinct : upper.Distinct) (way : upper.OpenTo path)
    (lower : Setting) :
    ((upper.laidOver lower).at? path).map leaf? = ((upper.at? path).or (lower.at? path)).map leaf? := by
  induction path generalizing upper lower with
  | nil => simp [at?, leaf?_laidOver]
  | cons key rest ih =>
    obtain ⟨entries, rfl, inside⟩ := way
    cases shape : lower.leaf? with
    | some leaf =>
      have isLeaf : lower.leaf?.isSome := by simp [shape]
      rw [laidOver_eq_self (.inr isLeaf), at?_of_leaf isLeaf, Option.or_none]
    | none =>
      obtain ⟨below, rfl⟩ := exists_table shape
      cases distinct with
      | table keys inner =>
        rw [laidOver_table, at?_cons, at?_cons, at?_cons, find?_allLaidOver keys]
        cases found : SettingTable.find? key entries with
        | none => simp
        | some value =>
          have distinctValue := inner _ (SettingTable.mem_of_find? found)
          cases SettingTable.find? key below with
          | none => simp [onto]
          | some old => exact ih distinctValue (inside value found) old

/-- The value that the highest of some layers sets at a path. -/
def highest? (layers : List Setting) (path : List String) : Option Setting := layers.findSome? (·.at? path)

theorem highest?_cons (layer : Setting) (layers : List Setting) (path : List String) :
    highest? (layer :: layers) path = (layer.at? path).or (highest? layers path) := by
  rw [highest?, List.findSome?_cons]
  cases layer.at? path <;> rfl

/-- The two uppermost layers may be replaced by the one over the other. -/
theorem leaf?_highest?_laidOver {path : List String} (distinct : upper.Distinct) (way : upper.OpenTo path)
    (lower : Setting) (layers : List Setting) :
    (highest? (upper.laidOver lower :: layers) path).map leaf? =
      (highest? (upper :: lower :: layers) path).map leaf? := by
  simp only [highest?_cons, Option.map_or, leaf?_at?_laidOver distinct way, Option.or_assoc]

theorem highest?_leaf_iff {path : List String} {leaf : Setting} (distinct : upper.Distinct) (way : upper.OpenTo path)
    (isLeaf : leaf.leaf? = some leaf) (lower : Setting) (layers : List Setting) :
    highest? (upper.laidOver lower :: layers) path = some leaf ↔
      highest? (upper :: lower :: layers) path = some leaf := by
  have shape {found : Option Setting} : found.map leaf? = some (some leaf) ↔ found = some leaf := by
    constructor
    · intro seen
      obtain ⟨value, rfl, same⟩ := Option.map_eq_some_iff.mp seen
      cases value <;> cases same <;> rfl
    · rintro rfl
      exact congrArg some isLeaf
  rw [← shape, leaf?_highest?_laidOver distinct way, shape]

theorem highest?_table_iff {path : List String} (distinct : upper.Distinct) (way : upper.OpenTo path)
    (lower : Setting) (layers : List Setting) :
    (∃ entries, highest? (upper.laidOver lower :: layers) path = some (.table entries)) ↔
      ∃ entries, highest? (upper :: lower :: layers) path = some (.table entries) := by
  have shape {found : Option Setting} : found.map leaf? = some none ↔ ∃ entries, found = some (.table entries) := by
    constructor
    · intro seen
      obtain ⟨value, rfl, same⟩ := Option.map_eq_some_iff.mp seen
      obtain ⟨entries, rfl⟩ := exists_table same
      exact ⟨entries, rfl⟩
    · rintro ⟨entries, rfl⟩
      rfl
  rw [← shape, leaf?_highest?_laidOver distinct way, shape]

/-- Where the highest layer has a table, the way through the uppermost layer is open. -/
theorem openTo_pair {layers : List Setting} (inner : String)
    (grouped : ∃ below, highest? (.table entries :: layers) [key] = some (.table below)) :
    (Setting.table entries).OpenTo [key, inner] := by
  refine ⟨entries, rfl, fun value found => ?_⟩
  obtain ⟨below, highest⟩ := grouped
  rw [highest?_cons, at?_single, found, Option.some_or] at highest
  cases highest
  exact openTo_single below inner

end Setting
end BeanAtlas
