import BeanAtlas.Config.Variables
import BeanAtlas.Proofs.Config.Layers

/-!
The layer of the environment has no key twice in any table: neither the values of variables nor the tables around them
do, and putting one variable over another keeps it so.
-/
namespace BeanAtlas

theorem Setting.distinct_nil : (Setting.table []).Distinct := .table List.nodup_nil (by simp)

theorem Setting.Distinct.single {setting : Setting} (distinct : setting.Distinct) (key : String) :
    (Setting.table [(key, setting)]).Distinct :=
  .table (List.nodup_singleton key) (by simpa using distinct)

namespace Inline

/-- What holds of every item that is read holds of all items of a list. -/
theorem forall_items {α : Type} {item : Toml.Reader α} {closing : Char} {property : α → Prop}
    (each : ∀ cs found rest, item cs = some (found, rest) → property found) {bound : Nat} {cs rest : List Char}
    {found : List α} (read : items item closing bound cs = some (found, rest)) : ∀ one ∈ found, property one := by
  induction bound generalizing cs found rest with
  | zero => cases read
  | succ bound ih =>
    rw [items] at read
    split at read
    · cases read
      simp
    · obtain ⟨⟨first, behind⟩, taken, read⟩ := Option.bind_eq_some_iff.mp read
      have holds := each cs first behind taken
      dsimp only at read
      split at read
      · cases read
      · split at read
        · obtain ⟨⟨others, left⟩, more, read⟩ := Option.bind_eq_some_iff.mp read
          cases read
          exact List.forall_mem_cons.mpr ⟨holds, ih more⟩
        · split at read
          · cases read
            simpa using holds
          · cases read

theorem distinct_table {entries : List (String × Setting)} (inner : ∀ entry ∈ entries, entry.2.Distinct) :
    (table entries).Distinct := by
  unfold table
  refine List.foldlRecOn (motive := fun all => (Setting.table all).Distinct) entries _ Setting.distinct_nil ?_
  intro all distinct entry member
  exact distinct.put (inner entry member)

/-- The value of a pair is one that was read. -/
theorem exists_of_pair {item : Toml.Reader Setting} {cs rest : List Char} {found : String × Setting}
    (read : pair item cs = some (found, rest)) : ∃ start, item start = some (found.2, rest) := by
  obtain ⟨⟨name, behind⟩, -, read⟩ := Option.bind_eq_some_iff.mp read
  dsimp only at read
  split at read
  · next start _ =>
    obtain ⟨⟨value, left⟩, taken, read⟩ := Option.bind_eq_some_iff.mp read
    cases read
    exact ⟨start, taken⟩
  · cases read

theorem distinct_value {bound : Nat} {cs rest : List Char} {found : Setting}
    (read : value bound cs = some (found, rest)) : found.Distinct := by
  induction bound generalizing cs found rest with
  | zero => cases read
  | succ bound ih =>
    -- Only braces give a table. Whatever else is read is distinct by its shape.
    rw [value] at read
    split at read
    · cases read
      constructor
    · split at read
      · cases read
        constructor
      · split at read
        · obtain ⟨_, taken, read⟩ := Option.bind_eq_some_iff.mp read
          obtain ⟨⟨entries, behind⟩, listed, rfl⟩ := Option.map_eq_some_iff.mp taken
          cases read
          refine distinct_table (forall_items ?_ listed)
          intro start entry left taken
          obtain ⟨_, inner⟩ := exists_of_pair taken
          exact ih inner
        · obtain ⟨_, taken, read⟩ := Option.bind_eq_some_iff.mp read
          obtain ⟨_, listed, rfl⟩ := Option.map_eq_some_iff.mp taken
          cases read
          constructor
        · obtain ⟨_, taken, read⟩ := Option.bind_eq_some_iff.mp read
          obtain ⟨_, listed, rfl⟩ := Option.map_eq_some_iff.mp taken
          cases read
          constructor
        · cases read
          constructor
        · cases read
        · simp only [Option.bind_eq_bind, Option.bind_some, plain] at read
          split at read
          · cases read
            constructor
          · cases read
            constructor

theorem distinct_read (text : String) : (read text).Distinct := by
  unfold read
  split
  · next found taken => exact distinct_value taken
  · constructor

end Inline

namespace Variables

theorem distinct_nest {value : Setting} (distinct : value.Distinct) (path : List String) :
    (nest value path).Distinct := by
  induction path with
  | nil => exact distinct
  | cons key rest ih => exact ih.single key

theorem distinct_table (name value : String) : (Setting.table (table name value)).Distinct := by
  unfold table
  split
  · next key rest _ => exact (distinct_nest (Inline.distinct_read value) rest).single key
  · exact Setting.distinct_nil

/-- The layer of the environment has no key twice. -/
theorem distinct_layer (environment : List (String × String)) : (Setting.table (layer environment)).Distinct := by
  unfold layer
  refine List.foldlRecOn (motive := fun lower => (Setting.table lower).Distinct) _ _ Setting.distinct_nil ?_
  intro lower distinct entry _
  have covered := (distinct_table entry.1 entry.2).laidOver distinct
  rwa [Setting.laidOver_table] at covered

end Variables
end BeanAtlas
