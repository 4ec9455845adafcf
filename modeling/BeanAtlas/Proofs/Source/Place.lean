import BeanAtlas.Source.Text
import Mathlib.Order.Defs.PartialOrder

/-!
Places in reading order. In a text that is short enough for lines and columns of 32 bits, a later offset never has an
earlier place, so intervals of bytes that lie in each other or follow each other give ranges that do so too.
-/
namespace BeanAtlas

/-- Places are ordered by line and, on one line, by column. -/
instance : Preorder Position where
  le first second := first.line < second.line ∨ first.line = second.line ∧ first.column ≤ second.column
  le_refl place := .inr ⟨rfl, Nat.le_refl _⟩
  le_trans first second third := by
    simp only [UInt32.lt_iff_toNat_lt, ← UInt32.toNat_inj, UInt32.le_iff_toNat_le]
    omega

theorem Position.le_def {first second : Position} :
    first ≤ second ↔ first.line < second.line ∨ first.line = second.line ∧ first.column ≤ second.column :=
  Iff.rfl

instance : DecidableLE Position := fun _ _ => decidable_of_iff' _ Position.le_def

namespace Range

/-- A place lies in a range, the ends included. -/
def Contains (range : Range) (place : Position) : Prop := range.start ≤ place ∧ place ≤ range.stop

/-- A range lies in another one, the ends included. -/
structure Within (inner outer : Range) : Prop where
  start : outer.start ≤ inner.start
  ordered : inner.start ≤ inner.stop
  stop : inner.stop ≤ outer.stop

theorem Within.trans {inner middle outer : Range} (first : inner.Within middle) (second : middle.Within outer) :
    inner.Within outer :=
  ⟨le_trans second.start first.start, first.ordered, le_trans first.stop second.stop⟩

end Range

/-- Indices that fit into 32 bits keep their order. -/
theorem Position.ofIndices_le {row column row' column' : Nat}
    (ordered : row < row' ∨ row = row' ∧ column ≤ column') (rowFits : row' + 1 < UInt32.size)
    (columnFits : column' + 1 < UInt32.size) : ofIndices row column ≤ ofIndices row' column' := by
  have fits : ∀ {index}, index + 1 < UInt32.size → (index + 1).toUInt32.toNat = index + 1 :=
    fun bound => Nat.mod_eq_of_lt bound
  rw [le_def, UInt32.lt_iff_toNat_lt, ← UInt32.toNat_inj, UInt32.le_iff_toNat_le, ofIndices, ofIndices]
  rcases ordered with above | ⟨rfl, left⟩
  · rw [fits rowFits, fits (by omega)]
    exact .inl (Nat.succ_lt_succ above)
  · rw [fits columnFits, fits (show column + 1 < UInt32.size by omega)]
    exact .inr ⟨rfl, Nat.succ_le_succ left⟩

theorem lineSizesFrom_ne_nil (current : Nat) (cs : List Char) : lineSizesFrom current cs ≠ [] := by
  fun_induction lineSizesFrom current cs with
  | case1 => simp
  | case2 => simp
  | case3 current c cs other ih => exact ih

/-- Every line but the last has its line feed. -/
theorem pos_of_mem_dropLast_lineSizesFrom (current : Nat) (cs : List Char) :
    ∀ size ∈ (lineSizesFrom current cs).dropLast, 0 < size := by
  fun_induction lineSizesFrom current cs with
  | case1 => simp
  | case2 current cs ih =>
    intro size member
    rw [List.dropLast_cons_of_ne_nil (lineSizesFrom_ne_nil 0 cs)] at member
    rcases List.mem_cons.mp member with rfl | member
    · exact Nat.succ_pos current
    · exact ih size member
  | case3 current c cs other ih => exact ih

namespace Source

theorem le_row_placeIn (row offset : Nat) (sizes : List Nat) : row ≤ (placeIn row offset sizes).1 := by
  fun_induction placeIn row offset sizes with
  | case1 => exact Nat.le_refl _
  | case2 => exact Nat.le_refl _
  | case3 => exact Nat.le_refl _
  | case4 row offset size next rest _ ih => omega

/-- A later offset is on a later line, or on the same line and not further left. -/
theorem placeIn_mono {row first second : Nat} (sizes : List Nat) (le : first ≤ second) :
    (placeIn row first sizes).1 < (placeIn row second sizes).1 ∨
      (placeIn row first sizes).1 = (placeIn row second sizes).1 ∧
        (placeIn row first sizes).2 ≤ (placeIn row second sizes).2 := by
  fun_induction placeIn row first sizes generalizing second with
  | case1 => exact .inr ⟨rfl, le⟩
  | case2 => exact .inr ⟨rfl, le⟩
  | case3 row first size next rest short =>
    rw [placeIn]
    split
    · exact .inr ⟨rfl, le⟩
    · exact .inl (le_row_placeIn _ _ _)
  | case4 row first size next rest long ih =>
    rw [placeIn, if_neg (show ¬ second < size by omega)]
    exact ih (by omega)

/-- Every line that is passed takes a byte of the offset at least. -/
theorem placeIn_le (row offset : Nat) (sizes : List Nat) (filled : ∀ size ∈ sizes.dropLast, 0 < size) :
    (placeIn row offset sizes).1 + (placeIn row offset sizes).2 ≤ row + offset := by
  fun_induction placeIn row offset sizes with
  | case1 => exact Nat.le_refl _
  | case2 => exact Nat.le_refl _
  | case3 => exact Nat.le_refl _
  | case4 row offset size next rest long ih =>
    have here : 0 < size := filled size (by simp)
    have below := ih fun other member => filled other (by simp [member])
    omega

/-- In a text that is short enough, places follow each other like offsets. -/
theorem positionAt_mono (source : Source) {first second : Nat} (le : first ≤ second)
    (bound : second < UInt32.size - 1) : source.positionAt first ≤ source.positionAt second := by
  have filled : ∀ size ∈ source.lineSizes.dropLast, 0 < size := by
    rw [source.sized]
    exact pos_of_mem_dropLast_lineSizesFrom 0 _
  have fits := placeIn_le 0 second source.lineSizes filled
  exact Position.ofIndices_le (placeIn_mono source.lineSizes le) (by omega) (by omega)

end Source
end BeanAtlas
