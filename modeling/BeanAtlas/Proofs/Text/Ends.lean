import BeanAtlas.Text.Search
import Mathlib.Data.List.Basic
import Mathlib.Data.List.DropRight
import Mathlib.Data.List.TakeWhile

/-!
The ends of a text: the blanks that a trim takes off, what is left without any blanks, an ending that is cut off, and
what follows the last mark.
-/
namespace BeanAtlas.Text

variable {cs front : List Char} {mark : Char}

/-! ### Blanks -/

/-- Without a blank in it. -/
def IsPlain (cs : List Char) : Prop := ∀ c ∈ cs, isBlank c = false

instance (cs : List Char) : Decidable (IsPlain cs) :=
  decidable_of_iff (cs.all (!isBlank ·)) (by simp [IsPlain])

theorem IsPlain.dropWhile_eq (plain : IsPlain cs) : cs.dropWhile isBlank = cs := by
  cases cs with
  | nil => rfl
  | cons c cs => simp [plain c (by simp)]

theorem IsPlain.dropBlanks_eq (plain : IsPlain cs) : dropBlanks cs = cs := by
  have reversed : IsPlain cs.reverse := fun c member => plain c (List.mem_reverse.mp member)
  rw [dropBlanks, dropBlankEnd, plain.dropWhile_eq, reversed.dropWhile_eq, List.reverse_reverse]

/-- A plain ending is kept by a trim, which then takes off blanks at the start only. -/
theorem IsPlain.dropBlanks_append {rest : List Char} (plain : IsPlain rest) (filled : rest ≠ []) (cs : List Char) :
    dropBlanks (cs ++ rest) = cs.dropWhile isBlank ++ rest := by
  have front : (cs ++ rest).dropWhile isBlank = cs.dropWhile isBlank ++ rest := by
    rw [List.dropWhile_append]
    split
    · next blank => rw [plain.dropWhile_eq, List.isEmpty_iff.mp blank, List.nil_append]
    · rfl
  obtain ⟨init, last, rfl⟩ := (List.eq_nil_or_concat rest).resolve_left filled
  have visible : isBlank last = false := plain last (by simp)
  rw [dropBlanks, front, dropBlankEnd]
  simp [visible]

/-- With a visible character at either end, so that a trim takes nothing off. -/
structure IsTrimmed (cs : List Char) : Prop where
  filled : cs ≠ []
  starts : ∀ c ∈ cs.head?, isBlank c = false
  ends : ∀ c ∈ cs.getLast?, isBlank c = false

theorem IsTrimmed.reverse (trimmed : IsTrimmed cs) : IsTrimmed cs.reverse where
  filled := by simpa using trimmed.filled
  starts := by simpa using trimmed.ends
  ends := by simpa using trimmed.starts

theorem IsTrimmed.of_isPlain (plain : IsPlain cs) (filled : cs ≠ []) : IsTrimmed cs where
  filled := filled
  starts c first := plain c (List.mem_of_mem_head? first)
  ends c last := plain c (List.mem_of_mem_getLast? last)

/-- A text that goes on behind a trimmed one and ends visibly is trimmed. -/
theorem IsTrimmed.append {rest : List Char} (trimmed : IsTrimmed cs) (filled : rest ≠ [])
    (ends : ∀ c ∈ rest.getLast?, isBlank c = false) : IsTrimmed (cs ++ rest) where
  filled := by simp [filled]
  starts c first := by
    rw [List.head?_append_of_ne_nil _ trimmed.filled] at first
    exact trimmed.starts c first
  ends c last := by
    rw [List.getLast?_append_of_ne_nil _ filled] at last
    exact ends c last

/-- Leading blanks are dropped up to the first visible character. -/
theorem IsTrimmed.dropWhile_eq (trimmed : IsTrimmed cs) {before : List Char}
    (blank : ∀ c ∈ before, isBlank c = true) (rest : List Char) :
    (before ++ (cs ++ rest)).dropWhile isBlank = cs ++ rest := by
  rw [List.dropWhile_append_of_pos blank]
  obtain ⟨c, cs, rfl⟩ := List.exists_cons_of_ne_nil trimmed.filled
  have visible : isBlank c = false := trimmed.starts c rfl
  simp [visible]

theorem IsTrimmed.dropBlanks_eq (trimmed : IsTrimmed cs) {before after : List Char}
    (blankBefore : ∀ c ∈ before, isBlank c = true) (blankAfter : ∀ c ∈ after, isBlank c = true) :
    dropBlanks (before ++ (cs ++ after)) = cs := by
  have backwards : (after.reverse ++ (cs.reverse ++ [])).dropWhile isBlank = cs.reverse ++ [] :=
    trimmed.reverse.dropWhile_eq (by simpa using blankAfter) []
  rw [dropBlanks, trimmed.dropWhile_eq blankBefore, dropBlankEnd, List.reverse_append]
  simpa using congrArg List.reverse backwards

theorem IsTrimmed.dropBlanks_self (trimmed : IsTrimmed cs) : dropBlanks cs = cs := by
  have cut : dropBlanks ([] ++ (cs ++ [])) = cs := trimmed.dropBlanks_eq (by simp) (by simp)
  simpa using cut

/-- What a trim leaves is trimmed, unless nothing is left. -/
theorem isTrimmed_dropBlanks (filled : dropBlanks cs ≠ []) : IsTrimmed (dropBlanks cs) where
  filled := filled
  starts c first := by
    obtain ⟨tail, split⟩ : dropBlanks cs <+: cs.dropWhile isBlank := List.rdropWhile_prefix isBlank _
    have stops := List.head?_dropWhile_not isBlank cs
    rw [← split, List.head?_append_of_ne_nil _ filled, Option.mem_def.mp first] at stops
    exact stops
  ends c last := by
    rw [dropBlanks, dropBlankEnd, List.getLast?_reverse] at last
    have stops := List.head?_dropWhile_not isBlank (cs.dropWhile isBlank).reverse
    rw [Option.mem_def.mp last] at stops
    exact stops

/-- `inner` is what is left of a text without the blanks at its two ends. -/
structure IsTrimOf (inner text : String) : Prop where
  within : ∃ before after, text.toList = before ++ (inner.toList ++ after) ∧
    (∀ c ∈ before, isBlank c = true) ∧ ∀ c ∈ after, isBlank c = true
  starts : ∀ c ∈ inner.toList.head?, isBlank c = false
  ends : ∀ c ∈ inner.toList.getLast?, isBlank c = false

theorem dropBlanks_of_blank (blank : ∀ c ∈ cs, isBlank c = true) : dropBlanks cs = [] := by
  have passed : cs.dropWhile isBlank = [] := List.dropWhile_eq_nil_iff.mpr blank
  rw [dropBlanks, passed]
  rfl

/-- A trim takes off blanks only. -/
theorem exists_blanks_around (cs : List Char) :
    ∃ before after, cs = before ++ (dropBlanks cs ++ after) ∧
      (∀ c ∈ before, isBlank c = true) ∧ ∀ c ∈ after, isBlank c = true := by
  have blanks (rest : List Char) : ∀ c ∈ rest.takeWhile isBlank, isBlank c = true :=
    fun c member => List.all_eq_true.mp List.all_takeWhile c member
  have front := List.takeWhile_append_dropWhile (p := isBlank) (l := cs)
  have back := congrArg List.reverse
    (List.takeWhile_append_dropWhile (p := isBlank) (l := (cs.dropWhile isBlank).reverse))
  rw [List.reverse_append, List.reverse_reverse] at back
  refine ⟨cs.takeWhile isBlank, ((cs.dropWhile isBlank).reverse.takeWhile isBlank).reverse, ?_, blanks cs, ?_⟩
  · rw [dropBlanks, dropBlankEnd, back, front]
  · intro c member
    exact blanks _ c (List.mem_reverse.mp member)

theorem isTrimOf_iff {inner text : String} : IsTrimOf inner text ↔ inner = trim text := by
  constructor
  · rintro ⟨⟨before, after, split, blankBefore, blankAfter⟩, starts, ends⟩
    rw [trim, split, ← String.ofList_toList (s := inner), String.toList_ofList]
    by_cases filled : inner.toList = []
    · have blank : ∀ c ∈ before ++ (inner.toList ++ after), isBlank c = true := by
        rw [filled, List.nil_append]
        exact List.forall_mem_append.mpr ⟨blankBefore, blankAfter⟩
      rw [dropBlanks_of_blank blank, filled]
    · have trimmed : IsTrimmed inner.toList := ⟨filled, starts, ends⟩
      rw [trimmed.dropBlanks_eq blankBefore blankAfter]
  · rintro rfl
    obtain ⟨before, after, split, blankBefore, blankAfter⟩ := exists_blanks_around text.toList
    have inner : (trim text).toList = dropBlanks text.toList := String.toList_ofList
    rw [← inner] at split
    by_cases filled : dropBlanks text.toList = []
    · exact ⟨⟨before, after, split, blankBefore, blankAfter⟩, by simp [inner, filled], by simp [inner, filled]⟩
    · have trimmed := isTrimmed_dropBlanks filled
      rw [← inner] at trimmed
      exact ⟨⟨before, after, split, blankBefore, blankAfter⟩, trimmed.starts, trimmed.ends⟩

/-- Of the characters of a text it only matters which are blank. -/
theorem isTrimmed_map {change : Char → Char} (keeps : ∀ c, isBlank (change c) = isBlank c) :
    IsTrimmed (cs.map change) ↔ IsTrimmed cs := by
  constructor
  · rintro ⟨filled, starts, ends⟩
    exact ⟨by simpa using filled, by simpa [keeps] using starts, by simpa [keeps] using ends⟩
  · rintro ⟨filled, starts, ends⟩
    exact ⟨by simpa using filled, by simpa [keeps] using starts, by simpa [keeps] using ends⟩

theorem isTrimmed_append_iff {rest : List Char} (filled : cs ≠ []) :
    IsTrimmed (cs ++ rest) ↔ (∀ c ∈ cs.head?, isBlank c = false) ∧
      ∀ c ∈ rest.getLast?.or cs.getLast?, isBlank c = false := by
  rw [← List.getLast?_append]
  constructor
  · intro trimmed
    refine ⟨fun c first => trimmed.starts c ?_, trimmed.ends⟩
    rwa [List.head?_append_of_ne_nil _ filled]
  · rintro ⟨starts, ends⟩
    refine ⟨by simp [filled], fun c first => starts c ?_, ends⟩
    rwa [List.head?_append_of_ne_nil _ filled] at first

/-- A first character may become several that are blank if it is. -/
theorem isTrimmed_expand {c : Char} {rest : List Char} (filled : cs ≠ [])
    (alike : ∀ d ∈ cs, isBlank d = isBlank c) : IsTrimmed (cs ++ rest) ↔ IsTrimmed (c :: rest) := by
  obtain ⟨first, head⟩ := Option.isSome_iff_exists.mp (List.isSome_head?.mpr filled)
  obtain ⟨last, tail⟩ := Option.isSome_iff_exists.mp (List.getLast?_isSome.mpr filled)
  have firstAlike := alike first (List.mem_of_mem_head? head)
  have lastAlike := alike last (List.mem_of_mem_getLast? tail)
  have single : IsTrimmed ([c] ++ rest) ↔ _ := isTrimmed_append_iff (List.cons_ne_nil c [])
  rw [List.singleton_append] at single
  rw [isTrimmed_append_iff filled, single, head, tail]
  cases rest.getLast? with
  | none => simp [firstAlike, lastAlike]
  | some final => simp [firstAlike]

/-! ### Visible characters -/

/-- The characters that are not blank. -/
def solid (cs : List Char) : List Char := cs.filter (!isBlank ·)

@[simp]
theorem solid_append (front rest : List Char) : solid (front ++ rest) = solid front ++ solid rest :=
  List.filter_append ..

theorem solid_cons_of_visible (visible : isBlank mark = false) (cs : List Char) :
    solid (mark :: cs) = mark :: solid cs := by
  simp [solid, visible]

theorem IsPlain.solid_eq (plain : IsPlain cs) : solid cs = cs :=
  List.filter_eq_self.mpr fun c member => by simp [plain c member]

theorem isPlain_solid (cs : List Char) : IsPlain (solid cs) := by
  intro c member
  simpa using (List.mem_filter.mp member).2

@[simp]
theorem solid_solid (cs : List Char) : solid (solid cs) = solid cs := (isPlain_solid cs).solid_eq

theorem solid_reverse (cs : List Char) : solid cs.reverse = (solid cs).reverse :=
  List.filter_reverse ..

theorem solid_dropWhile_blank (cs : List Char) : solid (cs.dropWhile isBlank) = solid cs := by
  induction cs with
  | nil => rfl
  | cons c cs ih =>
    cases blank : isBlank c with
    | true => simpa [solid, blank] using ih
    | false => simp [blank]

/-- The blanks that a trim removes are no longer there once all blanks are removed. -/
@[simp]
theorem solid_dropBlanks (cs : List Char) : solid (dropBlanks cs) = solid cs := by
  rw [dropBlanks, dropBlankEnd, solid_reverse, solid_dropWhile_blank, solid_reverse, List.reverse_reverse,
    solid_dropWhile_blank]

/-- A blank never is the mark at which a text is cut. -/
theorem blank_passes (visible : isBlank mark = false) :
    (fun c => !(!isBlank c) || c != mark) = fun c => c != mark := by
  funext c
  cases blank : isBlank c with
  | false => rfl
  | true =>
    have apart : c ≠ mark := by
      rintro rfl
      simp [visible] at blank
    simpa using apart

theorem solid_takeWhile (visible : isBlank mark = false) (cs : List Char) :
    solid (cs.takeWhile (· != mark)) = (solid cs).takeWhile (· != mark) := by
  rw [solid, solid, List.takeWhile_filter, blank_passes visible]

theorem solid_dropWhile (visible : isBlank mark = false) (cs : List Char) :
    solid (cs.dropWhile (· != mark)) = (solid cs).dropWhile (· != mark) := by
  rw [solid, solid, List.dropWhile_filter, blank_passes visible]

theorem solid_afterLast (visible : isBlank mark = false) (cs : List Char) :
    solid (afterLast mark cs) = afterLast mark (solid cs) := by
  rw [afterLast, solid_reverse, solid_takeWhile visible, solid_reverse, afterLast]

/-- Without a blank as its last character. -/
def EndsSolid (cs : List Char) : Prop := ∀ front c, cs = front ++ [c] → isBlank c = false

theorem endsSolid_dropBlanks (cs : List Char) : EndsSolid (dropBlanks cs) := by
  intro front c split
  have reversed : (cs.dropWhile isBlank).reverse.dropWhile isBlank = c :: front.reverse := by
    rw [dropBlanks, dropBlankEnd] at split
    rw [← List.reverse_reverse ((cs.dropWhile isBlank).reverse.dropWhile isBlank), split]
    simp
  have stops := List.head?_dropWhile_not isBlank (cs.dropWhile isBlank).reverse
  simpa [reversed] using stops

theorem EndsSolid.of_suffix {rest : List Char} (solid : EndsSolid cs) (tail : rest <:+ cs) : EndsSolid rest := by
  obtain ⟨start, rfl⟩ := tail
  rintro front c rfl
  exact solid (start ++ front) c (by simp)

/-! ### Endings -/

theorem stripEnd?_eq_some {tail : List Char} :
    stripEnd? tail cs = some front ↔ cs = front ++ tail := by
  unfold stripEnd?
  constructor
  · intro given
    split at given
    · next ends =>
      obtain ⟨start, rfl⟩ := List.isSuffixOf_iff_suffix.mp ends
      obtain rfl : start = front := by simpa using given
      rfl
    · simp at given
  · rintro rfl
    have ends : tail.isSuffixOf (front ++ tail) := List.isSuffixOf_iff_suffix.mpr ⟨front, rfl⟩
    simp [ends]

theorem stripEnd?_eq_none {tail : List Char} : stripEnd? tail cs = none ↔ ¬ tail <:+ cs := by
  rw [← List.isSuffixOf_iff_suffix, stripEnd?]
  split <;> simp [*]

theorem stripEnd?_concat (front : List Char) (last : Char) :
    stripEnd? [mark] (front ++ [last]) = if last = mark then some front else none := by
  split
  · next same => rw [stripEnd?_eq_some, same]
  · next other =>
    rw [stripEnd?_eq_none]
    rintro ⟨start, equal⟩
    have final : [mark] = [last] := (List.append_inj' equal rfl).2
    exact other (List.cons.inj final).1.symm

/-- Where no blank ends the text, its last character may be taken off before the blanks are, or afterwards. -/
theorem solid_stripEnd? (ends : EndsSolid cs) :
    (stripEnd? [mark] cs).map solid = stripEnd? [mark] (solid cs) := by
  rcases List.eq_nil_or_concat cs with rfl | ⟨front, last, rfl⟩
  · simp [solid, stripEnd?]
  · rw [List.concat_eq_append] at ends ⊢
    have visible : isBlank last = false := ends front last rfl
    have final : solid [last] = [last] := solid_cons_of_visible visible []
    rw [solid_append, final, stripEnd?_concat, stripEnd?_concat]
    split <;> rfl

/-! ### The last mark -/

/-- A scan up to a mark passes over whatever is without it. -/
theorem bne_of_not_mem {α : Type} [DecidableEq α] {mark : α} {items : List α} (absent : mark ∉ items) :
    ∀ item ∈ items, (item != mark) = true := by
  intro item member
  rw [bne_iff_ne]
  rintro rfl
  exact absent member

theorem afterLast_of_not_mem (absent : mark ∉ cs) : afterLast mark cs = cs := by
  have passed := bne_of_not_mem (mt List.mem_reverse.mp absent)
  rw [afterLast, List.takeWhile_eq_self_iff.mpr passed, List.reverse_reverse]

theorem afterLast_cons_of_mem (later : mark ∈ cs) (c : Char) :
    afterLast mark (c :: cs) = afterLast mark cs := by
  have stops : (cs.reverse.takeWhile (· != mark)).length ≠ cs.reverse.length := by
    intro whole
    have all := List.takeWhile_eq_self_iff.mp
      ((List.takeWhile_prefix (· != mark)).eq_of_length whole)
    simpa using all mark (List.mem_reverse.mpr later)
  rw [afterLast, List.reverse_cons, List.takeWhile_append, if_neg stops, afterLast]

theorem afterLast_cons_self (last : mark ∉ cs) : afterLast mark (mark :: cs) = cs := by
  have passed := bne_of_not_mem (mt List.mem_reverse.mp last)
  rw [afterLast, List.reverse_cons, List.takeWhile_append_of_pos passed]
  simp

theorem afterLast_append_mark (front : List Char) (last : mark ∉ cs) :
    afterLast mark (front ++ mark :: cs) = cs := by
  induction front with
  | nil => exact afterLast_cons_self last
  | cons c front ih => rw [List.cons_append, afterLast_cons_of_mem (by simp), ih]

theorem exists_last_mark (member : mark ∈ cs) : ∃ front tail, cs = front ++ mark :: tail ∧ mark ∉ tail := by
  obtain ⟨tail, front, split, absent⟩ := List.eq_append_cons_of_mem (List.mem_reverse.mpr member)
  refine ⟨front.reverse, tail.reverse, ?_, mt List.mem_reverse.mp absent⟩
  rw [← List.reverse_reverse cs, split]
  simp

end BeanAtlas.Text
