import BeanAtlas.Proofs.TypeText

/-!
Element types and blanks. Most blanks in a collection type do not matter: the element type is the same up to
blanks as that of the type without any. Two places are different. A blank that parts the brackets of an
array, or one in the simple name of a collection, hides that the type is a collection.
-/
namespace BeanAtlas

namespace TypeText

open Text (IsPlain solid EndsSolid)

/-- The simple name of the type whose arguments stand between angle brackets, as it is written. -/
def simpleHead (target : List Char) : List Char :=
  Text.afterLast '.' (Text.dropBlanks (target.takeWhile (· != '<')))

/-- The type of the elements as the type arguments give it. -/
def argument? (target : List Char) : Option String :=
  match target.dropWhile (· != '<') with
  | [] => none
  | _ :: inner =>
    if collectionNames.contains (String.ofList (simpleHead target)) then
      match Text.stripEnd? ['>'] inner with
      | none => none
      | some arguments =>
        if String.ofList (simpleHead target) == "Map" then (afterTopComma 0 arguments).bind nonBlank?
        else nonBlank? arguments
    else none

theorem element?_of_array {type : String} {element : List Char}
    (array : Text.dropBlanks type.toList = element ++ ['[', ']']) : element? type = nonBlank? element := by
  simp only [element?, Text.stripEnd?_eq_some.mpr array]

theorem element?_of_not_array {type : String} (other : ¬ ['[', ']'] <:+ Text.dropBlanks type.toList) :
    element? type = argument? (Text.dropBlanks type.toList) := by
  simp only [element?, Text.stripEnd?_eq_none.mpr other]
  rfl

theorem nonBlank?_key (cs : List Char) :
    (nonBlank? cs).map key = if solid cs = [] then none else some (String.ofList (solid cs)) := by
  have inside : solid (Text.dropBlanks cs) = solid cs := Text.solid_dropBlanks cs
  simp only [nonBlank?, List.isEmpty_iff]
  by_cases blank : Text.dropBlanks cs = []
  · have empty : solid cs = [] := by
      rw [← inside, blank]
      rfl
    rw [if_pos blank, if_pos empty, Option.map_none]
  · have visible : solid cs ≠ [] := by
      obtain ⟨front, last, split⟩ := (List.eq_nil_or_concat (Text.dropBlanks cs)).resolve_left blank
      have solidLast := Text.endsSolid_dropBlanks cs front last (by simp [split])
      rw [← inside, split]
      simp [Text.solid_cons_of_visible solidLast]
    rw [if_neg blank, if_neg visible, Option.map_some, ← inside]
    exact congrArg (some ∘ String.ofList) (congrArg solid String.toList_ofList)

/-- The element type up to blanks depends on the element text up to blanks. -/
theorem nonBlank?_congr {cs cs' : List Char} (same : solid cs = solid cs') :
    (nonBlank? cs).map key = (nonBlank? cs').map key := by
  rw [nonBlank?_key, nonBlank?_key, same]

theorem solid_afterTopComma (depth : Nat) (cs : List Char) :
    (afterTopComma depth cs).map solid = afterTopComma depth (solid cs) := by
  fun_induction afterTopComma depth cs with
  | case1 => rfl
  | case2 depth cs ih => rw [ih, Text.solid_cons_of_visible (by decide), afterTopComma]
  | case3 depth cs ih => rw [ih, Text.solid_cons_of_visible (by decide), afterTopComma]
  | case4 cs => rw [Text.solid_cons_of_visible (by decide), afterTopComma, if_pos rfl, Option.map_some]
  | case5 depth cs nested ih => rw [ih, Text.solid_cons_of_visible (by decide), afterTopComma, if_neg nested]
  | case6 depth c cs opens closes comma ih =>
    rw [ih]
    cases blank : Text.isBlank c with
    | true => simp [solid, blank]
    | false => rw [Text.solid_cons_of_visible blank, afterTopComma.eq_5 _ _ _ opens closes comma]

theorem solid_simpleHead (target : List Char) : solid (simpleHead target) = simpleHead (solid target) := by
  have cut : Text.IsPlain (solid (target.takeWhile (· != '<'))) := Text.isPlain_solid _
  rw [simpleHead, Text.solid_afterLast (by decide), Text.solid_dropBlanks, simpleHead,
    ← Text.solid_takeWhile (by decide), cut.dropBlanks_eq]

/-- With a blank in its simple name a type is no collection. -/
theorem argument?_of_torn {target : List Char} (torn : ¬ IsPlain (simpleHead target)) :
    argument? target = none := by
  have letters : collectionNames.all (·.toList.all (!Text.isBlank ·)) := by decide
  have names : ∀ name ∈ collectionNames, IsPlain name.toList := by
    intro name known c member
    simpa using List.all_eq_true.mp (List.all_eq_true.mp letters name known) c member
  have unknown : collectionNames.contains (String.ofList (simpleHead target)) = false := by
    rw [Bool.eq_false_iff, ne_eq, List.contains_iff_mem]
    intro known
    have plain := names _ known
    rw [String.toList_ofList] at plain
    exact torn plain
  unfold argument?
  split
  · rfl
  · rw [unknown]
    rfl

/-- Type arguments that are not closed at the end of the type give no element. -/
theorem argument?_of_unclosed {front : List Char} {last : Char} (other : last ≠ '>') :
    argument? (front ++ [last]) = none := by
  unfold argument?
  split
  · rfl
  · next first inner rest =>
    have unclosed : Text.stripEnd? ['>'] inner = none := by
      rw [Text.stripEnd?_eq_none]
      intro closed
      have tail : inner <:+ front ++ [last] :=
        (List.suffix_cons first inner).trans (rest ▸ List.dropWhile_suffix _)
      obtain ⟨start, equal⟩ := closed.trans tail
      have final : ['>'] = [last] := (List.append_inj' equal rfl).2
      exact other (List.cons.inj final).1.symm
    rw [unclosed]
    split <;> rfl

/-- Apart from the simple name, blanks change the element type by blanks only. -/
theorem argument?_solid {target : List Char} (ends : EndsSolid target)
    (whole : IsPlain (simpleHead target)) :
    (argument? target).map key = (argument? (solid target)).map key := by
  have head : simpleHead (solid target) = simpleHead target := by
    rw [← solid_simpleHead, whole.solid_eq]
  unfold argument?
  rw [head, ← Text.solid_dropWhile (by decide)]
  cases rest : target.dropWhile (· != '<') with
  | nil => rfl
  | cons first inner =>
    have opens : first = '<' := by
      have stops := List.head?_dropWhile_not (· != '<') target
      simpa [rest] using stops
    have tail : EndsSolid inner :=
      ends.of_suffix ((List.suffix_cons first inner).trans (rest ▸ List.dropWhile_suffix _))
    have closing : (Text.stripEnd? ['>'] inner).map solid = Text.stripEnd? ['>'] (solid inner) :=
      Text.solid_stripEnd? tail
    rw [Text.solid_cons_of_visible (by rw [opens]; decide)]
    dsimp only
    rw [← closing]
    split
    · cases Text.stripEnd? ['>'] inner with
      | none => rfl
      | some arguments =>
        dsimp only [Option.map_some]
        split
        · rw [← solid_afterTopComma]
          cases afterTopComma 0 arguments with
          | none => rfl
          | some element => exact nonBlank?_congr (Text.solid_solid element).symm
        · exact nonBlank?_congr (Text.solid_solid arguments).symm
    · rfl

/-- A blank parts the brackets of an array, or stands in the simple name of a type that is no array. -/
def isTorn (type : String) : Bool :=
  if ['[', ']'].isSuffixOf (key type).toList then !(['[', ']'].isSuffixOf (Text.dropBlanks type.toList))
  else (simpleHead (Text.dropBlanks type.toList)).any Text.isBlank

theorem dropBlanks_key (type : String) :
    Text.dropBlanks (key type).toList = solid (Text.dropBlanks type.toList) := by
  rw [(isPlain_key type).dropBlanks_eq, toList_key, Text.solid_dropBlanks]

/-- Brackets that close an array do so without the blanks as well. -/
theorem array_key {type : String} {element : List Char}
    (array : Text.dropBlanks type.toList = element ++ ['[', ']']) :
    (key type).toList = solid element ++ ['[', ']'] := by
  have brackets : solid ['[', ']'] = ['[', ']'] := by decide
  rw [toList_key, ← Text.solid_dropBlanks, array, Text.solid_append, brackets]

/-- The last character of an array type is its bracket, even where the brackets are parted. -/
theorem bracket_of_array_key {type : String} (array : ['[', ']'] <:+ (key type).toList) :
    ∃ front, Text.dropBlanks type.toList = front ++ [']'] := by
  obtain ⟨element, split⟩ := array
  rw [toList_key, ← Text.solid_dropBlanks] at split
  rcases List.eq_nil_or_concat (Text.dropBlanks type.toList) with empty | ⟨front, last, whole⟩
  · simp [empty, solid] at split
  · rw [List.concat_eq_append] at whole
    have visible := Text.endsSolid_dropBlanks type.toList front last whole
    have final : solid [last] = [last] := Text.solid_cons_of_visible visible []
    have parts : (element ++ ['[']) ++ [']'] = solid front ++ [last] := by
      rw [List.append_assoc, List.singleton_append, split, whole, Text.solid_append, final]
    have same : [']'] = [last] := (List.append_inj' parts rfl).2
    exact ⟨front, whole.trans (congrArg (front ++ ·) same.symm)⟩

theorem isTorn_of_array {type : String} (array : ['[', ']'] <:+ (key type).toList) :
    isTorn type ↔ ¬ ['[', ']'] <:+ Text.dropBlanks type.toList := by
  rw [isTorn, if_pos (List.isSuffixOf_iff_suffix.mpr array), ← List.isSuffixOf_iff_suffix, Bool.not_eq_true',
    Bool.not_eq_true]

theorem isTorn_of_not_array {type : String} (other : ¬ ['[', ']'] <:+ (key type).toList) :
    isTorn type ↔ ¬ IsPlain (simpleHead (Text.dropBlanks type.toList)) := by
  rw [← List.isSuffixOf_iff_suffix] at other
  rw [isTorn, if_neg other]
  simp [IsPlain]

theorem not_array {type : String} (other : ¬ ['[', ']'] <:+ (key type).toList) :
    ¬ ['[', ']'] <:+ Text.dropBlanks type.toList := by
  rintro ⟨element, split⟩
  exact other ⟨solid element, (array_key split.symm).symm⟩

theorem element?_of_torn {type : String} (torn : isTorn type) : element? type = none := by
  by_cases array : ['[', ']'] <:+ (key type).toList
  · obtain ⟨front, split⟩ := bracket_of_array_key array
    rw [element?_of_not_array ((isTorn_of_array array).mp torn), split,
      argument?_of_unclosed (by decide)]
  · rw [element?_of_not_array (not_array array), argument?_of_torn ((isTorn_of_not_array array).mp torn)]

/-- Up to blanks, the element type of a type is that of its key, unless the type is torn. -/
theorem element?_of_not_torn {type : String} (whole : ¬ isTorn type) :
    (element? type).map key = (element? (key type)).map key := by
  by_cases array : ['[', ']'] <:+ (key type).toList
  · rw [isTorn_of_array array, not_not] at whole
    obtain ⟨element, split⟩ := whole
    have keyed : Text.dropBlanks (key type).toList = solid element ++ ['[', ']'] := by
      rw [(isPlain_key type).dropBlanks_eq, array_key split.symm]
    rw [element?_of_array split.symm, element?_of_array keyed]
    exact nonBlank?_congr (Text.solid_solid element).symm
  · rw [isTorn_of_not_array array, not_not] at whole
    have keyed : ¬ ['[', ']'] <:+ Text.dropBlanks (key type).toList := by
      rw [(isPlain_key type).dropBlanks_eq]
      exact array
    rw [element?_of_not_array (not_array array), element?_of_not_array keyed, dropBlanks_key]
    exact argument?_solid (Text.endsSolid_dropBlanks _) whole

/-- What the element type is up to blanks depends on the key and on whether the type is torn. -/
theorem map_key_element? (type : String) :
    (element? type).map key = if isTorn type then none else (element? (key type)).map key := by
  split
  · next torn => rw [element?_of_torn torn, Option.map_none]
  · next whole => exact element?_of_not_torn whole

end TypeText
end BeanAtlas
