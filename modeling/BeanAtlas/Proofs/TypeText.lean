import BeanAtlas.Proofs.Text.Ends
import BeanAtlas.TypeText

/-!
Type keys. A key consists of the visible characters of a type. So erasing its type arguments cuts it at the first `<`
and trims nothing, and blanks may be removed before or after the cut. The simple form of a key is read off in one pass.
-/
namespace BeanAtlas

namespace TypeText

open Text (IsPlain solid)

/-- The visible characters of a type. -/
def compact (type : String) : String := String.ofList (solid type.toList)

/-- The part of a type before its first `<`. -/
def base (type : String) : String := String.ofList (type.toList.takeWhile (· != '<'))

theorem toList_compact (type : String) : (compact type).toList = solid type.toList := String.toList_ofList

theorem toList_base (type : String) : (base type).toList = type.toList.takeWhile (· != '<') :=
  String.toList_ofList

theorem key_eq_compact (type : String) : key type = compact type := rfl

theorem toList_key (type : String) : (key type).toList = solid type.toList := toList_compact type

theorem isPlain_key (type : String) : IsPlain (key type).toList := by
  rw [toList_key]
  exact Text.isPlain_solid _

@[simp]
theorem key_key (type : String) : key (key type) = key type := by
  rw [key_eq_compact, compact, toList_key, Text.solid_solid, ← toList_key, String.ofList_toList]

/-- On a key, erasing the type arguments only cuts. -/
theorem erased_eq_base {type : String} (plain : IsPlain type.toList) : erased type = base type := by
  have cut : IsPlain (type.toList.takeWhile (· != '<')) :=
    fun c member => plain c ((List.takeWhile_prefix _).mem member)
  rw [erased, cut.dropBlanks_eq, base]

/-- Of an interface the visible characters before its type arguments count. -/
theorem interfaceKey_eq (type : String) : interfaceKey type = compact (base type) := by
  rw [interfaceKey, key_eq_compact, compact, compact, erased, String.toList_ofList, Text.solid_dropBlanks, toList_base]

/-- What follows the last dot before the type arguments, these included. -/
def behindDot? : List Char → Option (List Char)
  | [] => none
  | c :: cs => if c = '<' then none else (behindDot? cs).or (if c = '.' then some cs else none)

/-- The key without everything up to the last dot before its first `<`; `none` without such a dot. -/
def unqualified? (key : String) : Option String := (behindDot? key.toList).map String.ofList

theorem behindDot?_suffix {cs rest : List Char} (found : behindDot? cs = some rest) : rest <:+ cs := by
  induction cs with
  | nil => simp [behindDot?] at found
  | cons c cs ih =>
    rw [behindDot?] at found
    split at found
    · simp at found
    · rcases Option.or_eq_some_iff.mp found with later | ⟨-, here⟩
      · exact (ih later).trans (List.suffix_cons c cs)
      · split at here
        · obtain rfl := Option.some.inj here
          exact List.suffix_cons c cs
        · simp at here

theorem behindDot?_eq (cs : List Char) :
    behindDot? cs =
      if '.' ∈ cs.takeWhile (· != '<') then
        some (Text.afterLast '.' (cs.takeWhile (· != '<')) ++ cs.dropWhile (· != '<'))
      else none := by
  induction cs with
  | nil => rfl
  | cons c cs ih =>
    rw [behindDot?, ih]
    by_cases opens : c = '<'
    · simp [opens]
    · have passed : (c != '<') = true := by simpa using opens
      simp only [opens, if_false, List.takeWhile_cons, List.dropWhile_cons, passed, if_true]
      -- A later dot decides, wherever it is; else this character does.
      by_cases later : '.' ∈ cs.takeWhile (· != '<')
      · simp [later, Text.afterLast_cons_of_mem later]
      · by_cases dot : c = '.'
        · subst dot
          simp [later, Text.afterLast_cons_self later]
        · simp [later, dot, Ne.symm dot]

theorem simpleKey?_eq {key : String} (plain : IsPlain key.toList) : simpleKey? key = unqualified? key := by
  have tail : key.toList.drop (key.toList.takeWhile (· != '<')).length = key.toList.dropWhile (· != '<') := by
    have whole : key.toList.takeWhile (· != '<') ++ key.toList.dropWhile (· != '<') = key.toList :=
      List.takeWhile_append_dropWhile
    calc key.toList.drop (key.toList.takeWhile (· != '<')).length
        = (key.toList.takeWhile (· != '<') ++ key.toList.dropWhile (· != '<')).drop
            (key.toList.takeWhile (· != '<')).length := by rw [whole]
      _ = key.toList.dropWhile (· != '<') := List.drop_left
  rw [unqualified?, behindDot?_eq, simpleKey?, erased_eq_base plain, toList_base, tail]
  simp only [List.contains_iff_mem]
  split <;> rfl

example : unqualified? "com.shop.Step<a.Order>" = some "Step<a.Order>" ∧ unqualified? "Step<a.Order>" = none := by
  decide +kernel

theorem isPlain_unqualified? {key simple : String} (plain : IsPlain key.toList)
    (found : unqualified? key = some simple) : IsPlain simple.toList := by
  obtain ⟨rest, cut, rfl⟩ := Option.map_eq_some_iff.mp found
  intro c member
  rw [String.toList_ofList] at member
  exact plain c ((behindDot?_suffix cut).mem member)

end TypeText
end BeanAtlas
