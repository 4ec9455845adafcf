import BeanAtlas.Proofs.ElementType

/-!
The element type of every type that can be written down. A type is a dotted name, a name applied to type
arguments, or an array. A type closes every angle bracket that it opens, and its commas stand inside its brackets,
so the scan for the comma behind the key of a map passes over the whole key, however deeply that is nested.
-/
namespace BeanAtlas

/-- The characters that no segment of a name has: blanks and what separates names. -/
def TypeName.isSeparator (c : Char) : Bool :=
  Text.isBlank c || ['.', '<', '>', ',', '[', ']'].contains c

/-- A name with its qualification: `java.util.List` has the segments `java` and `util` before the simple
name `List`. A name is not empty. -/
structure TypeName where
  qualifier : List String
  simple : String
  whole : (simple :: qualifier).all (·.toList.all (!TypeName.isSeparator ·))
  filled : qualifier ≠ [] ∨ simple ≠ ""

def TypeName.chars (name : TypeName) : List Char :=
  name.qualifier.flatMap (fun segment => segment.toList ++ ['.']) ++ name.simple.toList

/-- Blanks between the parts of a type, or none. -/
structure Blanks where
  chars : List Char
  blank : chars.all Text.isBlank

theorem Blanks.isBlank_of_mem (blanks : Blanks) {c : Char} (member : c ∈ blanks.chars) : Text.isBlank c = true :=
  List.all_eq_true.mp blanks.blank c member

mutual

/-- A type as it is written. -/
inductive TypeSyntax where
  | name (name : TypeName)
  | generic (head : TypeName) (arguments : TypeArguments)
  | array (element : TypeSyntax)

/-- One or more type arguments, each with the blanks before and after it. -/
inductive TypeArguments where
  | last (before : Blanks) (argument : TypeSyntax) (after : Blanks)
  | next (before : Blanks) (argument : TypeSyntax) (after : Blanks) (others : TypeArguments)

end

mutual

def TypeSyntax.chars : TypeSyntax → List Char
  | .name name => name.chars
  | .generic head arguments => head.chars ++ '<' :: (arguments.chars ++ ['>'])
  | .array element => element.chars ++ ['[', ']']

def TypeArguments.chars : TypeArguments → List Char
  | .last before argument after => before.chars ++ (argument.chars ++ after.chars)
  | .next before argument after others =>
    before.chars ++ (argument.chars ++ after.chars) ++ ',' :: others.chars

end

def TypeSyntax.text (type : TypeSyntax) : String := String.ofList type.chars

namespace TypeName

variable (name : TypeName)

theorem free_of_mem {segment : String} (listed : segment ∈ name.simple :: name.qualifier) {c : Char}
    (member : c ∈ segment.toList) : isSeparator c = false := by
  have free := List.all_eq_true.mp (List.all_eq_true.mp name.whole segment listed) c member
  simpa using free

theorem chars_ne_nil : name.chars ≠ [] := by
  unfold chars
  rcases name.filled with qualified | simple
  · obtain ⟨segment, others, split⟩ := List.exists_cons_of_ne_nil qualified
    simp [split]
  · simp [simple]

/-- The only separators in a name are the dots between its segments. -/
theorem eq_dot_or_free {c : Char} (member : c ∈ name.chars) : c = '.' ∨ isSeparator c = false := by
  simp only [chars, List.mem_append, List.mem_flatMap, List.mem_singleton] at member
  rcases member with ⟨segment, listed, inside | dot⟩ | inside
  · exact .inr (name.free_of_mem (List.mem_cons_of_mem _ listed) inside)
  · exact .inl dot
  · exact .inr (name.free_of_mem List.mem_cons_self inside)

theorem not_mem_chars {mark : Char} (separator : isSeparator mark = true) (other : mark ≠ '.') :
    mark ∉ name.chars := by
  intro member
  rcases name.eq_dot_or_free member with dot | free
  · exact other dot
  · simp [separator] at free

theorem isPlain_chars : Text.IsPlain name.chars := by
  intro c member
  rcases name.eq_dot_or_free member with rfl | free
  · decide
  · simpa [isSeparator] using (Bool.or_eq_false_iff.mp free).1

theorem isTrimmed_chars : Text.IsTrimmed name.chars := .of_isPlain name.isPlain_chars name.chars_ne_nil

/-- The simple name is what follows the last dot. -/
theorem afterLast_chars : Text.afterLast '.' name.chars = name.simple.toList := by
  have last : '.' ∉ name.simple.toList := by
    intro member
    exact absurd (name.free_of_mem List.mem_cons_self member) (by decide)
  unfold chars
  rcases List.eq_nil_or_concat name.qualifier with none | ⟨others, segment, split⟩
  · simpa [none] using Text.afterLast_of_not_mem last
  · have shape : name.qualifier.flatMap (fun segment => segment.toList ++ ['.']) ++ name.simple.toList =
        others.flatMap (fun segment => segment.toList ++ ['.']) ++ segment.toList ++ '.' :: name.simple.toList := by
      simp [split]
    rw [shape, Text.afterLast_append_mark _ last]

end TypeName

namespace TypeText

/-- The scan for a comma passes over characters that have no part in it. -/
theorem afterTopComma_pass {cs : List Char} (quiet : ∀ mark ∈ ['<', '>', ','], mark ∉ cs) (depth : Nat)
    (rest : List Char) : afterTopComma depth (cs ++ rest) = afterTopComma depth rest := by
  induction cs with
  | nil => rfl
  | cons c cs ih =>
    have later := ih fun mark listed member => quiet mark listed (List.mem_cons_of_mem _ member)
    have other : ∀ mark ∈ ['<', '>', ','], c ≠ mark := by
      rintro mark listed rfl
      exact quiet c listed List.mem_cons_self
    rw [List.cons_append, afterTopComma.eq_5, later]
    · exact other '<' (by simp)
    · exact other '>' (by simp)
    · exact other ',' (by simp)

theorem afterTopComma_name (name : TypeName) (depth : Nat) (rest : List Char) :
    afterTopComma depth (name.chars ++ rest) = afterTopComma depth rest := by
  apply afterTopComma_pass
  have separators : ['<', '>', ','].all fun mark => TypeName.isSeparator mark && mark != '.' := by decide
  intro mark listed
  have separator := List.all_eq_true.mp separators mark listed
  rw [Bool.and_eq_true, bne_iff_ne] at separator
  exact name.not_mem_chars separator.1 separator.2

theorem afterTopComma_blanks (blanks : Blanks) (depth : Nat) (rest : List Char) :
    afterTopComma depth (blanks.chars ++ rest) = afterTopComma depth rest := by
  apply afterTopComma_pass
  intro mark listed member
  have visible : ['<', '>', ','].all (!Text.isBlank ·) := by decide
  have solid := List.all_eq_true.mp visible mark listed
  simp [blanks.isBlank_of_mem member] at solid

mutual

/-- At any depth, the scan comes out of a type at the depth at which it went in. -/
theorem afterTopComma_type (type : TypeSyntax) (depth : Nat) (rest : List Char) :
    afterTopComma depth (type.chars ++ rest) = afterTopComma depth rest := by
  match type with
  | .name name => rw [TypeSyntax.chars, afterTopComma_name]
  | .generic head arguments =>
    rw [TypeSyntax.chars, List.append_assoc, afterTopComma_name, List.cons_append, afterTopComma, List.append_assoc,
      afterTopComma_arguments, List.singleton_append, afterTopComma, Nat.add_sub_cancel]
  | .array element =>
    rw [TypeSyntax.chars, List.append_assoc, afterTopComma_type, afterTopComma_pass (by simp)]

/-- Inside angle brackets the scan passes over the arguments with the commas between them. -/
theorem afterTopComma_arguments (arguments : TypeArguments) (depth : Nat) (rest : List Char) :
    afterTopComma (depth + 1) (arguments.chars ++ rest) = afterTopComma (depth + 1) rest := by
  match arguments with
  | .last before argument after =>
    rw [TypeArguments.chars, List.append_assoc, List.append_assoc, afterTopComma_blanks, afterTopComma_type,
      afterTopComma_blanks]
  | .next before argument after others =>
    have nested : depth + 1 ≠ 0 := by omega
    rw [TypeArguments.chars, List.append_assoc, List.append_assoc, List.append_assoc, afterTopComma_blanks,
      afterTopComma_type, afterTopComma_blanks, List.cons_append, afterTopComma, if_neg nested,
      afterTopComma_arguments]

end

theorem isTrimmed_chars : ∀ type : TypeSyntax, Text.IsTrimmed type.chars
  | .name name => name.isTrimmed_chars
  | .generic head arguments => by
    have visible : Text.isBlank '>' = false := by decide
    refine head.isTrimmed_chars.append (by simp) ?_
    rw [← List.cons_append, List.getLast?_concat]
    simp [visible]
  | .array element => by
    have visible : Text.isBlank ']' = false := by decide
    exact (isTrimmed_chars element).append (by simp) (by simp [visible])

theorem dropBlanks_text (type : TypeSyntax) : Text.dropBlanks type.text.toList = type.chars := by
  rw [TypeSyntax.text, String.toList_ofList, (isTrimmed_chars type).dropBlanks_self]

theorem nonBlank?_chars (type : TypeSyntax) : nonBlank? type.chars = some type.text := by
  have trimmed := isTrimmed_chars type
  simp [nonBlank?, trimmed.dropBlanks_self, trimmed.filled, TypeSyntax.text]

/-- The blanks around an argument are no part of it. -/
theorem nonBlank?_argument (before : Blanks) (argument : TypeSyntax) (after : Blanks) :
    nonBlank? (TypeArguments.last before argument after).chars = some argument.text := by
  have trimmed := isTrimmed_chars argument
  have cut := trimmed.dropBlanks_eq (fun _ => before.isBlank_of_mem) (fun _ => after.isBlank_of_mem)
  simp [nonBlank?, TypeArguments.chars, cut, trimmed.filled, TypeSyntax.text]

/-! ### Element types -/

theorem element?_array (element : TypeSyntax) : element? (TypeSyntax.array element).text = some element.text := by
  rw [element?_of_array (dropBlanks_text _), nonBlank?_chars]

theorem element?_name (name : TypeName) : element? (TypeSyntax.name name).text = none := by
  have noBracket : ¬ ['[', ']'] <:+ name.chars := fun closing =>
    name.not_mem_chars (by decide) (by decide) (closing.mem (List.mem_cons_self : '[' ∈ _))
  have noArguments : name.chars.dropWhile (· != '<') = [] := by
    rw [List.dropWhile_eq_nil_iff]
    exact Text.bne_of_not_mem (name.not_mem_chars (by decide) (by decide))
  have target : Text.dropBlanks (TypeSyntax.name name).text.toList = name.chars := dropBlanks_text _
  rw [element?_of_not_array (target ▸ noBracket), target, argument?, noArguments]

/-- The head of a generic type ends at its first angle bracket. -/
theorem cut_generic (head : TypeName) (inner : List Char) :
    (head.chars ++ '<' :: inner).takeWhile (· != '<') = head.chars ∧
      (head.chars ++ '<' :: inner).dropWhile (· != '<') = '<' :: inner := by
  have passed : ∀ c ∈ head.chars, (c != '<') = true :=
    Text.bne_of_not_mem (head.not_mem_chars (by decide) (by decide))
  simp [List.takeWhile_append_of_pos passed, List.dropWhile_append_of_pos passed]

/-- The simple name of the head decides which part of the arguments is the element type. -/
theorem element?_generic (head : TypeName) (arguments : TypeArguments) :
    element? (TypeSyntax.generic head arguments).text =
      if collectionNames.contains head.simple then
        if head.simple == "Map" then (afterTopComma 0 arguments.chars).bind nonBlank?
        else nonBlank? arguments.chars
      else none := by
  have target := dropBlanks_text (.generic head arguments)
  rw [TypeSyntax.chars] at target
  have noArray : ¬ ['[', ']'] <:+ head.chars ++ '<' :: (arguments.chars ++ ['>']) := by
    rintro ⟨front, split⟩
    have ends : (front ++ ['[']) ++ [']'] = (head.chars ++ '<' :: arguments.chars) ++ ['>'] := by simpa using split
    have final : [']'] = ['>'] := (List.append_inj' ends rfl).2
    simp at final
  obtain ⟨before, behind⟩ := cut_generic head (arguments.chars ++ ['>'])
  have simple : simpleHead (head.chars ++ '<' :: (arguments.chars ++ ['>'])) = head.simple.toList := by
    rw [simpleHead, before, head.isPlain_chars.dropBlanks_eq, head.afterLast_chars]
  have closed : Text.stripEnd? ['>'] (arguments.chars ++ ['>']) = some arguments.chars :=
    Text.stripEnd?_eq_some.mpr rfl
  rw [element?_of_not_array (target ▸ noArray), target, argument?, behind]
  simp only [simple, String.ofList_toList, closed]

theorem afterTopComma_next (before : Blanks) (argument : TypeSyntax) (after : Blanks) (others : TypeArguments) :
    afterTopComma 0 (TypeArguments.next before argument after others).chars = some others.chars := by
  rw [TypeArguments.chars, List.append_assoc, List.append_assoc, afterTopComma_blanks, afterTopComma_type,
    afterTopComma_blanks, afterTopComma, if_pos rfl]

/-- The element type of an array is its type without the brackets, that of a list, a set or a collection is the
argument, and that of a map the second argument, whatever the first one is and however the head is qualified. A
plain name and a type with another head have none. -/
theorem element_of_written_type :
    (∀ element : TypeSyntax, element? (TypeSyntax.array element).text = some element.text) ∧
      (∀ (head : TypeName) (before : Blanks) (element : TypeSyntax) (after : Blanks),
        head.simple ∈ ["List", "Set", "Collection"] →
          element? (TypeSyntax.generic head (.last before element after)).text = some element.text) ∧
      (∀ (head : TypeName) (before : Blanks) (key : TypeSyntax) (after before' : Blanks) (value : TypeSyntax)
          (after' : Blanks), head.simple = "Map" →
        element? (TypeSyntax.generic head (.next before key after (.last before' value after'))).text =
          some value.text) ∧
      (∀ name : TypeName, element? (TypeSyntax.name name).text = none) ∧
      ∀ (head : TypeName) (arguments : TypeArguments), head.simple ∉ ["List", "Set", "Collection", "Map"] →
        element? (TypeSyntax.generic head arguments).text = none := by
  refine ⟨element?_array, ?_, ?_, element?_name, ?_⟩
  · intro head before element after single
    have known : ∀ simple ∈ ["List", "Set", "Collection"],
        collectionNames.contains simple ∧ (simple == "Map") = false := by decide
    obtain ⟨collection, noMap⟩ := known head.simple single
    rw [element?_generic, if_pos collection, noMap, if_neg Bool.false_ne_true, nonBlank?_argument]
  · intro head before key after before' value after' map
    rw [element?_generic, map, afterTopComma_next, Option.bind_some, nonBlank?_argument]
    rfl
  · intro head arguments other
    have unknown : ¬ collectionNames.contains head.simple := by
      rwa [List.contains_iff_mem]
    rw [element?_generic, if_neg unknown]

/-- A pair of a name and an array, with a comma of its own. -/
def pairSyntax : TypeSyntax :=
  .generic ⟨[], "Pair", by decide, by decide⟩
    (.next ⟨[], rfl⟩ (.name ⟨[], "Key", by decide, by decide⟩) ⟨[], rfl⟩
      (.last ⟨[' '], rfl⟩ (.array (.name ⟨["a", "b"], "Id", by decide, by decide⟩)) ⟨[], rfl⟩))

def stepSyntax : TypeSyntax :=
  .generic ⟨[], "Step", by decide, by decide⟩ (.last ⟨[], rfl⟩ (.name ⟨[], "Order", by decide, by decide⟩) ⟨[], rfl⟩)

theorem map_of_pairs_holds_steps :
    let head : TypeName := ⟨["java", "util"], "Map", by decide, by decide⟩
    let blank : Blanks := ⟨[' '], rfl⟩
    let map := TypeSyntax.generic head (.next blank pairSyntax blank (.last blank stepSyntax blank))
    map.text = "java.util.Map< Pair<Key, a.b.Id[]> , Step<Order> >" ∧ head.simple = "Map" ∧
      element? map.text = some "Step<Order>" := by
  intro head blank map
  have value : stepSyntax.text = "Step<Order>" := by decide +kernel
  have element := (element_of_written_type).2.2.1 head blank pairSyntax blank blank stepSyntax blank rfl
  exact ⟨by decide +kernel, rfl, element.trans (congrArg some value)⟩

end TypeText
end BeanAtlas
