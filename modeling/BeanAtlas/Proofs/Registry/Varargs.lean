import BeanAtlas.Analysis.File
import BeanAtlas.Java.Declarations
import BeanAtlas.Proofs.Extract.Comments
import BeanAtlas.Proofs.Registry.Cardinality
import BeanAtlas.Proofs.Registry.Spacing

/-!
Variable-arity parameters beside parameters of an array type. The brackets of an array are read back as a mark of a
collection, the dots of a variable-arity parameter are not: without beans of its own the one is a collection of the
beans of its element type, and the other is unresolved.
-/
namespace BeanAtlas

namespace Text

variable {current rest : List Char}

theorem flatten_wordsFrom (plain : IsPlain current) (cs : List Char) :
    (wordsFrom current cs).flatten = current.reverse ++ solid cs := by
  have start : IsPlain [] := by simp [IsPlain]
  induction cs generalizing current with
  | nil => cases current <;> simp [wordsFrom, solid]
  | cons c cs ih =>
    rw [wordsFrom]
    cases blank : isBlank c with
    | true =>
      have skipped : solid (c :: cs) = solid cs := by simp [solid, blank]
      cases current <;> simp [ih start, skipped]
    | false =>
      have longer : IsPlain (c :: current) := List.forall_mem_cons.mpr ⟨blank, plain⟩
      simp [ih longer, solid_cons_of_visible blank]

theorem solid_intercalate (words : List (List Char)) : solid ([' '].intercalate words) = solid words.flatten := by
  have space : solid [' '] = [] := by decide
  induction words with
  | nil => rfl
  | cons first later ih =>
    cases later with
    | nil => simp
    | cons second later => simp only [List.intercalate_cons_cons, solid_append, space, ih, List.flatten_cons,
        List.append_nil]

theorem toList_squeeze (text : String) : (squeeze text).toList = [' '].intercalate (wordsFrom [] text.toList) := by
  simp [squeeze, String.toList_intercalate, Function.comp_def]

/-- Squeezing changes blanks only. -/
theorem solid_squeeze (text : String) : solid (squeeze text).toList = solid text.toList := by
  rw [toList_squeeze, solid_intercalate, flatten_wordsFrom (by simp [IsPlain]), List.reverse_nil, List.nil_append,
    solid_solid]

theorem wordsFrom_plain (plain : IsPlain rest) (filled : rest ≠ []) :
    wordsFrom current rest = [current.reverse ++ rest] := by
  induction rest generalizing current with
  | nil => exact absurd rfl filled
  | cons c rest ih =>
    obtain ⟨visible, plain⟩ := List.forall_mem_cons.mp plain
    rw [wordsFrom, if_neg (by simp [visible])]
    cases rest with
    | nil => simp [wordsFrom]
    | cons d rest => simp [ih plain]

/-- The last word of a text ends as the text does. -/
theorem wordsFrom_append (plain : IsPlain rest) (filled : rest ≠ []) (current cs : List Char) :
    ∃ words last, wordsFrom current (cs ++ rest) = words ++ [last ++ rest] := by
  induction cs generalizing current with
  | nil => exact ⟨[], current.reverse, wordsFrom_plain plain filled⟩
  | cons c cs ih =>
    rw [List.cons_append, wordsFrom]
    split
    · obtain ⟨words, last, split⟩ := ih []
      cases current with
      | nil => exact ⟨words, last, split⟩
      | cons first current => exact ⟨(first :: current).reverse :: words, last, by simp [split]⟩
    · exact ih (c :: current)

theorem exists_intercalate_concat (words : List (List Char)) (last rest : List Char) :
    ∃ front, [' '].intercalate (words ++ [last ++ rest]) = front ++ rest := by
  induction words with
  | nil => exact ⟨last, by simp⟩
  | cons word words ih =>
    obtain ⟨front, joined⟩ := ih
    refine ⟨word ++ [' '] ++ front, ?_⟩
    rw [List.cons_append, List.intercalate_cons_of_ne_nil (by simp), joined]
    simp

/-- A plain ending stays in place when the text before it is squeezed. -/
theorem exists_squeeze_append (text ending : String) (plain : IsPlain ending.toList) (filled : ending.toList ≠ []) :
    ∃ front, (squeeze (text ++ ending)).toList = front ++ ending.toList ∧ solid front = solid text.toList := by
  obtain ⟨words, last, split⟩ := wordsFrom_append plain filled [] text.toList
  obtain ⟨front, joined⟩ := exists_intercalate_concat words last ending.toList
  have written : (squeeze (text ++ ending)).toList = front ++ ending.toList := by
    rw [toList_squeeze, String.toList_append, split, joined]
  refine ⟨front, written, ?_⟩
  have same := solid_squeeze (text ++ ending)
  rw [written, String.toList_append, solid_append, solid_append] at same
  exact List.append_cancel_right same

end Text

namespace TypeText

open Text (solid)

variable {type element : String} {front : List Char}

/-- Brackets at the end are read as those of an array, unless there is nothing before them. -/
theorem element?_of_brackets (written : type.toList = front ++ ['[', ']']) (same : solid front = solid element.toList) :
    (element? type).map key = if Text.isBlankText element then none else some (key element) := by
  have trimmed : Text.dropBlanks type.toList = front.dropWhile Text.isBlank ++ ['[', ']'] := by
    rw [written, Text.IsPlain.dropBlanks_append (by decide) (by simp)]
  have visible : solid (front.dropWhile Text.isBlank) = solid element.toList := by
    rw [← same]
    exact Text.solid_dropWhile_blank front
  rw [element?_of_array trimmed, nonBlank?_key, visible, ← toList_key]
  simp only [Registry.isBlankText_iff, String.toList_eq_nil_iff, String.ofList_toList]

/-- Dots at the end are no mark of a collection, whatever is before them. -/
theorem element?_of_dots (type : String) : element? (type ++ "...") = none := by
  have dots : "...".toList = ['.', '.'] ++ ['.'] := by decide
  have trimmed : Text.dropBlanks (type ++ "...").toList =
      (type.toList.dropWhile Text.isBlank ++ ['.', '.']) ++ ['.'] := by
    rw [String.toList_append, Text.IsPlain.dropBlanks_append (by decide) (by decide), dots, List.append_assoc]
  have other : ¬ ['[', ']'] <:+ Text.dropBlanks (type ++ "...").toList := by
    rw [trimmed]
    rintro ⟨start, equal⟩
    have parts : (start ++ ['[']) ++ [']'] = (type.toList.dropWhile Text.isBlank ++ ['.', '.']) ++ ['.'] := by
      simpa using equal
    simpa using (List.append_inj' parts rfl).2
  rw [element?_of_not_array other, trimmed, argument?_of_unclosed (by decide)]

end TypeText

namespace Extract

variable {element : String} {node : Node} {source : Source} {parameter : Parameter}

/-- A parameter that is written `T... x`, where `T` is the text `element`. -/
structure IsVarargsOf (element : String) (node : Node) (source : Source) : Prop where
  kind : node.kind = "spread_parameter"
  type : (spreadType? node).bind (·.text? source) = some element

/-- A parameter that is written `T[] x`, maybe with blanks before the brackets, or `T x[]`, where `T` is the text
`element`. -/
inductive IsArrayOf (element : String) (node : Node) (source : Source) : Prop where
  | ofType (gap : String) (kind : node.kind = "formal_parameter") (blank : Text.isBlankText gap)
      (type : (node.childAt? "type").bind (·.text? source) = some (element ++ gap ++ "[]"))
      (dimensions : node.childAt? "dimensions" = none)
  | ofName (kind : node.kind = "formal_parameter")
      (type : (node.childAt? "type").bind (·.text? source) = some element)
      (dimensions : (node.childAt? "dimensions").bind (·.text? source) = some "[]")

theorem IsVarargsOf.recorded (written : IsVarargsOf element node source)
    (read : parameter? node source = some parameter) : parameter.type = Text.squeeze element ++ "..." := by
  obtain ⟨typeNode, found, text⟩ := Option.bind_eq_some_iff.mp written.type
  have spread : parameter? node source = spreadParameter? node source := by simp [parameter?, written.kind]
  rw [spread] at read
  simp only [spreadParameter?, Option.bind_eq_bind, Option.bind_eq_some_iff] at read
  obtain ⟨declarator, -, nameNode, -, name, -, typeNode', found', type, typeText, recorded⟩ := read
  obtain rfl : typeNode = typeNode' := Option.some.inj (found.symm.trans found')
  obtain rfl : Text.squeeze element = type := by simpa [typeText?, text] using typeText
  obtain rfl := Option.some.inj recorded
  rfl

theorem IsArrayOf.recorded (written : IsArrayOf element node source) (read : parameter? node source = some parameter) :
    ∃ front, parameter.type.toList = front ++ ['[', ']'] ∧ Text.solid front = Text.solid element.toList := by
  have formal : parameter? node source = formalParameter? node source := by
    cases written <;> simp [parameter?, *]
  rw [formal] at read
  simp only [formalParameter?, Option.bind_eq_bind, Option.bind_eq_some_iff] at read
  obtain ⟨typeNode, found, nameNode, -, name, -, base, typeText, type, whole, recorded⟩ := read
  obtain rfl := Option.some.inj recorded
  cases written with
  | ofType gap kind blank text none =>
    obtain rfl : Text.squeeze (element ++ gap ++ "[]") = base := by
      rw [found, Option.bind_some] at text
      simpa [typeText?, text] using typeText
    obtain rfl : Text.squeeze (element ++ gap ++ "[]") = type := by simpa [withDimensions?, none] using whole
    obtain ⟨front, split, same⟩ := Text.exists_squeeze_append (element ++ gap) "[]" (by decide) (by decide)
    have skipped : Text.solid gap.toList = [] := by
      simpa [Text.solid, List.filter_eq_nil_iff, Text.isBlankText] using blank
    exact ⟨front, split, by rw [same, String.toList_append, Text.solid_append, skipped, List.append_nil]⟩
  | ofName kind text dimensions =>
    obtain ⟨brackets, found', text'⟩ := Option.bind_eq_some_iff.mp dimensions
    obtain rfl : Text.squeeze element = base := by
      rw [found, Option.bind_some] at text
      simpa [typeText?, text] using typeText
    obtain rfl : Text.squeeze element ++ "[]" = type := by simpa [withDimensions?, found', text'] using whole
    exact ⟨(Text.squeeze element).toList, by simp, Text.solid_squeeze element⟩

end Extract

namespace Registry

variable {registry : Registry} {type element : String} {front : List Char}

theorem resolve_of_dots (none : registry.findByType (type ++ "...") = []) (name : Option String) :
    registry.resolve (type ++ "...") name = {} := by
  rw [resolve_eq, candidates_of_none none, TypeText.element?_of_dots]
  split <;> rfl

/-- Without beans of its own an array has those of its element type. -/
theorem resolve_of_brackets (written : type.toList = front ++ ['[', ']'])
    (same : Text.solid front = Text.solid element.toList) (none : registry.findByType type = [])
    (name : Option String) :
    registry.resolve type name =
      { candidates := registry.findByType element, collection := !Text.isBlankText element } := by
  have visible : ¬ Text.isBlankText type := by
    have bracket : Text.isBlank ']' = false := by decide
    simp [Text.isBlankText, written, bracket]
  have elements := TypeText.element?_of_brackets written same
  rw [resolve_eq, if_neg visible, candidates_of_none none]
  cases blank : Text.isBlankText element with
  | true =>
    have nothing : registry.findByType element = [] := by
      simp [findByType, (isBlankText_iff element).mp blank]
    have absent : TypeText.element? type = Option.none := by simpa [blank] using elements
    simp [absent, nothing, chosen?]
  | false =>
    have given : (TypeText.element? type).map TypeText.key = (some element).map TypeText.key := by
      simpa [blank] using elements
    have flag := congrArg Option.isSome given
    rw [Option.isSome_map, Option.isSome_map] at flag
    simp [registry.map_findByType_congr given, flag, chosen?]

/-- For a variable-arity parameter and a parameter of the array type of the same elements, neither with beans of its
own: the first is unresolved without candidates, the second has the beans of the element type as a collection.
So the candidates and the status are the same exactly when the element type has no beans, and the collection flag
exactly when nothing is written for the element type. -/
theorem varargs_resolve_unlike_arrays (registry : Registry) (name : Option String) {element : String}
    {spread array : Node} {source source' : Source} {varargs arrayed : Parameter}
    (spreadWritten : Extract.IsVarargsOf element spread source)
    (arrayWritten : Extract.IsArrayOf element array source')
    (spreadRead : Extract.parameter? spread source = some varargs)
    (arrayRead : Extract.parameter? array source' = some arrayed)
    (none : registry.findByType varargs.type = []) (none' : registry.findByType arrayed.type = []) :
    let asVarargs := registry.resolve varargs.type name
    let asArray := registry.resolve arrayed.type name
    asVarargs = {} ∧
      asArray = { candidates := registry.findByType element, collection := !Text.isBlankText element } ∧
      (asVarargs.candidates = asArray.candidates ↔ registry.findByType element = []) ∧
      (asVarargs.status = asArray.status ↔ registry.findByType element = []) ∧
      (asVarargs.collection = asArray.collection ↔ Text.isBlankText element) := by
  intro asVarargs asArray
  have dotted := spreadWritten.recorded spreadRead
  obtain ⟨front, bracketed, same⟩ := arrayWritten.recorded arrayRead
  have left : asVarargs = {} := by
    rw [dotted] at none
    simp only [asVarargs, dotted]
    exact resolve_of_dots none name
  have right : asArray = { candidates := registry.findByType element, collection := !Text.isBlankText element } :=
    resolve_of_brackets bracketed same none' name
  refine ⟨left, right, ?_, ?_, ?_⟩
  · rw [left, right]
    exact eq_comm
  · have unresolved : asVarargs.status = .unresolved := by
      rw [left]
      rfl
    have shape : asArray.Shape (nameHint? name) := registry.resolve_shape arrayed.type name
    rw [unresolved, eq_comm, shape.unresolved_iff, right]
  · rw [left, right]
    simp

/-- A collection of senders is asked for with dots in one place, and behind the name with brackets in another. -/
theorem sender_varargs_resolve_unlike_array :
    let registry := (∅ : Registry).addAll [Bean.sender "smtp" "SmtpSender"]
    let spread : Node := .node ⟨"spread_parameter", none, 0, 11, true, false, false, false⟩
      [.node ⟨"type_identifier", none, 0, 6, true, false, false, false⟩ [],
        .node ⟨"...", none, 6, 9, false, false, false, false⟩ [],
        .node ⟨"variable_declarator", none, 10, 11, true, false, false, false⟩
          [.node ⟨"identifier", some "name", 10, 11, true, false, false, false⟩ []]]
    let array : Node := .node ⟨"formal_parameter", none, 0, 10, true, false, false, false⟩
      [.node ⟨"type_identifier", some "type", 0, 6, true, false, false, false⟩ [],
        .node ⟨"identifier", some "name", 7, 8, true, false, false, false⟩ [],
        .node ⟨"dimensions", some "dimensions", 8, 10, true, false, false, false⟩ []]
    ∃ varargs arrayed, Extract.parameter? spread (.of "Sender... x") = some varargs ∧
      Extract.parameter? array (.of "Sender x[]") = some arrayed ∧
      registry.findByType varargs.type = [] ∧ registry.findByType arrayed.type = [] ∧
      (registry.resolve varargs.type none).status ≠ (registry.resolve arrayed.type none).status := by
  intro registry spread array
  have read : (Extract.parameter? spread (.of "Sender... x")).map (·.type) = some "Sender..." := by decide +kernel
  have read' : (Extract.parameter? array (.of "Sender x[]")).map (·.type) = some "Sender[]" := by decide +kernel
  obtain ⟨varargs, spreadRead, dotted⟩ := Option.map_eq_some_iff.mp read
  obtain ⟨arrayed, arrayRead, bracketed⟩ := Option.map_eq_some_iff.mp read'
  have nothing : registry.findByType varargs.type = [] := by
    rw [dotted]
    decide +kernel
  have nothing' : registry.findByType arrayed.type = [] := by
    rw [bracketed]
    decide +kernel
  have spreadWritten : Extract.IsVarargsOf "Sender" spread (.of "Sender... x") := ⟨rfl, by decide +kernel⟩
  have arrayWritten : Extract.IsArrayOf "Sender" array (.of "Sender x[]") :=
    .ofName rfl (by decide +kernel) (by decide +kernel)
  obtain ⟨-, -, -, status, -⟩ :=
    varargs_resolve_unlike_arrays registry none spreadWritten arrayWritten spreadRead arrayRead nothing nothing'
  have found : registry.findByType "Sender" ≠ [] := by decide +kernel
  exact ⟨varargs, arrayed, spreadRead, arrayRead, nothing, nothing', fun same => found (status.mp same)⟩

/-- Two classes that take all senders, and a sender. -/
def senderTakers : String :=
  "@Service class Smtp implements Sender \x7b\x7d class A \x7b A(Sender... all) \x7b\x7d \x7d " ++
    "class B \x7b B(Sender[] all) \x7b\x7d \x7d"

/-- Of two constructors that take all senders only the one with the array gets them. -/
theorem varargs_hide_collection :
    let analysis := (Document.ofText senderTakers).analyze ⟨"Mail.java"⟩ {}
    let registry := (∅ : Registry).addAll analysis.beans
    let types := analysis.injections.map (·.targetType)
    types = ["Sender...", "Sender[]"] ∧ (∀ type ∈ types, registry.findByType type = []) ∧
      ¬ ((registry.resolve "Sender..." none).candidates = (registry.resolve "Sender[]" none).candidates ∧
        (registry.resolve "Sender..." none).collection = (registry.resolve "Sender[]" none).collection ∧
        (registry.resolve "Sender..." none).status = (registry.resolve "Sender[]" none).status) := by
  decide +kernel

end Registry
end BeanAtlas
