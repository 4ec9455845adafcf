import BeanAtlas.Java.Declarations
import BeanAtlas.Proofs.Analysis.Origin
import BeanAtlas.Proofs.Extract.Declaration
import BeanAtlas.Proofs.Text.Ends

/-!
The qualified names of array types. The brackets count as a part of the name, so an array type is looked for among the
imports and the builtin types under a name that none of them has. It ends up in the package of the class whatever its
elements are, and its name is that of its elements only where these are in that package too.
-/
namespace BeanAtlas

namespace TypeText

theorem erased_of_simple {type : String} (trimmed : Text.IsTrimmed type.toList) (plain : '<' ∉ type.toList) :
    erased type = type := by
  have uncut : type.toList.takeWhile (· != '<') = type.toList := by
    rw [List.takeWhile_eq_self_iff]
    intro c member
    have apart : c ≠ '<' := fun same => plain (same ▸ member)
    simpa using apart
  rw [erased, uncut, trimmed.dropBlanks_self, String.ofList_toList]

end TypeText

namespace JavaClass

variable {info : JavaClass} {type : String}

/-- The first import that ends in a simple name. -/
def importOf? (info : JavaClass) (simple : String) : Option String :=
  info.imports.find? fun path => ('.' :: simple.toList).isSuffixOf path.toList

/-- A simple name in the package of a class, if that has one. -/
def inPackage (info : JavaClass) (simple : String) : String :=
  match info.packageName with
  | some package => package ++ "." ++ simple
  | none => simple

/-- The qualified form of a type when there are neither imports nor builtin types. -/
def localName (info : JavaClass) (type : String) : String :=
  if '.' ∈ type.toList then type else info.inPackage type

theorem qualify_of_simple (simple : TypeText.erased type = type) :
    info.qualify type =
      if '.' ∈ type.toList then type
      else (info.importOf? type).getD (if type ∈ builtinTypes then type else info.inPackage type) := by
  have found : (info.imports.find? fun path => ('.' :: type.toList).isSuffixOf path.toList) =
    info.importOf? type := rfl
  unfold qualify inPackage
  simp only [simple, List.contains_iff_mem, found]
  cases info.importOf? type with
  | some path => rfl
  | none => cases info.packageName <;> simp

/-- A package makes a name longer. -/
theorem inPackage_eq_self_iff {simple : String} : info.inPackage simple = simple ↔ info.packageName = none := by
  unfold inPackage
  split
  · next package present =>
    refine iff_of_false (fun same => ?_) (by simp [present])
    have longer := congrArg String.length same
    simp only [String.length_append] at longer
    have dot : ".".length = 1 := rfl
    omega
  · next absent => simp [absent]

theorem array_not_builtin (type : String) : type ++ "[]" ∉ builtinTypes := by
  intro member
  have unbracketed : builtinTypes.all (fun name => !(name.toList.contains ']')) := by decide
  have free := List.all_eq_true.mp unbracketed _ member
  simp at free

theorem importOf?_array (unbracketed : ∀ path ∈ info.imports, ']' ∉ path.toList) (type : String) :
    info.importOf? (type ++ "[]") = none := by
  rw [importOf?, List.find?_eq_none]
  intro path listed ends
  refine unbracketed path listed ((List.isSuffixOf_iff_suffix.mp ends).mem ?_)
  simp

/-- Neither the imports nor the builtin types say anything about an array type. -/
theorem qualify_array (unbracketed : ∀ path ∈ info.imports, ']' ∉ path.toList)
    (trimmed : Text.IsTrimmed type.toList) (plain : '<' ∉ type.toList) :
    info.qualify (type ++ "[]") = info.localName type ++ "[]" := by
  have trimmedArray : Text.IsTrimmed (type ++ "[]").toList := by
    rw [String.toList_append]
    exact trimmed.append (by simp) (by simp [Text.isBlank])
  have plainArray : '<' ∉ (type ++ "[]").toList := by simpa using plain
  have dotted : '.' ∈ (type ++ "[]").toList ↔ '.' ∈ type.toList := by simp
  rw [qualify_of_simple (TypeText.erased_of_simple trimmedArray plainArray), importOf?_array unbracketed,
    Option.getD_none, if_neg (array_not_builtin type), localName]
  simp only [dotted]
  split
  · rfl
  · unfold inPackage
    split
    · simp only [String.append_assoc]
    · rfl

theorem qualify_eq_localName_iff (simple : TypeText.erased type = type) :
    info.qualify type = info.localName type ↔
      '.' ∈ type.toList ∨
        match info.importOf? type with
        | some path => path = info.inPackage type
        | none => type ∉ builtinTypes ∨ info.packageName = none := by
  rw [qualify_of_simple simple, localName]
  by_cases dotted : '.' ∈ type.toList
  · simp [dotted]
  · simp only [dotted, if_false, false_or]
    cases info.importOf? type with
    | some path => rfl
    | none =>
      by_cases builtin : type ∈ builtinTypes
      · simp [builtin, eq_comm (a := type), inPackage_eq_self_iff]
      · simp [builtin]

end JavaClass

theorem Method.implementation_of_bean? {owner : JavaClass} {method : Method} {bean : Bean} {type : String}
    (given : method.bean? owner = some bean) (returned : method.returnType = some type) :
    bean.implementation = owner.qualify type := by
  simp only [Method.bean?, Option.bind_eq_bind, Option.bind_eq_some_iff] at given
  obtain ⟨use, -, returnType, same, given⟩ := given
  obtain rfl := Option.some.inj (returned.symm.trans same)
  split at given
  · cases given
  · cases given
    dsimp only

/-- In every document whose identifiers are free of brackets, and for every class of it, an array type is qualified by
the package of the class, or not at all, as if there were neither imports nor builtin types. So it is qualified like
its elements exactly when these have a dot, or are imported from the package of the class, or are neither imported nor
builtin types in a package. The bean of a factory method is qualified alike. -/
theorem Document.array_types_bypass_imports {document : Document} {root : Node} {file : FilePath} {info : JavaClass}
    {type : String} (tree : document.tree = .ok root) (names : Extract.NamesUnbracketed document.source root)
    (member : info ∈ (document.extract file).classes) (trimmed : Text.IsTrimmed type.toList)
    (plain : '<' ∉ type.toList) :
    info.qualify (type ++ "[]") = info.localName type ++ "[]" ∧
      (info.qualify (type ++ "[]") = info.qualify type ++ "[]" ↔
        '.' ∈ type.toList ∨
          match info.importOf? type with
          | some path => path = info.inPackage type
          | none => type ∉ builtinTypes ∨ info.packageName = none) ∧
      ∀ method ∈ info.methods, ∀ bean, method.bean? info = some bean → method.returnType = some (type ++ "[]") →
        bean.implementation = info.localName type ++ "[]" := by
  have unbracketed : ∀ path ∈ info.imports, ']' ∉ path.toList := by
    rw [extract, tree] at member
    rw [(Extract.isRead_of_mem_unitClasses member).imports]
    exact names.imports
  have array := info.qualify_array unbracketed trimmed plain
  refine ⟨array, ?_, fun method _ bean made returned => ?_⟩
  · rw [array, String.append_left_inj, eq_comm]
    exact JavaClass.qualify_eq_localName_iff (TypeText.erased_of_simple trimmed plain)
  · rw [Method.implementation_of_bean? made returned, array]

/-- Factory methods for arrays of an imported type, of a primitive type and of a type of the package. -/
def arrayFactories : Document :=
  .ofText ("package p; import a.Foo; @Configuration class A \x7b @Bean Foo[] foos() \x7b\x7d " ++
    "@Bean int[] sizes() \x7b\x7d @Bean Bar[] bars() \x7b\x7d \x7d")

theorem local_array_named_like_element :
    ∃ info ∈ (arrayFactories.extract ⟨"A.java"⟩).classes,
      info.importOf? "Bar" = none ∧ info.qualify ("Bar" ++ "[]") = info.qualify "Bar" ++ "[]" := by
  have given : ∃ info ∈ (arrayFactories.extract ⟨"A.java"⟩).classes, info.importOf? "Bar" = none := by decide +kernel
  obtain ⟨info, member, absent⟩ := given
  have trimmed : Text.IsTrimmed "Bar".toList := .of_isPlain (by decide) (by decide)
  obtain ⟨-, like, -⟩ := Document.array_types_bypass_imports rfl (by decide +kernel) member trimmed (by decide)
  refine ⟨info, member, absent, like.mpr (.inr ?_)⟩
  rw [absent]
  exact .inl (by decide)

/-- The array of the imported type is put into the package of the class, and so is the array of numbers. -/
theorem imported_array_put_into_package :
    (arrayFactories.extract ⟨"A.java"⟩).classes.map (fun info => ["Foo", "Foo[]", "int", "int[]"].map info.qualify) =
        [["a.Foo", "p.Foo[]", "int", "p.int[]"]] ∧
      ((arrayFactories.analyze ⟨"A.java"⟩ {}).beans.map fun bean => (bean.type, bean.implementation)) =
        [("A", "p.A"), ("Foo[]", "p.Foo[]"), ("int[]", "p.int[]"), ("Bar[]", "p.Bar[]")] := by
  decide +kernel

end BeanAtlas
