import BeanAtlas.Json.Results
import BeanAtlas.Proofs.Json.Text
import BeanAtlas.Proofs.SortedMap

/-!
Reading what was written. Each kind of member has one rule by which the reader restores what the writer
left out; the records follow from the rules and from the records inside them.
-/
namespace BeanAtlas

namespace SortedMap

variable {κ β : Type} [Ord κ] [Std.TransOrd κ]

theorem find?_foldl_insert {entries : List (κ × β)} (sorted : Increasing entries)
    (map : SortedMap κ β) (key : κ) :
    (entries.foldl (fun map pair => map.insert pair.1 pair.2) map).find? key =
      (Entries.find? key entries).or (map.find? key) := by
  induction entries generalizing map with
  | nil => rfl
  | cons first rest ih =>
    obtain ⟨smaller, sortedRest⟩ := List.pairwise_cons.mp sorted
    rw [List.foldl_cons, ih sortedRest, find?_insert, Entries.find?]
    cases order : compare key first.1 with
    | lt =>
      have absent : Entries.find? key rest = none :=
        Entries.find?_eq_none_of_lt fun pair member =>
          Std.TransCmp.lt_trans order (smaller pair member)
      simp [absent]
    | eq =>
      have absent : Entries.find? key rest = none :=
        Entries.find?_eq_none_of_lt fun pair member =>
          Std.TransCmp.lt_of_eq_of_lt order (smaller pair member)
      simp [absent]
    | gt => simp

/-- Inserting the pairs of a map one after the other rebuilds it. -/
theorem foldl_insert_entries [Std.LawfulEqOrd κ] (map : SortedMap κ β) :
    map.entries.foldl (fun map pair => map.insert pair.1 pair.2) ∅ = map := by
  refine ext_find fun key => ?_
  rw [find?_foldl_insert map.increasing, find?_empty, Option.or_none]
  rfl

end SortedMap

namespace Json

variable {α : Type} {write : α → Json} {read : Json → Option α}

/-- The reader gives back what the writer wrote. It refuses `null`, which therefore is never written and
can stand for an absent member. -/
structure Restores (write : α → Json) (read : Json → Option α) : Prop where
  back : ∀ value, read (write value) = some value
  null : read .null = none

/-! ### Members of an object -/

@[simp]
theorem lookup_nil (key : String) : lookup key [] = none := rfl

@[simp]
theorem lookup_cons (key other : String) (value : Json) (rest : List (String × Json)) :
    lookup key ((other, value) :: rest) = if other = key then some value else lookup key rest := by
  by_cases same : other = key <;> simp [lookup, same]

@[simp]
theorem lookup_append (key : String) (members rest : List (String × Json)) :
    lookup key (members ++ rest) = (lookup key members).or (lookup key rest) := by
  simp [lookup, Option.map_or]

@[simp]
theorem lookup_optional (key other : String) (value : Option Json) :
    lookup key (optional other value) = if other = key then value else none := by
  cases value <;> simp [optional]

/-- An array that is left out when it is empty. -/
def filled (items : List Json) : Option Json := if items.isEmpty then none else some (.arr items)

@[simp]
theorem lookup_nonEmpty (key other : String) (items : List Json) :
    lookup key (nonEmpty other items) = if other = key then filled items else none := by
  cases items <;> simp [nonEmpty, filled]

/-- Reads a member that may be absent or `null`. -/
def orNull (read : Json → Option α) : Option Json → Option (Option α)
  | none | some .null => some none
  | some value => (read value).map some

/-- Reads a member that has a default. -/
def orDefault (default : α) (read : Json → Option α) : Option Json → Option α
  | none => some default
  | some value => read value

@[simp]
theorem required_eq (members : List (String × Json)) (key : String) (read : Json → Option α) :
    required members key read = (lookup key members).bind read := rfl

@[simp]
theorem nullable_eq (members : List (String × Json)) (key : String) (read : Json → Option α) :
    nullable members key read = orNull read (lookup key members) := rfl

@[simp]
theorem defaulted_eq (members : List (String × Json)) (key : String) (default : α)
    (read : Json → Option α) :
    defaulted members key default read = orDefault default read (lookup key members) := rfl

theorem orNull_map (restores : Restores write read) (value : Option α) :
    orNull read (value.map write) = some value := by
  cases value with
  | none => rfl
  | some value =>
    have back := (restores).back value
    cases written : write value with
    | null => simp [written, restores.null] at back
    | bool _ | num _ _ | str _ | arr _ | obj _ =>
      rw [written] at back
      simp [orNull, written, back]

theorem Restores.list (restores : Restores write read) :
    Restores (fun items : List α => .arr (items.map write)) (listOf? read) where
  back items := by
    simp only [listOf?]
    induction items with
    | nil => rfl
    | cons first rest ih => simp [(restores).back, ih]
  null := rfl

theorem orDefault_filled (restores : Restores write read) (items : List α) :
    orDefault [] (listOf? read) (filled (items.map write)) = some items := by
  cases items with
  | nil => rfl
  | cons first rest => exact (restores).list.back (first :: rest)

/-! ### Values -/

@[simp]
theorem text?_str (text : String) : text? (.str text) = some text := rfl

@[simp]
theorem bool?_bool (value : Bool) : bool? (.bool value) = some value := rfl

@[simp]
theorem members?_obj (members : List (String × Json)) : members? (.obj members) = some members := rfl

theorem text_restores : Restores .str text? := ⟨fun _ => rfl, rfl⟩

theorem natBelow?_nat {n bound : Nat} (small : n < bound) : natBelow? bound (.nat n) = some n :=
  if_pos small

theorem uint32_restores : Restores (fun n : UInt32 => .nat n.toNat) uint32? where
  back n := by simp [uint32?, natBelow?_nat n.toNat_lt_size]
  null := rfl

theorem uint64_restores : Restores (fun n : UInt64 => .nat n.toNat) uint64? where
  back n := by simp [uint64?, natBelow?_nat n.toNat_lt_size]
  null := rfl

theorem strings_restores : Restores strings (listOf? text?) := text_restores.list

/-- A value is known by its text if no two values share one. -/
theorem oneOf_restores {values : List α} {wire : α → String} (complete : ∀ value, value ∈ values)
    (injective : ∀ value other, wire value = wire other → value = other) :
    Restores (fun value => .str (wire value)) (oneOf? values wire) where
  back value := by
    change values.find? (wire · == wire value) = some value
    cases found : values.find? (wire · == wire value) with
    | none => simpa using List.find?_eq_none.mp found value (complete value)
    | some other =>
      have same : wire other = wire value := by simpa using List.find?_some found
      rw [injective other value same]
  null := rfl

end Json

open Json (Restores)

theorem AnnotationKind.restores : Restores AnnotationKind.toJson AnnotationKind.ofJson? :=
  Json.oneOf_restores (by intro kind; cases kind <;> decide)
    (by intro kind other; cases kind <;> cases other <;> decide)

theorem Visibility.restores : Restores Visibility.toJson Visibility.ofJson? :=
  Json.oneOf_restores (by intro visibility; cases visibility <;> decide)
    (by intro visibility other; cases visibility <;> cases other <;> decide)

theorem InjectionKind.restores : Restores InjectionKind.toJson InjectionKind.ofJson? :=
  Json.oneOf_restores (by intro kind; cases kind <;> decide)
    (by intro kind other; cases kind <;> cases other <;> decide)

theorem BeanOrigin.restores : Restores BeanOrigin.toJson BeanOrigin.ofJson? :=
  Json.oneOf_restores (by intro origin; cases origin <;> decide)
    (by intro origin other; cases origin <;> cases other <;> decide)

theorem FilePath.restores : Restores FilePath.toJson FilePath.ofJson? := ⟨fun _ => rfl, rfl⟩

theorem Position.restores : Restores Position.toJson Position.ofJson? where
  back position := by simp [toJson, ofJson?, (Json.uint32_restores).back]
  null := rfl

theorem Range.restores : Restores Range.toJson Range.ofJson? where
  back range := by simp [toJson, ofJson?, (Position.restores).back]
  null := rfl

namespace AnnotationUse

theorem foldlM_insert_texts (entries : List (String × String)) (map : SortedMap String String) :
    (entries.map fun pair => (pair.1, Json.str pair.2)).foldlM
      (fun map member => member.2.text?.map (map.insert member.1)) map =
    some (entries.foldl (fun map pair => map.insert pair.1 pair.2) map) := by
  induction entries generalizing map with
  | nil => rfl
  | cons first rest ih => exact ih (map.insert first.1 first.2)

theorem parametersOfJson?_entries (parameters : SortedMap String String) :
    parametersOfJson? (.obj (parameters.entries.map fun pair => (pair.1, .str pair.2))) =
      some parameters := by
  have inserted := foldlM_insert_texts parameters.entries ∅
  rw [SortedMap.foldl_insert_entries] at inserted
  exact inserted

theorem restores : Restores toJson ofJson? where
  back use := by
    obtain ⟨name, kind, line, column, ⟨entries, increasing⟩⟩ := use
    cases entries with
    | nil =>
      have blank : (∅ : SortedMap String String) = ⟨[], increasing⟩ := rfl
      simp [toJson, ofJson?, (AnnotationKind.restores).back, (Json.uint32_restores).back, Json.orDefault,
        blank]
    | cons first rest =>
      have written := parametersOfJson?_entries ⟨first :: rest, increasing⟩
      rw [List.map_cons] at written
      simp [toJson, ofJson?, (AnnotationKind.restores).back, (Json.uint32_restores).back, Json.orDefault,
        written]
  null := rfl

end AnnotationUse

theorem Field.restores : Restores Field.toJson Field.ofJson? where
  back field := by
    simp [toJson, ofJson?, (Position.restores).back, (Range.restores).back,
      (AnnotationUse.restores).list.back, Json.orNull_map Visibility.restores]
  null := rfl

theorem Parameter.restores : Restores Parameter.toJson Parameter.ofJson? where
  back parameter := by
    simp [toJson, ofJson?, Json.orNull_map Position.restores, Json.orNull_map Range.restores,
      Json.orNull_map Json.uint64_restores, Json.orDefault_filled AnnotationUse.restores]
  null := rfl

theorem Constructor.restores : Restores Constructor.toJson Constructor.ofJson? where
  back ctor := by
    simp [toJson, ofJson?, (Parameter.restores).list.back, (Position.restores).back, (Range.restores).back,
      Json.orNull_map Visibility.restores]
  null := rfl

theorem Method.restores : Restores Method.toJson Method.ofJson? where
  back method := by
    simp [toJson, ofJson?, (Parameter.restores).list.back, (Position.restores).back, (Range.restores).back,
      (AnnotationUse.restores).list.back, Json.orNull_map Visibility.restores,
      Json.orNull_map Json.text_restores]
  null := rfl

theorem JavaClass.restores : Restores JavaClass.toJson JavaClass.ofJson? where
  back info := by
    simp [toJson, ofJson?, Json.orNull_map Json.text_restores, (FilePath.restores).back,
      (Position.restores).back, (Range.restores).back, (AnnotationUse.restores).list.back,
      (Field.restores).list.back, Json.orDefault, (Constructor.restores).list.back,
      (Method.restores).list.back, (Json.strings_restores).back]
  null := rfl

theorem Bean.restores : Restores Bean.toJson Bean.ofJson? where
  back bean := by
    simp [toJson, ofJson?, (FilePath.restores).back, (Position.restores).back, (BeanOrigin.restores).back,
      (AnnotationKind.restores).back, Json.orDefault_filled Json.text_restores]
  null := rfl

theorem Injection.restores : Restores Injection.toJson Injection.ofJson? where
  back injection := by
    simp [toJson, members, ofJson?, (InjectionKind.restores).back, (Position.restores).back,
      (Range.restores).back, (FilePath.restores).back, Json.orNull_map Json.text_restores,
      Json.orNull_map Bean.restores, Json.orNull_map (Bean.restores).list]
  null := rfl

theorem SyntaxWarning.restores : Restores SyntaxWarning.toJson SyntaxWarning.ofJson? where
  back warning := by simp [toJson, ofJson?, (Position.restores).back]
  null := rfl

theorem Resolution.restores : Restores Resolution.toJson Resolution.ofJson? where
  back resolution := by
    obtain ⟨resolved, candidates, collection⟩ := resolution
    cases collection <;>
      simp [toJson, ofJson?, Json.orNull_map Bean.restores, (Bean.restores).list.back, Json.orDefault]
  null := rfl

theorem FileAnalysis.restores : Restores FileAnalysis.toJson FileAnalysis.ofJson? where
  back analysis := by
    simp [toJson, ofJson?, (JavaClass.restores).list.back, (Bean.restores).list.back,
      (Injection.restores).list.back, (Json.strings_restores).back,
      Json.orDefault_filled SyntaxWarning.restores]
  null := rfl

namespace Lombok

theorem VirtualConstructor.restores : Restores VirtualConstructor.toJson VirtualConstructor.ofJson? where
  back ctor := by
    simp [toJson, ofJson?, (Parameter.restores).list.back, (Range.restores).back,
      (AnnotationKind.restores).back, (Visibility.restores).back, (Position.restores).back]
  null := rfl

theorem FieldAnalysis.restores : Restores FieldAnalysis.toJson FieldAnalysis.ofJson? where
  back field := by simp [toJson, ofJson?]
  null := rfl

theorem Simulation.restores : Restores Simulation.toJson Simulation.ofJson? where
  back simulation := by
    simp [toJson, ofJson?, (VirtualConstructor.restores).list.back, (FieldAnalysis.restores).list.back,
      (Json.strings_restores).back]
  null := rfl

end Lombok

/-- The same injection before and after a resolution that found no candidate. -/
theorem Injection.unresolved_ne_candidateless (injection : Injection) :
    ({ injection with candidates := none } : Injection) ≠ { injection with candidates := some [] } := by
  intro same
  simpa using congrArg Injection.candidates same

/-- Every record is read back from what is written for it. The text, compact or wide, determines the value,
and reading the value of a record gives that record: what is left out is restored, and an injection that was
never resolved is told apart from one that was resolved and has no candidate. -/
theorem records_read_back :
    Function.Injective Json.compact ∧ Function.Injective Json.wide ∧
    (∀ use : AnnotationUse, AnnotationUse.ofJson? use.toJson = some use) ∧
    (∀ field : Field, Field.ofJson? field.toJson = some field) ∧
    (∀ parameter : Parameter, Parameter.ofJson? parameter.toJson = some parameter) ∧
    (∀ ctor : Constructor, Constructor.ofJson? ctor.toJson = some ctor) ∧
    (∀ method : Method, Method.ofJson? method.toJson = some method) ∧
    (∀ info : JavaClass, JavaClass.ofJson? info.toJson = some info) ∧
    (∀ ctor : Lombok.VirtualConstructor, Lombok.VirtualConstructor.ofJson? ctor.toJson = some ctor) ∧
    (∀ injection : Injection, Injection.ofJson? injection.toJson = some injection) ∧
    (∀ bean : Bean, Bean.ofJson? bean.toJson = some bean) ∧
    (∀ resolution : Resolution, Resolution.ofJson? resolution.toJson = some resolution) ∧
    (∀ simulation : Lombok.Simulation, Lombok.Simulation.ofJson? simulation.toJson = some simulation) ∧
    (∀ analysis : FileAnalysis, FileAnalysis.ofJson? analysis.toJson = some analysis) ∧
    ∀ injection : Injection,
      let unresolved : Injection := { injection with candidates := none }
      let candidateless : Injection := { injection with candidates := some [] }
      unresolved.toJson.compact ≠ candidateless.toJson.compact ∧
        unresolved.toJson.wide ≠ candidateless.toJson.wide ∧
        Injection.ofJson? unresolved.toJson ≠ Injection.ofJson? candidateless.toJson := by
  refine ⟨Json.compact_injective, Json.wide_injective, (AnnotationUse.restores).back,
    (Field.restores).back, (Parameter.restores).back, (Constructor.restores).back,
    (Method.restores).back, (JavaClass.restores).back, (Lombok.VirtualConstructor.restores).back,
    (Injection.restores).back, (Bean.restores).back, (Resolution.restores).back,
    (Lombok.Simulation.restores).back, (FileAnalysis.restores).back, ?_⟩
  intro injection unresolved candidateless
  have apart : Injection.ofJson? unresolved.toJson ≠ Injection.ofJson? candidateless.toJson := by
    rw [(Injection.restores).back, (Injection.restores).back]
    intro same
    exact injection.unresolved_ne_candidateless (Option.some.inj same)
  have written : unresolved.toJson ≠ candidateless.toJson :=
    fun same => apart (congrArg Injection.ofJson? same)
  exact ⟨mt (@Json.compact_injective _ _) written, mt (@Json.wide_injective _ _) written, apart⟩

end BeanAtlas
