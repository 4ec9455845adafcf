import BeanAtlas.Injection.Sites
import Mathlib.Data.List.Forall2

/-!
The generated constructors beside the analysis of the fields. Flags, parameters and injection sites are made on
three ways from the fields of a class; they agree on which fields take part, in which order, and on everything that
a site shows of its field.
-/
namespace BeanAtlas

/-- Only the annotations of the kind matter to the first one of it. -/
theorem AnnotationUse.first?_filter (annotations : List AnnotationUse) (kind : AnnotationKind) :
    first? (annotations.filter (·.kind = kind)) kind = first? annotations kind := by
  simp [first?, List.find?_filter]

theorem AnnotationUse.has_iff {annotations : List AnnotationUse} {kind : AnnotationKind} :
    has annotations kind ↔ ∃ use ∈ annotations, use.kind = kind := by
  simp [has, first?]

theorem AnnotationUse.kind_of_first? {annotations : List AnnotationUse} {kind : AnnotationKind} {use : AnnotationUse}
    (found : first? annotations kind = some use) : use.kind = kind := by
  simpa using List.find?_some found

/-- The text of the first qualifier among some annotations, unless it is blank. -/
def AnnotationUse.firstQualifier? (annotations : List AnnotationUse) : Option String :=
  match annotations.find? (·.kind = .qualifier) with
  | none => none
  | some use => (use.parameters.find? "value").filter fun text => text.toList.any (!Text.isBlank ·)

theorem AnnotationUse.qualifier?_eq (annotations : List AnnotationUse) :
    qualifier? annotations = firstQualifier? annotations := by
  have visible (text : String) : (!Text.isBlankText text) = text.toList.any (!Text.isBlank ·) := by
    simp [Text.isBlankText, List.not_all_eq_any_not]
  rw [qualifier?, first?, firstQualifier?]
  cases annotations.find? (·.kind = .qualifier) with
  | none => rfl
  | some use => simp only [Option.bind_some, value?, valueKey, visible]

namespace Lombok

open AnnotationUse (firstQualifier? qualifier?_eq)

/-- What a field, the parameter that stands for it and the site of that parameter have in common. -/
structure Slot where
  name : String
  type : String
  position : Option Position
  range : Option Range
  qualifier : Option String

def Slot.ofField (field : Field) : Slot where
  name := field.name
  type := field.type
  position := some field.position
  range := some field.range
  qualifier := firstQualifier? field.annotations

def Slot.ofParameter (parameter : Parameter) : Slot where
  name := parameter.name
  type := parameter.type
  position := parameter.position
  range := parameter.range
  qualifier := firstQualifier? parameter.annotations

def Slot.ofInjection (injection : Injection) : Slot where
  name := injection.targetName
  type := injection.targetType
  position := some injection.position
  range := some injection.range
  qualifier := injection.qualifier

/-- An entry of the analysis is about a field. -/
structure FieldAnalysis.Describes (entry : FieldAnalysis) (field : Field) : Prop where
  name : entry.name = field.name
  type : entry.type = field.type
  isFinal : entry.isFinal = field.isFinal
  isStatic : entry.isStatic = field.isStatic
  isNonNull : entry.isNonNull ↔ ∃ use ∈ field.annotations, use.kind = .nonNull

/-- The fields whose entries have a flag. -/
def flagged (flag : FieldAnalysis → Bool) (fields : List Field) (entries : List FieldAnalysis) : List Field :=
  ((fields.zip entries).filter (flag ·.2)).map (·.1)

/-- A constructor with one parameter for each of the fields, in their order and numbered from zero. -/
structure VirtualConstructor.Takes (ctor : VirtualConstructor) (fields : List Field) : Prop where
  slots : ctor.parameters.map Slot.ofParameter = fields.map Slot.ofField
  numbers : ctor.parameters.map (·.index) = (List.range fields.length).map fun number => some number.toUInt64

/-! ### Parameters -/

theorem flagged_analysis (flag : FieldAnalysis → Bool) (fields : List Field) :
    flagged flag fields (fields.map FieldAnalysis.of) = fields.filter fun field => flag (.of field) := by
  unfold flagged
  induction fields with
  | nil => rfl
  | cons field fields ih =>
    rw [List.map_cons, List.zip_cons_cons, List.filter_cons, List.filter_cons]
    split
    · rw [List.map_cons, ih]
    · exact ih

/-- Numbering changes nothing but the number. -/
theorem map_numbered {α : Type} {view : Parameter → α}
    (blind : ∀ parameter index, view { parameter with index := some index } = view parameter)
    (parameters : List Parameter) : (Parameter.numbered parameters).map view = parameters.map view := by
  have first : parameters = parameters.zipIdx.map (·.1) := (List.zipIdx_map_fst 0 parameters).symm
  rw [Parameter.numbered, List.map_map]
  conv_rhs => rw [first, List.map_map]
  apply List.map_congr_left
  intro numbered _
  exact blind numbered.1 _

theorem index_numbered (parameters : List Parameter) :
    (Parameter.numbered parameters).map (·.index) =
      (List.range parameters.length).map fun number => some number.toUInt64 := by
  have second : List.range parameters.length = parameters.zipIdx.map (·.2) := by
    rw [List.zipIdx_map_snd, List.range_eq_range']
  rw [Parameter.numbered, List.map_map, second, List.map_map]
  rfl

/-- A parameter keeps all qualifiers of its field, so it has the qualifier of the field. -/
theorem slot_fieldParameter (field : Field) : Slot.ofParameter (fieldParameter field) = .ofField field := by
  have kept : firstQualifier? (fieldParameter field).annotations = firstQualifier? field.annotations := by
    rw [← qualifier?_eq, ← qualifier?_eq, AnnotationUse.qualifier?, AnnotationUse.qualifier?, fieldParameter,
      AnnotationUse.first?_filter]
  rw [Slot.ofParameter, kept, fieldParameter, Slot.ofField]

theorem takes_virtualConstructor (use : AnnotationUse) (fields : List Field) :
    (virtualConstructor use fields).Takes fields where
  slots := by
    rw [virtualConstructor, map_numbered (fun _ _ => rfl), List.map_map]
    exact List.map_congr_left fun field _ => slot_fieldParameter field
  numbers := by rw [virtualConstructor, index_numbered, List.length_map]

/-- Every parameter of a generated constructor has a place, so its site is there. -/
theorem slots_parameterSites (kind : InjectionKind) (owner : JavaClass) (use : AnnotationUse) (fields : List Field)
    (position : Position) (range : Range) :
    (Injection.parameterSites kind owner (virtualConstructor use fields).parameters position range).map
      Slot.ofInjection = fields.map Slot.ofField := by
  simp only [Injection.parameterSites, qualifier?_eq, List.map_map]
  rw [virtualConstructor, map_numbered (fun _ _ => rfl), List.map_map]
  exact List.map_congr_left fun field _ => slot_fieldParameter field

/-! ### Constructors -/

variable {info : JavaClass} {kind : AnnotationKind}

/-- The class has an annotation of the kind. -/
def Carries (info : JavaClass) (kind : AnnotationKind) : Prop := ∃ use ∈ info.annotations, use.kind = kind

/-- The constructor that an annotation of a kind asks for, made of the fields that take part in it. -/
def generated? (info : JavaClass) (kind : AnnotationKind) (takesPart : Field → Bool) : Option VirtualConstructor :=
  (AnnotationUse.first? info.annotations kind).map fun use =>
    virtualConstructor use (info.fields.filter takesPart)

theorem generated?_eq_none {takesPart : Field → Bool} :
    generated? info kind takesPart = none ↔ ¬ Carries info kind := by
  rw [generated?, Option.map_eq_none_iff, Carries, ← AnnotationUse.has_iff, AnnotationUse.has, Bool.not_eq_true,
    Option.isSome_eq_false_iff, Option.isNone_iff_eq_none]

theorem generated?_eq_some {takesPart : Field → Bool} {ctor : VirtualConstructor} :
    generated? info kind takesPart = some ctor ↔ ∃ use, AnnotationUse.first? info.annotations kind = some use ∧
      virtualConstructor use (info.fields.filter takesPart) = ctor := Option.map_eq_some_iff

theorem kind_of_generated? {takesPart : Field → Bool} {ctor : VirtualConstructor}
    (found : generated? info kind takesPart = some ctor) : ctor.kind = kind := by
  obtain ⟨use, first, rfl⟩ := generated?_eq_some.mp found
  exact AnnotationUse.kind_of_first? first

theorem simulate_of_success (success : (simulate info).isSuccess = true) :
    simulate info = {
      constructors := (generated? info .requiredArgsConstructor inRequiredArgs).toList ++
        (generated? info .allArgsConstructor inAllArgs).toList
      fields := info.fields.map FieldAnalysis.of
      isSuccess := true } := by
  unfold simulate at success ⊢
  dsimp only at success ⊢
  split
  · rfl
  · next failed => simp [failed] at success

theorem filter_generated? (wanted : AnnotationKind) (takesPart : Field → Bool) :
    (generated? info kind takesPart).toList.filter (·.kind = wanted) =
      if kind = wanted then (generated? info kind takesPart).toList else [] := by
  cases found : generated? info kind takesPart with
  | none => simp
  | some ctor => simp [List.filter_cons, kind_of_generated? found]

theorem required_of_success (success : (simulate info).isSuccess = true) :
    (simulate info).constructors.filter (·.kind = .requiredArgsConstructor) =
      (generated? info .requiredArgsConstructor inRequiredArgs).toList := by
  rw [simulate_of_success success, List.filter_append, filter_generated?, filter_generated?]
  simp

theorem all_of_success (success : (simulate info).isSuccess = true) :
    (simulate info).constructors.filter (·.kind = .allArgsConstructor) =
      (generated? info .allArgsConstructor inAllArgs).toList := by
  rw [simulate_of_success success, List.filter_append, filter_generated?, filter_generated?]
  simp

/-- The all-args constructor is used where there is one, and else the required-args one. -/
theorem chosen?_of_success (success : (simulate info).isSuccess = true) :
    chosen? (simulate info) = (generated? info .allArgsConstructor inAllArgs).or
      (generated? info .requiredArgsConstructor inRequiredArgs) := by
  rw [chosen?, ← List.head?_filter, all_of_success success, simulate_of_success success]
  cases generated? info .allArgsConstructor inAllArgs <;>
    cases generated? info .requiredArgsConstructor inRequiredArgs <;> rfl

/-- The sites of a class that declares no constructor are those of the chosen one. -/
theorem slots_lombokSites {takesPart : Field → Bool} {ctor : VirtualConstructor} (undeclared : info.constructors = [])
    (found : generated? info kind takesPart = some ctor) (chosen : chosen? (simulate info) = some ctor) :
    (Injection.lombokSites info).map Slot.ofInjection = ctor.parameters.map Slot.ofParameter := by
  obtain ⟨use, -, rfl⟩ := generated?_eq_some.mp found
  rw [(takes_virtualConstructor _ _).slots]
  simp only [Injection.lombokSites, undeclared, List.isEmpty_nil, if_true, chosen]
  exact slots_parameterSites ..

theorem lombokSites_of_none (chosen : chosen? (simulate info) = none) : Injection.lombokSites info = [] := by
  simp [Injection.lombokSites, chosen]

/-- A parameter whatever its number is. -/
def unnumbered (parameter : Parameter) : Parameter := { parameter with index := none }

theorem unnumbered_virtualConstructor (use : AnnotationUse) (fields : List Field) :
    (virtualConstructor use fields).parameters.map unnumbered = fields.map fieldParameter := by
  rw [virtualConstructor, map_numbered (fun _ _ => rfl), List.map_map]
  rfl

theorem required_sublist_all {required all : VirtualConstructor}
    (requiredFound : generated? info .requiredArgsConstructor inRequiredArgs = some required)
    (allFound : generated? info .allArgsConstructor inAllArgs = some all) :
    (required.parameters.map unnumbered).Sublist (all.parameters.map unnumbered) := by
  obtain ⟨use, -, rfl⟩ := generated?_eq_some.mp requiredFound
  obtain ⟨use', -, rfl⟩ := generated?_eq_some.mp allFound
  rw [unnumbered_virtualConstructor, unnumbered_virtualConstructor]
  have narrower : ∀ field, inRequiredArgs field = true → inAllArgs field = true := by
    intro field required
    exact (Bool.and_eq_true_iff.mp required).1
  exact (List.monotone_filter_right info.fields narrower).map fieldParameter

/-- Where the annotation of a kind stands there is a constructor, and it takes the fields with the flag of the kind. -/
theorem exists_generated (success : (simulate info).isSuccess = true) (takesPart : Field → Bool)
    (flag : FieldAnalysis → Bool) (agree : ∀ field, flag (.of field) = takesPart field)
    (asked : Carries info kind) :
    ∃ ctor, generated? info kind takesPart = some ctor ∧
      ctor.Takes (flagged flag info.fields (simulate info).fields) := by
  obtain ⟨use, first⟩ := Option.isSome_iff_exists.mp (AnnotationUse.has_iff.mpr asked)
  have fields : flagged flag info.fields (simulate info).fields = info.fields.filter takesPart := by
    rw [simulate_of_success success, flagged_analysis]
    simp only [agree]
  exact ⟨_, generated?_eq_some.mpr ⟨use, first, rfl⟩, fields ▸ takes_virtualConstructor use _⟩

/-- Where the simulation succeeds there is one entry for each field, in order. The constructor of each of the two
annotations is there exactly once and takes the fields whose entries have its flag, with their names, types, places
and qualifiers. The required parameters are among all parameters, in the same order. A class without constructors of
its own has one site for each parameter of the all-args constructor, else of the required-args one, else none. -/
theorem analysis_constructors_and_sites_agree (info : JavaClass) (success : (simulate info).isSuccess = true) :
    List.Forall₂ FieldAnalysis.Describes (simulate info).fields info.fields ∧
      (∀ entry ∈ (simulate info).fields,
        (entry.inRequiredArgs ↔ ¬ entry.isStatic ∧ (entry.isFinal ∨ entry.isNonNull)) ∧
          (entry.inAllArgs ↔ ¬ entry.isStatic)) ∧
      (Carries info .requiredArgsConstructor → ∃ required,
        (simulate info).constructors.filter (·.kind = .requiredArgsConstructor) = [required] ∧
          required.Takes (flagged (·.inRequiredArgs) info.fields (simulate info).fields) ∧
          (info.constructors = [] → ¬ Carries info .allArgsConstructor →
            (Injection.lombokSites info).map Slot.ofInjection = required.parameters.map Slot.ofParameter)) ∧
      (Carries info .allArgsConstructor → ∃ all,
        (simulate info).constructors.filter (·.kind = .allArgsConstructor) = [all] ∧
          all.Takes (flagged (·.inAllArgs) info.fields (simulate info).fields) ∧
          (info.constructors = [] →
            (Injection.lombokSites info).map Slot.ofInjection = all.parameters.map Slot.ofParameter)) ∧
      (∀ required ∈ (simulate info).constructors, ∀ all ∈ (simulate info).constructors,
        required.kind = .requiredArgsConstructor → all.kind = .allArgsConstructor →
          (required.parameters.map unnumbered).Sublist (all.parameters.map unnumbered)) ∧
      (info.constructors = [] → ¬ Carries info .requiredArgsConstructor →
        ¬ Carries info .allArgsConstructor → Injection.lombokSites info = []) := by
  have entries : (simulate info).fields = info.fields.map FieldAnalysis.of :=
    congrArg Simulation.fields (simulate_of_success success)
  have chosen := chosen?_of_success success
  refine ⟨?_, ?_, ?_, ?_, ?_, ?_⟩
  · rw [entries, List.forall₂_map_left_iff, List.forall₂_same]
    exact fun field _ => ⟨rfl, rfl, rfl, rfl, AnnotationUse.has_iff⟩
  · rw [entries, List.forall_mem_map]
    intro field _
    simp [FieldAnalysis.of, inRequiredArgs, inAllArgs, Field.isRequired]
  · intro asked
    obtain ⟨required, found, takes⟩ :=
      exists_generated success inRequiredArgs (·.inRequiredArgs) (fun _ => rfl) asked
    refine ⟨required, by rw [required_of_success success, found]; rfl, takes, fun undeclared notAll => ?_⟩
    apply slots_lombokSites undeclared found
    rw [chosen, generated?_eq_none.mpr notAll, found, Option.none_or]
  · intro asked
    obtain ⟨all, found, takes⟩ := exists_generated success inAllArgs (·.inAllArgs) (fun _ => rfl) asked
    refine ⟨all, by rw [all_of_success success, found]; rfl, takes, fun undeclared => ?_⟩
    apply slots_lombokSites undeclared found
    rw [chosen, found, Option.some_or]
  · intro required memberRequired all memberAll kindRequired kindAll
    apply required_sublist_all
    · rw [← Option.mem_toList, ← required_of_success success]
      exact List.mem_filter.mpr ⟨memberRequired, by simpa using kindRequired⟩
    · rw [← Option.mem_toList, ← all_of_success success]
      exact List.mem_filter.mpr ⟨memberAll, by simpa using kindAll⟩
  · intro _ notRequired notAll
    apply lombokSites_of_none
    rw [chosen, generated?_eq_none.mpr notAll, generated?_eq_none.mpr notRequired, Option.none_or]

/-- A service with fields of all sorts: one is static, one has two qualifiers, and one has a blank qualifier. -/
def paymentService : JavaClass where
  name := "PaymentService"
  packageName := none
  qualifiedName := "PaymentService"
  file := ⟨"PaymentService.java"⟩
  position := ⟨3, 7⟩
  range := .at ⟨1, 1⟩
  annotations := [.new "RequiredArgsConstructor" .requiredArgsConstructor ⟨1, 1⟩,
    .new "AllArgsConstructor" .allArgsConstructor ⟨2, 1⟩]
  fields := [
    ⟨"LOG", "Logger", ⟨4, 9⟩, .at ⟨4, 1⟩, [], none, true, true⟩,
    ⟨"gateway", "Gateway", ⟨5, 9⟩, .at ⟨5, 1⟩, [(AnnotationUse.new "Qualifier" .qualifier ⟨5, 1⟩).withValue "fast",
      (AnnotationUse.new "Qualifier" .qualifier ⟨5, 20⟩).withValue "slow"], none, true, false⟩,
    ⟨"clock", "Clock", ⟨6, 9⟩, .at ⟨6, 1⟩, [(AnnotationUse.new "Qualifier" .qualifier ⟨6, 1⟩).withValue " "], none,
      false, false⟩,
    ⟨"audit", "AuditLog", ⟨7, 9⟩, .at ⟨7, 1⟩, [.new "NonNull" .nonNull ⟨7, 1⟩], none, false, false⟩]
  constructors := []
  methods := []
  interfaces := []
  imports := []

theorem paymentService_agrees :
    (simulate paymentService).isSuccess = true ∧
      (flagged (·.inRequiredArgs) paymentService.fields (simulate paymentService).fields).map (·.name) =
        ["gateway", "audit"] ∧
      ∃ all, (simulate paymentService).constructors.filter (·.kind = .allArgsConstructor) = [all] ∧
        all.Takes (flagged (·.inAllArgs) paymentService.fields (simulate paymentService).fields) ∧
        (Injection.lombokSites paymentService).map Slot.ofInjection = all.parameters.map Slot.ofParameter ∧
        (Injection.lombokSites paymentService).map (fun site => (site.targetName, site.qualifier)) =
          [("gateway", some "fast"), ("clock", none), ("audit", none)] := by
  have success : (simulate paymentService).isSuccess = true := by decide +kernel
  have asked : Carries paymentService .allArgsConstructor := AnnotationUse.has_iff.mp (by decide +kernel)
  obtain ⟨-, -, -, generated, -⟩ := analysis_constructors_and_sites_agree paymentService success
  obtain ⟨all, found, takes, sites⟩ := generated asked
  exact ⟨success, by decide +kernel, all, found, takes, sites rfl, by decide +kernel⟩

end Lombok
end BeanAtlas
