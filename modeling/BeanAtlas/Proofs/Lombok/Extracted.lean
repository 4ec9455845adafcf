import BeanAtlas.Command.Run
import BeanAtlas.Proofs.Analysis.Origin
import BeanAtlas.Proofs.Analysis.Switches
import BeanAtlas.Proofs.Lombok.Agreement

/-!
Lombok on classes that are read from a source. An annotation is recorded only with the kind that its name has, so no
class of any tree makes the simulation fail, and none loses its sites for that reason.
-/
namespace BeanAtlas

namespace Extract

variable {node : Node} {source : Source} {use : AnnotationUse}

theorem ofName?_of_annotationUse? (found : annotationUse? node source = some use) :
    AnnotationKind.ofName? use.name = some use.kind := by
  unfold annotationUse? at found
  split at found
  · contradiction
  · simp only [Option.bind_eq_bind, Option.bind_eq_some_iff, Option.pure_def] at found
    obtain ⟨nameNode, -, name, -, kind, named, given⟩ := found
    split at given
    all_goals
      obtain rfl := Option.some.inj given
      exact named

theorem ofName?_of_mem_annotations (member : use ∈ annotations node source) :
    AnnotationKind.ofName? use.name = some use.kind := by
  unfold annotations at member
  split at member
  · obtain ⟨child, -, found⟩ := List.mem_filterMap.mp member
    exact ofName?_of_annotationUse? found
  · simp at member

/-- All fields of a declaration have its annotations. -/
theorem annotations_of_mem_fields {field : Field} (member : field ∈ fields node source) :
    field.annotations = annotations node source := by
  unfold fields at member
  split at member
  · simp at member
  · obtain ⟨declarator, -, found⟩ := List.mem_filterMap.mp member
    simp only [Option.bind_eq_bind, Option.bind_eq_some_iff, Option.pure_def, Option.some.injEq] at found
    obtain ⟨nameNode, -, name, -, type, -, rfl⟩ := found
    rfl

theorem IsRead.ofName? {unit : Unit} {info : JavaClass} (read : IsRead unit info) :
    ∀ use ∈ Lombok.annotationsOf info, AnnotationKind.ofName? use.name = some use.kind := by
  intro use member
  obtain ⟨scope, declaration, given⟩ := read
  simp only [classInfo?, Option.bind_eq_bind, Option.bind_eq_some_iff, Option.pure_def, Option.some.injEq] at given
  obtain ⟨nameNode, -, name, -, rfl⟩ := given
  rcases List.mem_append.mp member with own | inner
  · exact ofName?_of_mem_annotations own
  · obtain ⟨field, declared, member⟩ := List.mem_flatMap.mp inner
    obtain ⟨part, -, declared⟩ := List.mem_flatMap.mp declared
    -- several fields may share one declaration and its annotations
    rw [annotations_of_mem_fields declared] at member
    exact ofName?_of_mem_annotations member

end Extract

namespace Lombok

variable {info : JavaClass}

/-- What Lombok makes of a class where it has nothing to complain about. -/
def generation (info : JavaClass) : Simulation where
  constructors := (generated? info .requiredArgsConstructor inRequiredArgs).toList ++
    (generated? info .allArgsConstructor inAllArgs).toList
  fields := info.fields.map FieldAnalysis.of
  isSuccess := true

/-- The sites of the generated constructor of a class that declares none. -/
def generatedSites (info : JavaClass) : List Injection :=
  if info.constructors.isEmpty then
    ((generated? info .allArgsConstructor inAllArgs).or (generated? info .requiredArgsConstructor inRequiredArgs)).elim
      [] fun ctor => Injection.parameterSites .lombokConstructor info ctor.parameters ctor.position ctor.range
  else []

theorem simulate_eq_generation
    (named : ∀ use ∈ annotationsOf info, AnnotationKind.ofName? use.name = some use.kind) :
    simulate info = generation info := by
  have sound : (annotationsOf info).filterMap malformed? = [] := by
    rw [List.filterMap_eq_nil_iff]
    intro use member
    simp [malformed?, named use member]
  apply simulate_of_success
  simp [simulate, sound]

theorem lombokSites_eq_generatedSites (success : (simulate info).isSuccess = true) :
    Injection.lombokSites info = generatedSites info := by
  rw [Injection.lombokSites, generatedSites, chosen?_of_success success]
  cases (generated? info .allArgsConstructor inAllArgs).or (generated? info .requiredArgsConstructor inRequiredArgs) <;>
    rfl

end Lombok

namespace Document

variable {document : Document} {file : FilePath} {info : JavaClass}

theorem ofName?_of_mem_classes (member : info ∈ (document.extract file).classes) :
    ∀ use ∈ Lombok.annotationsOf info, AnnotationKind.ofName? use.name = some use.kind := by
  obtain ⟨root, read⟩ := exists_isRead_of_mem_classes member
  exact read.ofName?

theorem simulate_of_mem_classes (member : info ∈ (document.extract file).classes) :
    Lombok.simulate info = Lombok.generation info :=
  Lombok.simulate_eq_generation (ofName?_of_mem_classes member)

/-- Among the kinds that are switched on the generated constructors are listed once at most. -/
theorem siteOrder_lombok (settings : DetectorSettings) :
    (siteOrder.filter settings.enables).filter (· = .lombokConstructor) =
      if settings.lombok then [.lombokConstructor] else [] := by
  cases on : settings.lombok <;> simp [siteOrder, DetectorSettings.enables, on]

/-- A document that cannot be read has no classes. -/
theorem classes_of_errors (failed : (document.extract file).errors ≠ []) : (document.extract file).classes = [] := by
  unfold extract at failed ⊢
  split
  · rfl
  · next root read => simp [read] at failed

theorem lombok_injections (document : Document) (file : FilePath) (settings : DetectorSettings) :
    (document.analyze file settings).injections.filter (·.kind = .lombokConstructor) =
      if settings.lombok then (document.extract file).classes.flatMap Lombok.generatedSites else [] := by
  unfold analyze
  dsimp only
  split
  · rw [← Injection.flatMap_sites_filter (· = .lombokConstructor), siteOrder_lombok]
    split
    · rw [List.flatMap_singleton]
      apply List.flatMap_congr
      intro info member
      apply Lombok.lombokSites_eq_generatedSites
      rw [simulate_of_mem_classes member]
      rfl
    · rfl
  · next failed =>
    have nothing : (document.extract file).classes = [] := classes_of_errors (by simpa using failed)
    simp [nothing]

end Document

namespace Command

variable {surroundings : Surroundings} {path : FilePath} {format : Format} {quiet : Bool} {outcome : Outcome}

/-- What is told of classes where Lombok has nothing to complain about. -/
def generationOutcome (classes : List JavaClass) (format : Format) (quiet : Bool) : Outcome :=
  match format with
  | .json =>
    let items := classes.map fun info =>
      Json.obj [("class", .str info.qualifiedName), ("simulation", (Lombok.generation info).toJson)]
    { output := printed (Json.sorted (.arr items)) }
  | _ =>
    let told := classes.flatMap fun info =>
      info.qualifiedName :: (Lombok.generation info).constructors.map (constructorLine info)
    lines quiet told []

/-- There are no lines for errors. -/
theorem simulationLines_generation (info : JavaClass) :
    simulationLines info (Lombok.generation info) =
      info.qualifiedName :: (Lombok.generation info).constructors.map (constructorLine info) := by
  simp [simulationLines, Lombok.generation]

/-- The command tells of the classes of a document that can be read and has a tree. -/
theorem lombok_eq_ok_iff : lombok surroundings path format quiet = .ok outcome ↔
    ∃ location document, surroundings.locate path "Failed to resolve file path" = .ok location ∧
      surroundings.document location ("Failed to parse " ++ (FilePath.ofNames location).spelling) = .ok document ∧
      (document.extract (.ofNames location)).errors = [] ∧
      outcome = generationOutcome (document.extract (.ofNames location)).classes format quiet := by
  unfold lombok
  cases surroundings.locate path "Failed to resolve file path" with
  | error fault => simp [bind, Except.bind]
  | ok location =>
    cases read : surroundings.document location ("Failed to parse " ++ (FilePath.ofNames location).spelling) with
    | error fault => simp [bind, Except.bind, read]
    | ok document =>
      have simulations : (document.extract (.ofNames location)).classes.map (fun info => (info, Lombok.simulate info)) =
          (document.extract (.ofNames location)).classes.map fun info => (info, Lombok.generation info) :=
        List.map_congr_left fun info member => by rw [Document.simulate_of_mem_classes member]
      cases errors : (document.extract (.ofNames location)).errors with
      | cons message rest => simp [bind, Except.bind, read, errors]
      | nil =>
        simp only [bind, Except.bind, read, errors, simulations, Except.ok.injEq, exists_and_left, exists_eq_left',
          true_and]
        cases format <;> simp [generationOutcome, simulationLines_generation, Function.comp_def, List.flatMap_map,
          pure, Except.pure, @eq_comm _ outcome]

end Command

/-- In every document, whatever its tree is, the annotations of classes and fields have the kinds of their names, and
the simulation succeeds on every class. The analysis lists the sites of every generated constructor, and the command
for Lombok tells what is generated and no errors. -/
theorem Lombok.extracted_classes_generate (document : Document) (file : FilePath) :
    (∀ info ∈ (document.extract file).classes,
      (∀ use ∈ annotationsOf info, AnnotationKind.ofName? use.name = some use.kind) ∧
        (simulate info).isSuccess = true ∧ (simulate info).errors = [] ∧ simulate info = generation info) ∧
      (∀ settings : DetectorSettings,
        (document.analyze file settings).injections.filter (·.kind = .lombokConstructor) =
          if settings.lombok then (document.extract file).classes.flatMap generatedSites else []) ∧
      ∀ (surroundings : Command.Surroundings) (path : FilePath) (format : Command.Format) (quiet : Bool)
        (outcome : Command.Outcome), Command.lombok surroundings path format quiet = .ok outcome ↔
          ∃ location document, surroundings.locate path "Failed to resolve file path" = .ok location ∧
            surroundings.document location ("Failed to parse " ++ (FilePath.ofNames location).spelling) =
              .ok document ∧
            (document.extract (.ofNames location)).errors = [] ∧
            outcome = Command.generationOutcome (document.extract (.ofNames location)).classes format quiet := by
  refine ⟨?_, document.lombok_injections file, fun _ _ _ _ _ => Command.lombok_eq_ok_iff⟩
  intro info member
  have succeeds := Document.simulate_of_mem_classes member
  refine ⟨Document.ofName?_of_mem_classes member, ?_, ?_, succeeds⟩
  · rw [succeeds]
    rfl
  · rw [succeeds]
    rfl

/-- A class with a qualified annotation, in whose field the semicolon is missing. -/
def unfinishedClass : Document :=
  .ofTree "@lombok . AllArgsConstructor class A \x7b B b \x7d" <|
    .node ⟨"program", none, 0, 44, true, false, false, true⟩
      [.node ⟨"class_declaration", none, 0, 44, true, false, false, true⟩
        [.node ⟨"modifiers", none, 0, 28, true, false, false, false⟩
          [.node ⟨"marker_annotation", none, 0, 28, true, false, false, false⟩
            [.node ⟨"scoped_identifier", some "name", 1, 28, true, false, false, false⟩ []]],
        .node ⟨"identifier", some "name", 35, 36, true, false, false, false⟩ [],
        .node ⟨"class_body", some "body", 37, 44, true, false, false, true⟩
          [.node ⟨"field_declaration", none, 39, 42, true, false, false, true⟩
            [.node ⟨"type_identifier", some "type", 39, 40, true, false, false, false⟩ [],
            .node ⟨"variable_declarator", some "declarator", 41, 42, true, false, false, false⟩
              [.node ⟨"identifier", some "name", 41, 42, true, false, false, false⟩ []],
            .node ⟨";", none, 42, 42, false, false, true, true⟩ []]]]]

theorem unfinishedClass_generates :
    ∃ info ∈ (unfinishedClass.extract ⟨"A.java"⟩).classes,
      ((Lombok.annotationsOf info).map (·.name) = ["AllArgsConstructor"] ∧
        (Lombok.generatedSites info).map (·.targetType) = ["B"]) ∧
      (Lombok.simulate info).isSuccess = true ∧ (Lombok.simulate info).errors = [] := by
  have given : ∃ info ∈ (unfinishedClass.extract ⟨"A.java"⟩).classes,
      (Lombok.annotationsOf info).map (·.name) = ["AllArgsConstructor"] ∧
        (Lombok.generatedSites info).map (·.targetType) = ["B"] := by
    decide +kernel
  obtain ⟨info, member, seen⟩ := given
  obtain ⟨simulations, -⟩ := Lombok.extracted_classes_generate unfinishedClass ⟨"A.java"⟩
  obtain ⟨-, success, errors, -⟩ := simulations info member
  exact ⟨info, member, seen, success, errors⟩

end BeanAtlas
