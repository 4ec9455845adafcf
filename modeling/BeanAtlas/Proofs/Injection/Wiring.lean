import BeanAtlas.Proofs.Analysis.Switches
import BeanAtlas.Proofs.Lombok.Agreement

/-!
Constructors that are used for injection. A class has at most one, written in the source or generated, and what the
two detectors for constructors list of the class are the parameters of this one. Which constructor it is, is said
by a rule of its own.
-/
namespace BeanAtlas

/-- At most one constructor of each of the two kinds is generated. -/
theorem Lombok.exists_constructors_eq (info : JavaClass) :
    ∃ required all : Option VirtualConstructor, (simulate info).constructors = required.toList ++ all.toList ∧
      (∀ ctor ∈ required, ctor.kind = .requiredArgsConstructor) ∧ ∀ ctor ∈ all, ctor.kind = .allArgsConstructor := by
  cases success : (simulate info).isSuccess with
  | true =>
    exact ⟨_, _, congrArg Simulation.constructors (simulate_of_success success),
      fun _ found => kind_of_generated? found, fun _ found => kind_of_generated? found⟩
  | false =>
    refine ⟨none, none, ?_, by simp, by simp⟩
    unfold simulate at success ⊢
    dsimp only at success ⊢
    split
    · next passed => simp [passed] at success
    · rfl

namespace Injection

/-- A constructor of a class once it is compiled. -/
inductive Wired where
  | declared (ctor : Constructor)
  | generated (ctor : Lombok.VirtualConstructor)

namespace Wired

def parameters : Wired → List Parameter
  | declared ctor => ctor.parameters
  | generated ctor => ctor.parameters

def position : Wired → Position
  | declared ctor => ctor.position
  | generated ctor => ctor.position

def range : Wired → Range
  | declared ctor => ctor.range
  | generated ctor => ctor.range

def kind : Wired → InjectionKind
  | declared _ => .constructor
  | generated _ => .lombokConstructor

/-- A site of a class asks for what a parameter of the constructor takes. -/
structure Asks (wired : Wired) (info : JavaClass) (injection : Injection) (parameter : Parameter) : Prop where
  kind : injection.kind = wired.kind
  type : injection.targetType = parameter.type
  name : injection.targetName = parameter.name
  qualifier : injection.qualifier = AnnotationUse.firstQualifier? parameter.annotations
  position : injection.position = parameter.position.getD wired.position
  range : injection.range = parameter.range.getD wired.range
  ownerClass : injection.ownerClass = info.qualifiedName
  file : injection.file = info.file

end Wired

/-- The rule by which a class gets its dependencies: through its only constructor, through the first of several
that is marked, and without any of its own through a generated one, which is the one for all fields if that exists. -/
inductive Wires (info : JavaClass) : Option Wired → Prop where
  | sole {ctor : Constructor} : info.constructors = [ctor] → Wires info (some (.declared ctor))
  | marked {before after : List Constructor} {ctor : Constructor} : 2 ≤ info.constructors.length →
      info.constructors = before ++ ctor :: after → ctor.isAutowired → (∀ earlier ∈ before, ¬ earlier.isAutowired) →
      Wires info (some (.declared ctor))
  | unmarked : 2 ≤ info.constructors.length → (∀ ctor ∈ info.constructors, ¬ ctor.isAutowired) → Wires info none
  | generated {ctor : Lombok.VirtualConstructor} : info.constructors = [] →
      ctor ∈ (Lombok.simulate info).constructors →
      (∀ other ∈ (Lombok.simulate info).constructors, other.kind = .allArgsConstructor → other = ctor) →
      Wires info (some (.generated ctor))
  | bare : info.constructors = [] → (Lombok.simulate info).constructors = [] → Wires info none

/-- The sites are those of the parameters of a constructor, one for each and in their order. -/
def Serves (info : JavaClass) : Option Wired → List Injection → Prop
  | none, injections => injections = []
  | some wired, injections => List.Forall₂ (wired.Asks info) injections wired.parameters

variable {info : JavaClass} {choice : Option Wired}

theorem asks_parameterSites (info : JavaClass) (wired : Wired) :
    List.Forall₂ (wired.Asks info)
      (parameterSites wired.kind info wired.parameters wired.position wired.range) wired.parameters := by
  rw [parameterSites, List.forall₂_map_left_iff, List.forall₂_same]
  exact fun parameter _ => ⟨rfl, rfl, rfl, AnnotationUse.qualifier?_eq _, rfl, rfl, rfl, rfl⟩

/-! ### The constructor that the detectors take -/

def wired? (info : JavaClass) : Option Wired :=
  if info.constructors.isEmpty then (Lombok.chosen? (Lombok.simulate info)).map .generated
  else (constructor? info).map .declared

theorem wired?_of_undeclared (undeclared : info.constructors = []) :
    wired? info = (Lombok.chosen? (Lombok.simulate info)).map .generated := by
  simp [wired?, undeclared]

theorem wired?_of_declared (declared : info.constructors ≠ []) : wired? info = (constructor? info).map .declared := by
  simp [wired?, declared]

theorem wired?_of_several (several : 2 ≤ info.constructors.length) :
    wired? info = (info.constructors.find? (·.isAutowired)).map .declared := by
  unfold wired? constructor?
  match info.constructors, several with
  | first :: second :: rest, _ => rfl

/-- No constructor is chosen only where none is generated. -/
theorem chosen?_eq_none_iff :
    Lombok.chosen? (Lombok.simulate info) = none ↔ (Lombok.simulate info).constructors = [] := by
  rw [Lombok.chosen?, Option.orElse_eq_orElse, Option.orElse_eq_or, Option.or_eq_none_iff, List.head?_eq_none_iff]
  constructor
  · exact And.right
  · intro nothing
    exact ⟨by rw [nothing]; rfl, nothing⟩

/-- The chosen constructor is one of those generated, and no other one is for all fields. -/
theorem chosen?_eq_some_iff {ctor : Lombok.VirtualConstructor} :
    Lombok.chosen? (Lombok.simulate info) = some ctor ↔ ctor ∈ (Lombok.simulate info).constructors ∧
      ∀ other ∈ (Lombok.simulate info).constructors, other.kind = .allArgsConstructor → other = ctor := by
  obtain ⟨required, all, shape, requiredKind, allKind⟩ := Lombok.exists_constructors_eq info
  have chosen : Lombok.chosen? (Lombok.simulate info) = all.or required := by
    rw [Lombok.chosen?, shape]
    cases required <;> cases all <;> simp_all
  rw [chosen, shape]
  cases all with
  | none =>
    rw [Option.none_or, Option.toList_none, List.append_nil, Option.mem_toList]
    refine ⟨fun found => ⟨found, fun other member _ => ?_⟩, And.left⟩
    exact Option.some.inj ((Option.mem_toList.mp member).symm.trans found)
  | some all =>
    rw [Option.some_or, Option.some.injEq]
    constructor
    · rintro rfl
      refine ⟨by simp, fun other member kind => ?_⟩
      -- a second constructor takes the required fields only, so it is no rival
      rcases List.mem_append.mp member with fewer | same
      · rw [requiredKind other (Option.mem_toList.mp fewer)] at kind
        contradiction
      · exact List.mem_singleton.mp same
    · rintro ⟨-, preferred⟩
      exact preferred all (by simp) (allKind all rfl)

theorem wires_wired? (info : JavaClass) : Wires info (wired? info) := by
  rcases Nat.lt_trichotomy info.constructors.length 1 with none | one | several
  · have undeclared : info.constructors = [] := List.length_eq_zero_iff.mp (by omega)
    rw [wired?_of_undeclared undeclared]
    cases chosen : Lombok.chosen? (Lombok.simulate info) with
    | none => exact .bare undeclared (chosen?_eq_none_iff.mp chosen)
    | some ctor =>
      obtain ⟨member, preferred⟩ := chosen?_eq_some_iff.mp chosen
      exact .generated undeclared member preferred
  · obtain ⟨only, declared⟩ := List.length_eq_one_iff.mp one
    have same : wired? info = some (.declared only) := by simp [wired?, constructor?, declared]
    rw [same]
    exact .sole declared
  · rw [wired?_of_several several]
    cases marked : info.constructors.find? (·.isAutowired) with
    | none => exact .unmarked several (List.find?_eq_none.mp marked)
    | some ctor =>
      obtain ⟨mark, before, after, split, earlier⟩ := List.find?_eq_some_iff_append.mp marked
      exact .marked several split mark (by simpa using earlier)

theorem Wires.eq_wired? (wires : Wires info choice) : choice = wired? info := by
  cases wires with
  | sole only => simp [wired?, constructor?, only]
  | marked several split mark earlier =>
    have found := List.find?_eq_some_iff_append.mpr ⟨mark, _, _, split, by simpa using earlier⟩
    rw [wired?_of_several several, found, Option.map_some]
  | unmarked several unmarked =>
    rw [wired?_of_several several, List.find?_eq_none.mpr unmarked, Option.map_none]
  | generated undeclared member preferred =>
    rw [wired?_of_undeclared undeclared, chosen?_eq_some_iff.mpr ⟨member, preferred⟩, Option.map_some]
  | bare undeclared nothing =>
    rw [wired?_of_undeclared undeclared, chosen?_eq_none_iff.mpr nothing, Option.map_none]

theorem constructorSites_of_undeclared (undeclared : info.constructors = []) : constructorSites info = [] := by
  simp [constructorSites, constructor?, undeclared]

theorem lombokSites_of_declared (declared : info.constructors ≠ []) : lombokSites info = [] := by
  simp [lombokSites, declared]

theorem serves_wired? (info : JavaClass) :
    Serves info (wired? info) (constructorSites info ++ lombokSites info) := by
  -- one of the two detectors lists nothing, and which one hangs on this alone
  by_cases undeclared : info.constructors = []
  · rw [constructorSites_of_undeclared undeclared, List.nil_append, wired?_of_undeclared undeclared, lombokSites,
      undeclared, List.isEmpty_nil, if_pos rfl]
    cases Lombok.chosen? (Lombok.simulate info) with
    | none => rfl
    | some ctor => exact asks_parameterSites info (.generated ctor)
  · rw [lombokSites_of_declared undeclared, List.append_nil, wired?_of_declared undeclared, constructorSites]
    cases constructor? info with
    | none => rfl
    | some ctor => exact asks_parameterSites info (.declared ctor)

/-! ### Lists of classes -/

theorem sites_append (lines : Option (List String)) (kind : InjectionKind) (classes more : List JavaClass) :
    sites lines kind (classes ++ more) = sites lines kind classes ++ sites lines kind more := List.flatMap_append

/-- The sites of some of the classes are those that name one of these as their owner. -/
theorem filter_sites_owner (lines : Option (List String)) (kind : InjectionKind) (classes : List JavaClass)
    (wanted : String → FilePath → Bool) :
    (sites lines kind classes).filter (fun injection => wanted injection.ownerClass injection.file) =
      sites lines kind (classes.filter fun info => wanted info.qualifiedName info.file) := by
  symm
  apply flatMap_filter_of_agree
  intro info injection member
  have listed : injection ∈ sites lines kind [info] := by simpa [sites] using member
  obtain ⟨owner, single, type, name, position, range, qualifier, rfl⟩ := exists_isSite_of_mem_sites listed
  rw [List.mem_singleton.mp single]
  rfl

/-- Every class has exactly one choice by the rule, and what is listed of it, written constructors before generated
ones, are the parameters of that choice, one by one; only one of the two detectors lists anything. In a list of
classes the sites that name some owners are those of these classes, and lists of classes are treated one behind the
other. -/
theorem one_constructor_is_wired (lines : Option (List String)) (classes : List JavaClass) :
    (∀ info : JavaClass, ∃ choice, (∀ other, Wires info other ↔ other = choice) ∧
        Serves info choice (sites lines .constructor [info] ++ sites lines .lombokConstructor [info]) ∧
        (info.constructors ≠ [] → sites lines .lombokConstructor [info] = []) ∧
        (info.constructors = [] → sites lines .constructor [info] = [])) ∧
      ∀ kind,
        (∀ wanted : String → FilePath → Bool,
          (sites lines kind classes).filter (fun injection => wanted injection.ownerClass injection.file) =
            sites lines kind (classes.filter fun info => wanted info.qualifiedName info.file)) ∧
        ∀ more, sites lines kind (classes ++ more) = sites lines kind classes ++ sites lines kind more := by
  refine ⟨fun info => ⟨wired? info, ?_, ?_, ?_, ?_⟩, fun kind => ⟨?_, ?_⟩⟩
  · intro other
    constructor
    · exact Wires.eq_wired?
    · rintro rfl
      exact wires_wired? info
  · simpa only [sites, List.flatMap_singleton] using serves_wired? info
  · intro declared
    rw [sites, List.flatMap_singleton, lombokSites_of_declared declared]
  · intro undeclared
    rw [sites, List.flatMap_singleton, constructorSites_of_undeclared undeclared]
  · exact filter_sites_owner lines kind classes
  · exact sites_append lines kind classes

end Injection
end BeanAtlas
