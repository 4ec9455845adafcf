import BeanAtlas.Analysis.File

/-!
The switches of the detectors. Every detector lists sites of its own kind only and looks at nothing that another
one finds, so switching some of them off leaves out the sites of these kinds and changes nothing else.
-/
namespace BeanAtlas

/-- Where everything that a source gives is wanted or nothing is, leaving out sources is leaving out what they
give. -/
theorem flatMap_filter_of_agree {α β : Type} {items : α → List β} {enabled : α → Bool} {wanted : β → Bool}
    (agree : ∀ source, ∀ item ∈ items source, wanted item = enabled source) (sources : List α) :
    (sources.filter enabled).flatMap items = (sources.flatMap items).filter wanted := by
  induction sources with
  | nil => rfl
  | cons source rest ih =>
    rw [List.flatMap_cons, List.filter_append, ← ih, List.filter_cons]
    split
    · next on =>
      have whole : (items source).filter wanted = items source :=
        List.filter_eq_self.mpr fun item member => by rw [agree source item member, on]
      rw [List.flatMap_cons, whole]
    · next off =>
      have empty : (items source).filter wanted = [] :=
        List.filter_eq_nil_iff.mpr fun item member => by rwa [agree source item member]
      rw [empty, List.nil_append]

namespace Injection

variable {injection : Injection} {owner : JavaClass} {kind : InjectionKind}

/-- A site as a detector makes it. -/
def IsSite (kind : InjectionKind) (owner : JavaClass) (injection : Injection) : Prop :=
  ∃ type name position range qualifier, injection = site kind owner type name position range qualifier

theorem isSite_of_mem_parameterSites {parameters : List Parameter} {position : Position} {range : Range}
    (member : injection ∈ parameterSites kind owner parameters position range) : IsSite kind owner injection := by
  obtain ⟨parameter, -, rfl⟩ := List.mem_map.mp member
  exact ⟨_, _, _, _, _, rfl⟩

theorem isSite_of_mem_fieldSites {lines : Option (List String)} (member : injection ∈ fieldSites lines owner) :
    IsSite .field owner injection := by
  obtain ⟨field, -, rfl⟩ := List.mem_map.mp member
  exact ⟨_, _, _, _, _, rfl⟩

theorem isSite_of_mem_constructorSites (member : injection ∈ constructorSites owner) :
    IsSite .constructor owner injection := by
  unfold constructorSites at member
  split at member
  · simp at member
  · exact isSite_of_mem_parameterSites member

theorem isSite_of_mem_setterSites (member : injection ∈ setterSites owner) : IsSite .setter owner injection := by
  obtain ⟨method, -, member⟩ := List.mem_flatMap.mp member
  exact isSite_of_mem_parameterSites member

theorem isSite_of_mem_lombokSites (member : injection ∈ lombokSites owner) :
    IsSite .lombokConstructor owner injection := by
  unfold lombokSites at member
  split at member
  · split at member
    · simp at member
    · exact isSite_of_mem_parameterSites member
  · simp at member

theorem isSite_of_mem_beanMethodSites (member : injection ∈ beanMethodSites owner) :
    IsSite .beanMethod owner injection := by
  obtain ⟨-, member⟩ := List.mem_ite_nil_right.mp member
  obtain ⟨method, -, member⟩ := List.mem_flatMap.mp member
  exact isSite_of_mem_parameterSites member

/-- Everything that is listed is a site of the kind in one of the classes. -/
theorem exists_isSite_of_mem_sites {lines : Option (List String)} {classes : List JavaClass}
    (member : injection ∈ sites lines kind classes) : ∃ owner ∈ classes, IsSite kind owner injection := by
  obtain ⟨owner, listed, member⟩ := List.mem_flatMap.mp member
  refine ⟨owner, listed, ?_⟩
  cases kind with
  | field => exact isSite_of_mem_fieldSites member
  | constructor => exact isSite_of_mem_constructorSites member
  | setter => exact isSite_of_mem_setterSites member
  | lombokConstructor => exact isSite_of_mem_lombokSites member
  | beanMethod => exact isSite_of_mem_beanMethodSites member

theorem kind_of_mem_sites {lines : Option (List String)} {classes : List JavaClass}
    (member : injection ∈ sites lines kind classes) : injection.kind = kind := by
  obtain ⟨owner, -, type, name, position, range, qualifier, rfl⟩ := exists_isSite_of_mem_sites member
  rfl

/-- Running some of the detectors is running all of them and keeping the sites of these. -/
theorem flatMap_sites_filter (enabled : InjectionKind → Bool) (lines : Option (List String))
    (classes : List JavaClass) (kinds : List InjectionKind) :
    (kinds.filter enabled).flatMap (fun kind => sites lines kind classes) =
      (kinds.flatMap fun kind => sites lines kind classes).filter (enabled ·.kind) :=
  flatMap_filter_of_agree (fun _ _ member => congrArg enabled (kind_of_mem_sites member)) kinds

end Injection

/-- A kind is switched on by the switch that is named after it. -/
theorem DetectorSettings.enables_eq (settings : DetectorSettings) (kind : InjectionKind) :
    settings.enables kind =
      decide (kind = .field ∧ settings.field ∨ kind = .constructor ∧ settings.constructor ∨
        kind = .setter ∧ settings.setter ∨ kind = .lombokConstructor ∧ settings.lombok ∨
        kind = .beanMethod ∧ settings.beanMethod) := by
  cases kind <;> simp [enables]

theorem Document.siteOrder_default : siteOrder.filter ({} : DetectorSettings).enables = siteOrder := rfl

/-- Whatever the switches are, and also where there is no tree, an analysis has the classes, beans, errors and
warnings of the one with all switches on, and of its injections those of the kinds switched on, in their order. -/
theorem Document.switches_select_kinds (document : Document) (file : FilePath) (settings : DetectorSettings) :
    document.analyze file settings =
      { document.analyze file {} with
        injections := (document.analyze file {}).injections.filter fun injection =>
          injection.kind = .field ∧ settings.field ∨ injection.kind = .constructor ∧ settings.constructor ∨
            injection.kind = .setter ∧ settings.setter ∨
            injection.kind = .lombokConstructor ∧ settings.lombok ∨
            injection.kind = .beanMethod ∧ settings.beanMethod } := by
  simp only [← DetectorSettings.enables_eq]
  cases read : (document.extract file).errors.isEmpty with
  | true => simp only [analyze, read, if_true, siteOrder_default, Injection.flatMap_sites_filter]
  | false => simp only [analyze, read, Bool.false_eq_true, if_false, List.filter_nil]

end BeanAtlas
