import BeanAtlas.Config.Basic
import BeanAtlas.Proofs.Config.Variables

/-!
Where the values of a configuration come from. Every known key has the value of the highest layer that sets it, the
environment over the file over the defaults, whatever the other keys are; or else, when the file is malformed or one of
these values is of the wrong type, everything is at its default. The switches may also be given as a list. It hides the
switches of lower layers, also those that it does not reach.
-/
namespace BeanAtlas.Config

open Setting (highest? leaf?)
open SettingTable (find?)

/-- The switches by key, in their order. -/
def switchKeys : List (String × (DetectorSettings → Bool)) :=
  [("field", (·.field)), ("constructor", (·.constructor)), ("setter", (·.setter)), ("lombok", (·.lombok)),
    ("bean_method", (·.beanMethod))]

/-- A configuration as a layer that sets every known key. -/
def asLayer (config : Config) : Setting :=
  .table [("exclude_dirs", .list (config.excludeDirs.map .text)), ("respect_gitignore", .bool config.respectGitignore),
    ("detectors", .table (switchKeys.map fun switch => (switch.1, .bool (switch.2 config.detectors))))]

/-- The layers hold the switches in tables, and each switch is that of the highest layer that sets it. -/
structure SwitchesByKey (layers : List Setting) (settings : DetectorSettings) : Prop where
  grouped : ∃ entries, highest? layers ["detectors"] = some (.table entries)
  each : ∀ switch ∈ switchKeys, highest? layers ["detectors", switch.1] = some (.bool (switch.2 settings))

/-- The highest layer with switches holds them in a list, which gives them in their order; those behind its end are
on. -/
def SwitchesInOrder (layers : List Setting) (settings : DetectorSettings) : Prop :=
  ∃ items, highest? layers ["detectors"] = some (.list items) ∧
    ∀ entry ∈ switchKeys.zipIdx, (items[entry.2]?).getD (.bool true) = .bool (entry.1.2 settings)

/-- The layers set a value of the right type under every known key, and the configuration has these values. -/
structure Shows (layers : List Setting) (config : Config) : Prop where
  excludeDirs : highest? layers ["exclude_dirs"] = some (.list (config.excludeDirs.map .text))
  respectGitignore : highest? layers ["respect_gitignore"] = some (.bool config.respectGitignore)
  detectors : SwitchesByKey layers config.detectors ∨ SwitchesInOrder layers config.detectors

variable {table lower : SettingTable} {value : Setting} {settings : DetectorSettings} {config : Config}

/-! ### A single layer over the defaults -/

theorem bool?_eq_some {found : Bool} : bool? value = some found ↔ value = .bool found := by
  cases value <;> simp [bool?]

theorem text?_eq_some {found : String} : text? value = some found ↔ value = .text found := by
  cases value <;> simp [text?]

theorem texts?_eq_some {found : List String} : texts? value = some found ↔ value = .list (found.map .text) := by
  cases value with
  | list items =>
    rw [texts?, Setting.list.injEq]
    induction items generalizing found with
    | nil => cases found <;> simp
    | cons first rest ih =>
      cases found with
      | nil => simp [Option.bind_eq_some_iff]
      | cons head tail => simp [Option.bind_eq_some_iff, text?_eq_some, ih]
  | _ => simp [texts?]

theorem highest?_over_defaults (table : SettingTable) (path : List String) :
    highest? [.table table, asLayer {}] path = ((Setting.table table).at? path).or ((asLayer {}).at? path) := by
  rw [Setting.highest?_cons, Setting.highest?_cons, highest?, List.findSome?_nil, Option.or_none]

/-- A key that is not set has the default that the layer of the defaults sets. -/
theorem setting_eq {α : Type} {key : String} {default : α} {read : Setting → Option α}
    (agrees : ((asLayer {}).at? [key]).bind read = some default) :
    setting table key default read = (highest? [.table table, asLayer {}] [key]).bind read := by
  rw [highest?_over_defaults, Setting.at?_cons, setting]
  cases find? key table with
  | none => simpa using agrees.symm
  | some value => rfl

theorem combined_eq_some {a b c d e : Option Bool} :
    (a.bind fun field => b.bind fun ctor => c.bind fun setter => d.bind fun lombok => e.bind fun beanMethod =>
        some (DetectorSettings.mk field ctor setter lombok beanMethod)) = some settings ↔
      a = some settings.field ∧ b = some settings.constructor ∧ c = some settings.setter ∧
        d = some settings.lombok ∧ e = some settings.beanMethod := by
  simp only [Option.bind_eq_some_iff, Option.some.injEq]
  constructor
  · rintro ⟨field, first, ctor, second, setter, third, lombok, fourth, beanMethod, fifth, rfl⟩
    exact ⟨first, second, third, fourth, fifth⟩
  · rintro ⟨first, second, third, fourth, fifth⟩
    exact ⟨_, first, _, second, _, third, _, fourth, _, fifth, rfl⟩

theorem switches?_eq_some {entries : SettingTable} :
    switches? entries = some settings ↔
      ∀ switch ∈ switchKeys, (find? switch.1 entries).getD (.bool true) = .bool (switch.2 settings) := by
  have each (key : String) : setting entries key true bool? = bool? ((find? key entries).getD (.bool true)) := by
    rw [setting]
    cases find? key entries <;> rfl
  unfold switches?
  refine combined_eq_some.trans ?_
  simp only [each, bool?_eq_some, switchKeys, List.forall_mem_cons, List.not_mem_nil, false_imp_iff, implies_true,
    and_true]

theorem switchList?_eq_some {items : List Setting} :
    switchList? items = some settings ↔
      ∀ entry ∈ switchKeys.zipIdx, (items[entry.2]?).getD (.bool true) = .bool (entry.1.2 settings) := by
  have each (index : Nat) :
      ((items[index]?).map bool?).getD (some true) = bool? ((items[index]?).getD (.bool true)) := by
    cases items[index]? <;> rfl
  unfold switchList?
  refine combined_eq_some.trans ?_
  simp only [each, bool?_eq_some, switchKeys, List.zipIdx_cons, List.zipIdx_nil, List.forall_mem_cons, List.not_mem_nil,
    false_imp_iff, implies_true, and_true]

/-- Each switch of a table is that of the table, else the default. -/
theorem highest?_switch {entries : SettingTable}
    (grouped : highest? [.table table, asLayer {}] ["detectors"] = some (.table entries)) :
    ∀ switch ∈ switchKeys, highest? [.table table, asLayer {}] ["detectors", switch.1] =
      some ((find? switch.1 entries).getD (.bool true)) := by
  have defaults : ∀ switch ∈ switchKeys, (asLayer {}).at? ["detectors", switch.1] = some (.bool true) := by
    simp [switchKeys, asLayer, Setting.at?, find?]
  intro switch known
  have default := defaults switch known
  rw [highest?_over_defaults] at grouped
  rw [highest?_over_defaults, Setting.at?_split, default]
  cases own : (Setting.table table).at? ["detectors"] with
  | none =>
    rw [own, Option.none_or] at grouped
    rw [Setting.at?_split, grouped, Option.bind_some, Setting.at?_single] at default
    simp [default]
  | some value =>
    rw [own, Option.some_or] at grouped
    cases grouped
    rw [Option.bind_some, Setting.at?_single]
    cases find? switch.1 entries <;> rfl

theorem detectors?_eq_some :
    (highest? [.table table, asLayer {}] ["detectors"]).bind detectors? = some settings ↔
      SwitchesByKey [.table table, asLayer {}] settings ∨ SwitchesInOrder [.table table, asLayer {}] settings := by
  constructor
  · intro read
    obtain ⟨value, found, read⟩ := Option.bind_eq_some_iff.mp read
    cases value with
    | table entries =>
      refine .inl ⟨⟨entries, found⟩, fun switch known => ?_⟩
      rw [highest?_switch found switch known, switches?_eq_some.mp read switch known]
    | list items => exact .inr ⟨items, found, switchList?_eq_some.mp read⟩
    | _ => cases read
  · rintro (⟨⟨entries, found⟩, each⟩ | ⟨items, found, each⟩)
    · rw [found]
      refine switches?_eq_some.mpr fun switch known => ?_
      exact Option.some.inj ((highest?_switch found switch known).symm.trans (each switch known))
    · rw [found]
      exact switchList?_eq_some.mpr each

/-- The configuration that a table sets is the one that it shows over the defaults. -/
theorem ofTable?_eq_some : ofTable? table = some config ↔ Shows [.table table, asLayer {}] config := by
  have parts : ofTable? table = some config ↔
      setting table "exclude_dirs" [] texts? = some config.excludeDirs ∧
        setting table "respect_gitignore" true bool? = some config.respectGitignore ∧
        setting table "detectors" {} detectors? = some config.detectors := by
    simp only [ofTable?, Option.bind_eq_bind, Option.bind_eq_some_iff, Option.pure_def, Option.some.injEq]
    constructor
    · rintro ⟨dirs, first, gitignore, second, detectors, third, rfl⟩
      exact ⟨first, second, third⟩
    · rintro ⟨first, second, third⟩
      exact ⟨_, first, _, second, _, third, rfl⟩
  rw [parts, setting_eq rfl, setting_eq rfl, setting_eq rfl, detectors?_eq_some]
  simp only [Option.bind_eq_some_iff, texts?_eq_some, bool?_eq_some, exists_eq_right]
  exact ⟨fun ⟨dirs, gitignore, detectors⟩ => ⟨dirs, gitignore, detectors⟩,
    fun shown => ⟨shown.excludeDirs, shown.respectGitignore, shown.detectors⟩⟩

/-! ### Several layers -/

section Layers

variable {entries : SettingTable} (lower : Setting) (layers : List Setting)

theorem switchesByKey_laidOver_iff (distinct : (Setting.table entries).Distinct) :
    SwitchesByKey ((Setting.table entries).laidOver lower :: layers) settings ↔
      SwitchesByKey (.table entries :: lower :: layers) settings := by
  have grouped := Setting.highest?_table_iff distinct (Setting.openTo_single entries "detectors") lower layers
  -- Once the switches are known to be in a table, each of them is looked up on an open way.
  have each (inTable : ∃ below, highest? (.table entries :: lower :: layers) ["detectors"] = some (.table below))
      (key : String) (on : Bool) :=
    Setting.highest?_leaf_iff distinct (Setting.openTo_pair key inTable)
      (show (Setting.bool on).leaf? = some (.bool on) from rfl) lower layers
  constructor
  · intro shown
    have inTable := grouped.mp shown.grouped
    exact ⟨inTable, fun switch known => (each inTable switch.1 _).mp (shown.each switch known)⟩
  · intro shown
    exact ⟨grouped.mpr shown.grouped,
      fun switch known => (each shown.grouped switch.1 _).mpr (shown.each switch known)⟩

/-- The layers show the same configuration when the uppermost one is put over the next. -/
theorem shows_laidOver_iff (distinct : (Setting.table entries).Distinct) :
    Shows ((Setting.table entries).laidOver lower :: layers) config ↔
      Shows (.table entries :: lower :: layers) config := by
  have leaf {key : String} {found : Setting} (isLeaf : found.leaf? = some found) :=
    Setting.highest?_leaf_iff distinct (Setting.openTo_single entries key) isLeaf lower layers
  have byKey : SwitchesByKey _ config.detectors ↔ SwitchesByKey _ config.detectors :=
    switchesByKey_laidOver_iff lower layers distinct
  have inOrder : SwitchesInOrder ((Setting.table entries).laidOver lower :: layers) config.detectors ↔
      SwitchesInOrder (.table entries :: lower :: layers) config.detectors :=
    exists_congr fun items => and_congr_left' (leaf rfl)
  have switches := or_congr byKey inOrder
  constructor
  · rintro ⟨dirs, gitignore, detectors⟩
    exact ⟨(leaf rfl).mp dirs, (leaf rfl).mp gitignore, switches.mp detectors⟩
  · rintro ⟨dirs, gitignore, detectors⟩
    exact ⟨(leaf rfl).mpr dirs, (leaf rfl).mpr gitignore, switches.mpr detectors⟩

end Layers

/-- The layers of a configuration, the highest first: the environment, the file and the defaults. -/
def layersOf (environment : List (String × String)) (lower : SettingTable) : List Setting :=
  [.table (Variables.layer environment), .table lower, asLayer {}]

theorem ofTable?_laidOver_eq_some (environment : List (String × String)) :
    ofTable? ((Variables.layer environment).laidOver lower) = some config ↔
      Shows (layersOf environment lower) config := by
  rw [ofTable?_eq_some, SettingTable.laidOver, ← Setting.laidOver_table,
    shows_laidOver_iff _ _ (Variables.distinct_layer environment), layersOf]

/-- The configuration is the one that the layers show, the environment over the file over the defaults, where a file
that does not exist sets nothing. It is the default when the file cannot be read or is malformed, or when the layers
show none because a known key has a value of the wrong type. -/
theorem load_takes_highest_layers (file : Option (Except Source.ReadFailure String))
    (environment : List (String × String)) :
    (∀ failure, file = some (.error failure) → load file environment = {}) ∧
      (∀ text, file = some (.ok text) → Toml.read? text = none → load file environment = {}) ∧
      ∀ lower, (file = none ∧ lower = [] ∨ ∃ text, file = some (.ok text) ∧ Toml.read? text = some lower) →
        (∀ config, Shows (layersOf environment lower) config → load file environment = config) ∧
          ((∀ config, ¬ Shows (layersOf environment lower) config) → load file environment = {}) := by
  have unread (malformed : fileLayer? file = none) : load file environment = {} := by
    rw [load, malformed, Option.bind_none, Option.getD_none]
  refine ⟨?_, ?_, ?_⟩
  · rintro failure rfl
    exact unread rfl
  · rintro text rfl malformed
    exact unread malformed
  · intro lower given
    have parsed : fileLayer? file = some lower := by
      obtain ⟨rfl, rfl⟩ | ⟨text, rfl, parsed⟩ := given
      · rfl
      · exact parsed
    have merged : load file environment = (ofTable? ((Variables.layer environment).laidOver lower)).getD {} := by
      rw [load, parsed, Option.bind_some]
    constructor
    · intro config shown
      rw [merged, (ofTable?_laidOver_eq_some environment).mpr shown, Option.getD_some]
    · intro mistyped
      cases found : ofTable? ((Variables.layer environment).laidOver lower) with
      | none => rw [merged, found, Option.getD_none]
      | some config => exact absurd ((ofTable?_laidOver_eq_some environment).mp found) (mistyped config)

/-- A value of the wrong type in the file does no harm when the environment sets the key, and switches are merged one
by one. With a malformed file the environment counts for nothing. -/
theorem masked_value_does_no_harm :
    load (some (.ok "respect_gitignore = \"sometimes\"\n[detectors]\nsetter = false\n"))
        [("SPRINGWIRE_RESPECT_GITIGNORE", "false"), ("springwire_Detectors__field", "false")] =
      { respectGitignore := false, detectors := { field := false, setter := false } } ∧
    load (some (.ok "[detectors")) [("SPRINGWIRE_RESPECT_GITIGNORE", "false")] = {} := by
  constructor
  · decide +kernel
  · exact (load_takes_highest_layers _ _).2.1 "[detectors" rfl (by decide +kernel)

/-- A list in the environment is no table of switches, and yet it switches one off. The switch of the file is lost. -/
theorem list_switches_off :
    (∃ lower, Toml.read? "[detectors]\nsetter = false\n" = some lower ∧
      ∀ settings, ¬ SwitchesByKey (layersOf [("SPRINGWIRE_DETECTORS", "[false]")] lower) settings) ∧
    load (some (.ok "[detectors]\nsetter = false\n")) [("SPRINGWIRE_DETECTORS", "[false]")] =
      { detectors := { field := false } } := by
  refine ⟨?_, by decide +kernel⟩
  have parsed : (Toml.read? "[detectors]\nsetter = false\n").isSome := by decide +kernel
  have listed : (((Setting.table (Variables.layer [("SPRINGWIRE_DETECTORS", "[false]")])).at? ["detectors"]).bind
      leaf?).isSome := by
    decide +kernel
  obtain ⟨lower, parsed⟩ := Option.isSome_iff_exists.mp parsed
  refine ⟨lower, parsed, fun settings shown => ?_⟩
  obtain ⟨entries, grouped⟩ := shown.grouped
  obtain ⟨leaf, listed⟩ := Option.isSome_iff_exists.mp listed
  obtain ⟨value, found, isLeaf⟩ := Option.bind_eq_some_iff.mp listed
  rw [layersOf, Setting.highest?_cons, found, Option.some_or] at grouped
  cases grouped
  cases isLeaf

end BeanAtlas.Config
