import BeanAtlas.Watch.Event

/-!
What is reported of a change. Nothing is lost: a change that may concern the content of files is reported exactly when
a Java file is among its paths. Nothing is made up: only such files are reported. A complete rename is reported of its
two sides and never with the sides exchanged.
-/
namespace BeanAtlas.Watch

/-- The changes that leave the content of all files as it is, or do not tell what changed. -/
inductive Change.Idle : Change → Prop where
  | metadata : Idle (.modify .metadata)
  | unspecified : Idle (.modify (.data .any))
  | access : Idle .access
  | other : Idle .other

/-- A rename with its two sides, the only change that is about more than one file. -/
def Change.IsComplete (change : Change) (old new : FilePath) (paths : List FilePath) : Prop :=
  change = .modify (.rename .both) ∧ paths = [old, new]

namespace Event

/-- The files that are no longer there. -/
def gone : Event → List FilePath
  | .deleted path => [path]
  | .renamed old _ => [old]
  | _ => []

/-- The files that were not there before. -/
def arrived : Event → List FilePath
  | .created path => [path]
  | .renamed _ new => [new]
  | _ => []

/-- The files that have stayed. -/
def edited : Event → List FilePath
  | .modified path => [path]
  | _ => []

/-- All files that an event mentions. -/
def paths (event : Event) : List FilePath := event.gone ++ event.arrived ++ event.edited

end Event

variable {change : Change} {path old new : FilePath} {paths : List FilePath} {event : Event}

theorem Change.isMeaningful_iff : change.isMeaningful ↔ ¬ change.Idle := by
  constructor
  · intro meaningful idle
    cases idle <;> cases meaningful
  · intro busy
    unfold isMeaningful
    split
    · exact absurd .metadata busy
    · exact absurd .unspecified busy
    · exact absurd .access busy
    · exact absurd .other busy
    · rfl

/-- Every change that is not idle is an event for a single file, and about that file only. -/
theorem Change.exists_eventFor? (busy : ¬ change.Idle) (path : FilePath) :
    ∃ event, change.eventFor? path = some event ∧ event.paths = [path] := by
  cases change with
  | any => exact ⟨_, rfl, rfl⟩
  | access => exact absurd .access busy
  | create => exact ⟨_, rfl, rfl⟩
  | modify what =>
    rcases what with _ | _ | _ | mode | _
    case rename => cases mode <;> exact ⟨_, rfl, rfl⟩
    all_goals exact ⟨_, rfl, rfl⟩
  | remove => exact ⟨_, rfl, rfl⟩
  | other => exact absurd .other busy

theorem classify?_of_idle (idle : change.Idle) (paths : List FilePath) : classify? change paths = none := by
  have unimportant : ¬ change.isMeaningful := fun meaningful => Change.isMeaningful_iff.mp meaningful idle
  simp [classify?, unimportant]

theorem classify?_of_complete (complete : change.IsComplete old new paths) :
    classify? change paths = renameEvent? old new := by
  obtain ⟨rfl, rfl⟩ := complete
  rfl

theorem classify?_of_incomplete (busy : ¬ change.Idle) (incomplete : ¬ ∃ old new, change.IsComplete old new paths) :
    classify? change paths = (paths.find? (·.isJava)).bind change.eventFor? := by
  have meaningful := Change.isMeaningful_iff.mpr busy
  unfold classify?
  rw [meaningful, Bool.not_true, if_neg Bool.false_ne_true]
  split
  · next old new => exact absurd ⟨old, new, rfl, rfl⟩ incomplete
  · rfl

theorem isSome_renameEvent? (old new : FilePath) : (renameEvent? old new).isSome ↔ old.isJava ∨ new.isJava := by
  unfold renameEvent?
  cases old.isJava <;> cases new.isJava <;> simp

/-- A complete rename is reported of the sides that are Java files, each for what it is. -/
theorem renameEvent?_sides (reported : renameEvent? old new = some event) :
    event.gone = [old].filter (·.isJava) ∧ event.arrived = [new].filter (·.isJava) ∧ event.edited = [] := by
  unfold renameEvent? at reported
  cases left : old.isJava <;> cases right : new.isJava <;> simp only [left, right, reduceCtorEq] at reported
  all_goals
    cases reported
    simp [Event.gone, Event.arrived, Event.edited, left, right]

theorem paths_of_renameEvent? (reported : renameEvent? old new = some event) :
    event.paths = [old, new].filter (·.isJava) := by
  obtain ⟨gone, arrived, edited⟩ := renameEvent?_sides reported
  rw [Event.paths, gone, arrived, edited, List.append_nil, ← List.filter_append]
  rfl

theorem isSome_classify? :
    (classify? change paths).isSome ↔ ¬ change.Idle ∧ ∃ path ∈ paths, path.isJava := by
  by_cases idle : change.Idle
  · simp [classify?_of_idle idle, idle]
  · by_cases complete : ∃ old new, change.IsComplete old new paths
    · obtain ⟨old, new, complete⟩ := complete
      rw [classify?_of_complete complete, isSome_renameEvent?, complete.2]
      simp [idle]
    · rw [classify?_of_incomplete idle complete, ← List.find?_isSome]
      cases paths.find? (·.isJava) with
      | none => simp
      | some first =>
        obtain ⟨event, reported, -⟩ := Change.exists_eventFor? idle first
        simp [idle, reported]

/-- The first Java file is always mentioned, and nothing but Java files from the list. -/
theorem paths_of_classify? (reported : classify? change paths = some event) :
    event.paths.head? = paths.find? (·.isJava) ∧ ∀ path ∈ event.paths, path ∈ paths ∧ path.isJava := by
  by_cases idle : change.Idle
  · simp [classify?_of_idle idle] at reported
  · by_cases complete : ∃ old new, change.IsComplete old new paths
    · obtain ⟨old, new, complete⟩ := complete
      rw [classify?_of_complete complete] at reported
      rw [paths_of_renameEvent? reported, complete.2, List.head?_filter]
      exact ⟨rfl, fun path member => List.mem_filter.mp member⟩
    · rw [classify?_of_incomplete idle complete] at reported
      obtain ⟨first, found, taken⟩ := Option.bind_eq_some_iff.mp reported
      obtain ⟨same, given, only⟩ := Change.exists_eventFor? idle first
      obtain rfl := Option.some.inj (given.symm.trans taken)
      rw [only, found]
      refine ⟨rfl, fun path member => ?_⟩
      obtain rfl := List.mem_singleton.mp member
      exact ⟨List.mem_of_find?_eq_some found, List.find?_some found⟩

/-- A change is reported exactly when it is not idle and has a Java file among its paths, however many these are. The
report mentions Java files from the list only, the first of them always. Of a complete rename the old side is what is
gone and the new side what has arrived, each if it is a Java file. -/
theorem changes_to_java_files_are_reported (change : Change) (paths : List FilePath) :
    ((classify? change paths).isSome ↔ ¬ change.Idle ∧ ∃ path ∈ paths, path.isJava) ∧
      (∀ event, classify? change paths = some event →
        event.paths.head? = paths.find? (·.isJava) ∧ ∀ path ∈ event.paths, path ∈ paths ∧ path.isJava) ∧
      ∀ old new event, classify? (.modify (.rename .both)) [old, new] = some event →
        event.gone = [old].filter (·.isJava) ∧ event.arrived = [new].filter (·.isJava) ∧ event.edited = [] := by
  refine ⟨isSome_classify?, fun event reported => paths_of_classify? reported, fun old new event reported => ?_⟩
  rw [classify?_of_complete ⟨rfl, rfl⟩] at reported
  exact renameEvent?_sides reported

/-- A Java file that is renamed to a backup is gone, and the backup is not mentioned. -/
example : classify? (.modify (.rename .both)) [⟨"A.java"⟩, ⟨"A.java.bak"⟩] = some (.deleted ⟨"A.java"⟩) := by
  decide +kernel

end BeanAtlas.Watch
