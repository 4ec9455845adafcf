import BeanAtlas.Java.Declarations
import BeanAtlas.Proofs.Workspace.Edits

/-!
Registered beans are current: each of them is among the beans of the present analysis of its own file. So
whatever a resolution leads to exists.
-/
namespace BeanAtlas.Workspace

/-- The bean stands in the present analysis of its file. -/
def Defines (workspace : Workspace) (bean : Bean) : Prop :=
  ∃ analysis, workspace.file? bean.file = some analysis ∧ bean ∈ analysis.beans

def IsCurrent (workspace : Workspace) : Prop :=
  ∀ bean ∈ workspace.registry.beans, workspace.Defines bean

variable {workspace : Workspace}

theorem IsCurrent.apply (consistent : workspace.registry.Consistent) (current : workspace.IsCurrent)
    {edit : Edit} (apart : PathsApart edit.documents) : (workspace.apply edit).IsCurrent := by
  intro bean registered
  obtain ⟨name, found⟩ := Registry.mem_beans_iff.mp registered
  rw [findByName?_apply consistent, Option.or_eq_some_iff] at found
  rcases found with written | ⟨-, kept⟩
  · obtain ⟨path, document, entered, declared⟩ := Edit.mem_beans.mp (Bean.last?_eq_some written).1
    obtain rfl := Document.file_of_mem_beans declared
    exact ⟨_, by rw [file?_eq, fileMap_apply_of_mem apart entered], declared⟩
  · obtain ⟨found, kept⟩ := Option.filter_eq_some_iff.mp kept
    obtain ⟨analysis, present, declared⟩ := current bean (Registry.mem_beans_iff.mpr ⟨name, found⟩)
    refine ⟨analysis, ?_, declared⟩
    rw [file?_eq, fileMap_apply_of_kept (by simpa using kept), ← file?_eq]
    exact present

theorem isCurrent_after (settings : DetectorSettings) (edits : List Edit)
    (apart : ∀ edit ∈ edits, PathsApart edit.documents) : (after settings edits).IsCurrent := by
  induction edits using List.reverseRecOn with
  | nil =>
    intro bean registered
    exact (List.not_mem_nil registered).elim
  | append_singleton edits edit ih =>
    rw [after_concat]
    refine (ih fun earlier member => ?_).apply (consistent_after settings edits) ?_
    · exact apart earlier (by simp [member])
    · exact apart edit (by simp)

/-- The beans that an injection site leads to are registered. -/
theorem mem_beans_of_navigation {injection : Injection} {target : FilePath × Position}
    (listed : target ∈ workspace.navigationTargets injection) :
    ∃ bean ∈ workspace.registry.beans, target = (bean.file, bean.position) := by
  obtain ⟨bean, member, rfl⟩ := List.mem_map.mp listed
  refine ⟨bean, ?_, rfl⟩
  split at member
  · next only resolved =>
    obtain rfl := List.mem_singleton.mp member
    exact Registry.mem_beans_of_resolved resolved
  · exact Registry.mem_beans_of_resolve_candidates member

/-- Whatever the history, as long as no refresh lists a path twice: every registered bean stands in the
present analysis of its file, and so does every bean that an injection is resolved to, every candidate
and every target of navigation. -/
theorem registered_beans_are_current (settings : DetectorSettings) (edits : List Edit)
    (apart : ∀ edit ∈ edits, PathsApart edit.documents) :
    (∀ bean ∈ (after settings edits).registry.beans, (after settings edits).Defines bean) ∧
    ∀ injection : Injection,
      (∀ bean, ((after settings edits).resolveInjection injection).resolved = some bean →
        (after settings edits).Defines bean) ∧
      (∃ candidates, ((after settings edits).resolveInjection injection).candidates = some candidates ∧
        ∀ bean ∈ candidates, (after settings edits).Defines bean) ∧
      ∀ target ∈ (after settings edits).navigationTargets injection,
        ∃ bean, (after settings edits).Defines bean ∧ target = (bean.file, bean.position) := by
  have current := isCurrent_after settings edits apart
  refine ⟨current, fun injection => ⟨?_, ?_, ?_⟩⟩
  · intro bean resolved
    exact current bean (Registry.mem_beans_of_resolved resolved)
  · refine ⟨_, rfl, fun bean candidate => ?_⟩
    exact current bean (Registry.mem_beans_of_resolve_candidates candidate)
  · intro target listed
    obtain ⟨bean, registered, same⟩ := mem_beans_of_navigation listed
    exact ⟨bean, current bean registered, same⟩

/-- A file respelled and edited so that it takes over a name, a failed refresh, and a file without a tree. -/
def takeover : List Edit := [
  .refresh (.ok [(⟨"src/A.java"⟩, .ofText "@Service(\"x\") class A \x7b\x7d"),
    (⟨"B.java"⟩, .ofText "@Component class B implements Foo \x7b\x7d")]),
  .update ⟨"src//A.java"⟩ (.ofText "@Service(\"b\") class A implements Foo \x7b\x7d"),
  .refresh (.error (.unreadable .notFound)),
  .update ⟨"C.java"⟩ ⟨.of "", .error .noTree⟩]

theorem takeover_is_current :
    (∀ edit ∈ takeover, PathsApart edit.documents) ∧
    (after {} takeover).registry.beans.map (fun bean => (bean.name, bean.file.spelling)) =
      [("b", "src//A.java")] ∧
    ∀ bean ∈ (after {} takeover).registry.beans, (after {} takeover).Defines bean :=
  ⟨by decide +kernel, by decide +kernel,
    (registered_beans_are_current {} takeover (by decide +kernel)).1⟩

end BeanAtlas.Workspace
