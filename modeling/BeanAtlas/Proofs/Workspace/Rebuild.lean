import BeanAtlas.Java.Declarations
import BeanAtlas.Proofs.Workspace.Edits
import Mathlib.Data.List.Infix
import Mathlib.Data.List.Pairwise

/-!
Editing file by file against starting afresh. As long as no two files define the same name, the registry is
a function of the present analyses, and these are a function of the present documents. So a workspace with
any history answers like one that was filled once, in any order, with the documents that are left.
-/
namespace BeanAtlas

namespace Edit

variable {edit : Edit} {documents : List (FilePath × Document)} {settings : DetectorSettings}

/-- The documents that are present after an edit, each under the path it was last given with. -/
def revise (documents : List (FilePath × Document)) : Edit → List (FilePath × Document)
  | refresh (.ok sources) => sources
  | refresh (.error _) => documents
  | update path document => documents.filter (!·.1.same path) ++ [(path, document)]
  | remove path => documents.filter (!·.1.same path)

theorem mem_revise {entry : FilePath × Document} :
    entry ∈ edit.revise documents ↔
      entry ∈ edit.documents ∨ (edit.forgets entry.1.components = false ∧ entry ∈ documents) := by
  cases edit with
  | refresh source => cases source <;> simp [revise, Edit.documents, forgets]
  | update path document =>
    rw [revise, List.mem_append, List.mem_filter, FilePath.same_eq, Bool.not_eq_true', or_comm, and_comm]
    rfl
  | remove path =>
    rw [revise, List.mem_filter, FilePath.same_eq, Bool.not_eq_true', and_comm]
    simp [Edit.documents, forgets]

theorem pathsApart_revise (apart : PathsApart documents) (new : PathsApart edit.documents) :
    PathsApart (edit.revise documents) := by
  cases edit with
  | refresh source =>
    cases source with
    | ok sources => exact new
    | error failure => exact apart
  | update path document =>
    have rest : PathsApart (documents.filter (!·.1.same path)) :=
      apart.sublist (List.filter_sublist.map _)
    rw [PathsApart, revise, List.map_append, List.nodup_append]
    refine ⟨rest, List.nodup_singleton _, ?_⟩
    intro file listed last final same
    obtain ⟨entry, member, rfl⟩ := List.mem_map.mp listed
    obtain rfl : last = path.components := by simpa using final
    simp [FilePath.same, same] at member
  | remove path => exact apart.sublist (List.filter_sublist.map _)

/-- The last bean of a name is the last one of its own document. -/
theorem last?_beans {name : String} {bean : Bean}
    (found : Bean.last? (edit.beans settings) name = some bean) :
    ∃ path document, (path, document) ∈ edit.documents ∧
      Bean.last? (document.analyze path settings).beans name = some bean := by
  unfold beans at found
  generalize edit.documents = documents at found ⊢
  induction documents with
  | nil => simp [Bean.last?] at found
  | cons first rest ih =>
    rw [List.flatMap_cons, Bean.last?_append, Option.or_eq_some_iff] at found
    rcases found with later | ⟨-, here⟩
    · obtain ⟨path, document, member, found⟩ := ih later
      exact ⟨path, document, List.mem_cons_of_mem _ member, found⟩
    · exact ⟨first.1, first.2, List.mem_cons_self, here⟩

end Edit

namespace Workspace

/-- The documents that are present after a history. -/
def documentsAfter (edits : List Edit) : List (FilePath × Document) := edits.foldl Edit.revise []

/-- No two files define a bean of the same name. -/
def SeparateNames (workspace : Workspace) : Prop :=
  workspace.analyses.Pairwise fun first second =>
    ∀ bean ∈ first.beans, ∀ other ∈ second.beans, bean.name ≠ other.name

instance (workspace : Workspace) : Decidable workspace.SeparateNames :=
  inferInstanceAs (Decidable (workspace.analyses.Pairwise _))

/-- Every bean of an analysis belongs to the file it is kept under. -/
def Located (workspace : Workspace) : Prop :=
  ∀ file analysis, workspace.fileMap.find? file = some analysis →
    ∀ bean ∈ analysis.beans, bean.file.components = file

/-- The analyses are those of the documents. -/
def Shows (workspace : Workspace) (documents : List (FilePath × Document)) : Prop :=
  ∀ file analysis, workspace.fileMap.find? file = some analysis ↔
    ∃ path document, (path, document) ∈ documents ∧ path.components = file ∧
      document.analyze path workspace.settings = analysis

/-- By name the registry finds what the file that defines the name says last. -/
def Faithful (workspace : Workspace) : Prop :=
  ∀ name bean, workspace.registry.findByName? name = some bean ↔
    ∃ file analysis, workspace.fileMap.find? file = some analysis ∧
      Bean.last? analysis.beans name = some bean

variable {workspace left right : Workspace}

theorem SeparateNames.file_eq (separate : workspace.SeparateNames) {file file' : List Component}
    {analysis analysis' : FileAnalysis} (found : workspace.fileMap.find? file = some analysis)
    (found' : workspace.fileMap.find? file' = some analysis') {bean other : Bean}
    (declared : bean ∈ analysis.beans) (declared' : other ∈ analysis'.beans)
    (same : bean.name = other.name) : file = file' := by
  -- Pairs of entries of different files; a file may well repeat its own names.
  let apart (first second : List Component × FileAnalysis) : Prop :=
    first.1 ≠ second.1 → ∀ bean ∈ first.2.beans, ∀ other ∈ second.2.beans, bean.name ≠ other.name
  have symmetric : Std.Symm apart := ⟨fun first second different distinct bean declared other listed =>
    (different distinct.symm other listed bean declared).symm⟩
  have pairs : workspace.fileMap.entries.Pairwise apart := by
    rw [SeparateNames, analyses_eq, SortedMap.values, List.pairwise_map] at separate
    refine separate.imp ?_
    intro first second distinct _
    exact distinct
  by_contra different
  exact pairs.forall_of_forall (fun _ _ distinct => absurd rfl distinct)
    (workspace.fileMap.mem_entries.mpr found) (workspace.fileMap.mem_entries.mpr found')
    different bean declared other declared' same

theorem located_after (settings : DetectorSettings) (edits : List Edit) :
    (after settings edits).Located := by
  induction edits using List.reverseRecOn with
  | nil =>
    intro file analysis found
    simp [fileMap] at found
  | append_singleton edits edit ih =>
    intro file analysis found bean declared
    rw [after_concat] at found
    rcases fileMap_apply_cases found with ⟨path, document, -, located, rfl⟩ | ⟨-, earlier⟩
    · rw [Document.file_of_mem_beans declared, located]
    · exact ih file analysis earlier bean declared

theorem Shows.apply {documents : List (FilePath × Document)} (shows : workspace.Shows documents)
    {edit : Edit} (apart : PathsApart edit.documents) :
    (workspace.apply edit).Shows (edit.revise documents) := by
  intro file analysis
  rw [settings_apply]
  constructor
  · intro found
    rcases fileMap_apply_cases found with ⟨path, document, entered, located⟩ | ⟨kept, earlier⟩
    · exact ⟨path, document, Edit.mem_revise.mpr (.inl entered), located⟩
    · obtain ⟨path, document, listed, rfl, same⟩ := (shows file analysis).mp earlier
      exact ⟨path, document, Edit.mem_revise.mpr (.inr ⟨kept, listed⟩), rfl, same⟩
  · rintro ⟨path, document, listed, rfl, rfl⟩
    rcases Edit.mem_revise.mp listed with entered | ⟨kept, listed⟩
    · exact fileMap_apply_of_mem apart entered
    · rw [fileMap_apply_of_kept kept]
      exact (shows _ _).mpr ⟨path, document, listed, rfl, rfl⟩

theorem shows_after (settings : DetectorSettings) (edits : List Edit)
    (apart : ∀ edit ∈ edits, PathsApart edit.documents) :
    (after settings edits).Shows (documentsAfter edits) := by
  induction edits using List.reverseRecOn with
  | nil =>
    intro file analysis
    simp [fileMap, documentsAfter]
  | append_singleton edits edit ih =>
    have earlier := ih fun edit member => apart edit (by simp [member])
    have next := earlier.apply (apart edit (by simp))
    rw [after_concat, documentsAfter, List.foldl_append]
    exact next

theorem pathsApart_documentsAfter (edits : List Edit)
    (apart : ∀ edit ∈ edits, PathsApart edit.documents) : PathsApart (documentsAfter edits) := by
  induction edits using List.reverseRecOn with
  | nil => exact List.nodup_nil
  | append_singleton edits edit ih =>
    have earlier := ih fun edit member => apart edit (by simp [member])
    rw [documentsAfter, List.foldl_append]
    exact Edit.pathsApart_revise earlier (apart edit (by simp))

/-- Workspaces with the same settings that show the same documents have the same files. -/
theorem Shows.fileMap_eq {documents others : List (FilePath × Document)} (shows : left.Shows documents)
    (shows' : right.Shows others) (settings : left.settings = right.settings)
    (order : documents.Perm others) : left.fileMap = right.fileMap := by
  refine SortedMap.ext_find fun file => Option.ext fun analysis => ?_
  rw [shows file analysis, shows' file analysis, settings]
  simp only [order.mem_iff]

/-- An edit keeps the registry faithful if no name is shared by two files afterwards. -/
theorem Faithful.apply (consistent : workspace.registry.Consistent) (located : workspace.Located)
    (faithful : workspace.Faithful) {edit : Edit} (apart : PathsApart edit.documents)
    (separate : (workspace.apply edit).SeparateNames) : (workspace.apply edit).Faithful := by
  intro name bean
  rw [findByName?_apply consistent, Option.or_eq_some_iff, Option.filter_eq_some_iff]
  constructor
  · rintro (written | ⟨-, found, kept⟩)
    · obtain ⟨path, document, entered, last⟩ := Edit.last?_beans written
      exact ⟨_, _, fileMap_apply_of_mem apart entered, last⟩
    · obtain ⟨file, analysis, present, last⟩ := (faithful name bean).mp found
      obtain rfl := located file analysis present bean (Bean.last?_eq_some last).1
      rw [Bool.not_eq_true'] at kept
      exact ⟨_, analysis, by rwa [fileMap_apply_of_kept kept], last⟩
  · rintro ⟨file, analysis, present, last⟩
    obtain ⟨declared, named⟩ := Bean.last?_eq_some last
    -- A bean of the name that the edit brings comes from the same file.
    have meets : ∀ other, Bean.last? (edit.beans workspace.settings) name = some other →
        ∃ path document, (path, document) ∈ edit.documents ∧ path.components = file ∧
          Bean.last? (document.analyze path workspace.settings).beans name = some other := by
      intro other written
      obtain ⟨path, document, entered, latest⟩ := Edit.last?_beans written
      obtain ⟨listed, same⟩ := Bean.last?_eq_some latest
      have located := separate.file_eq (fileMap_apply_of_mem apart entered) present listed declared
        (same.trans named.symm)
      exact ⟨path, document, entered, located, latest⟩
    rcases fileMap_apply_cases present with ⟨path, document, entered, rfl, rfl⟩ | ⟨kept, earlier⟩
    · left
      cases written : Bean.last? (edit.beans workspace.settings) name with
      | none =>
        have listed := Edit.mem_beans.mpr ⟨path, document, entered, declared⟩
        exact absurd named (Bean.last?_eq_none.mp written bean listed)
      | some other =>
        obtain ⟨path', document', entered', located, latest⟩ := meets other written
        obtain ⟨rfl, rfl⟩ := Prod.mk.inj (apart.eq_of_components entered' entered located)
        rw [← latest, last]
    · right
      have file_eq := located file analysis earlier bean declared
      refine ⟨?_, (faithful name bean).mpr ⟨file, analysis, earlier, last⟩, by rw [file_eq, kept]; rfl⟩
      cases written : Bean.last? (edit.beans workspace.settings) name with
      | none => rfl
      | some other =>
        obtain ⟨path, document, entered, rfl, -⟩ := meets other written
        simp [Edit.forgets_of_mem entered] at kept

theorem faithful_after (settings : DetectorSettings) (edits : List Edit)
    (apart : ∀ edit ∈ edits, PathsApart edit.documents)
    (separate : ∀ initial ∈ edits.inits, (after settings initial).SeparateNames) :
    (after settings edits).Faithful := by
  induction edits using List.reverseRecOn with
  | nil =>
    intro name bean
    simp [fileMap]
  | append_singleton edits edit ih =>
    have earlier := ih (fun edit member => apart edit (by simp [member])) fun initial member =>
      separate initial ((List.mem_inits _ _).mpr
        (((List.mem_inits _ _).mp member).trans (List.prefix_append _ _)))
    have last := separate (edits ++ [edit]) ((List.mem_inits _ _).mpr (List.prefix_refl _))
    rw [after_concat] at last ⊢
    exact earlier.apply (consistent_after settings edits) (located_after settings edits)
      (apart edit (by simp)) last

theorem Faithful.findByName?_eq (faithful : left.Faithful) (faithful' : right.Faithful)
    (files : left.fileMap = right.fileMap) (name : String) :
    left.registry.findByName? name = right.registry.findByName? name := by
  refine Option.ext fun bean => ?_
  rw [faithful name bean, faithful' name bean, files]

/-- Equal files whatever the spelling of their paths, and the same answers but for the order of beans. -/
structure Agrees (left right : Workspace) : Prop where
  files : left.fileMap = right.fileMap
  findByName? : ∀ name, left.registry.findByName? name = right.registry.findByName? name
  findByType : ∀ type, (left.registry.findByType type).Perm (right.registry.findByType type)
  status : ∀ injection, left.status injection = right.status injection
  summary : left.summary = right.summary

theorem summary_congr (files : left.fileMap = right.fileMap)
    (beans : left.registry.byName = right.registry.byName)
    (status : ∀ injection, left.status injection = right.status injection) :
    left.summary = right.summary := by
  have analyses : left.analyses = right.analyses := by rw [analyses_eq, analyses_eq, files]
  have injections : left.injections = right.injections := by
    rw [Workspace.injections, Workspace.injections, analyses]
  have size : left.files.size = right.files.size := by
    have sizes := congrArg SortedMap.size files
    simpa only [fileMap, SortedMap.size_mapValues] using sizes
  have counts : ∀ kind, left.countStatus kind = right.countStatus kind := by
    intro kind
    simp only [countStatus, injections, status]
  simp only [Workspace.summary, Registry.size, size, analyses, beans, injections, counts]

theorem agrees_of_findByName? (consistent : left.registry.Consistent)
    (consistent' : right.registry.Consistent) (files : left.fileMap = right.fileMap)
    (found : ∀ name, left.registry.findByName? name = right.registry.findByName? name) :
    left.Agrees right := by
  obtain ⟨live, represents⟩ := consistent
  obtain ⟨live', represents'⟩ := consistent'
  have reordered := represents.reordered represents' found
  have status : ∀ injection, left.status injection = right.status injection :=
    fun injection => reordered.status injection.targetType (some injection.nameHint)
  exact {
    files
    findByName? := found
    findByType := reordered.findByType
    status
    summary := summary_congr files (SortedMap.ext_find found) status }

/-- After any history in which no refresh lists a path twice and at no time two files define the same
name, the workspace agrees with a new one that is filled at once, in any order, with the documents
present at the end. -/
theorem edits_agree_with_rebuild (settings : DetectorSettings) (edits : List Edit)
    (apart : ∀ edit ∈ edits, PathsApart edit.documents)
    (separate : ∀ initial ∈ edits.inits, (after settings initial).SeparateNames)
    (documents : List (FilePath × Document)) (order : documents.Perm (documentsAfter edits)) :
    (after settings edits).Agrees (({ settings } : Workspace).refresh documents) := by
  have separateAfter := separate edits ((List.mem_inits _ _).mpr (List.prefix_refl _))
  have fresh : ({ settings } : Workspace).refresh documents = after settings [.refresh (.ok documents)] := rfl
  rw [fresh]
  have apart' : PathsApart documents :=
    (order.map _).nodup_iff.mpr (pathsApart_documentsAfter edits apart)
  have apartFresh : ∀ edit ∈ [Edit.refresh (.ok documents)], PathsApart edit.documents := by
    simpa [Edit.documents] using apart'
  have files : (after settings edits).fileMap = (after settings [.refresh (.ok documents)]).fileMap :=
    (shows_after settings edits apart).fileMap_eq (shows_after settings _ apartFresh)
      (by simp) order.symm
  have separateFresh : (after settings [.refresh (.ok documents)]).SeparateNames := by
    rw [SeparateNames, analyses_eq, ← files, ← analyses_eq]
    exact separateAfter
  have faithfulFresh : (after settings [.refresh (.ok documents)]).Faithful := by
    refine faithful_after settings _ apartFresh fun initial member => ?_
    rcases List.mem_cons.mp member with rfl | last
    · exact List.Pairwise.nil
    · obtain rfl : initial = _ := by simpa using last
      exact separateFresh
  exact agrees_of_findByName? (consistent_after settings edits) (consistent_after settings _) files
    ((faithful_after settings edits apart separate).findByName?_eq faithfulFresh files)

/-- A history with a respelled path and a file that defines one name twice. -/
def respelled : List Edit := [
  .refresh (.ok [
    (⟨"src/A.java"⟩, .ofText "@Service class A \x7b @Autowired Foo foo; \x7d"),
    (⟨"B.java"⟩, .ofText "@Component class B implements Foo \x7b\x7d")]),
  .update ⟨"C.java"⟩ (.ofText "@Component class C implements Foo \x7b\x7d"),
  .remove ⟨"B.java/"⟩,
  .update ⟨"src//A.java"⟩
    (.ofText "@Service class D \x7b @Autowired Foo foo; \x7d @Service(\"d\") class E \x7b\x7d")]

theorem respelled_agrees_with_rebuild :
    (∀ edit ∈ respelled, PathsApart edit.documents) ∧
    (∀ initial ∈ respelled.inits, (after {} initial).SeparateNames) ∧
    (after {} respelled).registry.beans.map (fun bean => (bean.name, bean.type)) =
      [("c", "C"), ("d", "E")] ∧
    (after {} respelled).Agrees (({} : Workspace).refresh (documentsAfter respelled).reverse) :=
  ⟨by decide +kernel, by decide +kernel, by decide +kernel,
    edits_agree_with_rebuild {} respelled (by decide +kernel) (by decide +kernel) _
      (List.reverse_perm _)⟩

end Workspace
end BeanAtlas
