import BeanAtlas.FilePath
import BeanAtlas.Proofs.Text.Ends
import Mathlib.Data.List.DropRight

/-!
Paths by their components. Whatever is cut off a spelling or added to it, the components follow: an entry
of a directory has one component more, the parent one less, and the path below a base those behind the
base. So questions about spellings become questions about lists of components.
-/
namespace BeanAtlas

namespace Text

variable {mark : Char}

theorem splitAt_ne_nil (cs : List Char) : splitAt mark cs ≠ [] := by
  cases cs with
  | nil => simp [splitAt]
  | cons c cs =>
    rw [splitAt]
    split
    · simp
    · split <;> simp

theorem splitAt_of_not_mem {cs : List Char} (absent : mark ∉ cs) : splitAt mark cs = [cs] := by
  induction cs with
  | nil => rfl
  | cons c cs ih =>
    obtain ⟨apart, absent⟩ := not_or.mp (mt List.mem_cons.mpr absent)
    simp [splitAt, ih absent, Ne.symm apart]

theorem splitAt_append (first second : List Char) :
    splitAt mark (first ++ mark :: second) = splitAt mark first ++ splitAt mark second := by
  induction first with
  | nil => simp [splitAt]
  | cons c cs ih =>
    rw [List.cons_append, splitAt, splitAt, ih]
    split
    · rfl
    · cases parts : splitAt mark cs with
      | nil => exact absurd parts (splitAt_ne_nil cs)
      | cons part rest => rfl

theorem not_mem_of_mem_splitAt {cs part : List Char} (member : part ∈ splitAt mark cs) :
    mark ∉ part := by
  induction cs generalizing part with
  | nil => simp_all [splitAt]
  | cons c cs ih =>
    rw [splitAt] at member
    split at member
    · rcases List.mem_cons.mp member with rfl | member
      · simp
      · exact ih member
    · next apart =>
      cases parts : splitAt mark cs with
      | nil => exact absurd parts (splitAt_ne_nil cs)
      | cons first rest =>
        rw [parts] at member ih
        rcases List.mem_cons.mp member with rfl | member
        · have absent : mark ∉ first := ih (by simp)
          simpa [absent] using Ne.symm (by simpa using apart)
        · exact ih (List.mem_cons_of_mem _ member)

theorem splitAt_intercalate {parts : List (List Char)} (filled : parts ≠ [])
    (absent : ∀ part ∈ parts, mark ∉ part) : splitAt mark ([mark].intercalate parts) = parts := by
  induction parts with
  | nil => exact absurd rfl filled
  | cons first rest ih =>
    cases rest with
    | nil => simpa using splitAt_of_not_mem (absent first (by simp))
    | cons second rest =>
      have later := ih (by simp) fun part member => absent part (List.mem_cons_of_mem _ member)
      rw [List.intercalate_cons_cons, List.append_assoc, List.singleton_append, splitAt_append,
        splitAt_of_not_mem (absent first (by simp)), later]
      rfl

end Text

namespace FilePath

/-- None of the segments contains a slash. -/
def Whole (segments : List (List Char)) : Prop := ∀ segment ∈ segments, '/' ∉ segment

theorem Whole.of_splitAt (cs : List Char) : Whole (Text.splitAt '/' cs) :=
  fun _ => Text.not_mem_of_mem_splitAt

theorem Whole.sublist {segments part : List (List Char)} (whole : Whole segments)
    (sublist : part.Sublist segments) : Whole part :=
  fun segment member => whole segment (sublist.mem member)

theorem toList_spell (segments : List (List Char)) :
    (spell segments).toList = ['/'].intercalate segments := by
  simp [spell, Function.comp_def]

theorem step?_of_isVoid {segment : List Char} (void : isVoid segment) : step? segment = none := by
  simp [step?, void]

theorem step?_isSome {segment : List Char} (solid : isVoid segment = false) :
    (step? segment).isSome := by
  unfold step?
  split
  · simp_all
  · split <;> rfl

/-! ### The first step of a spelling -/

variable {path base : FilePath}

theorem lead_root {rest : List Char} (spelled : path.spelling.toList = '/' :: rest) :
    path.lead = (some .root, Text.splitAt '/' rest) := by
  simp [lead, spelled]

/-- Without a slash in front the first segment decides. -/
theorem lead_relative {segment : List Char} {rest : List (List Char)}
    (relative : path.spelling.toList.head? ≠ some '/')
    (split : Text.splitAt '/' path.spelling.toList = segment :: rest) :
    path.lead = if segment = ['.'] then (some .here, rest) else (none, segment :: rest) := by
  unfold lead
  split
  · next spelled => simp [spelled] at relative
  · rw [split]
    by_cases dot : segment = ['.']
    · simp [dot]
    · simp [dot]

/-- Segments that can stand behind a first step: without one, the spelling must not begin like one. -/
structure Led (first : Option Component) (segments : List (List Char)) : Prop where
  kind : first = none ∨ first = some .root ∨ first = some .here
  whole : Whole segments
  front : first = none → ∀ segment ∈ segments.head?, isVoid segment = false

/-- A path spelled from its first step and the segments behind it. -/
def respell : Option Component → List (List Char) → FilePath
  | none, segments => ⟨spell segments⟩
  | some .root, segments => ⟨"/" ++ spell segments⟩
  | some _, segments => ⟨if (spell segments).isEmpty then "." else "./" ++ spell segments⟩

theorem filterMap_splitAt_spell {segments : List (List Char)} (whole : Whole segments) :
    (Text.splitAt '/' (spell segments).toList).filterMap step? = segments.filterMap step? := by
  rw [toList_spell]
  by_cases blank : segments = []
  · subst blank
    rfl
  · rw [Text.splitAt_intercalate blank whole]

theorem head?_spell {segments : List (List Char)} (led : Led none segments) :
    (spell segments).toList.head? ≠ some '/' := by
  rw [toList_spell]
  cases segments with
  | nil => simp
  | cons segment rest =>
    have solid : isVoid segment = false := led.front rfl segment (by simp)
    cases segment with
    | nil => simp [isVoid] at solid
    | cons c cs =>
      have apart : c ≠ '/' := by
        rintro rfl
        exact led.whole ('/' :: cs) (by simp) (by simp)
      cases rest <;> simp [apart]

theorem lead_spell {segments : List (List Char)} (filled : segments ≠ []) (led : Led none segments) :
    (FilePath.mk (spell segments)).lead = (none, segments) := by
  cases segments with
  | nil => exact absurd rfl filled
  | cons segment rest =>
    have split : Text.splitAt '/' (spell (segment :: rest)).toList = segment :: rest := by
      rw [toList_spell, Text.splitAt_intercalate filled led.whole]
    have dot : segment ≠ ['.'] := by
      rintro rfl
      simpa [isVoid] using led.front rfl ['.'] (by simp)
    have read := @lead_relative ⟨spell (segment :: rest)⟩ segment rest (head?_spell led) split
    rw [read, if_neg dot]

theorem components_respell {first : Option Component} {segments : List (List Char)}
    (led : Led first segments) :
    (respell first segments).components = first.toList ++ segments.filterMap step? := by
  rcases led.kind with rfl | rfl | rfl
  · by_cases blank : segments = []
    · subst blank
      rfl
    · simp [components, respell, lead_spell blank led]
  · have spelled : (respell (some .root) segments).spelling.toList = '/' :: (spell segments).toList := by
      simp [respell]
    simp [components, lead_root spelled, filterMap_splitAt_spell led.whole]
  · by_cases blank : (spell segments).toList = []
    · have steps := filterMap_splitAt_spell led.whole
      have dot : respell (some .here) segments = ⟨"."⟩ := by simp_all [respell]
      rw [blank] at steps
      rw [dot, ← steps]
      rfl
    · have spelled : (respell (some .here) segments).spelling.toList =
          ['.'] ++ '/' :: (spell segments).toList := by
        simp_all [respell]
      have split : Text.splitAt '/' (respell (some .here) segments).spelling.toList =
          ['.'] :: Text.splitAt '/' (spell segments).toList := by
        rw [spelled, Text.splitAt_append]
        rfl
      have relative : (respell (some .here) segments).spelling.toList.head? ≠ some '/' := by
        simp [spelled]
      simp [components, lead_relative relative split, filterMap_splitAt_spell led.whole]

/-! ### Void segments -/

theorem filterMap_dropWhile_isVoid (segments : List (List Char)) :
    (segments.dropWhile isVoid).filterMap step? = segments.filterMap step? := by
  induction segments with
  | nil => rfl
  | cons segment rest ih =>
    cases void : isVoid segment with
    | true => simp [void, ih, step?_of_isVoid void]
    | false => simp [void]

theorem filterMap_dropVoidEnd (segments : List (List Char)) :
    (dropVoidEnd segments).filterMap step? = segments.filterMap step? := by
  rw [dropVoidEnd, List.filterMap_reverse, filterMap_dropWhile_isVoid, List.filterMap_reverse,
    List.reverse_reverse]

theorem dropVoidEnd_start (segments : List (List Char)) : dropVoidEnd segments <+: segments :=
  List.rdropWhile_prefix isVoid segments

theorem head?_of_start {part segments : List (List Char)} (start : part <+: segments)
    {segment : List Char} (first : segment ∈ part.head?) : segment ∈ segments.head? := by
  obtain ⟨rest, rfl⟩ := start
  cases part with
  | nil => simp at first
  | cons head tail => simpa using first

theorem Led.of_start {first : Option Component} {segments part : List (List Char)}
    (led : Led first segments) (start : part <+: segments) : Led first part where
  kind := led.kind
  whole := led.whole.sublist start.sublist
  front none segment member := led.front none segment (head?_of_start start member)

theorem Led.ofTidy {segments : List (List Char)} (whole : Whole segments) :
    Led none (dropVoidEnd (segments.dropWhile isVoid)) where
  kind := .inl rfl
  whole := whole.sublist ((dropVoidEnd_start _).sublist.trans (List.dropWhile_sublist _))
  front _ segment member := by
    have first := head?_of_start (dropVoidEnd_start _) member
    have solid := List.head?_dropWhile_not isVoid segments
    rwa [Option.mem_def.mp first] at solid

theorem led_lead (path : FilePath) :
    Whole path.lead.2 ∧ Led path.lead.1 (dropVoidEnd path.lead.2) := by
  have start := fun segments => (dropVoidEnd_start segments).sublist
  cases spelled : path.spelling.toList with
  | nil =>
    have empty : path.lead = (none, [[]]) := by simp [lead, spelled, Text.splitAt]
    rw [empty]
    refine ⟨by simp [Whole], .inl rfl, by simp [Whole, dropVoidEnd, isVoid], ?_⟩
    simp [dropVoidEnd, isVoid]
  | cons c cs =>
    by_cases slash : c = '/'
    · subst slash
      rw [lead_root spelled]
      have whole := Whole.of_splitAt cs
      exact ⟨whole, .inr (.inl rfl), whole.sublist (start _), by simp⟩
    · have relative : path.spelling.toList.head? ≠ some '/' := by simp [spelled, slash]
      have whole := Whole.of_splitAt path.spelling.toList
      cases split : Text.splitAt '/' path.spelling.toList with
      | nil => exact absurd split (Text.splitAt_ne_nil _)
      | cons segment rest =>
        rw [split] at whole
        rw [lead_relative relative split]
        by_cases dot : segment = ['.']
        · have whole := whole.sublist (List.sublist_cons_self segment rest)
          simp only [dot, if_true]
          exact ⟨whole, .inr (.inr rfl), whole.sublist (start _), by simp⟩
        · have filled : segment ≠ [] := by
            rintro rfl
            rw [spelled, Text.splitAt] at split
            split at split
            · simp_all
            · split at split <;> simp at split
          simp only [dot, if_false]
          refine ⟨whole, .inl rfl, whole.sublist (start _), ?_⟩
          intro _ first member
          have first : first = segment := by simpa using (head?_of_start (dropVoidEnd_start _) member).symm
          simp [first, isVoid, filled, dot]

/-! ### Parents, entries and what lies below -/

/-- The last segment that is kept is a step, so cutting it off cuts off one step. -/
theorem filterMap_dropLast_dropVoidEnd {segments : List (List Char)} (filled : dropVoidEnd segments ≠ []) :
    ∃ step, (dropVoidEnd segments).filterMap step? =
      (dropVoidEnd segments).dropLast.filterMap step? ++ [step] := by
  have solid : isVoid ((dropVoidEnd segments).getLast filled) = false :=
    Bool.not_eq_true _ ▸ List.rdropWhile_last_not isVoid segments filled
  obtain ⟨step, read⟩ := Option.isSome_iff_exists.mp (step?_isSome solid)
  refine ⟨step, ?_⟩
  have parts := List.dropLast_append_getLast filled
  calc (dropVoidEnd segments).filterMap step?
      = ((dropVoidEnd segments).dropLast ++ [(dropVoidEnd segments).getLast filled]).filterMap step? := by
        rw [parts]
    _ = (dropVoidEnd segments).dropLast.filterMap step? ++ [step] := by
        rw [List.filterMap_append, List.filterMap_cons, read]
        rfl

theorem parent?_of_filled (filled : dropVoidEnd path.lead.2 ≠ []) :
    path.parent? = some (respell path.lead.1 (dropVoidEnd (dropVoidEnd path.lead.2).dropLast)) := by
  have kept : (dropVoidEnd path.lead.2).isEmpty = false := by simpa using filled
  simp only [parent?, kept]
  split <;> simp_all [respell]

/-- The directory above a path has its components but the last. -/
theorem components_parent? (path : FilePath) :
    (path.parent?.map components).getD [] = path.components.dropLast := by
  obtain ⟨-, led⟩ := led_lead path
  have steps : path.components =
      path.lead.1.toList ++ (dropVoidEnd path.lead.2).filterMap step? := by
    rw [components, filterMap_dropVoidEnd]
  by_cases blank : dropVoidEnd path.lead.2 = []
  · rw [steps, blank]
    rcases led.kind with first | first | first
    · simp [parent?, blank, first]
    · simp [parent?, blank, first]
    · have hollow : (FilePath.mk "").components = [] := rfl
      simp [parent?, blank, first, hollow]
  · obtain ⟨step, cut⟩ := filterMap_dropLast_dropVoidEnd blank
    have outer : Led path.lead.1 (dropVoidEnd (dropVoidEnd path.lead.2).dropLast) :=
      led.of_start ((dropVoidEnd_start _).trans (List.dropLast_prefix _))
    rw [parent?_of_filled blank, steps, cut, ← List.append_assoc, List.dropLast_concat]
    simp [components_respell outer, filterMap_dropVoidEnd]

theorem behind_of_steps {steps more : List Component} {segments : List (List Char)}
    (found : segments.filterMap step? = steps ++ more) :
    ∃ rest, behind steps segments = some rest ∧ rest.Sublist segments ∧
      rest.filterMap step? = more := by
  induction segments generalizing steps with
  | nil =>
    obtain ⟨rfl, rfl⟩ : steps = [] ∧ more = [] := by simpa using found.symm
    exact ⟨[], rfl, .refl _, rfl⟩
  | cons segment segments ih =>
    cases steps with
    | nil => exact ⟨segment :: segments, rfl, .refl _, found⟩
    | cons step steps =>
      cases read : step? segment with
      | none =>
        rw [List.filterMap_cons, read] at found
        obtain ⟨rest, behind, sublist, left⟩ := ih found
        exact ⟨rest, by simp [FilePath.behind, read, behind], sublist.cons _, left⟩
      | some first =>
        simp only [List.filterMap_cons, read, List.cons_append, List.cons.injEq] at found
        obtain ⟨rfl, found⟩ := found
        obtain ⟨rest, behind, sublist, left⟩ := ih found
        exact ⟨rest, by simp [FilePath.behind, read, behind], sublist.cons _, left⟩

theorem below?_of_blank (blank : base.components = []) :
    path.below? base = some (respell path.lead.1 (dropVoidEnd path.lead.2)).spelling := by
  unfold below?
  split
  · next shape _ => simp [shape, respell]
  · next first segments shape _ => cases first <;> simp [shape, respell]
  · simp_all
  · simp_all

theorem components_tidy {segments : List (List Char)} (whole : Whole segments) :
    (FilePath.mk (below?.tidy segments)).components = segments.filterMap step? := by
  have tidied := components_respell (Led.ofTidy whole)
  rwa [filterMap_dropVoidEnd, filterMap_dropWhile_isVoid] at tidied

/-- Below a base that is a leading part of it, a path has the components behind those of the base. -/
theorem below?_of_components {steps : List Component}
    (under : path.components = base.components ++ steps) :
    ∃ relative, path.below? base = some relative ∧ (FilePath.mk relative).components = steps := by
  obtain ⟨whole, led⟩ := led_lead path
  cases start : base.components with
  | nil =>
    refine ⟨_, below?_of_blank start, ?_⟩
    rw [start, List.nil_append, components, ← filterMap_dropVoidEnd] at under
    exact (components_respell led).trans under
  | cons step rest =>
    rw [start, components] at under
    unfold below?
    rw [start]
    clear led
    generalize path.lead = shape at whole under
    obtain ⟨first, segments⟩ := shape
    cases first with
    | none =>
      obtain ⟨left, found, sublist, steps⟩ := behind_of_steps under
      exact ⟨_, by simp [found], (components_tidy (whole.sublist sublist)).trans steps⟩
    | some first =>
      simp only [Option.toList_some, List.cons_append, List.nil_append, List.cons.injEq] at under
      obtain ⟨rfl, under⟩ := under
      obtain ⟨left, found, sublist, steps⟩ := behind_of_steps under
      exact ⟨_, by simp [found], (components_tidy (whole.sublist sublist)).trans steps⟩

/-- A name that an entry of a directory can have. -/
def IsEntryName (name : String) : Prop :=
  '/' ∉ name.toList ∧ name ≠ "" ∧ name ≠ "." ∧ name ≠ ".."

instance (name : String) : Decidable (IsEntryName name) :=
  inferInstanceAs (Decidable (_ ∧ _))

theorem IsEntryName.step? {name : String} (proper : IsEntryName name) :
    FilePath.step? name.toList = some (.name name) := by
  obtain ⟨-, filled, dot, dots⟩ := proper
  have filled : name.toList ≠ [] := by simpa using filled
  have dot : name.toList ≠ ['.'] := fun same => dot (String.toList_inj.mp same)
  have dots : name.toList ≠ ['.', '.'] := fun same => dots (String.toList_inj.mp same)
  simp [FilePath.step?, isVoid, filled, dot, dots]

theorem filterMap_splitAt_whole {segment : List Char} (whole : '/' ∉ segment) :
    (Text.splitAt '/' segment).filterMap step? = (step? segment).toList := by
  rw [Text.splitAt_of_not_mem whole]
  cases read : step? segment <;> simp [read]

/-- A segment behind a slash adds its step. -/
theorem components_of_slash {segment : List Char} (filled : base.spelling.toList ≠ [])
    (whole : '/' ∉ segment) (spelled : path.spelling.toList = base.spelling.toList ++ '/' :: segment) :
    path.components = base.components ++ (step? segment).toList := by
  rw [← filterMap_splitAt_whole whole]
  cases outer : base.spelling.toList with
  | nil => exact absurd outer filled
  | cons c cs =>
    rw [outer] at spelled
    by_cases slash : c = '/'
    · subst slash
      simp [components, lead_root outer, lead_root spelled, Text.splitAt_append]
    · cases split : Text.splitAt '/' (c :: cs) with
      | nil => exact absurd split (Text.splitAt_ne_nil _)
      | cons first rest =>
        have split' : Text.splitAt '/' path.spelling.toList =
            first :: (rest ++ Text.splitAt '/' segment) := by
          rw [spelled, Text.splitAt_append, split]
          rfl
        have before := lead_relative (by simp [outer, slash]) (outer ▸ split)
        have after := lead_relative (by simp [spelled, slash]) split'
        by_cases dot : first = ['.']
        · simp [components, before, after, dot]
        · rw [components, components, before, after, if_neg dot, if_neg dot, ← List.cons_append,
            List.filterMap_append, List.append_assoc]

theorem IsEntryName.isVoid {name : String} (proper : IsEntryName name) :
    FilePath.isVoid name.toList = false := by
  cases void : FilePath.isVoid name.toList with
  | true => simpa [step?_of_isVoid void] using proper.step?
  | false => rfl

theorem components_name {name : String} (proper : IsEntryName name) :
    (FilePath.mk name).components = [.name name] := by
  have led : Led none [name.toList] :=
    ⟨.inl rfl, by simpa [Whole] using proper.1, by simpa using proper.isVoid⟩
  have spelled := components_respell led
  simpa [respell, spell, proper.step?] using spelled

/-- An entry of a directory has the components of the directory and its name. -/
theorem components_join {name : String} (proper : IsEntryName name) :
    (path.join name).components = path.components ++ [.name name] := by
  have step : (FilePath.step? name.toList).toList = [.name name] := by simp [proper.step?]
  unfold join
  split
  · next blank =>
    have blank : path = ⟨""⟩ := by
      obtain ⟨spelling⟩ := path
      simpa using blank
    rw [components_name proper, blank]
    rfl
  · next last =>
    obtain ⟨text, spelled⟩ := List.getLast?_eq_some_iff.mp last
    by_cases blank : text = []
    · have root : path = ⟨"/"⟩ := by
        obtain ⟨spelling⟩ := path
        rw [blank] at spelled
        exact congrArg FilePath.mk (String.toList_inj.mp spelled)
      have below : (FilePath.mk (path.spelling ++ name)).spelling.toList = '/' :: name.toList := by
        simp [spelled, blank]
      rw [components, lead_root below, filterMap_splitAt_whole proper.1, step, root]
      rfl
    · have outer : path.components = (FilePath.mk (String.ofList text)).components := by
        have cut := @components_of_slash path ⟨String.ofList text⟩ [] (by simpa using blank) (by simp)
          (by simpa using spelled)
        simpa [FilePath.step?, isVoid] using cut
      have inner := @components_of_slash ⟨path.spelling ++ name⟩ ⟨String.ofList text⟩ name.toList
        (by simpa using blank) proper.1 (by simp [spelled])
      rw [inner, step, outer]
  · next c _ last =>
    have filled : path.spelling.toList ≠ [] := by
      intro blank
      simp [blank] at last
    have inner := @components_of_slash ⟨path.spelling ++ "/" ++ name⟩ path name.toList filled proper.1
      (by simp)
    rw [inner, step]

theorem components_descend {names : List String} (proper : ∀ name ∈ names, IsEntryName name) :
    (path.descend names).components = path.components ++ names.map .name := by
  unfold descend
  induction names generalizing path with
  | nil => simp
  | cons name rest ih =>
    rw [List.foldl_cons, ih fun other member => proper other (List.mem_cons_of_mem _ member),
      components_join (proper name (by simp))]
    simp

/-- Names that lead from one directory to the same place are the same names. -/
theorem steps_cancel {start : List Component} {names other : List String}
    (same : start ++ names.map .name = start ++ other.map .name) : names = other :=
  List.map_injective_iff.mpr (fun _ _ => Component.name.inj) (List.append_cancel_left same)

theorem isJava_congr {file other : FilePath} (same : file.components = other.components) :
    file.isJava = other.isJava := by
  simp [isJava, fileName?, same]

/-! ### Extensions -/

theorem extensionOf?_of_dot {name : String} {stem tail : List Char} (spelled : name.toList = stem ++ '.' :: tail)
    (last : '.' ∉ tail) : extensionOf? name = if stem = [] then none else some (String.ofList tail) := by
  have cut : (stem ++ '.' :: tail).take ((stem ++ '.' :: tail).length - tail.length - 1) = stem := by
    have front : (stem ++ '.' :: tail).length - tail.length - 1 = stem.length := by simp; omega
    rw [front, List.take_left]
  simp only [extensionOf?, spelled, Text.afterLast_append_mark stem last, cut]
  by_cases blank : stem = [] <;> simp [blank]

/-- A name has the extension `java` when it ends in `.java` and is longer than that. -/
theorem extensionOf?_eq_java {name : String} :
    extensionOf? name = some "java" ↔ ∃ stem, stem ≠ "" ∧ name = stem ++ ".java" := by
  constructor
  · intro java
    have dotted : '.' ∈ name.toList := by
      by_contra absent
      simp [extensionOf?, absent] at java
    obtain ⟨stem, tail, spelled, last⟩ := Text.exists_last_mark dotted
    rw [extensionOf?_of_dot spelled last] at java
    by_cases blank : stem = []
    · simp [blank] at java
    · rw [if_neg blank, Option.some.injEq] at java
      have java : tail = ".java".toList.tail := by rw [← String.toList_ofList (l := tail), java]; rfl
      exact ⟨String.ofList stem, by simpa using blank, String.toList_inj.mp (by simp [spelled, java])⟩
  · rintro ⟨stem, filled, rfl⟩
    have spelled : (stem ++ ".java").toList = stem.toList ++ '.' :: "java".toList := by simp
    rw [extensionOf?_of_dot spelled (by decide), if_neg (by simpa using filled), String.ofList_toList]

theorem isJava_descend {path : FilePath} {dirs : List String} {name : String}
    (proper : ∀ step ∈ dirs ++ [name], IsEntryName step) :
    (path.descend (dirs ++ [name])).isJava ↔ extensionOf? name = some "java" := by
  simp [isJava, fileName?, components_descend proper]

end FilePath
end BeanAtlas
