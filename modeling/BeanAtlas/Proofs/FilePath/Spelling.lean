import BeanAtlas.Proofs.FilePath

/-!
How the paths of names are spelled: with single slashes between them, behind a slash or none where they stand
below a directory.
-/
namespace BeanAtlas

namespace Text

theorem intercalate_splitAt (mark : Char) (cs : List Char) : [mark].intercalate (splitAt mark cs) = cs := by
  induction cs with
  | nil => simp [splitAt]
  | cons c cs ih =>
    cases parts : splitAt mark cs with
    | nil => exact absurd parts (splitAt_ne_nil cs)
    | cons part rest =>
      rw [parts] at ih
      by_cases hit : c = mark
      · simp [splitAt, hit, parts, ih]
      · have joined : [mark].intercalate ((c :: part) :: rest) = c :: [mark].intercalate (part :: rest) := by
          cases rest <;> simp
        simp [splitAt, hit, parts, joined, ih]

end Text

namespace FilePath

variable {path : FilePath} {names dirs : List String} {name : String}

/-! ### Names with single slashes between them -/

theorem spell_toList (names : List String) : spell (names.map String.toList) = "/".intercalate names := by
  simp [spell, Function.comp_def]

theorem Led.ofNames (proper : ∀ name ∈ names, IsEntryName name) : Led none (names.map String.toList) where
  kind := .inl rfl
  whole segment member := by
    obtain ⟨name, listed, rfl⟩ := List.mem_map.mp member
    exact (proper name listed).1
  front _ segment member := by
    obtain ⟨name, listed, rfl⟩ := List.mem_map.mp (List.mem_of_mem_head? member)
    exact (proper name listed).isVoid

theorem dropVoidEnd_names (proper : ∀ name ∈ names, IsEntryName name) :
    dropVoidEnd (names.map String.toList) = names.map String.toList := by
  refine List.rdropWhile_eq_self_iff.mpr fun filled => ?_
  obtain ⟨name, listed, last⟩ := List.mem_map.mp (List.getLast_mem filled)
  simp [← last, (proper name listed).isVoid]

/-- The parent of a path of names is spelled with the names but the last. -/
theorem parent?_names (proper : ∀ step ∈ dirs ++ [name], IsEntryName step) :
    (FilePath.mk ("/".intercalate (dirs ++ [name]))).parent? = some ⟨"/".intercalate dirs⟩ := by
  have lead := lead_spell (by simp) (Led.ofNames proper)
  have kept := dropVoidEnd_names proper
  have outer := dropVoidEnd_names fun step member => proper step (List.mem_append_left _ member)
  rw [spell_toList] at lead
  have filled : dropVoidEnd (FilePath.mk ("/".intercalate (dirs ++ [name]))).lead.2 ≠ [] := by
    rw [lead, kept]
    simp
  rw [parent?_of_filled filled, lead, kept, List.map_append, List.map_singleton, List.dropLast_concat, outer,
    respell, spell_toList]

theorem head?_names (proper : ∀ name ∈ names, IsEntryName name) :
    ("/".intercalate names).toList.head? ≠ some '/' := by
  rw [← spell_toList]
  exact head?_spell (Led.ofNames proper)

theorem length_le_names (names : List String) : names.length ≤ ("/".intercalate names).toList.length + 1 := by
  rw [← spell_toList, toList_spell]
  induction names with
  | nil => simp
  | cons name rest ih =>
    cases rest with
    | nil => simp
    | cons second rest =>
      simp only [List.map_cons, List.intercalate_cons_cons, List.length_append, List.length_cons] at ih ⊢
      omega

/-- What `join` puts between a directory and the name of an entry. -/
def gap (path : FilePath) : List Char :=
  if path.spelling.toList.getLast?.any (· != '/') then ['/'] else []

theorem toList_join (path : FilePath) (name : String) :
    (path.join name).spelling.toList = path.spelling.toList ++ path.gap ++ name.toList := by
  unfold join gap
  split
  · next blank => simp_all
  · next last => simp [last]
  · next c other last => simp_all

theorem gap_join (proper : IsEntryName name) : (path.join name).gap = ['/'] := by
  have filled : name.toList ≠ [] := by simpa using proper.2.1
  have last : (path.join name).spelling.toList.getLast? = some (name.toList.getLast filled) := by
    rw [toList_join, List.getLast?_append_of_ne_nil _ filled, List.getLast?_eq_getLast_of_ne_nil filled]
  have apart : name.toList.getLast filled ≠ '/' := fun slash => proper.1 (slash ▸ List.getLast_mem filled)
  simp [gap, last, apart]

/-- The spelling of what lies below a directory. -/
theorem toList_descend (filled : names ≠ []) (proper : ∀ name ∈ names, IsEntryName name) :
    (path.descend names).spelling.toList =
      path.spelling.toList ++ path.gap ++ ("/".intercalate names).toList := by
  induction names generalizing path with
  | nil => exact absurd rfl filled
  | cons name rest ih =>
    cases rest with
    | nil => simpa [descend] using toList_join path name
    | cons second rest =>
      have below := @ih (path.join name) (by simp) fun other member =>
        proper other (List.mem_cons_of_mem _ member)
      have spelled : ("/".intercalate (name :: second :: rest)).toList =
          name.toList ++ ['/'] ++ ("/".intercalate (second :: rest)).toList := by simp
      rw [gap_join (proper name (by simp)), toList_join] at below
      rw [spelled]
      simpa [descend] using below

theorem gap_eq (path : FilePath) :
    path.gap = ['/'] ∧ path.spelling.toList ≠ [] ∨
      path.gap = [] ∧ (path.spelling.toList = [] ∨ path.spelling.toList.getLast? = some '/') := by
  unfold gap
  cases last : path.spelling.toList.getLast? with
  | none => simp_all
  | some c =>
    have filled : path.spelling.toList ≠ [] := by
      intro blank
      simp [blank] at last
    by_cases slash : c = '/' <;> simp [slash, filled]

theorem names_not_dotted (proper : ∀ name ∈ names, IsEntryName name) (rest : List Char) :
    ("/".intercalate names).toList ≠ '.' :: '/' :: rest := by
  intro dotted
  rw [← spell_toList, toList_spell] at dotted
  have filled : names.map String.toList ≠ [] := by
    intro blank
    simp [blank] at dotted
  have split := Text.splitAt_intercalate filled (Led.ofNames proper).whole
  rw [dotted] at split
  have first : ['.'] ∈ names.map String.toList := by
    rw [← split, ← List.singleton_append, Text.splitAt_append]
    simp [Text.splitAt]
  obtain ⟨name, listed, spelled⟩ := List.mem_map.mp first
  have solid := (proper name listed).isVoid
  simp [spelled, isVoid] at solid

/-! ### Spellings of the current directory -/

theorem step?_ne_here (segment : List Char) : step? segment ≠ some .here := by
  unfold step?
  split
  · simp
  · split <;> simp

/-- Only `.` and what begins with `./` can be the current directory. -/
theorem dotted_of_same {cs : List Char} (here : (FilePath.mk (String.ofList cs)).same ⟨"."⟩) :
    cs = ['.'] ∨ ∃ rest, cs = '.' :: '/' :: rest := by
  have steps : (FilePath.mk (String.ofList cs)).components = [.here] := eq_of_beq here
  have spelled : (FilePath.mk (String.ofList cs)).spelling.toList = cs := String.toList_ofList
  by_cases slash : cs.head? = some '/'
  · obtain ⟨rest, rfl⟩ := List.head?_eq_some_iff.mp slash
    rw [components, lead_root spelled] at steps
    simp at steps
  · cases split : Text.splitAt '/' cs with
    | nil => exact absurd split (Text.splitAt_ne_nil cs)
    | cons segment rest =>
      have read := lead_relative (spelled.symm ▸ slash) (spelled.symm ▸ split)
      by_cases dot : segment = ['.']
      · have joined := Text.intercalate_splitAt '/' cs
        rw [split, dot] at joined
        cases rest with
        | nil => exact .inl (by simpa using joined.symm)
        | cons second rest => exact .inr ⟨_, by simpa using joined.symm⟩
      · rw [components, read, if_neg dot] at steps
        have all : (segment :: rest).filterMap step? = [.here] := steps
        obtain ⟨other, -, step⟩ := List.mem_filterMap.mp (all ▸ List.mem_singleton_self Component.here)
        exact absurd step (step?_ne_here other)

end FilePath

end BeanAtlas
