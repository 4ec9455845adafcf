import BeanAtlas.Extract.Class
import BeanAtlas.Injection.Sites
import BeanAtlas.Java.Declarations
import BeanAtlas.Proofs.Text.Search
import Mathlib.Data.List.Forall2

/-!
The place of an `@Autowired` field. With the text at hand the place is moved to the first occurrence of the
field's name on the lines of the declaration below the annotation, whatever it is there: a name in the argument
of another annotation comes before the name that is declared. So the place is that of the declared name
exactly when no other occurrence is the first.
-/
namespace BeanAtlas.Injection

/-- A line of a declaration that has a line with the annotation above it. -/
structure Below (lines : List String) (range : Range) (row : Nat) : Prop where
  known : range.start.line ≠ 0
  inside : row < range.stop.line.toNat
  annotated : ∃ above line, range.start.line.toNat ≤ above + 1 ∧ above < row ∧
    lines[above]? = some line ∧ "@Autowired".toList <:+: line.toList

/-- The name of a field is a word on a line of its declaration below the annotation. -/
def Occurs (lines : List String) (field : Field) (row offset : Nat) : Prop :=
  Below lines field.range row ∧ ∃ line, lines[row]? = some line ∧ Text.WordAt field.name line offset

/-- The occurrence that comes first in the text. -/
structure FirstOccurrence (lines : List String) (field : Field) (row offset : Nat) : Prop where
  occurs : Occurs lines field row offset
  first : ∀ row' offset', Occurs lines field row' offset' → row < row' ∨ row = row' ∧ offset ≤ offset'

variable {lines : List String} {field : Field} {range : Range} {name line : String}
  {numbered : List (String × Nat)} {row offset : Nat}

theorem FirstOccurrence.unique {row' offset' : Nat} (left : FirstOccurrence lines field row offset)
    (right : FirstOccurrence lines field row' offset') : row = row' ∧ offset = offset' := by
  have forth := left.first row' offset' right.occurs
  have back := right.first row offset left.occurs
  omega

/-- The lines of a declaration below the first one with the annotation. -/
def linesBelow (lines : List String) (range : Range) : List (String × Nat) :=
  if range.start.line = 0 then []
  else
    let own := (lines.zipIdx.take range.stop.line.toNat).drop (range.start.line.toNat - 1)
    (own.dropWhile (!Text.contains ·.1 "@Autowired")).tail

theorem refined?_eq (lines : List String) (field : Field) :
    refined? lines field = wordPlace? field.name (linesBelow lines field.range) := by
  unfold refined? ownLines? linesBelow
  split
  · rfl
  · simp only [Option.bind_eq_bind, Option.bind_some]
    split
    · next nothing =>
      rw [nothing]
      rfl
    · next found =>
      rw [found]
      rfl

theorem pairwise_zipIdx (lines : List String) : lines.zipIdx.Pairwise (·.2 < ·.2) := by
  have rows : (lines.zipIdx.map Prod.snd).Pairwise (· < ·) := by
    rw [List.zipIdx_map_snd]
    exact List.pairwise_lt_range'
  exact List.pairwise_map.mp rows

theorem mem_own {low high : Nat} :
    (line, row) ∈ (lines.zipIdx.take high).drop low ↔ lines[row]? = some line ∧ low ≤ row ∧ row < high := by
  rw [List.mem_iff_getElem?]
  simp only [List.getElem?_drop, List.getElem?_take, List.getElem?_zipIdx]
  constructor
  · rintro ⟨index, found⟩
    split at found
    · next inside =>
      obtain ⟨text, present, same⟩ := Option.map_eq_some_iff.mp found
      obtain ⟨rfl, rfl⟩ := Prod.mk.inj same
      exact ⟨by simpa using present, by omega, by omega⟩
    · cases found
  · rintro ⟨present, above, inside⟩
    obtain ⟨index, rfl⟩ := Nat.exists_eq_add_of_le above
    exact ⟨index, by simp [inside, present]⟩

/-- Behind the first wanted line are the lines that have a wanted one above them. -/
theorem mem_tail_dropWhile {wanted : String × Nat → Bool} {member : String × Nat}
    (increasing : numbered.Pairwise (·.2 < ·.2)) :
    member ∈ (numbered.dropWhile (!wanted ·)).tail ↔
      member ∈ numbered ∧ ∃ above ∈ numbered, above.2 < member.2 ∧ wanted above := by
  induction numbered with
  | nil => simp
  | cons first rest ih =>
    obtain ⟨later, increasing⟩ := List.pairwise_cons.mp increasing
    cases found : wanted first with
    | true =>
      rw [List.dropWhile_cons_of_neg (by simp [found]), List.tail_cons]
      constructor
      · intro listed
        exact ⟨List.mem_cons_of_mem _ listed, first, List.mem_cons_self, later member listed, found⟩
      · rintro ⟨listed, above, present, higher, -⟩
        rcases List.mem_cons.mp listed with rfl | listed
        · rcases List.mem_cons.mp present with rfl | inRest
          · omega
          · have lower := later above inRest
            omega
        · exact listed
    | false =>
      rw [List.dropWhile_cons_of_pos (by simp [found]), ih increasing]
      constructor
      · rintro ⟨listed, above, present, higher, hit⟩
        exact ⟨List.mem_cons_of_mem _ listed, above, List.mem_cons_of_mem _ present, higher, hit⟩
      · rintro ⟨listed, above, present, higher, hit⟩
        rcases List.mem_cons.mp present with rfl | inRest
        · simp [found] at hit
        · rcases List.mem_cons.mp listed with rfl | listed
          · have lower := later above inRest
            omega
          · exact ⟨listed, above, inRest, higher, hit⟩

theorem pairwise_own (lines : List String) (low high : Nat) :
    ((lines.zipIdx.take high).drop low).Pairwise (·.2 < ·.2) :=
  ((pairwise_zipIdx lines).take).drop

theorem pairwise_linesBelow (lines : List String) (range : Range) :
    (linesBelow lines range).Pairwise (·.2 < ·.2) := by
  unfold linesBelow
  split
  · exact List.Pairwise.nil
  · exact (pairwise_own lines _ _).sublist ((List.tail_sublist _).trans (List.dropWhile_sublist _))

theorem mem_linesBelow :
    (line, row) ∈ linesBelow lines range ↔ lines[row]? = some line ∧ Below lines range row := by
  unfold linesBelow
  split
  · next unknown =>
    simp only [List.not_mem_nil, false_iff, not_and]
    exact fun _ below => below.known unknown
  · next known =>
    rw [mem_tail_dropWhile (pairwise_own lines _ _), mem_own]
    simp only [Prod.exists, mem_own, Text.contains_iff]
    constructor
    · rintro ⟨⟨present, _, inside⟩, text, above, ⟨found, start, _⟩, higher, annotated⟩
      exact ⟨present, known, inside, above, text, by omega, higher, found, annotated⟩
    · rintro ⟨present, _, inside, above, text, start, higher, found, annotated⟩
      exact ⟨⟨present, by omega, inside⟩, text, above, ⟨found, by omega, by omega⟩, higher, annotated⟩

theorem occurs_iff :
    Occurs lines field row offset ↔
      ∃ line, (line, row) ∈ linesBelow lines field.range ∧ Text.WordAt field.name line offset := by
  simp only [Occurs, mem_linesBelow]
  constructor
  · rintro ⟨below, line, present, occurs⟩
    exact ⟨line, ⟨present, below⟩, occurs⟩
  · rintro ⟨line, ⟨present, below⟩, occurs⟩
    exact ⟨below, line, present, occurs⟩

/-- What is found is an occurrence, whatever characters the name has. -/
theorem wordAt_of_wordPlace? {place : Position} (found : wordPlace? name numbered = some place) :
    ∃ line row offset, (line, row) ∈ numbered ∧ Text.WordAt name line offset ∧
      place = .ofIndices row offset := by
  induction numbered with
  | nil => cases found
  | cons first rest ih =>
    obtain ⟨line, row⟩ := first
    rw [wordPlace?] at found
    split at found
    · next offset scanned =>
      cases found
      exact ⟨line, row, offset, List.mem_cons_self, Text.wordAt_of_wordOffset? scanned, rfl⟩
    · obtain ⟨line', row', offset, listed, occurs, same⟩ := ih found
      exact ⟨line', row', offset, List.mem_cons_of_mem _ listed, occurs, same⟩

/-- A name of identifier characters is found where it occurs first, if it occurs. -/
theorem wordPlace?_none_or_first (word : Text.isWord name) (increasing : numbered.Pairwise (·.2 < ·.2)) :
    (wordPlace? name numbered = none ∧
      ∀ line row offset, (line, row) ∈ numbered → ¬ Text.WordAt name line offset) ∨
    ∃ line row offset, wordPlace? name numbered = some (.ofIndices row offset) ∧
      (line, row) ∈ numbered ∧ Text.WordAt name line offset ∧
      ∀ line' row' offset', (line', row') ∈ numbered → Text.WordAt name line' offset' →
        row < row' ∨ row = row' ∧ offset ≤ offset' := by
  induction numbered with
  | nil => exact .inl ⟨rfl, by simp⟩
  | cons first rest ih =>
    obtain ⟨line, row⟩ := first
    obtain ⟨later, increasing⟩ := List.pairwise_cons.mp increasing
    rw [wordPlace?]
    cases scanned : Text.wordOffset? line name with
    | some offset =>
      refine .inr ⟨line, row, offset, rfl, List.mem_cons_self, Text.wordAt_of_wordOffset? scanned, ?_⟩
      intro line' row' offset' listed occurs
      rcases List.mem_cons.mp listed with same | listed
      · obtain ⟨rfl, rfl⟩ := Prod.mk.inj same
        obtain ⟨found, bound, again⟩ := Text.wordOffset?_le word occurs
        obtain rfl : offset = found := Option.some.inj (scanned.symm.trans again)
        exact .inr ⟨rfl, bound⟩
      · exact .inl (later (line', row') listed)
    | none =>
      have absent : ∀ offset, ¬ Text.WordAt name line offset := by
        intro offset occurs
        obtain ⟨found, _, again⟩ := Text.wordOffset?_le word occurs
        cases scanned.symm.trans again
      have elsewhere : ∀ line' row' offset', (line', row') ∈ (line, row) :: rest →
          Text.WordAt name line' offset' → (line', row') ∈ rest := by
        intro line' row' offset' listed occurs
        rcases List.mem_cons.mp listed with same | listed
        · obtain ⟨rfl, rfl⟩ := Prod.mk.inj same
          exact absurd occurs (absent offset')
        · exact listed
      rcases ih increasing with ⟨nothing, never⟩ | ⟨text, low, offset, placed, listed, occurs, first⟩
      · refine .inl ⟨nothing, fun line' row' offset' listed occurs => ?_⟩
        exact never line' row' offset' (elsewhere line' row' offset' listed occurs) occurs
      · refine .inr ⟨text, low, offset, placed, List.mem_cons_of_mem _ listed, occurs, ?_⟩
        intro line' row' offset' listed occurs
        exact first line' row' offset' (elsewhere line' row' offset' listed occurs) occurs

theorem occurs_of_refined? {place : Position} (found : refined? lines field = some place) :
    ∃ row offset, Occurs lines field row offset ∧ place = .ofIndices row offset := by
  rw [refined?_eq] at found
  obtain ⟨line, row, offset, listed, occurs, same⟩ := wordAt_of_wordPlace? found
  exact ⟨row, offset, occurs_iff.mpr ⟨line, listed, occurs⟩, same⟩

theorem refined?_none_or_first (lines : List String) (word : Text.isWord field.name) :
    (refined? lines field = none ∧ ∀ row offset, ¬ Occurs lines field row offset) ∨
    ∃ row offset, refined? lines field = some (.ofIndices row offset) ∧
      FirstOccurrence lines field row offset := by
  rw [refined?_eq]
  rcases wordPlace?_none_or_first word (pairwise_linesBelow lines field.range) with
    ⟨nothing, never⟩ | ⟨line, row, offset, placed, listed, occurs, first⟩
  · refine .inl ⟨nothing, fun row offset occurs => ?_⟩
    obtain ⟨line, listed, occurs⟩ := occurs_iff.mp occurs
    exact never line row offset listed occurs
  · refine .inr ⟨row, offset, placed, occurs_iff.mpr ⟨line, listed, occurs⟩, ?_⟩
    intro row' offset' occurs
    obtain ⟨line', listed, occurs⟩ := occurs_iff.mp occurs
    exact first line' row' offset' listed occurs

/-- The refined place of a field, its own place if there is none. -/
def fieldPlace (lines : List String) (field : Field) : Position := (refined? lines field).getD field.position

theorem fieldPlace_eq_of_occurs
    (own : ∀ row offset, Occurs lines field row offset → .ofIndices row offset = field.position) :
    fieldPlace lines field = field.position := by
  unfold fieldPlace
  cases found : refined? lines field with
  | none => rfl
  | some refined =>
    obtain ⟨row, offset, occurs, rfl⟩ := occurs_of_refined? found
    exact own row offset occurs

theorem fieldPlace_eq_iff (word : Text.isWord field.name) :
    fieldPlace lines field = field.position ↔
      ∀ row offset, FirstOccurrence lines field row offset → .ofIndices row offset = field.position := by
  unfold fieldPlace
  rcases refined?_none_or_first lines word with ⟨nothing, never⟩ | ⟨row, offset, placed, first⟩
  · rw [nothing]
    exact ⟨fun _ row offset first => absurd first.occurs (never row offset), fun _ => rfl⟩
  · rw [placed]
    constructor
    · intro same row' offset' other
      obtain ⟨rfl, rfl⟩ := first.unique other
      exact same
    · intro own
      exact own row offset first

/-- Every `@Autowired` field has its injection, in order. The injection stands at the declared name of the field
if the name occurs nowhere else on the lines of the declaration below the annotation; and if the name
consists of identifier characters, exactly if no other occurrence on these lines is the first. -/
theorem field_sites_at_first_occurrence (text : String) (classes : List JavaClass) :
    let lines := Text.lines text
    List.Forall₂
      (fun field injection =>
        (injection.kind = .field ∧ injection.targetName = field.name ∧ injection.range = field.range) ∧
        ((∀ row offset, Occurs lines field row offset → .ofIndices row offset = field.position) →
          injection.position = field.position) ∧
        (Text.isWord field.name →
          (injection.position = field.position ↔
            ∀ row offset, FirstOccurrence lines field row offset →
              .ofIndices row offset = field.position)))
      (classes.flatMap fun info => info.fields.filter (AnnotationUse.has ·.annotations .autowired))
      (sites (some lines) .field classes) := by
  intro lines
  unfold sites
  induction classes with
  | nil => exact .nil
  | cons info rest ih =>
    rw [List.flatMap_cons, List.flatMap_cons]
    refine List.rel_append ?_ ih
    unfold fieldSites
    rw [List.forall₂_map_right_iff, List.forall₂_same]
    intro field _
    exact ⟨⟨rfl, rfl, rfl⟩, fieldPlace_eq_of_occurs, fieldPlace_eq_iff⟩

/-- A field whose qualifier repeats its name. -/
def qualifiedField : String :=
  "class A \x7b\n  @Autowired\n  @Qualifier(\"foo\")\n  private Foo foo;\n\x7d\n"

/-- The injection stands in the argument of the qualifier, a line above the name. -/
theorem qualifier_takes_place_of_name :
    let classes := Extract.unitClasses ⟨"Test.java"⟩ (.of qualifiedField) (Java.unitTree qualifiedField)
    (classes.flatMap (·.fields)).map (·.position) = [⟨4, 15⟩] ∧
    (sites (some (Text.lines qualifiedField)) .field classes).map (·.position) = [⟨3, 15⟩] := by
  decide +kernel

end BeanAtlas.Injection
