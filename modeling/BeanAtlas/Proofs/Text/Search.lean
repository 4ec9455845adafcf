import BeanAtlas.Text.Search
import Mathlib.Data.List.Infix
import Mathlib.Order.Bounds.Basic

/-!
Finding text inside text, said without the scans. The search for a whole word is a choice among matches, which are
found from left to right, each behind the end of the one before. Occurrences that overlap a match are passed over. If
the word is made of identifier characters, none of these stands alone: the character before it belongs to the match.
So the first match that stands alone is the leftmost whole word.
-/
namespace BeanAtlas.Text

theorem isSome_offsetFrom (needle : List Char) (offset : Nat) (text : List Char) :
    (offsetFrom needle offset text).isSome ↔ needle <:+: text := by
  induction text generalizing offset with
  | nil => simp [offsetFrom]
  | cons c cs ih =>
    rw [offsetFrom, List.infix_cons_iff]
    cases here : needle.isPrefixOf (c :: cs) with
    | true => simp [List.isPrefixOf_iff_prefix.mp here]
    | false =>
      have apart : ¬ needle <+: c :: cs := by simp [← List.isPrefixOf_iff_prefix, here]
      simp [ih, apart]

theorem contains_iff (text needle : String) : contains text needle ↔ needle.toList <:+: text.toList :=
  isSome_offsetFrom needle.toList 0 text.toList

/-- `word` stands on its own `offset` bytes into a text that comes after the character `before`. -/
def StandsAt (word : List Char) (before : Option Char) (offset : Nat) (text : List Char) : Prop :=
  ∃ front rest, text = front ++ (word ++ rest) ∧ byteLength front = offset ∧
    standsAlone (front.getLast?.or before) rest.head?

/-- `word` is a whole word of `line`, `offset` bytes from its start. -/
def WordAt (word line : String) (offset : Nat) : Prop :=
  ∃ front rest, line.toList = front ++ (word.toList ++ rest) ∧ byteLength front = offset ∧
    standsAlone front.getLast? rest.head?

/-- A text of identifier characters, at least one. -/
def isWord (text : String) : Bool := !text.toList.isEmpty && text.toList.all isIdentifierChar

variable {word text : List Char} {before : Option Char} {c : Char} {skip offset found : Nat}

theorem standsAt_cons :
    StandsAt word before offset (c :: text) ↔
      (offset = 0 ∧ ∃ rest, c :: text = word ++ rest ∧ standsAlone before rest.head?) ∨
      ∃ later, offset = c.utf8Size + later ∧ StandsAt word (some c) later text := by
  have last (front : List Char) : (c :: front).getLast?.or before = front.getLast?.or (some c) := by
    rw [List.getLast?_cons]
    cases front.getLast? <;> rfl
  constructor
  · rintro ⟨front, rest, whole, rfl, alone⟩
    cases front with
    | nil => exact .inl ⟨rfl, rest, whole, by simpa using alone⟩
    | cons first front =>
      obtain ⟨rfl, behind⟩ := List.cons.inj whole
      rw [last] at alone
      exact .inr ⟨byteLength front, rfl, front, rest, behind, rfl, alone⟩
  · rintro (⟨rfl, rest, whole, alone⟩ | ⟨_, rfl, front, rest, rfl, rfl, alone⟩)
    · exact ⟨[], rest, whole, rfl, by simpa using alone⟩
    · rw [← last] at alone
      exact ⟨c :: front, rest, rfl, rfl, alone⟩

/-- An occurrence of a word, with the characters on its two sides. -/
structure Match where
  offset : Nat
  before : Option Char
  after : Option Char

def Match.isAlone (found : Match) : Bool := standsAlone found.before found.after

/-- The matches of `word`; `skip` counts the characters of the last match still to pass. The empty word matches
everywhere. -/
def matchesFrom (word : List Char) (skip : Nat) (before : Option Char) (offset : Nat) : List Char → List Match
  | [] => if skip == 0 && word.isEmpty then [⟨offset, before, none⟩] else []
  | c :: cs =>
    match skip with
    | skip + 1 => matchesFrom word skip (some c) (offset + c.utf8Size) cs
    | 0 =>
      if word.isPrefixOf (c :: cs) then
        ⟨offset, before, ((c :: cs).drop word.length).head?⟩ ::
          matchesFrom word (word.length - 1) (some c) (offset + c.utf8Size) cs
      else matchesFrom word 0 (some c) (offset + c.utf8Size) cs

/-- The matches of `word` in `line`, from left to right. -/
def wordMatches (line word : String) : List Match := matchesFrom word.toList 0 none 0 line.toList

example : (wordMatches "ababa aba" "aba").map (·.offset) = [0, 6] := by decide +kernel

/-- The scan takes the first match that stands alone. -/
theorem wordOffsetFrom_eq (word : List Char) (skip : Nat) (before : Option Char) (offset : Nat) (text : List Char) :
    wordOffsetFrom word skip before offset text =
      ((matchesFrom word skip before offset text).find? Match.isAlone).map (·.offset) := by
  fun_induction matchesFrom word skip before offset text with
  | case1 skip before offset ends =>
    rw [wordOffsetFrom, ends, Bool.true_and, List.find?_singleton, Match.isAlone]
    split <;> rfl
  | case2 skip before offset goesOn => simp [wordOffsetFrom, goesOn]
  | case3 before offset c cs skip ih => rw [wordOffsetFrom, ih]
  | case4 before offset c cs here ih =>
    rw [wordOffsetFrom, if_pos here]
    split
    · next alone =>
      rw [List.find?_cons_of_pos (by exact alone)]
      rfl
    · next part => rw [List.find?_cons_of_neg (by exact part), ih]
  | case5 before offset c cs apart ih => rw [wordOffsetFrom, if_neg apart, ih]

/-- A match that stands alone is a whole word. -/
theorem standsAt_of_mem_matchesFrom {found : Match} (member : found ∈ matchesFrom word skip before offset text)
    (alone : found.isAlone) : ∃ later, found.offset = offset + later ∧ StandsAt word before later text := by
  -- Whatever is passed over first, a match in the rest is one of the whole text.
  have further {c : Char} {cs : List Char} {before : Option Char} {offset : Nat}
      (rest : ∃ later, found.offset = offset + c.utf8Size + later ∧ StandsAt word (some c) later cs) :
      ∃ later, found.offset = offset + later ∧ StandsAt word before later (c :: cs) := by
    obtain ⟨later, place, stands⟩ := rest
    exact ⟨c.utf8Size + later, by omega, standsAt_cons.mpr (.inr ⟨later, rfl, stands⟩)⟩
  fun_induction matchesFrom word skip before offset text with
  | case1 skip before offset ends =>
    obtain rfl := List.mem_singleton.mp member
    simp only [Bool.and_eq_true, List.isEmpty_iff] at ends
    obtain ⟨-, rfl⟩ := ends
    exact ⟨0, rfl, [], [], rfl, rfl, alone⟩
  | case2 => cases member
  | case3 before offset c cs skip ih => exact further (ih member)
  | case4 before offset c cs here ih =>
    rcases List.mem_cons.mp member with rfl | member
    · obtain ⟨rest, whole⟩ := List.isPrefixOf_iff_prefix.mp here
      rw [Match.isAlone, ← whole, List.drop_left] at alone
      exact ⟨0, rfl, standsAt_cons.mpr (.inl ⟨rfl, rest, whole.symm, alone⟩)⟩
    · exact further (ih member)
  | case5 before offset c cs _ ih => exact further (ih member)

/-- The matches come in increasing order, none before the start of the text. -/
theorem pairwise_matchesFrom (word : List Char) (skip : Nat) (before : Option Char) (offset : Nat)
    (text : List Char) :
    (∀ found ∈ matchesFrom word skip before offset text, offset ≤ found.offset) ∧
      (matchesFrom word skip before offset text).Pairwise (·.offset < ·.offset) := by
  fun_induction matchesFrom word skip before offset text with
  | case1 skip before offset => simp
  | case2 => simp
  | case3 before offset c cs skip ih =>
    exact ⟨fun found member => (Nat.le_add_right _ _).trans (ih.1 found member), ih.2⟩
  | case4 before offset c cs here ih =>
    have later : ∀ found ∈ matchesFrom word (word.length - 1) (some c) (offset + c.utf8Size) cs,
        offset < found.offset := by
      intro found member
      have bound := ih.1 found member
      have width := c.utf8Size_pos
      omega
    refine ⟨?_, List.pairwise_cons.mpr ⟨later, ih.2⟩⟩
    intro found member
    rcases List.mem_cons.mp member with rfl | member
    · exact Nat.le_refl _
    · exact Nat.le_of_lt (later found member)
  | case5 before offset c cs apart ih =>
    exact ⟨fun found member => (Nat.le_add_right _ _).trans (ih.1 found member), ih.2⟩

/-- The characters that the scan passes over, and the one before them, are identifier characters. -/
def Passing (skip : Nat) (before : Option Char) (text : List Char) : Prop :=
  0 < skip → before.any isIdentifierChar ∧ ∀ c ∈ text.take skip, isIdentifierChar c

theorem Passing.tail (passing : Passing (skip + 1) before (c :: text)) : Passing skip (some c) text := by
  intro _
  have inner := (passing (Nat.succ_pos skip)).2
  rw [List.take_succ_cons, List.forall_mem_cons] at inner
  exact inner

/-- Behind the first character of an occurrence the scan is inside a word. -/
theorem passing_behind_first (letters : ∀ c ∈ word, isIdentifierChar c) (here : word <+: c :: text) :
    Passing (word.length - 1) (some c) text := by
  intro several
  obtain ⟨rest, whole⟩ := here
  cases word with
  | nil => simp at several
  | cons first word =>
    obtain ⟨rfl, rfl⟩ := List.cons.inj whole
    simpa using letters

/-- A whole word of identifier characters is one of the matches. -/
theorem mem_matchesFrom_of_standsAt (letters : ∀ c ∈ word, isIdentifierChar c) (filled : word ≠ [])
    (passing : Passing skip before text) (stands : StandsAt word before offset text) (start : Nat) :
    ∃ found ∈ matchesFrom word skip before start text, found.offset = start + offset ∧ found.isAlone := by
  induction text generalizing skip before offset start with
  | nil =>
    obtain ⟨front, rest, whole, -⟩ := stands
    simp [filled] at whole
  | cons c cs ih =>
    -- An occurrence further on is a match of the rest, whatever is passed over there.
    have further {skip later : Nat} (inside : Passing skip (some c) cs)
        (stands : StandsAt word (some c) later cs) :
        ∃ found ∈ matchesFrom word skip (some c) (start + c.utf8Size) cs,
          found.offset = start + (c.utf8Size + later) ∧ found.isAlone := by
      obtain ⟨found, member, place, alone⟩ := ih inside stands (start + c.utf8Size)
      exact ⟨found, member, by omega, alone⟩
    rcases standsAt_cons.mp stands with ⟨rfl, rest, whole, alone⟩ | ⟨later, rfl, beyond⟩
    · cases skip with
      | zero =>
        have here : word.isPrefixOf (c :: cs) := List.isPrefixOf_iff_prefix.mpr ⟨rest, whole.symm⟩
        rw [matchesFrom, if_pos here, whole, List.drop_left]
        exact ⟨_, List.mem_cons_self, rfl, alone⟩
      | succ skip =>
        have inside := (passing (Nat.succ_pos skip)).1
        simp [standsAlone, inside] at alone
    · cases skip with
      | succ skip => exact further passing.tail beyond
      | zero =>
        rw [matchesFrom]
        split
        · next here =>
          obtain ⟨found, member, known⟩ :=
            further (passing_behind_first letters (List.isPrefixOf_iff_prefix.mp here)) beyond
          exact ⟨found, List.mem_cons_of_mem _ member, known⟩
        · exact further (fun none => absurd none (Nat.lt_irrefl 0)) beyond

variable {line name : String}

theorem wordOffset?_eq (line name : String) :
    wordOffset? line name = ((wordMatches line name).find? Match.isAlone).map (·.offset) :=
  wordOffsetFrom_eq name.toList 0 none 0 line.toList

theorem pairwise_wordMatches (line name : String) : (wordMatches line name).Pairwise (·.offset < ·.offset) :=
  (pairwise_matchesFrom name.toList 0 none 0 line.toList).2

theorem wordAt_iff_standsAt : WordAt name line offset ↔ StandsAt name.toList none offset line.toList := by
  simp only [WordAt, StandsAt, Option.or_none]

theorem wordAt_of_mem_wordMatches {found : Match} (member : found ∈ wordMatches line name) (alone : found.isAlone) :
    WordAt name line found.offset := by
  obtain ⟨later, place, stands⟩ := standsAt_of_mem_matchesFrom member alone
  rw [place, Nat.zero_add]
  exact wordAt_iff_standsAt.mpr stands

theorem mem_wordMatches_of_wordAt (word : isWord name) (occurs : WordAt name line offset) :
    ∃ found ∈ wordMatches line name, found.offset = offset ∧ found.isAlone := by
  rw [isWord, Bool.and_eq_true, Bool.not_eq_true', List.isEmpty_eq_false_iff, List.all_eq_true] at word
  have start : Passing 0 none line.toList := fun none => absurd none (Nat.lt_irrefl 0)
  obtain ⟨found, member, place, alone⟩ :=
    mem_matchesFrom_of_standsAt word.2 word.1 start (wordAt_iff_standsAt.mp occurs) 0
  exact ⟨found, member, by omega, alone⟩

theorem wordAt_of_wordOffset? {place : Nat} (scanned : wordOffset? line name = some place) :
    WordAt name line place := by
  rw [wordOffset?_eq] at scanned
  obtain ⟨found, first, rfl⟩ := Option.map_eq_some_iff.mp scanned
  exact wordAt_of_mem_wordMatches (List.mem_of_find?_eq_some first) (List.find?_some first)

theorem wordOffset?_le (word : isWord name) (occurs : WordAt name line offset) :
    ∃ found ≤ offset, wordOffset? line name = some found := by
  obtain ⟨found, member, rfl, alone⟩ := mem_wordMatches_of_wordAt word occurs
  obtain ⟨first, taken⟩ := Option.isSome_iff_exists.mp (List.find?_isSome.mpr ⟨found, member, alone⟩)
  refine ⟨first.offset, ?_, by rw [wordOffset?_eq, taken, Option.map_some]⟩
  obtain ⟨-, passed, rest, split, skipped⟩ := List.find?_eq_some_iff_append.mp taken
  have increasing := pairwise_wordMatches line name
  rw [split] at member increasing
  rcases List.mem_append.mp member with earlier | later
  · have part := skipped found earlier
    simp [alone] at part
  · rcases List.mem_cons.mp later with rfl | behind
    · exact Nat.le_refl _
    · exact Nat.le_of_lt ((List.pairwise_cons.mp (List.pairwise_append.mp increasing).2.1).1 found behind)

/-- The search for a word of identifier characters gives the least offset at which it is a whole word, and nothing
exactly when it is none anywhere. The matches that do not overlap suffice for that: the whole words are those of them
that stand alone. -/
theorem word_offset_is_leftmost (word : isWord name) (line : String) :
    (∀ place, wordOffset? line name = some place ↔ IsLeast {offset | WordAt name line offset} place) ∧
      (wordOffset? line name = none ↔ ∀ offset, ¬ WordAt name line offset) ∧
      ∀ offset, WordAt name line offset ↔ ∃ found ∈ wordMatches line name, found.offset = offset ∧ found.isAlone := by
  have least {place : Nat} (scanned : wordOffset? line name = some place) :
      IsLeast {offset | WordAt name line offset} place := by
    refine ⟨wordAt_of_wordOffset? scanned, ?_⟩
    intro offset occurs
    obtain ⟨found, bound, same⟩ := wordOffset?_le word occurs
    rw [scanned] at same
    cases same
    exact bound
  refine ⟨fun place => ⟨least, ?_⟩, ?_, fun offset => ⟨mem_wordMatches_of_wordAt word, ?_⟩⟩
  · intro isLeast
    obtain ⟨found, -, scanned⟩ := wordOffset?_le word isLeast.1
    rw [scanned, (least scanned).unique isLeast]
  · constructor
    · intro nothing offset occurs
      obtain ⟨found, -, scanned⟩ := wordOffset?_le word occurs
      simp [nothing] at scanned
    · intro nowhere
      cases scanned : wordOffset? line name with
      | none => rfl
      | some place => exact absurd (wordAt_of_wordOffset? scanned) (nowhere place)
  · rintro ⟨found, member, rfl, alone⟩
    exact wordAt_of_mem_wordMatches member alone

/-- The second occurrence of `aba` in `ababa` overlaps the first, and neither is a whole word. -/
theorem overlapped_words_are_passed :
    isWord "aba" ∧ IsLeast {offset | WordAt "aba" "é ababa aba" offset} 9 :=
  ⟨by decide +kernel, ((word_offset_is_leftmost (by decide +kernel) _).1 9).mp (by decide +kernel)⟩

end BeanAtlas.Text
