import BeanAtlas.Proofs.Text.Ends
import BeanAtlas.Text.Capital

/-!
The lower-case mapping, read off its tables: every character that it gives is its own lower-case form, and blanks
are neither changed nor made. The code points that are changed, those that are made and the blanks are compared
as sets of bits, which takes one step however long the tables are.
-/
namespace BeanAtlas.Text

variable {code : Nat} {c d : Char}

/-! ### Sets of code points -/

def Run.codes (run : Run) : List Nat :=
  List.range' run.first ((run.last - run.first) / run.step + 1) run.step

theorem Run.mem_codes {run : Run} (inside : run.holds code) : code ∈ run.codes := by
  simp only [holds, Bool.and_eq_true, decide_eq_true_eq, beq_iff_eq] at inside
  obtain ⟨⟨lower, upper⟩, steps⟩ := inside
  have whole := Nat.div_add_mod (code - run.first) run.step
  have within : (code - run.first) / run.step ≤ (run.last - run.first) / run.step :=
    Nat.div_le_div_right (by omega)
  apply List.mem_range'.mpr
  exact ⟨(code - run.first) / run.step, by omega, by omega⟩

/-- The number whose bits are set at these places. -/
def bits (codes : List Nat) : Nat := codes.foldr (fun code set => set ||| 1 <<< code) 0

theorem testBit_bits (codes : List Nat) (code : Nat) : (bits codes).testBit code = decide (code ∈ codes) := by
  induction codes with
  | nil => simp [bits]
  | cons first rest ih =>
    rw [bits, List.foldr_cons, Nat.testBit_or, ← bits, ih, Nat.one_shiftLeft, Nat.testBit_two_pow]
    simp only [List.mem_cons, Bool.decide_or, eq_comm, Bool.or_comm]

theorem not_mem_of_bits {left right : List Nat} (apart : bits left &&& bits right = 0) (member : code ∈ left) :
    code ∉ right := by
  intro second
  have both := congrArg (Nat.testBit · code) apart
  simp [testBit_bits, member, second] at both

/-! ### The tables -/

namespace LetterCase

/-- All runs whose characters are changed, each with the distance to what it becomes. -/
def moves : List (Run × Int) :=
  (⟨0x41, 0x5A, 1⟩, 32) :: (⟨0x130, 0x130, 1⟩, 0x69 - 0x130) :: (⟨0x130, 0x130, 1⟩, 0x307 - 0x130) :: lowerRuns

def changed : List Nat := moves.flatMap (·.1.codes)

def made : List Nat := moves.flatMap fun move => move.1.codes.map fun code : Nat => (code + move.2).toNat

def blanks : List Nat := [0x85, 0xA0, 0x1680, 0x2028, 0x2029, 0x202F, 0x205F, 0x3000] ++
  [0x09, 0x0A, 0x0B, 0x0C, 0x0D, 0x20] ++ List.range' 0x2000 11

theorem made_apart : bits made &&& bits (changed ++ blanks) = 0 := by decide +kernel

theorem changed_apart : bits changed &&& bits blanks = 0 := by decide +kernel

/-- No run is moved onto the surrogates or beyond the last code point. -/
theorem moves_valid : moves.all (fun move => decide (move.1.last + move.2 < 0xD800 ∨
    0xDFFF < move.1.first + move.2 ∧ move.1.last + move.2 < 0x110000)) = true := by
  decide +kernel

variable {move : Run × Int}

theorem mem_changed (listed : move ∈ moves) (inside : move.1.holds code) : code ∈ changed :=
  List.mem_flatMap.mpr ⟨move, listed, Run.mem_codes inside⟩

theorem mem_made (listed : move ∈ moves) (inside : move.1.holds code) :
    (code + move.2).toNat ∈ made :=
  List.mem_flatMap.mpr ⟨move, listed, List.mem_map.mpr ⟨code, Run.mem_codes inside, rfl⟩⟩

theorem toNat_moved (listed : move ∈ moves) (inside : move.1.holds code) :
    (Char.ofNat (code + move.2).toNat).toNat = (code + move.2).toNat := by
  have bounds := of_decide_eq_true (List.all_eq_true.mp moves_valid move listed)
  simp only [Run.holds, Bool.and_eq_true, decide_eq_true_eq] at inside
  have valid : (code + move.2).toNat.isValidChar := by
    unfold Nat.isValidChar
    omega
  rw [Char.ofNat, dif_pos valid]
  rfl

theorem lowerTabled_cases (c : Char) :
    lowerTabled c = [c] ∨ c.toNat ∈ changed ∧ ∀ d ∈ lowerTabled c, d.toNat ∈ made := by
  unfold lowerTabled
  split
  · next run distance found =>
    have listed : (run, distance) ∈ moves := by
      simp only [moves, List.mem_cons, List.mem_of_find?_eq_some found, or_true]
    have inside : run.holds c.toNat := by simpa using List.find?_some found
    refine .inr ⟨mem_changed listed inside, fun d member => ?_⟩
    rw [List.mem_singleton.mp member, toNat_moved listed inside]
    exact mem_made listed inside
  · exact .inl rfl

end LetterCase

open LetterCase

theorem toLower_cases (c : Char) :
    c.toLower = c ∨ (0x41 ≤ c.toNat ∧ c.toNat ≤ 0x5A) ∧ c.toLower.toNat = c.toNat + 32 := by
  unfold Char.toLower
  split
  · next capital =>
    have bounds : 0x41 ≤ c.toNat ∧ c.toNat ≤ 0x5A := capital
    refine .inr ⟨bounds, ?_⟩
    change (c.val + 32).toNat = c.val.toNat + 32
    have small : c.val.toNat ≤ 0x5A := bounds.2
    rw [UInt32.toNat_add]
    exact Nat.mod_eq_of_lt (show c.val.toNat + 32 < 2 ^ 32 by omega)
  · exact .inl rfl

/-- The mapping keeps a character, or all that it makes of it is in the tables. -/
theorem lowercase_cases (c : Char) :
    lowercase c = [c] ∨ c.toNat ∈ changed ∧ ∀ d ∈ lowercase c, d.toNat ∈ made := by
  unfold lowercase
  split
  · rcases toLower_cases c with same | ⟨⟨lower, upper⟩, moved⟩
    · exact .inl (by rw [same])
    · have inside : (⟨0x41, 0x5A, 1⟩ : Run).holds c.toNat := by
        simp only [Run.holds, Bool.and_eq_true, decide_eq_true_eq, beq_iff_eq]
        omega
      have listed : ((⟨0x41, 0x5A, 1⟩, 32) : Run × Int) ∈ moves := by simp [moves]
      refine .inr ⟨mem_changed listed inside, fun d member => ?_⟩
      rw [List.mem_singleton.mp member, moved]
      exact mem_made listed inside
  · split
    · next dotted =>
      have inside : (⟨0x130, 0x130, 1⟩ : Run).holds c.toNat := by rw [beq_iff_eq.mp dotted]; rfl
      have first : ((⟨0x130, 0x130, 1⟩, 0x69 - 0x130) : Run × Int) ∈ moves := by simp [moves]
      have second : ((⟨0x130, 0x130, 1⟩, 0x307 - 0x130) : Run × Int) ∈ moves := by simp [moves]
      refine .inr ⟨mem_changed first inside, fun d member => ?_⟩
      have target := mem_made first inside
      have target' := mem_made second inside
      rw [beq_iff_eq.mp dotted] at target target'
      rcases List.mem_pair.mp member with rfl | rfl
      · exact target
      · exact target'
    · exact lowerTabled_cases c

/-- What the mapping makes is in lower case already. -/
theorem lowercase_of_mem_lowercase (member : d ∈ lowercase c) : lowercase d = [d] := by
  rcases lowercase_cases c with kept | ⟨-, target⟩
  · rw [kept, List.mem_singleton] at member
    rwa [member]
  · rcases lowercase_cases d with kept | ⟨again, -⟩
    · exact kept
    · exact absurd (List.mem_append_left blanks again) (not_mem_of_bits made_apart (target d member))

theorem mem_blanks (blank : isBlank c) : c.toNat ∈ blanks := by
  simp only [isBlank, Bool.or_eq_true, Bool.and_eq_true, decide_eq_true_eq, beq_iff_eq] at blank
  simp only [blanks, List.mem_append, List.mem_cons, List.mem_range'_1, List.not_mem_nil, or_false]
  omega

/-- The mapping takes blanks to blanks and nothing else to a blank. -/
theorem isBlank_of_mem_lowercase (member : d ∈ lowercase c) : isBlank d = isBlank c := by
  rcases lowercase_cases c with kept | ⟨source, target⟩
  · rw [kept, List.mem_singleton] at member
    rw [member]
  · have visible : ¬ isBlank c := fun blank => not_mem_of_bits changed_apart source (mem_blanks blank)
    have visible' : ¬ isBlank d := fun blank =>
      not_mem_of_bits made_apart (target d member) (List.mem_append_right changed (mem_blanks blank))
    rw [Bool.eq_false_iff.mpr visible, Bool.eq_false_iff.mpr visible']

theorem isBlank_toLower (c : Char) : isBlank c.toLower = isBlank c := by
  rcases toLower_cases c with same | ⟨⟨lower, upper⟩, moved⟩
  · rw [same]
  · rw [Bool.eq_iff_iff]
    simp only [isBlank, moved, Bool.or_eq_true, Bool.and_eq_true, decide_eq_true_eq, beq_iff_eq]
    omega

/-! ### First letters -/

variable {name : String} {first : Char} {rest : List Char}

theorem lowercase_ne_nil (c : Char) : lowercase c ≠ [] := by
  simp only [lowercase, lowerTabled]
  split
  · simp
  · split
    · simp
    · split <;> simp

theorem toList_lowerFirst (starts : name.toList = first :: rest) :
    (lowerFirst name).toList = lowercase first ++ rest := by
  simp [lowerFirst, starts]

theorem lowerFirst_of_empty (empty : name.toList = []) : lowerFirst name = name := by
  obtain rfl := String.toList_eq_nil_iff.mp empty
  rfl

theorem lowerFirst_lowerFirst (name : String) : lowerFirst (lowerFirst name) = lowerFirst name := by
  cases starts : name.toList with
  | nil => rw [lowerFirst_of_empty starts, lowerFirst_of_empty starts]
  | cons first rest =>
    obtain ⟨head, more, made⟩ := List.exists_cons_of_ne_nil (lowercase_ne_nil first)
    have lowered : (lowerFirst name).toList = head :: (more ++ rest) := by
      rw [toList_lowerFirst starts, made, List.cons_append]
    have settled : lowercase head = [head] := lowercase_of_mem_lowercase (by rw [made]; simp)
    apply String.toList_injective
    rw [toList_lowerFirst lowered, settled, lowered, List.singleton_append]

/-- A default name is the name itself or the name with its first letter lowered. -/
theorem decapitalize_cases (name : String) : decapitalize name = name ∨ decapitalize name = lowerFirst name := by
  unfold decapitalize lowerFirst
  split
  · exact .inr rfl
  · split
    · exact .inl rfl
    · exact .inr rfl

theorem lowerFirst_decapitalize (name : String) : lowerFirst (decapitalize name) = lowerFirst name := by
  rcases decapitalize_cases name with kept | lowered
  · rw [kept]
  · rw [lowered, lowerFirst_lowerFirst]

theorem isTrimmed_lowerFirst (name : String) : IsTrimmed (lowerFirst name).toList ↔ IsTrimmed name.toList := by
  cases starts : name.toList with
  | nil => rw [lowerFirst_of_empty starts, starts]
  | cons first rest =>
    rw [toList_lowerFirst starts]
    exact isTrimmed_expand (lowercase_ne_nil first) fun c member => isBlank_of_mem_lowercase member

end BeanAtlas.Text
