import BeanAtlas.Glob.Reader
import BeanAtlas.Proofs.Text.Ends

/-!
A plain name as a pattern. Outside of wildcards every character of a pattern stands for its bytes. A name in
every directory matches a path exactly when the path ends in that name, since a slash is a byte of no other
character.
-/
namespace BeanAtlas

namespace Text

variable {cs : List Char}

/-- The bytes of a character beyond ASCII are all 128 or more, so a slash is not among them. -/
theorem eq_slash_of_mem_utf8EncodeChar {c : Char} (member : Glob.slash ∈ String.utf8EncodeChar c) : c = '/' := by
  have code : c.val.toNat = 0x2F := by
    have byte : ∀ value, Glob.slash = UInt8.ofNat value → value % 256 = 0x2F := by
      intro value same
      simpa [Glob.slash] using (congrArg UInt8.toNat same).symm
    unfold String.utf8EncodeChar at member
    dsimp only at member
    split at member
    · next ascii =>
      have value := byte _ (List.mem_singleton.mp member)
      omega
    · split at member
      · simp only [List.mem_cons, List.not_mem_nil, or_false] at member
        rcases member with same | same <;> have value := byte _ same <;> omega
      · split at member
        · simp only [List.mem_cons, List.not_mem_nil, or_false] at member
          rcases member with same | same | same <;> have value := byte _ same <;> omega
        · simp only [List.mem_cons, List.not_mem_nil, or_false] at member
          rcases member with same | same | same | same <;> have value := byte _ same <;> omega
  exact Char.ext (UInt32.toNat_inj.mp code)

theorem slash_not_mem_bytes (absent : '/' ∉ cs) : Glob.slash ∉ bytes cs := by
  intro member
  obtain ⟨c, inside, byte⟩ := List.mem_flatMap.mp member
  exact absent (eq_slash_of_mem_utf8EncodeChar byte ▸ inside)

theorem bytes_injective {other : List Char} (same : bytes cs = bytes other) : cs = other := by
  have encoded : cs.utf8Encode = other.utf8Encode := congrArg List.toByteArray same
  rw [← String.toByteArray_ofList, ← String.toByteArray_ofList, String.toByteArray_inj] at encoded
  exact String.ofList_injective encoded

end Text

namespace Glob

/-! ### Reading -/

/-- The characters that mean something in a pattern: wildcards, the brackets and braces that open a group of them,
and the backslash. -/
def isWild (c : Char) : Bool := ['?', '*', '[', '\x7b', '\x7d', '\\'].contains c

/-- Every other character is read as itself. Outside of braces this holds for a comma as well. -/
theorem step_plain (allowUnclosed : Bool) {state : State} (outside : state.groups = []) {c : Char}
    (plain : isWild c = false) (rest : List Char) :
    step allowUnclosed state c rest = some ((state.addLiteral c).after c, rest) := by
  unfold step
  split
  iterate 5 exact absurd plain (by decide)
  · simp [comma, outside]
  · exact absurd plain (by decide)
  · rfl

theorem readFrom_plain (allowUnclosed : Bool) {cs : List Char} (plain : ∀ c ∈ cs, isWild c = false) (state : State)
    (outside : state.groups = []) {bound : Nat} (enough : cs.length ≤ bound) :
    readFrom allowUnclosed bound state cs = some (state.parts.reverse ++ (Text.bytes cs).map .byte) := by
  induction cs generalizing bound state with
  | nil => simp [readFrom, outside]
  | cons c cs ih =>
    cases bound with
    | zero => simp at enough
    | succ bound =>
      have first := step_plain allowUnclosed outside (plain c List.mem_cons_self) cs
      have later := ih (fun other member => plain other (List.mem_cons_of_mem _ member))
        ((state.addLiteral c).after c) outside (Nat.le_of_succ_le_succ enough)
      rw [readFrom, first, Option.bind_eq_bind, Option.bind_some]
      simpa [State.addLiteral, State.after, literal] using later

/-- A plain name in every directory: any directories in front, then the bytes of the name. -/
theorem read?_everywhere {name : List Char} (plain : ∀ c ∈ name, isWild c = false) :
    read? false (['*', '*', '/'] ++ name) = some (.leading :: (Text.bytes name).map .byte) := by
  have named := readFrom_plain false plain { parts := [.leading], previous := some '/' } rfl
    (Nat.le_add_right name.length 2)
  exact named

/-! ### Matching -/

theorem partsThen_bytes (wanted path : List UInt8) :
    partsThen (wanted.map .byte) List.isEmpty path = true ↔ path = wanted := by
  induction wanted generalizing path with
  | nil => simp [partsThen]
  | cons b wanted ih =>
    cases path with
    | nil => simp [partsThen, partThen, oneThen]
    | cons first path => simp [partsThen, partThen, oneThen, ih]

theorem slashThen_iff (rest : Rest) (path : List UInt8) :
    slashThen rest path = true ↔ ∃ front behind, path = front ++ slash :: behind ∧ rest behind = true := by
  induction path with
  | nil => simp [slashThen]
  | cons b path ih =>
    rw [slashThen, Bool.or_eq_true, Bool.and_eq_true, beq_iff_eq, ih]
    constructor
    · rintro (⟨rfl, matched⟩ | ⟨front, behind, rfl, matched⟩)
      · exact ⟨[], path, rfl, matched⟩
      · exact ⟨b :: front, behind, rfl, matched⟩
    · rintro ⟨front, behind, split, matched⟩
      cases front with
      | nil =>
        obtain ⟨rfl, rfl⟩ := List.cons.inj split
        exact .inl ⟨rfl, matched⟩
      | cons first front =>
        obtain ⟨rfl, rfl⟩ := List.cons.inj split
        exact .inr ⟨front, behind, rfl, matched⟩

/-- The path is a name, or it has a slash and the name at its end. -/
def EndsIn (path name : List UInt8) : Prop := path = name ∨ ∃ front, path = front ++ slash :: name

/-- What follows the last slash. -/
theorem EndsIn.eq_behind {path name : List UInt8} (ends : EndsIn path name) (whole : slash ∉ name) :
    name = (path.reverse.takeWhile (· != slash)).reverse := by
  have passed := Text.bne_of_not_mem (mt List.mem_reverse.mp whole)
  rcases ends with rfl | ⟨front, rfl⟩
  · rw [List.takeWhile_eq_self_iff.mpr passed, List.reverse_reverse]
  · rw [List.reverse_append, List.reverse_cons, List.append_assoc, List.takeWhile_append_of_pos passed]
    simp

/-- A name in every directory matches the paths that end in it. -/
theorem isMatch_everywhere {wanted : List UInt8} (filled : wanted ≠ []) (path : List UInt8) :
    isMatch (.leading :: wanted.map .byte) path = true ↔ EndsIn path wanted := by
  obtain ⟨b, others, rfl⟩ := List.exists_cons_of_ne_nil filled
  have parts : isMatch (.leading :: (b :: others).map .byte) path =
      (partsThen ((b :: others).map .byte) List.isEmpty path ||
        slashThen (partsThen ((b :: others).map .byte) List.isEmpty) path) := by
    simp [isMatch, partsThen, partThen]
  rw [parts, Bool.or_eq_true, partsThen_bytes, slashThen_iff]
  simp only [partsThen_bytes, EndsIn]
  constructor
  · rintro (same | ⟨front, behind, split, rfl⟩)
    · exact .inl same
    · exact .inr ⟨front, split⟩
  · rintro (same | ⟨front, split⟩)
    · exact .inl same
    · exact .inr ⟨front, _, split, rfl⟩

end Glob
end BeanAtlas
