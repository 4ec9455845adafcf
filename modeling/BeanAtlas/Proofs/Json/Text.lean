import BeanAtlas.Json.Printer
import Mathlib.Data.List.Basic

/-!
JSON text is uniquely readable: no two values are written as the same text, in the compact form or in the
wide one. Every text also tells where it ends, as long as no further digits follow a number.
-/
namespace BeanAtlas.Json

/-! ### Numbers -/

def isNumeral (c : Char) : Bool := c.isDigit || c == '.' || c == '-'

/-- The digits of a number with zeros in front, so that at least one stands before the point. -/
def padded (n places : Nat) : List Char :=
  List.replicate (places + 1 - (Nat.toDigits 10 n).length) '0' ++ Nat.toDigits 10 n

theorem isDigit_of_mem_padded {n places : Nat} {c : Char} (member : c ∈ padded n places) :
    c.isDigit = true := by
  rcases List.mem_append.mp member with zero | digit
  · rw [List.eq_of_mem_replicate zero]
    rfl
  · exact Nat.isDigit_of_mem_toDigits (by decide) (by decide) digit

theorem places_lt_length_padded (n places : Nat) : places < (padded n places).length := by
  simp only [padded, List.length_append, List.length_replicate]
  omega

theorem ofDigitChars_padded (n places : Nat) : Nat.ofDigitChars 10 (padded n places) 0 = n := by
  rw [padded, Nat.ofDigitChars_append, Nat.ofDigitChars_replicate_zero, Nat.mul_zero,
    Nat.ofDigitChars_toDigits (by decide) (by decide)]

theorem point_not_mem {n places : Nat} {digits : List Char} (part : digits ⊆ padded n places) :
    '.' ∉ digits := by
  intro point
  exact absurd (isDigit_of_mem_padded (part point)) (by decide)

/-- The text of a number without its sign. -/
def magnitude (n places : Nat) : List Char :=
  let digits := padded n places
  digits.take (digits.length - places) ++
    if places = 0 then [] else '.' :: digits.drop (digits.length - places)

theorem toList_decimal (mantissa : Int) (places : Nat) :
    (decimal mantissa places).toList =
      (if mantissa < 0 then ['-'] else []) ++ magnitude mantissa.natAbs places := by
  have filled := Nat.length_toDigits_pos (b := 10) (n := mantissa.natAbs)
  by_cases whole : places = 0
  · have solid : 0 + 1 - (Nat.toDigits 10 mantissa.natAbs).length = 0 := by omega
    split <;> simp_all [decimal, magnitude, padded]
  · split <;> simp_all [decimal, magnitude, padded]

theorem point_mem_magnitude (n places : Nat) : '.' ∈ magnitude n places ↔ places ≠ 0 := by
  have outside := point_not_mem (List.take_subset ((padded n places).length - places) (padded n places))
  by_cases whole : places = 0 <;> simp_all [magnitude]

theorem magnitude_injective {n m places others : Nat} (same : magnitude n places = magnitude m others) :
    n = m ∧ places = others := by
  have points : places ≠ 0 ↔ others ≠ 0 := by
    rw [← point_mem_magnitude n, ← point_mem_magnitude m, same]
  have digits : padded n places = padded m others ∧ places = others := by
    have long := places_lt_length_padded n places
    have long' := places_lt_length_padded m others
    by_cases whole : places = 0
    · have whole' : others = 0 := by omega
      subst whole whole'
      simpa [magnitude] using same
    · have fractional : others ≠ 0 := by omega
      simp only [magnitude, if_neg whole, if_neg fractional] at same
      -- There is one point, so it stands between the same digits in both.
      obtain ⟨front, -, back⟩ := (List.append_cons_inj_of_notMem
        (point_not_mem (List.take_subset _ _)) (point_not_mem (List.drop_subset _ _))).mp same
      have lengths := congrArg List.length back
      simp only [List.length_drop] at lengths
      refine ⟨?_, by omega⟩
      rw [← List.take_append_drop ((padded n places).length - places) (padded n places), front, back,
        List.take_append_drop]
  refine ⟨?_, digits.2⟩
  rw [← ofDigitChars_padded n places, digits.1, ofDigitChars_padded]

theorem isDigit_or_point {n places : Nat} {c : Char} (member : c ∈ magnitude n places) :
    c.isDigit = true ∨ c = '.' := by
  rcases List.mem_append.mp member with whole | fraction
  · exact .inl (isDigit_of_mem_padded (List.mem_of_mem_take whole))
  · split at fraction
    · exact nomatch fraction
    · rcases List.mem_cons.mp fraction with point | inside
      · exact .inr point
      · exact .inl (isDigit_of_mem_padded (List.mem_of_mem_drop inside))

theorem magnitude_ne_nil (n places : Nat) : magnitude n places ≠ [] := by
  have long := places_lt_length_padded n places
  intro blank
  have front := congrArg List.length (List.append_eq_nil_iff.mp blank).1
  simp only [List.length_take, List.length_nil] at front
  omega

theorem decimal_injective {m n : Int} {places others : Nat}
    (same : (decimal m places).toList = (decimal n others).toList) : m = n ∧ places = others := by
  have unsigned : ∀ n places tail, magnitude n places ≠ '-' :: tail := by
    intro n places tail signed
    have first := isDigit_or_point (signed ▸ List.mem_cons_self : '-' ∈ magnitude n places)
    exact absurd first (by decide)
  rw [toList_decimal, toList_decimal] at same
  split at same <;> split at same
  · obtain ⟨size, alike⟩ := magnitude_injective (List.tail_eq_of_cons_eq same)
    exact ⟨by omega, alike⟩
  · exact absurd same.symm (unsigned _ _ _)
  · exact absurd same (unsigned _ _ _)
  · obtain ⟨size, alike⟩ := magnitude_injective same
    exact ⟨by omega, alike⟩

/-- What follows a text does not go on with a number. -/
def Stops (rest : List Char) : Prop := ∀ c ∈ rest.head?, isNumeral c = false

theorem Stops.cons {c : Char} (other : isNumeral c = false) (rest : List Char) : Stops (c :: rest) := by
  simpa [Stops] using other

theorem decimal_numeral (mantissa : Int) (places : Nat) :
    ∀ c ∈ (decimal mantissa places).toList, isNumeral c = true := by
  intro c member
  rw [toList_decimal] at member
  rcases List.mem_append.mp member with sign | member
  · split at sign
    · rw [List.mem_singleton.mp sign]
      rfl
    · exact nomatch sign
  · rcases isDigit_or_point member with digit | rfl
    · simp [isNumeral, digit]
    · rfl

theorem takeWhile_decimal (mantissa : Int) (places : Nat) {rest : List Char} (stops : Stops rest) :
    ((decimal mantissa places).toList ++ rest).takeWhile isNumeral = (decimal mantissa places).toList := by
  have stopped : rest.takeWhile isNumeral = [] := by
    cases rest with
    | nil => rfl
    | cons c rest => simp [stops c rfl]
  rw [List.takeWhile_append_of_pos (decimal_numeral mantissa places), stopped, List.append_nil]

theorem decimal_cancel {m n : Int} {places others : Nat} {rest later : List Char} (stops : Stops rest)
    (stops' : Stops later)
    (same : (decimal m places).toList ++ rest = (decimal n others).toList ++ later) :
    m = n ∧ places = others ∧ rest = later := by
  have texts := congrArg (List.takeWhile isNumeral) same
  rw [takeWhile_decimal m places stops, takeWhile_decimal n others stops'] at texts
  obtain ⟨mantissa, point⟩ := decimal_injective texts
  exact ⟨mantissa, point, List.append_inj_right same (congrArg List.length texts)⟩

/-! ### Strings -/

def hexValue (c : Char) : Nat := if c.isDigit then c.toNat - 48 else c.toNat - 87

theorem hexValue_hexDigit : ∀ n < 16, hexValue (hexDigit n) = n := by decide

/-- The character that an escape mark stands for. -/
def escaped : Char → Char
  | 'n' => '\n'
  | 'r' => '\r'
  | 't' => '\t'
  | 'b' => '\x08'
  | 'f' => '\x0c'
  | c => c

/-- The first character of the text in quotes, and what follows it. -/
def unescape : List Char → Option (Char × List Char)
  | '\\' :: 'u' :: _ :: _ :: high :: low :: rest =>
    some (.ofNat (16 * hexValue high + hexValue low), rest)
  | '\\' :: mark :: rest => some (escaped mark, rest)
  | c :: rest => some (c, rest)
  | [] => none

theorem unescape_escapeChar (c : Char) (rest : List Char) :
    unescape (escapeChar c ++ rest) = some (c, rest) := by
  unfold escapeChar
  split_ifs with quote backslash line carriage tab back feed control
  · subst quote
    rfl
  · subst backslash
    rfl
  · subst line
    rfl
  · subst carriage
    rfl
  · subst tab
    rfl
  · obtain rfl : c = '\x08' := Char.toNat_inj.mp back
    rfl
  · obtain rfl : c = '\x0c' := Char.toNat_inj.mp feed
    rfl
  · have high := hexValue_hexDigit (c.toNat / 16) (by omega)
    have low := hexValue_hexDigit (c.toNat % 16) (by omega)
    simp [unescape, high, low, Nat.div_add_mod]
  · simp [unescape, backslash]

theorem escapeChar_ne_quote (c : Char) {rest later : List Char} :
    '"' :: rest ≠ escapeChar c ++ later := by
  unfold escapeChar
  split_ifs <;> simp_all [eq_comm]

theorem escapeChars_cancel {text other rest later : List Char}
    (same : text.flatMap escapeChar ++ '"' :: rest = other.flatMap escapeChar ++ '"' :: later) :
    text = other ∧ rest = later := by
  induction text generalizing other with
  | nil =>
    cases other with
    | nil => simpa using same
    | cons d other => exact absurd same (by simpa using escapeChar_ne_quote d)
  | cons c text ih =>
    cases other with
    | nil => exact absurd same.symm (by simpa using escapeChar_ne_quote c)
    | cons d other =>
      have first := congrArg unescape same
      simp only [List.flatMap_cons, List.append_assoc, unescape_escapeChar, Option.some.injEq,
        Prod.mk.injEq] at first
      obtain ⟨tail, after⟩ := ih first.2
      exact ⟨by rw [first.1, tail], after⟩

theorem toList_quoted (text : String) :
    (quoted text).toList = '"' :: (text.toList.flatMap escapeChar ++ ['"']) := by
  simp [quoted]

theorem quoted_cancel {text other : String} {rest later : List Char}
    (same : (quoted text).toList ++ rest = (quoted other).toList ++ later) :
    text = other ∧ rest = later := by
  simp only [toList_quoted, List.cons_append, List.append_assoc, List.nil_append] at same
  obtain ⟨inner, after⟩ := escapeChars_cancel (List.tail_eq_of_cons_eq same)
  exact ⟨String.toList_inj.mp inner, after⟩

/-! ### Lists between brackets -/

/-- The text of the value is told apart from the texts of all others and shows where it ends. -/
def Readable {α : Type} (text : α → List Char) (value : α) : Prop :=
  ∀ other rest later, Stops rest → Stops later → text value ++ rest = text other ++ later →
    value = other ∧ rest = later

/-- The blanks in front of every item of a list and in front of the closing bracket. -/
structure Spacing where
  gap : List Char
  ending : List Char
  blank : ∀ c ∈ gap ++ ending, c = ' ' ∨ c = '\n'

def Spacing.tight : Spacing := ⟨[], [], by simp⟩

def Spacing.lines (depth : Nat) : Spacing where
  gap := (newline (depth + 1)).toList
  ending := (newline depth).toList
  blank := by
    intro c member
    simp only [newline, String.toList_append, String.toList_ofList, List.mem_append,
      List.mem_replicate] at member
    grind

theorem head_blank {blanks : List Char} (blank : ∀ c ∈ blanks, c = ' ' ∨ c = '\n') (c : Char)
    (rest : List Char) : ∃ first tail, blanks ++ c :: rest = first :: tail ∧
      (first = ' ' ∨ first = '\n' ∨ first = c) := by
  cases blanks with
  | nil => exact ⟨c, rest, rfl, by simp⟩
  | cons first blanks =>
    have := blank first (by simp)
    exact ⟨first, blanks ++ c :: rest, rfl, by tauto⟩

variable {α : Type} {text : α → List Char} {spacing : Spacing} {closing : Char}

/-- The items behind the first one, each behind a comma, up to the closing bracket. -/
def trail (spacing : Spacing) (closing : Char) (texts : List (List Char)) : List Char :=
  (texts.flatMap fun text => ',' :: (spacing.gap ++ text)) ++ (spacing.ending ++ [closing])

/-- What stands behind an opening bracket. -/
def listed (spacing : Spacing) (closing : Char) : List (List Char) → List Char
  | [] => [closing]
  | first :: rest => spacing.gap ++ (first ++ trail spacing closing rest)

theorem trail_nil (spacing : Spacing) (closing : Char) (rest : List Char) : ∃ first tail,
    trail spacing closing [] ++ rest = first :: tail ∧ (first = ' ' ∨ first = '\n' ∨ first = closing) := by
  obtain ⟨first, tail, spelled, known⟩ :=
    head_blank (fun c member => spacing.blank c (List.mem_append_right _ member)) closing rest
  exact ⟨first, tail, by simpa [trail] using spelled, known⟩

theorem trail_cons (first : List Char) (texts : List (List Char)) (rest : List Char) :
    trail spacing closing (first :: texts) ++ rest =
      ',' :: (spacing.gap ++ (first ++ (trail spacing closing texts ++ rest))) := by
  simp [trail]

theorem stops_trail (closes : closing = ']' ∨ closing = '\x7d') (texts : List (List Char))
    (rest : List Char) : Stops (trail spacing closing texts ++ rest) := by
  cases texts with
  | nil =>
    obtain ⟨first, tail, spelled, known⟩ := trail_nil spacing closing rest
    rw [spelled]
    apply Stops.cons
    rcases closes with rfl | rfl <;> rcases known with rfl | rfl | rfl <;> rfl
  | cons first texts =>
    rw [trail_cons]
    exact Stops.cons rfl _

theorem trail_cancel (closes : closing = ']' ∨ closing = '\x7d') {values others : List α}
    {rest later : List Char} (readable : ∀ value ∈ values, Readable text value)
    (same : trail spacing closing (values.map text) ++ rest =
      trail spacing closing (others.map text) ++ later) : values = others ∧ rest = later := by
  have comma : ∀ first texts rest later, trail spacing closing [] ++ rest ≠
      trail spacing closing (first :: texts) ++ later := by
    intro first texts rest later equal
    obtain ⟨c, tail, spelled, known⟩ := trail_nil spacing closing rest
    rw [spelled, trail_cons] at equal
    rw [List.head_eq_of_cons_eq equal] at known
    rcases closes with rfl | rfl <;> exact absurd known (by decide)
  induction values generalizing others with
  | nil =>
    cases others with
    | nil => exact ⟨rfl, List.append_cancel_left same⟩
    | cons other others => exact absurd same (comma _ _ _ _)
  | cons value values ih =>
    cases others with
    | nil => exact absurd same.symm (comma _ _ _ _)
    | cons other others =>
      simp only [List.map_cons, trail_cons] at same
      obtain ⟨rfl, tails⟩ := readable value (by simp) other _ _ (stops_trail closes _ _)
        (stops_trail closes _ _) (List.append_cancel_left (List.tail_eq_of_cons_eq same))
      obtain ⟨rfl, after⟩ := ih (fun value member => readable value (by simp [member])) tails
      exact ⟨rfl, after⟩

theorem listed_cancel (closes : closing = ']' ∨ closing = '\x7d')
    (opens : ∀ value, ∃ c tail, text value = c :: tail ∧ c ≠ closing) {values others : List α}
    {rest later : List Char} (readable : ∀ value ∈ values, Readable text value)
    (same : listed spacing closing (values.map text) ++ rest =
      listed spacing closing (others.map text) ++ later) : values = others ∧ rest = later := by
  have filled : ∀ value texts rest later, listed spacing closing [] ++ rest ≠
      listed spacing closing (text value :: texts) ++ later := by
    intro value texts rest later equal
    obtain ⟨c, tail, spelled, other⟩ := opens value
    obtain ⟨first, more, gap, known⟩ := head_blank
      (fun c member => spacing.blank c (List.mem_append_left _ member)) c
      (tail ++ (trail spacing closing texts ++ later))
    simp only [listed, spelled, List.append_assoc, List.cons_append, gap, List.nil_append] at equal
    rw [← List.head_eq_of_cons_eq equal] at known
    rcases known with blank | line | same
    · rcases closes with rfl | rfl <;> exact absurd blank (by decide)
    · rcases closes with rfl | rfl <;> exact absurd line (by decide)
    · exact other same.symm
  cases values with
  | nil =>
    cases others with
    | nil => exact ⟨rfl, List.append_cancel_left same⟩
    | cons other others => exact absurd same (filled _ _ _ _)
  | cons value values =>
    cases others with
    | nil => exact absurd same.symm (filled _ _ _ _)
    | cons other others =>
      simp only [List.map_cons, listed, List.append_assoc] at same
      obtain ⟨rfl, tails⟩ := readable value (by simp) other _ _ (stops_trail closes _ _)
        (stops_trail closes _ _) (List.append_cancel_left same)
      obtain ⟨rfl, after⟩ :=
        trail_cancel closes (fun value member => readable value (by simp [member])) tails
      exact ⟨rfl, after⟩

/-! ### Values -/

/-- A member of an object as text, by the text of its value. -/
def memberText (colon : List Char) (text : Json → List Char) (member : String × Json) : List Char :=
  (quoted member.1).toList ++ (colon ++ text member.2)

theorem head_memberText_ne {colon : List Char} {text : Json → List Char} (member : String × Json) :
    ∃ c tail, memberText colon text member = c :: tail ∧ c ≠ '\x7d' := by
  simp [memberText, toList_quoted]

theorem memberText_readable {colon : List Char} {text : Json → List Char} (key : String) {value : Json}
    (readable : Readable text value) : Readable (memberText colon text) (key, value) := by
  rintro ⟨other, inner⟩ rest later stops stops' same
  simp only [memberText, List.append_assoc] at same
  obtain ⟨rfl, behind⟩ := quoted_cancel same
  obtain ⟨rfl, after⟩ := readable inner rest later stops stops' (List.append_cancel_left behind)
  exact ⟨rfl, after⟩

/-- A way to write values that is free in its spacing only. -/
structure Layout where
  print : Nat → Json → List Char
  spacing : Nat → Spacing
  colon : List Char
  print_null : ∀ depth, print depth .null = "null".toList
  print_bool : ∀ depth value, print depth (.bool value) = (if value then "true" else "false").toList
  print_num : ∀ depth mantissa places,
    print depth (.num mantissa places) = (decimal mantissa places).toList
  print_str : ∀ depth text, print depth (.str text) = (quoted text).toList
  print_arr : ∀ depth items, print depth (.arr items) =
    '[' :: listed (spacing depth) ']' (items.map (print (depth + 1)))
  print_obj : ∀ depth members, print depth (.obj members) =
    '\x7b' :: listed (spacing depth) '\x7d' (members.map (memberText colon (print (depth + 1))))

/-- The first character of the text of a value, with `0` for whatever can stand at the start of a number. -/
def lead : Json → Char
  | .null => 'n'
  | .bool true => 't'
  | .bool false => 'f'
  | .num _ _ => '0'
  | .str _ => '"'
  | .arr _ => '['
  | .obj _ => '\x7b'

theorem shape_of_lead {value other : Json} (leads : value.lead = other.lead) :
    match value with
    | .null => other = .null
    | .bool value => other = .bool value
    | .num _ _ => ∃ mantissa places, other = .num mantissa places
    | .str _ => ∃ text, other = .str text
    | .arr _ => ∃ items, other = .arr items
    | .obj _ => ∃ members, other = .obj members := by
  rcases value with _ | (_ | _) | _ | _ | _ | _ <;>
    rcases other with _ | (_ | _) | _ | _ | _ | _ <;> simp [lead] at leads ⊢

theorem lead_ne_closing {closing : Char} (closes : closing = ']' ∨ closing = '\x7d') (value : Json) :
    value.lead ≠ closing := by
  rcases closes with rfl | rfl <;> rcases value with _ | (_ | _) | _ | _ | _ | _ <;> simp [lead]

namespace Layout

variable (layout : Layout)

theorem head_print (depth : Nat) (value : Json) : ∃ c tail, layout.print depth value = c :: tail ∧
    (if isNumeral c then '0' else c) = value.lead := by
  cases value with
  | null => exact ⟨_, _, layout.print_null depth, rfl⟩
  | bool value => cases value <;> exact ⟨_, _, layout.print_bool depth _, rfl⟩
  | num mantissa places =>
    rw [layout.print_num]
    cases spelled : (decimal mantissa places).toList with
    | nil =>
      rw [toList_decimal] at spelled
      exact absurd (List.append_eq_nil_iff.mp spelled).2 (magnitude_ne_nil _ _)
    | cons c tail =>
      have numeral := decimal_numeral mantissa places c (by simp [spelled])
      exact ⟨c, tail, rfl, if_pos numeral⟩
  | str text => exact ⟨_, _, (layout.print_str depth text).trans (toList_quoted text), rfl⟩
  | arr items => exact ⟨_, _, layout.print_arr depth items, rfl⟩
  | obj members => exact ⟨_, _, layout.print_obj depth members, rfl⟩

theorem lead_eq {depth : Nat} {value other : Json} {rest later : List Char}
    (same : layout.print depth value ++ rest = layout.print depth other ++ later) :
    value.lead = other.lead := by
  obtain ⟨c, tail, spelled, leads⟩ := layout.head_print depth value
  obtain ⟨d, tail', spelled', leads'⟩ := layout.head_print depth other
  rw [spelled, spelled'] at same
  rw [← leads, ← leads', List.head_eq_of_cons_eq same]

theorem head_print_ne {depth : Nat} {closing : Char} (closes : closing = ']' ∨ closing = '\x7d')
    (value : Json) : ∃ c tail, layout.print depth value = c :: tail ∧ c ≠ closing := by
  obtain ⟨c, tail, spelled, leads⟩ := layout.head_print depth value
  refine ⟨c, tail, spelled, ?_⟩
  rintro rfl
  rw [if_neg (by rcases closes with rfl | rfl <;> decide)] at leads
  exact lead_ne_closing closes value leads.symm

mutual

theorem readable : ∀ (value : Json) (depth : Nat), Readable (layout.print depth) value
  | .null, depth => by
    intro other rest later _ _ same
    obtain rfl : other = .null := shape_of_lead (layout.lead_eq same)
    exact ⟨rfl, List.append_cancel_left same⟩
  | .bool value, depth => by
    intro other rest later _ _ same
    obtain rfl : other = .bool value := shape_of_lead (layout.lead_eq same)
    exact ⟨rfl, List.append_cancel_left same⟩
  | .num mantissa places, depth => by
    intro other rest later stops stops' same
    obtain ⟨_, _, rfl⟩ := shape_of_lead (layout.lead_eq same)
    rw [layout.print_num, layout.print_num] at same
    obtain ⟨rfl, rfl, after⟩ := decimal_cancel stops stops' same
    exact ⟨rfl, after⟩
  | .str text, depth => by
    intro other rest later _ _ same
    obtain ⟨_, rfl⟩ := shape_of_lead (layout.lead_eq same)
    rw [layout.print_str, layout.print_str] at same
    obtain ⟨rfl, after⟩ := quoted_cancel same
    exact ⟨rfl, after⟩
  | .arr items, depth => by
    intro other rest later _ _ same
    obtain ⟨_, rfl⟩ := shape_of_lead (layout.lead_eq same)
    rw [layout.print_arr, layout.print_arr] at same
    obtain ⟨rfl, after⟩ := listed_cancel (.inl rfl) (layout.head_print_ne (.inl rfl))
      (items_readable items (depth + 1)) (List.tail_eq_of_cons_eq same)
    exact ⟨rfl, after⟩
  | .obj members, depth => by
    intro other rest later _ _ same
    obtain ⟨_, rfl⟩ := shape_of_lead (layout.lead_eq same)
    rw [layout.print_obj, layout.print_obj] at same
    obtain ⟨rfl, after⟩ := listed_cancel (.inr rfl) head_memberText_ne
      (members_readable members (depth + 1)) (List.tail_eq_of_cons_eq same)
    exact ⟨rfl, after⟩

theorem items_readable : ∀ (items : List Json) (depth : Nat),
    ∀ item ∈ items, Readable (layout.print depth) item
  | [], _, _, member => nomatch member
  | first :: rest, depth, item, member => by
    rcases List.mem_cons.mp member with same | member
    · exact same ▸ readable first depth
    · exact items_readable rest depth item member

theorem members_readable : ∀ (members : List (String × Json)) (depth : Nat),
    ∀ member ∈ members, Readable (memberText layout.colon (layout.print depth)) member
  | [], _, _, listed => nomatch listed
  | (key, value) :: rest, depth, member, listed => by
    rcases List.mem_cons.mp listed with same | listed
    · exact same ▸ memberText_readable key (readable value depth)
    · exact members_readable rest depth member listed

end

theorem print_injective (depth : Nat) : Function.Injective (layout.print depth) := by
  intro value other same
  have stops : Stops [] := by simp [Stops]
  exact (layout.readable value depth other [] [] stops stops (by rw [same])).1

end Layout

theorem intercalate_listed (spacing : Spacing) (closing : Char) {texts : List (List Char)}
    (filled : texts ≠ []) :
    [','].intercalate (texts.map (spacing.gap ++ ·)) ++ (spacing.ending ++ [closing]) =
      listed spacing closing texts := by
  obtain ⟨first, rest, rfl⟩ := List.exists_cons_of_ne_nil filled
  clear filled
  induction rest generalizing first with
  | nil => simp [listed, trail]
  | cons next rest ih =>
    rw [List.map_cons, List.map_cons, List.intercalate_cons_cons, ← List.map_cons, List.append_assoc, ih]
    simp [listed, trail]

theorem toList_tight (closing : Char) (texts : List String) :
    (",".intercalate texts).toList ++ [closing] = listed .tight closing (texts.map String.toList) := by
  rw [String.toList_intercalate]
  by_cases filled : texts.map String.toList = []
  · rw [filled]
    rfl
  · have joined := intercalate_listed .tight closing filled
    have plain : (Spacing.tight.gap ++ ·) = id := rfl
    rwa [plain, List.map_id] at joined

theorem toList_spread (opening closing : Char) (depth : Nat) {lines : List String} (filled : lines ≠ []) :
    (spread (.singleton opening) (.singleton closing) depth lines).toList =
      opening :: listed (.lines depth) closing (lines.map String.toList) := by
  have indented : (lines.map (newline (depth + 1) ++ ·)).map String.toList =
      (lines.map String.toList).map ((Spacing.lines depth).gap ++ ·) := by
    simp [Spacing.lines]
  have texts : lines.map String.toList ≠ [] := by simpa using filled
  have joined := intercalate_listed (.lines depth) closing texts
  rw [← indented] at joined
  rw [← joined, spread]
  simp only [String.toList_append, String.toList_intercalate, String.toList_singleton, List.append_assoc]
  rfl

theorem toList_member (colon : String) (text : Json → String) :
    (String.toList ∘ fun member : String × Json => quoted member.1 ++ colon ++ text member.2) =
      memberText colon.toList fun value => (text value).toList := by
  funext member
  simp [memberText]

theorem compactItems_eq (items : List Json) : compactItems items = items.map compact := by
  induction items with
  | nil => rfl
  | cons item rest ih => rw [compactItems, ih, List.map_cons]

theorem compactMembers_eq (members : List (String × Json)) :
    compactMembers members = members.map fun member => quoted member.1 ++ ":" ++ member.2.compact := by
  induction members with
  | nil => rfl
  | cons member rest ih => rw [compactMembers, ih, List.map_cons]

theorem wideItems_eq (depth : Nat) (items : List Json) :
    wideItems depth items = items.map (wideAt depth) := by
  induction items with
  | nil => rfl
  | cons item rest ih => rw [wideItems, ih, List.map_cons]

theorem wideMembers_eq (depth : Nat) (members : List (String × Json)) :
    wideMembers depth members =
      members.map fun member => quoted member.1 ++ ": " ++ wideAt depth member.2 := by
  induction members with
  | nil => rfl
  | cons member rest ih => rw [wideMembers, ih, List.map_cons]

/-- The compact form has no blanks. -/
def Layout.compact : Layout where
  print _ value := value.compact.toList
  spacing _ := .tight
  colon := ":".toList
  print_null _ := rfl
  print_bool _ value := by cases value <;> rfl
  print_num _ _ _ := rfl
  print_str _ _ := rfl
  print_arr _ items := by
    have inner := toList_tight ']' (compactItems items)
    rw [compactItems_eq, List.map_map] at inner
    rw [Json.compact, compactItems_eq, String.toList_append, String.toList_append, List.append_assoc]
    exact congrArg (List.cons '[') inner
  print_obj _ members := by
    have inner := toList_tight '\x7d' (compactMembers members)
    rw [compactMembers_eq, List.map_map, toList_member] at inner
    rw [Json.compact, compactMembers_eq, String.toList_append, String.toList_append, List.append_assoc]
    exact congrArg (List.cons '\x7b') inner

/-- The wide form has a line for every item and member. -/
def Layout.wide : Layout where
  print depth value := (wideAt depth value).toList
  spacing := .lines
  colon := ": ".toList
  print_null _ := by rw [wideAt]
  print_bool _ value := by cases value <;> rw [wideAt] <;> rfl
  print_num _ _ _ := by rw [wideAt]
  print_str _ _ := by rw [wideAt]
  print_arr depth items := by
    cases items with
    | nil =>
      rw [wideAt]
      rfl
    | cons item rest =>
      have inner := @toList_spread '[' ']' depth (wideItems (depth + 1) (item :: rest)) (by simp [wideItems])
      rw [wideItems_eq, List.map_map] at inner
      rw [wideAt, wideItems_eq]
      exact inner
  print_obj depth members := by
    cases members with
    | nil =>
      rw [wideAt]
      rfl
    | cons member rest =>
      have inner := @toList_spread '\x7b' '\x7d' depth (wideMembers (depth + 1) (member :: rest))
        (by simp [wideMembers])
      rw [wideMembers_eq, List.map_map, toList_member] at inner
      rw [wideAt, wideMembers_eq]
      exact inner

theorem compact_injective : Function.Injective compact := by
  intro value other same
  exact Layout.compact.print_injective 0 (congrArg String.toList same)

theorem wide_injective : Function.Injective wide := by
  intro value other same
  exact Layout.wide.print_injective 0 (congrArg String.toList same)

end BeanAtlas.Json
