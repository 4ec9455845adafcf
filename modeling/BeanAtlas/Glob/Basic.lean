import BeanAtlas.Text.Bytes

/-!
Glob patterns over the bytes of a path. A wildcard within a name does not cross a slash; the three
patterns for directories do.
-/
namespace BeanAtlas.Glob

/-- A part of a pattern. -/
inductive Part where
  | byte (value : UInt8)
  /-- One byte of a name. -/
  | any
  /-- Any bytes of a name. -/
  | star
  /-- Any directories, or none, at the start. -/
  | leading
  /-- A slash and everything behind it. -/
  | contents
  /-- A slash, or any directories between two slashes. -/
  | between
  /-- One byte that lies in one of the ranges, or in none of them. -/
  | oneOf (isNegated : Bool) (ranges : List (UInt8 × UInt8))
  /-- One of several patterns; nothing when there is none. -/
  | choice (alternatives : List (List Part))

def slash : UInt8 := 0x2F

abbrev Rest := List UInt8 → Bool

/-- Some bytes of a name, then the rest. -/
def starThen (rest : Rest) : List UInt8 → Bool
  | [] => rest []
  | b :: bs => rest (b :: bs) || (b != slash && starThen rest bs)

/-- The rest behind some slash. -/
def slashThen (rest : Rest) : List UInt8 → Bool
  | [] => false
  | b :: bs => (b == slash && rest bs) || slashThen rest bs

/-- The rest behind any bytes. -/
def anythingThen (rest : Rest) : List UInt8 → Bool
  | [] => rest []
  | b :: bs => rest (b :: bs) || anythingThen rest bs

/-- One byte as wanted, then the rest. -/
def oneThen (wanted : UInt8 → Bool) (rest : Rest) : List UInt8 → Bool
  | [] => false
  | b :: bs => wanted b && rest bs

def inRanges (ranges : List (UInt8 × UInt8)) (b : UInt8) : Bool :=
  ranges.any fun (low, high) => low ≤ b && b ≤ high

mutual

/-- A part at the front of the bytes, then the rest. -/
def partThen (part : Part) (rest : Rest) (bs : List UInt8) : Bool :=
  match part with
  | .byte value => oneThen (· == value) rest bs
  | .any => oneThen (· != slash) rest bs
  | .star => starThen rest bs
  | .leading => rest bs || slashThen rest bs
  | .contents => oneThen (· == slash) (anythingThen rest) bs
  | .between => oneThen (· == slash) (fun bs => rest bs || slashThen rest bs) bs
  | .oneOf isNegated ranges => oneThen (fun b => inRanges ranges b != isNegated) rest bs
  | .choice alternatives => alternatives.isEmpty && rest bs || choiceThen alternatives rest bs

/-- All parts in order, then the rest. -/
def partsThen (parts : List Part) (rest : Rest) (bs : List UInt8) : Bool :=
  match parts with
  | [] => rest bs
  | part :: others => partThen part (partsThen others rest) bs

def choiceThen (alternatives : List (List Part)) (rest : Rest) (bs : List UInt8) : Bool :=
  match alternatives with
  | [] => false
  | parts :: others => partsThen parts rest bs || choiceThen others rest bs

end

/-- Whether a pattern matches the whole of a path. A pattern of nothing but leading directories matches
every path. -/
def isMatch (parts : List Part) (path : List UInt8) : Bool :=
  match parts with
  | [.leading] => true
  | _ => partsThen parts List.isEmpty path

end BeanAtlas.Glob
