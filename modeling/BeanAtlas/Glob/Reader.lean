import BeanAtlas.Glob.Basic

/-!
Reading glob patterns: `?`, `*`, `**` as a whole directory, classes in brackets, alternatives in braces,
and the backslash, which makes the next character stand for itself.
-/
namespace BeanAtlas.Glob

def literal (c : Char) : List Part := (String.utf8EncodeChar c).map .byte

/-- The byte ranges of a range of characters: the last byte of the first and the first byte of the last
one are the ends of a range, and their other bytes stand for themselves. -/
def byteRanges (low high : Char) : List (UInt8 × UInt8) :=
  let alone (bytes : List UInt8) : List (UInt8 × UInt8) := bytes.map fun b => (b, b)
  if low = high then alone (String.utf8EncodeChar low)
  else
    let first := String.utf8EncodeChar low
    let last := String.utf8EncodeChar high
    alone first.dropLast ++ (first.getLast?.toList.zip last.head?.toList) ++ alone last.tail

/-- What became of a class behind its opening bracket. -/
inductive ClassScan where
  | closed (ranges : List (Char × Char)) (rest : List Char)
  | unclosed
  | malformed

/-- Reads the items of a class. A bracket or hyphen in the first place stands for itself, and so does a
hyphen in the last; `isOpen` tells whether the last range waits for its end. -/
def classItems (isFirst isOpen : Bool) (ranges : List (Char × Char)) : List Char → ClassScan
  | [] => .unclosed
  | c :: cs =>
    if c == ']' && !isFirst then
      .closed (ranges ++ if isOpen then [('-', '-')] else []) cs
    else if c == '-' && !isFirst && !isOpen then classItems false true ranges cs
    else if isOpen then
      match ranges.getLast? with
      | none => .malformed
      | some (low, _) =>
        if c < low then .malformed else classItems false false (ranges.dropLast ++ [(low, c)]) cs
    else classItems false false (ranges ++ [(c, c)]) cs

/-- A class behind its opening bracket; whether it is negated. -/
def classScan : List Char → Bool × ClassScan
  | [] => (false, .unclosed)
  | c :: cs =>
    if c == '!' || c == '^' then (true, classItems true false [] cs)
    else (false, classItems true false [] (c :: cs))

/-- A group of alternatives that is still open. -/
structure Group where
  outer : List Part
  finished : List (List Part)

/-- The state of reading: the parts of the current branch, last part first, the open groups around it,
the character read last, and whether brackets stand for themselves. -/
structure State where
  parts : List Part := []
  groups : List Group := []
  previous : Option Char := none
  plainBrackets : Bool := false

namespace State

def add (state : State) (part : Part) : State := { state with parts := part :: state.parts }

def addLiteral (state : State) (c : Char) : State :=
  { state with parts := (literal c).reverse ++ state.parts }

def after (state : State) (c : Char) : State := { state with previous := some c }

/-- Puts a pattern for directories in the place of the last part, unless that is such a pattern at an
end. -/
def widen (state : State) (wide : Part) : State :=
  match state.parts with
  | .leading :: _ => state
  | .contents :: _ => state
  | _ :: others => { state with parts := wide :: others }
  | [] => state.add wide

end State

/-- Whether the parts match nothing but the empty text because they hold empty choices only. -/
def isVoid (parts : List Part) : Bool :=
  parts.all fun
    | .choice [] => true
    | _ => false

/-- Closes the innermost group. -/
def closeGroup (state : State) : Option State :=
  match state.groups with
  | [] => none
  | group :: others =>
    let alternatives := (group.finished ++ [state.parts.reverse]).filter (!isVoid ·)
    some { state with parts := .choice alternatives :: group.outer, groups := others }

/-- Starts the next alternative; outside of a group a comma stands for itself. -/
def comma (state : State) : State :=
  match state.groups with
  | [] => state.addLiteral ','
  | group :: others =>
    { state with
      parts := []
      groups := { group with finished := group.finished ++ [state.parts.reverse] } :: others }

/-- Two stars. They stand for directories when they fill the place between two slashes or ends. -/
def doubleStar (state : State) (rest : List Char) : State × List Char :=
  let plain := (((state.add .star).add .star).after '*', rest)
  let isInner := !state.groups.isEmpty
  if state.parts.isEmpty then
    match rest with
    | [] => (state.add .leading, [])
    | '/' :: left => ((state.add .leading).after '/', left)
    | _ => plain
  else
    let previous := state.previous
    let isFree := previous == some '/' ||
      (isInner && (previous == some ',' || previous == some '\x7b'))
    if !isFree then plain
    else
      match rest with
      | [] => (state.widen .contents, [])
      | c :: left =>
        if c == '/' then ((state.widen .between).after '/', left)
        else if isInner && (c == ',' || c == '\x7d') then ((state.widen .contents).after '*', rest)
        else plain

/-- Reads a class; an unclosed one is refused or else makes all brackets stand for themselves. -/
def readClass (allowUnclosed : Bool) (state : State) (rest : List Char) :
    Option (State × List Char) :=
  match classScan rest with
  | (isNegated, .closed ranges left) =>
    let ranges := ranges.flatMap fun (low, high) => byteRanges low high
    some ((state.add (.oneOf isNegated ranges)).after ']', left)
  | (_, .unclosed) =>
    if allowUnclosed then
      some ({ state.addLiteral '[' with plainBrackets := true }.after '[', rest)
    else none
  | (_, .malformed) => none

/-- One step of reading a pattern that starts with the character `c`. -/
def step (allowUnclosed : Bool) (state : State) (c : Char) (rest : List Char) :
    Option (State × List Char) :=
  match c with
  | '?' => some ((state.add .any).after c, rest)
  | '*' =>
    match rest with
    | '*' :: left => some (doubleStar state left)
    | _ => some ((state.add .star).after c, rest)
  | '[' =>
    if state.plainBrackets then some ((state.addLiteral c).after c, rest)
    else readClass allowUnclosed state rest
  | '\x7b' =>
    some ({ state with parts := [], groups := ⟨state.parts, []⟩ :: state.groups }.after c, rest)
  | '\x7d' => (closeGroup state).map fun state => (state.after c, rest)
  | ',' => some ((comma state).after c, rest)
  | '\\' =>
    match rest with
    | [] => none
    | next :: left => some ((state.addLiteral next).after next, left)
  | _ => some ((state.addLiteral c).after c, rest)

/-- Every step takes a character at least. -/
def readFrom (allowUnclosed : Bool) : Nat → State → List Char → Option (List Part)
  | _, state, [] => if state.groups.isEmpty then some state.parts.reverse else none
  | 0, _, _ => none
  | bound + 1, state, c :: rest => do
    let (state, rest) ← step allowUnclosed state c rest
    readFrom allowUnclosed bound state rest

/-- The parts of a pattern; `none` when it is malformed. -/
def read? (allowUnclosed : Bool) (pattern : List Char) : Option (List Part) :=
  readFrom allowUnclosed pattern.length {} pattern

end BeanAtlas.Glob
