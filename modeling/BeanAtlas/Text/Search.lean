import BeanAtlas.Text.Alphanumeric
import BeanAtlas.Text.Blank

/-!
Finding text inside text. Offsets count UTF-8 bytes, and a whole word is an occurrence that is not
part of a longer identifier.
-/
namespace BeanAtlas.Text

def byteLength : List Char → Nat
  | [] => 0
  | c :: cs => c.utf8Size + byteLength cs

/-- Byte offset of the first occurrence of `needle`, where the text searched starts at `offset`. -/
def offsetFrom (needle : List Char) (offset : Nat) : List Char → Option Nat
  | [] => if needle.isEmpty then some offset else none
  | c :: cs =>
    if needle.isPrefixOf (c :: cs) then some offset
    else offsetFrom needle (offset + c.utf8Size) cs

def offsetOf? (needle text : String) : Option Nat :=
  offsetFrom needle.toList 0 text.toList

def contains (text needle : String) : Bool :=
  (offsetOf? needle text).isSome

def isIdentifierChar (c : Char) : Bool :=
  isAlphanumeric c || c == '_' || c == '$'

/-- Neither neighbour continues an identifier. -/
def standsAlone (before after : Option Char) : Bool :=
  !before.any isIdentifierChar && !after.any isIdentifierChar

/-- Scans for `word` on its own. After an occurrence that is part of a longer identifier the search
goes on behind it: `skip` counts the characters of that occurrence still to pass. -/
def wordOffsetFrom (word : List Char) (skip : Nat) (before : Option Char) (offset : Nat) :
    List Char → Option Nat
  | [] => if skip == 0 && word.isEmpty && standsAlone before none then some offset else none
  | c :: cs =>
    match skip with
    | skip + 1 => wordOffsetFrom word skip (some c) (offset + c.utf8Size) cs
    | 0 =>
      if word.isPrefixOf (c :: cs) then
        if standsAlone before ((c :: cs).drop word.length).head? then some offset
        else wordOffsetFrom word (word.length - 1) (some c) (offset + c.utf8Size) cs
      else wordOffsetFrom word 0 (some c) (offset + c.utf8Size) cs

/-- Byte offset of the first whole-word occurrence of `word` in `line`. -/
def wordOffset? (line word : String) : Option Nat :=
  wordOffsetFrom word.toList 0 none 0 line.toList

/-- The text behind `start`, if it begins so. -/
def stripStart? (start cs : List Char) : Option (List Char) :=
  if start.isPrefixOf cs then some (cs.drop start.length) else none

/-- The text before `tail`, if it ends so. -/
def stripEnd? (tail cs : List Char) : Option (List Char) :=
  if tail.isSuffixOf cs then some (cs.take (cs.length - tail.length)) else none

/-- What follows the last `mark`, the whole text when there is none. -/
def afterLast (mark : Char) (cs : List Char) : List Char :=
  (cs.reverse.takeWhile (· != mark)).reverse

/-- The parts between the occurrences of `mark`; always at least one. -/
def splitAt (mark : Char) : List Char → List (List Char)
  | [] => [[]]
  | c :: cs =>
    if c == mark then [] :: splitAt mark cs
    else match splitAt mark cs with
      | [] => [[c]]
      | part :: parts => (c :: part) :: parts

def sameIgnoringAsciiCase (a b : String) : Bool :=
  a.toList.map Char.toLower == b.toList.map Char.toLower

end BeanAtlas.Text
