import BeanAtlas.Source.Position

/-!
Source texts and byte offsets into them: the text between two offsets, and the place of one. Lines end
at line feeds.
-/
namespace BeanAtlas

/-- The number of bytes of every line, its line feed included, after `current` bytes of the first. -/
def lineSizesFrom (current : Nat) : List Char → List Nat
  | [] => [current]
  | c :: cs =>
    if c = '\n' then (current + 1) :: lineSizesFrom 0 cs else lineSizesFrom (current + c.utf8Size) cs

/-- A text with the sizes of its lines. -/
structure Source where
  text : String
  lineSizes : List Nat
  sized : lineSizes = lineSizesFrom 0 text.toList

namespace Source

def of (text : String) : Source := ⟨text, lineSizesFrom 0 text.toList, rfl⟩

instance : Inhabited Source := ⟨of ""⟩

/-- The text from byte `start` up to byte `stop`; `none` when one of them falls inside a character. -/
def slice? (source : Source) (start stop : Nat) : Option String :=
  String.fromUTF8? (source.text.toUTF8.extract start stop)

/-- Row and byte column, both from zero, of an offset into the lines from `row` on. -/
def placeIn (row offset : Nat) : List Nat → Nat × Nat
  | [] => (row, offset)
  | [_] => (row, offset)
  | size :: next :: rest =>
    if offset < size then (row, offset) else placeIn (row + 1) (offset - size) (next :: rest)

def positionAt (source : Source) (offset : Nat) : Position :=
  let (row, column) := placeIn 0 offset source.lineSizes
  .ofIndices row column

end Source
end BeanAtlas
