/-!
Places in a source text. Lines and columns start at one, columns count UTF-8 bytes, and a range ends
behind its last byte. Line and column zero stand for an unknown place.
-/
namespace BeanAtlas

structure Position where
  line : UInt32
  column : UInt32
  deriving DecidableEq, Repr, Inhabited

structure Range where
  start : Position
  stop : Position
  deriving DecidableEq, Repr, Inhabited

namespace Position

def unknown : Position := ⟨0, 0⟩

def text (position : Position) : String :=
  toString position.line.toNat ++ ":" ++ toString position.column.toNat

/-- The place on the line of index `row`, `offset` bytes from its start, both counted from zero. -/
def ofIndices (row offset : Nat) : Position :=
  ⟨(row + 1).toUInt32, (offset + 1).toUInt32⟩

end Position

/-- The empty range at a place. -/
def Range.at (position : Position) : Range := ⟨position, position⟩

end BeanAtlas
