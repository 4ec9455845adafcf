import BeanAtlas.Source.Text
import BeanAtlas.Text.Lines

/-!
Looking for a literal in the lines of a source.
-/
namespace BeanAtlas.Source

/-- The first line from index `row` on that contains `literal`. -/
def scanLines (literal : String) (row : Nat) : List String → Option Position
  | [] => none
  | line :: rest =>
    match Text.offsetOf? literal line with
    | some offset => some (.ofIndices row offset)
    | none => scanLines literal (row + 1) rest

/-- The first place, from the line of index `row` on, of `literal` without the blanks around it.
A blank literal has no place. -/
def scanFrom? (lines : List String) (literal : String) (row : Nat) : Option Position :=
  let literal := Text.trim literal
  if literal.isEmpty then none else scanLines literal row (lines.drop row)

def scan? (lines : List String) (literal : String) : Option Position :=
  scanFrom? lines literal 0

/-- The known place, else the first place of the literal, else the unknown place. -/
def locate (lines : List String) (known : Option Position) (literal : String) : Position :=
  (known <|> scan? lines literal).getD .unknown

end BeanAtlas.Source
