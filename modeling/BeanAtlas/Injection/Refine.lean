import BeanAtlas.Model.Class
import BeanAtlas.Text.Search

/-!
A better place for an `@Autowired` field: on a line below the one with the annotation, still inside the
declaration, the first whole-word occurrence of the field's name.
-/
namespace BeanAtlas.Injection

/-- The place of `word` on the first of the numbered lines that has it as a whole word. -/
def wordPlace? (word : String) : List (String × Nat) → Option Position
  | [] => none
  | (line, row) :: rest =>
    match Text.wordOffset? line word with
    | some offset => some (.ofIndices row offset)
    | none => wordPlace? word rest

/-- The lines of a declaration with their indices; `none` when its place is unknown. -/
def ownLines? (lines : List String) (range : Range) : Option (List (String × Nat)) :=
  if range.start.line = 0 then none
  else some ((lines.zipIdx.take range.stop.line.toNat).drop (range.start.line.toNat - 1))

def refined? (lines : List String) (field : Field) : Option Position := do
  let own ← ownLines? lines field.range
  match own.dropWhile fun (line, _) => !Text.contains line "@Autowired" with
  | [] => none
  | _ :: below => wordPlace? field.name below

end BeanAtlas.Injection
