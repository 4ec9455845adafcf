import BeanAtlas.Text.Search

/-!
A text as a list of lines. A line ends at a line feed, with or without a carriage return before it;
a text that ends in a line feed has no empty line after it, and a carriage return elsewhere belongs
to its line.
-/
namespace BeanAtlas.Text

/-- The line whose characters are given last first, without the carriage return that ended it. -/
def closedLine : List Char → List Char
  | '\r' :: current => current.reverse
  | current => current.reverse

/-- `current` holds the open line, last character first. -/
def linesFrom (current : List Char) : List Char → List (List Char)
  | [] => if current.isEmpty then [] else [current.reverse]
  | c :: cs =>
    if c == '\n' then closedLine current :: linesFrom [] cs
    else linesFrom (c :: current) cs

def lines (text : String) : List String :=
  (linesFrom [] text.toList).map String.ofList

end BeanAtlas.Text
