/-!
Blank characters, the trims and the splits built on them. Blank is every character of Unicode's
`White_Space` property, so a no-break space and an ideographic space count.
-/
namespace BeanAtlas.Text

def isBlank (c : Char) : Bool :=
  let code := c.toNat
  (0x09 ≤ code && code ≤ 0x0D) || code == 0x20 || code == 0x85 || code == 0xA0 || code == 0x1680 ||
    (0x2000 ≤ code && code ≤ 0x200A) || code == 0x2028 || code == 0x2029 || code == 0x202F ||
    code == 0x205F || code == 0x3000

def dropBlankEnd (cs : List Char) : List Char :=
  (cs.reverse.dropWhile isBlank).reverse

def dropBlanks (cs : List Char) : List Char :=
  dropBlankEnd (cs.dropWhile isBlank)

/-- The text without the blanks at its two ends. -/
def trim (s : String) : String :=
  String.ofList (dropBlanks s.toList)

/-- Nothing but blanks. -/
def isBlankText (s : String) : Bool :=
  s.toList.all isBlank

def withoutBlanks (s : String) : String :=
  String.ofList (s.toList.filter (!isBlank ·))

/-- The maximal runs of characters that are not blank; `current` holds the open run, last character first. -/
def wordsFrom (current : List Char) : List Char → List (List Char)
  | [] => if current.isEmpty then [] else [current.reverse]
  | c :: cs =>
    if isBlank c then
      if current.isEmpty then wordsFrom [] cs else current.reverse :: wordsFrom [] cs
    else wordsFrom (c :: current) cs

/-- Every run of blanks between words becomes one space. -/
def squeeze (s : String) : String :=
  " ".intercalate ((wordsFrom [] s.toList).map String.ofList)

end BeanAtlas.Text
