/-!
The lexical level of TOML: blanks, comments, line ends, strings and keys. A line ends at a line feed,
with or without a carriage return before it; other control characters except the tab are refused.
-/
namespace BeanAtlas.Toml

/-- Reads a value off the front of a text. -/
abbrev Reader (α : Type) := List Char → Option (α × List Char)

def isSpace (c : Char) : Bool := c == ' ' || c == '\t'

def skipSpaces (cs : List Char) : List Char := cs.dropWhile isSpace

/-- The characters of comments and of strings on one line. -/
def isPlain (c : Char) : Bool := c == '\t' || (0x20 ≤ c.toNat && c.toNat != 0x7F)

def newline? : List Char → Option (List Char)
  | '\n' :: cs => some cs
  | '\r' :: '\n' :: cs => some cs
  | _ => none

/-- The rest of a line that has nothing but a comment left. -/
def lineEnd? (cs : List Char) : Option (List Char) :=
  let rest := match skipSpaces cs with
    | '#' :: comment => comment.dropWhile isPlain
    | other => other
  if rest.isEmpty then some [] else newline? rest

/-- Skips blanks, line ends and comments; `comment` tells whether a comment is open. -/
def skipFiller (comment : Bool) : List Char → List Char
  | [] => []
  | '\r' :: '\n' :: cs => skipFiller false cs
  | c :: cs =>
    if c == '\n' then skipFiller false cs
    else if comment then if isPlain c then skipFiller true cs else c :: cs
    else if isSpace c then skipFiller false cs
    else if c == '#' then skipFiller true cs
    else c :: cs

/-- Skips blanks and line ends. -/
def skipBlankLines : List Char → List Char
  | [] => []
  | '\r' :: '\n' :: cs => skipBlankLines cs
  | c :: cs => if c == '\n' || isSpace c then skipBlankLines cs else c :: cs

def hexValue? (c : Char) : Option Nat :=
  if '0' ≤ c && c ≤ '9' then some (c.toNat - '0'.toNat)
  else if 'a' ≤ c && c ≤ 'f' then some (c.toNat - 'a'.toNat + 10)
  else if 'A' ≤ c && c ≤ 'F' then some (c.toNat - 'A'.toNat + 10)
  else none

/-- Exactly `count` hexadecimal digits, after the value of those before them. -/
def hexDigits (value : Nat) : Nat → Reader Nat
  | 0, cs => some (value, cs)
  | _ + 1, [] => none
  | count + 1, c :: cs => do
    let digit ← hexValue? c
    hexDigits (16 * value + digit) count cs

/-- The character with this number, when there is one. -/
def scalar? (n : Nat) : Option Char :=
  if n < 0xD800 || (0xDFFF < n && n < 0x110000) then some (Char.ofNat n) else none

def codePoint (digits : Nat) : Reader Char := fun cs => do
  let (n, rest) ← hexDigits 0 digits cs
  return (← scalar? n, rest)

/-- What follows a backslash. -/
def escape : Reader Char
  | 'b' :: cs => some ('\x08', cs)
  | 't' :: cs => some ('\t', cs)
  | 'n' :: cs => some ('\n', cs)
  | 'f' :: cs => some ('\x0c', cs)
  | 'r' :: cs => some ('\r', cs)
  | '"' :: cs => some ('"', cs)
  | '\\' :: cs => some ('\\', cs)
  | 'u' :: cs => codePoint 4 cs
  | 'U' :: cs => codePoint 8 cs
  | _ => none

/-- The rest of a basic string; every round takes a character at least. -/
def basicRest : Nat → Reader (List Char)
  | 0, _ => none
  | bound + 1, cs =>
    match cs with
    | [] => none
    | '"' :: rest => some ([], rest)
    | '\\' :: rest => do
      let (c, rest) ← escape rest
      let (more, left) ← basicRest bound rest
      return (c :: more, left)
    | c :: rest =>
      if isPlain c then (basicRest bound rest).map fun (more, left) => (c :: more, left) else none

/-- The rest of a literal string. -/
def literalRest (cs : List Char) : Option (List Char × List Char) :=
  let isContent (c : Char) : Bool := c != '\'' && isPlain c
  match cs.dropWhile isContent with
  | '\'' :: rest => some (cs.takeWhile isContent, rest)
  | _ => none

/-- Behind a backslash at the end of a line: the first character that is neither blank nor line end. -/
def continuation? (cs : List Char) : Option (List Char) :=
  (newline? (skipSpaces cs)).map skipBlankLines

/-- The rest of a string of several lines. It is closed by three quotes, and up to two more of them just
before these belong to the string. -/
def blockRest (quote : Char) (escapes : Bool) : Nat → Reader (List Char)
  | 0, _ => none
  | bound + 1, cs =>
    let quotes := (cs.takeWhile (· == quote)).length
    let add (c : Char) (rest : List Char) : Option (List Char × List Char) :=
      (blockRest quote escapes bound rest).map fun (more, left) => (c :: more, left)
    if 3 ≤ quotes then
      let kept := min (quotes - 3) 2
      some (List.replicate kept quote, cs.drop (kept + 3))
    else
      match cs with
      | [] => none
      | '\r' :: '\n' :: rest => add '\n' rest
      | '\n' :: rest => add '\n' rest
      | c :: rest =>
        if escapes && c == '\\' then
          match continuation? rest with
          | some left => blockRest quote escapes bound left
          | none => (escape rest).bind fun (c, left) => add c left
        else if isPlain c then add c rest
        else none

/-- A string of several lines, without the line end right behind its opening quotes. -/
def block (quote : Char) (escapes : Bool) (cs : List Char) : Option (String × List Char) :=
  let content := (newline? cs).getD cs
  (blockRest quote escapes (content.length + 1) content).map fun (text, rest) =>
    (String.ofList text, rest)

def line (read : Reader (List Char)) (cs : List Char) : Option (String × List Char) :=
  (read cs).map fun (text, rest) => (String.ofList text, rest)

/-- A string on one line. -/
def lineString : Reader String
  | '"' :: cs => line (basicRest (cs.length + 1)) cs
  | '\'' :: cs => line literalRest cs
  | _ => none

def string : Reader String
  | '"' :: '"' :: '"' :: cs => block '"' true cs
  | '\'' :: '\'' :: '\'' :: cs => block '\'' false cs
  | cs => lineString cs

def isBareKeyChar (c : Char) : Bool := c.isAlphanum || c == '_' || c == '-'

/-- One part of a key. -/
def keyPart (cs : List Char) : Option (String × List Char) :=
  match lineString cs with
  | some found => some found
  | none =>
    let bare := cs.takeWhile isBareKeyChar
    if bare.isEmpty then none else some (String.ofList bare, cs.drop bare.length)

/-- Nesting beyond this depth is refused. -/
def nestingLimit : Nat := 80

/-- The parts of a dotted key, with the blanks around them. -/
def keyParts : Nat → Reader (List String)
  | 0, _ => none
  | bound + 1, cs => do
    let (part, rest) ← keyPart (skipSpaces cs)
    match skipSpaces rest with
    | '.' :: more =>
      let (parts, left) ← keyParts bound more
      return (part :: parts, left)
    | left => return ([part], left)

def key : Reader (List String) := keyParts (nestingLimit - 1)

end BeanAtlas.Toml
