import BeanAtlas.Config.Setting
import BeanAtlas.Text.Blank
import BeanAtlas.Toml.Text

/-!
Settings written in one line, as the values of environment variables are: `true`, `false`, numbers,
`[a, b]`, `{key = value}`, quoted texts, and plain texts without brackets, braces and commas. A value
that is none of these as a whole is a plain text.
-/
namespace BeanAtlas.Inline

open Toml (Reader)

def isSpace (c : Char) : Bool :=
  c == ' ' || c == '\t' || c == '\n' || c == '\r' || c == '\x0c'

def skipSpaces (cs : List Char) : List Char := cs.dropWhile isSpace

def isSeparator (c : Char) : Bool :=
  c == ',' || c == '[' || c == ']' || c == '\x7b' || c == '\x7d'

/-- Digits with an optional point among them; at least one digit. -/
def isMantissa (cs : List Char) : Bool :=
  let rest := match cs.dropWhile Char.isDigit with
    | '.' :: fraction => fraction
    | other => other
  cs.any Char.isDigit && rest.all Char.isDigit

def withoutSign : List Char → List Char
  | c :: cs => if c == '+' || c == '-' then cs else c :: cs
  | [] => []

def isExponentMark (c : Char) : Bool := c == 'e' || c == 'E'

/-- Decimal numbers, and the names of infinity and not-a-number in any case. -/
def isNumber (text : List Char) : Bool :=
  let unsigned := withoutSign text
  let named := ["inf", "infinity", "nan"].contains (String.ofList (unsigned.map Char.toLower))
  let decimal := match unsigned.dropWhile (!isExponentMark ·) with
    | _ :: power =>
      let digits := withoutSign power
      !digits.isEmpty && digits.all Char.isDigit && isMantissa (unsigned.takeWhile (!isExponentMark ·))
    | [] => isMantissa unsigned
  named || decimal

/-- The text up to the next separator, without the blanks around it. -/
def plain (cs : List Char) : Setting × List Char :=
  let text := Text.dropBlanks (cs.takeWhile (!isSeparator ·))
  let rest := cs.dropWhile (!isSeparator ·)
  if isNumber text then (.number (String.ofList text), rest) else (.text (String.ofList text), rest)

/-- The rest of a quoted text. -/
def quotedRest : Nat → Reader (List Char)
  | 0, _ => none
  | bound + 1, cs =>
    match cs with
    | [] => none
    | '"' :: rest => some ([], rest)
    | '\\' :: rest => do
      let (c, rest) ← Toml.escape rest
      let (more, left) ← quotedRest bound rest
      return (c :: more, left)
    | c :: rest => (quotedRest bound rest).map fun (more, left) => (c :: more, left)

def quoted (cs : List Char) : Option (String × List Char) :=
  (quotedRest (cs.length + 1) cs).map fun (text, rest) => (String.ofList text, rest)

/-- Items with commas between them. A comma may stand before the closing mark. -/
def items {α : Type} (item : Reader α) (closing : Char) : Nat → Reader (List α)
  | 0, _ => none
  | bound + 1, cs => do
    if cs.head? == some closing then return ([], cs.tail)
    else
      let (first, rest) ← item cs
      match rest with
      | [] => none
      | c :: left =>
        if c == ',' then
          let (others, left) ← items item closing bound left
          return (first :: others, left)
        else if c == closing then return ([first], left)
        else none

def key : Reader String
  | '"' :: cs => quoted cs
  | cs =>
    let bare := cs.takeWhile Toml.isBareKeyChar
    if bare.isEmpty then none else some (String.ofList bare, cs.drop bare.length)

/-- A key, an equals sign and a value. -/
def pair (item : Reader Setting) (cs : List Char) : Option ((String × Setting) × List Char) := do
  let (name, rest) ← key (skipSpaces cs)
  match skipSpaces rest with
  | '=' :: rest =>
    let (value, left) ← item rest
    return ((name, value), left)
  | _ => none

def table (entries : List (String × Setting)) : Setting :=
  .table (entries.foldl (fun all (key, value) => SettingTable.put key value all) [])

/-- A value with the blanks around it. Every bracket takes a character, so that `bound` need not exceed
the length of the text. -/
def value : Nat → Reader Setting
  | 0, _ => none
  | bound + 1, cs => do
    let start := skipSpaces cs
    let (found, rest) ←
      if "true".toList.isPrefixOf start then some (.bool true, start.drop 4)
      else if "false".toList.isPrefixOf start then some (.bool false, start.drop 5)
      else
        match start with
        | '\x7b' :: rest =>
          (items (pair (value bound)) '\x7d' (rest.length + 1) rest).map fun (entries, rest) =>
            (table entries, rest)
        | '[' :: rest =>
          (items (value bound) ']' (rest.length + 1) rest).map fun (found, rest) => (.list found, rest)
        | '"' :: rest => (quoted rest).map fun (text, rest) => (.text text, rest)
        | '\'' :: c :: '\'' :: rest => some (.text (String.singleton c), rest)
        | '\'' :: _ => none
        | _ => some (plain start)
    return (found, skipSpaces rest)

/-- The setting that a text stands for. -/
def read (text : String) : Setting :=
  match value (text.length + 1) text.toList with
  | some (found, []) => found
  | _ => .text text

end BeanAtlas.Inline
