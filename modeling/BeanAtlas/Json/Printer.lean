import BeanAtlas.Json.Value

/-!
JSON text. Control characters, quotes and backslashes are escaped and everything else is written as it
is. The compact form has no blanks; the wide form puts every item and member on a line of its own,
two spaces deeper, except that empty arrays and objects stay closed.
-/
namespace BeanAtlas.Json

def hexDigit (n : Nat) : Char := (Nat.digitChar n)

def escapeChar (c : Char) : List Char :=
  if c = '"' then ['\\', '"']
  else if c = '\\' then ['\\', '\\']
  else if c = '\n' then ['\\', 'n']
  else if c = '\r' then ['\\', 'r']
  else if c = '\t' then ['\\', 't']
  else if c.toNat = 0x08 then ['\\', 'b']
  else if c.toNat = 0x0C then ['\\', 'f']
  else if c.toNat < 0x20 then
    ['\\', 'u', '0', '0', hexDigit (c.toNat / 16), hexDigit (c.toNat % 16)]
  else [c]

def quoted (text : String) : String :=
  "\"" ++ String.ofList (text.toList.flatMap escapeChar) ++ "\""

/-- Digits with the decimal point `places` digits from the right. -/
def decimal (mantissa : Int) (places : Nat) : String :=
  let digits := Nat.toDigits 10 mantissa.natAbs
  let sign := if mantissa < 0 then "-" else ""
  if places = 0 then sign ++ String.ofList digits
  else
    let padded := List.replicate (places + 1 - digits.length) '0' ++ digits
    let whole := padded.take (padded.length - places)
    sign ++ String.ofList whole ++ "." ++ String.ofList (padded.drop (padded.length - places))

mutual

def compact : Json → String
  | .null => "null"
  | .bool true => "true"
  | .bool false => "false"
  | .num mantissa places => decimal mantissa places
  | .str text => quoted text
  | .arr items => "[" ++ ",".intercalate (compactItems items) ++ "]"
  | .obj members => "\x7b" ++ ",".intercalate (compactMembers members) ++ "\x7d"

def compactItems : List Json → List String
  | [] => []
  | item :: rest => item.compact :: compactItems rest

def compactMembers : List (String × Json) → List String
  | [] => []
  | (key, value) :: rest => (quoted key ++ ":" ++ value.compact) :: compactMembers rest

end

/-- A line break and the indentation of a level. -/
def newline (depth : Nat) : String :=
  "\n" ++ String.ofList (List.replicate (2 * depth) ' ')

/-- Lines between two brackets. -/
def spread (opening closing : String) (depth : Nat) (lines : List String) : String :=
  opening ++ ",".intercalate (lines.map (newline (depth + 1) ++ ·)) ++ newline depth ++ closing

mutual

def wideAt (depth : Nat) : Json → String
  | .arr [] => "[]"
  | .obj [] => "\x7b\x7d"
  | .arr (item :: rest) => spread "[" "]" depth (wideItems (depth + 1) (item :: rest))
  | .obj (member :: rest) =>
    spread "\x7b" "\x7d" depth (wideMembers (depth + 1) (member :: rest))
  | .null => "null"
  | .bool true => "true"
  | .bool false => "false"
  | .num mantissa places => decimal mantissa places
  | .str text => quoted text

def wideItems (depth : Nat) : List Json → List String
  | [] => []
  | item :: rest => wideAt depth item :: wideItems depth rest

def wideMembers (depth : Nat) : List (String × Json) → List String
  | [] => []
  | (key, value) :: rest => (quoted key ++ ": " ++ wideAt depth value) :: wideMembers depth rest

end

/-- The wide form. -/
def wide (value : Json) : String := wideAt 0 value

end BeanAtlas.Json
