import BeanAtlas.Config.Setting
import BeanAtlas.Toml.Text

/-!
TOML numbers and dates. Integers have 64 bits, and a float must not be too large to be finite.
-/
namespace BeanAtlas.Toml

/-- Digits after the first one: single underscores may stand between two of them. -/
def moreDigits (isDigit : Char → Bool) : Reader (List Char)
  | [] => some ([], [])
  | [c] => if c == '_' then none else if isDigit c then some ([c], []) else some ([], [c])
  | c :: next :: cs =>
    if c == '_' then
      if isDigit next then (moreDigits isDigit cs).map fun (more, rest) => (next :: more, rest) else none
    else if isDigit c then
      (moreDigits isDigit (next :: cs)).map fun (more, rest) => (c :: more, rest)
    else some ([], c :: next :: cs)

def digits (isDigit : Char → Bool) : Reader (List Char)
  | [] => none
  | c :: cs =>
    if isDigit c then (moreDigits isDigit cs).map fun (more, rest) => (c :: more, rest) else none

def valueIn (base : Nat) (digits : List Char) : Nat :=
  digits.foldl (fun value c => base * value + (hexValue? c).getD 0) 0

/-- An optional sign; whether it is a minus. -/
def sign : List Char → Bool × List Char
  | '-' :: cs => (true, cs)
  | '+' :: cs => (false, cs)
  | cs => (false, cs)

/-- The digits of a decimal integer: no zero in front of other digits. -/
def wholePart : Reader (List Char)
  | '0' :: cs => some (['0'], cs)
  | cs => digits Char.isDigit cs

/-- The number of integers that are not negative. -/
def integerBound : Nat := Nat.pow 2 63

def based (base : Nat) (isDigit : Char → Bool) (cs : List Char) : Option (Setting × List Char) := do
  let (found, rest) ← digits isDigit cs
  if valueIn base found < integerBound then some (.number (String.ofList found), rest) else none

def integer : Reader Setting
  | '0' :: 'x' :: cs => based 16 (fun c => (hexValue? c).isSome) cs
  | '0' :: 'o' :: cs => based 8 (fun c => '0' ≤ c && c ≤ '7') cs
  | '0' :: 'b' :: cs => based 2 (fun c => c == '0' || c == '1') cs
  | cs => do
    let (isNegative, rest) := sign cs
    let (found, left) ← wholePart rest
    let value := valueIn 10 found
    if value < integerBound || (isNegative && value = integerBound) then
      some (.number (String.ofList found), left)
    else none

def fraction : Reader (List Char)
  | '.' :: cs => digits Char.isDigit cs
  | _ => none

/-- An exponent as its sign and its digits. -/
def exponent : Reader (Bool × List Char)
  | c :: cs =>
    if c == 'e' || c == 'E' then
      let (isNegative, rest) := sign cs
      (digits Char.isDigit rest).map fun (found, left) => ((isNegative, found), left)
    else none
  | [] => none

/-- The smallest value that rounds to infinity in double precision. -/
def infinityBound : Nat := Nat.pow 2 1024 - Nat.pow 2 970

/-- Whether `mantissa` times ten to the power `up - down` is finite in double precision. A value of more
than 400 digits before the point is not looked at closer. -/
def isFinite (mantissa up down : Nat) : Bool :=
  if mantissa = 0 then true
  else if up ≤ down then mantissa < infinityBound * Nat.pow 10 (down - up)
  else up - down ≤ 400 && mantissa * Nat.pow 10 (up - down) < infinityBound

def float (cs : List Char) : Option (Setting × List Char) := do
  let (isNegative, rest) := sign cs
  let (whole, rest) ← wholePart rest
  let (part, rest) ← match fraction rest with
    | some (part, rest) => some (some part, rest)
    | none => some (none, rest)
  let (power, rest) := match exponent rest with
    | some (power, rest) => (some power, rest)
    | none => (none, rest)
  if part.isNone && power.isNone then none
  else
    let places := part.getD []
    let (isSmall, powerDigits) := power.getD (false, [])
    let size := valueIn 10 powerDigits
    let (up, down) := if isSmall then (0, places.length + min size whole.length) else (size, places.length)
    if isNegative || isFinite (valueIn 10 (whole ++ places)) up down then
      some (.number (String.ofList (whole ++ places)), rest)
    else none

/-- Infinity and not-a-number. -/
def specialFloat (cs : List Char) : Option (Setting × List Char) :=
  match (sign cs).2 with
  | 'i' :: 'n' :: 'f' :: rest => some (.number "inf", rest)
  | 'n' :: 'a' :: 'n' :: rest => some (.number "nan", rest)
  | _ => none

/-- A number of exactly `count` digits. -/
def fixedDigits (count : Nat) (cs : List Char) : Option (Nat × List Char) :=
  let found := cs.take count
  if found.length = count && found.all Char.isDigit then some (valueIn 10 found, cs.drop count) else none

def within (low high count : Nat) (cs : List Char) : Option (Nat × List Char) :=
  (fixedDigits count cs).filter fun (value, _) => low ≤ value && value ≤ high

def mark (c : Char) : List Char → Option (List Char)
  | [] => none
  | first :: rest => if first == c then some rest else none

def isLeapYear (year : Nat) : Bool := year % 4 = 0 && (year % 100 != 0 || year % 400 = 0)

def daysIn (year month : Nat) : Nat :=
  if month = 2 then if isLeapYear year then 29 else 28
  else if month = 4 || month = 6 || month = 9 || month = 11 then 30
  else 31

/-- A day that exists; gives the text behind it. -/
def date (cs : List Char) : Option (List Char) := do
  let (year, rest) ← fixedDigits 4 cs
  let (month, rest) ← within 1 12 2 (← mark '-' rest)
  let (_, rest) ← within 1 (daysIn year month) 2 (← mark '-' rest)
  return rest

/-- A time of day; the second may be a leap second. -/
def time (cs : List Char) : Option (List Char) := do
  let (_, rest) ← within 0 23 2 cs
  let (_, rest) ← within 0 59 2 (← mark ':' rest)
  let (_, rest) ← within 0 60 2 (← mark ':' rest)
  match rest with
  | '.' :: c :: more => return if c.isDigit then more.dropWhile Char.isDigit else rest
  | _ => return rest

/-- The offset of a time zone. -/
def offset : List Char → Option (List Char)
  | [] => none
  | c :: cs =>
    if c == 'Z' || c == 'z' then some cs
    else if c == '+' || c == '-' then do
      let (_, rest) ← within 0 23 2 cs
      let (_, rest) ← within 0 59 2 (← mark ':' rest)
      return rest
    else none

/-- What follows a date when it has a time of day. -/
def timeBehindDate : List Char → Option (List Char)
  | [] => none
  | c :: cs => do
    if c == 'T' || c == 't' || c == ' ' then
      let rest ← time cs
      return (offset rest).getD rest
    else none

/-- A date, a time or both. It is a table that holds its text under a key of its own. -/
def dateTime (cs : List Char) : Option (Setting × List Char) := do
  let rest ← (date cs).map (fun rest => (timeBehindDate rest).getD rest) <|> time cs
  return (.table [("datetime", .text (String.ofList (cs.take (cs.length - rest.length))))], rest)

/-- A date or number. -/
def number (cs : List Char) : Option (Setting × List Char) :=
  dateTime cs <|> float cs <|> specialFloat cs <|> integer cs

end BeanAtlas.Toml
