import BeanAtlas.Toml.Number

/-!
TOML documents. Every key is defined once: a table has one header, and dotted keys may add to the tables
that dotted keys made but not to those with a header.
-/
namespace BeanAtlas.Toml

/-- How a table came to be. -/
inductive Origin where
  | header
  | implied
  | dotted
  deriving DecidableEq, Repr

/-- What is defined under a key. New entries of an array of tables go to its last table. -/
inductive Entry where
  | value (setting : Setting)
  | table (origin : Origin) (entries : List (String × Entry))
  | tables (closed : List (List (String × Entry))) (last : List (String × Entry))

abbrev Entries := List (String × Entry)

mutual

def Entry.setting : Entry → Setting
  | .value setting => setting
  | .table _ entries => .table (settings entries)
  | .tables closed last => .list (tableSettings closed ++ [.table (settings last)])

def settings : List (String × Entry) → List (String × Setting)
  | [] => []
  | (key, entry) :: rest => (key, entry.setting) :: settings rest

def tableSettings : List (List (String × Entry)) → List Setting
  | [] => []
  | entries :: rest => .table (settings entries) :: tableSettings rest

end

open SettingTable (find? put)

/-- Defines a dotted key inside a table. -/
def define (value : Setting) : List String → Entries → Option Entries
  | [], _ => none
  | [key], entries =>
    if (find? key entries).isSome then none else some (put key (.value value) entries)
  | key :: next :: rest, entries => do
    let inner ← match find? key entries with
      | none => (define value (next :: rest) []).map (.table .dotted ·)
      | some (.table origin inner) =>
        if origin = .header || (origin = .implied && rest.isEmpty) then none
        else (define value (next :: rest) inner).map (.table origin ·)
      | some (.tables closed last) =>
        if rest.isEmpty then none
        else (define value (next :: rest) last).map (.tables closed ·)
      | some (.value _) => none
    return put key inner entries

/-- Changes the table that a header opened. -/
def inTable (change : Entries → Option Entries) : List String → Entries → Option Entries
  | [], entries => change entries
  | key :: rest, entries => do
    let inner ← match find? key entries with
      | none => (inTable change rest []).map (.table .implied ·)
      | some (.table origin inner) => (inTable change rest inner).map (.table origin ·)
      | some (.tables closed last) => (inTable change rest last).map (.tables closed ·)
      | some (.value _) => none
    return put key inner entries

/-- Opens a table under a key. -/
def openTable (key : String) (entries : Entries) : Option Entries :=
  match find? key entries with
  | none => some (put key (.table .header []) entries)
  | some (.table .implied inner) => some (put key (.table .header inner) entries)
  | some _ => none

/-- Opens the next table of an array of tables. -/
def openNext (key : String) (entries : Entries) : Option Entries :=
  match find? key entries with
  | none => some (put key (.tables [] []) entries)
  | some (.tables closed last) => some (put key (.tables (closed ++ [last]) []) entries)
  | some _ => none

/-- The path of a header, split before its last key. -/
def atHeader (change : String → Entries → Option Entries) (path : List String) (entries : Entries) :
    Option Entries :=
  path.getLast?.bind fun key => inTable (change key) path.dropLast entries

/-- The items of an array up to its closing bracket. -/
def arrayItems (item : Reader Setting) : Nat → Reader (List Setting)
  | 0, _ => none
  | bound + 1, cs =>
    match skipFiller false cs with
    | ']' :: rest => some ([], rest)
    | start => do
      let (first, rest) ← item start
      match skipFiller false rest with
      | ',' :: more =>
        let (others, left) ← arrayItems item bound more
        return (first :: others, left)
      | ']' :: left => return ([first], left)
      | _ => none

/-- A key, an equals sign and a value. -/
def pair (item : Reader Setting) (cs : List Char) : Option ((List String × Setting) × List Char) := do
  let (path, rest) ← key cs
  let (value, rest) ← item (skipSpaces (← mark '=' rest))
  return ((path, value), rest)

/-- The pairs of an inline table up to its closing brace. -/
def inlinePairs (item : Reader Setting) (entries : Entries) : Nat → Reader Entries
  | 0, _ => none
  | bound + 1, cs => do
    let ((path, value), rest) ← pair item cs
    let entries ← define value path entries
    match skipSpaces rest with
    | ',' :: more => inlinePairs item entries bound more
    | '\x7d' :: left => return (entries, left)
    | _ => none

def inlineTable (item : Reader Setting) (cs : List Char) : Option (Setting × List Char) :=
  match skipSpaces cs with
  | '\x7d' :: rest => some (.table [], rest)
  | start => (inlinePairs item [] (start.length + 1) start).map fun (entries, rest) =>
    (.table (settings entries), rest)

/-- A value with at most `levels` arrays and inline tables inside each other. -/
def value (levels : Nat) (cs : List Char) : Option (Setting × List Char) :=
  match cs with
  | [] => none
  | c :: rest =>
    if c == '"' || c == '\'' then (string cs).map fun (text, rest) => (.text text, rest)
    else if c == '[' || c == '\x7b' then
      match levels with
      | 0 => none
      | levels + 1 =>
        if c == '[' then
          (arrayItems (value levels) (rest.length + 1) rest).map fun (items, rest) => (.list items, rest)
        else inlineTable (value levels) rest
    else if c == 't' then (afterWord "true" cs).map fun rest => (.bool true, rest)
    else if c == 'f' then (afterWord "false" cs).map fun rest => (.bool false, rest)
    else number cs
where
  afterWord (word : String) (cs : List Char) : Option (List Char) :=
    if word.toList.isPrefixOf cs then some (cs.drop word.length) else none

/-- The header of a table, behind its opening brackets. -/
def header (closing : List Char) (cs : List Char) : Option (List String × List Char) := do
  let (path, rest) ← key cs
  if closing.isPrefixOf rest then return (path, ← lineEnd? (rest.drop closing.length)) else none

/-- The statements of a document, where `path` is that of the open table. -/
def statements : Nat → List String → Entries → List Char → Option Entries
  | 0, _, _, _ => none
  | bound + 1, path, entries, cs =>
    match skipSpaces cs with
    | [] => some entries
    | '[' :: '[' :: rest => do
      let (path, rest) ← header [']', ']'] rest
      statements bound path (← atHeader openNext path entries) rest
    | '[' :: rest => do
      let (path, rest) ← header [']'] rest
      statements bound path (← atHeader openTable path entries) rest
    | start => do
      match lineEnd? start with
      | some rest => statements bound path entries rest
      | none =>
        let ((keys, found), rest) ← pair (value (nestingLimit - 1)) start
        let entries ← inTable (define found keys) path entries
        statements bound path entries (← lineEnd? rest)

/-- The table of a document; `none` when it is malformed. -/
def read? (text : String) : Option SettingTable :=
  let cs := match text.toList with
    | '\ufeff' :: rest => rest
    | cs => cs
  (statements (cs.length + 1) [] [] cs).map settings

end BeanAtlas.Toml
