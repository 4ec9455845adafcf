import BeanAtlas.Text.Search

/-!
File paths. A path keeps the spelling it was given; comparing and ordering go by components, so that
repeated and trailing slashes and inner `.` components do not count. Names are Unicode strings: a path with
a name in bytes that are not UTF-8 has no spelling here.
-/
namespace BeanAtlas

/-- One step of a path. -/
inductive Component where
  | root
  | here
  | up
  | name (text : String)
  deriving DecidableEq, Repr

namespace Component

def rank : Component → Nat
  | root => 0
  | here => 1
  | up => 2
  | name _ => 3

def label : Component → String
  | root => "/"
  | here => "."
  | up => ".."
  | name text => text

/-- The root comes before `.`, that before `..`, and names last, by their bytes. -/
instance : Ord Component where
  compare := compareLex (compareOn rank) (compareOn label)

theorem ext_order {a b : Component} (ranks : a.rank = b.rank) (labels : a.label = b.label) : a = b := by
  cases a <;> cases b <;> simp_all [rank, label]

instance : Std.TransOrd Component :=
  inferInstanceAs (Std.TransCmp (compareLex (compareOn rank) (compareOn label)))

instance : Std.LawfulEqOrd Component where
  eq_of_compare {a b} equal := by
    have parts : compare a.rank b.rank = .eq ∧ compare a.label b.label = .eq :=
      compareLex_eq_eq.mp equal
    exact ext_order (Std.LawfulEqCmp.eq_of_compare parts.1) (Std.LawfulEqCmp.eq_of_compare parts.2)

end Component

/-- A path as spelled. -/
structure FilePath where
  spelling : String
  deriving DecidableEq, Repr, Inhabited

namespace FilePath

/-- A segment that names no step: empty, between two slashes, or a single dot. -/
def isVoid (segment : List Char) : Bool :=
  segment == [] || segment == ['.']

def step? (segment : List Char) : Option Component :=
  if isVoid segment then none
  else if segment == ['.', '.'] then some .up
  else some (.name (String.ofList segment))

/-- The first step when it is not an ordinary one, and the segments behind it. -/
def lead (path : FilePath) : Option Component × List (List Char) :=
  match path.spelling.toList with
  | '/' :: rest => (some .root, Text.splitAt '/' rest)
  | cs =>
    match Text.splitAt '/' cs with
    | ['.'] :: rest => (some .here, rest)
    | segments => (none, segments)

def components (path : FilePath) : List Component :=
  path.lead.1.toList ++ path.lead.2.filterMap step?

/-- Equal as paths, whatever their spelling. -/
def same (a b : FilePath) : Bool :=
  a.components == b.components

def precedes (a b : FilePath) : Bool :=
  (compare a.components b.components).isLE

def spell (segments : List (List Char)) : String :=
  "/".intercalate (segments.map String.ofList)

/-- The segments behind the first steps, which have to be those of `steps`. -/
def behind (steps : List Component) : List (List Char) → Option (List (List Char))
  | [] => if steps.isEmpty then some [] else none
  | segment :: rest =>
    match steps with
    | [] => some (segment :: rest)
    | step :: steps =>
      match step? segment with
      | none => behind (step :: steps) rest
      | some found => if found = step then behind steps rest else none

def dropVoidEnd (segments : List (List Char)) : List (List Char) :=
  (segments.reverse.dropWhile isVoid).reverse

/-- The path below `base` as it is spelled, when `base` is a leading part of it. -/
def below? (path base : FilePath) : Option String :=
  match path.lead, base.components with
  | (none, segments), [] => some (spell (dropVoidEnd segments))
  | (some first, segments), [] =>
    let rest := spell (dropVoidEnd segments)
    match first with
    | .root => some ("/" ++ rest)
    | _ => some (if rest.isEmpty then "." else "./" ++ rest)
  | (none, segments), steps => (behind steps segments).map tidy
  | (some first, segments), step :: steps =>
    if first = step then (behind steps segments).map tidy else none
where
  tidy (segments : List (List Char)) : String :=
    spell (dropVoidEnd (segments.dropWhile isVoid))

/-- The path without its last step; the root and the empty path have none. -/
def parent? (path : FilePath) : Option FilePath :=
  let (first, segments) := path.lead
  let kept := dropVoidEnd segments
  let outer := spell (dropVoidEnd kept.dropLast)
  match first, kept.isEmpty with
  | some .root, true => none
  | some .root, false => some ⟨"/" ++ outer⟩
  | none, true => none
  | none, false => some ⟨outer⟩
  | some _, true => some ⟨""⟩
  | some _, false => some ⟨if outer.isEmpty then "." else "./" ++ outer⟩

/-- The path as shown to someone working in `base`. -/
def shownFrom (path base : FilePath) : String :=
  (path.below? base).getD path.spelling

/-- The path of the entry `name` in this directory. -/
def join (path : FilePath) (name : String) : FilePath :=
  match path.spelling.toList.getLast? with
  | none => ⟨name⟩
  | some '/' => ⟨path.spelling ++ name⟩
  | some _ => ⟨path.spelling ++ "/" ++ name⟩

/-- The path of what lies below this directory under a list of names. -/
def descend (path : FilePath) (names : List String) : FilePath := names.foldl join path

/-- The absolute path of a list of names. -/
def ofNames (names : List String) : FilePath := ⟨"/" ++ "/".intercalate names⟩

/-- The last step, when it is a name. -/
def fileName? (path : FilePath) : Option String :=
  match path.components.getLast? with
  | some (.name text) => some text
  | _ => none

/-- What follows the last dot of a name that has more than that before it. -/
def extensionOf? (name : String) : Option String :=
  let cs := name.toList
  let tail := Text.afterLast '.' cs
  let stem := cs.take (cs.length - tail.length - 1)
  if cs.contains '.' && !stem.isEmpty then some (String.ofList tail) else none

def isJava (path : FilePath) : Bool :=
  path.fileName?.bind extensionOf? == some "java"

end FilePath
end BeanAtlas
