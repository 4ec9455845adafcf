import BeanAtlas.Glob.Reader
import BeanAtlas.Text.Search

/-!
Rules of ignore files. A rule is a glob pattern for paths relative to the directory of the file; of the
rules that match a path the last one decides.
-/
namespace BeanAtlas.Ignore

inductive Verdict where
  | ignore
  | keep
  deriving DecidableEq, Repr

structure Rule where
  pattern : List Glob.Part
  verdict : Verdict
  onlyDirs : Bool

namespace Rule

def everywhere : List Char := ['*', '*', '/']

/-- A line of an ignore file in its parts. An anchored rule applies in the directory of the file only. -/
structure Line where
  body : List Char
  verdict : Verdict := .ignore
  isAnchored : Bool := false
  onlyDirs : Bool := false

/-- Takes off an exclamation mark and a leading slash; a backslash in front of the mark or of a number
sign makes these stand for themselves. -/
def Line.ofText : List Char → Line
  | '\\' :: '!' :: rest => { body := '!' :: rest }
  | '\\' :: '#' :: rest => { body := '#' :: rest }
  | '!' :: '/' :: rest => { body := rest, verdict := .keep, isAnchored := true }
  | '!' :: rest => { body := rest, verdict := .keep }
  | '/' :: rest => { body := rest, isAnchored := true }
  | rest => { body := rest }

/-- Takes off the slash at the end of a rule for directories, with a backslash before it. -/
def Line.withoutEndSlash (line : Line) : Line :=
  match Text.stripEnd? ['/'] line.body with
  | none => line
  | some body => { line with body := (Text.stripEnd? ['\\'] body).getD body, onlyDirs := true }

/-- The pattern of a line. Without a slash it applies in every directory, and what ends in `/**` is
about the contents of a directory only. -/
def Line.pattern (line : Line) : List Char :=
  let isFree := !line.isAnchored && !line.body.contains '/' && line.body != ['*', '*']
  let pattern := if isFree then everywhere ++ line.body else line.body
  if ['/', '*', '*'].isSuffixOf pattern then pattern ++ ['/', '*'] else pattern

/-- The rule on a line, if there is one. Blanks at the end do not count unless a backslash precedes the
last of them. -/
def ofLine? (allowUnclosed : Bool) (text : List Char) : Option Rule := do
  let text := if ['\\', ' '].isSuffixOf text then text else Text.dropBlankEnd text
  if text.isEmpty || text.head? == some '#' then none
  else
    let line := (Line.ofText text).withoutEndSlash
    let pattern ← Glob.read? allowUnclosed line.pattern
    return { pattern, verdict := line.verdict, onlyDirs := line.onlyDirs }

def applies (rule : Rule) (path : List UInt8) (isDir : Bool) : Bool :=
  (isDir || !rule.onlyDirs) && Glob.isMatch rule.pattern path

end Rule

/-- The verdict of the last rule that applies. -/
def verdict? (rules : List Rule) (path : List UInt8) (isDir : Bool) : Option Verdict :=
  (rules.reverse.find? (·.applies path isDir)).map (·.verdict)

/-- The rule for an excluded directory, by name or pattern. It is written as one that keeps what matches,
and its verdict is taken the other way round. -/
def exclusion? (dir : String) : Option Rule := Rule.ofLine? false ('!' :: dir.toList ++ ['/'])

def lineFeed : UInt8 := 0x0A

/-- The lines of a file of bytes, each without its line end. -/
def byteLines (current : List UInt8) : List UInt8 → List (List UInt8)
  | [] => if current.isEmpty then [] else [current.reverse]
  | b :: bs =>
    if b == lineFeed then
      (match current with
        | 0x0D :: rest => rest.reverse
        | _ => current.reverse) :: byteLines [] bs
    else byteLines (b :: current) bs

/-- The lines up to the first one that is not UTF-8. -/
def textLines : List (List UInt8) → List (List Char)
  | [] => []
  | line :: rest =>
    match String.fromUTF8? (ByteArray.mk line.toArray) with
    | some text => text.toList :: textLines rest
    | none => []

/-- The rules of an ignore file. A byte order mark in front of them does not count. -/
def rules (content : List UInt8) : List Rule :=
  match textLines (byteLines [] content) with
  | [] => []
  | first :: rest => (first.dropWhile (· == '\ufeff') :: rest).filterMap (Rule.ofLine? true)

end BeanAtlas.Ignore
