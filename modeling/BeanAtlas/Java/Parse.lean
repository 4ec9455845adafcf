import BeanAtlas.Java.Token
import BeanAtlas.Tree.Node

/-!
Recursive descent over tokens. A reader yields the children it read and the tokens left. Between two
children of a sequence stand the comments found there; comments at its two ends are left to whoever
reads around it.
-/
namespace BeanAtlas.Java

/-- The tree node of a single token. -/
def leaf (token : Token) (field : Option String := none) : Node :=
  let (kind, isNamed) := match token.kind with
    | .word => if token.isName then ("identifier", true) else (token.text, false)
    | .number => ("decimal_integer_literal", true)
    | .string => ("string_literal", true)
    | .character => ("character_literal", true)
    | .symbol => (token.text, false)
    | .lineComment => ("line_comment", true)
    | .blockComment => ("block_comment", true)
  .node { kind, field, start := token.start, stop := token.stop, isNamed } []

/-- A node around its children, from the start of the first to the end of the last. -/
def nodeOf (kind : String) (children : List Node) (field : Option String := none) : Node :=
  let start := (children.head?.map (·.info.start)).getD 0
  let stop := (children.getLast?.map (·.info.stop)).getD 0
  .node { kind, field, start, stop } children

/-- Reads children off the front of the tokens, which start with no comment. -/
abbrev Parse := List Token → Option (List Node × List Token)

/-- The comments at the front, and the tokens behind them. -/
def comments (tokens : List Token) : List Node × List Token :=
  ((tokens.takeWhile (·.isComment)).map leaf, tokens.dropWhile (·.isComment))

/-- The first `count` tokens that are not comments, for looking ahead. -/
def significant (count : Nat) : List Token → List Token
  | [] => []
  | token :: rest =>
    match count with
    | 0 => []
    | count + 1 =>
      if token.isComment then significant (count + 1) rest else token :: significant count rest

namespace Parse

def fail : Parse := fun _ => none

/-- One token. -/
def one (wanted : Token → Bool) (field : Option String := none) : Parse
  | token :: rest => if wanted token then some ([leaf token field], rest) else none
  | [] => none

def symbol (text : String) : Parse := one (·.isSymbol text)

def keyword (text : String) : Parse := one (·.isKeyword text)

/-- A declared name or a part of a dotted one. Where nothing else can stand, every word is a name. -/
def name (field : Option String := none) : Parse
  | token :: rest =>
    if token.kind == .word then
      some ([.node { kind := "identifier", field, start := token.start, stop := token.stop } []], rest)
    else none
  | [] => none

/-- One reader after the other, with the comments between their children. -/
def andThen (first second : Parse) : Parse := fun tokens => do
  let (before, rest) ← first tokens
  if before.isEmpty then second rest
  else
    let (between, behind) := comments rest
    let (after, left) ← second behind
    return if after.isEmpty then (before, rest) else (before ++ between ++ after, left)

/-- All readers of a list in order. -/
def sequence (parts : List Parse) : Parse :=
  parts.foldr andThen fun tokens => some ([], tokens)

def optional (inner : Parse) : Parse := fun tokens => some ((inner tokens).getD ([], tokens))

def orElse (first second : Parse) : Parse := fun tokens => first tokens <|> second tokens

def firstOf (choices : List Parse) : Parse := choices.foldr orElse fail

/-- As often as possible, but no more often than `fuel` has tokens. -/
def manyFrom (inner : Parse) (fuel tokens : List Token) : Option (List Node × List Token) :=
  match fuel with
  | [] => some ([], tokens)
  | _ :: fuel => optional (andThen inner (manyFrom inner fuel)) tokens

/-- As often as possible; every round takes a token at least. -/
def many (inner : Parse) : Parse := fun tokens => manyFrom inner tokens tokens

def many1 (inner : Parse) : Parse := andThen inner (many inner)

/-- At least one, with commas between. -/
def listOf (inner : Parse) : Parse :=
  andThen inner (many (andThen (symbol ",") inner))

/-- Puts what was read under one node. -/
def under (kind : String) (inner : Parse) (field : Option String := none) : Parse := fun tokens => do
  let (children, rest) ← inner tokens
  if children.isEmpty then none else return ([nodeOf kind children field], rest)

/-- Goes on only when the next three tokens, comments aside, are as wanted. -/
def when (ahead : List Token → Bool) (inner : Parse) : Parse := fun tokens =>
  if ahead (significant 3 tokens) then inner tokens else none

end Parse

/-- The tokens up to the bracket that closes the `depth` open ones, and the tokens left. -/
def closing (depth : Nat) : List Token → List Node × List Token
  | [] => ([], [])
  | token :: rest =>
    let depth := if token.opens then depth + 1 else if token.closes then depth - 1 else depth
    if depth = 0 then ([leaf token], rest)
    else
      let (inner, left) := closing depth rest
      (leaf token :: inner, left)

/-- A bracket, everything up to its partner, and the partner. -/
def Parse.group : Parse
  | [] => none
  | token :: rest =>
    if token.opens then
      let (inner, left) := closing 1 rest
      some (leaf token :: inner, left)
    else none

def Parse.groupOf (opening : String) : Parse := fun tokens =>
  if tokens.head?.any (·.isSymbol opening) then group tokens else none

/-- How many tokens, comments included, an angle-bracketed list of types takes from here on, with
`depth` open brackets. Only what can stand in a type is allowed, so a comparison is no such list;
parentheses occur in annotations only. -/
def angleLength (depth parens : Nat) (annotated : Bool) : List Token → Option Nat
  | [] => none
  | token :: rest =>
    let go (depth parens : Nat) (annotated : Bool) : Option Nat :=
      if depth = 0 then some 1 else (angleLength depth parens annotated rest).map (· + 1)
    if token.isComment then go depth parens annotated
    else if parens > 0 then
      if token.isSymbol "(" then go depth (parens + 1) annotated
      else if token.isSymbol ")" then go depth (parens - 1) annotated
      else go depth parens annotated
    else if token.isSymbol "<" then go (depth + 1) 0 annotated
    else if token.isSymbol ">" then go (depth - 1) 0 annotated
    else if token.isSymbol "@" then go depth 0 true
    else if token.isSymbol "(" then if annotated then go depth 1 annotated else none
    else if token.kind == .symbol then
      if [".", ",", "?", "&", "[", "]"].contains token.text then go depth 0 annotated else none
    else if token.isName || token.primitiveKind?.isSome || token.isKeyword "extends" ||
        token.isKeyword "super" then go depth 0 annotated
    else none

/-- Type parameters or arguments as a run of tokens. -/
def Parse.angles (kind : String) (field : Option String := none) : Parse := fun tokens =>
  if tokens.head?.any (·.isSymbol "<") then do
    let length ← angleLength 0 0 false tokens
    return ([nodeOf kind ((tokens.take length).map leaf) field], tokens.drop length)
  else none

/-- The tokens up to one that is wanted and stands outside brackets and type arguments; `skip` tokens
are taken without a look. -/
def runUntil (wanted : Token → Bool) (depth skip : Nat) : List Token → List Node × List Token
  | [] => ([], [])
  | token :: rest =>
    let take (depth skip : Nat) : List Node × List Token :=
      let (inner, left) := runUntil wanted depth skip rest
      (leaf token :: inner, left)
    match skip with
    | skip + 1 => take depth skip
    | 0 =>
      if depth = 0 && (wanted token || token.closes) then ([], token :: rest)
      else if token.opens then take (depth + 1) 0
      else if token.closes then take (depth - 1) 0
      else if depth = 0 && token.isSymbol "<" then
        take 0 ((angleLength 0 0 false (token :: rest)).getD 1 - 1)
      else take depth 0

/-- Everything up to a wanted token outside brackets. -/
def Parse.upTo (wanted : Token → Bool) : Parse := fun tokens =>
  let (inner, left) := runUntil wanted 0 0 tokens
  -- Comments just before the wanted token are left for it.
  let trailing := (inner.reverse.takeWhile fun node =>
    node.kind == "line_comment" || node.kind == "block_comment").length
  let length := inner.length - trailing
  some (inner.take length, if trailing = 0 then left else tokens.drop length)

end BeanAtlas.Java
