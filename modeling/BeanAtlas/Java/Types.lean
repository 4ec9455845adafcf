import BeanAtlas.Java.Parse

/-!
Names, annotations, modifiers and types. An annotation's argument list is a flat run of tokens.
-/
namespace BeanAtlas.Java

namespace Parse

/-- Extends a dotted name to the left-nested node of the whole; every round takes a token of `fuel`. -/
def scopedFrom (fuel : List Token) (current : Node) (tokens : List Token) : Node × List Token :=
  match fuel with
  | [] => (current, tokens)
  | _ :: fuel =>
    let (between, rest) := comments tokens
    match andThen (symbol ".") name rest with
    | some (more, left) =>
      scopedFrom fuel (nodeOf "scoped_identifier" (current :: between ++ more)) left
    | none => (current, tokens)

/-- A dotted name. -/
def qualifiedName : Parse := fun tokens => do
  let (first, rest) ← name none tokens
  match first with
  | [node] =>
    let (whole, left) := scopedFrom rest node rest
    return ([whole], left)
  | _ => none

/-- The single node read, as the field of its parent. -/
def inField (field : String) (inner : Parse) : Parse := fun tokens => do
  let (nodes, rest) ← inner tokens
  return (nodes.map (·.inField field), rest)

def annotation : Parse :=
  firstOf [
    under "annotation" (sequence [symbol "@", inField "name" qualifiedName,
      under "annotation_argument_list" (groupOf "(") (some "arguments")]),
    under "marker_annotation" (andThen (symbol "@") (inField "name" qualifiedName))]

def modifierWords : List String :=
  ["public", "protected", "private", "abstract", "static", "final", "strictfp", "default",
    "synchronized", "native", "transient", "volatile", "non-sealed"]

/-- What may follow `sealed` when it is a modifier. -/
def followsSealed (token : Token) : Bool :=
  token.isSymbol "@" || (token.kind == .word &&
    (modifierWords.contains token.text || token.text == "class" || token.text == "interface"))

def isSealed : List Token → Bool
  | token :: next :: _ => token.isKeyword "sealed" && followsSealed next
  | _ => false

def modifierWord : Parse :=
  firstOf [
    one fun token => token.kind == .word && modifierWords.contains token.text,
    when isSealed fun
      | token :: rest =>
        let keyword := { (leaf token).info with kind := token.text, isNamed := false }
        some ([.node keyword []], rest)
      | [] => none]

def modifiers : Parse := under "modifiers" (many1 (orElse annotation modifierWord))

def dimensions (field : Option String) : Parse :=
  under "dimensions" (many1 (sequence [many annotation, symbol "[", symbol "]"])) field

/-- A type name or primitive type. -/
def typeHead : Parse
  | [] => none
  | token :: rest =>
    let info := (leaf token).info
    match token.primitiveKind? with
    | some kind => some ([.node { info with kind, isNamed := true } []], rest)
    | none =>
      if token.kind == .word then
        some ([.node { info with kind := "type_identifier", isNamed := true } []], rest)
      else none

/-- Extends a type by type arguments, by members behind a dot and, at the end, by array brackets. Every
round takes a token of `fuel`. -/
def typeFrom (fuel : List Token) (current : Node) (tokens : List Token) : Node × List Token :=
  match fuel with
  | [] => (current, tokens)
  | _ :: fuel =>
    let (between, rest) := comments tokens
    match angles "type_arguments" none rest with
    | some (more, left) => typeFrom fuel (nodeOf "generic_type" (current :: between ++ more)) left
    | none =>
      match sequence [symbol ".", many annotation, typeHead] rest with
      | some (more, left) =>
        typeFrom fuel (nodeOf "scoped_type_identifier" (current :: between ++ more)) left
      | none =>
        match dimensions (some "dimensions") rest with
        | some (more, left) => (nodeOf "array_type" (current :: between ++ more), left)
        | none => (current, tokens)

/-- A type without leading annotations. -/
def plainType : Parse := fun tokens => do
  let (first, rest) ← typeHead tokens
  match first with
  | [node] =>
    let (whole, left) := typeFrom rest node rest
    return ([whole], left)
  | _ => none

/-- A type that may have leading annotations. -/
def anyType : Parse :=
  orElse plainType (under "annotated_type" (andThen (many1 annotation) plainType))

end Parse
end BeanAtlas.Java
