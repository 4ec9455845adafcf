import BeanAtlas.Java.Types
import BeanAtlas.Tree.Document

/-!
Compilation units, classes and their members. Method bodies, initializers and the declarations that
contribute no classes (interfaces, enums, records, annotation types, modules) are read as far as their
end and kept as flat runs of tokens.
-/
namespace BeanAtlas.Java

namespace Parse

def opening : String := "\x7b"

def block (field : Option String := none) : Parse := under "block" (groupOf opening) field

/-- The tokens up to a body or a semicolon, and that. -/
def bodyOrEnd (field : String) : Parse :=
  andThen (upTo fun token => token.isSymbol opening || token.isSymbol ";")
    (orElse (block (some field)) (symbol ";"))

def declarator (field : Option String) : Parse :=
  under "variable_declarator" (sequence [name (some "name"), optional (dimensions (some "dimensions")),
    optional (andThen (symbol "=")
      (under "initializer" (upTo fun token => token.isSymbol "," || token.isSymbol ";")
        (some "value")))]) field

def formalParameter : Parse :=
  under "formal_parameter" (sequence [optional modifiers, inField "type" plainType,
    name (some "name"), optional (dimensions (some "dimensions"))])

def spreadParameter : Parse :=
  under "spread_parameter" (sequence [optional modifiers, plainType, many annotation, symbol "...",
    many annotation, declarator none])

/-- The parameter that names the receiver of a method. -/
def receiverParameter : Parse :=
  under "receiver_parameter" (sequence [many annotation, plainType,
    many (andThen name (symbol ".")), keyword "this"])

def formalParameters : Parse :=
  under "formal_parameters" (sequence [symbol "(",
    optional (listOf (firstOf [receiverParameter, spreadParameter, formalParameter])),
    symbol ")"]) (some "parameters")

def typeParameters : Parse := optional (angles "type_parameters" (some "type_parameters"))

def typeList : Parse := under "type_list" (listOf anyType)

/-- A clause of a class header: a keyword and types behind it. -/
def clause (word kind field : String) (types : Parse) : Parse :=
  optional (under kind (andThen (keyword word) types) (some field))

def constructorDeclaration : Parse :=
  under "constructor_declaration" (sequence [optional modifiers, typeParameters, name (some "name"),
    formalParameters, bodyOrEnd "body"])

def methodDeclaration : Parse :=
  under "method_declaration" (sequence [optional modifiers, typeParameters, many annotation,
    inField "type" plainType, name (some "name"), formalParameters, bodyOrEnd "body"])

def fieldDeclaration : Parse :=
  under "field_declaration" (sequence [optional modifiers, inField "type" plainType,
    listOf (declarator (some "declarator")), symbol ";"])

/-- A declaration read no further than its start and its end. -/
def closedDeclaration (kind : String) (start : Parse) : Parse :=
  under kind (sequence [optional modifiers, start, upTo (·.isSymbol opening), block (some "body")])

def startsRecord : List Token → Bool
  | token :: title :: next :: _ =>
    token.isKeyword "record" && title.isName && (next.isSymbol "(" || next.isSymbol "<")
  | _ => false

def otherType : Parse :=
  firstOf [
    closedDeclaration "interface_declaration" (keyword "interface"),
    closedDeclaration "enum_declaration" (keyword "enum"),
    closedDeclaration "annotation_type_declaration" (symbol "@interface"),
    closedDeclaration "record_declaration" (when startsRecord name)]

/-- Anything else, up to its body or semicolon. -/
def unknown (kind : String) : Parse :=
  under kind (andThen (upTo fun token => token.isSymbol opening || token.isSymbol ";")
    (orElse (groupOf opening) (symbol ";")))

/-- A member of a class body, where `nested` reads a class. -/
def member (nested : Parse) : Parse :=
  firstOf [
    symbol ";",
    block,
    under "static_initializer" (andThen (keyword "static") block),
    nested,
    otherType,
    constructorDeclaration,
    methodDeclaration,
    fieldDeclaration,
    unknown "other_member"]

/-- A class whose nesting is at most `bound` deep. -/
def classDeclaration (bound : Nat) (tokens : List Token) : Option (List Node × List Token) :=
  match bound with
  | 0 => none
  | bound + 1 =>
    under "class_declaration" (sequence [optional modifiers, keyword "class", name (some "name"),
      typeParameters,
      clause "extends" "superclass" "superclass" anyType,
      clause "implements" "super_interfaces" "interfaces" typeList,
      optional (under "permits" (andThen (one (·.isKeyword "permits")) typeList) (some "permits")),
      under "class_body" (sequence [symbol opening, many (member (classDeclaration bound)),
        symbol "\x7d"]) (some "body")]) none tokens

def packageDeclaration : Parse :=
  under "package_declaration" (sequence [many annotation, keyword "package", qualifiedName, symbol ";"])

def asterisk : Parse
  | [] => none
  | token :: rest =>
    if token.isSymbol "*" then
      some ([.node { kind := "asterisk", start := token.start, stop := token.stop } []], rest)
    else none

def importDeclaration : Parse :=
  under "import_declaration" (sequence [keyword "import", optional (keyword "static"), qualifiedName,
    optional (andThen (symbol ".") asterisk), symbol ";"])

def topLevel (bound : Nat) : Parse :=
  firstOf [
    symbol ";",
    packageDeclaration,
    importDeclaration,
    classDeclaration bound,
    otherType,
    unknown "other_declaration"]

end Parse

/-- The tree of a well-formed compilation unit. -/
def unitTree (source : String) : Node :=
  let found := tokens source
  let (leading, rest) := comments found
  let (declarations, left) := (Parse.many (Parse.topLevel found.length) rest).getD ([], rest)
  let (trailing, _) := comments left
  .node { kind := "program", start := 0, stop := source.utf8ByteSize }
    (leading ++ declarations ++ trailing)

end BeanAtlas.Java

namespace BeanAtlas

/-- The document of a well-formed compilation unit. -/
def Document.ofText (text : String) : Document := ⟨.of text, .ok (Java.unitTree text)⟩

end BeanAtlas
