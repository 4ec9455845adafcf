import BeanAtlas.Text.Search

/-!
The tokens of a Java source with their byte offsets. Comments are tokens as well. Angle brackets are
always tokens of their own, since whether two of them form a shift depends on the grammar. A byte
order mark counts as a blank.
-/
namespace BeanAtlas.Java

inductive TokenKind where
  | word
  | number
  | string
  | character
  | symbol
  | lineComment
  | blockComment
  deriving DecidableEq, Repr

structure Token where
  kind : TokenKind
  text : String
  start : Nat
  stop : Nat
  deriving DecidableEq, Repr

def isSpace (c : Char) : Bool := Text.isBlank c || c.toNat == 0xFEFF

/-- Letters, `_`, `$` and everything beyond ASCII that is not a blank. -/
def startsWord (c : Char) : Bool :=
  c.isAlpha || c == '_' || c == '$' || (c.toNat ≥ 0x80 && !isSpace c)

def continuesWord (c : Char) : Bool := startsWord c || c.isDigit

/-- The number of characters up to and including the one that closes a character literal; a backslash
takes the character behind it along. -/
def closingLength : List Char → Nat
  | [] => 0
  | '\\' :: _ :: cs => closingLength cs + 2
  | c :: cs => if c == '\'' then 1 else closingLength cs + 1

/-- What is open inside a string: a string on one line, a text block, or an expression embedded in one of
them, with the number of its open braces. -/
inductive Opened where
  | line
  | block
  | code (braces : Nat)

/-- The number of characters up to and including those that close everything opened, innermost first. An
expression is embedded in a string by a backslash and a brace. -/
def stringLength : List Opened → List Char → Nat
  | [], _ => 0
  | _, [] => 0
  | .code braces :: outer, '"' :: '"' :: '"' :: cs =>
    stringLength (.block :: .code braces :: outer) cs + 3
  | .code braces :: outer, c :: cs =>
    if c == '"' then stringLength (.line :: .code braces :: outer) cs + 1
    else if c == '\x7b' then stringLength (.code (braces + 1) :: outer) cs + 1
    else if c == '\x7d' then
      match braces with
      | 0 => stringLength outer cs + 1
      | braces + 1 => stringLength (.code braces :: outer) cs + 1
    else stringLength (.code braces :: outer) cs + 1
  | text :: outer, '\\' :: c :: cs =>
    if c == '\x7b' then stringLength (.code 0 :: text :: outer) cs + 2
    else stringLength (text :: outer) cs + 2
  | .block :: outer, '"' :: '"' :: '"' :: cs => stringLength outer cs + 3
  | .block :: outer, _ :: cs => stringLength (.block :: outer) cs + 1
  | .line :: outer, c :: cs =>
    if c == '"' then stringLength outer cs + 1 else stringLength (.line :: outer) cs + 1

/-- The number of characters up to and including the end of a block comment. -/
def commentClosingLength : List Char → Nat
  | [] => 0
  | '*' :: '/' :: _ => 2
  | _ :: cs => commentClosingLength cs + 1

/-- A word; `non-sealed` is one. -/
def wordLength (first : Char) (cs : List Char) : Nat :=
  let rest := cs.takeWhile continuesWord
  if first :: rest == "non".toList && "-sealed".toList.isPrefixOf (cs.drop rest.length) then
    rest.length + 7
  else rest.length

/-- The kind of the token that starts with `first`, and how many characters of `cs` belong to it. -/
def shape (first : Char) (cs : List Char) : TokenKind × Nat :=
  if startsWord first then (.word, wordLength first cs)
  else if first.isDigit then
    (.number, (cs.takeWhile fun c => continuesWord c || c == '.').length)
  else
    match first, cs with
    | '"', '"' :: '"' :: rest => (.string, stringLength [.block] rest + 2)
    | '"', _ => (.string, stringLength [.line] cs)
    | '\'', _ => (.character, closingLength cs)
    | '/', '/' :: _ => (.lineComment, (cs.takeWhile (· != '\n')).length)
    | '/', '*' :: rest => (.blockComment, commentClosingLength rest + 1)
    | '.', '.' :: '.' :: _ => (.symbol, 2)
    | '@', _ =>
      let name := cs.takeWhile continuesWord
      if name == "interface".toList then (.symbol, name.length) else (.symbol, 0)
    | _, _ => (.symbol, 0)

/-- The tokens of a text that starts at byte `offset`. -/
def tokensFrom (offset : Nat) : List Char → List Token
  | [] => []
  | c :: cs =>
    if isSpace c then tokensFrom (offset + c.utf8Size) cs
    else
      let (kind, length) := shape c cs
      let text := c :: cs.take length
      let stop := offset + Text.byteLength text
      ⟨kind, String.ofList text, offset, stop⟩ :: tokensFrom stop (cs.drop length)
termination_by cs => cs.length
decreasing_by
  all_goals simp only [List.length_cons, List.length_drop]; omega

def tokens (source : String) : List Token := tokensFrom 0 source.toList

namespace Token

def isComment (token : Token) : Bool :=
  token.kind == .lineComment || token.kind == .blockComment

def isSymbol (token : Token) (text : String) : Bool :=
  token.kind == .symbol && token.text == text

def isKeyword (token : Token) (text : String) : Bool :=
  token.kind == .word && token.text == text

def opens (token : Token) : Bool :=
  token.kind == .symbol && (token.text == "(" || token.text == "[" || token.text == "\x7b")

def closes (token : Token) : Bool :=
  token.kind == .symbol && (token.text == ")" || token.text == "]" || token.text == "\x7d")

/-- The words that name neither a type nor a variable. -/
def reserved : List String :=
  ["abstract", "assert", "boolean", "break", "byte", "case", "catch", "char", "class", "const",
    "continue", "default", "do", "double", "else", "enum", "extends", "final", "finally", "float",
    "for", "goto", "if", "implements", "import", "instanceof", "int", "interface", "long", "native",
    "new", "package", "private", "protected", "public", "return", "short", "static", "strictfp",
    "super", "switch", "synchronized", "this", "throw", "throws", "transient", "try", "void",
    "volatile", "while", "true", "false", "null", "non-sealed"]

def isName (token : Token) : Bool := token.kind == .word && !reserved.contains token.text

/-- The kind of the node for a primitive type. -/
def primitiveKind? (token : Token) : Option String :=
  if token.kind != .word then none
  else if ["byte", "short", "int", "long", "char"].contains token.text then some "integral_type"
  else if ["float", "double"].contains token.text then some "floating_point_type"
  else if token.text == "boolean" then some "boolean_type"
  else if token.text == "void" then some "void_type"
  else none

end Token
end BeanAtlas.Java
