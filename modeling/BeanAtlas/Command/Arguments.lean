import BeanAtlas.FilePath

/-!
The command line. Options come in a long form with two hyphens and, some of them, in a short form with
one; a value follows as the next argument or behind an equals sign, and in the short form also directly.
An option occurs at most once before the command and once behind it. Arguments are read from left to
right, so that the first fault or request for the version decides.
-/
namespace BeanAtlas.Command

inductive Format where
  | json
  | pretty
  | text
  deriving DecidableEq, Repr

def Format.ofText? (text : String) : Option Format :=
  if text == "json" then some .json
  else if text == "pretty" then some .pretty
  else if text == "text" then some .text
  else none

/-- What is to be done. -/
inductive Action where
  | scan (root : FilePath)
  | beans (root : FilePath)
  | injections (root : FilePath) (file : Option FilePath) (onlyUnresolved : Bool)
  | resolve (root : FilePath) (type : String) (name : Option String)
  | analyze (file : FilePath)
  | lombok (file : FilePath)
  | watch (root : FilePath)
  deriving DecidableEq, Repr

structure Invocation where
  action : Action
  format : Format
  quiet : Bool
  deriving DecidableEq, Repr

/-- Why there is nothing to be done. -/
inductive Stop where
  | usage
  | version
  | help
  deriving DecidableEq, Repr

/-- The options with a value. -/
inductive Valued where
  | format
  | root
  | name
  | file
  deriving DecidableEq, Repr

namespace Valued

def long : Valued → String
  | format => "format"
  | root => "root"
  | name => "name"
  | file => "file"

def short? : Valued → Option Char
  | root => some 'r'
  | name => some 'n'
  | _ => none

/-- The values that an option takes; a path is not empty. -/
def accepts (option : Valued) (value : String) : Bool :=
  match option with
  | format => (Format.ofText? value).isSome
  | root => !value.isEmpty
  | name => true
  | file => !value.isEmpty

end Valued

/-- The options without a value. -/
inductive Switch where
  | quiet
  | unresolved
  | version
  | help
  deriving DecidableEq, Repr

namespace Switch

def long : Switch → String
  | quiet => "quiet"
  | unresolved => "unresolved"
  | version => "version"
  | help => "help"

def short? : Switch → Option Char
  | quiet => some 'q'
  | unresolved => none
  | version => some 'V'
  | help => some 'h'

end Switch

/-- What can be given before the command or behind it. -/
structure Grammar where
  valued : List Valued
  switches : List Switch
  positionals : Nat := 0

/-- What was given. -/
structure Given where
  values : List (Valued × String) := []
  switches : List Switch := []
  positionals : List String := []

namespace Given

def value? (given : Given) (option : Valued) : Option String :=
  (given.values.find? (·.1 = option)).map (·.2)

def addValue (given : Given) (option : Valued) (value : String) : Except Stop Given :=
  if (given.value? option).isSome || !option.accepts value then .error .usage
  else .ok { given with values := given.values ++ [(option, value)] }

def addSwitch (given : Given) (switch : Switch) : Except Stop Given :=
  match switch with
  | .version => .error .version
  | .help => .error .help
  | other =>
    if given.switches.contains other then .error .usage
    else .ok { given with switches := given.switches ++ [other] }

def addPositional (given : Given) (grammar : Grammar) (text : String) : Except Stop Given :=
  if given.positionals.length < grammar.positionals then
    .ok { given with positionals := given.positionals ++ [text] }
  else .error .usage

end Given

/-- The shape of an argument. -/
inductive Word where
  | ender
  | long (name : String) (value : Option String)
  | shorts (letters : List Char)
  | plain (text : String)

/-- A single hyphen is a plain argument. -/
def Word.of (text : String) : Word :=
  match text.toList with
  | ['-', '-'] => .ender
  | '-' :: '-' :: rest =>
    let name := rest.takeWhile (· != '=')
    let value := (rest.drop name.length).tail
    .long (String.ofList name)
      (if name.length < rest.length then some (String.ofList value) else none)
  | '-' :: first :: rest => .shorts (first :: rest)
  | _ => .plain text

/-- The text of an argument that can be a value of its own. -/
def Word.plain? : Word → Option String
  | .plain text => some text
  | _ => none

namespace Grammar

/-- A cluster of short options; the option that waits for the next argument, if the last one does. -/
def readShorts (grammar : Grammar) (given : Given) : List Char → Except Stop (Given × Option Valued)
  | [] => .ok (given, none)
  | letter :: rest =>
    match grammar.switches.find? (·.short? = some letter), grammar.valued.find? (·.short? = some letter) with
    | some switch, _ => do grammar.readShorts (← given.addSwitch switch) rest
    | none, some option =>
      match rest with
      | [] => .ok (given, some option)
      | '=' :: value => (given.addValue option (String.ofList value)).map (·, none)
      | value => (given.addValue option (String.ofList value)).map (·, none)
    | none, none => .error .usage

def readLong (grammar : Grammar) (given : Given) (name : String) (value : Option String) :
    Except Stop (Given × Option Valued) :=
  match grammar.switches.find? (·.long = name), grammar.valued.find? (·.long = name), value with
  | some switch, _, none => (given.addSwitch switch).map (·, none)
  | some _, _, some _ => .error .usage
  | none, some option, some value => (given.addValue option value).map (·, none)
  | none, some option, none => .ok (given, some option)
  | none, none, _ => .error .usage

/-- Reads the options at the front; `waiting` is the option whose value comes next. What is left starts
with the first plain argument, or with the mark behind which all arguments are plain. -/
def readOptions (grammar : Grammar) (given : Given) (waiting : Option Valued) :
    List String → Except Stop (Given × List String)
  | [] => if waiting.isSome then .error .usage else .ok (given, [])
  | text :: rest =>
    match waiting with
    | some option =>
      match (Word.of text).plain? with
      | none => .error .usage
      | some value => do grammar.readOptions (← given.addValue option value) none rest
    | none =>
      match Word.of text with
      | .ender => .ok (given, text :: rest)
      | .plain _ => .ok (given, text :: rest)
      | .long name value => do
        let (given, waiting) ← grammar.readLong given name value
        grammar.readOptions given waiting rest
      | .shorts letters => do
        let (given, waiting) ← grammar.readShorts given letters
        grammar.readOptions given waiting rest

/-- Everything behind a command. Every round takes an argument at least. -/
def readAll (grammar : Grammar) (given : Given) : Nat → List String → Except Stop Given
  | 0, _ => .error .usage
  | bound + 1, arguments => do
    let (given, rest) ← grammar.readOptions given none arguments
    match rest with
    | [] => .ok given
    | text :: rest =>
      match Word.of text with
      | .ender => rest.foldlM (fun given text => given.addPositional grammar text) given
      | _ => grammar.readAll (← given.addPositional grammar text) bound rest

end Grammar

/-- What can be given before the command. -/
def topGrammar : Grammar := { valued := [.format], switches := [.quiet, .version, .help] }

/-- What can be given behind a command of this name. -/
def grammarOf? (name : String) : Option Grammar :=
  if name == "scan" || name == "beans" || name == "watch" then
    some { valued := [.format, .root], switches := [.quiet, .help] }
  else if name == "injections" then
    some { valued := [.format, .root, .file], switches := [.quiet, .unresolved, .help] }
  else if name == "resolve" then
    some { valued := [.format, .root, .name], switches := [.quiet, .help], positionals := 1 }
  else if name == "analyze" || name == "lombok" then
    some { valued := [.format], switches := [.quiet, .help], positionals := 1 }
  else none

/-- The action of the command of this name, with what was given behind it. -/
def actionOf? (name : String) (given : Given) : Option Action :=
  let root : FilePath := ⟨(given.value? .root).getD "."⟩
  let file? : Option FilePath :=
    (given.positionals.head?.filter (!·.isEmpty)).map FilePath.mk
  match name with
  | "scan" => some (.scan root)
  | "beans" => some (.beans root)
  | "watch" => some (.watch root)
  | "injections" =>
    some (.injections root ((given.value? .file).map FilePath.mk) (given.switches.contains .unresolved))
  | "resolve" => given.positionals.head?.map fun type => .resolve root type (given.value? .name)
  | "analyze" => file?.map .analyze
  | "lombok" => file?.map .lombok
  | _ => none

/-- Reads the arguments of the program. What is given behind the command wins over what is given before
it. -/
def Invocation.read (arguments : List String) : Except Stop Invocation := do
  let (top, rest) ← topGrammar.readOptions {} none arguments
  match rest with
  | [] => .error .usage
  | name :: rest =>
    if name == "help" then .error .help
    else
      match grammarOf? name with
      | none => .error .usage
      | some grammar =>
        let given ← grammar.readAll {} (rest.length + 1) rest
        match actionOf? name given with
        | none => .error .usage
        | some action =>
          let format := (given.value? .format <|> top.value? .format).bind Format.ofText?
          .ok {
            action
            format := format.getD .json
            quiet := given.switches.contains .quiet || top.switches.contains .quiet }

end BeanAtlas.Command
