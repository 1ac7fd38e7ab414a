/-!
The arguments of a command: options, which may stand anywhere among the others, and operands. Some
options belong to one command, the others to all of them, where they may also stand before its
name.
-/

set_option autoImplicit false

namespace LineScope.Cli

inductive Format where
  | text
  | json
deriving DecidableEq, Repr, Inhabited

def Format.ofName? : String → Option Format
  | "text" => some .text
  | "json" => some .json
  | _ => none

inductive Switch where
  | grammar
  | config
  | verbose
  | help
  | version
  | scope
  | format
  | encoded
deriving DecidableEq, Repr, Inhabited

namespace Switch

def letter? : Switch → Option Char
  | .grammar => some 'g'
  | .config => some 'c'
  | .verbose => some 'v'
  | .help => some 'h'
  | .version => some 'V'
  | .scope => some 's'
  | .format => some 'f'
  | .encoded => none

def name : Switch → String
  | .grammar => "grammar"
  | .config => "config"
  | .verbose => "verbose"
  | .help => "help"
  | .version => "version"
  | .scope => "scope"
  | .format => "format"
  | .encoded => "encoded"

def takesValue : Switch → Bool
  | .grammar | .config | .scope | .format => true
  | .verbose | .help | .version | .encoded => false

end Switch

inductive Place where
  | top
  | tokenize
  | check
  | select
deriving DecidableEq, Repr, Inhabited

namespace Place

def switches : Place → List Switch
  | .top => [.grammar, .config, .verbose, .help, .version]
  | .tokenize => [.grammar, .config, .verbose, .help, .scope, .format, .encoded]
  | .check | .select => [.grammar, .config, .verbose, .help]

def ofName? : String → Option Place
  | "tokenize" => some .tokenize
  | "check" => some .check
  | "select" => some .select
  | _ => none

def operandLimit : Place → Option Nat
  | .top | .check => some 0
  | .tokenize => some 1
  | .select => none

end Place

inductive Setting where
  | given (switch : Switch) (value : Option String)
  | awaiting (switch : Switch)
  | unknown
deriving DecidableEq, Repr, Inhabited

def longSetting (place : Place) (text : List Char) : Setting :=
  let name := String.ofList (text.takeWhile (· ≠ '='))
  match place.switches.find? (·.name = name), text.dropWhile (· ≠ '=') with
  | none, _ => .unknown
  | some switch, [] => if switch.takesValue then .awaiting switch else .given switch none
  | some switch, _ :: value =>
    if switch.takesValue then .given switch (some (String.ofList value)) else .unknown

-- Switches written as letters. The value of the first one that takes a value is the rest, with or
-- without an equals sign before it.
def letterSettings (place : Place) : List Char → List Setting
  | [] => []
  | letter :: rest =>
    match place.switches.find? (·.letter? = some letter) with
    | none => [.unknown]
    | some switch =>
      if switch.takesValue then
        match rest with
        | [] => [.awaiting switch]
        | '=' :: value => [.given switch (some (String.ofList value))]
        | value => [.given switch (some (String.ofList value))]
      else .given switch none :: letterSettings place rest

def settings? (place : Place) (argument : String) : Option (List Setting) :=
  match argument.toList with
  | '-' :: '-' :: text => some [longSetting place text]
  | ['-'] => none
  | '-' :: letters => some (letterSettings place letters)
  | _ => none

inductive Stop where
  | misuse
  | help
  | version
deriving DecidableEq, Repr, Inhabited

structure Given where
  grammars : List String := []
  config : Option String := none
  verbose : Bool := false
  scope : Option String := none
  format : Option Format := none
  encoded : Bool := false
  operands : List String := []
deriving DecidableEq, Repr, Inhabited

namespace Given

-- Only grammars can be given more than once, and paths are not empty.
def set (given : Given) (switch : Switch) (value : String) : Except Stop Given :=
  match switch with
  | .grammar =>
    if value.isEmpty then .error .misuse
    else .ok { given with grammars := given.grammars ++ [value] }
  | .config =>
    if value.isEmpty || given.config.isSome then .error .misuse
    else .ok { given with config := some value }
  | .verbose => if given.verbose then .error .misuse else .ok { given with verbose := true }
  | .help => .error .help
  | .version => .error .version
  | .scope =>
    if given.scope.isSome then .error .misuse else .ok { given with scope := some value }
  | .format =>
    match Format.ofName? value with
    | none => .error .misuse
    | some format =>
      if given.format.isSome then .error .misuse else .ok { given with format := some format }
  | .encoded => if given.encoded then .error .misuse else .ok { given with encoded := true }

def apply (given : Given) : List Setting → Except Stop (Given × Option Switch)
  | [] => .ok (given, none)
  | .unknown :: _ => .error .misuse
  | .awaiting switch :: _ => .ok (given, some switch)
  | .given switch value :: rest => do
    let given ← given.set switch (value.getD "")
    given.apply rest

def addOperand (given : Given) (place : Place) (operand : String) : Except Stop Given :=
  if place.operandLimit.any (· ≤ given.operands.length) then .error .misuse
  else if place = .tokenize && operand.isEmpty then .error .misuse
  else .ok { given with operands := given.operands ++ [operand] }

def addOperands (given : Given) (place : Place) : List String → Except Stop Given
  | [] => .ok given
  | operand :: rest => do
    let given ← given.addOperand place operand
    given.addOperands place rest

-- Takes the next argument as a value. An argument that looks like a switch is none.
def setNext (given : Given) (switch : Switch) (value : String) : Except Stop Given :=
  if (settings? .top value).isSome then .error .misuse else given.set switch value

-- Reads the arguments after the name of a command. After two dashes only operands follow.
def readAll (place : Place) (given : Given) : List String → Except Stop Given
  | [] => .ok given
  | "--" :: rest => given.addOperands place rest
  | argument :: rest =>
    match settings? place argument with
    | none => do
      let given ← given.addOperand place argument
      readAll place given rest
    | some settings =>
      match given.apply settings with
      | .error stop => .error stop
      | .ok (given, none) => readAll place given rest
      | .ok (given, some switch) =>
        match rest with
        | [] => .error .misuse
        | value :: rest => do
          let given ← given.setNext switch value
          readAll place given rest

end Given

inductive Command where
  | tokenize (file scope : Option String) (format : Format) (encoded : Bool)
  | check
  | select (selector : String) (scopes : List String)
deriving DecidableEq, Repr, Inhabited

structure Invocation where
  grammars : List String
  config : Option String
  verbose : Bool
  command : Command
deriving DecidableEq, Repr, Inhabited

def Place.command (place : Place) (given : Given) : Except Stop Command :=
  match place, given.operands with
  | .top, _ => .error .misuse
  | .tokenize, operands =>
    .ok (.tokenize operands.head? given.scope (given.format.getD .text) given.encoded)
  | .check, _ => .ok .check
  | .select, [] => .error .misuse
  | .select, selector :: scopes => .ok (.select selector scopes)

-- What is said after the name of a command counts more than what is said before it.
def Given.invocation (before after : Given) (command : Command) : Invocation where
  grammars := if after.grammars.isEmpty then before.grammars else after.grammars
  config := after.config.or before.config
  verbose := before.verbose || after.verbose
  command := command

def askHelp : List String → Stop
  | [] => .help
  | [name] => if name = "help" || (Place.ofName? name).isSome then .help else .misuse
  | _ => .misuse

def readArguments (given : Given) : List String → Except Stop Invocation
  | [] => .error .misuse
  | argument :: rest =>
    match settings? .top argument with
    | none =>
      match Place.ofName? argument with
      | none => .error (if argument = "help" then askHelp rest else .misuse)
      | some place => do
        let after ← Given.readAll place {} rest
        let command ← place.command after
        pure (given.invocation after command)
    | some settings =>
      match given.apply settings with
      | .error stop => .error stop
      | .ok (given, none) => readArguments given rest
      | .ok (given, some switch) =>
        match rest with
        | [] => .error .misuse
        | value :: rest => do
          let given ← given.setNext switch value
          readArguments given rest

def Invocation.parse (arguments : List String) : Except Stop Invocation := readArguments {} arguments

end LineScope.Cli
