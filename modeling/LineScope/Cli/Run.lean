import LineScope.Cli.Report
import LineScope.Config
import LineScope.Grammar.Document.Reader
import LineScope.Selector.Parser
import LineScope.Text.Lines

set_option autoImplicit false

namespace LineScope.Cli

-- The texts of files by their paths, as far as they can be read, the standard input, and how many
-- bytes a slot for a group takes.
structure Surroundings where
  files : String → Option String
  input : String
  slotBytes : Nat

inductive Failure where
  | reading (path : String)
  | parsing (path : String)
  | loadingGrammar (path : String)
  | noGrammars
  | undetected
  | notFound (scope : Scope)
  | theme (invalid : Theme.InvalidSelector)
  | selector (source : String)
  | diagnostics (count : Nat)
  | compiling (fault : Grammar.Fault)
deriving DecidableEq, Repr, Inhabited

def Failure.message : Failure → String
  | .reading path => "reading " ++ path
  | .parsing path => "parsing " ++ path
  | .loadingGrammar path => "loading grammar " ++ path
  | .noGrammars => "no grammars loaded; pass --grammar or list them in the config file"
  | .undetected => "could not detect a grammar for the input; pass --scope"
  | .notFound scope => Registry.notFound scope
  | .theme invalid => invalid.message
  | .selector source => "parsing selector `" ++ source ++ "`"
  | .diagnostics count => toString count ++ " grammar diagnostics"
  | .compiling fault => fault.message

structure Result where
  output : String := ""
  failure : Option Failure := none
deriving DecidableEq, Repr, Inhabited

def Result.ofExcept : Except Failure String → Result
  | .ok output => { output }
  | .error failure => { failure := some failure }

-- The grammars of a command: a registry, their scopes without repetition, ascending, and the
-- faults of those that cannot be compiled.
structure Grammars where
  registry : Registry
  scopes : List Scope
  faults : List (Scope × Grammar.Fault)

namespace Surroundings

def config (surroundings : Surroundings) : Option String → Except Failure Config
  | none => .ok {}
  | some path =>
    match surroundings.files path with
    | none => .error (.reading path)
    | some text =>
      match Config.parse? text with
      | none => .error (.parsing path)
      | some config => .ok (config.resolvePaths path)

def document (surroundings : Surroundings) (path : String) : Except Failure Grammar.Document :=
  match (surroundings.files path).map Grammar.Document.parse with
  | some (.ok document) => .ok document
  | _ => .error (.loadingGrammar path)

def documents (surroundings : Surroundings) : List String → Except Failure (List Grammar.Document)
  | [] => .ok []
  | path :: rest => do
    let document ← surroundings.document path
    let others ← surroundings.documents rest
    pure (document :: others)

def text (surroundings : Surroundings) : Option String → Except Failure String
  | none => .ok surroundings.input
  | some path =>
    match surroundings.files path with
    | none => .error (.reading path)
    | some text => .ok text

end Surroundings

def faultOf? (slotBytes : Nat) (engine : Pattern.Engine) (filed : Scope × Grammar.Document) :
    Option (Scope × Grammar.Fault) :=
  match Grammar.compile? slotBytes engine filed.1 filed.2 with
  | .ok _ => none
  | .error fault => some (filed.1, fault)

-- Makes the grammars of documents available. A document takes the place of an earlier one with
-- the same scope.
def Grammars.ofDocuments (slotBytes : Nat) (engine : Pattern.Engine) (config : Config)
    (documents : List Grammar.Document) : Grammars where
  registry := {
    engine
    library := .ofDocuments engine (documents.foldl addDocument []) config.injectors
    options := config.options }
  scopes := sortTexts (documents.map fun document => document.scopeName).eraseDups
  faults := (documents.foldl addDocument []).filterMap (faultOf? slotBytes engine)

def Surroundings.grammars (surroundings : Surroundings) (engine : Pattern.Engine)
    (config : Config) (paths : List String) : Except Failure Grammars := do
  let documents ← surroundings.documents (config.grammars ++ paths)
  if documents.isEmpty then throw .noGrammars
  pure (.ofDocuments surroundings.slotBytes engine config documents)

namespace Grammars

def list (grammars : Grammars) : List Grammar :=
  grammars.scopes.filterMap grammars.registry.library.find?

def compileAll (grammars : Grammars) (scopes : List Scope) : Except Failure Unit :=
  match scopes.findSome? fun scope => grammars.faults.lookup scope with
  | none => .ok ()
  | some fault => .error (.compiling fault)

def compileAsked (grammars : Grammars) (memory : Memory) : Except Failure Unit :=
  grammars.compileAll (memory.grammars.reverse.map Prod.fst)

-- The first grammar that claims the extension of the file, or else the first line of the text.
def detect? (grammars : Grammars) (file : Option String) (text : String) : Option Scope :=
  let byExtension :=
    (file.bind Path.extension?).bind fun extension =>
      grammars.list.find? fun grammar => grammar.fileTypes.contains extension
  let firstLine := String.ofList ((Text.lines text.toList).head?.getD [])
  let byFirstLine :=
    grammars.list.find? fun grammar => grammar.matchesFirstLine grammars.registry.engine firstLine
  (byExtension.or byFirstLine).map fun grammar => grammar.scopeName

-- All grammars are compiled before one of them is chosen.
def detect (grammars : Grammars) (file : Option String) (text : String) : Except Failure Scope := do
  grammars.compileAll grammars.scopes
  match grammars.detect? file text with
  | none => throw .undetected
  | some scope => pure scope

def encodeLines (tokenizer : Tokenizer) (styling : Styling) :
    Memory → List (List Char) → Option RuleStack → List (List (Nat × Metadata)) × Memory
  | memory, [], _ => ([], memory)
  | memory, line :: rest, previous =>
    let result := tokenizer.tokenizeEncoded memory line previous styling
    let others := encodeLines tokenizer styling result.line.memory rest (some result.line.stack)
    (result.pairs :: others.1, others.2)

-- The theme is only read where styles are wanted. Grammars are compiled when they are asked for:
-- that of the scope and those injected into it at first, the others while lines are tokenized.
def tokenize (grammars : Grammars) (theme : List ThemeRule) (scope : Scope) (text : String)
    (format : Format) (encoded : Bool) : Except Failure String :=
  match grammars.registry.tokenizer? scope with
  | (none, _) => .error (.notFound scope)
  | (some tokenizer, registry) => do
    grammars.compileAsked registry.memory
    let lines := Text.lines text.toList
    if encoded then
      match Theme.ofRules theme with
      | .error invalid => .error (.theme invalid)
      | .ok theme => do
        let (pairs, memory) := encodeLines tokenizer theme.styling registry.memory lines none
        grammars.compileAsked memory
        pure (metadataReport format pairs)
    else
      let result := tokenizer.tokenizeDocument registry.memory text.toList
      grammars.compileAsked result.memory
      pure (tokenReport format (lines.zip result.lines))

-- Reports on all grammars, and fails if there is a diagnostic in any of them. A grammar is
-- compiled right before its report.
def check (grammars : Grammars) : Result :=
  let reported := grammars.scopes.takeWhile fun scope => (grammars.faults.lookup scope).isNone
  let compiled := reported.filterMap grammars.registry.library.find?
  let count := (compiled.flatMap Grammar.diagnostics).length
  { output := "".intercalate <| compiled.map fun grammar =>
      grammarReport grammar.scopeName grammar
    failure :=
      match grammars.compileAll grammars.scopes with
      | .error failure => some failure
      | .ok () => if count = 0 then none else some (.diagnostics count) }

end Grammars

def select (source : String) (scopes : List Scope) : Except Failure String :=
  match Selector.parse source with
  | .error _ => .error (.selector source)
  | .ok selector => .ok (specificityReport (selector.specificity scopes))

-- Runs a command. The configuration is read first, whether the command needs it or not.
def Invocation.run (engine : Pattern.Engine) (surroundings : Surroundings)
    (invocation : Invocation) : Result :=
  match surroundings.config invocation.config with
  | .error failure => { failure := some failure }
  | .ok config =>
    match invocation.command with
    | .tokenize file scope format encoded => .ofExcept do
      let grammars ← surroundings.grammars engine config invocation.grammars
      let text ← surroundings.text file
      let scope ←
        match scope with
        | some scope => pure scope
        | none => grammars.detect file text
      grammars.tokenize config.theme scope text format encoded
    | .check =>
      match surroundings.grammars engine config invocation.grammars with
      | .error failure => { failure := some failure }
      | .ok grammars => grammars.check
    | .select selector scopes => .ofExcept (select selector scopes)

structure Outcome where
  status : UInt8
  output : String
  complaint : String
deriving DecidableEq, Repr, Inhabited

def versionText : String := "loom 0.10.0\n"

def usageText : String :=
  "Usage: loom [OPTIONS] <COMMAND>\n\n" ++
  "Commands:\n" ++
  "  tokenize [FILE]             print the tokens of a file, or of the standard input\n" ++
  "  check                       report the diagnostics of all grammars\n" ++
  "  select <SELECTOR> [SCOPE]   test a selector against scopes, outermost first\n\n" ++
  "Options:\n" ++
  "  -g, --grammar <PATH>        load a grammar (may be repeated)\n" ++
  "  -c, --config <PATH>         read a configuration file\n" ++
  "  -v, --verbose               say more\n" ++
  "  -h, --help                  print this text\n" ++
  "  -V, --version               print the version\n\n" ++
  "Options of tokenize:\n" ++
  "  -s, --scope <SCOPE>         use the grammar with this scope\n" ++
  "  -f, --format <FORMAT>       print text or json\n" ++
  "      --encoded               print metadata instead of scopes\n"

def Result.outcome (result : Result) : Outcome :=
  match result.failure with
  | none => ⟨0, result.output, ""⟩
  | some (.compiling fault) => ⟨101, result.output, fault.message ++ "\n"⟩
  | some failure => ⟨1, result.output, "Error: " ++ failure.message ++ "\n"⟩

def Stop.outcome : Stop → Outcome
  | .misuse => ⟨2, "", usageText⟩
  | .help => ⟨0, usageText, ""⟩
  | .version => ⟨0, versionText, ""⟩

def run (engine : Pattern.Engine) (surroundings : Surroundings) (arguments : List String) :
    Outcome :=
  match Invocation.parse arguments with
  | .error stop => stop.outcome
  | .ok invocation => (invocation.run engine surroundings).outcome

def Invocation.paths (surroundings : Surroundings) (invocation : Invocation) : List String :=
  let config := (surroundings.config invocation.config).toOption.getD {}
  let file :=
    match invocation.command with
    | .tokenize file .. => file
    | _ => none
  invocation.config.toList ++ config.grammars ++ invocation.grammars ++ file.toList

def Invocation.readsInput (invocation : Invocation) : Bool :=
  match invocation.command with
  | .tokenize none .. => true
  | _ => false

end LineScope.Cli
