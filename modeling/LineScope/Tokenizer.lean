import LineScope.Line.While
import LineScope.Metadata
import LineScope.Text.Lines

set_option autoImplicit false

namespace LineScope

structure LineResult where
  tokens : List Token
  stack : RuleStack
  memory : Memory
deriving Repr, Inhabited

structure DocumentResult where
  lines : List (List Token)
  stack : RuleStack
  memory : Memory
deriving Repr, Inhabited

structure EncodedResult where
  pairs : List (Nat × Metadata)
  line : LineResult
deriving Repr, Inhabited

namespace Tokenizer

-- More levels than a call stack has room for.
def deepNesting : Nat := 1000000

def make (engine : Pattern.Engine) (library : Library) (memory : Memory) (grammar : Grammar)
    (maxLineLength : Option Nat) : Tokenizer :=
  ⟨engine, library, grammar, memory.injectionsInto library grammar, maxLineLength, deepNesting⟩

def initialStack (tokenizer : Tokenizer) : RuleStack := .root tokenizer.grammar

def tokenizeText (tokenizer : Tokenizer) (memory : Memory) (text : List Char) (firstLine : Bool)
    (stack : RuleStack) : Line.Progress :=
  let retokenize := Line.retokenizer tokenizer tokenizer.nesting
  Line.scan tokenizer (tokenizer.nesting + 1) text
    (Line.checkWhile tokenizer retokenize text firstLine stack memory)

-- Tokenizes a line, written without its line feed. Without a previous stack it is the first line
-- of a document.
def tokenizeLine (tokenizer : Tokenizer) (memory : Memory) (line : List Char)
    (previous : Option RuleStack) : LineResult :=
  let stack := previous.getD tokenizer.initialStack
  let length := Text.byteLength line
  if tokenizer.maxLineLength.any fun limit => limit < length then
    ⟨[⟨0, length, stack.top.contentScopes⟩], stack, memory⟩
  else
    let final := tokenizer.tokenizeText memory (line ++ ['\n']) previous.isNone stack
    ⟨final.output.finish length, final.stack.resetLinePositions, final.output.memory⟩

def tokenizeLines (tokenizer : Tokenizer) :
    Memory → List (List Char) → Option RuleStack → DocumentResult
  | memory, [], previous => ⟨[], previous.getD tokenizer.initialStack, memory⟩
  | memory, line :: rest, previous =>
    let result := tokenizer.tokenizeLine memory line previous
    let others := tokenizer.tokenizeLines result.memory rest (some result.stack)
    ⟨result.tokens :: others.lines, others.stack, others.memory⟩

def tokenizeDocument (tokenizer : Tokenizer) (memory : Memory) (text : List Char) :
    DocumentResult :=
  tokenizer.tokenizeLines memory (Text.lines text) none

-- One pair for every run of tokens with the same metadata. A start is kept in 32 bits.
def runsFrom (metadata : ScopeList → Metadata) (last : Option Metadata) :
    List Token → List (Nat × Metadata)
  | [] => []
  | token :: rest =>
    let current := metadata token.scopes
    if last = some current then runsFrom metadata last rest
    else (token.start % UInt32.size, current) :: runsFrom metadata (some current) rest

-- Tokenizes a line into metadata. A line without tokens has one pair, for the scopes it starts
-- in.
def tokenizeEncoded (tokenizer : Tokenizer) (memory : Memory) (line : List Char)
    (previous : Option RuleStack) (styling : Styling) : EncodedResult :=
  let result := tokenizer.tokenizeLine memory line previous
  let pairs := runsFrom styling.metadata none result.tokens
  let stack := previous.getD tokenizer.initialStack
  ⟨if pairs.isEmpty then [(0, styling.metadata stack.top.contentScopes)] else pairs, result⟩

end Tokenizer

end LineScope
