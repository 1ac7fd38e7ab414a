import LineScope.Json.Decode
import LineScope.Json.Reader
import LineScope.Json.Writer
import LineScope.Tokenizer

set_option autoImplicit false

namespace LineScope

structure RegistryOptions where
  maxLineLength : Option Nat := none
deriving DecidableEq, Repr, Inhabited

namespace RegistryOptions

open Json (Value Items Members Refusal)

-- Only the length of a line can be set, and only once.
def readMembers (options : RegistryOptions) (seen : Bool) :
    Members → Except Refusal RegistryOptions
  | .nil => .ok options
  | .cons key value tail => do
    let key ← Json.keyText key
    if key ≠ "max-line-length" then throw .mismatched
    if seen then throw .mismatched
    let length ← value.optional Value.asWord
    readMembers ⟨length⟩ true tail
  | .fault kept _ => .error kept.refusal

def readValue : Value → Except Refusal RegistryOptions
  | .object members => readMembers {} false members
  | .array .nil => .ok {}
  | .array (.cons value tail) => do
    let length ← value.optional Value.asWord
    tail.finish
    pure ⟨length⟩
  | .array (.fault cause) => .error cause.refusal
  | value => .error value.mismatch

def parse (text : String) : Except Refusal RegistryOptions :=
  (Json.read text.toList).decode readValue

def write (options : RegistryOptions) : String :=
  let length :=
    match options.maxLineLength with
    | none => Value.null
    | some length => .ofNat length
  String.ofList (Value.object (.ofList [("max-line-length", length)])).write

end RegistryOptions

structure Registry where
  engine : Pattern.Engine
  library : Library
  options : RegistryOptions
  memory : Memory := {}

namespace Registry

def grammar? (registry : Registry) (scope : Scope) : Option Grammar × Registry :=
  (registry.memory.grammar? registry.library scope,
    { registry with memory := registry.memory.rememberGrammar registry.library scope })

def tokenizer? (registry : Registry) (scope : Scope) : Option Tokenizer × Registry :=
  match registry.grammar? scope with
  | (none, registry) => (none, registry)
  | (some grammar, registry) =>
    (some (.make registry.engine registry.library registry.memory grammar
        registry.options.maxLineLength),
      { registry with memory := registry.memory.rememberInjections registry.library grammar })

def tokenizeLine (registry : Registry) (scope : Scope) (line : List Char)
    (previous : Option RuleStack) : Option LineResult × Registry :=
  match registry.tokenizer? scope with
  | (none, registry) => (none, registry)
  | (some tokenizer, registry) =>
    let result := tokenizer.tokenizeLine registry.memory line previous
    (some result, { registry with memory := result.memory })

def tokenizeDocument (registry : Registry) (scope : Scope) (text : List Char) :
    Option DocumentResult × Registry :=
  match registry.tokenizer? scope with
  | (none, registry) => (none, registry)
  | (some tokenizer, registry) =>
    let result := tokenizer.tokenizeDocument registry.memory text
    (some result, { registry with memory := result.memory })

def loaded (registry : Registry) : List Scope :=
  sortTexts <| registry.memory.grammars.filterMap fun (_, found) => found.map Grammar.scopeName

def notFound (scope : Scope) : String := "grammar not found: " ++ scope

end Registry

end LineScope
