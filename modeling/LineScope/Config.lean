import LineScope.Path
import LineScope.Registry
import LineScope.Theme.Reader
import LineScope.Toml.Reader

set_option autoImplicit false

namespace LineScope

open Json (Value Items Members Refusal)

structure Config where
  grammars : List String := []
  options : RegistryOptions := {}
  injections : List (Scope × List Scope) := []
  theme : List ThemeRule := []
deriving DecidableEq, Repr, Inhabited

namespace Config

-- The first items of a list, where the others are not looked at.
def firstItems : Nat → Items → Items
  | count + 1, .cons head tail => .cons head (firstItems count tail)
  | _, .fault cause => .fault cause
  | _, _ => .nil

def readOptions : Value → Except Refusal RegistryOptions
  | .array items => RegistryOptions.readValue (.array (firstItems 1 items))
  | value => RegistryOptions.readValue value

def readInjections : Members → Except Refusal (List (Scope × List Scope))
  | .nil => .ok []
  | .cons key value tail => do
    let target ← Json.keyText key
    let injectors ← value.asTexts 0
    let others ← readInjections tail
    pure ((target, injectors) :: others)
  | .fault kept _ => .error kept.refusal

def readTheme : Items → Except Refusal (List ThemeRule)
  | .nil => .ok []
  | .cons value tail => do
    let rule ← ThemeRule.ofValue <|
      match value with
      | .array items => .array (firstItems ThemeKey.order.length items)
      | value => value
    let rules ← readTheme tail
    pure (rule :: rules)
  | .fault cause => .error cause.refusal

def readKey (config : Config) (key : String) (value : Value) : Except Refusal Config :=
  match key, value with
  | "grammars", value => do
    let grammars ← value.asTexts 0
    pure { config with grammars }
  | "registry", value => do
    let options ← readOptions value
    pure { config with options }
  | "injections", .object members => do
    let injections ← readInjections members
    pure { config with injections := injections.mergeSort fun a b => !decide (b.1 < a.1) }
  | "theme", .array items => do
    let theme ← readTheme items
    pure { config with theme }
  | _, _ => .error .mismatched

def readMembers (config : Config) : Members → Except Refusal Config
  | .nil => .ok config
  | .cons key value tail => do
    let key ← Json.keyText key
    let config ← config.readKey key value
    config.readMembers tail
  | .fault kept _ => .error kept.refusal

def parse? (text : String) : Option Config :=
  (Toml.read text.toList).bind fun members => (readMembers {} members).toOption

def resolvePaths (config : Config) (path : String) : Config :=
  { config with grammars := config.grammars.map (Path.resolve (Path.parent path)) }

def injectors (config : Config) : List (Scope × Scope) :=
  config.injections.flatMap fun (target, injectors) =>
    injectors.map fun injector => (target, injector)

end Config

end LineScope
