import LineScope.Grammar.Compile
import LineScope.Injection
import LineScope.Scope

set_option autoImplicit false

namespace LineScope

-- Grammars by the scope they are asked for, and pairs of a scope and a grammar injected into it.
structure Library where
  grammars : List (Scope × Grammar)
  injectors : List (Scope × Scope)
deriving Repr, Inhabited

namespace Library

def empty : Library := ⟨[], []⟩

def find? (library : Library) (scope : Scope) : Option Grammar := library.grammars.lookup scope

def injectorsOf (library : Library) (scope : Scope) : List Scope :=
  (library.injectors.filter (·.1 = scope)).map Prod.snd

def ruleCount (library : Library) : Nat := Grammar.totalRules (library.grammars.map Prod.snd)

def resolve (library : Library) (scope : Scope) (rule : Option String) : Option RuleRef :=
  (library.find? scope).bind fun grammar => grammar.included? rule

def injections (library : Library) (grammar : Grammar) : List Injection :=
  Injection.into grammar ((library.injectorsOf grammar.scopeName).filterMap library.find?)

end Library

-- Documents by scope name; a later one takes the place of an earlier one.
def addDocument (documents : List (Scope × Grammar.Document)) (document : Grammar.Document) :
    List (Scope × Grammar.Document) :=
  documents.filter (·.1 ≠ document.scopeName) ++ [(document.scopeName, document)]

def Library.ofDocuments (engine : Pattern.Engine) (documents : List (Scope × Grammar.Document))
    (injectors : List (Scope × Scope)) : Library :=
  ⟨documents.map fun (scope, document) => (scope, Grammar.compile engine scope document), injectors⟩

def sortTexts (texts : List String) : List String := texts.mergeSort fun a b => !decide (b < a)

end LineScope
