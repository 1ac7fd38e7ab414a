import LineScope.Grammar.Rule
import LineScope.Selector.Match

set_option autoImplicit false

namespace LineScope

structure Injection where
  expr : Selector.Expr
  priority : Selector.Priority
  rule : RuleRef
deriving Repr, Inhabited

namespace Injection

def ofSelector (selector : Selector) (rule : RuleRef) : List Injection :=
  selector.alternatives.map fun alternative => ⟨alternative.expr, alternative.priority, rule⟩

-- Left, normal, then right injections, each in the order in which they are declared.
def sortByPriority (injections : List Injection) : List Injection :=
  injections.filter (·.priority = .left) ++ injections.filter (·.priority = .normal) ++
    injections.filter (·.priority = .right)

def own (grammar : Grammar) : List Injection :=
  grammar.ownInjections.flatMap fun (selector, id) => ofSelector selector ⟨grammar, id⟩

def ofGrammar (injector : Grammar) : List Injection :=
  match injector.injectionSelector with
  | none => []
  | some selector => ofSelector selector ⟨injector, injector.root⟩

-- The injections into a grammar: its own, then those of others.
def into (grammar : Grammar) (injectors : List Grammar) : List Injection :=
  sortByPriority (own grammar ++ injectors.flatMap ofGrammar)

end Injection

end LineScope
