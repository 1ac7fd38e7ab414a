import LineScope.Grammar.Rule

set_option autoImplicit false

namespace LineScope.Grammar

def Rule.successors (rule : Rule) : List Nat :=
  rule.patterns.filterMap (fun
    | .rule id => some id
    | _ => none) ++ rule.captureRules.filterMap CaptureRule.retokenize

def reachFrom (grammar : Grammar) : Nat → List Nat → List Nat → List Nat
  | 0, seen, _ => seen
  | _ + 1, seen, [] => seen
  | rounds + 1, seen, id :: pending =>
    if seen.contains id then reachFrom grammar rounds seen pending
    else reachFrom grammar rounds (id :: seen) ((grammar.rule id).successors ++ pending)

-- The indices of the rules reached from the root, the repository and the injections, ascending.
-- Every rule is expanded once, so every reference costs one round.
def reachable (grammar : Grammar) : List Nat :=
  let starts := grammar.root :: grammar.repository.map Prod.snd ++
    grammar.ownInjections.map Prod.snd
  let rounds := starts.length + (grammar.rules.toList.flatMap Rule.successors).length
  let seen := reachFrom grammar rounds [] starts
  (List.range grammar.ruleCount).filter seen.contains

end LineScope.Grammar
