import LineScope.Selector.Basic

set_option autoImplicit false

namespace LineScope.Selector

def extendsBySegments : List Char → List Char → Bool
  | [], [] => true
  | c :: _, [] => c == '.'
  | [], _ :: _ => false
  | c :: text, d :: stem => c == d && extendsBySegments text stem

-- `scope` is `stem` or extends it by whole segments.
def hasStem (scope stem : String) : Bool := extendsBySegments scope.toList stem.toList

def segmentCount (stem : String) : Nat := stem.toList.count '.' + 1

namespace ScopePath

-- The steps before a placed one can be placed in `outer`, the scopes around it, innermost first.
-- `earlier` holds these steps, last first, and `combinator` is that of the placed step.
def canPlace : Combinator → List PathStep → List String → Bool
  | _, [], _ => true
  | _, _ :: _, [] => false
  | .child, step :: earlier, scope :: outer =>
    hasStem scope step.stem && canPlace step.combinator earlier outer
  | .descendant, step :: earlier, scope :: outer =>
    (hasStem scope step.stem && canPlace step.combinator earlier outer) ||
      canPlace .descendant (step :: earlier) outer

def deepest (last : PathStep) (earlier : List PathStep) : List String → Option Nat
  | [] => none
  | scope :: outer =>
    if hasStem scope last.stem && canPlace last.combinator earlier outer then some outer.length
    else deepest last earlier outer

-- The index in `stack`, outermost first, that the last step takes in the deepest placement.
def find (path : ScopePath) (stack : List String) : Option Nat :=
  match path.steps.reverse with
  | [] => none
  | last :: earlier => deepest last earlier stack.reverse

def segments (path : ScopePath) : Nat :=
  path.steps.foldr (fun step count => segmentCount step.stem + count) 0

end ScopePath

mutual
def Expr.accepts (stack : List String) : Expr → Bool
  | .path path => (path.find stack).isSome
  | .not inner => !inner.accepts stack
  | .all operands => operands.allAccept stack
  | .any operands => operands.anyAccept stack

def Operands.allAccept (stack : List String) : Operands → Bool
  | .nil => true
  | .cons head tail => head.accepts stack && tail.allAccept stack

def Operands.anyAccept (stack : List String) : Operands → Bool
  | .nil => false
  | .cons head tail => head.accepts stack || tail.anyAccept stack
end

-- How strongly a selector matches: by the depth of the innermost matched scope, then by the
-- segments matched, then by the steps. The three are counted without a bound.
structure Specificity where
  depth : Nat
  segments : Nat
  steps : Nat
deriving DecidableEq, Repr, Inhabited

namespace Specificity

def zero : Specificity := ⟨0, 0, 0⟩

def combine (a b : Specificity) : Specificity :=
  ⟨max a.depth b.depth, a.segments + b.segments, a.steps + b.steps⟩

def atMost (a b : Specificity) : Bool :=
  a.depth < b.depth ||
    (a.depth == b.depth &&
      (a.segments < b.segments || (a.segments == b.segments && a.steps ≤ b.steps)))

def stronger : Option Specificity → Option Specificity → Option Specificity
  | none, b => b
  | a, none => a
  | some a, some b => if a.atMost b then some b else some a

end Specificity

mutual
def Expr.specificity (stack : List String) : Expr → Option Specificity
  | .path path => (path.find stack).map fun index => ⟨index + 1, path.segments, path.steps.length⟩
  | .not inner => if inner.accepts stack then none else some .zero
  | .all operands => operands.conjoined stack .zero
  | .any operands => operands.strongest stack

def Operands.conjoined (stack : List String) : Operands → Specificity → Option Specificity
  | .nil, total => some total
  | .cons head tail, total =>
    match head.specificity stack with
    | none => none
    | some strength => tail.conjoined stack (total.combine strength)

def Operands.strongest (stack : List String) : Operands → Option Specificity
  | .nil => none
  | .cons head tail => Specificity.stronger (head.specificity stack) (tail.strongest stack)
end

end LineScope.Selector

namespace LineScope

namespace Selector

def accepts (selector : Selector) (stack : List String) : Bool :=
  selector.alternatives.any fun alternative => alternative.expr.accepts stack

def specificity (selector : Selector) (stack : List String) : Option Specificity :=
  selector.alternatives.foldl
    (fun best alternative => Specificity.stronger best (alternative.expr.specificity stack)) none

-- Keeps the stronger of the best selector so far and the one at `index`; the later one wins a
-- tie.
def rankFrom (stack : List String) : Nat → Option (Nat × Specificity) → List Selector → Option Nat
  | _, best, [] => best.map Prod.fst
  | index, best, selector :: rest =>
    match selector.specificity stack, best with
    | none, _ => rankFrom stack (index + 1) best rest
    | some strength, none => rankFrom stack (index + 1) (some (index, strength)) rest
    | some strength, some (previous, current) =>
      if current.atMost strength then rankFrom stack (index + 1) (some (index, strength)) rest
      else rankFrom stack (index + 1) (some (previous, current)) rest

def bestMatch (selectors : List Selector) (stack : List String) : Option Nat :=
  rankFrom stack 0 none selectors

end Selector

end LineScope
