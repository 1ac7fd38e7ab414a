import LineScope.Pattern.CharSet

set_option autoImplicit false

namespace LineScope.Pattern

inductive Assertion where
  | lineStart
  | lineEnd
  | textStart
  | textEnd
  | lastLineEnd
  | searchStart
  | wordBoundary
  | insideWord
deriving DecidableEq, Repr, Inhabited

-- Which number of repetitions is tried first, and whether others are tried after it.
inductive Greed where
  | greedy
  | lazy
  | possessive
deriving DecidableEq, Repr, Inhabited

inductive Node where
  | empty
  | char (char : Char)
  -- A character up to case, given by what it folds to.
  | folded (char : Char)
  | set (set : CharSet) (ignoreCase : Bool)
  | assertion (assertion : Assertion)
  | cat (first second : Node)
  | alt (first second : Node)
  | group (index : Nat) (named : Bool) (inner : Node)
  | loop (least : Nat) (most : Option Nat) (greed : Greed) (inner : Node)
  | atomic (inner : Node)
  | ahead (negative : Bool) (inner : Node)
  -- The text before the position, `width` characters of it, matches `inner`.
  | behind (negative : Bool) (width : Nat) (inner : Node)
  -- The text of the first of these groups that has one.
  | reference (indices : List Nat) (named : Bool) (ignoreCase : Bool)
deriving DecidableEq, Repr, Inhabited

namespace Node

def catAll : List Node → Node
  | [] => .empty
  | [node] => node
  | node :: rest => .cat node (catAll rest)

def isAnchor : Node → Bool
  | .assertion _ | .ahead .. | .behind .. => true
  | .alt first second => first.isAnchor || second.isAnchor
  | _ => false

def width? : Node → Option Nat
  | .empty | .assertion _ | .ahead .. | .behind .. => some 0
  | .char _ | .folded _ | .set .. => some 1
  | .cat first second =>
    match first.width?, second.width? with
    | some a, some b => some (a + b)
    | _, _ => none
  | .alt first second =>
    match first.width?, second.width? with
    | some a, some b => if a = b then some a else none
    | _, _ => none
  | .group _ _ inner | .atomic inner => inner.width?
  | .loop least most _ inner =>
    match inner.width? with
    | some a => if most = some least then some (least * a) else if a = 0 then some 0 else none
    | none => none
  | .reference .. => none

def hasGroup : Node → Bool
  | .group .. => true
  | .cat first second | .alt first second => first.hasGroup || second.hasGroup
  | .loop _ _ _ inner | .atomic inner | .ahead _ inner | .behind _ _ inner => inner.hasGroup
  | _ => false

end Node

structure Program where
  node : Node
  groups : Nat
deriving DecidableEq, Repr, Inhabited

end LineScope.Pattern
