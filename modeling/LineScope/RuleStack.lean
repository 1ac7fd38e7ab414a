import LineScope.Grammar.Rule
import LineScope.Scope
import LineScope.Text.Quoted

set_option autoImplicit false

namespace LineScope

-- A rule that becomes active. Positions are offsets in the current line.
structure Activation where
  rule : RuleRef
  enterPos : Option Nat := none
  -- Where `\G` holds again after the frame is popped.
  anchorPos : Option Nat := none
  -- The begin match went to the end of its line.
  beginCapturedEol : Bool := false
  endPattern : Option String := none
  nameScopes : ScopeList
  contentScopes : ScopeList
deriving DecidableEq, Repr, Inhabited

-- An active rule. The depth counts the frames from the root to this one; it is set when the frame
-- is pushed and copied from then on.
structure Frame extends Activation where
  depth : Nat
deriving DecidableEq, Repr, Inhabited

structure RuleStack where
  top : Frame
  below : List Frame
deriving DecidableEq, Repr, Inhabited

namespace RuleStack

def root (grammar : Grammar) : RuleStack :=
  ⟨{ rule := ⟨grammar, grammar.root⟩
     nameScopes := [grammar.scopeName]
     contentScopes := [grammar.scopeName]
     depth := 1 }, []⟩

def frames (stack : RuleStack) : List Frame := stack.top :: stack.below

def depth (stack : RuleStack) : Nat := stack.top.depth

def push (stack : RuleStack) (activation : Activation) : RuleStack :=
  ⟨{ toActivation := activation, depth := stack.depth + 1 }, stack.frames⟩

def pop? (stack : RuleStack) : Option RuleStack :=
  match stack.below with
  | [] => none
  | top :: below => some ⟨top, below⟩

def safePop (stack : RuleStack) : RuleStack := stack.pop?.getD stack

def withContentScopes (stack : RuleStack) (scopes : ScopeList) : RuleStack :=
  { stack with top := { stack.top with contentScopes := scopes } }

def ancestorsFrom (top : Frame) : List Frame → List RuleStack
  | [] => [⟨top, []⟩]
  | next :: below => ⟨top, next :: below⟩ :: ancestorsFrom next below

def ancestors (stack : RuleStack) : List RuleStack := ancestorsFrom stack.top stack.below

-- Among the frames pushed where `frame` is, innermost first, one has its rule.
def entersAgain (frame : Activation) : List Frame → Bool
  | [] => false
  | other :: below =>
    other.enterPos == frame.enterPos && (other.rule.same frame.rule || entersAgain frame below)

-- Forgets the positions of the innermost frames that have one.
def resetFrames : List Frame → List Frame
  | [] => []
  | frame :: below =>
    if frame.enterPos.isSome || frame.anchorPos.isSome then
      { frame with enterPos := none, anchorPos := none } :: resetFrames below
    else frame :: below

def resetLinePositions (stack : RuleStack) : RuleStack :=
  match resetFrames stack.frames with
  | [] => stack
  | top :: below => ⟨top, below⟩

end RuleStack

-- Frames are the same when they have the same depth, rule, end pattern and content scopes.
def Frame.same (a b : Frame) : Bool :=
  a.depth == b.depth && a.rule.same b.rule && a.endPattern == b.endPattern &&
    a.contentScopes == b.contentScopes

namespace RuleStack

def sameFrames : List Frame → List Frame → Bool
  | [], [] => true
  | a :: as, b :: bs => a.same b && sameFrames as bs
  | _, _ => false

def same (a b : RuleStack) : Bool := sameFrames a.frames b.frames

def describe (stack : RuleStack) : String :=
  "RuleStack \x7b rules: [" ++ ", ".intercalate (stack.frames.reverse.map fun f => f.rule.label) ++
    "], scopes: " ++ Text.quoteList stack.top.contentScopes ++ " \x7d"

end RuleStack

end LineScope
