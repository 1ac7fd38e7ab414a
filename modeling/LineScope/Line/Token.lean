import LineScope.Line.Memory

set_option autoImplicit false

namespace LineScope

structure Token where
  start : Nat
  stop : Nat
  scopes : ScopeList
deriving DecidableEq, Repr, Inhabited

namespace Line

-- The tokens produced so far, last one first, where they end, and what has been looked up on the
-- way.
structure Output where
  tokens : List Token := []
  lastEnd : Nat := 0
  memory : Memory
deriving Repr, Inhabited

namespace Output

def produce (output : Output) (scopes : ScopeList) (stop : Nat) : Output :=
  if stop ≤ output.lastEnd then output
  else { output with tokens := ⟨output.lastEnd, stop, scopes⟩ :: output.tokens, lastEnd := stop }

def endWith (length : Nat) : List Token → List Token
  | [] => []
  | last :: earlier => { last with stop := length } :: earlier

-- The tokens of a line of `length` bytes, without what was produced for its line feed.
def finish (output : Output) (length : Nat) : List Token :=
  (endWith length (output.tokens.filter fun token => token.start < length)).reverse

end Output

end Line

end LineScope
