import LineScope.Pattern.Anchor
import LineScope.Pattern.Matcher
import LineScope.Pattern.Parser

set_option autoImplicit false

namespace LineScope.Pattern

structure Engine where
  check : List Char → Option String
  search : List Char → List Char → Nat → Option Captures

-- Reads a pattern each time it is searched; one that cannot be read never matches.
def Engine.backtracking : Engine where
  check source :=
    match parse source with
    | .ok _ => none
    | .error error => some error.message
  search source text start :=
    match parse source with
    | .ok program => program.search text start
    | .error _ => none

def Engine.find (engine : Engine) (source : String) (anchors : Anchors) (text : List Char)
    (start : Nat) : Option Captures :=
  engine.search (variant source.toList anchors) text start

def wholeSpan (captures : Captures) : Span :=
  match captures with
  | some span :: _ => span
  | _ => (0, 0)

end LineScope.Pattern
