import LineScope.Line.Memory
import LineScope.RuleStack

set_option autoImplicit false

namespace LineScope

structure Tokenizer where
  engine : Pattern.Engine
  library : Library
  grammar : Grammar
  injections : List Injection
  -- Longer lines, in bytes, become one token.
  maxLineLength : Option Nat
  -- How many levels deep groups of a match are tokenized again.
  nesting : Nat

namespace Line

inductive Winner where
  | ending
  | rule (rule : RuleRef)
deriving DecidableEq, Repr, Inhabited

structure Candidate where
  winner : Winner
  captures : Pattern.Captures
deriving DecidableEq, Repr, Inhabited

def Candidate.start (candidate : Candidate) : Nat := (Pattern.wholeSpan candidate.captures).1

def Candidate.stop (candidate : Candidate) : Nat := (Pattern.wholeSpan candidate.captures).2

def Candidate.ofFound (found : Found) : Candidate := ⟨.rule found.rule, found.captures⟩

structure Search where
  text : List Char
  pos : Nat
  anchors : Pattern.Anchors
deriving Repr, Inhabited

-- The match of the end pattern, and whether children win a tie against it.
def findEnd (tokenizer : Tokenizer) (search : Search) (stack : RuleStack) :
    Option (Candidate × Bool) :=
  match stack.top.rule.rule with
  | .beginEnd rule =>
    let pattern := stack.top.endPattern.getD rule.endPattern
    (tokenizer.engine.find pattern search.anchors search.text search.pos).map fun captures =>
      (⟨.ending, captures⟩, rule.endPatternLast)
  | _ => none

-- An end pattern that matches right here and is not applied last settles the step.
def endSettles (search : Search) (found : Option (Candidate × Bool)) : Bool :=
  found.any fun (candidate, last) => !last && candidate.start = search.pos

abbrev PatternSets := Mode → RuleRef → List Entry

def findChild (tokenizer : Tokenizer) (sets : PatternSets) (search : Search) (stack : RuleStack) :
    Option Candidate :=
  (findFirst tokenizer.engine (sets .children stack.top.rule) search.text search.pos
    search.anchors).map .ofFound

def preferEnd (found : Option (Candidate × Bool)) (child : Option Candidate) : Option Candidate :=
  match found, child with
  | none, child => child
  | some (ending, _), none => some ending
  | some (ending, last), some child =>
    if child.start < ending.start || (last && child.start = ending.start) then some child
    else some ending

def findOwn (tokenizer : Tokenizer) (sets : PatternSets) (search : Search) (stack : RuleStack) :
    Option Candidate :=
  let found := findEnd tokenizer search stack
  if endSettles search found then found.map Prod.fst
  else preferEnd found (findChild tokenizer sets search stack)

-- The earliest match of an injection that applies, and of several that of the first.
def findInjectedFrom (tokenizer : Tokenizer) (sets : PatternSets) (search : Search)
    (scopes : ScopeList) :
    Option (Candidate × Selector.Priority) → List Injection →
      Option (Candidate × Selector.Priority)
  | best, [] => best
  | best, injection :: rest =>
    if injection.expr.accepts scopes then
      match findFirst tokenizer.engine (sets .included injection.rule) search.text search.pos
          search.anchors with
      | none => findInjectedFrom tokenizer sets search scopes best rest
      | some found =>
        if best.any fun (earlier, _) => earlier.start ≤ found.start then
          findInjectedFrom tokenizer sets search scopes best rest
        else if found.start = search.pos then some (.ofFound found, injection.priority)
        else
          findInjectedFrom tokenizer sets search scopes
            (some (.ofFound found, injection.priority)) rest
    else findInjectedFrom tokenizer sets search scopes best rest

def findInjected (tokenizer : Tokenizer) (sets : PatternSets) (search : Search)
    (stack : RuleStack) : Option (Candidate × Selector.Priority) :=
  findInjectedFrom tokenizer sets search stack.top.contentScopes none tokenizer.injections

-- The better of the active rule and the injections: only a left injection wins a tie.
def preferOwn (own : Option Candidate) (injected : Option (Candidate × Selector.Priority)) :
    Option Candidate :=
  match own, injected with
  | own, none => own
  | none, some (injected, _) => some injected
  | some own, some (injected, priority) =>
    if own.start < injected.start || (own.start = injected.start && priority ≠ .left) then some own
    else some injected

def findCandidate (tokenizer : Tokenizer) (sets : PatternSets) (search : Search)
    (stack : RuleStack) : Option Candidate :=
  preferOwn (findOwn tokenizer sets search stack) (findInjected tokenizer sets search stack)

-- The injections that are tried up to the first that matches right here.
def triedInjections (tokenizer : Tokenizer) (sets : PatternSets) (search : Search)
    (scopes : ScopeList) : List Injection → List Injection
  | [] => []
  | injection :: rest =>
    if injection.expr.accepts scopes then
      let found := findFirst tokenizer.engine (sets .included injection.rule) search.text search.pos
        search.anchors
      if found.any fun found => found.start = search.pos then [injection]
      else injection :: triedInjections tokenizer sets search scopes rest
    else triedInjections tokenizer sets search scopes rest

def asked (tokenizer : Tokenizer) (sets : PatternSets) (search : Search) (stack : RuleStack) :
    List (Mode × RuleRef) :=
  let children :=
    if endSettles search (findEnd tokenizer search stack) then []
    else [(.children, stack.top.rule)]
  children ++
    (triedInjections tokenizer sets search stack.top.contentScopes tokenizer.injections).map
      fun injection => (.included, injection.rule)

end Line

end LineScope
