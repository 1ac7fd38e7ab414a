import LineScope.Grammar.Diagnostic
import LineScope.Pattern.Engine
import LineScope.Selector.Basic

set_option autoImplicit false

namespace LineScope

namespace Grammar

structure CaptureRule where
  name : Option String
  contentName : Option String
  retokenize : Option Nat
deriving DecidableEq, Repr, Inhabited

-- Rules for groups, by ascending group number.
abbrev CaptureTable := List (Nat × CaptureRule)

namespace CaptureTable

def put (group : Nat) (rule : CaptureRule) : CaptureTable → CaptureTable
  | [] => [(group, rule)]
  | (other, old) :: tail =>
    if group < other then (group, rule) :: (other, old) :: tail
    else if group = other then (group, rule) :: tail
    else (other, old) :: put group rule tail

def size (table : CaptureTable) : Nat :=
  match table.getLast? with
  | none => 0
  | some (group, _) => group + 1

def toSlots (table : CaptureTable) : List (Option CaptureRule) :=
  (List.range (size table)).map fun group => List.lookup group table

end CaptureTable

inductive PatternRef where
  | rule (id : Nat)
  | base
  | external (scope : String) (rule : Option String)
deriving DecidableEq, Repr, Inhabited

structure MatchRule where
  name : Option String
  pattern : String
  captures : CaptureTable
deriving DecidableEq, Repr, Inhabited

structure ContainerRule where
  name : Option String
  contentName : Option String
  patterns : List PatternRef
deriving DecidableEq, Repr, Inhabited

structure BeginEndRule where
  name : Option String
  contentName : Option String
  beginPattern : String
  beginCaptures : CaptureTable
  endPattern : String
  endCaptures : CaptureTable
  -- Children win a tie against the end pattern.
  endPatternLast : Bool
  patterns : List PatternRef
deriving DecidableEq, Repr, Inhabited

structure BeginWhileRule where
  name : Option String
  contentName : Option String
  beginPattern : String
  beginCaptures : CaptureTable
  whilePattern : String
  whileCaptures : CaptureTable
  patterns : List PatternRef
deriving DecidableEq, Repr, Inhabited

inductive Rule where
  | single (rule : MatchRule)
  | container (rule : ContainerRule)
  | beginEnd (rule : BeginEndRule)
  | beginWhile (rule : BeginWhileRule)
  | invalid
deriving DecidableEq, Repr, Inhabited

namespace Rule

def name : Rule → Option String
  | .single rule => rule.name
  | .container rule => rule.name
  | .beginEnd rule => rule.name
  | .beginWhile rule => rule.name
  | .invalid => none

def contentName : Rule → Option String
  | .container rule => rule.contentName
  | .beginEnd rule => rule.contentName
  | .beginWhile rule => rule.contentName
  | .single _ | .invalid => none

def patterns : Rule → List PatternRef
  | .container rule => rule.patterns
  | .beginEnd rule => rule.patterns
  | .beginWhile rule => rule.patterns
  | .single _ | .invalid => []

def startPattern? : Rule → Option String
  | .single rule => some rule.pattern
  | .beginEnd rule => some rule.beginPattern
  | .beginWhile rule => some rule.beginPattern
  | .container _ | .invalid => none

def isBeginWhile : Rule → Bool
  | .beginWhile _ => true
  | _ => false

def captureRules : Rule → List CaptureRule
  | .single rule => rule.captures.map Prod.snd
  | .beginEnd rule => (rule.beginCaptures ++ rule.endCaptures).map Prod.snd
  | .beginWhile rule => (rule.beginCaptures ++ rule.whileCaptures).map Prod.snd
  | .container _ | .invalid => []

end Rule

end Grammar

-- A compiled grammar. The key stands for the grammar itself: two grammars are the same if they
-- are filed under the same key.
structure Grammar where
  key : String
  scopeName : String
  name : Option String
  fileTypes : List String
  firstLineMatch : Option String
  rules : Array Grammar.Rule
  root : Nat
  repository : List (String × Nat)
  ownInjections : List (Selector × Nat)
  injectionSelector : Option Selector
  diagnostics : List Grammar.Diagnostic
deriving DecidableEq, Repr, Inhabited

namespace Grammar

def rule (grammar : Grammar) (id : Nat) : Rule := grammar.rules.getD id .invalid

def ruleCount (grammar : Grammar) : Nat := grammar.rules.size

def totalRules : List Grammar → Nat
  | [] => 0
  | grammar :: rest => grammar.ruleCount + totalRules rest

def repositoryRule? (grammar : Grammar) (name : String) : Option Nat :=
  grammar.repository.lookup name

def matchesFirstLine (grammar : Grammar) (engine : Pattern.Engine) (line : String) : Bool :=
  match grammar.firstLineMatch with
  | none => false
  | some pattern => (engine.find pattern ⟨true, true⟩ line.toList 0).isSome

end Grammar

structure RuleRef where
  grammar : Grammar
  id : Nat
deriving DecidableEq, Repr, Inhabited

def Grammar.included? (grammar : Grammar) : Option String → Option RuleRef
  | none => some ⟨grammar, grammar.root⟩
  | some name => (grammar.repositoryRule? name).map fun id => ⟨grammar, id⟩

namespace RuleRef

def rule (ref : RuleRef) : Grammar.Rule := ref.grammar.rule ref.id

def identity (ref : RuleRef) : String × Nat := (ref.grammar.key, ref.id)

def same (a b : RuleRef) : Bool := a.identity == b.identity

def label (ref : RuleRef) : String := ref.grammar.scopeName ++ "#" ++ toString ref.id

end RuleRef

end LineScope
