set_option autoImplicit false

namespace LineScope.Grammar

structure RuleKeys where
  includeTarget : Option String := none
  name : Option String := none
  contentName : Option String := none
  matchPattern : Option String := none
  beginPattern : Option String := none
  endPattern : Option String := none
  whilePattern : Option String := none
  endPatternLast : Bool := false
deriving DecidableEq, Repr, Inhabited

mutual
inductive RuleDocument where
  | mk (keys : RuleKeys) (captures beginCaptures endCaptures whileCaptures : OptionalTable)
      (patterns : OptionalRules) (repository : OptionalTable)

inductive OptionalTable where
  | absent
  | present (table : RuleTable)

inductive OptionalRules where
  | absent
  | present (rules : RuleSequence)

-- Rules under keys, in the order in which the keys are first written.
inductive RuleTable where
  | nil
  | cons (key : String) (rule : RuleDocument) (tail : RuleTable)

inductive RuleSequence where
  | nil
  | cons (rule : RuleDocument) (tail : RuleSequence)
end

deriving instance Repr for RuleDocument, OptionalTable, OptionalRules, RuleTable, RuleSequence

instance : Inhabited RuleDocument := ⟨.mk {} .absent .absent .absent .absent .absent .absent⟩

namespace RuleTable

def toList : RuleTable → List (String × RuleDocument)
  | .nil => []
  | .cons key rule tail => (key, rule) :: tail.toList

-- Adds a rule at the end, or in place of the rule that has its key.
def put (key : String) (rule : RuleDocument) : RuleTable → RuleTable
  | .nil => .cons key rule .nil
  | .cons other old tail =>
    if other = key then .cons key rule tail else .cons other old (tail.put key rule)

def get? (key : String) : RuleTable → Option RuleDocument
  | .nil => none
  | .cons other rule tail => if other = key then some rule else tail.get? key

end RuleTable

def RuleSequence.toList : RuleSequence → List RuleDocument
  | .nil => []
  | .cons rule tail => rule :: tail.toList

def OptionalTable.entries : OptionalTable → List (String × RuleDocument)
  | .absent => []
  | .present table => table.toList

def OptionalTable.isPresent : OptionalTable → Bool
  | .absent => false
  | .present _ => true

def OptionalRules.items : OptionalRules → List RuleDocument
  | .absent => []
  | .present rules => rules.toList

def OptionalRules.isPresent : OptionalRules → Bool
  | .absent => false
  | .present _ => true

namespace RuleDocument

def keys : RuleDocument → RuleKeys
  | .mk keys _ _ _ _ _ _ => keys

def captures : RuleDocument → OptionalTable
  | .mk _ captures _ _ _ _ _ => captures

def beginCaptures : RuleDocument → OptionalTable
  | .mk _ _ beginCaptures _ _ _ _ => beginCaptures

def endCaptures : RuleDocument → OptionalTable
  | .mk _ _ _ endCaptures _ _ _ => endCaptures

def whileCaptures : RuleDocument → OptionalTable
  | .mk _ _ _ _ whileCaptures _ _ => whileCaptures

def patterns : RuleDocument → OptionalRules
  | .mk _ _ _ _ _ patterns _ => patterns

def repository : RuleDocument → OptionalTable
  | .mk _ _ _ _ _ _ repository => repository

end RuleDocument

mutual
def RuleDocument.size : RuleDocument → Nat
  | .mk _ captures beginCaptures endCaptures whileCaptures patterns repository =>
    1 + captures.size + beginCaptures.size + endCaptures.size + whileCaptures.size +
      patterns.size + repository.size

def OptionalTable.size : OptionalTable → Nat
  | .absent => 0
  | .present table => table.size

def OptionalRules.size : OptionalRules → Nat
  | .absent => 0
  | .present rules => rules.size

def RuleTable.size : RuleTable → Nat
  | .nil => 0
  | .cons _ rule tail => rule.size + tail.size

def RuleSequence.size : RuleSequence → Nat
  | .nil => 0
  | .cons rule tail => rule.size + tail.size
end

structure Document where
  scopeName : String
  name : Option String := none
  fileTypes : List String := []
  firstLineMatch : Option String := none
  patterns : RuleSequence := .nil
  repository : RuleTable := .nil
  injections : RuleTable := .nil
  injectionSelector : Option String := none
deriving Repr, Inhabited

def Document.size (document : Document) : Nat :=
  document.patterns.size + document.repository.size + document.injections.size

inductive Shape where
  | reference (target : String)
  | single (pattern : String)
  | beginEnd (opening closing : String)
  | beginWhile (opening continuing : String)
  | container
deriving DecidableEq, Repr, Inhabited

inductive ShapeError where
  | includeWithMatch
  | includeWithBegin
  | matchWithBegin
  | matchWithEndOrWhile
  | endAndWhile
  | beginAlone
  | endAlone
  | whileAlone
deriving DecidableEq, Repr, Inhabited

def ShapeError.reason : ShapeError → String
  | .includeWithMatch => "`include` cannot be combined with `match`"
  | .includeWithBegin => "`include` cannot be combined with `begin`"
  | .matchWithBegin => "`match` cannot be combined with `begin`"
  | .matchWithEndOrWhile => "`match` cannot be combined with `end` or `while`"
  | .endAndWhile => "`begin` has both `end` and `while`"
  | .beginAlone => "`begin` without `end` or `while`"
  | .endAlone => "`end` without `begin`"
  | .whileAlone => "`while` without `begin`"

-- Contradictory keys are refused instead of being read in one of several ways.
def RuleKeys.shape (keys : RuleKeys) : Except ShapeError Shape :=
  match keys.includeTarget with
  | some target =>
    if keys.matchPattern.isSome then .error .includeWithMatch
    else if keys.beginPattern.isSome then .error .includeWithBegin
    else .ok (.reference target)
  | none =>
    match keys.matchPattern, keys.beginPattern, keys.endPattern, keys.whilePattern with
    | some _, some _, _, _ => .error .matchWithBegin
    | some pattern, none, none, none => .ok (.single pattern)
    | some _, none, _, _ => .error .matchWithEndOrWhile
    | none, some _, some _, some _ => .error .endAndWhile
    | none, some opening, some closing, none => .ok (.beginEnd opening closing)
    | none, some opening, none, some continuing => .ok (.beginWhile opening continuing)
    | none, some _, none, none => .error .beginAlone
    | none, none, some _, _ => .error .endAlone
    | none, none, none, some _ => .error .whileAlone
    | none, none, none, none => .ok .container

end LineScope.Grammar
