import LineScope.Library

set_option autoImplicit false

namespace LineScope.Line

structure Entry where
  rule : RuleRef
  pattern : String
deriving Repr, Inhabited

abbrev Resolver := Scope → Option String → Option RuleRef

-- What has been collected, last entry first, which containers have been expanded, and which
-- includes of other grammars were followed, last one first.
structure Collection where
  entries : List Entry := []
  expanded : List (String × Nat) := []
  followed : List (Scope × Option String) := []
deriving Repr, Inhabited

def childOf (resolve : Resolver) (base : Grammar) (owner : RuleRef) :
    Grammar.PatternRef → Option RuleRef
  | .rule id => some ⟨owner.grammar, id⟩
  | .base => some ⟨base, base.root⟩
  | .external scope rule => resolve scope rule

def includeOf : Grammar.PatternRef → List (Scope × Option String)
  | .external scope rule => [(scope, rule)]
  | _ => []

def Collection.follow (collection : Collection) (includes : List (Scope × Option String)) :
    Collection :=
  { collection with followed := includes ++ collection.followed }

def collectChildren (resolve : Resolver) (base : Grammar) (owner : RuleRef)
    (add : RuleRef → Collection → Collection) :
    List Grammar.PatternRef → Collection → Collection
  | [], collection => collection
  | pattern :: rest, collection =>
    let collection := collection.follow (includeOf pattern)
    match childOf resolve base owner pattern with
    | some child => collectChildren resolve base owner add rest (add child collection)
    | none => collectChildren resolve base owner add rest collection

-- Adds a rule: its pattern or, for a container that has not been expanded, its children. Every
-- step inwards expands another container, so the number of rules is fuel enough.
def collectRule (resolve : Resolver) (base : Grammar) : Nat → RuleRef → Collection → Collection
  | 0, _, collection => collection
  | fuel + 1, ref, collection =>
    match ref.rule.startPattern? with
    | some pattern => { collection with entries := ⟨ref, pattern⟩ :: collection.entries }
    | none =>
      if collection.expanded.contains ref.identity then collection
      else
        collectChildren resolve base ref (collectRule resolve base fuel) ref.rule.patterns
          { collection with expanded := ref.identity :: collection.expanded }

-- Whether the children of a rule are wanted, or the rule itself as if it were included.
inductive Mode where
  | children
  | included
deriving DecidableEq, Repr, Inhabited

def collect (resolve : Resolver) (others : Nat) (base : Grammar) (mode : Mode)
    (target : RuleRef) : Collection :=
  let fuel := others + base.ruleCount + target.grammar.ruleCount + 1
  match mode with
  | .children =>
    collectChildren resolve base target (collectRule resolve base fuel) target.rule.patterns
      { expanded := [target.identity] }
  | .included => collectRule resolve base fuel target {}

def Collection.set (collection : Collection) : List Entry := collection.entries.reverse

def patternSet (library : Library) (base : Grammar) (mode : Mode) (target : RuleRef) :
    List Entry :=
  (collect library.resolve library.ruleCount base mode target).set

structure Found where
  rule : RuleRef
  captures : Pattern.Captures
deriving Repr, Inhabited

def Found.start (found : Found) : Nat := (Pattern.wholeSpan found.captures).1

-- The earliest match, and of several the one of the first entry. A match where the search starts
-- cannot be beaten.
def findFrom (engine : Pattern.Engine) (text : List Char) (pos : Nat) (anchors : Pattern.Anchors) :
    Option Found → List Entry → Option Found
  | best, [] => best
  | best, entry :: rest =>
    match engine.find entry.pattern anchors text pos with
    | none => findFrom engine text pos anchors best rest
    | some captures =>
      let found : Found := ⟨entry.rule, captures⟩
      if best.any fun earlier => earlier.start ≤ found.start then
        findFrom engine text pos anchors best rest
      else if found.start = pos then some found
      else findFrom engine text pos anchors (some found) rest

def findFirst (engine : Pattern.Engine) (entries : List Entry) (text : List Char) (pos : Nat)
    (anchors : Pattern.Anchors) : Option Found :=
  findFrom engine text pos anchors none entries

end LineScope.Line
