import LineScope.Line.PatternSet

/-!
What has been looked up so far: the grammars of scopes, the targets of includes, the injections into
grammars and the patterns for rules. What has been looked up once is answered from memory ever
after, so an answer can only be right if its key says all that the answer depends on.
-/

set_option autoImplicit false

namespace LineScope

abbrev Memo (κ α : Type) := List (κ × α)

namespace Memo

variable {κ α : Type} [BEq κ]

def answer (memo : Memo κ α) (key : κ) (fresh : Unit → α) : α :=
  match memo.lookup key with
  | some kept => kept
  | none => fresh ()

def knows (memo : Memo κ α) (key : κ) : Bool := (memo.lookup key).isSome

end Memo

namespace Line

-- What the patterns for a rule are remembered by: the grammar that is tokenized counts, since a
-- rule can include it without naming it.
structure SetKey where
  base : String
  mode : Mode
  target : String × Nat
deriving DecidableEq, Repr, Inhabited

end Line

structure Memory where
  -- A scope without a grammar is remembered as such.
  grammars : Memo Scope (Option Grammar) := []
  includes : Memo (Scope × Option String) (Option RuleRef) := []
  injections : Memo String (List Injection) := []
  patternSets : Memo Line.SetKey (List Line.Entry) := []
deriving Repr, Inhabited

namespace Memory

variable (library : Library) (memory : Memory)

def grammar? (scope : Scope) : Option Grammar :=
  memory.grammars.answer scope fun _ => library.find? scope

def rememberGrammar (scope : Scope) : Memory :=
  if memory.grammars.knows scope then memory
  else { memory with grammars := (scope, library.find? scope) :: memory.grammars }

def resolve (scope : Scope) (rule : Option String) : Option RuleRef :=
  memory.includes.answer (scope, rule) fun _ =>
    (memory.grammar? library scope).bind fun grammar => grammar.included? rule

-- An include asks for its grammar when it is followed for the first time.
def rememberInclude (included : Scope × Option String) : Memory :=
  if memory.includes.knows included then memory
  else
    { memory.rememberGrammar library included.1 with
      includes := (included, memory.resolve library included.1 included.2) :: memory.includes }

def injectionsInto (grammar : Grammar) : List Injection :=
  memory.injections.answer grammar.key fun _ =>
    Injection.into grammar
      ((library.injectorsOf grammar.scopeName).filterMap (memory.grammar? library))

def rememberInjections (grammar : Grammar) : Memory :=
  if memory.injections.knows grammar.key then memory
  else
    { (library.injectorsOf grammar.scopeName).foldl (rememberGrammar library) memory with
      injections := (grammar.key, memory.injectionsInto library grammar) :: memory.injections }

def setKey (base : Grammar) (mode : Line.Mode) (target : RuleRef) : Line.SetKey :=
  ⟨base.key, mode, target.identity⟩

def patternSet (base : Grammar) (mode : Line.Mode) (target : RuleRef) : List Line.Entry :=
  memory.patternSets.answer (setKey base mode target) fun _ =>
    (Line.collect (memory.resolve library) library.ruleCount base mode target).set

def rememberSet (base : Grammar) (mode : Line.Mode) (target : RuleRef) : Memory :=
  if memory.patternSets.knows (setKey base mode target) then memory
  else
    let collection := Line.collect (memory.resolve library) library.ruleCount base mode target
    { collection.followed.reverse.foldl (rememberInclude library) memory with
      patternSets := (setKey base mode target, collection.set) :: memory.patternSets }

end Memory

end LineScope
