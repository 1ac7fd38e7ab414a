import LineScope.Grammar.Rule
import LineScope.Pattern.Reference
import LineScope.Selector.Parser

/-!
Compiling a grammar document. The rules of the top-level repository come first, so that a problem in
a shared rule is reported where the rule stands; then the top-level patterns and the injections.

A rule of the document is compiled once, however many includes lead to it: it is recognised by its
address. An include by name looks through the repositories that are in view where it stands,
innermost first.
-/

set_option autoImplicit false

namespace LineScope

namespace Grammar

inductive Step where
  | repository (name : String)
  | pattern (index : Nat)
  | capture (table key : String)
  | injection (selector : String)
deriving DecidableEq, Repr, Inhabited

-- Where a rule stands in its document, last step first.
abbrev Address := List Step

structure Site where
  rule : RuleDocument
  address : Address

-- The repositories in view, innermost first, each with the address of its owner.
abbrev Chain := List (Address × RuleTable)

def Chain.find? (name : String) : Chain → Option Site
  | [] => none
  | (owner, table) :: outer =>
    match table.get? name with
    | some rule => some ⟨rule, .repository name :: owner⟩
    | none => Chain.find? name outer

-- What ends the program: a rule that is put outside the array, a group up to which there are more
-- slots than 64 bits can count, or one up to which they take more bytes than one allocation may
-- have.
inductive Fault where
  | outside (id size : Nat)
  | uncounted (group : Nat)
  | oversized (group : Nat)
deriving DecidableEq, Repr, Inhabited

def Fault.message : Fault → String
  | .outside id size => "index out of bounds: the len is " ++ toString size ++ " but the index is " ++ toString id
  | .uncounted _ => "attempt to add with overflow"
  | .oversized _ => "capacity overflow"

def Fault.ofPlace? (id size : Nat) : Option Fault := if id < size then none else some (.outside id size)

-- The most bytes that one allocation may take.
def allocationLimit : Nat := 9223372036854775807

def Fault.ofGroup? (slotBytes group : Nat) : Option Fault :=
  if UInt64.size ≤ group + 1 then some (.uncounted group)
  else if allocationLimit < (group + 1) * slotBytes then some (.oversized group)
  else none

-- What a compilation relies on: an index in an array of some size, or a slot for every group up
-- to one.
inductive Request where
  | place (id size : Nat)
  | slots (group : Nat)
deriving DecidableEq, Repr, Inhabited

def Request.fault? (slotBytes : Nat) : Request → Option Fault
  | .place id size => Fault.ofPlace? id size
  | .slots group => Fault.ofGroup? slotBytes group

structure Workbench where
  rules : Array Rule
  ids : List (Address × Nat)
  diagnostics : Array Diagnostic
deriving Repr, Inhabited

-- A compilation under way, with its requests in order. The first one that ends with a fault ends
-- the program.
structure Compilation extends Workbench where
  requests : List Request
deriving Repr, Inhabited

def Compilation.faults (slotBytes : Nat) (bench : Compilation) : List Fault :=
  bench.requests.filterMap (Request.fault? slotBytes)

instance : Coe Compilation Workbench := ⟨Compilation.toWorkbench⟩

def Compilation.start : Compilation := ⟨⟨#[], [], #[]⟩, []⟩

abbrev Compiling := StateM Compilation

-- Takes the next free index; its rule is invalid until it is defined.
def reserve : Compiling Nat := fun bench =>
  (bench.rules.size, { bench with rules := bench.rules.push .invalid })

def define (id : Nat) (rule : Rule) : Compiling Unit := fun bench =>
  ((), { bench with
    rules := bench.rules.setIfInBounds id rule
    requests := bench.requests ++ [.place id bench.rules.size] })

def remember (address : Address) (id : Nat) : Compiling Unit := fun bench =>
  ((), { bench with ids := (address, id) :: bench.ids })

def report (location : String) (problem : Problem) : Compiling Unit := fun bench =>
  ((), { bench with diagnostics := bench.diagnostics.push ⟨location, problem⟩ })

def join (location segment : String) : String :=
  if location.isEmpty then segment else location ++ "/" ++ segment

-- Checks a pattern. One that refers to groups of another match is complete only once these are
-- filled in, and is not checked.
def checkPattern (engine : Pattern.Engine) (pattern location : String) (filledLater : Bool) :
    Compiling String := do
  if !(filledLater && Pattern.hasReferences pattern) then
    match engine.check pattern.toList with
    | some message => report location (.invalidPattern pattern message)
    | none => pure ()
  return pattern

def compileSelector (source location : String) : Compiling (Option Selector) := do
  match Selector.parse source with
  | .ok selector => return some selector
  | .error error =>
    report location (.invalidSelector source error)
    return none

def splitTarget (target : List Char) : List Char × Option (List Char) :=
  match target with
  | [] => ([], none)
  | c :: rest =>
    if c == '#' then ([], some rest)
    else
      let (scope, name) := splitTarget rest
      (c :: scope, name)

inductive Target where
  | root
  | base
  | inView (name : String)
  | topLevel (name : String)
  | external (scope : String) (rule : Option String)
  | nothing
deriving DecidableEq, Repr, Inhabited

def Target.ofText (scopeName target : String) : Target :=
  if target = "$self" then .root
  else if target = "$base" then .base
  else
    let (scope, name) := splitTarget target.toList
    let scope := String.ofList scope
    match name with
    | some name =>
      let name := String.ofList name
      if scope.isEmpty then .inView name
      else if scope = scopeName then .topLevel name
      else .external scope (some name)
    | none =>
      if scope = scopeName then .root
      else if scope.isEmpty then .nothing
      else .external scope none

structure Context where
  engine : Pattern.Engine
  scopeName : String
  top : RuleTable

-- Compiles the rule at a site in view of a chain of repositories, and reports its problems at a
-- location.
abbrev RuleCompiler := Chain → Site → String → Compiling Nat

def compileFound (compile : RuleCompiler) (chain : Chain) (found : Option Site)
    (target location : String) : Compiling (Option PatternRef) := do
  match found with
  | some site =>
    let id ← compile chain site location
    return some (.rule id)
  | none =>
    report location (.unresolvedInclude target)
    return none

def compileInclude (context : Context) (compile : RuleCompiler) (chain : Chain)
    (target location : String) : Compiling (Option PatternRef) :=
  let top : Chain := [([], context.top)]
  match Target.ofText context.scopeName target with
  | .root => pure (some (.rule 0))
  | .base => pure (some .base)
  | .inView name => compileFound compile chain (Chain.find? name chain) target location
  | .topLevel name => compileFound compile top (Chain.find? name top) target location
  | .external scope rule => pure (some (.external scope rule))
  | .nothing => compileFound compile chain none target location

def compilePatterns (context : Context) (compile : RuleCompiler) (chain : Chain)
    (owner : Address) (location : String) : Nat → List RuleDocument → Compiling (List PatternRef)
  | _, [] => pure []
  | index, rule :: rest => do
    let place := join location ("patterns/" ++ toString index)
    let head ←
      match rule.keys.includeTarget, rule.keys.matchPattern, rule.keys.beginPattern with
      | some target, none, none => compileInclude context compile chain target place
      | _, _, _ => do
        let id ← compile chain ⟨rule, .pattern index :: owner⟩ place
        pure (some (.rule id))
    let tail ← compilePatterns context compile chain owner location (index + 1) rest
    return head.toList ++ tail

-- The number of a group: digits after an optional plus sign, of a value that fits 64 bits.
def groupOfKey? (key : String) : Option Nat :=
  match key.toList with
  | '+' :: digits => Pattern.groupNumber? digits
  | digits => Pattern.groupNumber? digits

def claimGroup (group : Nat) : Compiling Unit := fun bench =>
  ((), { bench with requests := bench.requests ++ [.slots group] })

def compileCaptures (context : Context) (compile : RuleCompiler) (chain : Chain)
    (owner : Address) (table location : String) :
    List (String × RuleDocument) → CaptureTable → Compiling CaptureTable
  | [], captures => pure captures
  | (key, rule) :: rest, captures => do
    let place := join location key
    match groupOfKey? key with
    | none =>
      report place (.invalidShape (.captureKey key))
      compileCaptures context compile chain owner table location rest captures
    | some group =>
      let retokenize ←
        match rule.patterns with
        | .absent => pure none
        | .present rules => do
          let id ← reserve
          let patterns ←
            compilePatterns context compile chain (.capture table key :: owner) place 0 rules.toList
          define id (.container ⟨none, none, patterns⟩)
          pure (some id)
      claimGroup group
      compileCaptures context compile chain owner table location rest
        (CaptureTable.put group ⟨rule.keys.name, rule.keys.contentName, retokenize⟩ captures)

-- The captures under a key of their own, or else those under `captures`.
def compileCapturesOr (context : Context) (compile : RuleCompiler) (chain : Chain) (site : Site)
    (location key : String) (own : OptionalTable) : Compiling CaptureTable :=
  match own with
  | .present table =>
    compileCaptures context compile chain site.address key (join location key) table.toList []
  | .absent =>
    compileCaptures context compile chain site.address "captures" (join location "captures")
      site.rule.captures.entries []

def compileShape (context : Context) (compile : RuleCompiler) (chain : Chain) (site : Site)
    (location : String) : Compiling Rule :=
  let rule := site.rule
  let keys := rule.keys
  let children :=
    compilePatterns context compile chain site.address location 0 rule.patterns.items
  match keys.shape with
  | .error error => do
    report location (.invalidShape (.keys error))
    return .invalid
  | .ok (.reference target) => do
    let found ← compileInclude context compile chain target location
    return .container ⟨keys.name, keys.contentName, found.toList⟩
  | .ok .container => do
    let patterns ← children
    return .container ⟨keys.name, keys.contentName, patterns⟩
  | .ok (.single source) => do
    let pattern ← checkPattern context.engine source (join location "match") false
    let captures ←
      compileCapturesOr context compile chain site location "captures" rule.captures
    return .single ⟨keys.name, pattern, captures⟩
  | .ok (.beginEnd opening closing) => do
    let beginPattern ← checkPattern context.engine opening (join location "begin") false
    let beginCaptures ←
      compileCapturesOr context compile chain site location "beginCaptures" rule.beginCaptures
    let endPattern ← checkPattern context.engine closing (join location "end") true
    let endCaptures ←
      compileCapturesOr context compile chain site location "endCaptures" rule.endCaptures
    let patterns ← children
    return .beginEnd ⟨keys.name, keys.contentName, beginPattern, beginCaptures, endPattern,
      endCaptures, keys.endPatternLast, patterns⟩
  | .ok (.beginWhile opening continuing) => do
    let beginPattern ← checkPattern context.engine opening (join location "begin") false
    let beginCaptures ←
      compileCapturesOr context compile chain site location "beginCaptures" rule.beginCaptures
    let whilePattern ← checkPattern context.engine continuing (join location "while") true
    let whileCaptures ←
      compileCapturesOr context compile chain site location "whileCaptures" rule.whileCaptures
    let patterns ← children
    return .beginWhile ⟨keys.name, keys.contentName, beginPattern, beginCaptures, whilePattern,
      whileCaptures, patterns⟩

def Site.chain (site : Site) (chain : Chain) : Chain :=
  match site.rule.repository with
  | .absent => chain
  | .present table => (site.address, table) :: chain

-- Compiles a rule unless it has been compiled. Every call that goes deeper takes a rule that was
-- not compiled before, so the number of rules in the document is fuel enough.
def compileRule (context : Context) : Nat → RuleCompiler
  | 0, _, _, _ => pure 0
  | fuel + 1, chain, site, location => do
    let bench ← get
    match bench.ids.lookup site.address with
    | some id => return id
    | none =>
      let id ← reserve
      remember site.address id
      let rule ←
        compileShape context (compileRule context fuel) (site.chain chain) site location
      define id rule
      return id

def compileRepository (compile : RuleCompiler) (chain : Chain) :
    List (String × RuleDocument) → Compiling (List (String × Nat))
  | [] => pure []
  | (name, rule) :: rest => do
    let id ← compile chain ⟨rule, [.repository name]⟩ (join "repository" name)
    let tail ← compileRepository compile chain rest
    return (name, id) :: tail

def compileInjections (compile : RuleCompiler) (chain : Chain) :
    List (String × RuleDocument) → Compiling (List (Selector × Nat))
  | [] => pure []
  | (source, rule) :: rest => do
    let location := join "injections" source
    let id ← compile chain ⟨rule, [.injection source]⟩ location
    let selector ← compileSelector source location
    let tail ← compileInjections compile chain rest
    match selector with
    | some selector => return (selector, id) :: tail
    | none => return tail

structure Compiled where
  repository : List (String × Nat)
  injections : List (Selector × Nat)
  injectionSelector : Option Selector
deriving Repr, Inhabited

def compileDocument (engine : Pattern.Engine) (document : Document) : Compiling Compiled := do
  let context : Context := ⟨engine, document.scopeName, document.repository⟩
  let compile := compileRule context (document.size + 1)
  let top : Chain := [([], document.repository)]
  let root ← reserve
  let repository ← compileRepository compile top document.repository.toList
  let patterns ← compilePatterns context compile top [] "" 0 document.patterns.toList
  define root (.container ⟨some document.scopeName, none, patterns⟩)
  let injections ← compileInjections compile top document.injections.toList
  let injectionSelector ←
    match document.injectionSelector with
    | none => pure none
    | some source => compileSelector source "injectionSelector"
  match document.firstLineMatch with
  | none => pure ()
  | some source => do
    let _ ← checkPattern engine source "firstLineMatch" false
  return ⟨repository, injections, injectionSelector⟩

end Grammar

def Grammar.compile (engine : Pattern.Engine) (key : String) (document : Grammar.Document) :
    Grammar :=
  let (compiled, bench) := Grammar.compileDocument engine document .start
  { key
    scopeName := document.scopeName
    name := document.name
    fileTypes := document.fileTypes
    firstLineMatch := document.firstLineMatch
    rules := bench.rules
    root := 0
    repository := compiled.repository
    ownInjections := compiled.injections
    injectionSelector := compiled.injectionSelector
    diagnostics := bench.diagnostics.toList }

-- Compiles a document, unless a fault ends the program on the way.
def Grammar.compile? (slotBytes : Nat) (engine : Pattern.Engine) (key : String) (document : Grammar.Document) :
    Except Grammar.Fault Grammar :=
  match (Grammar.compileDocument engine document .start).2.faults slotBytes with
  | [] => .ok (.compile engine key document)
  | fault :: _ => .error fault

end LineScope
