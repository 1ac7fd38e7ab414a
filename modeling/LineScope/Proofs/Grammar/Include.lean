import LineScope.Proofs.Grammar.RuleCompiler
import Mathlib.Data.List.Forall2

set_option autoImplicit false

namespace LineScope

namespace Grammar

section Documents

variable {document : Document} {before : Compilation}

theorem reaches_selector (source location : String) :
    Reaches document before (compileSelector source location) fun _ _ => True := by
  rw [compileSelector]
  split
  · exact reaches_pure _ _ trivial
  · refine reaches_bind _ _ (fun _ _ => True) _ ⟨(reaches_report location _).onward, trivial⟩ ?_
    exact fun _ middle _ _ => reaches_pure _ _ trivial

variable {fuel : Nat} {compile : RuleCompiler} (compiles : CompilesRules document fuel compile)
  (ready : Ready document fuel [([], document.repository)] before)

include compiles ready

theorem compile_repository_reaches (entries : List (String × RuleDocument))
    (placed : ∀ name rule, (name, rule) ∈ entries → document.ruleAt? [.repository name] = some rule) :
    Reaches document before (compileRepository compile [([], document.repository)] entries) fun ids after =>
      List.Forall₂ (fun entry compiled => compiled.1 = entry.1 ∧
        after.ids.lookup [.repository entry.1] = some compiled.2) entries ids := by
  induction entries generalizing before with
  | nil => exact reaches_pure _ _ .nil
  | cons entry rest ih =>
      obtain ⟨name, rule⟩ := entry
      have here := compiles [([], document.repository)] ⟨rule, [.repository name]⟩ (join "repository" name) before ready
        (sees_top document _ _ (List.Sublist.refl _)) (placed name rule List.mem_cons_self)
      refine reaches_bind _ _ _ _ here ?_
      intro id middle onward found
      refine reaches_bind _ _ _ _ (ih (ready_onward ready onward) fun other child member =>
        placed other child (List.mem_cons_of_mem _ member)) ?_
      intro ids last further others
      exact reaches_pure _ _ (.cons ⟨rfl, further.grows.ids _ _ found⟩ others)

theorem compile_injections_reaches (entries : List (String × RuleDocument))
    (placed : ∀ source rule, (source, rule) ∈ entries → document.ruleAt? [.injection source] = some rule) :
    Reaches document before (compileInjections compile [([], document.repository)] entries) fun _ after =>
      ∀ source rule, (source, rule) ∈ entries → (after.ids.lookup [.injection source]).isSome := by
  induction entries generalizing before with
  | nil => exact reaches_pure _ _ fun _ _ member => nomatch member
  | cons entry rest ih =>
      obtain ⟨source, rule⟩ := entry
      have here := compiles [([], document.repository)] ⟨rule, [.injection source]⟩ (join "injections" source) before ready
        (sees_top document _ _ (List.Sublist.refl _)) (placed source rule List.mem_cons_self)
      refine reaches_bind _ _ _ _ here ?_
      intro id middle toMiddle found
      refine reaches_bind _ _ _ _ (reaches_selector _ _) ?_
      intro selector read toRead _
      have onward := toMiddle.trans toRead
      refine reaches_bind _ _ _ _ (ih (ready_onward ready onward) fun other child member =>
        placed other child (List.mem_cons_of_mem _ member)) ?_
      intro tail last toLast others
      have all : ∀ other child, (other, child) ∈ (source, rule) :: rest → (last.ids.lookup [.injection other]).isSome := by
        intro other child member
        rcases List.mem_cons.mp member with same | later
        · cases same
          exact Option.isSome_of_eq_some ((toRead.trans toLast).grows.ids _ _ found)
        · exact others other child later
      cases selector <;> exact reaches_pure _ _ all

end Documents

section Whole

variable {document : Document} (enclosed : document.Enclosed) (distinct : document.Distinct) (engine : Pattern.Engine)

def compileParts (engine : Pattern.Engine) (document : Document) :
    Compiling (List (String × Nat) × List PatternRef) := do
  let compile := compileRule (contextOf engine document) (document.size + 1)
  let top : Chain := [([], document.repository)]
  let repository ← compileRepository compile top document.repository.toList
  let patterns ← compilePatterns (contextOf engine document) compile top [] "" 0 document.patterns.toList
  return (repository, patterns)

def compileRoot (engine : Pattern.Engine) (document : Document) : Compiling (List (String × Nat)) := do
  let root ← reserve
  let parts ← compileParts engine document
  define root (.container ⟨some document.scopeName, none, parts.2⟩)
  return parts.1

def compileOwnSelector (document : Document) : Compiling (Option Selector) :=
  match document.injectionSelector with
  | none => pure none
  | some source => compileSelector source "injectionSelector"

def compileFirstLine (engine : Pattern.Engine) (document : Document) : Compiling Unit :=
  match document.firstLineMatch with
  | none => pure ()
  | some source => do
    let _ ← checkPattern engine source "firstLineMatch" false

theorem compile_document_split (engine : Pattern.Engine) (document : Document) :
    compileDocument engine document = (do
      let repository ← compileRoot engine document
      let injections ←
        compileInjections (compileRule (contextOf engine document) (document.size + 1)) [([], document.repository)]
          document.injections.toList
      let injectionSelector ← compileOwnSelector document
      compileFirstLine engine document
      return ⟨repository, injections, injectionSelector⟩) := by
  rw [compileDocument, compileOwnSelector, compileFirstLine]
  cases document.injectionSelector <;> cases document.firstLineMatch <;> rfl

def Listed (document : Document) (bench : Workbench) (repository : List (String × Nat)) : Prop :=
  List.Forall₂ (fun entry compiled => compiled.1 = entry.1 ∧ bench.ids.lookup [.repository entry.1] = some compiled.2)
    document.repository.toList repository

def RootLinked (document : Document) (bench : Workbench) : Prop :=
  ∃ refs, bench.rules[0]? = some (.container ⟨some document.scopeName, none, refs⟩) ∧
    PatternsLinked document bench [] 0 document.patterns.toList refs

include enclosed distinct

theorem compile_parts_reaches (bench : Compilation)
    (ready : Ready document (document.size + 1) [([], document.repository)] bench) :
    Reaches document bench (compileParts engine document) fun parts after =>
      Listed document after parts.1 ∧ PatternsLinked document after [] 0 document.patterns.toList parts.2 := by
  have compiles := compile_rule_compiles enclosed distinct engine (document.size + 1)
  have entries := compile_repository_reaches compiles ready document.repository.toList fun name rule member =>
    table_get_of_mem document.repository name rule distinct.repository member
  refine reaches_bind _ _ _ _ entries ?_
  intro repository middle onward listed
  refine reaches_bind _ _ _ _ (compile_patterns_reaches enclosed engine compiles (ready_onward ready onward) [] "" 0
    document.patterns.toList (sees_top document _ _ (List.Sublist.refl _)) ?_) ?_
  · intro offset rule found
    rw [Nat.zero_add]
    exact found
  · intro patterns last further linked
    refine reaches_pure _ _ ⟨listed.imp ?_, linked⟩
    exact fun entry compiled same => ⟨same.1, further.grows.ids _ _ same.2⟩

theorem compile_root_reaches :
    Reaches document .start (compileRoot engine document) fun repository after =>
      Listed document after repository ∧ RootLinked document after := by
  let before : Compilation := .start
  let opened : Compilation := ⟨⟨#[.invalid], [], #[]⟩, []⟩
  have ready : Ready document (document.size + 1) [([], document.repository)] opened :=
    ⟨.top, List.forall_mem_singleton.mpr (.inl rfl), ⟨List.nodup_nil, List.forall_mem_nil _⟩, by simp [opened]⟩
  obtain ⟨onward, listed, linked⟩ := compile_parts_reaches enclosed distinct engine opened ready
  have ends : compileRoot engine document before = ((compileParts engine document opened).1.1,
      filled before (compileParts engine document opened).2
        (.container ⟨some document.scopeName, none, (compileParts engine document opened).1.2⟩)) := rfl
  generalize compileParts engine document opened = outcome at onward listed linked ends
  obtain ⟨⟨repository, patterns⟩, middle⟩ := outcome
  have grows := filled_grows before middle (.container ⟨some document.scopeName, none, patterns⟩)
  constructor
  · rw [ends]
    exact filled_onward before opened middle _ rfl onward (fun _ _ impossible => nomatch impossible) (Nat.le_refl _)
      (fun _ => ready.healthy) rfl (fun _ _ _ impossible => nomatch impossible)
  · rw [ends]
    exact ⟨listed, patterns, filled_rule before opened middle _ rfl onward, patterns_grow grows _ _ _ _ linked⟩

omit enclosed distinct in
theorem compile_own_selector_reaches (bench : Compilation) :
    Reaches document bench (compileOwnSelector document) fun _ _ => True := by
  rw [compileOwnSelector]
  split
  · exact reaches_pure _ _ trivial
  · exact reaches_selector _ _

omit enclosed distinct in
theorem compile_first_line_reaches (bench : Compilation) :
    Reaches document bench (compileFirstLine engine document) fun _ _ => True := by
  rw [compileFirstLine]
  split
  · exact reaches_pure _ _ trivial
  · rename_i source _
    refine reaches_bind _ _ _ _ (reaches_check_pattern engine source "firstLineMatch" false) ?_
    exact fun _ _ _ _ => reaches_pure _ _ trivial

theorem compile_document_reaches :
    Reaches document .start (compileDocument engine document) fun compiled after =>
      Listed document after compiled.repository ∧ RootLinked document after ∧
      ∀ source rule, (source, rule) ∈ document.injections.toList → (after.ids.lookup [.injection source]).isSome := by
  have compiles := compile_rule_compiles enclosed distinct engine (document.size + 1)
  rw [compile_document_split]
  refine reaches_bind _ _ _ _ (compile_root_reaches enclosed distinct engine) ?_
  rintro repository rooted toRooted ⟨listed, refs, root, linked⟩
  have healthy := toRooted.healthy ⟨List.nodup_nil, List.forall_mem_nil _⟩
  have ready : Ready document (document.size + 1) [([], document.repository)] rooted :=
    ⟨.top, List.forall_mem_singleton.mpr (.inl rfl), healthy, by omega⟩
  have injecting := compile_injections_reaches compiles ready document.injections.toList fun source rule member =>
    table_get_of_mem document.injections source rule distinct.injections member
  refine reaches_bind _ _ _ _ injecting ?_
  intro injections injected toInjected found
  refine reaches_bind _ _ _ _ (compile_own_selector_reaches injected) ?_
  intro selector selected toSelected _
  refine reaches_bind _ _ _ _ (compile_first_line_reaches engine selected) ?_
  intro _ last toLast _
  have afterwards := toSelected.trans toLast
  have onward := toInjected.trans afterwards
  refine reaches_pure _ _ ⟨?_, ⟨refs, onward.grows.rules _ _ (Nat.zero_le _) root,
    patterns_grow onward.grows _ _ _ _ linked⟩, ?_⟩
  · exact listed.imp fun entry compiled here => ⟨here.1, onward.grows.ids _ _ here.2⟩
  · intro source rule member
    obtain ⟨id, here⟩ := Option.isSome_iff_exists.mp (found source rule member)
    exact Option.isSome_of_eq_some (afterwards.grows.ids _ id here)

end Whole

end Grammar

/-- In a compiled grammar every include by name stands for the rule compiled from the entry of the innermost
repository around it, or is reported, if no name that is included is taken from a repository elsewhere. `ids` tells
from which rule of the document a compiled rule comes. -/
theorem compiled_include_denotes_enclosing_entry (engine : Pattern.Engine) (key : String) (document : Grammar.Document)
    (distinct : document.Distinct) (enclosed : document.Enclosed) :
    ∃ ids : List (Grammar.Address × Nat),
      let grammar := Grammar.compile engine key document
      let bench : Grammar.Workbench := ⟨grammar.rules, ids, grammar.diagnostics.toArray⟩
      Grammar.RootLinked document bench ∧ Grammar.Listed document bench grammar.repository ∧
      (∀ source rule, (source, rule) ∈ document.injections.toList → (ids.lookup [.injection source]).isSome) ∧
      ∀ address id, ids.lookup address = some id → Grammar.RuleLinked document bench 0 address id := by
  obtain ⟨onward, listed, root, injections⟩ := Grammar.compile_document_reaches enclosed distinct engine
  exact ⟨_, root, listed, injections, fun address id found => onward.linked address id rfl found⟩

section Examples

open Grammar

def including (target : String) (repository : OptionalTable) : RuleDocument :=
  .mk { includeTarget := some target } .absent .absent .absent .absent .absent repository

def matching (pattern : String) (captures : OptionalTable) : RuleDocument :=
  .mk { matchPattern := some pattern } captures .absent .absent .absent .absent .absent

def containing (rules : RuleSequence) (repository : OptionalTable) : RuleDocument :=
  .mk {} .absent .absent .absent .absent (.present rules) repository

theorem container_linked (document : Document) (bench : Workbench) (floor : Nat) (address : Address)
    (rule : RuleDocument) (compiled : Rule) (isContainer : rule.keys.shape = .ok .container)
    (linked : ShapeLinked document bench floor address rule compiled) :
    PatternsLinked document bench address 0 rule.patterns.items compiled.patterns := by
  cases linked with
  | container refs _ patterns => exact patterns
  | refused error shape => cases isContainer.symm.trans shape
  | reference target found shape => cases isContainer.symm.trans shape
  | single pattern captures shape => cases isContainer.symm.trans shape
  | beginEnd opening closing beginCaptures endCaptures refs shape => cases isContainer.symm.trans shape
  | beginWhile opening continuing beginCaptures whileCaptures refs shape => cases isContainer.symm.trans shape

theorem first_include_known (document : Document) (bench : Workbench) (address : Address) (id inner : Nat)
    (target name : String) (rest : RuleSequence) (repository : OptionalTable) (refs : List PatternRef) (site : Site)
    (linked : RuleLinked document bench 0 address id)
    (placed : document.ruleAt? address = some (containing (.cons (including target .absent) rest) repository))
    (there : bench.rules[id]? = some (.container ⟨none, none, .rule inner :: refs⟩))
    (kind : Target.ofText document.scopeName target = .inView name)
    (isSite : Chain.find? name (document.inView (.pattern 0 :: address)) = some site) :
    bench.ids.lookup site.address = some inner := by
  obtain ⟨_, rule, compiled, isRule, isCompiled, shape⟩ := linked
  cases placed.symm.trans isRule
  have patterns := container_linked document bench 0 address _ compiled rfl shape
  cases there.symm.trans isCompiled
  generalize isRefs : PatternRef.rule inner :: refs = all at patterns
  cases patterns with
  | own _ _ _ _ _ unlisted => cases unlisted
  | included _ _ _ other found tail listed denotes =>
      cases listed
      cases denotes with
      | root isRoot => cases kind.symm.trans isRoot
      | base isBase => cases kind.symm.trans isBase
      | external scope rule isExternal => cases kind.symm.trans isExternal
      | entry found known isFound compiled =>
          rw [kind, Document.entry?, isSite] at isFound
          cases isFound
          cases isRefs
          exact compiled
      | unresolved location byName missing reported =>
          rw [kind, Document.entry?, isSite] at missing
          cases missing

-- Repositories that have the name of an entry around them, one of them for a rule that an include in the other leads
-- to.
def shadowingDocument : Document where
  scopeName := "s"
  patterns := .cons (including "#x" .absent) (.cons (including "#a" .absent) .nil)
  repository := .cons "x" (matching "top-x" .absent)
    (.cons "a" (containing (.cons (including "#x" .absent) (.cons (including "#b" .absent) .nil))
      (.present (.cons "x" (matching "a-x" .absent) .nil)))
    (.cons "b" (containing (.cons (including "#x" .absent) .nil)
      (.present (.cons "x" (matching "b-x" .absent) .nil))) .nil))

theorem shadowing_enclosed : shadowingDocument.Enclosed := by
  let handed : List (Address × Address) := [([], [.repository "x"]), ([], [.repository "a"]), ([], [.repository "b"]),
    ([.repository "a"], [.repository "x"]), ([.repository "a"], [.repository "b"]), ([.repository "b"], [.repository "x"]),
    ([], [.repository "x", .repository "a"]), ([.repository "a"], [.repository "x", .repository "a"]),
    ([.repository "b"], [.repository "x", .repository "a"]), ([], [.repository "x", .repository "b"]),
    ([.repository "a"], [.repository "x", .repository "b"]), ([.repository "b"], [.repository "x", .repository "b"])]
  exact enclosed_of_listed shadowingDocument handed (by decide +kernel) (by decide +kernel) (by decide +kernel)

theorem shadowed_include_denotes_inner_entry :
    ∃ ids : List (Address × Nat),
      let grammar := Grammar.compile .backtracking "s" shadowingDocument
      let bench : Workbench := ⟨grammar.rules, ids, grammar.diagnostics.toArray⟩
      RootLinked shadowingDocument bench ∧ Listed shadowingDocument bench grammar.repository ∧
      (∀ address id, ids.lookup address = some id → RuleLinked shadowingDocument bench 0 address id) ∧
      ids.lookup [.repository "x", .repository "a"] = some 3 ∧ ids.lookup [.repository "x", .repository "b"] = some 5 ∧
      grammar.rules[3]? = some (.single ⟨none, "a-x", []⟩) ∧ grammar.rules[5]? = some (.single ⟨none, "b-x", []⟩) := by
  have distinct : shadowingDocument.Distinct := by decide
  obtain ⟨ids, root, listed, _, rules⟩ := compiled_include_denotes_enclosing_entry .backtracking "s" shadowingDocument
    distinct shadowing_enclosed
  have repository : (Grammar.compile .backtracking "s" shadowingDocument).repository = [("x", 1), ("a", 2), ("b", 4)] := by
    decide +kernel
  have first : (Grammar.compile .backtracking "s" shadowingDocument).rules[2]? =
      some (.container ⟨none, none, [.rule 3, .rule 4]⟩) := by decide +kernel
  have second : (Grammar.compile .backtracking "s" shadowingDocument).rules[4]? =
      some (.container ⟨none, none, [.rule 5]⟩) := by decide +kernel
  have inner : (Grammar.compile .backtracking "s" shadowingDocument).rules[3]? = some (.single ⟨none, "a-x", []⟩) ∧
      (Grammar.compile .backtracking "s" shadowingDocument).rules[5]? = some (.single ⟨none, "b-x", []⟩) := by
    decide +kernel
  generalize Grammar.compile .backtracking "s" shadowingDocument = grammar
    at root listed rules repository first second inner ⊢
  obtain ⟨-, a, b⟩ : ids.lookup [.repository "x"] = some 1 ∧ ids.lookup [.repository "a"] = some 2 ∧
      ids.lookup [.repository "b"] = some 4 := by
    rw [repository] at listed
    simpa [Listed, shadowingDocument, RuleTable.toList] using listed
  have inA := first_include_known _ _ [.repository "a"] 2 3 "#x" "x" _ _ _
    ⟨matching "a-x" .absent, [.repository "x", .repository "a"]⟩ (rules _ _ a) rfl first (by decide) rfl
  have inB := first_include_known _ _ [.repository "b"] 4 5 "#x" "x" _ _ _
    ⟨matching "b-x" .absent, [.repository "x", .repository "b"]⟩ (rules _ _ b) rfl second (by decide) rfl
  exact ⟨ids, root, listed, rules, inA, inB, inner⟩

-- A rule that is reached first from inside `a`, whose repository is not around it.
def leakingDocument : Document where
  scopeName := "s"
  patterns := .cons (including "#a" .absent) .nil
  repository := .cons "a" (containing (.cons (including "#y" .absent) .nil)
      (.present (.cons "x" (matching "a-x" .absent) .nil)))
    (.cons "y" (containing (.cons (including "#x" .absent) .nil) .absent)
    (.cons "x" (matching "top-x" .absent) .nil))

theorem leaking_include_denotes_other_entry :
    ¬ ∃ ids : List (Address × Nat),
      let grammar := Grammar.compile .backtracking "s" leakingDocument
      let bench : Workbench := ⟨grammar.rules, ids, grammar.diagnostics.toArray⟩
      Listed leakingDocument bench grammar.repository ∧
      ∀ address id, ids.lookup address = some id → RuleLinked leakingDocument bench 0 address id := by
  have repository : (Grammar.compile .backtracking "s" leakingDocument).repository = [("a", 1), ("y", 2), ("x", 4)] := by
    decide +kernel
  have included : (Grammar.compile .backtracking "s" leakingDocument).rules[2]? =
      some (.container ⟨none, none, [.rule 3]⟩) := by decide +kernel
  generalize Grammar.compile .backtracking "s" leakingDocument = grammar at repository included ⊢
  rintro ⟨ids, listed, rules⟩
  rw [repository] at listed
  obtain ⟨-, inner, outer⟩ : ids.lookup [.repository "a"] = some 1 ∧ ids.lookup [.repository "y"] = some 2 ∧
      ids.lookup [.repository "x"] = some 4 := by
    simpa [Listed, leakingDocument, RuleTable.toList] using listed
  have known := first_include_known leakingDocument _ [.repository "y"] 2 3 "#x" "x" _ _ _
    ⟨matching "top-x" .absent, [.repository "x"]⟩ (rules _ 2 inner) rfl included (by decide) rfl
  cases outer.symm.trans known

end Examples

end LineScope
