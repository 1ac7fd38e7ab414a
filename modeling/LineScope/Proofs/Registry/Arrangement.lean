import LineScope.Proofs.Lookup
import LineScope.Proofs.Registry.History

set_option autoImplicit false

namespace LineScope

structure Library.Alike (first second : Library) : Prop where
  find : first.find? = second.find?
  injectors : first.injectors = second.injectors
  ruleCount : first.ruleCount = second.ruleCount

section Answers

variable {first second : Library} (alike : first.Alike second)

include alike

theorem alike_grammar : Memory.grammar? first = Memory.grammar? second := by
  funext memory scope
  rw [Memory.grammar?, Memory.grammar?, alike.find]

theorem alike_remember_grammar : Memory.rememberGrammar first = Memory.rememberGrammar second := by
  funext memory scope
  rw [Memory.rememberGrammar, Memory.rememberGrammar, alike.find]

theorem alike_resolve : Memory.resolve first = Memory.resolve second := by
  funext memory scope rule
  rw [Memory.resolve, Memory.resolve, alike_grammar alike]

theorem alike_remember_include : Memory.rememberInclude first = Memory.rememberInclude second := by
  funext memory included
  rw [Memory.rememberInclude, Memory.rememberInclude, alike_remember_grammar alike, alike_resolve alike]

theorem alike_injectors (scope : Scope) : first.injectorsOf scope = second.injectorsOf scope := by
  rw [Library.injectorsOf, Library.injectorsOf, alike.injectors]

theorem alike_injections : Memory.injectionsInto first = Memory.injectionsInto second := by
  funext memory grammar
  rw [Memory.injectionsInto, Memory.injectionsInto, alike_injectors alike, alike_grammar alike]

theorem alike_remember_injections : Memory.rememberInjections first = Memory.rememberInjections second := by
  funext memory grammar
  rw [Memory.rememberInjections, Memory.rememberInjections, alike_injectors alike, alike_remember_grammar alike,
    alike_injections alike]

theorem alike_pattern_set : Memory.patternSet first = Memory.patternSet second := by
  funext memory base mode target
  rw [Memory.patternSet, Memory.patternSet, alike_resolve alike, alike.ruleCount]

theorem alike_remember_set : Memory.rememberSet first = Memory.rememberSet second := by
  funext memory base mode target
  rw [Memory.rememberSet, Memory.rememberSet, alike_resolve alike, alike.ruleCount, alike_remember_include alike]

end Answers

section Adding

theorem total_rules_perm {grammars others : List Grammar} (perm : grammars.Perm others) :
    Grammar.totalRules grammars = Grammar.totalRules others := by
  induction perm with
  | nil => rfl
  | cons grammar _ ih => rw [Grammar.totalRules, Grammar.totalRules, ih]
  | swap grammar other _ =>
      simp only [Grammar.totalRules]
      omega
  | trans _ _ first second => rw [first, second]

theorem perm_alike {grammars others : List (Scope × Grammar)} (perm : grammars.Perm others)
    (distinct : (grammars.map Prod.fst).Nodup) (injectors : List (Scope × Scope)) :
    Library.Alike ⟨grammars, injectors⟩ ⟨others, injectors⟩ :=
  ⟨funext (lookup_perm perm distinct), rfl, total_rules_perm (perm.map Prod.snd)⟩

theorem filed_distinct (documents : List Grammar.Document)
    (distinct : (documents.map fun document => document.scopeName).Nodup) :
    documents.foldl addDocument [] = documents.map fun document => (document.scopeName, document) := by
  have each : ∀ filed : List (Scope × Grammar.Document),
      (∀ document ∈ documents, document.scopeName ∉ filed.map Prod.fst) →
      documents.foldl addDocument filed = filed ++ documents.map fun document => (document.scopeName, document) := by
    induction documents with
    | nil => simp
    | cons document rest ih =>
        intro filed apart
        obtain ⟨new, others⟩ := List.nodup_cons.mp distinct
        obtain ⟨here, later⟩ := List.forall_mem_cons.mp apart
        have kept : filed.filter (fun entry => entry.1 ≠ document.scopeName) = filed :=
          List.filter_eq_self.mpr fun entry member => decide_eq_true fun same =>
            here (same ▸ List.mem_map_of_mem member)
        rw [List.foldl_cons, addDocument, kept, ih others, List.append_assoc]
        · rfl
        · intro other member
          rw [List.map_append, List.mem_append, not_or]
          exact ⟨later other member, fun same => new (List.mem_map.mpr ⟨other, member, List.mem_singleton.mp same⟩)⟩
  exact each [] fun _ _ => List.not_mem_nil

theorem documents_alike (engine : Pattern.Engine) (injectors : List (Scope × Scope))
    {documents others : List Grammar.Document} (perm : documents.Perm others)
    (distinct : (documents.map fun document => document.scopeName).Nodup) :
    (Library.ofSource engine documents injectors).Alike (.ofSource engine others injectors) := by
  have otherDistinct := (perm.map fun document => document.scopeName).nodup_iff.mp distinct
  simp only [Library.ofSource, Library.ofDocuments, filed_distinct documents distinct,
    filed_distinct others otherDistinct, List.map_map]
  exact perm_alike (perm.map _) (by rwa [List.map_map]) injectors

end Adding

def Tokenizer.over (tokenizer : Tokenizer) (library : Library) : Tokenizer := { tokenizer with library }

theorem tokenizer_over (registry : Registry) (library : Library) (alike : registry.library.Alike library)
    (scope : Scope) :
    ({ registry with library } : Registry).tokenizer? scope =
      ((registry.tokenizer? scope).1.map fun tokenizer => tokenizer.over library,
        { (registry.tokenizer? scope).2 with library }) := by
  rw [Registry.tokenizer?, Registry.tokenizer?, Registry.grammar?, Registry.grammar?]
  dsimp only
  rw [← alike_grammar alike, ← alike_remember_grammar alike]
  cases registry.memory.grammar? registry.library scope with
  | none => rfl
  | some grammar =>
      dsimp only
      rw [← alike_remember_injections alike, Tokenizer.make, ← alike_injections alike]
      rfl

theorem tokenizer_library (registry : Registry) (scope : Scope) (tokenizer : Tokenizer)
    (given : (registry.tokenizer? scope).1 = some tokenizer) : tokenizer.library = registry.library := by
  rw [Registry.tokenizer?, Registry.grammar?] at given
  cases found : registry.memory.grammar? registry.library scope <;> rw [found] at given <;> cases given
  rfl

namespace Line

section Scans

variable (tokenizer : Tokenizer) (library : Library)

theorem find_injected_from_over (sets : PatternSets) (search : Search) (scopes : ScopeList)
    (best : Option (Candidate × Selector.Priority)) (injections : List Injection) :
    findInjectedFrom (tokenizer.over library) sets search scopes best injections =
      findInjectedFrom tokenizer sets search scopes best injections := by
  induction injections generalizing best with
  | nil => rfl
  | cons injection rest ih =>
      rw [findInjectedFrom, findInjectedFrom]
      simp only [ih]
      rfl

theorem tried_injections_over (sets : PatternSets) (search : Search) (scopes : ScopeList) (injections : List Injection) :
    triedInjections (tokenizer.over library) sets search scopes injections =
      triedInjections tokenizer sets search scopes injections := by
  induction injections with
  | nil => rfl
  | cons injection rest ih =>
      rw [triedInjections, triedInjections, ih]
      rfl

-- The library has a part in the patterns that are searched, and in nothing else that decides who wins.
theorem find_candidate_over (sets : PatternSets) (search : Search) (stack : RuleStack) :
    findCandidate (tokenizer.over library) sets search stack = findCandidate tokenizer sets search stack := by
  rw [findCandidate, findCandidate, findInjected, findInjected, find_injected_from_over]
  rfl

theorem asked_over (sets : PatternSets) (search : Search) (stack : RuleStack) :
    asked (tokenizer.over library) sets search stack = asked tokenizer sets search stack := by
  rw [asked, asked, tried_injections_over]
  rfl

theorem test_while_over (retokenize : Retokenizer) (text : List Char) (frames : List RuleStack) (progress : Progress) :
    testWhile (tokenizer.over library) retokenize text frames progress =
      testWhile tokenizer retokenize text frames progress := by
  induction frames generalizing progress with
  | nil => rfl
  | cons frame inner ih =>
      rw [testWhile, testWhile]
      simp only [ih]
      rfl

variable (alike : tokenizer.library.Alike library)

include alike

theorem memory_after_over (search : Search) (stack : RuleStack) (memory : Memory) :
    memoryAfter (tokenizer.over library) search stack memory = memoryAfter tokenizer search stack memory := by
  rw [memoryAfter, memoryAfter, asked_over, alike_pattern_set alike, alike_remember_set alike]
  rfl

theorem scan_step_over (retokenize : Retokenizer) (text : List Char) (progress : Progress) :
    scanStep (tokenizer.over library) retokenize text progress = scanStep tokenizer retokenize text progress := by
  rw [scanStep, scanStep, find_candidate_over, memory_after_over tokenizer library alike, alike_pattern_set alike]
  rfl

theorem scan_steps_over (retokenize : Retokenizer) (text : List Char) (rounds : Nat) (progress : Progress) :
    scanSteps (tokenizer.over library) retokenize text rounds progress =
      scanSteps tokenizer retokenize text rounds progress := by
  induction rounds generalizing progress with
  | zero => rfl
  | succ rounds ih =>
      rw [scanSteps, scanSteps, scan_step_over tokenizer library alike]
      simp only [ih]

theorem scan_over (nesting : Nat) (text : List Char) (progress : Progress) :
    scan (tokenizer.over library) nesting text progress = scan tokenizer nesting text progress := by
  induction nesting generalizing text progress with
  | zero => rfl
  | succ nesting ih =>
      have budget : stepBudget (tokenizer.over library) text progress.stack = stepBudget tokenizer text progress.stack := by
        rw [stepBudget, stepBudget, ruleTotal, ruleTotal, alike.ruleCount]
        rfl
      rw [scan, scan, scan_steps_over tokenizer library alike, budget]
      simp only [ih]

theorem retokenizer_over (nesting : Nat) : retokenizer (tokenizer.over library) nesting = retokenizer tokenizer nesting := by
  funext text pos firstLine stack output
  rw [retokenizer, retokenizer, scan_over tokenizer library alike]

end Scans

end Line

section Tokenizing

variable (tokenizer : Tokenizer) (library : Library) (alike : tokenizer.library.Alike library)

include alike

theorem tokenize_line_over (memory : Memory) (line : List Char) (previous : Option RuleStack) :
    (tokenizer.over library).tokenizeLine memory line previous = tokenizer.tokenizeLine memory line previous := by
  have start : (tokenizer.over library).initialStack = tokenizer.initialStack := rfl
  rw [Tokenizer.tokenizeLine, Tokenizer.tokenizeLine, Tokenizer.tokenizeText, Tokenizer.tokenizeText, Line.checkWhile,
    Line.checkWhile, Line.test_while_over, Line.scan_over tokenizer library alike, Line.retokenizer_over tokenizer library alike,
    start]
  rfl

theorem tokenize_lines_over (memory : Memory) (lines : List (List Char)) (previous : Option RuleStack) :
    (tokenizer.over library).tokenizeLines memory lines previous = tokenizer.tokenizeLines memory lines previous := by
  induction lines generalizing memory previous with
  | nil => rfl
  | cons line rest ih =>
      rw [Tokenizer.tokenizeLines, Tokenizer.tokenizeLines, tokenize_line_over tokenizer library alike]
      simp only [ih]

theorem tokenize_encoded_over (memory : Memory) (line : List Char) (previous : Option RuleStack) (styling : Styling) :
    (tokenizer.over library).tokenizeEncoded memory line previous styling =
      tokenizer.tokenizeEncoded memory line previous styling := by
  rw [Tokenizer.tokenizeEncoded, Tokenizer.tokenizeEncoded, tokenize_line_over tokenizer library alike]
  rfl

end Tokenizing

end LineScope
