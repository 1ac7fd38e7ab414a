import LineScope.Proofs.Line.Interchange
import LineScope.Registry
import Mathlib.Data.List.Nodup

set_option autoImplicit false

namespace LineScope

-- The grammars of a source: a document is filed under its scope name, and a later one takes the place of an earlier
-- one.
def Library.ofSource (engine : Pattern.Engine) (documents : List Grammar.Document) (injectors : List (Scope × Scope)) :
    Library :=
  .ofDocuments engine (documents.foldl addDocument []) injectors

theorem add_document_scopes (filed : List (Scope × Grammar.Document)) (document : Grammar.Document)
    (distinct : (filed.map Prod.fst).Nodup) : ((addDocument filed document).map Prod.fst).Nodup := by
  have kept : ((filed.filter (·.1 ≠ document.scopeName)).map Prod.fst).Nodup :=
    distinct.sublist (List.filter_sublist.map Prod.fst)
  rw [addDocument, List.map_append, List.map_singleton]
  refine List.Nodup.append kept (List.nodup_singleton _) ?_
  intro scope member isNew
  obtain ⟨entry, listed, rfl⟩ := List.mem_map.mp member
  have other := of_decide_eq_true (List.mem_filter.mp listed).2
  exact other (List.mem_singleton.mp isNew)

theorem source_scopes (documents : List Grammar.Document) (filed : List (Scope × Grammar.Document))
    (distinct : (filed.map Prod.fst).Nodup) : ((documents.foldl addDocument filed).map Prod.fst).Nodup := by
  induction documents generalizing filed with
  | nil => exact distinct
  | cons document rest ih => exact ih _ (add_document_scopes filed document distinct)

theorem source_within (engine : Pattern.Engine) (documents : List Grammar.Document) (injectors : List (Scope × Scope)) :
    (Library.ofSource engine documents injectors).Within
      ((Library.ofSource engine documents injectors).grammars.map Prod.snd) where
  distinct := by
    have scopes := source_scopes documents [] List.nodup_nil
    intro first isFirst second isSecond sameKey
    simp only [Library.ofSource, Library.ofDocuments, List.map_map, List.mem_map] at isFirst isSecond
    obtain ⟨firstEntry, firstListed, rfl⟩ := isFirst
    obtain ⟨secondEntry, secondListed, rfl⟩ := isSecond
    have same : firstEntry = secondEntry := List.inj_on_of_nodup_map scopes firstListed secondListed sameKey
    rw [same]
  grammars := fun _ member => List.mem_map_of_mem member

section Injections

variable {known : List Grammar}

theorem sort_by_priority_mem (injections : List Injection) (injection : Injection)
    (member : injection ∈ Injection.sortByPriority injections) : injection ∈ injections := by
  simp only [Injection.sortByPriority, List.mem_append, List.mem_filter] at member
  rcases member with (⟨listed, _⟩ | ⟨listed, _⟩) | ⟨listed, _⟩ <;> exact listed

theorem of_selector_rule (selector : Selector) (rule : RuleRef) (injection : Injection)
    (member : injection ∈ Injection.ofSelector selector rule) : injection.rule = rule := by
  obtain ⟨alternative, _, rfl⟩ := List.mem_map.mp member
  rfl

theorem library_injections_within (library : Library) (within : library.Within known) (grammar : Grammar)
    (isKnown : grammar ∈ known) : ∀ injection ∈ library.injections grammar, injection.rule.grammar ∈ known := by
  intro injection member
  rcases List.mem_append.mp (sort_by_priority_mem _ injection member) with own | other
  · obtain ⟨⟨selector, id⟩, _, inside⟩ := List.mem_flatMap.mp own
    rw [of_selector_rule selector _ injection inside]
    exact isKnown
  · obtain ⟨injector, found, inside⟩ := List.mem_flatMap.mp other
    obtain ⟨scope, _, isFound⟩ := List.mem_filterMap.mp found
    rw [Injection.ofGrammar] at inside
    split at inside
    · cases inside
    · rw [of_selector_rule _ _ injection inside]
      exact Line.find_within library within scope injector isFound

end Injections

def Registry.tokenizerOf (registry : Registry) (grammar : Grammar) : Tokenizer :=
  ⟨registry.engine, registry.library, grammar, registry.library.injections grammar, registry.options.maxLineLength,
    Tokenizer.deepNesting⟩

theorem tokenizer_of_within {known : List Grammar} (registry : Registry) (within : registry.library.Within known)
    (grammar : Grammar) (isKnown : grammar ∈ known) : (registry.tokenizerOf grammar).Within known :=
  ⟨within, isKnown, library_injections_within registry.library within grammar isKnown⟩

-- A registry after some calls, with the tokenizers that have been given out; these go on to share its memory. Lines
-- are tokenized after any stacks of known grammars, not only after those that the same tokenizer has returned.
inductive Registry.History (known : List Grammar) (start : Registry) (given : List Tokenizer) :
    Registry → List Tokenizer → Prop
  | nothing : History known start given start given
  | grammar (registry : Registry) (held : List Tokenizer) (scope : Scope)
      (earlier : History known start given registry held) :
      History known start given (registry.grammar? scope).2 held
  | tokenizer (registry : Registry) (held : List Tokenizer) (scope : Scope)
      (earlier : History known start given registry held) :
      History known start given (registry.tokenizer? scope).2 ((registry.tokenizer? scope).1.toList ++ held)
  | line (registry : Registry) (held : List Tokenizer) (tokenizer : Tokenizer) (inUse : tokenizer ∈ held)
      (line : List Char) (previous : Option RuleStack)
      (inside : (previous.getD tokenizer.initialStack).Within known)
      (earlier : History known start given registry held) :
      History known start given
        { registry with memory := (tokenizer.tokenizeLine registry.memory line previous).memory } held
  | document (registry : Registry) (held : List Tokenizer) (tokenizer : Tokenizer) (inUse : tokenizer ∈ held)
      (text : List Char) (earlier : History known start given registry held) :
      History known start given { registry with memory := (tokenizer.tokenizeDocument registry.memory text).memory } held

section Documents

variable {known : List Grammar} (tokenizer : Tokenizer) (within : tokenizer.Within known)

include within

theorem tokenize_lines_agrees (firstMemory secondMemory : Memory)
    (firstValid : firstMemory.Valid known tokenizer.library) (secondValid : secondMemory.Valid known tokenizer.library)
    (lines : List (List Char)) (first second : Option RuleStack) (sameStart : first.isNone = second.isNone)
    (alike : (first.getD tokenizer.initialStack).Alike True (second.getD tokenizer.initialStack))
    (inside : (first.getD tokenizer.initialStack).Within known) :
    (tokenizer.tokenizeLines firstMemory lines first).lines = (tokenizer.tokenizeLines secondMemory lines second).lines ∧
      (tokenizer.tokenizeLines firstMemory lines first).memory.Valid known tokenizer.library := by
  have paired := tokenize_lines_paired (Line.same_parallel tokenizer within) trivial firstMemory secondMemory
    ⟨firstValid, secondValid⟩ lines first second sameStart ((stack_same_iff _ _).mpr ⟨alike, inside⟩)
  exact ⟨paired.lines, paired.memory.1⟩

theorem tokenize_document_agrees (firstMemory secondMemory : Memory)
    (firstValid : firstMemory.Valid known tokenizer.library) (secondValid : secondMemory.Valid known tokenizer.library)
    (text : List Char) :
    (tokenizer.tokenizeDocument firstMemory text).lines = (tokenizer.tokenizeDocument secondMemory text).lines ∧
      (tokenizer.tokenizeDocument firstMemory text).memory.Valid known tokenizer.library :=
  tokenize_lines_agrees tokenizer within firstMemory secondMemory firstValid secondValid (Text.lines text) none none rfl
    (RuleStack.alike_refl _) (List.forall_mem_singleton.mpr within.grammar)

end Documents

structure Registry.Remembering (known : List Grammar) (start registry : Registry) : Prop where
  engine : registry.engine = start.engine
  library : registry.library = start.library
  options : registry.options = start.options
  valid : registry.memory.Valid known start.library

section Calls

variable {known : List Grammar} (start registry : Registry) (within : start.library.Within known)
  (remembering : Registry.Remembering known start registry)

include remembering

theorem grammar_call (scope : Scope) :
    (registry.grammar? scope).1 = start.library.find? scope ∧
      Registry.Remembering known start (registry.grammar? scope).2 := by
  obtain ⟨engine, library, options, valid⟩ := remembering
  rw [Registry.grammar?, library]
  exact ⟨Memory.grammar_valid valid scope, engine, rfl, options, Memory.remember_grammar_valid valid scope⟩

include within

theorem tokenizer_call (scope : Scope) :
    (registry.tokenizer? scope).1 = (start.library.find? scope).map start.tokenizerOf ∧
      Registry.Remembering known start (registry.tokenizer? scope).2 := by
  obtain ⟨engine, library, options, valid⟩ := remembering
  have asked := Memory.remember_grammar_valid valid scope
  rw [Registry.tokenizer?, Registry.grammar?, library, Memory.grammar_valid valid scope]
  cases found : start.library.find? scope with
  | none => exact ⟨rfl, engine, rfl, options, asked⟩
  | some grammar =>
      have isKnown := Line.find_within start.library within scope grammar found
      refine ⟨?_, engine, rfl, options, Memory.remember_injections_valid within asked grammar isKnown⟩
      dsimp only
      rw [Tokenizer.make, Memory.injections_into_valid asked grammar isKnown, engine, options]
      rfl

theorem document_call (scope : Scope) (text : List Char) :
    (registry.tokenizeDocument scope text).1.map DocumentResult.lines =
      (start.library.find? scope).map fun grammar => ((start.tokenizerOf grammar).tokenizeDocument {} text).lines := by
  obtain ⟨answer, _, _, _, valid⟩ := tokenizer_call start registry within remembering scope
  rw [Registry.tokenizeDocument]
  cases found : start.library.find? scope with
  | none =>
      rw [found] at answer
      split
      · rfl
      · rename_i tokenizer _ split
        rw [split] at answer
        cases answer
  | some grammar =>
      rw [found] at answer
      split
      · rename_i split
        rw [split] at answer
        cases answer
      · rename_i tokenizer next split
        rw [split] at answer valid
        cases answer
        have isKnown := Line.find_within start.library within scope grammar found
        exact congrArg some (tokenize_document_agrees _ (tokenizer_of_within start within grammar isKnown) next.memory {}
          valid Memory.empty_valid text).1

end Calls

theorem history_remembering {known : List Grammar} (start first current : Registry) (given held : List Tokenizer)
    (within : start.library.Within known) (remembering : Registry.Remembering known start first)
    (tokenizers : ∀ tokenizer ∈ given, ∃ grammar ∈ known, tokenizer = start.tokenizerOf grammar)
    (history : Registry.History known first given current held) :
    Registry.Remembering known start current ∧
      ∀ tokenizer ∈ held, ∃ grammar ∈ known, tokenizer = start.tokenizerOf grammar := by
  induction history with
  | nothing => exact ⟨remembering, tokenizers⟩
  | grammar registry held scope earlier ih => exact ⟨(grammar_call start registry ih.1 scope).2, ih.2⟩
  | tokenizer registry held scope earlier ih =>
      obtain ⟨answer, remembers⟩ := tokenizer_call start registry within ih.1 scope
      refine ⟨remembers, fun tokenizer member => ?_⟩
      rcases List.mem_append.mp member with new | old
      · rw [answer, Option.mem_toList] at new
        obtain ⟨grammar, found, rfl⟩ := Option.map_eq_some_iff.mp new
        exact ⟨grammar, Line.find_within start.library within scope grammar found, rfl⟩
      · exact ih.2 tokenizer old
  | line registry held tokenizer inUse line previous inside earlier ih =>
      obtain ⟨⟨engine, library, options, valid⟩, inHand⟩ := ih
      obtain ⟨grammar, isKnown, rfl⟩ := inHand tokenizer inUse
      have agrees : LineResult.Agrees True known start.library _ _ :=
        tokenize_line_agrees (start.tokenizerOf grammar) (tokenizer_of_within start within grammar isKnown)
          registry.memory registry.memory valid valid line previous previous rfl (RuleStack.alike_refl _) inside rfl
      exact ⟨⟨engine, library, options, agrees.firstValid⟩, inHand⟩
  | document registry held tokenizer inUse text earlier ih =>
      obtain ⟨⟨engine, library, options, valid⟩, inHand⟩ := ih
      obtain ⟨grammar, isKnown, rfl⟩ := inHand tokenizer inUse
      have agrees := tokenize_document_agrees (start.tokenizerOf grammar)
        (tokenizer_of_within start within grammar isKnown) registry.memory registry.memory valid valid text
      exact ⟨⟨engine, library, options, agrees.2⟩, inHand⟩

def Registry.fresh (engine : Pattern.Engine) (documents : List Grammar.Document) (injectors : List (Scope × Scope))
    (options : RegistryOptions) : Registry :=
  ⟨engine, .ofSource engine documents injectors, options, {}⟩

/-- After any calls, a document has the tokens that a new registry gives it, and the answer for a scope never changes.
-/
theorem registry_history_independent (known : List Grammar) (engine : Pattern.Engine)
    (documents : List Grammar.Document) (injectors : List (Scope × Scope)) (options : RegistryOptions)
    (within : (Library.ofSource engine documents injectors).Within known) (current : Registry) (held : List Tokenizer)
    (history : Registry.History known (.fresh engine documents injectors options) [] current held) :
    (∀ scope text, (current.tokenizeDocument scope text).1.map DocumentResult.lines =
      ((Registry.fresh engine documents injectors options).tokenizeDocument scope text).1.map DocumentResult.lines) ∧
    ∀ later laterHeld, Registry.History known current held later laterHeld → ∀ scope,
      (later.grammar? scope).1 = (current.grammar? scope).1 := by
  let start := Registry.fresh engine documents injectors options
  have begins : Registry.Remembering known start start := ⟨rfl, rfl, rfl, Memory.empty_valid⟩
  obtain ⟨now, inHand⟩ := history_remembering start start current [] held within begins (List.forall_mem_nil _) history
  constructor
  · intro scope text
    rw [document_call start current within now scope text, document_call start start within begins scope text]
  · intro later laterHeld more scope
    have afterwards := (history_remembering start current later held laterHeld within now inHand more).1
    rw [(grammar_call start later afterwards scope).1, (grammar_call start current now scope).1]

section Example

def includingDocument : Grammar.Document where
  scopeName := "s"
  patterns := .cons (.mk { includeTarget := some "t" } .absent .absent .absent .absent .absent .absent) .nil

def includedDocument : Grammar.Document where
  scopeName := "t"
  patterns := .cons (.mk { matchPattern := some "a" } .absent .absent .absent .absent .absent .absent) .nil

def includingRegistry : Registry := .fresh .backtracking [includingDocument, includedDocument] [("s", "t")] {}

def includingTokenizer : Tokenizer :=
  includingRegistry.tokenizerOf (Grammar.compile .backtracking "s" includingDocument)

/-- Two lines are tokenized, which follows the include and remembers the patterns, and a scope without a grammar is
asked for. -/
theorem including_registry_independent :
    let asked := includingRegistry.tokenizer? "s"
    let first := includingTokenizer.tokenizeLine asked.2.memory ['a'] none
    let second := includingTokenizer.tokenizeLine first.memory ['b', 'a'] (some first.stack)
    let current := ({ asked.2 with memory := second.memory } : Registry).grammar? "u"
    asked.1 = some includingTokenizer ∧ second.memory.includes.length = 1 ∧ second.memory.patternSets.length = 1 ∧
      (current.2.tokenizeDocument "s" ['a', '\n', 'a']).1.map DocumentResult.lines =
        (includingRegistry.tokenizeDocument "s" ['a', '\n', 'a']).1.map DocumentResult.lines := by
  intro asked first second current
  have isAsked : includingRegistry.tokenizer? "s" = asked := rfl
  have isFirst : includingTokenizer.tokenizeLine asked.2.memory ['a'] none = first := rfl
  have isSecond : includingTokenizer.tokenizeLine first.memory ['b', 'a'] (some first.stack) = second := rfl
  have remembered : second.memory.includes.length = 1 ∧ second.memory.patternSets.length = 1 := by decide +kernel
  clear_value second first asked
  let known := includingRegistry.library.grammars.map Prod.snd
  have within : includingRegistry.library.Within known := source_within _ _ _
  have found : includingRegistry.library.find? "s" = some (Grammar.compile .backtracking "s" includingDocument) := rfl
  have isKnown := Line.find_within _ within "s" _ found
  have tokenizerWithin : includingTokenizer.Within known := tokenizer_of_within includingRegistry within _ isKnown
  have root : includingTokenizer.initialStack.Within known := List.forall_mem_singleton.mpr isKnown
  obtain ⟨answer, remembering⟩ := tokenizer_call includingRegistry includingRegistry within
    ⟨rfl, rfl, rfl, Memory.empty_valid⟩ "s"
  rw [isAsked, found] at answer
  rw [isAsked] at remembering
  have given : asked.1 = some includingTokenizer := answer
  have after : first.Agrees True known includingTokenizer.library first :=
    isFirst ▸ tokenize_line_agrees includingTokenizer tokenizerWithin asked.2.memory asked.2.memory remembering.valid
      remembering.valid ['a'] none none rfl (RuleStack.alike_refl _) root rfl
  have held : includingTokenizer ∈ asked.1.toList ++ [] := by simp [given]
  have asks : Registry.History known includingRegistry [] asked.2 (asked.1.toList ++ []) :=
    isAsked ▸ .tokenizer _ _ "s" .nothing
  have one := asks.line _ _ includingTokenizer held ['a'] none root
  rw [isFirst] at one
  have two := one.line _ _ includingTokenizer held ['b', 'a'] (some first.stack) after.inside
  rw [isSecond] at two
  have independent := registry_history_independent known .backtracking [includingDocument, includedDocument] [("s", "t")] {}
    within _ _ (two.grammar _ _ "u")
  exact ⟨given, remembered.1, remembered.2, independent.1 "s" ['a', '\n', 'a']⟩

end Example

end LineScope
