import LineScope.Proofs.Line.Move
import LineScope.Proofs.Lookup

set_option autoImplicit false

namespace LineScope

theorem answer_eq {κ α : Type} [BEq κ] [LawfulBEq κ] (memo : Memo κ α) (key : κ) (fresh : Unit → α) (value : α)
    (kept : ∀ found, (key, found) ∈ memo → found = value) (new : fresh () = value) :
    memo.answer key fresh = value := by
  rw [Memo.answer]
  split
  · rename_i found remembered
    exact kept found (mem_of_lookup memo key found remembered)
  · exact new

structure Library.Within (known : List Grammar) (library : Library) : Prop where
  distinct : ∀ first ∈ known, ∀ second ∈ known, first.key = second.key → first = second
  grammars : ∀ entry ∈ library.grammars, entry.2 ∈ known

namespace Memory

structure Valid (known : List Grammar) (library : Library) (memory : Memory) : Prop where
  grammars : ∀ scope found, (scope, found) ∈ memory.grammars → found = library.find? scope
  includes : ∀ scope rule found, ((scope, rule), found) ∈ memory.includes → found = library.resolve scope rule
  injections : ∀ grammar ∈ known, ∀ found, (grammar.key, found) ∈ memory.injections →
    found = library.injections grammar
  patternSets : ∀ base ∈ known, ∀ mode target, target.grammar ∈ known → ∀ found,
    (setKey base mode target, found) ∈ memory.patternSets → found = Line.patternSet library base mode target

variable {known : List Grammar} {library : Library} {memory : Memory}

theorem empty_valid : Valid known library {} where
  grammars _ _ member := nomatch member
  includes _ _ _ member := nomatch member
  injections _ _ _ member := nomatch member
  patternSets _ _ _ _ _ _ member := nomatch member

section Answers

variable (valid : memory.Valid known library)

include valid

theorem grammar_valid (scope : Scope) : memory.grammar? library scope = library.find? scope :=
  answer_eq _ _ _ _ (valid.grammars scope) rfl

theorem resolve_valid : memory.resolve library = library.resolve := by
  funext scope rule
  refine answer_eq _ _ _ _ (valid.includes scope rule) ?_
  rw [grammar_valid valid]
  rfl

theorem injections_into_valid (grammar : Grammar) (isKnown : grammar ∈ known) :
    memory.injectionsInto library grammar = library.injections grammar := by
  refine answer_eq _ _ _ _ (valid.injections grammar isKnown) ?_
  rw [funext (grammar_valid valid)]
  rfl

theorem pattern_set_valid (base : Grammar) (mode : Line.Mode) (target : RuleRef) (isBase : base ∈ known)
    (isTarget : target.grammar ∈ known) :
    memory.patternSet library base mode target = Line.patternSet library base mode target := by
  refine answer_eq _ _ _ _ (valid.patternSets base isBase mode target isTarget) ?_
  rw [resolve_valid valid]
  rfl

theorem remember_grammar_valid (scope : Scope) : (memory.rememberGrammar library scope).Valid known library := by
  rw [rememberGrammar]
  split
  · exact valid
  · refine ⟨?_, valid.includes, valid.injections, valid.patternSets⟩
    intro other found member
    rcases List.mem_cons.mp member with new | old
    · cases new
      rfl
    · exact valid.grammars other found old

theorem remember_include_valid (included : Scope × Option String) :
    (memory.rememberInclude library included).Valid known library := by
  rw [rememberInclude]
  split
  · exact valid
  · have asked := remember_grammar_valid valid included.1
    refine ⟨asked.grammars, ?_, asked.injections, asked.patternSets⟩
    intro scope rule found member
    rcases List.mem_cons.mp member with new | old
    · cases new
      rw [resolve_valid valid]
    · exact valid.includes scope rule found old

end Answers

theorem fold_valid {α : Type} (remember : Memory → α → Memory) (items : List α) (memory : Memory)
    (each : ∀ memory : Memory, ∀ item ∈ items, memory.Valid known library → (remember memory item).Valid known library)
    (valid : memory.Valid known library) : (items.foldl remember memory).Valid known library := by
  induction items generalizing memory with
  | nil => exact valid
  | cons item rest ih =>
      refine ih _ (fun memory other member => each memory other (List.mem_cons_of_mem _ member)) ?_
      exact each memory item (by simp) valid

theorem remember_injections_valid (within : library.Within known) (valid : memory.Valid known library)
    (grammar : Grammar) (isKnown : grammar ∈ known) :
    (memory.rememberInjections library grammar).Valid known library := by
  rw [rememberInjections]
  split
  · exact valid
  · have asked : ((library.injectorsOf grammar.scopeName).foldl (rememberGrammar library) memory).Valid known library :=
      fold_valid _ _ memory (fun memory scope _ valid => remember_grammar_valid valid scope) valid
    refine ⟨asked.grammars, asked.includes, ?_, asked.patternSets⟩
    intro other isOther found member
    rcases List.mem_cons.mp member with new | old
    · obtain ⟨sameKey, rfl⟩ := Prod.mk.inj new
      cases within.distinct other isOther grammar isKnown sameKey
      exact injections_into_valid valid grammar isKnown
    · exact valid.injections other isOther found old

theorem set_key_inj (within : library.Within known) (base other : Grammar) (mode otherMode : Line.Mode)
    (target otherTarget : RuleRef) (isBase : base ∈ known) (isOther : other ∈ known)
    (isTarget : target.grammar ∈ known) (isOtherTarget : otherTarget.grammar ∈ known)
    (same : setKey base mode target = setKey other otherMode otherTarget) :
    base = other ∧ mode = otherMode ∧ target = otherTarget := by
  obtain ⟨sameBase, sameMode, sameTarget⟩ := Line.SetKey.mk.inj same
  obtain ⟨sameGrammar, sameId⟩ := Prod.mk.inj sameTarget
  obtain ⟨grammar, id⟩ := target
  obtain ⟨otherGrammar, otherId⟩ := otherTarget
  have grammars : grammar = otherGrammar := within.distinct _ isTarget _ isOtherTarget sameGrammar
  subst grammars
  exact ⟨within.distinct base isBase other isOther sameBase, sameMode, congrArg (RuleRef.mk grammar) sameId⟩

theorem remember_set_valid (within : library.Within known) (valid : memory.Valid known library) (base : Grammar)
    (mode : Line.Mode) (target : RuleRef) (isBase : base ∈ known) (isTarget : target.grammar ∈ known) :
    (memory.rememberSet library base mode target).Valid known library := by
  rw [rememberSet]
  split
  · exact valid
  · have asked := fold_valid (rememberInclude library)
      (Line.collect (memory.resolve library) library.ruleCount base mode target).followed.reverse memory
      (fun memory included _ valid => remember_include_valid valid included) valid
    refine ⟨asked.grammars, asked.includes, asked.injections, ?_⟩
    intro other isOther otherMode otherTarget isOtherTarget found member
    rcases List.mem_cons.mp member with new | old
    · obtain ⟨sameKey, rfl⟩ := Prod.mk.inj new
      obtain ⟨rfl, rfl, rfl⟩ := set_key_inj within other base otherMode mode otherTarget target isOther isBase
        isOtherTarget isTarget sameKey
      rw [resolve_valid valid]
      rfl
    · exact valid.patternSets other isOther otherMode otherTarget isOtherTarget found old

end Memory

structure Tokenizer.Within (known : List Grammar) (tokenizer : Tokenizer) : Prop where
  library : tokenizer.library.Within known
  grammar : tokenizer.grammar ∈ known
  injections : ∀ injection ∈ tokenizer.injections, injection.rule.grammar ∈ known

theorem of_rules_within (scopeName : String) (rules : Array Grammar.Rule) :
    (Tokenizer.ofRules scopeName rules).Within [.ofRules scopeName rules] where
  library :=
    { distinct := by
        intro first isFirst second isSecond _
        rw [List.mem_singleton.mp isFirst, List.mem_singleton.mp isSecond]
      grammars := fun _ member => nomatch member }
  grammar := List.mem_singleton.mpr rfl
  injections := fun _ member => nomatch member

def RuleStack.Within (known : List Grammar) (stack : RuleStack) : Prop :=
  ∀ frame ∈ stack.frames, frame.rule.grammar ∈ known

namespace Line

variable {known : List Grammar}

theorem included_grammar (grammar : Grammar) (rule : Option String) (found : RuleRef)
    (result : grammar.included? rule = some found) : found.grammar = grammar := by
  cases rule with
  | none =>
      cases result
      rfl
  | some name =>
      obtain ⟨id, _, rfl⟩ := Option.map_eq_some_iff.mp result
      rfl

theorem find_within (library : Library) (within : library.Within known) (scope : Scope) (grammar : Grammar)
    (found : library.find? scope = some grammar) : grammar ∈ known :=
  within.grammars _ (mem_of_lookup library.grammars scope grammar found)

theorem resolve_within (library : Library) (within : library.Within known) (scope : Scope) (rule : Option String)
    (found : RuleRef) (result : library.resolve scope rule = some found) : found.grammar ∈ known := by
  obtain ⟨grammar, isFound, isIncluded⟩ := Option.bind_eq_some_iff.mp result
  rw [included_grammar grammar rule found isIncluded]
  exact find_within library within scope grammar isFound

section Collecting

variable (library : Library) (within : library.Within known) (base : Grammar) (isBase : base ∈ known)

def Collection.Within (known : List Grammar) (collection : Collection) : Prop :=
  ∀ entry ∈ collection.entries, entry.rule.grammar ∈ known

include within isBase

theorem child_within (owner child : RuleRef) (isOwner : owner.grammar ∈ known) (pattern : Grammar.PatternRef)
    (result : childOf library.resolve base owner pattern = some child) : child.grammar ∈ known := by
  cases pattern with
  | rule id =>
      cases result
      exact isOwner
  | base =>
      cases result
      exact isBase
  | external scope rule => exact resolve_within library within scope rule child result

theorem collect_children_within (owner : RuleRef) (isOwner : owner.grammar ∈ known)
    (add : RuleRef → Collection → Collection)
    (adds : ∀ child collection, child.grammar ∈ known → collection.Within known → (add child collection).Within known)
    (patterns : List Grammar.PatternRef) (collection : Collection) (before : collection.Within known) :
    (collectChildren library.resolve base owner add patterns collection).Within known := by
  induction patterns generalizing collection with
  | nil => exact before
  | cons pattern rest ih =>
      rw [collectChildren]
      split
      · rename_i child result
        refine ih _ (adds child _ ?_ before)
        exact child_within library within base isBase owner child isOwner pattern result
      · exact ih _ before

theorem collect_rule_within (fuel : Nat) (target : RuleRef) (isTarget : target.grammar ∈ known)
    (collection : Collection) (before : collection.Within known) :
    (collectRule library.resolve base fuel target collection).Within known := by
  induction fuel generalizing target collection with
  | zero => exact before
  | succ fuel ih =>
      rw [collectRule]
      split
      · rename_i pattern _
        exact List.forall_mem_cons.mpr ⟨isTarget, before⟩
      · split
        · exact before
        · refine collect_children_within library within base isBase target isTarget _ ?_ _ _ before
          exact fun child collection isChild before => ih child isChild collection before

theorem pattern_set_within (mode : Mode) (target : RuleRef) (isTarget : target.grammar ∈ known) :
    ∀ entry ∈ patternSet library base mode target, entry.rule.grammar ∈ known := by
  have nothing : Collection.Within known { expanded := [target.identity] } := fun _ member => nomatch member
  have nothingYet : Collection.Within known {} := fun _ member => nomatch member
  have collected : (collect library.resolve library.ruleCount base mode target).Within known := by
    cases mode with
    | children =>
        refine collect_children_within library within base isBase target isTarget _ ?_ _ _ nothing
        exact fun child collection isChild before =>
          collect_rule_within library within base isBase _ child isChild collection before
    | included => exact collect_rule_within library within base isBase _ target isTarget _ nothingYet
  exact fun entry member => collected entry (List.mem_reverse.mp member)

end Collecting

section Steps

variable (tokenizer : Tokenizer) (within : tokenizer.Within known) (text : List Char)

theorem tried_injections_sublist (sets : PatternSets) (search : Search) (scopes : ScopeList)
    (injections : List Injection) :
    ∀ injection ∈ triedInjections tokenizer sets search scopes injections, injection ∈ injections := by
  induction injections with
  | nil => exact fun _ member => member
  | cons first rest ih =>
      intro injection member
      rw [triedInjections] at member
      split at member
      · dsimp only at member
        split at member
        · exact List.mem_singleton.mp member ▸ List.mem_cons_self
        · rcases List.mem_cons.mp member with rfl | later
          · exact List.mem_cons_self
          · exact List.mem_cons_of_mem _ (ih injection later)
      · exact List.mem_cons_of_mem _ (ih injection member)

include within

theorem asked_within (sets : PatternSets) (search : Search) (stack : RuleStack) (inside : stack.Within known) :
    ∀ question ∈ asked tokenizer sets search stack, question.2.grammar ∈ known := by
  intro question member
  rcases List.mem_append.mp member with child | injected
  · split at child
    · cases child
    · cases List.mem_singleton.mp child
      exact inside stack.top (by simp [RuleStack.frames])
  · obtain ⟨injection, tried, rfl⟩ := List.mem_map.mp injected
    exact within.injections injection (tried_injections_sublist tokenizer sets search _ _ injection tried)

theorem memory_after_valid (search : Search) (stack : RuleStack) (memory : Memory) (inside : stack.Within known)
    (valid : memory.Valid known tokenizer.library) :
    (memoryAfter tokenizer search stack memory).Valid known tokenizer.library := by
  refine Memory.fold_valid _ _ memory ?_ valid
  intro memory question member valid
  exact Memory.remember_set_valid within.library valid tokenizer.grammar question.1 question.2 within.grammar
    (asked_within tokenizer within _ search stack inside question member)

theorem memory_sets_within (memory : Memory) (valid : memory.Valid known tokenizer.library) (mode : Mode)
    (target : RuleRef) (isTarget : target.grammar ∈ known) :
    ∀ entry ∈ memory.patternSet tokenizer.library tokenizer.grammar mode target, entry.rule.grammar ∈ known := by
  rw [Memory.pattern_set_valid valid tokenizer.grammar mode target within.grammar isTarget]
  exact pattern_set_within tokenizer.library within.library tokenizer.grammar within.grammar mode target isTarget

theorem contender_within (sets : PatternSets) (stack : RuleStack) (inside : stack.Within known)
    (setsWithin : ∀ mode (target : RuleRef), target.grammar ∈ known → ∀ entry ∈ sets mode target,
      entry.rule.grammar ∈ known)
    (contender : Contender) (member : contender ∈ contenders tokenizer sets stack) (rule : RuleRef)
    (winner : contender.winner = .rule rule) : rule.grammar ∈ known := by
  cases contender_source tokenizer sets stack contender member with
  | ending _ _ => cases winner
  | child entry listed =>
      cases winner
      exact setsWithin .children stack.top.rule (inside stack.top (by simp [RuleStack.frames])) entry listed
  | injected injection applies entry listed =>
      cases winner
      exact setsWithin .included injection.rule (within.injections injection applies) entry listed

theorem winner_within (progress : Progress) (inside : progress.stack.Within known)
    (valid : progress.output.memory.Valid known tokenizer.library) (candidate : Candidate) (rule : RuleRef)
    (found : winnerAt tokenizer text progress = some candidate) (winner : candidate.winner = .rule rule) :
    rule.grammar ∈ known := by
  obtain ⟨contender, member, there⟩ := find_candidate_mem tokenizer _ _ progress.stack candidate found
  obtain ⟨captures, _, rfl⟩ := Option.map_eq_some_iff.mp there
  exact contender_within tokenizer within _ progress.stack inside
    (memory_sets_within tokenizer within progress.output.memory valid) contender member rule winner

omit within in
theorem find_injected_from_congr (sets other : PatternSets) (search : Search) (scopes : ScopeList)
    (best : Option (Candidate × Selector.Priority)) (injections : List Injection)
    (same : ∀ injection ∈ injections, sets .included injection.rule = other .included injection.rule) :
    findInjectedFrom tokenizer sets search scopes best injections =
      findInjectedFrom tokenizer other search scopes best injections := by
  induction injections generalizing best with
  | nil => rfl
  | cons injection rest ih =>
      have later : ∀ best, findInjectedFrom tokenizer sets search scopes best rest =
          findInjectedFrom tokenizer other search scopes best rest :=
        fun best => ih best fun injection member => same injection (List.mem_cons_of_mem _ member)
      rw [findInjectedFrom, findInjectedFrom, same injection (by simp)]
      simp only [later]

theorem winner_at_fresh (progress : Progress) (inside : progress.stack.Within known)
    (valid : progress.output.memory.Valid known tokenizer.library) :
    winnerAt tokenizer text progress =
      findCandidate tokenizer (patternSet tokenizer.library tokenizer.grammar) ⟨text, progress.pos, progress.anchors⟩
        progress.stack := by
  have sets := fun mode (target : RuleRef) => Memory.pattern_set_valid valid tokenizer.grammar mode target within.grammar
  have children := sets .children progress.stack.top.rule (inside progress.stack.top (by simp [RuleStack.frames]))
  rw [winnerAt, findCandidate, findCandidate, findOwn, findOwn, findChild, findChild, children, findInjected, findInjected,
    find_injected_from_congr tokenizer _ (patternSet tokenizer.library tokenizer.grammar) _ _ _ _ fun injection member =>
      sets .included injection.rule (within.injections injection member)]

end Steps

end Line

end LineScope
