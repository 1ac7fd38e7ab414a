import LineScope.Proofs.Line.Memory
import LineScope.Proofs.Line.Parallel

/-!
Taking rules out of a library. A rule that can never start may be taken out of every list of patterns,
and from its own place as well, and every document keeps its tokens: sets of patterns lose the entries
of such rules and nothing else, so the same match wins every step, and runs with the rules and without
them go side by side.
-/

set_option autoImplicit false

namespace LineScope

def Pattern.Engine.Mute (engine : Pattern.Engine) (source : String) : Prop :=
  ∀ anchors text start, engine.find source anchors text start = none

namespace Grammar

def Rule.Silent (engine : Pattern.Engine) (rule : Rule) : Prop :=
  match rule.startPattern? with
  | some source => engine.Mute source
  | none => rule = .invalid

def Rule.filterPatterns (keep : PatternRef → Bool) : Rule → Rule
  | .single rule => .single rule
  | .container rule => .container { rule with patterns := rule.patterns.filter keep }
  | .beginEnd rule => .beginEnd { rule with patterns := rule.patterns.filter keep }
  | .beginWhile rule => .beginWhile { rule with patterns := rule.patterns.filter keep }
  | .invalid => .invalid

-- What tokenizing enters without a match are containers: the root, and the rules that groups are given.
structure Orderly (grammar : Grammar) : Prop where
  root : ∃ rule, grammar.rule grammar.root = .container rule
  groups : ∀ id, ∀ capture ∈ (grammar.rule id).captureRules, ∀ target ∈ capture.retokenize,
    ∃ rule, grammar.rule target = .container rule

section Filtering

variable (keep : PatternRef → Bool) (rule : Rule)

theorem filter_patterns_bare : (rule.filterPatterns keep).bare = rule.bare := by
  cases rule <;> rfl

theorem filter_patterns_start : (rule.filterPatterns keep).startPattern? = rule.startPattern? := by
  cases rule <;> rfl

theorem filter_patterns_patterns : (rule.filterPatterns keep).patterns = rule.patterns.filter keep := by
  cases rule <;> rfl

theorem filter_patterns_silent (engine : Pattern.Engine) (silent : rule.Silent engine) :
    (rule.filterPatterns keep).Silent engine := by
  cases rule with
  | container _ => cases silent
  | single _ => exact silent
  | beginEnd _ => exact silent
  | beginWhile _ => exact silent
  | invalid => exact silent

end Filtering

theorem container_not_silent (engine : Pattern.Engine) (rule : Rule)
    (isContainer : ∃ container, rule = .container container) : ¬ rule.Silent engine := by
  obtain ⟨container, rfl⟩ := isContainer
  exact Rule.noConfusion

end Grammar

-- Rules that are taken out of all lists of patterns, by their identities; if `erased`, nothing is left of them in
-- their own places either.
structure Removal where
  rules : List (String × Nat)
  erased : Bool

namespace Removal

variable (removal : Removal) (library : Library)

def names (ref : RuleRef) : Bool := decide (ref.identity ∈ removal.rules)

def drops (grammar : Grammar) : Grammar.PatternRef → Bool
  | .rule id => removal.names ⟨grammar, id⟩
  | .base => false
  | .external scope rule => (library.resolve scope rule).any removal.names

def fromGrammar (grammar : Grammar) : Grammar :=
  { grammar with
    rules := grammar.rules.mapIdx fun id rule =>
      if removal.erased && removal.names ⟨grammar, id⟩ then .invalid
      else rule.filterPatterns fun pattern => !removal.drops library grammar pattern }

def fromRef (ref : RuleRef) : RuleRef := ⟨removal.fromGrammar library ref.grammar, ref.id⟩

def fromLibrary : Library :=
  { library with grammars := library.grammars.map fun entry => (entry.1, removal.fromGrammar library entry.2) }

def fromInjection (injection : Injection) : Injection := { injection with rule := removal.fromRef library injection.rule }

def fromTokenizer (tokenizer : Tokenizer) : Tokenizer :=
  { tokenizer with
    library := removal.fromLibrary tokenizer.library
    grammar := removal.fromGrammar tokenizer.library tokenizer.grammar
    injections := tokenizer.injections.map (removal.fromInjection tokenizer.library) }

structure Harmless (engine : Pattern.Engine) (known : List Grammar) : Prop where
  silent : ∀ ref : RuleRef, ref.grammar ∈ known → removal.names ref → ref.rule.Silent engine
  orderly : ∀ grammar ∈ known, grammar.Orderly

section Parts

theorem from_grammar_rule (grammar : Grammar) (id : Nat) :
    (removal.fromGrammar library grammar).rule id =
      if removal.erased && removal.names ⟨grammar, id⟩ then .invalid
      else (grammar.rule id).filterPatterns fun pattern => !removal.drops library grammar pattern := by
  simp only [Grammar.rule, fromGrammar, Array.getD_eq_getD_getElem?, Array.getElem?_mapIdx]
  cases grammar.rules[id]? with
  | some rule => rfl
  | none =>
      simp only [Option.map_none, Option.getD_none]
      split <;> rfl

theorem from_grammar_count (grammar : Grammar) : (removal.fromGrammar library grammar).ruleCount = grammar.ruleCount :=
  Array.size_mapIdx

theorem from_ref_named (ref : RuleRef) : removal.names (removal.fromRef library ref) = removal.names ref := rfl

theorem from_ref_rule (ref : RuleRef) :
    (removal.fromRef library ref).rule =
      if removal.erased && removal.names ref then .invalid
      else ref.rule.filterPatterns fun pattern => !removal.drops library ref.grammar pattern :=
  from_grammar_rule removal library ref.grammar ref.id

theorem from_ref_kept (ref : RuleRef) (unnamed : removal.names ref = false) :
    (removal.fromRef library ref).rule =
      ref.rule.filterPatterns fun pattern => !removal.drops library ref.grammar pattern := by
  rw [from_ref_rule, if_neg (by simp [unnamed])]

theorem from_ref_start (ref : RuleRef) (source : String)
    (starts : (removal.fromRef library ref).rule.startPattern? = some source) : ref.rule.startPattern? = some source := by
  rw [from_ref_rule] at starts
  split at starts
  · cases starts
  · rwa [Grammar.filter_patterns_start] at starts

theorem from_ref_silent (engine : Pattern.Engine) (ref : RuleRef) (silent : ref.rule.Silent engine) :
    (removal.fromRef library ref).rule.Silent engine := by
  rw [from_ref_rule]
  split
  · rfl
  · exact Grammar.filter_patterns_silent _ ref.rule engine silent

theorem total_rules_from (grammars : List Grammar) :
    Grammar.totalRules (grammars.map (removal.fromGrammar library)) = Grammar.totalRules grammars := by
  induction grammars with
  | nil => rfl
  | cons grammar rest ih => rw [List.map_cons, Grammar.totalRules, Grammar.totalRules, from_grammar_count, ih]

theorem from_library_count : (removal.fromLibrary library).ruleCount = library.ruleCount := by
  rw [Library.ruleCount, Library.ruleCount, ← total_rules_from removal library (library.grammars.map Prod.snd), fromLibrary,
    List.map_map, List.map_map]
  rfl

theorem from_library_find (scope : Scope) :
    (removal.fromLibrary library).find? scope = (library.find? scope).map (removal.fromGrammar library) := by
  rw [Library.find?, Library.find?, fromLibrary]
  dsimp only
  induction library.grammars with
  | nil => rfl
  | cons entry rest ih =>
      obtain ⟨other, grammar⟩ := entry
      rw [List.map_cons, List.lookup_cons, List.lookup_cons, ih]
      cases scope == other <;> rfl

theorem from_library_resolve (scope : Scope) (rule : Option String) :
    (removal.fromLibrary library).resolve scope rule = (library.resolve scope rule).map (removal.fromRef library) := by
  rw [Library.resolve, Library.resolve, from_library_find]
  cases library.find? scope with
  | none => rfl
  | some grammar =>
      cases rule with
      | none => rfl
      | some name =>
          simp only [Option.map_some, Option.bind_some, Grammar.included?, Option.map_map]
          rfl

theorem of_selector_from (selector : Selector) (ref : RuleRef) :
    Injection.ofSelector selector (removal.fromRef library ref) =
      (Injection.ofSelector selector ref).map (removal.fromInjection library) := by
  rw [Injection.ofSelector, Injection.ofSelector, List.map_map]
  rfl

theorem of_grammar_from (injector : Grammar) :
    Injection.ofGrammar (removal.fromGrammar library injector) =
      (Injection.ofGrammar injector).map (removal.fromInjection library) := by
  have same : (removal.fromGrammar library injector).injectionSelector = injector.injectionSelector := rfl
  rw [Injection.ofGrammar, Injection.ofGrammar, same]
  cases injector.injectionSelector with
  | none => rfl
  | some selector => exact of_selector_from removal library selector ⟨injector, injector.root⟩

theorem own_from (grammar : Grammar) :
    Injection.own (removal.fromGrammar library grammar) =
      (Injection.own grammar).map (removal.fromInjection library) := by
  rw [Injection.own, Injection.own, List.map_flatMap]
  refine congrArg (List.flatMap · _) (funext fun entry => ?_)
  exact of_selector_from removal library entry.1 ⟨grammar, entry.2⟩

theorem sort_by_priority_from (injections : List Injection) :
    Injection.sortByPriority (injections.map (removal.fromInjection library)) =
      (Injection.sortByPriority injections).map (removal.fromInjection library) := by
  simp only [Injection.sortByPriority, List.map_append, List.filter_map]
  rfl

theorem from_library_injections (grammar : Grammar) :
    (removal.fromLibrary library).injections (removal.fromGrammar library grammar) =
      (library.injections grammar).map (removal.fromInjection library) := by
  have injectors : ((removal.fromLibrary library).injectorsOf grammar.scopeName).filterMap (removal.fromLibrary library).find? =
      ((library.injectorsOf grammar.scopeName).filterMap library.find?).map (removal.fromGrammar library) := by
    rw [List.map_filterMap]
    exact congrArg (List.filterMap · _) (funext (from_library_find removal library))
  have others : ∀ injectors : List Grammar, (injectors.map (removal.fromGrammar library)).flatMap Injection.ofGrammar =
      (injectors.flatMap Injection.ofGrammar).map (removal.fromInjection library) := by
    intro injectors
    rw [List.flatMap_map, List.map_flatMap]
    exact congrArg (List.flatMap · _) (funext (of_grammar_from removal library))
  rw [Library.injections, Library.injections, Injection.into, Injection.into, ← sort_by_priority_from, List.map_append,
    ← own_from, ← others, ← injectors]
  rfl

end Parts

end Removal

namespace Line

section Starting

variable (resolve : Resolver) (base : Grammar)

def Collection.Starts (collection : Collection) : Prop :=
  ∀ entry ∈ collection.entries, entry.rule.rule.startPattern? = some entry.pattern

theorem collect_children_starts (owner : RuleRef) (add : RuleRef → Collection → Collection)
    (adds : ∀ child collection, collection.Starts → (add child collection).Starts) (patterns : List Grammar.PatternRef)
    (collection : Collection) (before : collection.Starts) :
    (collectChildren resolve base owner add patterns collection).Starts := by
  induction patterns generalizing collection with
  | nil => exact before
  | cons pattern rest ih =>
      rw [collectChildren]
      split
      · exact ih _ (adds _ _ before)
      · exact ih _ before

theorem collect_rule_starts (fuel : Nat) (target : RuleRef) (collection : Collection) (before : collection.Starts) :
    (collectRule resolve base fuel target collection).Starts := by
  induction fuel generalizing target collection with
  | zero => exact before
  | succ fuel ih =>
      rw [collectRule]
      split
      · rename_i pattern starts
        exact List.forall_mem_cons.mpr ⟨starts, before⟩
      · split
        · exact before
        · exact collect_children_starts resolve base target _ ih _ _ before

theorem pattern_set_starts (library : Library) (mode : Mode) (target : RuleRef) :
    ∀ entry ∈ patternSet library base mode target, entry.rule.rule.startPattern? = some entry.pattern := by
  have collected : (collect library.resolve library.ruleCount base mode target).Starts := by
    cases mode with
    | children =>
        exact collect_children_starts _ base target _ (collect_rule_starts _ base _) _ _ fun _ member => nomatch member
    | included => exact collect_rule_starts _ base _ target _ fun _ member => nomatch member
  exact fun entry member => collected entry (List.mem_reverse.mp member)

end Starting

section Thinning

variable (removal : Removal) (engine : Pattern.Engine) {known : List Grammar} (harmless : removal.Harmless engine known)
  (library : Library) (within : library.Within known) (base : Grammar) (isBase : base ∈ known)

def Entry.isKept (entry : Entry) : Bool := !removal.names entry.rule

theorem dropped_entry_named (entry : Entry) (dropped : entry.isKept removal = false) : removal.names entry.rule := by
  simpa [Entry.isKept] using dropped

def Entry.from (entry : Entry) : Entry := ⟨removal.fromRef library entry.rule, entry.pattern⟩

-- Collections that differ in the entries and the containers of the rules taken out, and in nothing else.
structure Collection.Thins (first second : Collection) : Prop where
  entries : (first.entries.filter (Entry.isKept removal)).map (Entry.from removal library) =
    second.entries.filter (Entry.isKept removal)
  expanded : ∀ identity ∉ removal.rules, identity ∈ first.expanded ↔ identity ∈ second.expanded

theorem collect_silent (resolve : Resolver) (fuel : Nat) (ref : RuleRef) (named : removal.names ref)
    (silent : ref.rule.Silent engine) (collection : Collection) :
    (collectRule resolve base fuel ref collection).entries.filter (Entry.isKept removal) =
        collection.entries.filter (Entry.isKept removal) ∧
      ∀ identity ∉ removal.rules, identity ∈ (collectRule resolve base fuel ref collection).expanded ↔
        identity ∈ collection.expanded := by
  cases fuel with
  | zero => exact ⟨rfl, fun _ _ => Iff.rfl⟩
  | succ fuel =>
      rw [collectRule]
      rw [Grammar.Rule.Silent] at silent
      split
      · refine ⟨List.filter_cons_of_neg ?_, fun _ _ => Iff.rfl⟩
        simp [Entry.isKept, named]
      · rename_i starts
        rw [starts] at silent
        split
        · exact ⟨rfl, fun _ _ => Iff.rfl⟩
        · rw [silent]
          refine ⟨rfl, fun identity other => ?_⟩
          change identity ∈ ref.identity :: collection.expanded ↔ _
          rw [List.mem_cons]
          refine or_iff_right ?_
          rintro rfl
          exact other (of_decide_eq_true named)

variable {removal engine library} {first second : Collection}

theorem thins_follow (thins : first.Thins removal library second) (includes others : List (Scope × Option String)) :
    (first.follow includes).Thins removal library (second.follow others) :=
  ⟨thins.entries, thins.expanded⟩

theorem thins_silent_left (thins : first.Thins removal library second) (resolve : Resolver) (fuel : Nat) (ref : RuleRef)
    (named : removal.names ref) (silent : ref.rule.Silent engine) :
    (collectRule resolve base fuel ref first).Thins removal library second := by
  obtain ⟨entries, expanded⟩ := collect_silent removal engine base resolve fuel ref named silent first
  exact ⟨by rw [entries, thins.entries], fun identity other => (expanded identity other).trans (thins.expanded identity other)⟩

theorem thins_silent_right (thins : first.Thins removal library second) (resolve : Resolver) (fuel : Nat) (ref : RuleRef)
    (named : removal.names ref) (silent : ref.rule.Silent engine) :
    first.Thins removal library (collectRule resolve base fuel ref second) := by
  obtain ⟨entries, expanded⟩ := collect_silent removal engine base resolve fuel ref named silent second
  exact ⟨by rw [entries, thins.entries],
    fun identity other => (thins.expanded identity other).trans (expanded identity other).symm⟩

theorem child_from (owner : RuleRef) (pattern : Grammar.PatternRef) :
    childOf (removal.fromLibrary library).resolve (removal.fromGrammar library base) (removal.fromRef library owner) pattern =
      (childOf library.resolve base owner pattern).map (removal.fromRef library) := by
  cases pattern with
  | rule id => rfl
  | base => rfl
  | external scope rule => exact Removal.from_library_resolve removal library scope rule

theorem dropped_named (owner child : RuleRef) (pattern : Grammar.PatternRef)
    (dropped : removal.drops library owner.grammar pattern) (isChild : childOf library.resolve base owner pattern = some child) :
    removal.names child := by
  cases pattern with
  | rule id =>
      cases isChild
      exact dropped
  | base => cases dropped
  | external scope rule =>
      rw [Removal.drops, show library.resolve scope rule = some child from isChild] at dropped
      exact dropped

include harmless within isBase

theorem collect_children_thins (owner : RuleRef) (isOwner : owner.grammar ∈ known) (fuel : Nat)
    (adds : ∀ (child : RuleRef) (first second : Collection), child.grammar ∈ known → first.Thins removal library second →
      (collectRule library.resolve base fuel child first).Thins removal library
        (collectRule (removal.fromLibrary library).resolve (removal.fromGrammar library base) fuel
          (removal.fromRef library child) second))
    (patterns : List Grammar.PatternRef) (thins : first.Thins removal library second) :
    (collectChildren library.resolve base owner (collectRule library.resolve base fuel) patterns first).Thins removal library
      (collectChildren (removal.fromLibrary library).resolve (removal.fromGrammar library base) (removal.fromRef library owner)
        (collectRule (removal.fromLibrary library).resolve (removal.fromGrammar library base) fuel)
        (patterns.filter fun pattern => !removal.drops library owner.grammar pattern) second) := by
  induction patterns generalizing first second with
  | nil => exact thins
  | cons pattern rest ih =>
      rw [collectChildren]
      by_cases dropped : removal.drops library owner.grammar pattern = true
      · have followed : (first.follow (includeOf pattern)).Thins removal library second := ⟨thins.entries, thins.expanded⟩
        rw [List.filter_cons_of_neg (by simp [dropped])]
        split
        · rename_i child isChild
          have isKnown := child_within library within base isBase owner child isOwner pattern isChild
          have named := dropped_named base owner child pattern dropped isChild
          exact ih (thins_silent_left base followed _ fuel child named (harmless.silent child isKnown named))
        · exact ih followed
      · rw [List.filter_cons_of_pos (by simp [dropped]), collectChildren, child_from]
        cases isChild : childOf library.resolve base owner pattern with
        | none => exact ih (thins_follow thins _ _)
        | some child =>
            have isKnown := child_within library within base isBase owner child isOwner pattern isChild
            exact ih (adds child _ _ isKnown (thins_follow thins _ _))

theorem collect_rule_thins (fuel : Nat) (ref : RuleRef) (isKnown : ref.grammar ∈ known)
    (thins : first.Thins removal library second) :
    (collectRule library.resolve base fuel ref first).Thins removal library
      (collectRule (removal.fromLibrary library).resolve (removal.fromGrammar library base) fuel (removal.fromRef library ref)
        second) := by
  induction fuel generalizing ref first second with
  | zero => exact thins
  | succ fuel ih =>
      by_cases named : removal.names ref = true
      · have silent := harmless.silent ref isKnown named
        exact thins_silent_left base (thins_silent_right _ thins _ (fuel + 1) (removal.fromRef library ref) named
          (Removal.from_ref_silent removal library engine ref silent)) _ (fuel + 1) ref named silent
      · have unnamed : removal.names ref = false := Bool.not_eq_true _ ▸ named
        have rule := Removal.from_ref_kept removal library ref unnamed
        have other : ref.identity ∉ removal.rules := of_decide_eq_false unnamed
        rw [collectRule, collectRule, rule, Grammar.filter_patterns_start, Grammar.filter_patterns_patterns]
        split
        · refine ⟨?_, thins.expanded⟩
          dsimp only
          rw [List.filter_cons_of_pos (by simp [Entry.isKept, unnamed]), List.map_cons, thins.entries,
            List.filter_cons_of_pos (by simp [Entry.isKept, Removal.from_ref_named, unnamed])]
          rfl
        · have seen : first.expanded.contains ref.identity = second.expanded.contains (removal.fromRef library ref).identity := by
            rw [Bool.eq_iff_iff, List.contains_iff_mem, List.contains_iff_mem]
            exact thins.expanded ref.identity other
          rw [seen]
          split
          · exact thins
          · refine collect_children_thins harmless within base isBase ref isKnown fuel ?_ ref.rule.patterns ⟨thins.entries, ?_⟩
            · exact fun child _ _ isKnown thins => ih child isKnown thins
            · intro identity outside
              change identity ∈ ref.identity :: first.expanded ↔ identity ∈ ref.identity :: second.expanded
              rw [List.mem_cons, List.mem_cons, thins.expanded identity outside]

theorem pattern_set_thins (mode : Mode) (target : RuleRef) (isTarget : target.grammar ∈ known)
    (active : mode = .children → removal.names target = false) :
    ((patternSet library base mode target).filter (Entry.isKept removal)).map (Entry.from removal library) =
      (patternSet (removal.fromLibrary library) (removal.fromGrammar library base) mode
        (removal.fromRef library target)).filter (Entry.isKept removal) := by
  have counts : (removal.fromLibrary library).ruleCount + (removal.fromGrammar library base).ruleCount +
      (removal.fromRef library target).grammar.ruleCount + 1 =
        library.ruleCount + base.ruleCount + target.grammar.ruleCount + 1 := by
    rw [Removal.from_library_count, Removal.from_grammar_count, Removal.fromRef, Removal.from_grammar_count]
  have collected : (collect library.resolve library.ruleCount base mode target).Thins removal library
      (collect (removal.fromLibrary library).resolve (removal.fromLibrary library).ruleCount (removal.fromGrammar library base)
        mode (removal.fromRef library target)) := by
    cases mode with
    | included =>
        rw [collect, collect, counts]
        exact collect_rule_thins harmless within base isBase _ target isTarget ⟨rfl, fun _ _ => Iff.rfl⟩
    | children =>
        rw [collect, collect, counts, Removal.from_ref_kept removal library target (active rfl), Grammar.filter_patterns_patterns]
        refine collect_children_thins harmless within base isBase target isTarget _ ?_ _ ⟨rfl, fun _ _ => Iff.rfl⟩
        exact fun child _ _ isKnown thins => collect_rule_thins harmless within base isBase _ child isKnown thins
  rw [patternSet, patternSet, Collection.set, Collection.set, List.filter_reverse, List.map_reverse, List.filter_reverse,
    collected.entries]

end Thinning

section Finding

variable (engine : Pattern.Engine) (text : List Char) (pos : Nat) (anchors : Pattern.Anchors)

theorem find_from_kept (keep : Entry → Bool) (best : Option Found) (entries : List Entry)
    (mute : ∀ entry ∈ entries, keep entry = false → engine.find entry.pattern anchors text pos = none) :
    findFrom engine text pos anchors best (entries.filter keep) = findFrom engine text pos anchors best entries := by
  induction entries generalizing best with
  | nil => rfl
  | cons entry rest ih =>
      obtain ⟨here, later⟩ := List.forall_mem_cons.mp mute
      by_cases kept : keep entry = true
      · rw [List.filter_cons_of_pos kept, findFrom, findFrom]
        simp only [fun best => ih best later]
      · rw [List.filter_cons_of_neg kept, findFrom, here (eq_false_of_ne_true kept)]
        exact ih best later

variable (removal : Removal) (library : Library)

def Found.from (found : Found) : Found := ⟨removal.fromRef library found.rule, found.captures⟩

theorem find_from_from (best : Option Found) (entries : List Entry) :
    findFrom engine text pos anchors (best.map (Found.from removal library)) (entries.map (Entry.from removal library)) =
      (findFrom engine text pos anchors best entries).map (Found.from removal library) := by
  induction entries generalizing best with
  | nil => rfl
  | cons entry rest ih =>
      have covers : ∀ found : Found, ((best.map (Found.from removal library)).any fun earlier =>
          decide (earlier.start ≤ (found.from removal library).start)) =
            best.any fun earlier => decide (earlier.start ≤ found.start) := by
        intro found
        cases best <;> rfl
      have same : engine.find (entry.from removal library).pattern anchors text pos =
          engine.find entry.pattern anchors text pos := rfl
      rw [List.map_cons, findFrom, findFrom, same]
      cases engine.find entry.pattern anchors text pos with
      | none => exact ih best
      | some captures =>
          have isFrom : (⟨(entry.from removal library).rule, captures⟩ : Found) =
              Found.from removal library ⟨entry.rule, captures⟩ := rfl
          dsimp only
          rw [isFrom, covers]
          split
          · exact ih best
          · change (if Found.start ⟨entry.rule, captures⟩ = pos then _ else _) = _
            split
            · rfl
            · exact ih (some ⟨entry.rule, captures⟩)

end Finding

section Winning

variable {removal : Removal} {known : List Grammar} (tokenizer : Tokenizer)
  (harmless : removal.Harmless tokenizer.engine known) (within : tokenizer.Within known)

theorem from_library_within (library : Library) (isWithin : library.Within known) :
    (removal.fromLibrary library).Within (known.map (removal.fromGrammar library)) where
  distinct := by
    intro first isFirst second isSecond sameKey
    obtain ⟨first, firstKnown, rfl⟩ := List.mem_map.mp isFirst
    obtain ⟨second, secondKnown, rfl⟩ := List.mem_map.mp isSecond
    rw [isWithin.distinct first firstKnown second secondKnown sameKey]
  grammars := by
    intro entry listed
    obtain ⟨old, isOld, rfl⟩ := List.mem_map.mp listed
    exact List.mem_map_of_mem (isWithin.grammars old isOld)

include within in
theorem from_tokenizer_within :
    (removal.fromTokenizer tokenizer).Within (known.map (removal.fromGrammar tokenizer.library)) where
  library := from_library_within tokenizer.library within.library
  grammar := List.mem_map_of_mem within.grammar
  injections := by
    intro injection listed
    obtain ⟨old, isOld, rfl⟩ := List.mem_map.mp listed
    exact List.mem_map_of_mem (within.injections old isOld)

include harmless

theorem named_entry_mute (entry : Entry) (isKnown : entry.rule.grammar ∈ known) (named : removal.names entry.rule)
    (starts : entry.rule.rule.startPattern? = some entry.pattern) : tokenizer.engine.Mute entry.pattern := by
  have silent := harmless.silent entry.rule isKnown named
  rwa [Grammar.Rule.Silent, starts] at silent

include within

theorem set_mute (mode : Mode) (target : RuleRef) (isTarget : target.grammar ∈ known) :
    ∀ entry ∈ patternSet tokenizer.library tokenizer.grammar mode target, entry.isKept removal = false →
      tokenizer.engine.Mute entry.pattern := by
  intro entry listed dropped
  refine named_entry_mute tokenizer harmless entry ?_ (dropped_entry_named removal entry dropped)
    (pattern_set_starts tokenizer.grammar tokenizer.library mode target entry listed)
  exact pattern_set_within tokenizer.library within.library tokenizer.grammar within.grammar mode target isTarget entry listed

theorem set_from_mute (mode : Mode) (target : RuleRef) (isTarget : target.grammar ∈ known) :
    ∀ entry ∈ patternSet (removal.fromLibrary tokenizer.library) (removal.fromGrammar tokenizer.library tokenizer.grammar) mode
        (removal.fromRef tokenizer.library target), entry.isKept removal = false → tokenizer.engine.Mute entry.pattern := by
  intro entry listed dropped
  have inside := pattern_set_within (removal.fromLibrary tokenizer.library)
    (from_library_within tokenizer.library within.library) _ (List.mem_map_of_mem within.grammar) mode
    (removal.fromRef tokenizer.library target) (List.mem_map_of_mem isTarget) entry listed
  obtain ⟨grammar, isKnown, same⟩ := List.mem_map.mp inside
  have starts := pattern_set_starts _ _ mode _ entry listed
  obtain ⟨⟨entryGrammar, id⟩, pattern⟩ := entry
  dsimp only at same
  subst same
  refine named_entry_mute tokenizer harmless ⟨⟨grammar, id⟩, pattern⟩ isKnown (dropped_entry_named removal _ dropped) ?_
  exact Removal.from_ref_start removal tokenizer.library ⟨grammar, id⟩ pattern starts

theorem find_first_from (mode : Mode) (target : RuleRef) (isTarget : target.grammar ∈ known)
    (active : mode = .children → removal.names target = false) (text : List Char) (pos : Nat) (anchors : Pattern.Anchors) :
    findFirst tokenizer.engine (patternSet (removal.fromLibrary tokenizer.library)
        (removal.fromGrammar tokenizer.library tokenizer.grammar) mode (removal.fromRef tokenizer.library target)) text pos anchors =
      (findFirst tokenizer.engine (patternSet tokenizer.library tokenizer.grammar mode target) text pos anchors).map
        (Found.from removal tokenizer.library) := by
  rw [findFirst, findFirst,
    ← find_from_kept tokenizer.engine text pos anchors (Entry.isKept removal) none _ fun entry listed dropped =>
      set_from_mute tokenizer harmless within mode target isTarget entry listed dropped anchors text pos,
    ← find_from_kept tokenizer.engine text pos anchors (Entry.isKept removal) none (patternSet _ _ mode target)
      fun entry listed dropped => set_mute tokenizer harmless within mode target isTarget entry listed dropped anchors text pos,
    ← pattern_set_thins harmless within.library tokenizer.grammar within.grammar mode target isTarget active]
  exact find_from_from tokenizer.engine text pos anchors removal tokenizer.library none _

omit harmless within

def Winner.from (removal : Removal) (library : Library) : Winner → Winner
  | .ending => .ending
  | .rule opened => .rule (removal.fromRef library opened)

def Candidate.from (removal : Removal) (library : Library) (candidate : Candidate) : Candidate :=
  ⟨candidate.winner.from removal library, candidate.captures⟩

theorem prefer_end_from (library : Library) (found : Option (Candidate × Bool)) (child : Option Candidate)
    (ending : ∀ pair, found = some pair → pair.1.winner = .ending) :
    preferEnd found (child.map (Candidate.from removal library)) =
      (preferEnd found child).map (Candidate.from removal library) := by
  cases found with
  | none => rfl
  | some pair =>
      obtain ⟨⟨winner, captures⟩, last⟩ := pair
      cases ending _ rfl
      cases child with
      | none => rfl
      | some child =>
          change (if child.start < Candidate.start ⟨.ending, captures⟩ ||
              (last && child.start = Candidate.start ⟨.ending, captures⟩) then some _ else some _) =
            Option.map _ (if child.start < Candidate.start ⟨.ending, captures⟩ ||
              (last && child.start = Candidate.start ⟨.ending, captures⟩) then some _ else some _)
          split <;> rfl

theorem prefer_own_from (library : Library) (own : Option Candidate) (injected : Option (Candidate × Selector.Priority)) :
    preferOwn (own.map (Candidate.from removal library)) (injected.map fun pair => (pair.1.from removal library, pair.2)) =
      (preferOwn own injected).map (Candidate.from removal library) := by
  cases injected with
  | none => cases own <;> rfl
  | some pair =>
      cases own with
      | none => rfl
      | some own =>
          change (if own.start < pair.1.start || (own.start = pair.1.start && pair.2 ≠ .left) then some _ else some _) =
            Option.map _ (if own.start < pair.1.start || (own.start = pair.1.start && pair.2 ≠ .left) then some _ else some _)
          split <;> rfl

theorem find_end_winner (search : Search) (stack : RuleStack) (pair : Candidate × Bool)
    (found : findEnd tokenizer search stack = some pair) : pair.1.winner = .ending := by
  rw [findEnd] at found
  split at found
  · obtain ⟨captures, _, rfl⟩ := Option.map_eq_some_iff.mp found
    rfl
  · cases found

theorem find_injected_from_from (sets other : PatternSets) (search : Search) (scopes : ScopeList)
    (best : Option (Candidate × Selector.Priority)) (injections : List Injection)
    (found : ∀ injection ∈ injections,
      findFirst tokenizer.engine (other .included (removal.fromRef tokenizer.library injection.rule)) search.text search.pos
          search.anchors =
        (findFirst tokenizer.engine (sets .included injection.rule) search.text search.pos search.anchors).map
          (Found.from removal tokenizer.library)) :
    findInjectedFrom (removal.fromTokenizer tokenizer) other search scopes
        (best.map fun pair => (pair.1.from removal tokenizer.library, pair.2))
        (injections.map (removal.fromInjection tokenizer.library)) =
      (findInjectedFrom tokenizer sets search scopes best injections).map fun pair =>
        (pair.1.from removal tokenizer.library, pair.2) := by
  induction injections generalizing best with
  | nil => rfl
  | cons injection rest ih =>
      obtain ⟨here, later⟩ := List.forall_mem_cons.mp found
      have covers : ∀ first : Found, ((best.map fun pair => (pair.1.from removal tokenizer.library, pair.2)).any fun earlier =>
          decide (earlier.1.start ≤ first.start)) = best.any fun earlier => decide (earlier.1.start ≤ first.start) := by
        intro first
        cases best <;> rfl
      have same : findFirst (removal.fromTokenizer tokenizer).engine (other .included
          (removal.fromInjection tokenizer.library injection).rule) search.text search.pos search.anchors = _ := here
      have accepts : (removal.fromInjection tokenizer.library injection).expr = injection.expr := rfl
      rw [List.map_cons, findInjectedFrom, findInjectedFrom, accepts, same]
      split
      · cases findFirst tokenizer.engine (sets .included injection.rule) search.text search.pos search.anchors with
        | none => exact ih best later
        | some first =>
            change (if (best.map fun pair => (pair.1.from removal tokenizer.library, pair.2)).any fun earlier =>
              earlier.1.start ≤ first.start then _ else if first.start = search.pos then _ else _) = _
            rw [covers]
            dsimp only
            split
            · exact ih best later
            · split
              · rfl
              · exact ih (some (.ofFound first, injection.priority)) later
      · exact ih best later

include harmless within

theorem find_candidate_from (search : Search) (stack twin : RuleStack) (isKnown : stack.top.rule.grammar ∈ known)
    (unnamed : removal.names stack.top.rule = false) (rules : twin.top.rule = removal.fromRef tokenizer.library stack.top.rule)
    (endPatterns : stack.top.endPattern = twin.top.endPattern) (scopes : stack.top.contentScopes = twin.top.contentScopes) :
    findCandidate (removal.fromTokenizer tokenizer)
        (patternSet (removal.fromLibrary tokenizer.library) (removal.fromGrammar tokenizer.library tokenizer.grammar)) search twin =
      (findCandidate tokenizer (patternSet tokenizer.library tokenizer.grammar) search stack).map
        (Candidate.from removal tokenizer.library) := by
  have bare : stack.top.rule.rule.bare = twin.top.rule.rule.bare := by
    rw [rules, Removal.from_ref_kept removal tokenizer.library _ unnamed, Grammar.filter_patterns_bare]
  have ending : findEnd (removal.fromTokenizer tokenizer) search twin = findEnd tokenizer search stack :=
    (find_end_bare tokenizer (removal.fromTokenizer tokenizer) rfl search stack twin bare endPatterns).symm
  have child : findChild (removal.fromTokenizer tokenizer) (patternSet (removal.fromLibrary tokenizer.library)
      (removal.fromGrammar tokenizer.library tokenizer.grammar)) search twin =
        (findChild tokenizer (patternSet tokenizer.library tokenizer.grammar) search stack).map
          (Candidate.from removal tokenizer.library) := by
    have found := find_first_from tokenizer harmless within .children stack.top.rule isKnown (fun _ => unnamed) search.text
      search.pos search.anchors
    rw [findChild, findChild, rules]
    change Option.map _ (findFirst tokenizer.engine _ _ _ _) = _
    rw [found, Option.map_map, Option.map_map]
    rfl
  have own : findOwn (removal.fromTokenizer tokenizer) (patternSet (removal.fromLibrary tokenizer.library)
      (removal.fromGrammar tokenizer.library tokenizer.grammar)) search twin =
        (findOwn tokenizer (patternSet tokenizer.library tokenizer.grammar) search stack).map
          (Candidate.from removal tokenizer.library) := by
    have isEnding := find_end_winner tokenizer search stack
    rw [findOwn, findOwn, ending, child]
    split
    · cases settled : findEnd tokenizer search stack with
      | none => rfl
      | some pair =>
          obtain ⟨⟨winner, captures⟩, last⟩ := pair
          cases isEnding _ settled
          rfl
    · exact prefer_end_from tokenizer.library _ _ isEnding
  rw [findCandidate, findCandidate, own, ← prefer_own_from]
  refine congrArg (preferOwn _) ?_
  rw [findInjected, findInjected, ← scopes]
  refine find_injected_from_from tokenizer _ _ search _ none tokenizer.injections ?_
  intro injection listed
  exact find_first_from tokenizer harmless within .included injection.rule (within.injections injection listed)
    (by rintro ⟨⟩) search.text search.pos search.anchors

theorem winner_unnamed (text : List Char) (progress : Progress) (inside : progress.stack.Within known)
    (valid : progress.output.memory.Valid known tokenizer.library) (candidate : Candidate) (rule : RuleRef)
    (found : winnerAt tokenizer text progress = some candidate) (winner : candidate.winner = .rule rule) :
    removal.names rule = false := by
  obtain ⟨contender, member, there⟩ := find_candidate_mem tokenizer _ _ progress.stack candidate found
  obtain ⟨captures, searched, rfl⟩ := Option.map_eq_some_iff.mp there
  have unnamed : ∀ mode (target : RuleRef), target.grammar ∈ known →
      ∀ entry ∈ progress.output.memory.patternSet tokenizer.library tokenizer.grammar mode target,
        contender = .ofEntry entry → removal.names rule = false := by
    rintro mode target isTarget entry listed rfl
    rw [Memory.pattern_set_valid valid tokenizer.grammar mode target within.grammar isTarget] at listed
    cases winner
    by_contra named
    have mute := set_mute tokenizer harmless within mode target isTarget entry listed (by simpa [Entry.isKept] using named)
    cases (mute _ _ _).symm.trans searched
  cases contender_source tokenizer _ progress.stack contender member with
  | ending _ _ => cases winner
  | child entry listed =>
      exact unnamed .children _ (inside progress.stack.top (by simp [RuleStack.frames])) entry listed rfl
  | injected injection applies entry listed =>
      exact unnamed .included _ (within.injections injection applies) entry listed rfl

end Winning

end Line

-- A rule of a known grammar that is not taken out stands for what is left of it.
def Removal.pairing (removal : Removal) (known : List Grammar) (library : Library) : Pairing where
  rules first second := first.grammar ∈ known ∧ removal.names first = false ∧ second = removal.fromRef library first
  memories first second := first.Valid known library ∧
    second.Valid (known.map (removal.fromGrammar library)) (removal.fromLibrary library)
  eol := True

section Running

variable {removal : Removal} {known : List Grammar} (tokenizer : Tokenizer)
  (harmless : removal.Harmless tokenizer.engine known) (within : tokenizer.Within known)

include harmless in
theorem container_unnamed (ref : RuleRef) (isKnown : ref.grammar ∈ known)
    (isContainer : ∃ container, ref.rule = .container container) : removal.names ref = false := by
  by_contra named
  have silent := harmless.silent ref isKnown (by simpa using named)
  exact Grammar.container_not_silent tokenizer.engine ref.rule isContainer silent

theorem paired_grammars (library : Library) (first second : RuleStack)
    (paired : first.Paired (removal.pairing known library) second) :
    second.frames.map (fun frame => frame.rule.grammar) =
      (first.frames.map fun frame => frame.rule.grammar).map (removal.fromGrammar library) := by
  have each : ∀ firstFrames secondFrames : List Frame,
      List.Forall₂ (Frame.Paired (removal.pairing known library)) firstFrames secondFrames →
        secondFrames.map (fun frame => frame.rule.grammar) =
          (firstFrames.map fun frame => frame.rule.grammar).map (removal.fromGrammar library) := by
    intro firstFrames secondFrames frames
    induction frames with
    | nil => rfl
    | cons top _ ih => rw [List.map_cons, List.map_cons, List.map_cons, ih, top.rule.2.2, Removal.fromRef]
  exact each _ _ (RuleStack.paired_frames paired)

theorem paired_unnamed (library : Library) (first second : RuleStack)
    (paired : first.Paired (removal.pairing known library) second) :
    ∀ frame ∈ first.frames, frame.rule.grammar ∈ known ∧ removal.names frame.rule = false := by
  have each : ∀ firstFrames secondFrames : List Frame,
      List.Forall₂ (Frame.Paired (removal.pairing known library)) firstFrames secondFrames →
        ∀ frame ∈ firstFrames, frame.rule.grammar ∈ known ∧ removal.names frame.rule = false := by
    intro firstFrames secondFrames frames
    induction frames with
    | nil => exact List.forall_mem_nil _
    | cons top _ ih => exact List.forall_mem_cons.mpr ⟨⟨top.rule.1, top.rule.2.1⟩, ih⟩
  exact each _ _ (RuleStack.paired_frames paired)

theorem paired_within (library : Library) (first second : RuleStack)
    (paired : first.Paired (removal.pairing known library) second) :
    first.Within known ∧ second.Within (known.map (removal.fromGrammar library)) := by
  have inside : first.Within known := fun frame member => (paired_unnamed library first second paired frame member).1
  refine ⟨inside, List.forall_mem_map.mp ?_⟩
  rw [paired_grammars library first second paired]
  rintro _ listed
  obtain ⟨grammar, isGrammar, rfl⟩ := List.mem_map.mp listed
  obtain ⟨frame, member, rfl⟩ := List.mem_map.mp isGrammar
  exact List.mem_map_of_mem (inside frame member)

theorem rule_total_paired (first second : RuleStack)
    (paired : first.Paired (removal.pairing known tokenizer.library) second) :
    Line.ruleTotal tokenizer first = Line.ruleTotal (removal.fromTokenizer tokenizer) second := by
  have injected : (removal.fromTokenizer tokenizer).injections.map (fun injection => injection.rule.grammar) =
      (tokenizer.injections.map fun injection => injection.rule.grammar).map (removal.fromGrammar tokenizer.library) := by
    rw [Removal.fromTokenizer, List.map_map, List.map_map]
    rfl
  rw [Line.ruleTotal, Line.ruleTotal, paired_grammars tokenizer.library first second paired, injected,
    Removal.total_rules_from, Removal.total_rules_from, Removal.fromTokenizer]
  dsimp only
  rw [Removal.from_library_count, Removal.from_grammar_count]

include harmless

theorem pairing_sound : (removal.pairing known tokenizer.library).Sound := by
  refine ⟨?_, ?_, ?_⟩
  · rintro first _ ⟨_, unnamed, rfl⟩
    rw [Removal.from_ref_kept removal tokenizer.library first unnamed, Grammar.filter_patterns_bare]
  · rintro first _ ⟨_, _, rfl⟩
    rfl
  · rintro first _ ⟨isKnown, unnamed, rfl⟩ capture listed id isId
    refine ⟨isKnown, container_unnamed tokenizer harmless ⟨first.grammar, id⟩ isKnown ?_, rfl⟩
    exact (harmless.orderly first.grammar isKnown).groups first.id capture listed id isId

include within

theorem winners_paired (text : List Char) (first second : Line.Progress)
    (paired : first.Paired (removal.pairing known tokenizer.library) second) :
    Option.Rel (Line.Candidate.Paired (removal.pairing known tokenizer.library)) (Line.winnerAt tokenizer text first)
      (Line.winnerAt (removal.fromTokenizer tokenizer) text second) := by
  obtain ⟨firstValid, secondValid⟩ := paired.output.memory
  obtain ⟨firstInside, secondInside⟩ := paired_within tokenizer.library first.stack second.stack paired.stack
  obtain ⟨isKnown, unnamed, rules⟩ := paired.stack.top.rule
  have won : Line.winnerAt (removal.fromTokenizer tokenizer) text second =
      (Line.winnerAt tokenizer text first).map (Line.Candidate.from removal tokenizer.library) := by
    rw [Line.winner_at_fresh tokenizer within text first firstInside firstValid,
      Line.winner_at_fresh _ (Line.from_tokenizer_within tokenizer within) text second secondInside secondValid,
      Line.anchors_paired first second paired, paired.pos]
    exact Line.find_candidate_from tokenizer harmless within _ first.stack second.stack isKnown unnamed rules
      paired.stack.top.endPattern paired.stack.top.contentScopes
  rw [won]
  cases found : Line.winnerAt tokenizer text first with
  | none => exact .none
  | some candidate =>
      refine .some ⟨?_, rfl⟩
      obtain ⟨winner, captures⟩ := candidate
      cases winner with
      | ending => exact .ending
      | rule rule =>
          refine .rule rule _ ⟨?_, ?_, rfl⟩
          · exact Line.winner_within tokenizer within text first firstInside firstValid _ rule found rfl
          · exact Line.winner_unnamed tokenizer harmless within text first firstInside firstValid _ rule found rfl

theorem removal_parallel :
    Line.Parallel (removal.pairing known tokenizer.library) tokenizer (removal.fromTokenizer tokenizer) where
  sound := pairing_sound tokenizer harmless
  engine := rfl
  maxLineLength := rfl
  nesting := rfl
  total := rule_total_paired tokenizer
  winner := winners_paired tokenizer harmless within
  lookedUp := by
    intro text first second paired
    obtain ⟨firstInside, secondInside⟩ := paired_within tokenizer.library first.stack second.stack paired.stack
    exact ⟨Line.memory_after_valid tokenizer within _ _ _ firstInside paired.output.memory.1,
      Line.memory_after_valid (removal.fromTokenizer tokenizer) (Line.from_tokenizer_within tokenizer within) _ _ _
        secondInside paired.output.memory.2⟩

theorem initial_stacks_paired :
    tokenizer.initialStack.Paired (removal.pairing known tokenizer.library) (removal.fromTokenizer tokenizer).initialStack := by
  have unnamed := container_unnamed tokenizer harmless ⟨tokenizer.grammar, tokenizer.grammar.root⟩ within.grammar
    (harmless.orderly tokenizer.grammar within.grammar).root
  exact ⟨⟨⟨⟨within.grammar, unnamed, rfl⟩, rfl, rfl, rfl, rfl, fun _ _ => rfl, fun _ => rfl⟩, rfl⟩, .nil⟩

theorem removal_keeps_tokens (text : List Char) :
    (tokenizer.tokenizeDocument {} text).lines = ((removal.fromTokenizer tokenizer).tokenizeDocument {} text).lines :=
  (tokenize_lines_paired (removal_parallel tokenizer harmless within) trivial {} {}
    ⟨Memory.empty_valid, Memory.empty_valid⟩ (Text.lines text) none none rfl (initial_stacks_paired tokenizer harmless within)).lines

theorem returned_unnamed (previous : Option RuleStack)
    (returned : tokenizer.Returns (Memory.Valid known tokenizer.library) previous) :
    ∀ frame ∈ (previous.getD tokenizer.initialStack).frames, removal.names frame.rule = false := by
  have followed : ∃ twin : Option RuleStack, previous.isNone = twin.isNone ∧
      (previous.getD tokenizer.initialStack).Paired (removal.pairing known tokenizer.library)
        (twin.getD (removal.fromTokenizer tokenizer).initialStack) := by
    induction returned with
    | nothing => exact ⟨none, rfl, initial_stacks_paired tokenizer harmless within⟩
    | line memory line previous valid _ ih =>
        obtain ⟨twin, sameStart, paired⟩ := ih
        have result := tokenize_line_paired (removal_parallel tokenizer harmless within) memory {}
          ⟨valid, Memory.empty_valid⟩ line previous twin sameStart paired (paired.top.beginCapturedEol trivial)
        exact ⟨some ((removal.fromTokenizer tokenizer).tokenizeLine {} line twin).stack,
          by rw [Option.isNone_some, Option.isNone_some], result.stack⟩
  obtain ⟨twin, _, paired⟩ := followed
  exact fun frame member => (paired_unnamed tokenizer.library _ _ paired frame member).2

end Running

end LineScope
