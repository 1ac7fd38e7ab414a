import LineScope.Proofs.Grammar.Link
import LineScope.Proofs.Lookup

/-!
How a compilation links the includes of a document. Every part of it goes on from a state that is in
order to one that is, and what it adds is linked; from the compiler of single rules this carries over
to lists, captures and shapes, and from these back to the compiler of rules, by induction on its fuel.
The fuel lasts since every rule is compiled once.
-/

set_option autoImplicit false

namespace LineScope.Grammar

structure Reaches {α : Type} (document : Document) (before : Compilation) (action : Compiling α)
    (holds : α → Compilation → Prop) : Prop where
  onward : Onward document before (action before).2
  result : holds (action before).1 (action before).2

section Actions

variable {document : Document} {before : Compilation} {α β : Type}

theorem reaches_pure (value : α) (holds : α → Compilation → Prop) (here : holds value before) :
    Reaches document before (pure value) holds :=
  ⟨.refl _, here⟩

theorem reaches_bind (first : Compiling α) (next : α → Compiling β) (halfway : α → Compilation → Prop)
    (holds : β → Compilation → Prop) (starts : Reaches document before first halfway)
    (continues : ∀ (value : α) (middle : Compilation), Onward document before middle → halfway value middle →
      Reaches document middle (next value) holds) : Reaches document before (first >>= next) holds :=
  have rest := continues _ _ starts.onward starts.result
  ⟨starts.onward.trans rest.onward, rest.result⟩

theorem reaches_report (location : String) (problem : Problem) :
    Reaches document before (report location problem) fun _ after => ⟨location, problem⟩ ∈ after.diagnostics where
  onward :=
    { grows := ⟨fun _ _ same => same, fun _ _ _ same => same, fun _ member => Array.mem_push.mpr (.inl member)⟩
      size := Nat.le_refl _
      count := Nat.le_refl _
      healthy := fun healthy => ⟨healthy.distinct, healthy.placed⟩
      linked := by
        intro address id missing found
        rw [report, missing] at found
        cases found }
  result := Array.mem_push_self

theorem reaches_claim (group : Nat) : Reaches document before (claimGroup group) fun _ _ => True :=
  ⟨.refl _, trivial⟩

theorem reaches_check_pattern (engine : Pattern.Engine) (pattern location : String) (filledLater : Bool) :
    Reaches document before (checkPattern engine pattern location filledLater) fun checked _ => checked = pattern := by
  rw [checkPattern]
  split
  · split
    · rename_i message _
      exact reaches_bind _ _ (fun _ _ => True) _ ⟨(reaches_report location _).onward, trivial⟩
        fun _ middle _ _ => reaches_pure _ _ rfl
    · exact reaches_pure _ _ rfl
  · exact reaches_pure _ _ rfl

end Actions

-- A rule takes its index first and is defined once the rules it leads to are compiled. `opened` is the
-- state in between, and `middle` the one before it is defined.
section Filling

variable {document : Document} (before opened middle : Compilation) (rule : Rule)

def filled (before middle : Compilation) (rule : Rule) : Compilation :=
  { middle with
    rules := middle.rules.setIfInBounds before.rules.size rule
    requests := middle.requests ++ [.place before.rules.size middle.rules.size] }

theorem filled_grows : Grows (before.rules.size + 1) middle (filled before middle rule) where
  ids _ _ same := same
  rules id old above there := by
    rw [filled, Array.getElem?_setIfInBounds_ne (by omega)]
    exact there
  reports _ same := same

variable (isOpened : opened.rules = before.rules.push .invalid) (onward : Onward document opened middle)

include isOpened onward

theorem filled_rule : (filled before middle rule).rules[before.rules.size]? = some rule := by
  have size := onward.size
  rw [isOpened, Array.size_push] at size
  rw [filled, Array.getElem?_setIfInBounds_self_of_lt (by omega)]

theorem filled_onward (ids : ∀ address id, before.ids.lookup address = some id → opened.ids.lookup address = some id)
    (count : before.ids.length ≤ opened.ids.length) (healthy : Healthy document before → Healthy document opened)
    (reports : opened.diagnostics = before.diagnostics)
    (added : ∀ address id, before.ids.lookup address = none → opened.ids.lookup address = some id →
      RuleLinked document (filled before middle rule) before.rules.size address id) :
    Onward document before (filled before middle rule) where
  grows :=
    { ids := fun address id found => onward.grows.ids address id (ids address id found)
      rules := by
        intro id old _ there
        have inside : id < before.rules.size := (Array.getElem?_eq_some_iff.mp there).1
        have kept : opened.rules[id]? = some old := by
          rw [isOpened, Array.getElem?_push_lt inside, ← there, Array.getElem?_eq_getElem inside]
        rw [filled, Array.getElem?_setIfInBounds_ne (by omega)]
        exact onward.grows.rules id old (Nat.zero_le _) kept
      reports := fun diagnostic member => onward.grows.reports diagnostic (reports ▸ member) }
  size := by
    have size := onward.size
    rw [isOpened, Array.size_push] at size
    rw [filled, Array.size_setIfInBounds]
    omega
  count := Nat.le_trans count onward.count
  healthy before := ⟨(onward.healthy (healthy before)).distinct, (onward.healthy (healthy before)).placed⟩
  linked := by
    intro address id missing found
    cases between : opened.ids.lookup address with
    | some other =>
        have same : other = id := Option.some.inj ((onward.grows.ids address other between).symm.trans found)
        exact same ▸ added address other missing between
    | none =>
        have linked := onward.linked address id between found
        rw [isOpened, Array.size_push] at linked
        exact rule_grows (filled_grows before middle rule) (Nat.le_succ _) address id linked

end Filling

structure Ready (document : Document) (fuel : Nat) (chain : Chain) (bench : Compilation) : Prop where
  view : View document chain
  known : ∀ entry ∈ chain, entry.1 = [] ∨ (bench.ids.lookup entry.1).isSome
  healthy : Healthy document bench
  enough : document.size < bench.ids.length + fuel

theorem ready_onward {document : Document} {fuel : Nat} {chain : Chain} {before after : Compilation}
    (ready : Ready document fuel chain before) (onward : Onward document before after) :
    Ready document fuel chain after where
  view := ready.view
  known entry member := by
    refine (ready.known entry member).imp_right fun found => ?_
    obtain ⟨id, found⟩ := Option.isSome_iff_exists.mp found
    exact Option.isSome_of_eq_some (onward.grows.ids _ id found)
  healthy := onward.healthy ready.healthy
  enough := Nat.lt_of_lt_of_le ready.enough (Nat.add_le_add_right onward.count fuel)

-- What a compiler of rules owes: the rule at an address of the document, linked, and its index.
def CompilesRules (document : Document) (fuel : Nat) (compile : RuleCompiler) : Prop :=
  ∀ chain site location bench, Ready document fuel chain bench →
    document.Sees (document.inView site.address.tail) site.address chain → document.ruleAt? site.address = some site.rule →
    Reaches document bench (compile chain site location) fun id after => after.ids.lookup site.address = some id

section Parts

variable {document : Document} (enclosed : document.Enclosed) (engine : Pattern.Engine) {fuel : Nat}
  {compile : RuleCompiler} (compiles : CompilesRules document fuel compile) {chain : Chain} {bench : Compilation}
  (ready : Ready document fuel chain bench)

def contextOf (engine : Pattern.Engine) (document : Document) : Context :=
  ⟨engine, document.scopeName, document.repository⟩

include compiles ready

theorem compile_found_reaches (place : Address) (found : Option Site) (target location : String)
    (byName : (Target.ofText document.scopeName target).isByName)
    (isEntry : document.entry? place (Target.ofText document.scopeName target) = found)
    (inside : ∀ site, found = some site →
      document.Sees (document.inView site.address.tail) site.address chain ∧
        document.ruleAt? site.address = some site.rule) :
    Reaches document bench (compileFound compile chain found target location) fun ref after =>
      Denotes document after place target ref := by
  cases found with
  | none =>
      refine reaches_bind _ _ _ _ (reaches_report location (.unresolvedInclude target)) ?_
      intro _ middle _ reported
      exact reaches_pure _ _ (.unresolved location byName isEntry reported)
  | some site =>
      obtain ⟨sees, placed⟩ := inside site rfl
      refine reaches_bind _ _ _ _ (compiles chain site location bench ready sees placed) ?_
      intro id middle _ compiled
      exact reaches_pure _ _ (.entry site id isEntry compiled)

include enclosed

-- The chain may have more repositories than are in view, but the name is not taken from them.
theorem compile_include_reaches (place : Address) (rule : RuleDocument) (target location : String)
    (sees : document.Sees (document.inView place) place chain) (placed : document.ruleAt? place = some rule)
    (includes : rule.keys.includeTarget = some target) :
    Reaches document bench (compileInclude (contextOf engine document) compile chain target location) fun ref after =>
      Denotes document after place target ref := by
  rw [compileInclude]
  dsimp only [contextOf]
  cases kind : Target.ofText document.scopeName target with
  | root => exact reaches_pure _ _ (.root kind)
  | base => exact reaches_pure _ _ (.base kind)
  | external scope name => exact reaches_pure _ _ (.external scope name kind)
  | inView name =>
      have included : document.includedName? place = some name := by
        rw [Document.includedName?, placed, Option.bind_some, includes]
        dsimp only
        rw [kind]
      have same := sees_find document chain ready.view enclosed place sees name included
      refine compile_found_reaches compiles ready place _ target location (by rw [kind]; rfl) (by rw [kind]; exact same) ?_
      exact fun site found => ⟨sees_found document chain ready.view _ place sees name included site found,
        (view_find document name chain ready.view site found).2⟩
  | topLevel name =>
      have top : Ready document fuel [([], document.repository)] bench :=
        ⟨.top, List.forall_mem_singleton.mpr (.inl rfl), ready.healthy, ready.enough⟩
      refine compile_found_reaches compiles top place _ target location (by rw [kind]; rfl) (by rw [kind]; rfl) ?_
      intro site found
      obtain ⟨around, placed⟩ := view_find document name _ .top site found
      exact ⟨sees_top document _ _ around, placed⟩
  | nothing =>
      refine compile_found_reaches compiles ready place none target location (by rw [kind]; rfl) (by rw [kind]; rfl) ?_
      intro site impossible
      cases impossible

omit compiles ready enclosed in
theorem compile_patterns_cons (context : Context) (owner : Address) (location : String) (index : Nat)
    (rule : RuleDocument) (rest : List RuleDocument) :
    compilePatterns context compile chain owner location index (rule :: rest) =
      (do
        let place := join location ("patterns/" ++ toString index)
        let head ←
          match rule.listed? with
          | some target => compileInclude context compile chain target place
          | none => do
            let id ← compile chain ⟨rule, .pattern index :: owner⟩ place
            pure (some (.rule id))
        let tail ← compilePatterns context compile chain owner location (index + 1) rest
        return head.toList ++ tail) := by
  rw [compilePatterns, RuleDocument.listed?]
  cases rule.keys.includeTarget <;> cases rule.keys.matchPattern <;> cases rule.keys.beginPattern <;> rfl

theorem compile_patterns_reaches (owner : Address) (location : String) (index : Nat) (rules : List RuleDocument)
    (sees : document.Sees (document.inView owner) owner chain)
    (placed : ∀ offset rule, rules[offset]? = some rule →
      document.ruleAt? (.pattern (index + offset) :: owner) = some rule) :
    Reaches document bench (compilePatterns (contextOf engine document) compile chain owner location index rules)
      fun refs after => PatternsLinked document after owner index rules refs := by
  induction rules generalizing index bench with
  | nil => exact reaches_pure _ _ (.nil index)
  | cons rule rest ih =>
      have here : document.ruleAt? (.pattern index :: owner) = some rule := placed 0 rule rfl
      have later : ∀ offset other, rest[offset]? = some other →
          document.ruleAt? (.pattern (index + 1 + offset) :: owner) = some other := by
        intro offset other found
        have next := placed (offset + 1) other found
        rwa [← Nat.add_assoc, Nat.add_right_comm] at next
      rw [compile_patterns_cons]
      cases listed : rule.listed? with
      | some target =>
          have includes : rule.keys.includeTarget = some target := by
            rw [RuleDocument.listed?] at listed
            split at listed
            · rename_i isTarget _ _
              cases listed
              exact isTarget
            · cases listed
          have nothing : document.tableAt? (.pattern index :: owner) = none := by
            refine enclosed.parts (.pattern index :: owner) ?_
            rw [Document.isPart, here, Option.bind_some, listed]
            rfl
          refine reaches_bind _ _ _ _ (compile_include_reaches enclosed engine compiles ready (.pattern index :: owner)
            rule target _ ?_ here includes) ?_
          · rw [in_view_without document _ owner nothing]
            exact sees_inside document _ _ _ _ (List.suffix_cons _ _) sees
          · intro found middle onward denotes
            refine reaches_bind _ _ _ _ (ih (ready_onward ready onward) (index + 1) later) ?_
            intro refs last further tail
            exact reaches_pure _ _ (.included index rule rest target found refs listed
              (denotes_grows further.grows _ _ _ denotes) tail)
      | none =>
          have compiled := compiles chain ⟨rule, .pattern index :: owner⟩
            (join location ("patterns/" ++ toString index)) bench ready
            (sees_inside document _ _ _ _ (List.suffix_cons _ _) sees) here
          refine reaches_bind _ _ _ _ compiled ?_
          intro id middle onward found
          change Reaches document middle (compilePatterns (contextOf engine document) compile chain owner location
            (index + 1) rest >>= fun refs => pure (.rule id :: refs)) _
          refine reaches_bind _ _ _ _ (ih (ready_onward ready onward) (index + 1) later) ?_
          intro refs last further tail
          exact reaches_pure _ _ (.own index rule rest id refs listed (further.grows.ids _ _ found) tail)

def compileContainer (context : Context) (compile : RuleCompiler) (chain : Chain) (owner : Address) (location : String)
    (rules : RuleSequence) : Compiling (Option Nat) := do
  let id ← reserve
  let patterns ← compilePatterns context compile chain owner location 0 rules.toList
  define id (.container ⟨none, none, patterns⟩)
  pure (some id)

theorem compile_container_reaches (address : Address) (table key location : String) (rule : RuleDocument)
    (rules : RuleSequence) (present : rule.patterns = .present rules)
    (sees : document.Sees (document.inView address) address chain)
    (placed : document.ruleAt? (.capture table key :: address) = some rule) :
    Reaches document bench
      (compileContainer (contextOf engine document) compile chain (.capture table key :: address) location rules)
      fun retokenize after =>
        ∃ id, retokenize = some id ∧ CaptureLinked document after bench.rules.size address table key rule id := by
  let opened : Compilation := { bench with rules := bench.rules.push .invalid }
  have openedReady : Ready document fuel chain opened :=
    ⟨ready.view, ready.known, ⟨ready.healthy.distinct, ready.healthy.placed⟩, ready.enough⟩
  have inside : ∀ offset child, rules.toList[offset]? = some child →
      document.ruleAt? (.pattern (0 + offset) :: .capture table key :: address) = some child := by
    intro offset child found
    rw [Nat.zero_add]
    exact rule_at_pattern document _ rule child offset placed (by rw [present]; exact found)
  have view : document.Sees (document.inView (.capture table key :: address)) (.capture table key :: address) chain := by
    rw [in_view_without document _ address (enclosed.parts (.capture table key :: address) rfl)]
    exact sees_inside document _ _ _ _ (List.suffix_cons _ _) sees
  obtain ⟨onward, linked⟩ := compile_patterns_reaches enclosed engine compiles openedReady (.capture table key :: address)
    location 0 rules.toList view inside
  have ends : compileContainer (contextOf engine document) compile chain (.capture table key :: address) location rules
      bench = (some bench.rules.size, filled bench _ (.container ⟨none, none, _⟩)) := rfl
  generalize compilePatterns (contextOf engine document) compile chain (.capture table key :: address) location 0
    rules.toList opened = outcome at onward linked ends
  obtain ⟨refs, middle⟩ := outcome
  constructor
  · rw [ends]
    refine filled_onward bench opened middle _ rfl onward (fun _ _ same => same) (Nat.le_refl _)
      (fun healthy => ⟨healthy.distinct, healthy.placed⟩) rfl ?_
    intro other id missing found
    rw [missing] at found
    cases found
  · rw [ends]
    exact ⟨_, rfl, rules, refs, present, Nat.le_refl _, filled_rule bench opened middle _ rfl onward,
      patterns_grow (filled_grows bench middle _) _ _ _ _ linked⟩

def compileRetokenized (context : Context) (compile : RuleCompiler) (chain : Chain) (owner : Address)
    (location : String) : OptionalRules → Compiling (Option Nat)
  | .absent => pure none
  | .present rules => compileContainer context compile chain owner location rules

theorem compile_retokenized_reaches (address : Address) (table key location : String) (rule : RuleDocument)
    (floor : Nat) (low : floor ≤ bench.rules.size) (sees : document.Sees (document.inView address) address chain)
    (placed : document.ruleAt? (.capture table key :: address) = some rule) :
    Reaches document bench
      (compileRetokenized (contextOf engine document) compile chain (.capture table key :: address) location rule.patterns)
      fun retokenize after =>
        (∀ id, retokenize = some id → CaptureLinked document after floor address table key rule id) ∧
        (rule.patterns.isPresent → ∃ id, CaptureLinked document after floor address table key rule id) := by
  cases patterns : rule.patterns with
  | absent =>
      refine reaches_pure _ _ ⟨?_, ?_⟩
      · intro id isId
        cases isId
      · intro present
        cases present
  | present rules =>
      obtain ⟨onward, id, isId, linked⟩ := compile_container_reaches enclosed engine compiles ready address table key
        location rule rules patterns sees placed
      have lowered := capture_grows (grows_refl _ _) low _ _ _ _ _ linked
      refine ⟨onward, ?_, fun _ => ⟨id, lowered⟩⟩
      intro other isOther
      cases isId.symm.trans isOther
      exact lowered

omit compiles ready enclosed in
theorem compile_captures_cons (context : Context) (owner : Address) (table location key : String)
    (rule : RuleDocument) (rest : List (String × RuleDocument)) (captures : CaptureTable) :
    compileCaptures context compile chain owner table location ((key, rule) :: rest) captures =
      match groupOfKey? key with
      | none => do
        report (join location key) (.invalidShape (.captureKey key))
        compileCaptures context compile chain owner table location rest captures
      | some group =>
        compileRetokenized context compile chain (.capture table key :: owner) (join location key) rule.patterns >>=
          fun retokenize => claimGroup group >>= fun _ =>
            compileCaptures context compile chain owner table location rest
              (CaptureTable.put group ⟨rule.keys.name, rule.keys.contentName, retokenize⟩ captures) := by
  rw [compileCaptures]
  cases groupOfKey? key with
  | none => rfl
  | some group => cases rule.patterns <;> rfl

omit compiles ready enclosed in
theorem mem_capture_put (group other : Nat) (rule capture : CaptureRule) (captures : CaptureTable)
    (member : (other, capture) ∈ CaptureTable.put group rule captures) :
    (other = group ∧ capture = rule) ∨ (other, capture) ∈ captures := by
  induction captures with
  | nil => exact .inl (Prod.mk.inj (List.mem_singleton.mp member))
  | cons first rest ih =>
      rw [CaptureTable.put] at member
      split at member
      · exact (List.mem_cons.mp member).imp_left Prod.mk.inj
      · split at member
        · rcases List.mem_cons.mp member with new | old
          · exact .inl (Prod.mk.inj new)
          · exact .inr (List.mem_cons_of_mem _ old)
        · rcases List.mem_cons.mp member with here | later
          · exact .inr (here ▸ List.mem_cons_self)
          · exact (ih later).imp_right (List.mem_cons_of_mem _)

omit compiles ready enclosed in
theorem captures_compiled_cons (floor : Nat) (address : Address) (table key : String) (rule : RuleDocument)
    (rest : List (String × RuleDocument))
    (head : (groupOfKey? key).isSome → rule.patterns.isPresent →
      ∃ id, CaptureLinked document bench floor address table key rule id)
    (tail : CapturesCompiled document bench floor address (table, rest)) :
    CapturesCompiled document bench floor address (table, (key, rule) :: rest) := by
  intro other child member
  rcases List.mem_cons.mp member with here | later
  · cases here
    exact head
  · exact tail other child later

theorem compile_captures_reaches (address : Address) (table location : String) (all entries : List (String × RuleDocument))
    (listed : entries ⊆ all) (captures : CaptureTable) (floor : Nat) (low : floor ≤ bench.rules.size)
    (sees : document.Sees (document.inView address) address chain)
    (placed : ∀ key rule, (key, rule) ∈ entries → document.ruleAt? (.capture table key :: address) = some rule)
    (used : CapturesUsed document bench floor address (table, all) captures) :
    Reaches document bench
      (compileCaptures (contextOf engine document) compile chain address table location entries captures)
      fun captures after => CapturesUsed document after floor address (table, all) captures ∧
        CapturesCompiled document after floor address (table, entries) := by
  induction entries generalizing bench captures with
  | nil => exact reaches_pure _ _ ⟨used, fun _ _ member => nomatch member⟩
  | cons entry rest ih =>
      obtain ⟨key, rule⟩ := entry
      obtain ⟨isListed, restListed⟩ := List.cons_subset.mp listed
      have restPlaced := fun other child member => placed other child (List.mem_cons_of_mem _ member)
      rw [compile_captures_cons]
      cases group : groupOfKey? key with
      | none =>
          refine reaches_bind _ _ _ _ (reaches_report _ _) ?_
          intro _ middle onward _
          obtain ⟨further, usedThen, compiled⟩ := ih (ready_onward ready onward) restListed captures
            (Nat.le_trans low onward.size) restPlaced
            (captures_used_grow (onward.grows_from floor) (Nat.le_refl _) _ _ _ used)
          refine ⟨further, usedThen, captures_compiled_cons floor address table key rule rest ?_ compiled⟩
          intro isGroup
          rw [group] at isGroup
          cases isGroup
      | some group' =>
          refine reaches_bind _ _ _ _ (compile_retokenized_reaches enclosed engine compiles ready address table key
            (join location key) rule floor low sees (placed key rule List.mem_cons_self)) ?_
          rintro retokenize middle onward ⟨isContainer, hasContainer⟩
          have usedNow : CapturesUsed document middle floor address (table, all)
              (CaptureTable.put group' ⟨rule.keys.name, rule.keys.contentName, retokenize⟩ captures) := by
            intro number capture id member isId
            rcases mem_capture_put _ _ _ _ _ member with ⟨rfl, rfl⟩ | old
            · exact ⟨key, rule, isListed, group, isContainer id isId⟩
            · exact captures_used_grow (onward.grows_from floor) (Nat.le_refl _) _ _ _ used number capture id old isId
          refine reaches_bind _ _ _ _ (reaches_claim group') ?_
          intro _ claimed claims _
          have onwards := onward.trans claims
          obtain ⟨further, usedThen, compiled⟩ := ih (ready_onward ready onwards) restListed _
            (Nat.le_trans low onwards.size) restPlaced
            (captures_used_grow (claims.grows_from floor) (Nat.le_refl _) _ _ _ usedNow)
          refine ⟨further, usedThen, captures_compiled_cons floor address table key rule rest ?_ compiled⟩
          intro _ present
          obtain ⟨id, linked⟩ := hasContainer present
          exact ⟨id, capture_grows ((claims.trans further).grows_from floor) (Nat.le_refl _) _ _ _ _ _ linked⟩

omit compiles ready enclosed in
theorem shape_reference (keys : RuleKeys) (target : String) (shape : keys.shape = .ok (.reference target)) :
    keys.includeTarget = some target := by
  rw [RuleKeys.shape] at shape
  split at shape
  · rename_i found isTarget
    split at shape
    · cases shape
    · split at shape
      · cases shape
      · cases shape
        exact isTarget
  · split at shape <;> cases shape

variable (distinct : document.Distinct) (site : Site) (placed : document.ruleAt? site.address = some site.rule)
  (sees : document.Sees (document.inView site.address) site.address chain)

include distinct placed sees

theorem compile_captures_or_reaches (floor : Nat) (low : floor ≤ bench.rules.size) (location key : String)
    (own : OptionalTable) (isOwn : own = site.rule.captureTable key) :
    Reaches document bench (compileCapturesOr (contextOf engine document) compile chain site location key own)
      fun captures after =>
        CapturesLinked document after floor site.address (site.rule.capturesOr key) captures := by
  have inTable : ∀ table key rule, (key, rule) ∈ (site.rule.captureTable table).entries →
      document.ruleAt? (.capture table key :: site.address) = some rule := fun table key rule member =>
    rule_at_capture document site.address site.rule rule table key placed (distinct.captures _ _ placed table) member
  have compileAll : ∀ table, Reaches document bench
      (compileCaptures (contextOf engine document) compile chain site.address table (join location table)
        (site.rule.captureTable table).entries [])
      fun captures after =>
        CapturesLinked document after floor site.address (table, (site.rule.captureTable table).entries) captures := by
    intro table
    obtain ⟨onward, used, compiled⟩ := compile_captures_reaches enclosed engine compiles ready site.address table
      (join location table) _ _ (List.Subset.refl _) [] floor low sees (inTable table)
      (fun _ _ _ member => nomatch member)
    exact ⟨onward, used, compiled⟩
  subst isOwn
  rw [RuleDocument.capturesOr]
  cases captures : site.rule.captureTable key with
  | present table =>
      have here := compileAll key
      rw [captures] at here
      exact here
  | absent => exact compileAll "captures"

omit distinct in
theorem compile_children_reaches (location : String) :
    Reaches document bench
      (compilePatterns (contextOf engine document) compile chain site.address location 0 site.rule.patterns.items)
      fun refs after => PatternsLinked document after site.address 0 site.rule.patterns.items refs := by
  refine compile_patterns_reaches enclosed engine compiles ready _ _ _ _ sees ?_
  intro offset rule found
  rw [Nat.zero_add]
  exact rule_at_pattern document _ site.rule rule offset placed found

theorem compile_block_reaches (location opening closing closingPlace key : String) (own : OptionalTable)
    (isOwn : own = site.rule.captureTable key)
    (build : String → CaptureTable → String → CaptureTable → List PatternRef → Rule) (holds : Rule → Compilation → Prop)
    (links : ∀ (beginCaptures endCaptures : CaptureTable) (refs : List PatternRef) (after : Compilation),
      CapturesLinked document after bench.rules.size site.address (site.rule.capturesOr "beginCaptures") beginCaptures →
      CapturesLinked document after bench.rules.size site.address (site.rule.capturesOr key) endCaptures →
      PatternsLinked document after site.address 0 site.rule.patterns.items refs →
      holds (build opening beginCaptures closing endCaptures refs) after) :
    Reaches document bench
      (do
        let beginPattern ← checkPattern engine opening (join location "begin") false
        let beginCaptures ← compileCapturesOr (contextOf engine document) compile chain site location "beginCaptures"
          site.rule.beginCaptures
        let endPattern ← checkPattern engine closing closingPlace true
        let endCaptures ← compileCapturesOr (contextOf engine document) compile chain site location key own
        let patterns ← compilePatterns (contextOf engine document) compile chain site.address location 0
          site.rule.patterns.items
        return build beginPattern beginCaptures endPattern endCaptures patterns)
      holds := by
  refine reaches_bind _ _ _ _ (reaches_check_pattern _ opening _ false) ?_
  rintro _ opened toOpened rfl
  refine reaches_bind _ _ _ _ (compile_captures_or_reaches enclosed engine compiles (ready_onward ready toOpened) distinct
    site placed sees bench.rules.size toOpened.size location "beginCaptures" _ rfl) ?_
  intro beginCaptures begun toBegun beginLinked
  refine reaches_bind _ _ _ _ (reaches_check_pattern _ closing _ true) ?_
  rintro _ closed toClosed rfl
  have soFar := (toOpened.trans toBegun).trans toClosed
  refine reaches_bind _ _ _ _ (compile_captures_or_reaches enclosed engine compiles (ready_onward ready soFar) distinct
    site placed sees bench.rules.size soFar.size location key own isOwn) ?_
  intro endCaptures ended toEnded endLinked
  refine reaches_bind _ _ _ _ (compile_children_reaches enclosed engine compiles
    (ready_onward ready (soFar.trans toEnded)) site placed sees location) ?_
  intro refs last toLast linked
  refine reaches_pure _ _ (links beginCaptures endCaptures refs last ?_ ?_ linked)
  · exact captures_grow (((toClosed.trans toEnded).trans toLast).grows_from _) (Nat.le_refl _) _ _ _ beginLinked
  · exact captures_grow (toLast.grows_from _) (Nat.le_refl _) _ _ _ endLinked

theorem compile_shape_reaches (location : String) :
    Reaches document bench (compileShape (contextOf engine document) compile chain site location) fun rule after =>
      ShapeLinked document after bench.rules.size site.address site.rule rule := by
  rw [compileShape]
  cases shape : site.rule.keys.shape with
  | error error =>
      refine reaches_bind _ _ _ _ (reaches_report _ _) ?_
      exact fun _ middle _ _ => reaches_pure _ _ (.refused error shape)
  | ok kind =>
      cases kind with
      | reference target =>
          have includes := shape_reference site.rule.keys target shape
          refine reaches_bind _ _ _ _ (compile_include_reaches enclosed engine compiles ready site.address site.rule target
            location sees placed includes) ?_
          exact fun found middle _ denotes => reaches_pure _ _ (.reference target found shape denotes)
      | container =>
          refine reaches_bind _ _ _ _ (compile_children_reaches enclosed engine compiles ready site placed sees location) ?_
          exact fun refs middle _ linked => reaches_pure _ _ (.container refs shape linked)
      | single source =>
          refine reaches_bind _ _ _ _ (reaches_check_pattern _ source _ false) ?_
          rintro _ checked toChecked rfl
          refine reaches_bind _ _ _ _ (compile_captures_or_reaches enclosed engine compiles (ready_onward ready toChecked)
            distinct site placed sees bench.rules.size toChecked.size location "captures" _ rfl) ?_
          exact fun captures middle _ linked => reaches_pure _ _ (.single _ captures shape linked)
      | beginEnd opening closing =>
          refine compile_block_reaches enclosed engine compiles ready distinct site placed sees location opening closing
            (join location "end") "endCaptures" _ rfl (fun _ _ _ _ _ => .beginEnd ⟨_, _, _, _, _, _, _, _⟩) _ ?_
          exact fun beginCaptures endCaptures refs _ beginLinked endLinked linked =>
            .beginEnd _ _ beginCaptures endCaptures refs shape beginLinked endLinked linked
      | beginWhile opening continuing =>
          refine compile_block_reaches enclosed engine compiles ready distinct site placed sees location opening
            continuing (join location "while") "whileCaptures" _ rfl
            (fun _ _ _ _ _ => .beginWhile ⟨_, _, _, _, _, _, _⟩) _ ?_
          exact fun beginCaptures whileCaptures refs _ beginLinked whileLinked linked =>
            .beginWhile _ _ beginCaptures whileCaptures refs shape beginLinked whileLinked linked

end Parts

section Rules

variable {document : Document} (enclosed : document.Enclosed) (distinct : document.Distinct) (engine : Pattern.Engine)

def Compilation.opening (bench : Compilation) (address : Address) : Compilation :=
  { bench with rules := bench.rules.push .invalid, ids := (address, bench.rules.size) :: bench.ids }

theorem opening_lookup_self (bench : Compilation) (address : Address) :
    (bench.opening address).ids.lookup address = some bench.rules.size := by
  rw [Compilation.opening, lookup_cons_eq, if_pos rfl]

theorem opening_lookup_kept (bench : Compilation) (address other : Address) (id : Nat)
    (missing : bench.ids.lookup address = none) (found : bench.ids.lookup other = some id) :
    (bench.opening address).ids.lookup other = some id := by
  rw [Compilation.opening, lookup_cons_eq, if_neg]
  · exact found
  · rintro rfl
    rw [missing] at found
    cases found

theorem opening_lookup_added (bench : Compilation) (address other : Address) (id : Nat)
    (missing : bench.ids.lookup other = none) (found : (bench.opening address).ids.lookup other = some id) :
    other = address ∧ id = bench.rules.size := by
  rw [Compilation.opening, lookup_cons_eq] at found
  split at found
  · rename_i same
    cases found
    exact ⟨same, rfl⟩
  · rw [missing] at found
    cases found

theorem opening_healthy (bench : Compilation) (address : Address) (rule : RuleDocument)
    (placed : document.ruleAt? address = some rule) (missing : bench.ids.lookup address = none)
    (healthy : Healthy document bench) : Healthy document (bench.opening address) where
  distinct := by
    refine List.nodup_cons.mpr ⟨fun member => ?_, healthy.distinct⟩
    obtain ⟨entry, listed, same⟩ := List.mem_map.mp member
    have differs : address ≠ entry.1 := by simpa using List.lookup_eq_none_iff.mp missing entry listed
    exact differs same.symm
  placed := List.forall_mem_cons.mpr ⟨Option.isSome_of_eq_some placed, healthy.placed⟩

theorem opening_ready (fuel : Nat) (chain : Chain) (bench : Compilation) (site : Site)
    (ready : Ready document (fuel + 1) chain bench)
    (sees : document.Sees (document.inView site.address.tail) site.address chain)
    (placed : document.ruleAt? site.address = some site.rule) (missing : bench.ids.lookup site.address = none) :
    Ready document fuel (site.chain chain) (bench.opening site.address) ∧
      document.Sees (document.inView site.address) site.address (site.chain chain) := by
  obtain ⟨rule, address⟩ := site
  cases address with
  | nil => cases placed
  | cons step owner =>
      have isTable : document.tableAt? (step :: owner) = rule.repository.table? := by
        rw [Document.tableAt?, placed, Option.bind_some]
      have stays : ∀ entry ∈ chain, entry.1 = [] ∨ ((bench.opening (step :: owner)).ids.lookup entry.1).isSome := by
        intro entry member
        refine (ready.known entry member).imp_right fun found => ?_
        obtain ⟨id, found⟩ := Option.isSome_iff_exists.mp found
        exact Option.isSome_of_eq_some (opening_lookup_kept bench _ _ id missing found)
      have healthy := opening_healthy bench (step :: owner) rule placed missing ready.healthy
      have enough : document.size < (bench.opening (step :: owner)).ids.length + fuel := by
        have before := ready.enough
        rw [Compilation.opening, List.length_cons]
        omega
      rw [Site.chain]
      cases repository : rule.repository with
      | absent =>
          rw [repository] at isTable
          rw [in_view_without document step owner isTable]
          exact ⟨⟨ready.view, stays, healthy, enough⟩, sees⟩
      | present table =>
          rw [repository] at isTable
          have new : step :: owner ∉ chain.map Prod.fst := by
            intro member
            obtain ⟨entry, listed, same⟩ := List.mem_map.mp member
            rcases ready.known entry listed with top | found
            · rw [same] at top
              cases top
            · rw [same, missing] at found
              cases found
          refine ⟨⟨.inner step owner table chain ready.view isTable sees.around new, ?_, healthy, enough⟩,
            sees_own document chain step owner table isTable sees⟩
          exact List.forall_mem_cons.mpr ⟨.inr (Option.isSome_of_eq_some (opening_lookup_self bench _)), stays⟩

theorem get_bind {α : Type} (next : Compilation → Compiling α) (bench : Compilation) :
    (get >>= next) bench = next bench bench := rfl

theorem compile_rule_remembered (context : Context) (fuel : Nat) (chain : Chain) (site : Site) (location : String)
    (bench : Compilation) (id : Nat) (known : bench.ids.lookup site.address = some id) :
    compileRule context (fuel + 1) chain site location bench = (id, bench) := by
  rw [compileRule, get_bind, known]
  rfl

theorem compile_rule_new (context : Context) (fuel : Nat) (chain : Chain) (site : Site) (location : String)
    (bench : Compilation) (missing : bench.ids.lookup site.address = none) :
    compileRule context (fuel + 1) chain site location bench =
      (bench.rules.size,
        filled bench
          (compileShape context (compileRule context fuel) (site.chain chain) site location
            (bench.opening site.address)).2
          (compileShape context (compileRule context fuel) (site.chain chain) site location
            (bench.opening site.address)).1) := by
  rw [compileRule, get_bind, missing]
  rfl

include enclosed distinct

theorem compile_rule_compiles (fuel : Nat) :
    CompilesRules document fuel (compileRule (contextOf engine document) fuel) := by
  -- The fuel is never used up, since a rule that is entered was not remembered.
  induction fuel with
  | zero =>
      intro chain site location bench ready sees placed
      have few := addresses_le_size document _ ready.healthy.distinct ready.healthy.placed
      have enough := ready.enough
      rw [List.length_map] at few
      omega
  | succ fuel ih =>
      intro chain site location bench ready sees placed
      cases known : bench.ids.lookup site.address with
      | some id =>
          have ends := compile_rule_remembered (contextOf engine document) fuel chain site location bench id known
          constructor
          · rw [ends]
            exact .refl bench
          · rw [ends]
            exact known
      | none =>
          obtain ⟨openingReady, inside⟩ := opening_ready fuel chain bench site ready sees placed known
          obtain ⟨onward, linked⟩ := compile_shape_reaches enclosed engine ih openingReady distinct site placed inside
            location
          have ends := compile_rule_new (contextOf engine document) fuel chain site location bench known
          generalize compileShape (contextOf engine document) (compileRule (contextOf engine document) fuel)
            (site.chain chain) site location (bench.opening site.address) = outcome at onward linked ends
          obtain ⟨compiled, middle⟩ := outcome
          have shape : ShapeLinked document middle (bench.rules.size + 1) site.address site.rule compiled := by
            rw [← Array.size_push .invalid]
            exact linked
          have linkedRule : RuleLinked document (filled bench middle compiled) bench.rules.size site.address
              bench.rules.size :=
            ⟨Nat.le_refl _, site.rule, compiled, placed, filled_rule bench _ middle compiled rfl onward,
              shape_grows (filled_grows bench middle compiled) (Nat.le_succ _) _ _ _ shape⟩
          constructor
          · rw [ends]
            refine filled_onward bench _ middle compiled rfl onward
              (fun other id => opening_lookup_kept bench site.address other id known) (Nat.le_succ _)
              (opening_healthy bench site.address site.rule placed known) rfl ?_
            intro other id missing found
            obtain ⟨rfl, rfl⟩ := opening_lookup_added bench site.address other id missing found
            exact linkedRule
          · rw [ends]
            exact onward.grows.ids _ _ (opening_lookup_self bench site.address)

end Rules

end LineScope.Grammar
