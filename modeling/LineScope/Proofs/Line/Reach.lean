import LineScope.Proofs.Line.Memory
import Mathlib.Data.Finset.Card

/-!
The patterns that are collected for a rule are those of the rules it reaches through containers. The
search marks a container before it looks at its children and passes it by from then on. It is told
here as a relation without a bound; that it is never cut short, that it comes to nothing but what is
reached, and that it leaves out nothing of it are three facts about the relation.
-/

set_option autoImplicit false

namespace LineScope

def RuleRef.IsContainer (ref : RuleRef) : Prop := ∃ rule, ref.rule = .container rule

namespace Line

def childrenOf (resolve : Resolver) (base : Grammar) (owner : RuleRef) : List RuleRef :=
  owner.rule.patterns.filterMap (childOf resolve base owner)

inductive Reached (resolve : Resolver) (base : Grammar) (start : RuleRef) : RuleRef → Prop
  | child (ref : RuleRef) (listed : ref ∈ childrenOf resolve base start) : Reached resolve base start ref
  | through (container ref : RuleRef) (before : Reached resolve base start container)
      (isContainer : container.IsContainer) (listed : ref ∈ childrenOf resolve base container) :
      Reached resolve base start ref

structure Gathered where
  entries : List Entry
  expanded : List (String × Nat)

def Gathered.add (state : Gathered) (entry : Entry) : Gathered := { state with entries := state.entries ++ [entry] }

def Gathered.mark (state : Gathered) (ref : RuleRef) : Gathered :=
  { state with expanded := ref.identity :: state.expanded }

def Collection.gathered (collection : Collection) : Gathered := ⟨collection.set, collection.expanded⟩

inductive Gathers (resolve : Resolver) (base : Grammar) : List RuleRef → Gathered → Gathered → Prop
  | nil (state : Gathered) : Gathers resolve base [] state state
  | entry (ref : RuleRef) (rest : List RuleRef) (pattern : String) (state after : Gathered)
      (starts : ref.rule.startPattern? = some pattern) (later : Gathers resolve base rest (state.add ⟨ref, pattern⟩) after) :
      Gathers resolve base (ref :: rest) state after
  | again (ref : RuleRef) (rest : List RuleRef) (state after : Gathered) (starts : ref.rule.startPattern? = none)
      (seen : ref.identity ∈ state.expanded) (later : Gathers resolve base rest state after) :
      Gathers resolve base (ref :: rest) state after
  | fresh (ref : RuleRef) (rest : List RuleRef) (state middle after : Gathered) (starts : ref.rule.startPattern? = none)
      (unseen : ref.identity ∉ state.expanded)
      (inside : Gathers resolve base (childrenOf resolve base ref) (state.mark ref) middle)
      (later : Gathers resolve base rest middle after) : Gathers resolve base (ref :: rest) state after

structure Surveyed (known : List Grammar) (resolve : Resolver) (base : Grammar) : Prop where
  distinct : ∀ first ∈ known, ∀ second ∈ known, first.key = second.key → first = second
  base : base ∈ known
  resolved : ∀ scope rule ref, resolve scope rule = some ref → ref.grammar ∈ known

section Children

variable {resolve : Resolver} {base : Grammar} {known : List Grammar}

theorem rule_with_children (owner ref : RuleRef) (listed : ref ∈ childrenOf resolve base owner) :
    owner.rule.patterns ≠ [] := by
  intro empty
  rw [childrenOf, empty] at listed
  cases listed

theorem container_of_child (owner ref : RuleRef) (starts : owner.rule.startPattern? = none)
    (listed : ref ∈ childrenOf resolve base owner) : owner.IsContainer := by
  have children := rule_with_children owner ref listed
  cases isRule : owner.rule with
  | container rule => exact ⟨rule, isRule⟩
  | single rule => simp [isRule, Grammar.Rule.startPattern?] at starts
  | beginEnd rule => simp [isRule, Grammar.Rule.startPattern?] at starts
  | beginWhile rule => simp [isRule, Grammar.Rule.startPattern?] at starts
  | invalid => simp [isRule, Grammar.Rule.patterns] at children

theorem container_starts (ref : RuleRef) (isContainer : ref.IsContainer) : ref.rule.startPattern? = none := by
  obtain ⟨rule, isRule⟩ := isContainer
  rw [isRule]
  rfl

theorem child_known (surveyed : Surveyed known resolve base) (owner ref : RuleRef) (isKnown : owner.grammar ∈ known)
    (listed : ref ∈ childrenOf resolve base owner) : ref.grammar ∈ known := by
  obtain ⟨pattern, _, isChild⟩ := List.mem_filterMap.mp listed
  cases pattern with
  | rule id =>
      cases isChild
      exact isKnown
  | base =>
      cases isChild
      exact surveyed.base
  | external scope rule => exact surveyed.resolved scope rule ref isChild

theorem identity_known (surveyed : Surveyed known resolve base) (first second : RuleRef) (isFirst : first.grammar ∈ known)
    (isSecond : second.grammar ∈ known) (same : first.identity = second.identity) : first = second := by
  obtain ⟨grammar, id⟩ := first
  obtain ⟨other, otherId⟩ := second
  obtain ⟨sameKey, sameId⟩ := Prod.mk.inj same
  have grammars : grammar = other := surveyed.distinct grammar isFirst other isSecond sameKey
  exact congr (congrArg RuleRef.mk grammars) sameId

theorem library_surveyed (library : Library) (within : library.Within known) (base : Grammar) (isBase : base ∈ known) :
    Surveyed known library.resolve base where
  distinct := within.distinct
  base := isBase
  resolved := resolve_within library within

theorem reached_from_child (start middle ref : RuleRef) (listed : middle ∈ childrenOf resolve base start)
    (isContainer : middle.IsContainer) (reached : Reached resolve base middle ref) : Reached resolve base start ref := by
  induction reached with
  | child ref inside => exact .through middle ref (.child middle listed) isContainer inside
  | through container ref _ isInner inside ih => exact .through container ref ih isInner inside

theorem reached_first (start ref : RuleRef) (reached : Reached resolve base start ref) :
    ∃ child ∈ childrenOf resolve base start, ref = child ∨ child.IsContainer ∧ Reached resolve base child ref := by
  induction reached with
  | child ref listed => exact ⟨ref, listed, .inl rfl⟩
  | through container ref _ isContainer listed ih =>
      obtain ⟨child, isChild, there⟩ := ih
      refine ⟨child, isChild, .inr ?_⟩
      rcases there with rfl | ⟨isFirst, reached⟩
      · exact ⟨isContainer, .child ref listed⟩
      · exact ⟨isFirst, .through container ref reached isContainer listed⟩

theorem reached_known (surveyed : Surveyed known resolve base) (start ref : RuleRef) (isKnown : start.grammar ∈ known)
    (reached : Reached resolve base start ref) : ref.grammar ∈ known := by
  induction reached with
  | child ref listed => exact child_known surveyed start ref isKnown listed
  | through container ref _ _ listed ih => exact child_known surveyed container ref ih listed

end Children

section Gathering

variable {resolve : Resolver} {base : Grammar}

theorem gathers_append (first second : List RuleRef) (state middle after : Gathered)
    (begins : Gathers resolve base first state middle) (goesOn : Gathers resolve base second middle after) :
    Gathers resolve base (first ++ second) state after := by
  induction begins with
  | nil state => exact goesOn
  | entry ref rest pattern state _ starts _ ih => exact .entry ref _ pattern state after starts (ih goesOn)
  | again ref rest state _ starts seen _ ih => exact .again ref _ state after starts seen (ih goesOn)
  | fresh ref rest state inner _ starts unseen inside _ _ ih =>
      exact .fresh ref _ state inner after starts unseen inside (ih goesOn)

theorem gathers_grow (refs : List RuleRef) (state after : Gathered) (gathers : Gathers resolve base refs state after) :
    state.entries <+: after.entries ∧ state.expanded <:+ after.expanded := by
  induction gathers with
  | nil state => exact ⟨List.prefix_refl _, List.suffix_refl _⟩
  | entry ref rest pattern state after _ _ ih => exact ⟨(List.prefix_append _ _).trans ih.1, ih.2⟩
  | again ref rest state after _ _ _ ih => exact ih
  | fresh ref rest state middle after _ _ _ _ inner outer =>
      exact ⟨inner.1.trans outer.1, ((List.suffix_cons _ _).trans inner.2).trans outer.2⟩

theorem gathers_distinct (refs : List RuleRef) (state after : Gathered) (gathers : Gathers resolve base refs state after)
    (distinct : state.expanded.Nodup) : after.expanded.Nodup := by
  induction gathers with
  | nil state => exact distinct
  | entry ref rest pattern state after _ _ ih => exact ih distinct
  | again ref rest state after _ _ _ ih => exact ih distinct
  | fresh ref rest state middle after _ unseen _ _ inner outer =>
      exact outer (inner (List.nodup_cons.mpr ⟨unseen, distinct⟩))

theorem gathers_unique (refs : List RuleRef) (state after other : Gathered) (gathers : Gathers resolve base refs state after)
    (gathersOther : Gathers resolve base refs state other) : after = other := by
  induction gathers generalizing other with
  | nil state =>
      cases gathersOther
      rfl
  | entry ref rest pattern state after starts _ ih =>
      cases gathersOther with
      | entry _ _ found _ _ isPattern later =>
          cases starts.symm.trans isPattern
          exact ih other later
      | again _ _ _ _ nothing => cases starts.symm.trans nothing
      | fresh _ _ _ _ _ nothing => cases starts.symm.trans nothing
  | again ref rest state after starts seen _ ih =>
      cases gathersOther with
      | entry _ _ _ _ _ isPattern => cases starts.symm.trans isPattern
      | again _ _ _ _ _ _ later => exact ih other later
      | fresh _ _ _ _ _ _ unseen => exact absurd seen unseen
  | fresh ref rest state middle after starts unseen _ _ inner outer =>
      cases gathersOther with
      | entry _ _ _ _ _ isPattern => cases starts.symm.trans isPattern
      | again _ _ _ _ _ seen => exact absurd seen unseen
      | fresh _ _ _ otherMiddle _ _ _ inside later =>
          cases inner otherMiddle inside
          exact outer other later

theorem gathers_sound (refs : List RuleRef) (state after : Gathered) (gathers : Gathers resolve base refs state after)
    (entry : Entry) (found : entry ∈ after.entries) :
    entry ∈ state.entries ∨ entry.rule.rule.startPattern? = some entry.pattern ∧
      ∃ ref ∈ refs, entry.rule = ref ∨ ref.IsContainer ∧ Reached resolve base ref entry.rule := by
  induction gathers with
  | nil state => exact .inl found
  | entry ref rest pattern state after starts _ ih =>
      rcases ih found with before | ⟨isPattern, other, listed, there⟩
      · rcases List.mem_append.mp before with old | new
        · exact .inl old
        · cases List.mem_singleton.mp new
          exact .inr ⟨starts, ref, List.mem_cons_self, .inl rfl⟩
      · exact .inr ⟨isPattern, other, List.mem_cons_of_mem _ listed, there⟩
  | again ref rest state after _ _ _ ih =>
      refine (ih found).imp_right ?_
      rintro ⟨isPattern, other, listed, there⟩
      exact ⟨isPattern, other, List.mem_cons_of_mem _ listed, there⟩
  | fresh ref rest state middle after starts _ _ _ inner outer =>
      rcases outer found with before | ⟨isPattern, other, listed, there⟩
      · refine (inner before).imp_right ?_
        rintro ⟨isPattern, child, listed, there⟩
        have isContainer := container_of_child ref child starts listed
        refine ⟨isPattern, ref, List.mem_cons_self, .inr ⟨isContainer, ?_⟩⟩
        rcases there with same | ⟨isInner, reached⟩
        · exact .child _ (same ▸ listed)
        · exact reached_from_child ref child entry.rule listed isInner reached
      · exact .inr ⟨isPattern, other, List.mem_cons_of_mem _ listed, there⟩

-- A rule has been seen to: its pattern is there, or it has been marked.
def Handled (state : Gathered) (ref : RuleRef) : Prop :=
  match ref.rule.startPattern? with
  | some pattern => ⟨ref, pattern⟩ ∈ state.entries
  | none => ref.identity ∈ state.expanded

theorem handled_grows (refs : List RuleRef) (state after : Gathered) (gathers : Gathers resolve base refs state after)
    (ref : RuleRef) (handled : Handled state ref) : Handled after ref := by
  obtain ⟨entries, expanded⟩ := gathers_grow refs state after gathers
  rw [Handled] at handled ⊢
  split
  · rename_i pattern starts
    rw [starts] at handled
    exact entries.subset handled
  · rename_i starts
    rw [starts] at handled
    exact expanded.subset handled

variable {known : List Grammar} (surveyed : Surveyed known resolve base)

include surveyed

theorem gathers_complete (refs : List RuleRef) (state after : Gathered) (gathers : Gathers resolve base refs state after)
    (areKnown : ∀ ref ∈ refs, ref.grammar ∈ known) :
    (∀ ref ∈ refs, Handled after ref) ∧
      ∀ owner : RuleRef, owner.grammar ∈ known → owner.identity ∈ after.expanded →
        owner.identity ∈ state.expanded ∨ ∀ child ∈ childrenOf resolve base owner, Handled after child := by
  induction gathers with
  | nil state => exact ⟨List.forall_mem_nil _, fun owner _ marked => .inl marked⟩
  | entry ref rest pattern state after starts later ih =>
      obtain ⟨others, closed⟩ := ih (List.forall_mem_cons.mp areKnown).2
      refine ⟨List.forall_mem_cons.mpr ⟨handled_grows rest _ after later ref ?_, others⟩, closed⟩
      rw [Handled, starts]
      exact List.mem_append_right _ (List.mem_singleton_self _)
  | again ref rest state after starts seen later ih =>
      obtain ⟨others, closed⟩ := ih (List.forall_mem_cons.mp areKnown).2
      refine ⟨List.forall_mem_cons.mpr ⟨handled_grows rest _ after later ref ?_, others⟩, closed⟩
      rw [Handled, starts]
      exact seen
  | fresh ref rest state middle after starts unseen inside later inner outer =>
      obtain ⟨isKnown, restKnown⟩ := List.forall_mem_cons.mp areKnown
      obtain ⟨children, innerClosed⟩ := inner fun child listed => child_known surveyed ref child isKnown listed
      obtain ⟨others, closed⟩ := outer restKnown
      have kept := handled_grows rest middle after later
      constructor
      · refine List.forall_mem_cons.mpr ⟨kept ref ?_, others⟩
        rw [Handled, starts]
        exact (gathers_grow _ _ _ inside).2.subset List.mem_cons_self
      · intro owner ownerKnown marked
        rcases closed owner ownerKnown marked with before | done
        · rcases innerClosed owner ownerKnown before with opened | done
          · rcases List.mem_cons.mp opened with same | old
            · cases identity_known surveyed owner ref ownerKnown isKnown same
              exact .inr fun child listed => kept child (children child listed)
            · exact .inl old
          · exact .inr fun child listed => kept child (done child listed)
        · exact .inr done

-- A search among the children of a rule, which itself counts as marked, comes to all that is reached.
theorem gathers_reached (start : RuleRef) (isKnown : start.grammar ∈ known) (after : Gathered)
    (gathers : Gathers resolve base (childrenOf resolve base start) ⟨[], [start.identity]⟩ after) (ref : RuleRef)
    (reached : Reached resolve base start ref) : Handled after ref := by
  obtain ⟨children, closed⟩ := gathers_complete surveyed _ _ after gathers fun child listed =>
    child_known surveyed start child isKnown listed
  induction reached with
  | child ref listed => exact children ref listed
  | through container ref before isContainer listed ih =>
      have containerKnown := reached_known surveyed start container isKnown before
      rw [Handled, container_starts container isContainer] at ih
      rcases closed container containerKnown ih with first | done
      · cases identity_known surveyed container start containerKnown isKnown (List.mem_singleton.mp first)
        exact children ref listed
      · exact done ref listed

theorem gathered_children_iff (start : RuleRef) (isKnown : start.grammar ∈ known) (after : Gathered)
    (gathers : Gathers resolve base (childrenOf resolve base start) ⟨[], [start.identity]⟩ after) (ref : RuleRef)
    (pattern : String) :
    ⟨ref, pattern⟩ ∈ after.entries ↔ ref.rule.startPattern? = some pattern ∧ Reached resolve base start ref := by
  constructor
  · intro found
    rcases gathers_sound _ _ after gathers _ found with impossible | ⟨isPattern, child, listed, there⟩
    · cases impossible
    · refine ⟨isPattern, ?_⟩
      rcases there with rfl | ⟨isContainer, reached⟩
      · exact .child _ listed
      · exact reached_from_child start child ref listed isContainer reached
  · rintro ⟨starts, reached⟩
    have handled := gathers_reached surveyed start isKnown after gathers ref reached
    rwa [Handled, starts] at handled

end Gathering

-- No search is cut short: every step inwards marks another rule, and their number is limited.
section Ending

def rulesOf (grammars : List Grammar) : List (String × Nat) :=
  grammars.flatMap fun grammar => (List.range grammar.ruleCount).map fun id => (grammar.key, id)

theorem rules_of_length (grammars : List Grammar) : (rulesOf grammars).length = Grammar.totalRules grammars := by
  induction grammars with
  | nil => rfl
  | cons grammar rest ih =>
      rw [rulesOf, List.flatMap_cons, List.length_append, List.length_map, List.length_range, Grammar.totalRules, ← ih]
      rfl

def unmarked (known : List Grammar) (state : Gathered) : Finset (String × Nat) :=
  (rulesOf known).toFinset \ state.expanded.toFinset

theorem unmarked_le (known : List Grammar) (state : Gathered) : (unmarked known state).card ≤ Grammar.totalRules known := by
  rw [← rules_of_length]
  exact (Finset.card_le_card Finset.sdiff_subset).trans (List.toFinset_card_le _)

theorem unmarked_mono (known : List Grammar) (state after : Gathered) (grows : state.expanded ⊆ after.expanded) :
    (unmarked known after).card ≤ (unmarked known state).card := by
  refine Finset.card_le_card (Finset.sdiff_subset_sdiff (Finset.Subset.refl _) ?_)
  intro identity marked
  exact List.mem_toFinset.mpr (grows (List.mem_toFinset.mp marked))

theorem identity_listed (known : List Grammar) (ref : RuleRef) (isKnown : ref.grammar ∈ known)
    (present : ref.rule ≠ .invalid) : ref.identity ∈ rulesOf known := by
  have inside : ref.id < ref.grammar.ruleCount := by
    by_contra outside
    apply present
    rw [RuleRef.rule, Grammar.rule, Array.getD_eq_getD_getElem?, Array.getElem?_eq_none (Nat.le_of_not_lt outside)]
    rfl
  exact List.mem_flatMap.mpr ⟨ref.grammar, isKnown, List.mem_map.mpr ⟨ref.id, List.mem_range.mpr inside, rfl⟩⟩

theorem unmarked_mark (known : List Grammar) (state : Gathered) (ref : RuleRef) (listed : ref.identity ∈ rulesOf known)
    (unseen : ref.identity ∉ state.expanded) : (unmarked known (state.mark ref)).card < (unmarked known state).card := by
  refine Finset.card_lt_card (Finset.ssubset_iff_subset_ne.mpr ⟨?_, ?_⟩)
  · refine Finset.sdiff_subset_sdiff (Finset.Subset.refl _) ?_
    intro identity marked
    exact List.mem_toFinset.mpr (List.mem_cons_of_mem _ (List.mem_toFinset.mp marked))
  · intro same
    have before : ref.identity ∈ unmarked known state :=
      Finset.mem_sdiff.mpr ⟨List.mem_toFinset.mpr listed, fun marked => unseen (List.mem_toFinset.mp marked)⟩
    rw [← same] at before
    exact (Finset.mem_sdiff.mp before).2 (List.mem_toFinset.mpr List.mem_cons_self)

variable {resolve : Resolver} {base : Grammar} {known : List Grammar} (surveyed : Surveyed known resolve base)

theorem collect_children_gathers (owner : RuleRef) (add : RuleRef → Collection → Collection) (bound : Nat)
    (adds : ∀ child collection, child ∈ childrenOf resolve base owner → (unmarked known collection.gathered).card < bound →
      Gathers resolve base [child] collection.gathered (add child collection).gathered)
    (patterns : List Grammar.PatternRef) (listed : patterns ⊆ owner.rule.patterns) (collection : Collection)
    (enough : (unmarked known collection.gathered).card < bound) :
    Gathers resolve base (patterns.filterMap (childOf resolve base owner)) collection.gathered
      (collectChildren resolve base owner add patterns collection).gathered := by
  induction patterns generalizing collection with
  | nil => exact .nil _
  | cons pattern rest ih =>
      obtain ⟨isListed, others⟩ := List.cons_subset.mp listed
      rw [collectChildren]
      cases isChild : childOf resolve base owner pattern with
      | none =>
          rw [List.filterMap_cons_none isChild]
          exact ih others (collection.follow (includeOf pattern)) enough
      | some child =>
          rw [List.filterMap_cons_some isChild]
          dsimp only
          have first := adds child (collection.follow (includeOf pattern))
            (List.mem_filterMap.mpr ⟨pattern, isListed, isChild⟩) enough
          have fewer := unmarked_mono known _ _ (gathers_grow _ _ _ first).2.subset
          exact gathers_append [child] _ _ _ _ first (ih others _ (Nat.lt_of_le_of_lt fewer enough))

include surveyed

theorem collect_rule_gathers (fuel : Nat) (ref : RuleRef) (isKnown : ref.grammar ∈ known) (collection : Collection)
    (enough : (unmarked known collection.gathered).card < fuel) :
    Gathers resolve base [ref] collection.gathered (collectRule resolve base fuel ref collection).gathered := by
  -- The fuel is more than the number of rules left to mark.
  induction fuel generalizing ref collection with
  | zero => exact absurd enough (Nat.not_lt_zero _)
  | succ fuel ih =>
      rw [collectRule]
      cases starts : ref.rule.startPattern? with
      | some pattern =>
          refine .entry ref [] pattern _ _ starts ?_
          have added : collection.gathered.add ⟨ref, pattern⟩ =
              Collection.gathered { collection with entries := ⟨ref, pattern⟩ :: collection.entries } := by
            simp [Collection.gathered, Collection.set, Gathered.add]
          rw [added]
          exact .nil _
      | none =>
          dsimp only
          split
          · rename_i seen
            exact .again ref [] _ _ starts (List.contains_iff_mem.mp seen) (.nil _)
          · rename_i unseen
            have isNew : ref.identity ∉ collection.gathered.expanded := fun marked =>
              unseen (List.contains_iff_mem.mpr marked)
            refine .fresh ref [] _ _ _ starts isNew ?_ (.nil _)
            let marked : Collection := { collection with expanded := ref.identity :: collection.expanded }
            by_cases children : ref.rule.patterns = []
            · rw [childrenOf, children]
              exact .nil _
            · have present : ref.rule ≠ .invalid := by
                intro refused
                rw [refused] at children
                exact children rfl
              have listed := identity_listed known ref isKnown present
              have fewer := unmarked_mark known collection.gathered ref listed isNew
              refine collect_children_gathers ref _ fuel ?_ _ (List.Subset.refl _) marked
                (Nat.lt_of_lt_of_le fewer (Nat.le_of_lt_succ enough))
              exact fun child collection isChild enough =>
                ih child (child_known surveyed ref child isKnown isChild) collection enough

end Ending

def Mode.sought (mode : Mode) (resolve : Resolver) (base : Grammar) (target : RuleRef) : List RuleRef :=
  match mode with
  | .children => childrenOf resolve base target
  | .included => [target]

def Mode.start (mode : Mode) (target : RuleRef) : Gathered :=
  match mode with
  | .children => ⟨[], [target.identity]⟩
  | .included => ⟨[], []⟩

def Mode.Wants (mode : Mode) (resolve : Resolver) (base : Grammar) (target ref : RuleRef) : Prop :=
  match mode with
  | .children => Reached resolve base target ref
  | .included => ref = target ∨ target.IsContainer ∧ Reached resolve base target ref

section Collecting

variable (resolve : Resolver) (others : List Grammar) (base : Grammar) (target : RuleRef)
  (surveyed : Surveyed (base :: target.grammar :: others) resolve base)

include surveyed

theorem collect_gathers (mode : Mode) :
    Gathers resolve base (mode.sought resolve base target) (mode.start target)
      (collect resolve (Grammar.totalRules others) base mode target).gathered := by
  have enough : ∀ state, (unmarked (base :: target.grammar :: others) state).card <
      Grammar.totalRules others + base.ruleCount + target.grammar.ruleCount + 1 := by
    intro state
    have bound := unmarked_le (base :: target.grammar :: others) state
    rw [Grammar.totalRules, Grammar.totalRules] at bound
    omega
  have isKnown : target.grammar ∈ base :: target.grammar :: others := List.mem_cons_of_mem _ List.mem_cons_self
  cases mode with
  | included => exact collect_rule_gathers surveyed _ target isKnown {} (enough _)
  | children =>
      refine collect_children_gathers target _ _ ?_ _ (List.Subset.refl _) { expanded := [target.identity] } (enough _)
      exact fun child collection isChild enough =>
        collect_rule_gathers surveyed _ child (child_known surveyed target child isKnown isChild) collection enough

theorem collect_mem_iff (mode : Mode) (ref : RuleRef) (pattern : String) :
    ⟨ref, pattern⟩ ∈ (collect resolve (Grammar.totalRules others) base mode target).set ↔
      ref.rule.startPattern? = some pattern ∧ mode.Wants resolve base target ref := by
  have isKnown : target.grammar ∈ base :: target.grammar :: others := List.mem_cons_of_mem _ List.mem_cons_self
  have gathers := collect_gathers resolve others base target surveyed mode
  change ⟨ref, pattern⟩ ∈ (collect resolve (Grammar.totalRules others) base mode target).gathered.entries ↔ _
  generalize (collect resolve (Grammar.totalRules others) base mode target).gathered = after at gathers ⊢
  cases mode with
  | children => exact gathered_children_iff surveyed target isKnown after gathers ref pattern
  | included =>
      -- A container is replaced by its children; a rule with a pattern stands for itself.
      cases gathers with
      | entry _ _ found _ _ starts later =>
          cases later
          have alone : ¬ target.IsContainer := by
            intro isContainer
            cases (container_starts target isContainer).symm.trans starts
          simp only [Mode.start, Gathered.add, List.nil_append, List.mem_singleton, Entry.mk.injEq, Mode.Wants, alone,
            false_and, or_false]
          constructor
          · rintro ⟨rfl, rfl⟩
            exact ⟨starts, rfl⟩
          · rintro ⟨isPattern, rfl⟩
            exact ⟨rfl, Option.some.inj (isPattern.symm.trans starts)⟩
      | again _ _ _ _ _ seen _ => cases seen
      | fresh _ _ _ middle _ starts _ inside later =>
          cases later
          rw [gathered_children_iff surveyed target isKnown after inside ref pattern, Mode.Wants]
          refine and_congr_right fun isPattern => ?_
          constructor
          · intro reached
            obtain ⟨child, listed, _⟩ := reached_first target ref reached
            exact .inr ⟨container_of_child target child starts listed, reached⟩
          · rintro (rfl | ⟨_, reached⟩)
            · cases starts.symm.trans isPattern
            · exact reached

theorem collects_exactly_reached (mode : Mode) :
    let collection := collect resolve (Grammar.totalRules others) base mode target
    (∀ after, Gathers resolve base (mode.sought resolve base target) (mode.start target) after ↔
      after = collection.gathered) ∧
    collection.expanded.Nodup ∧
    ∀ ref pattern, ⟨ref, pattern⟩ ∈ collection.set ↔
      ref.rule.startPattern? = some pattern ∧ mode.Wants resolve base target ref := by
  have gathers := collect_gathers resolve others base target surveyed mode
  refine ⟨?_, ?_, collect_mem_iff resolve others base target surveyed mode⟩
  · intro after
    constructor
    · exact fun other => gathers_unique _ _ _ _ other gathers
    · rintro rfl
      exact gathers
  · refine gathers_distinct _ _ _ gathers ?_
    cases mode with
    | children => exact List.nodup_singleton _
    | included => exact List.nodup_nil

end Collecting

section Example

-- Two grammars that include each other, one of them without naming the other.
def hostGrammar : Grammar :=
  .ofRules "host" #[.container ⟨none, none, [.rule 1, .external "guest" none]⟩,
    .container ⟨none, none, [.rule 0, .rule 2, .rule 2]⟩, .single ⟨none, "a", []⟩]

def guestGrammar : Grammar :=
  .ofRules "guest" #[.container ⟨none, none, [.external "nobody" none, .base, .rule 1]⟩,
    .beginEnd ⟨none, none, "b", [], "c", [], false, [.rule 0]⟩]

def hostLibrary : Library := ⟨[("guest", guestGrammar)], []⟩

theorem host_collects_guest :
    hostLibrary.Within [hostGrammar, hostGrammar, guestGrammar] ∧
      patternSet hostLibrary hostGrammar .children ⟨hostGrammar, 0⟩ =
        [⟨⟨hostGrammar, 2⟩, "a"⟩, ⟨⟨hostGrammar, 2⟩, "a"⟩, ⟨⟨guestGrammar, 1⟩, "b"⟩] ∧
      Reached hostLibrary.resolve hostGrammar ⟨hostGrammar, 0⟩ ⟨guestGrammar, 1⟩ := by
  have within : hostLibrary.Within [hostGrammar, hostGrammar, guestGrammar] := ⟨by decide, by decide⟩
  have set : patternSet hostLibrary hostGrammar .children ⟨hostGrammar, 0⟩ =
      [⟨⟨hostGrammar, 2⟩, "a"⟩, ⟨⟨hostGrammar, 2⟩, "a"⟩, ⟨⟨guestGrammar, 1⟩, "b"⟩] := rfl
  obtain ⟨_, _, exactly⟩ := collects_exactly_reached hostLibrary.resolve [guestGrammar] hostGrammar ⟨hostGrammar, 0⟩
    (library_surveyed hostLibrary within hostGrammar (by decide)) .children
  have found : ⟨⟨guestGrammar, 1⟩, "b"⟩ ∈ patternSet hostLibrary hostGrammar .children ⟨hostGrammar, 0⟩ := by
    rw [set]
    simp
  exact ⟨within, set, ((exactly ⟨guestGrammar, 1⟩ "b").mp found).2⟩

end Example

end Line

end LineScope
