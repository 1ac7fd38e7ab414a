import LineScope.Proofs.Line.Reach
import LineScope.Proofs.Line.Winner

/-!
Expanding a container once is enough. Written out in full, a container is replaced by the patterns of
all its children each time it occurs; the search passes it by from the second time on. What it leaves
out then stands further up already, as long as no container leads back to itself, and a pattern that
stands further up wins every tie. So the match that is found is the same.
-/

set_option autoImplicit false

namespace LineScope.Line

-- Some rules written out in full. Without cycles there is one way to do it, and with a cycle none.
inductive Expands (resolve : Resolver) (base : Grammar) : List RuleRef → List Entry → Prop
  | nil : Expands resolve base [] []
  | entry (ref : RuleRef) (rest : List RuleRef) (pattern : String) (entries : List Entry)
      (starts : ref.rule.startPattern? = some pattern) (later : Expands resolve base rest entries) :
      Expands resolve base (ref :: rest) (⟨ref, pattern⟩ :: entries)
  | whole (ref : RuleRef) (rest : List RuleRef) (inner entries : List Entry) (starts : ref.rule.startPattern? = none)
      (inside : Expands resolve base (childrenOf resolve base ref) inner) (later : Expands resolve base rest entries) :
      Expands resolve base (ref :: rest) (inner ++ entries)

def Acyclic (resolve : Resolver) (base : Grammar) (start : RuleRef) : Prop :=
  ∀ ref, ref = start ∨ Reached resolve base start ref → ref.IsContainer → ¬ Reached resolve base ref ref

section Absorbing

def SameMatches (first second : List Entry) : Prop :=
  ∀ search : Entry → Option Found, earliest Found.start search first = earliest Found.start search second

theorem same_matches_append (first second more : List Entry) (same : SameMatches first second) :
    SameMatches (first ++ more) (second ++ more) := by
  intro search
  rw [earliest_append, earliest_append, same search]

theorem earlier_of_mem (search : Entry → Option Found) (entries : List Entry) (entry : Entry) (listed : entry ∈ entries) :
    earlier Found.start (earliest Found.start search entries) (search entry) = earliest Found.start search entries := by
  cases best : earliest Found.start search entries with
  | none =>
      rw [(earliest_eq_none Found.start search entries).mp best entry listed]
      rfl
  | some first =>
      refine earlier_of_le Found.start first _ ?_
      intro found there
      obtain ⟨rank, _, least⟩ := earliest_least_rank Found.start search entries first best
      obtain ⟨index, place⟩ := List.mem_iff_getElem?.mp listed
      have order := least index entry found place there
      omega

theorem same_matches_absorb (entries more : List Entry) (listed : ∀ entry ∈ more, entry ∈ entries) :
    SameMatches entries (entries ++ more) := by
  intro search
  rw [earliest_append]
  induction more with
  | nil => rw [earliest, earlier_none]
  | cons entry rest ih =>
      obtain ⟨isListed, others⟩ := List.forall_mem_cons.mp listed
      rw [earliest, ← earlier_assoc, earlier_of_mem search entries entry isListed]
      exact ih others

end Absorbing

section Expanding

variable {resolve : Resolver} {base : Grammar}

theorem acyclic_child (owner child : RuleRef) (acyclic : Acyclic resolve base owner)
    (listed : child ∈ childrenOf resolve base owner) (isContainer : child.IsContainer) : Acyclic resolve base child := by
  intro ref there
  apply acyclic ref
  rcases there with rfl | reached
  · exact .inr (.child ref listed)
  · exact .inr (reached_from_child owner child ref listed isContainer reached)

theorem expansion_mem_iff (refs : List RuleRef) (expansion : List Entry) (expands : Expands resolve base refs expansion)
    (ref : RuleRef) (pattern : String) :
    ⟨ref, pattern⟩ ∈ expansion ↔ ref.rule.startPattern? = some pattern ∧
      ∃ first ∈ refs, ref = first ∨ first.IsContainer ∧ Reached resolve base first ref := by
  induction expands with
  | nil => simp
  | entry first rest found entries starts _ ih =>
      have alone : ¬ first.IsContainer := by
        intro isContainer
        cases (container_starts first isContainer).symm.trans starts
      simp only [List.mem_cons, Entry.mk.injEq, ih, exists_eq_or_imp, alone, false_and, or_false]
      constructor
      · rintro (⟨rfl, rfl⟩ | ⟨isPattern, later⟩)
        · exact ⟨starts, .inl rfl⟩
        · exact ⟨isPattern, .inr later⟩
      · rintro ⟨isPattern, rfl | later⟩
        · exact .inl ⟨rfl, Option.some.inj (isPattern.symm.trans starts)⟩
        · exact .inr ⟨isPattern, later⟩
  | whole first rest inner entries starts _ _ inside ih =>
      simp only [List.mem_append, inside, ih, List.mem_cons, exists_eq_or_imp, ← and_or_left]
      refine and_congr_right fun isPattern => or_congr_left ?_
      constructor
      · rintro ⟨child, listed, there⟩
        refine .inr ⟨container_of_child first child starts listed, ?_⟩
        rcases there with rfl | ⟨isContainer, reached⟩
        · exact .child ref listed
        · exact reached_from_child first child ref listed isContainer reached
      · rintro (rfl | ⟨_, reached⟩)
        · cases starts.symm.trans isPattern
        · exact reached_first first ref reached

def Finished (resolve : Resolver) (base : Grammar) (state : Gathered) (owner : RuleRef) : Prop :=
  ∀ ref pattern, Reached resolve base owner ref → ref.rule.startPattern? = some pattern → ⟨ref, pattern⟩ ∈ state.entries

variable {known : List Grammar} (surveyed : Surveyed known resolve base)

-- Every rule that has been marked is finished, or the search is still among its children.
def Settles (resolve : Resolver) (base : Grammar) (known : List Grammar) (path : List RuleRef) (state : Gathered) : Prop :=
  ∀ owner : RuleRef, owner.grammar ∈ known → owner.identity ∈ state.expanded → owner ∈ path ∨ Finished resolve base state owner

theorem finished_of_expansion (owner : RuleRef) (inner : List Entry) (state : Gathered)
    (expands : Expands resolve base (childrenOf resolve base owner) inner) (found : ∀ entry ∈ inner, entry ∈ state.entries) :
    Finished resolve base state owner := by
  intro ref pattern reached isPattern
  refine found _ ((expansion_mem_iff _ inner expands ref pattern).mpr ⟨isPattern, ?_⟩)
  exact reached_first owner ref reached

theorem expansion_of_finished (owner : RuleRef) (inner : List Entry) (state : Gathered)
    (starts : owner.rule.startPattern? = none) (expands : Expands resolve base (childrenOf resolve base owner) inner)
    (finished : Finished resolve base state owner) : ∀ entry ∈ inner, entry ∈ state.entries := by
  rintro ⟨ref, pattern⟩ listed
  have whole : Expands resolve base [owner] (inner ++ []) := .whole owner [] inner [] starts expands .nil
  rw [List.append_nil] at whole
  obtain ⟨isPattern, first, isFirst, there⟩ := (expansion_mem_iff _ inner whole ref pattern).mp listed
  cases List.mem_singleton.mp isFirst
  rcases there with rfl | ⟨_, reached⟩
  · cases starts.symm.trans isPattern
  · exact finished ref pattern reached isPattern

theorem settles_add (path : List RuleRef) (state : Gathered) (entry : Entry)
    (settles : Settles resolve base known path state) : Settles resolve base known path (state.add entry) := by
  intro owner isKnown marked
  refine (settles owner isKnown marked).imp_right ?_
  exact fun finished ref pattern reached isPattern => List.mem_append_left _ (finished ref pattern reached isPattern)

theorem settles_left (path : List RuleRef) (ref : RuleRef) (inner : List Entry) (state : Gathered)
    (expands : Expands resolve base (childrenOf resolve base ref) inner) (found : ∀ entry ∈ inner, entry ∈ state.entries)
    (settles : Settles resolve base known (ref :: path) state) : Settles resolve base known path state := by
  intro owner isKnown marked
  rcases settles owner isKnown marked with around | finished
  · rcases List.mem_cons.mp around with rfl | outside
    · exact .inr (finished_of_expansion owner inner state expands found)
    · exact .inl outside
  · exact .inr finished

-- Rules that are searched for inside the rules of a path: none of these is met again.
structure Beneath (resolve : Resolver) (base : Grammar) (known : List Grammar) (path refs : List RuleRef) : Prop where
  known : ∀ ref ∈ refs, ref.grammar ∈ known
  below : ∀ ancestor ∈ path, ∀ ref ∈ refs, Reached resolve base ancestor ref
  acyclic : ∀ ref ∈ refs, ref.IsContainer → Acyclic resolve base ref

theorem beneath_tail (path : List RuleRef) (ref : RuleRef) (rest : List RuleRef)
    (beneath : Beneath resolve base known path (ref :: rest)) : Beneath resolve base known path rest where
  known other listed := beneath.known other (List.mem_cons_of_mem _ listed)
  below ancestor isAncestor other listed := beneath.below ancestor isAncestor other (List.mem_cons_of_mem _ listed)
  acyclic other listed := beneath.acyclic other (List.mem_cons_of_mem _ listed)

theorem beneath_not_around (path : List RuleRef) (ref : RuleRef) (rest : List RuleRef)
    (beneath : Beneath resolve base known path (ref :: rest)) (starts : ref.rule.startPattern? = none) : ref ∉ path := by
  intro around
  have back := beneath.below ref around ref List.mem_cons_self
  obtain ⟨child, listed, _⟩ := reached_first ref ref back
  have isContainer := container_of_child ref child starts listed
  exact beneath.acyclic ref List.mem_cons_self isContainer ref (.inl rfl) isContainer back

include surveyed

theorem settles_mark (path : List RuleRef) (state : Gathered) (ref : RuleRef) (isKnown : ref.grammar ∈ known)
    (settles : Settles resolve base known path state) : Settles resolve base known (ref :: path) (state.mark ref) := by
  intro owner ownerKnown isMarked
  rcases List.mem_cons.mp isMarked with same | old
  · cases identity_known surveyed owner ref ownerKnown isKnown same
    exact .inl List.mem_cons_self
  · exact (settles owner ownerKnown old).imp_left (List.mem_cons_of_mem _)

theorem beneath_children (path : List RuleRef) (ref : RuleRef) (rest : List RuleRef)
    (beneath : Beneath resolve base known path (ref :: rest)) (starts : ref.rule.startPattern? = none) :
    Beneath resolve base known (ref :: path) (childrenOf resolve base ref) := by
  have isKnown := beneath.known ref List.mem_cons_self
  refine ⟨fun child listed => child_known surveyed ref child isKnown listed, ?_, ?_⟩
  · refine List.forall_mem_cons.mpr ⟨fun child listed => .child child listed, ?_⟩
    intro ancestor isAncestor child listed
    have before := beneath.below ancestor isAncestor ref List.mem_cons_self
    exact .through ref child before (container_of_child ref child starts listed) listed
  · intro child listed
    have isContainer := container_of_child ref child starts listed
    exact acyclic_child ref child (beneath.acyclic ref List.mem_cons_self isContainer) listed

theorem gathers_expansion (refs : List RuleRef) (state after : Gathered) (gathers : Gathers resolve base refs state after)
    (path : List RuleRef) (expansion : List Entry) (expands : Expands resolve base refs expansion)
    (beneath : Beneath resolve base known path refs) (settles : Settles resolve base known path state) :
    SameMatches after.entries (state.entries ++ expansion) ∧ (∀ entry ∈ expansion, entry ∈ after.entries) ∧
      Settles resolve base known path after := by
  induction gathers generalizing path expansion with
  | nil state =>
      cases expands
      rw [List.append_nil]
      exact ⟨fun _ => rfl, List.forall_mem_nil _, settles⟩
  | entry ref rest pattern state after starts later ih =>
      cases expands with
      | whole _ _ _ _ nothing => cases starts.symm.trans nothing
      | entry _ _ found entries isPattern others =>
          cases starts.symm.trans isPattern
          obtain ⟨same, found, settled⟩ := ih path entries others (beneath_tail path ref rest beneath)
            (settles_add path state ⟨ref, pattern⟩ settles)
          refine ⟨?_, List.forall_mem_cons.mpr ⟨?_, found⟩, settled⟩
          · rwa [Gathered.add, List.append_assoc] at same
          · exact (gathers_grow _ _ _ later).1.subset (List.mem_append_right _ (List.mem_singleton_self _))
  | again ref rest state after starts seen later ih =>
      -- A rule that is passed by is finished: its patterns, which are left out here, have been collected before.
      cases expands with
      | entry _ _ _ _ isPattern => cases starts.symm.trans isPattern
      | whole _ _ inner entries _ inside others =>
          have finished := (settles ref (beneath.known ref List.mem_cons_self) seen).resolve_left
            (beneath_not_around path ref rest beneath starts)
          have before := expansion_of_finished ref inner state starts inside finished
          obtain ⟨same, found, settled⟩ := ih path entries others (beneath_tail path ref rest beneath) settles
          refine ⟨?_, List.forall_mem_append.mpr ⟨?_, found⟩, settled⟩
          · have absorbed := same_matches_append _ _ entries (same_matches_absorb state.entries inner before)
            intro search
            rw [same search, absorbed search, List.append_assoc]
          · exact fun entry listed => (gathers_grow _ _ _ later).1.subset (before entry listed)
  | fresh ref rest state middle after starts unseen inside later inner outer =>
      -- A rule is finished when its children have been searched inside it.
      cases expands with
      | entry _ _ _ _ isPattern => cases starts.symm.trans isPattern
      | whole _ _ innerEntries entries _ innerExpands others =>
          have marked := settles_mark surveyed path state ref (beneath.known ref List.mem_cons_self) settles
          obtain ⟨innerSame, innerFound, innerSettled⟩ := inner (ref :: path) innerEntries innerExpands
            (beneath_children surveyed path ref rest beneath starts) marked
          have left := settles_left path ref innerEntries middle innerExpands innerFound innerSettled
          obtain ⟨same, found, settled⟩ := outer path entries others (beneath_tail path ref rest beneath) left
          refine ⟨?_, List.forall_mem_append.mpr ⟨?_, found⟩, settled⟩
          · intro search
            rw [same search, same_matches_append _ _ entries innerSame search, List.append_assoc]
            rfl
          · exact fun entry listed => (gathers_grow _ _ _ later).1.subset (innerFound entry listed)

end Expanding

-- Without cycles every rule can be written out: a container inside another reaches fewer of them.
section Existing

variable {resolve : Resolver} {base : Grammar} {known : List Grammar}

open Classical in
noncomputable def containersBelow (resolve : Resolver) (base : Grammar) (known : List Grammar) (start : RuleRef) :
    Finset (String × Nat) :=
  (rulesOf known).toFinset.filter fun identity =>
    ∃ ref : RuleRef, ref.grammar ∈ known ∧ ref.identity = identity ∧ ref.IsContainer ∧ Reached resolve base start ref

open Classical in
theorem containers_below_card (start : RuleRef) :
    (containersBelow resolve base known start).card ≤ (rulesOf known).toFinset.card := by
  rw [containersBelow]
  exact Finset.card_filter_le _ _

variable (surveyed : Surveyed known resolve base)

include surveyed

open Classical in
theorem mem_containers_below (start ref : RuleRef) (isKnown : ref.grammar ∈ known) :
    ref.identity ∈ containersBelow resolve base known start ↔ ref.IsContainer ∧ Reached resolve base start ref := by
  rw [containersBelow, Finset.mem_filter, List.mem_toFinset]
  constructor
  · rintro ⟨_, other, otherKnown, same, there⟩
    cases identity_known surveyed other ref otherKnown isKnown same
    exact there
  · rintro ⟨isContainer, reached⟩
    refine ⟨identity_listed known ref isKnown ?_, ref, isKnown, rfl, isContainer, reached⟩
    obtain ⟨rule, isRule⟩ := isContainer
    rw [isRule]
    exact Grammar.Rule.noConfusion

open Classical in
theorem fewer_containers_below (owner child : RuleRef) (isKnown : owner.grammar ∈ known)
    (acyclic : Acyclic resolve base owner) (listed : child ∈ childrenOf resolve base owner) (isContainer : child.IsContainer) :
    (containersBelow resolve base known child).card < (containersBelow resolve base known owner).card := by
  have childKnown := child_known surveyed owner child isKnown listed
  refine Finset.card_lt_card (Finset.ssubset_iff_subset_ne.mpr ⟨?_, ?_⟩)
  · intro identity inside
    obtain ⟨isRule, ref, refKnown, same, isInner, reached⟩ := Finset.mem_filter.mp inside
    exact Finset.mem_filter.mpr ⟨isRule, ref, refKnown, same, isInner,
      reached_from_child owner child ref listed isContainer reached⟩
  · intro same
    have below := (mem_containers_below surveyed owner child childKnown).mpr ⟨isContainer, .child child listed⟩
    rw [← same, mem_containers_below surveyed child child childKnown] at below
    exact acyclic child (.inr (.child child listed)) isContainer below.2

theorem expansion_exists (bound : Nat) (refs : List RuleRef) (areKnown : ∀ ref ∈ refs, ref.grammar ∈ known)
    (limited : ∀ ref ∈ refs, ref.IsContainer → Acyclic resolve base ref ∧ (containersBelow resolve base known ref).card < bound) :
    ∃ expansion, Expands resolve base refs expansion := by
  -- On a bound for the containers below, and then on the list.
  induction bound using Nat.strong_induction_on generalizing refs with
  | _ bound inwards =>
      induction refs with
      | nil => exact ⟨[], .nil⟩
      | cons ref rest ih =>
          obtain ⟨isKnown, restKnown⟩ := List.forall_mem_cons.mp areKnown
          obtain ⟨isLimited, restLimited⟩ := List.forall_mem_cons.mp limited
          obtain ⟨entries, later⟩ := ih restKnown restLimited
          cases starts : ref.rule.startPattern? with
          | some pattern => exact ⟨⟨ref, pattern⟩ :: entries, .entry ref rest pattern entries starts later⟩
          | none =>
              suffices ∃ inner, Expands resolve base (childrenOf resolve base ref) inner by
                obtain ⟨inner, inside⟩ := this
                exact ⟨inner ++ entries, .whole ref rest inner entries starts inside later⟩
              by_cases isContainer : ref.IsContainer
              · obtain ⟨acyclic, fewer⟩ := isLimited isContainer
                refine inwards _ fewer _ (fun child listed => child_known surveyed ref child isKnown listed) ?_
                intro child listed isInner
                exact ⟨acyclic_child ref child acyclic listed isInner,
                  fewer_containers_below surveyed ref child isKnown acyclic listed isInner⟩
              · have childless : childrenOf resolve base ref = [] := by
                  refine List.eq_nil_iff_forall_not_mem.mpr fun child listed => ?_
                  exact isContainer (container_of_child ref child starts listed)
                exact ⟨[], childless ▸ .nil⟩

end Existing

section Searching

-- Among the children of a rule the search is inside that rule from the outset.
def Mode.path (mode : Mode) (target : RuleRef) : List RuleRef :=
  match mode with
  | .children => [target]
  | .included => []

variable (resolve : Resolver) (others : List Grammar) (base : Grammar) (target : RuleRef)
  (surveyed : Surveyed (base :: target.grammar :: others) resolve base)

include surveyed

theorem sought_beneath (acyclic : Acyclic resolve base target) (mode : Mode) :
    Beneath resolve base (base :: target.grammar :: others) (mode.path target) (mode.sought resolve base target) := by
  have isKnown : target.grammar ∈ base :: target.grammar :: others := List.mem_cons_of_mem _ List.mem_cons_self
  cases mode with
  | children =>
      refine ⟨fun child listed => child_known surveyed target child isKnown listed, ?_, ?_⟩
      · exact List.forall_mem_singleton.mpr fun child listed => .child child listed
      · exact fun child listed isContainer => acyclic_child target child acyclic listed isContainer
  | included =>
      exact ⟨List.forall_mem_singleton.mpr isKnown, List.forall_mem_nil _, List.forall_mem_singleton.mpr fun _ => acyclic⟩

theorem start_settles (mode : Mode) :
    Settles resolve base (base :: target.grammar :: others) (mode.path target) (mode.start target) := by
  have isKnown : target.grammar ∈ base :: target.grammar :: others := List.mem_cons_of_mem _ List.mem_cons_self
  intro owner ownerKnown marked
  cases mode with
  | children =>
      cases identity_known surveyed owner target ownerKnown isKnown (List.mem_singleton.mp marked)
      exact .inl (List.mem_singleton_self _)
  | included => cases marked

theorem collect_same_matches (acyclic : Acyclic resolve base target) (mode : Mode) (expansion : List Entry)
    (expands : Expands resolve base (mode.sought resolve base target) expansion) :
    SameMatches (collect resolve (Grammar.totalRules others) base mode target).set expansion := by
  obtain ⟨same, _⟩ := gathers_expansion surveyed _ _ _ (collect_gathers resolve others base target surveyed mode)
    (mode.path target) expansion expands (sought_beneath resolve others base target surveyed acyclic mode)
    (start_settles resolve others base target surveyed mode)
  have empty : (mode.start target).entries = [] := by cases mode <;> rfl
  rwa [empty, List.nil_append] at same

theorem expanding_once_changes_no_match (acyclic : Acyclic resolve base target) (mode : Mode) :
    (∃ expansion, Expands resolve base (mode.sought resolve base target) expansion) ∧
    ∀ expansion, Expands resolve base (mode.sought resolve base target) expansion →
      ∀ (tokenizer : Tokenizer) (search : Search), tokenizer.engine.SearchesForward search.text search.pos →
        findFirst tokenizer.engine (collect resolve (Grammar.totalRules others) base mode target).set search.text search.pos
            search.anchors =
          earliest Found.start (entrySearch? tokenizer search) expansion := by
  constructor
  · have beneath := sought_beneath resolve others base target surveyed acyclic mode
    refine expansion_exists surveyed ((rulesOf (base :: target.grammar :: others)).toFinset.card + 1) _ beneath.known ?_
    intro ref isSought isContainer
    exact ⟨beneath.acyclic ref isSought isContainer, Nat.lt_succ_of_le (containers_below_card ref)⟩
  · intro expansion expands tokenizer search forward
    rw [findFirst, find_from_earliest tokenizer search none _ forward]
    exact collect_same_matches resolve others base target surveyed acyclic mode expansion expands _

end Searching

theorem acyclic_of_forward (resolve : Resolver) (base : Grammar) (refs : List RuleRef) (start : RuleRef)
    (isStart : start ∈ refs)
    (forward : ∀ ref ∈ refs, ∀ child ∈ childrenOf resolve base ref, child ∈ refs ∧ ref.id < child.id) :
    Acyclic resolve base start := by
  have onward : ∀ first ∈ refs, ∀ ref, Reached resolve base first ref → ref ∈ refs ∧ first.id < ref.id := by
    intro first isFirst ref reached
    induction reached with
    | child ref listed => exact forward first isFirst ref listed
    | through container ref _ _ listed ih =>
        obtain ⟨isRef, next⟩ := forward container ih.1 ref listed
        exact ⟨isRef, ih.2.trans next⟩
  intro ref there _ back
  have isRef : ref ∈ refs := by
    rcases there with rfl | reached
    · exact isStart
    · exact (onward start isStart ref reached).1
  exact Nat.lt_irrefl _ (onward ref isRef ref back).2

section Example

def sharedGrammar : Grammar :=
  .ofRules "shared" #[.container ⟨none, none, [.rule 1, .rule 2]⟩, .container ⟨none, none, [.rule 3, .rule 4]⟩,
    .container ⟨none, none, [.rule 3, .rule 5]⟩, .container ⟨none, none, [.rule 6]⟩,
    .single ⟨none, "b", []⟩, .single ⟨none, "a", []⟩, .single ⟨none, "a+", []⟩]

def sharedTokenizer : Tokenizer := .make .backtracking .empty {} sharedGrammar none

def sharedRule (id : Nat) : RuleRef := ⟨sharedGrammar, id⟩

theorem shared_expansion_same_match :
    let search : Search := ⟨['c', 'a', 'b'], 0, ⟨true, false⟩⟩
    let collected := patternSet sharedTokenizer.library sharedGrammar .children (sharedRule 0)
    collected = [⟨sharedRule 6, "a+"⟩, ⟨sharedRule 4, "b"⟩, ⟨sharedRule 5, "a"⟩] ∧
    findFirst sharedTokenizer.engine collected search.text search.pos search.anchors =
      earliest Found.start (entrySearch? sharedTokenizer search)
        [⟨sharedRule 6, "a+"⟩, ⟨sharedRule 4, "b"⟩, ⟨sharedRule 6, "a+"⟩, ⟨sharedRule 5, "a"⟩] := by
  intro search collected
  have within : sharedTokenizer.library.Within [sharedGrammar, sharedGrammar] := ⟨by decide, by decide⟩
  have acyclic : Acyclic sharedTokenizer.library.resolve sharedGrammar (sharedRule 0) :=
    acyclic_of_forward _ _ ((List.range 7).map sharedRule) _ (by decide) (by decide)
  have forward : sharedTokenizer.engine.SearchesForward search.text search.pos := fun _ captures found =>
    (Pattern.backtracking_sound _ _ _ captures (Text.is_boundary_zero _) found).forward
  refine ⟨rfl, (expanding_once_changes_no_match sharedTokenizer.library.resolve [] sharedGrammar (sharedRule 0)
    (library_surveyed _ within sharedGrammar (by decide)) acyclic .children).2 _ ?_ sharedTokenizer search forward⟩
  have third (rest : List RuleRef) (entries : List Entry)
      (later : Expands sharedTokenizer.library.resolve sharedGrammar rest entries) :
      Expands sharedTokenizer.library.resolve sharedGrammar (sharedRule 3 :: rest) (⟨sharedRule 6, "a+"⟩ :: entries) :=
    .whole _ rest [_] entries rfl (.entry _ [] "a+" [] rfl .nil) later
  exact .whole _ _ [_, _] _ rfl (third _ _ (.entry _ [] "b" [] rfl .nil))
    (.whole _ _ [_, _] _ rfl (third _ _ (.entry _ [] "a" [] rfl .nil)) .nil)

end Example

end LineScope.Line
