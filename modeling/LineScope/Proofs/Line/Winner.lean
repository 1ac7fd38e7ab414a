import LineScope.Proofs.Line.Contender
import LineScope.Tokenizer

/-!
The match that wins a step. The searches of a step stop early and are merged in pairs; their result
is the same as if every applicable pattern were searched and the earliest match taken, the one of
the lowest rank among equals.
-/

set_option autoImplicit false

namespace LineScope.Line

section Earliest

variable {α β : Type} (start : β → Nat)

-- The second of two results, only if it starts before the first.
def earlier (first second : Option β) : Option β :=
  match first, second with
  | none, second => second
  | some first, none => some first
  | some first, some second => if start second < start first then some second else some first

def earliest (search : α → Option β) : List α → Option β
  | [] => none
  | item :: rest => earlier start (search item) (earliest search rest)

theorem earlier_none (first : Option β) : earlier start first none = first := by
  cases first <;> rfl

theorem earlier_of_le (first : β) (second : Option β)
    (least : ∀ found, second = some found → start first ≤ start found) :
    earlier start (some first) second = some first := by
  cases second with
  | none => rfl
  | some found => rw [earlier, if_neg (Nat.not_lt.mpr (least found rfl))]

theorem earlier_cases (first second : Option β) (found : β)
    (result : earlier start first second = some found) :
    (first = some found ∧ ∀ other, second = some other → start found ≤ start other) ∨
      (second = some found ∧ ∀ other, first = some other → start found < start other) := by
  cases first with
  | none => exact .inr ⟨result, fun _ impossible => by cases impossible⟩
  | some a =>
      cases second with
      | none => exact .inl ⟨result, fun _ impossible => by cases impossible⟩
      | some b =>
          rw [earlier] at result
          split at result
          · rename_i less
            cases result
            exact .inr ⟨rfl, fun _ same => by cases same; exact less⟩
          · rename_i notLess
            cases result
            exact .inl ⟨rfl, fun _ same => by cases same; exact Nat.le_of_not_lt notLess⟩

theorem earlier_assoc (first second third : Option β) :
    earlier start (earlier start first second) third =
      earlier start first (earlier start second third) := by
  cases first with
  | none => rfl
  | some a =>
      cases second with
      | none => rfl
      | some b =>
          cases third with
          | none => rw [earlier_none, earlier_none]
          | some c =>
              by_cases ab : start b < start a <;> by_cases bc : start c < start b <;>
                by_cases ac : start c < start a <;> simp only [earlier, ab, bc, ac, if_true, if_false] <;> omega

theorem earlier_keep (best : Option β) (found : β)
    (covered : (best.any fun kept => decide (start kept ≤ start found)) = true) :
    earlier start best (some found) = best := by
  cases best with
  | none => cases covered
  | some kept =>
      have order : start kept ≤ start found := by simpa using covered
      rw [earlier, if_neg (Nat.not_lt.mpr order)]

theorem earlier_replace (best : Option β) (found : β)
    (uncovered : ¬ (best.any fun kept => decide (start kept ≤ start found)) = true) :
    earlier start best (some found) = some found := by
  cases best with
  | none => rfl
  | some kept =>
      have order : start found < start kept := by simpa using uncovered
      rw [earlier, if_pos order]

theorem earlier_view {γ : Type} (view : β → γ) (viewStart : γ → Nat)
    (same : ∀ found, viewStart (view found) = start found) (first second : Option β) :
    (earlier start first second).map view = earlier viewStart (first.map view) (second.map view) := by
  cases first with
  | none => rfl
  | some a =>
      cases second with
      | none => rfl
      | some b =>
          simp only [Option.map_some, earlier, same]
          split <;> rfl

theorem earliest_view {γ : Type} (view : β → γ) (viewStart : γ → Nat)
    (same : ∀ found, viewStart (view found) = start found) (search : α → Option β) (items : List α) :
    (earliest start search items).map view =
      earliest viewStart (fun item => (search item).map view) items := by
  induction items with
  | nil => rfl
  | cons item rest ih => rw [earliest, earliest, earlier_view start view viewStart same, ih]

theorem earliest_append (search : α → Option β) (first second : List α) :
    earliest start search (first ++ second) =
      earlier start (earliest start search first) (earliest start search second) := by
  induction first with
  | nil => rfl
  | cons item rest ih => rw [List.cons_append, earliest, ih, earliest, earlier_assoc]

theorem earliest_map {γ : Type} (search : α → Option β) (view : γ → α) (items : List γ) :
    earliest start search (items.map view) = earliest start (fun item => search (view item)) items := by
  induction items with
  | nil => rfl
  | cons item rest ih => rw [List.map_cons, earliest, earliest, ih]

theorem earliest_flat_map {γ : Type} (search : α → Option β) (parts : γ → List α) (items : List γ) :
    earliest start search (items.flatMap parts) =
      earliest start (fun item => earliest start search (parts item)) items := by
  induction items with
  | nil => rfl
  | cons item rest ih => rw [List.flatMap_cons, earliest_append, earliest, ih]

theorem earliest_filter (search : α → Option β) (keep : α → Bool) (items : List α) :
    earliest start search (items.filter keep) =
      earliest start (fun item => if keep item then search item else none) items := by
  induction items with
  | nil => rfl
  | cons item rest ih =>
      by_cases kept : keep item = true
      · rw [List.filter_cons_of_pos kept, earliest, earliest, ih, if_pos kept]
      · rw [List.filter_cons_of_neg kept, earliest, ih, if_neg kept, earlier]

theorem earliest_eq_none (search : α → Option β) (items : List α) :
    earliest start search items = none ↔ ∀ item ∈ items, search item = none := by
  induction items with
  | nil => simp [earliest]
  | cons item rest ih =>
      rw [earliest, List.forall_mem_cons, ← ih]
      cases search item <;> cases earliest start search rest <;> simp [earlier]
      split <;> simp

-- A result with its rank, which is the index of what was searched: every other result starts later, or at the same
-- place and has no lower rank.
def LeastRank (search : α → Option β) (items : List α) (found : β) (rank : Nat) : Prop :=
  (∃ item, items[rank]? = some item ∧ search item = some found) ∧
    ∀ (other : Nat) (rival : α) (result : β), items[other]? = some rival → search rival = some result →
      start found < start result ∨ start found = start result ∧ rank ≤ other

theorem earliest_least_rank (search : α → Option β) (items : List α) (found : β)
    (result : earliest start search items = some found) :
    ∃ rank, LeastRank start search items found rank := by
  induction items generalizing found with
  | nil => cases result
  | cons head tail ih =>
      rcases earlier_cases start _ _ found result with ⟨here, least⟩ | ⟨later, before⟩
      · refine ⟨0, ⟨head, rfl, here⟩, ?_⟩
        intro other rival rest place there
        suffices start found ≤ start rest by omega
        cases other with
        | zero =>
            cases place
            exact Nat.le_of_eq (congrArg start (Option.some.inj (here.symm.trans there)))
        | succ other =>
            cases best : earliest start search tail with
            | none =>
                have nothing := (earliest_eq_none start search tail).mp best rival (List.mem_of_getElem? place)
                cases nothing.symm.trans there
            | some second =>
                obtain ⟨rank, _, lowest⟩ := ih second best
                have bound := least second best
                have next := lowest other rival rest place there
                omega
      · obtain ⟨rank, ⟨item, place, there⟩, lowest⟩ := ih found later
        refine ⟨rank + 1, ⟨item, place, there⟩, ?_⟩
        intro other rival rest place there
        cases other with
        | zero =>
            cases place
            exact .inl (before rest there)
        | succ other =>
            have next := lowest other rival rest place there
            omega

theorem earliest_mem (search : α → Option β) (items : List α) (found : β)
    (result : earliest start search items = some found) : ∃ item ∈ items, search item = some found := by
  obtain ⟨rank, ⟨item, place, there⟩, _⟩ := earliest_least_rank start search items found result
  exact ⟨item, List.mem_of_getElem? place, there⟩

theorem least_rank_earliest (search : α → Option β) (items : List α) (found : β) (rank : Nat)
    (least : LeastRank start search items found rank) : earliest start search items = some found := by
  obtain ⟨⟨item, place, there⟩, lowest⟩ := least
  cases best : earliest start search items with
  | none =>
      have nothing := (earliest_eq_none start search items).mp best item (List.mem_of_getElem? place)
      cases nothing.symm.trans there
  | some other =>
      obtain ⟨index, ⟨rival, otherPlace, otherThere⟩, otherLowest⟩ :=
        earliest_least_rank start search items other best
      have first := lowest index rival other otherPlace otherThere
      have second := otherLowest rank item found place there
      have sameRank : index = rank := by omega
      subst sameRank
      cases place.symm.trans otherPlace
      exact congrArg some (Option.some.inj (otherThere.symm.trans there))

end Earliest

abbrev earliestMatch (tokenizer : Tokenizer) (search : Search) (contenders : List Contender) : Option Candidate :=
  earliest Candidate.start (Contender.search? tokenizer search) contenders

end LineScope.Line

namespace LineScope.Pattern

def Engine.SearchesForward (engine : Engine) (text : List Char) (pos : Nat) : Prop :=
  ∀ source captures, engine.search source text pos = some captures → pos ≤ (wholeSpan captures).1

end LineScope.Pattern

namespace LineScope.Line

section Searches

variable (tokenizer : Tokenizer) (sets : PatternSets) (search : Search)

def entrySearch? (entry : Entry) : Option Found :=
  (tokenizer.engine.find entry.pattern search.anchors search.text search.pos).map fun captures =>
    ⟨entry.rule, captures⟩

theorem entry_search_forward (entry : Entry) (found : Found)
    (forward : tokenizer.engine.SearchesForward search.text search.pos)
    (result : entrySearch? tokenizer search entry = some found) : search.pos ≤ found.start := by
  obtain ⟨captures, searched, rfl⟩ := Option.map_eq_some_iff.mp result
  exact forward _ captures searched

theorem contender_search_forward (contender : Contender) (candidate : Candidate)
    (forward : tokenizer.engine.SearchesForward search.text search.pos)
    (found : contender.search? tokenizer search = some candidate) : search.pos ≤ candidate.start := by
  obtain ⟨captures, result, rfl⟩ := Option.map_eq_some_iff.mp found
  exact forward _ captures result

theorem earliest_match_forward (items : List Contender) (candidate : Candidate)
    (forward : tokenizer.engine.SearchesForward search.text search.pos)
    (found : earliestMatch tokenizer search items = some candidate) : search.pos ≤ candidate.start := by
  obtain ⟨contender, _, there⟩ := earliest_mem _ _ items candidate found
  exact contender_search_forward tokenizer search contender candidate forward there

-- The loop over a pattern set: leaving it at a match right here changes nothing, since no later pattern can match
-- further left.
theorem find_from_earliest (best : Option Found) (entries : List Entry)
    (forward : tokenizer.engine.SearchesForward search.text search.pos) :
    findFrom tokenizer.engine search.text search.pos search.anchors best entries =
      earlier Found.start best (earliest Found.start (entrySearch? tokenizer search) entries) := by
  induction entries generalizing best with
  | nil => rw [findFrom, earliest, earlier_none]
  | cons entry rest ih =>
      rw [findFrom, earliest, ← earlier_assoc, entrySearch?]
      cases tokenizer.engine.find entry.pattern search.anchors search.text search.pos with
      | none =>
          rw [Option.map_none, earlier_none]
          exact ih best
      | some captures =>
          rw [Option.map_some]
          dsimp only
          split
          · rename_i covered
            rw [earlier_keep Found.start best _ covered]
            exact ih best
          · rename_i uncovered
            rw [earlier_replace Found.start best _ uncovered]
            split
            · rename_i atPos
              refine (earlier_of_le _ _ _ ?_).symm
              intro later found
              obtain ⟨other, _, there⟩ := earliest_mem _ _ rest later found
              have bound := entry_search_forward tokenizer search other later forward there
              exact Nat.le_trans (Nat.le_of_eq atPos) bound
            · exact ih (some ⟨entry.rule, captures⟩)

theorem find_first_earliest (entries : List Entry)
    (forward : tokenizer.engine.SearchesForward search.text search.pos) :
    (findFirst tokenizer.engine entries search.text search.pos search.anchors).map .ofFound =
      earliestMatch tokenizer search (entries.map .ofEntry) := by
  rw [findFirst, find_from_earliest tokenizer search none entries forward, earliestMatch, earliest_map]
  refine (earliest_view Found.start Candidate.ofFound Candidate.start (fun _ => rfl) _ entries).trans ?_
  congr 1
  funext entry
  rw [entrySearch?, Contender.search?, Option.map_map]
  rfl

def injectionSearch? (scopes : ScopeList) (injection : Injection) : Option (Candidate × Selector.Priority) :=
  if injection.expr.accepts scopes then
    (earliestMatch tokenizer search (injectionContenders sets injection)).map (·, injection.priority)
  else none

theorem injection_search_forward (scopes : ScopeList) (injection : Injection)
    (found : Candidate × Selector.Priority)
    (forward : tokenizer.engine.SearchesForward search.text search.pos)
    (result : injectionSearch? tokenizer sets search scopes injection = some found) : search.pos ≤ found.1.start := by
  rw [injectionSearch?] at result
  split at result
  · obtain ⟨candidate, searched, rfl⟩ := Option.map_eq_some_iff.mp result
    exact earliest_match_forward tokenizer search _ candidate forward searched
  · cases result

theorem find_injected_from_earliest (scopes : ScopeList) (best : Option (Candidate × Selector.Priority))
    (injections : List Injection) (forward : tokenizer.engine.SearchesForward search.text search.pos) :
    findInjectedFrom tokenizer sets search scopes best injections =
      earlier (·.1.start) best (earliest (·.1.start) (injectionSearch? tokenizer sets search scopes) injections) := by
  induction injections generalizing best with
  | nil => rw [findInjectedFrom, earliest, earlier_none]
  | cons injection rest ih =>
      rw [findInjectedFrom, earliest, ← earlier_assoc, injectionSearch?]
      split
      · have first := find_first_earliest tokenizer search
          (sets .included injection.rule) forward
        rw [injectionContenders, ← first]
        split
        · rename_i nothing
          rw [nothing, Option.map_none, Option.map_none, earlier_none]
          exact ih best
        · rename_i found result
          rw [result, Option.map_some, Option.map_some]
          split
          · rename_i covered
            rw [earlier_keep _ best _ covered]
            exact ih best
          · rename_i uncovered
            rw [earlier_replace _ best _ uncovered]
            split
            · rename_i atPos
              refine (earlier_of_le _ _ _ ?_).symm
              intro later found
              obtain ⟨other, _, there⟩ := earliest_mem _ _ rest later found
              have bound := injection_search_forward tokenizer sets search scopes other later forward there
              exact Nat.le_trans (Nat.le_of_eq atPos) bound
            · exact ih (some (.ofFound found, injection.priority))
      · rw [earlier_none]
        exact ih best

theorem prefer_end_earlier (ending : Candidate) (last : Bool) (child : Option Candidate) :
    preferEnd (some (ending, last)) child =
      if last then earlier Candidate.start child (some ending)
      else earlier Candidate.start (some ending) child := by
  cases child with
  | none => cases last <;> rfl
  | some child =>
      cases last with
      | false => simp [preferEnd, earlier]
      | true =>
          by_cases before : ending.start < child.start
          · simp only [preferEnd, earlier, if_pos before, if_true]
            rw [if_neg (by simp; omega)]
          · simp only [preferEnd, earlier, if_neg before, if_true]
            rw [if_pos (by simp; omega)]

theorem find_end_cases (stack : RuleStack) :
    (findEnd tokenizer search stack = none ∧
      ∀ last, earliestMatch tokenizer search (endContenders stack last) = none) ∨
    ∃ ending last, findEnd tokenizer search stack = some (ending, last) ∧
      earliestMatch tokenizer search (endContenders stack last) = some ending ∧
      earliestMatch tokenizer search (endContenders stack (!last)) = none := by
  unfold findEnd
  split
  · rename_i rule active
    cases result : tokenizer.engine.find (stack.top.endPattern.getD rule.endPattern) search.anchors
        search.text search.pos with
    | none =>
        refine .inl ⟨by simp [result], fun last => ?_⟩
        simp only [endContenders, active]
        split <;> simp [earliest, earlier, Contender.search?, result]
    | some captures =>
        refine .inr ⟨⟨.ending, captures⟩, rule.endPatternLast, by simp [result], ?_, ?_⟩
        · simp [endContenders, active, earliest, earlier, Contender.search?, result]
        · simp [endContenders, active, earliest]
  · rename_i other
    refine .inl ⟨rfl, fun last => ?_⟩
    rw [endContenders]
    split
    · rename_i rule active
      exact absurd active (other rule)
    · rfl

theorem find_own_earliest (stack : RuleStack)
    (forward : tokenizer.engine.SearchesForward search.text search.pos) :
    findOwn tokenizer sets search stack =
      earlier Candidate.start (earliestMatch tokenizer search (endContenders stack false))
        (earlier Candidate.start (earliestMatch tokenizer search (childContenders sets stack))
          (earliestMatch tokenizer search (endContenders stack true))) := by
  have child : findChild tokenizer sets search stack =
      earliestMatch tokenizer search (childContenders sets stack) :=
    find_first_earliest tokenizer search _ forward
  rw [← child, findOwn]
  rcases find_end_cases tokenizer search stack with ⟨absent, nothing⟩ | ⟨ending, last, found, here, other⟩
  · rw [absent, nothing false, nothing true, earlier_none]
    rfl
  · rw [found, prefer_end_earlier]
    cases last with
    | true =>
        rw [here, show earliestMatch tokenizer search (endContenders stack false) = none from other]
        rfl
    | false =>
        rw [here, show earliestMatch tokenizer search (endContenders stack true) = none from other, earlier_none]
        by_cases atPos : ending.start = search.pos
        · rw [if_pos (by simpa [endSettles] using atPos)]
          refine (earlier_of_le _ _ _ ?_).symm
          intro match? childFound
          rw [child] at childFound
          have bound := earliest_match_forward tokenizer search _ match? forward childFound
          exact Nat.le_trans (Nat.le_of_eq atPos) bound
        · rw [if_neg (by simpa [endSettles] using atPos)]
          rfl

theorem injected_contenders_earliest (scopes : ScopeList) (injections : List Injection) :
    (earliest (·.1.start) (injectionSearch? tokenizer sets search scopes) injections).map Prod.fst =
      earliestMatch tokenizer search (injectedContenders sets scopes injections) := by
  rw [earliest_view _ Prod.fst Candidate.start (fun _ => rfl), earliestMatch, injectedContenders,
    earliest_flat_map, earliest_filter]
  congr 1
  funext injection
  rw [injectionSearch?]
  split
  · rw [Option.map_map]
    exact Option.map_id'
  · rfl

-- Merging the injections first and the active rule after them is the same as putting the active rule between the left
-- injections and the others.
theorem prefer_own_earlier (own : Option Candidate) (lefts others : Option (Candidate × Selector.Priority))
    (isLeft : ∀ found, lefts = some found → found.2 = .left)
    (notLeft : ∀ found, others = some found → found.2 ≠ .left) :
    preferOwn own (earlier (·.1.start) lefts others) =
      earlier Candidate.start (lefts.map Prod.fst)
        (earlier Candidate.start own (others.map Prod.fst)) := by
  cases lefts with
  | none =>
      cases others with
      | none => cases own <;> rfl
      | some other =>
          have priority := notLeft other rfl
          cases own with
          | none => rfl
          | some own =>
              by_cases before : other.1.start < own.start
              · simp only [earlier, preferOwn, Option.map_none, Option.map_some, if_pos before]
                rw [if_neg (by simp; omega)]
              · simp only [earlier, preferOwn, Option.map_none, Option.map_some, if_neg before]
                rw [if_pos (by simp [priority]; omega)]
  | some left =>
      have leftPriority := isLeft left rfl
      cases others with
      | none =>
          cases own with
          | none => rfl
          | some own => simp [earlier, preferOwn, leftPriority]
      | some other =>
          have priority := notLeft other rfl
          cases own with
          | none =>
              simp only [earlier, Option.map_some]
              split <;> rfl
          | some own =>
              by_cases between : other.1.start < left.1.start <;> by_cases before : other.1.start < own.start <;>
                by_cases first : own.start < left.1.start <;>
                simp [earlier, preferOwn, between, before, first, leftPriority, priority] <;> omega

theorem find_candidate_earliest (stack : RuleStack)
    (sorted : tokenizer.injections =
      tokenizer.injections.filter (·.priority = .left) ++ tokenizer.injections.filter (·.priority ≠ .left))
    (forward : tokenizer.engine.SearchesForward search.text search.pos) :
    findCandidate tokenizer sets search stack = earliestMatch tokenizer search (contenders tokenizer sets stack) := by
  have priorityOf : ∀ (injections : List Injection) (found : Candidate × Selector.Priority),
      earliest (·.1.start) (injectionSearch? tokenizer sets search stack.top.contentScopes) injections = some found →
        ∃ injection ∈ injections, found.2 = injection.priority := by
    intro injections found result
    obtain ⟨injection, member, there⟩ := earliest_mem _ _ injections found result
    rw [injectionSearch?] at there
    split at there
    · obtain ⟨candidate, _, rfl⟩ := Option.map_eq_some_iff.mp there
      exact ⟨injection, member, rfl⟩
    · cases there
  rw [findCandidate, findInjected, sorted, find_injected_from_earliest tokenizer sets search _ none _ forward,
    earlier, earliest_append, prefer_own_earlier]
  · rw [find_own_earliest tokenizer sets search stack forward, injected_contenders_earliest,
      injected_contenders_earliest]
    simp only [contenders, earliestMatch, earliest_append, earlier_assoc]
  · intro found result
    obtain ⟨injection, member, priority⟩ := priorityOf _ found result
    simpa [priority] using (List.mem_filter.mp member).2
  · intro found result
    obtain ⟨injection, member, priority⟩ := priorityOf _ found result
    simpa [priority] using (List.mem_filter.mp member).2

end Searches

theorem sort_by_priority_split (injections : List Injection) :
    Injection.sortByPriority injections =
      (Injection.sortByPriority injections).filter (·.priority = .left) ++
        (Injection.sortByPriority injections).filter (·.priority ≠ .left) := by
  have kept : ∀ (priority : Selector.Priority) (keep : Injection → Bool),
      (∀ injection, injection.priority = priority → keep injection = true) →
      (injections.filter (·.priority = priority)).filter keep = injections.filter (·.priority = priority) := by
    intro priority keep holds
    exact List.filter_eq_self.mpr fun injection member =>
      holds injection (of_decide_eq_true (List.mem_filter.mp member).2)
  have dropped : ∀ (priority : Selector.Priority) (keep : Injection → Bool),
      (∀ injection, injection.priority = priority → keep injection = false) →
      (injections.filter (·.priority = priority)).filter keep = [] := by
    intro priority keep fails
    refine List.filter_eq_nil_iff.mpr fun injection member => ?_
    simp [fails injection (of_decide_eq_true (List.mem_filter.mp member).2)]
  simp only [Injection.sortByPriority, List.filter_append]
  rw [kept .left _ (by simp), dropped .normal _ (by simp +contextual), dropped .right _ (by simp +contextual),
    dropped .left _ (by simp), kept .normal _ (by simp +contextual), kept .right _ (by simp +contextual)]
  simp

theorem library_injections_sorted (library : Library) (grammar : Grammar) :
    library.injections grammar =
      (library.injections grammar).filter (·.priority = .left) ++
        (library.injections grammar).filter (·.priority ≠ .left) :=
  sort_by_priority_split _

theorem find_candidate_least_start_and_rank (tokenizer : Tokenizer) (sets : PatternSets) (search : Search)
    (stack : RuleStack)
    (built : tokenizer.injections = tokenizer.library.injections tokenizer.grammar)
    (forward : tokenizer.engine.SearchesForward search.text search.pos) :
    (findCandidate tokenizer sets search stack = none ↔
      ∀ contender ∈ contenders tokenizer sets stack, contender.search? tokenizer search = none) ∧
    ∀ candidate, findCandidate tokenizer sets search stack = some candidate ↔
      ∃ rank, LeastRank Candidate.start (Contender.search? tokenizer search) (contenders tokenizer sets stack)
        candidate rank := by
  have sorted := library_injections_sorted tokenizer.library tokenizer.grammar
  rw [← built] at sorted
  rw [find_candidate_earliest tokenizer sets search stack sorted forward]
  refine ⟨earliest_eq_none _ _ _, fun candidate => ⟨earliest_least_rank _ _ _ candidate, ?_⟩⟩
  rintro ⟨rank, least⟩
  exact least_rank_earliest _ _ _ candidate rank least

section Example

def tiedGrammar : Grammar :=
  { Grammar.ofRules "tied" #[.container ⟨none, none, [.rule 1]⟩,
      .beginEnd ⟨none, none, "a", [], "a", [], false, [.rule 2]⟩, .single ⟨some "child", "a", []⟩,
      .single ⟨some "injected", "a", []⟩] with
    ownInjections := [(⟨"L:tied", [⟨.left, .path ⟨[⟨.descendant, "tied"⟩]⟩⟩]⟩, 3)] }

def tiedTokenizer : Tokenizer := .make .backtracking .empty {} tiedGrammar none

def tiedStack : RuleStack :=
  (RuleStack.root tiedGrammar).push { rule := ⟨tiedGrammar, 1⟩, nameScopes := ["tied"], contentScopes := ["tied"] }

theorem tied_winner_least_rank :
    let sets := patternSet tiedTokenizer.library tiedGrammar
    let search : Search := ⟨['a'], 0, ⟨true, false⟩⟩
    ∃ rank, LeastRank Candidate.start (Contender.search? tiedTokenizer search)
      (contenders tiedTokenizer sets tiedStack) ⟨.rule ⟨tiedGrammar, 3⟩, [some (0, 1)]⟩ rank := by
  intro sets search
  have won : findCandidate tiedTokenizer sets search tiedStack = some ⟨.rule ⟨tiedGrammar, 3⟩, [some (0, 1)]⟩ := by
    decide +kernel
  have forward : tiedTokenizer.engine.SearchesForward search.text search.pos := fun _ captures found =>
    (Pattern.backtracking_sound _ _ _ captures (Text.is_boundary_zero _) found).forward
  exact ((find_candidate_least_start_and_rank tiedTokenizer sets search tiedStack rfl forward).2 _).mp won

end Example

end LineScope.Line
