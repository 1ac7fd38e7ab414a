import LineScope.Proofs.Pattern.Sound
import LineScope.Tokenizer

set_option autoImplicit false

namespace LineScope

def Grammar.ofRules (scopeName : String) (rules : Array Grammar.Rule) : Grammar where
  key := scopeName
  scopeName
  name := none
  fileTypes := []
  firstLineMatch := none
  rules
  root := 0
  repository := []
  ownInjections := []
  injectionSelector := none
  diagnostics := []

def Tokenizer.ofRules (scopeName : String) (rules : Array Grammar.Rule) : Tokenizer :=
  .make .backtracking .empty {} (.ofRules scopeName rules) none

end LineScope

namespace LineScope.Line

structure Contender where
  winner : Winner
  pattern : String

def Contender.ofEntry (entry : Entry) : Contender := ⟨.rule entry.rule, entry.pattern⟩

def Contender.search? (tokenizer : Tokenizer) (search : Search) (contender : Contender) : Option Candidate :=
  (tokenizer.engine.find contender.pattern search.anchors search.text search.pos).map fun captures =>
    ⟨contender.winner, captures⟩

def endContenders (stack : RuleStack) (last : Bool) : List Contender :=
  match stack.top.rule.rule with
  | .beginEnd rule =>
      if rule.endPatternLast = last then [⟨.ending, stack.top.endPattern.getD rule.endPattern⟩] else []
  | _ => []

def childContenders (sets : PatternSets) (stack : RuleStack) : List Contender :=
  (sets .children stack.top.rule).map .ofEntry

def injectionContenders (sets : PatternSets) (injection : Injection) : List Contender :=
  (sets .included injection.rule).map .ofEntry

def injectedContenders (sets : PatternSets) (scopes : ScopeList) (injections : List Injection) :
    List Contender :=
  (injections.filter fun injection => injection.expr.accepts scopes).flatMap (injectionContenders sets)

-- Every pattern that applies in a step. The index of a pattern in this list is its rank.
def contenders (tokenizer : Tokenizer) (sets : PatternSets) (stack : RuleStack) : List Contender :=
  injectedContenders sets stack.top.contentScopes (tokenizer.injections.filter (·.priority = .left)) ++
    (endContenders stack false ++
      (childContenders sets stack ++
        (endContenders stack true ++
          injectedContenders sets stack.top.contentScopes
            (tokenizer.injections.filter (·.priority ≠ .left)))))

section Members

variable (tokenizer : Tokenizer) (sets : PatternSets) (search : Search)

theorem find_from_mem (best : Option Found) (entries : List Entry) (found : Found)
    (result : findFrom tokenizer.engine search.text search.pos search.anchors best entries = some found) :
    best = some found ∨ ∃ entry ∈ entries,
      (Contender.ofEntry entry).search? tokenizer search = some (.ofFound found) := by
  induction entries generalizing best with
  | nil => exact .inl result
  | cons entry rest ih =>
      have inRest : ∀ {kept : Option Found}, (kept = some found ∨ ∃ other ∈ rest,
          (Contender.ofEntry other).search? tokenizer search = some (.ofFound found)) →
          kept = some found ∨ ∃ other ∈ entry :: rest,
            (Contender.ofEntry other).search? tokenizer search = some (.ofFound found) := by
        rintro kept (same | ⟨other, member, there⟩)
        · exact .inl same
        · exact .inr ⟨other, List.mem_cons_of_mem _ member, there⟩
      rw [findFrom] at result
      split at result
      · exact inRest (ih best result)
      · rename_i captures searched
        have here : (Contender.ofEntry entry).search? tokenizer search =
            some (.ofFound ⟨entry.rule, captures⟩) := by
          simp [Contender.search?, Contender.ofEntry, Candidate.ofFound, searched]
        dsimp only at result
        split at result
        · exact inRest (ih best result)
        · refine .inr ?_
          split at result
          · cases result
            exact ⟨entry, by simp, here⟩
          · rcases ih _ result with same | ⟨other, member, there⟩
            · cases same
              exact ⟨entry, by simp, here⟩
            · exact ⟨other, List.mem_cons_of_mem _ member, there⟩

theorem find_first_mem (entries : List Entry) (found : Found)
    (result : findFirst tokenizer.engine entries search.text search.pos search.anchors = some found) :
    ∃ contender ∈ entries.map Contender.ofEntry, contender.search? tokenizer search = some (.ofFound found) := by
  rcases find_from_mem tokenizer search none entries found result with impossible | ⟨entry, member, there⟩
  · cases impossible
  · exact ⟨.ofEntry entry, List.mem_map_of_mem member, there⟩

theorem find_injected_from_mem (scopes : ScopeList) (best : Option (Candidate × Selector.Priority))
    (injections : List Injection) (found : Candidate × Selector.Priority)
    (result : findInjectedFrom tokenizer sets search scopes best injections = some found) :
    best = some found ∨ ∃ injection ∈ injections, injection.expr.accepts scopes = true ∧
      ∃ contender ∈ injectionContenders sets injection,
        contender.search? tokenizer search = some found.1 := by
  induction injections generalizing best with
  | nil => exact .inl result
  | cons injection rest ih =>
      have inRest : ∀ {kept : Option (Candidate × Selector.Priority)},
          (kept = some found ∨ ∃ other ∈ rest, other.expr.accepts scopes = true ∧
            ∃ contender ∈ injectionContenders sets other,
              contender.search? tokenizer search = some found.1) →
          kept = some found ∨ ∃ other ∈ injection :: rest, other.expr.accepts scopes = true ∧
            ∃ contender ∈ injectionContenders sets other,
              contender.search? tokenizer search = some found.1 := by
        rintro kept (same | ⟨other, member, there⟩)
        · exact .inl same
        · exact .inr ⟨other, List.mem_cons_of_mem _ member, there⟩
      rw [findInjectedFrom] at result
      split at result
      · rename_i accepted
        split at result
        · exact inRest (ih best result)
        · rename_i first searched
          obtain ⟨contender, member, here⟩ := find_first_mem tokenizer search _ first searched
          split at result
          · exact inRest (ih best result)
          · refine .inr ?_
            split at result
            · cases result
              exact ⟨injection, by simp, accepted, contender, member, here⟩
            · rcases ih _ result with same | ⟨other, otherMember, there⟩
              · cases same
                exact ⟨injection, by simp, accepted, contender, member, here⟩
              · exact ⟨other, List.mem_cons_of_mem _ otherMember, there⟩
      · exact inRest (ih best result)

theorem find_end_mem (stack : RuleStack) (ending : Candidate) (last : Bool)
    (found : findEnd tokenizer search stack = some (ending, last)) :
    ∃ contender ∈ endContenders stack last, contender.search? tokenizer search = some ending := by
  rw [findEnd] at found
  split at found
  · rename_i rule active
    obtain ⟨captures, searched, pair⟩ := Option.map_eq_some_iff.mp found
    cases pair
    exact ⟨⟨.ending, stack.top.endPattern.getD rule.endPattern⟩, by simp [endContenders, active],
      by simp [Contender.search?, searched]⟩
  · cases found

theorem prefer_end_cases (found : Option (Candidate × Bool)) (child : Option Candidate) (candidate : Candidate)
    (result : preferEnd found child = some candidate) :
    child = some candidate ∨ ∃ last, found = some (candidate, last) := by
  cases found with
  | none => exact .inl result
  | some pair =>
      obtain ⟨ending, last⟩ := pair
      cases child with
      | none => exact .inr ⟨last, by cases result; rfl⟩
      | some child =>
          rw [preferEnd] at result
          split at result
          · exact .inl result
          · exact .inr ⟨last, by cases result; rfl⟩

theorem prefer_own_cases (own : Option Candidate) (injected : Option (Candidate × Selector.Priority))
    (candidate : Candidate) (result : preferOwn own injected = some candidate) :
    own = some candidate ∨ ∃ priority, injected = some (candidate, priority) := by
  cases injected with
  | none => exact .inl result
  | some pair =>
      obtain ⟨other, priority⟩ := pair
      cases own with
      | none => exact .inr ⟨priority, by cases result; rfl⟩
      | some own =>
          rw [preferOwn] at result
          split at result
          · exact .inl result
          · exact .inr ⟨priority, by cases result; rfl⟩

theorem end_contenders_sublist (stack : RuleStack) (last : Bool) (contender : Contender)
    (member : contender ∈ endContenders stack last) : contender ∈ contenders tokenizer sets stack := by
  cases last <;> simp [contenders, member]

theorem find_own_mem (stack : RuleStack) (candidate : Candidate)
    (result : findOwn tokenizer sets search stack = some candidate) :
    ∃ contender ∈ contenders tokenizer sets stack, contender.search? tokenizer search = some candidate := by
  have fromEnd : ∀ last, findEnd tokenizer search stack = some (candidate, last) →
      ∃ contender ∈ contenders tokenizer sets stack, contender.search? tokenizer search = some candidate := by
    intro last found
    obtain ⟨contender, member, there⟩ := find_end_mem tokenizer search stack candidate last found
    exact ⟨contender, end_contenders_sublist tokenizer sets stack last contender member, there⟩
  rw [findOwn] at result
  split at result
  · obtain ⟨⟨ending, last⟩, found, rfl⟩ := Option.map_eq_some_iff.mp result
    exact fromEnd last found
  · rcases prefer_end_cases _ _ candidate result with child | ⟨last, found⟩
    · obtain ⟨found, searched, rfl⟩ := Option.map_eq_some_iff.mp child
      obtain ⟨contender, member, there⟩ := find_first_mem tokenizer search _ found searched
      have isChild : contender ∈ childContenders sets stack := member
      exact ⟨contender, by simp [contenders, isChild], there⟩
    · exact fromEnd last found

theorem find_injected_mem (stack : RuleStack) (candidate : Candidate) (priority : Selector.Priority)
    (result : findInjected tokenizer sets search stack = some (candidate, priority)) :
    ∃ contender ∈ contenders tokenizer sets stack, contender.search? tokenizer search = some candidate := by
  rcases find_injected_from_mem tokenizer sets search _ none _ _ result with impossible | ⟨injection, member, accepted,
    contender, inside, there⟩
  · cases impossible
  · refine ⟨contender, ?_, there⟩
    have among : ∀ injections : List Injection, injection ∈ injections →
        contender ∈ injectedContenders sets stack.top.contentScopes injections := by
      intro injections listed
      exact List.mem_flatMap.mpr ⟨injection, List.mem_filter.mpr ⟨listed, accepted⟩, inside⟩
    by_cases left : injection.priority = .left
    · have listed := among (tokenizer.injections.filter (·.priority = .left))
        (List.mem_filter.mpr ⟨member, by simpa using left⟩)
      exact List.mem_append_left _ listed
    · have listed := among (tokenizer.injections.filter (·.priority ≠ .left))
        (List.mem_filter.mpr ⟨member, by simpa using left⟩)
      simp only [contenders, List.mem_append]
      exact .inr (.inr (.inr (.inr listed)))

theorem find_candidate_mem (stack : RuleStack) (candidate : Candidate)
    (result : findCandidate tokenizer sets search stack = some candidate) :
    ∃ contender ∈ contenders tokenizer sets stack, contender.search? tokenizer search = some candidate := by
  rcases prefer_own_cases _ _ candidate result with own | ⟨priority, injected⟩
  · exact find_own_mem tokenizer sets search stack candidate own
  · exact find_injected_mem tokenizer sets search stack candidate priority injected

inductive Contender.Source (stack : RuleStack) : Contender → Prop
  | ending (rule : Grammar.BeginEndRule) (active : stack.top.rule.rule = .beginEnd rule) :
      Source stack ⟨.ending, stack.top.endPattern.getD rule.endPattern⟩
  | child (entry : Entry) (listed : entry ∈ sets .children stack.top.rule) : Source stack (.ofEntry entry)
  | injected (injection : Injection) (applies : injection ∈ tokenizer.injections) (entry : Entry)
      (listed : entry ∈ sets .included injection.rule) : Source stack (.ofEntry entry)

theorem contender_source (stack : RuleStack) (contender : Contender)
    (member : contender ∈ contenders tokenizer sets stack) : contender.Source tokenizer sets stack := by
  have fromEnd : ∀ last, contender ∈ endContenders stack last → contender.Source tokenizer sets stack := by
    intro last listed
    rw [endContenders] at listed
    split at listed
    · rename_i rule active
      split at listed
      · cases List.mem_singleton.mp listed
        exact .ending rule active
      · cases listed
    · cases listed
  have fromInjections : ∀ keep : Injection → Bool,
      contender ∈ injectedContenders sets stack.top.contentScopes (tokenizer.injections.filter keep) →
        contender.Source tokenizer sets stack := by
    intro keep listed
    obtain ⟨injection, accepted, inSet⟩ := List.mem_flatMap.mp listed
    obtain ⟨entry, inEntries, rfl⟩ := List.mem_map.mp inSet
    exact .injected injection (List.mem_filter.mp (List.mem_filter.mp accepted).1).1 entry inEntries
  simp only [contenders, List.mem_append] at member
  rcases member with left | isFirst | child | isLast | other
  · exact fromInjections _ left
  · exact fromEnd false isFirst
  · obtain ⟨entry, listed, rfl⟩ := List.mem_map.mp child
    exact .child entry listed
  · exact fromEnd true isLast
  · exact fromInjections _ other

end Members

end LineScope.Line
