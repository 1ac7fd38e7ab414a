import LineScope.Proofs.Grammar.Following
import LineScope.Proofs.Line.Continuation
import LineScope.Proofs.Line.Parallel

/-!
Groups that are tokenized again. The frame of such a group holds a container, which nothing ends, so
the scan of its text never leaves that frame, and whatever the scan produces, in the groups of its own
matches too, has the scopes of the frame. These are the scopes around the match and the group's own
names: the names of the groups that it lies in are not among them.
-/

set_option autoImplicit false

namespace LineScope.Line

def Demand.under (scopes : ScopeList) : Demand :=
  ⟨fun _ => True, (scopes <+: ·), fun _ _ longer begins => begins.trans longer⟩

section Grounded

variable (scopes : ScopeList)

-- Frames whose scopes start with `scopes`, down to one that is never ended.
inductive Grounded : List Frame → Prop
  | base (frame : Frame) (below : List Frame) (named : scopes <+: frame.nameScopes)
      (content : scopes <+: frame.contentScopes) (lasting : ∀ rule, frame.rule.rule ≠ .beginEnd rule) :
      Grounded (frame :: below)
  | above (frame : Frame) (below : List Frame) (named : scopes <+: frame.nameScopes)
      (content : scopes <+: frame.contentScopes) (deeper : Grounded below) : Grounded (frame :: below)

variable {scopes} {stack : RuleStack} (grounded : Grounded scopes stack.frames)

include grounded

theorem grounded_top : scopes <+: stack.top.nameScopes ∧ scopes <+: stack.top.contentScopes := by
  cases grounded with
  | base _ _ named content => exact ⟨named, content⟩
  | above _ _ named content => exact ⟨named, content⟩

theorem grounded_closing : Grounded scopes (stack.withContentScopes stack.top.nameScopes).frames := by
  cases grounded with
  | base _ _ named _ lasting => exact .base _ _ named named lasting
  | above _ _ named _ deeper => exact .above _ _ named named deeper

theorem grounded_pop (parent : RuleStack) (popped : stack.pop? = some parent)
    (ended : ∃ rule, stack.top.rule.rule = .beginEnd rule) : Grounded scopes parent.frames := by
  obtain ⟨rule, isEnded⟩ := ended
  rw [pop_frames stack parent popped] at grounded
  cases grounded with
  | base _ _ _ _ lasting => exact absurd isEnded (lasting rule)
  | above _ _ _ _ deeper => exact deeper

theorem group_frame_grounded (text : List Char) (captures : Pattern.Captures) (firstLine : Bool)
    (rule : Grammar.CaptureRule) (id start : Nat) :
    Grounded scopes (stack.push ((⟨text, firstLine, stack, captures⟩ : Groups).frame rule id start)).frames := by
  have named := (grounded_top grounded).2.trans (push_resolved_extends stack.top.contentScopes rule.name text captures)
  exact .above _ _ named (named.trans (push_resolved_extends _ _ _ _)) grounded

end Grounded

section Scans

variable (scopes : ScopeList)

def KeepsUnder (retokenize : Retokenizer) : Prop :=
  ∀ text pos firstLine stack output, Grounded scopes stack.frames →
    Continues (.under scopes) output (retokenize text pos firstLine stack output)

variable {scopes} (retokenize : Retokenizer) (text : List Char) (progress : Progress) (candidate : Candidate)

theorem grounded_served (firstLine : Bool) (stack : RuleStack) (captures : Pattern.Captures)
    (keeps : KeepsUnder scopes retokenize) (grounded : Grounded scopes stack.frames) :
    Served retokenize ⟨text, firstLine, stack, captures⟩ (.under scopes) where
  content := (grounded_top grounded).2
  ends := fun _ _ _ _ => ⟨trivial, trivial⟩
  again := fun _ start _ rule id _ _ =>
    keeps _ _ _ _ _ (group_frame_grounded grounded text captures firstLine rule id start)

theorem effect_under (keeps : KeepsUnder scopes retokenize) (grounded : Grounded scopes progress.stack.frames) :
    Continues (.under scopes) progress.output (effectOf retokenize text progress candidate).output := by
  obtain ⟨named, content⟩ := grounded_top grounded
  have served := fun stack => grounded_served retokenize text progress.firstLine stack candidate.captures keeps
  exact effect_continues text progress candidate trivial trivial named content (served _ (grounded_closing grounded))
    fun rule inner => served _ (.above _ _ inner inner grounded)

theorem apply_rule_grounded (rule : RuleRef) (grounded : Grounded scopes progress.stack.frames) :
    Grounded scopes (applyRule retokenize text progress rule candidate).stack.frames := by
  rw [applyRule]
  dsimp only
  split
  · rename_i captures contentName endPattern parts
    split
    · exact grounded
    · have above := pushed_frame_over text progress rule candidate captures contentName endPattern parts
      have named := (grounded_top grounded).2.trans above.name
      exact .above _ _ named (named.trans above.content) grounded
  · exact grounded

-- Only the end of a rule takes a frame away, and the frame at the ground has no end.
theorem effect_grounded (grounded : Grounded scopes progress.stack.frames)
    (active : candidate.winner = .ending → ∃ rule, progress.stack.top.rule.rule = .beginEnd rule) :
    Grounded scopes (effectOf retokenize text progress candidate).stack.frames := by
  rw [effectOf]
  split
  · rename_i winner
    have move := apply_end_move retokenize text progress candidate
    generalize applyEnd retokenize text progress candidate = effect at move ⊢
    obtain ⟨_, after, _, _⟩ := effect
    dsimp only at move ⊢
    cases move with
    | closed _ popped _ => exact grounded_pop grounded after popped (active winner)
    | opened _ _ _ _ isRule => cases winner.symm.trans isRule
    | passed _ => exact grounded
    | stalled => exact grounded
  · exact apply_rule_grounded retokenize text progress candidate _ grounded

variable (scopes) in
def OutcomeUnder (before : Output) : Outcome → Prop
  | .finished last => Continues (.under scopes) before last.output
  | .running next => Grounded scopes next.stack.frames ∧ Continues (.under scopes) before next.output

theorem apply_candidate_under (keeps : KeepsUnder scopes retokenize) (grounded : Grounded scopes progress.stack.frames)
    (active : candidate.winner = .ending → ∃ rule, progress.stack.top.rule.rule = .beginEnd rule) :
    OutcomeUnder scopes progress.output (applyCandidate retokenize text progress candidate) := by
  have stays := effect_grounded retokenize text progress candidate grounded active
  have adds := effect_under retokenize text progress candidate keeps grounded
  have content := (grounded_top stays).2
  rw [applyCandidate]
  dsimp only
  split
  · rw [forceProgress]
    split
    · exact continues_trans adds (produce_continues _ content trivial)
    · exact ⟨stays, continues_trans adds (produce_continues _ content trivial)⟩
  · split
    · exact ⟨stays, adds⟩
    · exact ⟨stays, adds⟩

variable (tokenizer : Tokenizer)

theorem scan_step_under (keeps : KeepsUnder scopes retokenize) (grounded : Grounded scopes progress.stack.frames) :
    OutcomeUnder scopes progress.output (scanStep tokenizer retokenize text progress) := by
  have lookup : Continues (.under scopes) progress.output (lookedUp tokenizer text progress).output := continues_refl _
  rw [scan_step_eq]
  split
  · exact continues_trans lookup (produce_continues _ (grounded_top grounded).2 trivial)
  · rename_i candidate found
    exact apply_candidate_under retokenize text (lookedUp tokenizer text progress) candidate keeps grounded
      (ending_active tokenizer _ _ progress.stack candidate found)

theorem scan_steps_under (rounds : Nat) (keeps : KeepsUnder scopes retokenize)
    (grounded : Grounded scopes progress.stack.frames) :
    Continues (.under scopes) progress.output (scanSteps tokenizer retokenize text rounds progress).output := by
  induction rounds generalizing progress with
  | zero => exact produce_continues _ (grounded_top grounded).2 trivial
  | succ rounds ih =>
      have step := scan_step_under retokenize text progress tokenizer keeps grounded
      rw [scanSteps]
      split
      · rename_i last finished
        rwa [finished] at step
      · rename_i next running
        rw [running] at step
        exact continues_trans step.2 (ih next step.1)

theorem retokenizer_keeps_under (nesting : Nat) : KeepsUnder scopes (retokenizer tokenizer nesting) := by
  -- The induction is on how deep groups are tokenized again.
  induction nesting with
  | zero =>
      intro text pos firstLine stack output grounded
      exact produce_continues _ (grounded_top grounded).2 trivial
  | succ nesting ih =>
      intro text pos firstLine stack output grounded
      exact scan_steps_under _ text _ tokenizer _ ih grounded

end Scans

theorem group_rule_lasting (engine : Pattern.Engine) (key : String) (document : Grammar.Document) (place id : Nat)
    (rule : Grammar.CaptureRule)
    (listed : rule ∈ ((Grammar.compile engine key document).rule place).captureRules)
    (again : rule.retokenize = some id) (ended : Grammar.BeginEndRule) :
    (Grammar.compile engine key document).rule id ≠ .beginEnd ended := by
  have held := (Grammar.compile_containers engine key document).2 place
  generalize Grammar.compile engine key document = grammar at listed held ⊢
  rw [Grammar.rule, Array.getD_eq_getD_getElem?] at listed
  cases there : grammar.rules[place]? with
  | none =>
      rw [there] at listed
      cases listed
  | some found =>
      rw [there] at listed
      obtain ⟨container, isContainer⟩ := held found there rule listed id again
      rw [Grammar.rule, Array.getD_eq_getD_getElem?, isContainer]
      simp

section Group

variable (groups : Groups) (group : Nat) (rule : Grammar.CaptureRule) (id start stop : Nat)

theorem group_step_again (retokenize : Retokenizer) (state : OpenGroups × Output) (again : rule.retokenize = some id)
    (found : groups.captures.getD group none = some (start, stop)) (proper : start ≠ stop) :
    groupStep retokenize groups state (group, rule) =
      ((arriveAt groups start state).1,
        retokenize (Text.takeBytes stop groups.text) start (groups.firstLine && start = 0)
          (groups.stack.push (groups.frame rule id start)) (arriveAt groups start state).2) := by
  rw [groupStep]
  dsimp only
  rw [found]
  dsimp only
  rw [if_neg proper, again]

theorem group_frame_base (engine : Pattern.Engine) (key : String) (document : Grammar.Document)
    (compiled : groups.stack.top.rule.grammar = Grammar.compile engine key document)
    (listed : rule ∈ groups.stack.top.rule.rule.captureRules) (again : rule.retokenize = some id) :
    Grounded (pushResolved groups.stack.top.contentScopes rule.name groups.text groups.captures)
      (groups.stack.push (groups.frame rule id start)).frames := by
  refine .base _ _ List.prefix_rfl (push_resolved_extends _ _ _ _) fun ended => ?_
  rw [RuleRef.rule] at listed ⊢
  dsimp only [Groups.frame]
  rw [compiled] at listed ⊢
  exact group_rule_lasting engine key document _ id rule listed again ended

variable (tokenizer : Tokenizer) (nesting : Nat) (earlier later : Grammar.CaptureTable) (output : Output)

theorem retokenized_group_scopes (engine : Pattern.Engine) (key : String) (document : Grammar.Document)
    (compiled : groups.stack.top.rule.grammar = Grammar.compile engine key document)
    (listed : rule ∈ groups.stack.top.rule.rule.captureRules) (again : rule.retokenize = some id)
    (found : groups.captures.getD group none = some (start, stop)) (proper : start ≠ stop) :
    let retokenize := retokenizer tokenizer nesting
    let arrived := arriveAt groups start (earlier.foldl (groupStep retokenize groups) ([], output))
    let after := retokenize (Text.takeBytes stop groups.text) start (groups.firstLine && start = 0)
      (groups.stack.push (groups.frame rule id start)) arrived.2
    let own := pushResolved [] rule.name groups.text groups.captures
    ((∃ other ∈ earlier ++ [(group, rule)], groups.Beyond other.1) ∧
        handleCaptures retokenize groups (earlier ++ (group, rule) :: later) output =
          handleCaptures retokenize groups earlier output ∨
      handleCaptures retokenize groups (earlier ++ (group, rule) :: later) output =
        scanGroups retokenize groups later arrived.1 after) ∧
    ∃ added, after.tokens = added ++ arrived.2.tokens ∧
      ∀ token ∈ added, groups.stack.top.contentScopes ++ own <+: token.scopes := by
  intro retokenize arrived after own
  refine ⟨?_, ?_⟩
  · by_cases beyond : ∃ other ∈ earlier ++ [(group, rule)], groups.Beyond other.1
    · exact .inl ⟨beyond, scan_groups_cut retokenize groups (group, rule) later earlier ([], output) beyond⟩
    · have inside : ∀ other ∈ earlier ++ [(group, rule)], ¬ groups.Beyond other.1 := fun other member isBeyond =>
        beyond ⟨other, member, isBeyond⟩
      obtain ⟨before, here⟩ := List.forall_mem_append.mp inside
      refine .inr ((scan_groups_append retokenize groups earlier ([], output) _ before).trans ?_)
      rw [scan_groups_step retokenize groups (group, rule) later _ (here _ (by simp)),
        group_step_again groups group rule id start stop retokenize _ again found proper]
  · have grounded := group_frame_base groups rule id start engine key document compiled listed again
    rw [push_resolved_append] at grounded
    obtain ⟨added, tokens, _, under⟩ := retokenizer_keeps_under tokenizer nesting _ _ _ _ arrived.2 grounded
    exact ⟨added.reverse, tokens, fun token member => (under token (List.mem_reverse.mp member)).2⟩

end Group

section Example

open Grammar

-- A group with patterns inside a group with a name, as `((a))` has them.
def innerDocument : Document where
  scopeName := "s"
  patterns := .cons
    (.mk { matchPattern := some "((a))" }
      (.present (.cons "1" (.mk { name := some "outer" } .absent .absent .absent .absent .absent .absent)
        (.cons "2" (.mk { name := some "inner" } .absent .absent .absent .absent
          (.present (.cons (.mk { matchPattern := some "a", name := some "x" } .absent .absent .absent .absent .absent .absent)
            .nil)) .absent) .nil)))
      .absent .absent .absent .absent .absent) .nil

def innerTokenizer : Tokenizer := .make .backtracking .empty {} (compile .backtracking "s" innerDocument) none

def innerGroups : Groups :=
  let grammar := compile .backtracking "s" innerDocument
  ⟨['a'], true, (RuleStack.root grammar).push { rule := ⟨grammar, 1⟩, nameScopes := ["s"], contentScopes := ["s"] },
    [some (0, 1), some (0, 1), some (0, 1)]⟩

theorem inner_group_scopes :
    let retokenize := retokenizer innerTokenizer 1
    let rule : CaptureRule := ⟨some "inner", none, some 2⟩
    let arrived := arriveAt innerGroups 0
      ([(1, ⟨some "outer", none, none⟩)].foldl (groupStep retokenize innerGroups) ([], { memory := {} }))
    let after := retokenize ['a'] 0 true (innerGroups.stack.push (innerGroups.frame rule 2 0)) arrived.2
    after.tokens = [⟨0, 1, ["s", "inner", "x"]⟩] ∧
      ∃ added, after.tokens = added ++ arrived.2.tokens ∧ ∀ token ∈ added, ["s"] ++ ["inner"] <+: token.scopes := by
  intro retokenize rule arrived after
  have own : pushResolved [] (some "inner") innerGroups.text innerGroups.captures = ["inner"] := by decide +kernel
  have scopes := (retokenized_group_scopes innerGroups 2 rule 2 0 1 innerTokenizer 1 [(1, ⟨some "outer", none, none⟩)] []
    { memory := {} } .backtracking "s" innerDocument rfl (by decide +kernel) rfl rfl (by decide)).2
  rw [own] at scopes
  exact ⟨by decide +kernel, scopes⟩

theorem inner_group_without_outer :
    let tokens := (innerTokenizer.tokenizeLine {} ['a'] none).tokens
    innerTokenizer.grammar.rule 1 =
        .single ⟨none, "((a))", [(1, ⟨some "outer", none, none⟩), (2, ⟨some "inner", none, some 2⟩)]⟩ ∧
      tokens = [⟨0, 1, ["s", "inner", "x"]⟩] ∧ ¬ ∀ token ∈ tokens, ["s", "outer", "inner"] <+: token.scopes := by
  decide +kernel

end Example

end LineScope.Line
