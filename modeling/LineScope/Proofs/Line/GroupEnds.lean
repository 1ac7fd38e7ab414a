import LineScope.Proofs.Line.Continuation
import Mathlib.Order.MinMax

/-!
Where the tokens for the groups of a match end. A group with a name or with patterns is covered to its
own end, which a look-ahead can put after the end of the match; only a group that starts after the match
ends the list. So the tokens stay inside the match exactly when no group that starts in it, or where it
ends, goes beyond it.
-/

set_option autoImplicit false

namespace LineScope

def Grammar.CaptureRule.givesScopes (rule : CaptureRule) : Bool := rule.retokenize.isSome || rule.name.isSome

namespace Line

open Text (IsBoundary byteLength)
open Pattern (CapturesSound)

section Edges

-- Something is covered beyond an offset, or will be when the open groups are closed.
def Passes (edge : Nat) (state : OpenGroups × Output) : Prop :=
  edge < state.2.lastEnd ∨ ∃ group ∈ state.1, edge < group.2

-- The groups whose turn comes: a group beyond the match takes the turn of all that follow it.
inductive Groups.Reached (groups : Groups) : Grammar.CaptureTable → Nat × Grammar.CaptureRule → Prop
  | here (entry : Nat × Grammar.CaptureRule) (rest : Grammar.CaptureTable) (inside : ¬ groups.Beyond entry.1) :
      Groups.Reached groups (entry :: rest) entry
  | later (first entry : Nat × Grammar.CaptureRule) (rest : Grammar.CaptureTable) (inside : ¬ groups.Beyond first.1)
      (further : Groups.Reached groups rest entry) : Groups.Reached groups (first :: rest) entry

-- Up to where a group has the text covered: without scopes of its own, only the text before it.
def Groups.coveredTo (groups : Groups) (entry : Nat × Grammar.CaptureRule) : Nat :=
  match groups.captures.getD entry.1 none with
  | none => 0
  | some (start, stop) => if start = stop then 0 else if entry.2.givesScopes then stop else start

variable (edge : Nat)

theorem passes_open (scopes : ScopeList) (stop : Nat) (opened : OpenGroups) (output : Output) :
    Passes edge ((scopes, stop) :: opened, output) ↔ Passes edge (opened, output) ∨ edge < stop := by
  rw [Passes, Passes, List.exists_mem_cons_iff, or_assoc]
  exact or_congr_right or_comm

theorem passes_produced (scopes : ScopeList) (stop : Nat) (opened : OpenGroups) (output : Output) :
    Passes edge (opened, output.produce scopes stop) ↔ Passes edge (opened, output) ∨ edge < stop := by
  rw [Passes, Passes, produce_last_end, lt_max_iff]
  exact or_right_comm

theorem close_before_passes (place : Nat) (opened : OpenGroups) (output : Output) :
    Passes edge (closeBefore place opened output) ↔ Passes edge (opened, output) := by
  induction opened generalizing output with
  | nil => exact Iff.rfl
  | cons group outer ih =>
      obtain ⟨scopes, stop⟩ := group
      rw [closeBefore]
      split
      · rw [ih, passes_produced, passes_open]
      · exact Iff.rfl

theorem close_all_passes (opened : OpenGroups) (output : Output) :
    edge < (closeAll opened output).lastEnd ↔ Passes edge (opened, output) := by
  induction opened generalizing output with
  | nil => simp [closeAll, Passes]
  | cons group outer ih =>
      obtain ⟨scopes, stop⟩ := group
      rw [closeAll, ih, passes_produced, passes_open]

theorem arrived_passes (groups : Groups) (place : Nat) (state : OpenGroups × Output) :
    Passes edge (arriveAt groups place state) ↔ Passes edge state ∨ edge < place := by
  rw [arriveAt, passes_produced]
  exact or_congr_left (close_before_passes edge place state.1 state.2)

variable {retokenize : Retokenizer} (keeps : ∀ endsAt, KeepsContinuing (.ends endsAt) retokenize)

include keeps

theorem retokenized_last_end (text : List Char) (pos : Nat) (firstLine : Bool) (stack : RuleStack) (output : Output)
    (place : IsBoundary pos text) :
    (retokenize text pos firstLine stack output).lastEnd = max output.lastEnd (byteLength text) := by
  obtain ⟨goesOn, reached⟩ := keeps (· ≤ byteLength text) text pos firstLine stack output
    (fun _ boundary => Text.is_boundary_le boundary) place (ends_on_stack _ stack)
  have forward := continues_le goesOn
  have inside : output.lastEnd < _ → _ ≤ byteLength text := continues_ends goesOn
  omega

variable (groups : Groups) (pos : Nat) (sound : CapturesSound groups.text pos groups.captures)

include sound

theorem group_step_passes (entry : Nat × Grammar.CaptureRule) (state : OpenGroups × Output) :
    Passes edge (groupStep retokenize groups state entry) ↔ Passes edge state ∨ edge < groups.coveredTo entry := by
  rw [groupStep, Groups.coveredTo]
  cases found : groups.captures.getD entry.1 none with
  | none => simp
  | some span =>
      obtain ⟨start, stop⟩ := span
      have within := Pattern.captures_sound_group groups.text pos groups.captures entry.1 start stop sound found
      have ordered := within.ordered
      dsimp only
      by_cases empty : start = stop
      · simp [empty]
      · rw [if_neg empty, if_neg empty, Grammar.CaptureRule.givesScopes]
        cases again : entry.2.retokenize with
        | some id =>
            have place := Text.is_boundary_take_bytes within.startBoundary within.stopBoundary ordered
            have last := retokenized_last_end keeps (Text.takeBytes stop groups.text) start
              (groups.firstLine && start = 0) (groups.stack.push (groups.frame entry.2 id start))
              (arriveAt groups start state).2 place
            rw [Text.byte_length_take_bytes within.stopBoundary] at last
            have arrived := arrived_passes edge groups start state
            rw [Passes] at arrived
            simp only [Option.isSome_some, Bool.true_or, if_true]
            rw [Passes, last, lt_max_iff, or_right_comm, arrived, or_assoc]
            exact or_congr_right (by omega)
        | none =>
            dsimp only
            rw [openGroup]
            cases name : entry.2.name with
            | some name =>
                simp only [Option.isSome_some, Bool.or_true, if_true]
                rw [passes_open, arrived_passes, or_assoc]
                exact or_congr_right (by omega)
            | none => exact arrived_passes edge groups start state

theorem scan_groups_passes (table : Grammar.CaptureTable) (state : OpenGroups × Output) :
    edge < (scanGroups retokenize groups table state.1 state.2).lastEnd ↔
      Passes edge state ∨ ∃ entry, groups.Reached table entry ∧ edge < groups.coveredTo entry := by
  -- How far the text is covered comes from each of the groups apart.
  induction table generalizing state with
  | nil =>
      rw [scanGroups, close_all_passes]
      refine ⟨.inl, ?_⟩
      rintro (here | ⟨_, ⟨⟩, _⟩)
      exact here
  | cons first rest ih =>
      by_cases beyond : groups.Beyond first.1
      · rw [scan_groups_beyond retokenize groups first rest state beyond, close_all_passes]
        refine ⟨.inl, ?_⟩
        rintro (here | ⟨_, _ | _, _⟩)
        · exact here
        · contradiction
        · contradiction
      · rw [scan_groups_step retokenize groups first rest state beyond, ih, group_step_passes edge keeps groups pos sound]
        constructor
        · rintro ((here | own) | ⟨entry, reached, further⟩)
          · exact .inl here
          · exact .inr ⟨first, .here first rest beyond, own⟩
          · exact .inr ⟨entry, .later first entry rest beyond reached, further⟩
        · rintro (here | ⟨entry, _ | ⟨_, _, _, _, reached⟩, further⟩)
          · exact .inl (.inl here)
          · exact .inl (.inr further)
          · exact .inr ⟨entry, reached, further⟩

end Edges

theorem reached_inside (groups : Groups) (table : Grammar.CaptureTable) (entry : Nat × Grammar.CaptureRule)
    (reached : groups.Reached table entry) : ¬ groups.Beyond entry.1 := by
  induction reached with
  | here _ _ inside => exact inside
  | later _ _ _ _ _ ih => exact ih

theorem covered_beyond_iff (groups : Groups) (table : Grammar.CaptureTable) (pos edge : Nat)
    (sound : CapturesSound groups.text pos groups.captures) (after : (Pattern.wholeSpan groups.captures).2 ≤ edge) :
    (∃ entry, groups.Reached table entry ∧ edge < groups.coveredTo entry) ↔
      ∃ entry, groups.Reached table entry ∧ entry.2.givesScopes ∧
        ∃ start stop, groups.Takes entry.1 start stop ∧ edge < stop := by
  refine exists_congr fun entry => and_congr_right fun reached => ?_
  simp only [Groups.coveredTo, Groups.Takes]
  cases found : groups.captures.getD entry.1 none with
  | none => simp
  | some span =>
      obtain ⟨start, stop⟩ := span
      have ordered := (Pattern.captures_sound_group groups.text pos groups.captures entry.1 start stop sound found).ordered
      have inside := reached_inside groups table entry reached
      dsimp only
      by_cases empty : start = stop
      · simp +contextual [empty]
      · have early : start ≤ edge := by
          by_contra late
          exact inside ⟨start, stop, found, empty, by omega⟩
        have proper : start < stop := by omega
        simp only [empty, if_false, Option.some.injEq, Prod.mk.injEq]
        cases entry.2.givesScopes with
        | true => simpa using fun _ => proper
        | false => simpa using early

theorem handle_captures_passes (retokenize : Retokenizer) (groups : Groups) (table : Grammar.CaptureTable)
    (output : Output) (pos edge : Nat) (keeps : ∀ endsAt, KeepsContinuing (.ends endsAt) retokenize)
    (sound : CapturesSound groups.text pos groups.captures) (after : (Pattern.wholeSpan groups.captures).2 ≤ edge)
    (new : output.lastEnd ≤ edge) :
    edge < (handleCaptures retokenize groups table output).lastEnd ↔
      ∃ entry, groups.Reached table entry ∧ entry.2.givesScopes ∧
        ∃ start stop, groups.Takes entry.1 start stop ∧ edge < stop := by
  rw [← covered_beyond_iff groups table pos edge sound after]
  refine (scan_groups_passes edge keeps groups pos sound table ([], output)).trans (or_iff_right ?_)
  rintro (before | ⟨_, ⟨⟩, _⟩)
  exact absurd before (Nat.not_lt.mpr new)

theorem tokens_end_with_match_iff (tokenizer : Tokenizer) (nesting : Nat) (groups : Groups)
    (table : Grammar.CaptureTable) (output : Output) (pos : Nat) (engineSound : tokenizer.engine.Sound)
    (sound : CapturesSound groups.text pos groups.captures) :
    let matchEnd := (Pattern.wholeSpan groups.captures).2
    ∃ added, (handleCaptures (retokenizer tokenizer nesting) groups table output).tokens = added ++ output.tokens ∧
      ((∀ token ∈ added, token.stop ≤ matchEnd) ↔
        ∀ entry, groups.Reached table entry → entry.2.givesScopes → ∀ start stop, groups.Takes entry.1 start stop →
          stop ≤ max matchEnd output.lastEnd) := by
  intro matchEnd
  have keeps : ∀ endsAt, KeepsContinuing (.ends endsAt) (retokenizer tokenizer nesting) := fun endsAt =>
    retokenizer_continues tokenizer engineSound nesting
  have passes := handle_captures_passes (retokenizer tokenizer nesting) groups table output pos
    (max matchEnd output.lastEnd) keeps sound (le_max_left _ _) (le_max_right _ _)
  have served := sound_served _ (keeps fun _ => True) groups pos (fun _ _ => trivial) sound (ends_on_stack _ groups.stack)
  obtain ⟨added, tokens, order, _⟩ := handle_captures_continues served table output
  refine ⟨added.reverse, tokens, ?_⟩
  simp only [List.mem_reverse]
  constructor
  · intro inside entry reached named start stop takes
    by_contra beyond
    have further := passes.mpr ⟨entry, reached, named, start, stop, takes, Nat.lt_of_not_le beyond⟩
    obtain ⟨earlier, last, rfl, ends⟩ := consecutive_last order (lt_of_le_of_lt (le_max_right _ _) further)
    have within := inside last (by simp)
    omega
  · intro inside token member
    by_contra beyond
    obtain ⟨first, proper, last⟩ := (consecutive_within order).2 token member
    obtain ⟨entry, reached, named, start, stop, takes, further⟩ := passes.mp (by omega)
    exact absurd (inside entry reached named start stop takes) (Nat.not_le.mpr further)

section Example

open Grammar

def aheadDocument : Document where
  scopeName := "s"
  patterns := .cons
    (.mk { matchPattern := some "a(?=(b))" }
      (.present (.cons "1" (.mk { name := some "x" } .absent .absent .absent .absent .absent .absent) .nil))
      .absent .absent .absent .absent .absent)
    (.cons (.mk { matchPattern := some "b", name := some "k" } .absent .absent .absent .absent .absent .absent) .nil)

def aheadTokenizer : Tokenizer := .make .backtracking .empty {} (compile .backtracking "s" aheadDocument) none

def distantGroups : Groups :=
  let grammar := compile .backtracking "s" aheadDocument
  ⟨['a', 'b', 'a', 'b', '\n'], true, RuleStack.root grammar, [some (0, 2), some (0, 1), some (3, 4)]⟩

theorem distant_group_left_over :
    let table : CaptureTable := [(1, ⟨some "in", none, some 0⟩), (2, ⟨some "out", none, none⟩)]
    let final := handleCaptures (retokenizer aheadTokenizer 1) distantGroups table { memory := {} }
    aheadTokenizer.engine.find "(a)b(?=.(b))" ⟨true, true⟩ distantGroups.text 0 = some distantGroups.captures ∧
      final.tokens = [⟨0, 1, ["s", "in"]⟩] ∧ ∀ token ∈ final.tokens, token.stop ≤ 2 := by
  intro table final
  have found : aheadTokenizer.engine.find "(a)b(?=.(b))" ⟨true, true⟩ distantGroups.text 0 = some distantGroups.captures := by
    decide +kernel
  have sound := Pattern.engine_find_sound _ _ _ distantGroups.text 0 distantGroups.captures Pattern.backtracking_sound
    (Text.is_boundary_zero _) found
  obtain ⟨added, tokens, inside⟩ := tokens_end_with_match_iff aheadTokenizer 1 distantGroups table { memory := {} } 0
    Pattern.backtracking_sound sound
  refine ⟨found, by decide +kernel, ?_⟩
  rw [show final.tokens = added from tokens.trans (List.append_nil added)]
  refine inside.mpr ?_
  intro entry reached named start stop ⟨taken, _⟩
  dsimp only [table] at reached
  cases reached with
  | here =>
      cases taken
      decide
  | later _ _ _ _ further =>
      cases further with
      | here _ _ notBeyond => exact absurd ⟨3, 4, rfl, by decide, by decide⟩ notBeyond
      | later _ _ _ _ none => cases none

/-- A group that starts where the match ends takes text that the next step would have given to its own rule. -/
theorem lookahead_group_beyond_match :
    let groups : Groups :=
      ⟨['a', 'b', '\n'], true, RuleStack.root aheadTokenizer.grammar, [some (0, 1), some (1, 2)]⟩
    let table : CaptureTable := [(1, ⟨some "x", none, none⟩)]
    let final := handleCaptures (retokenizer aheadTokenizer 1) groups table { memory := {} }
    aheadTokenizer.engine.find "a(?=(b))" ⟨true, true⟩ groups.text 0 = some groups.captures ∧
      final.tokens = [⟨1, 2, ["s", "x"]⟩, ⟨0, 1, ["s"]⟩] ∧ (¬ ∀ token ∈ final.tokens, token.stop ≤ 1) ∧
      (aheadTokenizer.tokenizeLine {} ['a', 'b'] none).tokens = [⟨0, 1, ["s"]⟩, ⟨1, 2, ["s", "x"]⟩] := by
  decide +kernel

end Example

end Line

end LineScope
