import LineScope.Proofs.Line.Stack
import LineScope.Proofs.Line.Continuation
import LineScope.Proofs.Grammar.Arena

set_option autoImplicit false

namespace LineScope

-- A stack that can be left whatever fails: the rule at the bottom holds without a pattern.
def RuleStack.Rooted (stack : RuleStack) : Prop :=
  ∀ frame ∈ stack.frames.getLast?, frame.rule.rule.isBeginWhile = false

theorem settled_rooted (engine : Pattern.Engine) (key : String) (document : Grammar.Document)
    (distinct : document.Distinct) (stack : RuleStack) (settled : stack.Settled (.compile engine key document)) :
    stack.Rooted := by
  intro frame isBottom
  cases settled.bottom.symm.trans isBottom
  have held := Grammar.root_held engine key distinct
  change ((Grammar.compile engine key document).rules.getD 0 .invalid).isBeginWhile = false
  rw [Array.getD_eq_getD_getElem?, held]
  rfl

namespace Line

open Pattern (Captures wholeSpan)
open Text (IsBoundary)

section Frames

theorem while_frames_over (stack : RuleStack) :
    whileFrames stack =
      (stack.pop?.map whileFrames).getD [] ++ if stack.top.rule.rule.isBeginWhile then [stack] else [] := by
  obtain ⟨top, below⟩ := stack
  cases below with
  | nil =>
      simp only [whileFrames, RuleStack.ancestors, RuleStack.ancestorsFrom, RuleStack.pop?, List.filter_cons]
      split <;> rfl
  | cons next rest =>
      simp only [whileFrames, RuleStack.ancestors, RuleStack.ancestorsFrom, RuleStack.pop?, List.filter_cons]
      split <;> simp [whileFrames, RuleStack.ancestors]

theorem ancestors_mem_iff (stack frame : RuleStack) : frame ∈ stack.ancestors ↔ frame.frames <:+ stack.frames := by
  refine ⟨ancestors_suffix stack frame, fun suffix => ?_⟩
  obtain ⟨top, below⟩ := stack
  obtain ⟨own, under⟩ := frame
  induction below generalizing top with
  | nil =>
      obtain ⟨rfl, rfl⟩ : own = top ∧ under = [] := by
        simpa [RuleStack.frames, List.suffix_cons_iff] using suffix
      exact List.mem_singleton.mpr rfl
  | cons next rest ih =>
      rcases List.suffix_cons_iff.mp suffix with same | deeper
      · cases same
        exact List.mem_cons_self
      · exact List.mem_cons_of_mem _ (ih next deeper)

theorem while_frames_mem_iff (stack frame : RuleStack) :
    frame ∈ whileFrames stack ↔ frame.frames <:+ stack.frames ∧ frame.top.rule.rule.isBeginWhile = true := by
  rw [whileFrames, List.mem_reverse, List.mem_filter, ancestors_mem_iff]

theorem while_frames_ascend (stack : RuleStack) :
    (whileFrames stack).Pairwise fun outer inner => outer.frames.length < inner.frames.length := by
  obtain ⟨top, below⟩ := stack
  induction below generalizing top with
  | nil =>
      rw [while_frames_over]
      split <;> simp [RuleStack.pop?]
  | cons next rest ih =>
      rw [while_frames_over]
      refine List.pairwise_append.mpr ⟨ih next, by split <;> simp, fun outer isOuter inner isInner => ?_⟩
      have shorter := (((while_frames_mem_iff _ outer).mp isOuter).1).length_le
      obtain rfl : inner = ⟨top, next :: rest⟩ := by
        split at isInner
        · exact List.mem_singleton.mp isInner
        · cases isInner
      exact Nat.lt_succ_of_le shorter

theorem while_frames_before (stack frame : RuleStack) (before after : List RuleStack)
    (listed : whileFrames stack = before ++ frame :: after) : whileFrames frame = before ++ [frame] := by
  obtain ⟨top, below⟩ := stack
  induction below generalizing top after with
  | nil =>
      have whole := listed
      rw [while_frames_over] at listed
      split at listed
      · have alone : before ++ frame :: after = [⟨top, []⟩] := listed.symm
        rcases List.append_eq_singleton_iff.mp alone with ⟨rfl, same⟩ | ⟨_, same⟩
        · cases same
          exact whole
        · cases same
      · exact nomatch List.append_ne_nil_of_right_ne_nil before (List.cons_ne_nil frame after) listed.symm
  | cons next rest ih =>
      have whole := listed
      rw [while_frames_over] at listed
      split at listed
      · rcases List.eq_nil_or_concat after with rfl | ⟨fewer, last, rfl⟩
        · obtain rfl : frame = ⟨top, next :: rest⟩ := by
            simpa [eq_comm] using congrArg List.getLast? listed
          exact whole
        · rw [List.concat_eq_append, ← List.cons_append, ← List.append_assoc] at listed
          exact ih fewer next (List.append_inj' listed rfl).1
      · exact ih after next (by simpa [RuleStack.pop?] using listed)

theorem while_frames_pop (frame parent : RuleStack) (popped : frame.pop? = some parent)
    (holds : frame.top.rule.rule.isBeginWhile = true) : whileFrames frame = whileFrames parent ++ [frame] := by
  rw [while_frames_over, popped, if_pos holds]
  rfl

end Frames

section Tests

def holdingPattern (frame : RuleStack) : Option String :=
  match frame.top.rule.rule with
  | .beginWhile rule => some (frame.top.endPattern.getD rule.whilePattern)
  | _ => none

def furthest (found : List Captures) : Nat := found.foldl (fun place captures => max place (wholeSpan captures).2) 0

-- Where the anchor holds: at the end of the last match, and before the first where the line before has left it.
def anchorAfter (stack : RuleStack) (found : List Captures) : Option Nat :=
  match found.getLast? with
  | none => if stack.top.beginCapturedEol then some 0 else none
  | some captures => some (wholeSpan captures).2

variable (tokenizer : Tokenizer) (text : List Char) (firstLine : Bool) (stack : RuleStack)

-- The test of a frame when those around it have matched: its pattern is searched from the furthest end, which is the
-- start of the text only if no text has been taken.
def whileTest (found : List Captures) (frame : RuleStack) : Option Captures :=
  (holdingPattern frame).bind fun pattern =>
    tokenizer.engine.find pattern ⟨firstLine && furthest found = 0, anchorAfter stack found == some (furthest found)⟩ text
      (furthest found)

inductive Passed : List RuleStack → List Captures → Prop
  | none : Passed [] []
  | more (frames : List RuleStack) (found : List Captures) (frame : RuleStack) (captures : Captures)
      (earlier : Passed frames found) (matched : whileTest tokenizer text firstLine stack found frame = some captures) :
      Passed (frames ++ [frame]) (found ++ [captures])

structure After (memory : Memory) (found : List Captures) (progress : Progress) : Prop where
  pos : progress.pos = furthest found
  firstLine : progress.firstLine = (firstLine && furthest found = 0)
  anchor : progress.anchor = anchorAfter stack found
  place : IsBoundary progress.pos text
  goesOn : Continues (.ends fun _ => True) { memory } progress.output
  reached : progress.pos ≤ progress.output.lastEnd

theorem furthest_snoc (found : List Captures) (captures : Captures) :
    furthest (found ++ [captures]) = max (furthest found) (wholeSpan captures).2 := by
  rw [furthest, List.foldl_append]
  rfl

theorem furthest_bounds (found : List Captures) : ∀ captures ∈ found, (wholeSpan captures).2 ≤ furthest found := by
  induction found using List.reverseRecOn with
  | nil => simp
  | append_singleton earlier last ih =>
      rw [furthest_snoc]
      intro captures member
      rcases List.mem_append.mp member with before | isLast
      · exact (ih captures before).trans (Nat.le_max_left _ _)
      · cases List.mem_singleton.mp isLast
        exact Nat.le_max_right _ _

theorem pass_while_cases (retokenize : Retokenizer) (progress : Progress) (frame : RuleStack)
    (rule : Grammar.BeginWhileRule) (captures : Captures) :
    let passed := passWhile retokenize text progress frame rule captures
    let stop := (wholeSpan captures).2
    passed.stack = progress.stack ∧ passed.anchor = some stop ∧ stop ≤ passed.output.lastEnd ∧
      (progress.pos < stop ∧ passed.pos = stop ∧ passed.firstLine = false ∨
        stop ≤ progress.pos ∧ passed.pos = progress.pos ∧ passed.firstLine = progress.firstLine) := by
  rw [passWhile]
  dsimp only
  split
  · rename_i advanced
    exact ⟨rfl, rfl, produce_reaches _ _ _, .inl ⟨advanced, rfl, rfl⟩⟩
  · rename_i stayed
    exact ⟨rfl, rfl, produce_reaches _ _ _, .inr ⟨Nat.le_of_not_lt stayed, rfl, rfl⟩⟩

variable {tokenizer text firstLine stack}

theorem anchors_after (memory : Memory) (found : List Captures) (progress : Progress)
    (after : After text firstLine stack memory found progress) :
    progress.anchors = ⟨firstLine && furthest found = 0, anchorAfter stack found == some (furthest found)⟩ := by
  rw [Progress.anchors, after.firstLine, after.anchor, after.pos]

variable (engineSound : tokenizer.engine.Sound) (retokenize : Retokenizer)
  (keeps : KeepsContinuing (.ends fun _ => True) retokenize) (memory : Memory)

include engineSound keeps

theorem pass_while_after (found : List Captures) (progress : Progress)
    (after : After text firstLine stack memory found progress) (frame : RuleStack) (rule : Grammar.BeginWhileRule)
    (pattern : String) (captures : Captures)
    (matched : tokenizer.engine.find pattern progress.anchors text progress.pos = some captures) :
    After text firstLine stack memory (found ++ [captures]) (passWhile retokenize text progress frame rule captures) := by
  have sound := Pattern.engine_find_sound _ _ _ text progress.pos captures engineSound after.place matched
  obtain ⟨further, place, _⟩ := pass_while_continues retokenize keeps text progress (fun _ _ => trivial) frame rule captures
    ⟨after.place, ends_on_stack _ _⟩ (ends_on_stack _ frame) sound
  have kept := after.reached.trans (continues_le further)
  have anchored : anchorAfter stack (found ++ [captures]) = some (wholeSpan captures).2 := by simp [anchorAfter]
  obtain ⟨-, anchor, covered, cases⟩ := pass_while_cases text retokenize progress frame rule captures
  have furthestNow := furthest_snoc found captures
  rw [← after.pos] at furthestNow
  rcases cases with ⟨advanced, pos, flag⟩ | ⟨stayed, pos, flag⟩
  · rw [Nat.max_eq_right advanced.le] at furthestNow
    exact {
      pos := pos.trans furthestNow.symm
      firstLine := by rw [flag, furthestNow, decide_eq_false (Nat.ne_zero_of_lt advanced), Bool.and_false]
      anchor := anchor.trans anchored.symm
      place
      goesOn := continues_trans after.goesOn further
      reached := pos ▸ covered }
  · rw [Nat.max_eq_left stayed] at furthestNow
    exact {
      pos := pos.trans furthestNow.symm
      firstLine := by rw [flag, furthestNow, after.firstLine, after.pos]
      anchor := anchor.trans anchored.symm
      place
      goesOn := continues_trans after.goesOn further
      reached := pos ▸ kept }

theorem test_while_run (inner outer : List RuleStack) (found : List Captures) (progress : Progress)
    (holding : ∀ frame ∈ inner, frame.top.rule.rule.isBeginWhile = true)
    (earlier : Passed tokenizer text firstLine stack outer found)
    (after : After text firstLine stack memory found progress) :
    ∃ passed all, Passed tokenizer text firstLine stack (outer ++ passed) all ∧
      After text firstLine stack memory all (testWhile tokenizer retokenize text inner progress) ∧
      (passed = inner ∧ (testWhile tokenizer retokenize text inner progress).stack = progress.stack ∨
        ∃ failing rest, inner = passed ++ failing :: rest ∧
          whileTest tokenizer text firstLine stack all failing = none ∧
          (testWhile tokenizer retokenize text inner progress).stack = failing.safePop) := by
  induction inner generalizing outer found progress with
  | nil => exact ⟨[], found, by rwa [List.append_nil], after, .inl ⟨rfl, rfl⟩⟩
  | cons frame inner ih =>
      obtain ⟨holds, others⟩ := List.forall_mem_cons.mp holding
      cases isRule : frame.top.rule.rule with
      | beginWhile rule =>
          have tested : whileTest tokenizer text firstLine stack found frame =
              tokenizer.engine.find (frame.top.endPattern.getD rule.whilePattern) progress.anchors text progress.pos := by
            rw [whileTest, holdingPattern, isRule, anchors_after memory found progress after, after.pos]
            rfl
          rw [testWhile, isRule]
          dsimp only
          rw [← tested]
          cases matched : whileTest tokenizer text firstLine stack found frame with
          | none =>
              refine ⟨[], found, by rwa [List.append_nil], ?_, .inr ⟨frame, inner, rfl, matched, rfl⟩⟩
              exact { after with }
          | some captures =>
              have passes := Passed.more outer found frame captures earlier matched
              have next := pass_while_after engineSound retokenize keeps memory found progress after frame rule _ captures
                (tested.symm.trans matched)
              obtain ⟨passed, all, run, last, ends⟩ := ih (outer ++ [frame]) _ _ others passes next
              refine ⟨frame :: passed, all, by simpa using run, last, ?_⟩
              rcases ends with ⟨rfl, same⟩ | ⟨failing, rest, rfl, failed, popped⟩
              · exact .inl ⟨rfl, same.trans (pass_while_cases text retokenize progress frame rule captures).1⟩
              · exact .inr ⟨failing, rest, rfl, failed, popped⟩
      | _ => simp [isRule, Grammar.Rule.isBeginWhile] at holds

end Tests

section Pruning

theorem rooted_has_parent (stack failing : RuleStack) (rooted : stack.Rooted) (member : failing ∈ whileFrames stack) :
    ∃ parent, failing.pop? = some parent ∧ failing.safePop = parent := by
  obtain ⟨suffix, holds⟩ := (while_frames_mem_iff stack failing).mp member
  cases popped : failing.pop? with
  | some parent => exact ⟨parent, rfl, by rw [RuleStack.safePop, popped]; rfl⟩
  | none =>
      have alone : failing.frames = [failing.top] := by
        obtain ⟨top, below⟩ := failing
        cases below with
        | nil => rfl
        | cons next rest => cases popped
      obtain ⟨others, whole⟩ := suffix
      have isBottom : failing.top ∈ stack.frames.getLast? := by simp [← whole, alone]
      exact absurd holds (by simp [rooted failing.top isBottom])

/-- At the start of a line, the frames of a stack that hold while a pattern matches are tested from the outside in,
each from the furthest end of the matches before it. If all match, the stack stays as it is. The first that fails is
closed with what is inside it: what is left is its parent, and every rule in it that holds while a pattern matches has
matched. The scan goes on after all the matches, and everything before that place is covered. -/
theorem while_conditions_prune_at_first_failure (tokenizer : Tokenizer) (engineSound : tokenizer.engine.Sound)
    (nesting : Nat) (text : List Char) (firstLine : Bool) (stack : RuleStack) (rooted : stack.Rooted)
    (memory : Memory) :
    let final := checkWhile tokenizer (retokenizer tokenizer nesting) text firstLine stack memory
    ((∀ frame, frame ∈ whileFrames stack ↔
        frame.frames <:+ stack.frames ∧ frame.top.rule.rule.isBeginWhile = true) ∧
      (whileFrames stack).Pairwise fun outer inner => outer.frames.length < inner.frames.length) ∧
    ∃ passed found, Passed tokenizer text firstLine stack passed found ∧
      (passed = whileFrames stack ∧ final.stack = stack ∨
        ∃ failing rest, whileFrames stack = passed ++ failing :: rest ∧
          whileTest tokenizer text firstLine stack found failing = none ∧ failing.pop? = some final.stack) ∧
      final.stack.frames <:+ stack.frames ∧ whileFrames final.stack = passed ∧
      final.pos = furthest found ∧ (∀ captures ∈ found, (wholeSpan captures).2 ≤ final.pos) ∧
      ∀ byte < final.pos, ∃ token ∈ final.output.tokens, token.covers byte = true := by
  intro final
  refine ⟨⟨while_frames_mem_iff stack, while_frames_ascend stack⟩, ?_⟩
  have holding : ∀ frame ∈ whileFrames stack, frame.top.rule.rule.isBeginWhile = true := fun frame member =>
    ((while_frames_mem_iff stack frame).mp member).2
  have start : After text firstLine stack memory []
      ⟨0, firstLine, if stack.top.beginCapturedEol then some 0 else none, stack, { memory }⟩ :=
    { pos := rfl, firstLine := by simp [furthest], anchor := rfl, place := Text.is_boundary_zero text,
      goesOn := continues_refl _, reached := Nat.le_refl 0 }
  have keeps : KeepsContinuing (.ends fun _ => True) (retokenizer tokenizer nesting) :=
    retokenizer_continues tokenizer engineSound nesting
  obtain ⟨passed, found, run, last, ends⟩ := test_while_run engineSound _ keeps memory (whileFrames stack) [] [] _
    holding .none start
  have last : After text firstLine stack memory found final := last
  rw [List.nil_append] at run
  have suffix : final.stack.frames <:+ stack.frames := check_while_stack tokenizer _ text firstLine stack memory
  have covered : ∀ byte < final.pos, ∃ token ∈ final.output.tokens, token.covers byte = true := by
    intro byte below
    obtain ⟨added, tokens, order, _⟩ := last.goesOn
    obtain ⟨token, member, -, covers⟩ := consecutive_covers order byte (Nat.zero_le byte)
      (Nat.lt_of_lt_of_le below last.reached)
    exact ⟨token, by simpa [tokens] using member, covers⟩
  rcases ends with ⟨rfl, same⟩ | ⟨failing, rest, listed, failed, popped⟩
  · have unchanged : final.stack = stack := same
    exact ⟨_, found, run, .inl ⟨rfl, unchanged⟩, suffix, by rw [unchanged], last.pos, last.pos ▸ furthest_bounds found,
      covered⟩
  · have member : failing ∈ whileFrames stack := by simp [listed]
    obtain ⟨parent, isParent, safe⟩ := rooted_has_parent stack failing rooted member
    have isFinal : final.stack = parent := popped.trans safe
    have around := while_frames_before stack failing passed rest listed
    rw [while_frames_pop failing parent isParent (holding failing member)] at around
    refine ⟨passed, found, run, .inr ⟨failing, rest, listed, failed, isFinal ▸ isParent⟩, suffix, ?_, last.pos,
      last.pos ▸ furthest_bounds found, covered⟩
    rw [isFinal]
    exact List.append_cancel_right around

def quotedDocument : Grammar.Document where
  scopeName := "s"
  patterns := .cons
    (.mk { beginPattern := some ">", whilePattern := some ">" } .absent .absent .absent .absent
      (.present (.cons
        (.mk { beginPattern := some "-", whilePattern := some "-" } .absent .absent .absent .absent .absent .absent)
        .nil)) .absent) .nil

def quotedTokenizer : Tokenizer :=
  .make .backtracking .empty {} (.compile .backtracking "s" quotedDocument) none

theorem list_in_quote_pruned :
    let stack := (quotedTokenizer.tokenizeLine {} ['>', '-'] none).stack
    let final := checkWhile quotedTokenizer (retokenizer quotedTokenizer 1) ['>', 'x', '\n'] false stack {}
    stack.Rooted ∧ (whileFrames stack).length = 2 ∧ final.stack.depth = 2 ∧ final.pos = 1 ∧
      ∃ passed found, Passed quotedTokenizer ['>', 'x', '\n'] false stack passed found ∧ whileFrames final.stack = passed ∧
        final.pos = furthest found := by
  intro stack final
  have returned : quotedTokenizer.Returns (fun _ => True) (some stack) := .line {} _ none trivial .nothing
  have rooted : stack.Rooted := settled_rooted .backtracking "s" quotedDocument (by decide) stack
    (returned_settled quotedTokenizer (fun _ => True) (some stack) returned)
  obtain ⟨-, passed, found, run, -, -, kept, pos, -⟩ := while_conditions_prune_at_first_failure quotedTokenizer
    Pattern.backtracking_sound 1 ['>', 'x', '\n'] false stack rooted {}
  exact ⟨rooted, by decide +kernel, by decide +kernel, by decide +kernel, passed, found, run, kept, pos⟩

end Pruning

end Line

end LineScope
