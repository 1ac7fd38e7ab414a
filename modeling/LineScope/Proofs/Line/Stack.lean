import LineScope.Proofs.Line.Move
import LineScope.Tokenizer
import Mathlib.Data.List.Chain

set_option autoImplicit false

namespace LineScope

def Grammar.Rule.ending? : Grammar.Rule → Option String
  | .beginEnd rule => some rule.endPattern
  | .beginWhile rule => some rule.whilePattern
  | _ => none

structure Frame.Over (frame parent : Frame) : Prop where
  depth : frame.depth = parent.depth + 1
  rule : (∃ rule, frame.rule.rule = .beginEnd rule) ∨ ∃ rule, frame.rule.rule = .beginWhile rule
  name : parent.contentScopes <+: frame.nameScopes
  content : frame.nameScopes <+: frame.contentScopes
  ending : frame.endPattern.isSome ↔ ∃ pattern, frame.rule.rule.ending? = some pattern ∧ Pattern.hasReferences pattern

def Frame.forgetPositions (frame : Frame) : Frame := { frame with enterPos := none, anchorPos := none }

def Frame.Settled (frame : Frame) : Prop := frame.enterPos = none ∧ frame.anchorPos = none

theorem forget_positions_settled (frame : Frame) (settled : frame.Settled) : frame.forgetPositions = frame := by
  obtain ⟨⟨rule, enterPos, anchorPos, eol, ending, names, contents⟩, depth⟩ := frame
  obtain ⟨enter, anchor⟩ := settled
  simp only at enter anchor
  rw [Frame.forgetPositions, enter, anchor]

structure RuleStack.Settled (grammar : Grammar) (stack : RuleStack) : Prop where
  bottom : stack.frames.getLast? = some (RuleStack.root grammar).top
  chain : stack.frames.IsChain Frame.Over
  depth : stack.depth = stack.frames.length
  positions : ∀ frame ∈ stack.frames, frame.Settled

theorem root_settled (grammar : Grammar) : (RuleStack.root grammar).Settled grammar where
  bottom := rfl
  chain := .singleton _
  depth := rfl
  positions := by
    intro frame member
    cases List.mem_singleton.mp member
    exact ⟨rfl, rfl⟩

namespace Line

-- A stack in the course of a line, which has come through some states. At the bottom is what has been on the stack
-- all along; each frame above that was pushed by a step from one of the states, on the very frames that are below it
-- now.
structure LineStack (tokenizer : Tokenizer) (retokenize : Retokenizer) (text : List Char) (states : List Progress)
    (start frames pushed kept : List Frame) : Prop where
  chain : frames.IsChain Frame.Over
  split : frames = pushed ++ kept
  remains : kept ≠ []
  shared : kept <:+ start
  untouched : ∀ state ∈ states, kept <:+ state.stack.frames
  opened : ∀ above frame inner, pushed = above ++ frame :: inner →
    ∃ state ∈ states, state.stack.frames = inner ++ kept ∧ Opens tokenizer retokenize text state frame

theorem push_resolved_extends (scopes : ScopeList) (name : Option String) (text : List Char)
    (captures : Pattern.Captures) : scopes <+: pushResolved scopes name text captures := by
  cases name with
  | none => exact List.prefix_rfl
  | some name => exact List.prefix_append scopes _

theorem begin_parts_ending (rule : Grammar.Rule) (captures : Grammar.CaptureTable) (contentName : Option String)
    (endPattern : String) (parts : beginPartsOf rule = some (captures, contentName, endPattern)) :
    ((∃ inner, rule = .beginEnd inner) ∨ ∃ inner, rule = .beginWhile inner) ∧ rule.ending? = some endPattern := by
  cases rule with
  | beginEnd inner =>
      cases parts
      exact ⟨.inl ⟨inner, rfl⟩, rfl⟩
  | beginWhile inner =>
      cases parts
      exact ⟨.inr ⟨inner, rfl⟩, rfl⟩
  | single inner => cases parts
  | container inner => cases parts
  | invalid => cases parts

theorem pushed_frame_over (text : List Char) (progress : Progress) (rule : RuleRef) (candidate : Candidate)
    (captures : Grammar.CaptureTable) (contentName : Option String) (endPattern : String)
    (parts : beginPartsOf rule.rule = some (captures, contentName, endPattern)) :
    (progress.stack.push (pushedFrame text progress rule candidate contentName endPattern)).top.Over
      progress.stack.top where
  depth := rfl
  rule := (begin_parts_ending rule.rule captures contentName endPattern parts).1
  name := push_resolved_extends _ _ _ _
  content := push_resolved_extends _ _ _ _
  ending := by
    have ending := (begin_parts_ending rule.rule captures contentName endPattern parts).2
    have found : (progress.stack.push
        (pushedFrame text progress rule candidate contentName endPattern)).top.rule.rule.ending? = some endPattern := ending
    rw [found]
    by_cases references : Pattern.hasReferences endPattern = true <;>
      simp [RuleStack.push, pushedFrame, contentFrame, references]

section Steps

variable {tokenizer : Tokenizer} {retokenize : Retokenizer} {text : List Char} {states : List Progress}
  {start pushed kept : List Frame}

theorem move_line_stack (progress next : Progress) (visited : progress ∈ states)
    (step : scanStep tokenizer retokenize text progress = .running next)
    (before : LineStack tokenizer retokenize text states start progress.stack.frames pushed kept) :
    ∃ pushed kept, LineStack tokenizer retokenize text states start next.stack.frames pushed kept := by
  obtain ⟨candidate, stalls, _, move, _⟩ := scan_step_running tokenizer retokenize text progress next step
  have opens : ∀ frame, next.stack.frames = frame :: progress.stack.frames →
      Opens tokenizer retokenize text progress frame := fun frame grown => ⟨next, step, grown⟩
  generalize next.stack = stack at move opens ⊢
  cases move with
  | closed _ popped _ =>
      have frames := pop_frames progress.stack stack popped
      have chain : stack.frames.IsChain Frame.Over := (frames ▸ before.chain).tail
      have split := before.split
      rw [frames] at split
      cases pushed with
      | nil =>
          -- the frame has been there all along, so that from now on less of the stack has
          have tail : stack.frames <:+ kept := ⟨[progress.stack.top], split⟩
          exact ⟨[], stack.frames, chain, rfl, by simp [RuleStack.frames], tail.trans before.shared,
            fun state earlier => tail.trans (before.untouched state earlier), by simp⟩
      | cons first others =>
          exact ⟨others, kept, chain, (List.cons.inj split).2, before.remains, before.shared, before.untouched,
            fun above frame inner part => before.opened (first :: above) frame inner (congrArg (List.cons first) part)⟩
  | opened rule captures contentName endPattern winner parts fresh =>
      have owed := pushed_frame_over text progress rule candidate captures contentName endPattern parts
      refine ⟨_ :: pushed, kept, List.isChain_cons_cons.mpr ⟨owed, before.chain⟩, congrArg (List.cons _) before.split,
        before.remains, before.shared, before.untouched, fun above frame inner part => ?_⟩
      cases above with
      | nil =>
          obtain ⟨rfl, rfl⟩ := List.cons.inj part
          exact ⟨progress, visited, before.split, opens _ rfl⟩
      | cons first others => exact before.opened others frame inner (List.cons.inj part).2
  | passed _ => exact ⟨pushed, kept, before⟩
  | stalled => exact ⟨pushed, kept, before⟩

theorem visit_line_stack (state : Progress)
    (line : LineStack tokenizer retokenize text states start state.stack.frames pushed kept) :
    LineStack tokenizer retokenize text (states ++ [state]) start state.stack.frames pushed kept where
  chain := line.chain
  split := line.split
  remains := line.remains
  shared := line.shared
  untouched := List.forall_mem_append.mpr ⟨line.untouched, List.forall_mem_singleton.mpr ⟨pushed, line.split.symm⟩⟩
  opened above frame inner part :=
    let ⟨earlier, visited, opened⟩ := line.opened above frame inner part
    ⟨earlier, List.mem_append_left _ visited, opened⟩

theorem scan_line_stack (rounds : Nat) (progress : Progress) (pushed kept : List Frame)
    (line : LineStack tokenizer retokenize text (states ++ [progress]) start progress.stack.frames pushed kept) :
    ∃ pushed kept, LineStack tokenizer retokenize text (states ++ scanStates tokenizer retokenize text rounds progress)
      start (scanSteps tokenizer retokenize text rounds progress).stack.frames pushed kept := by
  induction rounds generalizing states progress pushed kept with
  | zero => exact ⟨pushed, kept, line⟩
  | succ rounds ih =>
      rw [scanStates, scanSteps]
      cases step : scanStep tokenizer retokenize text progress with
      | finished last =>
          dsimp only
          rw [scan_step_finished tokenizer retokenize text progress last step]
          exact ⟨pushed, kept, line⟩
      | running next =>
          obtain ⟨pushed, kept, after⟩ := move_line_stack progress next (by simp) step line
          have onward := ih next pushed kept (visit_line_stack next after)
          rwa [List.append_assoc] at onward

variable (tokenizer retokenize text) in
theorem scan_states_last (rounds : Nat) (progress : Progress) :
    ∃ last, (scanStates tokenizer retokenize text rounds progress).getLast? = some last ∧
      (scanSteps tokenizer retokenize text rounds progress).stack = last.stack := by
  induction rounds generalizing progress with
  | zero => exact ⟨progress, rfl, rfl⟩
  | succ rounds ih =>
      rw [scanStates, scanSteps]
      cases step : scanStep tokenizer retokenize text progress with
      | finished last => exact ⟨progress, rfl, scan_step_finished tokenizer retokenize text progress last step⟩
      | running next =>
          obtain ⟨last, isLast, same⟩ := ih next
          exact ⟨last, by rw [List.getLast?_cons, isLast]; rfl, same⟩

end Steps

theorem ancestors_suffix (stack ancestor : RuleStack) (member : ancestor ∈ stack.ancestors) :
    ancestor.frames <:+ stack.frames := by
  obtain ⟨top, below⟩ := stack
  simp only [RuleStack.ancestors, RuleStack.frames] at member ⊢
  induction below generalizing top with
  | nil =>
      cases List.mem_singleton.mp member
      exact List.suffix_rfl
  | cons next rest ih =>
      rcases List.mem_cons.mp member with rfl | deeper
      · exact List.suffix_rfl
      · exact (ih next deeper).trans (List.suffix_cons top _)

theorem safe_pop_suffix (stack : RuleStack) : stack.safePop.frames <:+ stack.frames := by
  cases popped : stack.pop? with
  | none => simp [RuleStack.safePop, popped]
  | some parent =>
      rw [pop_frames stack parent popped, RuleStack.safePop, popped]
      exact List.suffix_cons _ _

theorem while_frames_suffix (stack frame : RuleStack) (member : frame ∈ whileFrames stack) :
    frame.frames <:+ stack.frames := by
  have listed := (List.mem_filter.mp (List.mem_reverse.mp member)).1
  exact ancestors_suffix stack frame listed

-- A while pattern that fails closes its frame with all that is inside it; nothing else in this phase changes the
-- stack.
theorem test_while_stack (tokenizer : Tokenizer) (retokenize : Retokenizer) (text : List Char)
    (frames : List RuleStack) (progress : Progress) :
    (testWhile tokenizer retokenize text frames progress).stack = progress.stack ∨
      ∃ frame ∈ frames, (testWhile tokenizer retokenize text frames progress).stack = frame.safePop := by
  induction frames generalizing progress with
  | nil => exact .inl rfl
  | cons frame inner ih =>
      have deeper : ∀ passed : Progress, passed.stack = progress.stack →
          (testWhile tokenizer retokenize text inner passed).stack = progress.stack ∨
            ∃ other ∈ frame :: inner, (testWhile tokenizer retokenize text inner passed).stack = other.safePop := by
        intro passed same
        rcases ih passed with unchanged | ⟨other, member, popped⟩
        · exact .inl (unchanged.trans same)
        · exact .inr ⟨other, List.mem_cons_of_mem _ member, popped⟩
      rw [testWhile]
      split
      · dsimp only
        split
        · exact .inr ⟨frame, by simp, rfl⟩
        · apply deeper
          rw [passWhile]
          dsimp only
          split <;> rfl
      · exact deeper progress rfl

theorem check_while_stack (tokenizer : Tokenizer) (retokenize : Retokenizer) (text : List Char) (firstLine : Bool)
    (stack : RuleStack) (memory : Memory) :
    (checkWhile tokenizer retokenize text firstLine stack memory).stack.frames <:+ stack.frames := by
  rcases test_while_stack tokenizer retokenize text (whileFrames stack) _ with unchanged | ⟨frame, member, popped⟩
  · have same : (checkWhile tokenizer retokenize text firstLine stack memory).stack = stack := by
      rw [checkWhile, unchanged]
    exact same.symm ▸ List.suffix_rfl
  · rw [checkWhile, popped]
    exact (safe_pop_suffix frame).trans (while_frames_suffix stack frame member)

theorem frames_ne_nil (stack : RuleStack) : stack.frames ≠ [] := by simp [RuleStack.frames]

end Line

-- Forgetting stops at the first frame without positions, which is enough: the frames with positions are those pushed
-- in this line, and they lie on top.
theorem reset_frames_append (pushed kept : List Frame) (entered : ∀ frame ∈ pushed, frame.enterPos.isSome)
    (settled : ∀ frame ∈ kept, frame.Settled) :
    RuleStack.resetFrames (pushed ++ kept) = pushed.map Frame.forgetPositions ++ kept := by
  induction pushed with
  | nil =>
      cases kept with
      | nil => rfl
      | cons frame rest =>
          obtain ⟨enter, anchor⟩ := settled frame (by simp)
          simp [RuleStack.resetFrames, enter, anchor]
  | cons frame rest ih =>
      have here := entered frame (by simp)
      rw [List.cons_append, RuleStack.resetFrames, if_pos (by simp [here]),
        ih fun other member => entered other (List.mem_cons_of_mem _ member)]
      rfl

theorem reset_line_positions_frames (stack : RuleStack) :
    stack.resetLinePositions.frames = RuleStack.resetFrames stack.frames := by
  have more : RuleStack.resetFrames stack.frames ≠ [] := by
    rw [RuleStack.frames, RuleStack.resetFrames]
    split <;> simp
  rw [RuleStack.resetLinePositions]
  split
  · rename_i nothing
    exact absurd nothing more
  · rename_i top below frames
    rw [frames]
    rfl

-- The stacks that a tokenizer has returned, after any lines and with anything in its memory that `remembers` allows;
-- nothing comes before the first line.
inductive Tokenizer.Returns (tokenizer : Tokenizer) (remembers : Memory → Prop) : Option RuleStack → Prop
  | nothing : Returns tokenizer remembers none
  | line (memory : Memory) (line : List Char) (previous : Option RuleStack) (remembered : remembers memory)
      (earlier : Returns tokenizer remembers previous) :
      Returns tokenizer remembers (some (tokenizer.tokenizeLine memory line previous).stack)

-- The states that a line goes through, after the rules that hold while a pattern matches have been tested. A line
-- that is too long goes through none.
def Tokenizer.lineStates (tokenizer : Tokenizer) (memory : Memory) (line : List Char) (previous : Option RuleStack) :
    List Line.Progress :=
  let retokenize := Line.retokenizer tokenizer tokenizer.nesting
  let text := line ++ ['\n']
  if tokenizer.maxLineLength.any fun limit => limit < Text.byteLength line then []
  else
    let start := Line.checkWhile tokenizer retokenize text previous.isNone (previous.getD tokenizer.initialStack) memory
    Line.scanStates tokenizer retokenize text (Line.stepBudget tokenizer text start.stack) start

-- A stack that a line leaves, seen from the stack it started with and the states it went through: the frames that
-- have been there in every state, unchanged, and on them those that steps of this line have pushed, each on the very
-- frames that are below it now.
structure RuleStack.Continues (tokenizer : Tokenizer) (text : List Char) (states : List Line.Progress)
    (before after : RuleStack) (pushed kept : List Frame) : Prop where
  frames : after.frames = pushed.map Frame.forgetPositions ++ kept
  remains : kept ≠ []
  shared : kept <:+ before.frames
  untouched : ∀ state ∈ states, kept <:+ state.stack.frames
  last : ∀ state ∈ states.getLast?, state.stack.frames = pushed ++ kept
  opened : ∀ above frame inner, pushed = above ++ frame :: inner →
    ∃ state ∈ states, state.stack.frames = inner ++ kept ∧
      Line.Opens tokenizer (Line.retokenizer tokenizer tokenizer.nesting) text state frame

theorem chain_depth (top bottom : Frame) (below : List Frame) (isBottom : (top :: below).getLast? = some bottom)
    (first : bottom.depth = 1) (chain : (top :: below).IsChain Frame.Over) : top.depth = (top :: below).length := by
  induction below generalizing top with
  | nil =>
      cases isBottom
      exact first
  | cons parent rest ih =>
      obtain ⟨above, chained⟩ := List.isChain_cons_cons.mp chain
      rw [above.depth, ih parent (by rwa [List.getLast?_cons_cons] at isBottom) chained]
      rfl

theorem reset_line_stack (grammar : Grammar) (tokenizer : Tokenizer) (text : List Char) (states : List Line.Progress)
    (before stack : RuleStack) (pushed kept : List Frame) (settled : before.Settled grammar)
    (isLast : ∀ state ∈ states.getLast?, state.stack = stack)
    (line : Line.LineStack tokenizer (Line.retokenizer tokenizer tokenizer.nesting) text states before.frames
      stack.frames pushed kept) :
    stack.resetLinePositions.Settled grammar ∧
      before.Continues tokenizer text states stack.resetLinePositions pushed kept := by
  have entered : ∀ frame ∈ pushed, frame.enterPos.isSome := by
    intro frame member
    obtain ⟨above, inner, part⟩ := List.append_of_mem member
    obtain ⟨state, _, _, opened⟩ := line.opened above frame inner part
    exact Line.opens_entered tokenizer _ text state frame opened
  have keptSettled : ∀ frame ∈ kept, frame.Settled := fun frame member =>
    settled.positions frame (line.shared.subset member)
  have frames : stack.resetLinePositions.frames = pushed.map Frame.forgetPositions ++ kept := by
    rw [reset_line_positions_frames, line.split, reset_frames_append pushed kept entered keptSettled]
  have all : stack.resetLinePositions.frames = stack.frames.map Frame.forgetPositions := by
    rw [frames, line.split, List.map_append, List.map_congr_left fun frame member =>
      forget_positions_settled frame (keptSettled frame member), List.map_id']
  have bottom : stack.resetLinePositions.frames.getLast? = some (RuleStack.root grammar).top := by
    obtain ⟨others, whole⟩ := line.shared
    have bottom := settled.bottom
    rw [← whole, List.getLast?_append_of_ne_nil _ line.remains] at bottom
    rw [frames, List.getLast?_append_of_ne_nil _ line.remains, bottom]
  have chain : stack.resetLinePositions.frames.IsChain Frame.Over := by
    rw [all, List.isChain_map]
    exact line.chain.imp fun frame parent above => ⟨above.depth, above.rule, above.name, above.content, above.ending⟩
  refine ⟨⟨bottom, chain, chain_depth _ _ _ bottom rfl chain, ?_⟩,
    frames, line.remains, line.shared, line.untouched, fun state final => ?_, line.opened⟩
  · intro frame member
    rw [all] at member
    obtain ⟨old, _, rfl⟩ := List.mem_map.mp member
    exact ⟨rfl, rfl⟩
  · rw [isLast state final, line.split]

theorem tokenize_line_stack (tokenizer : Tokenizer) (memory : Memory) (line : List Char)
    (previous : Option RuleStack) (settled : (previous.getD tokenizer.initialStack).Settled tokenizer.grammar) :
    (tokenizer.tokenizeLine memory line previous).stack.Settled tokenizer.grammar ∧
      ∃ pushed kept, (previous.getD tokenizer.initialStack).Continues tokenizer (line ++ ['\n'])
        (tokenizer.lineStates memory line previous) (tokenizer.tokenizeLine memory line previous).stack pushed kept := by
  rw [Tokenizer.tokenizeLine, Tokenizer.lineStates]
  dsimp only
  split
  · exact ⟨settled, [], _, rfl, Line.frames_ne_nil _, List.suffix_rfl, by simp, by simp, by simp⟩
  · let retokenize := Line.retokenizer tokenizer tokenizer.nesting
    let stack := previous.getD tokenizer.initialStack
    let start := Line.checkWhile tokenizer retokenize (line ++ ['\n']) previous.isNone stack memory
    have suffix := Line.check_while_stack tokenizer retokenize (line ++ ['\n']) previous.isNone stack memory
    have first : Line.LineStack tokenizer retokenize (line ++ ['\n']) ([] ++ [start]) stack.frames start.stack.frames []
        start.stack.frames :=
      ⟨settled.chain.suffix suffix, rfl, Line.frames_ne_nil _, suffix, by simp, by simp⟩
    obtain ⟨pushed, kept, after⟩ := Line.scan_line_stack
      (Line.stepBudget tokenizer (line ++ ['\n']) start.stack) start [] start.stack.frames first
    obtain ⟨last, isLast, same⟩ := Line.scan_states_last tokenizer retokenize (line ++ ['\n'])
      (Line.stepBudget tokenizer (line ++ ['\n']) start.stack) start
    rw [List.nil_append] at after
    have left := reset_line_stack tokenizer.grammar tokenizer _ _ stack _ pushed kept settled
      (fun state final => by rw [isLast] at final; cases final; exact same.symm) after
    exact ⟨left.1, pushed, kept, left.2⟩

theorem returned_settled (tokenizer : Tokenizer) (remembers : Memory → Prop) (previous : Option RuleStack)
    (returned : tokenizer.Returns remembers previous) :
    (previous.getD tokenizer.initialStack).Settled tokenizer.grammar := by
  induction returned with
  | nothing => exact root_settled tokenizer.grammar
  | line memory line previous remembered earlier ih => exact (tokenize_line_stack tokenizer memory line previous ih).1

/-- The stack after a line, after any lines before it: it stands on the root of the grammar, every other frame answers
to the frame below it, nothing is left of the positions in the line, and the frames of the stack before it are kept
from the bottom up, with those pushed in this line on top. -/
theorem returned_stack_invariant (tokenizer : Tokenizer) (remembers : Memory → Prop) (memory : Memory)
    (line : List Char) (previous : Option RuleStack) (returned : tokenizer.Returns remembers previous) :
    (tokenizer.tokenizeLine memory line previous).stack.Settled tokenizer.grammar ∧
      ∃ pushed kept, (previous.getD tokenizer.initialStack).Continues tokenizer (line ++ ['\n'])
        (tokenizer.lineStates memory line previous) (tokenizer.tokenizeLine memory line previous).stack pushed kept :=
  tokenize_line_stack tokenizer memory line previous (returned_settled tokenizer remembers previous returned)

section Example

def bracketTokenizer : Tokenizer :=
  .ofRules "bracket" #[.container ⟨none, none, [.rule 1]⟩,
    .beginEnd ⟨some "inside", none, "<", [], ">", [], false, [.rule 1]⟩]

theorem bracket_stack_invariant :
    let first := bracketTokenizer.tokenizeLine {} ['<', 'é'] none
    let second := bracketTokenizer.tokenizeLine {} ['>', '<', '<'] (some first.stack)
    first.stack.depth = 2 ∧ second.stack.depth = 3 ∧ second.stack.Settled bracketTokenizer.grammar ∧
      ∃ pushed kept, first.stack.Continues bracketTokenizer ['>', '<', '<', '\n']
        (bracketTokenizer.lineStates {} ['>', '<', '<'] (some first.stack)) second.stack pushed kept := by
  intro first second
  have depths : first.stack.depth = 2 ∧ second.stack.depth = 3 := by decide +kernel
  have returned : bracketTokenizer.Returns (fun _ => True) (some first.stack) := .line {} _ none trivial .nothing
  exact ⟨depths.1, depths.2, returned_stack_invariant bracketTokenizer _ {} ['>', '<', '<'] (some first.stack) returned⟩

end Example

end LineScope
