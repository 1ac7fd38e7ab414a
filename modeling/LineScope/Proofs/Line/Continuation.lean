import LineScope.Proofs.Line.Stack
import LineScope.Proofs.Line.GroupScopes

set_option autoImplicit false

namespace LineScope.Line

open Text (IsBoundary byteLength)
open Pattern (CapturesSound)

-- What is asked of tokens: where they may end, and which scopes they may have. Names that are added to scopes take
-- nothing away from them.
structure Demand where
  endsAt : Nat → Prop
  hasScopes : ScopeList → Prop
  grows : ∀ scopes longer, scopes <+: longer → hasScopes scopes → hasScopes longer

namespace Demand

def ends (endsAt : Nat → Prop) : Demand := ⟨endsAt, fun _ => True, fun _ _ _ _ => trivial⟩

variable (demand : Demand)

def Allows (token : Token) : Prop := demand.endsAt token.stop ∧ demand.hasScopes token.scopes

def OnStack (stack : RuleStack) : Prop :=
  ∀ frame ∈ stack.frames, demand.hasScopes frame.nameScopes ∧ demand.hasScopes frame.contentScopes

def OnGroups (opened : OpenGroups) : Prop := ∀ group ∈ opened, demand.hasScopes group.1 ∧ demand.endsAt group.2

def OnText (text : List Char) : Prop := ∀ offset, IsBoundary offset text → demand.endsAt offset

end Demand

theorem ends_on_stack (endsAt : Nat → Prop) (stack : RuleStack) : (Demand.ends endsAt).OnStack stack :=
  fun _ _ => ⟨trivial, trivial⟩

def Consecutive : Nat → Nat → List Token → Prop
  | start, stop, [] => start = stop
  | start, stop, token :: rest => token.start = start ∧ token.start < token.stop ∧ Consecutive token.stop stop rest

section Order

variable {start stop : Nat} {tokens : List Token}

theorem consecutive_append_iff (later : List Token) :
    Consecutive start stop (tokens ++ later) ↔
      ∃ middle, Consecutive start middle tokens ∧ Consecutive middle stop later := by
  induction tokens generalizing start with
  | nil => simp [Consecutive]
  | cons token rest ih => simp [Consecutive, ih, and_assoc]

theorem consecutive_within (consecutive : Consecutive start stop tokens) :
    start ≤ stop ∧ ∀ token ∈ tokens, start ≤ token.start ∧ token.start < token.stop ∧ token.stop ≤ stop := by
  induction tokens generalizing start with
  | nil => exact ⟨Nat.le_of_eq consecutive, by simp⟩
  | cons token rest ih =>
      obtain ⟨begins, proper, further⟩ := consecutive
      obtain ⟨ordered, inside⟩ := ih further
      refine ⟨by omega, List.forall_mem_cons.mpr ⟨by omega, fun other member => ?_⟩⟩
      have bounds := inside other member
      omega

theorem consecutive_last (consecutive : Consecutive start stop tokens) (further : start < stop) :
    ∃ earlier last, tokens = earlier ++ [last] ∧ last.stop = stop := by
  rcases List.eq_nil_or_concat' tokens with rfl | ⟨earlier, last, rfl⟩
  · exact absurd (consecutive : start = stop) (Nat.ne_of_lt further)
  · obtain ⟨_, _, _, _, ends⟩ := (consecutive_append_iff [last]).mp consecutive
    exact ⟨earlier, last, rfl, ends⟩

theorem covers_iff (token : Token) (byte : Nat) : token.covers byte = true ↔ token.start ≤ byte ∧ byte < token.stop := by
  simp [Token.covers]

theorem consecutive_covers (consecutive : Consecutive start stop tokens) (byte : Nat) (above : start ≤ byte)
    (below : byte < stop) : ∃ token ∈ tokens, tokens.filter (·.covers byte) = [token] ∧ token.covers byte := by
  induction tokens generalizing start with
  | nil =>
      cases (consecutive : start = stop)
      omega
  | cons token rest ih =>
      obtain ⟨begins, proper, further⟩ := consecutive
      by_cases here : byte < token.stop
      · have covered : token.covers byte := (covers_iff token byte).mpr ⟨by omega, here⟩
        have others : rest.filter (·.covers byte) = [] := by
          refine List.filter_eq_nil_iff.mpr fun other member holds => ?_
          have later := (consecutive_within further).2 other member
          have reached := (covers_iff other byte).mp holds
          omega
        exact ⟨token, List.mem_cons_self, by simp [covered, others], covered⟩
      · have uncovered : ¬ token.covers byte := fun holds => here ((covers_iff token byte).mp holds).2
        obtain ⟨found, member, single, covered⟩ := ih further (by omega)
        exact ⟨found, List.mem_cons_of_mem _ member, by simp [uncovered, single], covered⟩

-- Dropping what starts at or after the end of the line leaves one token at most that goes beyond it.
theorem end_with_consecutive (demand : Demand) (length : Nat) (consecutive : Consecutive 0 stop tokens)
    (allowed : ∀ token ∈ tokens, demand.Allows token) (reached : length ≤ stop) (here : demand.endsAt length) :
    let ended := (Output.endWith length (tokens.reverse.filter fun token => token.start < length)).reverse
    Consecutive 0 length ended ∧ ∀ token ∈ ended, demand.Allows token := by
  -- The tokens are taken off from the last one on.
  induction tokens using List.reverseRecOn generalizing stop with
  | nil =>
      have zero : 0 = stop := consecutive
      exact ⟨show 0 = length by omega, by simp [Output.endWith]⟩
  | append_singleton earlier last ih =>
      obtain ⟨middle, before, begins, proper, ends⟩ := (consecutive_append_iff [last]).mp consecutive
      obtain ⟨earlierAllowed, lastAllowed⟩ := List.forall_mem_append.mp allowed
      rw [List.reverse_append, List.reverse_singleton, List.singleton_append]
      by_cases inside : last.start < length
      · have all : earlier.reverse.filter (fun token => token.start < length) = earlier.reverse := by
          refine List.filter_eq_self.mpr fun other member => decide_eq_true ?_
          have bounds := (consecutive_within before).2 other (List.mem_reverse.mp member)
          omega
        rw [List.filter_cons_of_pos (by simpa using inside), all, Output.endWith, List.reverse_cons, List.reverse_reverse]
        refine ⟨(consecutive_append_iff _).mpr ⟨middle, before, begins, inside, rfl⟩, ?_⟩
        refine List.forall_mem_append.mpr ⟨earlierAllowed, ?_⟩
        exact List.forall_mem_singleton.mpr ⟨here, (List.forall_mem_singleton.mp lastAllowed).2⟩
      · rw [List.filter_cons_of_neg (by simpa using inside)]
        exact ih before earlierAllowed (by omega)

end Order

section Continuing

variable (demand : Demand)

def Continues (before after : Output) : Prop :=
  ∃ added, after.tokens = added.reverse ++ before.tokens ∧ Consecutive before.lastEnd after.lastEnd added ∧
    ∀ token ∈ added, demand.Allows token

variable {demand} {before middle after : Output} {stop : Nat}

theorem continues_refl (output : Output) : Continues demand output output := ⟨[], rfl, rfl, by simp⟩

theorem continues_trans (first : Continues demand before middle) (second : Continues demand middle after) :
    Continues demand before after := by
  obtain ⟨earlier, tokens, order, allowed⟩ := first
  obtain ⟨later, more, further, others⟩ := second
  exact ⟨earlier ++ later, by rw [more, tokens, List.reverse_append, List.append_assoc],
    (consecutive_append_iff later).mpr ⟨_, order, further⟩, List.forall_mem_append.mpr ⟨allowed, others⟩⟩

theorem continues_le (continues : Continues demand before after) : before.lastEnd ≤ after.lastEnd := by
  obtain ⟨_, _, order, _⟩ := continues
  exact (consecutive_within order).1

theorem continues_ends (continues : Continues demand before after) (further : before.lastEnd < after.lastEnd) :
    demand.endsAt after.lastEnd := by
  obtain ⟨_, _, order, allowed⟩ := continues
  obtain ⟨earlier, last, rfl, ends⟩ := consecutive_last order further
  exact ends ▸ (allowed last (by simp)).1

theorem produce_continues (output : Output) {scopes : ScopeList} (inScope : demand.hasScopes scopes)
    (allowed : demand.endsAt stop) : Continues demand output (output.produce scopes stop) := by
  rw [Output.produce]
  split
  · exact continues_refl output
  · rename_i further
    exact ⟨[⟨output.lastEnd, stop, scopes⟩], rfl, ⟨rfl, Nat.lt_of_not_le further, rfl⟩, by simpa using ⟨allowed, inScope⟩⟩

theorem produce_reaches (output : Output) (scopes : ScopeList) (stop : Nat) :
    stop ≤ (output.produce scopes stop).lastEnd := by
  rw [produce_last_end]
  exact Nat.le_max_right _ _

theorem close_before_continues (place : Nat) (opened : OpenGroups) (output : Output) (allowed : demand.OnGroups opened) :
    Continues demand output (closeBefore place opened output).2 := by
  induction opened generalizing output with
  | nil => exact continues_refl output
  | cons group outer ih =>
      obtain ⟨here, others⟩ := List.forall_mem_cons.mp allowed
      rw [closeBefore]
      split
      · exact continues_trans (produce_continues output here.1 here.2) (ih _ others)
      · exact continues_refl output

theorem close_all_continues (opened : OpenGroups) (output : Output) (allowed : demand.OnGroups opened) :
    Continues demand output (closeAll opened output) := by
  induction opened generalizing output with
  | nil => exact continues_refl output
  | cons group outer ih =>
      obtain ⟨here, others⟩ := List.forall_mem_cons.mp allowed
      exact continues_trans (produce_continues output here.1 here.2) (ih _ others)

theorem innermost_scoped (opened : OpenGroups) (scopes : ScopeList) (allowed : demand.OnGroups opened)
    (inScope : demand.hasScopes scopes) : demand.hasScopes (innermost opened scopes) := by
  cases opened with
  | nil => exact inScope
  | cons group outer => exact (allowed group List.mem_cons_self).1

theorem push_on_stack (stack : RuleStack) (frame : Activation) (inScope : demand.OnStack stack)
    (named : demand.hasScopes frame.nameScopes) (content : demand.hasScopes frame.contentScopes) :
    demand.OnStack (stack.push frame) :=
  List.forall_mem_cons.mpr ⟨⟨named, content⟩, inScope⟩

theorem top_on_stack (stack : RuleStack) (inScope : demand.OnStack stack) :
    demand.hasScopes stack.top.nameScopes ∧ demand.hasScopes stack.top.contentScopes :=
  inScope stack.top List.mem_cons_self

theorem suffix_on_stack (stack deeper : RuleStack) (inScope : demand.OnStack stack)
    (suffix : deeper.frames <:+ stack.frames) : demand.OnStack deeper :=
  fun frame member => inScope frame (suffix.subset member)

theorem group_frame_on_stack (groups : Groups) (rule : Grammar.CaptureRule) (id start : Nat)
    (inScope : demand.OnStack groups.stack) : demand.OnStack (groups.stack.push (groups.frame rule id start)) := by
  have named := demand.grows _ _ (push_resolved_extends groups.stack.top.contentScopes rule.name groups.text groups.captures)
    (top_on_stack groups.stack inScope).2
  exact push_on_stack _ _ inScope named (demand.grows _ _ (push_resolved_extends _ _ _ _) named)

variable (demand) in
def KeepsContinuing (retokenize : Retokenizer) : Prop :=
  ∀ text pos firstLine stack output, demand.OnText text → IsBoundary pos text → demand.OnStack stack →
    Continues demand output (retokenize text pos firstLine stack output) ∧
      byteLength text ≤ (retokenize text pos firstLine stack output).lastEnd

end Continuing

section Steps

variable {demand : Demand} (retokenize : Retokenizer)

section Groups

variable (groups : Groups)

-- The groups of a match, wherever their spans are and whatever tokenizes them again, give tokens as they are asked
-- for.
structure Served (demand : Demand) : Prop where
  content : demand.hasScopes groups.stack.top.contentScopes
  ends : ∀ group start stop, groups.captures.getD group none = some (start, stop) →
    demand.endsAt start ∧ demand.endsAt stop
  again : ∀ group start stop rule id output, groups.captures.getD group none = some (start, stop) →
    Continues demand output
      (retokenize (Text.takeBytes stop groups.text) start (groups.firstLine && start = 0)
        (groups.stack.push (groups.frame rule id start)) output)

variable {retokenize groups} (served : Served retokenize groups demand)

include served

theorem arrived_continues (place : Nat) (state : OpenGroups × Output) (allowed : demand.OnGroups state.1)
    (here : demand.endsAt place) :
    Continues demand state.2 (arriveAt groups place state).2 ∧ demand.OnGroups (arriveAt groups place state).1 := by
  have remaining : demand.OnGroups (arriveAt groups place state).1 := by
    rw [arrived_open]
    exact fun group member => allowed group ((List.dropWhile_suffix _).subset member)
  have inner := innermost_scoped _ _ remaining served.content
  exact ⟨continues_trans (close_before_continues place state.1 state.2 allowed) (produce_continues _ inner here),
    remaining⟩

theorem group_step_continues (entry : Nat × Grammar.CaptureRule) (state : OpenGroups × Output)
    (allowed : demand.OnGroups state.1) :
    Continues demand state.2 (groupStep retokenize groups state entry).2 ∧
      demand.OnGroups (groupStep retokenize groups state entry).1 := by
  rw [groupStep]
  split
  · exact ⟨continues_refl state.2, allowed⟩
  · rename_i start stop found
    obtain ⟨starts, stops⟩ := served.ends entry.1 start stop found
    obtain ⟨arrived, remaining⟩ := arrived_continues served start state allowed starts
    split
    · exact ⟨continues_refl state.2, allowed⟩
    · dsimp only
      split
      · rename_i id _
        exact ⟨continues_trans arrived (served.again entry.1 start stop entry.2 id _ found), remaining⟩
      · refine ⟨arrived, ?_⟩
        rw [openGroup]
        split
        · exact remaining
        · have within := innermost_scoped _ _ remaining served.content
          exact List.forall_mem_cons.mpr ⟨⟨demand.grows _ _ (List.prefix_append _ _) within, stops⟩, remaining⟩

theorem scan_groups_continues (table : Grammar.CaptureTable) (state : OpenGroups × Output)
    (allowed : demand.OnGroups state.1) :
    Continues demand state.2 (scanGroups retokenize groups table state.1 state.2) := by
  induction table generalizing state with
  | nil => exact close_all_continues state.1 state.2 allowed
  | cons entry rest ih =>
      by_cases beyond : groups.Beyond entry.1
      · rw [scan_groups_beyond retokenize groups entry rest state beyond]
        exact close_all_continues state.1 state.2 allowed
      · obtain ⟨step, remaining⟩ := group_step_continues served entry state allowed
        rw [scan_groups_step retokenize groups entry rest state beyond]
        exact continues_trans step (ih _ remaining)

theorem handle_captures_continues (table : Grammar.CaptureTable) (output : Output) :
    Continues demand output (handleCaptures retokenize groups table output) :=
  scan_groups_continues served table ([], output) (by simp [Demand.OnGroups])

end Groups

section Effects

variable {retokenize} (text : List Char) (progress : Progress) (candidate : Candidate)
  (starts : demand.endsAt candidate.start) (stops : demand.endsAt candidate.stop)

include starts stops

-- The text before a match, its groups, and the rest of it.
theorem match_continues (stack : RuleStack)
    (served : Served retokenize ⟨text, progress.firstLine, stack, candidate.captures⟩ demand)
    (table : Grammar.CaptureTable) {outside inside : ScopeList} (outer : demand.hasScopes outside)
    (inner : demand.hasScopes inside) :
    Continues demand progress.output
      ((handleCaptures retokenize ⟨text, progress.firstLine, stack, candidate.captures⟩ table
        (progress.output.produce outside candidate.start)).produce inside candidate.stop) := by
  have upTo := produce_continues progress.output outer starts
  have captured := handle_captures_continues served table (progress.output.produce outside candidate.start)
  exact continues_trans (continues_trans upTo captured) (produce_continues _ inner stops)

variable (named : demand.hasScopes progress.stack.top.nameScopes)
  (content : demand.hasScopes progress.stack.top.contentScopes)

include named content

theorem effect_continues
    (closing : Served retokenize
      ⟨text, progress.firstLine, progress.stack.withContentScopes progress.stack.top.nameScopes, candidate.captures⟩ demand)
    (opened : ∀ rule, demand.hasScopes (openedFrame text progress rule candidate).nameScopes → Served retokenize
      ⟨text, progress.firstLine, progress.stack.push (openedFrame text progress rule candidate), candidate.captures⟩
      demand) :
    Continues demand progress.output (effectOf retokenize text progress candidate).output := by
  rw [effectOf]
  split
  · have ended := match_continues text progress candidate starts stops _ closing
      (endCapturesOf progress.stack.top.rule.rule) content named
    rw [applyEnd]
    split
    · split <;> exact ended
    · exact ended
  · rename_i rule _
    have inner : demand.hasScopes (openedFrame text progress rule candidate).nameScopes :=
      demand.grows _ _ (push_resolved_extends _ _ _ _) content
    have begun := fun table => match_continues text progress candidate starts stops _ (opened rule inner) table content inner
    rw [applyRule]
    dsimp only
    split
    · split <;> exact begun _
    · exact begun _

end Effects

variable (keeps : KeepsContinuing demand retokenize)

include keeps in
theorem sound_served (groups : Groups) (pos : Nat) (cuts : demand.OnText groups.text)
    (sound : CapturesSound groups.text pos groups.captures) (inScope : demand.OnStack groups.stack) :
    Served retokenize groups demand where
  content := (top_on_stack groups.stack inScope).2
  ends := by
    intro group start stop found
    have span := Pattern.captures_sound_group groups.text pos groups.captures group start stop sound found
    exact ⟨cuts start span.startBoundary, cuts stop span.stopBoundary⟩
  again := by
    intro group start stop rule id output found
    have span := Pattern.captures_sound_group groups.text pos groups.captures group start stop sound found
    have inner : demand.OnText (Text.takeBytes stop groups.text) := fun offset boundary =>
      cuts offset (Text.is_boundary_of_take_bytes span.stopBoundary boundary)
    have place := Text.is_boundary_take_bytes span.startBoundary span.stopBoundary span.ordered
    exact (keeps _ start _ _ output inner place (group_frame_on_stack groups rule id start inScope)).1

variable (text : List Char) (progress : Progress) (candidate : Candidate) (cuts : demand.OnText text)

variable (demand) in
structure OnTrack : Prop where
  place : IsBoundary progress.pos text
  inScope : demand.OnStack progress.stack

include cuts

theorem finish_continues (inScope : demand.OnStack progress.stack) :
    Continues demand progress.output (progress.finish text).output ∧
      byteLength text ≤ (progress.finish text).output.lastEnd :=
  ⟨produce_continues _ (top_on_stack _ inScope).2 (cuts _ (Text.is_boundary_end text)), produce_reaches _ _ _⟩

include keeps

theorem sound_effect_continues (sound : CapturesSound text progress.pos candidate.captures)
    (inScope : demand.OnStack progress.stack) :
    Continues demand progress.output (effectOf retokenize text progress candidate).output := by
  have whole := Pattern.captures_sound_whole text progress.pos candidate.captures sound
  obtain ⟨named, content⟩ := top_on_stack progress.stack inScope
  have served := fun stack =>
    sound_served retokenize keeps ⟨text, progress.firstLine, stack, candidate.captures⟩ progress.pos cuts sound
  have closing : demand.OnStack (progress.stack.withContentScopes progress.stack.top.nameScopes) :=
    List.forall_mem_cons.mpr ⟨⟨named, named⟩, (List.forall_mem_cons.mp inScope).2⟩
  exact effect_continues text progress candidate (cuts _ whole.startBoundary) (cuts _ whole.stopBoundary) named content
    (served _ closing) fun rule inner => served _ (push_on_stack progress.stack _ inScope inner inner)

theorem pass_while_continues (frame : RuleStack) (rule : Grammar.BeginWhileRule) (captures : Pattern.Captures)
    (track : OnTrack demand text progress) (inScope : demand.OnStack frame)
    (sound : CapturesSound text progress.pos captures) :
    Continues demand progress.output (passWhile retokenize text progress frame rule captures).output ∧
      OnTrack demand text (passWhile retokenize text progress frame rule captures) := by
  have whole := Pattern.captures_sound_whole text progress.pos captures sound
  have served := sound_served retokenize keeps ⟨text, progress.firstLine, frame, captures⟩ progress.pos cuts sound inScope
  have goesOn := match_continues text progress ⟨.ending, captures⟩ (cuts _ whole.startBoundary)
    (cuts _ whole.stopBoundary) frame served rule.whileCaptures served.content served.content
  rw [passWhile]
  dsimp only
  split
  · exact ⟨goesOn, whole.stopBoundary, track.inScope⟩
  · exact ⟨goesOn, track.place, track.inScope⟩

omit keeps cuts in
theorem move_on_stack (stack : RuleStack) (stalls : Bool) (inScope : demand.OnStack progress.stack)
    (move : Move text progress candidate stack stalls) : demand.OnStack stack := by
  cases move with
  | closed _ popped _ =>
      rw [Demand.OnStack, pop_frames progress.stack stack popped] at inScope
      exact (List.forall_mem_cons.mp inScope).2
  | opened rule captures contentName endPattern winner parts fresh =>
      have above := pushed_frame_over text progress rule candidate captures contentName endPattern parts
      have named := demand.grows _ _ above.name (top_on_stack progress.stack inScope).2
      exact push_on_stack progress.stack (pushedFrame text progress rule candidate contentName endPattern) inScope named
        (demand.grows _ _ above.content named)
  | passed _ => exact inScope
  | stalled => exact inScope

variable (demand) in
def OutcomeContinues (before : Output) : Outcome → Prop
  | .finished last => Continues demand before last.output ∧ byteLength text ≤ last.output.lastEnd
  | .running next => Continues demand before next.output ∧ OnTrack demand text next

theorem apply_candidate_continues (track : OnTrack demand text progress)
    (sound : CapturesSound text progress.pos candidate.captures) :
    OutcomeContinues demand text progress.output (applyCandidate retokenize text progress candidate) := by
  have goesOn := sound_effect_continues retokenize keeps text progress candidate cuts sound track.inScope
  have inScope := move_on_stack text progress candidate _ _ track.inScope (effect_move retokenize text progress candidate)
  rw [applyCandidate]
  dsimp only
  split
  · rw [forceProgress]
    split
    · obtain ⟨further, reached⟩ := finish_continues text { progress with
          anchor := (effectOf retokenize text progress candidate).anchor
          stack := (effectOf retokenize text progress candidate).stack
          output := (effectOf retokenize text progress candidate).output } cuts inScope
      exact ⟨continues_trans goesOn further, reached⟩
    · rename_i c rest following
      have next := Text.is_boundary_next track.place following
      exact ⟨continues_trans goesOn (produce_continues _ (top_on_stack _ inScope).2 (cuts _ next)), next, inScope⟩
  · split
    · exact ⟨goesOn, (Pattern.captures_sound_whole text progress.pos candidate.captures sound).stopBoundary, inScope⟩
    · exact ⟨goesOn, track.place, inScope⟩

variable (tokenizer : Tokenizer) (engineSound : tokenizer.engine.Sound)

omit keeps cuts in
include engineSound in
theorem winner_sound (place : IsBoundary progress.pos text) (found : winnerAt tokenizer text progress = some candidate) :
    CapturesSound text progress.pos candidate.captures := by
  obtain ⟨contender, _, there⟩ := find_candidate_mem tokenizer _ _ progress.stack candidate found
  obtain ⟨captures, searched, rfl⟩ := Option.map_eq_some_iff.mp there
  exact Pattern.engine_find_sound _ _ _ text progress.pos captures engineSound place searched

include engineSound

theorem scan_step_continues (track : OnTrack demand text progress) :
    OutcomeContinues demand text progress.output (scanStep tokenizer retokenize text progress) := by
  rw [scan_step_eq]
  split
  · exact finish_continues text (lookedUp tokenizer text progress) cuts track.inScope
  · rename_i candidate found
    have sound := winner_sound text progress candidate tokenizer engineSound track.place found
    exact apply_candidate_continues retokenize keeps text (lookedUp tokenizer text progress) candidate cuts
      ⟨track.place, track.inScope⟩ sound

theorem scan_steps_continue (rounds : Nat) (track : OnTrack demand text progress) :
    Continues demand progress.output (scanSteps tokenizer retokenize text rounds progress).output ∧
      byteLength text ≤ (scanSteps tokenizer retokenize text rounds progress).output.lastEnd := by
  induction rounds generalizing progress with
  | zero => exact finish_continues text progress cuts track.inScope
  | succ rounds ih =>
      have step := scan_step_continues retokenize keeps text progress cuts tokenizer engineSound track
      rw [scanSteps]
      split
      · rename_i last finished
        rwa [finished] at step
      · rename_i next running
        rw [running] at step
        obtain ⟨further, reached⟩ := ih next step.2
        exact ⟨continues_trans step.1 further, reached⟩

theorem test_while_continues (frames : List RuleStack) (track : OnTrack demand text progress)
    (inScope : ∀ frame ∈ frames, demand.OnStack frame) :
    Continues demand progress.output (testWhile tokenizer retokenize text frames progress).output ∧
      OnTrack demand text (testWhile tokenizer retokenize text frames progress) := by
  induction frames generalizing progress with
  | nil => exact ⟨continues_refl _, track⟩
  | cons frame inner ih =>
      obtain ⟨here, others⟩ := List.forall_mem_cons.mp inScope
      rw [testWhile]
      split
      · rename_i rule _
        dsimp only
        split
        · exact ⟨continues_refl _, track.place, suffix_on_stack frame _ here (safe_pop_suffix frame)⟩
        · rename_i captures found
          have sound := Pattern.engine_find_sound _ _ _ text progress.pos captures engineSound track.place found
          obtain ⟨passed, next⟩ := pass_while_continues retokenize keeps text progress cuts frame rule captures track here
            sound
          obtain ⟨further, last⟩ := ih _ next others
          exact ⟨continues_trans passed further, last⟩
      · exact ih progress track others

end Steps

section Runs

variable {demand : Demand} (tokenizer : Tokenizer) (engineSound : tokenizer.engine.Sound)

include engineSound

theorem retokenizer_continues (nesting : Nat) : KeepsContinuing demand (retokenizer tokenizer nesting) := by
  -- The induction is on how deep groups are tokenized again.
  induction nesting with
  | zero =>
      intro text pos firstLine stack output cuts place inScope
      exact finish_continues text ⟨pos, firstLine, none, stack, output⟩ cuts inScope
  | succ nesting ih =>
      intro text pos firstLine stack output cuts place inScope
      exact scan_steps_continue _ ih text ⟨pos, firstLine, none, stack, output⟩ cuts tokenizer engineSound _ ⟨place, inScope⟩

theorem tokenize_text_continues (memory : Memory) (text : List Char) (firstLine : Bool) (stack : RuleStack)
    (cuts : demand.OnText text) (inScope : demand.OnStack stack) :
    Continues demand { memory } (tokenizer.tokenizeText memory text firstLine stack).output ∧
      byteLength text ≤ (tokenizer.tokenizeText memory text firstLine stack).output.lastEnd := by
  have keeps : KeepsContinuing demand (retokenizer tokenizer tokenizer.nesting) :=
    retokenizer_continues tokenizer engineSound tokenizer.nesting
  obtain ⟨tested, track⟩ := test_while_continues _ keeps text
    ⟨0, firstLine, if stack.top.beginCapturedEol then some 0 else none, stack, { memory }⟩ cuts tokenizer engineSound
    (whileFrames stack) ⟨Text.is_boundary_zero text, inScope⟩
    fun frame member => suffix_on_stack stack frame inScope (while_frames_suffix stack frame member)
  obtain ⟨scanned, reached⟩ := scan_steps_continue _ keeps text _ cuts tokenizer engineSound
    (stepBudget tokenizer text (checkWhile tokenizer (retokenizer tokenizer tokenizer.nesting) text firstLine stack memory).stack)
    track
  exact ⟨continues_trans tested scanned, reached⟩

theorem tokenize_line_consecutive (memory : Memory) (line : List Char) (previous : Option RuleStack)
    (cuts : demand.OnText (line ++ ['\n'])) (inScope : demand.OnStack (previous.getD tokenizer.initialStack)) :
    Consecutive 0 (byteLength line) (tokenizer.tokenizeLine memory line previous).tokens ∧
      ∀ token ∈ (tokenizer.tokenizeLine memory line previous).tokens, demand.Allows token := by
  have here := cuts _ (Text.is_boundary_split line ['\n'])
  rw [Tokenizer.tokenizeLine]
  dsimp only
  split
  · rename_i long
    have positive : 0 < byteLength line := by
      cases limit : tokenizer.maxLineLength with
      | none => simp [limit] at long
      | some most =>
          rw [limit, Option.any_some, decide_eq_true_eq] at long
          omega
    exact ⟨⟨rfl, positive, rfl⟩, List.forall_mem_singleton.mpr ⟨here, (top_on_stack _ inScope).2⟩⟩
  · obtain ⟨⟨added, tokens, order, allowed⟩, reached⟩ := tokenize_text_continues tokenizer engineSound memory
      (line ++ ['\n']) previous.isNone _ cuts inScope
    rw [Text.byte_length_append] at reached
    rw [List.append_nil] at tokens
    rw [Output.finish, tokens]
    exact end_with_consecutive demand (byteLength line) order allowed (by omega) here

end Runs

end LineScope.Line
