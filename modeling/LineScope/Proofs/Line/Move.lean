import LineScope.Proofs.Line.Contender
import LineScope.Line.While

set_option autoImplicit false

namespace LineScope.Line

def pushedFrame (text : List Char) (progress : Progress) (rule : RuleRef) (candidate : Candidate)
    (contentName : Option String) (endPattern : String) : Activation :=
  contentFrame text (openedFrame text progress rule candidate) contentName endPattern candidate.captures

-- The stack after a match, and whether the match stalled. A stack changes only by a frame more or a frame less, and a
-- match that takes no text never closes what was opened here nor opens it again.
inductive Move (text : List Char) (progress : Progress) (candidate : Candidate) : RuleStack → Bool → Prop
  | closed (parent : RuleStack) (popped : progress.stack.pop? = some parent)
      (elsewhere : progress.pos < candidate.stop ∨ progress.stack.top.enterPos ≠ some progress.pos) :
      Move text progress candidate parent false
  | opened (rule : RuleRef) (captures : Grammar.CaptureTable) (contentName : Option String) (endPattern : String)
      (winner : candidate.winner = .rule rule)
      (parts : beginPartsOf rule.rule = some (captures, contentName, endPattern))
      (fresh : progress.pos < candidate.stop ∨
        RuleStack.entersAgain (pushedFrame text progress rule candidate contentName endPattern)
          progress.stack.frames = false) :
      Move text progress candidate
        (progress.stack.push (pushedFrame text progress rule candidate contentName endPattern)) false
  | passed (advanced : progress.pos < candidate.stop) : Move text progress candidate progress.stack false
  | stalled : Move text progress candidate progress.stack true

theorem pop_frames (stack parent : RuleStack) (popped : stack.pop? = some parent) :
    stack.frames = stack.top :: parent.frames := by
  obtain ⟨top, below⟩ := stack
  cases below with
  | nil => cases popped
  | cons next rest =>
      cases popped
      rfl

theorem with_content_scopes_pop (stack : RuleStack) (scopes : ScopeList) :
    (stack.withContentScopes scopes).pop? = stack.pop? := rfl

theorem apply_end_move (retokenize : Retokenizer) (text : List Char) (progress : Progress) (candidate : Candidate) :
    Move text progress candidate (applyEnd retokenize text progress candidate).stack
      (applyEnd retokenize text progress candidate).stalled := by
  rw [applyEnd, with_content_scopes_pop]
  cases popped : progress.stack.pop? with
  | none => exact .stalled
  | some parent =>
      dsimp only
      split
      · rename_i elsewhere
        exact .closed parent popped (by simpa using elsewhere)
      · exact .stalled

theorem apply_rule_move (retokenize : Retokenizer) (text : List Char) (progress : Progress) (rule : RuleRef)
    (candidate : Candidate) (winner : candidate.winner = .rule rule) :
    Move text progress candidate (applyRule retokenize text progress rule candidate).stack
      (applyRule retokenize text progress rule candidate).stalled := by
  rw [applyRule]
  cases parts : beginPartsOf rule.rule with
  | none =>
      dsimp only
      by_cases advanced : progress.pos < candidate.stop
      · simpa [advanced] using Move.passed advanced
      · simpa [advanced] using Move.stalled
  | some found =>
      obtain ⟨captures, contentName, endPattern⟩ := found
      dsimp only
      split
      · exact .stalled
      · rename_i fresh
        refine .opened rule captures contentName endPattern winner parts ?_
        by_cases advanced : progress.pos < candidate.stop
        · exact .inl advanced
        · exact .inr (by simpa [advanced, pushedFrame] using fresh)

theorem effect_move (retokenize : Retokenizer) (text : List Char) (progress : Progress) (candidate : Candidate) :
    Move text progress candidate (effectOf retokenize text progress candidate).stack
      (effectOf retokenize text progress candidate).stalled := by
  rw [effectOf]
  split
  · exact apply_end_move retokenize text progress candidate
  · rename_i rule winner
    exact apply_rule_move retokenize text progress rule candidate winner

inductive Advance (text : List Char) (progress : Progress) (candidate : Candidate) : Bool → Nat → Prop
  | forced (c : Char) (rest : List Char) (next : Text.dropBytes progress.pos text = c :: rest) :
      Advance text progress candidate true (progress.pos + c.utf8Size)
  | taken (advanced : progress.pos < candidate.stop) : Advance text progress candidate false candidate.stop
  | stayed (empty : ¬ progress.pos < candidate.stop) : Advance text progress candidate false progress.pos

theorem apply_candidate_running (retokenize : Retokenizer) (text : List Char) (progress next : Progress)
    (candidate : Candidate) (step : applyCandidate retokenize text progress candidate = .running next) :
    ∃ stalls, Move text progress candidate next.stack stalls ∧ Advance text progress candidate stalls next.pos := by
  have move := effect_move retokenize text progress candidate
  rw [applyCandidate] at step
  generalize effectOf retokenize text progress candidate = effect at move step
  obtain ⟨anchor, stack, output, stalls⟩ := effect
  dsimp only at move step
  refine ⟨stalls, ?_⟩
  cases stalls with
  | true =>
      rw [if_pos rfl, forceProgress] at step
      split at step
      · cases step
      · rename_i c rest following
        cases step
        exact ⟨move, .forced c rest following⟩
  | false =>
      rw [if_neg Bool.false_ne_true] at step
      split at step
      · rename_i advanced
        cases step
        exact ⟨move, .taken advanced⟩
      · rename_i empty
        cases step
        exact ⟨move, .stayed empty⟩

theorem apply_candidate_finished (retokenize : Retokenizer) (text : List Char) (progress last : Progress)
    (candidate : Candidate) (step : applyCandidate retokenize text progress candidate = .finished last) :
    last.stack = progress.stack := by
  have move := effect_move retokenize text progress candidate
  rw [applyCandidate] at step
  generalize effectOf retokenize text progress candidate = effect at move step
  obtain ⟨anchor, stack, output, stalls⟩ := effect
  dsimp only at move step
  cases stalls with
  | true =>
      rw [if_pos rfl, forceProgress] at step
      split at step
      · cases step
        cases move
        rfl
      · cases step
  | false =>
      rw [if_neg Bool.false_ne_true] at step
      split at step <;> cases step

section Steps

variable (tokenizer : Tokenizer) (retokenize : Retokenizer) (text : List Char)

abbrev winnerAt (progress : Progress) : Option Candidate :=
  findCandidate tokenizer (progress.output.memory.patternSet tokenizer.library tokenizer.grammar)
    ⟨text, progress.pos, progress.anchors⟩ progress.stack

def lookedUp (progress : Progress) : Progress :=
  { progress with
    output :=
      { progress.output with
        memory :=
          memoryAfter tokenizer ⟨text, progress.pos, progress.anchors⟩ progress.stack progress.output.memory } }

theorem scan_step_eq (progress : Progress) :
    scanStep tokenizer retokenize text progress =
      match winnerAt tokenizer text progress with
      | none => .finished ((lookedUp tokenizer text progress).finish text)
      | some candidate => applyCandidate retokenize text (lookedUp tokenizer text progress) candidate := rfl

theorem move_of_looked_up (progress : Progress) (candidate : Candidate) (stack : RuleStack) (stalls : Bool)
    (move : Move text (lookedUp tokenizer text progress) candidate stack stalls) :
    Move text progress candidate stack stalls := by
  cases move with
  | closed _ popped elsewhere => exact .closed stack popped elsewhere
  | opened rule captures contentName endPattern winner parts fresh =>
      exact .opened rule captures contentName endPattern winner parts fresh
  | passed advanced => exact .passed advanced
  | stalled => exact .stalled

theorem advance_of_looked_up (progress : Progress) (candidate : Candidate) (stalls : Bool) (pos : Nat)
    (advance : Advance text (lookedUp tokenizer text progress) candidate stalls pos) :
    Advance text progress candidate stalls pos := by
  cases advance with
  | forced c rest following => exact .forced c rest following
  | taken advanced => exact .taken advanced
  | stayed empty => exact .stayed empty

theorem scan_step_running (progress next : Progress)
    (step : scanStep tokenizer retokenize text progress = .running next) :
    ∃ candidate stalls, winnerAt tokenizer text progress = some candidate ∧
      Move text progress candidate next.stack stalls ∧ Advance text progress candidate stalls next.pos := by
  rw [scan_step_eq] at step
  split at step
  · cases step
  · rename_i candidate found
    obtain ⟨stalls, move, advance⟩ := apply_candidate_running retokenize text _ next candidate step
    exact ⟨candidate, stalls, found, move_of_looked_up tokenizer text progress candidate _ stalls move,
      advance_of_looked_up tokenizer text progress candidate stalls _ advance⟩

theorem scan_step_finished (progress last : Progress)
    (step : scanStep tokenizer retokenize text progress = .finished last) : last.stack = progress.stack := by
  rw [scan_step_eq] at step
  split at step
  · cases step
    rfl
  · rename_i candidate found
    exact apply_candidate_finished retokenize text (lookedUp tokenizer text progress) last candidate step

-- A step that pushes a frame on the stack as it is.
def Opens (progress : Progress) (frame : Frame) : Prop :=
  ∃ next, scanStep tokenizer retokenize text progress = .running next ∧
    next.stack.frames = frame :: progress.stack.frames

def scanStates : Nat → Progress → List Progress
  | 0, progress => [progress]
  | rounds + 1, progress =>
      progress ::
        match scanStep tokenizer retokenize text progress with
        | .finished _ => []
        | .running next => scanStates rounds next

theorem opens_entered (progress : Progress) (frame : Frame) (opened : Opens tokenizer retokenize text progress frame) :
    frame.enterPos.isSome := by
  obtain ⟨next, step, frames⟩ := opened
  obtain ⟨candidate, stalls, _, move, _⟩ := scan_step_running tokenizer retokenize text progress next step
  generalize next.stack = stack at frames move
  have longer := congrArg List.length frames
  cases move with
  | closed _ popped _ =>
      have shorter := congrArg List.length (pop_frames progress.stack stack popped)
      simp only [List.length_cons] at longer shorter
      omega
  | opened rule captures contentName endPattern winner parts fresh =>
      obtain ⟨rfl, _⟩ := List.cons.inj frames
      rfl
  | passed _ => simp at longer
  | stalled => simp at longer

end Steps

end LineScope.Line
