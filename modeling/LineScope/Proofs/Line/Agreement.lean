import LineScope.Proofs.Line.Memory
import LineScope.Proofs.Line.Parallel

set_option autoImplicit false

namespace LineScope

-- Frames that a scan cannot tell apart. The scopes around the content count only for a rule with an end pattern.
-- Whether the begin match went to the end of its line counts only for the next line, and only if the frame is on top
-- then; `eol` says whether the frames agree on it.
structure Frame.Alike (eol : Prop) (first second : Frame) : Prop where
  depth : first.depth = second.depth
  rule : first.rule = second.rule
  enterPos : first.enterPos = second.enterPos
  anchorPos : first.anchorPos = second.anchorPos
  endPattern : first.endPattern = second.endPattern
  contentScopes : first.contentScopes = second.contentScopes
  nameScopes : ∀ rule, first.rule.rule = .beginEnd rule → first.nameScopes = second.nameScopes
  beginCapturedEol : eol → first.beginCapturedEol = second.beginCapturedEol

theorem Frame.Alike.refl {eol : Prop} (frame : Frame) : frame.Alike eol frame :=
  ⟨rfl, rfl, rfl, rfl, rfl, rfl, fun _ _ => rfl, fun _ => rfl⟩

structure RuleStack.Alike (eol : Prop) (first second : RuleStack) : Prop where
  top : first.top.Alike eol second.top
  below : List.Forall₂ (Frame.Alike eol) first.below second.below

namespace RuleStack

variable {eol : Prop} {first second : RuleStack}

theorem alike_refl (stack : RuleStack) : stack.Alike eol stack :=
  ⟨.refl _, List.forall₂_same.mpr fun frame _ => .refl frame⟩

theorem alike_frames (alike : first.Alike eol second) : List.Forall₂ (Frame.Alike eol) first.frames second.frames :=
  .cons alike.top alike.below

theorem alike_grammars (alike : first.Alike eol second) :
    first.frames.map (fun frame => frame.rule.grammar) = second.frames.map fun frame => frame.rule.grammar := by
  have each : ∀ firstFrames secondFrames : List Frame, List.Forall₂ (Frame.Alike eol) firstFrames secondFrames →
      firstFrames.map (fun frame => frame.rule.grammar) = secondFrames.map fun frame => frame.rule.grammar := by
    intro firstFrames secondFrames frames
    induction frames with
    | nil => rfl
    | cons top _ ih => rw [List.map_cons, List.map_cons, top.rule, ih]
  exact each _ _ (alike_frames alike)

theorem alike_within (known : List Grammar) (alike : first.Alike eol second) (inside : first.Within known) :
    second.Within known := by
  have listed : ∀ grammar ∈ first.frames.map (fun frame => frame.rule.grammar), grammar ∈ known :=
    List.forall_mem_map.mpr inside
  rw [alike_grammars alike] at listed
  exact List.forall_mem_map.mp listed

end RuleStack

def Pairing.same (eol : Prop) (known : List Grammar) (library : Library) : Pairing where
  rules first second := first = second ∧ first.grammar ∈ known
  memories first second := first.Valid known library ∧ second.Valid known library
  eol := eol

section Same

variable {eol : Prop} {known : List Grammar} {library : Library}

theorem same_sound : (Pairing.same eol known library).Sound where
  bare := by
    rintro first _ ⟨rfl, _⟩
    rfl
  identity := by
    rintro first _ ⟨rfl, _⟩
    rfl
  groups := by
    rintro first _ ⟨rfl, isKnown⟩ _ _ id _
    exact ⟨rfl, isKnown⟩

theorem frame_same_iff (first second : Frame) :
    first.Paired (.same eol known library) second ↔ first.Alike eol second ∧ first.rule.grammar ∈ known := by
  constructor
  · rintro ⟨⟨⟨rule, isKnown⟩, enterPos, anchorPos, endPattern, contentScopes, nameScopes, beginCapturedEol⟩, depth⟩
    exact ⟨⟨depth, rule, enterPos, anchorPos, endPattern, contentScopes, nameScopes, beginCapturedEol⟩, isKnown⟩
  · rintro ⟨⟨depth, rule, enterPos, anchorPos, endPattern, contentScopes, nameScopes, beginCapturedEol⟩, isKnown⟩
    exact ⟨⟨⟨rule, isKnown⟩, enterPos, anchorPos, endPattern, contentScopes, nameScopes, beginCapturedEol⟩, depth⟩

theorem stack_same_iff (first second : RuleStack) :
    first.Paired (.same eol known library) second ↔ first.Alike eol second ∧ first.Within known := by
  have frames : ∀ firstFrames secondFrames : List Frame,
      List.Forall₂ (Frame.Paired (.same eol known library)) firstFrames secondFrames ↔
        List.Forall₂ (Frame.Alike eol) firstFrames secondFrames ∧ ∀ frame ∈ firstFrames, frame.rule.grammar ∈ known := by
    intro firstFrames
    induction firstFrames with
    | nil => simp
    | cons frame below ih =>
        intro secondFrames
        cases secondFrames with
        | nil => simp
        | cons other others =>
            rw [List.forall₂_cons, List.forall₂_cons, frame_same_iff, ih, List.forall_mem_cons]
            exact and_and_and_comm
  constructor
  · intro paired
    obtain ⟨alike, inside⟩ := (frames _ _).mp (RuleStack.paired_frames paired)
    exact ⟨⟨(List.forall₂_cons.mp alike).1, (List.forall₂_cons.mp alike).2⟩, inside⟩
  · rintro ⟨alike, inside⟩
    have paired := List.forall₂_cons.mp ((frames _ _).mpr ⟨RuleStack.alike_frames alike, inside⟩)
    exact ⟨paired.1, paired.2⟩

end Same

namespace Line

structure Output.Agrees (known : List Grammar) (library : Library) (first second : Output) : Prop where
  tokens : first.tokens = second.tokens
  lastEnd : first.lastEnd = second.lastEnd
  firstValid : first.memory.Valid known library
  secondValid : second.memory.Valid known library

def Consistent (eol : Prop) (known : List Grammar) (library : Library) (retokenize : Retokenizer) : Prop :=
  ∀ text pos firstLine (firstStack secondStack : RuleStack) (first second : Output), firstStack.Alike eol secondStack →
    firstStack.Within known → first.Agrees known library second →
      (retokenize text pos firstLine firstStack first).Agrees known library
        (retokenize text pos firstLine secondStack second)

structure Progress.Agrees (eol : Prop) (known : List Grammar) (library : Library) (first second : Progress) : Prop where
  pos : first.pos = second.pos
  firstLine : first.firstLine = second.firstLine
  anchor : first.anchor = second.anchor
  stack : first.stack.Alike eol second.stack
  inside : first.stack.Within known
  output : first.output.Agrees known library second.output

def OutcomesAgree (eol : Prop) (known : List Grammar) (library : Library) : Outcome → Outcome → Prop
  | .finished first, .finished second => first.Agrees eol known library second
  | .running first, .running second => first.Agrees eol known library second
  | _, _ => False

section Agreeing

variable {eol : Prop} {known : List Grammar} {library : Library}

theorem output_same_iff (first second : Output) :
    first.Paired (.same eol known library) second ↔ first.Agrees known library second :=
  ⟨fun paired => ⟨paired.tokens, paired.lastEnd, paired.memory.1, paired.memory.2⟩,
    fun agrees => ⟨agrees.tokens, agrees.lastEnd, agrees.firstValid, agrees.secondValid⟩⟩

theorem progress_same_iff (first second : Progress) :
    first.Paired (.same eol known library) second ↔ first.Agrees eol known library second := by
  constructor
  · rintro ⟨pos, firstLine, anchor, stack, output⟩
    obtain ⟨alike, inside⟩ := (stack_same_iff _ _).mp stack
    exact ⟨pos, firstLine, anchor, alike, inside, (output_same_iff _ _).mp output⟩
  · rintro ⟨pos, firstLine, anchor, alike, inside, output⟩
    exact ⟨pos, firstLine, anchor, (stack_same_iff _ _).mpr ⟨alike, inside⟩, (output_same_iff _ _).mpr output⟩

theorem outcomes_same (first second : Outcome) (paired : OutcomesPaired (.same eol known library) first second) :
    OutcomesAgree eol known library first second := by
  cases first <;> cases second <;> first | exact (progress_same_iff _ _).mp paired | exact paired

theorem consistent_iff (retokenize : Retokenizer) :
    Paired (.same eol known library) retokenize retokenize ↔ Consistent eol known library retokenize := by
  constructor
  · intro paired text pos firstLine firstStack secondStack first second alike inside agrees
    exact (output_same_iff _ _).mp (paired text pos firstLine firstStack secondStack first second
      ((stack_same_iff _ _).mpr ⟨alike, inside⟩) ((output_same_iff _ _).mpr agrees))
  · intro consistent text pos firstLine firstStack secondStack first second paired outputs
    obtain ⟨alike, inside⟩ := (stack_same_iff _ _).mp paired
    exact (output_same_iff _ _).mpr (consistent text pos firstLine firstStack secondStack first second alike inside
      ((output_same_iff _ _).mp outputs))

end Agreeing

section Runs

variable {eol : Prop} {known : List Grammar} (tokenizer : Tokenizer) (within : tokenizer.Within known)

include within

theorem winner_at_agrees (text : List Char) (first second : Progress)
    (agrees : first.Agrees eol known tokenizer.library second) :
    winnerAt tokenizer text first = winnerAt tokenizer text second := by
  have top := agrees.stack.top
  have inside := RuleStack.alike_within known agrees.stack agrees.inside
  have anchors : first.anchors = second.anchors := by
    rw [Progress.anchors, Progress.anchors, agrees.firstLine, agrees.anchor, agrees.pos]
  rw [winner_at_fresh tokenizer within text first agrees.inside agrees.output.firstValid,
    winner_at_fresh tokenizer within text second inside agrees.output.secondValid, anchors, agrees.pos, findCandidate,
    findCandidate, findOwn, findOwn, findEnd, findEnd, findChild, findChild, findInjected, findInjected, top.rule,
    top.endPattern, top.contentScopes]

theorem same_parallel : Parallel (.same eol known tokenizer.library) tokenizer tokenizer where
  sound := same_sound
  engine := rfl
  maxLineLength := rfl
  nesting := rfl
  total := by
    intro first second paired
    rw [ruleTotal, ruleTotal, RuleStack.alike_grammars ((stack_same_iff first second).mp paired).1]
  winner := by
    intro text first second paired
    have agrees := (progress_same_iff first second).mp paired
    rw [← winner_at_agrees tokenizer within text first second agrees]
    cases found : winnerAt tokenizer text first with
    | none => exact .none
    | some candidate =>
        refine .some ⟨?_, rfl⟩
        cases winner : candidate.winner with
        | ending => exact .ending
        | rule rule =>
            refine .rule rule rule ⟨rfl, ?_⟩
            exact winner_within tokenizer within text first agrees.inside agrees.output.firstValid candidate rule found winner
  lookedUp := by
    intro text first second paired
    obtain ⟨alike, inside⟩ := (stack_same_iff _ _).mp paired.stack
    exact ⟨memory_after_valid tokenizer within _ _ _ inside paired.output.memory.1,
      memory_after_valid tokenizer within _ _ _ (RuleStack.alike_within known alike inside) paired.output.memory.2⟩

theorem scan_step_agrees (retokenize : Retokenizer) (consistent : Consistent eol known tokenizer.library retokenize)
    (text : List Char) (first second : Progress) (agrees : first.Agrees eol known tokenizer.library second) :
    OutcomesAgree eol known tokenizer.library (scanStep tokenizer retokenize text first)
      (scanStep tokenizer retokenize text second) :=
  outcomes_same _ _ (scan_step_paired (same_parallel tokenizer within) ((consistent_iff retokenize).mpr consistent) text
    first second ((progress_same_iff first second).mpr agrees))

theorem retokenizer_consistent (nesting : Nat) :
    Consistent eol known tokenizer.library (retokenizer tokenizer nesting) :=
  (consistent_iff _).mp (retokenizer_paired (same_parallel tokenizer within) nesting)

end Runs

end Line

structure LineResult.Agrees (eol : Prop) (known : List Grammar) (library : Library) (first second : LineResult) : Prop where
  tokens : first.tokens = second.tokens
  stack : first.stack.Alike eol second.stack
  inside : first.stack.Within known
  firstValid : first.memory.Valid known library
  secondValid : second.memory.Valid known library

-- One line, tokenized after stacks that are alike. Only the frames on top tell whether the line before was taken to
-- its end.
theorem tokenize_line_agrees {eol : Prop} {known : List Grammar} (tokenizer : Tokenizer) (within : tokenizer.Within known)
    (firstMemory secondMemory : Memory)
    (firstValid : firstMemory.Valid known tokenizer.library) (secondValid : secondMemory.Valid known tokenizer.library)
    (line : List Char) (first second : Option RuleStack) (sameStart : first.isNone = second.isNone)
    (alike : (first.getD tokenizer.initialStack).Alike eol (second.getD tokenizer.initialStack))
    (inside : (first.getD tokenizer.initialStack).Within known)
    (sameEol : (first.getD tokenizer.initialStack).top.beginCapturedEol =
      (second.getD tokenizer.initialStack).top.beginCapturedEol) :
    (tokenizer.tokenizeLine firstMemory line first).Agrees eol known tokenizer.library
      (tokenizer.tokenizeLine secondMemory line second) := by
  have paired := tokenize_line_paired (Line.same_parallel tokenizer within) firstMemory secondMemory
    ⟨firstValid, secondValid⟩ line first second sameStart ((stack_same_iff _ _).mpr ⟨alike, inside⟩) sameEol
  obtain ⟨left, within⟩ := (stack_same_iff _ _).mp paired.stack
  exact ⟨paired.tokens, left, within, paired.memory.1, paired.memory.2⟩

end LineScope
