import LineScope.Proofs.Line.Move
import LineScope.Proofs.Line.Stack
import Mathlib.Data.List.Forall2

/-!
Two runs side by side, of two tokenizers that may have different grammars. A scan reads of a stack only
its rules, positions, end patterns and content scopes, and the scopes around the content where a rule
can be ended; and of a rule it reads all but its patterns, which only the choice of the winner depends
on. So if the winners of two scans correspond wherever the scans do, then scans of one text that start
alike stay alike.
-/

set_option autoImplicit false

namespace LineScope

def Grammar.Rule.bare : Grammar.Rule → Grammar.Rule
  | .single rule => .single rule
  | .container rule => .container { rule with patterns := [] }
  | .beginEnd rule => .beginEnd { rule with patterns := [] }
  | .beginWhile rule => .beginWhile { rule with patterns := [] }
  | .invalid => .invalid

section Bare

variable {rule other : Grammar.Rule} (same : rule.bare = other.bare)

include same

theorem bare_name : rule.name = other.name := by
  have kept : ∀ rule : Grammar.Rule, rule.bare.name = rule.name := by rintro (_ | _ | _ | _ | _) <;> rfl
  rw [← kept rule, same, kept other]

theorem bare_end_captures : Line.endCapturesOf rule = Line.endCapturesOf other := by
  have kept : ∀ rule : Grammar.Rule, Line.endCapturesOf rule.bare = Line.endCapturesOf rule := by
    rintro (_ | _ | _ | _ | _) <;> rfl
  rw [← kept rule, same, kept other]

theorem bare_match_captures : Line.matchCapturesOf rule = Line.matchCapturesOf other := by
  have kept : ∀ rule : Grammar.Rule, Line.matchCapturesOf rule.bare = Line.matchCapturesOf rule := by
    rintro (_ | _ | _ | _ | _) <;> rfl
  rw [← kept rule, same, kept other]

theorem bare_begin_parts : Line.beginPartsOf rule = Line.beginPartsOf other := by
  have kept : ∀ rule : Grammar.Rule, Line.beginPartsOf rule.bare = Line.beginPartsOf rule := by
    rintro (_ | _ | _ | _ | _) <;> rfl
  rw [← kept rule, same, kept other]

theorem bare_is_begin_while : rule.isBeginWhile = other.isBeginWhile := by
  have kept : ∀ rule : Grammar.Rule, rule.bare.isBeginWhile = rule.isBeginWhile := by rintro (_ | _ | _ | _ | _) <;> rfl
  rw [← kept rule, same, kept other]

theorem bare_begin_while (lasting : Grammar.BeginWhileRule) (isLasting : rule = .beginWhile lasting) :
    ∃ twin, other = .beginWhile twin ∧ twin.whilePattern = lasting.whilePattern ∧
      twin.whileCaptures = lasting.whileCaptures := by
  subst isLasting
  cases other with
  | beginWhile twin =>
      simp only [Grammar.Rule.bare, Grammar.Rule.beginWhile.injEq, Grammar.BeginWhileRule.mk.injEq] at same
      exact ⟨twin, rfl, same.2.2.2.2.1.symm, same.2.2.2.2.2.1.symm⟩
  | single _ => cases same
  | container _ => cases same
  | beginEnd _ => cases same
  | invalid => cases same

theorem bare_begin_end (ended : Grammar.BeginEndRule) (isEnded : rule = .beginEnd ended) :
    ∃ twin, other = .beginEnd twin ∧ twin.endPattern = ended.endPattern ∧
      twin.endPatternLast = ended.endPatternLast := by
  subst isEnded
  cases other with
  | beginEnd twin =>
      simp only [Grammar.Rule.bare, Grammar.Rule.beginEnd.injEq, Grammar.BeginEndRule.mk.injEq] at same
      exact ⟨twin, rfl, same.2.2.2.2.1.symm, same.2.2.2.2.2.2.1.symm⟩
  | single _ => cases same
  | container _ => cases same
  | beginWhile _ => cases same
  | invalid => cases same

end Bare

-- Which rules and which memories of two runs correspond, and whether frames have to agree on the end of their line.
-- The latter counts only for the next line, and only if the frame is on top then.
structure Pairing where
  rules : RuleRef → RuleRef → Prop
  memories : Memory → Memory → Prop
  eol : Prop

structure Pairing.Sound (pairing : Pairing) : Prop where
  bare : ∀ first second, pairing.rules first second → first.rule.bare = second.rule.bare
  identity : ∀ first second, pairing.rules first second → first.identity = second.identity
  groups : ∀ first second, pairing.rules first second → ∀ capture ∈ first.rule.captureRules,
    ∀ id ∈ capture.retokenize, pairing.rules ⟨first.grammar, id⟩ ⟨second.grammar, id⟩

-- The scopes around the content count only for a rule with an end pattern.
structure Activation.Paired (pairing : Pairing) (first second : Activation) : Prop where
  rule : pairing.rules first.rule second.rule
  enterPos : first.enterPos = second.enterPos
  anchorPos : first.anchorPos = second.anchorPos
  endPattern : first.endPattern = second.endPattern
  contentScopes : first.contentScopes = second.contentScopes
  nameScopes : ∀ rule, first.rule.rule = .beginEnd rule → first.nameScopes = second.nameScopes
  beginCapturedEol : pairing.eol → first.beginCapturedEol = second.beginCapturedEol

structure Frame.Paired (pairing : Pairing) (first second : Frame) : Prop
    extends first.toActivation.Paired pairing second.toActivation where
  depth : first.depth = second.depth

structure RuleStack.Paired (pairing : Pairing) (first second : RuleStack) : Prop where
  top : first.top.Paired pairing second.top
  below : List.Forall₂ (Frame.Paired pairing) first.below second.below

namespace RuleStack

variable {pairing : Pairing} {first second : RuleStack} (paired : first.Paired pairing second)

include paired

theorem paired_frames : List.Forall₂ (Frame.Paired pairing) first.frames second.frames :=
  .cons paired.top paired.below

theorem paired_push (frame other : Activation) (frames : frame.Paired pairing other) :
    (first.push frame).Paired pairing (second.push other) :=
  ⟨⟨frames, congrArg (· + 1) paired.top.depth⟩, paired_frames paired⟩

theorem paired_pop :
    (first.pop? = none ∧ second.pop? = none) ∨
      ∃ firstParent secondParent, first.pop? = some firstParent ∧ second.pop? = some secondParent ∧
        firstParent.Paired pairing secondParent := by
  obtain ⟨firstTop, firstBelow⟩ := first
  obtain ⟨secondTop, secondBelow⟩ := second
  cases paired.below with
  | nil => exact .inl ⟨rfl, rfl⟩
  | cons top below => exact .inr ⟨_, _, rfl, rfl, top, below⟩

theorem safe_pop_paired : first.safePop.Paired pairing second.safePop := by
  rw [safePop, safePop]
  rcases paired_pop paired with ⟨firstRoot, secondRoot⟩ | ⟨_, _, firstPop, secondPop, parents⟩
  · rw [firstRoot, secondRoot]
    exact paired
  · rw [firstPop, secondPop]
    exact parents

theorem enters_again_paired (sound : pairing.Sound) (frame other : Activation) (frames : frame.Paired pairing other) :
    entersAgain frame first.frames = entersAgain other second.frames := by
  have each : ∀ firstFrames secondFrames : List Frame, List.Forall₂ (Frame.Paired pairing) firstFrames secondFrames →
      entersAgain frame firstFrames = entersAgain other secondFrames := by
    intro firstFrames secondFrames paired
    induction paired with
    | nil => rfl
    | cons top _ ih =>
        rw [entersAgain, entersAgain, top.enterPos, frames.enterPos, RuleRef.same, RuleRef.same,
          sound.identity _ _ top.rule, sound.identity _ _ frames.rule, ih]
  exact each _ _ (paired_frames paired)

theorem ancestors_paired : List.Forall₂ (RuleStack.Paired pairing) first.ancestors second.ancestors := by
  obtain ⟨firstTop, firstBelow⟩ := first
  obtain ⟨secondTop, secondBelow⟩ := second
  obtain ⟨top, below⟩ := paired
  simp only [RuleStack.ancestors] at top below ⊢
  induction below generalizing firstTop secondTop with
  | nil => exact .cons ⟨top, .nil⟩ .nil
  | cons next below ih => exact .cons ⟨top, .cons next below⟩ (ih _ _ next)

theorem reset_line_positions_paired : first.resetLinePositions.Paired pairing second.resetLinePositions := by
  have each : ∀ firstFrames secondFrames : List Frame, List.Forall₂ (Frame.Paired pairing) firstFrames secondFrames →
      List.Forall₂ (Frame.Paired pairing) (resetFrames firstFrames) (resetFrames secondFrames) := by
    intro firstFrames secondFrames paired
    induction paired with
    | nil => exact .nil
    | cons top below ih =>
        rw [resetFrames, resetFrames, top.enterPos, top.anchorPos]
        split
        · exact .cons ⟨⟨top.rule, rfl, rfl, top.endPattern, top.contentScopes, top.nameScopes, top.beginCapturedEol⟩,
            top.depth⟩ ih
        · exact .cons top below
  have reset := each _ _ (paired_frames paired)
  rw [← reset_line_positions_frames, ← reset_line_positions_frames] at reset
  cases reset with
  | cons top below => exact ⟨top, below⟩

end RuleStack

namespace Line

structure Output.Paired (pairing : Pairing) (first second : Output) : Prop where
  tokens : first.tokens = second.tokens
  lastEnd : first.lastEnd = second.lastEnd
  memory : pairing.memories first.memory second.memory

section Groups

variable {pairing : Pairing}

theorem produce_paired (first second : Output) (scopes : ScopeList) (stop : Nat) (paired : first.Paired pairing second) :
    (first.produce scopes stop).Paired pairing (second.produce scopes stop) := by
  rw [Output.produce, Output.produce, paired.lastEnd]
  split
  · exact paired
  · exact ⟨by rw [paired.tokens], rfl, paired.memory⟩

theorem close_before_paired (start : Nat) (opened : OpenGroups) (first second : Output)
    (paired : first.Paired pairing second) :
    (closeBefore start opened first).1 = (closeBefore start opened second).1 ∧
      (closeBefore start opened first).2.Paired pairing (closeBefore start opened second).2 := by
  induction opened generalizing first second with
  | nil => exact ⟨rfl, paired⟩
  | cons group outer ih =>
      rw [closeBefore, closeBefore]
      split
      · exact ih _ _ (produce_paired first second group.1 group.2 paired)
      · exact ⟨rfl, paired⟩

theorem close_all_paired (opened : OpenGroups) (first second : Output) (paired : first.Paired pairing second) :
    (closeAll opened first).Paired pairing (closeAll opened second) := by
  induction opened generalizing first second with
  | nil => exact paired
  | cons group outer ih => exact ih _ _ (produce_paired first second group.1 group.2 paired)

def Paired (pairing : Pairing) (first second : Retokenizer) : Prop :=
  ∀ text pos firstLine (firstStack secondStack : RuleStack) (firstOutput secondOutput : Output),
    firstStack.Paired pairing secondStack → firstOutput.Paired pairing secondOutput →
      (first text pos firstLine firstStack firstOutput).Paired pairing (second text pos firstLine secondStack secondOutput)

def TablePaired (pairing : Pairing) (first second : RuleRef) (table : Grammar.CaptureTable) : Prop :=
  ∀ entry ∈ table, ∀ id ∈ entry.2.retokenize, pairing.rules ⟨first.grammar, id⟩ ⟨second.grammar, id⟩

variable {firstAgain secondAgain : Retokenizer} (again : Paired pairing firstAgain secondAgain)

include again

theorem scan_groups_paired (text : List Char) (firstLine : Bool) (captures : Pattern.Captures)
    (firstStack secondStack : RuleStack) (alike : firstStack.Paired pairing secondStack) (table : Grammar.CaptureTable)
    (tables : TablePaired pairing firstStack.top.rule secondStack.top.rule table) (opened : OpenGroups)
    (first second : Output) (paired : first.Paired pairing second) :
    (scanGroups firstAgain ⟨text, firstLine, firstStack, captures⟩ table opened first).Paired pairing
      (scanGroups secondAgain ⟨text, firstLine, secondStack, captures⟩ table opened second) := by
  induction table generalizing opened first second with
  | nil => exact close_all_paired opened first second paired
  | cons entry rest ih =>
      obtain ⟨group, rule⟩ := entry
      obtain ⟨here, later⟩ := List.forall_mem_cons.mp tables
      specialize ih later
      rw [scanGroups, scanGroups]
      dsimp only
      cases captures.getD group none with
      | none => exact ih opened first second paired
      | some span =>
          obtain ⟨start, stop⟩ := span
          dsimp only
          split
          · exact ih opened first second paired
          · split
            · exact close_all_paired opened first second paired
            · obtain ⟨sameGroups, closed⟩ := close_before_paired start opened first second paired
              rw [sameGroups, alike.top.contentScopes]
              have upTo := produce_paired _ _
                (innermost (closeBefore start opened second).1 secondStack.top.contentScopes) start closed
              split
              · rename_i id isRule
                have frames : (Groups.frame ⟨text, firstLine, firstStack, captures⟩ rule id start).Paired pairing
                    (Groups.frame ⟨text, firstLine, secondStack, captures⟩ rule id start) := by
                  have names : pushResolved firstStack.top.contentScopes rule.name text captures =
                      pushResolved secondStack.top.contentScopes rule.name text captures := by
                    rw [alike.top.contentScopes]
                  refine ⟨here id isRule, rfl, rfl, rfl, ?_, fun _ _ => names, fun _ => rfl⟩
                  rw [Groups.frame, Groups.frame]
                  dsimp only
                  rw [names]
                exact ih _ _ _ (again _ _ _ _ _ _ _ (RuleStack.paired_push alike _ _ frames) upTo)
              · exact ih _ _ _ upTo
              · exact ih _ _ _ upTo

theorem handle_captures_paired (text : List Char) (firstLine : Bool) (captures : Pattern.Captures)
    (firstStack secondStack : RuleStack) (alike : firstStack.Paired pairing secondStack) (table : Grammar.CaptureTable)
    (tables : TablePaired pairing firstStack.top.rule secondStack.top.rule table)
    (first second : Output) (paired : first.Paired pairing second) :
    (handleCaptures firstAgain ⟨text, firstLine, firstStack, captures⟩ table first).Paired pairing
      (handleCaptures secondAgain ⟨text, firstLine, secondStack, captures⟩ table second) :=
  scan_groups_paired again text firstLine captures firstStack secondStack alike table tables [] first second paired

end Groups

section Tables

variable {pairing : Pairing} (sound : pairing.Sound) (first second : RuleRef) (rules : pairing.rules first second)

include sound rules

theorem table_paired (table : Grammar.CaptureTable) (part : table.map Prod.snd ⊆ first.rule.captureRules) :
    TablePaired pairing first second table := fun entry listed id isId =>
  sound.groups first second rules entry.2 (part (List.mem_map_of_mem listed)) id isId

theorem end_table_paired : TablePaired pairing first second (endCapturesOf first.rule) := by
  refine table_paired sound first second rules _ ?_
  cases first.rule <;> simp [endCapturesOf, Grammar.Rule.captureRules]

theorem match_table_paired : TablePaired pairing first second (matchCapturesOf first.rule) := by
  refine table_paired sound first second rules _ ?_
  cases first.rule <;> simp [matchCapturesOf, Grammar.Rule.captureRules]

theorem begin_table_paired (table : Grammar.CaptureTable) (contentName : Option String) (endPattern : String)
    (parts : beginPartsOf first.rule = some (table, contentName, endPattern)) :
    TablePaired pairing first second table := by
  refine table_paired sound first second rules _ ?_
  revert parts
  cases first.rule <;> simp +contextual [beginPartsOf, Grammar.Rule.captureRules]

theorem while_table_paired (lasting : Grammar.BeginWhileRule) (isLasting : first.rule = .beginWhile lasting) :
    TablePaired pairing first second lasting.whileCaptures := by
  refine table_paired sound first second rules _ ?_
  simp [isLasting, Grammar.Rule.captureRules]

end Tables

structure Progress.Paired (pairing : Pairing) (first second : Progress) : Prop where
  pos : first.pos = second.pos
  firstLine : first.firstLine = second.firstLine
  anchor : first.anchor = second.anchor
  stack : first.stack.Paired pairing second.stack
  output : first.output.Paired pairing second.output

structure Effect.Paired (pairing : Pairing) (first second : Effect) : Prop where
  anchor : first.anchor = second.anchor
  stack : first.stack.Paired pairing second.stack
  output : first.output.Paired pairing second.output
  stalled : first.stalled = second.stalled

def OutcomesPaired (pairing : Pairing) : Outcome → Outcome → Prop
  | .finished first, .finished second => first.Paired pairing second
  | .running first, .running second => first.Paired pairing second
  | _, _ => False

inductive Winner.Paired (pairing : Pairing) : Winner → Winner → Prop
  | ending : Paired pairing .ending .ending
  | rule (first second : RuleRef) (rules : pairing.rules first second) : Paired pairing (.rule first) (.rule second)

structure Candidate.Paired (pairing : Pairing) (first second : Candidate) : Prop where
  winner : first.winner.Paired pairing second.winner
  captures : first.captures = second.captures

section Effects

variable {pairing : Pairing} (sound : pairing.Sound) {firstAgain secondAgain : Retokenizer}
  (again : Paired pairing firstAgain secondAgain) (text : List Char) (first second : Progress)
  (paired : first.Paired pairing second)

include paired

theorem anchors_paired : first.anchors = second.anchors := by
  rw [Progress.anchors, Progress.anchors, paired.firstLine, paired.anchor, paired.pos]

theorem finish_paired : (first.finish text).Paired pairing (second.finish text) where
  pos := paired.pos
  firstLine := paired.firstLine
  anchor := paired.anchor
  stack := paired.stack
  output := by
    have same := paired.stack.top.contentScopes
    rw [Progress.finish, Progress.finish, same]
    exact produce_paired _ _ _ _ paired.output

theorem force_progress_paired : OutcomesPaired pairing (forceProgress text first) (forceProgress text second) := by
  rw [forceProgress, forceProgress, paired.pos]
  split
  · exact finish_paired text first second paired
  · rw [paired.stack.top.contentScopes]
    exact ⟨rfl, rfl, paired.anchor, paired.stack, produce_paired _ _ _ _ paired.output⟩

include sound again

-- An end pattern wins only over a rule that has one, and then the frames agree on the scopes around the content.
theorem apply_end_paired (candidate : Candidate) (rule : Grammar.BeginEndRule)
    (active : first.stack.top.rule.rule = .beginEnd rule) :
    (applyEnd firstAgain text first candidate).Paired pairing (applyEnd secondAgain text second candidate) := by
  have top := paired.stack.top
  have names := top.nameScopes rule active
  have tables := bare_end_captures (sound.bare _ _ top.rule)
  have closing : (first.stack.withContentScopes first.stack.top.nameScopes).Paired pairing
      (second.stack.withContentScopes second.stack.top.nameScopes) :=
    ⟨⟨⟨top.rule, top.enterPos, top.anchorPos, top.endPattern, names, fun _ _ => names, top.beginCapturedEol⟩,
      top.depth⟩, paired.stack.below⟩
  have before := produce_paired first.output second.output first.stack.top.contentScopes
    candidate.start paired.output
  have groups := handle_captures_paired again text first.firstLine candidate.captures _ _ closing
    (endCapturesOf first.stack.top.rule.rule) (end_table_paired sound _ _ top.rule) _ _ before
  have after := produce_paired _ _ first.stack.top.nameScopes candidate.stop groups
  rw [names, top.contentScopes, tables, paired.firstLine] at after
  rw [applyEnd, applyEnd]
  simp only [with_content_scopes_pop]
  rcases RuleStack.paired_pop paired.stack with ⟨firstRoot, secondRoot⟩ | ⟨_, _, firstPop, secondPop, parents⟩
  · rw [firstRoot, secondRoot, names, top.contentScopes, tables, paired.firstLine]
    exact ⟨paired.anchor, paired.stack, after, rfl⟩
  · rw [firstPop, secondPop, names, top.contentScopes, tables, paired.firstLine, paired.pos, top.enterPos]
    dsimp only
    split
    · exact ⟨top.anchorPos, parents, after, rfl⟩
    · exact ⟨paired.anchor, paired.stack, after, rfl⟩

theorem apply_rule_paired (candidate : Candidate) (rule twin : RuleRef)
    (rules : pairing.rules rule twin) :
    (applyRule firstAgain text first rule candidate).Paired pairing
      (applyRule secondAgain text second twin candidate) := by
  have top := paired.stack.top
  have bare := sound.bare _ _ rules
  have scopes : pushResolved first.stack.top.contentScopes rule.rule.name text candidate.captures =
      pushResolved second.stack.top.contentScopes twin.rule.name text candidate.captures := by
    rw [top.contentScopes, bare_name bare]
  have frames : (openedFrame text first rule candidate).Paired pairing
      (openedFrame text second twin candidate) :=
    ⟨rules, congrArg some paired.pos, paired.anchor, rfl, scopes, fun _ _ => scopes, fun _ => rfl⟩
  have opened := RuleStack.paired_push paired.stack _ _ frames
  have before := produce_paired first.output second.output second.stack.top.contentScopes
    candidate.start paired.output
  have after : ∀ table, TablePaired pairing rule twin table → Output.Paired pairing _ _ := fun table tables =>
    produce_paired _ _ (openedFrame text second twin candidate).contentScopes candidate.stop
      (handle_captures_paired again text second.firstLine candidate.captures _ _ opened table tables _ _ before)
  rw [applyRule, applyRule, top.contentScopes, paired.firstLine, paired.pos, ← bare_begin_parts bare,
    ← bare_match_captures bare]
  dsimp only
  rw [show (openedFrame text first rule candidate).contentScopes =
    (openedFrame text second twin candidate).contentScopes from scopes]
  split
  · rename_i table contentName endPattern parts
    have content : (contentFrame text (openedFrame text first rule candidate) contentName endPattern
        candidate.captures).Paired pairing
          (contentFrame text (openedFrame text second twin candidate) contentName endPattern candidate.captures) := by
      refine ⟨rules, frames.enterPos, frames.anchorPos, rfl, ?_, fun _ _ => scopes, fun _ => rfl⟩
      exact congrArg (pushResolved · contentName text candidate.captures) scopes
    have tables := begin_table_paired sound rule twin rules table contentName endPattern parts
    rw [RuleStack.enters_again_paired paired.stack sound _ _ content]
    split
    · exact ⟨rfl, paired.stack, after table tables, rfl⟩
    · exact ⟨rfl, RuleStack.paired_push paired.stack _ _ content, after table tables, rfl⟩
  · exact ⟨paired.anchor, paired.stack, after _ (match_table_paired sound rule twin rules), rfl⟩

theorem apply_candidate_paired (candidate other : Candidate) (candidates : candidate.Paired pairing other)
    (ending : candidate.winner = .ending → ∃ rule, first.stack.top.rule.rule = .beginEnd rule) :
    OutcomesPaired pairing (applyCandidate firstAgain text first candidate)
      (applyCandidate secondAgain text second other) := by
  obtain ⟨winner, captures⟩ := candidate
  obtain ⟨otherWinner, otherCaptures⟩ := other
  obtain ⟨winners, rfl⟩ := candidates
  have effects : (effectOf firstAgain text first ⟨winner, captures⟩).Paired pairing
      (effectOf secondAgain text second ⟨otherWinner, captures⟩) := by
    rw [effectOf, effectOf]
    cases winners with
    | ending =>
        obtain ⟨rule, active⟩ := ending rfl
        exact apply_end_paired sound again text first second paired _ rule active
    | rule rule twin rules => exact apply_rule_paired sound again text first second paired _ rule twin rules
  have stop : Candidate.stop ⟨winner, captures⟩ = Candidate.stop ⟨otherWinner, captures⟩ := rfl
  rw [applyCandidate, applyCandidate, effects.stalled, paired.pos, stop]
  dsimp only
  split
  · exact force_progress_paired text _ _ ⟨rfl, paired.firstLine, effects.anchor, effects.stack, effects.output⟩
  · split
    · exact ⟨rfl, rfl, effects.anchor, effects.stack, effects.output⟩
    · exact ⟨rfl, paired.firstLine, effects.anchor, effects.stack, effects.output⟩

end Effects

theorem ending_active (tokenizer : Tokenizer) (sets : PatternSets) (search : Search) (stack : RuleStack)
    (candidate : Candidate) (found : findCandidate tokenizer sets search stack = some candidate)
    (ending : candidate.winner = .ending) : ∃ rule, stack.top.rule.rule = .beginEnd rule := by
  obtain ⟨contender, member, there⟩ := find_candidate_mem tokenizer sets search stack candidate found
  obtain ⟨captures, _, rfl⟩ := Option.map_eq_some_iff.mp there
  cases contender_source tokenizer sets stack contender member with
  | ending rule active => exact ⟨rule, active⟩
  | child entry _ => cases ending
  | injected _ _ entry _ => cases ending

theorem find_end_bare (first second : Tokenizer) (engine : first.engine = second.engine) (search : Search)
    (stack twin : RuleStack) (bare : stack.top.rule.rule.bare = twin.top.rule.rule.bare)
    (endPatterns : stack.top.endPattern = twin.top.endPattern) :
    findEnd first search stack = findEnd second search twin := by
  rw [findEnd]
  split
  · rename_i ended isEnded
    obtain ⟨other, isOther, patterns, last⟩ := bare_begin_end bare ended isEnded
    rw [findEnd, isOther]
    dsimp only
    rw [patterns, last, endPatterns, engine]
  · rename_i open'
    rw [findEnd]
    split
    · rename_i other isOther
      obtain ⟨ended, isEnded, _⟩ := bare_begin_end bare.symm other isOther
      exact absurd isEnded (open' ended)
    · rfl

-- Two tokenizers whose scans can be followed side by side: where they stand alike, the same kind of match wins, and
-- looking up what a step asks for leaves memories that correspond.
structure Parallel (pairing : Pairing) (first second : Tokenizer) : Prop where
  sound : pairing.Sound
  engine : first.engine = second.engine
  maxLineLength : first.maxLineLength = second.maxLineLength
  nesting : first.nesting = second.nesting
  total : ∀ firstStack secondStack : RuleStack, firstStack.Paired pairing secondStack →
    ruleTotal first firstStack = ruleTotal second secondStack
  winner : ∀ text (firstProgress secondProgress : Progress), firstProgress.Paired pairing secondProgress →
    Option.Rel (Candidate.Paired pairing) (winnerAt first text firstProgress) (winnerAt second text secondProgress)
  lookedUp : ∀ text (firstProgress secondProgress : Progress), firstProgress.Paired pairing secondProgress →
    pairing.memories (Line.lookedUp first text firstProgress).output.memory
      (Line.lookedUp second text secondProgress).output.memory

section Runs

variable {pairing : Pairing} {firstTokenizer secondTokenizer : Tokenizer}
  (parallel : Parallel pairing firstTokenizer secondTokenizer)

include parallel

theorem scan_step_paired {firstAgain secondAgain : Retokenizer} (again : Paired pairing firstAgain secondAgain)
    (text : List Char) (first second : Progress) (paired : first.Paired pairing second) :
    OutcomesPaired pairing (scanStep firstTokenizer firstAgain text first)
      (scanStep secondTokenizer secondAgain text second) := by
  have looked : (lookedUp firstTokenizer text first).Paired pairing (lookedUp secondTokenizer text second) :=
    ⟨paired.pos, paired.firstLine, paired.anchor, paired.stack, paired.output.tokens, paired.output.lastEnd,
      parallel.lookedUp text first second paired⟩
  have winners := parallel.winner text first second paired
  rw [scan_step_eq, scan_step_eq]
  cases found : winnerAt firstTokenizer text first with
  | none =>
      rw [found] at winners
      generalize winnerAt secondTokenizer text second = other at winners
      cases winners
      exact finish_paired text _ _ looked
  | some candidate =>
      rw [found] at winners
      generalize winnerAt secondTokenizer text second = other at winners
      cases winners with
      | some candidates =>
          exact apply_candidate_paired parallel.sound again text _ _ looked candidate _ candidates
            (ending_active firstTokenizer _ _ first.stack candidate found)

theorem scan_steps_paired {firstAgain secondAgain : Retokenizer} (again : Paired pairing firstAgain secondAgain)
    (text : List Char) (rounds : Nat) (first second : Progress) (paired : first.Paired pairing second) :
    (scanSteps firstTokenizer firstAgain text rounds first).Paired pairing
      (scanSteps secondTokenizer secondAgain text rounds second) := by
  induction rounds generalizing first second with
  | zero => exact finish_paired text first second paired
  | succ rounds ih =>
      have step := scan_step_paired parallel again text first second paired
      rw [scanSteps, scanSteps]
      cases firstStep : scanStep firstTokenizer firstAgain text first with
      | finished firstLast =>
          cases secondStep : scanStep secondTokenizer secondAgain text second with
          | finished secondLast => rwa [firstStep, secondStep] at step
          | running secondNext => simp only [firstStep, secondStep, OutcomesPaired] at step
      | running firstNext =>
          cases secondStep : scanStep secondTokenizer secondAgain text second with
          | finished secondLast => simp only [firstStep, secondStep, OutcomesPaired] at step
          | running secondNext =>
              rw [firstStep, secondStep] at step
              exact ih firstNext secondNext step

theorem scan_paired (nesting : Nat) (text : List Char) (first second : Progress) (paired : first.Paired pairing second) :
    (scan firstTokenizer nesting text first).Paired pairing (scan secondTokenizer nesting text second) := by
  -- The induction is on how deep groups are tokenized again.
  induction nesting generalizing text first second with
  | zero => exact finish_paired text first second paired
  | succ nesting ih =>
      have frames := (RuleStack.paired_frames paired.stack).length_eq
      rw [scan, scan, stepBudget, stepBudget, frames, parallel.total _ _ paired.stack]
      refine scan_steps_paired parallel ?_ text _ first second paired
      intro inner pos firstLine firstStack secondStack firstOutput secondOutput alike outputs
      exact (ih inner ⟨pos, firstLine, none, firstStack, firstOutput⟩ ⟨pos, firstLine, none, secondStack, secondOutput⟩
        ⟨rfl, rfl, rfl, alike, outputs⟩).output

theorem retokenizer_paired (nesting : Nat) :
    Paired pairing (retokenizer firstTokenizer nesting) (retokenizer secondTokenizer nesting) := by
  intro text pos firstLine firstStack secondStack first second alike outputs
  exact (scan_paired parallel nesting text ⟨pos, firstLine, none, firstStack, first⟩
    ⟨pos, firstLine, none, secondStack, second⟩ ⟨rfl, rfl, rfl, alike, outputs⟩).output

end Runs

section While

variable {pairing : Pairing} (sound : pairing.Sound) {firstAgain secondAgain : Retokenizer}
  (again : Paired pairing firstAgain secondAgain) (text : List Char)

include sound

theorem while_frames_paired (first second : RuleStack) (paired : first.Paired pairing second) :
    List.Forall₂ (RuleStack.Paired pairing) (whileFrames first) (whileFrames second) := by
  have filtered : ∀ firstStacks secondStacks : List RuleStack,
      List.Forall₂ (RuleStack.Paired pairing) firstStacks secondStacks →
      List.Forall₂ (RuleStack.Paired pairing) (firstStacks.filter fun frame => frame.top.rule.rule.isBeginWhile)
        (secondStacks.filter fun frame => frame.top.rule.rule.isBeginWhile) := by
    intro firstStacks secondStacks paired
    induction paired with
    | nil => exact .nil
    | cons here _ ih =>
        rw [List.filter_cons, List.filter_cons, bare_is_begin_while (sound.bare _ _ here.top.rule)]
        split
        · exact .cons here ih
        · exact ih
  exact List.rel_reverse (filtered _ _ (RuleStack.ancestors_paired paired))

include again

theorem pass_while_paired (first second : Progress) (firstFrame secondFrame : RuleStack)
    (lasting twin : Grammar.BeginWhileRule) (captures : Pattern.Captures) (paired : first.Paired pairing second)
    (alike : firstFrame.Paired pairing secondFrame) (isLasting : firstFrame.top.rule.rule = .beginWhile lasting)
    (tables : twin.whileCaptures = lasting.whileCaptures) :
    (passWhile firstAgain text first firstFrame lasting captures).Paired pairing
      (passWhile secondAgain text second secondFrame twin captures) := by
  have before := produce_paired first.output second.output secondFrame.top.contentScopes
    (Pattern.wholeSpan captures).1 paired.output
  have groups := handle_captures_paired again text second.firstLine captures firstFrame secondFrame alike
    lasting.whileCaptures (while_table_paired sound _ _ alike.top.rule lasting isLasting) _ _ before
  have after := produce_paired _ _ secondFrame.top.contentScopes (Pattern.wholeSpan captures).2 groups
  rw [passWhile, passWhile, alike.top.contentScopes, paired.firstLine, paired.pos, tables]
  dsimp only
  split
  · exact ⟨rfl, rfl, rfl, paired.stack, after⟩
  · exact ⟨rfl, rfl, rfl, paired.stack, after⟩

theorem test_while_paired (firstTokenizer secondTokenizer : Tokenizer)
    (engine : firstTokenizer.engine = secondTokenizer.engine) (firstFrames secondFrames : List RuleStack)
    (alike : List.Forall₂ (RuleStack.Paired pairing) firstFrames secondFrames) (first second : Progress)
    (paired : first.Paired pairing second) :
    (testWhile firstTokenizer firstAgain text firstFrames first).Paired pairing
      (testWhile secondTokenizer secondAgain text secondFrames second) := by
  induction alike generalizing first second with
  | nil => exact paired
  | @cons firstFrame secondFrame firstInner secondInner here _ ih =>
      have bare := sound.bare _ _ here.top.rule
      rw [testWhile]
      split
      · rename_i lasting isLasting
        obtain ⟨twin, isTwin, patterns, tables⟩ := bare_begin_while bare lasting isLasting
        rw [testWhile, isTwin]
        dsimp only
        rw [patterns, ← here.top.endPattern, ← anchors_paired first second paired, ← paired.pos, ← engine]
        split
        · exact ⟨rfl, paired.firstLine, paired.anchor, RuleStack.safe_pop_paired here, paired.output⟩
        · exact ih _ _ (pass_while_paired sound again text first second _ _ lasting twin _ paired here isLasting tables)
      · rename_i passing
        have other : testWhile secondTokenizer secondAgain text (secondFrame :: secondInner) second =
            testWhile secondTokenizer secondAgain text secondInner second := by
          rw [testWhile]
          split
          · rename_i twin isTwin
            obtain ⟨lasting, isLasting, _⟩ := bare_begin_while bare.symm twin isTwin
            exact absurd isLasting (passing lasting)
          · rfl
        rw [other]
        exact ih first second paired

end While

end Line

structure LineResult.Paired (pairing : Pairing) (first second : LineResult) : Prop where
  tokens : first.tokens = second.tokens
  stack : first.stack.Paired pairing second.stack
  memory : pairing.memories first.memory second.memory

structure DocumentResult.Paired (pairing : Pairing) (first second : DocumentResult) : Prop where
  lines : first.lines = second.lines
  stack : first.stack.Paired pairing second.stack
  memory : pairing.memories first.memory second.memory

section Lines

variable {pairing : Pairing} {firstTokenizer secondTokenizer : Tokenizer}
  (parallel : Line.Parallel pairing firstTokenizer secondTokenizer)

include parallel

theorem tokenize_text_paired (firstMemory secondMemory : Memory) (memories : pairing.memories firstMemory secondMemory)
    (text : List Char) (firstLine : Bool) (first second : RuleStack) (alike : first.Paired pairing second)
    (sameEol : first.top.beginCapturedEol = second.top.beginCapturedEol) :
    (firstTokenizer.tokenizeText firstMemory text firstLine first).Paired pairing
      (secondTokenizer.tokenizeText secondMemory text firstLine second) := by
  have again := Line.retokenizer_paired parallel secondTokenizer.nesting
  rw [Tokenizer.tokenizeText, Tokenizer.tokenizeText, parallel.nesting]
  refine Line.scan_paired parallel _ _ _ _ ?_
  rw [Line.checkWhile, Line.checkWhile, sameEol]
  exact Line.test_while_paired parallel.sound again _ firstTokenizer secondTokenizer parallel.engine _ _
    (Line.while_frames_paired parallel.sound _ _ alike) _ _ ⟨rfl, rfl, rfl, alike, rfl, rfl, memories⟩

theorem tokenize_line_paired (firstMemory secondMemory : Memory) (memories : pairing.memories firstMemory secondMemory)
    (line : List Char) (first second : Option RuleStack) (sameStart : first.isNone = second.isNone)
    (alike : (first.getD firstTokenizer.initialStack).Paired pairing (second.getD secondTokenizer.initialStack))
    (sameEol : (first.getD firstTokenizer.initialStack).top.beginCapturedEol =
      (second.getD secondTokenizer.initialStack).top.beginCapturedEol) :
    (firstTokenizer.tokenizeLine firstMemory line first).Paired pairing
      (secondTokenizer.tokenizeLine secondMemory line second) := by
  rw [Tokenizer.tokenizeLine, Tokenizer.tokenizeLine, sameStart, parallel.maxLineLength]
  dsimp only
  split
  · exact ⟨by rw [alike.top.contentScopes], alike, memories⟩
  · have final := tokenize_text_paired parallel firstMemory secondMemory memories (line ++ ['\n']) second.isNone _ _ alike
      sameEol
    refine ⟨?_, RuleStack.reset_line_positions_paired final.stack, final.output.memory⟩
    simp only [Line.Output.finish, final.output.tokens]

theorem tokenize_lines_paired (eol : pairing.eol) (firstMemory secondMemory : Memory)
    (memories : pairing.memories firstMemory secondMemory) (lines : List (List Char)) (first second : Option RuleStack)
    (sameStart : first.isNone = second.isNone)
    (alike : (first.getD firstTokenizer.initialStack).Paired pairing (second.getD secondTokenizer.initialStack)) :
    (firstTokenizer.tokenizeLines firstMemory lines first).Paired pairing
      (secondTokenizer.tokenizeLines secondMemory lines second) := by
  induction lines generalizing firstMemory secondMemory first second with
  | nil => exact ⟨rfl, alike, memories⟩
  | cons line rest ih =>
      have here := tokenize_line_paired parallel firstMemory secondMemory memories line first second sameStart alike
        (alike.top.beginCapturedEol eol)
      have others := ih _ _ here.memory (some (firstTokenizer.tokenizeLine firstMemory line first).stack)
        (some (secondTokenizer.tokenizeLine secondMemory line second).stack)
        (by rw [Option.isNone_some, Option.isNone_some]) here.stack
      exact ⟨congrArg₂ List.cons here.tokens others.lines, others.stack, others.memory⟩

end Lines

end LineScope
