import LineScope.Proofs.Line.Agreement

/-!
When one stack may stand for another, for the next line and for all lines after it. The equality of
stacks compares depths, rules, end patterns and content scopes. It leaves out the scopes around the
content of a rule, which the end of the rule takes up again, and whether the begin match of a frame
went to the end of its line, which decides where `\G` holds at the start of a line that the frame is on
top for. Stacks that are equal and agree on these two are interchangeable, and the stacks after any
further lines are equal and agree on them again.
-/

set_option autoImplicit false

namespace LineScope

def Frame.SameEnd (first second : Frame) : Prop :=
  ∀ rule, first.rule.rule = .beginEnd rule → first.nameScopes = second.nameScopes

def RuleStack.SameEnds (first second : RuleStack) : Prop := List.Forall₂ Frame.SameEnd first.frames second.frames

def Frame.SameEol (first second : Frame) : Prop := first.beginCapturedEol = second.beginCapturedEol

def RuleStack.SameEols (first second : RuleStack) : Prop := List.Forall₂ Frame.SameEol first.frames second.frames

section Comparing

variable {known : List Grammar}

theorem same_rule (library : Library) (within : library.Within known) (first second : RuleRef)
    (isFirst : first.grammar ∈ known) (isSecond : second.grammar ∈ known) (same : first.same second = true) :
    first = second := by
  obtain ⟨firstGrammar, firstId⟩ := first
  obtain ⟨secondGrammar, secondId⟩ := second
  obtain ⟨sameKey, sameId⟩ := Prod.mk.inj (eq_of_beq same)
  have grammars : firstGrammar = secondGrammar := within.distinct _ isFirst _ isSecond sameKey
  exact congr (congrArg RuleRef.mk grammars) sameId

theorem same_frames_alike (eol : Prop) (library : Library) (within : library.Within known) (first second : List Frame)
    (firstInside : ∀ frame ∈ first, frame.rule.grammar ∈ known)
    (secondInside : ∀ frame ∈ second, frame.rule.grammar ∈ known)
    (firstSettled : ∀ frame ∈ first, frame.Settled) (secondSettled : ∀ frame ∈ second, frame.Settled)
    (same : RuleStack.sameFrames first second = true) (ends : List.Forall₂ Frame.SameEnd first second)
    (eols : eol → List.Forall₂ Frame.SameEol first second) : List.Forall₂ (Frame.Alike eol) first second := by
  induction ends with
  | nil => exact .nil
  | cons sameEnd _ ih =>
      obtain ⟨firstKnown, firstBelow⟩ := List.forall_mem_cons.mp firstInside
      obtain ⟨secondKnown, secondBelow⟩ := List.forall_mem_cons.mp secondInside
      obtain ⟨⟨firstEnter, firstAnchor⟩, firstRest⟩ := List.forall_mem_cons.mp firstSettled
      obtain ⟨⟨secondEnter, secondAnchor⟩, secondRest⟩ := List.forall_mem_cons.mp secondSettled
      simp only [RuleStack.sameFrames, Frame.same, Bool.and_eq_true, beq_iff_eq] at same
      obtain ⟨⟨⟨⟨sameDepth, sameRule⟩, sameEnding⟩, sameContent⟩, below⟩ := same
      refine .cons ⟨sameDepth, ?_, ?_, ?_, sameEnding, sameContent, sameEnd, ?_⟩
        (ih firstBelow secondBelow firstRest secondRest below fun holds => (List.forall₂_cons.mp (eols holds)).2)
      · exact same_rule library within _ _ firstKnown secondKnown sameRule
      · rw [firstEnter, secondEnter]
      · rw [firstAnchor, secondAnchor]
      · exact fun holds => (List.forall₂_cons.mp (eols holds)).1

theorem alike_frames_same (eol : Prop) (first second : List Frame)
    (alike : List.Forall₂ (Frame.Alike eol) first second) : RuleStack.sameFrames first second = true := by
  induction alike with
  | nil => rfl
  | cons top _ ih =>
      simp [RuleStack.sameFrames, Frame.same, RuleRef.same, top.depth, top.rule, top.endPattern, top.contentScopes, ih]

theorem same_alike (eol : Prop) (grammar : Grammar) (library : Library) (within : library.Within known)
    (first second : RuleStack) (firstInside : first.Within known) (secondInside : second.Within known)
    (firstSettled : first.Settled grammar) (secondSettled : second.Settled grammar) (same : first.same second = true)
    (ends : first.SameEnds second) (eols : eol → first.SameEols second) : first.Alike eol second := by
  have frames := same_frames_alike eol library within first.frames second.frames firstInside secondInside
    firstSettled.positions secondSettled.positions same ends eols
  cases frames with
  | cons top below => exact ⟨top, below⟩

theorem alike_same_ends (eol : Prop) (first second : RuleStack) (alike : first.Alike eol second) :
    first.same second = true ∧ first.SameEnds second := by
  have frames := RuleStack.alike_frames alike
  exact ⟨alike_frames_same eol _ _ frames, frames.imp fun _ _ top => top.nameScopes⟩

theorem returned_within (tokenizer : Tokenizer) (within : tokenizer.Within known) (previous : Option RuleStack)
    (returned : tokenizer.Returns (Memory.Valid known tokenizer.library) previous) :
    (previous.getD tokenizer.initialStack).Within known := by
  induction returned with
  | nothing => exact List.forall_mem_singleton.mpr within.grammar
  | line memory line previous valid earlier ih =>
      have agrees : LineResult.Agrees True known tokenizer.library _ _ := tokenize_line_agrees tokenizer within memory
        memory valid valid line previous previous rfl (RuleStack.alike_refl _) ih rfl
      exact agrees.inside

end Comparing

/-- Stacks that a tokenizer has returned, that are equal and that agree on the scopes around what can be ended. If all
their frames agree on the end of the line, they are interchangeable for good: any lines after them have the same
tokens, and leave stacks that are equal and agree in both ways again. For the next line alone it is enough that the
frames on top agree on the end of the line. -/
theorem equal_stacks_interchangeable (known : List Grammar) (tokenizer : Tokenizer) (within : tokenizer.Within known)
    (first second : RuleStack)
    (firstReturned : tokenizer.Returns (Memory.Valid known tokenizer.library) (some first))
    (secondReturned : tokenizer.Returns (Memory.Valid known tokenizer.library) (some second))
    (same : first.same second = true) (ends : first.SameEnds second) (firstMemory secondMemory : Memory)
    (firstValid : firstMemory.Valid known tokenizer.library) (secondValid : secondMemory.Valid known tokenizer.library) :
    (first.SameEols second → ∀ lines : List (List Char),
      (tokenizer.tokenizeLines firstMemory lines (some first)).lines =
          (tokenizer.tokenizeLines secondMemory lines (some second)).lines ∧
        (tokenizer.tokenizeLines firstMemory lines (some first)).stack.same
          (tokenizer.tokenizeLines secondMemory lines (some second)).stack = true ∧
        (tokenizer.tokenizeLines firstMemory lines (some first)).stack.SameEnds
          (tokenizer.tokenizeLines secondMemory lines (some second)).stack ∧
        (tokenizer.tokenizeLines firstMemory lines (some first)).stack.SameEols
          (tokenizer.tokenizeLines secondMemory lines (some second)).stack) ∧
    (first.top.SameEol second.top → ∀ line : List Char,
      (tokenizer.tokenizeLine firstMemory line (some first)).tokens =
          (tokenizer.tokenizeLine secondMemory line (some second)).tokens ∧
        (tokenizer.tokenizeLine firstMemory line (some first)).stack.same
          (tokenizer.tokenizeLine secondMemory line (some second)).stack = true ∧
        (tokenizer.tokenizeLine firstMemory line (some first)).stack.SameEnds
          (tokenizer.tokenizeLine secondMemory line (some second)).stack) := by
  have firstInside := returned_within tokenizer within (some first) firstReturned
  have secondInside := returned_within tokenizer within (some second) secondReturned
  have alike : ∀ eol : Prop, (eol → first.SameEols second) → first.Alike eol second := fun eol =>
    same_alike eol tokenizer.grammar tokenizer.library within.library first second firstInside secondInside
      (returned_settled tokenizer _ (some first) firstReturned) (returned_settled tokenizer _ (some second) secondReturned)
      same ends
  constructor
  · intro eols lines
    have paired := tokenize_lines_paired (Line.same_parallel tokenizer within) trivial firstMemory secondMemory
      ⟨firstValid, secondValid⟩ lines (some first) (some second) rfl
      ((stack_same_iff _ _).mpr ⟨alike True fun _ => eols, firstInside⟩)
    have left := ((stack_same_iff _ _).mp paired.stack).1
    obtain ⟨again, endsAgain⟩ := alike_same_ends True _ _ left
    exact ⟨paired.lines, again, endsAgain, (RuleStack.alike_frames left).imp fun _ _ top => top.beginCapturedEol trivial⟩
  · intro sameEol line
    have agrees := tokenize_line_agrees tokenizer within firstMemory secondMemory firstValid secondValid line (some first)
      (some second) rfl (alike False False.elim) firstInside sameEol
    exact ⟨agrees.tokens, alike_same_ends False _ _ agrees.stack⟩

section Examples

def lastingTokenizer : Tokenizer :=
  .ofRules "s" #[.container ⟨none, none, [.rule 1]⟩,
    .beginWhile ⟨some "$1", some "$2", "(b?)-(b?)", [], "z", [], []⟩]

def endedTokenizer : Tokenizer :=
  .ofRules "s" #[.container ⟨none, none, [.rule 1]⟩,
    .beginEnd ⟨some "$1", some "$2", "(b?)-(b?)", [], "z", [], false, []⟩]

def anchoredTokenizer : Tokenizer :=
  .ofRules "s" #[.container ⟨none, none, [.rule 1]⟩, .beginEnd ⟨none, none, "x\\n|y", [], "z", [], false, [.rule 2]⟩,
    .single ⟨some "g", "\\Ga", []⟩]

def Tokenizer.stackAfter (tokenizer : Tokenizer) (line : List Char) : RuleStack :=
  (tokenizer.tokenizeLine {} line none).stack

def Tokenizer.opened (tokenizer : Tokenizer) (eol : Bool) (names contents : ScopeList) : RuleStack :=
  tokenizer.initialStack.push
    { rule := ⟨tokenizer.grammar, 1⟩, beginCapturedEol := eol, nameScopes := names, contentScopes := contents }

theorem stack_after_returned (tokenizer : Tokenizer) (known : List Grammar) (line : List Char) :
    tokenizer.Returns (Memory.Valid known tokenizer.library) (some (tokenizer.stackAfter line)) :=
  .line {} line none Memory.empty_valid .nothing

/-- The scopes around the content differ here, but nothing ends it by a match of its own. -/
theorem lasting_stacks_interchangeable :
    let first := lastingTokenizer.stackAfter ['b', '-']
    let second := lastingTokenizer.stackAfter ['-', 'b']
    first ≠ second ∧ first.same second = true ∧ first.SameEnds second ∧ first.SameEols second ∧
      (lastingTokenizer.tokenizeLines {} [['z', 'a'], ['z'], ['a']] (some first)).lines =
        (lastingTokenizer.tokenizeLines {} [['z', 'a'], ['z'], ['a']] (some second)).lines := by
  intro first second
  have isFirst : first = lastingTokenizer.opened false ["s", "b"] ["s", "b"] := by decide +kernel
  have isSecond : second = lastingTokenizer.opened false ["s"] ["s", "b"] := by decide +kernel
  have different : first ≠ second := by
    rw [isFirst, isSecond]
    decide +kernel
  have same : first.same second = true := by
    rw [isFirst, isSecond]
    rfl
  have ends : first.SameEnds second := by
    rw [isFirst, isSecond]
    refine .cons ?_ (.cons (fun _ _ => rfl) .nil)
    intro rule active
    cases active
  have eols : first.SameEols second := by
    rw [isFirst, isSecond]
    exact .cons rfl (.cons rfl .nil)
  have interchangeable := equal_stacks_interchangeable [lastingTokenizer.grammar] lastingTokenizer (of_rules_within _ _)
    first second (stack_after_returned _ _ _) (stack_after_returned _ _ _) same ends {} {} Memory.empty_valid
    Memory.empty_valid
  exact ⟨different, same, ends, eols, (interchangeable.1 eols _).1⟩

/-- Neither condition can be dropped: stacks that are equal can differ in where `\G` holds in the next line, and in
the scopes of the end of their rule. -/
theorem equal_stacks_not_interchangeable :
    ((anchoredTokenizer.stackAfter ['x']).same (anchoredTokenizer.stackAfter ['y']) = true ∧
      (anchoredTokenizer.tokenizeLine {} ['a'] (some (anchoredTokenizer.stackAfter ['x']))).tokens ≠
        (anchoredTokenizer.tokenizeLine {} ['a'] (some (anchoredTokenizer.stackAfter ['y']))).tokens) ∧
    ((endedTokenizer.stackAfter ['b', '-']).same (endedTokenizer.stackAfter ['-', 'b']) = true ∧
      (endedTokenizer.tokenizeLine {} ['z'] (some (endedTokenizer.stackAfter ['b', '-']))).tokens ≠
        (endedTokenizer.tokenizeLine {} ['z'] (some (endedTokenizer.stackAfter ['-', 'b']))).tokens) := by
  refine ⟨⟨?_, ?_⟩, ?_, ?_⟩
  all_goals decide +kernel

end Examples

end LineScope
