import LineScope.Proofs.Line.Move
import LineScope.Proofs.Pattern.Restriction
import LineScope.Tokenizer

set_option autoImplicit false

namespace LineScope.Pattern

-- A character after a backslash is escaped, a second backslash too.
def hasFirstLineAnchor : List Char → Bool
  | '\\' :: escaped :: rest => escaped == 'A' || hasFirstLineAnchor rest
  | _ :: rest => hasFirstLineAnchor rest
  | [] => false

def Anchors.onLine (anchors : Anchors) (firstLine : Bool) : Anchors := { anchors with firstLine }

section Variants

variable (source : List Char) (anchors : Anchors)

theorem restrict_on_line (firstLine : Bool) (plain : hasFirstLineAnchor source = false) :
    restrictAnchors (anchors.onLine firstLine) source = restrictAnchors anchors source := by
  fun_induction hasFirstLineAnchor source with
  | case1 escaped rest ih =>
      rw [Bool.or_eq_false_iff] at plain
      have same : (anchors.onLine firstLine).forbids escaped = anchors.forbids escaped := by
        simp [Anchors.forbids, Anchors.onLine, plain.1]
      rw [restrictAnchors, restrictAnchors, same, ih plain.2]
  | case2 c rest single ih =>
      rw [restrictAnchors, restrictAnchors, ih plain]
      · exact single
      · exact single
  | case3 => rfl

end Variants

theorem find_on_line (engine : Engine) (source : String) (anchors : Anchors) (text : List Char) (pos : Nat)
    (firstLine : Bool) (plain : hasFirstLineAnchor source.toList = false) :
    engine.find source (anchors.onLine firstLine) text pos = engine.find source anchors text pos := by
  rw [Engine.find, Engine.find, variant_restricts, variant_restricts, restrict_on_line _ _ _ plain]

end LineScope.Pattern

namespace LineScope.Line

def Plain (patterns : List String) : Prop := ∀ pattern ∈ patterns, Pattern.hasFirstLineAnchor pattern.toList = false

theorem plain_append (first second : List String) : Plain (first ++ second) ↔ Plain first ∧ Plain second :=
  List.forall_mem_append

theorem plain_cons (pattern : String) (rest : List String) :
    Plain (pattern :: rest) ↔ Pattern.hasFirstLineAnchor pattern.toList = false ∧ Plain rest :=
  List.forall_mem_cons

def Search.onLine (search : Search) (firstLine : Bool) : Search :=
  { search with anchors := search.anchors.onLine firstLine }

theorem search_on_line_text (search : Search) (firstLine : Bool) : (search.onLine firstLine).text = search.text := rfl

theorem search_on_line_pos (search : Search) (firstLine : Bool) : (search.onLine firstLine).pos = search.pos := rfl

theorem search_on_line_anchors (search : Search) (firstLine : Bool) :
    (search.onLine firstLine).anchors = search.anchors.onLine firstLine := rfl

def Progress.onLine (progress : Progress) (firstLine : Bool) : Progress := { progress with firstLine }

def Groups.onLine (groups : Groups) (firstLine : Bool) : Groups := { groups with firstLine }

section Searched

-- The patterns of some entries, up to the one that cannot be beaten.
def searchedFrom (engine : Pattern.Engine) (search : Search) : Option Found → List Entry → List String
  | _, [] => []
  | best, entry :: rest =>
    entry.pattern ::
      match engine.find entry.pattern search.anchors search.text search.pos with
      | none => searchedFrom engine search best rest
      | some captures =>
        let found : Found := ⟨entry.rule, captures⟩
        if best.any fun earlier => earlier.start ≤ found.start then searchedFrom engine search best rest
        else if found.start = search.pos then []
        else searchedFrom engine search (some found) rest

variable (tokenizer : Tokenizer) (sets : PatternSets) (search : Search)

def searchedInjected (scopes : ScopeList) : Option (Candidate × Selector.Priority) → List Injection → List String
  | _, [] => []
  | best, injection :: rest =>
    if injection.expr.accepts scopes then
      let entries := sets .included injection.rule
      searchedFrom tokenizer.engine search none entries ++
        match findFirst tokenizer.engine entries search.text search.pos search.anchors with
        | none => searchedInjected scopes best rest
        | some found =>
          if best.any fun (earlier, _) => earlier.start ≤ found.start then searchedInjected scopes best rest
          else if found.start = search.pos then []
          else searchedInjected scopes (some (.ofFound found, injection.priority)) rest
    else searchedInjected scopes best rest

def searchedEnd (stack : RuleStack) : List String :=
  match stack.top.rule.rule with
  | .beginEnd rule => [stack.top.endPattern.getD rule.endPattern]
  | _ => []

def searchedChildren (stack : RuleStack) : List String :=
  if endSettles search (findEnd tokenizer search stack) then []
  else searchedFrom tokenizer.engine search none (sets .children stack.top.rule)

def searchedAt (stack : RuleStack) : List String :=
  searchedEnd stack ++ searchedChildren tokenizer sets search stack ++
    searchedInjected tokenizer sets search stack.top.contentScopes none tokenizer.injections

variable (firstLine : Bool)

theorem find_from_on_line (engine : Pattern.Engine) (best : Option Found) (entries : List Entry)
    (plain : Plain (searchedFrom engine search best entries)) :
    findFrom engine search.text search.pos (search.anchors.onLine firstLine) best entries =
      findFrom engine search.text search.pos search.anchors best entries := by
  induction entries generalizing best with
  | nil => rfl
  | cons entry rest ih =>
      rw [searchedFrom, plain_cons] at plain
      rw [findFrom, findFrom, Pattern.find_on_line _ _ _ _ _ _ plain.1]
      replace plain := plain.2
      split
      · rename_i nothing
        rw [nothing] at plain
        exact ih best plain
      · rename_i captures found
        rw [found] at plain
        dsimp only at plain ⊢
        split
        · rename_i covered
          rw [if_pos covered] at plain
          exact ih best plain
        · rename_i uncovered
          rw [if_neg uncovered] at plain
          split
          · rfl
          · rename_i later
            rw [if_neg later] at plain
            exact ih _ plain

theorem find_first_on_line (engine : Pattern.Engine) (entries : List Entry)
    (plain : Plain (searchedFrom engine search none entries)) :
    findFirst engine entries search.text search.pos (search.anchors.onLine firstLine) =
      findFirst engine entries search.text search.pos search.anchors :=
  find_from_on_line search firstLine engine none entries plain

theorem injections_on_line (scopes : ScopeList) (best : Option (Candidate × Selector.Priority))
    (injections : List Injection) (plain : Plain (searchedInjected tokenizer sets search scopes best injections)) :
    findInjectedFrom tokenizer sets (search.onLine firstLine) scopes best injections =
        findInjectedFrom tokenizer sets search scopes best injections ∧
      triedInjections tokenizer sets (search.onLine firstLine) scopes injections =
        triedInjections tokenizer sets search scopes injections := by
  induction injections generalizing best with
  | nil => exact ⟨rfl, rfl⟩
  | cons injection rest ih =>
      rw [searchedInjected] at plain
      rw [findInjectedFrom, findInjectedFrom, triedInjections, triedInjections]
      by_cases applies : injection.expr.accepts scopes = true
      · rw [if_pos applies] at plain
        obtain ⟨inside, later⟩ := (plain_append _ _).mp plain
        simp only [if_pos applies, search_on_line_text, search_on_line_pos, search_on_line_anchors,
          find_first_on_line search firstLine _ _ inside]
        cases result : findFirst tokenizer.engine (sets .included injection.rule) search.text search.pos search.anchors with
        | none =>
            rw [result] at later
            obtain ⟨chosen, tried⟩ := ih best later
            exact ⟨chosen, congrArg (injection :: ·) tried⟩
        | some found =>
            rw [result] at later
            dsimp only [Option.any_some] at later ⊢
            by_cases covered : (best.any fun (earlier, _) => decide (earlier.start ≤ found.start)) = true
            · rw [if_pos covered] at later
              obtain ⟨chosen, tried⟩ := ih best later
              rw [if_pos covered, if_pos covered, tried]
              exact ⟨chosen, rfl⟩
            · rw [if_neg covered] at later
              rw [if_neg covered, if_neg covered]
              by_cases here : found.start = search.pos
              · simp only [here, decide_true, if_true, and_self]
              · rw [if_neg here] at later
                obtain ⟨chosen, tried⟩ := ih _ later
                rw [if_neg here, tried]
                exact ⟨(if_neg here).trans chosen, rfl⟩
      · rw [if_neg applies] at plain
        simp only [if_neg applies]
        exact ih best plain

variable (stack : RuleStack)

theorem find_end_on_line (plain : Plain (searchedEnd stack)) :
    findEnd tokenizer (search.onLine firstLine) stack = findEnd tokenizer search stack := by
  rw [searchedEnd] at plain
  rw [findEnd, findEnd]
  split
  · rename_i rule active
    rw [active] at plain
    dsimp only
    rw [search_on_line_text, search_on_line_pos, search_on_line_anchors,
      Pattern.find_on_line _ _ _ _ _ _ ((plain_cons _ _).mp plain).1]
  · rfl

theorem find_candidate_on_line (plain : Plain (searchedAt tokenizer sets search stack)) :
    findCandidate tokenizer sets (search.onLine firstLine) stack = findCandidate tokenizer sets search stack := by
  obtain ⟨own, injected⟩ := (plain_append _ _).mp plain
  obtain ⟨ending, children⟩ := (plain_append _ _).mp own
  have sameEnd := find_end_on_line tokenizer search firstLine stack ending
  have sameOwn : findOwn tokenizer sets (search.onLine firstLine) stack = findOwn tokenizer sets search stack := by
    rw [findOwn, findOwn, sameEnd]
    by_cases settled : endSettles search (findEnd tokenizer search stack) = true
    · exact (if_pos settled).trans (if_pos settled).symm
    · rw [searchedChildren, if_neg settled] at children
      have sameChild : findChild tokenizer sets (search.onLine firstLine) stack = findChild tokenizer sets search stack :=
        congrArg (Option.map Candidate.ofFound) (find_first_on_line search firstLine _ _ children)
      exact (if_neg settled).trans ((congrArg _ sameChild).trans (if_neg settled).symm)
  rw [findCandidate, findCandidate, sameOwn, findInjected, findInjected,
    (injections_on_line tokenizer sets search firstLine _ _ _ injected).1]

theorem memory_after_on_line (memory : Memory)
    (plain : Plain (searchedAt tokenizer (memory.patternSet tokenizer.library tokenizer.grammar) search stack)) :
    memoryAfter tokenizer (search.onLine firstLine) stack memory = memoryAfter tokenizer search stack memory := by
  obtain ⟨own, injected⟩ := (plain_append _ _).mp plain
  have sameEnd := find_end_on_line tokenizer search firstLine stack ((plain_append _ _).mp own).1
  have sameTried := (injections_on_line tokenizer _ search firstLine _ _ _ injected).2
  have sameAsked : asked tokenizer (memory.patternSet tokenizer.library tokenizer.grammar) (search.onLine firstLine) stack =
      asked tokenizer (memory.patternSet tokenizer.library tokenizer.grammar) search stack := by
    rw [asked, asked, sameEnd, sameTried]
    rfl
  rw [memoryAfter, memoryAfter, sameAsked]

end Searched

structure Call where
  text : List Char
  pos : Nat
  firstLine : Bool
  stack : RuleStack
  output : Output

def Call.start (call : Call) : Progress := ⟨call.pos, call.firstLine, none, call.stack, call.output⟩

def Call.Settled (retokenize : Retokenizer) (call : Call) : Prop :=
  ∀ firstLine, retokenize call.text call.pos firstLine call.stack call.output =
    retokenize call.text call.pos call.firstLine call.stack call.output

section Calls

variable (retokenize : Retokenizer)

def groupCalls (groups : Groups) : Grammar.CaptureTable → OpenGroups → Output → List Call
  | [], _, _ => []
  | (group, rule) :: rest, opened, output =>
    match groups.captures.getD group none with
    | none => groupCalls groups rest opened output
    | some (start, stop) =>
      if start = stop then groupCalls groups rest opened output
      else if (Pattern.wholeSpan groups.captures).2 < start then []
      else
        let outer := groups.stack.top.contentScopes
        let (opened, output) := closeBefore start opened output
        let output := output.produce (innermost opened outer) start
        match rule.retokenize, rule.name with
        | some id, _ =>
          let text := Text.takeBytes stop groups.text
          let firstLine := groups.firstLine && start = 0
          let inner := groups.stack.push (groups.frame rule id start)
          ⟨text, start, firstLine, inner, output⟩ ::
            groupCalls groups rest opened (retokenize text start firstLine inner output)
        | none, some name =>
          let scopes := (innermost opened outer).pushName (Pattern.resolveName name groups.text groups.captures)
          groupCalls groups rest ((scopes, stop) :: opened) output
        | none, none => groupCalls groups rest opened output

theorem scan_groups_on_line (firstLine : Bool) (groups : Groups) (table : Grammar.CaptureTable) (opened : OpenGroups)
    (output : Output) (settled : ∀ call ∈ groupCalls retokenize groups table opened output, call.Settled retokenize) :
    scanGroups retokenize (groups.onLine firstLine) table opened output =
      scanGroups retokenize groups table opened output := by
  obtain ⟨text, oldLine, stack, captures⟩ := groups
  rw [Groups.onLine]
  induction table generalizing opened output with
  | nil => rfl
  | cons entry rest ih =>
      obtain ⟨group, rule⟩ := entry
      rw [groupCalls] at settled
      rw [scanGroups, scanGroups]
      dsimp only at settled ⊢
      cases span : captures.getD group none with
      | none =>
          rw [span] at settled
          exact ih opened output settled
      | some found =>
          obtain ⟨start, stop⟩ := found
          rw [span] at settled
          dsimp only at settled ⊢
          by_cases empty : start = stop
          · rw [if_pos empty] at settled ⊢
            rw [if_pos empty]
            exact ih opened output settled
          by_cases outside : (Pattern.wholeSpan captures).2 < start
          · simp only [if_neg empty, if_pos outside]
          rw [if_neg empty, if_neg outside] at settled ⊢
          rw [if_neg empty, if_neg outside]
          cases again : rule.retokenize with
          | some id =>
              rw [again] at settled
              obtain ⟨first, others⟩ := List.forall_mem_cons.mp settled
              have same := first (firstLine && decide (start = 0))
              exact (ih _ _ (same ▸ others)).trans (congrArg _ same)
          | none =>
              rw [again] at settled
              cases name : rule.name with
              | none =>
                  rw [name] at settled
                  exact ih _ _ settled
              | some _ =>
                  rw [name] at settled
                  exact ih _ _ settled

variable (text : List Char) (progress : Progress) (candidate : Candidate)

def startCapturesOf (rule : Grammar.Rule) : Grammar.CaptureTable :=
  match beginPartsOf rule with
  | some (captures, _, _) => captures
  | none => matchCapturesOf rule

def effectCalls : List Call :=
  let stack := progress.stack
  let output := progress.output.produce stack.top.contentScopes candidate.start
  match candidate.winner with
  | .ending =>
    groupCalls retokenize ⟨text, progress.firstLine, stack.withContentScopes stack.top.nameScopes, candidate.captures⟩
      (endCapturesOf stack.top.rule.rule) [] output
  | .rule rule =>
    groupCalls retokenize ⟨text, progress.firstLine, stack.push (openedFrame text progress rule candidate), candidate.captures⟩
      (startCapturesOf rule.rule) [] output

theorem effect_on_line (firstLine : Bool)
    (settled : ∀ call ∈ effectCalls retokenize text progress candidate, call.Settled retokenize) :
    effectOf retokenize text (progress.onLine firstLine) candidate = effectOf retokenize text progress candidate := by
  obtain ⟨pos, oldLine, anchor, stack, output⟩ := progress
  rw [effectCalls] at settled
  rw [Progress.onLine, effectOf, effectOf]
  split
  · rename_i winner
    rw [winner] at settled
    have groups := scan_groups_on_line retokenize firstLine _ _ _ _ settled
    dsimp only [Groups.onLine] at groups
    rw [applyEnd, applyEnd]
    dsimp only [handleCaptures]
    rw [groups]
  · rename_i rule winner
    rw [winner] at settled
    have groups := scan_groups_on_line retokenize firstLine _ _ _ _ settled
    have frames : openedFrame text ⟨pos, firstLine, anchor, stack, output⟩ rule candidate =
        openedFrame text ⟨pos, oldLine, anchor, stack, output⟩ rule candidate := rfl
    rw [applyRule, applyRule, frames]
    dsimp only [handleCaptures]
    cases parts : beginPartsOf rule.rule with
    | none =>
        simp only [startCapturesOf, parts, Groups.onLine] at groups
        rw [groups]
    | some found =>
        obtain ⟨captures, contentName, endPattern⟩ := found
        simp only [startCapturesOf, parts, Groups.onLine] at groups
        dsimp only
        rw [groups]

end Calls

def Progress.Alike (first second : Progress) : Prop := ∃ firstLine, second = first.onLine firstLine

def OutcomesAlike : Outcome → Outcome → Prop
  | .finished first, .finished second => first.Alike second
  | .running first, .running second => first.Alike second
  | _, _ => False

section Steps

variable (tokenizer : Tokenizer) (retokenize : Retokenizer) (text : List Char) (progress : Progress) (firstLine : Bool)

theorem apply_candidate_on_line (candidate : Candidate)
    (settled : ∀ call ∈ effectCalls retokenize text progress candidate, call.Settled retokenize) :
    OutcomesAlike (applyCandidate retokenize text progress candidate)
      (applyCandidate retokenize text (progress.onLine firstLine) candidate) := by
  have same := effect_on_line retokenize text progress candidate firstLine settled
  obtain ⟨pos, oldLine, anchor, stack, output⟩ := progress
  rw [Progress.onLine] at same ⊢
  rw [applyCandidate, applyCandidate, same]
  generalize effectOf retokenize text ⟨pos, oldLine, anchor, stack, output⟩ candidate = effect
  dsimp only
  by_cases stalls : effect.stalled = true
  · rw [if_pos stalls, if_pos stalls, forceProgress, forceProgress]
    dsimp only
    cases Text.dropBytes pos text with
    | nil => exact ⟨firstLine, rfl⟩
    | cons c rest => exact ⟨false, rfl⟩
  · rw [if_neg stalls, if_neg stalls]
    by_cases advanced : pos < candidate.stop
    · rw [if_pos advanced, if_pos advanced]
      exact ⟨false, rfl⟩
    · rw [if_neg advanced, if_neg advanced]
      exact ⟨firstLine, rfl⟩

def searchedStep : List String :=
  searchedAt tokenizer (progress.output.memory.patternSet tokenizer.library tokenizer.grammar)
    ⟨text, progress.pos, progress.anchors⟩ progress.stack

def stepCalls : List Call :=
  match winnerAt tokenizer text progress with
  | none => []
  | some candidate => effectCalls retokenize text (lookedUp tokenizer text progress) candidate

theorem winner_on_line (plain : Plain (searchedStep tokenizer text progress)) :
    winnerAt tokenizer text (progress.onLine firstLine) = winnerAt tokenizer text progress := by
  have same := find_candidate_on_line tokenizer _ _ firstLine _ plain
  exact same

theorem looked_up_on_line (plain : Plain (searchedStep tokenizer text progress)) :
    lookedUp tokenizer text (progress.onLine firstLine) = (lookedUp tokenizer text progress).onLine firstLine := by
  have memory := memory_after_on_line tokenizer _ firstLine _ _ plain
  exact congrArg (fun memory => { progress with firstLine, output := { progress.output with memory } }) memory

theorem scan_step_on_line (plain : Plain (searchedStep tokenizer text progress))
    (settled : ∀ call ∈ stepCalls tokenizer retokenize text progress, call.Settled retokenize) :
    OutcomesAlike (scanStep tokenizer retokenize text progress)
      (scanStep tokenizer retokenize text (progress.onLine firstLine)) := by
  rw [stepCalls] at settled
  rw [scan_step_eq, scan_step_eq, winner_on_line tokenizer text progress firstLine plain,
    looked_up_on_line tokenizer text progress firstLine plain]
  split
  · exact ⟨firstLine, rfl⟩
  · rename_i candidate found
    rw [found] at settled
    exact apply_candidate_on_line retokenize text _ firstLine candidate settled

variable (nested : Call → List String)

def searchedSteps : Nat → Progress → List String
  | 0, _ => []
  | rounds + 1, progress =>
    searchedStep tokenizer text progress ++ (stepCalls tokenizer retokenize text progress).flatMap nested ++
      match scanStep tokenizer retokenize text progress with
      | .finished _ => []
      | .running next => searchedSteps rounds next

theorem scan_steps_on_line (rounds : Nat)
    (settles : ∀ call : Call, Plain (nested call) → call.Settled retokenize)
    (plain : Plain (searchedSteps tokenizer retokenize text nested rounds progress)) :
    (scanSteps tokenizer retokenize text rounds progress).Alike
      (scanSteps tokenizer retokenize text rounds (progress.onLine firstLine)) := by
  induction rounds generalizing progress firstLine with
  | zero => exact ⟨firstLine, rfl⟩
  | succ rounds ih =>
      rw [searchedSteps] at plain
      obtain ⟨here, later⟩ := (plain_append _ _).mp plain
      obtain ⟨step, calls⟩ := (plain_append _ _).mp here
      have settled : ∀ call ∈ stepCalls tokenizer retokenize text progress, call.Settled retokenize := fun call isCall =>
        settles call fun pattern listed => calls pattern (List.mem_flatMap.mpr ⟨call, isCall, listed⟩)
      have alike := scan_step_on_line tokenizer retokenize text progress firstLine step settled
      rw [scanSteps, scanSteps]
      cases first : scanStep tokenizer retokenize text progress with
      | finished last =>
          rw [first] at alike
          cases second : scanStep tokenizer retokenize text (progress.onLine firstLine) with
          | finished other => rwa [second] at alike
          | running _ => rw [second] at alike; exact alike.elim
      | running next =>
          rw [first] at alike later
          cases second : scanStep tokenizer retokenize text (progress.onLine firstLine) with
          | finished _ => rw [second] at alike; exact alike.elim
          | running other =>
              rw [second] at alike
              obtain ⟨nextLine, rfl⟩ := alike
              exact ih next nextLine later

end Steps

section Scans

variable (tokenizer : Tokenizer)

def searchedScan : Nat → List Char → Progress → List String
  | 0, _, _ => []
  | nesting + 1, text, progress =>
    searchedSteps tokenizer (retokenizer tokenizer nesting) text (fun call => searchedScan nesting call.text call.start)
      (stepBudget tokenizer text progress.stack) progress

-- What scans of one level of nesting do is what is asked of the calls of the next.
theorem retokenizer_settles (nesting : Nat)
    (alike : ∀ (text : List Char) (progress : Progress) (firstLine : Bool),
      Plain (searchedScan tokenizer nesting text progress) →
        (scan tokenizer nesting text progress).Alike (scan tokenizer nesting text (progress.onLine firstLine)))
    (call : Call) (plain : Plain (searchedScan tokenizer nesting call.text call.start)) :
    call.Settled (retokenizer tokenizer nesting) := by
  intro firstLine
  obtain ⟨lastLine, same⟩ := alike call.text call.start firstLine plain
  have outputs := congrArg Progress.output same
  exact outputs

theorem scan_on_line (nesting : Nat) (text : List Char) (progress : Progress) (firstLine : Bool)
    (plain : Plain (searchedScan tokenizer nesting text progress)) :
    (scan tokenizer nesting text progress).Alike (scan tokenizer nesting text (progress.onLine firstLine)) := by
  -- On the levels of groups inside groups.
  induction nesting generalizing text progress firstLine with
  | zero => exact ⟨firstLine, rfl⟩
  | succ nesting ih =>
      exact scan_steps_on_line tokenizer (retokenizer tokenizer nesting) text progress firstLine _ _
        (retokenizer_settles tokenizer nesting ih) plain

variable (retokenize : Retokenizer) (text : List Char) (nested : Call → List String)

def searchedWhile : List RuleStack → Progress → List String
  | [], _ => []
  | frame :: inner, progress =>
    match frame.top.rule.rule with
    | .beginWhile rule =>
      let pattern := frame.top.endPattern.getD rule.whilePattern
      pattern ::
        match tokenizer.engine.find pattern progress.anchors text progress.pos with
        | none => []
        | some captures =>
          (groupCalls retokenize ⟨text, progress.firstLine, frame, captures⟩ rule.whileCaptures []
              (progress.output.produce frame.top.contentScopes (Pattern.wholeSpan captures).1)).flatMap nested ++
            searchedWhile inner (passWhile retokenize text progress frame rule captures)
    | _ => searchedWhile inner progress

theorem pass_while_on_line (progress : Progress) (firstLine : Bool) (frame : RuleStack) (rule : Grammar.BeginWhileRule)
    (captures : Pattern.Captures)
    (settled : ∀ call ∈ groupCalls retokenize ⟨text, progress.firstLine, frame, captures⟩ rule.whileCaptures []
      (progress.output.produce frame.top.contentScopes (Pattern.wholeSpan captures).1), call.Settled retokenize) :
    (passWhile retokenize text progress frame rule captures).Alike
      (passWhile retokenize text (progress.onLine firstLine) frame rule captures) := by
  have groups := scan_groups_on_line retokenize firstLine _ _ _ _ settled
  obtain ⟨pos, oldLine, anchor, stack, output⟩ := progress
  rw [Progress.onLine, passWhile, passWhile]
  dsimp only [Groups.onLine, handleCaptures] at groups ⊢
  rw [groups]
  by_cases advanced : pos < (Pattern.wholeSpan captures).2
  · rw [if_pos advanced, if_pos advanced]
    exact ⟨false, rfl⟩
  · rw [if_neg advanced, if_neg advanced]
    exact ⟨firstLine, rfl⟩

theorem test_while_on_line (settles : ∀ call : Call, Plain (nested call) → call.Settled retokenize) (frames : List RuleStack)
    (progress : Progress) (firstLine : Bool) (plain : Plain (searchedWhile tokenizer retokenize text nested frames progress)) :
    (testWhile tokenizer retokenize text frames progress).Alike
      (testWhile tokenizer retokenize text frames (progress.onLine firstLine)) := by
  induction frames generalizing progress firstLine with
  | nil => exact ⟨firstLine, rfl⟩
  | cons frame inner ih =>
      rw [searchedWhile] at plain
      rw [testWhile, testWhile]
      cases active : frame.top.rule.rule with
      | beginWhile rule =>
          rw [active] at plain
          obtain ⟨own, later⟩ := (plain_cons _ _).mp plain
          have same : tokenizer.engine.find (frame.top.endPattern.getD rule.whilePattern) (progress.onLine firstLine).anchors
              text (progress.onLine firstLine).pos =
            tokenizer.engine.find (frame.top.endPattern.getD rule.whilePattern) progress.anchors text progress.pos :=
            Pattern.find_on_line tokenizer.engine _ progress.anchors text progress.pos firstLine own
          dsimp only
          rw [same]
          cases found : tokenizer.engine.find (frame.top.endPattern.getD rule.whilePattern) progress.anchors text
              progress.pos with
          | none => exact ⟨firstLine, rfl⟩
          | some captures =>
              rw [found] at later
              obtain ⟨calls, others⟩ := (plain_append _ _).mp later
              obtain ⟨nextLine, passed⟩ := pass_while_on_line retokenize text progress firstLine frame rule captures
                fun call isCall => settles call fun pattern listed => calls pattern (List.mem_flatMap.mpr ⟨call, isCall, listed⟩)
              dsimp only
              rw [passed]
              exact ih _ nextLine others
      | single _ => exact ih progress firstLine (by rwa [active] at plain)
      | container _ => exact ih progress firstLine (by rwa [active] at plain)
      | beginEnd _ => exact ih progress firstLine (by rwa [active] at plain)
      | invalid => exact ih progress firstLine (by rwa [active] at plain)

end Scans

end LineScope.Line

namespace LineScope.Tokenizer

variable (tokenizer : Tokenizer) (memory : Memory)

def searchedText (text : List Char) (firstLine : Bool) (stack : RuleStack) : List String :=
  let retokenize := Line.retokenizer tokenizer tokenizer.nesting
  Line.searchedWhile tokenizer retokenize text (fun call => Line.searchedScan tokenizer tokenizer.nesting call.text call.start)
      (Line.whileFrames stack)
      ⟨0, firstLine, if stack.top.beginCapturedEol then some 0 else none, stack, { memory }⟩ ++
    Line.searchedScan tokenizer (tokenizer.nesting + 1) text
      (Line.checkWhile tokenizer retokenize text firstLine stack memory)

def searched (line : List Char) (previous : Option RuleStack) : List String :=
  if tokenizer.maxLineLength.any fun limit => limit < Text.byteLength line then []
  else tokenizer.searchedText memory (line ++ ['\n']) previous.isNone (previous.getD tokenizer.initialStack)

theorem tokenize_text_on_line (text : List Char) (firstLine otherLine : Bool) (stack : RuleStack)
    (plain : Line.Plain (tokenizer.searchedText memory text firstLine stack)) :
    (tokenizer.tokenizeText memory text firstLine stack).Alike (tokenizer.tokenizeText memory text otherLine stack) := by
  obtain ⟨tests, steps⟩ := (Line.plain_append _ _).mp plain
  obtain ⟨nextLine, checked⟩ := Line.test_while_on_line tokenizer _ text _
    (Line.retokenizer_settles tokenizer tokenizer.nesting (Line.scan_on_line tokenizer tokenizer.nesting)) _ _ otherLine tests
  have same : Line.checkWhile tokenizer (Line.retokenizer tokenizer tokenizer.nesting) text otherLine stack memory =
      (Line.checkWhile tokenizer (Line.retokenizer tokenizer tokenizer.nesting) text firstLine stack memory).onLine nextLine :=
    checked
  rw [tokenizeText, tokenizeText, same]
  exact Line.scan_on_line tokenizer _ text _ nextLine steps

/-- A line without a previous stack is the first of its document; with the stack that a first line starts from it is
another. If in one of the two cases no pattern with the anchor of the first line is searched, then the two have the
same tokens and leave the same stack. -/
theorem first_line_counts_by_anchor (line : List Char)
    (plain : Line.Plain (tokenizer.searched memory line none) ∨
      Line.Plain (tokenizer.searched memory line (some tokenizer.initialStack))) :
    tokenizer.tokenizeLine memory line none = tokenizer.tokenizeLine memory line (some tokenizer.initialStack) := by
  rw [searched, searched] at plain
  rw [tokenizeLine, tokenizeLine]
  dsimp only [Option.getD_none, Option.getD_some, Option.isNone_none, Option.isNone_some] at plain ⊢
  split
  · rfl
  · rename_i short
    rw [if_neg short, if_neg short] at plain
    have same : (tokenizer.tokenizeText memory (line ++ ['\n']) true tokenizer.initialStack).output =
          (tokenizer.tokenizeText memory (line ++ ['\n']) false tokenizer.initialStack).output ∧
        (tokenizer.tokenizeText memory (line ++ ['\n']) true tokenizer.initialStack).stack =
          (tokenizer.tokenizeText memory (line ++ ['\n']) false tokenizer.initialStack).stack := by
      rcases plain with first | other
      · obtain ⟨lastLine, alike⟩ := tokenizer.tokenize_text_on_line memory _ true false _ first
        rw [alike]
        exact ⟨rfl, rfl⟩
      · obtain ⟨lastLine, alike⟩ := tokenizer.tokenize_text_on_line memory _ false true _ other
        rw [alike]
        exact ⟨rfl, rfl⟩
    rw [same.1, same.2]

section Example

-- The last pattern has the anchor, but the one before it matches wherever it is searched. The first rule fills in its
-- end pattern and has its group tokenized again.
def quoteTokenizer : Tokenizer :=
  .ofRules "quote" #[.container ⟨none, none, [.rule 1, .rule 2, .rule 3]⟩,
    .beginEnd ⟨some "quoted", none, "(a)", [(1, ⟨none, none, some 4⟩)], "\\1", [], false, [.rule 5]⟩,
    .single ⟨none, "[^x]?", []⟩, .single ⟨some "first", "\\Ac", []⟩, .container ⟨none, none, [.rule 5]⟩,
    .single ⟨some "next", "\\Gb", []⟩]

theorem quote_line_counts_by_anchor :
    let line := ['c', 'a', 'b', 'a']
    quoteTokenizer.searched {} line none =
        ["(a)", "[^x]?", "(a)", "\\Gb", "a", "\\Gb", "a", "(a)", "[^x]?", "(a)", "[^x]?"] ∧
      quoteTokenizer.tokenizeLine {} line none = quoteTokenizer.tokenizeLine {} line (some quoteTokenizer.initialStack) := by
  intro line
  have searches : quoteTokenizer.searched {} line none =
      ["(a)", "[^x]?", "(a)", "\\Gb", "a", "\\Gb", "a", "(a)", "[^x]?", "(a)", "[^x]?"] := by decide +kernel
  refine ⟨searches, first_line_counts_by_anchor quoteTokenizer {} line (.inl ?_)⟩
  rw [searches, Line.Plain]
  decide

end Example

end LineScope.Tokenizer
