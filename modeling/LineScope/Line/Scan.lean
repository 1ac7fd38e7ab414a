import LineScope.Line.Candidate
import LineScope.Line.Token
import LineScope.Pattern.Reference

/-!
Scanning a line. One step takes the match that wins, produces its tokens and changes the stack; a
step that would change nothing moves over a character instead.
-/

set_option autoImplicit false

namespace LineScope.Line

def pushResolved (scopes : ScopeList) (name : Option String) (text : List Char)
    (captures : Pattern.Captures) : ScopeList :=
  match name with
  | none => scopes
  | some name => scopes.pushName (Pattern.resolveName name text captures)

abbrev Retokenizer :=
  (text : List Char) → (pos : Nat) → (firstLine : Bool) → RuleStack → Output → Output

-- Scopes of the groups that are open, innermost first, each with where it ends.
abbrev OpenGroups := List (ScopeList × Nat)

def closeBefore (start : Nat) : OpenGroups → Output → OpenGroups × Output
  | [], output => ([], output)
  | (scopes, stop) :: outer, output =>
    if stop ≤ start then closeBefore start outer (output.produce scopes stop)
    else ((scopes, stop) :: outer, output)

def closeAll : OpenGroups → Output → Output
  | [], output => output
  | (scopes, stop) :: outer, output => closeAll outer (output.produce scopes stop)

def innermost (groups : OpenGroups) (scopes : ScopeList) : ScopeList :=
  match groups with
  | [] => scopes
  | (scopes, _) :: _ => scopes

structure Groups where
  text : List Char
  firstLine : Bool
  stack : RuleStack
  captures : Pattern.Captures
deriving Repr, Inhabited

def Groups.frame (groups : Groups) (rule : Grammar.CaptureRule) (id start : Nat) : Activation :=
  let outer := groups.stack.top
  let nameScopes := pushResolved outer.contentScopes rule.name groups.text groups.captures
  { rule := ⟨outer.rule.grammar, id⟩
    enterPos := some start
    nameScopes
    contentScopes := pushResolved nameScopes rule.contentName groups.text groups.captures }

-- Produces tokens for the groups that have a rule, by ascending number. A group inside another
-- has the scopes of both; one that starts after the match ends the list.
def scanGroups (retokenize : Retokenizer) (groups : Groups) :
    Grammar.CaptureTable → OpenGroups → Output → Output
  | [], opened, output => closeAll opened output
  | (group, rule) :: rest, opened, output =>
    match groups.captures.getD group none with
    | none => scanGroups retokenize groups rest opened output
    | some (start, stop) =>
      if start = stop then scanGroups retokenize groups rest opened output
      else if (Pattern.wholeSpan groups.captures).2 < start then closeAll opened output
      else
        let outer := groups.stack.top.contentScopes
        let (opened, output) := closeBefore start opened output
        let output := output.produce (innermost opened outer) start
        match rule.retokenize, rule.name with
        | some id, _ =>
          let inner := groups.stack.push (groups.frame rule id start)
          let output :=
            retokenize (Text.takeBytes stop groups.text) start (groups.firstLine && start = 0) inner
              output
          scanGroups retokenize groups rest opened output
        | none, some name =>
          let scopes :=
            (innermost opened outer).pushName
              (Pattern.resolveName name groups.text groups.captures)
          scanGroups retokenize groups rest ((scopes, stop) :: opened) output
        | none, none => scanGroups retokenize groups rest opened output

def handleCaptures (retokenize : Retokenizer) (groups : Groups) (table : Grammar.CaptureTable)
    (output : Output) : Output :=
  scanGroups retokenize groups table [] output

-- How far a scan has come. `anchor` is where `\G` holds.
structure Progress where
  pos : Nat
  firstLine : Bool
  anchor : Option Nat
  stack : RuleStack
  output : Output
deriving Repr, Inhabited

def Progress.anchors (progress : Progress) : Pattern.Anchors :=
  ⟨progress.firstLine, progress.anchor == some progress.pos⟩

inductive Outcome where
  | finished (progress : Progress)
  | running (progress : Progress)
deriving Repr, Inhabited

def endCapturesOf : Grammar.Rule → Grammar.CaptureTable
  | .beginEnd rule => rule.endCaptures
  | _ => []

def matchCapturesOf : Grammar.Rule → Grammar.CaptureTable
  | .single rule => rule.captures
  | _ => []

def beginPartsOf : Grammar.Rule → Option (Grammar.CaptureTable × Option String × String)
  | .beginEnd rule => some (rule.beginCaptures, rule.contentName, rule.endPattern)
  | .beginWhile rule => some (rule.beginCaptures, rule.contentName, rule.whilePattern)
  | _ => none

-- What a match does to the stack, the anchor and the output, and whether it stalls: takes no text
-- and changes nothing.
structure Effect where
  anchor : Option Nat
  stack : RuleStack
  output : Output
  stalled : Bool
deriving Repr, Inhabited

-- Closes the active rule. The root is never closed, nor a rule where it was opened by an empty
-- match.
def applyEnd (retokenize : Retokenizer) (text : List Char) (progress : Progress)
    (candidate : Candidate) : Effect :=
  let stack := progress.stack
  let output := progress.output.produce stack.top.contentScopes candidate.start
  let closing := stack.withContentScopes stack.top.nameScopes
  let output :=
    handleCaptures retokenize ⟨text, progress.firstLine, closing, candidate.captures⟩
      (endCapturesOf stack.top.rule.rule) output
  let output := output.produce closing.top.contentScopes candidate.stop
  match closing.pop? with
  | some parent =>
    if progress.pos < candidate.stop || stack.top.enterPos ≠ some progress.pos then
      ⟨stack.top.anchorPos, parent, output, false⟩
    else ⟨progress.anchor, stack, output, true⟩
  | none => ⟨progress.anchor, stack, output, true⟩

def openedFrame (text : List Char) (progress : Progress) (rule : RuleRef)
    (candidate : Candidate) : Activation :=
  let scopes :=
    pushResolved progress.stack.top.contentScopes rule.rule.name text candidate.captures
  { rule
    enterPos := some progress.pos
    anchorPos := progress.anchor
    beginCapturedEol := candidate.stop = Text.byteLength text
    nameScopes := scopes
    contentScopes := scopes }

def contentFrame (text : List Char) (frame : Activation) (contentName : Option String)
    (endPattern : String) (captures : Pattern.Captures) : Activation :=
  { frame with
    contentScopes := pushResolved frame.nameScopes contentName text captures
    endPattern :=
      if Pattern.hasReferences endPattern then
        some (Pattern.resolveReferences endPattern text captures)
      else none }

-- Opens a rule, or takes a rule that matches as a whole. A rule that is opened without taking
-- text must not be open at this place already.
def applyRule (retokenize : Retokenizer) (text : List Char) (progress : Progress) (rule : RuleRef)
    (candidate : Candidate) : Effect :=
  let stack := progress.stack
  let advanced := decide (progress.pos < candidate.stop)
  let output := progress.output.produce stack.top.contentScopes candidate.start
  let frame := openedFrame text progress rule candidate
  let groups : Groups := ⟨text, progress.firstLine, stack.push frame, candidate.captures⟩
  match beginPartsOf rule.rule with
  | some (captures, contentName, endPattern) =>
    let output := handleCaptures retokenize groups captures output
    let output := output.produce frame.contentScopes candidate.stop
    let content := contentFrame text frame contentName endPattern candidate.captures
    if !advanced && RuleStack.entersAgain content stack.frames then
      ⟨some candidate.stop, stack, output, true⟩
    else ⟨some candidate.stop, stack.push content, output, false⟩
  | none =>
    let output := handleCaptures retokenize groups (matchCapturesOf rule.rule) output
    let output := output.produce frame.contentScopes candidate.stop
    ⟨progress.anchor, stack, output, !advanced⟩

def Progress.finish (progress : Progress) (text : List Char) : Progress :=
  { progress with
    output := progress.output.produce progress.stack.top.contentScopes (Text.byteLength text) }

def forceProgress (text : List Char) (progress : Progress) : Outcome :=
  match Text.dropBytes progress.pos text with
  | [] => .finished (progress.finish text)
  | c :: _ =>
    let pos := progress.pos + c.utf8Size
    .running { progress with
      pos
      firstLine := false
      output := progress.output.produce progress.stack.top.contentScopes pos }

def effectOf (retokenize : Retokenizer) (text : List Char) (progress : Progress)
    (candidate : Candidate) : Effect :=
  match candidate.winner with
  | .ending => applyEnd retokenize text progress candidate
  | .rule rule => applyRule retokenize text progress rule candidate

def applyCandidate (retokenize : Retokenizer) (text : List Char) (progress : Progress)
    (candidate : Candidate) : Outcome :=
  let effect := effectOf retokenize text progress candidate
  let next : Progress :=
    { progress with anchor := effect.anchor, stack := effect.stack, output := effect.output }
  if effect.stalled then forceProgress text next
  else if progress.pos < candidate.stop then
    .running { next with pos := candidate.stop, firstLine := false }
  else .running next

def memoryAfter (tokenizer : Tokenizer) (search : Search) (stack : RuleStack) (memory : Memory) :
    Memory :=
  let sets := memory.patternSet tokenizer.library tokenizer.grammar
  (asked tokenizer sets search stack).foldl
    (fun memory (mode, rule) => memory.rememberSet tokenizer.library tokenizer.grammar mode rule)
    memory

def scanStep (tokenizer : Tokenizer) (retokenize : Retokenizer) (text : List Char)
    (progress : Progress) : Outcome :=
  let search : Search := ⟨text, progress.pos, progress.anchors⟩
  let memory := progress.output.memory
  let candidate :=
    findCandidate tokenizer (memory.patternSet tokenizer.library tokenizer.grammar) search
      progress.stack
  let output :=
    { progress.output with memory := memoryAfter tokenizer search progress.stack memory }
  match candidate with
  | none => .finished ({ progress with output }.finish text)
  | some candidate => applyCandidate retokenize text { progress with output } candidate

def scanSteps (tokenizer : Tokenizer) (retokenize : Retokenizer) (text : List Char) :
    Nat → Progress → Progress
  | 0, progress => progress.finish text
  | rounds + 1, progress =>
    match scanStep tokenizer retokenize text progress with
    | .finished progress => progress
    | .running progress => scanSteps tokenizer retokenize text rounds progress

def ruleTotal (tokenizer : Tokenizer) (stack : RuleStack) : Nat :=
  tokenizer.library.ruleCount + tokenizer.grammar.ruleCount +
    Grammar.totalRules (stack.frames.map fun frame => frame.rule.grammar) +
    Grammar.totalRules (tokenizer.injections.map fun injection => injection.rule.grammar)

-- Steps enough for a text: at one place, frames opened elsewhere are closed and each rule is
-- opened once at most, and then the scan moves on.
def stepBudget (tokenizer : Tokenizer) (text : List Char) (stack : RuleStack) : Nat :=
  let places := text.length + 2
  places * (stack.frames.length + places * (ruleTotal tokenizer stack + 1) + 2)

def scan (tokenizer : Tokenizer) : Nat → List Char → Progress → Progress
  | 0, text, progress => progress.finish text
  | nesting + 1, text, progress =>
    let retokenize : Retokenizer := fun text pos firstLine stack output =>
      (scan tokenizer nesting text ⟨pos, firstLine, none, stack, output⟩).output
    scanSteps tokenizer retokenize text (stepBudget tokenizer text progress.stack) progress

def retokenizer (tokenizer : Tokenizer) (nesting : Nat) : Retokenizer :=
  fun text pos firstLine stack output =>
    (scan tokenizer nesting text ⟨pos, firstLine, none, stack, output⟩).output

end LineScope.Line
