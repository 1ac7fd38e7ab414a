import LineScope.Line.Scan

set_option autoImplicit false

namespace LineScope.Line

def passWhile (retokenize : Retokenizer) (text : List Char) (progress : Progress)
    (frame : RuleStack) (rule : Grammar.BeginWhileRule) (captures : Pattern.Captures) : Progress :=
  let (start, stop) := Pattern.wholeSpan captures
  let output := progress.output.produce frame.top.contentScopes start
  let output :=
    handleCaptures retokenize ⟨text, progress.firstLine, frame, captures⟩ rule.whileCaptures output
  let output := output.produce frame.top.contentScopes stop
  let passed := { progress with anchor := some stop, output }
  if progress.pos < stop then { passed with pos := stop, firstLine := false } else passed

def testWhile (tokenizer : Tokenizer) (retokenize : Retokenizer) (text : List Char) :
    List RuleStack → Progress → Progress
  | [], progress => progress
  | frame :: inner, progress =>
    match frame.top.rule.rule with
    | .beginWhile rule =>
      let pattern := frame.top.endPattern.getD rule.whilePattern
      match tokenizer.engine.find pattern progress.anchors text progress.pos with
      | none => { progress with stack := frame.safePop }
      | some captures =>
        testWhile tokenizer retokenize text inner
          (passWhile retokenize text progress frame rule captures)
    | _ => testWhile tokenizer retokenize text inner progress

def whileFrames (stack : RuleStack) : List RuleStack :=
  (stack.ancestors.filter fun frame => frame.top.rule.rule.isBeginWhile).reverse

def checkWhile (tokenizer : Tokenizer) (retokenize : Retokenizer) (text : List Char)
    (firstLine : Bool) (stack : RuleStack) (memory : Memory) : Progress :=
  testWhile tokenizer retokenize text (whileFrames stack)
    ⟨0, firstLine, if stack.top.beginCapturedEol then some 0 else none, stack, { memory }⟩

end LineScope.Line
