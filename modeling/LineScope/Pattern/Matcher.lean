import LineScope.Pattern.Basic
import LineScope.Text.Offset

/-!
Matching by backtracking. A node is run at a position and hands every way in which it can match, in
order of preference, to what follows it; the first way that succeeds to the end counts.
-/

set_option autoImplicit false

namespace LineScope.Pattern

abbrev Span := Nat × Nat

-- The whole match, then the groups; a group that took no part has no span.
abbrev Captures := List (Option Span)

-- A position in a text and the groups captured so far. `before` holds the text up to the
-- position, last character first.
structure Position where
  before : List Char
  after : List Char
  offset : Nat
  groups : Captures
deriving DecidableEq, Repr, Inhabited

namespace Position

def advance (position : Position) : Option (Char × Position) :=
  match position.after with
  | [] => none
  | c :: rest =>
    some (c, ⟨c :: position.before, rest, position.offset + c.utf8Size, position.groups⟩)

def retreat : Nat → Position → Option Position
  | 0, position => some position
  | count + 1, position =>
    match position.before with
    | [] => none
    | c :: rest =>
      retreat count ⟨rest, c :: position.after, position.offset - c.utf8Size, position.groups⟩

def advanceOver (same : Char → Char → Bool) : List Char → Position → Option Position
  | [], position => some position
  | c :: rest, position =>
    match position.advance with
    | none => none
    | some (d, next) => if same c d then advanceOver same rest next else none

def setGroup (position : Position) (index start : Nat) : Position :=
  { position with groups := position.groups.set (index - 1) (some (start, position.offset)) }

end Position

def startsWord : List Char → Bool
  | [] => false
  | c :: _ => Text.isWord c

def Assertion.holds (searchStart : Nat) (position : Position) : Assertion → Bool
  | .lineStart =>
    match position.before with
    | [] => true
    | c :: _ => c == '\n' && !position.after.isEmpty
  | .lineEnd =>
    match position.after with
    | [] => true
    | c :: _ => c == '\n'
  | .textStart => position.before.isEmpty
  | .textEnd => position.after.isEmpty
  | .lastLineEnd => position.after.isEmpty || position.after == ['\n']
  | .searchStart => position.offset == searchStart
  | .wordBoundary => startsWord position.before != startsWord position.after
  | .insideWord => startsWord position.before == startsWord position.after

abbrev Run := Position → (Position → Option Position) → Option Position

def runChar (accepts : Char → Bool) : Run := fun position next =>
  match position.advance with
  | some (c, after) => if accepts c then next after else none
  | none => none

def runTimes (body : Run) : Nat → Run
  | 0, position, next => next position
  | count + 1, position, next => body position fun after => runTimes body count after next

-- Up to `count` more repetitions, as many as possible first. A repetition that takes no text ends
-- the loop.
def runMany (body : Run) : Nat → Run
  | 0, position, next => next position
  | count + 1, position, next =>
    match body position fun after =>
      if after.offset = position.offset then next after else runMany body count after next with
    | some result => some result
    | none => next position

def runFew (body : Run) : Nat → Run
  | 0, position, next => next position
  | count + 1, position, next =>
    match next position with
    | some result => some result
    | none =>
      body position fun after =>
        if after.offset = position.offset then next after else runFew body count after next

-- Repetitions beyond the least number. Each takes a character at least, so an unbounded loop
-- needs no more of them than there are characters.
def extraRounds (least : Nat) (most : Option Nat) (position : Position) : Nat :=
  match most with
  | some bound => min (bound - least) (position.after.length + 1)
  | none => position.after.length + 1

def runLoop (body : Run) (least : Nat) (most : Option Nat) (greed : Greed) : Run :=
  fun position next =>
    runTimes body least position fun middle =>
      match greed with
      | .greedy => runMany body (extraRounds least most middle) middle next
      | .lazy => runFew body (extraRounds least most middle) middle next
      | .possessive =>
        match runMany body (extraRounds least most middle) middle some with
        | some after => next after
        | none => none

def firstGroup (groups : Captures) : List Nat → Option Span
  | [] => none
  | index :: rest =>
    match groups.getD (index - 1) none with
    | some span => some span
    | none => firstGroup groups rest

def sameFolded (a b : Char) : Bool := Text.foldChar a == Text.foldChar b

def Node.run (text : List Char) (searchStart : Nat) : Node → Run
  | .empty => fun position next => next position
  | .char c => runChar (· == c)
  | .folded c => runChar fun d => Text.foldChar d == c
  | .set chars ignoreCase => runChar (if ignoreCase then chars.containsFolded else chars.contains)
  | .assertion condition => fun position next =>
    if condition.holds searchStart position then next position else none
  | .cat first second => fun position next =>
    first.run text searchStart position fun middle => second.run text searchStart middle next
  | .alt first second => fun position next =>
    match first.run text searchStart position next with
    | some result => some result
    | none => second.run text searchStart position next
  | .group index _ inner => fun position next =>
    inner.run text searchStart position fun after => next (after.setGroup index position.offset)
  | .loop least most greed inner => runLoop (inner.run text searchStart) least most greed
  | .atomic inner => fun position next =>
    match inner.run text searchStart position some with
    | some after => next after
    | none => none
  | .ahead negative inner => fun position next =>
    match negative, inner.run text searchStart position some with
    | false, some after => next { position with groups := after.groups }
    | true, none => next position
    | _, _ => none
  | .behind negative width inner => fun position next =>
    let found := (position.retreat width).bind fun before =>
      inner.run text searchStart before fun after =>
        if after.offset = position.offset then some after else none
    match negative, found with
    | false, some after => next { position with groups := after.groups }
    | true, none => next position
    | _, _ => none
  | .reference indices _ ignoreCase => fun position next =>
    match firstGroup position.groups indices with
    | none => none
    | some (start, stop) =>
      let same := if ignoreCase then sameFolded else fun a b => a == b
      match position.advanceOver same (Text.slice text start stop) with
      | some after => next after
      | none => none

def Program.matchAt (program : Program) (text : List Char) (searchStart : Nat)
    (position : Position) : Option Captures :=
  (program.node.run text searchStart position some).map fun final =>
    some (position.offset, final.offset) :: final.groups

def Program.matchFrom (program : Program) (text : List Char) (searchStart : Nat) :
    List Char → List Char → Nat → Option Captures
  | before, after, offset =>
    match program.matchAt text searchStart
        ⟨before, after, offset, List.replicate program.groups none⟩ with
    | some captures => some captures
    | none =>
      match after with
      | [] => none
      | c :: rest => program.matchFrom text searchStart (c :: before) rest (offset + c.utf8Size)
termination_by _ after => after.length

def Program.search (program : Program) (text : List Char) (start : Nat) : Option Captures :=
  if start ≤ Text.byteLength text then
    program.matchFrom text start (Text.takeBytes start text).reverse (Text.dropBytes start text)
      start
  else none

end LineScope.Pattern
