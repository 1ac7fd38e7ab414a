import LineScope.Pattern.Matcher
import LineScope.Text.CaseMapping

/-!
Texts that refer to the groups of a match: end patterns, in which `\n` stands for the escaped text
of a group, and names, in which `$n`, `${n:/downcase}` and `${n:/upcase}` stand for it.
-/

set_option autoImplicit false

namespace LineScope.Pattern

def isSpecial (c : Char) : Bool :=
  "-\\\x7b\x7d*+?|^$.,[]()#".toList.contains c || Text.isBlank c

def escape : List Char → List Char
  | [] => []
  | c :: rest => if isSpecial c then '\\' :: c :: escape rest else c :: escape rest

-- The number that a run of digits stands for, if it is written in ASCII and fits 64 bits.
def groupNumber? (digits : List Char) : Option Nat :=
  if digits.isEmpty || !digits.all Char.isDigit then none
  else
    let number := digits.foldl (fun total c => total * 10 + (c.toNat - '0'.toNat)) 0
    if number < UInt64.size then some number else none

def groupText? (text : List Char) (captures : Captures) (digits : List Char) :
    Option (List Char) :=
  match groupNumber? digits with
  | none => none
  | some index =>
    match captures.getD index none with
    | none => none
    | some (start, stop) => some (Text.slice text start stop)

-- A text cut into what stands for itself and the runs of digits that follow a mark.
inductive Piece where
  | plain (char : Char)
  | number (digits : List Char)
deriving DecidableEq, Repr, Inhabited

-- Groups the digits that follow a backslash. `pending` holds the digits read so far, last first,
-- once a backslash and a digit have been read.
def referencePieces : Option (List Char) → List Char → List Piece
  | none, '\\' :: c :: rest =>
    if Text.isDecimalDigit c then referencePieces (some [c]) rest
    else .plain '\\' :: referencePieces none (c :: rest)
  | none, c :: rest => .plain c :: referencePieces none rest
  | none, [] => []
  | some digits, c :: rest =>
    if Text.isDecimalDigit c then referencePieces (some (c :: digits)) rest
    else .number digits.reverse :: referencePieces none (c :: rest)
  | some digits, [] => [.number digits.reverse]
termination_by pending rest => 2 * rest.length + if pending.isSome then 1 else 0

def pieces (source : List Char) : List Piece := referencePieces none source

def Piece.isReference : Piece → Bool
  | .plain _ => false
  | .number _ => true

def hasReferences (source : String) : Bool := (pieces source.toList).any Piece.isReference

def resolveReferences (source : String) (text : List Char) (captures : Captures) : String :=
  String.ofList <| (pieces source.toList).flatMap fun
    | .plain c => [c]
    | .number digits => escape ((groupText? text captures digits).getD [])

inductive CaseChange where
  | keep
  | lower
  | upper
deriving DecidableEq, Repr, Inhabited

def CaseChange.apply : CaseChange → List Char → List Char
  | .keep, text => text
  | .lower, text => Text.toLower text
  | .upper, text => Text.toUpper text

def stripStart? : List Char → List Char → Option (List Char)
  | [], text => some text
  | c :: start, d :: text => if c == d then stripStart? start text else none
  | _ :: _, [] => none

def caseChange? (text : List Char) : Option (CaseChange × List Char) :=
  match stripStart? ":/downcase\x7d".toList text with
  | some rest => some (.lower, rest)
  | none => (stripStart? ":/upcase\x7d".toList text).map fun rest => (.upper, rest)

def nameReference? (text : List Char) : Option (List Char × CaseChange × List Char) :=
  match text with
  | '\x7b' :: rest =>
    let digits := rest.takeWhile Text.isDecimalDigit
    if digits.isEmpty then none
    else (caseChange? (rest.dropWhile Text.isDecimalDigit)).map fun (change, rest) =>
      (digits, change, rest)
  | _ =>
    let digits := text.takeWhile Text.isDecimalDigit
    if digits.isEmpty then none else some (digits, .keep, text.dropWhile Text.isDecimalDigit)

-- Expands the references of a name, in at most `fuel` steps. Leading dots of a group's text are
-- dropped; a reference to a group without text is left as it is written.
def expandName (text : List Char) (captures : Captures) : Nat → List Char → List Char
  | 0, template => template
  | _ + 1, [] => []
  | fuel + 1, c :: rest =>
    if c == '$' then
      match nameReference? rest with
      | none => '$' :: expandName text captures fuel rest
      | some (digits, change, after) =>
        match groupText? text captures digits with
        | some found =>
          change.apply (found.dropWhile (· == '.')) ++ expandName text captures fuel after
        | none =>
          '$' :: rest.take (rest.length - after.length) ++ expandName text captures fuel after
    else c :: expandName text captures fuel rest

def resolveName (template : String) (text : List Char) (captures : Captures) : String :=
  String.ofList (expandName text captures template.length template.toList)

end LineScope.Pattern
