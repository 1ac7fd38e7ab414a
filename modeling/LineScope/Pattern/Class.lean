import LineScope.Pattern.Basic
import LineScope.Pattern.Error

set_option autoImplicit false

namespace LineScope.Pattern

def isOctalDigit (c : Char) : Bool := '0' ≤ c && c ≤ '7'

def digitValue (c : Char) : Nat :=
  if c.isDigit then c.toNat - '0'.toNat
  else if 'a' ≤ c && c ≤ 'f' then c.toNat - 'a'.toNat + 10
  else if 'A' ≤ c && c ≤ 'F' then c.toNat - 'A'.toNat + 10
  else 0

def readNumber (base : Nat) (digits : List Char) : Nat :=
  digits.foldl (fun total c => total * base + digitValue c) 0

def takeDigits (isDigit : Char → Bool) : Nat → List Char → List Char × List Char
  | 0, text => ([], text)
  | _ + 1, [] => ([], [])
  | count + 1, c :: rest =>
    if isDigit c then
      let (digits, rest) := takeDigits isDigit count rest
      (c :: digits, rest)
    else ([], c :: rest)

def charOfCode (code : Nat) : Except ParseError Char :=
  if code > 0x10ffff then .error .tooBigCharacter
  else if 0xd800 ≤ code && code < 0xe000 then .error .invalidCharacter
  else .ok (Char.ofNat code)

-- The character of a code written as one byte: one above ASCII is only part of a character.
def charOfByte (code : Nat) : Except ParseError Char :=
  if code < 0x80 then .ok (Char.ofNat code) else .error .tooShortSequence

def splitAtChar (stop : Char) : List Char → Option (List Char × List Char)
  | [] => none
  | c :: rest =>
    if c == stop then some ([], rest)
    else (splitAtChar stop rest).map fun (text, rest) => (c :: text, rest)

inductive Escape where
  | char (char : Char)
  | set (set : CharSet)
deriving Repr, Inhabited

def propertyOf (name : List Char) : Except ParseError CharSet :=
  let (negative, bare) :=
    match name with
    | '^' :: rest => (true, rest)
    | _ => (false, name)
  let key := (bare.filter fun c => !(c == ' ' || c == '-' || c == '_')).map Char.toLower
  match NamedClass.propertyNames.lookup (String.ofList key) with
  | some found => .ok (if negative then .complement (.named found) else .named found)
  | none => .error (.unknownProperty name)

-- The escapes that mean the same in a class and outside, without those that start with a digit.
-- `c` follows the backslash.
def commonEscape (c : Char) (rest : List Char) : Except ParseError (Escape × List Char) :=
  match c with
  | 'w' => .ok (.set (.named .word), rest)
  | 'W' => .ok (.set (.complement (.named .word)), rest)
  | 'd' => .ok (.set (.named .digit), rest)
  | 'D' => .ok (.set (.complement (.named .digit)), rest)
  | 's' => .ok (.set (.named .space), rest)
  | 'S' => .ok (.set (.complement (.named .space)), rest)
  | 'h' => .ok (.set (.named .xdigit), rest)
  | 'H' => .ok (.set (.complement (.named .xdigit)), rest)
  | 't' => .ok (.char '\t', rest)
  | 'n' => .ok (.char '\n', rest)
  | 'r' => .ok (.char '\r', rest)
  | 'f' => .ok (.char '\x0c', rest)
  | 'v' => .ok (.char '\x0b', rest)
  | 'a' => .ok (.char '\x07', rest)
  | 'e' => .ok (.char '\x1b', rest)
  | 'p' | 'P' =>
    match rest with
    | '\x7b' :: rest =>
      match splitAtChar '\x7d' rest with
      | none => .error (.unknownProperty rest)
      | some (name, rest) => do
        let set ← propertyOf name
        pure (.set (if c == 'P' then .complement set else set), rest)
    | _ => .ok (.char c, rest)
  | 'x' =>
    match rest with
    | '\x7b' :: inner =>
      let (digits, after) := takeDigits Text.isHexDigit 8 inner
      match after with
      | '\x7d' :: rest => do
        if digits.isEmpty then throw .tooShortDigits
        let char ← charOfCode (readNumber 16 digits)
        pure (.char char, rest)
      | _ => do
        let char ← charOfByte 0
        pure (.char char, rest)
    | _ => do
      let (digits, rest) := takeDigits Text.isHexDigit 2 rest
      let char ← charOfByte (readNumber 16 digits)
      pure (.char char, rest)
  | 'u' => do
    let (digits, rest) := takeDigits Text.isHexDigit 4 rest
    if digits.length < 4 then throw .tooShortDigits
    let char ← charOfCode (readNumber 16 digits)
    pure (.char char, rest)
  | _ => .ok (.char c, rest)

def octalEscape (digits : List Char) : Except ParseError (Escape × List Char) := do
  let (octal, rest) := takeDigits isOctalDigit 3 digits
  let code := readNumber 8 octal
  if code > 0xff then throw .tooBigNumber
  let char ← charOfByte code
  pure (.char char, rest)

def classEscape (c : Char) (rest : List Char) : Except ParseError (Escape × List Char) :=
  if c == 'b' then .ok (.char '\x08', rest)
  else if isOctalDigit c then octalEscape (c :: rest)
  else commonEscape c rest

def closesLater : List Char → Bool
  | [] => false
  | '\\' :: _ :: rest => closesLater rest
  | c :: rest => c == ']' || closesLater rest

-- The name between `[:` and `:]`, where one closes before the next closing bracket.
def bracketName : List Char → Option (List Char × List Char)
  | [] => none
  | ':' :: ']' :: rest => some ([], rest)
  | c :: rest =>
    if c == ']' then none else (bracketName rest).map fun (name, rest) => (c :: name, rest)

def bracketClass (name : List Char) : Except ParseError CharSet :=
  let (negative, bare) :=
    match name with
    | '^' :: rest => (true, rest)
    | _ => (false, name)
  match NamedClass.bracketNames.lookup (String.ofList bare) with
  | some found => .ok (if negative then .complement (.named found) else .named found)
  | none => .error .unknownBracketClass

-- How far a class has been read: at its start, after a character, after a set, after a dash that
-- starts a range, or after a complete range.
inductive ClassState where
  | start
  | char (char : Char)
  | set
  | range (first : Char)
  | complete
deriving DecidableEq, Repr, Inhabited

def addChar (state : ClassState) (items : CharSet) (c : Char) :
    Except ParseError (ClassState × CharSet) :=
  match state with
  | .range first =>
    if first.toNat ≤ c.toNat then .ok (.complete, .union items (.range first.toNat c.toNat))
    else .error .emptyRange
  | _ => .ok (.char c, .union items (.single c))

def addSet (state : ClassState) (items set : CharSet) : Except ParseError (ClassState × CharSet) :=
  match state with
  | .range _ => .error .classAtRangeEnd
  | _ => .ok (.set, .union items set)

-- A dash before the end of an operand stands for itself.
def endsOperand : List Char → Bool
  | ']' :: _ => true
  | '&' :: '&' :: _ => true
  | _ => false

def addDash (state : ClassState) (items : CharSet) (rest : List Char) :
    Except ParseError (ClassState × CharSet) :=
  match state with
  | .char c => if endsOperand rest then addChar state items '-' else .ok (.range c, items)
  | .set => if endsOperand rest then addChar state items '-' else .error .unmatchedRange
  | .start | .range _ | .complete => addChar state items '-'

mutual
def classBody : Nat → List Char → Except ParseError (CharSet × List Char)
  | 0, _ => .error .prematureClassEnd
  | fuel + 1, text => do
    let (negative, text) :=
      match text with
      | '^' :: rest => (true, rest)
      | _ => (false, text)
    let (set, rest) ←
      match text with
      | ']' :: rest =>
        if closesLater rest then do
          let (state, items) ← addChar .start .empty ']'
          classItems fuel state (.named .any) items rest
        else throw .emptyClass
      | _ => classItems fuel .start (.named .any) .empty text
    pure (if negative then .complement set else set, rest)

-- The items of a class up to its closing bracket. `limit` holds the intersection of the operands
-- already complete, and `items` the current one.
def classItems : Nat → ClassState → CharSet → CharSet → List Char →
    Except ParseError (CharSet × List Char)
  | 0, _, _, _, _ => .error .prematureClassEnd
  | _ + 1, _, _, _, [] => .error .prematureClassEnd
  | fuel + 1, state, limit, items, c :: rest => do
    match c with
    | ']' => pure (.inter limit items, rest)
    | '-' =>
      let (state, items) ← addDash state items rest
      classItems fuel state limit items rest
    | '&' =>
      match rest with
      | '&' :: rest => classItems fuel .start (.inter limit items) .empty rest
      | _ =>
        let (state, items) ← addChar state items '&'
        classItems fuel state limit items rest
    | '[' =>
      match rest with
      | ':' :: named =>
        match bracketName named with
        | some (name, rest) =>
          let set ← bracketClass name
          let (state, items) ← addSet state items set
          classItems fuel state limit items rest
        | none =>
          let (set, rest) ← classBody fuel rest
          classItems fuel .complete limit (.union items set) rest
      | _ =>
        let (set, rest) ← classBody fuel rest
        classItems fuel .complete limit (.union items set) rest
    | '\\' =>
      match rest with
      | [] => throw .endAtEscape
      | escaped :: rest =>
        let (escape, rest) ← classEscape escaped rest
        let (state, items) ←
          match escape with
          | .char c => addChar state items c
          | .set set => addSet state items set
        classItems fuel state limit items rest
    | _ =>
      let (state, items) ← addChar state items c
      classItems fuel state limit items rest
end

end LineScope.Pattern
