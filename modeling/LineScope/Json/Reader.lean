import LineScope.Json.Basic
import LineScope.Text.Offset

set_option autoImplicit false

namespace LineScope.Json

def isBlank (c : Char) : Bool := c == ' ' || c == '\n' || c == '\t' || c == '\r'

def skipBlanks (text : List Char) : List Char := text.dropWhile isBlank

inductive StringRead where
  | text (text : Option String) (rest : List Char)
  | fault (kept skipped : Fault)
deriving Repr, Inhabited

def hexValue? (c : Char) : Option Nat :=
  if c.isDigit then some (c.toNat - '0'.toNat)
  else if 'a' ≤ c && c ≤ 'f' then some (c.toNat - 'a'.toNat + 10)
  else if 'A' ≤ c && c ≤ 'F' then some (c.toNat - 'A'.toNat + 10)
  else none

-- The unit that four digits spell. A text of fewer than four bytes ends too early, whatever it
-- holds.
def hexUnit (text : List Char) : Except Fault (Nat × List Char) :=
  match text with
  | a :: b :: c :: d :: rest =>
    match hexValue? a, hexValue? b, hexValue? c, hexValue? d with
    | some a, some b, some c, some d => .ok (((a * 16 + b) * 16 + c) * 16 + d, rest)
    | _, _, _, _ => .error .malformed
  | _ => if Text.byteLength text < 4 then .error .truncated else .error .malformed

def simpleEscape? : Char → Option Char
  | '"' => some '"'
  | '\\' => some '\\'
  | '/' => some '/'
  | 'b' => some '\x08'
  | 'f' => some '\x0c'
  | 'n' => some '\n'
  | 'r' => some '\r'
  | 't' => some '\t'
  | _ => none

-- The fault of a kept string is met at the first half of a character that lacks its other half.
def keptFault (decoded : Option (List Char)) (fault : Fault) : Fault :=
  if decoded.isSome then fault else .malformed

inductive LowHalf where
  | found (unit : Nat) (rest : List Char)
  | missing
  | fault (fault : Fault)
deriving Repr, Inhabited

def lowHalf (text : List Char) : LowHalf :=
  match text with
  | [] => .fault .truncated
  | ['\\'] => .fault .truncated
  | '\\' :: 'u' :: rest =>
    match hexUnit rest with
    | .error fault => .fault fault
    | .ok (unit, rest) => if 0xdc00 ≤ unit && unit < 0xe000 then .found unit rest else .missing
  | _ => .missing

-- The characters of a string up to its closing quote. `decoded` holds those read so far, last
-- first, unless one of them is only half there.
def stringFrom : Nat → Option (List Char) → List Char → StringRead
  | 0, decoded, _ => .fault (keptFault decoded .truncated) .truncated
  | _ + 1, decoded, [] => .fault (keptFault decoded .truncated) .truncated
  | fuel + 1, decoded, c :: rest =>
    let broken (fault : Fault) : StringRead := .fault (keptFault decoded fault) fault
    if c == '"' then .text (decoded.map fun reversed => String.ofList reversed.reverse) rest
    else if c.toNat < 0x20 then broken .malformed
    else if c == '\\' then
      match rest with
      | [] => broken .truncated
      | 'u' :: rest =>
        match hexUnit rest with
        | .error fault => broken fault
        | .ok (unit, rest) =>
          if 0xd800 ≤ unit && unit < 0xdc00 then
            match lowHalf rest with
            | .found low rest =>
              let code := 0x10000 + (unit - 0xd800) * 0x400 + (low - 0xdc00)
              stringFrom fuel (decoded.map (Char.ofNat code :: ·)) rest
            | .missing => stringFrom fuel none rest
            | .fault fault =>
              match stringFrom fuel none rest with
              | .fault _ skipped => .fault (keptFault decoded fault) skipped
              | .text _ rest => .text none rest
          else if 0xdc00 ≤ unit && unit < 0xe000 then stringFrom fuel none rest
          else stringFrom fuel (decoded.map (Char.ofNat unit :: ·)) rest
      | escaped :: rest =>
        match simpleEscape? escaped with
        | some char => stringFrom fuel (decoded.map (char :: ·)) rest
        | none => broken .malformed
    else stringFrom fuel (decoded.map (c :: ·)) rest

def readString (text : List Char) : StringRead := stringFrom (text.length + 1) (some []) text

def readDigits (text : List Char) : Except Fault (List Char × List Char) :=
  match text with
  | [] => .error .truncated
  | c :: _ =>
    if c.isDigit then .ok (text.takeWhile Char.isDigit, text.dropWhile Char.isDigit)
    else .error .malformed

def readInteger (text : List Char) : Except Fault (List Char × List Char) :=
  match text with
  | '0' :: rest =>
    match rest with
    | c :: _ => if c.isDigit then .error .malformed else .ok (['0'], rest)
    | [] => .ok (['0'], rest)
  | _ => readDigits text

def readFraction (text : List Char) : Except Fault (List Char × List Char) :=
  match text with
  | '.' :: rest => do
    let (digits, rest) ← readDigits rest
    pure ('.' :: digits, rest)
  | _ => .ok ([], text)

def readExponent (text : List Char) : Except Fault (List Char × List Char) :=
  match text with
  | c :: rest =>
    if c == 'e' || c == 'E' then
      let (sign, rest) :=
        match rest with
        | '+' :: rest => (['+'], rest)
        | '-' :: rest => (['-'], rest)
        | _ => ([], rest)
      do
        let (digits, rest) ← readDigits rest
        pure (c :: sign ++ digits, rest)
    else .ok ([], text)
  | [] => .ok ([], text)

def readNumber (text : List Char) : Except Fault (List Char × List Char) := do
  let (sign, text) :=
    match text with
    | '-' :: rest => (['-'], rest)
    | _ => ([], text)
  let (integer, text) ← readInteger text
  let (fraction, text) ← readFraction text
  let (exponent, text) ← readExponent text
  pure (sign ++ integer ++ fraction ++ exponent, text)

def readWord : List Char → List Char → Except Fault (List Char)
  | [], text => .ok text
  | _ :: _, [] => .error .truncated
  | c :: word, d :: text => if c == d then readWord word text else .error .malformed

-- The rest of the text after a value, as long as nothing is wrong with it.
abbrev Rest := Option (List Char)

def valueOfWord (value : Value) (read : Except Fault (List Char)) : Value × Rest :=
  match read with
  | .ok rest => (value, some rest)
  | .error fault => (.fault fault fault, none)

mutual
def readValue : Nat → List Char → Value × Rest
  | 0, _ => (.fault .truncated .truncated, none)
  | fuel + 1, text =>
    match skipBlanks text with
    | [] => (.fault .truncated .truncated, none)
    | '"' :: rest =>
      match readString rest with
      | .text text rest => (.text text, some rest)
      | .fault kept skipped => (.fault kept skipped, none)
    | '[' :: rest =>
      let (items, rest) := readItems fuel true rest
      (.array items, rest)
    | '\x7b' :: rest =>
      let (members, rest) := readMembers fuel true rest
      (.object members, rest)
    | 'n' :: rest => valueOfWord .null (readWord "ull".toList rest)
    | 't' :: rest => valueOfWord (.bool true) (readWord "rue".toList rest)
    | 'f' :: rest => valueOfWord (.bool false) (readWord "alse".toList rest)
    | c :: rest =>
      if c == '-' || c.isDigit then
        match readNumber (c :: rest) with
        | .ok (literal, rest) => (.number literal, some rest)
        | .error fault => (.fault fault fault, none)
      else (.fault .malformed .malformed, none)

def readItems : Nat → Bool → List Char → Items × Rest
  | 0, _, _ => (.fault .truncated, none)
  | fuel + 1, isFirst, text =>
    match skipBlanks text with
    | [] => (.fault .truncated, none)
    | ']' :: rest => (.nil, some rest)
    | c :: rest =>
      if isFirst then readItem fuel (c :: rest)
      else if c == ',' then
        match skipBlanks rest with
        | [] => (.fault .truncated, none)
        | ']' :: _ => (.fault .malformed, none)
        | next => readItem fuel next
      else (.fault .malformed, none)

def readItem : Nat → List Char → Items × Rest
  | 0, _ => (.fault .truncated, none)
  | fuel + 1, text =>
    match readValue fuel text with
    | (value, some rest) =>
      let (items, rest) := readItems fuel false rest
      (.cons value items, rest)
    | (value, none) => (.cons value .nil, none)

def readMembers : Nat → Bool → List Char → Members × Rest
  | 0, _, _ => (.fault .truncated .truncated, none)
  | fuel + 1, isFirst, text =>
    match skipBlanks text with
    | [] => (.fault .truncated .truncated, none)
    | '\x7d' :: rest => (.nil, some rest)
    | c :: rest =>
      if isFirst then readMember fuel (c :: rest)
      else if c == ',' then readMember fuel (skipBlanks rest)
      else (.fault .malformed .malformed, none)

def readMember : Nat → List Char → Members × Rest
  | 0, _ => (.fault .truncated .truncated, none)
  | _ + 1, [] => (.fault .truncated .truncated, none)
  | fuel + 1, c :: rest =>
    if c == '"' then
      match readString rest with
      | .fault kept skipped => (.fault kept skipped, none)
      | .text key rest =>
        match skipBlanks rest with
        | [] => (.cons key (.fault .truncated .truncated) .nil, none)
        | ':' :: rest =>
          match readValue fuel rest with
          | (value, some rest) =>
            let (members, rest) := readMembers fuel false rest
            (.cons key value members, rest)
          | (value, none) => (.cons key value .nil, none)
        | _ => (.cons key (.fault .malformed .malformed) .nil, none)
    else (.fault .malformed .malformed, none)
end

def read (text : List Char) : Document :=
  match readValue (4 * text.length + 4) text with
  | (value, none) => ⟨value, false⟩
  | (value, some rest) => ⟨value, !(skipBlanks rest).isEmpty⟩

end LineScope.Json
