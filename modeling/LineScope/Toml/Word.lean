import LineScope.Json.Reader

set_option autoImplicit false

namespace LineScope.Toml

def isSpace (c : Char) : Bool := c == ' ' || c == '\t'

def skipSpaces (text : List Char) : List Char := text.dropWhile isSpace

def isPlain (c : Char) : Bool := c == '\t' || (0x20 ≤ c.toNat && c.toNat != 0x7f)

def newline? : List Char → Option (List Char)
  | '\n' :: rest => some rest
  | '\r' :: '\n' :: rest => some rest
  | _ => none

def dropNewline (text : List Char) : List Char := (newline? text).getD text

def skipComment (text : List Char) : List Char :=
  match skipSpaces text with
  | '#' :: rest => rest.dropWhile isPlain
  | rest => rest

def skipBlanks : Nat → List Char → List Char
  | 0, text => text
  | fuel + 1, text =>
    let rest := skipComment text
    match newline? rest with
    | some next => skipBlanks fuel next
    | none => rest

def endLine (text : List Char) : Option (List Char) :=
  match skipComment text with
  | [] => some []
  | rest => newline? rest

def codePoint? (code : Nat) : Option Char :=
  if code < 0xd800 || (0xe000 ≤ code && code < 0x110000) then some (Char.ofNat code) else none

def hexNumber? : Nat → List Char → Option Nat
  | total, [] => some total
  | total, c :: rest => do
    let digit ← Json.hexValue? c
    hexNumber? (total * 16 + digit) rest

def readCodePoint (count : Nat) (text : List Char) : Option (Char × List Char) := do
  let digits := text.take count
  if digits.length < count then none
  let code ← hexNumber? 0 digits
  let char ← codePoint? code
  pure (char, text.drop count)

def readEscape : List Char → Option (Char × List Char)
  | [] => none
  | c :: rest =>
    match c with
    | 'b' => some ('\x08', rest)
    | 't' => some ('\t', rest)
    | 'n' => some ('\n', rest)
    | 'f' => some ('\x0c', rest)
    | 'r' => some ('\r', rest)
    | 'e' => some ('\x1b', rest)
    | '"' => some ('"', rest)
    | '\\' => some ('\\', rest)
    | 'x' => readCodePoint 2 rest
    | 'u' => readCodePoint 4 rest
    | 'U' => readCodePoint 8 rest
    | _ => none

inductive Quoting where
  | basic
  | literal
deriving DecidableEq, Repr, Inhabited

def Quoting.mark : Quoting → Char
  | .basic => '"'
  | .literal => '\x27'

def lineText (quoting : Quoting) : Nat → List Char → List Char → Option (String × List Char)
  | 0, _, _ => none
  | _ + 1, _, [] => none
  | fuel + 1, reversed, c :: rest =>
    if c == quoting.mark then some (String.ofList reversed.reverse, rest)
    else if c == '\\' && quoting = .basic then do
      let (char, rest) ← readEscape rest
      lineText quoting fuel (char :: reversed) rest
    else if isPlain c then lineText quoting fuel (c :: reversed) rest
    else none

-- A backslash at the end of a line joins the next characters that are not blank.
def joinLines (text : List Char) : Option (List Char) :=
  (newline? (skipSpaces text)).map fun rest =>
    rest.dropWhile fun c => isSpace c || c == '\n' || c == '\r'

-- The rest of a text of several lines. Two marks at most may stand before the three that end it.
def blockText (quoting : Quoting) : Nat → List Char → List Char → Option (String × List Char)
  | 0, _, _ => none
  | _ + 1, _, [] => none
  | fuel + 1, reversed, c :: rest =>
    let marks := (c :: rest).takeWhile (· == quoting.mark)
    if 3 ≤ marks.length then
      let inside := min (marks.length - 3) 2
      some (String.ofList (reversed.reverse ++ marks.take inside), (c :: rest).drop (inside + 3))
    else if c == '\\' && quoting = .basic then
      match joinLines rest with
      | some rest => blockText quoting fuel reversed rest
      | none => do
        let (char, rest) ← readEscape rest
        blockText quoting fuel (char :: reversed) rest
    else if isPlain c then blockText quoting fuel (c :: reversed) rest
    else
      match newline? (c :: rest) with
      | some rest => blockText quoting fuel ('\n' :: reversed) rest
      | none => none

def quoting? (c : Char) : Option Quoting :=
  [Quoting.basic, .literal].find? (·.mark == c)

def readText (text : List Char) : Option (String × List Char) :=
  match text with
  | [] => none
  | c :: rest =>
    match quoting? c with
    | none => none
    | some quoting =>
      match rest with
      | second :: third :: inside =>
        if second == c && third == c then
          blockText quoting (text.length + 1) [] (dropNewline inside)
        else lineText quoting (text.length + 1) [] rest
      | _ => lineText quoting (text.length + 1) [] rest

def isBareKey (c : Char) : Bool := c.isAlphanum || c == '_' || c == '-'

def readKey (text : List Char) : Option (String × List Char) :=
  match text with
  | [] => none
  | c :: rest =>
    match quoting? c with
    | some quoting => lineText quoting (text.length + 1) [] rest
    | none =>
      let bare := text.takeWhile isBareKey
      if bare.isEmpty then none else some (String.ofList bare, text.dropWhile isBareKey)

def readPath : Nat → List Char → Option (List String × List Char)
  | 0, _ => none
  | fuel + 1, text => do
    let (key, rest) ← readKey (skipSpaces text)
    match skipSpaces rest with
    | '.' :: rest => do
      let (path, rest) ← readPath fuel rest
      pure (key :: path, rest)
    | rest => pure ([key], rest)

def readDigits? (digit? : Char → Option Nat) (base : Nat) : Option Nat → List Char → Option Nat
  | total, [] => total
  | none, c :: rest => do
    let digit ← digit? c
    readDigits? digit? base (some digit) rest
  | some total, '_' :: c :: rest => do
    let digit ← digit? c
    readDigits? digit? base (some (total * base + digit)) rest
  | some total, c :: rest => do
    let digit ← digit? c
    readDigits? digit? base (some (total * base + digit)) rest

def digitBelow? (base : Nat) (c : Char) : Option Nat :=
  (Json.hexValue? c).filter (· < base)

def readDecimal? : List Char → Option Nat
  | ['0'] => some 0
  | '0' :: _ => none
  | digits => readDigits? (digitBelow? 10) 10 none digits

def readInteger? : List Char → Option Int
  | '0' :: 'x' :: digits => (readDigits? (digitBelow? 16) 16 none digits).map Int.ofNat
  | '0' :: 'o' :: digits => (readDigits? (digitBelow? 8) 8 none digits).map Int.ofNat
  | '0' :: 'b' :: digits => (readDigits? (digitBelow? 2) 2 none digits).map Int.ofNat
  | '+' :: digits => (readDecimal? digits).map Int.ofNat
  | '-' :: digits => (readDecimal? digits).map fun magnitude => -(magnitude : Int)
  | digits => (readDecimal? digits).map Int.ofNat

end LineScope.Toml
