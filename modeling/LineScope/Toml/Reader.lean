import LineScope.Json.Writer
import LineScope.Toml.Table
import LineScope.Toml.Word

/-!
Reading TOML documents. Of the kinds of values, texts, integers, flags, arrays and inline tables
are read; a document that holds another kind is refused, like one that is malformed. Functions that
recurse take their depth of recursion as fuel; a character costs at most two calls.
-/

set_option autoImplicit false

namespace LineScope.Toml

def isBareValue (c : Char) : Bool := c.isAlphanum || c == '_' || c == '-' || c == '+' || c == '.'

def bareValue? (word : List Char) : Option Json.Value :=
  if word = "true".toList then some (.bool true)
  else if word = "false".toList then some (.bool false)
  else
    match readInteger? word with
    | some (.ofNat magnitude) => some (.ofNat magnitude)
    | some (.negSucc below) => some (.number ('-' :: Nat.toDigits 10 (below + 1)))
    | none => none

mutual
def readValue : Nat → List Char → Option (Json.Value × List Char)
  | 0, _ => none
  | fuel + 1, text =>
    match text with
    | '[' :: rest => do
      let (items, rest) ← readItems fuel rest
      pure (.array items, rest)
    | '\x7b' :: rest => do
      let (entries, rest) ← readEntries fuel .nil rest
      pure (.object entries.toMembers, rest)
    | c :: _ =>
      if (quoting? c).isSome then (readText text).map fun (content, rest) => (.text content, rest)
      else
        (bareValue? (text.takeWhile isBareValue)).map fun value =>
          (value, text.dropWhile isBareValue)
    | [] => none

def readItems : Nat → List Char → Option (Json.Items × List Char)
  | 0, _ => none
  | fuel + 1, text =>
    match skipBlanks text.length text with
    | ']' :: rest => some (.nil, rest)
    | text => do
      let (value, rest) ← readValue fuel text
      match skipBlanks rest.length rest with
      | ',' :: rest => do
        let (items, rest) ← readItems fuel rest
        pure (.cons value items, rest)
      | ']' :: rest => pure (.cons value .nil, rest)
      | _ => none

def readEntries : Nat → Entries → List Char → Option (Entries × List Char)
  | 0, _, _ => none
  | fuel + 1, entries, text =>
    match skipBlanks text.length text with
    | '\x7d' :: rest => some (entries, rest)
    | text => do
      let ((path, value), rest) ← readEntry fuel text
      let entries ← entries.putInside (path.getLast?.getD "") value path.dropLast
      match skipBlanks rest.length rest with
      | ',' :: rest => readEntries fuel entries rest
      | '\x7d' :: rest => pure (entries, rest)
      | _ => none

def readEntry : Nat → List Char → Option ((List String × Json.Value) × List Char)
  | 0, _ => none
  | fuel + 1, text => do
    let (path, rest) ← readPath (text.length + 1) text
    match skipSpaces rest with
    | '=' :: rest => do
      let (value, rest) ← readValue fuel (skipSpaces rest)
      pure ((path, value), rest)
    | _ => none
end

def readHeader (closing : List Char) (text : List Char) : Option (List String × List Char) := do
  let (path, rest) ← readPath (text.length + 1) text
  if closing.isPrefixOf rest then pure (path, rest.drop closing.length) else none

structure State where
  root : Entries := .nil
  current : List String := []

namespace State

def openHeader (state : State) (change : Option Node → Option Node) (path : List String) :
    Option State := do
  let key ← path.getLast?
  let root ← state.root.descend (fun entries => entries.update key change) path.dropLast
  pure ⟨root, path⟩

def assign (state : State) (path : List String) (value : Json.Value) : Option State := do
  let key ← path.getLast?
  let root ← state.root.descend (fun entries => entries.putInside key value path.dropLast)
    state.current
  pure { state with root }

def readLine (state : State) (text : List Char) : Option (State × List Char) :=
  match skipSpaces text with
  | '[' :: '[' :: rest => do
    let (path, rest) ← readHeader [']', ']'] rest
    let state ← state.openHeader Entries.openItem path
    pure (state, rest)
  | '[' :: rest => do
    let (path, rest) ← readHeader [']'] rest
    let state ← state.openHeader Entries.openTable path
    pure (state, rest)
  | text =>
    if text.isEmpty || text.head? = some '#' || (newline? text).isSome then some (state, text)
    else do
      let ((path, value), rest) ← readEntry (2 * text.length + 2) text
      let state ← state.assign path value
      pure (state, rest)

def readLines : Nat → State → List Char → Option State
  | 0, _, _ => none
  | _ + 1, state, [] => some state
  | fuel + 1, state, text => do
    let (state, rest) ← state.readLine text
    let rest ← endLine rest
    readLines fuel state rest

end State

def read (text : List Char) : Option Json.Members :=
  let text :=
    match text with
    | '\ufeff' :: rest => rest
    | _ => text
  (State.readLines (text.length + 1) {} text).map fun state => state.root.toMembers

end LineScope.Toml
