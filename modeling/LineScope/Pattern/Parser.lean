import LineScope.Pattern.Class

/-!
Reading a pattern. The text is read from left to right into a tree; then groups are numbered,
references checked, and the widths of look-behinds computed.

When a pattern has a named group, groups without a name do not capture, and references go by name.
The recursive functions take their depth of recursion as fuel; a character costs at most four calls.
-/

set_option autoImplicit false

namespace LineScope.Pattern

structure Options where
  ignoreCase : Bool := false
  extended : Bool := false
  dotAll : Bool := false
deriving DecidableEq, Repr, Inhabited

structure Reader where
  rest : List Char
  opened : Nat
  names : List (List Char × Nat)
deriving Repr, Inhabited

inductive Skipping where
  | nothing
  | lineComment
  | groupComment
deriving DecidableEq, Repr, Inhabited

def isFreeBlank (c : Char) : Bool := Text.isAsciiBlank c

def skipIgnored (extended : Bool) : Skipping → List Char → Except ParseError (List Char)
  | .nothing, '(' :: '?' :: '#' :: rest => skipIgnored extended .groupComment rest
  | .nothing, c :: rest =>
    if extended && isFreeBlank c then skipIgnored extended .nothing rest
    else if extended && c == '#' then skipIgnored extended .lineComment rest
    else .ok (c :: rest)
  | .lineComment, '\n' :: rest => skipIgnored extended .nothing rest
  | .lineComment, _ :: rest => skipIgnored extended .lineComment rest
  | .groupComment, '\\' :: _ :: rest => skipIgnored extended .groupComment rest
  | .groupComment, ')' :: rest => skipIgnored extended .nothing rest
  | .groupComment, _ :: rest => skipIgnored extended .groupComment rest
  | .groupComment, [] => .error .endInGroup
  | _, [] => .ok []

structure Quantifier where
  least : Nat
  most : Option Nat
  greed : Greed
deriving DecidableEq, Repr, Inhabited

def repeatLimit : Nat := 100000

def greedSign : List Char → Greed × List Char
  | '?' :: rest => (.lazy, rest)
  | '+' :: rest => (.possessive, rest)
  | rest => (.greedy, rest)

-- A repetition with bounds. One exact bound takes no sign; bounds in the wrong order are swapped
-- and repeat possessively.
def boundedQuantifier (least : Nat) (most : Option Nat) (exact : Bool) (rest : List Char) :
    Quantifier × List Char :=
  match most with
  | some upper =>
    if upper < least then (⟨upper, some least, .possessive⟩, rest)
    else
      match exact, rest with
      | false, '?' :: rest => (⟨least, most, .lazy⟩, rest)
      | _, _ => (⟨least, most, .greedy⟩, rest)
  | none =>
    match rest with
    | '?' :: rest => (⟨least, none, .lazy⟩, rest)
    | _ => (⟨least, none, .greedy⟩, rest)

-- The interval whose opening brace has been read, or nothing if the brace stands for itself.
def interval (text : List Char) : Except ParseError (Option (Quantifier × List Char)) := do
  let lower := text.takeWhile Char.isDigit
  let afterLower := text.dropWhile Char.isDigit
  let least := readNumber 10 lower
  if least > repeatLimit then throw .repeatTooBig
  match afterLower with
  | ',' :: afterComma =>
    let upper := afterComma.takeWhile Char.isDigit
    let most := readNumber 10 upper
    if most > repeatLimit then throw .repeatTooBig
    match afterComma.dropWhile Char.isDigit with
    | '\x7d' :: rest =>
      if upper.isEmpty then
        if lower.isEmpty then pure none
        else pure (some (boundedQuantifier least none false rest))
      else pure (some (boundedQuantifier least (some most) false rest))
    | _ => pure none
  | '\x7d' :: rest =>
    if lower.isEmpty then pure none
    else pure (some (boundedQuantifier least (some least) true rest))
  | _ => pure none

def quantifier (text : List Char) : Except ParseError (Option (Quantifier × List Char)) :=
  match text with
  | '*' :: rest =>
    let (greed, rest) := greedSign rest
    .ok (some (⟨0, none, greed⟩, rest))
  | '+' :: rest =>
    let (greed, rest) := greedSign rest
    .ok (some (⟨1, none, greed⟩, rest))
  | '?' :: rest =>
    let (greed, rest) := greedSign rest
    .ok (some (⟨0, some 1, greed⟩, rest))
  | '\x7b' :: rest => interval rest
  | _ => .ok none

def quantify (options : Options) : Nat → Node → List Char → Except ParseError (Node × List Char)
  | 0, node, rest => .ok (node, rest)
  | fuel + 1, node, rest => do
    let rest ← skipIgnored options.extended .nothing rest
    match ← quantifier rest with
    | none => pure (node, rest)
    | some (found, rest) =>
      if node.isAnchor then throw .repeatTargetInvalid
      quantify options fuel (.loop found.least found.most found.greed node) rest

def literal (options : Options) (c : Char) : Node :=
  if options.ignoreCase then .folded (Text.foldChar c) else .char c

def isNameChar (c : Char) : Bool := Text.isWord c

def groupName (stop : Char) (text : List Char) : Except ParseError (List Char × List Char) :=
  match splitAtChar stop text with
  | none => .error (if text.isEmpty then .emptyGroupName else .invalidGroupName text)
  | some ([], _) => .error .emptyGroupName
  | some (c :: name, rest) =>
    if c.isDigit || !isNameChar c then .error (.invalidGroupName (c :: name))
    else if name.all isNameChar then .ok (c :: name, rest)
    else .error (.invalidGroupNameChar (c :: name))

def namedReference (options : Options) (stop : Char) (reader : Reader) (text : List Char) :
    Except ParseError (Node × Reader) := do
  let (name, rest) ←
    match splitAtChar stop text with
    | none => throw (if text.isEmpty then .emptyGroupName else .invalidGroupName text)
    | some ([], _) => throw .emptyGroupName
    | some found => pure found
  let reader := { reader with rest := rest }
  let numbered (index : Nat) : Except ParseError (Node × Reader) :=
    if index = 0 then .error .invalidReference
    else .ok (.reference [index] false options.ignoreCase, reader)
  match name with
  | '-' :: digits =>
    if digits.isEmpty || !digits.all Char.isDigit then throw (.invalidGroupName name)
    numbered (reader.opened + 1 - readNumber 10 digits)
  | _ =>
    if name.all Char.isDigit then numbered (readNumber 10 name)
    else
      match (reader.names.filter (·.1 = name)).map Prod.snd with
      | [] => throw (.undefinedName name)
      | indices => pure (.reference indices.reverse true options.ignoreCase, reader)

def escapeNode (options : Options) (reader : Reader) (c : Char) (rest : List Char) :
    Except ParseError (Node × Reader) :=
  let assertion (assertion : Assertion) : Except ParseError (Node × Reader) :=
    .ok (.assertion assertion, { reader with rest := rest })
  let escaped (result : Except ParseError (Escape × List Char)) :
      Except ParseError (Node × Reader) := do
    let (escape, rest) ← result
    match escape with
    | .char c => pure (literal options c, { reader with rest := rest })
    | .set set => pure (.set set false, { reader with rest := rest })
  match c with
  | 'A' => assertion .textStart
  | 'z' => assertion .textEnd
  | 'Z' => assertion .lastLineEnd
  | 'G' => assertion .searchStart
  | 'b' => assertion .wordBoundary
  | 'B' => assertion .insideWord
  | 'k' =>
    match rest with
    | '<' :: rest => namedReference options '>' reader rest
    | '\x27' :: rest => namedReference options '\x27' reader rest
    | _ => escaped (commonEscape c rest)
  | '0' => escaped (octalEscape (c :: rest))
  | _ =>
    if c.isDigit then
      let digits := (c :: rest).takeWhile Char.isDigit
      let index := readNumber 10 digits
      if index ≤ 9 || index ≤ reader.opened then
        .ok (.reference [index] false options.ignoreCase,
          { reader with rest := (c :: rest).dropWhile Char.isDigit })
      else if c == '8' || c == '9' then
        .ok (literal options c, { reader with rest := rest })
      else escaped (octalEscape (c :: rest))
    else escaped (commonEscape c rest)

-- The letters of an option group up to its end: the new options, and whether they hold for the
-- rest of the enclosing group or for a group of their own.
def optionLetters (options : Options) (enable : Bool) :
    List Char → Except ParseError (Options × Bool × List Char)
  | [] => .error .endInGroup
  | ')' :: rest => .ok (options, true, rest)
  | ':' :: rest => .ok (options, false, rest)
  | '-' :: rest => optionLetters options false rest
  | 'i' :: rest => optionLetters { options with ignoreCase := enable } enable rest
  | 'x' :: rest => optionLetters { options with extended := enable } enable rest
  | 'm' :: rest => optionLetters { options with dotAll := enable } enable rest
  | _ :: _ => .error .undefinedOption

mutual
def alternation : Nat → Options → Reader → Except ParseError (Node × Reader)
  | 0, _, _ => .error .endInGroup
  | fuel + 1, options, reader => do
    let (nodes, reader) ← branch fuel options reader
    match reader.rest with
    | '|' :: rest =>
      let (others, reader) ← alternation fuel options { reader with rest := rest }
      pure (.alt (.catAll nodes) others, reader)
    | _ => pure (.catAll nodes, reader)

def branch : Nat → Options → Reader → Except ParseError (List Node × Reader)
  | 0, _, _ => .error .endInGroup
  | fuel + 1, options, reader => do
    let rest ← skipIgnored options.extended .nothing reader.rest
    match rest with
    | [] => pure ([], { reader with rest := [] })
    | c :: after =>
      if c == '|' || c == ')' then pure ([], { reader with rest := rest })
      else
        let (node, reader) ← atom fuel options { reader with rest := after } c
        let (node, rest) ← quantify options fuel node reader.rest
        let (nodes, reader) ← branch fuel options { reader with rest := rest }
        pure (node :: nodes, reader)

def atom : Nat → Options → Reader → Char → Except ParseError (Node × Reader)
  | 0, _, _, _ => .error .endInGroup
  | fuel + 1, options, reader, c => do
    match c with
    | '(' => group fuel options reader
    | '[' =>
      let (set, rest) ← classBody (2 * reader.rest.length + 2) reader.rest
      pure (.set set options.ignoreCase, { reader with rest := rest })
    | '.' =>
      let set := if options.dotAll then .named .any else .complement (.single '\n')
      pure (.set set false, reader)
    | '^' => pure (.assertion .lineStart, reader)
    | '$' => pure (.assertion .lineEnd, reader)
    | '\\' =>
      match reader.rest with
      | [] => throw .endAtEscape
      | escaped :: rest => escapeNode options reader escaped rest
    | _ =>
      match ← quantifier (c :: reader.rest) with
      | some _ => throw .repeatTargetMissing
      | none => pure (literal options c, reader)

def group : Nat → Options → Reader → Except ParseError (Node × Reader)
  | 0, _, _ => .error .endInGroup
  | fuel + 1, options, reader =>
    let named (stop : Char) (text : List Char) : Except ParseError (Node × Reader) := do
      let (name, rest) ← groupName stop text
      let index := reader.opened + 1
      let (inner, reader) ← enclosed fuel options ⟨rest, index, reader.names ++ [(name, index)]⟩
      pure (.group index true inner, reader)
    match reader.rest with
    | '?' :: ':' :: rest => enclosed fuel options { reader with rest := rest }
    | '?' :: '=' :: rest => do
      let (inner, reader) ← enclosed fuel options { reader with rest := rest }
      pure (.ahead false inner, reader)
    | '?' :: '!' :: rest => do
      let (inner, reader) ← enclosed fuel options { reader with rest := rest }
      pure (.ahead true inner, reader)
    | '?' :: '>' :: rest => do
      let (inner, reader) ← enclosed fuel options { reader with rest := rest }
      pure (.atomic inner, reader)
    | '?' :: '<' :: '=' :: rest => do
      let (inner, reader) ← enclosed fuel options { reader with rest := rest }
      pure (.behind false 0 inner, reader)
    | '?' :: '<' :: '!' :: rest => do
      let (inner, reader) ← enclosed fuel options { reader with rest := rest }
      pure (.behind true 0 inner, reader)
    | '?' :: '<' :: rest => if rest.isEmpty then .error .unmatchedOpen else named '>' rest
    | '?' :: '\x27' :: rest => named '\x27' rest
    | '?' :: ')' :: _ => .error .undefinedOption
    | '?' :: rest => do
      let (inside, isolated, rest) ← optionLetters options true rest
      if isolated then alternation fuel inside { reader with rest := rest }
      else enclosed fuel inside { reader with rest := rest }
    | rest => do
      let index := reader.opened + 1
      let (inner, reader) ← enclosed fuel options ⟨rest, index, reader.names⟩
      pure (.group index false inner, reader)

def enclosed : Nat → Options → Reader → Except ParseError (Node × Reader)
  | 0, _, _ => .error .endInGroup
  | fuel + 1, options, reader => do
    let (inner, reader) ← alternation fuel options reader
    match reader.rest with
    | ')' :: rest => pure (inner, { reader with rest := rest })
    | _ => throw .unmatchedOpen
end

-- A look-behind with its width. Alternatives may differ in width, and are tried one after the
-- other.
def lookBehind (negative : Bool) : Node → Except ParseError Node
  | .alt first second => do
    let first ← lookBehind negative first
    let second ← lookBehind negative second
    pure (if negative then .cat first second else .alt first second)
  | node =>
    match node.width? with
    | some width => .ok (.behind negative width node)
    | none => .error .invalidLookBehind

-- Gives groups their final numbers, checks references, and computes the widths of look-behinds.
-- With `named`, only named groups keep a number: the place of their own in `kept`.
def settle (named : Bool) (kept : List Nat) (groups : Nat) : Node → Except ParseError Node
  | .cat first second => do
    let first ← settle named kept groups first
    let second ← settle named kept groups second
    pure (.cat first second)
  | .alt first second => do
    let first ← settle named kept groups first
    let second ← settle named kept groups second
    pure (.alt first second)
  | .group index hasName inner => do
    let inner ← settle named kept groups inner
    if named then
      if hasName then pure (.group (kept.idxOf index + 1) true inner) else pure inner
    else pure (.group index hasName inner)
  | .loop least most greed inner => do
    let inner ← settle named kept groups inner
    pure (.loop least most greed inner)
  | .atomic inner => do
    let inner ← settle named kept groups inner
    pure (.atomic inner)
  | .ahead negative inner => do
    let inner ← settle named kept groups inner
    pure (.ahead negative inner)
  | .behind negative _ inner => do
    let inner ← settle named kept groups inner
    if negative && inner.hasGroup then throw .invalidLookBehind
    lookBehind negative inner
  | .reference indices byName ignoreCase =>
    if named then
      if byName then
        .ok (.reference (indices.map fun index => kept.idxOf index + 1) true ignoreCase)
      else .error .numberedReference
    else if indices.all (· ≤ groups) then .ok (.reference indices byName ignoreCase)
    else .error .invalidReference
  | node => .ok node

def parse (source : List Char) : Except ParseError Program := do
  let (node, reader) ← alternation (6 * source.length + 6) {} ⟨source, 0, []⟩
  if !reader.rest.isEmpty then throw .unmatchedClose
  let kept := reader.names.map Prod.snd
  let named := !kept.isEmpty
  let node ← settle named kept reader.opened node
  pure ⟨node, if named then kept.length else reader.opened⟩

end LineScope.Pattern
