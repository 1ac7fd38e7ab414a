import LineScope.Selector.Token

/-!
Recursive descent over the tokens of a selector:

* selector: alternatives between commas or pipes, each with an optional priority;
* conjunction: one operand or more;
* operand: a negated operand, a group in parentheses, or a path;
* group: conjunctions between commas or pipes;
* path: names, each joined to the one before it by nothing or by a greater sign.

Every function takes its depth of recursion as fuel; a token costs at most four calls.
-/

set_option autoImplicit false

namespace LineScope.Selector

def Token.unexpected (token : Token) : ParseError :=
  .unexpectedToken (String.ofList token.text) token.offset

def missingOperand : List Token → ParseError
  | [] => .unexpectedEnd
  | token :: _ => token.unexpected

def pathSteps : List Token → Except ParseError (List PathStep × List Token)
  | [] => .ok ([], [])
  | token :: rest =>
    match token.kind with
    | .name => do
      let (steps, rest) ← pathSteps rest
      pure (⟨.descendant, String.ofList token.text⟩ :: steps, rest)
    | .greater =>
      match rest with
      | [] => .error .unexpectedEnd
      | next :: rest =>
        if next.kind = .name then do
          let (steps, rest) ← pathSteps rest
          pure (⟨.child, String.ofList next.text⟩ :: steps, rest)
        else .error next.unexpected
    | _ => .ok ([], token :: rest)

def startsOperand : TokenKind → Bool
  | .name | .minus | .opening => true
  | _ => false

def conjoin : List Expr → Option Expr
  | [] => none
  | [only] => some only
  | operands => some (.all (.ofList operands))

def disjoin (first : Expr) : List Expr → Expr
  | [] => first
  | rest => .any (.cons first (.ofList rest))

mutual
def operands : Nat → List Token → Except ParseError (List Expr × List Token)
  | 0, rest => .ok ([], rest)
  | _ + 1, [] => .ok ([], [])
  | fuel + 1, token :: rest =>
    if startsOperand token.kind then do
      let (head, rest) ← operand fuel token rest
      let (tail, rest) ← operands fuel rest
      pure (head :: tail, rest)
    else .ok ([], token :: rest)

def conjunction : Nat → List Token → Except ParseError (Expr × List Token)
  | 0, rest => .error (missingOperand rest)
  | fuel + 1, tokens => do
    let (list, rest) ← operands fuel tokens
    match conjoin list with
    | some expr => pure (expr, rest)
    | none => throw (missingOperand rest)

def operand : Nat → Token → List Token → Except ParseError (Expr × List Token)
  | 0, token, _ => .error token.unexpected
  | fuel + 1, token, rest =>
    match token.kind with
    | .minus =>
      match rest with
      | [] => .error .unexpectedEnd
      | next :: rest => do
        let (inner, rest) ← operand fuel next rest
        pure (.not inner, rest)
    | .opening => do
      let (first, rest) ← conjunction fuel rest
      let (others, rest) ← groupRest fuel token.offset rest
      pure (disjoin first others, rest)
    | .name => do
      let (steps, rest) ← pathSteps rest
      pure (.path ⟨⟨.descendant, String.ofList token.text⟩ :: steps⟩, rest)
    | _ => .error token.unexpected

def groupRest : Nat → Nat → List Token → Except ParseError (List Expr × List Token)
  | 0, opened, _ => .error (.unclosedGroup opened)
  | _ + 1, opened, [] => .error (.unclosedGroup opened)
  | fuel + 1, opened, token :: rest =>
    match token.kind with
    | .closing => .ok ([], rest)
    | .comma | .pipe => do
      let (head, rest) ← conjunction fuel rest
      let (tail, rest) ← groupRest fuel opened rest
      pure (head :: tail, rest)
    | _ => .error token.unexpected
end

def priorityOf : List Token → Priority × List Token
  | [] => (.normal, [])
  | token :: rest =>
    match token.kind with
    | .priority priority => (priority, rest)
    | _ => (.normal, token :: rest)

def alternativesFrom : Nat → List Token → Except ParseError (List Alternative)
  | 0, rest => .error (missingOperand rest)
  | fuel + 1, tokens => do
    let (priority, rest) := priorityOf tokens
    let (expr, rest) ← conjunction fuel rest
    match rest with
    | [] => pure [⟨priority, expr⟩]
    | token :: rest =>
      if token.kind = .comma ∨ token.kind = .pipe then do
        let tail ← alternativesFrom fuel rest
        pure (⟨priority, expr⟩ :: tail)
      else throw token.unexpected

def parseTokens (tokens : List Token) : Except ParseError (List Alternative) :=
  alternativesFrom (4 * tokens.length + 4) tokens

def parse (source : String) : Except ParseError Selector := do
  let tokens ← tokens source.toList
  if tokens.isEmpty then throw .empty
  let alternatives ← parseTokens tokens
  pure ⟨source, alternatives⟩

end LineScope.Selector
