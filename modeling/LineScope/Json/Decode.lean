import LineScope.Json.Basic
import LineScope.Json.Number

set_option autoImplicit false

namespace LineScope.Json

-- The number of arrays and objects that may stand around a kept value, itself included.
def depthLimit : Nat := 127

mutual
def Value.skip : Value → Except Refusal Unit
  | .array items => items.skip
  | .object members => members.skip
  | .fault _ skipped => .error skipped.refusal
  | _ => .ok ()

def Items.skip : Items → Except Refusal Unit
  | .nil => .ok ()
  | .cons head tail => do
    head.skip
    tail.skip
  | .fault cause => .error cause.refusal

def Members.skip : Members → Except Refusal Unit
  | .nil => .ok ()
  | .cons _ value tail => do
    value.skip
    tail.skip
  | .fault _ skipped => .error skipped.refusal
end

def enter (depth : Nat) : Except Refusal Nat :=
  if depth < depthLimit then .ok (depth + 1) else .error .malformed

mutual
def Value.keep (depth : Nat) : Value → Except Refusal Unit
  | .null | .bool _ => .ok ()
  | .number literal => if (Numeral.ofLiteral literal).isTooLarge then .error .malformed else .ok ()
  | .text content => if content.isSome then .ok () else .error .malformed
  | .array items => do
    let depth ← enter depth
    items.keep depth
  | .object members => do
    let depth ← enter depth
    members.keep depth
  | .fault kept _ => .error kept.refusal

def Items.keep (depth : Nat) : Items → Except Refusal Unit
  | .nil => .ok ()
  | .cons head tail => do
    head.keep depth
    tail.keep depth
  | .fault cause => .error cause.refusal

def Members.keep (depth : Nat) : Members → Except Refusal Unit
  | .nil => .ok ()
  | .cons key value tail => do
    if key.isNone then throw .malformed
    value.keep depth
    tail.keep depth
  | .fault kept _ => .error kept.refusal
end

-- The refusal of a value of the wrong kind: arrays and objects are refused before they are read,
-- other values after.
def Value.mismatch : Value → Refusal
  | .number literal =>
    if (Numeral.ofLiteral literal).isTooLarge then .malformed else .mismatched
  | .text none => .malformed
  | .fault kept _ => kept.refusal
  | _ => .mismatched

def keyText : Option String → Except Refusal String
  | some key => .ok key
  | none => .error .malformed

def Value.asText : Value → Except Refusal String
  | .text (some content) => .ok content
  | value => .error value.mismatch

def Value.optional {α : Type} (decode : Value → Except Refusal α) :
    Value → Except Refusal (Option α)
  | .null => .ok none
  | value => do
    let result ← decode value
    pure (some result)

def Value.asWord : Value → Except Refusal Nat
  | .number literal =>
    match (Numeral.ofLiteral literal).integer? with
    | some (.ofNat n) => if n < UInt64.size then .ok n else .error (Value.mismatch (.number literal))
    | _ => .error (Value.mismatch (.number literal))
  | value => .error value.mismatch

-- A flag, also written as a signed 64-bit integer that is false when it is zero. The value is
-- kept whole before its kind is looked at.
def Value.asFlag (depth : Nat) (value : Value) : Except Refusal Bool := do
  value.keep depth
  match value with
  | .bool flag => pure flag
  | .number literal =>
    match (Numeral.ofLiteral literal).integer? with
    | some n =>
      if Int64.minValue.toInt ≤ n && n ≤ Int64.maxValue.toInt then pure (n != 0)
      else throw .mismatched
    | none => throw .mismatched
  | _ => throw .mismatched

def Items.texts : Items → Except Refusal (List String)
  | .nil => .ok []
  | .cons head tail => do
    let first ← head.asText
    let others ← tail.texts
    pure (first :: others)
  | .fault cause => .error cause.refusal

def Value.asTexts (depth : Nat) : Value → Except Refusal (List String)
  | .array items => do
    let _ ← enter depth
    items.texts
  | value => .error value.mismatch

def Items.finish : Items → Except Refusal Unit
  | .nil => .ok ()
  | .cons .. => .error .malformed
  | .fault cause => .error cause.refusal

def Document.decode {α : Type} (decode : Value → Except Refusal α) (document : Document) :
    Except Refusal α := do
  let result ← decode document.value
  if document.trailing then throw .malformed
  pure result

end LineScope.Json
