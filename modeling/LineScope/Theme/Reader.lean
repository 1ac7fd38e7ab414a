import LineScope.Json.Decode
import LineScope.Theme

set_option autoImplicit false

namespace LineScope

open Json (Value Items Members Refusal)

inductive ThemeKey where
  | scope | foreground | background | fontStyle
deriving DecidableEq, Repr, Inhabited

def ThemeKey.order : List ThemeKey := [.scope, .foreground, .background, .fontStyle]

def ThemeKey.text : ThemeKey → String
  | .scope => "scope"
  | .foreground => "foreground"
  | .background => "background"
  | .fontStyle => "font-style"

def ThemeKey.ofText? (text : String) : Option ThemeKey := ThemeKey.order.find? (·.text = text)

def FontStyle.ofName? : String → Option FontStyle
  | "italic" => some .italic
  | "bold" => some .bold
  | "underline" => some .underline
  | "strikethrough" => some .strikethrough
  | _ => none

-- The name of a style, also as the only key of an object that holds null.
def readFontStyle : Value → Except Refusal FontStyle
  | .text (some name) | .object (.cons (some name) .null .nil) =>
    match FontStyle.ofName? name with
    | some style => .ok style
    | none => .error .mismatched
  | value => .error value.mismatch

def readFontStyles : Items → Except Refusal (List FontStyle)
  | .nil => .ok []
  | .cons value tail => do
    let head ← readFontStyle value
    let others ← readFontStyles tail
    pure (head :: others)
  | .fault cause => .error cause.refusal

def readBelow (bound : Nat) (value : Value) : Except Refusal Nat := do
  let number ← value.asWord
  if number < bound then pure number else throw .mismatched

def readThemeKey (rule : ThemeRule) (key : ThemeKey) (value : Value) : Except Refusal ThemeRule :=
  match key with
  | .scope => do
    let scope ← value.asText
    pure { rule with scope }
  | .foreground => do
    let number ← value.optional (readBelow UInt16.size)
    pure { rule with foreground := number.map UInt16.ofNat }
  | .background => do
    let number ← value.optional (readBelow UInt8.size)
    pure { rule with background := number.map UInt8.ofNat }
  | .fontStyle =>
    match value with
    | .array items => do
      let styles ← readFontStyles items
      pure { rule with fontStyle := styles }
    | _ => .error value.mismatch

def readThemeMembers (seen : List ThemeKey) (rule : ThemeRule) :
    Members → Except Refusal ThemeRule
  | .nil => if seen.contains .scope then .ok rule else .error .mismatched
  | .cons key value tail => do
    let key ← Json.keyText key
    match ThemeKey.ofText? key with
    | none => throw .mismatched
    | some key =>
      if seen.contains key then throw .mismatched
      let rule ← readThemeKey rule key value
      readThemeMembers (key :: seen) rule tail
  | .fault kept _ => .error kept.refusal

def readThemeItems (rule : ThemeRule) : List ThemeKey → Items → Except Refusal ThemeRule
  | keys, .nil => if keys.contains .scope then .error .mismatched else .ok rule
  | [], .cons .. => .error .malformed
  | key :: keys, .cons value tail => do
    let rule ← readThemeKey rule key value
    readThemeItems rule keys tail
  | _, .fault cause => .error cause.refusal

def ThemeRule.ofValue : Value → Except Refusal ThemeRule
  | .object members => readThemeMembers [] { scope := "" } members
  | .array items => readThemeItems { scope := "" } ThemeKey.order items
  | value => .error value.mismatch

def readThemeRules : Items → Except Refusal (List ThemeRule)
  | .nil => .ok []
  | .cons value tail => do
    let rule ← ThemeRule.ofValue value
    let rules ← readThemeRules tail
    pure (rule :: rules)
  | .fault cause => .error cause.refusal

end LineScope
