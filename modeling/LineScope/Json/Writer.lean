import LineScope.Json.Basic
import LineScope.Text.Quoted

set_option autoImplicit false

namespace LineScope.Json

def writeChar (c : Char) : List Char :=
  if c == '"' then ['\\', '"']
  else if c == '\\' then ['\\', '\\']
  else if c == '\x08' then ['\\', 'b']
  else if c == '\x0c' then ['\\', 'f']
  else if c == '\n' then ['\\', 'n']
  else if c == '\r' then ['\\', 'r']
  else if c == '\t' then ['\\', 't']
  else if c.toNat < 0x10 then ['\\', 'u', '0', '0', '0'] ++ Text.hexDigits c.toNat
  else if c.toNat < 0x20 then ['\\', 'u', '0', '0'] ++ Text.hexDigits c.toNat
  else [c]

def writeString (text : String) : List Char := '"' :: text.toList.flatMap writeChar ++ ['"']

mutual
def Value.write : Value → List Char
  | .null => "null".toList
  | .bool value => (if value then "true" else "false").toList
  | .number literal => literal
  | .text text => writeString (text.getD "")
  | .array items => '[' :: items.write true
  | .object members => '\x7b' :: members.write true
  | .fault .. => []

def Items.write (isFirst : Bool) : Items → List Char
  | .nil => [']']
  | .cons head tail => (if isFirst then [] else [',']) ++ head.write ++ tail.write false
  | .fault _ => []

def Members.write (isFirst : Bool) : Members → List Char
  | .nil => ['\x7d']
  | .cons key value tail =>
    (if isFirst then [] else [',']) ++ writeString (key.getD "") ++ [':'] ++ value.write ++
      tail.write false
  | .fault .. => []
end

def indentation (level : Nat) : List Char := '\n' :: List.replicate (2 * level) ' '

mutual
-- One item a line, indented by two blanks a level; empty arrays and objects stay closed.
def Value.writeIndented (level : Nat) : Value → List Char
  | .array .nil => ['[', ']']
  | .object .nil => ['\x7b', '\x7d']
  | .array items => '[' :: items.writeIndented level true
  | .object members => '\x7b' :: members.writeIndented level true
  | value => value.write

def Items.writeIndented (level : Nat) (isFirst : Bool) : Items → List Char
  | .nil => indentation level ++ [']']
  | .cons head tail =>
    (if isFirst then [] else [',']) ++ indentation (level + 1) ++
      head.writeIndented (level + 1) ++ tail.writeIndented level false
  | .fault _ => []

def Members.writeIndented (level : Nat) (isFirst : Bool) : Members → List Char
  | .nil => indentation level ++ ['\x7d']
  | .cons key value tail =>
    (if isFirst then [] else [',']) ++ indentation (level + 1) ++ writeString (key.getD "") ++
      [':', ' '] ++ value.writeIndented (level + 1) ++ tail.writeIndented level false
  | .fault .. => []
end

def Value.ofNat (n : Nat) : Value := .number (Nat.toDigits 10 n)

end LineScope.Json
