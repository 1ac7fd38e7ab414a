/-!
JSON values as they stand in a text, up to the place where the text stops making sense.

A text is read only as far as someone looks at it: a value that is not wanted is passed over with
fewer demands than one that is kept, and a value of the wrong kind is refused before its inside is
read. So a fault is part of the value, at the place where it was met.
-/

set_option autoImplicit false

namespace LineScope.Json

inductive Fault where
  | malformed
  | truncated
deriving DecidableEq, Repr, Inhabited

inductive Refusal where
  | malformed
  | truncated
  | mismatched
deriving DecidableEq, Repr, Inhabited

def Fault.refusal : Fault → Refusal
  | .malformed => .malformed
  | .truncated => .truncated

mutual
-- A text is absent when its escapes name half a character; numbers are kept as they are written.
-- The two faults are what is met in keeping the value and in passing over it.
inductive Value where
  | null
  | bool (value : Bool)
  | number (literal : List Char)
  | text (text : Option String)
  | array (items : Items)
  | object (members : Members)
  | fault (kept skipped : Fault)

inductive Items where
  | nil
  | cons (head : Value) (tail : Items)
  | fault (fault : Fault)

inductive Members where
  | nil
  | cons (key : Option String) (value : Value) (tail : Members)
  | fault (kept skipped : Fault)
end

deriving instance Repr for Value, Items, Members

instance : Inhabited Value := ⟨.null⟩

def Items.ofList : List Value → Items
  | [] => .nil
  | head :: tail => .cons head (ofList tail)

def Members.ofList : List (String × Value) → Members
  | [] => .nil
  | (key, value) :: tail => .cons (some key) value (ofList tail)

structure Document where
  value : Value
  trailing : Bool
deriving Repr, Inhabited

end LineScope.Json
