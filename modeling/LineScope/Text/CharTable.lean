set_option autoImplicit false

namespace LineScope.Text

-- An ascending list of code points: a character belongs to the set when an odd number of them are
-- at most its own.
structure CharTable where
  changes : Array Nat
deriving Repr

namespace CharTable

-- Bisects `[low, high)` for the first change above `code`; halving needs no more rounds than
-- there are changes.
def firstAbove (changes : Array Nat) (code : Nat) : Nat → Nat → Nat → Nat
  | 0, low, _ => low
  | rounds + 1, low, high =>
    if low < high then
      let middle := (low + high) / 2
      if changes.getD middle 0 ≤ code then firstAbove changes code rounds (middle + 1) high
      else firstAbove changes code rounds low middle
    else low

def contains (table : CharTable) (c : Char) : Bool :=
  firstAbove table.changes c.toNat table.changes.size 0 table.changes.size % 2 == 1

end CharTable

end LineScope.Text
