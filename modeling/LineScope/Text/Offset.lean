/-!
Texts are lists of characters, and every offset into one counts the bytes of its UTF-8 form.
-/

set_option autoImplicit false

namespace LineScope.Text

def byteLength : List Char → Nat
  | [] => 0
  | c :: rest => c.utf8Size + byteLength rest

-- What follows the first `count` bytes; a character that straddles the cut is dropped whole.
def dropBytes : Nat → List Char → List Char
  | 0, text => text
  | _ + 1, [] => []
  | count + 1, c :: rest => dropBytes (count + 1 - c.utf8Size) rest

-- The first `count` bytes; a character that straddles the cut is kept whole.
def takeBytes : Nat → List Char → List Char
  | 0, _ => []
  | _ + 1, [] => []
  | count + 1, c :: rest => c :: takeBytes (count + 1 - c.utf8Size) rest

def slice (text : List Char) (start stop : Nat) : List Char :=
  takeBytes (stop - start) (dropBytes start text)

def IsBoundary : Nat → List Char → Prop
  | 0, _ => True
  | _ + 1, [] => False
  | offset + 1, c :: rest => c.utf8Size ≤ offset + 1 ∧ IsBoundary (offset + 1 - c.utf8Size) rest

def nextBoundary (text : List Char) (offset : Nat) : Nat :=
  match dropBytes offset text with
  | [] => offset + 1
  | c :: _ => offset + c.utf8Size

end LineScope.Text
