/-!
The two anchors whose meaning depends on where tokenizing stands: `\A` holds on the first line of a
document only, and `\G` only where the previous rule left off. Where one of them may not hold, a
pattern is searched in a variant in which it is replaced by a character that no text contains.
-/

set_option autoImplicit false

namespace LineScope.Pattern

structure Anchors where
  firstLine : Bool
  searchStart : Bool
deriving DecidableEq, Repr, Inhabited

def neverMatches : Char := '\uffff'

def Anchors.forbids (anchors : Anchors) (escaped : Char) : Bool :=
  (escaped == 'A' && !anchors.firstLine) || (escaped == 'G' && !anchors.searchStart)

def hasAnchor : List Char → Bool
  | '\\' :: escaped :: rest => escaped == 'A' || escaped == 'G' || hasAnchor rest
  | _ :: rest => hasAnchor rest
  | [] => false

def restrictAnchors (anchors : Anchors) : List Char → List Char
  | '\\' :: escaped :: rest =>
    if anchors.forbids escaped then neverMatches :: restrictAnchors anchors rest
    else '\\' :: escaped :: restrictAnchors anchors rest
  | c :: rest => c :: restrictAnchors anchors rest
  | [] => []

def variant (source : List Char) (anchors : Anchors) : List Char :=
  if hasAnchor source && !(anchors.firstLine && anchors.searchStart) then
    restrictAnchors anchors source
  else source

end LineScope.Pattern
