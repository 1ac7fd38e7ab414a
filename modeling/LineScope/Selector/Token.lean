import LineScope.Selector.Basic
import LineScope.Selector.Error
import LineScope.Text.Offset

/-!
The tokens of a selector. Blanks separate names and are dropped; a name that starts with `L:`, `R:`
or `B:` is split into a priority and the rest of the name.
-/

set_option autoImplicit false

namespace LineScope.Selector

inductive TokenKind where
  | name
  | priority (priority : Priority)
  | comma
  | pipe
  | minus
  | opening
  | closing
  | greater
deriving DecidableEq, Repr, Inhabited

structure Token where
  kind : TokenKind
  offset : Nat
  text : List Char
deriving DecidableEq, Repr, Inhabited

def isNameStart (c : Char) : Bool :=
  Text.isAlphanumeric c || c == '_' || c == '.' || c == ':' || c == '*'

def isNameContinue (c : Char) : Bool := isNameStart c || c == '-' || c == '+'

def punctuation? : Char → Option TokenKind
  | ',' => some .comma
  | '|' => some .pipe
  | '-' => some .minus
  | '(' => some .opening
  | ')' => some .closing
  | '>' => some .greater
  | _ => none

def priorityMark? : List Char → Option (Priority × List Char)
  | 'L' :: ':' :: rest => some (.left, rest)
  | 'R' :: ':' :: rest => some (.right, rest)
  | 'B' :: ':' :: rest => some (.normal, rest)
  | _ => none

def nameTokens (offset : Nat) (text : List Char) : List Token :=
  match priorityMark? text with
  | none => [⟨.name, offset, text⟩]
  | some (priority, rest) =>
    ⟨.priority priority, offset, text.take 2⟩ ::
      if rest.isEmpty then [] else [⟨.name, offset + 2, rest⟩]

theorem length_dropWhile_le (p : Char → Bool) (text : List Char) :
    (text.dropWhile p).length ≤ text.length := by
  induction text with
  | nil => simp
  | cons c rest ih =>
    rw [List.dropWhile_cons]
    split
    · exact Nat.le_succ_of_le ih
    · exact Nat.le_refl _

def tokensFrom (offset : Nat) (source : List Char) : Except ParseError (List Token) :=
  match source with
  | [] => .ok []
  | c :: rest =>
    if Text.isBlank c then tokensFrom (offset + c.utf8Size) rest
    else
      match punctuation? c with
      | some kind => do
        let tokens ← tokensFrom (offset + c.utf8Size) rest
        pure (⟨kind, offset, [c]⟩ :: tokens)
      | none =>
        if isNameStart c then do
          let text := c :: rest.takeWhile isNameContinue
          let tokens ← tokensFrom (offset + Text.byteLength text) (rest.dropWhile isNameContinue)
          pure (nameTokens offset text ++ tokens)
        else .error (.unexpectedChar c offset)
termination_by source.length
decreasing_by
  all_goals have shorter := length_dropWhile_le isNameContinue rest
  all_goals rw [List.length_cons]
  all_goals omega

def tokens (source : List Char) : Except ParseError (List Token) := tokensFrom 0 source

end LineScope.Selector
