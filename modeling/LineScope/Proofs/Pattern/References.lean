import LineScope.Pattern.Class
import LineScope.Pattern.Reference
import Mathlib.Data.List.Basic
import Mathlib.Data.List.GetD
import Mathlib.Data.List.TakeWhile

/-!
References in end patterns. Read as escape pairs and plain characters, a pattern refers to a group by a pair
of a backslash and a digit; the references that are filled in are found by a search for a backslash before
a digit, which takes no notice of pairs. The two readings agree on a pattern exactly when no backslash that
is escaped itself stands before a digit and all digits after a backslash are ASCII digits.
-/

set_option autoImplicit false

namespace LineScope.Pattern

section Reading

def escapedChars : List Char → List Char
  | '\\' :: c :: rest => c :: escapedChars rest
  | _ :: rest => escapedChars rest
  | [] => []

-- Replaces every pair of a backslash and a digit, with the digits that follow it.
def substitute (fill : List Char → List Char) : List Char → List Char
  | '\\' :: c :: rest =>
    if c.isDigit then
      fill (c :: rest.takeWhile Char.isDigit) ++ substitute fill (rest.dropWhile Char.isDigit)
    else '\\' :: c :: substitute fill rest
  | c :: rest => c :: substitute fill rest
  | [] => []
termination_by source => source.length
decreasing_by
  all_goals simp only [List.length_cons]
  · have shorter := List.length_dropWhile_le Char.isDigit rest
    omega
  · omega
  · omega

def escapedGroup (text : List Char) (captures : Captures) (digits : List Char) : List Char :=
  match captures.getD (readNumber 10 digits) none with
  | some (start, stop) => escape (Text.slice text start stop)
  | none => []

def startsDigit (text : List Char) : Bool := text.head?.any Text.isDecimalDigit

-- A backslash that is escaped itself does not stand before a digit, and no digit other than the ASCII ones stands
-- after a backslash or after the digits of a reference.
def Unambiguous : List Char → Prop
  | '\\' :: c :: rest =>
    if c.isDigit then
      startsDigit (rest.dropWhile Char.isDigit) = false ∧ Unambiguous (rest.dropWhile Char.isDigit)
    else Text.isDecimalDigit c = false ∧ (c = '\\' → startsDigit rest = false) ∧ Unambiguous rest
  | _ :: rest => Unambiguous rest
  | [] => True
termination_by source => source.length
decreasing_by
  all_goals simp only [List.length_cons]
  · have shorter := List.length_dropWhile_le Char.isDigit rest
    omega
  · omega
  · omega

end Reading

section Digits

theorem digit_is_decimal (c : Char) (digit : c.isDigit) : Text.isDecimalDigit c := by
  have ascii : c.toNat < 0x80 := by
    simp only [Char.isDigit, Bool.and_eq_true, decide_eq_true_eq] at digit
    have above := UInt32.le_iff_toNat_le.mp digit.2
    exact Nat.lt_of_le_of_lt above (by decide)
  rwa [Text.isDecimalDigit, Text.inTable, if_pos ascii]

theorem decimal_not_backslash (c : Char) (decimal : Text.isDecimalDigit c) : c ≠ '\\' := by
  rintro rfl
  exact absurd decimal (by decide)

theorem digit_runs (rest : List Char) (ended : startsDigit (rest.dropWhile Char.isDigit) = false) :
    rest.takeWhile Text.isDecimalDigit = rest.takeWhile Char.isDigit ∧
      rest.dropWhile Text.isDecimalDigit = rest.dropWhile Char.isDigit := by
  induction rest with
  | nil => exact ⟨rfl, rfl⟩
  | cons d rest ih =>
      by_cases digit : d.isDigit
      · have decimal := digit_is_decimal d digit
        rw [List.dropWhile_cons_of_pos digit] at ended
        obtain ⟨taken, dropped⟩ := ih ended
        simp only [List.takeWhile_cons_of_pos, List.dropWhile_cons_of_pos, digit, decimal, taken, dropped, and_self]
      · rw [List.dropWhile_cons_of_neg digit] at ended
        have other : ¬ Text.isDecimalDigit d := by simpa [startsDigit] using ended
        simp only [List.takeWhile_cons_of_neg digit, List.dropWhile_cons_of_neg digit, List.takeWhile_cons_of_neg other,
          List.dropWhile_cons_of_neg other, and_self]

theorem drop_digits (rest : List Char) :
    rest.dropWhile Text.isDecimalDigit = (rest.dropWhile Char.isDigit).dropWhile Text.isDecimalDigit := by
  induction rest with
  | nil => rfl
  | cons d rest ih =>
      by_cases digit : d.isDigit
      · rw [List.dropWhile_cons_of_pos digit, List.dropWhile_cons_of_pos (digit_is_decimal d digit), ih]
      · rw [List.dropWhile_cons_of_neg digit]

theorem group_number_eq (digits : List Char) (some : digits ≠ []) (ascii : ∀ d ∈ digits, d.isDigit) :
    groupNumber? digits = if readNumber 10 digits < UInt64.size then .some (readNumber 10 digits) else none := by
  have same : digits.foldl (fun total c => total * 10 + (c.toNat - '0'.toNat)) 0 = readNumber 10 digits := by
    refine List.foldl_ext _ _ 0 fun total d member => ?_
    rw [digitValue, if_pos (ascii d member)]
  have written : (digits.isEmpty || !digits.all Char.isDigit) = false := by simpa [some] using ascii
  rw [groupNumber?, written, same]
  rfl

-- A number that does not fit is the number of no group, since there are fewer groups.
theorem group_text_eq (text : List Char) (captures : Captures) (few : captures.length ≤ UInt64.size)
    (digits : List Char) (some : digits ≠ []) (ascii : ∀ d ∈ digits, d.isDigit) :
    escape ((groupText? text captures digits).getD []) = escapedGroup text captures digits := by
  rw [groupText?, group_number_eq digits some ascii, escapedGroup]
  by_cases fits : readNumber 10 digits < UInt64.size
  · rw [if_pos fits]
    dsimp only
    cases captures.getD (readNumber 10 digits) none <;> rfl
  · rw [if_neg fits, List.getD_eq_default _ _ (by omega)]
    rfl

end Digits

section Pieces

variable (c : Char) (rest : List Char)

theorem pieces_plain (apart : ∀ d after, c = '\\' → rest = d :: after → False) :
    pieces (c :: rest) = .plain c :: pieces rest := by
  rw [pieces, referencePieces]
  · rfl
  · exact apart

theorem pieces_digits (digits : List Char) :
    referencePieces (some digits) rest =
      .number (digits.reverse ++ rest.takeWhile Text.isDecimalDigit) :: pieces (rest.dropWhile Text.isDecimalDigit) := by
  induction rest generalizing digits with
  | nil => simp [referencePieces, pieces]
  | cons d rest ih =>
      rw [referencePieces]
      by_cases decimal : Text.isDecimalDigit d
      · rw [if_pos decimal, ih, List.takeWhile_cons_of_pos decimal, List.dropWhile_cons_of_pos decimal, List.reverse_cons,
          List.append_assoc, List.singleton_append]
      · rw [if_neg decimal, List.takeWhile_cons_of_neg decimal, List.dropWhile_cons_of_neg decimal, List.append_nil]
        rfl

theorem pieces_reference (decimal : Text.isDecimalDigit c) :
    pieces ('\\' :: c :: rest) =
      .number (c :: rest.takeWhile Text.isDecimalDigit) :: pieces (rest.dropWhile Text.isDecimalDigit) := by
  rw [pieces, referencePieces, if_pos decimal, pieces_digits]
  rfl

theorem pieces_pair (other : ¬ Text.isDecimalDigit c) (apart : c = '\\' → startsDigit rest = false) :
    pieces ('\\' :: c :: rest) = .plain '\\' :: .plain c :: pieces rest := by
  have first : pieces ('\\' :: c :: rest) = .plain '\\' :: pieces (c :: rest) := by
    rw [pieces, referencePieces, if_neg other]
    rfl
  rw [first]
  by_cases backslash : c = '\\'
  · subst backslash
    cases rest with
    | nil => simp [pieces, referencePieces]
    | cons d rest =>
        have next : ¬ Text.isDecimalDigit d := by simpa [startsDigit] using apart rfl
        rw [pieces, referencePieces, if_neg next]
        rfl
  · rw [pieces_plain c rest fun _ _ same _ => backslash same]

end Pieces

section Agreement

variable (fill : List Char → List Char)

def Piece.text : Piece → List Char
  | .plain c => [c]
  | .number digits => fill digits

def replaced (source : List Char) : List Char := (pieces source).flatMap (Piece.text fill)

theorem resolve_references_eq (source : String) (text : List Char) (captures : Captures) :
    resolveReferences source text captures =
      String.ofList (replaced (fun digits => escape ((groupText? text captures digits).getD [])) source.toList) := by
  rw [resolveReferences, replaced]
  congr 2

variable {fill} in
theorem substitute_congr {other : List Char → List Char} (source : List Char)
    (same : ∀ digits, digits ≠ [] → (∀ d ∈ digits, d.isDigit) → fill digits = other digits) :
    substitute fill source = substitute other source := by
  fun_induction substitute fill source with
  | case1 c rest digit ih =>
      have ascii : ∀ d ∈ c :: rest.takeWhile Char.isDigit, d.isDigit :=
        List.forall_mem_cons.mpr ⟨digit, fun _ member => List.mem_takeWhile_imp member⟩
      rw [substitute, if_pos digit, ih, same _ (List.cons_ne_nil _ _) ascii]
  | case2 c rest other ih => rw [substitute, if_neg other, ih]
  | case3 c rest apart ih =>
      rw [substitute, ih]
      exact apart
  | case4 => rw [substitute]

theorem unambiguous_replaced (source : List Char) (unambiguous : Unambiguous source) :
    replaced fill source = substitute fill source := by
  fun_induction substitute fill source with
  | case1 c rest digit ih =>
      rw [Unambiguous, if_pos digit] at unambiguous
      obtain ⟨taken, dropped⟩ := digit_runs rest unambiguous.1
      rw [replaced, pieces_reference c rest (digit_is_decimal c digit), taken, dropped, List.flatMap_cons]
      exact congrArg _ (ih unambiguous.2)
  | case2 c rest other ih =>
      rw [Unambiguous, if_neg other] at unambiguous
      obtain ⟨notDecimal, apart, further⟩ := unambiguous
      rw [replaced, pieces_pair c rest (by simp [notDecimal]) apart, List.flatMap_cons, List.flatMap_cons]
      exact congrArg _ (congrArg _ (ih further))
  | case3 c rest apart ih =>
      rw [Unambiguous] at unambiguous
      · rw [replaced, pieces_plain c rest apart, List.flatMap_cons]
        exact congrArg _ (ih unambiguous)
      · exact apart
  | case4 => simp [replaced, pieces, referencePieces]

theorem unambiguous_references (source : List Char) (unambiguous : Unambiguous source) :
    (pieces source).any Piece.isReference = (escapedChars source).any Char.isDigit := by
  fun_induction Unambiguous source with
  | case1 c rest digit ih =>
      rw [pieces_reference c rest (digit_is_decimal c digit), escapedChars, List.any_cons, List.any_cons, digit]
      rfl
  | case2 c rest other ih =>
      obtain ⟨notDecimal, apart, further⟩ := unambiguous
      rw [pieces_pair c rest (by simp [notDecimal]) apart, escapedChars, List.any_cons, List.any_cons, List.any_cons,
        ih further]
      simp [Piece.isReference, other]
  | case3 c rest apart ih =>
      rw [pieces_plain c rest apart, escapedChars, List.any_cons, ih unambiguous]
      · rfl
      · exact apart
  | case4 => simp [pieces, referencePieces, escapedChars]

end Agreement

section Difference

-- How much of a pattern is left when references are replaced by nothing: by the search, and by pairs.
def left (source : List Char) : Nat := (replaced (fun _ => []) source).length

def leftByPairs (source : List Char) : Nat := (substitute (fun _ => []) source).length

variable (c : Char) (rest digits : List Char)

theorem left_plain (apart : ∀ d after, c = '\\' → rest = d :: after → False) : left (c :: rest) = left rest + 1 := by
  rw [left, replaced, pieces_plain c rest apart, List.flatMap_cons]
  simp [left, replaced, Piece.text]

theorem left_by_pairs_plain (apart : ∀ d after, c = '\\' → rest = d :: after → False) :
    leftByPairs (c :: rest) = leftByPairs rest + 1 := by
  rw [leftByPairs, substitute]
  · rfl
  · exact apart

theorem left_reference (decimal : Text.isDecimalDigit c) :
    left ('\\' :: c :: rest) = left (rest.dropWhile Text.isDecimalDigit) := by
  rw [left, replaced, pieces_reference c rest decimal, List.flatMap_cons]
  rfl

theorem left_pair (other : ¬ Text.isDecimalDigit c) (apart : c = '\\' → startsDigit rest = false) :
    left ('\\' :: c :: rest) = left rest + 2 := by
  rw [left, replaced, pieces_pair c rest other apart, List.flatMap_cons, List.flatMap_cons]
  simp [left, replaced, Piece.text]

theorem left_escaped_backslash (starts : startsDigit rest) :
    left ('\\' :: '\\' :: rest) = left (rest.dropWhile Text.isDecimalDigit) + 1 := by
  cases rest with
  | nil => cases starts
  | cons d rest =>
      have decimal : Text.isDecimalDigit d := by simpa [startsDigit] using starts
      have first : pieces ('\\' :: '\\' :: d :: rest) = .plain '\\' :: pieces ('\\' :: d :: rest) := by
        rw [pieces, referencePieces, if_neg (by decide)]
        rfl
      rw [List.dropWhile_cons_of_pos decimal, ← left_reference d rest decimal, left, replaced, first, List.flatMap_cons]
      simp [left, replaced, Piece.text]

theorem left_digits (decimal : ∀ d ∈ digits, Text.isDecimalDigit d) :
    left (digits ++ rest) = digits.length + left rest := by
  induction digits with
  | nil => simp
  | cons d digits ih =>
      obtain ⟨here, others⟩ := List.forall_mem_cons.mp decimal
      have apart := decimal_not_backslash d here
      rw [List.cons_append, left_plain d _ fun _ _ same _ => apart same, ih others, List.length_cons]
      omega

theorem left_dropped :
    left rest = (rest.takeWhile Text.isDecimalDigit).length + left (rest.dropWhile Text.isDecimalDigit) := by
  conv_lhs => rw [← List.takeWhile_append_dropWhile (p := Text.isDecimalDigit) (l := rest)]
  exact left_digits _ _ fun d member => List.mem_takeWhile_imp member

theorem taken_of_starts (starts : startsDigit rest) : 0 < (rest.takeWhile Text.isDecimalDigit).length := by
  cases rest with
  | nil => cases starts
  | cons d rest =>
      have decimal : Text.isDecimalDigit d := by simpa [startsDigit] using starts
      rw [List.takeWhile_cons_of_pos decimal, List.length_cons]
      omega

theorem left_le (source : List Char) :
    left source ≤ leftByPairs source ∧ (left source = leftByPairs source → Unambiguous source) := by
  fun_induction Unambiguous source with
  | case1 c rest digit ih =>
      obtain ⟨less, agrees⟩ := ih
      have pairs : leftByPairs ('\\' :: c :: rest) = leftByPairs (rest.dropWhile Char.isDigit) := by
        rw [leftByPairs, substitute, if_pos digit]
        rfl
      have dropped := left_dropped (rest.dropWhile Char.isDigit)
      rw [pairs, left_reference c rest (digit_is_decimal c digit), drop_digits]
      refine ⟨by omega, fun same => ?_⟩
      cases starts : startsDigit (rest.dropWhile Char.isDigit) with
      | true =>
          have taken := taken_of_starts _ starts
          omega
      | false =>
          refine ⟨rfl, agrees ?_⟩
          omega
  | case2 c rest other ih =>
      obtain ⟨less, agrees⟩ := ih
      have pairs : leftByPairs ('\\' :: c :: rest) = leftByPairs rest + 2 := by
        rw [leftByPairs, substitute, if_neg other]
        rfl
      rw [pairs]
      by_cases decimal : Text.isDecimalDigit c
      · -- Only the search takes this pair for a reference.
        have dropped := left_dropped rest
        rw [left_reference c rest decimal]
        exact ⟨by omega, fun same => by omega⟩
      · by_cases escaped : c = '\\' ∧ startsDigit rest
        · -- Only the search takes the escaped backslash for the start of a reference.
          obtain ⟨rfl, starts⟩ := escaped
          have taken := taken_of_starts rest starts
          have dropped := left_dropped rest
          rw [left_escaped_backslash rest starts]
          exact ⟨by omega, fun same => by omega⟩
        · have apart : c = '\\' → startsDigit rest = false := fun backslash =>
            Bool.eq_false_iff.mpr fun starts => escaped ⟨backslash, starts⟩
          rw [left_pair c rest decimal apart]
          exact ⟨by omega, fun same => ⟨Bool.eq_false_iff.mpr decimal, apart, agrees (by omega)⟩⟩
  | case3 c rest apart ih =>
      rw [left_plain c rest apart, left_by_pairs_plain c rest apart]
      exact ⟨Nat.succ_le_succ ih.1, fun same => ih.2 (Nat.succ.inj same)⟩
  | case4 =>
      have nothing : left [] = leftByPairs [] := by
        simp [left, leftByPairs, replaced, pieces, referencePieces, substitute]
      exact ⟨Nat.le_of_eq nothing, fun _ => trivial⟩

end Difference

theorem references_read_by_pairs_iff (source : String) :
    Unambiguous source.toList ↔
      (hasReferences source ↔ ∃ c ∈ escapedChars source.toList, c.isDigit) ∧
      ∀ (text : List Char) (captures : Captures), captures.length ≤ UInt64.size →
        resolveReferences source text captures =
          String.ofList (substitute (escapedGroup text captures) source.toList) := by
  constructor
  · intro unambiguous
    refine ⟨?_, fun text captures few => ?_⟩
    · rw [hasReferences, unambiguous_references _ unambiguous, List.any_eq_true]
    · rw [resolve_references_eq, unambiguous_replaced _ _ unambiguous]
      exact congrArg _ (substitute_congr _ (group_text_eq text captures few))
  · -- Without groups every reference leaves nothing, so that the lengths of what is left tell the readings apart.
    rintro ⟨-, agrees⟩
    have searched : (fun digits => escape ((groupText? [] [] digits).getD [])) = fun _ => [] := by
      funext digits
      rw [groupText?]
      cases groupNumber? digits <;> rfl
    have paired : escapedGroup [] [] = fun _ => [] := rfl
    have empty := agrees [] [] (Nat.zero_le _)
    rw [resolve_references_eq, searched, paired] at empty
    exact (left_le source.toList).2 (congrArg List.length (String.ofList_injective empty))

theorem end_pattern_filled_in :
    hasReferences "\\1\\)" ∧
      resolveReferences "\\1\\)" "R\"a.b(".toList [some (0, 6), some (2, 5)] = "a\\.b\\)" := by
  have chars : "\\1\\)".toList = ['\\', '1', '\\', ')'] := by decide
  have unambiguous : Unambiguous "\\1\\)".toList := by
    rw [chars, Unambiguous, if_pos (by decide)]
    refine ⟨by decide, ?_⟩
    rw [show ['\\', ')'].dropWhile Char.isDigit = ['\\', ')'] by decide, Unambiguous, if_neg (by decide)]
    exact ⟨by decide, by decide, by rw [Unambiguous]; trivial⟩
  obtain ⟨found, filled⟩ := (references_read_by_pairs_iff "\\1\\)").mp unambiguous
  refine ⟨found.mpr ⟨'1', by decide, by decide⟩, ?_⟩
  rw [filled _ _ (by decide), chars, substitute, if_pos (by decide),
    show ['\\', ')'].dropWhile Char.isDigit = ['\\', ')'] by decide, substitute, if_neg (by decide), substitute]
  decide

theorem escaped_backslash_mistaken :
    escapedChars "\\\\1".toList = ['\\'] ∧ hasReferences "\\\\1" ∧
      substitute (escapedGroup "ab".toList [some (0, 2), some (0, 1)]) "\\\\1".toList = "\\\\1".toList ∧
      resolveReferences "\\\\1" "ab".toList [some (0, 2), some (0, 1)] = "\\a" := by
  have chars : "\\\\1".toList = ['\\', '\\', '1'] := by decide
  have pieces : pieces ['\\', '\\', '1'] = [.plain '\\', .number ['1']] := by
    simp [pieces, referencePieces, show Text.isDecimalDigit '\\' = false by decide,
      show Text.isDecimalDigit '1' = true by decide]
  refine ⟨by rw [chars]; rfl, by rw [hasReferences, chars, pieces]; rfl, ?_, ?_⟩
  · rw [chars, substitute, if_neg (by decide), substitute, substitute]
    simp
  · rw [resolve_references_eq, chars, replaced, pieces]
    decide

end LineScope.Pattern
