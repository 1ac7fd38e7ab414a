import LineScope.Pattern.Reference
import LineScope.Proofs.Pattern.Literal
import LineScope.Proofs.Text.Blank

set_option autoImplicit false

namespace LineScope.Pattern

open Text (byteLength)

section Characters

theorem blank_not_word (c : Char) (blank : Text.isBlank c) : Text.isWord c = false :=
  Text.blank_outside Text.isWord (by decide +kernel) c blank

theorem special_not_word (c : Char) (special : isSpecial c) : Text.isWord c = false := by
  rw [isSpecial, Bool.or_eq_true] at special
  rcases special with mark | blank
  · have none : "-\\\x7b\x7d*+?|^$.,[]()#".toList.all fun mark => Text.isWord mark == false := by decide
    exact beq_iff_eq.mp (List.all_eq_true.mp none c (List.contains_iff_mem.mp mark))
  · exact blank_not_word c blank

theorem metacharacter_special (c : Char) (meaning : c ∈ metacharacters) : isSpecial c := by
  have all : metacharacters.all isSpecial := by decide
  exact List.all_eq_true.mp all c meaning

end Characters

section Escaping

def Sign.of (c : Char) : Sign := if isSpecial c then .pair c else .plain c

theorem sign_of_literal (c : Char) : (Sign.of c).Literal := by
  rw [Sign.of]
  split
  · exact special_not_word c ‹_›
  · exact fun meaning => absurd (metacharacter_special c meaning) ‹_›

theorem sign_of_text (c : Char) : (Sign.of c).text = [c] := by
  rw [Sign.of]
  split <;> rfl

theorem escape_written (text : List Char) : escape text = (text.map Sign.of).flatMap Sign.written := by
  induction text with
  | nil => rfl
  | cons c rest ih =>
      rw [escape, List.map_cons, List.flatMap_cons, ih, Sign.of]
      split <;> rfl

theorem signs_of_escape (text : List Char) : signsOf (escape text) = text.map Sign.of := by
  rw [escape_written]
  refine signs_of_written _ fun sign member => ?_
  obtain ⟨c, _, rfl⟩ := List.mem_map.mp member
  exact sign_of_literal c

theorem escape_literal (text : List Char) : ∀ sign ∈ signsOf (escape text), sign.Literal := by
  intro sign member
  rw [signs_of_escape] at member
  obtain ⟨c, _, rfl⟩ := List.mem_map.mp member
  exact sign_of_literal c

theorem escape_text (text : List Char) : (signsOf (escape text)).flatMap Sign.text = text := by
  rw [signs_of_escape]
  induction text with
  | nil => rfl
  | cons c rest ih => rw [List.map_cons, List.flatMap_cons, sign_of_text, ih, List.singleton_append]

/-- Read sign by sign, an escaped text stands for the text and has no other meaning; so with an engine that reads
signs it matches the text, and is found where the text is. -/
theorem escaped_text_inert (text : List Char) :
    (∀ sign ∈ signsOf (escape text), sign.Literal) ∧
      (signsOf (escape text)).flatMap Sign.text = text ∧
      (∀ other, escape other = escape text → other = text) ∧
      ∀ engine : Engine, engine.ReadsSigns →
        (∀ before found after, engine.Matches (escape text) before found after ↔ found = text) ∧
        ∀ before after span, engine.spanAfter (escape text) before after = some span ↔
          ∃ skipped, StandsFirst text after skipped ∧
            span = (byteLength (before ++ skipped), byteLength (before ++ skipped ++ text)) := by
  have literal := escape_literal text
  refine ⟨literal, escape_text text, fun other same => ?_, fun engine reads => ⟨?_, ?_⟩⟩
  · rw [← escape_text other, same, escape_text]
  · intro before found after
    have matched := literal_matches_iff engine reads _ literal before found after
    rwa [signs_written, escape_text] at matched
  · intro before after span
    have found := literal_found_iff engine reads _ literal before after span
    rwa [signs_written, escape_text] at found

theorem escaped_digit_found :
    Engine.backtracking.spanAfter (escape "\\1 [\n\u2028".toList) "a".toList "b\\1 [\n\u2028.".toList =
      some (2, 10) := by
  have inert := escaped_text_inert "\\1 [\n\u2028".toList
  refine ((inert.2.2.2 .backtracking backtracking_reads_signs).2 _ _ _).mpr ⟨['b'], ?_, by decide⟩
  exact (stands_first_further _ _ _ 'b' (by decide)).mpr ⟨[], rfl, (stands_first_here _ ['.'] []).mpr rfl⟩

end Escaping

end LineScope.Pattern
