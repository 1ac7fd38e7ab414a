import LineScope.Proofs.Pattern.TopLevel
import LineScope.Proofs.Text.Reading
import Mathlib.Data.List.Basic
import Mathlib.Data.List.TakeWhile

set_option autoImplicit false

namespace LineScope.Pattern

open Scan (between within)

section Inert

def isInert (c : Char) : Bool := !"\\()[]|#".toList.contains c

theorem inert_of (accepts : Char → Bool) (others : "\\()[]|#".toList.all fun c => !accepts c) (c : Char)
    (accepted : accepts c) : isInert c := by
  cases mark : "\\()[]|#".toList.contains c with
  | false => rw [isInert, mark]; rfl
  | true =>
      have refused := List.all_eq_true.mp others c (List.contains_iff_mem.mp mark)
      rw [accepted] at refused
      cases refused

theorem digit_inert (c : Char) (digit : c.isDigit) : isInert c := inert_of Char.isDigit (by decide) c digit

theorem octal_inert (c : Char) (digit : isOctalDigit c) : isInert c := inert_of isOctalDigit (by decide) c digit

theorem hex_inert (c : Char) (digit : Text.isHexDigit c) : isInert c := inert_of Text.isHexDigit (by decide) c digit

theorem name_char_inert (c : Char) (word : isNameChar c) : isInert c := inert_of isNameChar (by decide) c word

def Skims (text rest : List Char) : Prop := ∃ taken, text = taken ++ rest ∧ ∀ c ∈ taken, isInert c

variable {text middle rest : List Char}

theorem skims_refl (text : List Char) : Skims text text := ⟨[], rfl, fun _ member => nomatch member⟩

theorem skims_cons (c : Char) (inert : isInert c) (skims : Skims text rest) : Skims (c :: text) rest := by
  obtain ⟨taken, rfl, inerts⟩ := skims
  exact ⟨c :: taken, rfl, List.forall_mem_cons.mpr ⟨inert, inerts⟩⟩

theorem skims_append (taken : List Char) (inert : ∀ c ∈ taken, isInert c) (skims : Skims text rest) :
    Skims (taken ++ text) rest := by
  obtain ⟨further, rfl, inerts⟩ := skims
  refine ⟨taken ++ further, (List.append_assoc ..).symm, fun c member => ?_⟩
  exact (List.mem_append.mp member).elim (inert c) (inerts c)

theorem skims_trans (first : Skims text middle) (second : Skims middle rest) : Skims text rest := by
  obtain ⟨taken, rfl, inert⟩ := first
  exact skims_append taken inert second

theorem divides_skimmed (scan : Scan) (still : ∀ c, isInert c → scan.step c = scan) (skims : Skims text rest) :
    scan.divides text = scan.divides rest := by
  obtain ⟨taken, rfl, inert⟩ := skims
  induction taken with
  | nil => rfl
  | cons c taken ih =>
      obtain ⟨here, others⟩ := List.forall_mem_cons.mp inert
      have other : c ≠ '\\' := fun same => absurd (same ▸ here) (by decide)
      rw [List.cons_append, divides_cons scan c _ other, still c here, ih others]

theorem divides_as (first second : Scan) (text : List Char) (outside : first.place ≠ .lineComment)
    (outsideToo : second.place ≠ .lineComment) (undivided : (first.place == .divided) = (second.place == .divided))
    (same : ∀ c rest, text = c :: rest → first.step c = second.step c) : first.divides text = second.divides text := by
  cases text with
  | nil => rw [Scan.divides, Scan.divides, undivided]
  | cons c rest =>
      have step := same c rest rfl
      by_cases backslash : c = '\\'
      · subst backslash
        cases rest with
        | nil =>
            have alone : ∀ scan : Scan, scan.divides ['\\'] = (scan.step '\\').divides [] := fun _ => rfl
            rw [alone, alone, step]
        | cons d rest => rw [Scan.divides, Scan.divides, Scan.pair, Scan.pair, if_neg outside, if_neg outsideToo, step]
      · rw [divides_cons _ _ _ backslash, divides_cons _ _ _ backslash, step]

variable (extended : Bool) (outer : List Bool)

theorem plain_between (c : Char) (opening : c ≠ '(') (bracket : c ≠ '[') (closing : c ≠ ')') (bar : c ≠ '|')
    (mark : extended && c == '#' → False) : (between extended outer).step c = between extended outer := by
  simp only [Scan.step, between, Scan.onPattern]
  split <;> simp_all

theorem inert_between (c : Char) (inert : isInert c) : (between extended outer).step c = between extended outer := by
  have others : ∀ d ∈ "\\()[]|#".toList, c ≠ d := by
    rintro d member rfl
    simp only [isInert, List.contains_iff_mem.mpr member] at inert
    cases inert
  exact plain_between extended outer c (others _ (by decide)) (others _ (by decide)) (others _ (by decide))
    (others _ (by decide)) fun mark => others '#' (by decide) (by simpa using (Bool.and_eq_true_iff.mp mark).2)

theorem inert_within (depth : Nat) (c : Char) (inert : isInert c) :
    (within depth extended outer).step c = within depth extended outer := by
  simp only [Scan.step, within, Scan.onClass]
  split
  · cases inert
  · cases inert
  · rfl

end Inert

section Escapes

variable {text rest : List Char}

theorem take_digits_skims (accepts : Char → Bool) (inert : ∀ c, accepts c → isInert c) (count : Nat) (text : List Char) :
    Skims text (takeDigits accepts count text).2 := by
  fun_induction takeDigits accepts count text with
  | case1 text => exact skims_refl text
  | case2 => exact skims_refl []
  | case3 count c rest accepted digits after found ih =>
      rw [found] at ih
      exact skims_cons c (inert c accepted) ih
  | case4 count c rest refused => exact skims_refl _

theorem drop_digits_skims (text : List Char) : Skims text (text.dropWhile Char.isDigit) :=
  ⟨text.takeWhile Char.isDigit, List.takeWhile_append_dropWhile.symm,
    fun c member => digit_inert c (List.mem_takeWhile_imp member)⟩

theorem digit_octal (c : Char) (digit : c.isDigit) (small : ¬ (c == '8' || c == '9')) : isOctalDigit c := by
  simp only [Char.isDigit, Bool.and_eq_true, decide_eq_true_eq] at digit
  simp only [Bool.or_eq_true, beq_iff_eq, not_or] at small
  have least : '0' ≤ c := digit.1
  have most : c.val.toNat ≤ 57 := UInt32.le_iff_toNat_le.mp digit.2
  have eight : c.val.toNat ≠ 56 := fun same => small.1 (Char.ext (UInt32.toNat_inj.mp same))
  have nine : c.val.toNat ≠ 57 := fun same => small.2 (Char.ext (UInt32.toNat_inj.mp same))
  have seven : c ≤ '7' := UInt32.le_iff_toNat_le.mpr (by change c.val.toNat ≤ 55; omega)
  rw [isOctalDigit, decide_eq_true least, decide_eq_true seven]
  rfl

theorem split_at_char (stop : Char) (text name rest : List Char) (found : splitAtChar stop text = some (name, rest)) :
    text = name ++ stop :: rest := by
  fun_induction splitAtChar stop text generalizing name with
  | case1 => cases found
  | case2 c rest same =>
      cases found
      rw [beq_iff_eq.mp same]
      rfl
  | case3 c after other ih =>
      obtain ⟨⟨inner, last⟩, split, same⟩ := Option.map_eq_some_iff.mp found
      cases same
      rw [ih inner split]
      rfl

theorem known_name_chars_inert : NamedClass.propertyNames.all fun entry => entry.1.toList.all isInert := by
  decide +kernel

theorem known_names_inert (entry : String × NamedClass) (known : entry ∈ NamedClass.propertyNames) :
    ∀ c ∈ entry.1.toList, isInert c :=
  List.all_eq_true.mp (List.all_eq_true.mp known_name_chars_inert entry known)

theorem lookup_known (names : List (String × NamedClass)) (name : List Char) (known : NamedClass)
    (found : names.lookup (String.ofList name) = some known) : ∃ entry ∈ names, entry.1.toList = name := by
  obtain ⟨before, after, rfl, _⟩ := List.lookup_eq_some_iff.mp found
  exact ⟨(String.ofList name, known), by simp, String.toList_ofList⟩

theorem looked_up_inert (name : List Char) (known : NamedClass)
    (found : NamedClass.propertyNames.lookup (String.ofList
      ((name.filter fun c => !(c == ' ' || c == '-' || c == '_')).map Char.toLower)) = some known) :
    ∀ c ∈ name, isInert c := by
  intro c member
  obtain ⟨entry, listed, same⟩ := lookup_known _ _ _ found
  cases mark : "\\()[]|#".toList.contains c with
  | false => rw [isInert, mark]; rfl
  | true =>
      have kept : "\\()[]|#".toList.all fun d => !(d == ' ' || d == '-' || d == '_') && d.toLower == d := by decide
      obtain ⟨stays, small⟩ := Bool.and_eq_true_iff.mp (List.all_eq_true.mp kept c (List.contains_iff_mem.mp mark))
      refine known_names_inert entry listed c ?_
      rw [same]
      exact List.mem_map.mpr ⟨c, List.mem_filter.mpr ⟨member, stays⟩, beq_iff_eq.mp small⟩

theorem property_name_inert (name : List Char) (set : CharSet) (known : propertyOf name = .ok set) :
    ∀ c ∈ name, isInert c := by
  unfold propertyOf at known
  split at known
  rename_i negative bare written
  dsimp only at known
  split at known
  · rename_i found lookup
    have inert := looked_up_inert bare found lookup
    split at written
    · cases written
      exact List.forall_mem_cons.mpr ⟨by decide, inert⟩
    · cases written
      exact inert
  · cases known

theorem property_text_skims (text name rest : List Char) (set : CharSet)
    (closed : splitAtChar '\x7d' text = some (name, rest)) (known : propertyOf name = .ok set) : Skims text rest := by
  rw [split_at_char '\x7d' text name rest closed]
  exact skims_append name (property_name_inert name set known) (skims_cons '\x7d' (by decide) (skims_refl rest))

theorem char_read (action : Except ParseError Char) (rest after : List Char) (escape : Escape)
    (read : (do let char ← action; pure (Escape.char char, rest)) = .ok (escape, after)) : after = rest := by
  obtain ⟨char, _, same⟩ := bind_ok read
  cases same
  rfl

theorem common_escape_skims (c : Char) (rest after : List Char) (escape : Escape)
    (read : commonEscape c rest = .ok (escape, after)) : Skims rest after := by
  unfold commonEscape at read
  split at read
  case h_16 | h_17 =>
    split at read
    · rename_i text
      split at read
      · cases read
      · rename_i name last closed
        obtain ⟨set, known, same⟩ := bind_ok read
        cases same
        exact skims_cons _ (by decide) (property_text_skims text name _ set closed known)
    · cases read
      exact skims_refl _
  case h_18 =>
    split at read
    · rename_i inner
      have digits := take_digits_skims Text.isHexDigit hex_inert 8 inner
      split at read
      rename_i taken last split
      rw [split] at digits
      split at read
      · split at read
        · cases read
        · rw [char_read _ _ _ _ read]
          exact skims_cons _ (by decide) (skims_trans digits (skims_cons _ (by decide) (skims_refl _)))
      · rw [char_read _ _ _ _ read]
        exact skims_refl _
    · have digits := take_digits_skims Text.isHexDigit hex_inert 2 rest
      split at read
      rename_i taken last split
      rw [split] at digits
      rw [char_read _ _ _ _ read]
      exact digits
  case h_19 =>
    have digits := take_digits_skims Text.isHexDigit hex_inert 4 rest
    split at read
    rename_i taken last split
    rw [split] at digits
    split at read
    · cases read
    · rw [char_read _ _ _ _ read]
      exact digits
  all_goals
    cases read
    exact skims_refl _

theorem octal_escape_skims (c : Char) (rest after : List Char) (escape : Escape) (octal : isOctalDigit c)
    (read : octalEscape (c :: rest) = .ok (escape, after)) : Skims rest after := by
  have digits := take_digits_skims isOctalDigit octal_inert 2 rest
  rw [octalEscape, takeDigits, if_pos octal] at read
  dsimp only at read
  split at read
  · cases read
  · rw [char_read _ _ _ _ read]
    exact digits

theorem class_escape_skims (c : Char) (rest after : List Char) (escape : Escape)
    (read : classEscape c rest = .ok (escape, after)) : Skims rest after := by
  rw [classEscape] at read
  split at read
  · cases read
    exact skims_refl _
  · split at read
    · exact octal_escape_skims c rest after escape ‹_› read
    · exact common_escape_skims c rest after escape read

-- A name that was given to a group has only word characters; what else stands before the end of a reference are
-- digits and a sign.
def Tame (names : List (List Char × Nat)) : Prop := ∀ entry ∈ names, ∀ c ∈ entry.1, isInert c

theorem split_at_char_skims (stop : Char) (text name rest : List Char) (mark : isInert stop)
    (inert : ∀ c ∈ name, isInert c) (found : splitAtChar stop text = some (name, rest)) : Skims text rest := by
  rw [split_at_char stop text name rest found]
  exact skims_append name inert (skims_cons stop mark (skims_refl rest))

theorem group_name_inert (stop : Char) (text name rest : List Char) (mark : isInert stop)
    (read : groupName stop text = .ok (name, rest)) : (∀ c ∈ name, isInert c) ∧ Skims text rest := by
  unfold groupName at read
  split at read
  · cases read
  · cases read
  · rename_i c name last found
    split at read
    · cases read
    · rename_i first
      split at read
      · rename_i others
        cases read
        simp only [Bool.or_eq_true, not_or, Bool.not_eq_true', Bool.not_eq_false] at first
        have inert : ∀ d ∈ c :: name, isInert d := List.forall_mem_cons.mpr
          ⟨name_char_inert c first.2, fun d member => name_char_inert d (List.all_eq_true.mp others d member)⟩
        exact ⟨inert, split_at_char_skims stop text _ _ mark inert found⟩
      · cases read

theorem named_tame (names : List (List Char × Nat)) (tame : Tame names) (stop : Char) (text name rest : List Char)
    (index : Nat) (mark : isInert stop) (read : groupName stop text = .ok (name, rest)) :
    Tame (names ++ [(name, index)]) := by
  intro entry member
  rcases List.mem_append.mp member with old | new
  · exact tame entry old
  · cases List.mem_singleton.mp new
    exact (group_name_inert stop text name rest mark read).1

theorem known_name_inert (reader : Reader) (tame : Tame reader.names) (name : List Char)
    (known : (reader.names.filter fun entry => decide (entry.1 = name)).map Prod.snd ≠ []) : ∀ c ∈ name, isInert c := by
  obtain ⟨index, member⟩ := List.exists_mem_of_ne_nil _ known
  obtain ⟨entry, listed, _⟩ := List.mem_map.mp member
  obtain ⟨listed, same⟩ := List.mem_filter.mp listed
  exact of_decide_eq_true same ▸ tame entry listed

theorem named_reference_skims (options : Options) (stop : Char) (reader after : Reader) (text : List Char) (node : Node)
    (mark : isInert stop) (tame : Tame reader.names)
    (read : namedReference options stop reader text = .ok (node, after)) :
    Skims text after.rest ∧ after.names = reader.names := by
  unfold namedReference at read
  cases found : splitAtChar stop text with
  | none =>
      rw [found] at read
      cases read
  | some split =>
      obtain ⟨name, rest⟩ := split
      have skims := split_at_char_skims stop text name rest mark
      cases name with
      | nil =>
          rw [found] at read
          cases read
      | cons first name =>
          rw [found] at read
          obtain ⟨_, same, read⟩ := bind_ok read
          cases same
          dsimp only at read
          split at read
          · rename_i digits same
            cases same
            split at read
            · cases read
            · rename_i written
              split at read
              · cases read
              · cases read
                simp only [Bool.or_eq_true, not_or, Bool.not_eq_true', Bool.not_eq_false, List.all_eq_true] at written
                have digits := fun c member => digit_inert c (written.2 c member)
                exact ⟨skims (List.forall_mem_cons.mpr ⟨by decide, digits⟩) found, rfl⟩
          · split at read
            · rename_i written
              split at read
              · cases read
              · cases read
                exact ⟨skims (fun c member => digit_inert c (List.all_eq_true.mp written c member)) found, rfl⟩
            · split at read
              · cases read
              · rename_i known
                cases read
                exact ⟨skims (known_name_inert reader tame _ known) found, rfl⟩

theorem escape_node_skims (options : Options) (reader after : Reader) (c : Char) (rest : List Char) (node : Node)
    (tame : Tame reader.names) (read : escapeNode options reader c rest = .ok (node, after)) :
    Skims rest after.rest ∧ after.names = reader.names := by
  unfold escapeNode at read
  split at read
  case h_7 =>
    split at read
    · obtain ⟨skims, same⟩ := named_reference_skims options _ reader after _ node (by decide) tame read
      exact ⟨skims_cons _ (by decide) skims, same⟩
    · obtain ⟨skims, same⟩ := named_reference_skims options _ reader after _ node (by decide) tame read
      exact ⟨skims_cons _ (by decide) skims, same⟩
    · obtain ⟨⟨escape, last⟩, taken, read⟩ := bind_ok read
      have skims := common_escape_skims _ rest last escape taken
      cases escape <;> cases read <;> exact ⟨skims, rfl⟩
  case h_8 =>
    obtain ⟨⟨escape, last⟩, taken, read⟩ := bind_ok read
    have skims := octal_escape_skims _ rest last escape (by decide) taken
    cases escape <;> cases read <;> exact ⟨skims, rfl⟩
  case h_9 =>
    split at read
    · rename_i digit
      dsimp only at read
      split at read
      · cases read
        rw [List.dropWhile_cons_of_pos digit]
        exact ⟨drop_digits_skims rest, rfl⟩
      · split at read
        · cases read
          exact ⟨skims_refl _, rfl⟩
        · rename_i small
          obtain ⟨⟨escape, last⟩, taken, read⟩ := bind_ok read
          have skims := octal_escape_skims c rest last escape (digit_octal c digit small) taken
          cases escape <;> cases read <;> exact ⟨skims, rfl⟩
    · obtain ⟨⟨escape, last⟩, taken, read⟩ := bind_ok read
      have skims := common_escape_skims c rest last escape taken
      cases escape <;> cases read <;> exact ⟨skims, rfl⟩
  all_goals
    cases read
    exact ⟨skims_refl _, rfl⟩

end Escapes

section Quantifiers

variable {text rest : List Char}

theorem greed_sign_skims (text : List Char) : Skims text (greedSign text).2 := by
  unfold greedSign
  split
  · exact skims_cons _ (by decide) (skims_refl _)
  · exact skims_cons _ (by decide) (skims_refl _)
  · exact skims_refl _

theorem bounded_quantifier_skims (least : Nat) (most : Option Nat) (exact : Bool) (text rest : List Char)
    (found : Quantifier) (read : (pure (some (boundedQuantifier least most exact text)) :
      Except ParseError (Option (Quantifier × List Char))) = .ok (some (found, rest))) : Skims text rest := by
  have same : boundedQuantifier least most exact text = (found, rest) := Option.some.inj (Except.ok.inj read)
  unfold boundedQuantifier at same
  split at same
  · split at same
    · cases same
      exact skims_refl _
    · split at same
      · cases same
        exact skims_cons _ (by decide) (skims_refl _)
      · cases same
        exact skims_refl _
  · split at same
    · cases same
      exact skims_cons _ (by decide) (skims_refl _)
    · cases same
      exact skims_refl _

theorem interval_skims (text rest : List Char) (found : Quantifier)
    (read : interval text = .ok (some (found, rest))) : Skims text rest := by
  have lower := drop_digits_skims text
  unfold interval at read
  dsimp only at read
  split at read
  · cases read
  · split at read
    · rename_i afterComma comma
      rw [comma] at lower
      have upper := drop_digits_skims afterComma
      refine skims_trans lower (skims_cons _ (by decide) (skims_trans upper ?_))
      split at read
      · cases read
      · split at read
        · rename_i last brace
          rw [brace]
          refine skims_cons _ (by decide) ?_
          split at read
          · split at read
            · cases read
            · exact bounded_quantifier_skims _ _ _ last rest found read
          · exact bounded_quantifier_skims _ _ _ last rest found read
        · cases read
    · rename_i last brace
      rw [brace] at lower
      refine skims_trans lower (skims_cons _ (by decide) ?_)
      split at read
      · cases read
      · exact bounded_quantifier_skims _ _ _ last rest found read
    · cases read

theorem quantifier_skims (text rest : List Char) (found : Quantifier)
    (read : quantifier text = .ok (some (found, rest))) : Skims text rest := by
  unfold quantifier at read
  split at read
  case h_1 | h_2 | h_3 =>
    cases read
    exact skims_cons _ (by decide) (greed_sign_skims _)
  case h_4 => exact skims_cons _ (by decide) (interval_skims _ rest found read)
  case h_5 => cases read

end Quantifiers

end LineScope.Pattern
