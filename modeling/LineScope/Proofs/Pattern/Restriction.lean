import LineScope.Pattern.Anchor
import Mathlib.Data.List.TakeWhile

set_option autoImplicit false

namespace LineScope.Pattern

section Variants

variable (source : List Char) (anchors : Anchors)

theorem restrict_without_anchor (plain : hasAnchor source = false) : restrictAnchors anchors source = source := by
  fun_induction hasAnchor source with
  | case1 escaped rest ih =>
      simp only [Bool.or_eq_false_iff, beq_eq_false_iff_ne] at plain
      obtain ⟨⟨notTop, notStart⟩, others⟩ := plain
      have allowed : anchors.forbids escaped = false := by simp [Anchors.forbids, notTop, notStart]
      rw [restrictAnchors, allowed, ih others]
      rfl
  | case2 c rest single ih =>
      rw [restrictAnchors, ih plain]
      exact single
  | case3 => rfl

theorem restrict_nothing : restrictAnchors ⟨true, true⟩ source = source := by
  fun_induction hasAnchor source with
  | case1 escaped rest ih =>
      have allowed : Anchors.forbids ⟨true, true⟩ escaped = false := by simp [Anchors.forbids]
      rw [restrictAnchors, allowed, ih]
      rfl
  | case2 c rest single ih =>
      rw [restrictAnchors, ih]
      exact single
  | case3 => rfl

theorem variant_restricts : variant source anchors = restrictAnchors anchors source := by
  rw [variant]
  split
  · rfl
  · rename_i needless
    cases plain : hasAnchor source with
    | false => exact (restrict_without_anchor source anchors plain).symm
    | true =>
        obtain ⟨firstLine, searchStart⟩ := anchors
        have free : firstLine = true ∧ searchStart = true := by simpa [plain] using needless
        rw [free.1, free.2]
        exact (restrict_nothing source).symm

end Variants

section Characters

variable (anchors : Anchors)

theorem forbids_anchor (escaped : Char) (forbidden : anchors.forbids escaped) : escaped = 'A' ∨ escaped = 'G' := by
  simp only [Anchors.forbids, Bool.or_eq_true, Bool.and_eq_true, beq_iff_eq] at forbidden
  exact forbidden.imp And.left And.left

theorem restrict_plain (c : Char) (rest : List Char) (other : c ≠ '\\') :
    restrictAnchors anchors (c :: rest) = c :: restrictAnchors anchors rest := by
  rw [restrictAnchors]
  exact fun _ _ same _ => other same

theorem restricted_head (text after : List Char) (c : Char) (other : c ≠ '\\') (written : c ≠ neverMatches)
    (starts : restrictAnchors anchors text = c :: after) :
    ∃ rest, text = c :: rest ∧ after = restrictAnchors anchors rest := by
  fun_cases restrictAnchors anchors text with
  | case1 escaped rest forbidden =>
      rw [restrictAnchors, if_pos forbidden] at starts
      exact absurd (List.cons.inj starts).1.symm written
  | case2 escaped rest allowed =>
      rw [restrictAnchors, if_neg allowed] at starts
      exact absurd (List.cons.inj starts).1.symm other
  | case3 d rest apart =>
      rw [restrictAnchors] at starts
      · obtain ⟨rfl, rfl⟩ := List.cons.inj starts
        exact ⟨rest, rfl, rfl⟩
      · exact apart
  | case4 => cases starts

theorem restricted_starts {holds : List Char → Prop} (text : List Char) (c : Char) (other : c ≠ '\\')
    (written : c ≠ neverMatches) :
    (∃ after, restrictAnchors anchors text = c :: after ∧ holds after) ↔
      ∃ rest, text = c :: rest ∧ holds (restrictAnchors anchors rest) := by
  constructor
  · rintro ⟨after, starts, held⟩
    obtain ⟨rest, same, rfl⟩ := restricted_head anchors text after c other written starts
    exact ⟨rest, same, held⟩
  · rintro ⟨rest, rfl, held⟩
    exact ⟨_, restrict_plain anchors c rest other, held⟩

theorem restricted_runs (accepts : Char → Bool) (text : List Char) (backslash : accepts '\\' = false)
    (written : accepts neverMatches = false) :
    (restrictAnchors anchors text).takeWhile accepts = text.takeWhile accepts ∧
      (restrictAnchors anchors text).dropWhile accepts = restrictAnchors anchors (text.dropWhile accepts) := by
  fun_induction restrictAnchors anchors text with
  | case1 escaped rest forbidden ih => simp [written, backslash, restrictAnchors, forbidden]
  | case2 escaped rest allowed ih => simp [backslash, restrictAnchors, allowed]
  | case3 c rest apart ih =>
      by_cases accepted : accepts c
      · simp [accepted, ih]
      · simp only [List.takeWhile_cons_of_neg accepted, List.dropWhile_cons_of_neg accepted, true_and]
        rw [restrictAnchors]
        exact apart
  | case4 => exact ⟨rfl, rfl⟩

end Characters

section Coherence

def Anchors.both (first second : Anchors) : Anchors :=
  ⟨first.firstLine && second.firstLine, first.searchStart && second.searchStart⟩

theorem both_forbids (first second : Anchors) (escaped : Char) :
    (first.both second).forbids escaped = (first.forbids escaped || second.forbids escaped) := by
  simp only [Anchors.forbids, Anchors.both, Bool.not_and, Bool.and_or_distrib_left]
  ac_rfl

-- What has replaced an anchor is a plain character, so the pairs after it are read as before.
theorem restrict_restrict (first second : Anchors) (source : List Char) :
    restrictAnchors second (restrictAnchors first source) = restrictAnchors (first.both second) source := by
  fun_induction restrictAnchors first source with
  | case1 escaped rest forbidden ih =>
      have either : (first.both second).forbids escaped = true := by rw [both_forbids, forbidden, Bool.true_or]
      rw [restrict_plain second neverMatches _ (by decide), ih, restrictAnchors, if_pos either]
  | case2 escaped rest allowed ih =>
      have same : (first.both second).forbids escaped = second.forbids escaped := by
        rw [both_forbids, Bool.eq_false_iff.mpr allowed, Bool.false_or]
      rw [restrictAnchors, restrictAnchors, same, ih]
  | case3 c rest apart ih =>
      rw [restrictAnchors, restrictAnchors, ih]
      · exact apart
      · intro escaped after same starts
        -- Nothing follows a backslash that no pair starts with.
        cases rest with
        | nil => cases starts
        | cons d rest => exact apart d rest same rfl
  | case4 => rfl

-- Variants are kept by a number, which is the same for all anchors where a pattern has none.
def slot (source : List Char) (anchors : Anchors) : Nat :=
  if hasAnchor source then 2 * anchors.firstLine.toNat + anchors.searchStart.toNat else 3

theorem slot_variant (source : List Char) (first second : Anchors) (same : slot source first = slot source second) :
    variant source first = variant source second := by
  cases plain : hasAnchor source with
  | false =>
      rw [variant, variant, plain, Bool.false_and, Bool.false_and]
      rfl
  | true =>
      obtain ⟨firstLine, searchStart⟩ := first
      obtain ⟨secondLine, secondStart⟩ := second
      rw [slot, slot, plain] at same
      cases firstLine <;> cases searchStart <;> cases secondLine <;> cases secondStart <;> first | rfl | cases same

/-- The variants of a pattern fit together: whether one is made or not, a variant is the pattern without the anchors
that may not hold, the one under a number is right for all who share the number, and leaving out anchors twice leaves
out those of both times. -/
theorem anchor_variants_coherent (source : List Char) :
    (∀ anchors, variant source anchors = restrictAnchors anchors source) ∧
      (∀ first second, slot source first = slot source second → variant source first = variant source second) ∧
      restrictAnchors ⟨true, true⟩ source = source ∧
      ∀ first second,
        restrictAnchors second (restrictAnchors first source) = restrictAnchors (first.both second) source :=
  ⟨variant_restricts source, slot_variant source, restrict_nothing source,
    fun first second => restrict_restrict first second source⟩

theorem escaped_backslash_shares_slot :
    slot "\\\\A\\".toList ⟨false, false⟩ = slot "\\\\A\\".toList ⟨true, false⟩ ∧
      variant "\\\\A\\".toList ⟨false, false⟩ = variant "\\\\A\\".toList ⟨true, false⟩ := by
  have same : slot "\\\\A\\".toList ⟨false, false⟩ = slot "\\\\A\\".toList ⟨true, false⟩ := by decide
  exact ⟨same, (anchor_variants_coherent "\\\\A\\".toList).2.1 ⟨false, false⟩ ⟨true, false⟩ same⟩

end Coherence

end LineScope.Pattern
