import LineScope.Selector.Match
import Mathlib.Order.Defs.Unbundled

set_option autoImplicit false

namespace LineScope.Selector

section Segments

def dotSegments (name : String) : List (List Char) := name.toList.splitOn '.'

theorem split_at_dots (text : List Char) : ∃ head tail, text.splitOn '.' = head :: tail :=
  List.exists_cons_of_ne_nil (List.splitOnP_ne_nil _ text)

theorem split_at_dots_dot (text : List Char) : ('.' :: text).splitOn '.' = [] :: text.splitOn '.' := by
  simp [List.splitOn, List.splitOnP_cons_eq_if_modifyHead]

theorem split_at_dots_char (c : Char) (text head : List Char) (tail : List (List Char)) (plain : c ≠ '.')
    (split : text.splitOn '.' = head :: tail) : (c :: text).splitOn '.' = (c :: head) :: tail := by
  rw [List.splitOn] at split
  simp [List.splitOn, List.splitOnP_cons_eq_if_modifyHead, plain, split]

theorem extends_by_segments_iff (text stem : List Char) :
    extendsBySegments text stem = true ↔ stem.splitOn '.' <+: text.splitOn '.' := by
  fun_induction extendsBySegments text stem with
  | case1 => simp
  | case2 c text =>
      obtain ⟨head, tail, split⟩ := split_at_dots text
      by_cases dot : c = '.'
      · subst dot
        simp [split_at_dots_dot]
      · simp [split_at_dots_char c text head tail dot split, dot]
  | case3 d stem =>
      obtain ⟨head, tail, split⟩ := split_at_dots stem
      by_cases dot : d = '.'
      · subst dot
        simp [split_at_dots_dot, split]
      · simp [split_at_dots_char d stem head tail dot split]
  | case4 c text d stem ih =>
      obtain ⟨first, others, textSplit⟩ := split_at_dots text
      obtain ⟨head, tail, stemSplit⟩ := split_at_dots stem
      rw [Bool.and_eq_true, beq_iff_eq, ih]
      by_cases textDot : c = '.' <;> by_cases stemDot : d = '.'
      · subst textDot stemDot
        simp [split_at_dots_dot, List.cons_prefix_cons]
      · subst textDot
        simp [split_at_dots_dot, split_at_dots_char d stem head tail stemDot stemSplit, List.cons_prefix_cons,
          Ne.symm stemDot]
      · subst stemDot
        simp [split_at_dots_dot, split_at_dots_char c text first others textDot textSplit, List.cons_prefix_cons, textDot]
      · rw [split_at_dots_char c text first others textDot textSplit, split_at_dots_char d stem head tail stemDot stemSplit,
          textSplit, stemSplit]
        simp only [List.cons_prefix_cons, List.cons.injEq]
        grind

theorem has_stem_iff (scope stem : String) : hasStem scope stem = true ↔ dotSegments stem <+: dotSegments scope :=
  extends_by_segments_iff scope.toList stem.toList

theorem split_at_dots_length (text : List Char) : (text.splitOn '.').length = text.count '.' + 1 := by
  induction text with
  | nil => rfl
  | cons c text ih =>
      by_cases dot : c = '.'
      · subst dot
        rw [split_at_dots_dot, List.length_cons, ih, List.count_cons_self]
      · obtain ⟨head, tail, split⟩ := split_at_dots text
        rw [split] at ih
        rw [split_at_dots_char c text head tail dot split, List.length_cons, List.count_cons_of_ne dot, ← ih,
          List.length_cons]

theorem segments_injective (one other : String) (same : dotSegments one = dotSegments other) : one = other := by
  have joined := congrArg (List.intercalate ['.']) same
  rw [dotSegments, dotSegments, List.intercalate_splitOn, List.intercalate_splitOn] at joined
  exact String.toList_inj.mp joined

end Segments

section Bytes

def bytesOf (name : String) : List UInt8 := name.toByteArray.data.toList

-- Enough bytes for the stem, the bytes of the stem first, and then the end or the byte of a dot.
def fitsBytes (scope stem : List UInt8) : Bool :=
  if enough : stem.length ≤ scope.length then
    stem.isPrefixOf scope &&
      if longer : scope.length = stem.length then true
      else
        have inside : stem.length < scope.length := by omega
        scope[stem.length] == 46
  else false

theorem bytes_append (one other : String) : bytesOf (one ++ other) = bytesOf one ++ bytesOf other := by
  simp [bytesOf]

theorem bytes_eq_iff (one other : String) : bytesOf one = bytesOf other ↔ one = other := by
  rw [bytesOf, bytesOf, Array.toList_inj, ← ByteArray.ext_iff, String.toByteArray_inj]

-- Decoding goes from left to right, so bytes that begin like those of a text begin with the text.
theorem bytes_prefix_iff (one other : String) : bytesOf one <+: bytesOf other ↔ one.toList <+: other.toList := by
  constructor
  · rintro ⟨bytes, joined⟩
    refine List.isPrefix_of_utf8Encode_append_eq_utf8Encode ⟨bytes.toArray⟩ ?_
    rw [String.utf8Encode_toList, String.utf8Encode_toList]
    refine ByteArray.ext (Array.toList_inj.mp ?_)
    rw [ByteArray.data_append, Array.toList_append]
    exact joined
  · rintro ⟨more, joined⟩
    refine ⟨bytesOf (String.ofList more), ?_⟩
    rw [← bytes_append, bytes_eq_iff, ← String.toList_inj, String.toList_append, String.toList_ofList, joined]

theorem fits_bytes_iff (scope stem : List UInt8) :
    fitsBytes scope stem = true ↔ stem = scope ∨ stem ++ [46] <+: scope := by
  constructor
  · intro fits
    rw [fitsBytes] at fits
    split at fits
    · obtain ⟨isPrefix, next⟩ := Bool.and_eq_true_iff.mp fits
      obtain ⟨more, rfl⟩ := List.isPrefixOf_iff_prefix.mp isPrefix
      cases more with
      | nil => exact .inl (List.append_nil stem).symm
      | cons byte more =>
          rw [dif_neg (by simp)] at next
          have dot : byte = 46 := by simpa using next
          exact .inr ⟨more, by simp [dot]⟩
    · cases fits
  · rintro (rfl | ⟨more, rfl⟩)
    · simp [fitsBytes]
    · simp [fitsBytes]

theorem extends_by_segments_cases (text stem : List Char) :
    extendsBySegments text stem = true ↔ stem = text ∨ stem ++ ['.'] <+: text := by
  fun_induction extendsBySegments text stem with
  | case1 => simp
  | case2 c text => simp [List.cons_prefix_cons, @eq_comm _ c]
  | case3 d stem => simp
  | case4 c text d stem ih =>
      rw [Bool.and_eq_true, beq_iff_eq, ih, List.cons_append, List.cons_prefix_cons, List.cons.injEq]
      grind

theorem has_stem_bytes (scope stem : String) : hasStem scope stem = fitsBytes (bytesOf scope) (bytesOf stem) := by
  have dotted : bytesOf stem ++ [46] = bytesOf (stem ++ ".") := (bytes_append stem ".").symm
  rw [Bool.eq_iff_iff, hasStem, extends_by_segments_cases, fits_bytes_iff, dotted, bytes_prefix_iff, bytes_eq_iff,
    String.toList_inj, String.toList_append]
  rfl

end Bytes

/-- Fitting by segments, which is what a scan of the bytes decides, is an order of the names, with a stem below the
scopes that it fits. -/
theorem stem_fits_leading_segments :
    (∀ scope stem : String, hasStem scope stem = true ↔ dotSegments stem <+: dotSegments scope) ∧
      (∀ scope stem : String, hasStem scope stem = fitsBytes (bytesOf scope) (bytesOf stem)) ∧
      (∀ name : String, segmentCount name = (dotSegments name).length) ∧
      IsPartialOrder String fun stem scope => hasStem scope stem = true := by
  refine ⟨has_stem_iff, has_stem_bytes, fun name => (split_at_dots_length name.toList).symm, ?_⟩
  simp only [has_stem_iff]
  exact {
    refl := fun name => List.prefix_rfl
    trans := fun _ _ _ => List.IsPrefix.trans
    antisymm := fun one other before after =>
      segments_injective one other (before.eq_of_length (Nat.le_antisymm before.length_le after.length_le)) }

-- After a dot at the end there is one more segment, an empty one.
example : hasStem "a..b" "a." = true ∧ hasStem "a.b" "a." = false ∧ hasStem "ä.b" "ä" = true := by decide

end LineScope.Selector
