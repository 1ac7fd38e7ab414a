import LineScope.Text.Offset

set_option autoImplicit false

namespace LineScope.Text

theorem byte_length_append (before after : List Char) :
    byteLength (before ++ after) = byteLength before + byteLength after := by
  induction before with
  | nil => simp [byteLength]
  | cons c rest ih =>
      simp only [List.cons_append, byteLength, ih]
      omega

theorem length_le_byte_length (text : List Char) : text.length ≤ byteLength text := by
  induction text with
  | nil => simp
  | cons c rest ih =>
      have size := c.utf8Size_pos
      simp only [List.length_cons, byteLength]
      omega

theorem byte_length_eq_zero {text : List Char} (empty : byteLength text = 0) : text = [] := by
  have bound := length_le_byte_length text
  exact List.length_eq_zero_iff.mp (by omega)

theorem is_boundary_cons (offset : Nat) (c : Char) (rest : List Char) :
    IsBoundary (c.utf8Size + offset) (c :: rest) ↔ IsBoundary offset rest := by
  have size := c.utf8Size_pos
  obtain ⟨count, sum⟩ : ∃ count, c.utf8Size + offset = count + 1 := ⟨c.utf8Size + offset - 1, by omega⟩
  rw [sum, IsBoundary, ← sum, Nat.add_sub_cancel_left]
  exact ⟨And.right, fun boundary => ⟨by omega, boundary⟩⟩

-- The characterization that the rest of the theory uses in place of the recursion on bytes.
theorem is_boundary_iff (offset : Nat) (text : List Char) :
    IsBoundary offset text ↔ ∃ before after, text = before ++ after ∧ byteLength before = offset := by
  constructor
  · intro boundary
    induction text generalizing offset with
    | nil =>
        cases offset with
        | zero => exact ⟨[], [], rfl, rfl⟩
        | succ count => exact False.elim boundary
    | cons c rest ih =>
        cases offset with
        | zero => exact ⟨[], c :: rest, rfl, rfl⟩
        | succ count =>
            obtain ⟨before, after, split, length⟩ := ih _ boundary.2
            have fits := boundary.1
            exact ⟨c :: before, after, by rw [split, List.cons_append], by
              simp only [byteLength, length]
              omega⟩
  · rintro ⟨before, after, rfl, rfl⟩
    induction before with
    | nil => simp [byteLength, IsBoundary]
    | cons c rest ih => exact (is_boundary_cons _ c (rest ++ after)).mpr ih

theorem is_boundary_zero (text : List Char) : IsBoundary 0 text := by
  cases text <;> trivial

theorem is_boundary_split (before after : List Char) :
    IsBoundary (byteLength before) (before ++ after) :=
  (is_boundary_iff _ _).mpr ⟨before, after, rfl, rfl⟩

theorem is_boundary_end (text : List Char) : IsBoundary (byteLength text) text := by
  simpa using is_boundary_split text []

theorem is_boundary_le {offset : Nat} {text : List Char} (boundary : IsBoundary offset text) :
    offset ≤ byteLength text := by
  obtain ⟨before, after, rfl, rfl⟩ := (is_boundary_iff _ _).mp boundary
  rw [byte_length_append]
  omega

theorem is_boundary_append {offset : Nat} {before : List Char} (after : List Char)
    (boundary : IsBoundary offset before) : IsBoundary offset (before ++ after) := by
  obtain ⟨first, second, rfl, rfl⟩ := (is_boundary_iff _ _).mp boundary
  rw [List.append_assoc]
  exact is_boundary_split first (second ++ after)

-- Two initial parts of one text are comparable, so a boundary of the whole that lies inside an initial part is a
-- boundary of that part.
theorem is_boundary_of_append {offset : Nat} {before after : List Char}
    (boundary : IsBoundary offset (before ++ after)) (within : offset ≤ byteLength before) :
    IsBoundary offset before := by
  induction before generalizing offset with
  | nil =>
      have zero : offset = 0 := by simpa [byteLength] using within
      exact zero ▸ is_boundary_zero []
  | cons c rest ih =>
      cases offset with
      | zero => exact is_boundary_zero _
      | succ count =>
          have inner : count + 1 - c.utf8Size ≤ byteLength rest := by
            simp only [byteLength] at within
            omega
          exact ⟨boundary.1, ih boundary.2 inner⟩

theorem take_bytes_split (before after : List Char) :
    takeBytes (byteLength before) (before ++ after) = before := by
  induction before with
  | nil => simp [byteLength, takeBytes]
  | cons c rest ih =>
      have size := c.utf8Size_pos
      obtain ⟨count, sum⟩ : ∃ count, c.utf8Size + byteLength rest = count + 1 :=
        ⟨c.utf8Size + byteLength rest - 1, by omega⟩
      rw [byteLength, List.cons_append, sum, takeBytes, ← sum, Nat.add_sub_cancel_left, ih]

theorem drop_bytes_split (before after : List Char) :
    dropBytes (byteLength before) (before ++ after) = after := by
  induction before with
  | nil => simp [byteLength, dropBytes]
  | cons c rest ih =>
      have size := c.utf8Size_pos
      obtain ⟨count, sum⟩ : ∃ count, c.utf8Size + byteLength rest = count + 1 :=
        ⟨c.utf8Size + byteLength rest - 1, by omega⟩
      rw [byteLength, List.cons_append, sum, dropBytes, ← sum, Nat.add_sub_cancel_left, ih]

theorem slice_split (front text back : List Char) :
    slice (front ++ text ++ back) (byteLength front) (byteLength (front ++ text)) = text := by
  rw [slice, byte_length_append, Nat.add_sub_cancel_left, List.append_assoc, drop_bytes_split, take_bytes_split]

theorem take_bytes_append_drop_bytes {offset : Nat} {text : List Char}
    (boundary : IsBoundary offset text) : takeBytes offset text ++ dropBytes offset text = text := by
  obtain ⟨before, after, rfl, rfl⟩ := (is_boundary_iff _ _).mp boundary
  rw [take_bytes_split, drop_bytes_split]

theorem byte_length_take_bytes {offset : Nat} {text : List Char}
    (boundary : IsBoundary offset text) : byteLength (takeBytes offset text) = offset := by
  obtain ⟨before, after, rfl, rfl⟩ := (is_boundary_iff _ _).mp boundary
  rw [take_bytes_split]

theorem is_boundary_take_bytes {offset stop : Nat} {text : List Char}
    (boundary : IsBoundary offset text) (atStop : IsBoundary stop text) (within : offset ≤ stop) :
    IsBoundary offset (takeBytes stop text) := by
  rw [← take_bytes_append_drop_bytes atStop] at boundary
  exact is_boundary_of_append boundary (by rw [byte_length_take_bytes atStop]; exact within)

theorem is_boundary_of_take_bytes {offset stop : Nat} {text : List Char}
    (atStop : IsBoundary stop text) (boundary : IsBoundary offset (takeBytes stop text)) :
    IsBoundary offset text := by
  rw [← take_bytes_append_drop_bytes atStop]
  exact is_boundary_append _ boundary

theorem is_boundary_next {offset : Nat} {text rest : List Char} {c : Char}
    (boundary : IsBoundary offset text) (next : dropBytes offset text = c :: rest) :
    IsBoundary (offset + c.utf8Size) text := by
  obtain ⟨before, after, rfl, rfl⟩ := (is_boundary_iff _ _).mp boundary
  rw [drop_bytes_split] at next
  subst next
  have split := is_boundary_split (before ++ [c]) rest
  simpa [byte_length_append, byteLength] using split

theorem lt_next_boundary (text : List Char) (offset : Nat) : offset < nextBoundary text offset := by
  rw [nextBoundary]
  split
  · exact Nat.lt_succ_self offset
  · rename_i c rest _
    have size := c.utf8Size_pos
    omega

theorem drop_bytes_shorter {offset later : Nat} {text : List Char} (boundary : IsBoundary offset text)
    (isLater : IsBoundary later text) (less : offset < later) :
    (dropBytes later text).length < (dropBytes offset text).length := by
  obtain ⟨before, after, rfl, rfl⟩ := (is_boundary_iff _ _).mp boundary
  obtain ⟨first, second, split, rfl⟩ := (is_boundary_iff _ _).mp isLater
  rw [drop_bytes_split, split, drop_bytes_split]
  rcases List.append_eq_append_iff.mp split with ⟨middle, rfl, rfl⟩ | ⟨middle, rfl, rfl⟩
  · cases middle with
    | nil => simp at less
    | cons c rest =>
        rw [List.length_append, List.length_cons]
        omega
  · rw [byte_length_append] at less
    omega

theorem length_drop_bytes_le (offset : Nat) (text : List Char) :
    (dropBytes offset text).length ≤ text.length := by
  induction text generalizing offset with
  | nil => cases offset <;> exact Nat.le_refl 0
  | cons c rest ih =>
      cases offset with
      | zero => exact Nat.le_refl _
      | succ count => exact Nat.le_succ_of_le (ih _)

theorem next_boundary_le {offset later : Nat} {text : List Char} (boundary : IsBoundary offset text)
    (isLater : IsBoundary later text) (less : offset < later) : nextBoundary text offset ≤ later := by
  obtain ⟨before, after, rfl, rfl⟩ := (is_boundary_iff _ _).mp boundary
  rw [nextBoundary, drop_bytes_split]
  cases after with
  | nil =>
      have bound := is_boundary_le isLater
      simp only [List.append_nil] at bound
      omega
  | cons c rest =>
      obtain ⟨first, second, split, rfl⟩ := (is_boundary_iff _ _).mp isLater
      rcases List.append_eq_append_iff.mp split with ⟨middle, rfl, tail⟩ | ⟨middle, head, tail⟩
      · cases middle with
        | nil => simp at less
        | cons d others =>
            have same : c = d := (List.cons.inj tail).1
            subst same
            simp only [byte_length_append, byteLength]
            omega
      · rw [head, byte_length_append] at less
        omega

end LineScope.Text
