import Mathlib.Data.List.Nodup
import Mathlib.Data.List.Perm.Basic

set_option autoImplicit false

namespace LineScope

section Lookup

variable {κ α : Type} [BEq κ] [LawfulBEq κ]

theorem lookup_cons_eq [DecidableEq κ] (key other : κ) (value : α) (entries : List (κ × α)) :
    List.lookup other ((key, value) :: entries) = if other = key then some value else entries.lookup other := by
  rw [List.lookup_cons]
  by_cases same : other = key
  · simp [same]
  · simp [same, beq_eq_false_iff_ne.mpr same]

theorem mem_of_lookup (entries : List (κ × α)) (key : κ) (value : α) (found : entries.lookup key = some value) :
    (key, value) ∈ entries := by
  obtain ⟨before, after, rfl, _⟩ := List.lookup_eq_some_iff.mp found
  exact List.mem_append_right before List.mem_cons_self

theorem lookup_of_distinct (entries : List (κ × α)) (distinct : (entries.map Prod.fst).Nodup) (key : κ) (value : α) :
    entries.lookup key = some value ↔ (key, value) ∈ entries := by
  refine ⟨mem_of_lookup entries key value, fun member => ?_⟩
  obtain ⟨before, after, rfl⟩ := List.append_of_mem member
  refine List.lookup_eq_some_iff.mpr ⟨before, after, rfl, fun entry earlier => ?_⟩
  rw [List.map_append, List.map_cons] at distinct
  have apart := (List.nodup_append.mp distinct).2.2 entry.1 (List.mem_map_of_mem earlier) key List.mem_cons_self
  exact bne_iff_ne.mpr apart.symm

theorem lookup_perm {entries others : List (κ × α)} (perm : entries.Perm others)
    (distinct : (entries.map Prod.fst).Nodup) (key : κ) : entries.lookup key = others.lookup key := by
  have otherDistinct := (perm.map Prod.fst).nodup_iff.mp distinct
  refine Option.ext fun value => ?_
  rw [lookup_of_distinct entries distinct, lookup_of_distinct others otherDistinct, perm.mem_iff]

end Lookup

end LineScope
