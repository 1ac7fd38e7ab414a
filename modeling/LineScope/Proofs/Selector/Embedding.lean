import LineScope.Proofs.Selector.Segments
import Mathlib.Data.List.Chain
import Mathlib.Data.List.Forall2
import Mathlib.Order.Bounds.Basic

set_option autoImplicit false

namespace LineScope.Selector

namespace ScopePath

def StandsAt (stack : List String) (step : PathStep) (index : Nat) : Prop :=
  ∃ scope, stack[index]? = some scope ∧ dotSegments step.stem <+: dotSegments scope

def FollowedBy (before after : PathStep × Nat) : Prop :=
  before.2 < after.2 ∧ (after.1.combinator = .child → after.2 = before.2 + 1)

structure Embedding (path : ScopePath) (stack : List String) (indices : List Nat) : Prop where
  stands : List.Forall₂ (StandsAt stack) path.steps indices
  ordered : (path.steps.zip indices).IsChain FollowedBy

def EmbedsAt (path : ScopePath) (stack : List String) (index : Nat) : Prop :=
  ∃ indices, path.Embedding stack indices ∧ indices.getLast? = some index

section Search

variable (stack : List String)

-- Indices for the steps before a placed one, last first.
def Placed (last : PathStep) (index : Nat) (earlier : List PathStep) (indices : List Nat) : Prop :=
  List.Forall₂ (StandsAt stack) earlier indices ∧
    ((last, index) :: earlier.zip indices).IsChain fun after before => FollowedBy before after

theorem placed_nil (last : PathStep) (index : Nat) : Placed stack last index [] [] :=
  ⟨.nil, .singleton _⟩

theorem placed_cons (last : PathStep) (index : Nat) (step : PathStep) (earlier : List PathStep) :
    (∃ indices, Placed stack last index (step :: earlier) indices) ↔
      ∃ before indices, FollowedBy (step, before) (last, index) ∧ StandsAt stack step before ∧
        Placed stack step before earlier indices := by
  constructor
  · rintro ⟨indices, stands, ordered⟩
    cases stands with
    | cons here others =>
        obtain ⟨follows, further⟩ := List.isChain_cons_cons.mp ordered
        exact ⟨_, _, follows, here, others, further⟩
  · rintro ⟨before, indices, follows, here, others, further⟩
    exact ⟨before :: indices, .cons here others, List.isChain_cons_cons.mpr ⟨follows, further⟩⟩

theorem scope_at_length (scope : String) (outer : List String) (within : (scope :: outer).reverse <+: stack) :
    stack[outer.length]? = some scope := by
  obtain ⟨inner, rfl⟩ := within
  simp

theorem stands_at_length (scope : String) (outer : List String) (step : PathStep)
    (within : (scope :: outer).reverse <+: stack) : StandsAt stack step outer.length ↔ hasStem scope step.stem = true := by
  rw [StandsAt, scope_at_length stack scope outer within, has_stem_iff]
  simp

theorem within_outer (scope : String) (outer : List String) (within : (scope :: outer).reverse <+: stack) :
    outer.reverse <+: stack := by
  rw [List.reverse_cons] at within
  exact (List.prefix_append _ _).trans within

theorem can_place_iff (last : PathStep) (combinator : Combinator) (earlier : List PathStep) (outer : List String)
    (joins : last.combinator = combinator) (within : outer.reverse <+: stack) :
    canPlace combinator earlier outer = true ↔ ∃ indices, Placed stack last outer.length earlier indices := by
  fun_induction canPlace combinator earlier outer generalizing last with
  | case1 => exact iff_of_true rfl ⟨[], placed_nil stack last _⟩
  | case2 combinator step earlier =>
      rw [placed_cons]
      simp [FollowedBy]
  | case3 step earlier scope outer ih =>
      rw [Bool.and_eq_true, ih step rfl (within_outer stack scope outer within), placed_cons,
        ← stands_at_length stack scope outer step within]
      constructor
      · rintro ⟨here, indices, placed⟩
        exact ⟨outer.length, indices, ⟨by simp, by simp⟩, here, placed⟩
      · rintro ⟨before, indices, follows, here, placed⟩
        have next : before = outer.length := by
          have step := follows.2 joins
          simp only [List.length_cons] at step
          omega
        exact ⟨next ▸ here, indices, next ▸ placed⟩
  | case4 step earlier scope outer here deeper =>
      rw [Bool.or_eq_true, Bool.and_eq_true, here step rfl (within_outer stack scope outer within),
        deeper last joins (within_outer stack scope outer within), placed_cons, placed_cons,
        ← stands_at_length stack scope outer step within]
      have anywhere : ∀ before index, FollowedBy (step, before) (last, index) ↔ before < index := by
        simp [FollowedBy, joins]
      simp only [anywhere, List.length_cons, Nat.lt_succ_iff_lt_or_eq]
      constructor
      · rintro (⟨here, indices, placed⟩ | ⟨before, indices, further, here, placed⟩)
        · exact ⟨outer.length, indices, .inr rfl, here, placed⟩
        · exact ⟨before, indices, .inl further, here, placed⟩
      · rintro ⟨before, indices, further | rfl, here, placed⟩
        · exact .inr ⟨before, indices, further, here, placed⟩
        · exact .inl ⟨here, indices, placed⟩

def Ends (last : PathStep) (earlier : List PathStep) (index : Nat) : Prop :=
  StandsAt stack last index ∧ ∃ indices, Placed stack last index earlier indices

theorem deepest_greatest (last : PathStep) (earlier : List PathStep) (outer : List String)
    (within : outer.reverse <+: stack) :
    match deepest last earlier outer with
    | none => ∀ index < outer.length, ¬ Ends stack last earlier index
    | some found => IsGreatest {index | index < outer.length ∧ Ends stack last earlier index} found := by
  induction outer with
  | nil => simp [deepest]
  | cons scope outer ih =>
      have outside := within_outer stack scope outer within
      have here : (hasStem scope last.stem && canPlace last.combinator earlier outer) = true ↔
          Ends stack last earlier outer.length := by
        rw [Bool.and_eq_true, can_place_iff stack last _ earlier outer rfl outside,
          ← stands_at_length stack scope outer last within, Ends]
      by_cases fits : (hasStem scope last.stem && canPlace last.combinator earlier outer) = true
      · rw [deepest, if_pos fits]
        exact ⟨⟨Nat.lt_succ_self _, here.mp fits⟩, fun other ends => Nat.le_of_lt_succ ends.1⟩
      · have nowhere : ∀ index < (scope :: outer).length, Ends stack last earlier index → index < outer.length := by
          intro index inside ends
          rcases Nat.lt_succ_iff_lt_or_eq.mp inside with further | rfl
          · exact further
          · exact absurd (here.mpr ends) fits
        rw [deepest, if_neg fits]
        cases found : deepest last earlier outer with
        | none =>
            rw [found] at ih
            exact fun index inside ends => ih outside index (nowhere index inside ends) ends
        | some index =>
            rw [found] at ih
            obtain ⟨⟨inside, ends⟩, greatest⟩ := ih outside
            refine ⟨⟨Nat.lt_succ_of_lt inside, ends⟩, ?_⟩
            rintro other ⟨bound, otherEnds⟩
            exact greatest ⟨nowhere other bound otherEnds, otherEnds⟩

-- The search goes from the inside out, so it sees the steps and their indices in reverse.
theorem embedding_reverse (path : ScopePath) (last : PathStep) (earlier : List PathStep) (index : Nat)
    (indices : List Nat) (steps : path.steps = (last :: earlier).reverse) :
    path.Embedding stack (index :: indices).reverse ↔
      StandsAt stack last index ∧ Placed stack last index earlier indices := by
  have stands : List.Forall₂ (StandsAt stack) path.steps (index :: indices).reverse ↔
      StandsAt stack last index ∧ List.Forall₂ (StandsAt stack) earlier indices := by
    rw [steps, List.forall₂_reverse_iff, List.forall₂_cons]
  have ordered : earlier.length = indices.length →
      ((path.steps.zip (index :: indices).reverse).IsChain FollowedBy ↔
        ((last, index) :: earlier.zip indices).IsChain fun after before => FollowedBy before after) := by
    intro same
    have zipped : path.steps.zip (index :: indices).reverse = ((last, index) :: earlier.zip indices).reverse := by
      rw [steps, List.zip, ← List.reverse_zipWith (by simp [same])]
      rfl
    rw [zipped, List.isChain_reverse]
  constructor
  · rintro ⟨stand, order⟩
    obtain ⟨here, others⟩ := stands.mp stand
    exact ⟨here, others, (ordered others.length_eq).mp order⟩
  · rintro ⟨here, others, order⟩
    exact ⟨stands.mpr ⟨here, others⟩, (ordered others.length_eq).mpr order⟩

theorem embeds_at_iff (path : ScopePath) (last : PathStep) (earlier : List PathStep) (index : Nat)
    (steps : path.steps = (last :: earlier).reverse) : path.EmbedsAt stack index ↔ Ends stack last earlier index := by
  constructor
  · rintro ⟨indices, embedding, final⟩
    obtain ⟨before, rfl⟩ := List.getLast?_eq_some_iff.mp final
    rw [← List.reverse_reverse (before ++ [index]), List.reverse_append] at embedding
    obtain ⟨here, placed⟩ := (embedding_reverse stack path last earlier index before.reverse steps).mp embedding
    exact ⟨here, _, placed⟩
  · rintro ⟨here, indices, placed⟩
    exact ⟨_, (embedding_reverse stack path last earlier index indices steps).mpr ⟨here, placed⟩, by simp⟩

theorem embeds_nowhere (path : ScopePath) (index : Nat) (empty : path.steps = []) : ¬ path.EmbedsAt stack index := by
  rintro ⟨indices, embedding, final⟩
  have stands := embedding.stands
  rw [empty] at stands
  cases stands
  cases final

theorem ends_inside (last : PathStep) (earlier : List PathStep) (index : Nat) (ends : Ends stack last earlier index) :
    index < stack.length := by
  obtain ⟨⟨scope, found, _⟩, _⟩ := ends
  exact (List.getElem?_eq_some_iff.mp found).1

theorem find_greatest (path : ScopePath) :
    match path.find stack with
    | none => ∀ index, ¬ path.EmbedsAt stack index
    | some found => IsGreatest {index | path.EmbedsAt stack index} found := by
  rw [find]
  cases reversed : path.steps.reverse with
  | nil => exact fun index => embeds_nowhere stack path index (List.reverse_eq_nil_iff.mp reversed)
  | cons last earlier =>
      have steps : path.steps = (last :: earlier).reverse := List.reverse_eq_iff.mp reversed
      have embeds : ∀ index, path.EmbedsAt stack index ↔
          index < stack.reverse.length ∧ Ends stack last earlier index := by
        intro index
        rw [embeds_at_iff stack path last earlier index steps, List.length_reverse]
        exact ⟨fun ends => ⟨ends_inside stack last earlier index ends, ends⟩, And.right⟩
      have search := deepest_greatest stack last earlier stack.reverse (by simp)
      simp only [embeds]
      split at search
      · exact fun index embedded => search index embedded.1 embedded.2
      · exact search

end Search

/-- The search answers with the greatest index at which an embedding ends, and with nothing only if there is no
embedding. -/
theorem find_deepest_embedding (path : ScopePath) (stack : List String) :
    (∀ index, path.find stack = some index ↔ IsGreatest {index | path.EmbedsAt stack index} index) ∧
      (path.find stack = none ↔ ¬ ∃ index, path.EmbedsAt stack index) := by
  have search := find_greatest stack path
  cases found : path.find stack with
  | none =>
      rw [found] at search
      refine ⟨fun index => ⟨(nomatch ·), fun greatest => ?_⟩, iff_of_true rfl (not_exists.mpr search)⟩
      exact absurd greatest.1 (search index)
  | some deepest =>
      rw [found] at search
      refine ⟨fun index => ?_, iff_of_false (by simp) (not_not_intro ⟨deepest, search.1⟩)⟩
      rw [Option.some.injEq]
      exact ⟨fun same => same ▸ search, search.unique⟩

-- The innermost `b` is no child of `a`, so the step after it does not decide where `b` stands.
example : find ⟨[⟨.descendant, "a"⟩, ⟨.child, "b"⟩, ⟨.descendant, "c"⟩]⟩ ["a", "b", "b.x", "c"] = some 3 := by decide

end ScopePath

end LineScope.Selector
