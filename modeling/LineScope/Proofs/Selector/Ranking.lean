import LineScope.Selector.Match
import Mathlib.Data.Prod.Lex

set_option autoImplicit false

namespace LineScope.Selector

section Order

def Specificity.rank (strength : Specificity) : ℕ ×ₗ ℕ ×ₗ ℕ :=
  toLex (strength.depth, toLex (strength.segments, strength.steps))

theorem rank_injective : Function.Injective Specificity.rank := by
  rintro ⟨depth, segments, steps⟩ ⟨otherDepth, otherSegments, otherSteps⟩ same
  cases same
  rfl

instance : LinearOrder Specificity := LinearOrder.lift' Specificity.rank rank_injective

theorem at_most_iff (a b : Specificity) : a.atMost b = true ↔ a ≤ b := by
  change _ ↔ a.rank ≤ b.rank
  simp [Specificity.atMost, Specificity.rank, Prod.Lex.toLex_le_toLex]

theorem stronger_eq_max (a b : Option Specificity) : Specificity.stronger a b = max a b := by
  cases a with
  | none => cases b <;> rfl
  | some a =>
      cases b with
      | none => rfl
      | some b =>
          rw [Specificity.stronger, Option.max_some_some, max_def]
          simp only [at_most_iff]
          split <;> rfl

end Order

section Agreement

variable (stack : List String)

theorem stronger_isSome (a b : Option Specificity) :
    (Specificity.stronger a b).isSome = (a.isSome || b.isSome) := by
  cases a <;> cases b <;> simp only [Specificity.stronger] <;> (try split) <;> rfl

mutual

theorem expr_specificity_isSome (expr : Expr) : (expr.specificity stack).isSome = expr.accepts stack := by
  match expr with
  | .path path => rw [Expr.specificity, Expr.accepts, Option.isSome_map]
  | .not inner =>
      rw [Expr.specificity, Expr.accepts]
      cases inner.accepts stack <;> rfl
  | .all operands =>
      rw [Expr.specificity, Expr.accepts]
      exact conjoined_isSome operands .zero
  | .any operands =>
      rw [Expr.specificity, Expr.accepts]
      exact strongest_isSome operands

theorem conjoined_isSome (operands : Operands) (total : Specificity) :
    (operands.conjoined stack total).isSome = operands.allAccept stack := by
  match operands with
  | .nil => rfl
  | .cons head tail =>
      have here := expr_specificity_isSome head
      rw [Operands.conjoined, Operands.allAccept, ← here]
      cases head.specificity stack with
      | none => rfl
      | some strength => exact conjoined_isSome tail _

theorem strongest_isSome (operands : Operands) : (operands.strongest stack).isSome = operands.anyAccept stack := by
  match operands with
  | .nil => rfl
  | .cons head tail =>
      rw [Operands.strongest, Operands.anyAccept, stronger_isSome, expr_specificity_isSome head, strongest_isSome tail]

end

theorem deepest_inside (last : PathStep) (earlier : List PathStep) (scopes : List String) (index : Nat)
    (found : ScopePath.deepest last earlier scopes = some index) : index < scopes.length := by
  induction scopes with
  | nil => cases found
  | cons scope outer ih =>
      rw [ScopePath.deepest] at found
      rw [List.length_cons]
      split at found
      · cases found
        exact Nat.lt_succ_self _
      · exact Nat.lt_succ_of_lt (ih found)

theorem find_inside (path : ScopePath) (index : Nat) (found : path.find stack = some index) : index < stack.length := by
  rw [ScopePath.find] at found
  split at found
  · cases found
  · rw [← List.length_reverse]
    exact deepest_inside _ _ _ index found

def Shallow (strength : Option Specificity) : Prop := ∀ found, strength = some found → found.depth ≤ stack.length

variable {stack}

theorem stronger_shallow (a b : Option Specificity) (left : Shallow stack a) (right : Shallow stack b) :
    Shallow stack (Specificity.stronger a b) := by
  cases a with
  | none => exact right
  | some first =>
      cases b with
      | none => exact left
      | some second =>
          rw [Specificity.stronger]
          split
          · exact right
          · exact left

variable (stack)

mutual

theorem expr_shallow (expr : Expr) : Shallow stack (expr.specificity stack) := by
  match expr with
  | .path path =>
      intro strength found
      obtain ⟨index, isIndex, rfl⟩ := Option.map_eq_some_iff.mp found
      exact find_inside stack path index isIndex
  | .not inner =>
      intro strength found
      rw [Expr.specificity] at found
      split at found
      · cases found
      · cases found
        exact Nat.zero_le _
  | .all operands => exact conjoined_shallow operands .zero (Nat.zero_le _)
  | .any operands => exact strongest_shallow operands

theorem conjoined_shallow (operands : Operands) (total : Specificity) (shallow : total.depth ≤ stack.length) :
    Shallow stack (operands.conjoined stack total) := by
  match operands with
  | .nil =>
      intro strength found
      cases found
      exact shallow
  | .cons head tail =>
      have here := expr_shallow head
      rw [Operands.conjoined]
      cases isStrength : head.specificity stack with
      | none => exact fun _ found => nomatch found
      | some strength => exact conjoined_shallow tail _ (Nat.max_le.mpr ⟨shallow, here strength isStrength⟩)

theorem strongest_shallow (operands : Operands) : Shallow stack (operands.strongest stack) := by
  match operands with
  | .nil => exact fun _ found => nomatch found
  | .cons head tail => exact stronger_shallow _ _ (expr_shallow head) (strongest_shallow tail)

end

end Agreement

section Alternatives

variable (stack : List String)

def strongestOf (alternatives : List Alternative) (best : Option Specificity) : Option Specificity :=
  alternatives.foldl (fun best alternative => Specificity.stronger best (alternative.expr.specificity stack)) best

theorem strongest_of_isSome (alternatives : List Alternative) (best : Option Specificity) :
    (strongestOf stack alternatives best).isSome =
      (best.isSome || alternatives.any fun alternative => alternative.expr.accepts stack) := by
  induction alternatives generalizing best with
  | nil => rw [strongestOf, List.foldl_nil, List.any_nil, Bool.or_false]
  | cons first rest ih =>
      rw [strongestOf, List.foldl_cons, ← strongestOf, ih, stronger_isSome, expr_specificity_isSome, List.any_cons,
        Bool.or_assoc]

theorem strongest_of_shallow (alternatives : List Alternative) (best : Option Specificity)
    (shallow : Shallow stack best) : Shallow stack (strongestOf stack alternatives best) := by
  induction alternatives generalizing best with
  | nil => exact shallow
  | cons first rest ih => exact ih _ (stronger_shallow best _ shallow (expr_shallow stack first.expr))

theorem specificity_isSome (selector : Selector) : (selector.specificity stack).isSome = selector.accepts stack :=
  strongest_of_isSome stack selector.alternatives none

theorem specificity_shallow (selector : Selector) : Shallow stack (selector.specificity stack) :=
  strongest_of_shallow stack selector.alternatives none fun _ found => nomatch found

end Alternatives

section Choice

variable (stack : List String)

def strengthAt (selectors : List Selector) (index : Nat) : Option Specificity :=
  selectors[index]?.bind fun selector => selector.specificity stack

-- No selector is stronger than the one at an index, and none after it is as strong.
def Prevails (selectors : List Selector) (index : Nat) (strength : Specificity) : Prop :=
  strengthAt stack selectors index = some strength ∧
    ∀ other rival, strengthAt stack selectors other = some rival → rival ≤ strength ∧ (index < other → rival < strength)

theorem prevails_unique (selectors : List Selector) (first second : Nat) (strength rival : Specificity)
    (one : Prevails stack selectors first strength) (two : Prevails stack selectors second rival) : first = second := by
  obtain ⟨isStrength, below⟩ := one
  obtain ⟨isRival, under⟩ := two
  rcases Nat.lt_trichotomy first second with less | same | less
  · exact absurd ((under first strength isStrength).1) (not_le_of_gt ((below second rival isRival).2 less))
  · exact same
  · exact absurd ((below second rival isRival).1) (not_le_of_gt ((under first strength isStrength).2 less))

def Best (selectors : List Selector) : Option (Nat × Specificity) → Prop
  | none => ∀ index, strengthAt stack selectors index = none
  | some (index, strength) => Prevails stack selectors index strength

variable {stack}

theorem strength_at_snoc (before : List Selector) (selector : Selector) (index : Nat) (strength : Specificity) :
    strengthAt stack (before ++ [selector]) index = some strength ↔
      strengthAt stack before index = some strength ∨
        index = before.length ∧ selector.specificity stack = some strength := by
  rcases Nat.lt_trichotomy index before.length with less | rfl | more
  · simp only [strengthAt, List.getElem?_append_left less, less.ne, false_and, or_false]
  · simp [strengthAt]
  · have outside : (before ++ [selector])[index]? = none := by
      rw [List.getElem?_eq_none_iff, List.length_append, List.length_singleton]
      exact more
    simp [strengthAt, outside, List.getElem?_eq_none more.le, more.ne']

theorem strength_at_inside (selectors : List Selector) (index : Nat) (strength : Specificity)
    (matched : strengthAt stack selectors index = some strength) : index < selectors.length := by
  obtain ⟨_, isSelector, _⟩ := Option.bind_eq_some_iff.mp matched
  exact (List.getElem?_eq_some_iff.mp isSelector).1

theorem best_skips (before : List Selector) (selector : Selector) (best : Option (Nat × Specificity))
    (isBest : Best stack before best) (silent : selector.specificity stack = none) :
    Best stack (before ++ [selector]) best := by
  have same : ∀ index, strengthAt stack (before ++ [selector]) index = strengthAt stack before index := by
    intro index
    ext strength
    simp only [strength_at_snoc, silent, reduceCtorEq, and_false, or_false]
  cases best with
  | none => exact fun index => (same index).trans (isBest index)
  | some found => simpa only [Best, Prevails, same] using isBest

theorem best_takes (before : List Selector) (selector : Selector) (best : Option (Nat × Specificity))
    (strength : Specificity) (isBest : Best stack before best) (matched : selector.specificity stack = some strength)
    (notWeaker : ∀ current ∈ best, current.2 ≤ strength) :
    Best stack (before ++ [selector]) (some (before.length, strength)) := by
  refine ⟨(strength_at_snoc before selector _ strength).mpr (.inr ⟨rfl, matched⟩), ?_⟩
  intro other rival isRival
  rcases (strength_at_snoc before selector other rival).mp isRival with earlier | ⟨rfl, again⟩
  · have inside := strength_at_inside before other rival earlier
    refine ⟨?_, fun later => absurd later inside.not_gt⟩
    cases best with
    | none => exact nomatch (isBest other).symm.trans earlier
    | some current => exact ((isBest.2 other rival earlier).1).trans (notWeaker current rfl)
  · obtain rfl : strength = rival := Option.some.inj (matched.symm.trans again)
    exact ⟨le_rfl, fun later => absurd later (lt_irrefl _)⟩

theorem best_keeps (before : List Selector) (selector : Selector) (index : Nat) (current strength : Specificity)
    (isBest : Prevails stack before index current) (matched : selector.specificity stack = some strength)
    (weaker : strength < current) : Prevails stack (before ++ [selector]) index current := by
  refine ⟨(strength_at_snoc before selector index current).mpr (.inl isBest.1), ?_⟩
  intro other rival isRival
  rcases (strength_at_snoc before selector other rival).mp isRival with earlier | ⟨rfl, again⟩
  · exact isBest.2 other rival earlier
  · obtain rfl : strength = rival := Option.some.inj (matched.symm.trans again)
    exact ⟨weaker.le, fun _ => weaker⟩

variable (stack)

-- The loop goes from the best of the selectors it has passed to the best of all.
theorem rank_from_best (before rest : List Selector) (best : Option (Nat × Specificity))
    (isBest : Best stack before best) :
    ∃ final, Best stack (before ++ rest) final ∧ rankFrom stack before.length best rest = final.map Prod.fst := by
  induction rest generalizing before best with
  | nil => exact ⟨best, by rwa [List.append_nil], by rw [rankFrom]⟩
  | cons selector rest ih =>
      have passed : ∀ next, Best stack (before ++ [selector]) next → ∃ final,
          Best stack (before ++ selector :: rest) final ∧
            rankFrom stack (before.length + 1) next rest = final.map Prod.fst := by
        intro next isNext
        have result := ih _ next isNext
        rwa [List.append_assoc, List.singleton_append, List.length_append, List.length_singleton] at result
      unfold rankFrom
      cases matched : selector.specificity stack with
      | none => exact passed best (best_skips before selector best isBest matched)
      | some strength =>
          cases best with
          | none => exact passed _ (best_takes before selector none strength isBest matched nofun)
          | some found =>
              obtain ⟨previous, current⟩ := found
              dsimp only
              split
              case isTrue atMost =>
                have notWeaker := (at_most_iff current strength).mp atMost
                refine passed _ (best_takes before selector _ strength isBest matched ?_)
                rintro _ ⟨⟩
                exact notWeaker
              case isFalse more =>
                have weaker := lt_of_not_ge fun less => more ((at_most_iff current strength).mpr less)
                exact passed _ (best_keeps before selector previous current strength isBest matched weaker)

theorem best_match_iff (selectors : List Selector) (index : Nat) :
    bestMatch selectors stack = some index ↔ ∃ strength, Prevails stack selectors index strength := by
  obtain ⟨final, isBest, result⟩ := rank_from_best stack [] selectors none fun _ => rfl
  rw [List.nil_append] at isBest
  rw [bestMatch, show rankFrom stack 0 none selectors = final.map Prod.fst from result]
  cases final with
  | none =>
      refine ⟨nofun, ?_⟩
      rintro ⟨strength, matched, _⟩
      exact nomatch (isBest index).symm.trans matched
  | some found =>
      constructor
      · rintro ⟨⟩
        exact ⟨found.2, isBest⟩
      · rintro ⟨strength, prevails⟩
        exact congrArg some (prevails_unique stack selectors _ _ _ _ isBest prevails)

theorem best_match_none_iff (selectors : List Selector) :
    bestMatch selectors stack = none ↔ ∀ selector ∈ selectors, selector.accepts stack = false := by
  obtain ⟨final, isBest, result⟩ := rank_from_best stack [] selectors none fun _ => rfl
  rw [List.nil_append] at isBest
  rw [bestMatch, show rankFrom stack 0 none selectors = final.map Prod.fst from result]
  cases final with
  | none =>
      refine ⟨fun _ selector member => ?_, fun _ => rfl⟩
      obtain ⟨index, isSelector⟩ := List.getElem?_of_mem member
      have silent := isBest index
      rw [strengthAt, isSelector, Option.bind_some] at silent
      rw [← specificity_isSome, silent, Option.isSome_none]
  | some found =>
      refine ⟨nofun, fun silent => ?_⟩
      obtain ⟨selector, isSelector, matched⟩ := Option.bind_eq_some_iff.mp isBest.1
      have accepted := specificity_isSome stack selector
      rw [matched, silent selector (List.mem_of_getElem? isSelector)] at accepted
      cases accepted

end Choice

/-- Accepting and having a strength are one thing, for expressions and for selectors, and no strength goes deeper than
the stack. Nothing is chosen just where nothing matches; the selector that is chosen matches, none that matches is
stronger, and those after it that match are weaker. -/
theorem matching_and_ranking_agree (stack : List String) :
    (∀ expr : Expr, (expr.accepts stack = (expr.specificity stack).isSome) ∧
      ∀ strength ∈ expr.specificity stack, strength.depth ≤ stack.length) ∧
    (∀ selector : Selector, (selector.accepts stack = (selector.specificity stack).isSome) ∧
      ∀ strength ∈ selector.specificity stack, strength.depth ≤ stack.length) ∧
    ∀ selectors : List Selector,
      (bestMatch selectors stack = none ↔ ∀ selector ∈ selectors, selector.accepts stack = false) ∧
      ∀ index, bestMatch selectors stack = some index ↔
        ∃ selector strength, selectors[index]? = some selector ∧ selector.accepts stack = true ∧
          selector.specificity stack = some strength ∧
          ∀ other rival strong, selectors[other]? = some rival → rival.specificity stack = some strong →
            strong ≤ strength ∧ (index < other → strong < strength) := by
  refine ⟨fun expr => ⟨(expr_specificity_isSome stack expr).symm, expr_shallow stack expr⟩,
    fun selector => ⟨(specificity_isSome stack selector).symm, specificity_shallow stack selector⟩,
    fun selectors => ⟨best_match_none_iff stack selectors, fun index => ?_⟩⟩
  rw [best_match_iff]
  constructor
  · rintro ⟨strength, matched, below⟩
    obtain ⟨selector, isSelector, isStrength⟩ := Option.bind_eq_some_iff.mp matched
    refine ⟨selector, strength, isSelector, ?_, isStrength, ?_⟩
    · rw [← specificity_isSome, isStrength, Option.isSome_some]
    · intro other rival strong isRival isStrong
      exact below other strong (Option.bind_eq_some_iff.mpr ⟨rival, isRival, isStrong⟩)
  · rintro ⟨selector, strength, isSelector, _, isStrength, below⟩
    refine ⟨strength, Option.bind_eq_some_iff.mpr ⟨selector, isSelector, isStrength⟩, ?_⟩
    intro other strong isRival
    obtain ⟨rival, atOther, isStrong⟩ := Option.bind_eq_some_iff.mp isRival
    exact below other rival strong atOther isStrong

end LineScope.Selector
