import LineScope.Proofs.Selector.Derivation
import Mathlib.Control.Monad.Basic

set_option autoImplicit false

namespace LineScope.Selector

section Complete

def Stops (rest : List Token) : Prop :=
  ∀ token after, rest = token :: after → startsOperand token.kind = false ∧ token.kind ≠ .greater

theorem stops_nil : Stops [] := fun _ _ split => nomatch split

theorem stops_separator (mark : Token) (rest : List Token) (separates : mark.Separates) : Stops (mark :: rest) := by
  intro token after split
  cases split
  rcases separates with isComma | isPipe
  · simp [isComma, startsOperand]
  · simp [isPipe, startsOperand]

theorem stops_closing (closing : Token) (rest : List Token) (isClosing : closing.kind = .closing) :
    Stops (closing :: rest) := by
  intro token after split
  cases split
  simp [isClosing, startsOperand]

theorem stops_no_further_step (rest : List Token) (stops : Stops rest) : NoFurtherStep rest := by
  intro after step reads
  cases reads with
  | next name _ isName =>
      have refused := (stops name after rfl).1
      simp [isName, startsOperand] at refused
  | inside mark name _ isGreater _ => exact (stops mark (name :: after) rfl).2 isGreater

variable {ends : List Token → Prop}

theorem reads_operand_start (tokens rest : List Token) (tree : Expr) (reads : ReadsOperand ends tokens rest tree) :
    ∃ token after, tokens = token :: after ∧ startsOperand token.kind = true := by
  cases reads with
  | negated mark tokens _ inner isMinus _ => exact ⟨mark, tokens, rfl, by simp [isMinus, startsOperand]⟩
  | group opening closing tokens _ _ isOpening _ _ => exact ⟨opening, tokens, rfl, by simp [isOpening, startsOperand]⟩
  | path name tokens _ steps isName _ _ => exact ⟨name, tokens, rfl, by simp [isName, startsOperand]⟩

theorem reads_operands_start (tokens rest : List Token) (trees : List Expr)
    (reads : ReadsOperands ends tokens rest trees) :
    ∃ token after, tokens = token :: after ∧ startsOperand token.kind = true := by
  cases reads with
  | one _ _ tree operand => exact reads_operand_start tokens rest tree operand
  | more _ middle _ tree _ operand _ => exact reads_operand_start tokens middle tree operand

theorem reads_conjunction_start (tokens rest : List Token) (tree : Expr)
    (reads : ReadsConjunction ends tokens rest tree) :
    ∃ token after, tokens = token :: after ∧ startsOperand token.kind = true := by
  cases reads with
  | only _ _ _ operands => exact reads_operands_start tokens rest _ operands
  | all _ _ first second others operands => exact reads_operands_start tokens rest _ operands

theorem reads_operands_no_mark (tokens rest : List Token) (trees : List Expr)
    (reads : ReadsOperands ends tokens rest trees) (token : Token) (after : List Token) (split : tokens = token :: after) :
    token.kind ≠ .greater := by
  obtain ⟨first, others, start, starts⟩ := reads_operands_start tokens rest trees reads
  cases split.symm.trans start
  intro isGreater
  simp [isGreater, startsOperand] at starts

theorem operands_stop (fuel : Nat) (rest : List Token) (stops : Stops rest) : operands fuel rest = .ok ([], rest) := by
  match fuel, rest with
  | 0, rest => rfl
  | fuel + 1, [] => rfl
  | fuel + 1, token :: after =>
      rw [operands, (stops token after rfl).1]
      rfl

theorem path_steps_complete (tokens rest : List Token) (steps : List PathStep) (reads : ReadsSteps tokens rest steps)
    (ended : NoFurtherStep rest) (noMark : ∀ token after, rest = token :: after → token.kind ≠ .greater) :
    pathSteps tokens = .ok (steps, rest) := by
  induction reads with
  | none rest =>
      cases rest with
      | nil => rfl
      | cons token after =>
          rw [pathSteps.eq_def]
          dsimp only
          split
          · rename_i isName
            exact absurd (.next token after isName) (ended _ _)
          · rename_i isGreater
            exact absurd isGreater (noMark token after rfl)
          · rfl
  | more tokens middle rest step steps first others ih =>
      have further := ih ended noMark
      cases first with
      | next name _ isName =>
          rw [pathSteps.eq_def]
          simp only [isName, further]
          rfl
      | inside mark name _ isGreater isName =>
          rw [pathSteps.eq_def]
          simp only [isGreater, isName, if_true, further]
          rfl

-- What is derived with the longest paths is what the parser reads. `fuel` covers four calls for
-- every token that is taken.
mutual

theorem operand_complete (fuel : Nat) (whole rest : List Token) (tree : Expr)
    (reads : ReadsOperand NoFurtherStep whole rest tree) :
    (∀ token after, rest = token :: after → token.kind ≠ .greater) → 4 * whole.length ≤ 4 * rest.length + fuel + 2 →
      ∃ token tokens, whole = token :: tokens ∧ operand fuel token tokens = .ok (tree, rest) := by
  match reads with
  | .negated mark tokens rest inner isMinus negates =>
      intro noMark enough
      have shorter := reads_operand_length tokens rest inner negates
      rw [List.length_cons] at enough
      obtain ⟨fuel, rfl⟩ : ∃ less, fuel = less + 1 := ⟨fuel - 1, by omega⟩
      obtain ⟨token, others, rfl, found⟩ := operand_complete fuel tokens rest inner negates noMark (by omega)
      refine ⟨mark, token :: others, rfl, ?_⟩
      rw [operand.eq_def]
      simp only [isMinus, found]
      rfl
  | .group opening closing tokens rest tree isOpening isClosing inside =>
      intro noMark enough
      have shorter := reads_group_length tokens (closing :: rest) tree inside
      rw [List.length_cons] at enough shorter
      obtain ⟨fuel, rfl⟩ : ∃ less, fuel = less + 1 := ⟨fuel - 1, by omega⟩
      obtain ⟨first, others, middle, joined, found, more⟩ :=
        group_complete fuel opening.offset tokens rest closing tree inside isClosing (by rw [List.length_cons]; omega)
      refine ⟨opening, tokens, rfl, ?_⟩
      rw [operand.eq_def]
      simp only [isOpening, found, ok_bind, more, joined]
      rfl
  | .path name tokens rest steps isName others ended =>
      intro noMark enough
      have shorter := reads_steps_length tokens rest steps others
      rw [List.length_cons] at enough
      obtain ⟨fuel, rfl⟩ : ∃ less, fuel = less + 1 := ⟨fuel - 1, by omega⟩
      refine ⟨name, tokens, rfl, ?_⟩
      rw [operand.eq_def]
      simp only [isName, path_steps_complete tokens rest steps others ended noMark]
      rfl

theorem operands_complete (fuel : Nat) (tokens rest : List Token) (trees : List Expr)
    (reads : ReadsOperands NoFurtherStep tokens rest trees) :
    Stops rest → 4 * tokens.length ≤ 4 * rest.length + fuel + 1 → operands fuel tokens = .ok (trees, rest) := by
  match reads with
  | .one tokens rest tree only =>
      intro stops enough
      have shorter := reads_operand_length tokens rest tree only
      obtain ⟨fuel, rfl⟩ : ∃ less, fuel = less + 1 := ⟨fuel - 1, by omega⟩
      obtain ⟨_, _, start, starts⟩ := reads_operand_start tokens rest tree only
      obtain ⟨token, others, rfl, found⟩ := operand_complete fuel tokens rest tree only
        (fun token after split => (stops token after split).2) (by omega)
      cases start
      rw [operands, if_pos starts]
      simp only [found, ok_bind, operands_stop fuel rest stops]
      rfl
  | .more tokens middle rest tree trees first others =>
      intro stops enough
      have shorter := reads_operand_length tokens middle tree first
      have further := reads_operands_length middle rest trees others
      obtain ⟨fuel, rfl⟩ : ∃ less, fuel = less + 1 := ⟨fuel - 1, by omega⟩
      obtain ⟨_, _, start, starts⟩ := reads_operand_start tokens middle tree first
      obtain ⟨token, after, rfl, found⟩ := operand_complete fuel tokens middle tree first
        (reads_operands_no_mark middle rest trees others) (by omega)
      cases start
      have tail := operands_complete fuel middle rest trees others stops (by omega)
      rw [operands, if_pos starts]
      simp only [found, ok_bind, tail]
      rfl

theorem conjunction_complete (fuel : Nat) (tokens rest : List Token) (tree : Expr)
    (reads : ReadsConjunction NoFurtherStep tokens rest tree) :
    Stops rest → 4 * tokens.length ≤ 4 * rest.length + fuel → conjunction fuel tokens = .ok (tree, rest) := by
  match reads with
  | .only tokens rest tree inside =>
      intro stops enough
      have shorter := reads_operands_length tokens rest [tree] inside
      obtain ⟨fuel, rfl⟩ : ∃ less, fuel = less + 1 := ⟨fuel - 1, by omega⟩
      rw [conjunction, operands_complete fuel tokens rest [tree] inside stops (by omega)]
      rfl
  | .all tokens rest first second others inside =>
      intro stops enough
      have shorter := reads_operands_length tokens rest (first :: second :: others) inside
      obtain ⟨fuel, rfl⟩ : ∃ less, fuel = less + 1 := ⟨fuel - 1, by omega⟩
      rw [conjunction, operands_complete fuel tokens rest (first :: second :: others) inside stops (by omega)]
      rfl

theorem conjunctions_complete (fuel opened : Nat) (tokens stop : List Token) (trees : List Expr)
    (reads : ReadsConjunctions NoFurtherStep tokens stop trees) :
    ∀ closing rest, stop = closing :: rest → closing.kind = .closing → 4 * tokens.length ≤ 4 * stop.length + fuel →
      ∃ first others middle, trees = first :: others ∧ conjunction fuel tokens = .ok (first, middle) ∧
        groupRest fuel opened middle = .ok (others, rest) := by
  match reads with
  | .one tokens stop tree only =>
      intro closing rest split isClosing enough
      subst split
      have shorter := reads_conjunction_length tokens (closing :: rest) tree only
      have found := conjunction_complete fuel tokens (closing :: rest) tree only
        (stops_closing closing rest isClosing) (by omega)
      obtain ⟨fuel, rfl⟩ : ∃ less, fuel = less + 1 := ⟨fuel - 1, by omega⟩
      refine ⟨tree, [], closing :: rest, rfl, found, ?_⟩
      rw [groupRest, isClosing]
  | .more tokens middle stop mark tree trees first separates others =>
      intro closing rest split isClosing enough
      have shorter := reads_conjunction_length tokens (mark :: middle) tree first
      have further := reads_conjunctions_length middle stop trees others
      rw [List.length_cons] at shorter
      have found := conjunction_complete fuel tokens (mark :: middle) tree first
        (stops_separator mark middle separates) (by rw [List.length_cons]; omega)
      obtain ⟨fuel, rfl⟩ : ∃ less, fuel = less + 1 := ⟨fuel - 1, by omega⟩
      obtain ⟨next, tail, after, rfl, conjunction, more⟩ :=
        conjunctions_complete fuel opened middle stop trees others closing rest split isClosing (by omega)
      refine ⟨tree, next :: tail, mark :: middle, rfl, found, ?_⟩
      rw [groupRest.eq_def]
      rcases separates with isComma | isPipe
      · simp only [isComma, conjunction, ok_bind, more]
        rfl
      · simp only [isPipe, conjunction, ok_bind, more]
        rfl

theorem group_complete (fuel opened : Nat) (tokens rest : List Token) (closing : Token) (tree : Expr)
    (reads : ReadsGroup NoFurtherStep tokens (closing :: rest) tree) :
    closing.kind = .closing → 4 * tokens.length ≤ 4 * (closing :: rest).length + fuel →
      ∃ first others middle, tree = disjoin first others ∧ conjunction fuel tokens = .ok (first, middle) ∧
        groupRest fuel opened middle = .ok (others, rest) := by
  match reads with
  | .only tokens _ tree inside =>
      intro isClosing enough
      obtain ⟨first, others, middle, split, found, more⟩ :=
        conjunctions_complete fuel opened tokens _ [tree] inside closing rest rfl isClosing enough
      cases split
      exact ⟨tree, [], middle, rfl, found, more⟩
  | .any tokens _ first second others inside =>
      intro isClosing enough
      obtain ⟨head, tail, middle, split, found, more⟩ :=
        conjunctions_complete fuel opened tokens _ _ inside closing rest rfl isClosing enough
      cases split
      exact ⟨first, second :: others, middle, rfl, found, more⟩

end

theorem alternative_complete (fuel : Nat) (tokens rest : List Token) (alternative : Alternative)
    (reads : ReadsAlternative NoFurtherStep tokens rest alternative) (stops : Stops rest)
    (enough : 4 * tokens.length ≤ 4 * rest.length + fuel) :
    (priorityOf tokens).1 = alternative.priority ∧
      conjunction fuel (priorityOf tokens).2 = .ok (alternative.expr, rest) := by
  cases reads with
  | marked mark priority tokens _ tree isPriority inside =>
      rw [List.length_cons] at enough
      rw [priorityOf, isPriority]
      exact ⟨rfl, conjunction_complete fuel tokens rest tree inside stops (by omega)⟩
  | plain _ _ tree inside =>
      obtain ⟨token, after, rfl, starts⟩ := reads_conjunction_start tokens rest tree inside
      rw [priorityOf]
      split
      · rename_i priority isPriority
        simp [isPriority, startsOperand] at starts
      · exact ⟨rfl, conjunction_complete fuel _ rest tree inside stops enough⟩

theorem reads_alternative_length (tokens rest : List Token) (alternative : Alternative)
    (reads : ReadsAlternative ends tokens rest alternative) : rest.length < tokens.length := by
  cases reads with
  | marked mark priority tokens _ tree isPriority inside =>
      exact Nat.lt_succ_of_lt (reads_conjunction_length tokens rest tree inside)
  | plain _ _ tree inside => exact reads_conjunction_length tokens rest tree inside

theorem alternatives_complete (fuel : Nat) (tokens : List Token) (alternatives : List Alternative)
    (reads : ReadsSelector NoFurtherStep tokens alternatives) (enough : 4 * tokens.length < fuel) :
    alternativesFrom fuel tokens = .ok alternatives := by
  induction reads generalizing fuel with
  | one tokens alternative only =>
      obtain ⟨fuel, rfl⟩ : ∃ less, fuel = less + 1 := ⟨fuel - 1, by omega⟩
      obtain ⟨priority, found⟩ := alternative_complete fuel tokens [] alternative only stops_nil
        (by rw [List.length_nil]; omega)
      rw [alternativesFrom]
      simp only [found, ok_bind, priority]
      rfl
  | more tokens rest mark alternative alternatives first separates others ih =>
      have shorter := reads_alternative_length tokens (mark :: rest) alternative first
      rw [List.length_cons] at shorter
      obtain ⟨fuel, rfl⟩ : ∃ less, fuel = less + 1 := ⟨fuel - 1, by omega⟩
      obtain ⟨priority, found⟩ := alternative_complete fuel tokens (mark :: rest) alternative first
        (stops_separator mark rest separates) (by rw [List.length_cons]; omega)
      have tail := ih fuel (by omega)
      rw [alternativesFrom]
      simp only [found, ok_bind, priority]
      rw [if_pos (show mark.kind = .comma ∨ mark.kind = .pipe from separates), tail]
      rfl

end Complete

section Longest

-- Whatever is derived is also derived with the longest paths: a path takes over the steps of a path
-- that follows it.

theorem reads_steps_append (tokens middle rest : List Token) (steps others : List PathStep)
    (first : ReadsSteps tokens middle steps) (further : ReadsSteps middle rest others) :
    ReadsSteps tokens rest (steps ++ others) := by
  induction first with
  | none _ => exact further
  | more tokens between _ step steps one _ ih => exact .more tokens between rest step _ one (ih further)

theorem path_before_operand (name : Token) (tokens middle rest : List Token) (steps : List PathStep) (tree : Expr)
    (isName : name.kind = .name) (reads : ReadsSteps tokens middle steps)
    (operand : ReadsOperand NoFurtherStep middle rest tree) :
    NoFurtherStep middle ∨ ∃ longer, ReadsOperand NoFurtherStep (name :: tokens) rest longer := by
  cases operand with
  | negated mark after _ inner isMinus _ =>
      exact .inl (no_further_step_cons mark after (by simp [isMinus]) (by simp [isMinus]))
  | group opening closing after _ _ isOpening _ _ =>
      exact .inl (no_further_step_cons opening after (by simp [isOpening]) (by simp [isOpening]))
  | path next after _ others isNext further ended =>
      have joined := ReadsSteps.more _ _ _ _ _ (.next next after isNext) further
      exact .inr ⟨_, .path name tokens rest _ isName (reads_steps_append _ _ _ _ _ reads joined) ended⟩

theorem path_longest (name : Token) (tokens middle rest : List Token) (steps : List PathStep)
    (isName : name.kind = .name) (reads : ReadsSteps tokens middle steps) (stops : Stops rest)
    (further : middle = rest ∨ ∃ trees, ReadsOperands NoFurtherStep middle rest trees) :
    ∃ trees, ReadsOperands NoFurtherStep (name :: tokens) rest trees := by
  rcases further with rfl | ⟨trees, others⟩
  · exact ⟨_, .one _ _ _ (.path name tokens middle steps isName reads (stops_no_further_step middle stops))⟩
  · cases others with
    | one _ _ tree operand =>
        rcases path_before_operand name tokens middle rest steps tree isName reads operand with ended | ⟨longer, path⟩
        · exact ⟨_, .more _ middle rest _ _ (.path name tokens middle steps isName reads ended) (.one _ _ _ operand)⟩
        · exact ⟨_, .one _ _ longer path⟩
    | more _ after _ tree trees operand others =>
        rcases path_before_operand name tokens middle after steps tree isName reads operand with ended | ⟨longer, path⟩
        · exact ⟨_, .more _ middle rest _ _ (.path name tokens middle steps isName reads ended)
            (.more _ after _ tree trees operand others)⟩
        · exact ⟨_, .more _ after rest longer trees path others⟩

theorem reads_conjunction_of_operands (tokens rest : List Token) (trees : List Expr)
    (reads : ReadsOperands NoFurtherStep tokens rest trees) : ∃ tree, ReadsConjunction NoFurtherStep tokens rest tree := by
  match trees, reads with
  | [tree], reads => exact ⟨tree, .only tokens rest tree reads⟩
  | first :: second :: others, reads => exact ⟨_, .all tokens rest first second others reads⟩

theorem reads_group_of_conjunctions (tokens rest : List Token) (trees : List Expr)
    (reads : ReadsConjunctions NoFurtherStep tokens rest trees) : ∃ tree, ReadsGroup NoFurtherStep tokens rest tree := by
  match trees, reads with
  | [tree], reads => exact ⟨tree, .only tokens rest tree reads⟩
  | first :: second :: others, reads => exact ⟨_, .any tokens rest first second others reads⟩

mutual

theorem operand_longest (tokens middle : List Token) (tree : Expr) (reads : ReadsOperand Anywhere tokens middle tree) :
    ∀ rest, Stops rest → (middle = rest ∨ ∃ trees, ReadsOperands NoFurtherStep middle rest trees) →
      ∃ trees, ReadsOperands NoFurtherStep tokens rest trees := by
  match reads with
  | .negated mark tokens middle inner isMinus operand =>
      intro rest stops further
      obtain ⟨trees, others⟩ := operand_longest tokens middle inner operand rest stops further
      cases others with
      | one _ _ tree operand => exact ⟨_, .one _ _ _ (.negated mark tokens rest tree isMinus operand)⟩
      | more _ after _ tree trees operand others =>
          exact ⟨_, .more _ after rest _ trees (.negated mark tokens after tree isMinus operand) others⟩
  | .group opening closing tokens middle tree isOpening isClosing inside =>
      intro rest stops further
      obtain ⟨longest, group⟩ := group_longest tokens (closing :: middle) tree inside
        (stops_closing closing middle isClosing)
      have operand := ReadsOperand.group opening closing tokens middle longest isOpening isClosing group
      rcases further with rfl | ⟨trees, others⟩
      · exact ⟨_, .one _ _ _ operand⟩
      · exact ⟨_, .more _ middle rest _ trees operand others⟩
  | .path name tokens middle steps isName others _ =>
      intro rest stops further
      exact path_longest name tokens middle rest steps isName others stops further

theorem operands_longest (tokens rest : List Token) (trees : List Expr)
    (reads : ReadsOperands Anywhere tokens rest trees) :
    Stops rest → ∃ trees, ReadsOperands NoFurtherStep tokens rest trees := by
  match reads with
  | .one tokens rest tree operand =>
      intro stops
      exact operand_longest tokens rest tree operand rest stops (.inl rfl)
  | .more tokens middle rest tree trees operand others =>
      intro stops
      exact operand_longest tokens middle tree operand rest stops (.inr (operands_longest middle rest trees others stops))

theorem conjunction_longest (tokens rest : List Token) (tree : Expr)
    (reads : ReadsConjunction Anywhere tokens rest tree) :
    Stops rest → ∃ tree, ReadsConjunction NoFurtherStep tokens rest tree := by
  match reads with
  | .only tokens rest tree operands =>
      intro stops
      obtain ⟨trees, longest⟩ := operands_longest tokens rest _ operands stops
      exact reads_conjunction_of_operands tokens rest trees longest
  | .all tokens rest first second others operands =>
      intro stops
      obtain ⟨trees, longest⟩ := operands_longest tokens rest _ operands stops
      exact reads_conjunction_of_operands tokens rest trees longest

theorem conjunctions_longest (tokens rest : List Token) (trees : List Expr)
    (reads : ReadsConjunctions Anywhere tokens rest trees) :
    Stops rest → ∃ trees, ReadsConjunctions NoFurtherStep tokens rest trees := by
  match reads with
  | .one tokens rest tree conjunction =>
      intro stops
      obtain ⟨longest, found⟩ := conjunction_longest tokens rest tree conjunction stops
      exact ⟨_, .one tokens rest longest found⟩
  | .more tokens middle rest mark tree trees conjunction separates others =>
      intro stops
      obtain ⟨longest, found⟩ := conjunction_longest tokens (mark :: middle) tree conjunction
        (stops_separator mark middle separates)
      obtain ⟨further, more⟩ := conjunctions_longest middle rest trees others stops
      exact ⟨_, .more tokens middle rest mark longest further found separates more⟩

theorem group_longest (tokens rest : List Token) (tree : Expr) (reads : ReadsGroup Anywhere tokens rest tree) :
    Stops rest → ∃ tree, ReadsGroup NoFurtherStep tokens rest tree := by
  match reads with
  | .only tokens rest tree conjunctions =>
      intro stops
      obtain ⟨trees, longest⟩ := conjunctions_longest tokens rest _ conjunctions stops
      exact reads_group_of_conjunctions tokens rest trees longest
  | .any tokens rest first second others conjunctions =>
      intro stops
      obtain ⟨trees, longest⟩ := conjunctions_longest tokens rest _ conjunctions stops
      exact reads_group_of_conjunctions tokens rest trees longest

end

theorem alternative_longest (tokens rest : List Token) (alternative : Alternative)
    (reads : ReadsAlternative Anywhere tokens rest alternative) (stops : Stops rest) :
    ∃ alternative, ReadsAlternative NoFurtherStep tokens rest alternative := by
  cases reads with
  | marked mark priority tokens _ tree isPriority conjunction =>
      obtain ⟨longest, found⟩ := conjunction_longest tokens rest tree conjunction stops
      exact ⟨_, .marked mark priority tokens rest longest isPriority found⟩
  | plain _ _ tree conjunction =>
      obtain ⟨longest, found⟩ := conjunction_longest tokens rest tree conjunction stops
      exact ⟨_, .plain tokens rest longest found⟩

theorem selector_longest (tokens : List Token) (alternatives : List Alternative)
    (reads : ReadsSelector Anywhere tokens alternatives) :
    ∃ alternatives, ReadsSelector NoFurtherStep tokens alternatives := by
  induction reads with
  | one tokens alternative only =>
      obtain ⟨longest, found⟩ := alternative_longest tokens [] alternative only stops_nil
      exact ⟨_, .one tokens longest found⟩
  | more tokens rest mark alternative alternatives first separates others ih =>
      obtain ⟨longest, found⟩ := alternative_longest tokens (mark :: rest) alternative first
        (stops_separator mark rest separates)
      obtain ⟨further, more⟩ := ih
      exact ⟨_, .more tokens rest mark longest further found separates more⟩

end Longest

theorem parse_tokens_eq_ok (tokens : List Token) (alternatives : List Alternative) :
    parseTokens tokens = .ok alternatives ↔ ReadsSelector NoFurtherStep tokens alternatives :=
  ⟨alternatives_read (fun _ ended => ended) _ tokens alternatives,
    fun reads => alternatives_complete _ tokens alternatives reads (by omega)⟩

theorem parse_tokens_accepts (tokens : List Token) :
    (∃ alternatives, parseTokens tokens = .ok alternatives) ↔
      ∃ alternatives, ReadsSelector Anywhere tokens alternatives := by
  constructor
  · rintro ⟨alternatives, found⟩
    exact ⟨alternatives, alternatives_read (fun _ _ => trivial) _ tokens alternatives found⟩
  · rintro ⟨alternatives, reads⟩
    obtain ⟨longest, found⟩ := selector_longest tokens alternatives reads
    exact ⟨longest, (parse_tokens_eq_ok tokens longest).mpr found⟩

theorem parse_eq_ok (source : String) (list : List Token) (lexed : tokens source.toList = .ok list) (some : list ≠ [])
    (selector : Selector) :
    parse source = .ok selector ↔ selector.source = source ∧ parseTokens list = .ok selector.alternatives := by
  obtain ⟨text, alternatives⟩ := selector
  have nonEmpty : list.isEmpty = false := by simpa using some
  rw [parse, lexed, ok_bind, nonEmpty, if_neg Bool.false_ne_true]
  cases parsed : parseTokens list with
  | error error =>
      constructor
      · intro result
        cases result
      · rintro ⟨-, result⟩
        cases result
  | ok found =>
      constructor
      · intro result
        cases result
        exact ⟨rfl, rfl⟩
      · rintro ⟨rfl, result⟩
        cases result
        rfl

theorem parse_accepts_exactly_grammar (source : String) (list : List Token)
    (lexed : tokens source.toList = .ok list) (some : list ≠ []) :
    ((∃ selector, parse source = .ok selector) ↔ ∃ alternatives, ReadsSelector Anywhere list alternatives) ∧
      ∀ selector : Selector, (parse source = .ok selector ↔
          selector.source = source ∧ ReadsSelector NoFurtherStep list selector.alternatives) ∧
        (parse source = .ok selector → ∀ alternative ∈ selector.alternatives, alternative.expr.WellFormed) := by
  have answers := parse_eq_ok source list lexed some
  refine ⟨?_, fun selector => ⟨?_, fun found => ?_⟩⟩
  · rw [← parse_tokens_accepts]
    constructor
    · rintro ⟨selector, found⟩
      exact ⟨selector.alternatives, ((answers selector).mp found).2⟩
    · rintro ⟨alternatives, found⟩
      exact ⟨⟨source, alternatives⟩, (answers _).mpr ⟨rfl, found⟩⟩
  · rw [answers, parse_tokens_eq_ok]
  · have reads := (parse_tokens_eq_ok list selector.alternatives).mp ((answers selector).mp found).2
    exact selector_well_formed list selector.alternatives reads

def nestedText : String := "L:a b,-(c|d)"

def nestedTokens : List Token :=
  [⟨.priority .left, 0, ['L', ':']⟩, ⟨.name, 2, ['a']⟩, ⟨.name, 4, ['b']⟩, ⟨.comma, 5, [',']⟩, ⟨.minus, 6, ['-']⟩,
    ⟨.opening, 7, ['(']⟩, ⟨.name, 8, ['c']⟩, ⟨.pipe, 9, ['|']⟩, ⟨.name, 10, ['d']⟩, ⟨.closing, 11, [')']⟩]

def nestedAlternatives : List Alternative :=
  [⟨.left, .path ⟨[⟨.descendant, "a"⟩, ⟨.descendant, "b"⟩]⟩⟩,
    ⟨.normal, .not (.any (.ofList [.path ⟨[⟨.descendant, "c"⟩]⟩, .path ⟨[⟨.descendant, "d"⟩]⟩]))⟩]

theorem parse_nested_text :
    (tokens nestedText.toList = .ok nestedTokens ∧ nestedTokens ≠ []) ∧
      parse nestedText = .ok ⟨nestedText, nestedAlternatives⟩ ∧
      ReadsSelector NoFurtherStep nestedTokens nestedAlternatives := by
  have lexed : tokens nestedText.toList = .ok nestedTokens := by decide +kernel
  have nonEmpty : nestedTokens ≠ [] := by simp [nestedTokens]
  have parsed : parse nestedText = .ok ⟨nestedText, nestedAlternatives⟩ :=
    (parse_eq_ok nestedText nestedTokens lexed nonEmpty _).mpr ⟨rfl, rfl⟩
  have answer := (parse_accepts_exactly_grammar nestedText nestedTokens lexed nonEmpty).2 ⟨nestedText, nestedAlternatives⟩
  exact ⟨⟨lexed, nonEmpty⟩, parsed, (answer.1.mp parsed).2⟩

end LineScope.Selector
