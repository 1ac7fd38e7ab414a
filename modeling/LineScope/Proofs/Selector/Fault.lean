import LineScope.Proofs.Selector.Lossless
import LineScope.Proofs.Selector.Outlook

set_option autoImplicit false

namespace LineScope.Selector

open Outlook (start)

def Accepted (tokens : List Token) : Prop := ∃ alternatives, parseTokens tokens = .ok alternatives

def Viable (tokens : List Token) : Prop := ∃ more, Accepted (tokens ++ more)

section Viable

theorem accepted_iff (tokens : List Token) : Accepted tokens ↔ start.fault? tokens = none :=
  (parse_tokens_fault tokens).1

theorem viable_of_reached (tokens : List Token) (reached : Outlook) (reaches : start.afterAll? tokens = some reached) :
    Viable tokens := by
  obtain ⟨more, completes⟩ := reached.completes
  exact ⟨more, (accepted_iff _).mpr ((Outlook.fault_reached _ reached tokens more reaches).trans completes)⟩

theorem reached_of_viable (tokens : List Token) (viable : Viable tokens) :
    ∃ reached, start.afterAll? tokens = some reached := by
  obtain ⟨more, accepted⟩ := viable
  exact Outlook.reached_of_no_fault _ tokens more ((accepted_iff _).mp accepted)

theorem impossible_not_viable (before : List Token) (token : Token) (next : Outlook)
    (reaches : start.afterAll? before = some next) (impossible : next.after? token = none) :
    ¬ Viable (before ++ [token]) := by
  rintro ⟨more, accepted⟩
  have fault := Outlook.fault_reached _ next before (token :: more) reaches
  rw [Outlook.fault_here next token more impossible] at fault
  rw [accepted_iff, List.append_assoc, List.singleton_append, fault] at accepted
  cases accepted

end Viable

section Groups

-- The tokens end after a complete conjunction in the group that `opening` opens: all that follows it are
-- conjunctions, so the groups inside it are closed.
def EndsInside (tokens : List Token) (opening : Token) : Prop :=
  ∃ before inside trees, tokens = before ++ opening :: inside ∧ opening.kind = .opening ∧
    ReadsConjunctions Anywhere inside [] trees

theorem ends_inside_suffix (tokens rest : List Token) (opening : Token) (suffix : rest <:+ tokens)
    (ends : EndsInside rest opening) : EndsInside tokens opening := by
  obtain ⟨earlier, rfl⟩ := suffix
  obtain ⟨before, inside, trees, rfl, isOpening, reads⟩ := ends
  exact ⟨earlier ++ before, inside, trees, (List.append_assoc ..).symm, isOpening, reads⟩

theorem path_steps_closed (tokens : List Token) (offset : Nat) : pathSteps tokens ≠ .error (.unclosedGroup offset) := by
  fun_induction pathSteps tokens with
  | case1 => simp
  | case2 token tokens isName ih =>
      intro failed
      rcases bind_error failed with inner | ⟨_, _, failed⟩
      · exact ih inner
      · cases failed
  | case3 token isGreater => simp
  | case4 token isGreater name tokens isName ih =>
      intro failed
      rcases bind_error failed with inner | ⟨_, _, failed⟩
      · exact ih inner
      · cases failed
  | case5 token isGreater name tokens noName => simp [Token.unexpected]
  | case6 token tokens noName noMark => simp

theorem missing_operand_closed (tokens : List Token) (offset : Nat) : missingOperand tokens ≠ .unclosedGroup offset := by
  cases tokens <;> simp [missingOperand, Token.unexpected]

theorem operand_leaves (fuel : Nat) (token : Token) (tokens rest : List Token) (tree : Expr)
    (enough : 4 * tokens.length + 3 ≤ fuel) (found : operand fuel token tokens = .ok (tree, rest)) : rest <:+ tokens := by
  have follows := operand_follows fuel [] token tokens enough
  rw [found] at follows
  exact follows.1

theorem conjunction_leaves (fuel : Nat) (tokens rest : List Token) (tree : Expr)
    (enough : 4 * tokens.length + 2 ≤ fuel) (found : conjunction fuel tokens = .ok (tree, rest)) : rest <:+ tokens := by
  have follows := conjunction_follows fuel [] tokens enough
  rw [found] at follows
  exact follows.1

-- A group that is not closed is the innermost of those that are open, and it waits for nothing but
-- its end.
mutual

theorem operands_unclosed (fuel : Nat) (tokens : List Token) (offset : Nat) (enough : 4 * tokens.length + 1 ≤ fuel)
    (failed : operands fuel tokens = .error (.unclosedGroup offset)) :
    ∃ opening, EndsInside tokens opening ∧ opening.offset = offset := by
  match fuel, tokens with
  | fuel + 1, [] => cases failed
  | fuel + 1, token :: tokens =>
      rw [List.length_cons] at enough
      rw [operands] at failed
      split at failed
      · rcases bind_error failed with inner | ⟨⟨head, rest⟩, found, failed⟩
        · exact operand_unclosed fuel token tokens offset (by omega) inner
        · have suffix := operand_leaves fuel token tokens rest head (by omega) found
          have shorter := suffix.length_le
          rcases bind_error failed with more | ⟨_, _, failed⟩
          · obtain ⟨opening, ends, same⟩ := operands_unclosed fuel rest offset (by omega) more
            exact ⟨opening, ends_inside_suffix _ rest opening (suffix.trans (List.suffix_cons token tokens)) ends, same⟩
          · cases failed
      · cases failed

theorem conjunction_unclosed (fuel : Nat) (tokens : List Token) (offset : Nat) (enough : 4 * tokens.length + 2 ≤ fuel)
    (failed : conjunction fuel tokens = .error (.unclosedGroup offset)) :
    ∃ opening, EndsInside tokens opening ∧ opening.offset = offset := by
  match fuel with
  | fuel + 1 =>
      rw [conjunction] at failed
      rcases bind_error failed with inner | ⟨⟨trees, rest⟩, _, failed⟩
      · exact operands_unclosed fuel tokens offset (by omega) inner
      · dsimp only at failed
        split at failed
        · cases failed
        · exact absurd (Except.error.inj failed) (missing_operand_closed rest offset)

theorem operand_unclosed (fuel : Nat) (token : Token) (tokens : List Token) (offset : Nat)
    (enough : 4 * tokens.length + 3 ≤ fuel) (failed : operand fuel token tokens = .error (.unclosedGroup offset)) :
    ∃ opening, EndsInside (token :: tokens) opening ∧ opening.offset = offset := by
  match fuel with
  | fuel + 1 =>
      rw [operand.eq_def] at failed
      dsimp only at failed
      split at failed
      · match tokens, failed with
        | next :: rest, failed =>
            rw [List.length_cons] at enough
            rcases bind_error failed with inner | ⟨_, _, failed⟩
            · obtain ⟨opening, ends, same⟩ := operand_unclosed fuel next rest offset (by omega) inner
              exact ⟨opening, ends_inside_suffix _ _ opening (List.suffix_cons token _) ends, same⟩
            · cases failed
      · rename_i isOpening
        rcases bind_error failed with inner | ⟨⟨first, rest⟩, found, failed⟩
        · obtain ⟨opening, ends, same⟩ := conjunction_unclosed fuel tokens offset (by omega) inner
          exact ⟨opening, ends_inside_suffix _ _ opening (List.suffix_cons token _) ends, same⟩
        · have suffix := conjunction_leaves fuel tokens rest first (by omega) found
          have reads : ReadsConjunction Anywhere tokens rest first :=
            conjunction_read (fun _ _ => trivial) fuel tokens rest first found
          have shorter := suffix.length_le
          rcases bind_error failed with more | ⟨_, _, failed⟩
          · rcases group_rest_unclosed fuel token.offset tokens rest first offset suffix reads (by omega) more with
              ⟨same, trees, inside⟩ | ⟨opening, ends, same⟩
            · exact ⟨token, ⟨[], tokens, trees, rfl, isOpening, inside⟩, same⟩
            · exact ⟨opening, ends_inside_suffix _ _ opening (List.suffix_cons token _) ends, same⟩
          · cases failed
      · rcases bind_error failed with inner | ⟨_, _, failed⟩
        · exact absurd inner (path_steps_closed tokens offset)
        · cases failed
      · cases failed

theorem group_rest_unclosed (fuel opened : Nat) (tokens middle : List Token) (first : Expr) (offset : Nat)
    (suffix : middle <:+ tokens) (reads : ReadsConjunction Anywhere tokens middle first)
    (enough : 4 * middle.length ≤ fuel) (failed : groupRest fuel opened middle = .error (.unclosedGroup offset)) :
    (opened = offset ∧ ∃ trees, ReadsConjunctions Anywhere tokens [] trees) ∨
      ∃ opening, EndsInside tokens opening ∧ opening.offset = offset := by
  match fuel, middle with
  | 0, [] =>
      cases failed
      exact .inl ⟨rfl, _, .one _ _ first reads⟩
  | fuel + 1, [] =>
      cases failed
      exact .inl ⟨rfl, _, .one _ _ first reads⟩
  | fuel + 1, token :: middle =>
      rw [List.length_cons] at enough
      have deeper : middle <:+ tokens := (List.suffix_cons token middle).trans suffix
      have separated : token.Separates →
          (conjunction fuel middle >>= fun (head, rest) => groupRest fuel opened rest >>= fun (tail, rest) =>
            pure (head :: tail, rest)) = .error (.unclosedGroup offset) →
          (opened = offset ∧ ∃ trees, ReadsConjunctions Anywhere tokens [] trees) ∨
            ∃ opening, EndsInside tokens opening ∧ opening.offset = offset := by
        intro separates failed
        rcases bind_error failed with inner | ⟨⟨head, rest⟩, found, failed⟩
        · obtain ⟨opening, ends, same⟩ := conjunction_unclosed fuel middle offset (by omega) inner
          exact .inr ⟨opening, ends_inside_suffix _ _ opening deeper ends, same⟩
        · have further := conjunction_leaves fuel middle rest head (by omega) found
          have next : ReadsConjunction Anywhere middle rest head :=
            conjunction_read (fun _ _ => trivial) fuel middle rest head found
          have shorter := further.length_le
          rcases bind_error failed with more | ⟨_, _, failed⟩
          · rcases group_rest_unclosed fuel opened middle rest head offset further next (by omega) more with
              ⟨same, trees, inside⟩ | ⟨opening, ends, same⟩
            · exact .inl ⟨same, _, .more _ middle _ token first trees reads separates inside⟩
            · exact .inr ⟨opening, ends_inside_suffix _ _ opening deeper ends, same⟩
          · cases failed
      rw [groupRest.eq_def] at failed
      dsimp only at failed
      split at failed
      · cases failed
      · rename_i isComma
        exact separated (.inl isComma) failed
      · rename_i isPipe
        exact separated (.inr isPipe) failed
      · cases failed

end

theorem alternatives_unclosed (fuel : Nat) (tokens : List Token) (offset : Nat) (enough : 4 * tokens.length + 4 ≤ fuel)
    (failed : alternativesFrom fuel tokens = .error (.unclosedGroup offset)) :
    ∃ opening, EndsInside tokens opening ∧ opening.offset = offset := by
  induction fuel generalizing tokens with
  | zero => omega
  | succ fuel ih =>
      have suffix := (priority_follows tokens).1
      rw [alternativesFrom] at failed
      generalize priorityOf tokens = parts at suffix failed
      obtain ⟨priority, inner⟩ := parts
      have shorter : inner.length ≤ tokens.length := suffix.length_le
      rcases bind_error failed with first | ⟨⟨tree, rest⟩, found, failed⟩
      · obtain ⟨opening, ends, same⟩ := conjunction_unclosed fuel inner offset (by omega) first
        exact ⟨opening, ends_inside_suffix _ _ opening suffix ends, same⟩
      · have further := (conjunction_leaves fuel inner rest tree (by omega) found).trans suffix
        have less := further.length_le
        cases rest with
        | nil => cases failed
        | cons mark rest =>
            rw [List.length_cons] at less
            dsimp only at failed
            split at failed
            · rcases bind_error failed with more | ⟨_, _, failed⟩
              · obtain ⟨opening, ends, same⟩ := ih rest (by omega) more
                have outer := (List.suffix_cons mark rest).trans further
                exact ⟨opening, ends_inside_suffix _ rest opening outer ends, same⟩
              · cases failed
            · cases failed

theorem conjunctions_unclosed (fuel opened : Nat) (tokens stop : List Token) (trees : List Expr)
    (reads : ReadsConjunctions NoFurtherStep tokens stop trees) :
    stop = [] → 4 * tokens.length + 2 ≤ fuel →
      ∃ first middle, conjunction fuel tokens = .ok (first, middle) ∧
        groupRest fuel opened middle = .error (.unclosedGroup opened) := by
  cases reads with
  | one _ _ tree only =>
      rintro rfl enough
      have found := conjunction_complete fuel tokens [] tree only stops_nil (by rw [List.length_nil]; omega)
      refine ⟨tree, [], found, ?_⟩
      cases fuel <;> rfl
  | more _ middle _ mark tree trees first separates others =>
      rintro rfl enough
      have shorter := reads_conjunction_length tokens (mark :: middle) tree first
      rw [List.length_cons] at shorter
      have found := conjunction_complete fuel tokens (mark :: middle) tree first
        (stops_separator mark middle separates) (by rw [List.length_cons]; omega)
      obtain ⟨fuel, rfl⟩ : ∃ less, fuel = less + 1 := ⟨fuel - 1, by omega⟩
      obtain ⟨next, after, conjunction, more⟩ := conjunctions_unclosed fuel opened middle [] trees others rfl (by omega)
      refine ⟨tree, mark :: middle, found, ?_⟩
      rw [groupRest.eq_def]
      rcases separates with isComma | isPipe
      · simp only [isComma, conjunction, ok_bind, more]
        rfl
      · simp only [isPipe, conjunction, ok_bind, more]
        rfl

theorem fault_inside_group (opening : Token) (outer inside : List Token) (trees : List Expr)
    (reads : ReadsConjunctions Anywhere inside [] trees) :
    Outlook.fault? ⟨.operand, opening :: outer⟩ inside = some (.unclosedGroup opening.offset) := by
  obtain ⟨longest, reads⟩ := conjunctions_longest inside [] trees reads stops_nil
  have fuel := Nat.le_refl (4 * inside.length + 2)
  obtain ⟨first, middle, found, unclosed⟩ := conjunctions_unclosed _ opening.offset inside [] longest reads rfl fuel
  have before := conjunction_follows _ (opening :: outer) inside fuel
  rw [found] at before
  obtain ⟨suffix, same⟩ := before
  have shorter := suffix.length_le
  have stopped := conjunction_stopped _ inside middle first (by omega) found
  have after := group_rest_follows (4 * inside.length + 2) opening outer middle stopped (by omega)
  rw [unclosed] at after
  exact same.trans after

end Groups

theorem unclosed_iff (tokens : List Token) (offset : Nat) :
    parseTokens tokens = .error (.unclosedGroup offset) ↔
      ∃ opening, Viable tokens ∧ EndsInside tokens opening ∧ opening.offset = offset := by
  constructor
  · intro failed
    obtain ⟨opening, ends, same⟩ := alternatives_unclosed _ tokens offset (Nat.le_refl _) failed
    have fault := ((parse_tokens_fault tokens).2 _).mp failed
    rcases Outlook.fault_cases start tokens _ fault with ⟨_, _, _, _, _, _, _, wrong⟩ | ⟨last, reaches, _⟩
    · cases wrong
    · exact ⟨opening, viable_of_reached tokens last reaches, ends, same⟩
  · rintro ⟨opening, viable, ⟨before, inside, trees, rfl, isOpening, reads⟩, rfl⟩
    obtain ⟨last, reaches⟩ := reached_of_viable _ viable
    rw [Outlook.after_all_append] at reaches
    obtain ⟨next, reachesNext, further⟩ := Option.bind_eq_some_iff.mp reaches
    obtain ⟨opened, possible, _⟩ := Option.bind_eq_some_iff.mp further
    have inGroup : opened = ⟨.operand, opening :: next.opened⟩ := by
      simp only [Outlook.after?, isOpening] at possible
      split at possible <;> cases possible
      rfl
    subst inGroup
    rw [(parse_tokens_fault _).2, Outlook.fault_reached start next before _ reachesNext,
      Outlook.fault_next next _ opening inside possible]
    exact fault_inside_group opening next.opened inside trees reads

def Explains (tokens : List Token) : ParseError → Prop
  | .unexpectedToken text offset =>
    (∃ token ∈ tokens, token.unexpected = .unexpectedToken text offset) ∧
      ∀ index token, tokens[index]? = some token → token.unexpected = .unexpectedToken text offset →
        Viable (tokens.take index) ∧ ¬ Viable (tokens.take (index + 1))
  | .unexpectedEnd | .unclosedGroup _ => ∃ more, more ≠ [] ∧ Accepted (tokens ++ more)
  | .empty | .unexpectedChar _ _ => False

theorem unexpected_explained (tokens : List Token) (ascending : tokens.Pairwise fun first second => first.offset < second.offset)
    (before after : List Token) (token : Token) (next : Outlook) (split : tokens = before ++ token :: after)
    (reaches : start.afterAll? before = some next) (impossible : next.after? token = none) :
    Explains tokens token.unexpected := by
  refine ⟨⟨token, by simp [split], rfl⟩, fun index other found same => ?_⟩
  have offsets : other.offset = token.offset := by
    simp only [Token.unexpected, ParseError.unexpectedToken.injEq] at same
    exact same.2
  have there : tokens[before.length]? = some token := by simp [split]
  obtain ⟨bound, here⟩ := List.getElem?_eq_some_iff.mp found
  obtain ⟨limit, there⟩ := List.getElem?_eq_some_iff.mp there
  have ordered := List.pairwise_iff_getElem.mp ascending
  have only : index = before.length := by
    rcases Nat.lt_trichotomy index before.length with less | equal | greater
    · have lower := ordered index before.length bound limit less
      rw [here, there] at lower
      omega
    · exact equal
    · have lower := ordered before.length index limit bound greater
      rw [here, there] at lower
      omega
  subst only
  have earlier : tokens.take before.length = before := by simp [split]
  have further : tokens.take (before.length + 1) = before ++ [token] := by simp [split, List.take_append, List.take_of_length_le]
  rw [earlier, further]
  exact ⟨viable_of_reached before next reaches, impossible_not_viable before token next reaches impossible⟩

theorem missing_explained (tokens : List Token) (last : Outlook) (error : ParseError)
    (reaches : start.afterAll? tokens = some last) (ends : last.atEnd = some error) : Explains tokens error := by
  have further : ∃ more, more ≠ [] ∧ Accepted (tokens ++ more) := by
    obtain ⟨more, accepted⟩ := viable_of_reached tokens last reaches
    refine ⟨more, ?_, accepted⟩
    rintro rfl
    rw [accepted_iff, Outlook.fault_reached start last tokens [] reaches, Outlook.fault?, ends] at accepted
    cases accepted
  rw [Outlook.atEnd] at ends
  split at ends
  · obtain ⟨opening, _, rfl⟩ := Option.map_eq_some_iff.mp ends
    exact further
  · cases ends
    exact further

theorem parse_eq_error (source : String) (list : List Token) (lexed : tokens source.toList = .ok list) (some : list ≠ [])
    (error : ParseError) : parse source = .error error ↔ parseTokens list = .error error := by
  have nonEmpty : list.isEmpty = false := by simpa using some
  rw [parse, lexed, ok_bind, nonEmpty, if_neg Bool.false_ne_true]
  cases parsed : parseTokens list with
  | error other =>
      constructor
      · intro result
        cases result
        rfl
      · intro result
        cases result
        rfl
  | ok found =>
      constructor
      · intro result
        cases result
      · intro result
        cases result

/-- An unexpected token is the first that cannot stand where it does; where the text ends too early it can be
completed; and a group is reported as open exactly if all it lacks is its end. -/
theorem refused_at_first_impossible_token (source : String) (list : List Token)
    (lexed : tokens source.toList = .ok list) (some : list ≠ []) :
    (∀ error, parse source = .error error → Explains list error) ∧
      ∀ offset, parse source = .error (.unclosedGroup offset) ↔
        ∃ opening, Viable list ∧ EndsInside list opening ∧ opening.offset = offset := by
  refine ⟨fun error refused => ?_, fun offset => ?_⟩
  · rw [parse_eq_error source list lexed some, (parse_tokens_fault list).2] at refused
    rcases Outlook.fault_cases start list error refused with
      ⟨before, token, after, next, split, reaches, impossible, rfl⟩ | ⟨last, reaches, ends⟩
    · exact unexpected_explained list (tokens_ascend source.toList list lexed) before after token next split reaches impossible
    · exact missing_explained list last error reaches ends
  · rw [parse_eq_error source list lexed some, unclosed_iff]

def doubledText : String := "a > > b"

def doubledTokens : List Token :=
  [⟨.name, 0, ['a']⟩, ⟨.greater, 2, ['>']⟩, ⟨.greater, 4, ['>']⟩, ⟨.name, 6, ['b']⟩]

def openText : String := "(a) - (b (c) | d"

def openTokens : List Token :=
  [⟨.opening, 0, ['(']⟩, ⟨.name, 1, ['a']⟩, ⟨.closing, 2, [')']⟩, ⟨.minus, 4, ['-']⟩, ⟨.opening, 6, ['(']⟩,
    ⟨.name, 7, ['b']⟩, ⟨.opening, 9, ['(']⟩, ⟨.name, 10, ['c']⟩, ⟨.closing, 11, [')']⟩, ⟨.pipe, 13, ['|']⟩,
    ⟨.name, 15, ['d']⟩]

theorem faulty_texts_refused :
    ((tokens doubledText.toList = .ok doubledTokens ∧ doubledTokens ≠ []) ∧
      parse doubledText = .error (.unexpectedToken ">" 4) ∧
      Viable (doubledTokens.take 2) ∧ ¬ Viable (doubledTokens.take 3)) ∧
    (tokens openText.toList = .ok openTokens ∧ openTokens ≠ []) ∧
      parse openText = .error (.unclosedGroup 6) ∧
      ∃ opening, Viable openTokens ∧ EndsInside openTokens opening ∧ opening.offset = 6 := by
  have doubledLexed : tokens doubledText.toList = .ok doubledTokens := by decide +kernel
  have doubledSome : doubledTokens ≠ [] := by simp [doubledTokens]
  have doubledFails : parse doubledText = .error (.unexpectedToken ">" 4) :=
    (parse_eq_error doubledText doubledTokens doubledLexed doubledSome _).mpr rfl
  have explained := (refused_at_first_impossible_token doubledText doubledTokens doubledLexed doubledSome).1 _ doubledFails
  have openLexed : tokens openText.toList = .ok openTokens := by decide +kernel
  have openSome : openTokens ≠ [] := by simp [openTokens]
  have openFails : parse openText = .error (.unclosedGroup 6) :=
    (parse_eq_error openText openTokens openLexed openSome _).mpr rfl
  have ends := (refused_at_first_impossible_token openText openTokens openLexed openSome).2 6
  exact ⟨⟨⟨doubledLexed, doubledSome⟩, doubledFails, explained.2 2 ⟨.greater, 4, ['>']⟩ rfl rfl⟩,
    ⟨openLexed, openSome⟩, openFails, ends.mp openFails⟩

end LineScope.Selector
