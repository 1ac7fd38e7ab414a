import LineScope.Proofs.Selector.Lossless
import LineScope.Proofs.Selector.Longest
import LineScope.Proofs.Selector.Ranking

set_option autoImplicit false

namespace LineScope.Selector

section Lexer

def Token.moved (distance : Nat) (token : Token) : Token := { token with offset := distance + token.offset }

theorem name_tokens_moved (distance offset : Nat) (text : List Char) :
    nameTokens (distance + offset) text = (nameTokens offset text).map (Token.moved distance) := by
  rw [nameTokens, nameTokens]
  split
  · rfl
  · rename_i priority rest _
    cases rest with
    | nil => rfl
    | cons _ _ => simp [Token.moved, Nat.add_assoc]

theorem tokens_from_moved (distance offset : Nat) (source : List Char) (list : List Token)
    (lexed : tokensFrom offset source = .ok list) :
    tokensFrom (distance + offset) source = .ok (list.map (Token.moved distance)) := by
  fun_induction tokensFrom offset source generalizing list with
  | case1 =>
      cases lexed
      rw [tokensFrom.eq_def]
      rfl
  | case2 offset c rest blank ih =>
      rw [tokens_from_cons, if_pos blank, Nat.add_assoc]
      exact ih list lexed
  | case3 offset c rest blank kind mark ih =>
      obtain ⟨others, inner, result⟩ := bind_ok lexed
      cases result
      rw [tokens_from_cons, if_neg blank, mark, Nat.add_assoc]
      simp only [ih others inner, ok_bind]
      rfl
  | case4 offset c rest blank mark begins text ih =>
      obtain ⟨others, inner, result⟩ := bind_ok lexed
      cases result
      have further := ih others inner
      rw [← Nat.add_assoc] at further
      rw [tokens_from_cons, if_neg blank, mark]
      simp only [begins, if_true]
      rw [further, ok_bind, name_tokens_moved, List.map_append]
      rfl
  | case5 => cases lexed

variable (mark : Char) (kind : TokenKind) (back : List Char)

theorem run_before_mark (outside : isNameContinue mark = false) (front : List Char) :
    (front ++ mark :: back).takeWhile isNameContinue = front.takeWhile isNameContinue ∧
      (front ++ mark :: back).dropWhile isNameContinue = front.dropWhile isNameContinue ++ mark :: back := by
  induction front with
  | nil => simp [outside]
  | cons c front ih =>
      simp only [List.cons_append, List.takeWhile_cons, List.dropWhile_cons, ih.1, ih.2]
      split <;> simp

theorem tokens_from_joined (punctuation : punctuation? mark = some kind) (notBlank : Text.isBlank mark = false)
    (outside : isNameContinue mark = false) (offset : Nat) (front : List Char) (list others : List Token)
    (first : tokensFrom offset front = .ok list)
    (second : tokensFrom (offset + Text.byteLength front + mark.utf8Size) back = .ok others) :
    tokensFrom offset (front ++ mark :: back) =
      .ok (list ++ ⟨kind, offset + Text.byteLength front, [mark]⟩ :: others) := by
  fun_induction tokensFrom offset front generalizing list with
  | case1 offset =>
      cases first
      rw [List.nil_append, tokens_from_cons, notBlank, if_neg Bool.false_ne_true, punctuation]
      simp only [show tokensFrom (offset + mark.utf8Size) back = .ok others from second, ok_bind]
      rfl
  | case2 offset c rest blank ih =>
      rw [Text.byteLength, ← Nat.add_assoc] at second ⊢
      rw [List.cons_append, tokens_from_cons, if_pos blank]
      exact ih list first second
  | case3 offset c rest blank kind mark ih =>
      obtain ⟨inner, lexed, result⟩ := bind_ok first
      cases result
      rw [Text.byteLength, ← Nat.add_assoc] at second ⊢
      rw [List.cons_append, tokens_from_cons, if_neg blank, mark]
      simp only [ih inner lexed second, ok_bind]
      rfl
  | case4 offset c rest blank noMark begins text ih =>
      obtain ⟨inner, lexed, result⟩ := bind_ok first
      cases result
      have length : offset + Text.byteLength (c :: rest) =
          offset + Text.byteLength text + Text.byteLength (rest.dropWhile isNameContinue) := by
        rw [Nat.add_assoc, ← Text.byte_length_append, List.cons_append, List.takeWhile_append_dropWhile]
      obtain ⟨run, remains⟩ := run_before_mark mark back outside rest
      rw [length] at second ⊢
      rw [List.cons_append, tokens_from_cons, if_neg blank, noMark]
      simp only [begins, if_true, run, remains]
      rw [ih inner lexed second, ok_bind, List.append_assoc]
      rfl
  | case5 => cases first

end Lexer

section Parser

-- The tokens of a text that stands further on, and what follows them.
def carried (distance : Nat) (tail tokens : List Token) : List Token := tokens.map (Token.moved distance) ++ tail

theorem carried_zero (tail tokens : List Token) : carried 0 tail tokens = tokens ++ tail := by
  have still : Token.moved 0 = id := by
    funext token
    simp [Token.moved]
  rw [carried, still, List.map_id]

variable (distance : Nat) (tail : List Token)

theorem step_carried (tokens rest : List Token) (step : PathStep) (reads : ReadsStep tokens rest step) :
    ReadsStep (carried distance tail tokens) (carried distance tail rest) step := by
  cases reads with
  | next name rest isName => exact .next (name.moved distance) _ isName
  | inside mark name rest isGreater isName =>
      exact .inside (mark.moved distance) (name.moved distance) _ isGreater isName

theorem steps_carried (tokens rest : List Token) (steps : List PathStep) (reads : ReadsSteps tokens rest steps) :
    ReadsSteps (carried distance tail tokens) (carried distance tail rest) steps := by
  induction reads with
  | none rest => exact .none _
  | more tokens middle rest step steps first others ih =>
      exact .more _ _ _ step steps (step_carried distance tail tokens middle step first) ih

variable {tail}

-- A path that ended still ends: what follows the tokens neither begins a step nor completes one.
theorem ended_carried (stops : Stops tail) (rest : List Token) (ended : NoFurtherStep rest) :
    NoFurtherStep (carried distance tail rest) := by
  intro after step reads
  match rest with
  | [] => exact stops_no_further_step tail stops after step reads
  | [only] =>
      cases reads with
      | next _ _ isName => exact ended _ _ (.next only [] isName)
      | inside _ name _ _ isName =>
          have refused := (stops name after rfl).1
          simp [isName, startsOperand] at refused
  | first :: second :: rest =>
      cases reads with
      | next _ _ isName => exact ended _ _ (.next first _ isName)
      | inside _ _ _ isGreater isName => exact ended _ _ (.inside first second rest isGreater isName)

mutual

theorem operand_carried (stops : Stops tail) (tokens rest : List Token) (tree : Expr)
    (reads : ReadsOperand NoFurtherStep tokens rest tree) :
    ReadsOperand NoFurtherStep (carried distance tail tokens) (carried distance tail rest) tree := by
  match reads with
  | .negated mark tokens rest inner isMinus operand =>
      exact .negated (mark.moved distance) _ _ inner isMinus (operand_carried stops tokens rest inner operand)
  | .group opening closing tokens rest tree isOpening isClosing inside =>
      exact .group (opening.moved distance) (closing.moved distance) _ _ tree isOpening isClosing
        (group_carried stops tokens (closing :: rest) tree inside)
  | .path name tokens rest steps isName others ended =>
      exact .path (name.moved distance) _ _ steps isName (steps_carried distance tail tokens rest steps others)
        (ended_carried distance stops rest ended)

theorem operands_carried (stops : Stops tail) (tokens rest : List Token) (trees : List Expr)
    (reads : ReadsOperands NoFurtherStep tokens rest trees) :
    ReadsOperands NoFurtherStep (carried distance tail tokens) (carried distance tail rest) trees := by
  match reads with
  | .one tokens rest tree operand => exact .one _ _ tree (operand_carried stops tokens rest tree operand)
  | .more tokens middle rest tree trees operand others =>
      exact .more _ (carried distance tail middle) _ tree trees (operand_carried stops tokens middle tree operand)
        (operands_carried stops middle rest trees others)

theorem conjunction_carried (stops : Stops tail) (tokens rest : List Token) (tree : Expr)
    (reads : ReadsConjunction NoFurtherStep tokens rest tree) :
    ReadsConjunction NoFurtherStep (carried distance tail tokens) (carried distance tail rest) tree := by
  match reads with
  | .only tokens rest tree operands => exact .only _ _ tree (operands_carried stops tokens rest [tree] operands)
  | .all tokens rest first second others operands =>
      exact .all _ _ first second others (operands_carried stops tokens rest _ operands)

theorem conjunctions_carried (stops : Stops tail) (tokens rest : List Token) (trees : List Expr)
    (reads : ReadsConjunctions NoFurtherStep tokens rest trees) :
    ReadsConjunctions NoFurtherStep (carried distance tail tokens) (carried distance tail rest) trees := by
  match reads with
  | .one tokens rest tree conjunction => exact .one _ _ tree (conjunction_carried stops tokens rest tree conjunction)
  | .more tokens middle rest mark tree trees conjunction separates others =>
      exact .more _ (carried distance tail middle) _ (mark.moved distance) tree trees
        (conjunction_carried stops tokens (mark :: middle) tree conjunction) separates
        (conjunctions_carried stops middle rest trees others)

theorem group_carried (stops : Stops tail) (tokens rest : List Token) (tree : Expr)
    (reads : ReadsGroup NoFurtherStep tokens rest tree) :
    ReadsGroup NoFurtherStep (carried distance tail tokens) (carried distance tail rest) tree := by
  match reads with
  | .only tokens rest tree conjunctions =>
      exact .only _ _ tree (conjunctions_carried stops tokens rest [tree] conjunctions)
  | .any tokens rest first second others conjunctions =>
      exact .any _ _ first second others (conjunctions_carried stops tokens rest _ conjunctions)

end

theorem alternative_carried (stops : Stops tail) (tokens rest : List Token) (alternative : Alternative)
    (reads : ReadsAlternative NoFurtherStep tokens rest alternative) :
    ReadsAlternative NoFurtherStep (carried distance tail tokens) (carried distance tail rest) alternative := by
  cases reads with
  | marked mark priority tokens _ tree isPriority conjunction =>
      exact .marked (mark.moved distance) priority _ _ tree isPriority
        (conjunction_carried distance stops tokens rest tree conjunction)
  | plain _ _ tree conjunction =>
      exact .plain _ _ tree (conjunction_carried distance stops tokens rest tree conjunction)

theorem selector_moved (tokens : List Token) (alternatives : List Alternative)
    (reads : ReadsSelector NoFurtherStep tokens alternatives) :
    ReadsSelector NoFurtherStep (carried distance [] tokens) alternatives := by
  induction reads with
  | one tokens alternative only =>
      exact .one _ alternative (alternative_carried distance stops_nil tokens [] alternative only)
  | more tokens rest mark alternative alternatives first separates others ih =>
      exact .more _ (carried distance [] rest) (mark.moved distance) alternative alternatives
        (alternative_carried distance stops_nil tokens (mark :: rest) alternative first) separates ih

theorem selector_joined (mark : Token) (tokens back : List Token) (alternatives others : List Alternative)
    (separates : mark.Separates) (reads : ReadsSelector NoFurtherStep tokens alternatives)
    (further : ReadsSelector NoFurtherStep back others) :
    ReadsSelector NoFurtherStep (carried 0 (mark :: back) tokens) (alternatives ++ others) := by
  have stops := stops_separator mark back separates
  induction reads with
  | one tokens alternative only =>
      have first := alternative_carried 0 stops tokens [] alternative only
      exact .more _ back mark alternative others first separates further
  | more tokens rest next alternative alternatives first parts _ ih =>
      exact .more _ (carried 0 (mark :: back) rest) (next.moved 0) alternative _
        (alternative_carried 0 stops tokens (next :: rest) alternative first) parts ih

end Parser

section Union

theorem stronger_assoc (a b c : Option Specificity) :
    Specificity.stronger (Specificity.stronger a b) c = Specificity.stronger a (Specificity.stronger b c) := by
  simp only [stronger_eq_max]
  cases a <;> cases b <;> cases c <;> simp [max_assoc]

theorem strongest_of_above (stack : List String) (alternatives : List Alternative) (best : Option Specificity) :
    strongestOf stack alternatives best = Specificity.stronger best (strongestOf stack alternatives none) := by
  induction alternatives generalizing best with
  | nil => cases best <;> rfl
  | cons first rest ih =>
      have here := ih (Specificity.stronger best (first.expr.specificity stack))
      rw [stronger_assoc, ← ih (first.expr.specificity stack)] at here
      exact here

theorem specificity_append (stack : List String) (first second joined : Selector)
    (union : joined.alternatives = first.alternatives ++ second.alternatives) :
    joined.specificity stack = max (first.specificity stack) (second.specificity stack) := by
  have split : joined.specificity stack = strongestOf stack second.alternatives (first.specificity stack) := by
    rw [Selector.specificity, union, List.foldl_append]
    rfl
  rw [split, strongest_of_above, stronger_eq_max]
  rfl

theorem parse_ok_tokens (source : String) (selector : Selector) (parsed : parse source = .ok selector) :
    ∃ list, tokens source.toList = .ok list ∧ ReadsSelector NoFurtherStep list selector.alternatives := by
  have found := parsed
  rw [parse] at found
  obtain ⟨list, lexed, found⟩ := bind_ok found
  have some : list ≠ [] := by
    rintro rfl
    cases found
  exact ⟨list, lexed, (parse_tokens_eq_ok _ _).mp ((parse_eq_ok source list lexed some selector).mp parsed).2⟩

theorem parse_joined (front back : String) (left right : Selector) (first : parse front = .ok left)
    (second : parse back = .ok right) (mark : Char) (kind : TokenKind) (punctuation : punctuation? mark = some kind)
    (separates : kind = .comma ∨ kind = .pipe) (notBlank : Text.isBlank mark = false)
    (outside : isNameContinue mark = false) :
    parse (front ++ String.singleton mark ++ back) =
      .ok ⟨front ++ String.singleton mark ++ back, left.alternatives ++ right.alternatives⟩ := by
  obtain ⟨list, lexed, reads⟩ := parse_ok_tokens front left first
  obtain ⟨others, further, readsOthers⟩ := parse_ok_tokens back right second
  have moved := tokens_from_moved (0 + Text.byteLength front.toList + mark.utf8Size) 0 back.toList others further
  have joined := tokens_from_joined mark kind back.toList punctuation notBlank outside 0 front.toList list _ lexed moved
  have text : (front ++ String.singleton mark ++ back).toList = front.toList ++ mark :: back.toList := by
    simp
  rw [← text] at joined
  refine (parse_eq_ok _ _ joined (by simp) _).mpr ⟨rfl, (parse_tokens_eq_ok _ _).mpr ?_⟩
  have spread := selector_moved (0 + Text.byteLength front.toList + mark.utf8Size) others right.alternatives readsOthers
  have union := selector_joined ⟨kind, 0 + Text.byteLength front.toList, [mark]⟩ list _ _ _ separates reads spread
  rwa [carried_zero, carried, List.append_nil] at union

/-- A comma or a pipe between two texts joins the selectors they stand for: the alternatives of the second follow
those of the first, either is enough for a match, and the stronger of the two is its strength. -/
theorem joined_texts_unite_selectors (front back : String) (left right : Selector) (first : parse front = .ok left)
    (second : parse back = .ok right) (separator : String) (separates : separator = "," ∨ separator = "|") :
    ∃ joined, parse (front ++ separator ++ back) = .ok joined ∧
      joined.alternatives = left.alternatives ++ right.alternatives ∧
      ∀ stack, joined.accepts stack = (left.accepts stack || right.accepts stack) ∧
        joined.specificity stack = max (left.specificity stack) (right.specificity stack) := by
  have parsed : parse (front ++ separator ++ back) =
      .ok ⟨front ++ separator ++ back, left.alternatives ++ right.alternatives⟩ := by
    rcases separates with rfl | rfl
    · exact parse_joined front back left right first second ',' .comma rfl (.inl rfl) (by decide) (by decide)
    · exact parse_joined front back left right first second '|' .pipe rfl (.inr rfl) (by decide) (by decide)
  refine ⟨_, parsed, rfl, fun stack => ⟨?_, specificity_append stack left right _ rfl⟩⟩
  rw [Selector.accepts, List.any_append]
  rfl

def frontSelector : Selector := ⟨"L:a b", [⟨.left, .path ⟨[⟨.descendant, "a"⟩, ⟨.descendant, "b"⟩]⟩⟩]⟩

def backSelector : Selector :=
  ⟨"-c,(d | e)", [⟨.normal, .not (.path ⟨[⟨.descendant, "c"⟩]⟩)⟩,
    ⟨.normal, .any (.ofList [.path ⟨[⟨.descendant, "d"⟩]⟩, .path ⟨[⟨.descendant, "e"⟩]⟩])⟩]⟩

theorem joined_pair_unites :
    (parse "L:a b" = .ok frontSelector ∧ parse "-c,(d | e)" = .ok backSelector) ∧
      ∃ joined, parse "L:a b,-c,(d | e)" = .ok joined ∧
        joined.alternatives = frontSelector.alternatives ++ backSelector.alternatives ∧
        joined.specificity ["a", "b", "e"] = some ⟨3, 1, 1⟩ := by
  have first : parse "L:a b" = .ok frontSelector := by decide +kernel
  have second : parse "-c,(d | e)" = .ok backSelector := by decide +kernel
  obtain ⟨joined, parsed, union, everywhere⟩ :=
    joined_texts_unite_selectors "L:a b" "-c,(d | e)" frontSelector backSelector first second "," (.inl rfl)
  refine ⟨⟨first, second⟩, joined, parsed, union, ?_⟩
  rw [(everywhere ["a", "b", "e"]).2]
  decide +kernel

end Union

end LineScope.Selector
