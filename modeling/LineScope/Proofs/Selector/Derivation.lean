import LineScope.Proofs.Text.Reading
import LineScope.Selector.Parser

/-!
The grammar of selectors as a relation. The grammar is ambiguous: two names in a row are one path of
two steps, or two paths. What the parser reads is derived by the grammar, with paths that end only
where no step can follow.
-/

set_option autoImplicit false

namespace LineScope.Selector

inductive ReadsStep : List Token → List Token → PathStep → Prop
  | next (name : Token) (rest : List Token) (isName : name.kind = .name) :
      ReadsStep (name :: rest) rest ⟨.descendant, String.ofList name.text⟩
  | inside (mark name : Token) (rest : List Token) (isGreater : mark.kind = .greater) (isName : name.kind = .name) :
      ReadsStep (mark :: name :: rest) rest ⟨.child, String.ofList name.text⟩

inductive ReadsSteps : List Token → List Token → List PathStep → Prop
  | none (rest : List Token) : ReadsSteps rest rest []
  | more (tokens middle rest : List Token) (step : PathStep) (steps : List PathStep)
      (first : ReadsStep tokens middle step) (others : ReadsSteps middle rest steps) :
      ReadsSteps tokens rest (step :: steps)

def Token.Separates (token : Token) : Prop := token.kind = .comma ∨ token.kind = .pipe

section Grammar

variable (ends : List Token → Prop)

mutual

inductive ReadsOperand : List Token → List Token → Expr → Prop
  | negated (mark : Token) (tokens rest : List Token) (inner : Expr) (isMinus : mark.kind = .minus)
      (operand : ReadsOperand tokens rest inner) : ReadsOperand (mark :: tokens) rest (.not inner)
  | group (opening closing : Token) (tokens rest : List Token) (tree : Expr) (isOpening : opening.kind = .opening)
      (isClosing : closing.kind = .closing) (inside : ReadsGroup tokens (closing :: rest) tree) :
      ReadsOperand (opening :: tokens) rest tree
  | path (name : Token) (tokens rest : List Token) (steps : List PathStep) (isName : name.kind = .name)
      (others : ReadsSteps tokens rest steps) (ended : ends rest) :
      ReadsOperand (name :: tokens) rest (.path ⟨⟨.descendant, String.ofList name.text⟩ :: steps⟩)

inductive ReadsOperands : List Token → List Token → List Expr → Prop
  | one (tokens rest : List Token) (tree : Expr) (operand : ReadsOperand tokens rest tree) :
      ReadsOperands tokens rest [tree]
  | more (tokens middle rest : List Token) (tree : Expr) (trees : List Expr)
      (operand : ReadsOperand tokens middle tree) (others : ReadsOperands middle rest trees) :
      ReadsOperands tokens rest (tree :: trees)

inductive ReadsConjunction : List Token → List Token → Expr → Prop
  | only (tokens rest : List Token) (tree : Expr) (operands : ReadsOperands tokens rest [tree]) :
      ReadsConjunction tokens rest tree
  | all (tokens rest : List Token) (first second : Expr) (others : List Expr)
      (operands : ReadsOperands tokens rest (first :: second :: others)) :
      ReadsConjunction tokens rest (.all (.ofList (first :: second :: others)))

inductive ReadsConjunctions : List Token → List Token → List Expr → Prop
  | one (tokens rest : List Token) (tree : Expr) (conjunction : ReadsConjunction tokens rest tree) :
      ReadsConjunctions tokens rest [tree]
  | more (tokens middle rest : List Token) (mark : Token) (tree : Expr) (trees : List Expr)
      (conjunction : ReadsConjunction tokens (mark :: middle) tree) (separates : mark.Separates)
      (others : ReadsConjunctions middle rest trees) : ReadsConjunctions tokens rest (tree :: trees)

inductive ReadsGroup : List Token → List Token → Expr → Prop
  | only (tokens rest : List Token) (tree : Expr) (conjunctions : ReadsConjunctions tokens rest [tree]) :
      ReadsGroup tokens rest tree
  | any (tokens rest : List Token) (first second : Expr) (others : List Expr)
      (conjunctions : ReadsConjunctions tokens rest (first :: second :: others)) :
      ReadsGroup tokens rest (.any (.ofList (first :: second :: others)))

end

inductive ReadsAlternative : List Token → List Token → Alternative → Prop
  | marked (mark : Token) (priority : Priority) (tokens rest : List Token) (tree : Expr)
      (isPriority : mark.kind = .priority priority) (conjunction : ReadsConjunction ends tokens rest tree) :
      ReadsAlternative (mark :: tokens) rest ⟨priority, tree⟩
  | plain (tokens rest : List Token) (tree : Expr) (conjunction : ReadsConjunction ends tokens rest tree) :
      ReadsAlternative tokens rest ⟨.normal, tree⟩

inductive ReadsSelector : List Token → List Alternative → Prop
  | one (tokens : List Token) (alternative : Alternative) (only : ReadsAlternative ends tokens [] alternative) :
      ReadsSelector tokens [alternative]
  | more (tokens rest : List Token) (mark : Token) (alternative : Alternative) (alternatives : List Alternative)
      (first : ReadsAlternative ends tokens (mark :: rest) alternative) (separates : mark.Separates)
      (others : ReadsSelector rest alternatives) : ReadsSelector tokens (alternative :: alternatives)

end Grammar

-- Any path may end anywhere: all derivations of the grammar.
def Anywhere (_ : List Token) : Prop := True

def NoFurtherStep (rest : List Token) : Prop := ∀ after step, ¬ ReadsStep rest after step

section Sound

theorem no_further_step_cons (token : Token) (rest : List Token) (noName : token.kind ≠ .name)
    (noMark : token.kind ≠ .greater) : NoFurtherStep (token :: rest) := by
  intro after step reads
  cases reads with
  | next _ _ isName => exact noName isName
  | inside _ _ _ isGreater _ => exact noMark isGreater

theorem path_steps_read (tokens rest : List Token) (steps : List PathStep)
    (found : pathSteps tokens = .ok (steps, rest)) : ReadsSteps tokens rest steps ∧ NoFurtherStep rest := by
  fun_induction pathSteps tokens generalizing steps rest with
  | case1 =>
      cases found
      exact ⟨.none [], fun _ _ reads => nomatch reads⟩
  | case2 token tokens isName ih =>
      obtain ⟨⟨others, after⟩, inner, result⟩ := bind_ok found
      cases result
      obtain ⟨reads, ended⟩ := ih _ _ inner
      exact ⟨.more _ _ _ _ _ (.next token tokens isName) reads, ended⟩
  | case3 token isGreater => cases found
  | case4 token isGreater name tokens isName ih =>
      obtain ⟨⟨others, after⟩, inner, result⟩ := bind_ok found
      cases result
      obtain ⟨reads, ended⟩ := ih _ _ inner
      exact ⟨.more _ _ _ _ _ (.inside token name tokens isGreater isName) reads, ended⟩
  | case5 token isGreater name tokens noName => cases found
  | case6 token tokens noName noMark =>
      cases found
      exact ⟨.none _, no_further_step_cons token tokens noName noMark⟩

theorem conjoin_read (ends : List Token → Prop) (tokens rest : List Token) (trees : List Expr) (tree : Expr)
    (reads : (trees = [] ∧ rest = tokens) ∨ ReadsOperands ends tokens rest trees) (joined : conjoin trees = some tree) :
    ReadsConjunction ends tokens rest tree := by
  rcases reads with ⟨rfl, -⟩ | reads
  · cases joined
  · match trees, joined with
    | [only], joined =>
        cases joined
        exact .only tokens rest _ reads
    | first :: second :: others, joined =>
        cases joined
        exact .all tokens rest first second others reads

theorem disjoin_read (ends : List Token → Prop) (tokens rest : List Token) (first : Expr) (others : List Expr)
    (reads : ReadsConjunctions ends tokens rest (first :: others)) :
    ReadsGroup ends tokens rest (disjoin first others) := by
  cases others with
  | nil => exact .only tokens rest first reads
  | cons second others => exact .any tokens rest first second others reads

theorem priority_read (ends : List Token → Prop) (tokens rest : List Token) (tree : Expr)
    (reads : ReadsConjunction ends (priorityOf tokens).2 rest tree) :
    ReadsAlternative ends tokens rest ⟨(priorityOf tokens).1, tree⟩ := by
  match tokens with
  | [] => exact .plain [] rest tree reads
  | token :: tokens =>
      rw [priorityOf] at reads ⊢
      split at reads
      · rename_i priority isPriority
        exact .marked token priority tokens rest tree isPriority reads
      · exact .plain _ rest tree reads

variable {ends : List Token → Prop}

mutual

theorem operands_read (allowed : ∀ rest, NoFurtherStep rest → ends rest) (fuel : Nat)
    (tokens rest : List Token) (trees : List Expr)
    (found : operands fuel tokens = .ok (trees, rest)) :
    (trees = [] ∧ rest = tokens) ∨ ReadsOperands ends tokens rest trees := by
  match fuel, tokens with
  | 0, tokens =>
      cases found
      exact .inl ⟨rfl, rfl⟩
  | fuel + 1, [] =>
      cases found
      exact .inl ⟨rfl, rfl⟩
  | fuel + 1, token :: tokens =>
      rw [operands] at found
      split at found
      · obtain ⟨⟨head, middle⟩, first, found⟩ := bind_ok found
        obtain ⟨⟨tail, after⟩, others, found⟩ := bind_ok found
        cases found
        have operand := operand_read allowed fuel token tokens middle head first
        rcases operands_read allowed fuel middle rest tail others with ⟨rfl, rfl⟩ | reads
        · exact .inr (.one _ _ head operand)
        · exact .inr (.more _ middle _ head tail operand reads)
      · cases found
        exact .inl ⟨rfl, rfl⟩

theorem conjunction_read (allowed : ∀ rest, NoFurtherStep rest → ends rest) (fuel : Nat)
    (tokens rest : List Token) (tree : Expr)
    (found : conjunction fuel tokens = .ok (tree, rest)) : ReadsConjunction ends tokens rest tree := by
  match fuel with
  | 0 => cases found
  | fuel + 1 =>
      rw [conjunction] at found
      obtain ⟨⟨trees, after⟩, inner, found⟩ := bind_ok found
      have reads := operands_read allowed fuel tokens after trees inner
      dsimp only at found
      split at found
      · rename_i joined isJoined
        cases found
        exact conjoin_read _ tokens _ trees _ reads isJoined
      · cases found

theorem operand_read (allowed : ∀ rest, NoFurtherStep rest → ends rest) (fuel : Nat) (token : Token)
    (tokens rest : List Token) (tree : Expr)
    (found : operand fuel token tokens = .ok (tree, rest)) : ReadsOperand ends (token :: tokens) rest tree := by
  match fuel with
  | 0 => cases found
  | fuel + 1 =>
      rw [operand.eq_def] at found
      dsimp only at found
      split at found
      · rename_i isMinus
        match tokens, found with
        | next :: tokens, found =>
            obtain ⟨⟨inner, after⟩, operand, found⟩ := bind_ok found
            cases found
            exact .negated token _ _ inner isMinus (operand_read allowed fuel next tokens _ inner operand)
      · rename_i isOpening
        obtain ⟨⟨first, middle⟩, conjunction, found⟩ := bind_ok found
        obtain ⟨⟨others, after⟩, more, found⟩ := bind_ok found
        cases found
        have reads := conjunction_read allowed fuel tokens middle first conjunction
        obtain ⟨closing, isClosing, inside⟩ := group_rest_read allowed fuel token.offset tokens middle _ first others reads more
        exact .group token closing tokens _ _ isOpening isClosing (disjoin_read _ _ _ first others inside)
      · rename_i isName
        obtain ⟨⟨steps, after⟩, path, found⟩ := bind_ok found
        cases found
        obtain ⟨reads, ended⟩ := path_steps_read tokens _ steps path
        exact .path token tokens _ steps isName reads (allowed _ ended)
      · cases found

theorem group_rest_read (allowed : ∀ rest, NoFurtherStep rest → ends rest) (fuel opened : Nat)
    (tokens middle rest : List Token) (first : Expr) (others : List Expr)
    (reads : ReadsConjunction ends tokens middle first)
    (found : groupRest fuel opened middle = .ok (others, rest)) :
    ∃ closing : Token, closing.kind = .closing ∧
      ReadsConjunctions ends tokens (closing :: rest) (first :: others) := by
  match fuel, middle with
  | 0, _ => cases found
  | fuel + 1, [] => cases found
  | fuel + 1, token :: middle =>
      rw [groupRest] at found
      have separated : token.Separates →
          (conjunction fuel middle >>= fun (head, rest) => groupRest fuel opened rest >>= fun (tail, rest) =>
            pure (head :: tail, rest)) = .ok (others, rest) →
          ∃ closing : Token, closing.kind = .closing ∧
            ReadsConjunctions ends tokens (closing :: rest) (first :: others) := by
        intro separates found
        obtain ⟨⟨head, after⟩, conjunction, found⟩ := bind_ok found
        obtain ⟨⟨tail, last⟩, more, found⟩ := bind_ok found
        cases found
        have next := conjunction_read allowed fuel middle after head conjunction
        obtain ⟨closing, isClosing, inside⟩ := group_rest_read allowed fuel opened middle after rest head tail next more
        exact ⟨closing, isClosing, .more _ middle _ token first _ reads separates inside⟩
      split at found
      · rename_i isClosing
        cases found
        exact ⟨token, isClosing, .one _ _ first reads⟩
      · rename_i isComma
        exact separated (.inl isComma) found
      · rename_i isPipe
        exact separated (.inr isPipe) found
      · cases found

end

theorem alternatives_read (allowed : ∀ rest, NoFurtherStep rest → ends rest) (fuel : Nat)
    (tokens : List Token) (alternatives : List Alternative)
    (found : alternativesFrom fuel tokens = .ok alternatives) : ReadsSelector ends tokens alternatives := by
  induction fuel generalizing tokens alternatives with
  | zero => cases found
  | succ fuel ih =>
      rw [alternativesFrom] at found
      obtain ⟨⟨tree, rest⟩, conjunction, found⟩ := bind_ok found
      have reads := priority_read _ tokens rest tree (conjunction_read allowed fuel _ rest tree conjunction)
      match rest, found with
      | [], found =>
          cases found
          exact .one tokens _ reads
      | mark :: rest, found =>
          dsimp only at found
          split at found
          · rename_i separates
            obtain ⟨others, more, found⟩ := bind_ok found
            cases found
            exact .more tokens rest mark _ others reads separates (ih rest others more)
          · cases found

end Sound

section Lengths

variable {ends : List Token → Prop}

theorem reads_steps_length (tokens rest : List Token) (steps : List PathStep) (reads : ReadsSteps tokens rest steps) :
    rest.length ≤ tokens.length := by
  induction reads with
  | none rest => exact Nat.le_refl _
  | more tokens middle rest step steps first others ih =>
      cases first with
      | next name _ _ =>
          rw [List.length_cons]
          omega
      | inside mark name _ _ _ =>
          rw [List.length_cons, List.length_cons]
          omega

mutual

theorem reads_operand_length (tokens rest : List Token) (tree : Expr) (reads : ReadsOperand ends tokens rest tree) :
    rest.length < tokens.length := by
  match reads with
  | .negated mark tokens rest inner isMinus operand =>
      exact Nat.lt_succ_of_lt (reads_operand_length tokens rest inner operand)
  | .group opening closing tokens rest tree isOpening isClosing inside =>
      have shorter := reads_group_length tokens (closing :: rest) tree inside
      rw [List.length_cons] at shorter ⊢
      omega
  | .path name tokens rest steps isName others ended =>
      exact Nat.lt_succ_of_le (reads_steps_length tokens rest steps others)

theorem reads_operands_length (tokens rest : List Token) (trees : List Expr)
    (reads : ReadsOperands ends tokens rest trees) : rest.length < tokens.length := by
  match reads with
  | .one tokens rest tree operand => exact reads_operand_length tokens rest tree operand
  | .more tokens middle rest tree trees operand others =>
      exact Nat.lt_trans (reads_operands_length middle rest trees others)
        (reads_operand_length tokens middle tree operand)

theorem reads_conjunction_length (tokens rest : List Token) (tree : Expr)
    (reads : ReadsConjunction ends tokens rest tree) : rest.length < tokens.length := by
  match reads with
  | .only tokens rest tree operands => exact reads_operands_length tokens rest [tree] operands
  | .all tokens rest first second others operands =>
      exact reads_operands_length tokens rest (first :: second :: others) operands

theorem reads_conjunctions_length (tokens rest : List Token) (trees : List Expr)
    (reads : ReadsConjunctions ends tokens rest trees) : rest.length < tokens.length := by
  match reads with
  | .one tokens rest tree conjunction => exact reads_conjunction_length tokens rest tree conjunction
  | .more tokens middle rest mark tree trees conjunction separates others =>
      have first := reads_conjunction_length tokens (mark :: middle) tree conjunction
      have further := reads_conjunctions_length middle rest trees others
      rw [List.length_cons] at first
      omega

theorem reads_group_length (tokens rest : List Token) (tree : Expr) (reads : ReadsGroup ends tokens rest tree) :
    rest.length < tokens.length := by
  match reads with
  | .only tokens rest tree conjunctions => exact reads_conjunctions_length tokens rest [tree] conjunctions
  | .any tokens rest first second others conjunctions =>
      exact reads_conjunctions_length tokens rest (first :: second :: others) conjunctions

end

end Lengths

-- A tree without idle nodes: paths have a step, the first of them anywhere, and conjunctions and
-- disjunctions have two operands at least.
mutual

def Expr.WellFormed : Expr → Prop
  | .path path => path.steps.head?.map PathStep.combinator = some .descendant
  | .not inner => inner.WellFormed
  | .all operands => 2 ≤ operands.toList.length ∧ operands.WellFormed
  | .any operands => 2 ≤ operands.toList.length ∧ operands.WellFormed

def Operands.WellFormed : Operands → Prop
  | .nil => True
  | .cons head tail => head.WellFormed ∧ tail.WellFormed

end

theorem of_list_to_list (trees : List Expr) : (Operands.ofList trees).toList = trees := by
  induction trees with
  | nil => rfl
  | cons tree trees ih => rw [Operands.ofList, Operands.toList, ih]

theorem of_list_well_formed (trees : List Expr) (each : ∀ tree ∈ trees, tree.WellFormed) :
    (Operands.ofList trees).WellFormed := by
  induction trees with
  | nil => trivial
  | cons tree trees ih => exact ⟨each tree (by simp), ih fun other member => each other (List.mem_cons_of_mem _ member)⟩

section WellFormed

variable {ends : List Token → Prop}

mutual

theorem operand_well_formed (tokens rest : List Token) (tree : Expr) (reads : ReadsOperand ends tokens rest tree) :
    tree.WellFormed := by
  match reads with
  | .negated mark tokens rest inner isMinus operand => exact operand_well_formed tokens rest inner operand
  | .group opening closing tokens rest tree isOpening isClosing inside =>
      exact group_well_formed tokens (closing :: rest) tree inside
  | .path name tokens rest steps isName others ended => rfl

theorem operands_well_formed (tokens rest : List Token) (trees : List Expr)
    (reads : ReadsOperands ends tokens rest trees) : ∀ tree ∈ trees, tree.WellFormed := by
  match reads with
  | .one tokens rest tree operand =>
      exact List.forall_mem_singleton.mpr (operand_well_formed tokens rest tree operand)
  | .more tokens middle rest tree trees operand others =>
      exact List.forall_mem_cons.mpr
        ⟨operand_well_formed tokens middle tree operand, operands_well_formed middle rest trees others⟩

theorem conjunction_well_formed (tokens rest : List Token) (tree : Expr)
    (reads : ReadsConjunction ends tokens rest tree) : tree.WellFormed := by
  match reads with
  | .only tokens rest tree operands => exact operands_well_formed tokens rest [tree] operands tree (by simp)
  | .all tokens rest first second others operands =>
      refine ⟨by simp [of_list_to_list], of_list_well_formed _ ?_⟩
      exact operands_well_formed tokens rest (first :: second :: others) operands

theorem conjunctions_well_formed (tokens rest : List Token) (trees : List Expr)
    (reads : ReadsConjunctions ends tokens rest trees) : ∀ tree ∈ trees, tree.WellFormed := by
  match reads with
  | .one tokens rest tree conjunction =>
      exact List.forall_mem_singleton.mpr (conjunction_well_formed tokens rest tree conjunction)
  | .more tokens middle rest mark tree trees conjunction separates others =>
      exact List.forall_mem_cons.mpr
        ⟨conjunction_well_formed tokens (mark :: middle) tree conjunction,
          conjunctions_well_formed middle rest trees others⟩

theorem group_well_formed (tokens rest : List Token) (tree : Expr) (reads : ReadsGroup ends tokens rest tree) :
    tree.WellFormed := by
  match reads with
  | .only tokens rest tree conjunctions => exact conjunctions_well_formed tokens rest [tree] conjunctions tree (by simp)
  | .any tokens rest first second others conjunctions =>
      refine ⟨by simp [of_list_to_list], of_list_well_formed _ ?_⟩
      exact conjunctions_well_formed tokens rest (first :: second :: others) conjunctions

end

theorem alternative_well_formed (tokens rest : List Token) (alternative : Alternative)
    (reads : ReadsAlternative ends tokens rest alternative) : alternative.expr.WellFormed := by
  cases reads with
  | marked mark priority tokens _ tree isPriority conjunction =>
      exact conjunction_well_formed tokens rest tree conjunction
  | plain _ _ tree conjunction => exact conjunction_well_formed tokens rest tree conjunction

theorem selector_well_formed (tokens : List Token) (alternatives : List Alternative)
    (reads : ReadsSelector ends tokens alternatives) :
    ∀ alternative ∈ alternatives, alternative.expr.WellFormed := by
  induction reads with
  | one tokens alternative only =>
      exact List.forall_mem_singleton.mpr (alternative_well_formed tokens [] alternative only)
  | more tokens rest mark alternative alternatives first separates others ih =>
      exact List.forall_mem_cons.mpr ⟨alternative_well_formed tokens (mark :: rest) alternative first, ih⟩

end WellFormed

end LineScope.Selector
