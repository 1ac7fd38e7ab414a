import LineScope.Proofs.Selector.Longest

/-!
What can come next in a selector. An outlook says what the tokens so far wait for, and which groups
they have left open. It changes token by token, without building a tree, and from every outlook some
tokens lead to the end of a selector. The parser refuses exactly where the outlook allows no token,
or no end.
-/

set_option autoImplicit false

namespace LineScope.Selector

inductive Awaits where
  -- a priority, or an operand
  | alternative
  | operand
  -- the name after a greater sign
  | name
  -- anything that can follow a path
  | step
  -- anything that can follow a group
  | more
deriving DecidableEq

def Awaits.complete : Awaits → Bool
  | .step | .more => true
  | _ => false

-- `opened` holds the parentheses of the groups that are open, innermost first.
structure Outlook where
  awaits : Awaits
  opened : List Token

namespace Outlook

def start : Outlook := ⟨.alternative, []⟩

def after? (outlook : Outlook) (token : Token) : Option Outlook :=
  match token.kind with
  | .priority _ => if outlook.awaits = .alternative then some { outlook with awaits := .operand } else none
  | .name => some { outlook with awaits := .step }
  | .minus => if outlook.awaits = .name then none else some { outlook with awaits := .operand }
  | .opening => if outlook.awaits = .name then none else some ⟨.operand, token :: outlook.opened⟩
  | .greater => if outlook.awaits = .step then some { outlook with awaits := .name } else none
  | .comma | .pipe =>
    if outlook.awaits.complete then
      some { outlook with awaits := if outlook.opened.isEmpty then .alternative else .operand }
    else none
  | .closing =>
    if outlook.awaits.complete then
      match outlook.opened with
      | [] => none
      | _ :: outer => some ⟨.more, outer⟩
    else none

def afterAll? (outlook : Outlook) (tokens : List Token) : Option Outlook := tokens.foldlM after? outlook

def atEnd (outlook : Outlook) : Option ParseError :=
  if outlook.awaits.complete then outlook.opened.head?.map fun opening => .unclosedGroup opening.offset
  else some .unexpectedEnd

def fault? (outlook : Outlook) : List Token → Option ParseError
  | [] => outlook.atEnd
  | token :: rest =>
    match outlook.after? token with
    | none => some token.unexpected
    | some next => next.fault? rest

theorem fault_next (outlook next : Outlook) (token : Token) (rest : List Token)
    (possible : outlook.after? token = some next) : outlook.fault? (token :: rest) = next.fault? rest := by
  rw [fault?, possible]

theorem fault_here (outlook : Outlook) (token : Token) (rest : List Token) (impossible : outlook.after? token = none) :
    outlook.fault? (token :: rest) = some token.unexpected := by
  rw [fault?, impossible]

theorem fault_congr (outlook other : Outlook) (tokens : List Token) (ends : outlook.atEnd = other.atEnd)
    (same : ∀ token rest, tokens = token :: rest → outlook.after? token = other.after? token) :
    outlook.fault? tokens = other.fault? tokens := by
  cases tokens with
  | nil => exact ends
  | cons token rest => rw [fault?, fault?, same token rest rfl]

end Outlook

open Outlook (start)

-- A reader starts with one outlook and reaches another, or fails with what is wrong. It leaves an end of `within`.
def Follows {α : Type} (outlook : Outlook) (tokens within : List Token) (reached : Outlook) :
    Except ParseError (α × List Token) → Prop
  | .ok (_, rest) => rest <:+ within ∧ outlook.fault? tokens = reached.fault? rest
  | .error error => outlook.fault? tokens = some error

section Follows

variable {α β : Type} {outlook middle reached : Outlook} {tokens within : List Token}

theorem follows_here (value : α) : Follows outlook tokens tokens outlook (.ok (value, tokens)) :=
  ⟨List.suffix_rfl, rfl⟩

theorem follows_token (after : Outlook) (token : Token) (result : Except ParseError (α × List Token))
    (possible : outlook.after? token = some after) (follows : Follows after tokens within reached result) :
    Follows outlook (token :: tokens) within reached result := by
  have next := Outlook.fault_next outlook after token tokens possible
  cases result with
  | error error => exact next.trans follows
  | ok found => exact ⟨follows.1, next.trans follows.2⟩

theorem follows_bind (action : Except ParseError (α × List Token))
    (next : α × List Token → Except ParseError (β × List Token)) (first : Follows outlook tokens within middle action)
    (others : ∀ value rest, rest <:+ within → action = .ok (value, rest) →
      Follows middle rest rest reached (next (value, rest))) :
    Follows outlook tokens within reached (action >>= next) := by
  cases action with
  | error error => exact first
  | ok found =>
      obtain ⟨value, rest⟩ := found
      obtain ⟨suffix, same⟩ := first
      have further := others value rest suffix rfl
      rw [ok_bind]
      cases result : next (value, rest) with
      | error error =>
          rw [result] at further
          exact same.trans further
      | ok final =>
          rw [result] at further
          exact ⟨further.1.trans suffix, same.trans further.2⟩

theorem follows_weaken (outer : List Token) (result : Except ParseError (α × List Token)) (suffix : within <:+ outer)
    (follows : Follows outlook tokens within reached result) : Follows outlook tokens outer reached result := by
  cases result with
  | error error => exact follows
  | ok found => exact ⟨follows.1.trans suffix, follows.2⟩

theorem follows_congr (other : Outlook) (result : Except ParseError (α × List Token))
    (same : other.fault? tokens = outlook.fault? tokens) (follows : Follows outlook tokens within reached result) :
    Follows other tokens within reached result := by
  cases result with
  | error error => exact same.trans follows
  | ok found => exact ⟨follows.1, same.trans follows.2⟩

end Follows

section Parser

theorem name_only (opened : List Token) (token : Token) (noName : token.kind ≠ .name) :
    Outlook.after? ⟨.name, opened⟩ token = none := by
  rw [Outlook.after?]
  split <;> simp_all [Awaits.complete]

theorem step_like_more (opened : List Token) (token : Token) (noMark : token.kind ≠ .greater) :
    Outlook.after? ⟨.step, opened⟩ token = Outlook.after? ⟨.more, opened⟩ token := by
  rw [Outlook.after?, Outlook.after?]
  split <;> simp_all [Awaits.complete]

theorem operand_start (awaits : Awaits) (opened : List Token) (token : Token) (rest : List Token)
    (starts : startsOperand token.kind = true) (noName : awaits ≠ .name) :
    Outlook.fault? ⟨awaits, opened⟩ (token :: rest) = Outlook.fault? ⟨.operand, opened⟩ (token :: rest) := by
  have same : Outlook.after? ⟨awaits, opened⟩ token = Outlook.after? ⟨.operand, opened⟩ token := by
    rw [Outlook.after?, Outlook.after?]
    split <;> simp_all [startsOperand]
  rw [Outlook.fault?, Outlook.fault?, same]

theorem operand_only (opened : List Token) (token : Token) (stops : startsOperand token.kind = false) :
    Outlook.after? ⟨.operand, opened⟩ token = none := by
  rw [Outlook.after?]
  split <;> simp_all [startsOperand, Awaits.complete]

theorem operand_missing (opened tokens : List Token)
    (stopped : ∀ token after, tokens = token :: after → startsOperand token.kind = false) :
    Outlook.fault? ⟨.operand, opened⟩ tokens = some (missingOperand tokens) := by
  cases tokens with
  | nil => rfl
  | cons token after => exact Outlook.fault_here _ token after (operand_only opened token (stopped token after rfl))

theorem path_steps_follow (opened tokens : List Token) :
    Follows ⟨.step, opened⟩ tokens tokens ⟨.more, opened⟩ (pathSteps tokens) := by
  fun_induction pathSteps tokens with
  | case1 => exact ⟨List.suffix_rfl, rfl⟩
  | case2 token tokens isName ih =>
      refine follows_token ⟨.step, opened⟩ token _ (by simp [Outlook.after?, isName]) ?_
      exact follows_bind _ _ (follows_weaken _ _ (List.suffix_cons token tokens) ih) fun _ _ _ _ => follows_here _
  | case3 token isGreater => exact Outlook.fault_next _ ⟨.name, opened⟩ token [] (by simp [Outlook.after?, isGreater])
  | case4 token isGreater name tokens isName ih =>
      refine follows_token ⟨.name, opened⟩ token _ (by simp [Outlook.after?, isGreater]) ?_
      refine follows_token ⟨.step, opened⟩ name _ (by simp [Outlook.after?, isName]) ?_
      have suffix : tokens <:+ token :: name :: tokens := ⟨[token, name], rfl⟩
      exact follows_bind _ _ (follows_weaken _ _ suffix ih) fun _ _ _ _ => follows_here _
  | case5 token isGreater name tokens noName =>
      refine (Outlook.fault_next _ ⟨.name, opened⟩ token _ (by simp [Outlook.after?, isGreater])).trans ?_
      exact Outlook.fault_here _ name tokens (name_only opened name noName)
  | case6 token tokens noName noMark =>
      refine ⟨List.suffix_rfl, Outlook.fault_congr _ _ _ rfl fun other rest split => ?_⟩
      cases split
      exact step_like_more opened token noMark

theorem conjoin_eq_none (trees : List Expr) (joined : conjoin trees = none) : trees = [] := by
  cases trees with
  | nil => rfl
  | cons first others => cases others <;> cases joined

theorem operands_stopped (fuel : Nat) (tokens rest : List Token) (trees : List Expr) (enough : tokens.length < fuel)
    (found : operands fuel tokens = .ok (trees, rest)) (token : Token) (after : List Token)
    (split : rest = token :: after) : startsOperand token.kind = false := by
  induction fuel generalizing tokens trees with
  | zero => omega
  | succ fuel ih =>
      cases tokens with
      | nil =>
          cases found
          cases split
      | cons first others =>
          rw [operands] at found
          split at found
          · obtain ⟨⟨head, middle⟩, operand, found⟩ := bind_ok found
            obtain ⟨⟨tail, after⟩, more, found⟩ := bind_ok found
            cases found
            have read : ReadsOperand Anywhere (first :: others) middle head :=
              operand_read (fun _ _ => trivial) fuel first others middle head operand
            have shorter := reads_operand_length _ _ _ read
            exact ih middle tail (by simp only [List.length_cons] at shorter enough; omega) more
          · rename_i stops
            cases found
            cases split
            exact Bool.eq_false_iff.mpr stops

theorem conjunction_stopped (fuel : Nat) (tokens rest : List Token) (tree : Expr) (enough : tokens.length + 1 < fuel)
    (found : conjunction fuel tokens = .ok (tree, rest)) (token : Token) (after : List Token)
    (split : rest = token :: after) : startsOperand token.kind = false := by
  obtain ⟨fuel, rfl⟩ : ∃ less, fuel = less + 1 := ⟨fuel - 1, by omega⟩
  rw [conjunction] at found
  obtain ⟨⟨trees, middle⟩, inner, found⟩ := bind_ok found
  dsimp only at found
  split at found
  · cases found
    exact operands_stopped fuel tokens rest trees (by omega) inner token after split
  · cases found

theorem operands_here (fuel : Nat) (tokens : List Token)
    (stopped : ∀ token after, tokens = token :: after → startsOperand token.kind = false) :
    operands fuel tokens = .ok ([], tokens) := by
  match fuel, tokens with
  | 0, _ => rfl
  | fuel + 1, [] => rfl
  | fuel + 1, token :: after =>
      rw [operands, stopped token after rfl]
      rfl

theorem operands_some (fuel : Nat) (token : Token) (tokens rest : List Token) (trees : List Expr)
    (starts : startsOperand token.kind = true) (found : operands (fuel + 1) (token :: tokens) = .ok (trees, rest)) :
    trees ≠ [] := by
  rw [operands, if_pos starts] at found
  obtain ⟨⟨head, middle⟩, _, found⟩ := bind_ok found
  obtain ⟨⟨tail, after⟩, _, found⟩ := bind_ok found
  cases found
  exact List.cons_ne_nil head tail

-- The parser looks at a token only after the outlook has allowed all tokens before it. The four
-- functions call each other with less fuel, of which a token costs four calls at most.
mutual

theorem operands_follow (fuel : Nat) (opened tokens : List Token) (enough : 4 * tokens.length + 1 ≤ fuel) :
    Follows ⟨.more, opened⟩ tokens tokens ⟨.more, opened⟩ (operands fuel tokens) := by
  match fuel, tokens with
  | fuel + 1, [] => exact follows_here _
  | fuel + 1, token :: tokens =>
      rw [List.length_cons] at enough
      rw [operands]
      split
      · rename_i starts
        have first := operand_follows fuel opened token tokens (by omega)
        refine follows_congr ⟨.more, opened⟩ _ (operand_start .more opened token tokens starts (by simp)) ?_
        refine follows_weaken _ _ (List.suffix_cons token tokens) (follows_bind _ _ first fun head rest suffix _ => ?_)
        have shorter := suffix.length_le
        exact follows_bind _ _ (operands_follow fuel opened rest (by omega)) fun _ _ _ _ => follows_here _
      · exact follows_here _

theorem conjunction_follows (fuel : Nat) (opened tokens : List Token) (enough : 4 * tokens.length + 2 ≤ fuel) :
    Follows ⟨.operand, opened⟩ tokens tokens ⟨.more, opened⟩ (conjunction fuel tokens) := by
  match fuel with
  | fuel + 1 =>
      have all := operands_follow fuel opened tokens (by omega)
      rw [conjunction]
      by_cases starts : ∃ token after, tokens = token :: after ∧ startsOperand token.kind = true
      · obtain ⟨token, after, rfl, starts⟩ := starts
        obtain ⟨fuel, rfl⟩ : ∃ less, fuel = less + 1 := ⟨fuel - 1, by omega⟩
        have same : Outlook.fault? ⟨.operand, opened⟩ (token :: after) = Outlook.fault? ⟨.more, opened⟩ (token :: after) :=
          (operand_start .more opened token after starts (by simp)).symm
        refine follows_bind _ _ (follows_congr _ _ same all) fun trees rest _ found => ?_
        dsimp only
        split
        · exact follows_here _
        · rename_i joined
          exact absurd (conjoin_eq_none trees joined) (operands_some fuel token after rest trees starts found)
      · have stopped : ∀ token after, tokens = token :: after → startsOperand token.kind = false := by
          intro token after split
          exact Bool.eq_false_iff.mpr fun begins => starts ⟨token, after, split, begins⟩
        rw [operands_here fuel tokens stopped]
        exact operand_missing opened tokens stopped

theorem operand_follows (fuel : Nat) (opened : List Token) (token : Token) (tokens : List Token)
    (enough : 4 * tokens.length + 3 ≤ fuel) :
    Follows ⟨.operand, opened⟩ (token :: tokens) tokens ⟨.more, opened⟩ (operand fuel token tokens) := by
  match fuel with
  | fuel + 1 =>
      rw [operand.eq_def]
      dsimp only
      split
      · rename_i isMinus
        refine follows_token ⟨.operand, opened⟩ token _ (by simp [Outlook.after?, isMinus]) ?_
        match tokens with
        | [] => exact rfl
        | next :: rest =>
            rw [List.length_cons] at enough
            have inner := operand_follows fuel opened next rest (by omega)
            exact follows_bind _ _ (follows_weaken _ _ (List.suffix_cons next rest) inner) fun _ _ _ _ => follows_here _
      · rename_i isOpening
        refine follows_token ⟨.operand, token :: opened⟩ token _ (by simp [Outlook.after?, isOpening]) ?_
        refine follows_bind _ _ (conjunction_follows fuel (token :: opened) tokens (by omega)) fun first rest suffix found => ?_
        have shorter := suffix.length_le
        have stopped := conjunction_stopped fuel tokens rest first (by omega) found
        have others := group_rest_follows fuel token opened rest stopped (by omega)
        exact follows_bind _ _ others fun _ _ _ _ => follows_here _
      · rename_i isName
        refine follows_token ⟨.step, opened⟩ token _ (by simp [Outlook.after?, isName]) ?_
        exact follows_bind _ _ (path_steps_follow opened tokens) fun _ _ _ _ => follows_here _
      · rename_i noMinus noOpening noName
        refine Outlook.fault_here _ token tokens (operand_only opened token ?_)
        cases kind : token.kind <;> simp_all [startsOperand]

theorem group_rest_follows (fuel : Nat) (opening : Token) (outer tokens : List Token)
    (stopped : ∀ token after, tokens = token :: after → startsOperand token.kind = false)
    (enough : 4 * tokens.length ≤ fuel) :
    Follows ⟨.more, opening :: outer⟩ tokens tokens ⟨.more, outer⟩ (groupRest fuel opening.offset tokens) := by
  match fuel, tokens with
  | 0, [] => exact rfl
  | fuel + 1, [] => exact rfl
  | fuel + 1, token :: rest =>
      rw [List.length_cons] at enough
      have separated : token.Separates →
          Follows ⟨.more, opening :: outer⟩ (token :: rest) (token :: rest) ⟨.more, outer⟩
            (conjunction fuel rest >>= fun (head, rest) => groupRest fuel opening.offset rest >>= fun (tail, rest) =>
              pure (head :: tail, rest)) := by
        intro separates
        have possible : Outlook.after? ⟨.more, opening :: outer⟩ token = some ⟨.operand, opening :: outer⟩ := by
          rcases separates with isComma | isPipe <;> simp [Outlook.after?, Awaits.complete, *]
        refine follows_token _ token _ possible (follows_weaken _ _ (List.suffix_cons token rest) ?_)
        refine follows_bind _ _ (conjunction_follows fuel (opening :: outer) rest (by omega)) fun head after suffix found => ?_
        have shorter := suffix.length_le
        have stopped := conjunction_stopped fuel rest after head (by omega) found
        have others := group_rest_follows fuel opening outer after stopped (by omega)
        exact follows_bind _ _ others fun _ _ _ _ => follows_here _
      rw [groupRest.eq_def]
      dsimp only
      split
      · rename_i isClosing
        refine follows_token ⟨.more, outer⟩ token _ (by simp [Outlook.after?, Awaits.complete, isClosing]) ?_
        exact follows_weaken _ _ (List.suffix_cons token rest) (follows_here _)
      · rename_i isComma
        exact separated (.inl isComma)
      · rename_i isPipe
        exact separated (.inr isPipe)
      · have noOperand := stopped token rest rfl
        refine Outlook.fault_here _ token rest ?_
        rw [Outlook.after?]
        split <;> simp_all [startsOperand]

end

theorem priority_follows (tokens : List Token) :
    (priorityOf tokens).2 <:+ tokens ∧
      start.fault? tokens = Outlook.fault? ⟨.operand, []⟩ (priorityOf tokens).2 := by
  cases tokens with
  | nil => exact ⟨List.suffix_rfl, rfl⟩
  | cons token rest =>
      rw [priorityOf]
      split
      · rename_i priority isPriority
        exact ⟨List.suffix_cons token rest, Outlook.fault_next _ _ token rest (by simp [Outlook.after?, start, isPriority])⟩
      · rename_i noPriority
        refine ⟨List.suffix_rfl, Outlook.fault_congr _ _ _ rfl fun other after split => ?_⟩
        cases split
        rw [Outlook.after?, Outlook.after?]
        split <;> simp_all [start, Awaits.complete]

theorem alternatives_follow (fuel : Nat) (tokens : List Token) (enough : 4 * tokens.length + 4 ≤ fuel) :
    match alternativesFrom fuel tokens with
    | .ok _ => start.fault? tokens = none
    | .error error => start.fault? tokens = some error := by
  induction fuel generalizing tokens with
  | zero => omega
  | succ fuel ih =>
      have marked := priority_follows tokens
      rw [alternativesFrom]
      generalize priorityOf tokens = parts at marked
      obtain ⟨priority, inner⟩ := parts
      obtain ⟨suffix, same⟩ := marked
      have shorter : inner.length ≤ tokens.length := suffix.length_le
      have first := conjunction_follows fuel [] inner (by omega)
      rw [same]
      dsimp only
      cases found : conjunction fuel inner with
      | error error => rwa [found] at first
      | ok read =>
          obtain ⟨tree, rest⟩ := read
          rw [found] at first
          have stopped := conjunction_stopped fuel inner rest tree (by omega) found
          rw [first.2, ok_bind]
          cases rest with
          | nil => exact rfl
          | cons mark rest =>
              have further := first.1.length_le
              rw [List.length_cons] at further
              dsimp only
              by_cases separates : mark.kind = .comma ∨ mark.kind = .pipe
              · have others := ih rest (by omega)
                have possible : Outlook.after? ⟨.more, []⟩ mark = some start := by
                  rcases separates with isComma | isPipe <;> simp [Outlook.after?, Awaits.complete, start, *]
                rw [if_pos separates, Outlook.fault_next _ start mark rest possible]
                cases tail : alternativesFrom fuel rest with
                | error error => rwa [tail] at others
                | ok alternatives => rwa [tail] at others
              · have noOperand := stopped mark rest rfl
                rw [if_neg separates]
                refine Outlook.fault_here _ mark rest ?_
                rw [Outlook.after?]
                split <;> simp_all [startsOperand]

end Parser

theorem parse_tokens_fault (tokens : List Token) :
    ((∃ alternatives, parseTokens tokens = .ok alternatives) ↔ start.fault? tokens = none) ∧
      ∀ error, parseTokens tokens = .error error ↔ start.fault? tokens = some error := by
  have follows := alternatives_follow (4 * tokens.length + 4) tokens (Nat.le_refl _)
  rw [parseTokens]
  cases result : alternativesFrom (4 * tokens.length + 4) tokens with
  | ok alternatives =>
      rw [result] at follows
      simp [follows]
  | error error =>
      rw [result] at follows
      simp [follows, eq_comm]

namespace Outlook

theorem after_all_cons (outlook : Outlook) (token : Token) (tokens : List Token) :
    outlook.afterAll? (token :: tokens) = (outlook.after? token).bind fun next => next.afterAll? tokens := rfl

theorem after_all_append (outlook : Outlook) (before more : List Token) :
    outlook.afterAll? (before ++ more) = (outlook.afterAll? before).bind fun next => next.afterAll? more :=
  List.foldlM_append

theorem fault_reached (outlook reached : Outlook) (tokens more : List Token)
    (reaches : outlook.afterAll? tokens = some reached) : outlook.fault? (tokens ++ more) = reached.fault? more := by
  induction tokens generalizing outlook with
  | nil =>
      cases reaches
      rfl
  | cons token tokens ih =>
      obtain ⟨next, possible, reaches⟩ := Option.bind_eq_some_iff.mp reaches
      exact (fault_next outlook next token _ possible).trans (ih next reaches)

theorem reached_of_no_fault (outlook : Outlook) (tokens more : List Token)
    (fine : outlook.fault? (tokens ++ more) = none) : ∃ reached, outlook.afterAll? tokens = some reached := by
  induction tokens generalizing outlook with
  | nil => exact ⟨outlook, rfl⟩
  | cons token tokens ih =>
      rw [List.cons_append, fault?] at fine
      split at fine
      · cases fine
      · rename_i next possible
        rw [after_all_cons, possible]
        exact ih next fine

theorem fault_cases (outlook : Outlook) (tokens : List Token) (error : ParseError)
    (fault : outlook.fault? tokens = some error) :
    (∃ before token after next, tokens = before ++ token :: after ∧ outlook.afterAll? before = some next ∧
        next.after? token = none ∧ error = token.unexpected) ∨
      ∃ last, outlook.afterAll? tokens = some last ∧ last.atEnd = some error := by
  induction tokens generalizing outlook with
  | nil => exact .inr ⟨outlook, rfl, fault⟩
  | cons token tokens ih =>
      rw [fault?] at fault
      split at fault
      · rename_i impossible
        exact .inl ⟨[], token, tokens, outlook, rfl, rfl, impossible, (Option.some.inj fault).symm⟩
      · rename_i next possible
        rcases ih next fault with ⟨before, other, after, last, rfl, reaches, impossible, wrong⟩ | ⟨last, reaches, ends⟩
        · exact .inl ⟨token :: before, other, after, last, rfl, by rw [after_all_cons, possible]; exact reaches,
            impossible, wrong⟩
        · exact .inr ⟨last, by rw [after_all_cons, possible]; exact reaches, ends⟩

def nameToken : Token := ⟨.name, 0, ['a']⟩

def closingToken : Token := ⟨.closing, 0, [')']⟩

theorem closings_complete (opened : List Token) (awaits : Awaits) (complete : awaits.complete = true) :
    fault? ⟨awaits, opened⟩ (opened.map fun _ => closingToken) = none := by
  induction opened generalizing awaits with
  | nil => simp [fault?, atEnd, complete]
  | cons opening outer ih =>
      have possible : after? ⟨awaits, opening :: outer⟩ closingToken = some ⟨.more, outer⟩ := by
        simp [after?, closingToken, complete]
      exact (fault_next _ _ closingToken _ possible).trans (ih .more rfl)

theorem completes (outlook : Outlook) : ∃ more, outlook.fault? more = none := by
  obtain ⟨awaits, opened⟩ := outlook
  refine ⟨nameToken :: opened.map fun _ => closingToken, ?_⟩
  have possible : after? ⟨awaits, opened⟩ nameToken = some ⟨.step, opened⟩ := rfl
  exact (fault_next _ _ nameToken _ possible).trans (closings_complete opened .step rfl)

end Outlook

end LineScope.Selector
