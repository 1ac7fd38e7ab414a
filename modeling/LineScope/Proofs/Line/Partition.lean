import LineScope.Proofs.Line.Continuation

set_option autoImplicit false

namespace LineScope

open Text (IsBoundary byteLength)

structure Line.Partition (scope : Scope) (line : List Char) (tokens : List Token) : Prop where
  empty : line = [] → tokens = []
  first : line ≠ [] → tokens.head?.map Token.start = some 0
  last : line ≠ [] → tokens.getLast?.map Token.stop = some (byteLength line)
  adjacent : tokens.IsChain fun token next => token.stop = next.start
  proper : ∀ token ∈ tokens, token.start < token.stop
  boundaries : ∀ token ∈ tokens, IsBoundary token.start line ∧ IsBoundary token.stop line
  inScope : ∀ token ∈ tokens, [scope] <+: token.scopes

namespace Line

def Demand.within (text : List Char) (scope : Scope) : Demand :=
  ⟨(IsBoundary · text), ([scope] <+: ·), fun _ _ longer begins => begins.trans longer⟩

theorem settled_on_stack (text : List Char) (grammar : Grammar) (stack : RuleStack) (settled : stack.Settled grammar) :
    (Demand.within text grammar.scopeName).OnStack stack := by
  obtain ⟨bottom, chain, _, _⟩ := settled
  rw [Demand.OnStack]
  generalize stack.frames = frames at bottom chain ⊢
  induction frames with
  | nil => simp
  | cons frame below ih =>
      cases below with
      | nil =>
          cases bottom
          exact List.forall_mem_singleton.mpr ⟨List.prefix_rfl, List.prefix_rfl⟩
      | cons parent rest =>
          obtain ⟨above, deeper⟩ := List.isChain_cons_cons.mp chain
          have inner := ih (by rwa [List.getLast?_cons_cons] at bottom) deeper
          have named := (inner parent List.mem_cons_self).2.trans above.name
          exact List.forall_mem_cons.mpr ⟨⟨named, named.trans above.content⟩, inner⟩

section Order

variable {start stop : Nat} {tokens : List Token}

theorem consecutive_chain (consecutive : Consecutive start stop tokens) :
    tokens.IsChain fun token next => token.stop = next.start := by
  induction tokens generalizing start with
  | nil => exact .nil
  | cons token rest ih =>
      obtain ⟨_, _, further⟩ := consecutive
      cases rest with
      | nil => exact .singleton _
      | cons next later => exact .cons_cons further.1.symm (ih further)

theorem consecutive_starts (consecutive : Consecutive start stop tokens) :
    ∀ token ∈ tokens, token.start = start ∨ ∃ earlier ∈ tokens, earlier.stop = token.start := by
  induction tokens generalizing start with
  | nil => simp
  | cons token rest ih =>
      obtain ⟨begins, _, further⟩ := consecutive
      refine List.forall_mem_cons.mpr ⟨.inl begins, fun other member => .inr ?_⟩
      rcases ih further other member with next | ⟨earlier, listed, ends⟩
      · exact ⟨token, List.mem_cons_self, next.symm⟩
      · exact ⟨earlier, List.mem_cons_of_mem _ listed, ends⟩

end Order

theorem consecutive_partition (scope : Scope) (line rest : List Char) (tokens : List Token)
    (order : Consecutive 0 (byteLength line) tokens)
    (allowed : ∀ token ∈ tokens, (Demand.within (line ++ rest) scope).Allows token) : Partition scope line tokens := by
  have stops : ∀ token ∈ tokens, IsBoundary token.stop line := fun token member =>
    Text.is_boundary_of_append (allowed token member).1 ((consecutive_within order).2 token member).2.2
  exact {
    empty := by
      rintro rfl
      cases tokens with
      | nil => rfl
      | cons token later =>
          have bounds := (consecutive_within order).2 token List.mem_cons_self
          simp only [byteLength] at bounds
          omega
    first := by
      intro some
      cases tokens with
      | nil => exact absurd (Text.byte_length_eq_zero (order : 0 = byteLength line).symm) some
      | cons token later => exact congrArg Option.some order.1
    last := by
      intro some
      have positive : 0 < byteLength line := Nat.pos_of_ne_zero fun zero => some (Text.byte_length_eq_zero zero)
      obtain ⟨earlier, last, rfl, ends⟩ := consecutive_last order positive
      rw [List.getLast?_concat, Option.map_some, ends]
    adjacent := consecutive_chain order
    proper := fun token member => ((consecutive_within order).2 token member).2.1
    boundaries := by
      intro token member
      refine ⟨?_, stops token member⟩
      rcases consecutive_starts order token member with first | ⟨earlier, listed, ends⟩
      · exact first ▸ Text.is_boundary_zero line
      · exact ends ▸ stops earlier listed
    inScope := fun token member => (allowed token member).2 }

end Line

theorem tokenize_line_partition (tokenizer : Tokenizer) (remembers : Memory → Prop) (memory : Memory)
    (line : List Char) (previous : Option RuleStack) (engineSound : tokenizer.engine.Sound)
    (returned : tokenizer.Returns remembers previous) :
    Line.Partition tokenizer.grammar.scopeName line (tokenizer.tokenizeLine memory line previous).tokens := by
  have inScope := Line.settled_on_stack (line ++ ['\n']) tokenizer.grammar _
    (returned_settled tokenizer remembers previous returned)
  obtain ⟨order, allowed⟩ := Line.tokenize_line_consecutive tokenizer engineSound memory line previous
    (fun _ boundary => boundary) inScope
  exact Line.consecutive_partition _ line ['\n'] _ order allowed

theorem bracket_line_partition :
    let first := bracketTokenizer.tokenizeLine {} ['<', 'é'] none
    let second := bracketTokenizer.tokenizeLine {} ['é', '>', 'a'] (some first.stack)
    second.tokens = [⟨0, 2, ["bracket", "inside"]⟩, ⟨2, 3, ["bracket", "inside"]⟩, ⟨3, 4, ["bracket"]⟩] ∧
      Line.Partition "bracket" ['é', '>', 'a'] second.tokens := by
  intro first second
  have tokens : second.tokens = [⟨0, 2, ["bracket", "inside"]⟩, ⟨2, 3, ["bracket", "inside"]⟩, ⟨3, 4, ["bracket"]⟩] := by
    decide +kernel
  have returned : bracketTokenizer.Returns (fun _ => True) (some first.stack) := .line {} _ none trivial .nothing
  exact ⟨tokens, tokenize_line_partition bracketTokenizer _ {} ['é', '>', 'a'] (some first.stack)
    Pattern.backtracking_sound returned⟩

end LineScope
