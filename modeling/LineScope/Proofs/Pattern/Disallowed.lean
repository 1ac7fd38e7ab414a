import LineScope.Pattern.Engine
import LineScope.Proofs.Pattern.Escape
import LineScope.Proofs.Pattern.Scanning

set_option autoImplicit false

namespace LineScope.Pattern

-- A character without a meaning of its own, neither repeated nor in one of several alternatives, stands for itself: a
-- text in which its pattern is found has it.
def Engine.MatchesLiterals (engine : Engine) : Prop :=
  ∀ c rest text start captures, isSpecial c = false → isRepeated rest = false → isDivided (c :: rest) = false →
    engine.search (c :: rest) text start = some captures → c ∈ Text.dropBytes start text

section Reading

variable (c : Char) (rest : List Char)

theorem quantify_once (fuel : Nat) (node result : Node) (after : List Char) (once : isRepeated rest = false)
    (read : quantify {} (fuel + 1) node rest = .ok (result, after)) : result = node := by
  rw [quantify] at read
  obtain ⟨last, skipped, read⟩ := bind_ok read
  obtain ⟨found, quantified, read⟩ := bind_ok read
  rw [isRepeated, skipped] at once
  dsimp only at once
  rw [quantified] at once
  cases found with
  | none =>
      cases read
      rfl
  | some found => cases once

theorem branch_literal (fuel : Nat) (nodes : List Node) (after : Reader) (plain : isSpecial c = false)
    (once : isRepeated rest = false) (read : branch (fuel + 2) {} ⟨c :: rest, 0, []⟩ = .ok (nodes, after)) :
    ∃ others, nodes = .char c :: others := by
  have standing : c ∉ metacharacters := fun meaning =>
    Bool.false_ne_true (plain.symm.trans (metacharacter_special c meaning))
  have other := plain_not c standing
  have skipped : skipIgnored false .nothing (c :: rest) = .ok (c :: rest) :=
    skip_nothing c rest fun _ opening _ => other '(' (by decide) opening
  have goesOn : ¬ (c == '|' || c == ')') := by simp [other '|' (by decide), other ')' (by decide)]
  rw [branch] at read
  obtain ⟨text, same, read⟩ := bind_ok read
  cases skipped.symm.trans same
  dsimp only at read
  rw [if_neg goesOn, atom_plain c fuel _ standing] at read
  obtain ⟨⟨node, middle⟩, one, read⟩ := bind_ok read
  cases one
  obtain ⟨⟨repeated, left⟩, quantified, read⟩ := bind_ok read
  obtain ⟨⟨others, last⟩, _, read⟩ := bind_ok read
  cases read
  exact ⟨others, by rw [quantify_once rest fuel _ repeated left once quantified]⟩

theorem settle_literal (named : Bool) (kept : List Nat) (groups : Nat) (others : List Node) (node : Node)
    (settled : settle named kept groups (.catAll (.char c :: others)) = .ok node) :
    node = .char c ∨ ∃ second, node = .cat (.char c) second := by
  cases others with
  | nil =>
      cases settled
      exact .inl rfl
  | cons next others =>
      rw [Node.catAll, settle] at settled
      · obtain ⟨first, same, settled⟩ := bind_ok settled
        cases same
        obtain ⟨second, _, settled⟩ := bind_ok settled
        cases settled
        exact .inr ⟨second, rfl⟩
      · exact List.cons_ne_nil next others

theorem parse_literal (program : Program) (plain : isSpecial c = false) (once : isRepeated rest = false)
    (single : isDivided (c :: rest) = false) (read : parse (c :: rest) = .ok program) :
    program.node = .char c ∨ ∃ second, program.node = .cat (.char c) second := by
  unfold parse at read
  obtain ⟨⟨node, reader⟩, whole, read⟩ := bind_ok read
  have fuel : 6 * (c :: rest).length + 6 = (6 * rest.length + 9) + 2 + 1 := by
    rw [List.length_cons]
    omega
  rw [fuel, alternation] at whole
  obtain ⟨⟨nodes, middle⟩, first, whole⟩ := bind_ok whole
  obtain ⟨others, rfl⟩ := branch_literal c rest _ nodes middle plain once first
  obtain ⟨_, _, scanned⟩ := branch_scanned _ {} _ middle _ (fun _ member => absurd member List.not_mem_nil) first
  -- The first alternative does not end at a bar, since that bar would divide the pattern.
  have undivided : ∀ text, middle.rest ≠ '|' :: text := by
    intro text bar
    have divides := scanned []
    rw [bar] at divides
    have divided : (Scan.between false []).divides ('|' :: text) = true :=
      (divides_cons _ _ _ (by decide)).trans (divides_settled _ text fun _ => rfl)
    exact Bool.false_ne_true (single.symm.trans (divides.trans divided))
  dsimp only at whole
  split at whole
  · exact absurd ‹middle.rest = _› (undivided _)
  · cases whole
    dsimp only at read
    split at read
    · cases read
    · obtain ⟨result, settled, read⟩ := bind_ok read
      cases read
      exact settle_literal c _ _ _ others result settled

end Reading

section Running

theorem run_literal (c : Char) (node : Node) (text : List Char) (searchStart : Nat) (position final : Position)
    (next : Position → Option Position) (literal : node = .char c ∨ ∃ second, node = .cat (.char c) second)
    (result : node.run text searchStart position next = some final) : c ∈ position.after := by
  have first : ∀ next, (Node.char c).run text searchStart position next = some final → c ∈ position.after := by
    intro next result
    rw [Node.run, runChar, Position.advance] at result
    cases after : position.after with
    | nil =>
        rw [after] at result
        cases result
    | cons d rest =>
        rw [after] at result
        dsimp only at result
        split at result
        · rename_i same
          rw [beq_iff_eq.mp same]
          exact List.mem_cons_self
        · cases result
  rcases literal with rfl | ⟨second, rfl⟩
  · exact first next result
  · exact first _ result

theorem match_from_literal (c : Char) (program : Program) (text : List Char) (searchStart : Nat)
    (before after : List Char) (offset : Nat) (captures : Captures)
    (literal : program.node = .char c ∨ ∃ second, program.node = .cat (.char c) second)
    (found : program.matchFrom text searchStart before after offset = some captures) : c ∈ after := by
  fun_induction Program.matchFrom program text searchStart before after offset with
  | case1 before after offset captures here =>
      obtain ⟨final, result, _⟩ := Option.map_eq_some_iff.mp here
      exact run_literal c program.node text searchStart _ final some literal result
  | case2 before offset => cases found
  | case3 before offset d rest none ih => exact List.mem_cons_of_mem d (ih found)

theorem backtracking_matches_literals : Engine.backtracking.MatchesLiterals := by
  intro c rest text start captures plain once single found
  simp only [Engine.backtracking] at found
  split at found
  · rename_i program read
    rw [Program.search] at found
    split at found
    · have literal := parse_literal c rest program plain once single read
      exact match_from_literal c program text start _ _ start captures literal found
    · cases found
  · cases found

end Running

section Searching

variable (anchors : Anchors) (escaped : Char) (rest : List Char)

theorem forbidden_anchor_not_found (engine : Engine) (literals : engine.MatchesLiterals) (text : List Char) (start : Nat)
    (forbidden : anchors.forbids escaped) (once : isRepeated rest = false)
    (single : isDivided ('\\' :: escaped :: rest) = false) (absent : neverMatches ∉ Text.dropBytes start text) :
    engine.find (String.ofList ('\\' :: escaped :: rest)) anchors text start = none := by
  have undivided : isDivided (neverMatches :: restrictAnchors anchors rest) = false := by
    have same := divides_restricted anchors (Scan.between false []) ('\\' :: escaped :: rest)
    rw [restrictAnchors, if_pos forbidden] at same
    exact same.trans single
  rw [Engine.find, String.toList_ofList, variant_restricts, restrictAnchors, if_pos forbidden]
  cases found : engine.search (neverMatches :: restrictAnchors anchors rest) text start with
  | none => rfl
  | some captures =>
      have repeated : isRepeated (restrictAnchors anchors rest) = false := (repeated_restricted anchors rest).trans once
      exact absurd (literals _ _ _ _ captures (by decide) repeated undivided found) absent

/-- An anchor before a group with alternatives, a class with a bar, and a comment with one. -/
theorem first_line_anchor_not_found :
    isRepeated "(a|b)[|](?#|)".toList = false ∧ isDivided "\\A(a|b)[|](?#|)".toList = false ∧
      Engine.backtracking.find "\\A(a|b)[|](?#|)" ⟨true, true⟩ "b|".toList 0 = some [some (0, 2), some (0, 1)] ∧
      Engine.backtracking.find "\\A(a|b)[|](?#|)" ⟨false, true⟩ "b|".toList 0 = none :=
  ⟨by decide +kernel, by decide +kernel, by decide +kernel,
    forbidden_anchor_not_found ⟨false, true⟩ 'A' "(a|b)[|](?#|)".toList .backtracking backtracking_matches_literals
      "b|".toList 0 (by decide) (by decide +kernel) (by decide +kernel) (by decide)⟩

theorem forbidden_anchor_found :
    isRepeated ['a'] = false ∧ isDivided "\\Aa".toList = false ∧
      Engine.backtracking.find "\\Aa" ⟨false, false⟩ "\uffffa".toList 0 = some [some (0, 4)] ∧
      Engine.backtracking.find "\\Ga" ⟨false, false⟩ "\uffffa".toList 0 = some [some (0, 4)] :=
  ⟨by decide +kernel, by decide +kernel, by decide +kernel, by decide +kernel⟩

end Searching

end LineScope.Pattern
