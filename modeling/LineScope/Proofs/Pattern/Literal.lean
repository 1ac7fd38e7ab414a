import LineScope.Pattern.Engine
import LineScope.Proofs.Pattern.Inert
import LineScope.Proofs.Pattern.References
import LineScope.Proofs.Pattern.Sound

/-!
Patterns in which every sign stands for a character: an escaped character that is none of a word, or a plain one with
no meaning of its own. If an engine reads them sign by sign and looks for them from left to right, such a pattern
matches its characters and nothing else, and a search finds the first place where they are. The backtracking engine
does so.
-/

set_option autoImplicit false

namespace LineScope.Pattern

open Text (byteLength)

-- What a pattern is read as: a plain character, a backslash with the next character, or a backslash at the end.
inductive Sign where
  | plain (c : Char)
  | pair (c : Char)
  | cut
deriving DecidableEq, Repr

def signsOf : List Char → List Sign
  | [] => []
  | ['\\'] => [.cut]
  | '\\' :: c :: rest => .pair c :: signsOf rest
  | c :: rest => .plain c :: signsOf rest

def metacharacters : List Char := "\\\x7b\x7d*+?|^$.[]()".toList

namespace Sign

def Literal : Sign → Prop
  | plain c => c ∉ metacharacters
  | pair c => Text.isWord c = false
  | cut => False

def text : Sign → List Char
  | plain c => [c]
  | pair c => [c]
  | cut => []

def written : Sign → List Char
  | plain c => [c]
  | pair c => ['\\', c]
  | cut => ['\\']

end Sign

section Signs

theorem signs_written (source : List Char) : (signsOf source).flatMap Sign.written = source := by
  fun_induction signsOf source with
  | case1 => rfl
  | case2 => rfl
  | case3 c rest ih => rw [List.flatMap_cons, ih]; rfl
  | case4 c rest _ _ ih => rw [List.flatMap_cons, ih]; rfl

theorem signs_of_written (signs : List Sign) (literal : ∀ sign ∈ signs, sign.Literal) :
    signsOf (signs.flatMap Sign.written) = signs := by
  induction signs with
  | nil => rfl
  | cons sign rest ih =>
      obtain ⟨here, others⟩ := List.forall_mem_cons.mp literal
      rw [List.flatMap_cons]
      cases sign with
      | plain c =>
          have other : c ≠ '\\' := fun same => here (same ▸ by decide)
          change signsOf (c :: rest.flatMap Sign.written) = _
          rw [signsOf, ih others]
          · exact fun same _ => other same
          · exact fun _ _ same _ => other same
      | pair c =>
          change signsOf ('\\' :: c :: rest.flatMap Sign.written) = _
          rw [signsOf, ih others]
      | cut => exact here.elim

theorem length_le_written (signs : List Sign) : signs.length ≤ (signs.flatMap Sign.written).length := by
  induction signs with
  | nil => exact Nat.le_refl 0
  | cons sign rest ih =>
      have some : 0 < sign.written.length := by cases sign <;> exact Nat.succ_pos _
      rw [List.flatMap_cons, List.length_append, List.length_cons]
      omega

end Signs

def Engine.spanAfter (engine : Engine) (source before after : List Char) : Option Span :=
  (engine.search source (before ++ after) (byteLength before)).map wholeSpan

def Engine.Matches (engine : Engine) (source before found after : List Char) : Prop :=
  engine.spanAfter source before (found ++ after) = some (byteLength before, byteLength (before ++ found))

-- What is asked of an engine: a sign that stands for its character matches that character before what the next signs
-- match, and where signs do not match, the search goes on one character further.
structure Engine.ReadsSigns (engine : Engine) : Prop where
  nothing : ∀ before found after, engine.Matches [] before found after ↔ found = []
  next : ∀ (sign : Sign) (signs : List Sign) (before found after : List Char), sign.Literal →
    (∀ other ∈ signs, other.Literal) →
    (engine.Matches (sign.written ++ signs.flatMap Sign.written) before found after ↔
      ∃ rest, found = sign.text ++ rest ∧ engine.Matches (signs.flatMap Sign.written) (before ++ sign.text) rest after)
  further : ∀ (signs : List Sign) (before : List Char) (c : Char) (after : List Char), (∀ sign ∈ signs, sign.Literal) →
    (∀ found rest, c :: after = found ++ rest → ¬ engine.Matches (signs.flatMap Sign.written) before found rest) →
    engine.spanAfter (signs.flatMap Sign.written) before (c :: after) =
      engine.spanAfter (signs.flatMap Sign.written) (before ++ [c]) after
  stops : ∀ (signs : List Sign) (before : List Char), (∀ sign ∈ signs, sign.Literal) →
    ¬ engine.Matches (signs.flatMap Sign.written) before [] [] →
    engine.spanAfter (signs.flatMap Sign.written) before [] = none

-- Where a text stands first in another: after these characters.
structure StandsFirst (text whole skipped : List Char) : Prop where
  stands : ∃ rest, whole = skipped ++ text ++ rest
  first : ∀ earlier later, whole = earlier ++ text ++ later → skipped.length ≤ earlier.length

section Places

variable (text rest skipped : List Char)

theorem stands_first_here : StandsFirst text (text ++ rest) skipped ↔ skipped = [] := by
  constructor
  · intro stands
    exact List.length_eq_zero_iff.mp (Nat.le_zero.mp (stands.first [] rest rfl))
  · rintro rfl
    exact ⟨⟨rest, rfl⟩, fun _ _ _ => Nat.zero_le _⟩

theorem stands_first_further (c : Char) (elsewhere : ¬ text <+: c :: rest) :
    StandsFirst text (c :: rest) skipped ↔ ∃ more, skipped = c :: more ∧ StandsFirst text rest more := by
  constructor
  · rintro ⟨⟨others, whole⟩, first⟩
    cases skipped with
    | nil => exact absurd ⟨others, whole.symm⟩ elsewhere
    | cons d more =>
        obtain ⟨rfl, rfl⟩ := List.cons.inj whole
        exact ⟨more, rfl, ⟨others, rfl⟩, fun earlier later same =>
          Nat.le_of_succ_le_succ (first (c :: earlier) later (congrArg (List.cons c) same))⟩
  · rintro ⟨more, rfl, ⟨others, rfl⟩, first⟩
    refine ⟨⟨others, rfl⟩, fun earlier later whole => ?_⟩
    cases earlier with
    | nil => exact absurd ⟨later, whole.symm⟩ elsewhere
    | cons d earlier => exact Nat.succ_le_succ (first earlier later (List.cons.inj whole).2)

theorem stands_first_nowhere (elsewhere : ¬ text <+: []) : ¬ StandsFirst text [] skipped := by
  rintro ⟨⟨others, whole⟩, _⟩
  have parts := List.append_eq_nil_iff.mp (List.append_eq_nil_iff.mp whole.symm).1
  exact elsewhere (parts.2 ▸ List.nil_prefix)

end Places

section Engines

variable (engine : Engine) (reads : engine.ReadsSigns) (signs : List Sign) (literal : ∀ sign ∈ signs, sign.Literal)

include reads literal

theorem literal_matches_iff (before found after : List Char) :
    engine.Matches (signs.flatMap Sign.written) before found after ↔ found = signs.flatMap Sign.text := by
  induction signs generalizing before found with
  | nil => exact reads.nothing before found after
  | cons sign rest ih =>
      obtain ⟨here, others⟩ := List.forall_mem_cons.mp literal
      rw [List.flatMap_cons, List.flatMap_cons, reads.next sign rest before found after here others]
      constructor
      · rintro ⟨more, rfl, matched⟩
        rw [(ih others _ _).mp matched]
      · rintro rfl
        exact ⟨_, rfl, (ih others _ _).mpr rfl⟩

theorem literal_missed (before after : List Char) (elsewhere : ¬ signs.flatMap Sign.text <+: after)
    (found rest : List Char) (whole : after = found ++ rest) :
    ¬ engine.Matches (signs.flatMap Sign.written) before found rest := by
  intro matched
  rw [literal_matches_iff engine reads signs literal] at matched
  exact elsewhere ⟨rest, by rw [whole, matched]⟩

theorem literal_found_here (before after : List Char) (span : Span) (stands : signs.flatMap Sign.text <+: after) :
    engine.spanAfter (signs.flatMap Sign.written) before after = some span ↔
      ∃ skipped, StandsFirst (signs.flatMap Sign.text) after skipped ∧
        span = (byteLength (before ++ skipped), byteLength (before ++ skipped ++ signs.flatMap Sign.text)) := by
  obtain ⟨rest, rfl⟩ := stands
  have found := (literal_matches_iff engine reads signs literal before _ rest).mpr rfl
  rw [Engine.Matches] at found
  simp only [found, Option.some.injEq, stands_first_here, exists_eq_left, List.append_nil]
  exact eq_comm

theorem literal_found_iff (before after : List Char) (span : Span) :
    engine.spanAfter (signs.flatMap Sign.written) before after = some span ↔
      ∃ skipped, StandsFirst (signs.flatMap Sign.text) after skipped ∧
        span = (byteLength (before ++ skipped), byteLength (before ++ skipped ++ signs.flatMap Sign.text)) := by
  -- On the text that is left to search.
  induction after generalizing before with
  | nil =>
      by_cases stands : signs.flatMap Sign.text <+: []
      · exact literal_found_here engine reads signs literal before [] span stands
      · have missed := literal_missed engine reads signs literal before [] stands [] [] rfl
        rw [reads.stops signs before literal missed]
        constructor
        · intro nothing
          cases nothing
        · rintro ⟨skipped, isFirst, _⟩
          exact absurd isFirst (stands_first_nowhere _ skipped stands)
  | cons c after ih =>
      by_cases stands : signs.flatMap Sign.text <+: c :: after
      · exact literal_found_here engine reads signs literal before (c :: after) span stands
      · have missed := literal_missed engine reads signs literal before (c :: after) stands
        rw [reads.further signs before c after literal missed]
        refine (ih (before ++ [c])).trans ?_
        simp only [stands_first_further _ after _ c stands, List.append_assoc, List.singleton_append]
        constructor
        · rintro ⟨more, isFirst, same⟩
          exact ⟨c :: more, ⟨more, rfl, isFirst⟩, same⟩
        · rintro ⟨_, ⟨more, rfl, isFirst⟩, same⟩
          exact ⟨more, isFirst, same⟩

end Engines

def Program.ofChars (chars : List Char) : Program := ⟨.catAll (chars.map Node.char), 0⟩

section Reading

variable (c : Char) (rest : List Char)

theorem plain_not (plain : c ∉ metacharacters) : ∀ d ∈ metacharacters, c ≠ d := by
  rintro d member rfl
  exact plain member

theorem quantifier_plain (plain : c ∉ metacharacters) : quantifier (c :: rest) = .ok none := by
  have other := plain_not c plain
  unfold quantifier
  split
  · cases ‹c :: rest = _›
    exact absurd rfl (other '*' (by decide))
  · cases ‹c :: rest = _›
    exact absurd rfl (other '+' (by decide))
  · cases ‹c :: rest = _›
    exact absurd rfl (other '?' (by decide))
  · cases ‹c :: rest = _›
    exact absurd rfl (other '\x7b' (by decide))
  · rfl

theorem atom_plain (fuel : Nat) (reader : Reader) (plain : c ∉ metacharacters) :
    atom (fuel + 1) {} reader c = .ok (.char c, reader) := by
  have other := plain_not c plain
  unfold atom
  split
  · exact absurd rfl (other '(' (by decide))
  · exact absurd rfl (other '[' (by decide))
  · exact absurd rfl (other '.' (by decide))
  · exact absurd rfl (other '^' (by decide))
  · exact absurd rfl (other '$' (by decide))
  · exact absurd rfl (other '\\' (by decide))
  · rw [quantifier_plain c reader.rest plain]
    rfl

theorem common_escape_pair (other : Text.isWord c = false) : commonEscape c rest = .ok (.char c, rest) := by
  unfold commonEscape
  split
  case h_20 => rfl
  all_goals exact absurd other (by decide)

theorem escape_node_pair (reader : Reader) (other : Text.isWord c = false) :
    escapeNode {} reader c rest = .ok (.char c, { reader with rest }) := by
  have noDigit : ¬ c.isDigit := by
    intro digit
    rw [Text.isWord, digit_is_decimal c digit, Bool.or_true] at other
    cases other
  unfold escapeNode
  split
  case h_9 =>
    dsimp only
    rw [if_neg noDigit, common_escape_pair c rest other]
    rfl
  all_goals exact absurd other (by decide)

theorem branch_atom (fuel : Nat) (names : List (List Char × Nat)) (after : List Char) (node : Node) (nodes : List Node)
    (last : Reader) (kept : skipIgnored false .nothing (c :: rest) = .ok (c :: rest))
    (goesOn : ¬ (c == '|' || c == ')'))
    (first : atom fuel {} ⟨rest, 0, names⟩ c = .ok (node, ⟨after, 0, names⟩))
    (once : quantify {} fuel node after = .ok (node, after))
    (others : branch fuel {} ⟨after, 0, names⟩ = .ok (nodes, last)) :
    branch (fuel + 1) {} ⟨c :: rest, 0, names⟩ = .ok (node :: nodes, last) := by
  rw [branch]
  dsimp only
  rw [kept]
  dsimp only [bind, Except.bind]
  rw [if_neg goesOn, first]
  dsimp only
  rw [once]
  dsimp only
  rw [others]
  rfl

theorem settle_chars (chars : List Char) (named : Bool) (kept : List Nat) (groups : Nat) :
    settle named kept groups (.catAll (chars.map Node.char)) = .ok (.catAll (chars.map Node.char)) := by
  induction chars with
  | nil => rfl
  | cons c rest ih =>
      cases rest with
      | nil => rfl
      | cons d rest =>
          rw [List.map_cons, Node.catAll, settle, ih]
          · rfl
          · exact List.cons_ne_nil _ _

variable (signs : List Sign) (literal : ∀ sign ∈ signs, sign.Literal)

include literal

theorem quantify_signs (fuel : Nat) (node : Node) :
    quantify {} fuel node (signs.flatMap Sign.written) = .ok (node, signs.flatMap Sign.written) := by
  cases fuel with
  | zero => rfl
  | succ fuel =>
      have unquantified : skipIgnored false .nothing (signs.flatMap Sign.written) = .ok (signs.flatMap Sign.written) ∧
          quantifier (signs.flatMap Sign.written) = .ok none := by
        cases signs with
        | nil => exact ⟨rfl, rfl⟩
        | cons sign rest =>
            have here := literal sign List.mem_cons_self
            cases sign with
            | plain c =>
                exact ⟨skip_nothing c _ fun _ opening _ => plain_not c here '(' (by decide) opening,
                  quantifier_plain c _ here⟩
            | pair c => exact ⟨skip_nothing '\\' _ fun _ opening _ => absurd opening (by decide), rfl⟩
            | cut => exact here.elim
      rw [quantify, unquantified.1]
      dsimp only [bind, Except.bind]
      rw [unquantified.2]
      rfl

theorem branch_signs (fuel : Nat) (names : List (List Char × Nat)) (lasts : signs.length < fuel) :
    branch fuel {} ⟨signs.flatMap Sign.written, 0, names⟩ =
      .ok ((signs.flatMap Sign.text).map Node.char, ⟨[], 0, names⟩) := by
  induction signs generalizing fuel with
  | nil =>
      obtain ⟨fuel, rfl⟩ : ∃ left, fuel = left + 1 := ⟨fuel - 1, by omega⟩
      rfl
  | cons sign rest ih =>
      rw [List.length_cons] at lasts
      obtain ⟨fuel, rfl⟩ : ∃ left, fuel = left + 2 := ⟨fuel - 2, by omega⟩
      obtain ⟨here, others⟩ := List.forall_mem_cons.mp literal
      have later := ih others (fuel + 1) (by omega)
      cases sign with
      | plain c =>
          have other := plain_not c here
          have kept := skip_nothing c (rest.flatMap Sign.written) fun _ opening _ => other '(' (by decide) opening
          exact branch_atom c _ (fuel + 1) names _ (.char c) _ _ kept
            (by simp [other '|' (by decide), other ')' (by decide)]) (atom_plain c fuel _ here)
            (quantify_signs rest others _ _) later
      | pair c =>
          have kept := skip_nothing '\\' (c :: rest.flatMap Sign.written) fun _ opening _ => absurd opening (by decide)
          exact branch_atom '\\' _ (fuel + 1) names _ (.char c) _ _ kept (by decide) (escape_node_pair c _ _ here)
            (quantify_signs rest others _ _) later
      | cut => exact here.elim

theorem parse_signs : parse (signs.flatMap Sign.written) = .ok (.ofChars (signs.flatMap Sign.text)) := by
  have short := length_le_written signs
  rw [parse, alternation, branch_signs signs literal _ _ (by omega)]
  dsimp only [bind, Except.bind, pure, Except.pure]
  rw [if_neg (by decide), settle_chars]
  rfl

end Reading

section Running

open Position

theorem advance_over_found (chars rest before : List Char) (offset : Nat) (groups : Captures) :
    advanceOver (fun a b => a == b) chars ⟨before, chars ++ rest, offset, groups⟩ =
      some ⟨chars.reverse ++ before, rest, offset + byteLength chars, groups⟩ := by
  induction chars generalizing before offset with
  | nil => rfl
  | cons c chars ih =>
      rw [List.cons_append, advanceOver, advance]
      dsimp only
      rw [if_pos (beq_self_eq_true c), ih, List.reverse_cons, List.append_assoc, byteLength, Nat.add_assoc]
      rfl

theorem advance_over_missing (chars after before : List Char) (offset : Nat) (groups : Captures)
    (missing : ¬ chars <+: after) :
    advanceOver (fun a b => a == b) chars ⟨before, after, offset, groups⟩ = none := by
  induction chars generalizing after before offset with
  | nil => exact absurd List.nil_prefix missing
  | cons c chars ih =>
      rw [advanceOver, advance]
      cases after with
      | nil => rfl
      | cons d after =>
          dsimp only
          split
          · rename_i same
            rw [beq_iff_eq.mp same, List.prefix_cons_inj] at missing
            exact ih after _ _ missing
          · rfl

theorem advance_over_cons (same : Char → Char → Bool) (c : Char) (rest : List Char) (position : Position) :
    advanceOver same (c :: rest) position = (advanceOver same [c] position).bind (advanceOver same rest) := by
  rw [advanceOver, advanceOver]
  cases position.advance with
  | none => rfl
  | some moved =>
      dsimp only
      split <;> rfl

theorem run_char (c : Char) (text : List Char) (searchStart : Nat) (position : Position)
    (next : Position → Option Position) :
    (Node.char c).run text searchStart position next = (advanceOver (fun a b => a == b) [c] position).bind next := by
  rw [Node.run, runChar, advanceOver]
  cases position.advance with
  | none => rfl
  | some moved =>
      dsimp only
      rw [Bool.beq_comm]
      split <;> rfl

theorem run_chars (chars text : List Char) (searchStart : Nat) (position : Position)
    (next : Position → Option Position) :
    (Node.catAll (chars.map Node.char)).run text searchStart position next =
      (advanceOver (fun a b => a == b) chars position).bind next := by
  induction chars generalizing position with
  | nil => rfl
  | cons c rest ih =>
      have whole : (Node.catAll ((c :: rest).map Node.char)).run text searchStart position next =
          (Node.char c).run text searchStart position fun middle =>
            (Node.catAll (rest.map Node.char)).run text searchStart middle next := by
        cases rest <;> rfl
      rw [whole, run_char, advance_over_cons _ c rest, Option.bind_assoc]
      simp only [ih]

theorem match_at_chars (chars text before after : List Char) (searchStart offset : Nat) :
    (Program.ofChars chars).matchAt text searchStart
        ⟨before, after, offset, List.replicate (Program.ofChars chars).groups none⟩ =
      if chars <+: after then some [some (offset, offset + byteLength chars)] else none := by
  rw [Program.matchAt, Program.ofChars, run_chars]
  split
  · rename_i stands
    obtain ⟨rest, rfl⟩ := stands
    rw [advance_over_found]
    rfl
  · rename_i missing
    rw [advance_over_missing chars after before offset _ missing]
    rfl

theorem match_from_chars (chars text before after : List Char) (searchStart offset : Nat) :
    (Program.ofChars chars).matchFrom text searchStart before after offset =
      if chars <+: after then some [some (offset, offset + byteLength chars)]
      else
        match after with
        | [] => none
        | c :: rest => (Program.ofChars chars).matchFrom text searchStart (c :: before) rest (offset + c.utf8Size) := by
  have here := match_at_chars chars text before after searchStart offset
  by_cases stands : chars <+: after
  · rw [if_pos stands] at here ⊢
    cases after <;> rw [Program.matchFrom, here]
  · rw [if_neg stands] at here ⊢
    cases after <;> rw [Program.matchFrom, here]

theorem match_from_same (chars text other before after : List Char) (start otherStart offset : Nat) :
    (Program.ofChars chars).matchFrom text start before after offset =
      (Program.ofChars chars).matchFrom other otherStart before after offset := by
  induction after generalizing before offset with
  | nil => rw [match_from_chars, match_from_chars]
  | cons c rest ih =>
      rw [match_from_chars chars text, match_from_chars chars other]
      dsimp only
      rw [ih]

variable (signs : List Sign) (literal : ∀ sign ∈ signs, sign.Literal)

include literal

theorem backtracking_span (before after : List Char) :
    Engine.backtracking.spanAfter (signs.flatMap Sign.written) before after =
      ((Program.ofChars (signs.flatMap Sign.text)).matchFrom [] 0 before.reverse after (byteLength before)).map
        wholeSpan := by
  have inside : byteLength before ≤ byteLength (before ++ after) := by
    rw [Text.byte_length_append]
    exact Nat.le_add_right _ _
  simp only [Engine.spanAfter, Engine.backtracking, parse_signs signs literal]
  rw [Program.search, if_pos inside, Text.take_bytes_split, Text.drop_bytes_split, match_from_same _ _ []]

theorem backtracking_step (before after : List Char) :
    Engine.backtracking.spanAfter (signs.flatMap Sign.written) before after =
      if signs.flatMap Sign.text <+: after then
        some (byteLength before, byteLength (before ++ signs.flatMap Sign.text))
      else
        match after with
        | [] => none
        | c :: rest => Engine.backtracking.spanAfter (signs.flatMap Sign.written) (before ++ [c]) rest := by
  rw [Text.byte_length_append, backtracking_span signs literal, match_from_chars]
  split
  · rfl
  · cases after with
    | nil => rfl
    | cons c rest =>
        dsimp only
        rw [backtracking_span signs literal, List.reverse_append, Text.byte_length_append]
        rfl

theorem backtracking_matches_iff (before found after : List Char) :
    Engine.backtracking.Matches (signs.flatMap Sign.written) before found after ↔ found = signs.flatMap Sign.text := by
  rw [Engine.Matches, backtracking_step signs literal]
  constructor
  · intro matched
    split at matched
    · rename_i stands
      obtain ⟨rest, whole⟩ := stands
      have length : byteLength (signs.flatMap Sign.text) = byteLength found := by
        simp only [Text.byte_length_append, Option.some.injEq, Prod.mk.injEq, true_and] at matched
        omega
      rw [← Text.take_bytes_split found after, ← whole, ← length, Text.take_bytes_split]
    · split at matched
      · cases matched
      · rename_i c rest _
        obtain ⟨captures, searched, span⟩ := Option.map_eq_some_iff.mp matched
        have boundary := Text.is_boundary_split (before ++ [c]) rest
        have forward := (backtracking_sound _ _ _ captures boundary searched).forward
        have size := c.utf8Size_pos
        simp only [span, Text.byte_length_append, byteLength] at forward
        omega
  · rintro rfl
    exact if_pos ⟨after, rfl⟩

end Running

theorem backtracking_reads_signs : Engine.backtracking.ReadsSigns where
  nothing before found after := backtracking_matches_iff [] (List.forall_mem_nil _) before found after
  next sign signs before found after here others := by
    have whole := backtracking_matches_iff (sign :: signs) (List.forall_mem_cons.mpr ⟨here, others⟩) before found after
    rw [List.flatMap_cons, List.flatMap_cons] at whole
    simp only [whole, backtracking_matches_iff signs others, exists_eq_right]
  further signs before c after literal fails := by
    rw [backtracking_step signs literal before (c :: after), if_neg]
    rintro ⟨rest, whole⟩
    exact fails _ rest whole.symm ((backtracking_matches_iff signs literal before _ rest).mpr rfl)
  stops signs before literal fails := by
    rw [backtracking_step signs literal before [], if_neg]
    intro stands
    exact fails ((backtracking_matches_iff signs literal before [] []).mpr (List.prefix_nil.mp stands).symm)

end LineScope.Pattern
