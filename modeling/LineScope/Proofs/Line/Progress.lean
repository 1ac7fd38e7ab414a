import LineScope.Proofs.Line.Agreement
import Mathlib.Data.List.Dedup
import Mathlib.Data.List.Perm.Subperm

/-!
A scan moves on. At one place of the text it closes only rules that were opened elsewhere, and opens
each rule once at most; the frames opened here lie on top, so that none of them is closed here and
closing comes before opening. After at most as many steps as there are frames and rules the scan has
moved over a character or has come to its end, and so the steps that are allowed to it are never
used up.
-/

set_option autoImplicit false

namespace LineScope

open Text (IsBoundary nextBoundary)
open Pattern (SpanWithin)

def Grammar.openingIds (grammar : Grammar) : List Nat :=
  (List.range grammar.ruleCount).filter fun id => (Line.beginPartsOf (grammar.rule id)).isSome

def openingRules (known : List Grammar) : List (String × Nat) :=
  (known.flatMap fun grammar => grammar.openingIds.map fun id => (grammar.key, id)).dedup

theorem opening_rules_mem (known : List Grammar) (rule : RuleRef) (isKnown : rule.grammar ∈ known)
    (opens : (Line.beginPartsOf rule.rule).isSome) : rule.identity ∈ openingRules known := by
  obtain ⟨grammar, id⟩ := rule
  have inside : id < grammar.ruleCount := by
    by_contra outside
    have invalid : grammar.rule id = .invalid := by
      rw [Grammar.rule, Array.getD_eq_getD_getElem?, Array.getElem?_eq_none (Nat.le_of_not_lt outside)]
      rfl
    rw [RuleRef.rule, invalid] at opens
    cases opens
  refine List.mem_dedup.mpr (List.mem_flatMap.mpr ⟨grammar, isKnown, List.mem_map.mpr ⟨id, ?_, rfl⟩⟩)
  exact List.mem_filter.mpr ⟨List.mem_range.mpr inside, opens⟩

def availableGrammars (tokenizer : Tokenizer) (stack : RuleStack) : List Grammar :=
  tokenizer.library.grammars.map Prod.snd ++ [tokenizer.grammar] ++
    stack.frames.map (fun frame => frame.rule.grammar) ++
    tokenizer.injections.map (fun injection => injection.rule.grammar)

theorem opening_rules_le (known : List Grammar) : (openingRules known).length ≤ Grammar.totalRules known := by
  refine (List.dedup_sublist _).length_le.trans ?_
  induction known with
  | nil => exact Nat.le_refl 0
  | cons grammar rest ih =>
      have own : grammar.openingIds.length ≤ grammar.ruleCount :=
        (List.length_filter_le _ _).trans_eq List.length_range
      rw [List.flatMap_cons, List.length_append, List.length_map, Grammar.totalRules]
      exact Nat.add_le_add own ih

theorem Grammar.total_rules_append (first second : List Grammar) :
    totalRules (first ++ second) = totalRules first + totalRules second := by
  induction first with
  | nil => exact (Nat.zero_add _).symm
  | cons grammar rest ih => rw [List.cons_append, totalRules, totalRules, ih, Nat.add_assoc]

namespace Line

theorem rule_total_eq (tokenizer : Tokenizer) (stack : RuleStack) :
    Grammar.totalRules (availableGrammars tokenizer stack) = ruleTotal tokenizer stack := by
  simp only [availableGrammars, ruleTotal, Library.ruleCount, Grammar.total_rules_append, Grammar.totalRules,
    Nat.add_zero]

def run (tokenizer : Tokenizer) (retokenize : Retokenizer) (text : List Char) : Nat → Progress → Outcome
  | 0, progress => .running progress
  | rounds + 1, progress =>
      match scanStep tokenizer retokenize text progress with
      | .finished last => .finished last
      | .running next => run tokenizer retokenize text rounds next

section Runs

variable (tokenizer : Tokenizer) (retokenize : Retokenizer) (text : List Char)

theorem run_add (rounds more : Nat) (progress next : Progress)
    (first : run tokenizer retokenize text rounds progress = .running next) :
    run tokenizer retokenize text (rounds + more) progress = run tokenizer retokenize text more next := by
  induction rounds generalizing progress with
  | zero =>
      cases first
      rw [Nat.zero_add]
  | succ rounds ih =>
      rw [Nat.succ_add, run]
      rw [run] at first
      split at first
      · cases first
      · exact ih _ first

theorem run_one (progress : Progress) :
    run tokenizer retokenize text 1 progress = scanStep tokenizer retokenize text progress := by
  rw [run]
  cases scanStep tokenizer retokenize text progress <;> rfl

theorem run_finished (rounds more : Nat) (progress last : Progress)
    (ended : run tokenizer retokenize text rounds progress = .finished last) :
    run tokenizer retokenize text (rounds + more) progress = .finished last := by
  induction rounds generalizing progress with
  | zero => cases ended
  | succ rounds ih =>
      rw [Nat.succ_add, run]
      rw [run] at ended
      split at ended
      · exact ended
      · exact ih _ ended

theorem scan_steps_of_run (rounds allowed : Nat) (progress last : Progress)
    (ended : run tokenizer retokenize text rounds progress = .finished last) (enough : rounds ≤ allowed) :
    scanSteps tokenizer retokenize text allowed progress = last := by
  induction rounds generalizing allowed progress with
  | zero => cases ended
  | succ rounds ih =>
      obtain ⟨fewer, rfl⟩ : ∃ fewer, allowed = fewer + 1 := ⟨allowed - 1, by omega⟩
      rw [run] at ended
      rw [scanSteps]
      cases step : scanStep tokenizer retokenize text progress with
      | finished final =>
          rw [step] at ended
          cases ended
          rfl
      | running next =>
          rw [step] at ended
          exact ih fewer next ended (by omega)

end Runs

-- What a scan at one place has done to its stack since it came there: it has closed frames, and on what is left it
-- has opened rules, no two of them the same.
structure AtPlace (known : List Grammar) (start progress : Progress) (pushed kept : List Frame) : Prop where
  pos : progress.pos = start.pos
  frames : progress.stack.frames = pushed ++ kept
  remains : kept ≠ []
  suffix : kept <:+ start.stack.frames
  here : ∀ frame ∈ pushed, frame.enterPos = some start.pos ∧ frame.rule.identity ∈ openingRules known
  once : (pushed.map fun frame => frame.rule.identity).Nodup

theorem at_place_start (known : List Grammar) (start : Progress) : AtPlace known start start [] start.stack.frames where
  pos := rfl
  frames := rfl
  remains := frames_ne_nil _
  suffix := List.suffix_rfl
  here := List.forall_mem_nil _
  once := List.nodup_nil

theorem at_place_pushed (known : List Grammar) (start progress : Progress) (pushed kept : List Frame)
    (place : AtPlace known start progress pushed kept) : pushed.length ≤ (openingRules known).length := by
  have inside : (pushed.map fun frame => frame.rule.identity) ⊆ openingRules known := by
    intro identity member
    obtain ⟨frame, listed, rfl⟩ := List.mem_map.mp member
    exact (place.here frame listed).2
  simpa using (List.subperm_of_subset place.once inside).length_le

theorem stay_rounds (known : List Grammar) (start next : Progress) (pushed kept : List Frame) (rounds : Nat)
    (place : AtPlace known start next pushed kept)
    (counted : pushed.length + start.stack.frames.length = kept.length + rounds) :
    rounds < start.stack.frames.length + (openingRules known).length := by
  have pushes := at_place_pushed known start next pushed kept place
  have remains := List.length_pos_of_ne_nil place.remains
  omega

theorem enters_again_distinct (frame : Activation) (pushed kept : List Frame)
    (here : ∀ other ∈ pushed, other.enterPos = frame.enterPos)
    (fresh : RuleStack.entersAgain frame (pushed ++ kept) = false) :
    ∀ other ∈ pushed, other.rule.identity ≠ frame.rule.identity := by
  induction pushed with
  | nil => exact List.forall_mem_nil _
  | cons first rest ih =>
      obtain ⟨firstHere, restHere⟩ := List.forall_mem_cons.mp here
      simp only [List.cons_append, RuleStack.entersAgain, firstHere, beq_self_eq_true, Bool.true_and,
        Bool.or_eq_false_iff] at fresh
      exact List.forall_mem_cons.mpr ⟨by simpa [RuleRef.same] using fresh.1, ih restHere fresh.2⟩

-- A step that stays where it is closes a frame that was opened elsewhere, before anything is opened here, or opens
-- another rule.
theorem at_place_step (known : List Grammar) (text : List Char) (start progress : Progress) (pushed kept : List Frame)
    (place : AtPlace known start progress pushed kept) (candidate : Candidate) (stack : RuleStack) (stalls : Bool)
    (opening : ∀ rule, candidate.winner = .rule rule → rule.grammar ∈ known)
    (move : Move text progress candidate stack stalls) (moved : stalls = false)
    (empty : ¬ progress.pos < candidate.stop)
    (next : Progress) (nextPos : next.pos = progress.pos) (nextStack : next.stack = stack) :
    (pushed = [] ∧ ∃ closed rest, kept = closed :: rest ∧ AtPlace known start next [] rest) ∨
      ∃ opened, AtPlace known start next (opened :: pushed) kept := by
  have pos := nextPos.trans place.pos
  cases move with
  | closed _ popped elsewhere =>
      have notHere := elsewhere.resolve_left empty
      have frames := place.frames
      rw [pop_frames progress.stack stack popped] at frames
      cases pushed with
      | nil =>
          -- Nothing has been opened here, so the frame was on the stack when the scan came to this place.
          have closed : kept = progress.stack.top :: stack.frames := frames.symm
          have suffix : stack.frames <:+ start.stack.frames := (List.suffix_cons _ _).trans (closed ▸ place.suffix)
          exact .inl ⟨rfl, progress.stack.top, stack.frames, closed, pos, by rw [nextStack]; rfl, frames_ne_nil _,
            suffix, List.forall_mem_nil _, List.nodup_nil⟩
      | cons first rest =>
          -- The frame on top was opened here, where no empty match closes it.
          obtain ⟨top, _⟩ := List.cons.inj frames
          rw [place.pos, top] at notHere
          exact absurd (place.here first (by simp)).1 notHere
  | opened rule captures contentName endPattern winner parts fresh =>
      have again := fresh.resolve_left empty
      have mark : (pushedFrame text progress rule candidate contentName endPattern).enterPos = some start.pos :=
        congrArg some place.pos
      have listed : rule.identity ∈ openingRules known :=
        opening_rules_mem known rule (opening rule winner) (by rw [parts]; rfl)
      rw [place.frames] at again
      have distinct := enters_again_distinct _ pushed kept
        (fun other member => (place.here other member).1.trans mark.symm) again
      have frames : next.stack.frames =
          (progress.stack.push (pushedFrame text progress rule candidate contentName endPattern)).top :: (pushed ++ kept) := by
        rw [nextStack, ← place.frames]
        rfl
      refine .inr ⟨_, pos, frames, place.remains, place.suffix,
        List.forall_mem_cons.mpr ⟨⟨mark, listed⟩, place.here⟩, List.nodup_cons.mpr ⟨?_, place.once⟩⟩
      intro member
      obtain ⟨other, inside, same⟩ := List.mem_map.mp member
      exact distinct other inside same
  | passed advanced => exact absurd advanced empty
  | stalled => cases moved

theorem place_rounds_le (depth opening remaining rounds : Nat) (bound : rounds ≤ depth + opening) :
    rounds ≤ (remaining + 1) * (depth + remaining * (opening + 1) + opening) :=
  calc rounds
    _ ≤ depth + remaining * (opening + 1) + opening := by omega
    _ ≤ _ := Nat.le_mul_of_pos_left _ (Nat.succ_pos remaining)

structure Underway (known : List Grammar) (library : Library) (text : List Char) (progress : Progress) : Prop where
  place : IsBoundary progress.pos text
  inside : progress.stack.Within known
  valid : progress.output.memory.Valid known library

theorem move_depth (text : List Char) (progress : Progress) (candidate : Candidate) (stack : RuleStack) (stalls : Bool)
    (move : Move text progress candidate stack stalls) : stack.frames.length ≤ progress.stack.frames.length + 1 := by
  cases move with
  | closed _ popped _ =>
      rw [pop_frames progress.stack stack popped, List.length_cons]
      omega
  | opened rule captures contentName endPattern winner parts fresh => exact Nat.le_refl _
  | passed _ => exact Nat.le_succ _
  | stalled => exact Nat.le_succ _

section Places

variable {known : List Grammar} (tokenizer : Tokenizer) (within : tokenizer.Within known) (retokenize : Retokenizer)
  (consistent : Consistent True known tokenizer.library retokenize) (text : List Char)
  (ahead : tokenizer.engine.MatchesAhead)

include within consistent ahead

theorem scan_step_underway (progress next : Progress) (underway : Underway known tokenizer.library text progress)
    (step : scanStep tokenizer retokenize text progress = .running next) :
    Underway known tokenizer.library text next ∧
      ∃ candidate stalls, (∀ rule, candidate.winner = .rule rule → rule.grammar ∈ known) ∧
        Move text progress candidate next.stack stalls ∧
        (nextBoundary text progress.pos ≤ next.pos ∨
          next.pos = progress.pos ∧ stalls = false ∧ ¬ progress.pos < candidate.stop) := by
  obtain ⟨candidate, stalls, found, move, advance⟩ := scan_step_running tokenizer retokenize text progress next step
  have opening := fun rule winner =>
    winner_within tokenizer within text progress underway.inside underway.valid candidate rule found winner
  have whole : SpanWithin text candidate.start candidate.stop := by
    obtain ⟨contender, _, there⟩ := find_candidate_mem tokenizer _ _ progress.stack candidate found
    obtain ⟨captures, searched, rfl⟩ := Option.map_eq_some_iff.mp there
    exact (ahead _ text progress.pos captures underway.place searched).2
  have agrees := scan_step_agrees tokenizer within retokenize consistent text progress progress
    ⟨rfl, rfl, rfl, RuleStack.alike_refl _, underway.inside, rfl, rfl, underway.valid, underway.valid⟩
  rw [step] at agrees
  have inOrder : ∀ pos, IsBoundary pos text → next.pos = pos → Underway known tokenizer.library text next :=
    fun pos boundary same => ⟨same ▸ boundary, agrees.inside, agrees.output.firstValid⟩
  generalize reached : next.pos = pos at advance
  cases advance with
  | forced c rest following =>
      refine ⟨inOrder _ (Text.is_boundary_next underway.place following) reached, candidate, true, opening, move,
        .inl ?_⟩
      rw [nextBoundary, following]
  | taken advanced =>
      exact ⟨inOrder _ whole.stopBoundary reached, candidate, false, opening, move,
        .inl (Text.next_boundary_le underway.place whole.stopBoundary advanced)⟩
  | stayed empty => exact ⟨inOrder _ underway.place reached, candidate, false, opening, move, .inr ⟨rfl, rfl, empty⟩⟩

theorem run_underway (rounds : Nat) (progress next : Progress)
    (underway : Underway known tokenizer.library text progress)
    (ran : run tokenizer retokenize text rounds progress = .running next) :
    Underway known tokenizer.library text next ∧ progress.pos ≤ next.pos := by
  induction rounds generalizing progress with
  | zero =>
      cases ran
      exact ⟨underway, Nat.le_refl _⟩
  | succ rounds ih =>
      rw [run] at ran
      split at ran
      · cases ran
      · rename_i middle step
        obtain ⟨middleUnderway, candidate, stalls, _, _, reached⟩ :=
          scan_step_underway tokenizer within retokenize consistent text ahead progress middle underway step
        obtain ⟨nextUnderway, onward⟩ := ih middle middleUnderway ran
        have further : progress.pos ≤ middle.pos := by
          rcases reached with past | ⟨same, _, _⟩
          · exact (Text.lt_next_boundary text progress.pos).le.trans past
          · exact same.ge
        exact ⟨nextUnderway, further.trans onward⟩

-- After some steps from a place the scan is over, or it has left the place with few frames more.
def Leaves (known : List Grammar) (tokenizer : Tokenizer) (retokenize : Retokenizer) (text : List Char)
    (start : Progress) (rounds : Nat) : Prop :=
  (∃ last, run tokenizer retokenize text rounds start = .finished last) ∨
    ∃ next, run tokenizer retokenize text rounds start = .running next ∧
      Underway known tokenizer.library text next ∧ nextBoundary text start.pos ≤ next.pos ∧
      next.stack.frames.length ≤ start.stack.frames.length + (openingRules known).length + 1

theorem leave_or_stay (start : Progress) (underway : Underway known tokenizer.library text start) (rounds : Nat) :
    (∃ fewer ≤ rounds, Leaves known tokenizer retokenize text start fewer) ∨
      ∃ next pushed kept, run tokenizer retokenize text rounds start = .running next ∧
        Underway known tokenizer.library text next ∧ AtPlace known start next pushed kept ∧
        pushed.length + start.stack.frames.length = kept.length + rounds := by
  induction rounds with
  | zero => exact .inr ⟨start, [], start.stack.frames, rfl, underway, at_place_start known start,
      by rw [List.length_nil, Nat.zero_add, Nat.add_zero]⟩
  | succ rounds ih =>
      rcases ih with ⟨fewer, bound, leaves⟩ | ⟨middle, pushed, kept, ran, middleUnderway, place, counted⟩
      · exact .inl ⟨fewer, Nat.le_succ_of_le bound, leaves⟩
      · have more := (run_add tokenizer retokenize text rounds 1 start middle ran).trans
          (run_one tokenizer retokenize text middle)
        cases step : scanStep tokenizer retokenize text middle with
        | finished last => exact .inl ⟨rounds + 1, Nat.le_refl _, .inl ⟨last, more.trans step⟩⟩
        | running next =>
          rw [step] at more
          obtain ⟨nextUnderway, candidate, stalls, opening, move, reached⟩ :=
            scan_step_underway tokenizer within retokenize consistent text ahead middle next middleUnderway step
          rcases reached with past | ⟨same, moved, empty⟩
          · refine .inl ⟨rounds + 1, Nat.le_refl _, .inr ⟨next, more, nextUnderway, place.pos ▸ past, ?_⟩⟩
            have depth := move_depth text middle candidate next.stack stalls move
            have frames := congrArg List.length place.frames
            have pushes := at_place_pushed known start middle pushed kept place
            have keeps := place.suffix.length_le
            simp only [List.length_append] at frames keeps
            omega
          · rcases at_place_step known text start middle pushed kept place candidate next.stack stalls opening move
              moved empty next same rfl with ⟨rfl, closed, rest, rfl, stays⟩ | ⟨opened, stays⟩
            · refine .inr ⟨next, [], rest, more, nextUnderway, stays, ?_⟩
              simp only [List.length_cons] at counted
              omega
            · refine .inr ⟨next, opened :: pushed, kept, more, nextUnderway, stays, ?_⟩
              simp only [List.length_cons]
              omega

theorem leave_place (start : Progress) (underway : Underway known tokenizer.library text start) :
    ∃ rounds ≤ start.stack.frames.length + (openingRules known).length,
      Leaves known tokenizer retokenize text start rounds := by
  rcases leave_or_stay tokenizer within retokenize consistent text ahead start underway
    (start.stack.frames.length + (openingRules known).length) with leaves | ⟨next, pushed, kept, _, _, place, counted⟩
  · exact leaves
  · exact absurd (stay_rounds known start next pushed kept _ place counted) (Nat.lt_irrefl _)

theorem left_place (start next : Progress) (fewer rounds : Nat) (bound : fewer ≤ rounds)
    (leaves : Leaves known tokenizer retokenize text start fewer)
    (ran : run tokenizer retokenize text rounds start = .running next) : nextBoundary text start.pos ≤ next.pos := by
  obtain ⟨more, rfl⟩ := Nat.exists_eq_add_of_le bound
  rcases leaves with ⟨last, ended⟩ | ⟨middle, running, middleUnderway, past, _⟩
  · rw [run_finished tokenizer retokenize text fewer more start last ended] at ran
    cases ran
  · rw [run_add tokenizer retokenize text fewer more start middle running] at ran
    have onward := run_underway tokenizer within retokenize consistent text ahead more middle next middleUnderway ran
    exact past.trans onward.2

theorem run_finishes (remaining : Nat) (start : Progress) (underway : Underway known tokenizer.library text start)
    (left : (Text.dropBytes start.pos text).length ≤ remaining) :
    ∃ rounds last, run tokenizer retokenize text rounds start = .finished last ∧
      rounds ≤ (remaining + 1) *
        (start.stack.frames.length + remaining * ((openingRules known).length + 1) + (openingRules known).length) := by
  -- On the text that is left: each place adds at most one frame for each rule and one more.
  induction remaining generalizing start with
  | zero =>
      obtain ⟨rounds, bound, leaves⟩ := leave_place tokenizer within retokenize consistent text ahead start underway
      rcases leaves with ⟨last, ended⟩ | ⟨next, _, nextUnderway, past, _⟩
      · exact ⟨rounds, last, ended, place_rounds_le _ _ _ _ bound⟩
      · have onward := (Text.lt_next_boundary text start.pos).trans_le past
        have shorter := Text.drop_bytes_shorter underway.place nextUnderway.place onward
        omega
  | succ remaining ih =>
      obtain ⟨rounds, bound, leaves⟩ := leave_place tokenizer within retokenize consistent text ahead start underway
      rcases leaves with ⟨last, ended⟩ | ⟨next, running, nextUnderway, past, depth⟩
      · exact ⟨rounds, last, ended, place_rounds_le _ _ _ _ bound⟩
      · have onward := (Text.lt_next_boundary text start.pos).trans_le past
        have shorter := Text.drop_bytes_shorter underway.place nextUnderway.place onward
        obtain ⟨more, last, ended, enough⟩ := ih next nextUnderway (by omega)
        refine ⟨rounds + more, last, ?_, ?_⟩
        · rw [run_add tokenizer retokenize text rounds more start next running, ended]
        · generalize (openingRules known).length = opening at *
          have each : next.stack.frames.length + remaining * (opening + 1) + opening ≤
              start.stack.frames.length + (remaining + 1) * (opening + 1) + opening := by
            rw [Nat.succ_mul]
            omega
          calc rounds + more
            _ ≤ (start.stack.frames.length + (remaining + 1) * (opening + 1) + opening) +
                (remaining + 1) * (start.stack.frames.length + (remaining + 1) * (opening + 1) + opening) :=
              Nat.add_le_add (by omega) (enough.trans (Nat.mul_le_mul_left _ each))
            _ = _ := by rw [Nat.succ_mul (remaining + 1), Nat.add_comm]

end Places

section Available

variable {known : List Grammar} (tokenizer : Tokenizer) (within : tokenizer.Within known) (stack : RuleStack)

include within

theorem available_known (inside : stack.Within known) :
    ∀ grammar ∈ availableGrammars tokenizer stack, grammar ∈ known := by
  intro grammar member
  simp only [availableGrammars, List.mem_append, List.mem_map, List.mem_singleton] at member
  rcases member with ((⟨entry, listed, rfl⟩ | rfl) | ⟨frame, listed, rfl⟩) | ⟨injection, listed, rfl⟩
  · exact within.library.grammars entry listed
  · exact within.grammar
  · exact inside frame listed
  · exact within.injections injection listed

theorem available_within (inside : stack.Within known) : tokenizer.Within (availableGrammars tokenizer stack) := by
  have isKnown := available_known tokenizer within stack inside
  refine ⟨⟨?_, ?_⟩, ?_, ?_⟩
  · exact fun first isFirst second isSecond => within.library.distinct first (isKnown first isFirst) second
      (isKnown second isSecond)
  · intro entry listed
    simp only [availableGrammars, List.mem_append, List.mem_map]
    exact .inl (.inl (.inl ⟨entry, listed, rfl⟩))
  · simp [availableGrammars]
  · intro injection listed
    simp only [availableGrammars, List.mem_append, List.mem_map]
    exact .inr ⟨injection, listed, rfl⟩

theorem available_underway (text : List Char) (progress : Progress)
    (underway : Underway known tokenizer.library text progress) :
    Underway (availableGrammars tokenizer progress.stack) tokenizer.library text progress := by
  have isKnown := available_known tokenizer within progress.stack underway.inside
  refine ⟨underway.place, ?_, underway.valid.grammars, underway.valid.includes, ?_, ?_⟩
  · intro frame listed
    simp only [availableGrammars, List.mem_append, List.mem_map]
    exact .inl (.inr ⟨frame, listed, rfl⟩)
  · exact fun grammar member => underway.valid.injections grammar (isKnown grammar member)
  · exact fun base isBase mode target isTarget =>
      underway.valid.patternSets base (isKnown base isBase) mode target (isKnown _ isTarget)

end Available

theorem step_budget_enough (tokenizer : Tokenizer) (text : List Char) (stack : RuleStack) (pos opening : Nat)
    (fewer : opening ≤ ruleTotal tokenizer stack) :
    ((Text.dropBytes pos text).length + 1) *
        (stack.frames.length + (Text.dropBytes pos text).length * (opening + 1) + opening) ≤
      stepBudget tokenizer text stack := by
  have left := Text.length_drop_bytes_le pos text
  generalize (Text.dropBytes pos text).length = remaining at left ⊢
  have places : (remaining + 1) * (opening + 1) ≤ (text.length + 2) * (ruleTotal tokenizer stack + 1) :=
    Nat.mul_le_mul (by omega) (by omega)
  rw [Nat.succ_mul] at places
  exact Nat.mul_le_mul (by omega) (by omega)

theorem scan_makes_progress (known : List Grammar) (tokenizer : Tokenizer) (within : tokenizer.Within known)
    (ahead : tokenizer.engine.MatchesAhead) (nesting : Nat) (text : List Char) (start : Progress)
    (underway : Underway known tokenizer.library text start) :
    (∀ earlier place, run tokenizer (retokenizer tokenizer nesting) text earlier start = .running place →
      ∀ rounds next, run tokenizer (retokenizer tokenizer nesting) text rounds place = .running next →
        (next.pos = place.pos → rounds < place.stack.frames.length + (openingRules known).length) ∧
        (place.stack.frames.length + (openingRules known).length ≤ rounds → nextBoundary text place.pos ≤ next.pos)) ∧
      ∃ rounds last, run tokenizer (retokenizer tokenizer nesting) text rounds start = .finished last ∧
        scan tokenizer (nesting + 1) text start = last := by
  constructor
  · intro earlier place came rounds next ran
    have consistent : Consistent True known tokenizer.library (retokenizer tokenizer nesting) :=
      retokenizer_consistent tokenizer within nesting
    have placeUnderway := (run_underway tokenizer within _ consistent text ahead earlier start place underway came).1
    rcases leave_or_stay tokenizer within _ consistent text ahead place placeUnderway rounds with
      ⟨fewer, bound, leaves⟩ | ⟨_, pushed, kept, _, _, stays, counted⟩
    · have past := left_place tokenizer within _ consistent text ahead place next fewer rounds bound leaves ran
      have onward := Text.lt_next_boundary text place.pos
      exact ⟨fun same => by omega, fun _ => past⟩
    · have few := stay_rounds known place _ pushed kept rounds stays counted
      exact ⟨fun _ => few, fun many => by omega⟩
  · have inside := available_within tokenizer within start.stack underway.inside
    have consistent : Consistent True (availableGrammars tokenizer start.stack) tokenizer.library
        (retokenizer tokenizer nesting) :=
      retokenizer_consistent tokenizer inside nesting
    obtain ⟨rounds, last, ended, bound⟩ := run_finishes tokenizer inside _ consistent text ahead _ start
      (available_underway tokenizer within text start underway) (Nat.le_refl _)
    have fewer := (opening_rules_le (availableGrammars tokenizer start.stack)).trans_eq
      (rule_total_eq tokenizer start.stack)
    have enough := bound.trans (step_budget_enough tokenizer text start.stack start.pos _ fewer)
    exact ⟨rounds, last, ended, scan_steps_of_run tokenizer _ text rounds _ start last ended enough⟩

section Example

-- A rule that is opened and closed everywhere, without taking text.
def emptyTokenizer : Tokenizer :=
  .ofRules "s" #[.container ⟨none, none, [.rule 1]⟩, .beginEnd ⟨none, none, "", [], "", [], false, []⟩]

def emptyStart : Progress := ⟨0, true, none, emptyTokenizer.initialStack, { memory := {} }⟩

theorem empty_matches_make_progress :
    (∀ rounds next, run emptyTokenizer (retokenizer emptyTokenizer 0) ['é', 'a'] rounds emptyStart = .running next →
      2 ≤ rounds → 2 ≤ next.pos) ∧
    ∃ rounds last, run emptyTokenizer (retokenizer emptyTokenizer 0) ['é', 'a'] rounds emptyStart = .finished last ∧
      scan emptyTokenizer 1 ['é', 'a'] emptyStart = last := by
  have ahead : emptyTokenizer.engine.MatchesAhead := Pattern.sound_matches_ahead _ Pattern.backtracking_sound
  have underway : Underway [emptyTokenizer.grammar] emptyTokenizer.library ['é', 'a'] emptyStart :=
    ⟨Text.is_boundary_zero _, List.forall_mem_cons.mpr ⟨List.mem_singleton.mpr rfl, List.forall_mem_nil _⟩,
      Memory.empty_valid⟩
  have progress := scan_makes_progress [emptyTokenizer.grammar] emptyTokenizer (of_rules_within _ _) ahead 0 ['é', 'a']
    emptyStart underway
  exact ⟨fun rounds next ran many => (progress.1 0 emptyStart rfl rounds next ran).2 many, progress.2⟩

end Example

end Line

end LineScope
