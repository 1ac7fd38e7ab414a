import LineScope.Pattern.Engine
import LineScope.Proofs.Text.Boundary

set_option autoImplicit false

namespace LineScope.Pattern

open Text (IsBoundary byteLength)

-- A span of the text. Groups inside a look-around may lie outside the whole match, so nothing relates two spans of
-- one match to each other.
structure SpanWithin (text : List Char) (start stop : Nat) : Prop where
  ordered : start ≤ stop
  startBoundary : IsBoundary start text
  stopBoundary : IsBoundary stop text

structure CapturesSound (text : List Char) (pos : Nat) (captures : Captures) : Prop where
  whole : ∃ span groups, captures = some span :: groups
  forward : pos ≤ (wholeSpan captures).1
  spans : ∀ start stop, some (start, stop) ∈ captures → SpanWithin text start stop

def Engine.Sound (engine : Engine) : Prop :=
  ∀ source text pos captures, IsBoundary pos text → engine.search source text pos = some captures →
    CapturesSound text pos captures

def Engine.MatchesAhead (engine : Engine) : Prop :=
  ∀ source text pos captures, IsBoundary pos text → engine.search source text pos = some captures →
    pos ≤ (wholeSpan captures).1 ∧ SpanWithin text (wholeSpan captures).1 (wholeSpan captures).2

theorem captures_sound_whole (text : List Char) (pos : Nat) (captures : Captures)
    (sound : CapturesSound text pos captures) :
    SpanWithin text (wholeSpan captures).1 (wholeSpan captures).2 := by
  obtain ⟨span, groups, rfl⟩ := sound.whole
  exact sound.spans span.1 span.2 (by simp)

theorem sound_matches_ahead (engine : Engine) (sound : engine.Sound) : engine.MatchesAhead := by
  intro source text pos captures boundary found
  have holds := sound source text pos captures boundary found
  exact ⟨holds.forward, captures_sound_whole text pos captures holds⟩

theorem captures_sound_group (text : List Char) (pos : Nat) (captures : Captures) (group start stop : Nat)
    (sound : CapturesSound text pos captures) (found : captures.getD group none = some (start, stop)) :
    SpanWithin text start stop := by
  apply sound.spans
  rw [List.getD_eq_getElem?_getD] at found
  cases entry : captures[group]? with
  | none => simp [entry] at found
  | some span =>
      have same : span = some (start, stop) := by simpa [entry] using found
      exact same ▸ List.mem_of_getElem? entry

theorem engine_find_sound (engine : Engine) (source : String) (anchors : Anchors) (text : List Char)
    (pos : Nat) (captures : Captures) (sound : engine.Sound) (boundary : IsBoundary pos text)
    (found : engine.find source anchors text pos = some captures) : CapturesSound text pos captures :=
  sound _ text pos captures boundary found

namespace Position

structure Within (text : List Char) (position : Position) : Prop where
  split : position.before.reverse ++ position.after = text
  offset : byteLength position.before.reverse = position.offset
  groups : ∀ start stop, some (start, stop) ∈ position.groups → SpanWithin text start stop

theorem within_boundary (text : List Char) (position : Position) (within : Within text position) :
    IsBoundary position.offset text := by
  rw [← within.split, ← within.offset]
  exact Text.is_boundary_split _ _

theorem advance_within (text : List Char) (position next : Position) (c : Char)
    (within : Within text position) (moved : position.advance = some (c, next)) :
    Within text next ∧ position.offset ≤ next.offset := by
  rw [advance] at moved
  split at moved
  · cases moved
  · rename_i d rest after
    cases moved
    refine ⟨⟨?_, ?_, within.groups⟩, by simp⟩
    · simpa [after] using within.split
    · simp [Text.byte_length_append, byteLength, ← within.offset]

theorem retreat_within (text : List Char) (count : Nat) (position earlier : Position)
    (within : Within text position) (moved : position.retreat count = some earlier) :
    Within text earlier := by
  induction count generalizing position with
  | zero => exact Option.some.inj moved ▸ within
  | succ count ih =>
      rw [retreat] at moved
      split at moved
      · cases moved
      · rename_i c rest before
        have offset := within.offset
        simp only [before, List.reverse_cons, Text.byte_length_append, byteLength] at offset
        have back : Within text ⟨rest, c :: position.after, position.offset - c.utf8Size, position.groups⟩ := by
          refine ⟨?_, ?_, within.groups⟩
          · simpa [before] using within.split
          · change byteLength rest.reverse = position.offset - c.utf8Size
            omega
        exact ih _ back moved

theorem advance_over_within (text : List Char) (same : Char → Char → Bool) (chars : List Char)
    (position after : Position) (within : Within text position)
    (moved : position.advanceOver same chars = some after) :
    Within text after ∧ position.offset ≤ after.offset := by
  induction chars generalizing position with
  | nil => exact Option.some.inj moved ▸ ⟨within, Nat.le_refl _⟩
  | cons c rest ih =>
      rw [advanceOver] at moved
      split at moved
      · cases moved
      · rename_i d next step
        obtain ⟨nextWithin, forward⟩ := advance_within text position next d within step
        split at moved
        · obtain ⟨afterWithin, further⟩ := ih next nextWithin moved
          exact ⟨afterWithin, Nat.le_trans forward further⟩
        · cases moved

theorem set_group_within (text : List Char) (position : Position) (index start : Nat)
    (within : Within text position) (boundary : IsBoundary start text) (ordered : start ≤ position.offset) :
    Within text (position.setGroup index start) := by
  refine ⟨within.split, within.offset, ?_⟩
  intro first last member
  rcases List.mem_or_eq_of_mem_set member with old | new
  · exact within.groups first last old
  · cases new
    exact ⟨ordered, boundary, within_boundary text position within⟩

end Position

open Position (Within)

-- A run hands on only positions of the text that lie at or after the one it starts from. Every node keeps this
-- whatever follows it, so look-arounds and loops need no separate treatment.
def RunSound (text : List Char) (run : Run) : Prop :=
  ∀ position next final, Within text position → run position next = some final →
    ∃ middle, Within text middle ∧ position.offset ≤ middle.offset ∧ next middle = some final

theorem run_sound_some (text : List Char) (run : Run) (position final : Position) (sound : RunSound text run)
    (within : Within text position) (result : run position some = some final) :
    Within text final ∧ position.offset ≤ final.offset := by
  obtain ⟨middle, middleWithin, forward, same⟩ := sound position some final within result
  cases same
  exact ⟨middleWithin, forward⟩

theorem run_char_sound (text : List Char) (accepts : Char → Bool) : RunSound text (runChar accepts) := by
  intro position next final within result
  rw [runChar] at result
  split at result
  · rename_i c after step
    obtain ⟨afterWithin, forward⟩ := Position.advance_within text position after c within step
    split at result
    · exact ⟨after, afterWithin, forward, result⟩
    · cases result
  · cases result

theorem run_times_sound (text : List Char) (body : Run) (count : Nat) (sound : RunSound text body) :
    RunSound text (runTimes body count) := by
  induction count with
  | zero => exact fun position next final within result => ⟨position, within, Nat.le_refl _, result⟩
  | succ count ih =>
      intro position next final within result
      obtain ⟨after, afterWithin, forward, rest⟩ := sound position _ final within result
      obtain ⟨middle, middleWithin, further, final⟩ := ih after next final afterWithin rest
      exact ⟨middle, middleWithin, Nat.le_trans forward further, final⟩

theorem run_again_sound (text : List Char) (body rest : Run) (position final : Position)
    (next : Position → Option Position) (sound : RunSound text body) (restSound : RunSound text rest)
    (within : Within text position)
    (result : body position (fun after =>
      if after.offset = position.offset then next after else rest after next) = some final) :
    ∃ middle, Within text middle ∧ position.offset ≤ middle.offset ∧ next middle = some final := by
  obtain ⟨after, afterWithin, forward, continued⟩ := sound position _ final within result
  split at continued
  · exact ⟨after, afterWithin, forward, continued⟩
  · obtain ⟨middle, middleWithin, further, last⟩ := restSound after next final afterWithin continued
    exact ⟨middle, middleWithin, Nat.le_trans forward further, last⟩

theorem run_many_sound (text : List Char) (body : Run) (count : Nat) (sound : RunSound text body) :
    RunSound text (runMany body count) := by
  induction count with
  | zero => exact fun position next final within result => ⟨position, within, Nat.le_refl _, result⟩
  | succ count ih =>
      intro position next final within result
      rw [runMany] at result
      split at result
      · rename_i found again
        cases result
        exact run_again_sound text body _ position final next sound ih within again
      · exact ⟨position, within, Nat.le_refl _, result⟩

theorem run_few_sound (text : List Char) (body : Run) (count : Nat) (sound : RunSound text body) :
    RunSound text (runFew body count) := by
  induction count with
  | zero => exact fun position next final within result => ⟨position, within, Nat.le_refl _, result⟩
  | succ count ih =>
      intro position next final within result
      rw [runFew] at result
      split at result
      · rename_i found stop
        cases result
        exact ⟨position, within, Nat.le_refl _, stop⟩
      · exact run_again_sound text body _ position final next sound ih within result

theorem run_loop_sound (text : List Char) (body : Run) (least : Nat) (most : Option Nat) (greed : Greed)
    (sound : RunSound text body) : RunSound text (runLoop body least most greed) := by
  intro position next final within result
  obtain ⟨middle, middleWithin, forward, rest⟩ :=
    run_times_sound text body least sound position _ final within result
  suffices ∃ last, Within text last ∧ middle.offset ≤ last.offset ∧ next last = some final by
    obtain ⟨last, lastWithin, further, done⟩ := this
    exact ⟨last, lastWithin, Nat.le_trans forward further, done⟩
  cases greed with
  | greedy => exact run_many_sound text body _ sound middle next final middleWithin rest
  | lazy => exact run_few_sound text body _ sound middle next final middleWithin rest
  | possessive =>
      dsimp only at rest
      split at rest
      · rename_i after many
        obtain ⟨afterWithin, further⟩ :=
          run_sound_some text _ middle after (run_many_sound text body _ sound) middleWithin many
        exact ⟨after, afterWithin, further, rest⟩
      · cases rest

theorem look_within (text : List Char) (position after : Position) (within : Within text position)
    (afterWithin : Within text after) : Within text { position with groups := after.groups } :=
  ⟨within.split, within.offset, afterWithin.groups⟩

theorem node_run_sound (text : List Char) (searchStart : Nat) (node : Node) :
    RunSound text (node.run text searchStart) := by
  induction node with
  | empty => exact fun position next final within result => ⟨position, within, Nat.le_refl _, result⟩
  | char c => exact run_char_sound text _
  | folded c => exact run_char_sound text _
  | set chars ignoreCase => exact run_char_sound text _
  | assertion condition =>
      intro position next final within result
      simp only [Node.run] at result
      split at result
      · exact ⟨position, within, Nat.le_refl _, result⟩
      · cases result
  | cat first second firstSound secondSound =>
      intro position next final within result
      obtain ⟨middle, middleWithin, forward, rest⟩ := firstSound position _ final within result
      obtain ⟨last, lastWithin, further, done⟩ := secondSound middle next final middleWithin rest
      exact ⟨last, lastWithin, Nat.le_trans forward further, done⟩
  | alt first second firstSound secondSound =>
      intro position next final within result
      simp only [Node.run] at result
      split at result
      · rename_i found taken
        cases result
        exact firstSound position next final within taken
      · exact secondSound position next final within result
  | group index named inner innerSound =>
      intro position next final within result
      obtain ⟨after, afterWithin, forward, rest⟩ := innerSound position _ final within result
      have boundary := Position.within_boundary text position within
      exact ⟨_, Position.set_group_within text after index position.offset afterWithin boundary forward,
        forward, rest⟩
  | loop least most greed inner innerSound => exact run_loop_sound text _ least most greed innerSound
  | atomic inner innerSound =>
      intro position next final within result
      simp only [Node.run] at result
      split at result
      · rename_i after found
        obtain ⟨afterWithin, forward⟩ := run_sound_some text _ position after innerSound within found
        exact ⟨after, afterWithin, forward, result⟩
      · cases result
  | ahead negative inner innerSound =>
      intro position next final within result
      simp only [Node.run] at result
      split at result
      · rename_i after found
        obtain ⟨afterWithin, _⟩ := run_sound_some text _ position after innerSound within found
        exact ⟨_, look_within text position after within afterWithin, Nat.le_refl _, result⟩
      · exact ⟨position, within, Nat.le_refl _, result⟩
      · cases result
  | behind negative width inner innerSound =>
      intro position next final within result
      simp only [Node.run] at result
      split at result
      · rename_i after found
        obtain ⟨before, moved, inside⟩ := Option.bind_eq_some_iff.mp found
        have beforeWithin := Position.retreat_within text width position before within moved
        obtain ⟨last, lastWithin, _, arrived⟩ := innerSound before _ after beforeWithin inside
        have same : last = after := by
          split at arrived
          · exact Option.some.inj arrived
          · cases arrived
        exact ⟨_, look_within text position after within (same ▸ lastWithin), Nat.le_refl _, result⟩
      · exact ⟨position, within, Nat.le_refl _, result⟩
      · cases result
  | reference indices named ignoreCase =>
      intro position next final within result
      simp only [Node.run] at result
      split at result
      · cases result
      · split at result
        · rename_i after moved
          obtain ⟨afterWithin, forward⟩ :=
            Position.advance_over_within text _ _ position after within moved
          exact ⟨after, afterWithin, forward, result⟩
        · cases result

theorem match_at_sound (program : Program) (text : List Char) (searchStart : Nat) (position : Position)
    (captures : Captures) (within : Within text position)
    (found : program.matchAt text searchStart position = some captures) :
    CapturesSound text position.offset captures := by
  obtain ⟨final, result, rfl⟩ := Option.map_eq_some_iff.mp found
  obtain ⟨finalWithin, forward⟩ :=
    run_sound_some text _ position final (node_run_sound text searchStart program.node) within result
  refine ⟨⟨_, _, rfl⟩, Nat.le_refl _, ?_⟩
  intro start stop member
  rcases List.mem_cons.mp member with head | tail
  · cases head
    exact ⟨forward, Position.within_boundary text position within, Position.within_boundary text final finalWithin⟩
  · exact finalWithin.groups start stop tail

theorem match_from_sound (program : Program) (text : List Char) (searchStart : Nat)
    (before after : List Char) (offset : Nat) (captures : Captures) (split : before.reverse ++ after = text)
    (atOffset : byteLength before.reverse = offset)
    (found : program.matchFrom text searchStart before after offset = some captures) :
    CapturesSound text offset captures := by
  induction after generalizing before offset with
  | nil =>
      rw [Program.matchFrom] at found
      split at found
      · rename_i here
        cases found
        exact match_at_sound program text searchStart _ captures ⟨split, atOffset, by simp⟩ here
      · cases found
  | cons c rest ih =>
      rw [Program.matchFrom] at found
      split at found
      · rename_i here
        cases found
        exact match_at_sound program text searchStart _ captures ⟨split, atOffset, by simp⟩ here
      · have later := ih (c :: before) (offset + c.utf8Size) (by simpa using split)
          (by simp [Text.byte_length_append, byteLength, atOffset]) found
        exact ⟨later.whole, Nat.le_trans (by omega) later.forward, later.spans⟩

theorem backtracking_sound : Engine.backtracking.Sound := by
  intro source text pos captures boundary found
  simp only [Engine.backtracking] at found
  split at found
  · rename_i program read
    rw [Program.search, if_pos (Text.is_boundary_le boundary)] at found
    refine match_from_sound program text pos _ _ pos captures ?_ ?_ found
    · simpa using Text.take_bytes_append_drop_bytes boundary
    · simpa using Text.byte_length_take_bytes boundary
  · cases found

end LineScope.Pattern
