import LineScope.Line.Scan

/-!
The scopes inside a match. Its groups are taken by their numbers: each is open from where it starts,
and text is covered when the next group starts or an open one ends, under the scopes of the innermost
group that is open. Where the groups are nested by position as by number, this comes to the names of
all the groups around a byte, from the outside in.
-/

set_option autoImplicit false

namespace LineScope

def Token.covers (token : Token) (byte : Nat) : Bool := token.start ≤ byte && byte < token.stop

namespace Line

section Tables

theorem put_above (floor group : Nat) (rule : Grammar.CaptureRule) (table : Grammar.CaptureTable) (below : floor < group)
    (above : ∀ entry ∈ table, floor < entry.1) : ∀ entry ∈ table.put group rule, floor < entry.1 := by
  induction table with
  | nil => simp [Grammar.CaptureTable.put, below]
  | cons first rest ih =>
      obtain ⟨here, others⟩ := List.forall_mem_cons.mp above
      rw [Grammar.CaptureTable.put]
      split
      · exact List.forall_mem_cons.mpr ⟨below, above⟩
      · split
        · exact List.forall_mem_cons.mpr ⟨below, others⟩
        · exact List.forall_mem_cons.mpr ⟨here, ih others⟩

theorem put_ascending (group : Nat) (rule : Grammar.CaptureRule) (table : Grammar.CaptureTable)
    (ascending : table.Pairwise fun entry later => entry.1 < later.1) :
    (table.put group rule).Pairwise fun entry later => entry.1 < later.1 := by
  induction table with
  | nil => simp [Grammar.CaptureTable.put]
  | cons first rest ih =>
      obtain ⟨least, ascends⟩ := List.pairwise_cons.mp ascending
      rw [Grammar.CaptureTable.put]
      split
      · rename_i less
        refine List.pairwise_cons.mpr ⟨List.forall_mem_cons.mpr ⟨less, fun entry member => ?_⟩, ascending⟩
        exact Nat.lt_trans less (least entry member)
      · split
        · rename_i same
          exact List.pairwise_cons.mpr ⟨same ▸ least, ascends⟩
        · exact List.pairwise_cons.mpr ⟨put_above first.1 group rule rest (by omega) least, ih ascends⟩

end Tables

section Painting

theorem produce_last_end (output : Output) (scopes : ScopeList) (stop : Nat) :
    (output.produce scopes stop).lastEnd = max output.lastEnd stop := by
  rw [Output.produce]
  split
  · omega
  · dsimp only
    omega

-- What is produced from `before` on has the scopes that `scopesAt` gives to each byte.
inductive Painted (scopesAt : Nat → ScopeList) (before : Output) : Output → Prop
  | nothing : Painted scopesAt before before
  | produced (after : Output) (scopes : ScopeList) (stop : Nat) (earlier : Painted scopesAt before after)
      (same : ∀ byte, after.lastEnd ≤ byte → byte < stop → scopesAt byte = scopes) :
      Painted scopesAt before (after.produce scopes stop)

variable {scopesAt other : Nat → ScopeList} {before middle after : Output}

theorem painted_ordered (painted : Painted scopesAt before after) : before.lastEnd ≤ after.lastEnd := by
  induction painted with
  | nothing => exact Nat.le_refl _
  | produced middle scopes stop _ _ ih =>
      rw [produce_last_end]
      omega

theorem painted_trans (first : Painted scopesAt before middle) (second : Painted scopesAt middle after) :
    Painted scopesAt before after := by
  induction second with
  | nothing => exact first
  | produced between scopes stop _ same ih => exact .produced between scopes stop ih same

theorem painted_congr (painted : Painted scopesAt before after)
    (same : ∀ byte, before.lastEnd ≤ byte → byte < after.lastEnd → scopesAt byte = other byte) :
    Painted other before after := by
  induction painted with
  | nothing => exact .nothing
  | produced middle scopes stop earlier here ih =>
      rw [produce_last_end] at same
      have ordered := painted_ordered earlier
      refine .produced middle scopes stop (ih fun byte above below => same byte above (by omega)) ?_
      intro byte above below
      rw [← same byte (by omega) (by omega), here byte above below]

theorem painted_tokens (painted : Painted scopesAt before after) :
    ∃ added, after.tokens = added ++ before.tokens ∧
      (∀ token ∈ added, before.lastEnd ≤ token.start ∧ token.stop ≤ after.lastEnd) ∧
      ∀ byte, before.lastEnd ≤ byte → byte < after.lastEnd →
        ∃ token, added.filter (·.covers byte) = [token] ∧ token.scopes = scopesAt byte := by
  induction painted with
  | nothing => exact ⟨[], rfl, by simp, fun byte above below => absurd below (Nat.not_lt.mpr above)⟩
  | produced middle scopes stop earlier same ih =>
      obtain ⟨added, tokens, inside, single⟩ := ih
      have ordered := painted_ordered earlier
      rw [Output.produce]
      split
      · exact ⟨added, tokens, inside, single⟩
      · rename_i further
        refine ⟨⟨middle.lastEnd, stop, scopes⟩ :: added, congrArg (List.cons _) tokens, ?_, ?_⟩
        · intro token member
          rcases List.mem_cons.mp member with rfl | older
          · exact ⟨ordered, Nat.le_refl stop⟩
          · have bounds := inside token older
            dsimp only
            omega
        · intro byte above below
          by_cases new : middle.lastEnd ≤ byte
          · have covered : Token.covers ⟨middle.lastEnd, stop, scopes⟩ byte = true := by simp [Token.covers, new, below]
            have nothing : added.filter (·.covers byte) = [] := by
              refine List.filter_eq_nil_iff.mpr fun token member => ?_
              have bounds := inside token member
              simp only [Token.covers, Bool.and_eq_true, decide_eq_true_eq]
              omega
            refine ⟨⟨middle.lastEnd, stop, scopes⟩, ?_, (same byte new below).symm⟩
            simp only [List.filter_cons, covered, nothing, if_true]
          · have uncovered : Token.covers ⟨middle.lastEnd, stop, scopes⟩ byte = false := by simp [Token.covers, new]
            simp only [List.filter_cons, uncovered, Bool.false_eq_true, if_false]
            exact single byte above (Nat.lt_of_not_le new)

end Painting

section Steps

variable (retokenize : Retokenizer) (groups : Groups)

def arriveAt (start : Nat) (state : OpenGroups × Output) : OpenGroups × Output :=
  let closed := closeBefore start state.1 state.2
  (closed.1, closed.2.produce (innermost closed.1 groups.stack.top.contentScopes) start)

def openGroup (rule : Grammar.CaptureRule) (stop : Nat) (opened : OpenGroups) : OpenGroups :=
  match rule.name with
  | none => opened
  | some name =>
    ((innermost opened groups.stack.top.contentScopes).pushName
      (Pattern.resolveName name groups.text groups.captures), stop) :: opened

def groupStep (state : OpenGroups × Output) (entry : Nat × Grammar.CaptureRule) : OpenGroups × Output :=
  match groups.captures.getD entry.1 none with
  | none => state
  | some (start, stop) =>
    if start = stop then state
    else
      let arrived := arriveAt groups start state
      match entry.2.retokenize with
      | some id =>
        (arrived.1, retokenize (Text.takeBytes stop groups.text) start (groups.firstLine && start = 0)
          (groups.stack.push (groups.frame entry.2 id start)) arrived.2)
      | none => (openGroup groups entry.2 stop arrived.1, arrived.2)

-- A group that takes text after the match has ended, as a lookahead can make it.
def Groups.Beyond (group : Nat) : Prop :=
  ∃ start stop, groups.captures.getD group none = some (start, stop) ∧ start ≠ stop ∧
    (Pattern.wholeSpan groups.captures).2 < start

variable (entry : Nat × Grammar.CaptureRule) (rest earlier : Grammar.CaptureTable) (state : OpenGroups × Output)

theorem scan_groups_step (inside : ¬ groups.Beyond entry.1) :
    scanGroups retokenize groups (entry :: rest) state.1 state.2 =
      scanGroups retokenize groups rest (groupStep retokenize groups state entry).1
        (groupStep retokenize groups state entry).2 := by
  obtain ⟨group, rule⟩ := entry
  rw [scanGroups]
  dsimp only [groupStep]
  cases span : groups.captures.getD group none with
  | none => rfl
  | some found =>
      obtain ⟨start, stop⟩ := found
      dsimp only
      by_cases empty : start = stop
      · rw [if_pos empty, if_pos empty]
      · have notBeyond : ¬ (Pattern.wholeSpan groups.captures).2 < start := fun beyond =>
          inside ⟨start, stop, span, empty, beyond⟩
        rw [if_neg empty, if_neg empty, if_neg notBeyond]
        cases rule.retokenize with
        | some id => dsimp only [arriveAt]
        | none => cases name : rule.name <;> simp [arriveAt, openGroup, name]

theorem scan_groups_beyond (beyond : groups.Beyond entry.1) :
    scanGroups retokenize groups (entry :: rest) state.1 state.2 = closeAll state.1 state.2 := by
  obtain ⟨group, rule⟩ := entry
  obtain ⟨start, stop, found, proper, after⟩ := beyond
  rw [scanGroups, found]
  dsimp only
  rw [if_neg proper, if_pos after]

theorem scan_groups_append (later : Grammar.CaptureTable) (inside : ∀ entry ∈ earlier, ¬ groups.Beyond entry.1) :
    scanGroups retokenize groups (earlier ++ later) state.1 state.2 =
      scanGroups retokenize groups later (earlier.foldl (groupStep retokenize groups) state).1
        (earlier.foldl (groupStep retokenize groups) state).2 := by
  induction earlier generalizing state with
  | nil => rfl
  | cons entry others ih =>
      obtain ⟨here, following⟩ := List.forall_mem_cons.mp inside
      rw [List.cons_append, scan_groups_step retokenize groups entry _ state here, ih _ following, List.foldl_cons]

theorem scan_groups_cut (cut : ∃ other ∈ earlier ++ [entry], groups.Beyond other.1) :
    scanGroups retokenize groups (earlier ++ entry :: rest) state.1 state.2 =
      scanGroups retokenize groups earlier state.1 state.2 := by
  induction earlier generalizing state with
  | nil =>
      obtain ⟨other, member, beyond⟩ := cut
      cases List.mem_singleton.mp member
      exact scan_groups_beyond retokenize groups entry rest state beyond
  | cons first others ih =>
      rw [List.cons_append]
      by_cases beyond : groups.Beyond first.1
      · rw [scan_groups_beyond retokenize groups first _ state beyond,
          scan_groups_beyond retokenize groups first others state beyond]
      · have further : ∃ other ∈ others ++ [entry], groups.Beyond other.1 := by
          obtain ⟨other, member, isBeyond⟩ := cut
          rcases List.mem_cons.mp member with rfl | later
          · exact absurd isBeyond beyond
          · exact ⟨other, later, isBeyond⟩
        rw [scan_groups_step retokenize groups first _ state beyond, ih _ further,
          ← scan_groups_step retokenize groups first others state beyond]

theorem close_before_open (start : Nat) (opened : OpenGroups) (output : Output) :
    (closeBefore start opened output).1 = opened.dropWhile fun group => group.2 ≤ start := by
  induction opened generalizing output with
  | nil => rfl
  | cons group outer ih =>
      rw [closeBefore, List.dropWhile_cons]
      by_cases closes : group.2 ≤ start
      · rw [if_pos closes, if_pos (by simpa using closes), ih]
      · rw [if_neg closes, if_neg (by simpa using closes)]

theorem arrived_open (start : Nat) :
    (arriveAt groups start state).1 = state.1.dropWhile fun group => group.2 ≤ start :=
  close_before_open start state.1 state.2

end Steps

section Within

-- The scopes of the innermost of the open groups that a byte is in.
def scopesWithin (base : ScopeList) : OpenGroups → Nat → ScopeList
  | [], _ => base
  | (scopes, stop) :: outer, byte => if byte < stop then scopes else scopesWithin base outer byte

variable (base : ScopeList)

theorem painted_closing (scopes : ScopeList) (stop : Nat) (outer : OpenGroups) (output after : Output)
    (rest : Painted (scopesWithin base outer) (output.produce scopes stop) after) :
    Painted (scopesWithin base ((scopes, stop) :: outer)) output after := by
  have closed : Painted (scopesWithin base ((scopes, stop) :: outer)) output (output.produce scopes stop) :=
    .produced output scopes stop .nothing fun byte _ below => by rw [scopesWithin, if_pos below]
  refine painted_trans closed (painted_congr rest fun byte above _ => ?_)
  rw [produce_last_end] at above
  rw [scopesWithin, if_neg (by omega)]

theorem close_before_painted (start : Nat) (opened : OpenGroups) (output : Output) :
    Painted (scopesWithin base opened) output
      ((closeBefore start opened output).2.produce (innermost (closeBefore start opened output).1 base) start) := by
  induction opened generalizing output with
  | nil => exact .produced output base start .nothing fun _ _ _ => rfl
  | cons group outer ih =>
      obtain ⟨scopes, stop⟩ := group
      rw [closeBefore]
      by_cases closes : stop ≤ start
      · rw [if_pos closes]
        exact painted_closing base scopes stop outer output _ (ih _)
      · rw [if_neg closes]
        refine .produced output scopes start .nothing fun byte _ below => ?_
        rw [scopesWithin, if_pos (by omega)]

theorem close_all_painted (stop : Nat) (opened : OpenGroups) (output : Output) :
    Painted (scopesWithin base opened) output ((closeAll opened output).produce base stop) := by
  induction opened generalizing output with
  | nil => exact .produced output base stop .nothing fun _ _ _ => rfl
  | cons group outer ih => exact painted_closing base group.1 group.2 outer output _ (ih _)

theorem close_before_last_end (start : Nat) (opened : OpenGroups) (output : Output) (scopes : ScopeList) :
    ((closeBefore start opened output).2.produce scopes start).lastEnd = max output.lastEnd start := by
  induction opened generalizing output with
  | nil => exact produce_last_end output scopes start
  | cons group outer ih =>
      rw [closeBefore]
      by_cases closes : group.2 ≤ start
      · rw [if_pos closes, ih, produce_last_end]
        omega
      · rw [if_neg closes, produce_last_end]

theorem close_all_last_end (stop : Nat) (opened : OpenGroups) (output : Output)
    (ends : ∀ group ∈ opened, group.2 ≤ stop) (scopes : ScopeList) :
    ((closeAll opened output).produce scopes stop).lastEnd = max output.lastEnd stop := by
  induction opened generalizing output with
  | nil => exact produce_last_end output scopes stop
  | cons group outer ih =>
      obtain ⟨here, others⟩ := List.forall_mem_cons.mp ends
      rw [closeAll, ih _ others, produce_last_end]
      omega

theorem scopes_within_open (start byte : Nat) (opened : OpenGroups) (reached : start ≤ byte) :
    scopesWithin base (opened.dropWhile fun group => group.2 ≤ start) byte = scopesWithin base opened byte := by
  induction opened with
  | nil => rfl
  | cons group outer ih =>
      rw [List.dropWhile_cons]
      by_cases closes : group.2 ≤ start
      · rw [if_pos (by simpa using closes), ih, scopesWithin, if_neg (by omega)]
      · rw [if_neg (by simpa using closes)]

theorem innermost_within (byte : Nat) (opened : OpenGroups) (inside : ∀ group ∈ opened.head?, byte < group.2) :
    innermost opened base = scopesWithin base opened byte := by
  cases opened with
  | nil => rfl
  | cons group outer => rw [innermost, scopesWithin, if_pos (inside group rfl)]

end Within

section Names

variable (groups : Groups)

def Groups.holds (byte group : Nat) : Bool :=
  match groups.captures.getD group none with
  | none => false
  | some (start, stop) => start ≤ byte && byte < stop

-- The scopes that the names of the groups around a byte stand for, by ascending number.
def Groups.namesAt (table : Grammar.CaptureTable) (byte : Nat) : ScopeList :=
  (table.filter fun entry => groups.holds byte entry.1).flatMap fun entry =>
    pushResolved [] entry.2.name groups.text groups.captures

def Groups.Takes (group start stop : Nat) : Prop :=
  groups.captures.getD group none = some (start, stop) ∧ start < stop

structure Groups.Nested (start stop : Nat) : Prop where
  whole : groups.captures.getD 0 none = some (start, stop)
  inside : ∀ group first last, groups.captures.getD group none = some (first, last) →
    start ≤ first ∧ first ≤ last ∧ last ≤ stop
  nested : ∀ outer inner, outer < inner → ∀ first last start stop, groups.Takes outer first last →
    groups.Takes inner start stop → first ≤ start ∧ stop ≤ last ∨ last ≤ start

variable {groups} {start stop : Nat}

theorem nested_not_beyond (nested : groups.Nested start stop) (group : Nat) : ¬ groups.Beyond group := by
  rintro ⟨first, last, found, _, beyond⟩
  obtain ⟨_, ordered, within⟩ := nested.inside group first last found
  have whole : Pattern.wholeSpan groups.captures = (start, stop) := by
    have found := nested.whole
    cases spans : groups.captures with
    | nil => simp [spans] at found
    | cons span others =>
        rw [spans, List.getD_cons_zero] at found
        rw [found]
        rfl
  rw [whole] at beyond
  omega

theorem holds_iff (byte group : Nat) :
    groups.holds byte group = true ↔ ∃ first last, groups.Takes group first last ∧ first ≤ byte ∧ byte < last := by
  rw [Groups.holds]
  cases found : groups.captures.getD group none with
  | none =>
      refine ⟨fun holds => absurd holds Bool.false_ne_true, ?_⟩
      rintro ⟨first, last, ⟨other, _⟩, _⟩
      cases found.symm.trans other
  | some span =>
      obtain ⟨first, last⟩ := span
      simp only [Bool.and_eq_true, decide_eq_true_eq]
      constructor
      · rintro ⟨above, below⟩
        exact ⟨first, last, ⟨found, by omega⟩, above, below⟩
      · rintro ⟨_, _, ⟨other, _⟩, above, below⟩
        cases found.symm.trans other
        exact ⟨above, below⟩

theorem holds_taken (byte group first last : Nat) (takes : groups.Takes group first last) (reached : first ≤ byte) :
    groups.holds byte group = decide (byte < last) := by
  rw [Groups.holds, takes.1]
  simp [reached]

theorem push_resolved_append (scopes : ScopeList) (name : Option String) (text : List Char)
    (captures : Pattern.Captures) :
    pushResolved scopes name text captures = scopes ++ pushResolved [] name text captures := by
  cases name with
  | none => exact (List.append_nil scopes).symm
  | some name => simp [pushResolved, ScopeList.pushName]

theorem names_at_cons (entry : Nat × Grammar.CaptureRule) (rest : Grammar.CaptureTable) (byte : Nat) :
    groups.namesAt (entry :: rest) byte =
      (if groups.holds byte entry.1 then pushResolved [] entry.2.name groups.text groups.captures else []) ++
        groups.namesAt rest byte := by
  rw [Groups.namesAt, Groups.namesAt, List.filter_cons]
  split
  · rw [List.flatMap_cons]
  · rw [List.nil_append]

theorem names_at_before (table : Grammar.CaptureTable) (byte : Nat)
    (before : ∀ entry ∈ table, ∀ first last, groups.Takes entry.1 first last → byte < first) :
    groups.namesAt table byte = [] := by
  rw [Groups.namesAt, List.filter_eq_nil_iff.mpr, List.flatMap_nil]
  intro entry member holds
  obtain ⟨first, last, takes, above, _⟩ := (holds_iff byte entry.1).mp holds
  have below := before entry member first last takes
  omega

variable (retokenize : Retokenizer)

-- The scopes that a byte is going to have, from the groups that are open and those to come.
def Groups.shown (groups : Groups) (table : Grammar.CaptureTable) (opened : OpenGroups) (byte : Nat) : ScopeList :=
  scopesWithin groups.stack.top.contentScopes opened byte ++ groups.namesAt table byte

-- A state before the groups of `table`. Each of them lies inside an open group or after it.
structure Ready (groups : Groups) (stop : Nat) (table : Grammar.CaptureTable) (state : OpenGroups × Output) : Prop where
  ahead : ∀ entry ∈ table, ∀ first last, groups.Takes entry.1 first last → state.2.lastEnd ≤ first
  apart : ∀ entry ∈ table, ∀ first last, groups.Takes entry.1 first last →
    ∀ group ∈ state.1, last ≤ group.2 ∨ group.2 ≤ first
  ends : ∀ group ∈ state.1, group.2 ≤ stop
  inside : state.2.lastEnd ≤ stop

inductive GroupStep (groups : Groups) (entry : Nat × Grammar.CaptureRule) (state : OpenGroups × Output) :
    OpenGroups × Output → Prop
  | passed (empty : ∀ first last, ¬ groups.Takes entry.1 first last) : GroupStep groups entry state state
  | taken (first last : Nat) (takes : groups.Takes entry.1 first last) :
      GroupStep groups entry state
        (openGroup groups entry.2 last (arriveAt groups first state).1, (arriveAt groups first state).2)

theorem group_step_cases (nested : groups.Nested start stop) (entry : Nat × Grammar.CaptureRule)
    (plain : entry.2.retokenize = none) (state : OpenGroups × Output) :
    GroupStep groups entry state (groupStep retokenize groups state entry) := by
  rw [groupStep]
  cases found : groups.captures.getD entry.1 none with
  | none =>
      refine .passed fun first last takes => ?_
      cases found.symm.trans takes.1
  | some span =>
      obtain ⟨first, last⟩ := span
      dsimp only
      by_cases empty : first = last
      · rw [if_pos empty]
        refine .passed fun other limit takes => ?_
        cases found.symm.trans takes.1
        exact absurd takes.2 (by omega)
      · rw [if_neg empty, plain]
        obtain ⟨_, ordered, _⟩ := nested.inside entry.1 first last found
        exact .taken first last ⟨found, by omega⟩

theorem open_group_within (rule : Grammar.CaptureRule) (last byte : Nat) (opened : OpenGroups)
    (inside : byte < last → ∀ group ∈ opened.head?, byte < group.2) :
    scopesWithin groups.stack.top.contentScopes (openGroup groups rule last opened) byte =
      scopesWithin groups.stack.top.contentScopes opened byte ++
        if byte < last then pushResolved [] rule.name groups.text groups.captures else [] := by
  rw [openGroup]
  cases name : rule.name with
  | none => simp [pushResolved]
  | some name =>
      dsimp only
      rw [scopesWithin]
      by_cases below : byte < last
      · rw [if_pos below, if_pos below, innermost_within _ byte opened (inside below)]
        simp [pushResolved, ScopeList.pushName]
      · rw [if_neg below, if_neg below, List.append_nil]

section Step

variable (entry : Nat × Grammar.CaptureRule) (rest : Grammar.CaptureTable) (state : OpenGroups × Output)
  (first last : Nat)

theorem group_step_shown (byte : Nat) (ready : Ready groups stop (entry :: rest) state)
    (takes : groups.Takes entry.1 first last) (reached : first ≤ byte) :
    groups.shown rest (openGroup groups entry.2 last (arriveAt groups first state).1) byte =
      groups.shown (entry :: rest) state.1 byte := by
  have remaining := arrived_open groups state first
  have around : byte < last → ∀ group ∈ (arriveAt groups first state).1.head?, byte < group.2 := by
    intro below group isHead
    have listed : group ∈ state.1 :=
      (List.dropWhile_suffix _).subset (remaining ▸ List.mem_of_mem_head? isHead)
    have stillOpen : ¬ group.2 ≤ first := by
      have head := List.head?_dropWhile_not (fun group : ScopeList × Nat => decide (group.2 ≤ first)) state.1
      rw [← remaining, Option.mem_def.mp isHead] at head
      simpa using head
    have apart := ready.apart entry (by simp) first last takes group listed
    omega
  rw [Groups.shown, Groups.shown, open_group_within entry.2 last byte _ around, remaining,
    scopes_within_open _ first byte state.1 reached, names_at_cons, holds_taken byte entry.1 first last takes reached,
    List.append_assoc]
  simp only [decide_eq_true_eq]

theorem arrived_last_end (ready : Ready groups stop (entry :: rest) state) (takes : groups.Takes entry.1 first last) :
    (arriveAt groups first state).2.lastEnd = first := by
  have ahead := ready.ahead entry (by simp) first last takes
  rw [arriveAt, close_before_last_end]
  omega

theorem open_group_member (opened : OpenGroups) (group : ScopeList × Nat)
    (member : group ∈ openGroup groups entry.2 last opened) : group.2 = last ∨ group ∈ opened := by
  rw [openGroup] at member
  cases name : entry.2.name with
  | none =>
      rw [name] at member
      exact .inr member
  | some name' =>
      rw [name] at member
      rcases List.mem_cons.mp member with rfl | older
      · exact .inl rfl
      · exact .inr older

theorem group_step_ready (nested : groups.Nested start stop) (ready : Ready groups stop (entry :: rest) state)
    (below : ∀ other ∈ rest, entry.1 < other.1) (takes : groups.Takes entry.1 first last) :
    Ready groups stop rest
      (openGroup groups entry.2 last (arriveAt groups first state).1, (arriveAt groups first state).2) := by
  have reached := arrived_last_end entry rest state first last ready takes
  have bounds := nested.inside entry.1 first last takes.1
  have proper := takes.2
  have remaining : ∀ group ∈ (arriveAt groups first state).1, group ∈ state.1 := by
    rw [arrived_open]
    exact fun group member => (List.dropWhile_suffix _).subset member
  have after : ∀ other ∈ rest, ∀ opens closes, groups.Takes other.1 opens closes →
      first ≤ opens ∧ closes ≤ last ∨ last ≤ opens := fun other member opens closes =>
    nested.nested entry.1 other.1 (below other member) first last opens closes takes
  constructor
  · intro other member opens closes inner
    have beyond := after other member opens closes inner
    dsimp only
    omega
  · intro other member opens closes inner group isOpen
    rcases open_group_member entry last _ group isOpen with new | older
    · have beyond := after other member opens closes inner
      omega
    · exact ready.apart other (List.mem_cons_of_mem _ member) opens closes inner group (remaining group older)
  · intro group isOpen
    rcases open_group_member entry last _ group isOpen with new | older
    · omega
    · exact ready.ends group (remaining group older)
  · dsimp only
    omega

theorem group_step_painted (nested : groups.Nested start stop) (plain : entry.2.retokenize = none)
    (ready : Ready groups stop (entry :: rest) state) (below : ∀ other ∈ rest, entry.1 < other.1) :
    let after := groupStep retokenize groups state entry
    Painted (groups.shown (entry :: rest) state.1) state.2 after.2 ∧ Ready groups stop rest after ∧
      ∀ byte, after.2.lastEnd ≤ byte → groups.shown rest after.1 byte = groups.shown (entry :: rest) state.1 byte := by
  intro after
  have step : GroupStep groups entry state after := group_step_cases retokenize nested entry plain state
  generalize after = result at step ⊢
  cases step with
  | passed empty =>
      have later : ∀ other ∈ rest, other ∈ entry :: rest := fun other member => List.mem_cons_of_mem _ member
      refine ⟨.nothing, ⟨fun other member => ready.ahead other (later other member),
        fun other member => ready.apart other (later other member), ready.ends, ready.inside⟩, fun byte _ => ?_⟩
      have unheld : ¬ groups.holds byte entry.1 = true := by
        rw [holds_iff]
        rintro ⟨first, last, takes, _⟩
        exact empty first last takes
      rw [Groups.shown, Groups.shown, names_at_cons, if_neg unheld, List.nil_append]
  | taken first last takes =>
      have reached := arrived_last_end entry rest state first last ready takes
      refine ⟨?_, group_step_ready entry rest state first last nested ready below takes, fun byte above =>
        group_step_shown entry rest state first last byte ready takes (reached ▸ above)⟩
      have painted : Painted (scopesWithin groups.stack.top.contentScopes state.1) state.2 (arriveAt groups first state).2 :=
        close_before_painted _ first state.1 state.2
      refine painted_congr painted fun byte _ before => ?_
      rw [reached] at before
      have later : groups.namesAt (entry :: rest) byte = [] := by
        refine names_at_before _ byte (List.forall_mem_cons.mpr ⟨?_, ?_⟩)
        · intro opens closes same
          cases takes.1.symm.trans same.1
          exact before
        · intro other member opens closes inner
          have beyond := nested.nested entry.1 other.1 (below other member) first last opens closes takes inner
          have proper := takes.2
          omega
      rw [Groups.shown, later, List.append_nil]

end Step

theorem scan_groups_painted (table : Grammar.CaptureTable) (state : OpenGroups × Output)
    (nested : groups.Nested start stop) (ascending : table.Pairwise fun entry later => entry.1 < later.1)
    (plain : ∀ entry ∈ table, entry.2.retokenize = none) (ready : Ready groups stop table state) :
    let final := (scanGroups retokenize groups table state.1 state.2).produce groups.stack.top.contentScopes stop
    Painted (groups.shown table state.1) state.2 final ∧ final.lastEnd = stop := by
  -- What is open before each of the groups is as it should be.
  induction table generalizing state with
  | nil =>
      refine ⟨?_, ?_⟩
      · refine painted_congr (close_all_painted groups.stack.top.contentScopes stop state.1 state.2) fun byte _ _ => ?_
        rw [Groups.shown, Groups.namesAt, List.filter_nil, List.flatMap_nil, List.append_nil]
      · rw [scanGroups, close_all_last_end stop state.1 state.2 ready.ends]
        exact Nat.max_eq_right ready.inside
  | cons entry rest ih =>
      obtain ⟨below, ascends⟩ := List.pairwise_cons.mp ascending
      obtain ⟨here, others⟩ := List.forall_mem_cons.mp plain
      obtain ⟨painted, onward, same⟩ := group_step_painted retokenize entry rest state nested here ready below
      obtain ⟨rests, ends⟩ := ih _ ascends others onward
      rw [scan_groups_step retokenize groups entry rest state (nested_not_beyond nested entry.1)]
      exact ⟨painted_trans painted (painted_congr rests fun byte above _ => same byte above), ends⟩

theorem group_scopes_exact (table : Grammar.CaptureTable) (output : Output)
    (nested : groups.Nested start stop) (ascending : table.Pairwise fun entry later => entry.1 < later.1)
    (plain : ∀ entry ∈ table, entry.2.retokenize = none) (atStart : output.lastEnd = start) :
    let final := (handleCaptures retokenize groups table output).produce groups.stack.top.contentScopes stop
    final.lastEnd = stop ∧
      ∃ added, final.tokens = added ++ output.tokens ∧ (∀ token ∈ added, start ≤ token.start ∧ token.stop ≤ stop) ∧
        ∀ byte, start ≤ byte → byte < stop →
          ∃ token, added.filter (·.covers byte) = [token] ∧
            token.scopes = groups.stack.top.contentScopes ++ groups.namesAt table byte := by
  intro final
  have ready : Ready groups stop table ([], output) := by
    refine ⟨fun entry _ first last takes => ?_, by simp, by simp, ?_⟩
    · exact atStart ▸ (nested.inside entry.1 first last takes.1).1
    · exact atStart ▸ (nested.inside 0 start stop nested.whole).2.1
  obtain ⟨painted, ends⟩ := scan_groups_painted retokenize table ([], output) nested ascending plain ready
  obtain ⟨added, tokens, inside, single⟩ := painted_tokens painted
  rw [ends, atStart] at inside single
  exact ⟨ends, added, tokens, inside, single⟩

theorem nested_groups_scopes :
    let groups : Groups := ⟨['a', 'b'], true, .root default, [some (0, 2), some (0, 2), some (0, 1)]⟩
    let table := Grammar.CaptureTable.put 2 ⟨some "in $2", none, none⟩ [(1, ⟨some "outer", none, none⟩)]
    let final := (handleCaptures (fun _ _ _ _ output => output) groups table { memory := {} }).produce [""] 2
    final.tokens = [⟨1, 2, ["", "outer"]⟩, ⟨0, 1, ["", "outer", "in", "a"]⟩] ∧
      ∃ token, final.tokens.filter (·.covers 0) = [token] ∧ token.scopes = [""] ++ groups.namesAt table 0 := by
  intro groups table final
  have nested : groups.Nested 0 2 := by
    constructor
    · rfl
    · rintro (_ | _ | _ | group) first last found <;> cases found <;> decide
    · rintro (_ | _ | _ | outer) (_ | _ | _ | inner) less first last start stop ⟨⟨⟩, _⟩ ⟨⟨⟩, _⟩ <;> omega
  obtain ⟨_, added, tokens, _, single⟩ := group_scopes_exact (fun _ _ _ _ output => output) table { memory := {} }
    nested (put_ascending _ _ _ (List.pairwise_singleton _ _)) (by decide) rfl
  refine ⟨by decide +kernel, ?_⟩
  rw [show final.tokens = added from tokens.trans (List.append_nil added)]
  exact single 0 (by decide) (by decide)

end Names

end Line

end LineScope
