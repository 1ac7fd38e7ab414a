import LineScope.Proofs.Grammar.Following
import LineScope.Proofs.Line.GroupScopes

/-!
What can end a compilation early. A rule is put at a place that was taken for it before, and the array
only grows, so that no rule is put outside of it. The slots of captures grow up to the group of each
key before its rule is written, whatever the order of the keys, and hold what the table holds. A key
can hold any number of 64 bits: the greatest one has no successor, and below it there are numbers up to
which slots take more bytes than one allocation may have.
-/

set_option autoImplicit false

namespace LineScope.Grammar

abbrev Slots := List (Option CaptureRule)

namespace Slots

def grow (slots : Slots) (count : Nat) : Slots := slots ++ List.replicate (count - slots.length) none

def write (slots : Slots) (group : Nat) (rule : CaptureRule) : Except Fault Slots :=
  match Fault.ofPlace? group slots.length with
  | none => .ok (slots.set group (some rule))
  | some fault => .error fault

def put (slotBytes : Nat) (slots : Slots) (group : Nat) (rule : CaptureRule) : Except Fault Slots :=
  if slots.length ≤ group then
    match Fault.ofGroup? slotBytes group with
    | none => (slots.grow (group + 1)).write group rule
    | some fault => .error fault
  else slots.write group rule

-- Rules are put in the order in which they are written down, the later one of a group over the earlier.
def fill (slotBytes : Nat) (slots : Slots) (written : List (Nat × CaptureRule)) : Except Fault Slots :=
  written.foldlM (fun slots entry => slots.put slotBytes entry.1 entry.2) slots

end Slots

namespace CaptureTable

def Ascending (table : CaptureTable) : Prop := table.Pairwise fun entry later => entry.1 < later.1

def fill (table : CaptureTable) (written : List (Nat × CaptureRule)) : CaptureTable :=
  written.foldl (fun table entry => table.put entry.1 entry.2) table

end CaptureTable

section Tables

variable (group : Nat) (rule : CaptureRule) (table : CaptureTable)

theorem table_size_cons (entry : Nat × CaptureRule) (ascending : CaptureTable.Ascending (entry :: table)) :
    CaptureTable.size (entry :: table) = max (entry.1 + 1) table.size := by
  induction table generalizing entry with
  | nil => rfl
  | cons second rest ih =>
      obtain ⟨least, ascends⟩ := List.pairwise_cons.mp ascending
      have last : CaptureTable.size (entry :: second :: rest) = CaptureTable.size (second :: rest) := by
        rw [CaptureTable.size, CaptureTable.size, List.getLast?_cons_cons]
      have before := least second List.mem_cons_self
      rw [last, ih second ascends]
      omega

theorem put_size (ascending : table.Ascending) : (table.put group rule).size = max (group + 1) table.size := by
  induction table with
  | nil => rfl
  | cons first rest ih =>
      have ascends := (List.pairwise_cons.mp ascending).2
      have after := Line.put_ascending group rule (first :: rest) ascending
      rw [CaptureTable.put] at after ⊢
      split at after
      · rw [if_pos ‹_›, table_size_cons _ _ after]
      · rw [if_neg ‹_›]
        split at after
        · rename_i same
          rw [if_pos same, table_size_cons _ _ after, table_size_cons _ _ ascending]
          omega
        · rw [if_neg ‹_›, table_size_cons _ _ after, ih ascends, table_size_cons _ _ ascending]
          omega

theorem put_lookup (other : Nat) :
    (table.put group rule).lookup other = if other = group then some rule else table.lookup other := by
  induction table with
  | nil => exact lookup_cons_eq group other rule []
  | cons first rest ih =>
      rw [CaptureTable.put]
      split
      · exact lookup_cons_eq group other rule (first :: rest)
      · split
        · rename_i same
          rw [lookup_cons_eq, lookup_cons_eq, ← same]
          by_cases isGroup : other = group
          · rw [if_pos isGroup, if_pos isGroup]
          · rw [if_neg isGroup, if_neg isGroup, if_neg isGroup]
        · rename_i different
          rw [lookup_cons_eq, lookup_cons_eq, ih]
          by_cases isGroup : other = group
          · subst isGroup
            rw [if_neg different, if_pos rfl, if_pos rfl]
          · rw [if_neg isGroup, if_neg isGroup]

theorem lookup_beyond (ascending : table.Ascending) (beyond : table.size ≤ group) : table.lookup group = none := by
  induction table with
  | nil => rfl
  | cons first rest ih =>
      rw [table_size_cons _ _ ascending] at beyond
      rw [lookup_cons_eq, if_neg (by omega)]
      exact ih (List.pairwise_cons.mp ascending).2 (by omega)

end Tables

section Filling

variable (slotBytes group : Nat) (rule : CaptureRule) (table : CaptureTable)

theorem slots_length : table.toSlots.length = table.size := by
  simp [CaptureTable.toSlots]

theorem grown_slot (ascending : table.Ascending) (count place : Nat) :
    (Slots.grow table.toSlots count)[place]? =
      if place < max count table.size then some (table.lookup place) else none := by
  rw [Slots.grow, slots_length]
  by_cases early : place < table.size
  · rw [List.getElem?_append_left (by rw [slots_length]; exact early), if_pos (by omega), CaptureTable.toSlots]
    simp [early]
  · rw [List.getElem?_append_right (by rw [slots_length]; omega), List.getElem?_replicate, slots_length,
      lookup_beyond _ _ ascending (Nat.le_of_not_lt early)]
    exact if_congr (by omega) rfl rfl

theorem write_grown (ascending : table.Ascending) :
    (Slots.grow table.toSlots (group + 1)).write group rule = .ok (table.put group rule).toSlots := by
  have length : (Slots.grow table.toSlots (group + 1)).length = max (group + 1) table.size := by
    rw [Slots.grow, List.length_append, List.length_replicate, slots_length]
    omega
  have inside : Fault.ofPlace? group (Slots.grow table.toSlots (group + 1)).length = none :=
    if_pos (by omega)
  rw [Slots.write, inside]
  refine congrArg Except.ok (List.ext_getElem? fun place => ?_)
  have after := grown_slot (table.put group rule) (Line.put_ascending group rule table ascending) 0 place
  rw [Slots.grow, Nat.zero_sub, List.replicate_zero, List.append_nil, put_size group rule table ascending, put_lookup] at after
  rw [after, List.getElem?_set, grown_slot table ascending, length]
  by_cases same : group = place
  · subst same
    simp
  · simp [same, Ne.symm same]

theorem put_slot (ascending : table.Ascending) (fits : Fault.ofGroup? slotBytes group = none) :
    Slots.put slotBytes table.toSlots group rule = .ok (table.put group rule).toSlots := by
  rw [← write_grown group rule table ascending, Slots.put, fits]
  split
  · rfl
  · rename_i reached
    have nothing : group + 1 - table.toSlots.length = 0 := by omega
    rw [Slots.grow, nothing, List.replicate_zero, List.append_nil]

theorem put_too_large (fits : ∀ smaller < table.size, Fault.ofGroup? slotBytes smaller = none) (fault : Fault)
    (tooLarge : Fault.ofGroup? slotBytes group = some fault) :
    Slots.put slotBytes table.toSlots group rule = .error fault := by
  have beyond : table.toSlots.length ≤ group := by
    rw [slots_length]
    refine Nat.le_of_not_lt fun reached => ?_
    rw [fits group reached] at tooLarge
    cases tooLarge
  rw [Slots.put, if_pos beyond, tooLarge]

theorem fits_below (smaller : Nat) (below : smaller ≤ group) (fits : Fault.ofGroup? slotBytes group = none) :
    Fault.ofGroup? slotBytes smaller = none := by
  have bytes : (smaller + 1) * slotBytes ≤ (group + 1) * slotBytes :=
    Nat.mul_le_mul_right slotBytes (Nat.succ_le_succ below)
  rw [Fault.ofGroup?] at fits ⊢
  split at fits
  · cases fits
  · split at fits
    · cases fits
    · rw [if_neg (by omega), if_neg (by omega)]

theorem fill_slots (written : List (Nat × CaptureRule)) (ascending : table.Ascending)
    (fits : ∀ smaller < table.size, Fault.ofGroup? slotBytes smaller = none) :
    Slots.fill slotBytes table.toSlots written =
      match (written.map Prod.fst).findSome? (Fault.ofGroup? slotBytes) with
      | some fault => .error fault
      | none => .ok (table.fill written).toSlots := by
  induction written generalizing table with
  | nil => rfl
  | cons entry rest ih =>
      obtain ⟨group, rule⟩ := entry
      rw [Slots.fill, List.foldlM_cons, List.map_cons, List.findSome?_cons]
      cases isFault : Fault.ofGroup? slotBytes group with
      | some fault =>
          rw [put_too_large slotBytes group rule table fits fault isFault]
          rfl
      | none =>
          rw [put_slot slotBytes group rule table ascending isFault]
          refine ih (table.put group rule) (Line.put_ascending group rule table ascending) ?_
          intro smaller inside
          rw [put_size group rule table ascending] at inside
          by_cases early : smaller < table.size
          · exact fits smaller early
          · exact fits_below slotBytes group smaller (by omega) isFault

end Filling

section Keys

theorem captures_written (context : Context) (compile : RuleCompiler) (chain : Chain) (owner : Address)
    (table location : String) (entries : List (String × RuleDocument)) (captures : CaptureTable) (before : Compilation) :
    ∃ written : List (Nat × CaptureRule),
      written.map Prod.fst = entries.filterMap (fun entry => groupOfKey? entry.1) ∧
        (compileCaptures context compile chain owner table location entries captures before).1 = captures.fill written := by
  induction entries generalizing captures before with
  | nil => exact ⟨[], rfl, rfl⟩
  | cons entry rest ih =>
      obtain ⟨key, rule⟩ := entry
      rw [compile_captures_cons]
      cases isGroup : groupOfKey? key with
      | none =>
          obtain ⟨written, groups, filled⟩ := ih captures (report (join location key) (.invalidShape (.captureKey key)) before).2
          exact ⟨written, by rw [List.filterMap_cons, isGroup, groups], filled⟩
      | some group =>
          let child := compileRetokenized context compile chain (.capture table key :: owner) (join location key) rule.patterns before
          let capture : CaptureRule := ⟨rule.keys.name, rule.keys.contentName, child.1⟩
          obtain ⟨written, groups, filled⟩ := ih (captures.put group capture) (claimGroup group child.2).2
          exact ⟨(group, capture) :: written, by rw [List.filterMap_cons, isGroup, List.map_cons, groups], filled⟩

end Keys

def Item.IsTooLarge (slotBytes : Nat) (item : Item) : Prop :=
  ∃ written group, item.element = .captureKey written ∧ groupOfKey? written = some group ∧
    (UInt64.size ≤ group + 1 ∨ allocationLimit < (group + 1) * slotBytes)

def Document.EndsAt (slotBytes : Nat) (document : Document) (item : Item) : Prop :=
  ∃ before after, document.met = before ++ item :: after ∧ item.IsTooLarge slotBytes ∧
    ∀ earlier ∈ before, ¬ earlier.IsTooLarge slotBytes

section Ending

variable (slotBytes : Nat)

theorem fits_iff (group : Nat) :
    Fault.ofGroup? slotBytes group = none ↔
      ¬ (UInt64.size ≤ group + 1 ∨ allocationLimit < (group + 1) * slotBytes) := by
  rw [Fault.ofGroup?]
  split
  · simp [*]
  · split <;> simp [*]

theorem item_fits_iff (item : Item) : item.fault? slotBytes = none ↔ ¬ item.IsTooLarge slotBytes := by
  obtain ⟨location, element⟩ := item
  cases element with
  | captureKey key =>
      cases isGroup : groupOfKey? key with
      | none => simp [Item.fault?, Item.IsTooLarge, isGroup]
      | some group =>
          simp only [Item.fault?, isGroup, Option.bind_some, fits_iff, Item.IsTooLarge]
          refine not_congr ⟨fun large => ⟨key, group, rfl, isGroup, large⟩, ?_⟩
          rintro ⟨_, other, same, isOther, large⟩
          cases same
          cases isGroup.symm.trans isOther
          exact large
  | _ => simp [Item.fault?, Item.IsTooLarge]

theorem item_fault_inside (item : Item) (id size : Nat) : item.fault? slotBytes ≠ some (.outside id size) := by
  obtain ⟨location, element⟩ := item
  cases element with
  | captureKey key =>
      intro isFault
      obtain ⟨group, _, isOutside⟩ := Option.bind_eq_some_iff.mp isFault
      rw [Fault.ofGroup?] at isOutside
      split at isOutside
      · cases isOutside
      · split at isOutside <;> cases isOutside
  | _ => exact nofun

variable (engine : Pattern.Engine) (key : String) (document : Document)

theorem document_faults :
    (compileDocument engine document .start).2.faults slotBytes = document.met.filterMap (Item.fault? slotBytes) :=
  (document_mirrors engine document).builds.follows.faults slotBytes

theorem compile_outcome :
    Grammar.compile? slotBytes engine key document =
      match document.met.findSome? (Item.fault? slotBytes) with
      | some fault => .error fault
      | none => .ok (Grammar.compile engine key document) := by
  rw [Grammar.compile?, document_faults, ← List.head?_filterMap]
  cases document.met.filterMap (Item.fault? slotBytes) <;> rfl

theorem compile_ok_iff :
    Grammar.compile? slotBytes engine key document = .ok (Grammar.compile engine key document) ↔
      ∀ item ∈ document.met, ¬ item.IsTooLarge slotBytes := by
  simp only [← item_fits_iff, ← List.findSome?_eq_none_iff]
  rw [compile_outcome]
  cases document.met.findSome? (Item.fault? slotBytes) <;> simp

theorem compile_error_iff (fault : Fault) :
    Grammar.compile? slotBytes engine key document = .error fault ↔
      ∃ item, document.EndsAt slotBytes item ∧ item.fault? slotBytes = some fault := by
  have first : Grammar.compile? slotBytes engine key document = .error fault ↔
      document.met.findSome? (Item.fault? slotBytes) = some fault := by
    rw [compile_outcome]
    cases document.met.findSome? (Item.fault? slotBytes) <;> simp
  rw [first, List.findSome?_eq_some_iff]
  simp only [Document.EndsAt, ← item_fits_iff]
  constructor
  · rintro ⟨before, item, after, split, isFault, fine⟩
    refine ⟨item, ⟨before, after, split, not_not.mp fun fits => ?_, fine⟩, isFault⟩
    rw [(item_fits_iff slotBytes item).mpr fits] at isFault
    cases isFault
  · rintro ⟨item, ⟨before, after, split, _, fine⟩, isFault⟩
    exact ⟨before, item, after, split, isFault, fine⟩

theorem captures_fill_slots (context : Context) (compile : RuleCompiler) (chain : Chain) (owner : Address)
    (table location : String) (entries : List (String × RuleDocument)) (before : Compilation) :
    ∃ written : List (Nat × CaptureRule),
      written.map Prod.fst = entries.filterMap (fun entry => groupOfKey? entry.1) ∧
        Slots.fill slotBytes [] written =
          match (written.map Prod.fst).findSome? (Fault.ofGroup? slotBytes) with
          | some fault => .error fault
          | none => .ok (compileCaptures context compile chain owner table location entries [] before).1.toSlots := by
  obtain ⟨written, groups, filled⟩ := captures_written context compile chain owner table location entries [] before
  refine ⟨written, groups, ?_⟩
  rw [filled]
  exact fill_slots slotBytes [] written .nil fun _ inside => absurd inside (Nat.not_lt_zero _)

theorem compilation_ends_at_first_too_large_group :
    (∀ id size, Fault.outside id size ∉ (compileDocument engine document .start).2.faults slotBytes) ∧
      (Grammar.compile? slotBytes engine key document = .ok (Grammar.compile engine key document) ↔
        ∀ item ∈ document.met, ¬ item.IsTooLarge slotBytes) ∧
      (∀ fault, Grammar.compile? slotBytes engine key document = .error fault ↔
        ∃ item, document.EndsAt slotBytes item ∧ item.fault? slotBytes = some fault) ∧
      ∀ (context : Context) (compile : RuleCompiler) (chain : Chain) (owner : Address) (table location : String)
        (entries : List (String × RuleDocument)) (before : Compilation),
        ∃ written : List (Nat × CaptureRule),
          written.map Prod.fst = entries.filterMap (fun entry => groupOfKey? entry.1) ∧
            Slots.fill slotBytes [] written =
              match (written.map Prod.fst).findSome? (Fault.ofGroup? slotBytes) with
              | some fault => .error fault
              | none => .ok (compileCaptures context compile chain owner table location entries [] before).1.toSlots := by
  refine ⟨?_, compile_ok_iff slotBytes engine key document, compile_error_iff slotBytes engine key document,
    captures_fill_slots slotBytes⟩
  intro id size listed
  rw [document_faults] at listed
  obtain ⟨item, _, isFault⟩ := List.mem_filterMap.mp listed
  exact item_fault_inside slotBytes item id size isFault

-- A key of captures that stand inside of others, whose two keys name one group.
def nestedKeyDocument (key : String) : Document where
  scopeName := "s"
  patterns := .cons (matching "(a)" (.present
    (.cons "1" (containing (.cons (matching "b" (.present
        (.cons key (.mk { name := some "x" } .absent .absent .absent .absent .absent .absent) .nil))) .nil)
      .absent)
    (.cons "01" (.mk { name := some "y" } .absent .absent .absent .absent .absent .absent) .nil)))) .nil

theorem nested_key_ends_compilation :
    Grammar.compile? 56 .backtracking "s" (nestedKeyDocument "18446744073709551615") =
        .error (.uncounted 18446744073709551615) ∧
      Grammar.compile? 56 .backtracking "s" (nestedKeyDocument "9223372036854775807") =
        .error (.oversized 9223372036854775807) := by
  have uncounted : (compileDocument .backtracking (nestedKeyDocument "18446744073709551615") .start).2.faults 56 =
      [.uncounted 18446744073709551615] := by decide +kernel
  have oversized : (compileDocument .backtracking (nestedKeyDocument "9223372036854775807") .start).2.faults 56 =
      [.oversized 9223372036854775807] := by decide +kernel
  exact ⟨by rw [Grammar.compile?, uncounted], by rw [Grammar.compile?, oversized]⟩

end Ending

end LineScope.Grammar
