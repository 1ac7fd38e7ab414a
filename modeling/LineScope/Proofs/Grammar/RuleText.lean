import LineScope.Grammar.Document.Reader
import LineScope.Grammar.Document.Writer
import LineScope.Proofs.Json.Reading
import LineScope.Proofs.Text.Reading

set_option autoImplicit false

namespace LineScope.Grammar

open Json (Value Items Members Refusal)

section Fitting

mutual
def RuleDocument.Fits (depth : Nat) : RuleDocument → Prop
  | .mk _ captures beginCaptures endCaptures whileCaptures patterns repository =>
      depth < Json.depthLimit ∧ captures.Fits (depth + 1) ∧ beginCaptures.Fits (depth + 1) ∧
        endCaptures.Fits (depth + 1) ∧ whileCaptures.Fits (depth + 1) ∧ patterns.Fits (depth + 1) ∧
        repository.Fits (depth + 1)
def OptionalTable.Fits (depth : Nat) : OptionalTable → Prop
  | .absent => True
  | .present table => depth < Json.depthLimit ∧ table.Fits (depth + 1)
def OptionalRules.Fits (depth : Nat) : OptionalRules → Prop
  | .absent => True
  | .present rules => depth < Json.depthLimit ∧ rules.Fits (depth + 1)
def RuleTable.Fits (depth : Nat) : RuleTable → Prop
  | .nil => True
  | .cons key rule tail => tail.get? key = none ∧ rule.Fits depth ∧ tail.Fits depth
def RuleSequence.Fits (depth : Nat) : RuleSequence → Prop
  | .nil => True
  | .cons rule tail => rule.Fits depth ∧ tail.Fits depth
end

theorem table_get_put (key other : String) (rule : RuleDocument) (table : RuleTable) (different : key ≠ other) :
    (table.put key rule).get? other = table.get? other := by
  cases table with
  | nil => simp [RuleTable.put, RuleTable.get?, different]
  | cons first old tail =>
      have later := table_get_put key other rule tail different
      by_cases same : first = key
      · simp [RuleTable.put, RuleTable.get?, same, different]
      · simp [RuleTable.put, RuleTable.get?, same, later]

theorem table_put_fits (depth : Nat) (key : String) (rule : RuleDocument) (table : RuleTable) (fits : rule.Fits depth)
    (before : table.Fits depth) : (table.put key rule).Fits depth := by
  cases table with
  | nil => exact ⟨rfl, fits, trivial⟩
  | cons first old tail =>
      obtain ⟨new, oldFits, tailFits⟩ := before
      by_cases same : first = key
      · simpa [RuleTable.put, same, RuleTable.Fits, fits, tailFits] using same ▸ new
      · have later := table_put_fits depth key rule tail fits tailFits
        have stillNew := table_get_put key first rule tail (Ne.symm same)
        simp [RuleTable.put, same, RuleTable.Fits, oldFits, later, stillNew, new]

end Fitting

section Reading

theorem enter_ok {depth inner : Nat} (entered : Json.enter depth = .ok inner) :
    depth < Json.depthLimit ∧ inner = depth + 1 := by
  rw [Json.enter] at entered
  split at entered
  · cases entered
    exact ⟨‹_›, rfl⟩
  · cases entered

def PartialRule.Fits (depth : Nat) (rule : PartialRule) : Prop :=
  rule.captures.Fits depth ∧ rule.beginCaptures.Fits depth ∧ rule.endCaptures.Fits depth ∧
    rule.whileCaptures.Fits depth ∧ rule.patterns.Fits depth ∧ rule.repository.Fits depth

theorem partial_rule_fits (depth : Nat) (rule : PartialRule) (low : depth < Json.depthLimit) (fits : rule.Fits (depth + 1)) :
    rule.toRule.Fits depth := ⟨low, fits⟩

theorem set_table_fits (depth : Nat) (rule : PartialRule) (key : RuleKey) (table : OptionalTable)
    (before : rule.Fits depth) (fits : table.Fits depth) : (rule.setTable key table).Fits depth := by
  obtain ⟨captures, beginCaptures, endCaptures, whileCaptures, patterns, repository⟩ := before
  cases key <;> simp_all [PartialRule.setTable, PartialRule.Fits]

theorem set_text_fits (depth : Nat) (rule : PartialRule) (key : RuleKey) (text : Option String)
    (before : rule.Fits depth) : (rule.setText key text).Fits depth := by
  cases key <;> exact before

theorem set_plain_fits (depth : Nat) (rule result : PartialRule) (key : RuleKey) (value : Value)
    (before : rule.Fits depth) (set : rule.setPlain depth key value = .ok result) : result.Fits depth := by
  unfold PartialRule.setPlain at set
  split at set
  · obtain ⟨flag, _, isResult⟩ := bind_ok set
    cases isResult
    exact before
  · split at set
    · split at set
      · cases set
        exact before
      · cases set
    · obtain ⟨text, _, isResult⟩ := bind_ok set
      cases isResult
      exact set_text_fits depth rule key text before

mutual
theorem read_rule_fits (depth : Nat) (value : Value) (rule : RuleDocument) (read : readRule depth value = .ok rule) :
    rule.Fits depth := by
  cases value with
  | object members =>
      rw [readRule] at read
      obtain ⟨inner, entered, within⟩ := bind_ok read
      obtain ⟨low, rfl⟩ := enter_ok entered
      exact read_rule_members_fits depth members {} rule low ⟨trivial, trivial, trivial, trivial, trivial, trivial⟩ within
  | array items =>
      rw [readRule] at read
      obtain ⟨inner, entered, within⟩ := bind_ok read
      obtain ⟨low, rfl⟩ := enter_ok entered
      exact read_rule_items_fits depth items {} _ rule low ⟨trivial, trivial, trivial, trivial, trivial, trivial⟩ within
  | null => cases read
  | bool flag => cases read
  | number literal => cases read
  | text text => cases read
  | fault kept skipped => cases read
theorem read_rule_members_fits (depth : Nat) (members : Members) (before : PartialRule) (rule : RuleDocument)
    (low : depth < Json.depthLimit) (fits : before.Fits (depth + 1))
    (read : readRuleMembers (depth + 1) before members = .ok rule) : rule.Fits depth := by
  cases members with
  | nil =>
      rw [readRuleMembers] at read
      cases read
      exact partial_rule_fits depth before low fits
  | cons key value tail =>
      rw [readRuleMembers] at read
      obtain ⟨text, _, within⟩ := bind_ok read
      split at within
      · obtain ⟨_, _, later⟩ := bind_ok within
        exact read_rule_members_fits depth tail before rule low fits later
      · split at within
        · cases within
        · obtain ⟨next, isNext, later⟩ := bind_ok within
          have nextFits := read_rule_key_fits (depth + 1) value { before with seen := _ :: before.seen } next _ fits isNext
          exact read_rule_members_fits depth tail next rule low nextFits later
  | fault kept skipped =>
      rw [readRuleMembers] at read
      cases read
theorem read_rule_items_fits (depth : Nat) (items : Items) (before : PartialRule) (keys : List RuleKey)
    (rule : RuleDocument) (low : depth < Json.depthLimit) (fits : before.Fits (depth + 1))
    (read : readRuleItems (depth + 1) before keys items = .ok rule) : rule.Fits depth := by
  cases items with
  | nil =>
      rw [readRuleItems] at read
      cases read
      exact partial_rule_fits depth before low fits
  | cons value tail =>
      cases keys with
      | nil =>
          rw [readRuleItems] at read
          cases read
      | cons key keys =>
          rw [readRuleItems] at read
          obtain ⟨next, isNext, later⟩ := bind_ok read
          have nextFits := read_rule_key_fits (depth + 1) value before next key fits isNext
          exact read_rule_items_fits depth tail next keys rule low nextFits later
  | fault fault =>
      rw [readRuleItems] at read
      cases read
theorem read_rule_key_fits (depth : Nat) (value : Value) (before after : PartialRule) (key : RuleKey)
    (fits : before.Fits depth) (read : readRuleKey depth before key value = .ok after) : after.Fits depth := by
  cases value with
  | object members =>
      rw [readRuleKey] at read
      split at read
      · obtain ⟨inner, entered, within⟩ := bind_ok read
        obtain ⟨low, rfl⟩ := enter_ok entered
        obtain ⟨table, isTable, isAfter⟩ := bind_ok within
        cases isAfter
        exact set_table_fits depth before key _ fits ⟨low, read_table_fits (depth + 1) members .nil table trivial isTable⟩
      · exact set_plain_fits depth before after key _ fits read
  | array items =>
      rw [readRuleKey] at read
      split at read
      · obtain ⟨inner, entered, within⟩ := bind_ok read
        obtain ⟨low, rfl⟩ := enter_ok entered
        obtain ⟨rules, isRules, isAfter⟩ := bind_ok within
        cases isAfter
        obtain ⟨captures, beginCaptures, endCaptures, whileCaptures, _, repository⟩ := fits
        exact ⟨captures, beginCaptures, endCaptures, whileCaptures,
          ⟨low, read_sequence_fits (depth + 1) items rules isRules⟩, repository⟩
      · exact set_plain_fits depth before after key _ fits read
  | null => exact set_plain_fits depth before after key _ fits read
  | bool flag => exact set_plain_fits depth before after key _ fits read
  | number literal => exact set_plain_fits depth before after key _ fits read
  | text text => exact set_plain_fits depth before after key _ fits read
  | fault kept skipped => exact set_plain_fits depth before after key _ fits read
theorem read_table_fits (depth : Nat) (members : Members) (before table : RuleTable) (fits : before.Fits depth)
    (read : readTable depth before members = .ok table) : table.Fits depth := by
  cases members with
  | nil =>
      rw [readTable] at read
      cases read
      exact fits
  | cons key value tail =>
      rw [readTable] at read
      obtain ⟨text, _, within⟩ := bind_ok read
      obtain ⟨rule, isRule, later⟩ := bind_ok within
      have next := table_put_fits depth text rule before (read_rule_fits depth value rule isRule) fits
      exact read_table_fits depth tail _ table next later
  | fault kept skipped =>
      rw [readTable] at read
      cases read
theorem read_sequence_fits (depth : Nat) (items : Items) (rules : RuleSequence)
    (read : readSequence depth items = .ok rules) : rules.Fits depth := by
  cases items with
  | nil =>
      rw [readSequence] at read
      cases read
      trivial
  | cons value tail =>
      rw [readSequence] at read
      obtain ⟨rule, isRule, within⟩ := bind_ok read
      obtain ⟨others, isOthers, isRules⟩ := bind_ok within
      cases isRules
      exact ⟨read_rule_fits depth value rule isRule, read_sequence_fits depth tail others isOthers⟩
  | fault fault =>
      rw [readSequence] at read
      cases read
end

end Reading

section Keys

def RuleDocument.text? (rule : RuleDocument) : RuleKey → Option String
  | .includeTarget => rule.keys.includeTarget
  | .name => rule.keys.name
  | .contentName => rule.keys.contentName
  | .matchPattern => rule.keys.matchPattern
  | .beginPattern => rule.keys.beginPattern
  | .endPattern => rule.keys.endPattern
  | .whilePattern => rule.keys.whilePattern
  | _ => none

def RuleDocument.table (rule : RuleDocument) : RuleKey → OptionalTable
  | .captures => rule.captures
  | .beginCaptures => rule.beginCaptures
  | .endCaptures => rule.endCaptures
  | .whileCaptures => rule.whileCaptures
  | .repository => rule.repository
  | _ => .absent

def OptionalTable.value? : OptionalTable → Option Value
  | .absent => none
  | .present table => some (.object table.toMembers)

def OptionalRules.value? : OptionalRules → Option Value
  | .absent => none
  | .present rules => some (.array rules.toItems)

def textValue? (text : Option String) : Option Value := text.map fun text => .text (some text)

def flagValue? (flag : Bool) : Option Value := if flag then some (.bool true) else none

def RuleDocument.value? (rule : RuleDocument) (key : RuleKey) : Option Value :=
  if key = .endPatternLast then flagValue? rule.keys.endPatternLast
  else if key = .patterns then rule.patterns.value?
  else if key.holdsTable then (rule.table key).value?
  else textValue? (rule.text? key)

def RuleDocument.member? (rule : RuleDocument) (key : RuleKey) : Option (String × Value) :=
  (rule.value? key).map fun value => (key.text, value)

theorem filter_map_cons {α β : Type} (f : α → Option β) (head : α) (tail : List α) :
    (head :: tail).filterMap f = (f head).toList ++ tail.filterMap f := by
  cases here : f head <;> simp [here]

theorem text_member_eq (key : String) (text : Option String) :
    textMember key text = ((textValue? text).map fun value => (key, value)).toList := by
  cases text <;> rfl

theorem table_member_eq (key : String) (table : OptionalTable) :
    table.toMembers key = (table.value?.map fun value => (key, value)).toList := by
  cases table <;> simp [OptionalTable.toMembers, OptionalTable.value?]

theorem rules_member_eq (key : String) (rules : OptionalRules) :
    rules.toMembers key = (rules.value?.map fun value => (key, value)).toList := by
  cases rules <;> simp [OptionalRules.toMembers, OptionalRules.value?]

theorem flag_member_eq (flag : Bool) :
    (if flag then [("applyEndPatternLast", Value.bool true)] else []) =
      ((flagValue? flag).map fun value => ("applyEndPatternLast", value)).toList := by
  cases flag <;> rfl

theorem rule_to_value (rule : RuleDocument) :
    rule.toValue = .object (.ofList (RuleKey.order.filterMap rule.member?)) := by
  cases rule with
  | mk keys captures beginCaptures endCaptures whileCaptures patterns repository =>
      rw [RuleDocument.toValue]
      simp only [text_member_eq, table_member_eq, rules_member_eq, flag_member_eq, RuleKey.order, filter_map_cons,
        List.append_assoc, List.filterMap_nil, List.append_nil]
      rfl

def PartialRule.take (source : RuleDocument) (rule : PartialRule) (key : RuleKey) : PartialRule :=
  if key = .endPatternLast then { rule with keys := { rule.keys with endPatternLast := source.keys.endPatternLast } }
  else if key = .patterns then { rule with patterns := source.patterns }
  else if key.holdsTable then rule.setTable key (source.table key)
  else rule.setText key (source.text? key)

theorem take_comm (source : RuleDocument) (rule : PartialRule) (first second : RuleKey) :
    (rule.take source first).take source second = (rule.take source second).take source first := by
  cases first <;> cases second <;> rfl

theorem take_blank (source : RuleDocument) (key : RuleKey) (missing : source.value? key = none) :
    PartialRule.take source {} key = {} := by
  have texts : ∀ text : Option String, textValue? text = none → text = none := fun text => by cases text <;> simp [textValue?]
  have tables : ∀ table : OptionalTable, table.value? = none → table = .absent := fun table => by
    cases table <;> simp [OptionalTable.value?]
  have rules : ∀ rules : OptionalRules, rules.value? = none → rules = .absent := fun rules => by
    cases rules <;> simp [OptionalRules.value?]
  have flags : ∀ flag, flagValue? flag = none → flag = false := fun flag => by
    cases flag <;> simp [flagValue?]
  unfold RuleDocument.value? at missing
  unfold PartialRule.take
  split at missing
  · rw [if_pos ‹_›, flags _ missing]
  · rw [if_neg ‹_›]
    split at missing
    · rw [if_pos ‹_›, rules _ missing]
    · rw [if_neg ‹_›]
      split at missing
      · rw [if_pos ‹_›, tables _ missing]
        cases key <;> rfl
      · rw [if_neg ‹_›, texts _ missing]
        cases key <;> rfl

theorem take_all (source : RuleDocument) : (RuleKey.order.foldl (PartialRule.take source) {}).toRule = source := by
  cases source
  simp [RuleKey.order, PartialRule.take, PartialRule.setText, PartialRule.setTable, RuleKey.holdsTable, RuleDocument.text?,
    RuleDocument.table, RuleDocument.keys, RuleDocument.captures, RuleDocument.beginCaptures, RuleDocument.endCaptures,
    RuleDocument.whileCaptures, RuleDocument.patterns, RuleDocument.repository, PartialRule.toRule]

theorem fold_present {σ κ : Type} (take : σ → κ → σ) (present : κ → Bool)
    (comm : ∀ state first second, take (take state first) second = take (take state second) first) (keys : List κ)
    (state : σ) (absent : ∀ key, present key = false → take state key = state) :
    (keys.filter present).foldl take state = keys.foldl take state := by
  induction keys generalizing state with
  | nil => rfl
  | cons key keys ih =>
      cases here : present key with
      | true =>
          rw [List.filter_cons_of_pos here, List.foldl_cons, List.foldl_cons, ih]
          intro other missing
          rw [comm, absent other missing]
      | false =>
          rw [List.filter_cons_of_neg (by simp [here]), List.foldl_cons, absent key here]
          exact ih state absent

theorem take_seen (source : RuleDocument) (keys : List RuleKey) (rule : PartialRule) (seen : List RuleKey) :
    keys.foldl (PartialRule.take source) { rule with seen } =
      { keys.foldl (PartialRule.take source) rule with seen } := by
  induction keys generalizing rule with
  | nil => rfl
  | cons key keys ih =>
      have here : PartialRule.take source { rule with seen } key = { rule.take source key with seen } := by
        cases key <;> rfl
      rw [List.foldl_cons, here, ih]
      rfl

end Keys

section ReadingBack

def OptionalTable.ReadsBack (depth : Nat) : OptionalTable → Prop
  | .absent => True
  | .present table => depth < Json.depthLimit ∧ readTable (depth + 1) .nil table.toMembers = .ok table

def OptionalRules.ReadsBack (depth : Nat) : OptionalRules → Prop
  | .absent => True
  | .present rules => depth < Json.depthLimit ∧ readSequence (depth + 1) rules.toItems = .ok rules

structure RuleDocument.ReadsBack (depth : Nat) (rule : RuleDocument) : Prop where
  tables : ∀ key, (rule.table key).ReadsBack depth
  patterns : rule.patterns.ReadsBack depth

theorem enter_of_lt (depth : Nat) (low : depth < Json.depthLimit) : Json.enter depth = .ok (depth + 1) := by
  rw [Json.enter, if_pos low]

theorem read_rule_key_written (depth : Nat) (source : RuleDocument) (inside : source.ReadsBack depth) (rule : PartialRule)
    (key : RuleKey) (value : Value) (present : source.value? key = some value) :
    readRuleKey depth rule key value = .ok (rule.take source key) := by
  unfold RuleDocument.value? at present
  unfold PartialRule.take
  by_cases isFlag : key = .endPatternLast
  · rw [if_pos isFlag] at present ⊢
    subst isFlag
    cases flag : source.keys.endPatternLast with
    | false =>
        rw [flag] at present
        cases present
    | true =>
        rw [flag] at present
        cases present
        rfl
  · rw [if_neg isFlag] at present ⊢
    by_cases isPatterns : key = .patterns
    · rw [if_pos isPatterns] at present ⊢
      subst isPatterns
      have back := inside.patterns
      cases patterns : source.patterns with
      | absent =>
          rw [patterns] at present
          cases present
      | present rules =>
          rw [patterns] at present back
          cases present
          rw [readRuleKey, if_pos rfl, enter_of_lt depth back.1]
          change (do
            let rules ← readSequence (depth + 1) rules.toItems
            pure { rule with patterns := .present rules }) = _
          rw [back.2]
          rfl
    · rw [if_neg isPatterns] at present ⊢
      by_cases isTable : key.holdsTable = true
      · rw [if_pos isTable] at present ⊢
        have back := inside.tables key
        cases table : source.table key with
        | absent =>
            rw [table] at present
            cases present
        | present table' =>
            rw [table] at present back
            cases present
            rw [readRuleKey, if_pos isTable, enter_of_lt depth back.1]
            change (do
              let table ← readTable (depth + 1) .nil table'.toMembers
              pure (rule.setTable key (.present table))) = _
            rw [back.2]
            rfl
      · rw [if_neg isTable] at present ⊢
        cases text : source.text? key with
        | none =>
            rw [text] at present
            cases present
        | some text' =>
            rw [text] at present
            cases present
            rw [readRuleKey]
            · unfold PartialRule.setPlain
              rw [if_neg isFlag, if_neg (by simp [isTable, isPatterns])]
              rfl
            · simp
            · simp

theorem rule_key_of_text (key : RuleKey) : RuleKey.ofText? key.text = some key := by
  cases key <;> rfl

theorem read_rule_members_written (depth : Nat) (source : RuleDocument) (inside : source.ReadsBack depth)
    (keys : List RuleKey) (distinct : keys.Nodup) (rule : PartialRule) (new : ∀ key ∈ keys, key ∉ rule.seen) :
    readRuleMembers depth rule (.ofList (keys.filterMap source.member?)) =
      .ok ((keys.filter fun key => (source.value? key).isSome).foldl (PartialRule.take source) rule).toRule := by
  induction keys generalizing rule with
  | nil => rfl
  | cons key keys ih =>
      obtain ⟨isNew, others⟩ := List.nodup_cons.mp distinct
      obtain ⟨unseen, later⟩ := List.forall_mem_cons.mp new
      cases present : source.value? key with
      | none =>
          rw [List.filterMap_cons_none (by simp [RuleDocument.member?, present]), List.filter_cons_of_neg (by simp [present])]
          exact ih others rule later
      | some value =>
          have member : source.member? key = some (key.text, value) := by simp [RuleDocument.member?, present]
          let next : PartialRule := { rule with seen := key :: rule.seen }
          have seen : (next.take source key).seen = key :: rule.seen := congrArg PartialRule.seen
            (take_seen source [key] rule (key :: rule.seen))
          have stillNew : ∀ other ∈ keys, other ∉ (next.take source key).seen := by
            intro other listed isSeen
            rw [seen] at isSeen
            rcases List.mem_cons.mp isSeen with rfl | before
            · exact isNew listed
            · exact later other listed before
          have step : readRuleMembers depth rule (.ofList ((key.text, value) :: keys.filterMap source.member?)) =
              readRuleMembers depth (next.take source key) (.ofList (keys.filterMap source.member?)) := by
            have read := read_rule_key_written depth source inside next key value present
            rw [Members.ofList, readRuleMembers]
            simp only [Json.keyText, rule_key_of_text, List.contains_eq_mem, unseen, decide_false, Bool.false_eq_true,
              if_false, bind, Except.bind]
            rw [read]
          rw [List.filterMap_cons_some member, List.filter_cons_of_pos (by simp [present]), step, ih others _ stillNew,
            List.foldl_cons]
          have forgets := take_seen source (key :: keys.filter fun key => (source.value? key).isSome) rule (key :: rule.seen)
          rw [← List.foldl_cons, ← List.foldl_cons, forgets]
          rfl

theorem read_rule_written_inside (depth : Nat) (rule : RuleDocument) (low : depth < Json.depthLimit)
    (inside : rule.ReadsBack (depth + 1)) : readRule depth rule.toValue = .ok rule := by
  have whole := read_rule_members_written (depth + 1) rule inside RuleKey.order (by decide) {} (by simp)
  rw [fold_present _ _ (take_comm rule) _ _ fun key missing => take_blank rule key (by simpa using missing), take_all] at whole
  rw [rule_to_value, readRule, enter_of_lt depth low]
  exact whole

def RuleTable.append : RuleTable → RuleTable → RuleTable
  | .nil, table => table
  | .cons key rule tail, table => .cons key rule (tail.append table)

theorem table_append_nil (table : RuleTable) : table.append .nil = table := by
  cases table with
  | nil => rfl
  | cons key rule tail => rw [RuleTable.append, table_append_nil tail]

theorem table_append_assoc (first second third : RuleTable) :
    (first.append second).append third = first.append (second.append third) := by
  cases first with
  | nil => rfl
  | cons key rule tail => rw [RuleTable.append, RuleTable.append, RuleTable.append, table_append_assoc tail]

theorem table_get_append (key : String) (first second : RuleTable) :
    (first.append second).get? key = (first.get? key).or (second.get? key) := by
  cases first with
  | nil => rfl
  | cons other rule tail =>
      rw [RuleTable.append, RuleTable.get?, RuleTable.get?, table_get_append key tail second]
      split <;> rfl

theorem table_put_new (key : String) (rule : RuleDocument) (table : RuleTable) (new : table.get? key = none) :
    table.put key rule = table.append (.cons key rule .nil) := by
  cases table with
  | nil => rfl
  | cons other old tail =>
      rw [RuleTable.get?] at new
      split at new
      · cases new
      · rename_i different
        rw [RuleTable.put, if_neg different, RuleTable.append, table_put_new key rule tail new]

theorem read_sequence_cons (depth : Nat) (rule : RuleDocument) (tail : RuleSequence)
    (head : readRule depth rule.toValue = .ok rule) (others : readSequence depth tail.toItems = .ok tail) :
    readSequence depth (RuleSequence.cons rule tail).toItems = .ok (.cons rule tail) := by
  rw [RuleSequence.toItems, readSequence, head, others]
  rfl

mutual
theorem read_rule_written (depth : Nat) (rule : RuleDocument) (fits : rule.Fits depth) :
    readRule depth rule.toValue = .ok rule := by
  cases rule with
  | mk keys captures beginCaptures endCaptures whileCaptures patterns repository =>
      obtain ⟨low, capturesFit, beginFit, endFit, whileFit, patternsFit, repositoryFits⟩ := fits
      refine read_rule_written_inside depth _ low ⟨?_, optional_rules_read_back (depth + 1) patterns patternsFit⟩
      intro key
      cases key with
      | captures => exact optional_table_reads_back (depth + 1) captures capturesFit
      | beginCaptures => exact optional_table_reads_back (depth + 1) beginCaptures beginFit
      | endCaptures => exact optional_table_reads_back (depth + 1) endCaptures endFit
      | whileCaptures => exact optional_table_reads_back (depth + 1) whileCaptures whileFit
      | repository => exact optional_table_reads_back (depth + 1) repository repositoryFits
      | _ => trivial
theorem optional_table_reads_back (depth : Nat) (table : OptionalTable) (fits : table.Fits depth) :
    table.ReadsBack depth := by
  cases table with
  | absent => trivial
  | present table => exact ⟨fits.1, read_table_written (depth + 1) .nil table (fun _ _ => rfl) fits.2⟩
theorem optional_rules_read_back (depth : Nat) (rules : OptionalRules) (fits : rules.Fits depth) :
    rules.ReadsBack depth := by
  cases rules with
  | absent => trivial
  | present rules => exact ⟨fits.1, read_sequence_written (depth + 1) rules fits.2⟩
theorem read_table_written (depth : Nat) (before table : RuleTable)
    (new : ∀ key, (table.get? key).isSome → before.get? key = none) (fits : table.Fits depth) :
    readTable depth before table.toMembers = .ok (before.append table) := by
  cases table with
  | nil =>
      rw [RuleTable.toMembers, readTable, table_append_nil]
  | cons key rule tail =>
      obtain ⟨isNew, ruleFits, tailFits⟩ := fits
      have unknown : before.get? key = none := new key (by simp [RuleTable.get?])
      have later : ∀ other, (tail.get? other).isSome → (before.append (.cons key rule .nil)).get? other = none := by
        intro other listed
        have different : key ≠ other := by
          rintro rfl
          rw [isNew] at listed
          cases listed
        rw [table_get_append, new other (by rw [RuleTable.get?, if_neg different]; exact listed)]
        simp [RuleTable.get?, different]
      have head := read_rule_written depth rule ruleFits
      have others := read_table_written depth _ tail later tailFits
      rw [table_append_assoc] at others
      rw [RuleTable.toMembers, readTable]
      simp only [Json.keyText, bind, Except.bind, head]
      rw [table_put_new key rule before unknown, others]
      rfl
theorem read_sequence_written (depth : Nat) (rules : RuleSequence) (fits : rules.Fits depth) :
    readSequence depth rules.toItems = .ok rules := by
  cases rules with
  | nil => rfl
  | cons rule tail =>
      exact read_sequence_cons depth rule tail (read_rule_written depth rule fits.1)
        (read_sequence_written depth tail fits.2)
end

end ReadingBack

section Plain

theorem members_of_list_plain (members : List (String × Value)) (each : ∀ member ∈ members, member.2.Plain) :
    (Members.ofList members).Plain := by
  induction members with
  | nil => trivial
  | cons member rest ih =>
      obtain ⟨here, later⟩ := List.forall_mem_cons.mp each
      exact ⟨rfl, here, ih later⟩

theorem text_value_plain (text : Option String) (value : Value) (present : textValue? text = some value) : value.Plain := by
  obtain ⟨text, _, rfl⟩ := Option.map_eq_some_iff.mp present
  exact rfl

theorem rule_to_value_plain (rule : RuleDocument)
    (tables : ∀ key value, (rule.table key).value? = some value → value.Plain)
    (patterns : ∀ value, rule.patterns.value? = some value → value.Plain) : rule.toValue.Plain := by
  rw [rule_to_value]
  refine members_of_list_plain _ ?_
  intro member listed
  obtain ⟨key, _, isMember⟩ := List.mem_filterMap.mp listed
  obtain ⟨value, present, rfl⟩ := Option.map_eq_some_iff.mp isMember
  unfold RuleDocument.value? at present
  split at present
  · unfold flagValue? at present
    split at present
    · cases present
      trivial
    · cases present
  · split at present
    · exact patterns value present
    · split at present
      · exact tables key value present
      · exact text_value_plain _ value present

mutual
theorem rule_written_plain (rule : RuleDocument) : rule.toValue.Plain := by
  cases rule with
  | mk keys captures beginCaptures endCaptures whileCaptures patterns repository =>
      refine rule_to_value_plain _ ?_ (fun value present => optional_rules_plain patterns value present)
      intro key value present
      cases key with
      | captures => exact optional_table_plain captures value present
      | beginCaptures => exact optional_table_plain beginCaptures value present
      | endCaptures => exact optional_table_plain endCaptures value present
      | whileCaptures => exact optional_table_plain whileCaptures value present
      | repository => exact optional_table_plain repository value present
      | _ => cases present
theorem optional_table_plain (table : OptionalTable) (value : Value) (present : table.value? = some value) : value.Plain := by
  cases table with
  | absent => cases present
  | present table =>
      cases present
      exact table_plain table
theorem optional_rules_plain (rules : OptionalRules) (value : Value) (present : rules.value? = some value) : value.Plain := by
  cases rules with
  | absent => cases present
  | present rules =>
      cases present
      exact sequence_plain rules
theorem table_plain (table : RuleTable) : table.toMembers.Plain := by
  cases table with
  | nil => trivial
  | cons key rule tail => exact ⟨rfl, rule_written_plain rule, table_plain tail⟩
theorem sequence_plain (rules : RuleSequence) : rules.toItems.Plain := by
  cases rules with
  | nil => trivial
  | cons rule tail => exact ⟨rule_written_plain rule, sequence_plain tail⟩
end

end Plain

end LineScope.Grammar
