import LineScope.Proofs.Grammar.Link
import LineScope.Proofs.Grammar.RuleText

set_option autoImplicit false

namespace LineScope.Grammar

open Json (Value Items Members Refusal)

section Documents

def RuleTable.value? : RuleTable → Option Value
  | .nil => none
  | .cons key rule tail => some (.object (RuleTable.cons key rule tail).toMembers)

def textsValue? : List String → Option Value
  | [] => none
  | text :: rest => some (.array (.ofList ((text :: rest).map fun text => .text (some text))))

namespace Document

def value? (document : Document) : DocumentKey → Option Value
  | .scopeName => some (.text (some document.scopeName))
  | .name => textValue? document.name
  | .fileTypes => textsValue? document.fileTypes
  | .firstLineMatch => textValue? document.firstLineMatch
  | .patterns => some (.array document.patterns.toItems)
  | .repository => document.repository.value?
  | .injections => document.injections.value?
  | .injectionSelector => textValue? document.injectionSelector

def member? (document : Document) (key : DocumentKey) : Option (String × Value) :=
  (document.value? key).map fun value => (key.text, value)

def take (source document : Document) : DocumentKey → Document
  | .scopeName => { document with scopeName := source.scopeName }
  | .name => { document with name := source.name }
  | .fileTypes => { document with fileTypes := source.fileTypes }
  | .firstLineMatch => { document with firstLineMatch := source.firstLineMatch }
  | .patterns => { document with patterns := source.patterns }
  | .repository => { document with repository := source.repository }
  | .injections => { document with injections := source.injections }
  | .injectionSelector => { document with injectionSelector := source.injectionSelector }

-- A document that a reader accepts: its rules stand two levels deep.
structure Fits (document : Document) : Prop where
  patterns : document.patterns.Fits 2
  repository : document.repository.Fits 2
  injections : document.injections.Fits 2

end Document

theorem document_to_value (document : Document) :
    document.toValue = .object (.ofList (DocumentKey.order.filterMap document.member?)) := by
  have texts : (if document.fileTypes.isEmpty then []
      else [("fileTypes", Value.array (.ofList (document.fileTypes.map fun t => .text (some t))))]) =
      ((textsValue? document.fileTypes).map fun value => ("fileTypes", value)).toList := by
    cases document.fileTypes <;> rfl
  have tables : ∀ key (table : RuleTable), tableMember key table = (table.value?.map fun value => (key, value)).toList :=
    fun key table => by cases table <;> rfl
  rw [Document.toValue, texts]
  simp only [text_member_eq, tables, DocumentKey.order, filter_map_cons, List.append_assoc, List.filterMap_nil,
    List.append_nil]
  rfl

theorem document_take_comm (source document : Document) (first second : DocumentKey) :
    source.take (source.take document first) second = source.take (source.take document second) first := by
  cases first <;> cases second <;> rfl

theorem document_take_blank (source : Document) (key : DocumentKey) (missing : source.value? key = none) :
    source.take { scopeName := "" } key = { scopeName := "" } := by
  have texts : ∀ text : Option String, textValue? text = none → text = none := fun text => by cases text <;> simp [textValue?]
  have tables : ∀ table : RuleTable, table.value? = none → table = .nil := fun table => by cases table <;> simp [RuleTable.value?]
  have lists : ∀ list : List String, textsValue? list = none → list = [] := fun list => by cases list <;> simp [textsValue?]
  cases key with
  | scopeName => cases missing
  | patterns => cases missing
  | name => rw [Document.take, texts _ missing]
  | fileTypes => rw [Document.take, lists _ missing]
  | firstLineMatch => rw [Document.take, texts _ missing]
  | repository => rw [Document.take, tables _ missing]
  | injections => rw [Document.take, tables _ missing]
  | injectionSelector => rw [Document.take, texts _ missing]

theorem document_take_all (source : Document) : DocumentKey.order.foldl source.take { scopeName := "" } = source := by
  simp [DocumentKey.order, Document.take]

theorem document_key_of_text (key : DocumentKey) : DocumentKey.ofText? key.text = some key := by
  cases key <;> rfl

theorem texts_of_list (texts : List String) : (Items.ofList (texts.map fun text => Value.text (some text))).texts = .ok texts := by
  induction texts with
  | nil => rfl
  | cons text rest ih =>
      rw [List.map_cons, Items.ofList, Items.texts, ih]
      rfl

theorem optional_text_written (text : Option String) (value : Value) (present : textValue? text = some value) :
    value.optional Value.asText = .ok text := by
  obtain ⟨text, rfl, rfl⟩ := Option.map_eq_some_iff.mp present
  rfl

theorem read_rule_table_written (table : RuleTable) (value : Value) (fits : table.Fits 2)
    (present : table.value? = some value) : readRuleTable 1 value = .ok table := by
  cases table with
  | nil => cases present
  | cons key rule tail =>
      cases present
      exact read_table_written 2 .nil _ (fun _ _ => rfl) fits

theorem read_document_key_written (source document : Document) (fits : source.Fits) (key : DocumentKey) (value : Value)
    (present : source.value? key = some value) : readDocumentKey 1 document key value = .ok (source.take document key) := by
  cases key with
  | scopeName =>
      cases present
      rfl
  | name => rw [readDocumentKey, optional_text_written _ value present]; rfl
  | firstLineMatch => rw [readDocumentKey, optional_text_written _ value present]; rfl
  | injectionSelector => rw [readDocumentKey, optional_text_written _ value present]; rfl
  | fileTypes =>
      cases texts : source.fileTypes with
      | nil =>
          rw [Document.value?, texts] at present
          cases present
      | cons text rest =>
          rw [Document.value?, texts] at present
          cases present
          have read : (Value.array (.ofList ((text :: rest).map fun text => .text (some text)))).asTexts 1 =
              .ok (text :: rest) := texts_of_list (text :: rest)
          rw [readDocumentKey, read, Document.take, texts]
          rfl
  | patterns =>
      cases present
      have read : readRuleSequence 1 (.array source.patterns.toItems) = .ok source.patterns :=
        read_sequence_written 2 source.patterns fits.patterns
      rw [readDocumentKey, read]
      rfl
  | repository => rw [readDocumentKey, read_rule_table_written _ value fits.repository present]; rfl
  | injections => rw [readDocumentKey, read_rule_table_written _ value fits.injections present]; rfl

theorem read_rule_sequence_fits (value : Value) (rules : RuleSequence) (read : readRuleSequence 1 value = .ok rules) :
    rules.Fits 2 := by
  cases value with
  | array items =>
      obtain ⟨inner, entered, within⟩ := bind_ok read
      obtain ⟨_, rfl⟩ := enter_ok entered
      exact read_sequence_fits 2 items rules within
  | _ => cases read

theorem read_rule_table_fits (value : Value) (table : RuleTable) (read : readRuleTable 1 value = .ok table) :
    table.Fits 2 := by
  cases value with
  | object members =>
      obtain ⟨inner, entered, within⟩ := bind_ok read
      obtain ⟨_, rfl⟩ := enter_ok entered
      exact read_table_fits 2 members .nil table trivial within
  | _ => cases read

theorem read_document_key_fits (before after : Document) (key : DocumentKey) (value : Value) (fits : before.Fits)
    (read : readDocumentKey 1 before key value = .ok after) : after.Fits := by
  cases key with
  | patterns =>
      obtain ⟨rules, isRules, isAfter⟩ := bind_ok read
      cases isAfter
      exact { fits with patterns := read_rule_sequence_fits value rules isRules }
  | repository =>
      obtain ⟨table, isTable, isAfter⟩ := bind_ok read
      cases isAfter
      exact { fits with repository := read_rule_table_fits value table isTable }
  | injections =>
      obtain ⟨table, isTable, isAfter⟩ := bind_ok read
      cases isAfter
      exact { fits with injections := read_rule_table_fits value table isTable }
  | _ =>
      obtain ⟨_, _, isAfter⟩ := bind_ok read
      cases isAfter
      exact ⟨fits.patterns, fits.repository, fits.injections⟩

theorem to_document_fits (grammar : PartialDocument) (document : Document) (fits : grammar.document.Fits)
    (accepted : grammar.toDocument = .ok document) : document.Fits := by
  unfold PartialDocument.toDocument at accepted
  split at accepted
  · cases accepted
    exact fits
  · cases accepted

theorem read_document_members_fits (members : Members) (grammar : PartialDocument) (document : Document)
    (fits : grammar.document.Fits) (read : readDocumentMembers 1 grammar members = .ok document) : document.Fits := by
  cases members with
  | nil => exact to_document_fits grammar document fits read
  | cons key value tail =>
      rw [readDocumentMembers] at read
      obtain ⟨text, _, within⟩ := bind_ok read
      split at within
      · obtain ⟨_, _, later⟩ := bind_ok within
        exact read_document_members_fits tail grammar document fits later
      · split at within
        · cases within
        · obtain ⟨next, isNext, later⟩ := bind_ok within
          exact read_document_members_fits tail _ document (read_document_key_fits _ next _ value fits isNext) later
  | fault kept skipped => cases read

theorem read_document_items_fits (items : Items) (grammar : PartialDocument) (keys : List DocumentKey)
    (document : Document) (fits : grammar.document.Fits)
    (read : readDocumentItems 1 grammar keys items = .ok document) : document.Fits := by
  cases items with
  | nil => exact to_document_fits grammar document fits (by cases keys <;> exact read)
  | cons value tail =>
      cases keys with
      | nil => cases read
      | cons key keys =>
          obtain ⟨next, isNext, later⟩ := bind_ok read
          exact read_document_items_fits tail _ keys document (read_document_key_fits _ next key value fits isNext) later
  | fault fault => cases keys <;> cases read

theorem read_document_fits (value : Value) (document : Document) (read : readDocument value = .ok document) :
    document.Fits := by
  cases value with
  | object members => exact read_document_members_fits members {} document ⟨trivial, trivial, trivial⟩ read
  | array items => exact read_document_items_fits items {} _ document ⟨trivial, trivial, trivial⟩ read
  | _ => cases read

theorem read_document_members_written (source : Document) (fits : source.Fits) (keys : List DocumentKey)
    (distinct : keys.Nodup) (grammar : PartialDocument) (new : ∀ key ∈ keys, key ∉ grammar.seen)
    (named : .scopeName ∈ grammar.seen ∨ .scopeName ∈ keys) :
    readDocumentMembers 1 grammar (.ofList (keys.filterMap source.member?)) =
      .ok ((keys.filter fun key => (source.value? key).isSome).foldl source.take grammar.document) := by
  induction keys generalizing grammar with
  | nil =>
      have seen : grammar.seen.contains .scopeName = true := by simpa using named
      exact if_pos seen
  | cons key keys ih =>
      obtain ⟨isNew, others⟩ := List.nodup_cons.mp distinct
      obtain ⟨unseen, later⟩ := List.forall_mem_cons.mp new
      cases present : source.value? key with
      | none =>
          have stillNamed : DocumentKey.scopeName ∈ grammar.seen ∨ DocumentKey.scopeName ∈ keys := by
            rcases named with before | listed
            · exact .inl before
            · rcases List.mem_cons.mp listed with rfl | listed
              · cases present
              · exact .inr listed
          rw [List.filterMap_cons_none (by simp [Document.member?, present]), List.filter_cons_of_neg (by simp [present])]
          exact ih others grammar later stillNamed
      | some value =>
          have member : source.member? key = some (key.text, value) := by simp [Document.member?, present]
          have stillNew : ∀ other ∈ keys, other ∉ key :: grammar.seen := by
            intro other listed isSeen
            rcases List.mem_cons.mp isSeen with rfl | before
            · exact isNew listed
            · exact later other listed before
          have stillNamed : DocumentKey.scopeName ∈ key :: grammar.seen ∨ DocumentKey.scopeName ∈ keys := by
            rcases named with before | listed
            · exact .inl (List.mem_cons_of_mem key before)
            · rcases List.mem_cons.mp listed with rfl | listed
              · exact .inl List.mem_cons_self
              · exact .inr listed
          have step : readDocumentMembers 1 grammar (.ofList ((key.text, value) :: keys.filterMap source.member?)) =
              readDocumentMembers 1 ⟨key :: grammar.seen, source.take grammar.document key⟩
                (.ofList (keys.filterMap source.member?)) := by
            have read := read_document_key_written source grammar.document fits key value present
            rw [Members.ofList, readDocumentMembers]
            simp only [Json.keyText, document_key_of_text, List.contains_eq_mem, unseen, decide_false, Bool.false_eq_true,
              if_false, bind, Except.bind]
            rw [read]
          rw [List.filterMap_cons_some member, List.filter_cons_of_pos (by simp [present]), step,
            ih others _ stillNew stillNamed, List.foldl_cons]

theorem read_document_written (document : Document) (fits : document.Fits) :
    readDocument document.toValue = .ok document := by
  have whole := read_document_members_written document fits DocumentKey.order (by decide) {} (by simp) (.inr (by decide))
  rw [fold_present _ _ (document_take_comm document) _ _
    fun key missing => document_take_blank document key (by simpa using missing), document_take_all] at whole
  rw [document_to_value]
  exact whole

theorem texts_plain (texts : List String) : (Items.ofList (texts.map fun text => Value.text (some text))).Plain := by
  induction texts with
  | nil => trivial
  | cons text rest ih => exact ⟨rfl, ih⟩

theorem document_value_plain (document : Document) (key : DocumentKey) (value : Value)
    (present : document.value? key = some value) : value.Plain := by
  have tables : ∀ table : RuleTable, table.value? = some value → value.Plain := by
    intro table written
    cases table with
    | nil => cases written
    | cons name rule tail =>
        cases written
        exact table_plain _
  cases key with
  | scopeName =>
      cases present
      exact rfl
  | name => exact text_value_plain _ value present
  | firstLineMatch => exact text_value_plain _ value present
  | injectionSelector => exact text_value_plain _ value present
  | repository => exact tables _ present
  | injections => exact tables _ present
  | patterns =>
      cases present
      exact sequence_plain _
  | fileTypes =>
      rw [Document.value?] at present
      cases texts : document.fileTypes with
      | nil =>
          rw [texts] at present
          cases present
      | cons text rest =>
          rw [texts] at present
          cases present
          exact texts_plain (text :: rest)

theorem document_written_plain (document : Document) : document.toValue.Plain := by
  rw [document_to_value]
  refine members_of_list_plain _ ?_
  intro member listed
  obtain ⟨key, _, isMember⟩ := List.mem_filterMap.mp listed
  obtain ⟨value, present, rfl⟩ := Option.map_eq_some_iff.mp isMember
  exact document_value_plain document key value present

theorem parse_fits (text : String) (document : Document) (accepted : Document.parse text = .ok document) : document.Fits := by
  obtain ⟨read, isRead, within⟩ := bind_ok accepted
  split at within
  · cases within
  · cases within
    exact read_document_fits _ document isRead

theorem parse_written (document : Document) (fits : document.Fits) : Document.parse document.write = .ok document := by
  rw [Document.parse, Document.write, String.toList_ofList, Json.read_written _ (document_written_plain document),
    Json.Document.decode, read_document_written document fits]
  rfl

/-- Reading a written document gives it back, so what is written tells documents apart. -/
theorem written_document_reads_back (text : String) (document : Document) (accepted : Document.parse text = .ok document) :
    Document.parse document.write = .ok document ∧
      (∀ otherText other, Document.parse otherText = .ok other → other.write = document.write → other = document) ∧
      (Document.parse document.write).map Document.write = .ok document.write := by
  have back := parse_written document (parse_fits text document accepted)
  refine ⟨back, ?_, ?_⟩
  · intro otherText other otherAccepted same
    have otherBack := parse_written other (parse_fits otherText other otherAccepted)
    rw [same, back] at otherBack
    cases otherBack
    rfl
  · rw [back]
    rfl

-- A grammar written as an array, with an unknown key, a capture written twice and a flag that is a number.
def unevenText : String :=
  "[\"s\", null, [], null, [\x7b\"end\": \"\", \"begin\": \"\\u0041\", \"unknown\": [1e9], \"applyEndPatternLast\": -3, " ++
    "\"captures\": \x7b\"1\": [], \"0\": [\"#a\"], \"1\": \x7b\"patterns\": []\x7d\x7d\x7d], \x7b\x7d]"

def evenText : String :=
  "\x7b\"scopeName\":\"s\",\"patterns\":[\x7b\"captures\":\x7b\"1\":\x7b\"patterns\":[]\x7d,\"0\":\x7b\"include\":\"#a\"\x7d\x7d," ++
    "\"begin\":\"A\",\"end\":\"\",\"applyEndPatternLast\":true\x7d]\x7d"

theorem uneven_text_reads_back : ∃ document, Document.parse unevenText = .ok document ∧ document.write = evenText ∧
    Document.parse document.write = .ok document := by
  have written : (Document.parse unevenText).toOption.map Document.write = some evenText := by decide +kernel
  cases accepted : Document.parse unevenText with
  | error refusal =>
      rw [accepted] at written
      cases written
  | ok document =>
      rw [accepted] at written
      exact ⟨document, rfl, Option.some.inj written, (written_document_reads_back unevenText document accepted).1⟩

end Documents

section Keys

theorem table_keys_distinct (depth : Nat) (table : RuleTable) (fits : table.Fits depth) :
    (table.toList.map Prod.fst).Nodup := by
  have missing : ∀ (key : String) (table : RuleTable), table.get? key = none → key ∉ table.toList.map Prod.fst := by
    intro key table nothing
    induction table using RuleTable.toList.induct with
    | case1 => exact List.not_mem_nil
    | case2 other rule tail ih =>
        rw [RuleTable.get?] at nothing
        split at nothing
        · cases nothing
        · rename_i different
          exact List.not_mem_cons_of_ne_of_not_mem (Ne.symm different) (ih nothing)
  induction table using RuleTable.toList.induct with
  | case1 => exact List.nodup_nil
  | case2 key rule tail ih => exact List.nodup_cons.mpr ⟨missing key tail fits.1, ih fits.2.2⟩

theorem table_get_fits (depth : Nat) (table : RuleTable) (key : String) (rule : RuleDocument) (fits : table.Fits depth)
    (found : table.get? key = some rule) : rule.Fits depth := by
  induction table using RuleTable.toList.induct with
  | case1 => cases found
  | case2 other first tail ih =>
      rw [RuleTable.get?] at found
      split at found
      · cases found
        exact fits.2.1
      · exact ih fits.2.2 found

theorem sequence_get_fits (depth index : Nat) (rules : RuleSequence) (rule : RuleDocument) (fits : rules.Fits depth)
    (found : rules.toList[index]? = some rule) : rule.Fits depth := by
  induction rules using RuleSequence.toList.induct generalizing index with
  | case1 => cases found
  | case2 first tail ih =>
      cases index with
      | zero =>
          cases found
          exact fits.1
      | succ index => exact ih index fits.2 found

theorem capture_table_fits (depth : Nat) (rule : RuleDocument) (key : String) (fits : rule.Fits depth) :
    (rule.captureTable key).Fits (depth + 1) := by
  obtain ⟨keys, captures, beginCaptures, endCaptures, whileCaptures, patterns, repository⟩ := rule
  obtain ⟨_, capturesFit, beginFit, endFit, whileFit, _, _⟩ := fits
  rw [RuleDocument.captureTable]
  split
  · exact capturesFit
  · split
    · exact beginFit
    · split
      · exact endFit
      · split
        · exact whileFit
        · trivial

theorem follow_fits (depth : Nat) (rule child : RuleDocument) (step : Step) (fits : rule.Fits depth)
    (found : rule.follow? step = some child) : child.Fits (depth + 2) := by
  have inTable : ∀ (table : OptionalTable) (key : String), table.Fits (depth + 1) →
      table.table?.bind (RuleTable.get? key) = some child → child.Fits (depth + 2) := by
    intro table key tableFits there
    cases table with
    | absent => cases there
    | present table => exact table_get_fits _ table key child tableFits.2 there
  cases step with
  | repository name =>
      obtain ⟨keys, captures, beginCaptures, endCaptures, whileCaptures, patterns, repository⟩ := rule
      exact inTable repository name fits.2.2.2.2.2.2 found
  | capture table key => exact inTable _ key (capture_table_fits depth rule table fits) found
  | injection selector => cases found
  | pattern index =>
      obtain ⟨keys, captures, beginCaptures, endCaptures, whileCaptures, patterns, repository⟩ := rule
      cases patterns with
      | absent => cases found
      | present rules => exact sequence_get_fits _ index rules child fits.2.2.2.2.2.1.2 found

theorem rule_at_fits (document : Document) (fits : document.Fits) (address : Address) (rule : RuleDocument)
    (placed : document.ruleAt? address = some rule) : ∃ depth, rule.Fits depth := by
  induction address generalizing rule with
  | nil => cases placed
  | cons step owner ih =>
      cases owner with
      | cons next owner =>
          obtain ⟨outer, isOuter, follows⟩ := Option.bind_eq_some_iff.mp placed
          obtain ⟨depth, outerFits⟩ := ih outer isOuter
          exact ⟨depth + 2, follow_fits depth outer rule step outerFits follows⟩
      | nil =>
          cases step with
          | repository name => exact ⟨2, table_get_fits 2 _ name rule fits.repository placed⟩
          | pattern index => exact ⟨2, sequence_get_fits 2 index _ rule fits.patterns placed⟩
          | injection selector => exact ⟨2, table_get_fits 2 _ selector rule fits.injections placed⟩
          | capture table key => cases placed

theorem parsed_distinct (text : String) (document : Document) (accepted : Document.parse text = .ok document) :
    document.Distinct where
  repository := table_keys_distinct 2 _ (parse_fits text document accepted).repository
  injections := table_keys_distinct 2 _ (parse_fits text document accepted).injections
  captures address rule placed key := by
    obtain ⟨depth, fits⟩ := rule_at_fits document (parse_fits text document accepted) address rule placed
    have tableFits := capture_table_fits depth rule key fits
    cases table : rule.captureTable key with
    | absent => exact List.nodup_nil
    | present own =>
        rw [table] at tableFits
        exact table_keys_distinct _ own tableFits.2

end Keys

end LineScope.Grammar
