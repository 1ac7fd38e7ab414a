import LineScope.Proofs.Grammar.DocumentText
import LineScope.Proofs.Grammar.Following
import LineScope.Proofs.Grammar.Placement

/-!
Where diagnostics point. Read as a path into the document, with slashes between its parts, the location
of a diagnostic leads to what it is about, as long as the rule that it is found in is compiled where it
stands. An entry that an include comes to first is compiled at the place of that include. This does not
happen if includes look back: to entries of the grammar that come no later than the entry they stand in.
-/

set_option autoImplicit false

namespace LineScope

namespace Json

def Members.get? (key : String) : Members → Option Value
  | .cons name value tail => if name = some key then some value else tail.get? key
  | .nil | .fault _ _ => none

def Items.get? (segment : String) (index : Nat) : Items → Option Value
  | .cons head tail => if toString index = segment then some head else tail.get? segment (index + 1)
  | .nil | .fault _ => none

def Value.child? (value : Value) (segment : String) : Option Value :=
  match value with
  | .object members => members.get? segment
  | .array items => items.get? segment 0
  | _ => none

def Value.at? (value : Value) : List String → Option Value
  | [] => some value
  | segment :: rest => (value.child? segment).bind fun child => child.at? rest

theorem at_append (value : Value) (path further : List String) :
    value.at? (path ++ further) = (value.at? path).bind fun reached => reached.at? further := by
  induction path generalizing value with
  | nil => rfl
  | cons segment rest ih =>
      rw [List.cons_append, Value.at?, Value.at?]
      cases value.child? segment with
      | none => rfl
      | some child => exact ih child

theorem members_get {κ : Type} (text : κ → String) (value? : κ → Option Value) (injective : Function.Injective text)
    (keys : List κ) (key : κ) (listed : key ∈ keys) (distinct : keys.Nodup) :
    (Members.ofList (keys.filterMap fun key => (value? key).map fun value => (text key, value))).get? (text key) =
      value? key := by
  have missing : ∀ keys : List κ, key ∉ keys →
      (Members.ofList (keys.filterMap fun key => (value? key).map fun value => (text key, value))).get? (text key) = none := by
    intro keys unlisted
    induction keys with
    | nil => rfl
    | cons first rest ih =>
        obtain ⟨different, others⟩ : key ≠ first ∧ key ∉ rest := by simpa using unlisted
        cases here : value? first with
        | none => simpa [here] using ih others
        | some value =>
            have named : text first ≠ text key := fun same => different (injective same).symm
            simpa [here, Members.ofList, Members.get?, named] using ih others
  induction keys with
  | nil => cases listed
  | cons first rest ih =>
      obtain ⟨isNew, others⟩ := List.nodup_cons.mp distinct
      rcases List.mem_cons.mp listed with rfl | later
      · cases here : value? key with
        | none => simpa [here] using missing rest isNew
        | some value => simp [here, Members.ofList, Members.get?]
      · have named : text first ≠ text key := fun same => isNew (injective same ▸ later)
        cases here : value? first with
        | none => simpa [here] using ih later others
        | some value => simpa [here, Members.ofList, Members.get?, named] using ih later others

end Json

namespace Grammar

open Json (Value Items Members)

section Written

theorem table_members_get (table : RuleTable) (key : String) :
    table.toMembers.get? key = (table.get? key).map RuleDocument.toValue := by
  cases table with
  | nil => rfl
  | cons name rule tail =>
      rw [RuleTable.toMembers, Members.get?, RuleTable.get?, table_members_get tail key]
      by_cases same : name = key
      · simp [same]
      · simp [same]

theorem index_digits (index : Nat) : (toString index).toList = Nat.toDigits 10 index := Nat.toList_repr

theorem index_text_injective (first second : Nat) (same : toString first = toString second) : first = second := by
  have digits := congrArg (fun text : String => Nat.ofDigitChars 10 text.toList 0) same
  simpa only [index_digits, Nat.ofDigitChars_ten_toDigits] using digits

theorem sequence_items_get (rules : RuleSequence) (start offset : Nat) :
    rules.toItems.get? (toString (start + offset)) start = (rules.toList[offset]?).map RuleDocument.toValue := by
  cases rules with
  | nil => rfl
  | cons rule tail =>
      rw [RuleSequence.toItems, RuleSequence.toList, Items.get?]
      cases offset with
      | zero => exact if_pos rfl
      | succ offset =>
          have different : toString start ≠ toString (start + (offset + 1)) := fun same => by
            have impossible := index_text_injective _ _ same
            omega
          rw [if_neg different, ← Nat.add_assoc, Nat.add_right_comm]
          exact sequence_items_get tail (start + 1) offset

theorem rule_child (rule : RuleDocument) (key : RuleKey) : rule.toValue.child? key.text = rule.value? key := by
  rw [rule_to_value]
  refine Json.members_get RuleKey.text rule.value? ?_ RuleKey.order key ?_ (by decide)
  · intro first second same
    have found := rule_key_of_text first
    rw [same, rule_key_of_text second] at found
    exact (Option.some.inj found).symm
  · cases key <;> decide

theorem document_child (document : Document) (key : DocumentKey) :
    document.toValue.child? key.text = document.value? key := by
  rw [document_to_value]
  refine Json.members_get DocumentKey.text document.value? ?_ DocumentKey.order key ?_ (by decide)
  · intro first second same
    have found := document_key_of_text first
    rw [same, document_key_of_text second] at found
    exact (Option.some.inj found).symm
  · cases key <;> decide

theorem table_value_at (table : RuleTable) (name : String) (rule : RuleDocument) (found : table.get? name = some rule) :
    (Value.object table.toMembers).at? [name] = some rule.toValue := by
  rw [Value.at?, Value.child?, table_members_get, found]
  rfl

theorem sequence_value_at (rules : RuleSequence) (index : Nat) (rule : RuleDocument)
    (found : rules.toList[index]? = some rule) :
    (Value.array rules.toItems).at? [toString index] = some rule.toValue := by
  have item := sequence_items_get rules 0 index
  rw [Nat.zero_add, found] at item
  rw [Value.at?, Value.child?, item]
  rfl

theorem optional_table_at (table : OptionalTable) (name : String) (rule : RuleDocument)
    (found : table.table?.bind (RuleTable.get? name) = some rule) :
    ∃ value, table.value? = some value ∧ value.at? [name] = some rule.toValue := by
  cases table with
  | absent => cases found
  | present table => exact ⟨_, rfl, table_value_at table name rule found⟩

theorem follow_at (rule child : RuleDocument) (step : Step) (follows : rule.follow? step = some child) :
    rule.toValue.at? step.segments = some child.toValue := by
  have table : ∀ (key : RuleKey) (name : String), key.holdsTable →
      (rule.table key).table?.bind (RuleTable.get? name) = some child →
      rule.toValue.at? [key.text, name] = some child.toValue := by
    intro key name holds found
    obtain ⟨value, isValue, reached⟩ := optional_table_at _ name child found
    have written : rule.value? key = some value := by
      rw [← isValue]
      cases key <;> first | rfl | cases holds
    rw [Value.at?, rule_child, written]
    exact reached
  cases step with
  | repository name => exact table .repository name rfl follows
  | pattern index =>
      cases patterns : rule.patterns with
      | absent =>
          rw [RuleDocument.follow?, patterns] at follows
          cases follows
      | present rules =>
          rw [RuleDocument.follow?, patterns] at follows
          have written : rule.value? .patterns = some (.array rules.toItems) := by
            change rule.patterns.value? = _
            rw [patterns]
            rfl
          have child : rule.toValue.child? "patterns" = rule.value? .patterns := rule_child rule .patterns
          rw [Step.segments, Value.at?, child, written]
          exact sequence_value_at rules index _ follows
  | capture name key =>
      rw [RuleDocument.follow?, RuleDocument.captureTable] at follows
      split at follows
      · rename_i same
        subst same
        exact table .captures key rfl follows
      · split at follows
        · rename_i same
          subst same
          exact table .beginCaptures key rfl follows
        · split at follows
          · rename_i same
            subst same
            exact table .endCaptures key rfl follows
          · split at follows
            · rename_i same
              subst same
              exact table .whileCaptures key rfl follows
            · cases follows
  | injection selector => cases follows

theorem enter_at (document : Document) (rule : RuleDocument) (step : Step) (enters : document.enter? step = some rule) :
    document.toValue.at? step.segments = some rule.toValue := by
  have table : ∀ (key : DocumentKey) (table : RuleTable) (name : String), document.value? key = table.value? →
      table.get? name = some rule → document.toValue.at? [key.text, name] = some rule.toValue := by
    intro key table name isValue found
    have written : table.value? = some (.object table.toMembers) := by
      cases table with
      | nil => cases found
      | cons name rule tail => rfl
    rw [Value.at?, document_child, isValue, written]
    exact table_value_at table name rule found
  cases step with
  | repository name => exact table .repository _ name rfl enters
  | injection selector => exact table .injections _ selector rfl enters
  | pattern index =>
      have child : document.toValue.child? "patterns" = document.value? .patterns := document_child document .patterns
      rw [Step.segments, Value.at?, child]
      exact sequence_value_at document.patterns index rule enters
  | capture name key => cases enters

theorem rule_at_path (document : Document) (address : Address) (rule : RuleDocument)
    (placed : document.ruleAt? address = some rule) : document.toValue.at? (pathTo address) = some rule.toValue := by
  induction address generalizing rule with
  | nil => cases placed
  | cons step owner ih =>
      cases owner with
      | nil => exact enter_at document rule step placed
      | cons next owner =>
          obtain ⟨outer, isOuter, follows⟩ := Option.bind_eq_some_iff.mp placed
          rw [pathTo, Json.at_append, ih outer isOuter]
          exact follow_at outer rule step follows

theorem rule_text_at (rule : RuleDocument) (key : RuleKey) (source : String) (written : rule.text? key = some source) :
    rule.toValue.at? [key.text] = some (.text (some source)) := by
  have isValue : rule.value? key = some (.text (some source)) := by
    have texts : textValue? (rule.text? key) = some (.text (some source)) := by rw [written]; rfl
    cases key <;> first | exact texts | cases written
  rw [Value.at?, rule_child, isValue]
  rfl

end Written

section Paths

def segmentsOf (location : String) : List String := (location.toList.splitOn '/').map String.ofList

theorem intercalate_cons (first : List Char) (rest : List (List Char)) :
    ['/'].intercalate (first :: rest) = first ++ rest.flatMap fun segment => '/' :: segment := by
  induction rest generalizing first with
  | nil => simp [List.intercalate]
  | cons second rest ih =>
      have later := ih second
      simp only [List.intercalate, List.intersperse, List.flatten_cons] at later ⊢
      rw [later]
      simp

theorem locate_to_list (location : String) (path : List String) (nonempty : location ≠ "") :
    (locate location path).toList = location.toList ++ (path.map String.toList).flatMap fun segment => '/' :: segment := by
  induction path generalizing location with
  | nil => simp [locate]
  | cons segment rest ih =>
      have notEmpty : location.isEmpty = false := by simpa [String.isEmpty_iff] using nonempty
      have joined : join location segment = location ++ "/" ++ segment := by rw [join, notEmpty]; rfl
      have further : location ++ "/" ++ segment ≠ "" := by simp [String.append_eq_empty_iff]
      have later := ih _ further
      rw [locate] at later ⊢
      rw [List.foldl_cons, joined, later]
      simp

theorem segments_locate (first : String) (rest : List String) (nonempty : first ≠ "")
    (plain : ∀ segment ∈ first :: rest, '/' ∉ segment.toList) : segmentsOf (locate "" (first :: rest)) = first :: rest := by
  have start : locate "" (first :: rest) = locate first rest := rfl
  have written : (locate "" (first :: rest)).toList = ['/'].intercalate ((first :: rest).map String.toList) := by
    rw [start, locate_to_list first rest nonempty, List.map_cons, intercalate_cons]
  rw [segmentsOf, written, List.splitOn_intercalate _ _ (by simp)]
  · simp
  · simpa using plain

end Paths

def Step.name? : Step → Option String
  | .repository name | .injection name | .capture _ name => some name
  | .pattern _ => none

def Document.Slashless (document : Document) : Prop :=
  ∀ step owner, (document.ruleAt? (step :: owner)).isSome → ∀ name ∈ step.name?, '/' ∉ name.toList

-- What a diagnostic is about stands where its location leads.
def Diagnostic.Points (document : Document) (diagnostic : Diagnostic) : Prop :=
  let path := segmentsOf diagnostic.location
  match diagnostic.problem with
  | .invalidPattern pattern _ => document.toValue.at? path = some (.text (some pattern))
  | .unresolvedInclude target =>
      ∃ rule : RuleDocument, document.toValue.at? path = some rule.toValue ∧ rule.keys.includeTarget = some target
  | .invalidShape (.keys error) =>
      ∃ rule : RuleDocument, document.toValue.at? path = some rule.toValue ∧ rule.keys.shape = .error error
  | .invalidShape (.captureKey key) =>
      ∃ rule : RuleDocument, document.toValue.at? path = some rule.toValue ∧ path.getLast? = some key
  | .invalidSelector selector _ =>
      path = ["injections", selector] ∧ (∃ rule : RuleDocument, document.toValue.at? path = some rule.toValue) ∨
        path = ["injectionSelector"] ∧ document.toValue.at? path = some (.text (some selector))

section Pointing

variable {document : Document} (slashless : document.Slashless)

theorem path_starts (address : Address) (rule : RuleDocument) (placed : document.ruleAt? address = some rule) :
    ∃ first rest, pathTo address = first :: rest ∧ first ≠ "" := by
  induction address generalizing rule with
  | nil => cases placed
  | cons step owner ih =>
      cases owner with
      | nil =>
          cases step with
          | repository name => exact ⟨"repository", [name], rfl, by decide⟩
          | pattern index => exact ⟨"patterns", [toString index], rfl, by decide⟩
          | injection selector => exact ⟨"injections", [selector], rfl, by decide⟩
          | capture table key => cases placed
      | cons next owner =>
          obtain ⟨outer, isOuter, _⟩ := Option.bind_eq_some_iff.mp placed
          obtain ⟨first, rest, isPath, nonempty⟩ := ih outer isOuter
          exact ⟨first, rest ++ step.segments, by rw [pathTo, isPath]; rfl, nonempty⟩

theorem index_plain (index : Nat) : '/' ∉ (toString index).toList := by
  rw [index_digits]
  intro member
  have digit := Nat.isDigit_of_mem_toDigits (by decide) (by decide) member
  revert digit
  decide

theorem capture_table_named (rule child : RuleDocument) (table key : String)
    (follows : rule.follow? (.capture table key) = some child) :
    table ∈ ["captures", "beginCaptures", "endCaptures", "whileCaptures"] := by
  rw [RuleDocument.follow?, RuleDocument.captureTable] at follows
  by_contra unlisted
  simp only [List.mem_cons, List.not_mem_nil, or_false, not_or] at unlisted
  obtain ⟨notCaptures, notBegin, notEnd, notWhile⟩ := unlisted
  rw [if_neg notCaptures, if_neg notBegin, if_neg notEnd, if_neg notWhile] at follows
  cases follows

theorem pattern_problem (engine : Pattern.Engine) (location source : String) (filledLater : Bool) (problem : Problem)
    (isProblem : Item.problem? engine document ⟨location, .pattern source filledLater⟩ = some problem) :
    ∃ message, problem = .invalidPattern source message := by
  simp only [Item.problem?] at isProblem
  split at isProblem
  · cases isProblem
  · obtain ⟨message, _, rfl⟩ := Option.map_eq_some_iff.mp isProblem
    exact ⟨message, rfl⟩

theorem selector_problem (engine : Pattern.Engine) (location source : String) (problem : Problem)
    (isProblem : Item.problem? engine document ⟨location, .selector source⟩ = some problem) :
    ∃ error, problem = .invalidSelector source error := by
  simp only [Item.problem?] at isProblem
  split at isProblem
  · cases isProblem
  · exact ⟨_, (Option.some.inj isProblem).symm⟩

include slashless

theorem path_plain (address : Address) (rule : RuleDocument) (placed : document.ruleAt? address = some rule) :
    ∀ segment ∈ pathTo address, '/' ∉ segment.toList := by
  induction address generalizing rule with
  | nil => cases placed
  | cons step owner ih =>
      have named : ∀ name, step.name? = some name → '/' ∉ name.toList :=
        fun name isName => slashless step owner (Option.isSome_of_eq_some placed) name isName
      have pair : ∀ first second : String, '/' ∉ first.toList → '/' ∉ second.toList →
          ∀ segment ∈ [first, second], '/' ∉ segment.toList := fun first second here there =>
        List.forall_mem_cons.mpr ⟨here, List.forall_mem_singleton.mpr there⟩
      rw [pathTo]
      refine List.forall_mem_append.mpr ⟨?_, ?_⟩
      · cases owner with
        | nil => exact List.forall_mem_nil _
        | cons next owner =>
            obtain ⟨outer, isOuter, _⟩ := Option.bind_eq_some_iff.mp placed
            exact ih outer isOuter
      · cases step with
        | repository name => exact pair _ _ (by decide) (named name rfl)
        | injection name => exact pair _ _ (by decide) (named name rfl)
        | pattern index => exact pair _ _ (by decide) (index_plain index)
        | capture table key =>
            refine pair table key ?_ (named key rfl)
            have tables : ∀ name ∈ ["captures", "beginCaptures", "endCaptures", "whileCaptures"], '/' ∉ name.toList := by
              decide
            cases owner with
            | nil => cases placed
            | cons next owner =>
                obtain ⟨outer, _, follows⟩ := Option.bind_eq_some_iff.mp placed
                exact tables table (capture_table_named outer rule table key follows)

theorem segments_at (place : Address) (rule : RuleDocument) (key : Option RuleKey)
    (placed : document.ruleAt? place = some rule) :
    segmentsOf (locate "" (pathTo place ++ (key.map RuleKey.text).toList)) =
      pathTo place ++ (key.map RuleKey.text).toList := by
  have plain : ∀ segment ∈ pathTo place ++ (key.map RuleKey.text).toList, '/' ∉ segment.toList := by
    refine List.forall_mem_append.mpr ⟨path_plain slashless place rule placed, ?_⟩
    cases key with
    | none => exact List.forall_mem_nil _
    | some key => cases key <;> decide
  obtain ⟨first, rest, isPath, nonempty⟩ := path_starts place rule placed
  rw [isPath] at plain ⊢
  exact segments_locate first _ nonempty plain

theorem stands_points (engine : Pattern.Engine) (place : Address) (key : Option RuleKey) (item : Item)
    (diagnostic : Diagnostic) (stands : Stands document place key item.element)
    (isLocation : item.location = locate "" (pathTo place ++ (key.map RuleKey.text).toList))
    (reported : item.report? engine document = some diagnostic) : diagnostic.Points document := by
  obtain ⟨location, element⟩ := item
  obtain ⟨problem, isProblem, rfl⟩ := Option.map_eq_some_iff.mp reported
  subst isLocation
  cases stands with
  | keys rule error placed shape =>
      cases isProblem
      have path := segments_at slashless place rule none placed
      refine ⟨rule, ?_, shape⟩
      rw [path, Option.map_none, Option.toList_none, List.append_nil]
      exact rule_at_path document place rule placed
  | pattern rule key source filledLater placed written =>
      have path := segments_at slashless place rule (some key) placed
      obtain ⟨message, rfl⟩ := pattern_problem engine _ source filledLater problem isProblem
      change document.toValue.at? (segmentsOf _) = _
      rw [path, Json.at_append, rule_at_path document place rule placed]
      exact rule_text_at rule key source written
  | captureKey rule table key owner isPlace placed =>
      have path := segments_at slashless place rule none placed
      rw [Option.map_none, Option.toList_none, List.append_nil] at path ⊢
      have isKey : problem = .invalidShape (.captureKey key) := by
        simp only [Item.problem?] at isProblem
        split at isProblem
        · cases isProblem
        · exact (Option.some.inj isProblem).symm
      subst isKey
      refine ⟨rule, ?_, ?_⟩
      · rw [path]
        exact rule_at_path document place rule placed
      · rw [path, isPlace, pathTo]
        simp [Step.segments]
  | inclusion rule chain target placed includes known =>
      have path := segments_at slashless place rule none placed
      rw [Option.map_none, Option.toList_none, List.append_nil] at path ⊢
      have isTarget : problem = .unresolvedInclude target := by
        simp only [Item.problem?] at isProblem
        split at isProblem
        · exact (Option.some.inj isProblem).symm
        · cases isProblem
      subst isTarget
      refine ⟨rule, ?_, includes⟩
      rw [path]
      exact rule_at_path document place rule placed
  | rule rule chain placed known => cases isProblem

variable (distinct : document.Distinct) (engine : Pattern.Engine)

include distinct

theorem document_own_points (item : Item) (diagnostic : Diagnostic) (listed : item ∈ document.items)
    (own : item.element.isOwn) (reported : item.report? engine document = some diagnostic) : diagnostic.Points document := by
  have single : ∀ (key : DocumentKey) (text : String), document.value? key = textValue? (some text) → '/' ∉ key.text.toList →
      segmentsOf key.text = [key.text] ∧ document.toValue.at? [key.text] = some (.text (some text)) := by
    intro key text written plain
    refine ⟨segments_locate key.text [] (by cases key <;> decide) (List.forall_mem_singleton.mpr plain), ?_⟩
    rw [Value.at?, document_child, written]
    rfl
  obtain ⟨problem, isProblem, rfl⟩ := Option.map_eq_some_iff.mp reported
  rcases (document_own_items item document own).mp listed with ⟨source, rule, member, rfl⟩ | ⟨source, written, rfl⟩ |
    ⟨source, written, rfl⟩
  · obtain ⟨error, rfl⟩ := selector_problem engine _ source problem isProblem
    have placed : document.ruleAt? [.injection source] = some rule :=
      table_get_of_mem document.injections source rule distinct.injections member
    have path : segmentsOf (join "injections" source) = ["injections", source] :=
      segments_at slashless [.injection source] rule none placed
    refine .inl ⟨path, rule, ?_⟩
    rw [path]
    exact rule_at_path document [.injection source] rule placed
  · obtain ⟨error, rfl⟩ := selector_problem engine _ source problem isProblem
    obtain ⟨path, reached⟩ := single .injectionSelector source (by rw [← written]; rfl) (by decide)
    refine .inr ⟨path, ?_⟩
    rw [← path] at reached
    exact reached
  · obtain ⟨message, rfl⟩ := pattern_problem engine _ source false problem isProblem
    obtain ⟨path, reached⟩ := single .firstLineMatch source (by rw [← written]; rfl) (by decide)
    rw [← path] at reached
    exact reached

theorem document_item_points (item : Item) (diagnostic : Diagnostic) (listed : item ∈ document.items)
    (reported : item.report? engine document = some diagnostic) : diagnostic.Points document := by
  cases own : item.element.isOwn with
  | true => exact document_own_points slashless distinct engine item diagnostic listed own reported
  | false =>
      obtain ⟨steps, key, stands, isLocation⟩ := document_items_stand distinct item listed own
      rw [List.append_nil] at stands
      exact stands_points slashless engine steps key item diagnostic stands isLocation reported

end Pointing

def Visit.Home (visit : Visit) : Prop := visit.location = locate "" (pathTo visit.address)

instance (visit : Visit) : Decidable visit.Home := inferInstanceAs (Decidable (_ = _))

theorem home_below (visit : Visit) (home : visit.Home) (steps : Address) (ending : List String) :
    locate visit.location (pathTo steps ++ ending) = locate "" (pathTo (steps ++ visit.address) ++ ending) := by
  rw [home, locate, locate, locate, path_append, ← List.foldl_append, List.append_assoc]

theorem home_points {document : Document} (slashless : document.Slashless) (distinct : document.Distinct)
    (engine : Pattern.Engine) (visit : Visit) (placed : visit.Placed document) (home : visit.Home) (item : Item)
    (diagnostic : Diagnostic) (listed : item ∈ visit.items) (reported : item.report? engine document = some diagnostic) :
    diagnostic.Points document := by
  obtain ⟨steps, key, stands, isLocation⟩ := visit_items_stand placed distinct item listed
  rw [home_below visit home] at isLocation
  exact stands_points slashless engine _ key item diagnostic stands isLocation reported

def Target.name? : Target → Option String
  | .inView name | .topLevel name => some name
  | .root | .base | .external _ _ | .nothing => none

def Document.namedAt? (document : Document) (place : Address) : Option String :=
  ((document.ruleAt? place).bind fun rule => rule.keys.includeTarget).bind fun target =>
    (Target.ofText document.scopeName target).name?

def Document.position (document : Document) (name : String) : Nat := (document.repository.toList.map Prod.fst).idxOf name

def entryAround? (place : Address) : Option String :=
  match place.getLast? with
  | some (.repository entry) => some entry
  | _ => none

-- Includes are of entries of the grammar, and those inside an entry are of entries that come no later.
structure Document.LooksBack (document : Document) : Prop where
  outermost : ∀ place name owner, document.includedName? place = some name → document.declares owner name → owner = []
  earlier : ∀ place name entry, document.namedAt? place = some name → (document.repository.get? name).isSome →
    entryAround? place = some entry → document.position name ≤ document.position entry

section LookingBack

theorem table_mem_of_get (table : RuleTable) (name : String) (rule : RuleDocument) (found : table.get? name = some rule) :
    (name, rule) ∈ table.toList := by
  cases table with
  | nil => cases found
  | cons other first tail =>
      rw [RuleTable.get?] at found
      rw [RuleTable.toList]
      split at found
      · rename_i same
        cases found
        exact same ▸ List.mem_cons_self
      · exact List.mem_cons_of_mem _ (table_mem_of_get tail name rule found)

variable {document : Document}

theorem enter_visited (fuel : Nat) (tour : Tour) (visit : Visit) (visited : visit.address ∈ tour.visits.map Visit.address) :
    Tour.enter document fuel tour visit = tour := by
  cases fuel with
  | zero => rfl
  | succ fuel => rw [Tour.enter, if_pos visited]

theorem enter_grows (fuel : Nat) (tour : Tour) (visit : Visit) :
    tour.visits <:+ (Tour.enter document fuel tour visit).visits := by
  obtain ⟨visits, _, isVisits, _⟩ := enter_adds document fuel tour visit
  exact isVisits ▸ List.suffix_append _ _

theorem enter_reaches (fuel : Nat) (tour : Tour) (visit : Visit) :
    visit.address ∈ (Tour.enter document (fuel + 1) tour visit).visits.map Visit.address := by
  rw [Tour.enter]
  split
  · assumption
  · obtain ⟨visits, _, isVisits, _⟩ := meet_all_adds document _ (enter_adds document fuel) visit.items
      { tour with visits := visit :: tour.visits }
    rw [isVisits]
    simp

def Settled (document : Document) (tour : Tour) (owner : Address) : Prop :=
  ∀ place name, owner <:+ place → document.namedAt? place = some name → (document.repository.get? name).isSome →
    [.repository name] ∈ tour.visits.map Visit.address

theorem settled_grows (before after : Tour) (owner inner : Address) (grows : before.visits <:+ after.visits)
    (inside : owner <:+ inner) (settled : Settled document before owner) : Settled document after inner :=
  fun place name below named declared =>
    (grows.sublist.map Visit.address).subset (settled place name (inside.trans below) named declared)

variable (distinct : document.Distinct) (looksBack : document.LooksBack)

include looksBack

theorem inclusion_visited (tour : Tour) (owner place : Address) (rule : RuleDocument) (chain : Chain) (target : String)
    (found : Chain × Site) (settled : Settled document tour owner) (inside : owner <:+ place)
    (placed : document.ruleAt? place = some rule) (includes : rule.keys.includeTarget = some target)
    (known : ∀ entry ∈ chain, document.tableAt? entry.1 = some entry.2)
    (isFound : document.found? chain target = some found) : found.2.address ∈ tour.visits.map Visit.address := by
  obtain ⟨_, holder, table, name, own, isRule, isAddress, kind⟩ := found_entry document chain target found known isFound
  have outermost : holder = [] := by
    rcases kind with inView | ⟨_, outermost⟩
    · refine looksBack.outermost place name holder ?_ ?_
      · rw [Document.includedName?, placed, Option.bind_some, includes]
        dsimp only
        rw [inView]
      · rw [Document.declares, own]
        exact Option.isSome_of_eq_some isRule
    · exact outermost
  subst outermost
  cases own
  have named : document.namedAt? place = some name := by
    rw [Document.namedAt?, placed, Option.bind_some, includes, Option.bind_some]
    rcases kind with inView | ⟨topLevel, _⟩
    · rw [inView]
      rfl
    · rw [topLevel]
      rfl
  rw [isAddress]
  exact settled place name inside named (Option.isSome_of_eq_some isRule)

def Tour.AtHome (tour : Tour) : Prop := ∀ visit ∈ tour.visits, visit.Home

-- What is met below an address leads to a rule that is below it as well, and at home there, or that is visited
-- already.
theorem meet_home (fuel : Nat) (owner : Address) (tour : Tour) (item : Item)
    (enters : ∀ (tour : Tour) visit, visit.Placed document → visit.Home → tour.AtHome →
      Settled document { tour with visits := visit :: tour.visits } visit.address →
      (Tour.enter document fuel tour visit).AtHome)
    (stands : StandsBelow document owner (locate "" (pathTo owner)) item) (atHome : tour.AtHome)
    (settled : Settled document tour owner) : (tour.meet document (Tour.enter document fuel) item).AtHome := by
  obtain ⟨steps, key, here, isLocation⟩ := stands
  obtain ⟨location, element⟩ := item
  cases here with
  | rule rule chain placed known =>
      refine enters _ ⟨chain, ⟨rule, steps ++ owner⟩, location⟩ ⟨placed, known⟩ ?_ atHome ?_
      · rw [Visit.Home, Visit.address, path_append]
        rw [Option.map_none, Option.toList_none, List.append_nil] at isLocation
        refine isLocation.trans ?_
        rw [locate, locate, locate, List.foldl_append]
      · exact settled_grows tour _ owner _ (List.suffix_cons _ _) (List.suffix_append _ _) settled
  | inclusion rule chain target placed includes known =>
      rw [Tour.meet]
      split
      · rename_i next leads
        obtain ⟨found, isFound, rfl⟩ := Option.map_eq_some_iff.mp leads
        rw [enter_visited]
        · exact atHome
        · exact inclusion_visited looksBack tour owner _ rule chain target found settled (List.suffix_append _ _) placed
            includes known isFound
      · exact atHome
  | keys rule error placed shape => exact atHome
  | pattern rule key source filledLater placed written => exact atHome
  | captureKey rule table key holder isPlace placed => exact atHome

theorem meet_all_home (fuel : Nat) (owner : Address) (items : List Item) (tour : Tour)
    (enters : ∀ (tour : Tour) visit, visit.Placed document → visit.Home → tour.AtHome →
      Settled document { tour with visits := visit :: tour.visits } visit.address →
      (Tour.enter document fuel tour visit).AtHome)
    (stand : ∀ item ∈ items, item.visit? document = none ∨ StandsBelow document owner (locate "" (pathTo owner)) item)
    (atHome : tour.AtHome) (settled : Settled document tour owner) :
    (items.foldl (Tour.meet document (Tour.enter document fuel)) tour).AtHome := by
  induction items generalizing tour with
  | nil => exact atHome
  | cons item rest ih =>
      obtain ⟨first, others⟩ := List.forall_mem_cons.mp stand
      obtain ⟨visits, _, isVisits, _⟩ := meet_adds document _ (enter_adds document fuel) tour item
      have grows : tour.visits <:+ (tour.meet document (Tour.enter document fuel) item).visits :=
        isVisits ▸ List.suffix_append _ _
      have stillHome : (tour.meet document (Tour.enter document fuel) item).AtHome := by
        rcases first with nowhere | stands
        · rw [Tour.meet, nowhere]
          exact atHome
        · exact meet_home looksBack fuel owner tour item enters stands atHome settled
      refine ih _ others stillHome ?_
      exact settled_grows tour _ owner owner grows (List.suffix_refl _) settled

include distinct

theorem enter_home (fuel : Nat) (tour : Tour) (visit : Visit) (placed : visit.Placed document) (home : visit.Home)
    (atHome : tour.AtHome) (settled : Settled document { tour with visits := visit :: tour.visits } visit.address) :
    (Tour.enter document fuel tour visit).AtHome := by
  induction fuel generalizing tour visit with
  | zero => exact atHome
  | succ fuel ih =>
      rw [Tour.enter]
      split
      · exact atHome
      · refine meet_all_home looksBack fuel visit.address visit.items _ ih ?_ (List.forall_mem_cons.mpr ⟨home, atHome⟩) settled
        intro item listed
        rw [← home]
        exact .inr (visit_items_stand placed distinct item listed)

omit looksBack in
theorem position_lt (done rest : List (String × RuleDocument)) (entry : String × RuleDocument) (name : String)
    (whole : document.repository.toList = done ++ entry :: rest) (early : document.position name ≤ document.position entry.1) :
    name ∈ done.map Prod.fst ∨ name = entry.1 := by
  have isNew : entry.1 ∉ done.map Prod.fst := by
    have distinctNames := distinct.repository
    rw [whole, List.map_append, List.map_cons] at distinctNames
    exact fun listed => (List.disjoint_of_nodup_append distinctNames) listed List.mem_cons_self
  by_cases listed : name ∈ done.map Prod.fst
  · exact .inl listed
  · rw [Document.position, Document.position, whole, List.map_append, List.map_cons, List.idxOf_append_of_notMem listed,
      List.idxOf_append_of_notMem isNew, List.idxOf_cons_self] at early
    by_cases same : name = entry.1
    · exact .inr same
    · rw [List.idxOf_cons_ne _ (Ne.symm same)] at early
      omega

theorem entries_home (done rest : List (String × RuleDocument)) (tour : Tour)
    (whole : document.repository.toList = done ++ rest) (atHome : tour.AtHome)
    (visited : ∀ entry ∈ done, [.repository entry.1] ∈ tour.visits.map Visit.address) :
    let after := (document.entryItems rest).foldl (Tour.meet document (Tour.enter document (document.size + 1))) tour
    after.AtHome ∧ ∀ entry ∈ document.repository.toList, [.repository entry.1] ∈ after.visits.map Visit.address := by
  induction rest generalizing done tour with
  | nil =>
      rw [List.append_nil] at whole
      exact ⟨atHome, whole ▸ visited⟩
  | cons entry rest ih =>
      let visit : Visit := ⟨document.outermost, ⟨entry.2, [.repository entry.1]⟩, join "repository" entry.1⟩
      let noted : Tour := { tour with met := tour.met ++ [⟨join "repository" entry.1, .rule document.outermost visit.site⟩] }
      have listed : entry ∈ document.repository.toList := by simp [whole]
      have placed : visit.Placed document :=
        ⟨table_get_of_mem document.repository entry.1 entry.2 distinct.repository listed, List.forall_mem_singleton.mpr rfl⟩
      have settled : Settled document { noted with visits := visit :: noted.visits } visit.address := by
        intro place name below named declared
        have ends : entryAround? place = some entry.1 := by
          obtain ⟨steps, rfl⟩ := below
          simp [entryAround?, visit, Visit.address]
        rcases position_lt distinct done rest entry name whole (looksBack.earlier place name entry.1 named declared ends) with
          before | rfl
        · obtain ⟨other, member, rfl⟩ := List.mem_map.mp before
          exact List.mem_cons_of_mem _ (visited other member)
        · exact List.mem_cons_self
      refine ih (done ++ [entry]) (Tour.enter document (document.size + 1) noted visit) (by simp [whole])
        (enter_home distinct looksBack _ noted visit placed rfl atHome settled) ?_
      intro other member
      rcases List.mem_append.mp member with before | same
      · exact ((enter_grows _ noted visit).sublist.map Visit.address).subset (visited other before)
      · cases List.mem_singleton.mp same
        exact enter_reaches document.size noted visit

theorem visits_home (visit : Visit) (visited : visit ∈ document.visits) : visit.Home := by
  obtain ⟨atHome, all⟩ := entries_home distinct looksBack [] document.repository.toList {} rfl (List.forall_mem_nil _)
    (List.forall_mem_nil _)
  have settled : Settled document ((document.entryItems document.repository.toList).foldl
      (Tour.meet document (Tour.enter document (document.size + 1))) {}) [] := by
    intro place name _ _ declared
    obtain ⟨rule, found⟩ := Option.isSome_iff_exists.mp declared
    exact all (name, rule) (table_mem_of_get document.repository name rule found)
  have stand : ∀ item ∈ document.laterItems, item.visit? document = none ∨
      StandsBelow document [] (locate "" (pathTo [])) item := by
    intro item listed
    cases own : item.element.isOwn with
    | true => exact .inl (own_item_nowhere item document own)
    | false => exact .inr (document_items_stand distinct item (List.mem_append_right _ listed) own)
  have final := meet_all_home looksBack (document.size + 1) [] document.laterItems _ (enter_home distinct looksBack _) stand
    atHome settled
  rw [← List.foldl_append] at final
  exact final visit visited

end LookingBack

section Deciding

theorem slashless_iff (document : Document) :
    document.Slashless ↔ ∀ address ∈ document.addresses, ∀ step ∈ address.head?, (document.ruleAt? address).isSome →
      ∀ name ∈ step.name?, '/' ∉ name.toList := by
  constructor
  · intro slashless address _ step isStep placed
    cases address with
    | nil => cases isStep
    | cons first owner =>
        cases isStep
        exact slashless step owner placed
  · intro each step owner placed
    obtain ⟨rule, found⟩ := Option.isSome_iff_exists.mp placed
    exact each (step :: owner) (rule_at_mem document _ rule found) step rfl placed

instance (document : Document) : Decidable document.Slashless := decidable_of_iff _ (slashless_iff document).symm

theorem named_at_mem (document : Document) (place : Address) (name : String) (named : document.namedAt? place = some name) :
    place ∈ document.addresses := by
  obtain ⟨target, includes, _⟩ := Option.bind_eq_some_iff.mp named
  obtain ⟨rule, placed, _⟩ := Option.bind_eq_some_iff.mp includes
  exact rule_at_mem document place rule placed

theorem looks_back_iff (document : Document) :
    document.LooksBack ↔
      (∀ place ∈ document.addresses, ∀ owner ∈ [] :: document.addresses, ∀ name ∈ document.includedName? place,
        document.declares owner name → owner = []) ∧
      ∀ place ∈ document.addresses, ∀ name ∈ document.namedAt? place, (document.repository.get? name).isSome →
        ∀ entry ∈ entryAround? place, document.position name ≤ document.position entry := by
  constructor
  · intro looksBack
    exact ⟨fun place _ owner _ name included => looksBack.outermost place name owner included,
      fun place _ name named declared entry around => looksBack.earlier place name entry named declared around⟩
  · rintro ⟨outermost, earlier⟩
    refine ⟨?_, ?_⟩
    · intro place name owner included declared
      obtain ⟨table, found⟩ := declares_table document owner name declared
      exact outermost place (included_name_mem document place name included) owner (table_at_mem document owner table found)
        name included declared
    · intro place name entry named declared around
      exact earlier place (named_at_mem document place name named) name named declared entry around

instance (document : Document) : Decidable document.LooksBack := decidable_of_iff _ (looks_back_iff document).symm

end Deciding

end Grammar

theorem diagnostic_points_at_element (engine : Pattern.Engine) (key : String) (document : Grammar.Document)
    (distinct : document.Distinct) (slashless : document.Slashless) :
    (∀ diagnostic ∈ (Grammar.compile engine key document).diagnostics, diagnostic.Points document ∨
      ∃ visit ∈ document.visits, ¬ visit.Home ∧ ∃ item ∈ visit.items, item.report? engine document = some diagnostic) ∧
    (document.LooksBack → ∀ diagnostic ∈ (Grammar.compile engine key document).diagnostics, diagnostic.Points document) := by
  have points : ∀ diagnostic ∈ (Grammar.compile engine key document).diagnostics, diagnostic.Points document ∨
      ∃ visit ∈ document.visits, ¬ visit.Home ∧ ∃ item ∈ visit.items, item.report? engine document = some diagnostic := by
    intro diagnostic reported
    rw [(Grammar.compile_follows_tour engine key document).1] at reported
    obtain ⟨item, met, isReport⟩ := List.mem_filterMap.mp reported
    rcases (Grammar.met_iff document item).mp met with listed | ⟨visit, visited, listed⟩
    · exact .inl (Grammar.document_item_points slashless distinct engine item diagnostic listed isReport)
    · by_cases home : visit.Home
      · exact .inl (Grammar.home_points slashless distinct engine visit (Grammar.visits_placed distinct visit visited) home
          item diagnostic listed isReport)
      · exact .inr ⟨visit, visited, home, item, listed, isReport⟩
  refine ⟨points, ?_⟩
  intro looksBack diagnostic reported
  rcases points diagnostic reported with here | ⟨visit, visited, away, _⟩
  · exact here
  · exact absurd (Grammar.visits_home distinct looksBack visit visited) away

section Examples

open Grammar

def backwardDocument : Document where
  scopeName := "s"
  patterns := .cons (including "#list" .absent) (.cons (including "#nothing" .absent) .nil)
  repository :=
    .cons "bracket" (matching "(" (.present (.cons "one" (containing .nil .absent) .nil)))
    (.cons "list" (containing (.cons (including "#bracket" .absent) (.cons (including "s#missing" .absent)
      (.cons (.mk { beginPattern := some "a" } .absent .absent .absent .absent .absent .absent) .nil))) .absent) .nil)
  injections := .cons "L:" (containing .nil .absent) .nil
  injectionSelector := some "("

theorem backward_diagnostics_point :
    (Grammar.compile .backtracking "s" backwardDocument).diagnostics.map Diagnostic.location =
      ["repository/bracket/match", "repository/bracket/captures/one", "repository/list/patterns/1",
        "repository/list/patterns/2", "patterns/1", "injections/L:", "injectionSelector"] ∧
    ∀ diagnostic ∈ (Grammar.compile .backtracking "s" backwardDocument).diagnostics, diagnostic.Points backwardDocument := by
  have distinct : backwardDocument.Distinct := by decide
  have slashless : backwardDocument.Slashless := by decide
  have looksBack : backwardDocument.LooksBack := by decide
  exact ⟨by decide +kernel, (diagnostic_points_at_element .backtracking "s" backwardDocument distinct slashless).2 looksBack⟩

def forwardDocument : Document where
  scopeName := "s"
  repository := .cons "a" (containing (.cons (including "#b" .absent) .nil) .absent) (.cons "b" (matching "(" .absent) .nil)

/-- What is wrong with it is reported at the include, where no pattern stands. -/
theorem forward_diagnostic_points_elsewhere :
    forwardDocument.Distinct ∧ forwardDocument.Slashless ∧
      ∃ diagnostic ∈ (Grammar.compile .backtracking "s" forwardDocument).diagnostics, ¬ diagnostic.Points forwardDocument := by
  have isReported : ⟨"repository/a/patterns/0/match", .invalidPattern "(" "Oniguruma error: end pattern with unmatched parenthesis"⟩ ∈
      (Grammar.compile .backtracking "s" forwardDocument).diagnostics := by decide +kernel
  have nothing : (forwardDocument.toValue.at? (segmentsOf "repository/a/patterns/0/match")).isNone := by decide +kernel
  refine ⟨by decide, by decide, _, isReported, ?_⟩
  intro points
  rw [Diagnostic.Points] at points
  dsimp only at points
  rw [points] at nothing
  cases nothing

end Examples

end LineScope
