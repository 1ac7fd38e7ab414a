import LineScope.Grammar.Compile
import Mathlib.Data.List.Nodup
import Mathlib.Data.List.Perm.Subperm

set_option autoImplicit false

namespace LineScope.Grammar

def OptionalTable.table? : OptionalTable → Option RuleTable
  | .absent => none
  | .present table => some table

def RuleDocument.captureTable (rule : RuleDocument) (key : String) : OptionalTable :=
  if key = "captures" then rule.captures
  else if key = "beginCaptures" then rule.beginCaptures
  else if key = "endCaptures" then rule.endCaptures
  else if key = "whileCaptures" then rule.whileCaptures
  else .absent

def RuleDocument.follow? (rule : RuleDocument) : Step → Option RuleDocument
  | .repository name => rule.repository.table?.bind (RuleTable.get? name)
  | .pattern index => rule.patterns.items[index]?
  | .capture table key => (rule.captureTable table).table?.bind (RuleTable.get? key)
  | .injection _ => none

namespace Document

def enter? (document : Document) : Step → Option RuleDocument
  | .repository name => document.repository.get? name
  | .pattern index => document.patterns.toList[index]?
  | .injection selector => document.injections.get? selector
  | .capture _ _ => none

def ruleAt? (document : Document) : Address → Option RuleDocument
  | [] => none
  | [step] => document.enter? step
  | step :: next :: owner => (document.ruleAt? (next :: owner)).bind fun rule => rule.follow? step

-- The repository that stands at an address, the one of the grammar at the empty address.
def tableAt? (document : Document) : Address → Option RuleTable
  | [] => some document.repository
  | step :: owner => (document.ruleAt? (step :: owner)).bind fun rule => rule.repository.table?

def inView (document : Document) : Address → Chain
  | [] => [([], document.repository)]
  | step :: owner =>
      match document.tableAt? (step :: owner) with
      | some table => (step :: owner, table) :: document.inView owner
      | none => document.inView owner

end Document

section Addresses

mutual
def RuleDocument.addresses (here : Address) : RuleDocument → List Address
  | .mk _ captures beginCaptures endCaptures whileCaptures patterns repository =>
      here :: (captures.addresses (.capture "captures") here ++
        beginCaptures.addresses (.capture "beginCaptures") here ++
        endCaptures.addresses (.capture "endCaptures") here ++
        whileCaptures.addresses (.capture "whileCaptures") here ++ patterns.addresses here ++
        repository.addresses .repository here)
def OptionalTable.addresses (step : String → Step) (owner : Address) : OptionalTable → List Address
  | .absent => []
  | .present table => table.addresses step owner
def OptionalRules.addresses (owner : Address) : OptionalRules → List Address
  | .absent => []
  | .present rules => rules.addresses owner 0
def RuleTable.addresses (step : String → Step) (owner : Address) : RuleTable → List Address
  | .nil => []
  | .cons key rule tail => rule.addresses (step key :: owner) ++ tail.addresses step owner
def RuleSequence.addresses (owner : Address) (index : Nat) : RuleSequence → List Address
  | .nil => []
  | .cons rule tail => rule.addresses (.pattern index :: owner) ++ tail.addresses owner (index + 1)
end

mutual
theorem rule_addresses_length (here : Address) (rule : RuleDocument) :
    (rule.addresses here).length = rule.size := by
  cases rule with
  | mk keys captures beginCaptures endCaptures whileCaptures patterns repository =>
      simp only [RuleDocument.addresses, RuleDocument.size, List.length_cons, List.length_append,
        optional_table_addresses_length, optional_rules_addresses_length]
      omega
theorem optional_table_addresses_length (step : String → Step) (owner : Address) (table : OptionalTable) :
    (table.addresses step owner).length = table.size := by
  cases table with
  | absent => rfl
  | present table => exact table_addresses_length step owner table
theorem optional_rules_addresses_length (owner : Address) (rules : OptionalRules) :
    (rules.addresses owner).length = rules.size := by
  cases rules with
  | absent => rfl
  | present rules => exact sequence_addresses_length owner 0 rules
theorem table_addresses_length (step : String → Step) (owner : Address) (table : RuleTable) :
    (table.addresses step owner).length = table.size := by
  cases table with
  | nil => rfl
  | cons key rule tail =>
      rw [RuleTable.addresses, RuleTable.size, List.length_append, rule_addresses_length, table_addresses_length]
theorem sequence_addresses_length (owner : Address) (index : Nat) (rules : RuleSequence) :
    (rules.addresses owner index).length = rules.size := by
  cases rules with
  | nil => rfl
  | cons rule tail =>
      rw [RuleSequence.addresses, RuleSequence.size, List.length_append, rule_addresses_length,
        sequence_addresses_length]
end

theorem table_get_addresses (step : String → Step) (owner : Address) (table : RuleTable) (key : String)
    (rule : RuleDocument) (found : table.get? key = some rule) :
    rule.addresses (step key :: owner) ⊆ table.addresses step owner := by
  cases table with
  | nil => cases found
  | cons other first tail =>
      rw [RuleTable.get?] at found
      rw [RuleTable.addresses]
      split at found
      · rename_i same
        cases found
        exact same ▸ List.subset_append_left _ _
      · exact List.subset_append_of_subset_right _ (table_get_addresses step owner tail key rule found)

theorem sequence_get_addresses (owner : Address) (start index : Nat) (rules : RuleSequence) (rule : RuleDocument)
    (found : rules.toList[index]? = some rule) :
    rule.addresses (.pattern (start + index) :: owner) ⊆ rules.addresses owner start := by
  cases rules with
  | nil => cases found
  | cons first tail =>
      rw [RuleSequence.addresses]
      cases index with
      | zero =>
          cases found
          exact List.subset_append_left _ _
      | succ index =>
          have later := sequence_get_addresses owner (start + 1) index tail rule found
          rw [Nat.add_right_comm, Nat.add_assoc] at later
          exact List.subset_append_of_subset_right _ later

theorem optional_table_get_addresses (step : String → Step) (owner : Address) (table : OptionalTable) (key : String)
    (rule : RuleDocument) (found : table.table?.bind (RuleTable.get? key) = some rule) :
    rule.addresses (step key :: owner) ⊆ table.addresses step owner := by
  cases table with
  | absent => cases found
  | present table => exact table_get_addresses step owner table key rule found

theorem follow_addresses (here : Address) (step : Step) (rule child : RuleDocument)
    (found : rule.follow? step = some child) : child.addresses (step :: here) ⊆ rule.addresses here := by
  cases rule with
  | mk keys captures beginCaptures endCaptures whileCaptures patterns repository =>
      intro address member
      simp only [RuleDocument.addresses, List.mem_cons, List.mem_append]
      cases step with
      | repository name => simp [optional_table_get_addresses .repository here repository name child found member]
      | pattern index =>
          cases patterns with
          | absent => cases found
          | present rules =>
              have listed := sequence_get_addresses here 0 index rules child found
              rw [Nat.zero_add] at listed
              simp [OptionalRules.addresses, listed member]
      | capture table key =>
          simp only [RuleDocument.follow?, RuleDocument.captureTable] at found
          split at found
          · rename_i same
            subst same
            simp [optional_table_get_addresses _ here captures key child found member]
          · split at found
            · rename_i same
              subst same
              simp [optional_table_get_addresses _ here beginCaptures key child found member]
            · split at found
              · rename_i same
                subst same
                simp [optional_table_get_addresses _ here endCaptures key child found member]
              · split at found
                · rename_i same
                  subst same
                  simp [optional_table_get_addresses _ here whileCaptures key child found member]
                · cases found
      | injection selector => cases found

def Document.addresses (document : Document) : List Address :=
  document.patterns.addresses [] 0 ++ document.repository.addresses .repository [] ++
    document.injections.addresses .injection []

theorem document_addresses_length (document : Document) : document.addresses.length = document.size := by
  rw [Document.addresses, List.length_append, List.length_append, sequence_addresses_length, table_addresses_length,
    table_addresses_length, Document.size]

theorem rule_at_addresses (document : Document) (address : Address) (rule : RuleDocument)
    (found : document.ruleAt? address = some rule) : rule.addresses address ⊆ document.addresses := by
  induction address generalizing rule with
  | nil => cases found
  | cons step owner ih =>
      cases owner with
      | nil =>
          intro other member
          simp only [Document.addresses, List.mem_append]
          cases step with
          | repository name => simp [table_get_addresses _ _ document.repository name rule found member]
          | pattern index =>
              have listed := sequence_get_addresses [] 0 index document.patterns rule found
              rw [Nat.zero_add] at listed
              simp [listed member]
          | injection selector => simp [table_get_addresses _ _ document.injections selector rule found member]
          | capture table key => cases found
      | cons next owner =>
          obtain ⟨outer, isOuter, follows⟩ := Option.bind_eq_some_iff.mp found
          exact List.Subset.trans (follow_addresses _ step outer rule follows) (ih outer isOuter)

theorem rule_at_mem (document : Document) (address : Address) (rule : RuleDocument)
    (found : document.ruleAt? address = some rule) : address ∈ document.addresses := by
  have listed := rule_at_addresses document address rule found
  cases rule with
  | mk keys captures beginCaptures endCaptures whileCaptures patterns repository => exact listed List.mem_cons_self

theorem addresses_le_size (document : Document) (addresses : List Address) (distinct : addresses.Nodup)
    (placed : ∀ address ∈ addresses, (document.ruleAt? address).isSome) : addresses.length ≤ document.size := by
  have inside : addresses ⊆ document.addresses := by
    intro address member
    obtain ⟨rule, found⟩ := Option.isSome_iff_exists.mp (placed address member)
    exact rule_at_mem document address rule found
  rw [← document_addresses_length document]
  exact (List.subperm_of_subset distinct inside).length_le

end Addresses

section Views

variable (document : Document)

theorem in_view_iff (place owner : Address) (table : RuleTable) :
    (owner, table) ∈ document.inView place ↔ owner <:+ place ∧ document.tableAt? owner = some table := by
  induction place with
  | nil =>
      simp only [Document.inView, List.mem_singleton, Prod.mk.injEq, List.suffix_nil]
      constructor
      · rintro ⟨rfl, rfl⟩
        exact ⟨rfl, rfl⟩
      · rintro ⟨rfl, found⟩
        exact ⟨rfl, (Option.some.inj found).symm⟩
  | cons step rest ih =>
      rw [Document.inView, List.suffix_cons_iff]
      split
      · rename_i own found
        rw [List.mem_cons, ih, Prod.mk.injEq]
        constructor
        · rintro (⟨rfl, rfl⟩ | ⟨outer, there⟩)
          · exact ⟨.inl rfl, found⟩
          · exact ⟨.inr outer, there⟩
        · rintro ⟨rfl | outer, there⟩
          · exact .inl ⟨rfl, Option.some.inj (there.symm.trans found)⟩
          · exact .inr ⟨outer, there⟩
      · rename_i nothing
        rw [ih]
        constructor
        · rintro ⟨outer, there⟩
          exact ⟨.inr outer, there⟩
        · rintro ⟨rfl | outer, there⟩
          · rw [nothing] at there
            cases there
          · exact ⟨outer, there⟩

-- A chain that a compilation can have: whatever stands in it, the repositories around that follow.
inductive View (document : Document) : Chain → Prop
  | top : View document [([], document.repository)]
  | inner (step : Step) (owner : Address) (table : RuleTable) (chain : Chain) (outer : View document chain)
      (own : document.tableAt? (step :: owner) = some table) (around : (document.inView owner).Sublist chain)
      (new : step :: owner ∉ chain.map Prod.fst) : View document ((step :: owner, table) :: chain)

theorem view_distinct (chain : Chain) (view : View document chain) : (chain.map Prod.fst).Nodup := by
  induction view with
  | top => exact List.nodup_singleton _
  | inner step owner table chain outer own around new ih => exact List.nodup_cons.mpr ⟨new, ih⟩

theorem view_tables (chain : Chain) (view : View document chain) :
    ∀ entry ∈ chain, document.tableAt? entry.1 = some entry.2 := by
  induction view with
  | top => exact List.forall_mem_singleton.mpr rfl
  | inner step owner table chain outer own around new ih => exact List.forall_mem_cons.mpr ⟨own, ih⟩

theorem view_around (chain : Chain) (view : View document chain) :
    ∀ entry ∈ chain, (document.inView entry.1).Sublist chain := by
  induction view with
  | top => exact List.forall_mem_singleton.mpr (List.Sublist.refl _)
  | inner step owner table chain outer own around new ih =>
      refine List.forall_mem_cons.mpr ⟨?_, fun entry member => (ih entry member).cons _⟩
      rw [Document.inView, own]
      exact around.cons_cons _

theorem find_mem (name : String) (chain : Chain) (site : Site) (found : Chain.find? name chain = some site) :
    ∃ owner table, (owner, table) ∈ chain ∧ table.get? name = some site.rule ∧ site.address = .repository name :: owner := by
  induction chain with
  | nil => cases found
  | cons entry outer ih =>
      obtain ⟨owner, table⟩ := entry
      rw [Chain.find?] at found
      split at found
      · rename_i rule there
        cases found
        exact ⟨owner, table, List.mem_cons_self, there, rfl⟩
      · obtain ⟨other, otherTable, member, there⟩ := ih found
        exact ⟨other, otherTable, List.mem_cons_of_mem _ member, there⟩

theorem rule_at_repository (owner : Address) (table : RuleTable) (name : String) (rule : RuleDocument)
    (own : document.tableAt? owner = some table) (found : table.get? name = some rule) :
    document.ruleAt? (.repository name :: owner) = some rule := by
  cases owner with
  | nil =>
      cases own
      exact found
  | cons step owner =>
      obtain ⟨outer, isOuter, isTable⟩ := Option.bind_eq_some_iff.mp own
      rw [Document.ruleAt?, isOuter, Option.bind_some, RuleDocument.follow?, isTable]
      exact found

theorem table_get_of_mem (table : RuleTable) (key : String) (rule : RuleDocument)
    (distinct : (table.toList.map Prod.fst).Nodup) (member : (key, rule) ∈ table.toList) :
    table.get? key = some rule := by
  cases table with
  | nil => cases member
  | cons other first tail =>
      obtain ⟨isNew, others⟩ := List.nodup_cons.mp distinct
      rw [RuleTable.get?]
      rcases List.mem_cons.mp member with here | later
      · cases here
        rw [if_pos rfl]
      · have different : other ≠ key := fun same => isNew (List.mem_map.mpr ⟨(key, rule), later, same.symm⟩)
        rw [if_neg different]
        exact table_get_of_mem tail key rule others later

theorem rule_at_capture (address : Address) (owner rule : RuleDocument) (table key : String)
    (placed : document.ruleAt? address = some owner)
    (distinct : ((owner.captureTable table).entries.map Prod.fst).Nodup)
    (member : (key, rule) ∈ (owner.captureTable table).entries) :
    document.ruleAt? (.capture table key :: address) = some rule := by
  cases address with
  | nil => cases placed
  | cons step outer =>
      rw [Document.ruleAt?, placed, Option.bind_some, RuleDocument.follow?]
      cases captures : owner.captureTable table with
      | absent =>
          rw [captures] at member
          cases member
      | present found =>
          rw [captures] at distinct member
          exact table_get_of_mem found key rule distinct member

theorem rule_at_pattern (address : Address) (owner rule : RuleDocument) (index : Nat)
    (placed : document.ruleAt? address = some owner) (found : owner.patterns.items[index]? = some rule) :
    document.ruleAt? (.pattern index :: address) = some rule := by
  cases address with
  | nil => cases placed
  | cons step outer =>
      rw [Document.ruleAt?, placed]
      exact found

theorem view_find (name : String) (chain : Chain) (view : View document chain) (site : Site)
    (found : Chain.find? name chain = some site) :
    (document.inView site.address.tail).Sublist chain ∧ document.ruleAt? site.address = some site.rule := by
  obtain ⟨owner, table, member, there, isAddress⟩ := find_mem name chain site found
  rw [isAddress]
  have own := view_tables document chain view (owner, table) member
  exact ⟨view_around document chain view (owner, table) member, rule_at_repository document owner table name _ own there⟩

theorem in_view_without (step : Step) (owner : Address) (nothing : document.tableAt? (step :: owner) = none) :
    document.inView (step :: owner) = document.inView owner := by
  rw [Document.inView, nothing]

theorem find_shadowed (name : String) (inner chain : Chain) (less : inner.Sublist chain)
    (distinct : (chain.map Prod.fst).Nodup)
    (all : ∀ before entry after, chain = before ++ entry :: after → (entry.2.get? name).isSome →
      entry ∈ inner ∨ ∃ shadow ∈ before, shadow ∈ inner ∧ (shadow.2.get? name).isSome) :
    Chain.find? name inner = Chain.find? name chain := by
  induction less with
  | slnil => rfl
  | @cons inner outer entry rest ih =>
      obtain ⟨owner, table⟩ := entry
      obtain ⟨isNew, others⟩ := List.nodup_cons.mp distinct
      -- The first entry is left out, and nothing before it could have the name in its place.
      have dropped : (owner, table) ∉ inner := fun kept => isNew (List.mem_map_of_mem (rest.subset kept))
      have lacks : table.get? name = none := by
        by_contra has
        rcases all [] _ outer rfl (Option.ne_none_iff_isSome.mp has) with kept | ⟨_, impossible, _⟩
        · exact dropped kept
        · cases impossible
      rw [Chain.find?, lacks]
      refine ih others fun before other after split has => ?_
      refine (all ((owner, table) :: before) other after (congrArg _ split) has).imp_right ?_
      rintro ⟨shadow, earlier, kept, has⟩
      refine ⟨shadow, (List.mem_cons.mp earlier).resolve_left ?_, kept, has⟩
      rintro rfl
      exact dropped kept
  | @cons_cons inner outer entry rest ih =>
      obtain ⟨owner, table⟩ := entry
      obtain ⟨isNew, others⟩ := List.nodup_cons.mp distinct
      rw [Chain.find?, Chain.find?]
      cases lacks : table.get? name with
      | some rule => rfl
      | none =>
          refine ih others fun before other after split has => ?_
          have differs : other ≠ (owner, table) := by
            rintro rfl
            rw [lacks] at has
            cases has
          refine (all ((owner, table) :: before) other after (congrArg _ split) has).imp
            (fun kept => (List.mem_cons.mp kept).resolve_left differs) ?_
          rintro ⟨shadow, earlier, kept, has⟩
          have apart : shadow ≠ (owner, table) := by
            rintro rfl
            rw [lacks] at has
            cases has
          exact ⟨shadow, (List.mem_cons.mp earlier).resolve_left apart, (List.mem_cons.mp kept).resolve_left apart, has⟩

end Views

end LineScope.Grammar
