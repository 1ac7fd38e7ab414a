import LineScope.Proofs.Grammar.Enclosure

/-!
What a compiled include stands for. A rule is compiled in view of the repositories of whatever led
to it first, and these can be more than the repositories that enclose it. An include stands for the
entry of the innermost enclosing repository as long as none of the others takes its place.
-/

set_option autoImplicit false

namespace LineScope.Grammar

def RuleDocument.listed? (rule : RuleDocument) : Option String :=
  match rule.keys.includeTarget, rule.keys.matchPattern, rule.keys.beginPattern with
  | some target, none, none => some target
  | _, _, _ => none

def RuleDocument.capturesOr (rule : RuleDocument) (key : String) : String × List (String × RuleDocument) :=
  match rule.captureTable key with
  | .present table => (key, table.toList)
  | .absent => ("captures", rule.captures.entries)

def Document.includedName? (document : Document) (place : Address) : Option String :=
  match (document.ruleAt? place).bind fun rule => rule.keys.includeTarget with
  | none => none
  | some target =>
      match Target.ofText document.scopeName target with
      | .inView name => some name
      | _ => none

def Document.declares (document : Document) (owner : Address) (name : String) : Bool :=
  (document.tableAt? owner).any fun table => (table.get? name).isSome

def Document.isPart (document : Document) : Address → Bool
  | .capture _ _ :: _ => true
  | .pattern index :: owner =>
      ((document.ruleAt? (.pattern index :: owner)).bind RuleDocument.listed?).isSome
  | _ => false

-- A repository that can be in view where a rule is compiled: it stands around the rule, or it was in view of an
-- include that led to an entry around the rule. It comes into view at `root`, which is the owner of the repository or
-- that entry.
inductive Document.InSight (document : Document) : (owner root place : Address) → Prop
  | around (owner place : Address) (own : (document.tableAt? owner).isSome) (encloses : owner <:+ place) :
      InSight document owner owner place
  | handed (owner root other source place inner : Address) (name : String) (seen : InSight document owner root place)
      (included : document.includedName? place = some name) (found : InSight document other source place)
      (declared : document.declares other name) (within : .repository name :: other <:+ inner) :
      InSight document owner (.repository name :: other) inner

-- A name that is included is not taken from a repository that does not enclose the place: if one in sight has it,
-- then so does an enclosing one from where the other comes into view. And every repository belongs to a rule of its
-- own.
structure Document.Enclosed (document : Document) : Prop where
  names : ∀ place name owner root, document.includedName? place = some name → document.InSight owner root place →
    document.declares owner name → owner <:+ place ∨
      ∃ shadow, document.declares shadow name ∧ root <:+ shadow ∧ shadow <:+ place
  parts : ∀ place, document.isPart place → document.tableAt? place = none

structure Document.Distinct (document : Document) : Prop where
  repository : (document.repository.toList.map Prod.fst).Nodup
  injections : (document.injections.toList.map Prod.fst).Nodup
  captures : ∀ address rule, document.ruleAt? address = some rule → ∀ key,
    ((rule.captureTable key).entries.map Prod.fst).Nodup

section Deciding

theorem included_name_mem (document : Document) (place : Address) (name : String)
    (included : document.includedName? place = some name) : place ∈ document.addresses := by
  rw [Document.includedName?] at included
  cases found : document.ruleAt? place with
  | none =>
      rw [found] at included
      cases included
  | some rule => exact rule_at_mem document place rule found

theorem table_at_mem (document : Document) (owner : Address) (table : RuleTable)
    (found : document.tableAt? owner = some table) : owner ∈ [] :: document.addresses := by
  cases owner with
  | nil => exact List.mem_cons_self
  | cons step owner =>
      obtain ⟨rule, placed, _⟩ := Option.bind_eq_some_iff.mp found
      exact List.mem_cons_of_mem _ (rule_at_mem document _ rule placed)

theorem declares_table (document : Document) (owner : Address) (name : String) (declared : document.declares owner name) :
    ∃ table, document.tableAt? owner = some table := by
  rw [Document.declares] at declared
  cases found : document.tableAt? owner with
  | none =>
      rw [found] at declared
      cases declared
  | some table => exact ⟨table, rfl⟩

def Near (handed : List (Address × Address)) (owner place : Address) : Prop :=
  owner <:+ place ∨ ∃ pair ∈ handed, pair.1 = owner ∧ pair.2 <:+ place

instance (handed : List (Address × Address)) (owner place : Address) : Decidable (Near handed owner place) :=
  inferInstanceAs (Decidable (_ ∨ _))

abbrev Document.Lists (document : Document) (handed : List (Address × Address)) : Prop :=
  ∀ place ∈ document.addresses, ∀ name ∈ document.includedName? place,
    ∀ other ∈ [] :: document.addresses, document.declares other name → Near handed other place →
    ∀ owner ∈ [] :: document.addresses, (document.tableAt? owner).isSome → Near handed owner place →
      (owner, .repository name :: other) ∈ handed

theorem sight_listed (document : Document) (handed : List (Address × Address))
    (closed : document.Lists handed)
    (owner root place : Address) (seen : document.InSight owner root place) :
    (document.tableAt? owner).isSome ∧ ((root = owner ∧ owner <:+ place) ∨ ((owner, root) ∈ handed ∧ root <:+ place)) := by
  have near : ∀ owner root place : Address, (root = owner ∧ owner <:+ place) ∨ ((owner, root) ∈ handed ∧ root <:+ place) →
      Near handed owner place := by
    rintro owner root place (⟨_, encloses⟩ | ⟨listed, encloses⟩)
    · exact .inl encloses
    · exact .inr ⟨_, listed, rfl, encloses⟩
  have listedOwner : ∀ owner, (document.tableAt? owner).isSome → owner ∈ [] :: document.addresses := by
    intro owner own
    obtain ⟨table, found⟩ := Option.isSome_iff_exists.mp own
    exact table_at_mem document owner table found
  induction seen with
  | around owner place own encloses => exact ⟨own, .inl ⟨rfl, encloses⟩⟩
  | handed owner root other source place inner name seen included found declared within ihSeen ihFound =>
      obtain ⟨own, seenBy⟩ := ihSeen
      obtain ⟨otherOwn, foundBy⟩ := ihFound
      exact ⟨own, .inr ⟨closed place (included_name_mem document place name included) name included other
        (listedOwner other otherOwn) declared (near other source place foundBy) owner (listedOwner owner own) own
        (near owner root place seenBy), within⟩⟩

theorem enclosed_of_listed (document : Document) (handed : List (Address × Address))
    (closed : document.Lists handed)
    (shadowed : ∀ place ∈ document.addresses, ∀ name ∈ document.includedName? place,
      ∀ pair ∈ handed, pair.2 <:+ place → document.declares pair.1 name → pair.1 <:+ place ∨
        ∃ shadow ∈ [] :: document.addresses, document.declares shadow name ∧ pair.2 <:+ shadow ∧ shadow <:+ place)
    (parts : ∀ place ∈ [] :: document.addresses, document.isPart place → document.tableAt? place = none) :
    document.Enclosed where
  names place name owner root included seen declared := by
    obtain ⟨_, ⟨_, encloses⟩ | ⟨listed, within⟩⟩ := sight_listed document handed closed owner root place seen
    · exact .inl encloses
    · refine (shadowed place (included_name_mem document place name included) name included (owner, root) listed within
        declared).imp_right ?_
      rintro ⟨shadow, _, has, inside, encloses⟩
      exact ⟨shadow, has, inside, encloses⟩
  parts place isPart := by
    by_contra owns
    obtain ⟨table, found⟩ := Option.ne_none_iff_exists'.mp owns
    exact owns (parts place (table_at_mem document place table found) isPart)

theorem distinct_iff (document : Document) :
    document.Distinct ↔
      (document.repository.toList.map Prod.fst).Nodup ∧ (document.injections.toList.map Prod.fst).Nodup ∧
      ∀ address ∈ document.addresses, ∀ rule ∈ document.ruleAt? address,
        ∀ key ∈ ["captures", "beginCaptures", "endCaptures", "whileCaptures"],
          ((rule.captureTable key).entries.map Prod.fst).Nodup := by
  constructor
  · intro distinct
    exact ⟨distinct.repository, distinct.injections, fun address _ rule found key _ => distinct.captures address rule found
      key⟩
  · rintro ⟨repository, injections, captures⟩
    refine ⟨repository, injections, fun address rule found key => ?_⟩
    by_cases listed : key ∈ ["captures", "beginCaptures", "endCaptures", "whileCaptures"]
    · exact captures address (rule_at_mem document address rule found) rule found key listed
    · have nothing : rule.captureTable key = .absent := by
        simp only [List.mem_cons, List.not_mem_nil, or_false, not_or] at listed
        obtain ⟨notCaptures, notBegin, notEnd, notWhile⟩ := listed
        rw [RuleDocument.captureTable, if_neg notCaptures, if_neg notBegin, if_neg notEnd, if_neg notWhile]
      rw [nothing]
      exact List.nodup_nil

instance (document : Document) : Decidable document.Distinct := decidable_of_iff _ (distinct_iff document).symm

end Deciding

-- The chain that a rule at an address is compiled in view of, with `view` of what encloses it: whatever
-- does not enclose the rule comes after all of `view` that it was handed to.
section Sight

variable (document : Document)

structure Document.Sees (document : Document) (view : Chain) (place : Address) (chain : Chain) : Prop where
  around : view.Sublist chain
  handed : ∀ before entry after, chain = before ++ entry :: after → entry.1 <:+ place ∨
    ∃ root, document.InSight entry.1 root place ∧ ∀ inner ∈ view, root <:+ inner.1 → inner ∈ before

theorem sight_inside (owner root place inner : Address) (within : place <:+ inner)
    (seen : document.InSight owner root place) : document.InSight owner root inner := by
  cases seen with
  | around _ _ own encloses => exact .around owner inner own (encloses.trans within)
  | handed _ root other source earlier _ name seen included found declared encloses =>
      exact .handed owner root other source earlier inner name seen included found declared (encloses.trans within)

theorem sees_inside (view : Chain) (place inner : Address) (chain : Chain) (within : place <:+ inner)
    (sees : document.Sees view place chain) : document.Sees view inner chain where
  around := sees.around
  handed before entry after split := by
    refine (sees.handed before entry after split).imp (fun encloses => encloses.trans within) ?_
    rintro ⟨root, seen, earlier⟩
    exact ⟨root, sight_inside document _ _ _ _ within seen, earlier⟩

theorem sees_top (view : Chain) (place : Address) (less : view.Sublist [([], document.repository)]) :
    document.Sees view place [([], document.repository)] where
  around := less
  handed before entry after split := by
    have member : entry ∈ [([], document.repository)] := by simp [split]
    cases List.mem_singleton.mp member
    exact .inl List.nil_suffix

variable (chain : Chain) (isView : View document chain)

include isView

theorem sees_in_sight (view : Chain) (place : Address) (sees : document.Sees view place chain)
    (entry : Address × RuleTable) (member : entry ∈ chain) : ∃ root, document.InSight entry.1 root place := by
  obtain ⟨before, after, split⟩ := List.append_of_mem member
  rcases sees.handed before entry after split with encloses | ⟨root, seen, _⟩
  · have own := view_tables document chain isView entry member
    exact ⟨entry.1, .around entry.1 place (Option.isSome_of_eq_some own) encloses⟩
  · exact ⟨root, seen⟩

theorem sees_found (view : Chain) (place : Address) (sees : document.Sees view place chain) (name : String)
    (included : document.includedName? place = some name) (site : Site) (found : Chain.find? name chain = some site) :
    document.Sees (document.inView site.address.tail) site.address chain where
  around := (view_find document name chain isView site found).1
  handed before entry after split := by
    obtain ⟨owner, table, member, there, isAddress⟩ := find_mem name chain site found
    have listed : entry ∈ chain := by simp [split]
    obtain ⟨root, seen⟩ := sees_in_sight document chain isView view place sees entry listed
    obtain ⟨source, isSource⟩ := sees_in_sight document chain isView view place sees (owner, table) member
    have declared : document.declares owner name := by
      rw [Document.declares, view_tables document chain isView (owner, table) member]
      exact Option.isSome_of_eq_some there
    rw [isAddress]
    refine .inr ⟨_, .handed entry.1 root owner source place _ name seen included isSource declared List.suffix_rfl, ?_⟩
    intro inner inView within
    have outer := ((in_view_iff document _ inner.1 inner.2).mp inView).1
    have longer := within.length_le
    have shorter := outer.length_le
    simp at longer shorter
    omega

omit isView in
theorem sees_own (step : Step) (owner : Address) (table : RuleTable)
    (own : document.tableAt? (step :: owner) = some table)
    (sees : document.Sees (document.inView owner) (step :: owner) chain) :
    document.Sees (document.inView (step :: owner)) (step :: owner) ((step :: owner, table) :: chain) where
  around := by
    rw [Document.inView, own]
    exact sees.around.cons_cons _
  handed before entry after split := by
    cases before with
    | nil =>
        cases split
        exact .inl List.suffix_rfl
    | cons first before =>
        obtain ⟨rfl, within⟩ := List.cons.inj split
        refine (sees.handed before entry after within).imp_right ?_
        rintro ⟨root, seen, earlier⟩
        refine ⟨root, seen, fun inner inView inside => ?_⟩
        rw [Document.inView, own] at inView
        rcases List.mem_cons.mp inView with rfl | further
        · exact List.mem_cons_self
        · exact List.mem_cons_of_mem _ (earlier inner further inside)

theorem sees_find (enclosed : document.Enclosed) (place : Address) (sees : document.Sees (document.inView place) place chain)
    (name : String) (included : document.includedName? place = some name) :
    Chain.find? name (document.inView place) = Chain.find? name chain := by
  refine find_shadowed name _ chain sees.around (view_distinct document chain isView) ?_
  intro before entry after split has
  have own := view_tables document chain isView entry (by simp [split])
  have encloses : entry.1 <:+ place → entry ∈ document.inView place := fun encloses =>
    (in_view_iff document place entry.1 entry.2).mpr ⟨encloses, own⟩
  rcases sees.handed before entry after split with around | ⟨root, seen, earlier⟩
  · exact .inl (encloses around)
  · have declared : document.declares entry.1 name := by
      rw [Document.declares, own]
      exact has
    refine (enclosed.names place name entry.1 root included seen declared).imp encloses ?_
    rintro ⟨shadow, hasToo, inside, around⟩
    obtain ⟨table, found⟩ := declares_table document shadow name hasToo
    have inView := (in_view_iff document place shadow table).mpr ⟨around, found⟩
    refine ⟨(shadow, table), earlier _ inView inside, inView, ?_⟩
    rw [Document.declares, found] at hasToo
    exact hasToo

end Sight

section Links

variable (document : Document) (bench : Workbench)

def Target.isByName : Target → Bool
  | .inView _ | .topLevel _ | .nothing => true
  | _ => false

def Document.entry? (document : Document) (place : Address) : Target → Option Site
  | .inView name => Chain.find? name (document.inView place)
  | .topLevel name => Chain.find? name (document.inView [])
  | _ => none

inductive Denotes (place : Address) (target : String) : Option PatternRef → Prop
  | root (isRoot : Target.ofText document.scopeName target = .root) : Denotes place target (some (.rule 0))
  | base (isBase : Target.ofText document.scopeName target = .base) : Denotes place target (some .base)
  | external (scope : String) (rule : Option String)
      (isExternal : Target.ofText document.scopeName target = .external scope rule) :
      Denotes place target (some (.external scope rule))
  | entry (site : Site) (id : Nat)
      (found : document.entry? place (Target.ofText document.scopeName target) = some site)
      (compiled : bench.ids.lookup site.address = some id) : Denotes place target (some (.rule id))
  | unresolved (location : String) (byName : (Target.ofText document.scopeName target).isByName)
      (missing : document.entry? place (Target.ofText document.scopeName target) = none)
      (reported : ⟨location, .unresolvedInclude target⟩ ∈ bench.diagnostics) : Denotes place target none

inductive PatternsLinked (owner : Address) : Nat → List RuleDocument → List PatternRef → Prop
  | nil (index : Nat) : PatternsLinked owner index [] []
  | included (index : Nat) (rule : RuleDocument) (rest : List RuleDocument) (target : String)
      (found : Option PatternRef) (refs : List PatternRef) (listed : rule.listed? = some target)
      (denotes : Denotes document bench (.pattern index :: owner) target found)
      (tail : PatternsLinked owner (index + 1) rest refs) :
      PatternsLinked owner index (rule :: rest) (found.toList ++ refs)
  | own (index : Nat) (rule : RuleDocument) (rest : List RuleDocument) (id : Nat) (refs : List PatternRef)
      (unlisted : rule.listed? = none) (compiled : bench.ids.lookup (.pattern index :: owner) = some id)
      (tail : PatternsLinked owner (index + 1) rest refs) :
      PatternsLinked owner index (rule :: rest) (.rule id :: refs)

-- The patterns of a capture are compiled into a container. Every rule that is spoken of from here on has an index
-- from `floor` on: what lies below is still being compiled.
def CaptureLinked (floor : Nat) (address : Address) (table key : String) (rule : RuleDocument) (id : Nat) : Prop :=
  ∃ rules refs, rule.patterns = .present rules ∧ floor ≤ id ∧
    bench.rules[id]? = some (.container ⟨none, none, refs⟩) ∧
    PatternsLinked document bench (.capture table key :: address) 0 rules.toList refs

def CapturesUsed (floor : Nat) (address : Address) (source : String × List (String × RuleDocument))
    (captures : CaptureTable) : Prop :=
  ∀ group capture id, (group, capture) ∈ captures → capture.retokenize = some id →
    ∃ key rule, (key, rule) ∈ source.2 ∧ groupOfKey? key = some group ∧
      CaptureLinked document bench floor address source.1 key rule id

def CapturesCompiled (floor : Nat) (address : Address) (source : String × List (String × RuleDocument)) : Prop :=
  ∀ key rule, (key, rule) ∈ source.2 → (groupOfKey? key).isSome → rule.patterns.isPresent →
    ∃ id, CaptureLinked document bench floor address source.1 key rule id

structure CapturesLinked (floor : Nat) (address : Address) (source : String × List (String × RuleDocument))
    (captures : CaptureTable) : Prop where
  used : CapturesUsed document bench floor address source captures
  compiled : CapturesCompiled document bench floor address source

inductive ShapeLinked (floor : Nat) (address : Address) (rule : RuleDocument) : Rule → Prop
  | refused (error : ShapeError) (shape : rule.keys.shape = .error error) : ShapeLinked floor address rule .invalid
  | reference (target : String) (found : Option PatternRef) (shape : rule.keys.shape = .ok (.reference target))
      (denotes : Denotes document bench address target found) :
      ShapeLinked floor address rule (.container ⟨rule.keys.name, rule.keys.contentName, found.toList⟩)
  | container (refs : List PatternRef) (shape : rule.keys.shape = .ok .container)
      (patterns : PatternsLinked document bench address 0 rule.patterns.items refs) :
      ShapeLinked floor address rule (.container ⟨rule.keys.name, rule.keys.contentName, refs⟩)
  | single (pattern : String) (captures : CaptureTable) (shape : rule.keys.shape = .ok (.single pattern))
      (linked : CapturesLinked document bench floor address (rule.capturesOr "captures") captures) :
      ShapeLinked floor address rule (.single ⟨rule.keys.name, pattern, captures⟩)
  | beginEnd (opening closing : String) (beginCaptures endCaptures : CaptureTable) (refs : List PatternRef)
      (shape : rule.keys.shape = .ok (.beginEnd opening closing))
      (beginLinked : CapturesLinked document bench floor address (rule.capturesOr "beginCaptures") beginCaptures)
      (endLinked : CapturesLinked document bench floor address (rule.capturesOr "endCaptures") endCaptures)
      (patterns : PatternsLinked document bench address 0 rule.patterns.items refs) :
      ShapeLinked floor address rule (.beginEnd ⟨rule.keys.name, rule.keys.contentName, opening, beginCaptures, closing,
        endCaptures, rule.keys.endPatternLast, refs⟩)
  | beginWhile (opening continuing : String) (beginCaptures whileCaptures : CaptureTable) (refs : List PatternRef)
      (shape : rule.keys.shape = .ok (.beginWhile opening continuing))
      (beginLinked : CapturesLinked document bench floor address (rule.capturesOr "beginCaptures") beginCaptures)
      (whileLinked : CapturesLinked document bench floor address (rule.capturesOr "whileCaptures") whileCaptures)
      (patterns : PatternsLinked document bench address 0 rule.patterns.items refs) :
      ShapeLinked floor address rule (.beginWhile ⟨rule.keys.name, rule.keys.contentName, opening, beginCaptures,
        continuing, whileCaptures, refs⟩)

-- The rule with an index is the one at an address of the document, and its includes stand for the entries of the
-- repositories that enclose them.
def RuleLinked (floor : Nat) (address : Address) (id : Nat) : Prop :=
  floor ≤ id ∧ ∃ rule compiled, document.ruleAt? address = some rule ∧ bench.rules[id]? = some compiled ∧
    ShapeLinked document bench floor address rule compiled

end Links

structure Grows (floor : Nat) (before after : Workbench) : Prop where
  ids : ∀ address id, before.ids.lookup address = some id → after.ids.lookup address = some id
  rules : ∀ id rule, floor ≤ id → before.rules[id]? = some rule → after.rules[id]? = some rule
  reports : ∀ diagnostic ∈ before.diagnostics, diagnostic ∈ after.diagnostics

theorem grows_refl (floor : Nat) (bench : Workbench) : Grows floor bench bench :=
  ⟨fun _ _ same => same, fun _ _ _ same => same, fun _ same => same⟩

section Growing

variable {document : Document} {before after : Workbench} {floor lower : Nat} (grows : Grows floor before after)

include grows

theorem denotes_grows (place : Address) (target : String) (found : Option PatternRef)
    (denotes : Denotes document before place target found) : Denotes document after place target found := by
  cases denotes with
  | root isRoot => exact .root isRoot
  | base isBase => exact .base isBase
  | external scope rule isExternal => exact .external scope rule isExternal
  | entry site id isFound compiled => exact .entry site id isFound (grows.ids _ _ compiled)
  | unresolved location byName missing reported =>
      exact .unresolved location byName missing (grows.reports _ reported)

theorem patterns_grow (owner : Address) (index : Nat) (rules : List RuleDocument) (refs : List PatternRef)
    (linked : PatternsLinked document before owner index rules refs) :
    PatternsLinked document after owner index rules refs := by
  induction linked with
  | nil index => exact .nil index
  | included index rule rest target found refs listed denotes tail ih =>
      exact .included index rule rest target found refs listed (denotes_grows grows _ _ _ denotes) ih
  | own index rule rest id refs unlisted compiled tail ih =>
      exact .own index rule rest id refs unlisted (grows.ids _ _ compiled) ih

variable (lowers : lower ≤ floor)

include lowers

theorem capture_grows (address : Address) (table key : String) (rule : RuleDocument) (id : Nat)
    (linked : CaptureLinked document before floor address table key rule id) :
    CaptureLinked document after lower address table key rule id := by
  obtain ⟨rules, refs, present, above, there, patterns⟩ := linked
  exact ⟨rules, refs, present, Nat.le_trans lowers above, grows.rules _ _ above there, patterns_grow grows _ _ _ _ patterns⟩

theorem captures_used_grow (address : Address) (source : String × List (String × RuleDocument))
    (captures : CaptureTable) (used : CapturesUsed document before floor address source captures) :
    CapturesUsed document after lower address source captures := by
  intro group capture id member retokenize
  obtain ⟨key, rule, listed, isGroup, here⟩ := used group capture id member retokenize
  exact ⟨key, rule, listed, isGroup, capture_grows grows lowers _ _ _ _ _ here⟩

theorem captures_grow (address : Address) (source : String × List (String × RuleDocument)) (captures : CaptureTable)
    (linked : CapturesLinked document before floor address source captures) :
    CapturesLinked document after lower address source captures where
  used := captures_used_grow grows lowers address source captures linked.used
  compiled := by
    intro key rule listed isGroup present
    obtain ⟨id, here⟩ := linked.compiled key rule listed isGroup present
    exact ⟨id, capture_grows grows lowers _ _ _ _ _ here⟩

theorem shape_grows (address : Address) (rule : RuleDocument) (compiled : Rule)
    (linked : ShapeLinked document before floor address rule compiled) :
    ShapeLinked document after lower address rule compiled := by
  cases linked with
  | refused error shape => exact .refused error shape
  | reference target found shape denotes => exact .reference target found shape (denotes_grows grows _ _ _ denotes)
  | container refs shape patterns => exact .container refs shape (patterns_grow grows _ _ _ _ patterns)
  | single pattern captures shape linked => exact .single pattern captures shape (captures_grow grows lowers _ _ _ linked)
  | beginEnd opening closing beginCaptures endCaptures refs shape beginLinked endLinked patterns =>
      exact .beginEnd opening closing beginCaptures endCaptures refs shape (captures_grow grows lowers _ _ _ beginLinked)
        (captures_grow grows lowers _ _ _ endLinked) (patterns_grow grows _ _ _ _ patterns)
  | beginWhile opening continuing beginCaptures whileCaptures refs shape beginLinked whileLinked patterns =>
      exact .beginWhile opening continuing beginCaptures whileCaptures refs shape
        (captures_grow grows lowers _ _ _ beginLinked) (captures_grow grows lowers _ _ _ whileLinked)
        (patterns_grow grows _ _ _ _ patterns)

theorem rule_grows (address : Address) (id : Nat) (linked : RuleLinked document before floor address id) :
    RuleLinked document after lower address id := by
  obtain ⟨above, rule, compiled, placed, there, shape⟩ := linked
  exact ⟨Nat.le_trans lowers above, rule, compiled, placed, grows.rules _ _ above there,
    shape_grows grows lowers _ _ _ shape⟩

end Growing

structure Healthy (document : Document) (bench : Workbench) : Prop where
  distinct : (bench.ids.map Prod.fst).Nodup
  placed : ∀ address ∈ bench.ids.map Prod.fst, (document.ruleAt? address).isSome

-- What any part of a compilation does: it leaves alone what there was, and links what it adds.
structure Onward (document : Document) (before after : Workbench) : Prop where
  grows : Grows 0 before after
  size : before.rules.size ≤ after.rules.size
  count : before.ids.length ≤ after.ids.length
  healthy : Healthy document before → Healthy document after
  linked : ∀ address id, before.ids.lookup address = none → after.ids.lookup address = some id →
    RuleLinked document after before.rules.size address id

namespace Onward

variable {document : Document} {before middle after : Workbench}

theorem refl (bench : Workbench) : Onward document bench bench where
  grows := grows_refl 0 bench
  size := Nat.le_refl _
  count := Nat.le_refl _
  healthy := id
  linked address id missing found := by
    rw [missing] at found
    cases found

theorem grows_from (onward : Onward document before after) (floor : Nat) : Grows floor before after :=
  ⟨onward.grows.ids, fun id rule _ => onward.grows.rules id rule (Nat.zero_le _), onward.grows.reports⟩

theorem trans (first : Onward document before middle) (second : Onward document middle after) :
    Onward document before after where
  grows := ⟨fun address id found => second.grows.ids address id (first.grows.ids address id found),
    fun id rule above found => second.grows.rules id rule above (first.grows.rules id rule above found),
    fun diagnostic found => second.grows.reports diagnostic (first.grows.reports diagnostic found)⟩
  size := Nat.le_trans first.size second.size
  count := Nat.le_trans first.count second.count
  healthy healthy := second.healthy (first.healthy healthy)
  linked address id missing found := by
    cases between : middle.ids.lookup address with
    | none =>
        have linked := second.linked address id between found
        exact rule_grows (grows_refl _ after) first.size address id linked
    | some other =>
        have isSame : other = id := Option.some.inj ((second.grows.ids address other between).symm.trans found)
        subst isSame
        exact rule_grows (second.grows_from _) (Nat.le_refl _) address other (first.linked address other missing between)

end Onward

end LineScope.Grammar
