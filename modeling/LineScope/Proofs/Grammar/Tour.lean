import LineScope.Proofs.Grammar.Include

/-!
The way of a compilation through its document, without what it builds. A rule is visited once, and a
visit meets patterns, keys of captures, includes and further rules in a fixed order; an include that
resolves and a rule lead to visits of their own. What is met can be wrong in itself, whatever is
compiled before and after it.
-/

set_option autoImplicit false

namespace LineScope.Grammar

structure Visit where
  chain : Chain
  site : Site
  location : String

namespace Visit

def address (visit : Visit) : Address := visit.site.address

def view (visit : Visit) : Chain := visit.site.chain visit.chain

end Visit

inductive Element where
  | keys (error : ShapeError)
  | pattern (source : String) (filledLater : Bool)
  | captureKey (key : String)
  | inclusion (chain : Chain) (target : String)
  | rule (chain : Chain) (site : Site)
  | selector (source : String)

structure Item where
  location : String
  element : Element

section Meeting

def patternItem (chain : Chain) (owner : Address) (location : String) (index : Nat) (rule : RuleDocument) : Item :=
  ⟨join location ("patterns/" ++ toString index),
    match rule.listed? with
    | some target => .inclusion chain target
    | none => .rule chain ⟨rule, .pattern index :: owner⟩⟩

def patternItems (chain : Chain) (owner : Address) (location : String) : Nat → List RuleDocument → List Item
  | _, [] => []
  | index, rule :: rest => patternItem chain owner location index rule :: patternItems chain owner location (index + 1) rest

-- Only the key is met of a capture that is for no group. The slots of a group are asked for once the patterns of its
-- capture are compiled.
def captureItems (chain : Chain) (owner : Address) (table location : String) : List (String × RuleDocument) → List Item
  | [] => []
  | (key, rule) :: rest =>
      (if (groupOfKey? key).isSome then
          patternItems chain (.capture table key :: owner) (join location key) 0 rule.patterns.items
        else []) ++
        ⟨join location key, .captureKey key⟩ :: captureItems chain owner table location rest

namespace Visit

def children (visit : Visit) : List Item :=
  patternItems visit.view visit.address visit.location 0 visit.site.rule.patterns.items

def captures (visit : Visit) (key : String) : List Item :=
  let source := visit.site.rule.capturesOr key
  captureItems visit.view visit.address source.1 (join visit.location source.1) source.2

def items (visit : Visit) : List Item :=
  match visit.site.rule.keys.shape with
  | .error error => [⟨visit.location, .keys error⟩]
  | .ok (.reference target) => [⟨visit.location, .inclusion visit.view target⟩]
  | .ok .container => visit.children
  | .ok (.single source) => ⟨join visit.location "match", .pattern source false⟩ :: visit.captures "captures"
  | .ok (.beginEnd opening closing) =>
      ⟨join visit.location "begin", .pattern opening false⟩ :: (visit.captures "beginCaptures" ++
        ⟨join visit.location "end", .pattern closing true⟩ :: (visit.captures "endCaptures" ++ visit.children))
  | .ok (.beginWhile opening continuing) =>
      ⟨join visit.location "begin", .pattern opening false⟩ :: (visit.captures "beginCaptures" ++
        ⟨join visit.location "while", .pattern continuing true⟩ :: (visit.captures "whileCaptures" ++ visit.children))

end Visit

namespace Document

def outermost (document : Document) : Chain := [([], document.repository)]

def found? (document : Document) (chain : Chain) (target : String) : Option (Chain × Site) :=
  match Target.ofText document.scopeName target with
  | .inView name => (Chain.find? name chain).map fun site => (chain, site)
  | .topLevel name => (Chain.find? name document.outermost).map fun site => (document.outermost, site)
  | _ => none

def unresolved (document : Document) (chain : Chain) (target : String) : Bool :=
  (Target.ofText document.scopeName target).isByName && (document.found? chain target).isNone

def entryItems (document : Document) (entries : List (String × RuleDocument)) : List Item :=
  entries.map fun entry => ⟨join "repository" entry.1, .rule document.outermost ⟨entry.2, [.repository entry.1]⟩⟩

def injectionItems (document : Document) : List (String × RuleDocument) → List Item
  | [] => []
  | (source, rule) :: rest =>
      ⟨join "injections" source, .rule document.outermost ⟨rule, [.injection source]⟩⟩ ::
        ⟨join "injections" source, .selector source⟩ :: document.injectionItems rest

def laterItems (document : Document) : List Item :=
  patternItems document.outermost [] "" 0 document.patterns.toList ++
  document.injectionItems document.injections.toList ++
  (document.injectionSelector.map fun source => ⟨"injectionSelector", .selector source⟩).toList ++
  (document.firstLineMatch.map fun source => ⟨"firstLineMatch", .pattern source false⟩).toList

def items (document : Document) : List Item :=
  document.entryItems document.repository.toList ++ document.laterItems

end Document

namespace Item

def visit? (document : Document) (item : Item) : Option Visit :=
  match item.element with
  | .rule chain site => some ⟨chain, site, item.location⟩
  | .inclusion chain target => (document.found? chain target).map fun found => ⟨found.1, found.2, item.location⟩
  | _ => none

def problem? (engine : Pattern.Engine) (document : Document) (item : Item) : Option Problem :=
  match item.element with
  | .keys error => some (.invalidShape (.keys error))
  | .pattern source filledLater =>
      if filledLater && Pattern.hasReferences source then none
      else (engine.check source.toList).map fun message => .invalidPattern source message
  | .captureKey key => if (groupOfKey? key).isSome then none else some (.invalidShape (.captureKey key))
  | .inclusion chain target => if document.unresolved chain target then some (.unresolvedInclude target) else none
  | .rule _ _ => none
  | .selector source =>
      match Selector.parse source with
      | .ok _ => none
      | .error error => some (.invalidSelector source error)

def report? (engine : Pattern.Engine) (document : Document) (item : Item) : Option Diagnostic :=
  (item.problem? engine document).map fun problem => ⟨item.location, problem⟩

def fault? (slotBytes : Nat) (item : Item) : Option Fault :=
  match item.element with
  | .captureKey key => (groupOfKey? key).bind (Fault.ofGroup? slotBytes)
  | _ => none

theorem lead_faultless (document : Document) (item : Item) (visit : Visit) (leads : item.visit? document = some visit)
    (slotBytes : Nat) : item.fault? slotBytes = none := by
  obtain ⟨location, element⟩ := item
  cases element with
  | captureKey key => cases leads
  | _ => rfl

end Item

-- The rules visited so far, last one first, and the items met, first one first.
structure Tour where
  visits : List Visit := []
  met : List Item := []

namespace Tour

def meet (document : Document) (enter : Tour → Visit → Tour) (tour : Tour) (item : Item) : Tour :=
  let tour := { tour with met := tour.met ++ [item] }
  match item.visit? document with
  | some visit => enter tour visit
  | none => tour

def enter (document : Document) : Nat → Tour → Visit → Tour
  | 0, tour, _ => tour
  | fuel + 1, tour, visit =>
      if visit.address ∈ tour.visits.map Visit.address then tour
      else visit.items.foldl (meet document (enter document fuel)) { tour with visits := visit :: tour.visits }

end Tour

namespace Document

def tour (document : Document) : Tour :=
  document.items.foldl (Tour.meet document (Tour.enter document (document.size + 1))) {}

def visits (document : Document) : List Visit := document.tour.visits

def met (document : Document) : List Item := document.tour.met

end Document

end Meeting

section Items

variable (item : Item)

theorem mem_pattern_items (chain : Chain) (owner : Address) (location : String) (index : Nat) (rules : List RuleDocument) :
    item ∈ patternItems chain owner location index rules ↔
      ∃ offset rule, rules[offset]? = some rule ∧ item = patternItem chain owner location (index + offset) rule := by
  induction rules generalizing index with
  | nil => simp [patternItems]
  | cons first rest ih =>
      rw [patternItems, List.mem_cons, ih]
      constructor
      · rintro (rfl | ⟨offset, rule, found, rfl⟩)
        · exact ⟨0, first, rfl, rfl⟩
        · exact ⟨offset + 1, rule, found, by rw [Nat.add_right_comm, Nat.add_assoc]⟩
      · rintro ⟨offset, rule, found, rfl⟩
        cases offset with
        | zero =>
            cases found
            exact .inl rfl
        | succ offset => exact .inr ⟨offset, rule, found, by rw [Nat.add_right_comm, Nat.add_assoc]⟩

theorem mem_capture_items (chain : Chain) (owner : Address) (table location : String)
    (entries : List (String × RuleDocument)) :
    item ∈ captureItems chain owner table location entries ↔
      ∃ key rule, (key, rule) ∈ entries ∧ (item = ⟨join location key, .captureKey key⟩ ∨
        (groupOfKey? key).isSome ∧
          item ∈ patternItems chain (.capture table key :: owner) (join location key) 0 rule.patterns.items) := by
  induction entries with
  | nil => simp [captureItems]
  | cons entry rest ih =>
      obtain ⟨key, rule⟩ := entry
      have inside : item ∈ (if (groupOfKey? key).isSome then
          patternItems chain (.capture table key :: owner) (join location key) 0 rule.patterns.items else []) ↔
          (groupOfKey? key).isSome ∧
            item ∈ patternItems chain (.capture table key :: owner) (join location key) 0 rule.patterns.items := by
        split <;> simp [*]
      rw [captureItems, List.mem_append, List.mem_cons, inside, ih]
      constructor
      · rintro (here | here | ⟨other, child, listed, there⟩)
        · exact ⟨key, rule, List.mem_cons_self, .inr here⟩
        · exact ⟨key, rule, List.mem_cons_self, .inl here⟩
        · exact ⟨other, child, List.mem_cons_of_mem _ listed, there⟩
      · rintro ⟨other, child, listed, there⟩
        rcases List.mem_cons.mp listed with same | later
        · cases same
          exact there.symm.imp_right .inl
        · exact .inr (.inr ⟨other, child, later, there⟩)

def Element.isOwn : Element → Bool
  | .keys _ | .pattern _ _ | .selector _ => true
  | .captureKey _ | .inclusion _ _ | .rule _ _ => false

theorem own_item_nowhere (document : Document) (own : item.element.isOwn) : item.visit? document = none := by
  obtain ⟨location, element⟩ := item
  cases element with
  | keys error => rfl
  | pattern source filledLater => rfl
  | selector source => rfl
  | captureKey key => rfl
  | inclusion chain target => cases own
  | rule chain site => cases own

theorem pattern_items_not_own (chain : Chain) (owner : Address) (location : String) (index : Nat)
    (rules : List RuleDocument) (listed : item ∈ patternItems chain owner location index rules) :
    item.element.isOwn = false := by
  obtain ⟨offset, rule, _, rfl⟩ := (mem_pattern_items item chain owner location index rules).mp listed
  rw [patternItem]
  cases rule.listed? <;> rfl

theorem capture_items_not_own (chain : Chain) (owner : Address) (table location : String)
    (entries : List (String × RuleDocument)) (listed : item ∈ captureItems chain owner table location entries) :
    item.element.isOwn = false := by
  obtain ⟨key, rule, _, rfl | ⟨_, inside⟩⟩ := (mem_capture_items item chain owner table location entries).mp listed
  · rfl
  · exact pattern_items_not_own item _ _ _ _ _ inside

def Visit.ownItems (visit : Visit) : List Item :=
  match visit.site.rule.keys.shape with
  | .error error => [⟨visit.location, .keys error⟩]
  | .ok (.single source) => [⟨join visit.location "match", .pattern source false⟩]
  | .ok (.beginEnd opening closing) =>
      [⟨join visit.location "begin", .pattern opening false⟩, ⟨join visit.location "end", .pattern closing true⟩]
  | .ok (.beginWhile opening continuing) =>
      [⟨join visit.location "begin", .pattern opening false⟩, ⟨join visit.location "while", .pattern continuing true⟩]
  | .ok (.reference _) | .ok .container => []

theorem visit_own_items (visit : Visit) (own : item.element.isOwn) : item ∈ visit.items ↔ item ∈ visit.ownItems := by
  have noChild : item ∉ visit.children := by
    intro listed
    rw [pattern_items_not_own item _ _ _ _ _ listed] at own
    cases own
  have noCapture : ∀ key, item ∉ visit.captures key := by
    intro key listed
    rw [capture_items_not_own item _ _ _ _ _ listed] at own
    cases own
  rw [Visit.items, Visit.ownItems]
  cases visit.site.rule.keys.shape with
  | error error => rfl
  | ok shape =>
      cases shape with
      | reference target =>
          simp only [List.mem_singleton, List.not_mem_nil, iff_false]
          rintro rfl
          cases own
      | container => simp [noChild]
      | single source => simp [noCapture]
      | beginEnd opening closing => simp [noCapture, noChild]
      | beginWhile opening continuing => simp [noCapture, noChild]

theorem mem_injection_items (document : Document) (entries : List (String × RuleDocument)) :
    item ∈ document.injectionItems entries ↔ ∃ source rule, (source, rule) ∈ entries ∧
      (item = ⟨join "injections" source, .rule document.outermost ⟨rule, [.injection source]⟩⟩ ∨
        item = ⟨join "injections" source, .selector source⟩) := by
  induction entries with
  | nil => simp [Document.injectionItems]
  | cons entry rest ih =>
      rw [Document.injectionItems, List.mem_cons, List.mem_cons, ih]
      constructor
      · rintro (here | here | ⟨source, rule, listed, there⟩)
        · exact ⟨entry.1, entry.2, List.mem_cons_self, .inl here⟩
        · exact ⟨entry.1, entry.2, List.mem_cons_self, .inr here⟩
        · exact ⟨source, rule, List.mem_cons_of_mem _ listed, there⟩
      · rintro ⟨source, rule, listed, there⟩
        rcases List.mem_cons.mp listed with rfl | later
        · exact there.imp_right .inl
        · exact .inr (.inr ⟨source, rule, later, there⟩)

theorem document_own_items (document : Document) (own : item.element.isOwn) :
    item ∈ document.items ↔
      (∃ source rule, (source, rule) ∈ document.injections.toList ∧ item = ⟨join "injections" source, .selector source⟩) ∨
      (∃ source ∈ document.injectionSelector, item = ⟨"injectionSelector", .selector source⟩) ∨
      ∃ source ∈ document.firstLineMatch, item = ⟨"firstLineMatch", .pattern source false⟩ := by
  have noEntry : item ∉ document.entryItems document.repository.toList := by
    intro listed
    obtain ⟨entry, _, rfl⟩ := List.mem_map.mp listed
    cases own
  have noPattern : item ∉ patternItems document.outermost [] "" 0 document.patterns.toList := by
    intro listed
    rw [pattern_items_not_own item _ _ _ _ _ listed] at own
    cases own
  have noRule : ∀ location chain site, item ≠ ⟨location, .rule chain site⟩ := by
    rintro location chain site rfl
    cases own
  have written : ∀ (source : Option String) (build : String → Item),
      item ∈ (source.map build).toList ↔ ∃ text ∈ source, item = build text := by
    intro source build
    cases source <;> simp
  simp only [Document.items, Document.laterItems, List.mem_append, noEntry, noPattern, mem_injection_items, noRule, written,
    false_or, or_assoc]

end Items

section Touring

variable (document : Document)

def Tour.Adds (before after : Tour) (items : List Item) : Prop :=
  ∃ visits met, after.visits = visits ++ before.visits ∧ after.met = before.met ++ met ∧
    ∀ item, item ∈ met ↔ item ∈ items ∨ ∃ visit ∈ visits, item ∈ visit.items

theorem adds_nothing (tour : Tour) : tour.Adds tour [] :=
  ⟨[], [], rfl, (List.append_nil _).symm, by simp⟩

theorem adds_trans (first middle last : Tour) (items later : List Item) (begins : first.Adds middle items)
    (goesOn : middle.Adds last later) : first.Adds last (items ++ later) := by
  obtain ⟨visits, met, isVisits, isMet, each⟩ := begins
  obtain ⟨laterVisits, laterMet, isLaterVisits, isLaterMet, laterEach⟩ := goesOn
  refine ⟨laterVisits ++ visits, met ++ laterMet, ?_, ?_, ?_⟩
  · rw [isLaterVisits, isVisits, List.append_assoc]
  · rw [isLaterMet, isMet, List.append_assoc]
  · intro item
    simp only [List.mem_append, each, laterEach]
    constructor
    · rintro ((here | ⟨visit, listed, inside⟩) | later | ⟨visit, listed, inside⟩)
      · exact .inl (.inl here)
      · exact .inr ⟨visit, .inr listed, inside⟩
      · exact .inl (.inr later)
      · exact .inr ⟨visit, .inl listed, inside⟩
    · rintro ((here | later) | ⟨visit, listed | listed, inside⟩)
      · exact .inl (.inl here)
      · exact .inr (.inl later)
      · exact .inr (.inr ⟨visit, listed, inside⟩)
      · exact .inl (.inr ⟨visit, listed, inside⟩)

theorem meet_adds (enter : Tour → Visit → Tour) (enters : ∀ (tour : Tour) visit, tour.Adds (enter tour visit) []) (tour : Tour)
    (item : Item) : tour.Adds (tour.meet document enter item) [item] := by
  have noted : tour.Adds { tour with met := tour.met ++ [item] } [item] := ⟨[], [item], rfl, rfl, by simp⟩
  rw [Tour.meet]
  split
  · rename_i visit _
    exact adds_trans _ _ _ _ _ noted (enters _ visit)
  · exact noted

theorem meet_all_adds (enter : Tour → Visit → Tour) (enters : ∀ (tour : Tour) visit, tour.Adds (enter tour visit) [])
    (items : List Item) (tour : Tour) : tour.Adds (items.foldl (Tour.meet document enter) tour) items := by
  induction items generalizing tour with
  | nil => exact adds_nothing tour
  | cons item rest ih => exact adds_trans _ _ _ [item] rest (meet_adds document enter enters tour item) (ih _)

theorem enter_adds (fuel : Nat) (tour : Tour) (visit : Visit) : tour.Adds (Tour.enter document fuel tour visit) [] := by
  induction fuel generalizing tour visit with
  | zero => exact adds_nothing tour
  | succ fuel ih =>
      rw [Tour.enter]
      split
      · exact adds_nothing tour
      · obtain ⟨visits, met, isVisits, isMet, each⟩ :=
          meet_all_adds document _ ih visit.items { tour with visits := visit :: tour.visits }
        refine ⟨visits ++ [visit], met, ?_, isMet, ?_⟩
        · rw [isVisits, List.append_assoc]
          rfl
        · intro item
          rw [each]
          constructor
          · rintro (here | ⟨other, listed, inside⟩)
            · exact .inr ⟨visit, by simp, here⟩
            · exact .inr ⟨other, by simp [listed], inside⟩
          · rintro (impossible | ⟨other, listed, inside⟩)
            · cases impossible
            · rcases List.mem_append.mp listed with listed | same
              · exact .inr ⟨other, listed, inside⟩
              · exact .inl (List.mem_singleton.mp same ▸ inside)

def Tour.Distinct (tour : Tour) : Prop := (tour.visits.map Visit.address).Nodup

theorem meet_distinct (enter : Tour → Visit → Tour)
    (enters : ∀ (tour : Tour) visit, tour.Distinct → (enter tour visit).Distinct) (tour : Tour) (item : Item)
    (distinct : tour.Distinct) : (tour.meet document enter item).Distinct := by
  rw [Tour.meet]
  split
  · exact enters _ _ distinct
  · exact distinct

theorem enter_distinct (fuel : Nat) (tour : Tour) (visit : Visit) (distinct : tour.Distinct) :
    (Tour.enter document fuel tour visit).Distinct := by
  induction fuel generalizing tour visit with
  | zero => exact distinct
  | succ fuel ih =>
      rw [Tour.enter]
      split
      · exact distinct
      · rename_i isNew
        refine List.foldlRecOn (motive := Tour.Distinct) visit.items _ (List.nodup_cons.mpr ⟨isNew, distinct⟩) ?_
        exact fun tour distinct item _ => meet_distinct document _ ih tour item distinct

theorem visits_distinct : (document.visits.map Visit.address).Nodup :=
  List.foldlRecOn (motive := Tour.Distinct) document.items _ List.nodup_nil fun tour distinct item _ =>
    meet_distinct document _ (enter_distinct document _) tour item distinct

theorem met_iff (item : Item) :
    item ∈ document.met ↔ item ∈ document.items ∨ ∃ visit ∈ document.visits, item ∈ visit.items := by
  obtain ⟨visits, met, isVisits, isMet, each⟩ :=
    meet_all_adds document _ (enter_adds document (document.size + 1)) document.items {}
  rw [Document.met, Document.visits, Document.tour, isVisits, isMet]
  simpa using each item

end Touring

end LineScope.Grammar
