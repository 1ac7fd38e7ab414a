import LineScope.Proofs.Grammar.RuleText
import LineScope.Proofs.Grammar.Tour

set_option autoImplicit false

namespace LineScope.Grammar

def Step.segments : Step → List String
  | .repository name => ["repository", name]
  | .pattern index => ["patterns", toString index]
  | .capture table key => [table, key]
  | .injection selector => ["injections", selector]

def pathTo : Address → List String
  | [] => []
  | step :: owner => pathTo owner ++ step.segments

theorem path_append (steps owner : Address) : pathTo (steps ++ owner) = pathTo owner ++ pathTo steps := by
  induction steps with
  | nil => simp [pathTo]
  | cons step steps ih => rw [List.cons_append, pathTo, pathTo, ih, List.append_assoc]

def locate (location : String) (path : List String) : String := path.foldl join location

theorem join_pattern (location : String) (index : Nat) :
    join location ("patterns/" ++ toString index) = locate location ["patterns", toString index] := by
  have split : "patterns/" = "patterns" ++ "/" := rfl
  have named : ("patterns".isEmpty : Bool) = false := rfl
  rw [locate, List.foldl_cons, List.foldl_cons, List.foldl_nil]
  unfold join
  split
  · rw [if_neg (by simp [named]), split]
  · rw [if_neg (by simp), split]
    simp only [String.append_assoc]

-- What stands at a place: the rule itself, a pattern under one of its keys, its key among captures, its include, or
-- the rule as one to visit, in view of repositories of the document.
inductive Stands (document : Document) (place : Address) : Option RuleKey → Element → Prop
  | keys (rule : RuleDocument) (error : ShapeError) (placed : document.ruleAt? place = some rule)
      (shape : rule.keys.shape = .error error) : Stands document place none (.keys error)
  | pattern (rule : RuleDocument) (key : RuleKey) (source : String) (filledLater : Bool)
      (placed : document.ruleAt? place = some rule) (written : rule.text? key = some source) :
      Stands document place (some key) (.pattern source filledLater)
  | captureKey (rule : RuleDocument) (table key : String) (owner : Address) (isPlace : place = .capture table key :: owner)
      (placed : document.ruleAt? place = some rule) : Stands document place none (.captureKey key)
  | inclusion (rule : RuleDocument) (chain : Chain) (target : String) (placed : document.ruleAt? place = some rule)
      (includes : rule.keys.includeTarget = some target)
      (known : ∀ entry ∈ chain, document.tableAt? entry.1 = some entry.2) :
      Stands document place none (.inclusion chain target)
  | rule (rule : RuleDocument) (chain : Chain) (placed : document.ruleAt? place = some rule)
      (known : ∀ entry ∈ chain, document.tableAt? entry.1 = some entry.2) :
      Stands document place none (.rule chain ⟨rule, place⟩)

def StandsBelow (document : Document) (owner : Address) (location : String) (item : Item) : Prop :=
  ∃ (steps : Address) (key : Option RuleKey), Stands document (steps ++ owner) key item.element ∧
    item.location = locate location (pathTo steps ++ (key.map RuleKey.text).toList)

structure Visit.Placed (document : Document) (visit : Visit) : Prop where
  rule : document.ruleAt? visit.address = some visit.site.rule
  known : ∀ entry ∈ visit.chain, document.tableAt? entry.1 = some entry.2

section Standing

variable {document : Document}

theorem listed_target (rule : RuleDocument) (target : String) (listed : rule.listed? = some target) :
    rule.keys.includeTarget = some target := by
  rw [RuleDocument.listed?] at listed
  split at listed
  · rename_i isTarget _ _
    cases listed
    exact isTarget
  · cases listed

theorem pattern_items_stand (chain : Chain) (owner : Address) (location : String) (rules : List RuleDocument)
    (known : ∀ entry ∈ chain, document.tableAt? entry.1 = some entry.2)
    (placed : ∀ index rule, rules[index]? = some rule → document.ruleAt? (.pattern index :: owner) = some rule) (item : Item)
    (listed : item ∈ patternItems chain owner location 0 rules) : StandsBelow document owner location item := by
  obtain ⟨index, rule, found, rfl⟩ := (mem_pattern_items item chain owner location 0 rules).mp listed
  have here := placed index rule found
  refine ⟨[.pattern index], none, ?_, ?_⟩
  · rw [patternItem, Nat.zero_add]
    cases isListed : rule.listed? with
    | some target => exact .inclusion rule chain target here (listed_target rule target isListed) known
    | none => exact .rule rule chain here known
  · rw [patternItem, Nat.zero_add]
    exact join_pattern location index

theorem stands_below_capture (table key : String) (owner : Address) (location : String) (item : Item)
    (stands : StandsBelow document (.capture table key :: owner) (join (join location table) key) item) :
    StandsBelow document owner location item := by
  obtain ⟨steps, written, here, isLocation⟩ := stands
  refine ⟨steps ++ [.capture table key], written, ?_, ?_⟩
  · rwa [List.append_assoc]
  · rw [isLocation, path_append]
    rfl

variable {visit : Visit} (placed : visit.Placed document)

include placed

theorem view_known : ∀ entry ∈ visit.view, document.tableAt? entry.1 = some entry.2 := by
  rw [Visit.view, Site.chain]
  cases repository : visit.site.rule.repository with
  | absent => exact placed.known
  | present table =>
      refine List.forall_mem_cons.mpr ⟨?_, placed.known⟩
      have here := placed.rule
      rw [Visit.address] at here
      cases address : visit.site.address with
      | nil =>
          rw [address] at here
          cases here
      | cons step owner =>
          rw [address] at here
          rw [Document.tableAt?, here, Option.bind_some, repository]
          rfl

theorem children_stand (item : Item) (listed : item ∈ visit.children) :
    StandsBelow document visit.address visit.location item := by
  refine pattern_items_stand visit.view _ _ _ (view_known placed) ?_ item listed
  exact fun index rule found => rule_at_pattern document _ visit.site.rule rule index placed.rule found

omit placed in
theorem captures_or_entries (rule : RuleDocument) (key : String) :
    (rule.capturesOr key).2 = (rule.captureTable (rule.capturesOr key).1).entries := by
  rw [RuleDocument.capturesOr]
  cases captures : rule.captureTable key with
  | present table => rw [captures]; rfl
  | absent => rfl

variable (distinct : document.Distinct)

include distinct

theorem captures_stand (key : String) (item : Item) (listed : item ∈ visit.captures key) :
    StandsBelow document visit.address visit.location item := by
  obtain ⟨group, rule, member, here⟩ := (mem_capture_items item _ _ _ _ _).mp listed
  rw [captures_or_entries] at member
  have isPlaced := rule_at_capture document visit.address visit.site.rule rule _ group placed.rule
    (distinct.captures _ _ placed.rule _) member
  rcases here with rfl | ⟨_, inside⟩
  · exact ⟨[.capture _ group], none, .captureKey rule _ group visit.address rfl isPlaced, rfl⟩
  · refine stands_below_capture (visit.site.rule.capturesOr key).1 group visit.address visit.location item ?_
    refine pattern_items_stand visit.view _ _ _ (view_known placed) ?_ item inside
    exact fun index child found => rule_at_pattern document _ rule child index isPlaced found

omit placed distinct in
theorem shape_patterns (keys : RuleKeys) (shape : Shape) (isShape : keys.shape = .ok shape) :
    match shape with
    | .single source => keys.matchPattern = some source
    | .beginEnd opening closing => keys.beginPattern = some opening ∧ keys.endPattern = some closing
    | .beginWhile opening continuing => keys.beginPattern = some opening ∧ keys.whilePattern = some continuing
    | .reference _ | .container => True := by
  rw [RuleKeys.shape] at isShape
  split at isShape
  · split at isShape
    · cases isShape
    · split at isShape
      · cases isShape
      · cases isShape
        trivial
  · split at isShape <;> cases isShape <;> simp [*]

theorem visit_items_stand (item : Item) (listed : item ∈ visit.items) :
    StandsBelow document visit.address visit.location item := by
  have pattern : ∀ (key : RuleKey) source filledLater, visit.site.rule.text? key = some source →
      StandsBelow document visit.address visit.location ⟨join visit.location key.text, .pattern source filledLater⟩ :=
    fun key source filledLater written => ⟨[], some key, .pattern _ key source filledLater placed.rule written, rfl⟩
  have captures := captures_stand placed distinct
  have children := children_stand placed
  rw [Visit.items] at listed
  cases isShape : visit.site.rule.keys.shape with
  | error error =>
      rw [isShape] at listed
      cases List.mem_singleton.mp listed
      exact ⟨[], none, .keys _ error placed.rule isShape, rfl⟩
  | ok shape =>
      have texts := shape_patterns _ shape isShape
      rw [isShape] at listed
      cases shape with
      | reference target =>
          cases List.mem_singleton.mp listed
          exact ⟨[], none, .inclusion _ _ target placed.rule (shape_reference _ target isShape) (view_known placed), rfl⟩
      | container => exact children item listed
      | single source =>
          rcases List.mem_cons.mp listed with rfl | inside
          · exact pattern .matchPattern source false texts
          · exact captures _ item inside
      | beginEnd opening closing =>
          simp only [List.mem_cons, List.mem_append] at listed
          rcases listed with rfl | inside | rfl | inside | inside
          · exact pattern .beginPattern opening false texts.1
          · exact captures _ item inside
          · exact pattern .endPattern closing true texts.2
          · exact captures _ item inside
          · exact children item inside
      | beginWhile opening continuing =>
          simp only [List.mem_cons, List.mem_append] at listed
          rcases listed with rfl | inside | rfl | inside | inside
          · exact pattern .beginPattern opening false texts.1
          · exact captures _ item inside
          · exact pattern .whilePattern continuing true texts.2
          · exact captures _ item inside
          · exact children item inside

omit placed in
theorem document_items_stand (item : Item) (listed : item ∈ document.items) (shared : item.element.isOwn = false) :
    StandsBelow document [] "" item := by
  have outermost : ∀ entry ∈ document.outermost, document.tableAt? entry.1 = some entry.2 :=
    List.forall_mem_singleton.mpr rfl
  have selector : ∀ location source, item ≠ ⟨location, .selector source⟩ := by
    rintro location source rfl
    cases shared
  have pattern : ∀ location source, item ≠ ⟨location, .pattern source false⟩ := by
    rintro location source rfl
    cases shared
  simp only [Document.items, Document.laterItems, List.mem_append, mem_injection_items, Option.mem_toList,
    Option.map_eq_some_iff] at listed
  rcases listed with entry | ((listed | ⟨source, rule, member, rfl | isSelector⟩) | ⟨source, _, isSelector⟩) |
    ⟨source, _, isPattern⟩
  · obtain ⟨⟨name, rule⟩, member, rfl⟩ := List.mem_map.mp entry
    have placed := table_get_of_mem document.repository name rule distinct.repository member
    exact ⟨[.repository name], none, .rule rule _ placed outermost, rfl⟩
  · exact pattern_items_stand document.outermost [] "" _ outermost (fun index rule found => found) item listed
  · have placed := table_get_of_mem document.injections source rule distinct.injections member
    exact ⟨[.injection source], none, .rule rule _ placed outermost, rfl⟩
  · exact absurd isSelector (selector _ source)
  · exact absurd isSelector.symm (selector _ source)
  · exact absurd isPattern.symm (pattern _ source)

end Standing

theorem found_entry (document : Document) (chain : Chain) (target : String) (found : Chain × Site)
    (known : ∀ entry ∈ chain, document.tableAt? entry.1 = some entry.2)
    (isFound : document.found? chain target = some found) :
    (∀ entry ∈ found.1, document.tableAt? entry.1 = some entry.2) ∧
      ∃ owner table name, document.tableAt? owner = some table ∧ table.get? name = some found.2.rule ∧
        found.2.address = .repository name :: owner ∧
        (Target.ofText document.scopeName target = .inView name ∨
          Target.ofText document.scopeName target = .topLevel name ∧ owner = []) := by
  have outermost : ∀ entry ∈ document.outermost, document.tableAt? entry.1 = some entry.2 :=
    List.forall_mem_singleton.mpr rfl
  rw [Document.found?] at isFound
  cases kind : Target.ofText document.scopeName target with
  | inView name =>
      rw [kind] at isFound
      obtain ⟨site, there, rfl⟩ := Option.map_eq_some_iff.mp isFound
      obtain ⟨owner, table, member, isRule, isAddress⟩ := find_mem name chain site there
      exact ⟨known, owner, table, name, known _ member, isRule, isAddress, .inl rfl⟩
  | topLevel name =>
      rw [kind] at isFound
      obtain ⟨site, there, rfl⟩ := Option.map_eq_some_iff.mp isFound
      obtain ⟨owner, table, member, isRule, isAddress⟩ := find_mem name document.outermost site there
      cases List.mem_singleton.mp member
      exact ⟨outermost, [], document.repository, name, rfl, isRule, isAddress, .inr ⟨rfl, rfl⟩⟩
  | root => rw [kind] at isFound; cases isFound
  | base => rw [kind] at isFound; cases isFound
  | external scope name => rw [kind] at isFound; cases isFound
  | nothing => rw [kind] at isFound; cases isFound

theorem stands_leads_placed {document : Document} {place : Address} {key : Option RuleKey} {item : Item} {next : Visit}
    (stands : Stands document place key item.element) (leads : item.visit? document = some next) : next.Placed document := by
  obtain ⟨location, element⟩ := item
  cases stands with
  | rule rule chain placed known =>
      cases leads
      exact ⟨placed, known⟩
  | inclusion rule chain target placed includes known =>
      obtain ⟨found, isFound, rfl⟩ := Option.map_eq_some_iff.mp leads
      obtain ⟨around, owner, table, name, own, isRule, isAddress, _⟩ := found_entry document chain target found known isFound
      refine ⟨?_, around⟩
      rw [Visit.address, isAddress]
      exact rule_at_repository document owner table name _ own isRule
  | keys rule error placed shape => cases leads
  | pattern rule key source filledLater placed written => cases leads
  | captureKey rule table key owner isPlace placed => cases leads

def LeadPlaced (document : Document) (items : List Item) : Prop :=
  ∀ item ∈ items, ∀ next, item.visit? document = some next → next.Placed document

section Leading

variable {document : Document} (distinct : document.Distinct)

include distinct

theorem visit_items_lead (visit : Visit) (placed : visit.Placed document) : LeadPlaced document visit.items := by
  intro item listed next leads
  obtain ⟨steps, key, stands, _⟩ := visit_items_stand placed distinct item listed
  exact stands_leads_placed stands leads

theorem document_items_lead : LeadPlaced document document.items := by
  intro item listed next leads
  cases shared : item.element.isOwn with
  | true => cases (own_item_nowhere item document shared).symm.trans leads
  | false =>
      obtain ⟨steps, key, stands, _⟩ := document_items_stand distinct item listed shared
      exact stands_leads_placed stands leads

end Leading

-- No tour is cut short: its fuel is more than the number of rules that are left.
section Lasting

variable {document : Document} (distinct : document.Distinct)

structure Tour.Sane (document : Document) (tour : Tour) : Prop where
  distinct : (tour.visits.map Visit.address).Nodup
  placed : ∀ visit ∈ tour.visits, visit.Placed document

def Tour.Visits (tour : Tour) (document : Document) (item : Item) : Prop :=
  ∀ next, item.visit? document = some next → next.address ∈ tour.visits.map Visit.address

structure Tour.Finishes (document : Document) (before after : Tour) : Prop where
  sane : after.Sane document
  grows : before.visits <:+ after.visits
  visited : ∀ item ∈ after.met, item ∈ before.met ∨ after.Visits document item

theorem visits_grow (before after : Tour) (grows : before.visits <:+ after.visits) (item : Item)
    (visited : before.Visits document item) : after.Visits document item := fun next leads =>
  (List.Sublist.map Visit.address grows.sublist).subset (visited next leads)

theorem finishes_trans (first middle last : Tour) (begins : first.Finishes document middle)
    (goesOn : middle.Finishes document last) : first.Finishes document last where
  sane := goesOn.sane
  grows := begins.grows.trans goesOn.grows
  visited item member := by
    rcases goesOn.visited item member with before | visited
    · exact (begins.visited item before).imp_right (visits_grow middle last goesOn.grows item)
    · exact .inr visited

variable (enter : Tour → Visit → Tour) (bound : Nat)
  (enters : ∀ (tour : Tour) (visit : Visit), tour.Sane document → bound ≤ tour.visits.length → visit.Placed document →
    tour.Finishes document (enter tour visit) ∧ visit.address ∈ (enter tour visit).visits.map Visit.address)

include enters

theorem meet_finishes (tour : Tour) (item : Item) (sane : tour.Sane document) (enough : bound ≤ tour.visits.length)
    (placed : ∀ next, item.visit? document = some next → next.Placed document) :
    tour.Finishes document (tour.meet document enter item) := by
  rw [Tour.meet]
  split
  · rename_i next leads
    let noted : Tour := { tour with met := tour.met ++ [item] }
    obtain ⟨⟨after, grows, visited⟩, here⟩ := enters noted next ⟨sane.distinct, sane.placed⟩ enough (placed next leads)
    refine ⟨after, grows, ?_⟩
    intro other member
    rcases visited other member with before | isVisited
    · rcases List.mem_append.mp before with before | same
      · exact .inl before
      · cases List.mem_singleton.mp same
        refine .inr ?_
        intro found leadsAgain
        cases leads.symm.trans leadsAgain
        exact here
    · exact .inr isVisited
  · rename_i nowhere
    refine ⟨⟨sane.distinct, sane.placed⟩, List.suffix_refl _, ?_⟩
    intro other member
    rcases List.mem_append.mp member with before | same
    · exact .inl before
    · cases List.mem_singleton.mp same
      refine .inr ?_
      intro next leads
      cases nowhere.symm.trans leads

theorem meet_all_finishes (items : List Item) (tour : Tour) (sane : tour.Sane document)
    (enough : bound ≤ tour.visits.length)
    (placed : LeadPlaced document items) : tour.Finishes document (items.foldl (Tour.meet document enter) tour) := by
  induction items generalizing tour with
  | nil => exact ⟨sane, List.suffix_refl _, fun _ => .inl⟩
  | cons item rest ih =>
      obtain ⟨first, others⟩ := List.forall_mem_cons.mp placed
      have begins := meet_finishes enter bound enters tour item sane enough first
      have further := ih _ begins.sane (Nat.le_trans enough begins.grows.length_le) others
      exact finishes_trans _ _ _ begins further

omit enters
include distinct

theorem enter_finishes (fuel : Nat) (tour : Tour) (visit : Visit) (sane : tour.Sane document)
    (enough : document.size < tour.visits.length + fuel) (placed : visit.Placed document) :
    tour.Finishes document (Tour.enter document fuel tour visit) ∧
      visit.address ∈ (Tour.enter document fuel tour visit).visits.map Visit.address := by
  induction fuel generalizing tour visit with
  | zero =>
      have few := addresses_le_size document _ sane.distinct fun address member => by
        obtain ⟨other, visited, rfl⟩ := List.mem_map.mp member
        exact Option.isSome_of_eq_some (sane.placed other visited).rule
      rw [List.length_map] at few
      omega
  | succ fuel ih =>
      rw [Tour.enter]
      split
      · rename_i visited
        exact ⟨⟨sane, List.suffix_refl _, fun _ => .inl⟩, visited⟩
      · rename_i isNew
        let start : Tour := { tour with visits := visit :: tour.visits }
        have startSane : start.Sane document :=
          ⟨List.nodup_cons.mpr ⟨isNew, sane.distinct⟩, List.forall_mem_cons.mpr ⟨placed, sane.placed⟩⟩
        have finishes := meet_all_finishes (Tour.enter document fuel) (document.size + 1 - fuel)
          (fun tour visit sane low placed => ih tour visit sane (by omega) placed) visit.items start startSane
          (by simp only [start, List.length_cons]; omega) (visit_items_lead distinct visit placed)
        have here : visit ∈ start.visits := List.mem_cons_self
        refine ⟨⟨finishes.sane, (List.suffix_cons _ _).trans finishes.grows, finishes.visited⟩, ?_⟩
        exact List.mem_map_of_mem (finishes.grows.subset here)

theorem tour_finishes : Tour.Finishes document {} document.tour := by
  refine meet_all_finishes (Tour.enter document (document.size + 1)) 0 ?_ document.items {}
    ⟨List.nodup_nil, List.forall_mem_nil _⟩ (Nat.le_refl _) (document_items_lead distinct)
  exact fun tour visit sane _ placed => enter_finishes distinct _ tour visit sane (by omega) placed

theorem visits_placed (visit : Visit) (visited : visit ∈ document.visits) : visit.Placed document :=
  (tour_finishes distinct).sane.placed visit visited

theorem tour_visits_all (item : Item) (member : item ∈ document.met) (next : Visit) (leads : item.visit? document = some next) :
    next.address ∈ document.visits.map Visit.address := by
  rcases (tour_finishes distinct).visited item member with impossible | visited
  · cases impossible
  · exact visited next leads

end Lasting

end LineScope.Grammar
