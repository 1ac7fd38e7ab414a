import LineScope.Grammar.Reach
import LineScope.Proofs.Grammar.Following
import LineScope.Proofs.Grammar.Placement

/-!
The array of rules that a compilation leaves. A rule takes its place before what it leads to is
compiled, and may be referred to from there on. While a compilation is under way the array is told
by its end: the places that rules will have are known then, and a reference is right if it is right
with these. Every part of a compilation is followed in this way, and the compiler of rules by
induction on its fuel.
-/

set_option autoImplicit false

namespace LineScope

namespace Grammar

def Target.elsewhere? : Target → Option PatternRef
  | .root => some (.rule 0)
  | .base => some .base
  | .external scope rule => some (.external scope rule)
  | .inView _ | .topLevel _ | .nothing => none

def Item.reference? (document : Document) (places : List (Address × Nat)) (item : Item) : Option PatternRef :=
  match item.visit? document with
  | some visit => (places.lookup visit.address).map .rule
  | none =>
      match item.element with
      | .inclusion _ target => (Target.ofText document.scopeName target).elsewhere?
      | _ => none

def references (document : Document) (places : List (Address × Nat)) (items : List Item) : List PatternRef :=
  items.filterMap (Item.reference? document places)

theorem references_single (document : Document) (places : List (Address × Nat)) (item : Item) :
    references document places [item] = (item.reference? document places).toList := by
  rw [references, List.filterMap_cons]
  cases item.reference? document places <;> rfl

-- The rule that a visit comes to: its kind and its patterns are those of its keys.
inductive Visit.Gives (document : Document) (places : List (Address × Nat)) (visit : Visit) : Rule → Prop
  | refused (error : ShapeError) (shape : visit.site.rule.keys.shape = .error error) : Gives document places visit .invalid
  | reference (target : String) (shape : visit.site.rule.keys.shape = .ok (.reference target)) :
      Gives document places visit (.container ⟨visit.site.rule.keys.name, visit.site.rule.keys.contentName,
        references document places [⟨visit.location, .inclusion visit.view target⟩]⟩)
  | container (shape : visit.site.rule.keys.shape = .ok .container) :
      Gives document places visit (.container ⟨visit.site.rule.keys.name, visit.site.rule.keys.contentName,
        references document places visit.children⟩)
  | single (source : String) (captures : CaptureTable) (shape : visit.site.rule.keys.shape = .ok (.single source)) :
      Gives document places visit (.single ⟨visit.site.rule.keys.name, source, captures⟩)
  | beginEnd (opening closing : String) (beginCaptures endCaptures : CaptureTable)
      (shape : visit.site.rule.keys.shape = .ok (.beginEnd opening closing)) :
      Gives document places visit (.beginEnd ⟨visit.site.rule.keys.name, visit.site.rule.keys.contentName, opening,
        beginCaptures, closing, endCaptures, visit.site.rule.keys.endPatternLast, references document places visit.children⟩)
  | beginWhile (opening continuing : String) (beginCaptures whileCaptures : CaptureTable)
      (shape : visit.site.rule.keys.shape = .ok (.beginWhile opening continuing)) :
      Gives document places visit (.beginWhile ⟨visit.site.rule.keys.name, visit.site.rule.keys.contentName, opening,
        beginCaptures, continuing, whileCaptures, references document places visit.children⟩)

inductive Held (document : Document) (places : List (Address × Nat)) (visits : List Visit) (id : Nat) : Rule → Prop
  | root (isRoot : id = 0) :
      Held document places visits id (.container ⟨some document.scopeName, none,
        references document places (patternItems document.outermost [] "" 0 document.patterns.toList)⟩)
  | visited (visit : Visit) (rule : Rule) (listed : visit ∈ visits) (isPlace : (visit.address, id) ∈ places)
      (gives : visit.Gives document places rule) : Held document places visits id rule
  | capture (items : List Item) (positive : 0 < id) (unowned : id ∉ places.map Prod.snd) :
      Held document places visits id (.container ⟨none, none, references document places items⟩)

structure Layout where
  size : Nat
  places : List (Address × Nat)
  visits : List Visit

namespace Layout

structure Free (layout : Layout) (id : Nat) : Prop where
  positive : 0 < id
  inside : id < layout.size
  unowned : id ∉ layout.places.map Prod.snd

def AllFree (layout : Layout) (captures : List CaptureRule) : Prop :=
  ∀ capture ∈ captures, ∀ id ∈ capture.retokenize, layout.Free id

structure Holds (layout : Layout) (document : Document) (id : Nat) (rule : Rule) : Prop where
  held : Held document layout.places layout.visits id rule
  free : layout.AllFree rule.captureRules

end Layout

-- A state that can come to an end like that: what follows takes places from the end of the array on.
structure Leads (layout : Layout) (bench : Compilation) (tour : Tour) : Prop where
  size : bench.rules.size ≤ layout.size
  places : ∃ later, layout.places = later ++ bench.ids ∧ ∀ entry ∈ later, bench.rules.size ≤ entry.2
  visits : tour.visits <:+ layout.visits

structure Compilation.Apart (bench : Compilation) : Prop where
  rooted : 0 < bench.rules.size
  distinct : (bench.ids.map Prod.snd).Nodup
  inside : ∀ entry ∈ bench.ids, 0 < entry.2 ∧ entry.2 < bench.rules.size

structure Stage (engine : Pattern.Engine) (document : Document) (bound : Nat) (bench : Compilation) (tour : Tour) : Prop where
  follows : Follows engine document bench tour
  sane : tour.Sane document
  enough : bound ≤ tour.visits.length
  apart : bench.Apart

-- An outcome of an action that goes on from a state, and what it comes to in the end.
structure Makes {α : Type} (engine : Pattern.Engine) (document : Document) (bound : Nat) (layout : Layout)
    (before : Compilation) (seen : Tour) (outcome : α × Compilation) (tour : Tour) (holds : α → Prop) : Prop where
  builds : Builds engine document before seen outcome.2 tour
  stage : Stage engine document bound outcome.2 tour
  held : Leads layout outcome.2 tour → ∀ id rule, before.rules.size ≤ id → outcome.2.rules[id]? = some rule →
    layout.Holds document id rule
  result : Leads layout outcome.2 tour → holds outcome.1

section Actions

variable {engine : Pattern.Engine} {document : Document} {bound : Nat} {layout : Layout} {before : Compilation}
  {seen tour : Tour} {α β : Type}

theorem builds_leads {after : Compilation} (builds : Builds engine document before seen after tour)
    (leads : Leads layout after tour) : Leads layout before seen := by
  obtain ⟨entries, visits, isEntries, isVisits, placed, _⟩ := builds.placed
  obtain ⟨later, isLater, above⟩ := leads.places
  refine ⟨Nat.le_trans builds.size leads.size, ⟨later ++ entries, ?_, ?_⟩, ?_⟩
  · rw [isLater, isEntries, List.append_assoc]
  · refine List.forall_mem_append.mpr ⟨fun entry listed => Nat.le_trans builds.size (above entry listed), ?_⟩
    intro entry listed
    obtain ⟨visit, _, place⟩ := matched_left placed entry listed
    exact place.1
  · exact List.IsSuffix.trans ⟨visits, isVisits.symm⟩ leads.visits

theorem leads_mem {bench : Compilation} (leads : Leads layout bench tour) (entry : Address × Nat)
    (listed : entry ∈ bench.ids) : entry ∈ layout.places := by
  obtain ⟨later, isLater, _⟩ := leads.places
  rw [isLater]
  exact List.mem_append_right _ listed

theorem makes_pure (stage : Stage engine document bound before seen) (value : α) (holds : α → Prop)
    (here : Leads layout before seen → holds value) :
    Makes engine document bound layout before seen (value, before) seen holds where
  builds := builds_refl stage.follows
  stage := stage
  held _ _ _ above there := absurd (Array.getElem?_eq_some_iff.mp there).1 (Nat.not_lt.mpr above)
  result := here

theorem makes_bind (first : Compiling α) (next : α → Compiling β) (middle last : Tour) (halfway : α → Prop)
    (holds : β → Prop) (starts : Makes engine document bound layout before seen (first before) middle halfway)
    (continues : ∀ value bench, Stage engine document bound bench middle →
      Makes engine document bound layout bench middle (next value bench) last fun result => halfway value → holds result) :
    Makes engine document bound layout before seen ((first >>= next) before) last holds := by
  have rest := continues (first before).1 (first before).2 starts.stage
  refine ⟨builds_trans starts.builds rest.builds, rest.stage, ?_, ?_⟩
  · intro leads id rule above there
    by_cases early : id < (first before).2.rules.size
    · refine starts.held (builds_leads rest.builds leads) id rule above ?_
      rw [← rest.builds.kept id early]
      exact there
    · exact rest.held leads id rule (Nat.le_of_not_lt early) there
  · intro leads
    exact rest.result leads (starts.result (builds_leads rest.builds leads))

theorem makes_map (first : Compiling α) (build : α → β) (halfway : α → Prop) (holds : β → Prop)
    (starts : Makes engine document bound layout before seen (first before) tour halfway)
    (built : ∀ value, halfway value → holds (build value)) :
    Makes engine document bound layout before seen ((first >>= fun value => pure (build value)) before) tour holds :=
  ⟨starts.builds, starts.stage, starts.held, fun leads => built _ (starts.result leads)⟩

theorem makes_weaken (outcome : α × Compilation) (holds weaker : α → Prop)
    (makes : Makes engine document bound layout before seen outcome tour holds)
    (follows : ∀ value, holds value → weaker value) :
    Makes engine document bound layout before seen outcome tour weaker :=
  ⟨makes.builds, makes.stage, makes.held, fun leads => follows _ (makes.result leads)⟩

theorem makes_lower (lower : Nat) (lowers : lower ≤ bound) (outcome : α × Compilation) (holds : α → Prop)
    (makes : Makes engine document bound layout before seen outcome tour holds) :
    Makes engine document lower layout before seen outcome tour holds :=
  have stage := makes.stage
  ⟨makes.builds, ⟨stage.follows, stage.sane, Nat.le_trans lowers stage.enough, stage.apart⟩, makes.held, makes.result⟩

theorem makes_quiet (stage : Stage engine document bound before seen) (enter : Tour → Visit → Tour) (action : Compiling α)
    (item : Item) (nowhere : item.visit? document = none) (holds : α → Prop)
    (mirrors : Mirrors engine document enter before seen action [item] fun value _ => holds value)
    (unchanged : (action before).2.rules = before.rules ∧ (action before).2.ids = before.ids) :
    Makes engine document bound layout before seen (action before) (seen.meet document enter item) holds := by
  obtain ⟨sameRules, sameIds⟩ := unchanged
  have same : (seen.meet document enter item).visits = seen.visits := by rw [Tour.meet, nowhere]
  refine ⟨mirrors.builds, ⟨mirrors.builds.follows, ?_, same ▸ stage.enough, ?_⟩, ?_, fun _ => mirrors.result⟩
  · exact ⟨same ▸ stage.sane.distinct, same ▸ stage.sane.placed⟩
  · refine ⟨sameRules ▸ stage.apart.rooted, sameIds ▸ stage.apart.distinct, ?_⟩
    rw [sameRules, sameIds]
    exact stage.apart.inside
  · intro _ id rule above there
    rw [sameRules] at there
    exact absurd (Array.getElem?_eq_some_iff.mp there).1 (Nat.not_lt.mpr above)

theorem makes_filled {opened : Compilation} {start : Tour} (isOpened : opened.rules = before.rules.push .invalid)
    (outcome : α × Compilation) (halfway : α → Prop)
    (within : Makes engine document bound layout opened start outcome tour halfway) (rule : Rule)
    (builds : Builds engine document before seen (filled before outcome.2 rule) tour)
    (own : Leads layout opened start → halfway outcome.1 → layout.Holds document before.rules.size rule) (value : β)
    (holds : β → Prop) (result : Leads layout opened start → halfway outcome.1 → holds value) :
    Makes engine document bound layout before seen (value, filled before outcome.2 rule) tour holds := by
  have size : (filled before outcome.2 rule).rules.size = outcome.2.rules.size := Array.size_setIfInBounds
  have back : Leads layout (filled before outcome.2 rule) tour → Leads layout outcome.2 tour := by
    intro leads
    exact ⟨size ▸ leads.size, size ▸ leads.places, leads.visits⟩
  refine ⟨builds, ⟨builds.follows, within.stage.sane, within.stage.enough, ?_⟩, ?_, ?_⟩
  · refine ⟨size ▸ within.stage.apart.rooted, within.stage.apart.distinct, ?_⟩
    rw [size]
    exact within.stage.apart.inside
  · intro leads id compiled above there
    by_cases same : id = before.rules.size
    · subst same
      rw [filled_here opened start rule isOpened within.builds] at there
      cases there
      exact own (builds_leads within.builds (back leads)) (within.result (back leads))
    · rw [filled_elsewhere rule id same] at there
      refine within.held (back leads) id compiled ?_ there
      rw [isOpened, Array.size_push]
      omega
  · exact fun leads => result (builds_leads within.builds (back leads)) (within.result (back leads))

end Actions

def Delivers (engine : Pattern.Engine) (document : Document) (enter : Tour → Visit → Tour) (bound : Nat) (layout : Layout)
    (compile : RuleCompiler) : Prop :=
  ∀ chain site location before seen, Stage engine document bound before seen →
    Visit.Placed document ⟨chain, site, location⟩ →
    Makes engine document bound layout before seen (compile chain site location before)
      (enter seen ⟨chain, site, location⟩) fun id => (site.address, id) ∈ layout.places

theorem reference_to_place {document : Document} {places : List (Address × Nat)} (keys : (places.map Prod.fst).Nodup)
    (item : Item) (visit : Visit) (leads : item.visit? document = some visit) (id : Nat)
    (isPlace : (visit.address, id) ∈ places) : item.reference? document places = some (.rule id) := by
  rw [Item.reference?, leads]
  exact congrArg (Option.map PatternRef.rule) ((lookup_of_distinct places keys visit.address id).mpr isPlace)

section Parts

variable {engine : Pattern.Engine} {document : Document} {enter : Tour → Visit → Tour} {bound : Nat} {layout : Layout}
  {compile : RuleCompiler} (keys : (layout.places.map Prod.fst).Nodup) (tours : Tours engine document enter compile)
  (delivers : Delivers engine document enter bound layout compile) {before : Compilation} {seen : Tour}
  (stage : Stage engine document bound before seen)

include stage in
theorem check_pattern_makes (enter : Tour → Visit → Tour) (source location : String) (filledLater : Bool) :
    Makes engine document bound layout before seen (checkPattern engine source location filledLater before)
      (seen.meet document enter ⟨location, .pattern source filledLater⟩) fun checked => checked = source := by
  refine makes_quiet stage enter _ _ rfl _ (check_pattern_mirrors stage.follows source location filledLater) ?_
  rw [checkPattern]
  split
  · cases engine.check source.toList <;> exact ⟨rfl, rfl⟩
  · exact ⟨rfl, rfl⟩

include stage in
theorem selector_makes (enter : Tour → Visit → Tour) (source location : String) :
    Makes engine document bound layout before seen (compileSelector source location before)
      (seen.meet document enter ⟨location, .selector source⟩) fun _ => True := by
  refine makes_quiet stage enter _ _ rfl _ (selector_mirrors stage.follows source location) ?_
  rw [compileSelector]
  cases Selector.parse source <;> exact ⟨rfl, rfl⟩

include tours delivers stage

theorem rule_makes (chain : Chain) (site : Site) (location : String) (element : Element)
    (leads : Item.visit? document ⟨location, element⟩ = some ⟨chain, site, location⟩)
    (fine : Item.problem? engine document ⟨location, element⟩ = none)
    (placed : Visit.Placed document ⟨chain, site, location⟩) :
    Makes engine document bound layout before seen (compile chain site location before)
      (seen.meet document enter ⟨location, element⟩) fun id => (site.address, id) ∈ layout.places := by
  have builds := (rule_mirrors tours stage.follows chain site location element leads fine).builds
  have met := builds_met stage.follows ⟨location, element⟩ before rfl rfl (by simp [Item.report?, fine])
    (by simp [Item.lead_faultless document _ _ leads])
  have made := delivers chain site location before _ ⟨met.follows, ⟨stage.sane.distinct, stage.sane.placed⟩, stage.enough,
    stage.apart⟩ placed
  have entered : seen.meet document enter ⟨location, element⟩ =
      enter { seen with met := seen.met ++ [⟨location, element⟩] } ⟨chain, site, location⟩ := by rw [Tour.meet, leads]
  rw [entered]
  exact ⟨entered ▸ builds, made.stage, made.held, made.result⟩

include keys

theorem include_makes (chain : Chain) (target location : String)
    (placed : LeadPlaced document [⟨location, .inclusion chain target⟩]) :
    Makes engine document bound layout before seen
      (compileInclude (contextOf engine document) compile chain target location before)
      (seen.meet document enter ⟨location, .inclusion chain target⟩) fun found =>
        found = Item.reference? document layout.places ⟨location, .inclusion chain target⟩ := by
  have found : ∀ around : Chain, ∀ found : Option Site,
      document.found? chain target = found.map (fun site => (around, site)) →
      (Target.ofText document.scopeName target).elsewhere? = none → (Target.ofText document.scopeName target).isByName →
      Makes engine document bound layout before seen (compileFound compile around found target location before)
        (seen.meet document enter ⟨location, .inclusion chain target⟩) fun found =>
          found = Item.reference? document layout.places ⟨location, .inclusion chain target⟩ := by
    intro around found isFound notElsewhere byName
    cases found with
    | none =>
        have nowhere : Item.visit? document ⟨location, .inclusion chain target⟩ = none := by simp [Item.visit?, isFound]
        refine makes_quiet stage enter _ _ nowhere _ (mirrors_map _ _ [_] _ _
          (mirrors_report stage.follows location _ _ nowhere ?_ fun _ => rfl) fun _ _ _ => ?_) ⟨rfl, rfl⟩
        · simp [Item.problem?, Document.unresolved, isFound, byName]
        · simp [Item.reference?, nowhere, notElsewhere]
    | some site =>
        have leads : Item.visit? document ⟨location, .inclusion chain target⟩ = some ⟨around, site, location⟩ := by
          simp [Item.visit?, isFound]
        refine makes_map _ _ _ _ (rule_makes tours delivers stage around site location _ leads ?_ ?_) ?_
        · simp [Item.problem?, Document.unresolved, isFound]
        · exact placed _ (List.mem_singleton_self _) _ leads
        · exact fun id isPlace => (reference_to_place keys _ _ leads id isPlace).symm
  have passed : ∀ ref : Option PatternRef, document.found? chain target = none →
      (Target.ofText document.scopeName target).isByName = false →
      (Target.ofText document.scopeName target).elsewhere? = ref →
      Makes engine document bound layout before seen (ref, before)
        (seen.meet document enter ⟨location, .inclusion chain target⟩) fun found =>
          found = Item.reference? document layout.places ⟨location, .inclusion chain target⟩ := by
    intro ref nothing byName isRef
    have nowhere : Item.visit? document ⟨location, .inclusion chain target⟩ = none := by simp [Item.visit?, nothing]
    refine makes_quiet stage enter (pure ref) _ nowhere _
      (mirrors_fine stage.follows ref _ ?_ _ nowhere ?_ fun _ => rfl) ⟨rfl, rfl⟩
    · simp [Item.reference?, nowhere, isRef]
    · simp [Item.problem?, Document.unresolved, byName]
  rw [compileInclude]
  dsimp only [contextOf]
  cases kind : Target.ofText document.scopeName target with
  | root => exact passed _ (by simp [Document.found?, kind]) (by rw [kind]; rfl) (by rw [kind]; rfl)
  | base => exact passed _ (by simp [Document.found?, kind]) (by rw [kind]; rfl) (by rw [kind]; rfl)
  | external scope name => exact passed _ (by simp [Document.found?, kind]) (by rw [kind]; rfl) (by rw [kind]; rfl)
  | inView name => exact found chain _ (by simp [Document.found?, kind]) (by rw [kind]; rfl) (by rw [kind]; rfl)
  | topLevel name =>
      exact found _ _ (by simp [Document.found?, kind, Document.outermost]) (by rw [kind]; rfl) (by rw [kind]; rfl)
  | nothing => exact found chain none (by simp [Document.found?, kind]) (by rw [kind]; rfl) (by rw [kind]; rfl)

theorem patterns_make (chain : Chain) (owner : Address) (location : String) (index : Nat) (rules : List RuleDocument)
    (placed : LeadPlaced document (patternItems chain owner location index rules)) :
    Makes engine document bound layout before seen
      (compilePatterns (contextOf engine document) compile chain owner location index rules before)
      ((patternItems chain owner location index rules).foldl (Tour.meet document enter) seen) fun refs =>
        refs = references document layout.places (patternItems chain owner location index rules) := by
  induction rules generalizing index before seen with
  | nil => exact makes_pure stage _ _ fun _ => rfl
  | cons rule rest ih =>
      rw [patternItems] at placed
      obtain ⟨here, later⟩ := List.forall_mem_cons.mp placed
      have goesOn : ∀ head : Option PatternRef, ∀ middle tour, Stage engine document bound middle tour →
          Makes engine document bound layout middle tour
            ((compilePatterns (contextOf engine document) compile chain owner location (index + 1) rest >>= fun tail =>
              pure (head.toList ++ tail)) middle)
            ((patternItems chain owner location (index + 1) rest).foldl (Tour.meet document enter) tour) fun refs =>
              head = Item.reference? document layout.places (patternItem chain owner location index rule) →
                refs = references document layout.places
                  (patternItem chain owner location index rule :: patternItems chain owner location (index + 1) rest) := by
        intro head middle tour so
        refine makes_map _ _ _ _ (ih so (index + 1) later) ?_
        rintro refs rfl rfl
        rw [references, references, List.filterMap_cons]
        cases Item.reference? document layout.places (patternItem chain owner location index rule) <;> rfl
      rw [compile_patterns_cons, patternItems, List.foldl_cons]
      cases listed : rule.listed? with
      | some target =>
          have isItem : patternItem chain owner location index rule =
              ⟨join location ("patterns/" ++ toString index), .inclusion chain target⟩ := by rw [patternItem, listed]
          rw [isItem] at here goesOn ⊢
          refine makes_bind _ _ _ _ _ _ (include_makes keys tours delivers stage chain target _
            (List.forall_mem_singleton.mpr here)) ?_
          exact fun head middle so => goesOn head middle _ so
      | none =>
          have isItem : patternItem chain owner location index rule =
              ⟨join location ("patterns/" ++ toString index), .rule chain ⟨rule, .pattern index :: owner⟩⟩ := by
            rw [patternItem, listed]
          rw [isItem] at here goesOn ⊢
          refine makes_bind _ _ _ _ _ _ (rule_makes tours delivers stage chain _ _ (.rule chain _) rfl rfl (here _ rfl)) ?_
          intro id middle so
          refine makes_weaken _ _ _ (goesOn (some (.rule id)) middle _ so) ?_
          exact fun refs joined isPlace =>
            joined (reference_to_place keys _ ⟨chain, ⟨rule, .pattern index :: owner⟩, _⟩ rfl id isPlace).symm

omit keys tours delivers in
theorem next_place_free (opened : Compilation) (start : Tour) (isOpened : opened.rules = before.rules.push .invalid)
    (sameIds : opened.ids = before.ids) (leads : Leads layout opened start) : layout.Free before.rules.size := by
  have size : opened.rules.size = before.rules.size + 1 := by rw [isOpened, Array.size_push]
  obtain ⟨later, isLater, above⟩ := leads.places
  refine ⟨stage.apart.rooted, Nat.lt_of_lt_of_le (by omega) leads.size, ?_⟩
  intro owned
  obtain ⟨entry, listed, same⟩ := List.mem_map.mp owned
  rw [isLater, sameIds] at listed
  rcases List.mem_append.mp listed with new | old
  · have order := above entry new
    omega
  · have order := (stage.apart.inside entry old).2
    omega

theorem retokenized_makes (chain : Chain) (owner : Address) (location : String) (rules : OptionalRules)
    (placed : LeadPlaced document (patternItems chain owner location 0 rules.items)) :
    Makes engine document bound layout before seen
      (compileRetokenized (contextOf engine document) compile chain owner location rules before)
      ((patternItems chain owner location 0 rules.items).foldl (Tour.meet document enter) seen) fun target =>
        ∀ id ∈ target, layout.Free id := by
  cases rules with
  | absent => exact makes_pure stage _ _ fun _ _ isId => nomatch isId
  | present rules =>
      let opened : Compilation := { before with rules := before.rules.push .invalid }
      have openedStage : Stage engine document bound opened seen := by
        refine ⟨⟨stage.follows.visits, stage.follows.reports, stage.follows.faults⟩, stage.sane, stage.enough, ?_⟩
        have size : opened.rules.size = before.rules.size + 1 := Array.size_push _
        refine ⟨by omega, stage.apart.distinct, fun entry listed => ?_⟩
        have order := stage.apart.inside entry listed
        omega
      have builds := (retokenized_mirrors tours stage.follows chain owner location (.present rules)).builds
      have within := patterns_make keys tours delivers openedStage chain owner location 0 rules.toList placed
      refine makes_filled rfl _ _ within _ builds ?_ (some before.rules.size) _ ?_
      · intro leads isRefs
        have free := next_place_free stage opened seen rfl rfl leads
        rw [isRefs]
        exact ⟨.capture _ free.positive free.unowned, List.forall_mem_nil _⟩
      · intro leads _ id isId
        cases isId
        exact next_place_free stage opened seen rfl rfl leads

theorem captures_make (chain : Chain) (owner : Address) (table location : String) (entries : List (String × RuleDocument))
    (captures : CaptureTable) (placed : LeadPlaced document (captureItems chain owner table location entries)) :
    Makes engine document bound layout before seen
      (compileCaptures (contextOf engine document) compile chain owner table location entries captures before)
      ((captureItems chain owner table location entries).foldl (Tour.meet document enter) seen) fun result =>
        layout.AllFree (captures.map Prod.snd) → layout.AllFree (result.map Prod.snd) := by
  induction entries generalizing before seen captures with
  | nil => exact makes_pure stage _ _ fun _ => id
  | cons entry rest ih =>
      obtain ⟨key, rule⟩ := entry
      rw [captureItems] at placed
      obtain ⟨inside, others⟩ := List.forall_mem_append.mp placed
      obtain ⟨_, later⟩ := List.forall_mem_cons.mp others
      rw [compile_captures_cons, captureItems, List.foldl_append, List.foldl_cons]
      cases group : groupOfKey? key with
      | none =>
          have isProblem : Item.problem? engine document ⟨join location key, .captureKey key⟩ =
              some (.invalidShape (.captureKey key)) := by simp [Item.problem?, group]
          refine makes_bind _ _ _ _ _ _ (makes_quiet stage enter _ _ rfl _
            (mirrors_report stage.follows _ _ _ rfl isProblem (by simp [Item.fault?, group])) ⟨rfl, rfl⟩) ?_
          exact fun _ middle so => makes_weaken _ _ _ (ih so captures later) fun _ kept _ => kept
      | some group' =>
          rw [group] at inside
          refine makes_bind _ _ _ _ _ _ (retokenized_makes keys tours delivers stage _ _ _ _ inside) ?_
          intro retokenize middle so
          refine makes_bind _ _ _ _ _ _ (makes_quiet so enter _ ⟨join location key, .captureKey key⟩ rfl _
            (claim_mirrors so.follows _ key group' group) ⟨rfl, rfl⟩) ?_
          intro _ claimed so
          refine makes_weaken _ _ _ (ih so _ later) ?_
          intro result kept _ isFree allFree
          refine kept (List.forall_mem_map.mpr ?_)
          rintro ⟨other, capture⟩ listed
          rcases mem_capture_put group' other _ capture captures listed with ⟨_, rfl⟩ | old
          · exact isFree
          · exact List.forall_mem_map.mp allFree _ old

variable (visit : Visit)

theorem visit_captures_make (key : String) (own : OptionalTable) (isOwn : own = visit.site.rule.captureTable key)
    (placed : LeadPlaced document (visit.captures key)) :
    Makes engine document bound layout before seen
      (compileCapturesOr (contextOf engine document) compile visit.view visit.site visit.location key own before)
      ((visit.captures key).foldl (Tour.meet document enter) seen) fun captures =>
        layout.AllFree (captures.map Prod.snd) := by
  subst isOwn
  have made : ∀ table entries, LeadPlaced document
      (captureItems visit.view visit.address table (join visit.location table) entries) →
      Makes engine document bound layout before seen
        (compileCaptures (contextOf engine document) compile visit.view visit.address table (join visit.location table)
          entries [] before)
        ((captureItems visit.view visit.address table (join visit.location table) entries).foldl (Tour.meet document enter)
          seen) fun captures => layout.AllFree (captures.map Prod.snd) := by
    intro table entries placed
    refine makes_weaken _ _ _ (captures_make keys tours delivers stage _ _ table _ entries [] placed) ?_
    exact fun _ kept => kept (List.forall_mem_nil _)
  rw [Visit.captures, RuleDocument.capturesOr] at placed ⊢
  cases captures : visit.site.rule.captureTable key with
  | present table =>
      rw [captures] at placed
      exact made _ _ placed
  | absent =>
      rw [captures] at placed
      exact made _ _ placed

theorem children_make (placed : LeadPlaced document visit.children) :
    Makes engine document bound layout before seen
      (compilePatterns (contextOf engine document) compile visit.view visit.address visit.location 0
        visit.site.rule.patterns.items before)
      (visit.children.foldl (Tour.meet document enter) seen) fun refs =>
        refs = references document layout.places visit.children :=
  patterns_make keys tours delivers stage _ _ _ _ _ placed

theorem block_makes (opening closing closingKey key : String) (own : OptionalTable)
    (isOwn : own = visit.site.rule.captureTable key)
    (build : String → CaptureTable → String → CaptureTable → List PatternRef → Rule)
    (placed : LeadPlaced document (⟨join visit.location "begin", .pattern opening false⟩ :: (visit.captures "beginCaptures" ++
      ⟨join visit.location closingKey, .pattern closing true⟩ :: (visit.captures key ++ visit.children))))
    (holds : Rule → Prop)
    (fits : ∀ beginCaptures endCaptures, layout.AllFree ((beginCaptures ++ endCaptures).map Prod.snd) →
      holds (build opening beginCaptures closing endCaptures (references document layout.places visit.children))) :
    Makes engine document bound layout before seen
      ((do
        let beginPattern ← checkPattern engine opening (join visit.location "begin") false
        let beginCaptures ← compileCapturesOr (contextOf engine document) compile visit.view visit.site visit.location
          "beginCaptures" visit.site.rule.beginCaptures
        let endPattern ← checkPattern engine closing (join visit.location closingKey) true
        let endCaptures ← compileCapturesOr (contextOf engine document) compile visit.view visit.site visit.location key own
        let patterns ← compilePatterns (contextOf engine document) compile visit.view visit.address visit.location 0
          visit.site.rule.patterns.items
        return build beginPattern beginCaptures endPattern endCaptures patterns) before)
      ((⟨join visit.location "begin", .pattern opening false⟩ :: (visit.captures "beginCaptures" ++
        ⟨join visit.location closingKey, .pattern closing true⟩ :: (visit.captures key ++ visit.children))).foldl
          (Tour.meet document enter) seen)
      holds := by
  obtain ⟨_, later⟩ := List.forall_mem_cons.mp placed
  obtain ⟨beginPlaced, later⟩ := List.forall_mem_append.mp later
  obtain ⟨_, later⟩ := List.forall_mem_cons.mp later
  obtain ⟨endPlaced, childrenPlaced⟩ := List.forall_mem_append.mp later
  rw [List.foldl_cons, List.foldl_append, List.foldl_cons, List.foldl_append]
  refine makes_bind _ _ _ _ _ _ (check_pattern_makes stage enter opening _ false) ?_
  intro beginPattern opened so
  refine makes_bind _ _ _ _ _ _ (visit_captures_make keys tours delivers so visit "beginCaptures" _ rfl beginPlaced) ?_
  intro beginCaptures begun so
  refine makes_bind _ _ _ _ _ _ (check_pattern_makes so enter closing _ true) ?_
  intro endPattern closed so
  refine makes_bind _ _ _ _ _ _ (visit_captures_make keys tours delivers so visit key own isOwn endPlaced) ?_
  intro endCaptures ended so
  refine makes_map _ _ _ _ (children_make keys tours delivers so visit childrenPlaced) ?_
  rintro refs rfl endFree rfl beginFree rfl
  refine fits beginCaptures endCaptures ?_
  rw [List.map_append]
  exact List.forall_mem_append.mpr ⟨beginFree, endFree⟩

theorem shape_makes (placed : LeadPlaced document visit.items) :
    Makes engine document bound layout before seen
      (compileShape (contextOf engine document) compile visit.view visit.site visit.location before)
      (visit.items.foldl (Tour.meet document enter) seen) fun rule =>
        visit.Gives document layout.places rule ∧ layout.AllFree rule.captureRules := by
  rw [compileShape]
  rw [Visit.items] at placed ⊢
  cases shape : visit.site.rule.keys.shape with
  | error error =>
      refine makes_map _ _ _ _ (makes_quiet stage enter _ _ rfl _
        (mirrors_report stage.follows _ _ (.keys error) rfl rfl fun _ => rfl) ⟨rfl, rfl⟩) ?_
      exact fun _ _ => ⟨.refused error shape, List.forall_mem_nil _⟩
  | ok kind =>
      rw [shape] at placed
      cases kind with
      | reference target =>
          refine makes_map _ _ _ _ (include_makes keys tours delivers stage _ target _ placed) ?_
          rintro found isFound
          have gives : visit.Gives document layout.places _ := .reference target shape
          rw [references_single, ← isFound] at gives
          exact ⟨gives, List.forall_mem_nil _⟩
      | container =>
          refine makes_map _ _ _ _ (children_make keys tours delivers stage visit placed) ?_
          rintro _ rfl
          exact ⟨.container shape, List.forall_mem_nil _⟩
      | single source =>
          refine makes_bind _ _ _ _ _ _ (check_pattern_makes stage enter source _ false) ?_
          intro pattern middle so
          refine makes_map _ _ _ _ (visit_captures_make keys tours delivers so visit "captures" _ rfl
            (List.forall_mem_cons.mp placed).2) ?_
          rintro captures free rfl
          exact ⟨.single _ captures shape, free⟩
      | beginEnd opening closing =>
          refine block_makes keys tours delivers stage visit opening closing "end" "endCaptures" _ rfl
            (fun _ _ _ _ _ => .beginEnd ⟨_, _, _, _, _, _, _, _⟩) placed _ ?_
          exact fun beginCaptures endCaptures free => ⟨.beginEnd opening closing beginCaptures endCaptures shape, free⟩
      | beginWhile opening continuing =>
          refine block_makes keys tours delivers stage visit opening continuing "while" "whileCaptures" _ rfl
            (fun _ _ _ _ _ => .beginWhile ⟨_, _, _, _, _, _, _⟩) placed _ ?_
          exact fun beginCaptures whileCaptures free =>
            ⟨.beginWhile opening continuing beginCaptures whileCaptures shape, free⟩

end Parts

section Rules

variable (engine : Pattern.Engine) {document : Document} (distinct : document.Distinct) {layout : Layout}
  (keys : (layout.places.map Prod.fst).Nodup)

theorem opening_stage (bound : Nat) (bench : Compilation) (tour : Tour) (visit : Visit)
    (stage : Stage engine document bound bench tour) (placed : visit.Placed document)
    (isNew : visit.address ∉ tour.visits.map Visit.address) :
    Stage engine document (bound + 1) (bench.opening visit.address) { tour with visits := visit :: tour.visits } where
  follows := by
    refine ⟨?_, stage.follows.reports, stage.follows.faults⟩
    simp [Compilation.opening, stage.follows.visits]
  sane := ⟨List.nodup_cons.mpr ⟨isNew, stage.sane.distinct⟩, List.forall_mem_cons.mpr ⟨placed, stage.sane.placed⟩⟩
  enough := Nat.succ_le_succ stage.enough
  apart := by
    have size : (bench.opening visit.address).rules.size = bench.rules.size + 1 := Array.size_push _
    have rooted := stage.apart.rooted
    refine ⟨by omega, List.nodup_cons.mpr ⟨fun owned => ?_, stage.apart.distinct⟩, List.forall_mem_cons.mpr ⟨?_, ?_⟩⟩
    · obtain ⟨entry, listed, same⟩ := List.mem_map.mp owned
      have order := (stage.apart.inside entry listed).2
      exact absurd same (Nat.ne_of_lt order)
    · exact ⟨rooted, by rw [size]; exact Nat.lt_succ_self _⟩
    · intro entry listed
      have order := stage.apart.inside entry listed
      omega

include distinct keys

theorem compile_rule_delivers (fuel : Nat) :
    Delivers engine document (Tour.enter document fuel) (document.size + 1 - fuel) layout
      (compileRule (contextOf engine document) fuel) := by
  -- The fuel lasts, since every rule that is entered is another.
  induction fuel with
  | zero =>
      intro chain site location before seen stage placed
      have few := addresses_le_size document _ stage.sane.distinct fun address member => by
        obtain ⟨other, visited, rfl⟩ := List.mem_map.mp member
        exact Option.isSome_of_eq_some (stage.sane.placed other visited).rule
      have enough := stage.enough
      rw [List.length_map] at few
      omega
  | succ fuel ih =>
      intro chain site location before seen stage placed
      let visit : Visit := ⟨chain, site, location⟩
      have builds := compile_rule_tours engine document (fuel + 1) chain site location before seen stage.follows
      have visited := lookup_visited engine document before seen stage.follows visit.address
      rw [Tour.enter] at builds ⊢
      cases known : before.ids.lookup site.address with
      | some id =>
          rw [if_pos (visited.mp (Option.isSome_of_eq_some known)), compile_rule_remembered _ _ _ _ _ _ id known]
          have listed : (site.address, id) ∈ before.ids := by
            obtain ⟨newer, older, isIds, _⟩ := List.lookup_eq_some_iff.mp known
            rw [isIds]
            exact List.mem_append_right newer List.mem_cons_self
          exact makes_pure stage id _ fun leads => leads_mem leads _ listed
      | none =>
          have isNew : visit.address ∉ seen.visits.map Visit.address := by
            rw [← visited, Visit.address, known]
            exact Bool.false_ne_true
          rw [if_neg isNew, compile_rule_new _ _ _ _ _ _ known] at builds ⊢
          have opened := opening_stage engine _ before seen visit stage placed isNew
          have openedStage : Stage engine document (document.size + 1 - fuel) (before.opening site.address) _ :=
            ⟨opened.follows, opened.sane, Nat.le_trans (by omega) opened.enough, opened.apart⟩
          have within := shape_makes keys (compile_rule_tours engine document fuel) ih openedStage visit
            (visit_items_lead distinct visit placed)
          refine makes_lower _ (by omega) _ _ (makes_filled rfl _ _ within _ builds ?_ before.rules.size _ ?_)
          · rintro leads ⟨gives, free⟩
            refine ⟨.visited visit _ (leads.visits.subset List.mem_cons_self) ?_ gives, free⟩
            exact leads_mem leads _ List.mem_cons_self
          · exact fun leads _ => leads_mem leads _ List.mem_cons_self

end Rules

section Whole

variable {engine : Pattern.Engine} {document : Document} {enter : Tour → Visit → Tour} {bound : Nat} {layout : Layout}
  {compile : RuleCompiler} (keys : (layout.places.map Prod.fst).Nodup) (tours : Tours engine document enter compile)
  (delivers : Delivers engine document enter bound layout compile) {before : Compilation} {seen : Tour}
  (stage : Stage engine document bound before seen)

include tours delivers stage

theorem repository_makes (entries : List (String × RuleDocument))
    (placed : LeadPlaced document (document.entryItems entries)) :
    Makes engine document bound layout before seen (compileRepository compile document.outermost entries before)
      ((document.entryItems entries).foldl (Tour.meet document enter) seen) fun repository =>
        ∀ entry ∈ repository, ([.repository entry.1], entry.2) ∈ layout.places := by
  induction entries generalizing before seen with
  | nil => exact makes_pure stage _ _ fun _ => List.forall_mem_nil _
  | cons entry rest ih =>
      obtain ⟨here, later⟩ := List.forall_mem_cons.mp placed
      refine makes_bind _ _ _ _ _ _ (rule_makes tours delivers stage _ _ _ (.rule _ _) rfl rfl (here _ rfl)) ?_
      intro id middle so
      refine makes_map _ _ _ _ (ih so later) ?_
      exact fun repository others isPlace => List.forall_mem_cons.mpr ⟨isPlace, others⟩

theorem injections_make (entries : List (String × RuleDocument))
    (placed : LeadPlaced document (document.injectionItems entries)) :
    Makes engine document bound layout before seen (compileInjections compile document.outermost entries before)
      ((document.injectionItems entries).foldl (Tour.meet document enter) seen) fun injections =>
        ∀ entry ∈ injections, ∃ source, ([.injection source], entry.2) ∈ layout.places := by
  induction entries generalizing before seen with
  | nil => exact makes_pure stage _ _ fun _ => List.forall_mem_nil _
  | cons entry rest ih =>
      obtain ⟨here, others⟩ := List.forall_mem_cons.mp placed
      obtain ⟨_, later⟩ := List.forall_mem_cons.mp others
      refine makes_bind _ _ _ _ _ _ (rule_makes tours delivers stage _ _ _ (.rule _ _) rfl rfl (here _ rfl)) ?_
      intro id middle so
      refine makes_bind _ _ _ _ _ _ (selector_makes so enter entry.1 _) ?_
      intro selector last so
      cases selector with
      | none => exact makes_map _ _ _ _ (ih so later) fun _ others _ _ => others
      | some selector =>
          refine makes_map _ _ _ _ (ih so later) ?_
          exact fun injections others _ isPlace => List.forall_mem_cons.mpr ⟨⟨entry.1, isPlace⟩, others⟩

omit tours delivers in
theorem own_selector_makes (enter : Tour → Visit → Tour) :
    Makes engine document bound layout before seen (compileOwnSelector document before)
      ((document.injectionSelector.map fun source => (⟨"injectionSelector", .selector source⟩ : Item)).toList.foldl
        (Tour.meet document enter) seen) fun _ => True := by
  rw [compileOwnSelector]
  cases document.injectionSelector with
  | none => exact makes_pure stage _ _ fun _ => trivial
  | some source => exact selector_makes stage enter source _

omit tours delivers in
theorem first_line_makes (enter : Tour → Visit → Tour) :
    Makes engine document bound layout before seen (compileFirstLine engine document before)
      ((document.firstLineMatch.map fun source => (⟨"firstLineMatch", .pattern source false⟩ : Item)).toList.foldl
        (Tour.meet document enter) seen) fun _ => True := by
  rw [compileFirstLine]
  cases document.firstLineMatch with
  | none => exact makes_pure stage _ _ fun _ => trivial
  | some source => exact makes_map _ _ _ _ (check_pattern_makes stage enter source _ false) fun _ _ => trivial

end Whole

def Document.rootTour (document : Document) : Tour :=
  let enter := Tour.enter document (document.size + 1)
  (patternItems document.outermost [] "" 0 document.patterns.toList).foldl (Tour.meet document enter)
    ((document.entryItems document.repository.toList).foldl (Tour.meet document enter) {})

section Document

variable (engine : Pattern.Engine) {document : Document} (distinct : document.Distinct) {layout : Layout}
  (keys : (layout.places.map Prod.fst).Nodup)

include distinct keys

theorem document_delivers :
    Delivers engine document (Tour.enter document (document.size + 1)) 0 layout
      (compileRule (contextOf engine document) (document.size + 1)) := by
  have delivers := compile_rule_delivers engine distinct keys (document.size + 1)
  rwa [Nat.sub_self] at delivers

theorem root_makes (entriesPlaced : LeadPlaced document (document.entryItems document.repository.toList))
    (patternsPlaced : LeadPlaced document (patternItems document.outermost [] "" 0 document.patterns.toList)) :
    Makes engine document 0 layout .start {} (compileRoot engine document .start) document.rootTour
      fun repository => ∀ entry ∈ repository, ([.repository entry.1], entry.2) ∈ layout.places := by
  have tours := compile_rule_tours engine document (document.size + 1)
  have delivers := document_delivers engine distinct keys
  let opened : Compilation := ⟨⟨#[.invalid], [], #[]⟩, []⟩
  have openedStage : Stage engine document 0 opened {} :=
    ⟨⟨rfl, rfl, fun _ => rfl⟩, ⟨List.nodup_nil, List.forall_mem_nil _⟩, Nat.zero_le _,
      ⟨Nat.zero_lt_one, List.nodup_nil, List.forall_mem_nil _⟩⟩
  have parts : Makes engine document 0 layout opened {} (compileParts engine document opened) document.rootTour fun parts =>
      (∀ entry ∈ parts.1, ([.repository entry.1], entry.2) ∈ layout.places) ∧
        parts.2 = references document layout.places (patternItems document.outermost [] "" 0 document.patterns.toList) := by
    refine makes_bind _ _ _ _ _ _ (repository_makes tours delivers openedStage _ entriesPlaced) ?_
    intro repository middle so
    refine makes_map _ _ _ _ (patterns_make keys tours delivers so _ [] "" 0 _ patternsPlaced) ?_
    exact fun refs isRefs isRepository => ⟨isRepository, isRefs⟩
  have builds : Builds engine document .start {} (compileRoot engine document .start).2 document.rootTour :=
    builds_filled opened {} _ [] [] rfl rfl rfl parts.builds (fun _ _ => .nil) (.inl rfl) (List.forall_mem_nil _)
  have own : layout.Holds document 0 (.container ⟨some document.scopeName, none,
      references document layout.places (patternItems document.outermost [] "" 0 document.patterns.toList)⟩) :=
    ⟨.root rfl, List.forall_mem_nil _⟩
  refine makes_filled rfl _ _ parts _ builds ?_ _ _ fun _ made => made.1
  rintro _ ⟨_, isRefs⟩
  rw [← isRefs] at own
  exact own

theorem document_makes :
    Makes engine document 0 layout .start {} (compileDocument engine document .start) document.tour
      fun compiled => (∀ entry ∈ compiled.repository, ([.repository entry.1], entry.2) ∈ layout.places) ∧
        ∀ entry ∈ compiled.injections, ∃ source, ([.injection source], entry.2) ∈ layout.places := by
  have tours := compile_rule_tours engine document (document.size + 1)
  have delivers := document_delivers engine distinct keys
  obtain ⟨entriesPlaced, later⟩ := List.forall_mem_append.mp (document_items_lead distinct)
  obtain ⟨later, _⟩ := List.forall_mem_append.mp later
  obtain ⟨later, _⟩ := List.forall_mem_append.mp later
  obtain ⟨patternsPlaced, injectionsPlaced⟩ := List.forall_mem_append.mp later
  let enter := Tour.enter document (document.size + 1)
  rw [compile_document_split, Document.tour, Document.items, Document.laterItems]
  simp only [List.foldl_append]
  refine makes_bind _ _ _ _ _ _ (root_makes engine distinct keys entriesPlaced patternsPlaced) ?_
  intro repository rooted so
  refine makes_bind _ _ _ _ _ _ (injections_make tours delivers so _ injectionsPlaced) ?_
  intro injections injected so
  refine makes_bind _ _ _ _ _ _ (own_selector_makes so enter) ?_
  intro selector selected so
  refine makes_map _ _ _ _ (first_line_makes so enter) ?_
  exact fun _ _ _ isInjections isRepository => ⟨isRepository, isInjections⟩

end Document

def Document.layout (engine : Pattern.Engine) (document : Document) : Layout :=
  ⟨(compileDocument engine document .start).2.rules.size, document.places engine, document.visits⟩

section Outcome

variable (engine : Pattern.Engine) (key : String) {document : Document}

theorem place_keys : (document.places engine).map Prod.fst = document.visits.map Visit.address :=
  (document_mirrors engine document).builds.follows.visits

theorem place_keys_distinct : ((document.places engine).map Prod.fst).Nodup := by
  rw [place_keys]
  exact visits_distinct document

theorem place_unique (visit : Visit) (visited : visit ∈ document.visits) :
    ∃! id, (visit.address, id) ∈ document.places engine := by
  have known : visit.address ∈ (document.places engine).map Prod.fst := by
    rw [place_keys]
    exact List.mem_map_of_mem visited
  obtain ⟨⟨address, id⟩, isPlace, isAddress⟩ := List.mem_map.mp known
  cases isAddress
  refine ⟨id, isPlace, fun other isOther => ?_⟩
  exact congrArg Prod.snd (List.inj_on_of_nodup_map (place_keys_distinct engine) isOther isPlace rfl)

theorem layout_reached : Leads (document.layout engine) (compileDocument engine document .start).2 document.tour :=
  ⟨Nat.le_refl _, ⟨[], rfl, List.forall_mem_nil _⟩, List.suffix_refl _⟩

theorem reference_known (places : List (Address × Nat)) (item : Item) (id : Nat)
    (isReference : item.reference? document places = some (.rule id)) : id = 0 ∨ id ∈ places.map Prod.snd := by
  rw [Item.reference?] at isReference
  split at isReference
  · rename_i visit _
    obtain ⟨found, isFound, same⟩ := Option.map_eq_some_iff.mp isReference
    cases same
    obtain ⟨newer, older, isPlaces, _⟩ := List.lookup_eq_some_iff.mp isFound
    exact .inr (by simp [isPlaces])
  · split at isReference
    · rename_i chain target _
      cases kind : Target.ofText document.scopeName target with
      | root =>
          rw [kind] at isReference
          cases isReference
          exact .inl rfl
      | base => rw [kind] at isReference; cases isReference
      | external scope name => rw [kind] at isReference; cases isReference
      | inView name => rw [kind] at isReference; cases isReference
      | topLevel name => rw [kind] at isReference; cases isReference
      | nothing => rw [kind] at isReference; cases isReference
    · cases isReference

theorem held_patterns (places : List (Address × Nat)) (visits : List Visit) (id : Nat) (rule : Rule)
    (held : Held document places visits id rule) : ∃ items, rule.patterns = references document places items := by
  cases held with
  | root isRoot => exact ⟨_, rfl⟩
  | capture items positive unowned => exact ⟨items, rfl⟩
  | visited visit rule listed isPlace gives =>
      cases gives with
      | refused error shape => exact ⟨[], rfl⟩
      | reference target shape => exact ⟨_, rfl⟩
      | container shape => exact ⟨_, rfl⟩
      | single source captures shape => exact ⟨[], rfl⟩
      | beginEnd opening closing beginCaptures endCaptures shape => exact ⟨_, rfl⟩
      | beginWhile opening continuing beginCaptures whileCaptures shape => exact ⟨_, rfl⟩

theorem held_invalid (places : List (Address × Nat)) (visits : List Visit) (id : Nat)
    (held : Held document places visits id .invalid) :
    ∃ visit ∈ visits, (visit.address, id) ∈ places ∧ ∃ error, visit.site.rule.keys.shape = .error error := by
  cases held with
  | visited visit rule listed isPlace gives =>
      cases gives with
      | refused error shape => exact ⟨visit, listed, isPlace, error, shape⟩

variable (distinct : document.Distinct)

include distinct

theorem places_apart : (compileDocument engine document .start).2.Apart := by
  have makes : Makes engine document 0 (document.layout engine) .start {} _ document.tour _ :=
    document_makes engine distinct (place_keys_distinct engine)
  exact makes.stage.apart

theorem compiled_holds (id : Nat) (rule : Rule) (there : (Grammar.compile engine key document).rules[id]? = some rule) :
    (document.layout engine).Holds document id rule :=
  (document_makes engine distinct (place_keys_distinct engine)).held (layout_reached engine) id rule (Nat.zero_le _) there

theorem compiled_held (id : Nat) (inside : id < (Grammar.compile engine key document).ruleCount) :
    ∃ rule, (Grammar.compile engine key document).rules[id]? = some rule ∧
      Held document (document.places engine) document.visits id rule :=
  have there := Array.getElem?_eq_getElem inside
  ⟨_, there, (compiled_holds engine key distinct id _ there).held⟩

theorem place_inside (entry : Address × Nat) (listed : entry ∈ document.places engine) :
    entry.2 < (Grammar.compile engine key document).ruleCount :=
  ((places_apart engine distinct).inside entry listed).2

theorem compiled_mentions_inside :
    (∀ entry ∈ (Grammar.compile engine key document).repository, entry.2 < (Grammar.compile engine key document).ruleCount) ∧
      ∀ entry ∈ (Grammar.compile engine key document).ownInjections,
        entry.2 < (Grammar.compile engine key document).ruleCount := by
  obtain ⟨repository, injections⟩ :=
    (document_makes engine distinct (place_keys_distinct engine)).result (layout_reached engine)
  refine ⟨fun entry listed => place_inside engine key distinct _ (repository entry listed), ?_⟩
  intro entry listed
  obtain ⟨source, isPlace⟩ := injections entry listed
  exact place_inside engine key distinct _ isPlace

theorem compiled_successors_inside (id : Nat) (rule : Rule)
    (there : (Grammar.compile engine key document).rules[id]? = some rule) :
    ∀ next ∈ rule.successors, next < (Grammar.compile engine key document).ruleCount := by
  intro next listed
  have holds := compiled_holds engine key distinct id rule there
  rcases List.mem_append.mp listed with child | group
  · obtain ⟨items, isPatterns⟩ := held_patterns _ _ _ _ holds.held
    obtain ⟨ref, member, isNext⟩ := List.mem_filterMap.mp child
    rw [isPatterns] at member
    obtain ⟨item, _, isReference⟩ := List.mem_filterMap.mp member
    cases ref with
    | rule other =>
        cases isNext
        rcases reference_known _ item next isReference with rfl | owned
        · exact (places_apart engine distinct).rooted
        · obtain ⟨entry, isPlace, rfl⟩ := List.mem_map.mp owned
          exact place_inside engine key distinct entry isPlace
    | base => cases isNext
    | external scope name => cases isNext
  · obtain ⟨capture, member, isNext⟩ := List.mem_filterMap.mp group
    exact (holds.free capture member next isNext).inside

theorem place_gives (visit : Visit) (visited : visit ∈ document.visits) (id : Nat)
    (isPlace : (visit.address, id) ∈ document.places engine) :
    ∃ rule, (Grammar.compile engine key document).rules[id]? = some rule ∧
      visit.Gives document (document.places engine) rule := by
  have apart := places_apart engine distinct
  obtain ⟨rule, there, held⟩ := compiled_held engine key distinct id (place_inside engine key distinct _ isPlace)
  refine ⟨rule, there, ?_⟩
  cases held with
  | root isRoot => exact absurd isRoot (Nat.ne_of_gt (apart.inside _ isPlace).1)
  | capture items positive unowned => exact absurd (List.mem_map_of_mem isPlace) unowned
  | visited other rule listed isOther gives =>
      have same : (other.address, id) = (visit.address, id) := List.inj_on_of_nodup_map apart.distinct isOther isPlace rfl
      cases List.inj_on_of_nodup_map (visits_distinct document) listed visited (congrArg Prod.fst same)
      exact gives

theorem root_held :
    (Grammar.compile engine key document).rules[0]? = some (.container ⟨some document.scopeName, none,
      references document (document.places engine) (patternItems document.outermost [] "" 0 document.patterns.toList)⟩) := by
  have apart := places_apart engine distinct
  obtain ⟨rule, there, held⟩ := compiled_held engine key distinct 0 apart.rooted
  rw [there]
  cases held with
  | root isRoot => rfl
  | capture items positive unowned => exact absurd positive (Nat.lt_irrefl 0)
  | visited visit rule listed isPlace gives => exact absurd (apart.inside _ isPlace).1 (Nat.lt_irrefl 0)

theorem met_leads_to_place (item : Item) (met : item ∈ document.met) (next : Visit)
    (leads : item.visit? document = some next) :
    ∃ visit ∈ document.visits, visit.address = next.address ∧ visit.site.rule = next.site.rule ∧
      ∃ id, (visit.address, id) ∈ document.places engine ∧
        item.reference? document (document.places engine) = some (.rule id) := by
  obtain ⟨visit, visited, same⟩ := List.mem_map.mp (tour_visits_all distinct item met next leads)
  have placed : next.Placed document := by
    rcases (met_iff document item).mp met with listed | ⟨other, otherVisited, listed⟩
    · exact document_items_lead distinct item listed next leads
    · exact visit_items_lead distinct other (visits_placed distinct other otherVisited) item listed next leads
  obtain ⟨id, isPlace, _⟩ := place_unique engine visit visited
  refine ⟨visit, visited, same, ?_, id, isPlace, ?_⟩
  · have here := (visits_placed distinct visit visited).rule
    rw [same, placed.rule] at here
    exact (Option.some.inj here).symm
  · exact reference_to_place (place_keys_distinct engine) item next leads id (same ▸ isPlace)

theorem omitted_iff_unresolved (location : String) (chain : Chain) (target : String)
    (met : ⟨location, .inclusion chain target⟩ ∈ document.met) :
    Item.reference? document (document.places engine) ⟨location, .inclusion chain target⟩ = none ↔
      document.unresolved chain target := by
  cases found : document.found? chain target with
  | some entry =>
      have leads : Item.visit? document ⟨location, .inclusion chain target⟩ = some ⟨entry.1, entry.2, location⟩ := by
        simp [Item.visit?, found]
      obtain ⟨_, _, _, _, id, _, isReference⟩ := met_leads_to_place engine distinct _ met _ leads
      simp [isReference, Document.unresolved, found]
  | none =>
      simp only [Item.reference?, Item.visit?, Document.unresolved, found, Option.map_none, Option.isNone_none,
        Bool.and_true]
      cases Target.ofText document.scopeName target <;> simp [Target.elsewhere?, Target.isByName]

end Outcome

def mentioned (grammar : Grammar) : List Nat :=
  grammar.root :: (grammar.repository.map Prod.snd ++ grammar.ownInjections.map Prod.snd ++
    grammar.rules.toList.flatMap Rule.successors)

-- The array of a compiled grammar in order, where `places` are those of the rules that were compiled.
structure InOrder (document : Document) (places : List (Address × Nat)) (grammar : Grammar) : Prop where
  inside : ∀ id ∈ grammar.mentioned, id < grammar.ruleCount
  rooted : grammar.root = 0 ∧ grammar.rules[0]? = some (.container ⟨some document.scopeName, none,
    references document places (patternItems document.outermost [] "" 0 document.patterns.toList)⟩)
  held : ∀ id rule, grammar.rules[id]? = some rule → Held document places document.visits id rule
  -- A place that is left empty is that of a rule which is refused.
  filled : ∀ id, grammar.rules[id]? = some .invalid →
    ∃ visit ∈ document.visits, (visit.address, id) ∈ places ∧ ∃ error, visit.site.rule.keys.shape = .error error
  -- However often a rule is met, it is compiled once, and referred to there.
  once : ∀ item ∈ document.met, ∀ next, item.visit? document = some next →
    ∃ visit ∈ document.visits, visit.address = next.address ∧ visit.site.rule = next.site.rule ∧
      ∃ id, (visit.address, id) ∈ places ∧ item.reference? document places = some (.rule id)
  owned : ∀ visit ∈ document.visits, document.ruleAt? visit.address = some visit.site.rule ∧
    ∃! id, (visit.address, id) ∈ places
  apart : (places.map Prod.snd).Nodup ∧ 0 ∉ places.map Prod.snd ∧
    ∀ rule ∈ grammar.rules, ∀ capture ∈ rule.captureRules, ∀ id ∈ capture.retokenize, id ∉ places.map Prod.snd
  gives : ∀ visit ∈ document.visits, ∀ id, (visit.address, id) ∈ places →
    ∃ rule, grammar.rules[id]? = some rule ∧ visit.Gives document places rule
  omitted : ∀ location chain target, ⟨location, .inclusion chain target⟩ ∈ document.met →
    (Item.reference? document places ⟨location, .inclusion chain target⟩ = none ↔ document.unresolved chain target)

end Grammar

theorem compiled_rules_in_order (engine : Pattern.Engine) (key : String) (document : Grammar.Document)
    (distinct : document.Distinct) :
    Grammar.InOrder document (document.places engine) (Grammar.compile engine key document) where
  inside := by
    obtain ⟨repository, injections⟩ := Grammar.compiled_mentions_inside engine key distinct
    refine List.forall_mem_cons.mpr ⟨(Grammar.places_apart engine distinct).rooted, ?_⟩
    refine List.forall_mem_append.mpr ⟨List.forall_mem_append.mpr ⟨?_, ?_⟩, ?_⟩
    · exact List.forall_mem_map.mpr repository
    · exact List.forall_mem_map.mpr injections
    · intro next listed
      obtain ⟨rule, member, isNext⟩ := List.mem_flatMap.mp listed
      obtain ⟨id, there⟩ := List.mem_iff_getElem?.mp member
      exact Grammar.compiled_successors_inside engine key distinct id rule (Array.getElem?_toList ▸ there) next isNext
  rooted := ⟨rfl, Grammar.root_held engine key distinct⟩
  held id rule there := (Grammar.compiled_holds engine key distinct id rule there).held
  filled id there := Grammar.held_invalid _ _ id (Grammar.compiled_holds engine key distinct id .invalid there).held
  once := Grammar.met_leads_to_place engine distinct
  owned visit visited := ⟨(Grammar.visits_placed distinct visit visited).rule, Grammar.place_unique engine visit visited⟩
  apart := by
    have apart := Grammar.places_apart engine distinct
    refine ⟨apart.distinct, ?_, ?_⟩
    · intro owned
      obtain ⟨entry, isPlace, isRoot⟩ := List.mem_map.mp owned
      exact absurd (apart.inside entry isPlace).1 (isRoot ▸ Nat.lt_irrefl 0)
    · intro rule member capture isCapture id isId
      obtain ⟨place, there⟩ := Array.mem_iff_getElem?.mp member
      exact ((Grammar.compiled_holds engine key distinct place rule there).free capture isCapture id isId).unowned
  gives := Grammar.place_gives engine key distinct
  omitted := Grammar.omitted_iff_unresolved engine distinct

section Examples

open Grammar

-- Two entries that include each other, the grammar and themselves, also for a group of a match. One include leads
-- nowhere, and one rule begins without an end.
def cyclicDocument : Document where
  scopeName := "s"
  patterns := .cons (including "#a" .absent) (.cons (including "s#b" .absent) (.cons (including "s" .absent) .nil))
  repository :=
    .cons "a" (containing (.cons (including "#b" .absent) (.cons (matching "(a)" (.present (.cons "1"
      (containing (.cons (including "#a" .absent) (.cons (including "$self" .absent) .nil)) .absent) .nil))) .nil)) .absent)
    (.cons "b" (containing (.cons (including "#a" .absent) (.cons (including "#missing" .absent)
      (.cons (including "$self" .absent)
        (.cons (.mk { beginPattern := some "a" } .absent .absent .absent .absent .absent .absent) .nil)))) .absent) .nil)

theorem cyclic_rules_in_order :
    cyclicDocument.places .backtracking =
      [([.pattern 1, .repository "a"], 4), ([.pattern 3, .repository "b"], 3), ([.repository "b"], 2),
        ([.repository "a"], 1)] ∧
    (Grammar.compile .backtracking "s" cyclicDocument).rules =
      #[.container ⟨some "s", none, [.rule 1, .rule 2, .rule 0]⟩, .container ⟨none, none, [.rule 2, .rule 4]⟩,
        .container ⟨none, none, [.rule 1, .rule 0, .rule 3]⟩, .invalid, .single ⟨none, "(a)", [(1, ⟨none, none, some 5⟩)]⟩,
        .container ⟨none, none, [.rule 1, .rule 0]⟩] ∧
    InOrder cyclicDocument (cyclicDocument.places .backtracking) (Grammar.compile .backtracking "s" cyclicDocument) := by
  have distinct : cyclicDocument.Distinct := by decide
  exact ⟨by decide +kernel, by decide +kernel, compiled_rules_in_order .backtracking "s" cyclicDocument distinct⟩

end Examples

end LineScope
