import LineScope.Proofs.Grammar.Tour

/-!
A compilation follows the tour of its document: it remembers the rules that are visited, fills one
place of the array for each of them, and reports what is wrong with the things met, in the order in
which they are met. Every part of it is followed from the compiler of single rules, and that compiler
by induction on its fuel.
-/

set_option autoImplicit false

namespace LineScope.Grammar

-- The patterns of a rule, the one that starts it and the one that it lasts by; nothing for a rule that is refused.
def Shape.outline : Shape → Option String × Option String
  | .single source => (some source, none)
  | .beginEnd opening closing => (some opening, some closing)
  | .beginWhile opening continuing => (some opening, some continuing)
  | .reference _ | .container => (none, none)

def RuleKeys.outline (keys : RuleKeys) : Option (Option String × Option String) :=
  match keys.shape with
  | .error _ => none
  | .ok shape => some shape.outline

def Rule.lastingPattern? : Rule → Option String
  | .beginEnd rule => some rule.endPattern
  | .beginWhile rule => some rule.whilePattern
  | .single _ | .container _ | .invalid => none

def Rule.outline : Rule → Option (Option String × Option String)
  | .invalid => none
  | rule => some (rule.startPattern?, rule.lastingPattern?)

section Following

variable (engine : Pattern.Engine) (document : Document)

structure Follows (bench : Compilation) (tour : Tour) : Prop where
  visits : bench.ids.map Prod.fst = tour.visits.map Visit.address
  reports : bench.diagnostics.toList = tour.met.filterMap (Item.report? engine document)
  faults (slotBytes : Nat) : bench.faults slotBytes = tour.met.filterMap (Item.fault? slotBytes)

def Places (floor : Nat) (rules : Array Rule) (entry : Address × Nat) (visit : Visit) : Prop :=
  floor ≤ entry.2 ∧ entry.1 = visit.address ∧
    ∃ rule, rules[entry.2]? = some rule ∧ rule.outline = visit.site.rule.keys.outline

def IsContainer (rules : Array Rule) (id : Nat) : Prop := ∃ container, rules[id]? = some (.container container)

def CapturesHeld (rules : Array Rule) (captures : List CaptureRule) : Prop :=
  ∀ capture ∈ captures, ∀ id ∈ capture.retokenize, IsContainer rules id

def Lasting (fact : Array Rule → Prop) : Prop :=
  ∀ rules later : Array Rule, (∀ id, id < rules.size → later[id]? = rules[id]?) → fact rules → fact later

theorem container_lasting (id : Nat) : Lasting (IsContainer · id) := by
  rintro rules later kept ⟨container, there⟩
  exact ⟨container, (kept id (Array.getElem?_eq_some_iff.mp there).1).trans there⟩

theorem captures_lasting (captures : List CaptureRule) : Lasting (CapturesHeld · captures) :=
  fun rules later kept held capture listed id isId => container_lasting id rules later kept (held capture listed id isId)

-- What is added to the array are places for the rules that are visited, and containers.
structure Builds (before : Compilation) (seen : Tour) (after : Compilation) (tour : Tour) : Prop where
  size : before.rules.size ≤ after.rules.size
  kept : ∀ id, id < before.rules.size → after.rules[id]? = before.rules[id]?
  follows : Follows engine document after tour
  placed : ∃ entries visits, after.ids = entries ++ before.ids ∧ tour.visits = visits ++ seen.visits ∧
    List.Forall₂ (Places before.rules.size after.rules) entries visits ∧
    ∀ id rule, before.rules.size ≤ id → after.rules[id]? = some rule →
      rule.outline = some (none, none) ∨ ∃ entry ∈ entries, entry.2 = id
  held : ∀ id rule, before.rules.size ≤ id → after.rules[id]? = some rule → CapturesHeld after.rules rule.captureRules

variable {engine document} {before middle after : Compilation} {seen between tour : Tour}

theorem places_kept (floor lower : Nat) (rules later : Array Rule) (lowers : lower ≤ floor)
    (kept : ∀ id, floor ≤ id → id < rules.size → later[id]? = rules[id]?) (entry : Address × Nat) (visit : Visit)
    (places : Places floor rules entry visit) : Places lower later entry visit := by
  obtain ⟨above, same, rule, there, fits⟩ := places
  have inside : entry.2 < rules.size := (Array.getElem?_eq_some_iff.mp there).1
  exact ⟨Nat.le_trans lowers above, same, rule, (kept _ above inside).trans there, fits⟩

theorem builds_refl (follows : Follows engine document before seen) : Builds engine document before seen before seen where
  size := Nat.le_refl _
  kept _ _ := rfl
  follows := follows
  placed := by
    refine ⟨[], [], rfl, rfl, .nil, ?_⟩
    intro id rule above there
    have inside := (Array.getElem?_eq_some_iff.mp there).1
    omega
  held id rule above there := by
    have inside := (Array.getElem?_eq_some_iff.mp there).1
    omega

theorem builds_trans (first : Builds engine document before seen middle between)
    (second : Builds engine document middle between after tour) : Builds engine document before seen after tour where
  size := Nat.le_trans first.size second.size
  kept id inside := (second.kept id (Nat.lt_of_lt_of_le inside first.size)).trans (first.kept id inside)
  follows := second.follows
  placed := by
    obtain ⟨entries, visits, isEntries, isVisits, placed, covered⟩ := first.placed
    obtain ⟨laterEntries, laterVisits, isLaterEntries, isLaterVisits, laterPlaced, laterCovered⟩ := second.placed
    refine ⟨laterEntries ++ entries, laterVisits ++ visits, ?_, ?_, ?_, ?_⟩
    · rw [isLaterEntries, isEntries, List.append_assoc]
    · rw [isLaterVisits, isVisits, List.append_assoc]
    · refine List.rel_append (laterPlaced.imp ?_) (placed.imp ?_)
      · exact places_kept _ _ _ _ first.size fun _ _ _ => rfl
      · exact places_kept _ _ _ _ (Nat.le_refl _) fun id _ => second.kept id
    · intro id rule above there
      by_cases early : id < middle.rules.size
      · rw [second.kept id early] at there
        refine (covered id rule above there).imp_right ?_
        rintro ⟨entry, listed, same⟩
        exact ⟨entry, List.mem_append_right _ listed, same⟩
      · refine (laterCovered id rule (Nat.le_of_not_lt early) there).imp_right ?_
        rintro ⟨entry, listed, same⟩
        exact ⟨entry, List.mem_append_left _ listed, same⟩
  held id rule above there := by
    by_cases early : id < middle.rules.size
    · rw [second.kept id early] at there
      exact captures_lasting _ _ _ second.kept (first.held id rule above there)
    · exact second.held id rule (Nat.le_of_not_lt early) there

theorem filled_here (opened : Compilation) (start : Tour) (rule : Rule) (isOpened : opened.rules = before.rules.push .invalid)
    (within : Builds engine document opened start middle tour) :
    (filled before middle rule).rules[before.rules.size]? = some rule := by
  have size := within.size
  rw [isOpened, Array.size_push] at size
  rw [filled, Array.getElem?_setIfInBounds_self_of_lt (by omega)]

theorem filled_elsewhere (rule : Rule) (id : Nat) (different : id ≠ before.rules.size) :
    (filled before middle rule).rules[id]? = middle.rules[id]? := by
  rw [filled, Array.getElem?_setIfInBounds_ne different.symm]

theorem filled_held (opened : Compilation) (start : Tour) (rule : Rule) (isOpened : opened.rules = before.rules.push .invalid)
    (within : Builds engine document opened start middle tour) (captures : List CaptureRule)
    (held : CapturesHeld middle.rules captures) : CapturesHeld (filled before middle rule).rules captures := by
  intro capture listed id isId
  obtain ⟨container, there⟩ := held capture listed id isId
  refine ⟨container, (filled_elsewhere rule id ?_).trans there⟩
  rintro rfl
  rw [within.kept _ (by rw [isOpened, Array.size_push]; omega), isOpened, Array.getElem?_push_size] at there
  cases there

theorem builds_filled (opened : Compilation) (start : Tour) (rule : Rule) (entries : List (Address × Nat))
    (visits : List Visit) (isOpened : opened.rules = before.rules.push .invalid) (isEntries : opened.ids = entries ++ before.ids)
    (isVisits : start.visits = visits ++ seen.visits) (within : Builds engine document opened start middle tour)
    (own : ∀ rules : Array Rule, rules[before.rules.size]? = some rule →
      List.Forall₂ (Places before.rules.size rules) entries visits)
    (covered : rule.outline = some (none, none) ∨ ∃ entry ∈ entries, entry.2 = before.rules.size)
    (ownHeld : CapturesHeld middle.rules rule.captureRules) :
    Builds engine document before seen (filled before middle rule) tour := by
  have size := within.size
  rw [isOpened, Array.size_push] at size
  have here := filled_here opened start rule isOpened within
  have held := filled_held opened start rule isOpened within
  have openedAt : ∀ id, id < before.rules.size → opened.rules[id]? = before.rules[id]? := by
    intro id inside
    rw [isOpened, Array.getElem?_push_lt inside, Array.getElem?_eq_getElem inside]
  obtain ⟨inner, innerVisits, isInner, isInnerVisits, placed, innerCovered⟩ := within.placed
  have inArray : Fault.ofPlace? before.rules.size middle.rules.size = none := if_pos (by omega)
  refine ⟨?_, ?_, ⟨within.follows.visits, within.follows.reports, ?_⟩,
    ⟨inner ++ entries, innerVisits ++ visits, ?_, ?_, ?_, ?_⟩, ?_⟩
  · rw [filled, Array.size_setIfInBounds]
    omega
  · intro id inside
    rw [filled_elsewhere rule id (by omega), within.kept id (by rw [isOpened, Array.size_push]; omega), openedAt id inside]
  -- The rule is put inside the array, so its request adds no fault.
  · intro slotBytes
    have added : (filled before middle rule).faults slotBytes = middle.faults slotBytes ++ [] := by
      simp [Compilation.faults, filled, Request.fault?, inArray]
    rw [added, List.append_nil, within.follows.faults]
  · rw [List.append_assoc, ← isEntries]
    exact isInner
  · rw [List.append_assoc, ← isVisits]
    exact isInnerVisits
  · refine List.rel_append (placed.imp ?_) (own _ here)
    rw [isOpened, Array.size_push]
    exact places_kept _ _ _ _ (Nat.le_succ _) fun id above _ => filled_elsewhere rule id (by omega)
  -- What is added is the place itself or was added before the place was filled.
  · intro id compiled above there
    by_cases same : id = before.rules.size
    · subst same
      rw [here] at there
      cases there
      refine covered.imp_right ?_
      rintro ⟨entry, listed, same⟩
      exact ⟨entry, List.mem_append_right _ listed, same⟩
    · rw [filled_elsewhere rule id same] at there
      have later : opened.rules.size ≤ id := by
        rw [isOpened, Array.size_push]
        omega
      refine (innerCovered id compiled later there).imp_right ?_
      rintro ⟨entry, listed, same⟩
      exact ⟨entry, List.mem_append_left _ listed, same⟩
  · intro id compiled above there
    by_cases same : id = before.rules.size
    · subst same
      rw [here] at there
      cases there
      exact held _ ownHeld
    · rw [filled_elsewhere rule id same] at there
      refine held _ (within.held id compiled ?_ there)
      rw [isOpened, Array.size_push]
      omega

end Following

-- An action that goes from a state to the one after some items, and what then holds of its result and of the array.
structure Mirrors {α : Type} (engine : Pattern.Engine) (document : Document) (enter : Tour → Visit → Tour)
    (before : Compilation) (seen : Tour) (action : Compiling α) (items : List Item) (holds : α → Array Rule → Prop) : Prop where
  builds : Builds engine document before seen (action before).2 (items.foldl (Tour.meet document enter) seen)
  result : holds (action before).1 (action before).2.rules

def Tours (engine : Pattern.Engine) (document : Document) (enter : Tour → Visit → Tour) (compile : RuleCompiler) : Prop :=
  ∀ chain site location before seen, Follows engine document before seen →
    Builds engine document before seen (compile chain site location before).2 (enter seen ⟨chain, site, location⟩)

section Actions

variable {engine : Pattern.Engine} {document : Document} {enter : Tour → Visit → Tour} {before : Compilation} {seen : Tour}
  {α β : Type} (follows : Follows engine document before seen)

theorem mirrors_bind (first : Compiling α) (next : α → Compiling β) (items later : List Item)
    (halfway : α → Array Rule → Prop) (holds : β → Array Rule → Prop)
    (starts : Mirrors engine document enter before seen first items halfway)
    (continues : ∀ value middle tour, Follows engine document middle tour → halfway value middle.rules →
      Mirrors engine document enter middle tour (next value) later holds) :
    Mirrors engine document enter before seen (first >>= next) (items ++ later) holds := by
  have rest := continues _ _ _ starts.builds.follows starts.result
  refine ⟨?_, rest.result⟩
  rw [List.foldl_append]
  exact builds_trans starts.builds rest.builds

theorem mirrors_map (first : Compiling α) (build : α → β) (items : List Item) (halfway : α → Array Rule → Prop)
    (holds : β → Array Rule → Prop) (starts : Mirrors engine document enter before seen first items halfway)
    (built : ∀ value rules, halfway value rules → holds (build value) rules) :
    Mirrors engine document enter before seen (first >>= fun value => pure (build value)) items holds :=
  ⟨starts.builds, built _ _ starts.result⟩

theorem mirrors_kept (action : Compiling α) (items : List Item) (holds : α → Array Rule → Prop) (fact : Array Rule → Prop)
    (lasts : Lasting fact) (here : fact before.rules) (mirrors : Mirrors engine document enter before seen action items holds) :
    Mirrors engine document enter before seen action items fun value rules => holds value rules ∧ fact rules :=
  ⟨mirrors.builds, mirrors.result, lasts _ _ mirrors.builds.kept here⟩

include follows

theorem mirrors_pure (value : α) (holds : α → Array Rule → Prop) (here : holds value before.rules) :
    Mirrors engine document enter before seen (pure value) [] holds :=
  ⟨builds_refl follows, here⟩

theorem builds_met (item : Item) (reported : Compilation) (isRules : reported.rules = before.rules)
    (isIds : reported.ids = before.ids)
    (isReported : reported.diagnostics.toList = before.diagnostics.toList ++ (item.report? engine document).toList)
    (isFaulted : ∀ slotBytes, reported.faults slotBytes = before.faults slotBytes ++ (item.fault? slotBytes).toList) :
    Builds engine document before seen reported { seen with met := seen.met ++ [item] } where
  size := Nat.le_of_eq (by rw [isRules])
  kept id _ := by rw [isRules]
  follows := by
    refine ⟨by rw [isIds]; exact follows.visits, ?_, ?_⟩
    · have met : (item.report? engine document).toList = [item].filterMap (Item.report? engine document) := by
        cases isReport : item.report? engine document <;> simp [isReport]
      rw [isReported, follows.reports, met, List.filterMap_append]
    · intro slotBytes
      have met : (item.fault? slotBytes).toList = [item].filterMap (Item.fault? slotBytes) := by
        cases isFault : item.fault? slotBytes <;> simp [isFault]
      rw [isFaulted, follows.faults, met, List.filterMap_append]
  placed := by
    refine ⟨[], [], isIds, rfl, .nil, ?_⟩
    intro id rule above there
    have inside := (Array.getElem?_eq_some_iff.mp there).1
    rw [isRules] at inside
    omega
  held id rule above there := by
    have inside := (Array.getElem?_eq_some_iff.mp there).1
    rw [isRules] at inside
    omega

theorem mirrors_report (location : String) (problem : Problem) (element : Element)
    (nowhere : Item.visit? document ⟨location, element⟩ = none)
    (isProblem : Item.problem? engine document ⟨location, element⟩ = some problem)
    (faultless : ∀ slotBytes, Item.fault? slotBytes ⟨location, element⟩ = none) :
    Mirrors engine document enter before seen (report location problem) [⟨location, element⟩] fun _ _ => True := by
  refine ⟨?_, trivial⟩
  have met := builds_met follows ⟨location, element⟩ (report location problem before).2 rfl rfl
    (by simp [report, Item.report?, isProblem]) (by simp [report, Compilation.faults, faultless])
  simpa [Tour.meet, nowhere] using met

theorem mirrors_passed (item : Item) (nowhere : item.visit? document = none) (fine : item.problem? engine document = none)
    (faultless : ∀ slotBytes, item.fault? slotBytes = none) (action : Compiling α) (items : List Item) (holds : α → Array Rule → Prop)
    (continues : ∀ tour, Follows engine document before tour →
      Mirrors engine document enter before tour action items holds) :
    Mirrors engine document enter before seen action (item :: items) holds := by
  have met := builds_met follows item before rfl rfl (by simp [Item.report?, fine]) (by simp [faultless])
  have rest := continues _ met.follows
  refine ⟨?_, rest.result⟩
  rw [List.foldl_cons, Tour.meet, nowhere]
  exact builds_trans met rest.builds

theorem mirrors_fine (value : α) (holds : α → Array Rule → Prop) (here : holds value before.rules) (item : Item)
    (nowhere : item.visit? document = none) (fine : item.problem? engine document = none)
    (faultless : ∀ slotBytes, item.fault? slotBytes = none) : Mirrors engine document enter before seen (pure value) [item] holds :=
  mirrors_passed follows item nowhere fine faultless _ [] holds fun _ so => mirrors_pure so value holds here

theorem check_pattern_mirrors (source location : String) (filledLater : Bool) :
    Mirrors engine document enter before seen (checkPattern engine source location filledLater)
      [⟨location, .pattern source filledLater⟩] fun checked _ => checked = source := by
  rw [checkPattern]
  cases later : filledLater && Pattern.hasReferences source with
  | true =>
      refine mirrors_fine follows source (fun checked _ => checked = source) rfl _ rfl ?_ fun _ => rfl
      simp only [Item.problem?, later, if_true]
  | false =>
      cases checked : engine.check source.toList with
      | none =>
          refine mirrors_fine follows source (fun checked _ => checked = source) rfl _ rfl ?_ fun _ => rfl
          simp only [Item.problem?, later, checked, Bool.false_eq_true, if_false, Option.map_none]
      | some message =>
          have isProblem : Item.problem? engine document ⟨location, .pattern source filledLater⟩ =
              some (.invalidPattern source message) := by
            simp only [Item.problem?, later, checked, Bool.false_eq_true, if_false, Option.map_some]
          exact mirrors_map _ _ [_] _ _ (mirrors_report follows location _ _ rfl isProblem fun _ => rfl) fun _ _ _ => rfl

theorem selector_mirrors (source location : String) :
    Mirrors engine document enter before seen (compileSelector source location) [⟨location, .selector source⟩]
      fun _ _ => True := by
  rw [compileSelector]
  cases parsed : Selector.parse source with
  | ok selector => exact mirrors_fine follows _ _ trivial _ rfl (by simp [Item.problem?, parsed]) fun _ => rfl
  | error error =>
      have isProblem : Item.problem? engine document ⟨location, .selector source⟩ = some (.invalidSelector source error) := by
        simp [Item.problem?, parsed]
      exact mirrors_map _ _ [_] _ _ (mirrors_report follows location _ _ rfl isProblem fun _ => rfl) fun _ _ _ => trivial

theorem claim_mirrors (location key : String) (group : Nat) (isGroup : groupOfKey? key = some group) :
    Mirrors engine document enter before seen (claimGroup group) [⟨location, .captureKey key⟩] fun _ _ => True := by
  refine ⟨?_, trivial⟩
  have claimed : ∀ slotBytes, (claimGroup group before).2.faults slotBytes =
      before.faults slotBytes ++ (Item.fault? slotBytes ⟨location, .captureKey key⟩).toList := by
    intro slotBytes
    cases isFault : Fault.ofGroup? slotBytes group <;>
      simp [claimGroup, Compilation.faults, Request.fault?, Item.fault?, isGroup, isFault]
  have met := builds_met follows ⟨location, .captureKey key⟩ (claimGroup group before).2 rfl rfl
    (by simp [claimGroup, Item.report?, Item.problem?, isGroup]) claimed
  simpa [Tour.meet, Item.visit?] using met

end Actions

section Parts

variable {engine : Pattern.Engine} {document : Document} {enter : Tour → Visit → Tour} {compile : RuleCompiler}
  (tours : Tours engine document enter compile) {before : Compilation} {seen : Tour}
  (follows : Follows engine document before seen)

include tours follows

theorem rule_mirrors (chain : Chain) (site : Site) (location : String) (element : Element)
    (leads : Item.visit? document ⟨location, element⟩ = some ⟨chain, site, location⟩)
    (fine : Item.problem? engine document ⟨location, element⟩ = none) :
    Mirrors engine document enter before seen (compile chain site location) [⟨location, element⟩] fun _ _ => True := by
  refine ⟨?_, trivial⟩
  have met := builds_met follows ⟨location, element⟩ before rfl rfl (by simp [Item.report?, fine])
    (by simp [Item.lead_faultless document _ _ leads])
  have entered := builds_trans met (tours chain site location before _ met.follows)
  simpa [Tour.meet, leads] using entered

theorem include_mirrors (chain : Chain) (target location : String) :
    Mirrors engine document enter before seen (compileInclude (contextOf engine document) compile chain target location)
      [⟨location, .inclusion chain target⟩] fun _ _ => True := by
  have found : ∀ around : Chain, ∀ found : Option Site,
      document.found? chain target = found.map (fun site => (around, site)) →
      (Target.ofText document.scopeName target).isByName →
      Mirrors engine document enter before seen (compileFound compile around found target location)
        [⟨location, .inclusion chain target⟩] fun _ _ => True := by
    intro around found isFound byName
    cases found with
    | none =>
        refine mirrors_map _ _ [_] _ _ (mirrors_report follows location _ _ ?_ ?_ fun _ => rfl) fun _ _ _ => trivial
        · simp [Item.visit?, isFound]
        · simp [Item.problem?, Document.unresolved, isFound, byName]
    | some site =>
        refine mirrors_map _ _ [_] _ _ (rule_mirrors tours follows around site location _ ?_ ?_) fun _ _ _ => trivial
        · simp [Item.visit?, isFound]
        · simp [Item.problem?, Document.unresolved, isFound]
  have passed : ∀ ref : Option PatternRef, document.found? chain target = none →
      (Target.ofText document.scopeName target).isByName = false →
      Mirrors engine document enter before seen (pure ref) [⟨location, .inclusion chain target⟩] fun _ _ => True := by
    intro ref nothing byName
    exact mirrors_fine follows _ _ trivial _ (by simp [Item.visit?, nothing])
      (by simp [Item.problem?, Document.unresolved, byName]) fun _ => rfl
  rw [compileInclude]
  dsimp only [contextOf]
  cases kind : Target.ofText document.scopeName target with
  | root => exact passed _ (by simp [Document.found?, kind]) (by rw [kind]; rfl)
  | base => exact passed _ (by simp [Document.found?, kind]) (by rw [kind]; rfl)
  | external scope name => exact passed _ (by simp [Document.found?, kind]) (by rw [kind]; rfl)
  | inView name => exact found chain _ (by simp [Document.found?, kind]) (by rw [kind]; rfl)
  | topLevel name => exact found _ _ (by simp [Document.found?, kind, Document.outermost]) (by rw [kind]; rfl)
  | nothing => exact found chain none (by simp [Document.found?, kind]) (by rw [kind]; rfl)

theorem patterns_mirror (chain : Chain) (owner : Address) (location : String) (index : Nat) (rules : List RuleDocument) :
    Mirrors engine document enter before seen
      (compilePatterns (contextOf engine document) compile chain owner location index rules)
      (patternItems chain owner location index rules) fun _ _ => True := by
  induction rules generalizing index before seen with
  | nil => exact mirrors_pure follows _ _ trivial
  | cons rule rest ih =>
      have goesOn : ∀ head : Option PatternRef, ∀ middle tour, Follows engine document middle tour → True →
          Mirrors engine document enter middle tour
            (compilePatterns (contextOf engine document) compile chain owner location (index + 1) rest >>= fun tail =>
              pure (head.toList ++ tail))
            (patternItems chain owner location (index + 1) rest) fun _ _ => True := by
        exact fun head middle tour so _ => mirrors_map _ _ _ _ _ (ih so (index + 1)) fun _ _ _ => trivial
      rw [compile_patterns_cons, patternItems, patternItem]
      cases listed : rule.listed? with
      | some target =>
          exact mirrors_bind _ _ [_] _ (fun _ _ => True) _ (include_mirrors tours follows chain target _) goesOn
      | none =>
          refine mirrors_bind _ _ [_] _ (fun _ _ => True) _ (rule_mirrors tours follows chain _ _ (.rule chain _) rfl rfl) ?_
          exact fun id => goesOn (some (.rule id))

theorem retokenized_mirrors (chain : Chain) (owner : Address) (location : String) (rules : OptionalRules) :
    Mirrors engine document enter before seen
      (compileRetokenized (contextOf engine document) compile chain owner location rules)
      (patternItems chain owner location 0 rules.items) fun target rules => ∀ id ∈ target, IsContainer rules id := by
  cases rules with
  | absent => exact mirrors_pure follows _ _ fun _ isId => nomatch isId
  | present rules =>
      let opened : Compilation := { before with rules := before.rules.push .invalid }
      have openedFollows : Follows engine document opened seen := ⟨follows.visits, follows.reports, follows.faults⟩
      have within := (patterns_mirror tours openedFollows chain owner location 0 rules.toList).builds
      refine ⟨builds_filled opened seen _ [] [] rfl rfl rfl within (fun _ _ => .nil) (.inl rfl) (List.forall_mem_nil _), ?_⟩
      intro id isId
      cases isId
      exact ⟨_, filled_here opened seen _ rfl within⟩

theorem captures_mirror (chain : Chain) (owner : Address) (table location : String)
    (entries : List (String × RuleDocument)) (captures : CaptureTable)
    (held : CapturesHeld before.rules (captures.map Prod.snd)) :
    Mirrors engine document enter before seen
      (compileCaptures (contextOf engine document) compile chain owner table location entries captures)
      (captureItems chain owner table location entries) fun captures rules => CapturesHeld rules (captures.map Prod.snd) := by
  induction entries generalizing before seen captures with
  | nil => exact mirrors_pure follows _ _ held
  | cons entry rest ih =>
      obtain ⟨key, rule⟩ := entry
      rw [compile_captures_cons, captureItems]
      cases group : groupOfKey? key with
      | none =>
          have isProblem : Item.problem? engine document ⟨join location key, .captureKey key⟩ =
              some (.invalidShape (.captureKey key)) := by simp [Item.problem?, group]
          refine mirrors_bind _ _ [_] _ _ _ (mirrors_kept _ _ _ _ (captures_lasting _) held
            (mirrors_report follows _ _ _ rfl isProblem (by simp [Item.fault?, group]))) ?_
          exact fun _ middle tour so kept => ih so captures kept.2
      | some group' =>
          simp only [Option.isSome_some, if_true]
          refine mirrors_bind _ _ _ (_ :: _) _ _ (mirrors_kept _ _ _ _ (captures_lasting _) held
            (retokenized_mirrors tours follows _ _ _ _)) ?_
          rintro retokenize middle tour so ⟨isContainer, kept⟩
          have heldNow : CapturesHeld middle.rules
              ((CaptureTable.put group' ⟨rule.keys.name, rule.keys.contentName, retokenize⟩ captures).map Prod.snd) := by
            refine List.forall_mem_map.mpr ?_
            rintro ⟨other, capture⟩ listed
            rcases mem_capture_put group' other _ capture captures listed with ⟨_, rfl⟩ | old
            · exact isContainer
            · exact List.forall_mem_map.mp kept _ old
          refine mirrors_bind _ _ [_] _ _ _ (mirrors_kept _ _ _ _ (captures_lasting _) heldNow
            (claim_mirrors so (join location key) key group' group)) ?_
          exact fun _ claimed final so kept => ih so _ kept.2

variable (visit : Visit)

theorem visit_captures_mirror (key : String) (own : OptionalTable) (isOwn : own = visit.site.rule.captureTable key) :
    Mirrors engine document enter before seen
      (compileCapturesOr (contextOf engine document) compile visit.view visit.site visit.location key own)
      (visit.captures key) fun captures rules => CapturesHeld rules (captures.map Prod.snd) := by
  subst isOwn
  rw [Visit.captures, RuleDocument.capturesOr]
  cases visit.site.rule.captureTable key with
  | present table => exact captures_mirror tours follows _ _ _ _ _ _ (List.forall_mem_nil _)
  | absent => exact captures_mirror tours follows _ _ _ _ _ _ (List.forall_mem_nil _)

theorem children_mirror :
    Mirrors engine document enter before seen
      (compilePatterns (contextOf engine document) compile visit.view visit.address visit.location 0
        visit.site.rule.patterns.items)
      visit.children fun _ _ => True :=
  patterns_mirror tours follows _ _ _ _ _

theorem block_mirrors (opening closing closingKey key : String) (own : OptionalTable)
    (isOwn : own = visit.site.rule.captureTable key)
    (build : String → CaptureTable → String → CaptureTable → List PatternRef → Rule) (holds : Rule → Array Rule → Prop)
    (fits : ∀ beginCaptures endCaptures refs rules, CapturesHeld rules ((beginCaptures ++ endCaptures).map Prod.snd) →
      holds (build opening beginCaptures closing endCaptures refs) rules) :
    Mirrors engine document enter before seen
      (do
        let beginPattern ← checkPattern engine opening (join visit.location "begin") false
        let beginCaptures ← compileCapturesOr (contextOf engine document) compile visit.view visit.site visit.location
          "beginCaptures" visit.site.rule.beginCaptures
        let endPattern ← checkPattern engine closing (join visit.location closingKey) true
        let endCaptures ← compileCapturesOr (contextOf engine document) compile visit.view visit.site visit.location key own
        let patterns ← compilePatterns (contextOf engine document) compile visit.view visit.address visit.location 0
          visit.site.rule.patterns.items
        return build beginPattern beginCaptures endPattern endCaptures patterns)
      (⟨join visit.location "begin", .pattern opening false⟩ :: (visit.captures "beginCaptures" ++
        ⟨join visit.location closingKey, .pattern closing true⟩ :: (visit.captures key ++ visit.children)))
      holds := by
  refine mirrors_bind _ _ [_] _ _ _ (check_pattern_mirrors follows opening _ false) ?_
  rintro _ opened atOpened so rfl
  refine mirrors_bind _ _ _ _ _ _ (visit_captures_mirror tours so visit "beginCaptures" _ rfl) ?_
  intro beginCaptures begun atBegun so beginHeld
  refine mirrors_bind _ _ [_] _ _ _ (mirrors_kept _ _ _ _ (captures_lasting _) beginHeld
    (check_pattern_mirrors so closing _ true)) ?_
  rintro _ closed atClosed so ⟨rfl, beginHeld⟩
  refine mirrors_bind _ _ _ _ _ _ (mirrors_kept _ _ _ _ (captures_lasting _) beginHeld
    (visit_captures_mirror tours so visit key own isOwn)) ?_
  rintro endCaptures ended atEnded so ⟨endHeld, beginHeld⟩
  have held : CapturesHeld ended.rules ((beginCaptures ++ endCaptures).map Prod.snd) := by
    rw [List.map_append]
    exact List.forall_mem_append.mpr ⟨beginHeld, endHeld⟩
  exact mirrors_map _ _ _ _ _ (mirrors_kept _ _ _ _ (captures_lasting _) held (children_mirror tours so visit))
    fun refs rules kept => fits beginCaptures endCaptures refs rules kept.2

theorem shape_mirrors :
    Mirrors engine document enter before seen
      (compileShape (contextOf engine document) compile visit.view visit.site visit.location) visit.items
      fun rule rules => rule.outline = visit.site.rule.keys.outline ∧ CapturesHeld rules rule.captureRules := by
  rw [compileShape, Visit.items, RuleKeys.outline]
  cases visit.site.rule.keys.shape with
  | error error =>
      exact mirrors_map _ _ [_] _ _ (mirrors_report follows _ _ (.keys error) rfl rfl fun _ => rfl) fun _ _ _ =>
        ⟨rfl, List.forall_mem_nil _⟩
  | ok shape =>
      cases shape with
      | reference target =>
          exact mirrors_map _ _ [_] _ _ (include_mirrors tours follows _ target _) fun _ _ _ => ⟨rfl, List.forall_mem_nil _⟩
      | container =>
          exact mirrors_map _ _ _ _ _ (children_mirror tours follows visit) fun _ _ _ => ⟨rfl, List.forall_mem_nil _⟩
      | single source =>
          refine mirrors_bind _ _ [_] _ _ _ (check_pattern_mirrors follows source _ false) ?_
          rintro _ middle tour so rfl
          exact mirrors_map _ _ _ _ _ (visit_captures_mirror tours so visit "captures" _ rfl) fun _ _ held => ⟨rfl, held⟩
      | beginEnd opening closing =>
          exact block_mirrors tours follows visit opening closing "end" "endCaptures" _ rfl
            (fun _ _ _ _ _ => .beginEnd ⟨_, _, _, _, _, _, _, _⟩) _ fun _ _ _ _ held => ⟨rfl, held⟩
      | beginWhile opening continuing =>
          exact block_mirrors tours follows visit opening continuing "while" "whileCaptures" _ rfl
            (fun _ _ _ _ _ => .beginWhile ⟨_, _, _, _, _, _, _⟩) _ fun _ _ _ _ held => ⟨rfl, held⟩

end Parts

section Rules

variable (engine : Pattern.Engine) (document : Document)

theorem lookup_visited (bench : Compilation) (tour : Tour) (follows : Follows engine document bench tour) (address : Address) :
    (bench.ids.lookup address).isSome ↔ address ∈ tour.visits.map Visit.address := by
  rw [← follows.visits]
  constructor
  · intro known
    obtain ⟨id, found⟩ := Option.isSome_iff_exists.mp known
    obtain ⟨before, after, isIds, _⟩ := List.lookup_eq_some_iff.mp found
    simp [isIds]
  · intro listed
    by_contra missing
    obtain ⟨entry, member, same⟩ := List.mem_map.mp listed
    have different := List.lookup_eq_none_iff.mp (Option.not_isSome_iff_eq_none.mp missing) entry member
    simp [same] at different

theorem compile_rule_tours (fuel : Nat) :
    Tours engine document (Tour.enter document fuel) (compileRule (contextOf engine document) fuel) := by
  -- Both use up their fuel in the same way.
  induction fuel with
  | zero => exact fun chain site location before seen follows => builds_refl follows
  | succ fuel ih =>
      intro chain site location before seen follows
      let visit : Visit := ⟨chain, site, location⟩
      have visited := lookup_visited engine document before seen follows visit.address
      rw [Tour.enter]
      cases known : before.ids.lookup site.address with
      | some id =>
          rw [if_pos (visited.mp (Option.isSome_of_eq_some known)), compile_rule_remembered _ _ _ _ _ _ id known]
          exact builds_refl follows
      | none =>
          have isNew : visit.address ∉ seen.visits.map Visit.address := by
            rw [← visited, Visit.address, known]
            exact Bool.false_ne_true
          rw [if_neg isNew, compile_rule_new _ _ _ _ _ _ known]
          let start : Tour := { seen with visits := visit :: seen.visits }
          have opened : Follows engine document (before.opening site.address) start := by
            refine ⟨?_, follows.reports, follows.faults⟩
            simp [Compilation.opening, start, visit, Visit.address, follows.visits]
          obtain ⟨within, fits, held⟩ := shape_mirrors ih opened visit
          refine builds_filled _ start _ [(site.address, before.rules.size)] [visit] rfl rfl rfl within ?_
            (.inr ⟨_, List.mem_singleton_self _, rfl⟩) held
          exact fun rules there => .cons ⟨Nat.le_refl _, rfl, _, there, fits⟩ .nil

end Rules

section Whole

variable {engine : Pattern.Engine} {document : Document} {enter : Tour → Visit → Tour} {compile : RuleCompiler}
  (tours : Tours engine document enter compile) {before : Compilation} {seen : Tour}
  (follows : Follows engine document before seen)

include tours follows

theorem repository_mirrors (entries : List (String × RuleDocument)) :
    Mirrors engine document enter before seen (compileRepository compile document.outermost entries)
      (document.entryItems entries) fun _ _ => True := by
  induction entries generalizing before seen with
  | nil => exact mirrors_pure follows _ _ trivial
  | cons entry rest ih =>
      refine mirrors_bind _ _ [_] _ (fun _ _ => True) _ (rule_mirrors tours follows _ _ _ (.rule _ _) rfl rfl) ?_
      exact fun _ middle tour so _ => mirrors_map _ _ _ _ _ (ih so) fun _ _ _ => trivial

theorem injections_mirror (entries : List (String × RuleDocument)) :
    Mirrors engine document enter before seen (compileInjections compile document.outermost entries)
      (document.injectionItems entries) fun _ _ => True := by
  induction entries generalizing before seen with
  | nil => exact mirrors_pure follows _ _ trivial
  | cons entry rest ih =>
      refine mirrors_bind _ _ [_] _ (fun _ _ => True) _ (rule_mirrors tours follows _ _ _ (.rule _ _) rfl rfl) ?_
      intro id middle tour so _
      refine mirrors_bind _ _ [_] _ (fun _ _ => True) _ (selector_mirrors so entry.1 _) ?_
      intro selector last final so _
      cases selector with
      | none => exact mirrors_map _ _ _ _ _ (ih so) fun _ _ _ => trivial
      | some selector => exact mirrors_map _ _ _ _ _ (ih so) fun _ _ _ => trivial

omit tours in
theorem own_selector_mirrors :
    Mirrors engine document enter before seen (compileOwnSelector document)
      (document.injectionSelector.map fun source => ⟨"injectionSelector", .selector source⟩).toList fun _ _ => True := by
  rw [compileOwnSelector]
  cases document.injectionSelector with
  | none => exact mirrors_pure follows _ _ trivial
  | some source => exact selector_mirrors follows source _

omit tours in
theorem first_line_mirrors :
    Mirrors engine document enter before seen (compileFirstLine engine document)
      (document.firstLineMatch.map fun source => ⟨"firstLineMatch", .pattern source false⟩).toList fun _ _ => True := by
  rw [compileFirstLine]
  cases document.firstLineMatch with
  | none => exact mirrors_pure follows _ _ trivial
  | some source => exact mirrors_map _ _ [_] _ _ (check_pattern_mirrors follows source _ false) fun _ _ _ => trivial

end Whole

theorem document_mirrors (engine : Pattern.Engine) (document : Document) :
    Mirrors engine document (Tour.enter document (document.size + 1)) .start {} (compileDocument engine document)
      document.items fun _ rules => IsContainer rules 0 := by
  have tours := compile_rule_tours engine document (document.size + 1)
  -- The place of the root is taken before the entries and the patterns, and filled after them.
  let opened : Compilation := ⟨⟨#[.invalid], [], #[]⟩, []⟩
  have openedFollows : Follows engine document opened {} := ⟨rfl, rfl, fun _ => rfl⟩
  have parts : Mirrors engine document (Tour.enter document (document.size + 1)) opened {} (compileParts engine document)
      (document.entryItems document.repository.toList ++ patternItems document.outermost [] "" 0 document.patterns.toList)
      fun _ _ => True := by
    refine mirrors_bind _ _ _ _ (fun _ _ => True) _ (repository_mirrors tours openedFollows document.repository.toList) ?_
    intro repository middle tour so _
    exact mirrors_map _ _ _ _ _ (patterns_mirror tours so _ [] "" 0 document.patterns.toList) fun _ _ _ => trivial
  have root : Mirrors engine document (Tour.enter document (document.size + 1)) .start {}
      (compileRoot engine document) _ fun _ rules => IsContainer rules 0 :=
    ⟨builds_filled opened {} _ [] [] rfl rfl rfl parts.builds (fun _ _ => .nil) (.inl rfl) (List.forall_mem_nil _),
      _, filled_here opened {} _ rfl parts.builds⟩
  have lasts := container_lasting 0
  rw [compile_document_split, Document.items, Document.laterItems, List.append_assoc, List.append_assoc, ← List.append_assoc]
  refine mirrors_bind _ _ _ _ _ _ root ?_
  intro repository rooted atRooted so kept
  refine mirrors_bind _ _ _ _ _ _ (mirrors_kept _ _ _ _ lasts kept (injections_mirror tours so document.injections.toList)) ?_
  rintro injections injected atInjected so ⟨_, kept⟩
  refine mirrors_bind _ _ _ _ _ _ (mirrors_kept _ _ _ _ lasts kept (own_selector_mirrors so)) ?_
  rintro selector selected atSelected so ⟨_, kept⟩
  exact mirrors_map _ _ _ _ _ (mirrors_kept _ _ _ _ lasts kept (first_line_mirrors so)) fun _ _ kept => kept.2

theorem matched_left {α β : Type} {related : α → β → Prop} {left : List α} {right : List β}
    (matched : List.Forall₂ related left right) : ∀ first ∈ left, ∃ second ∈ right, related first second := by
  induction matched with
  | nil => simp
  | cons here _ ih => simpa [here] using fun first listed => .inr (ih first listed)

theorem matched_right {α β : Type} {related : α → β → Prop} {left : List α} {right : List β}
    (matched : List.Forall₂ related left right) : ∀ second ∈ right, ∃ first ∈ left, related first second :=
  matched_left (List.Forall₂.flip matched)

def Document.places (engine : Pattern.Engine) (document : Document) : List (Address × Nat) :=
  (compileDocument engine document .start).2.ids

section Outcome

variable (engine : Pattern.Engine) (key : String) (document : Document)

theorem compile_follows_tour :
    (Grammar.compile engine key document).diagnostics = document.met.filterMap (Item.report? engine document) ∧
      List.Forall₂ (Places 0 (Grammar.compile engine key document).rules) (document.places engine) document.visits ∧
      ∀ id rule, (Grammar.compile engine key document).rules[id]? = some rule →
        rule.outline = some (none, none) ∨ ∃ entry ∈ document.places engine, entry.2 = id := by
  have builds := (document_mirrors engine document).builds
  obtain ⟨ids, visits, isIds, isVisits, placed, covered⟩ := builds.placed
  have sameIds : ids = document.places engine := (isIds.trans (List.append_nil ids)).symm
  have sameVisits : visits = document.visits := (isVisits.trans (List.append_nil visits)).symm
  subst sameIds sameVisits
  exact ⟨builds.follows.reports, placed, fun id rule => covered id rule (Nat.zero_le _)⟩

theorem compile_places (visit : Visit) (visited : visit ∈ document.visits) (id : Nat)
    (isPlace : (visit.address, id) ∈ document.places engine) :
    ∃ rule, (Grammar.compile engine key document).rules[id]? = some rule ∧ rule.outline = visit.site.rule.keys.outline := by
  obtain ⟨other, otherVisited, _, same, rule, there, fits⟩ :=
    matched_left (compile_follows_tour engine key document).2.1 _ isPlace
  cases List.inj_on_of_nodup_map (visits_distinct document) visited otherVisited same
  exact ⟨rule, there, fits⟩

theorem compile_containers :
    IsContainer (Grammar.compile engine key document).rules (Grammar.compile engine key document).root ∧
      ∀ (id : Nat) (rule : Rule), (Grammar.compile engine key document).rules[id]? = some rule →
        CapturesHeld (Grammar.compile engine key document).rules rule.captureRules :=
  have compiled := document_mirrors engine document
  ⟨compiled.result, fun id rule => compiled.builds.held id rule (Nat.zero_le _)⟩

end Outcome

end LineScope.Grammar
