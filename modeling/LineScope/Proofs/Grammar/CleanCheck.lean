import LineScope.Proofs.Grammar.Following

set_option autoImplicit false

namespace LineScope

namespace Grammar

structure Sound (engine : Pattern.Engine) (document : Document) (grammar : Grammar) : Prop where
  shapes : ∀ rule ∈ grammar.rules, rule ≠ .invalid
  starting : ∀ rule ∈ grammar.rules, ∀ pattern ∈ rule.startPattern?, engine.check pattern.toList = none
  lasting : ∀ rule ∈ grammar.rules, ∀ pattern ∈ rule.lastingPattern?, Pattern.hasReferences pattern = false →
    engine.check pattern.toList = none
  captureKeys : ∀ item ∈ document.met, ∀ key, item.element = .captureKey key → (groupOfKey? key).isSome
  includes : ∀ item ∈ document.met, ∀ chain target, item.element = .inclusion chain target →
    document.unresolved chain target = false
  injections : ∀ source rule, (source, rule) ∈ document.injections.toList → ∃ selector, Selector.parse source = .ok selector
  injectionSelector : ∀ source ∈ document.injectionSelector, ∃ selector, Selector.parse source = .ok selector
  firstLine : ∀ source ∈ document.firstLineMatch, engine.check source.toList = none

def Wholesome (engine : Pattern.Engine) : Option (Option String × Option String) → Prop
  | none => False
  | some (starting, lasting) =>
      (∀ pattern ∈ starting, engine.check pattern.toList = none) ∧
        ∀ pattern ∈ lasting, Pattern.hasReferences pattern = false → engine.check pattern.toList = none

section Rules

variable (engine : Pattern.Engine)

theorem rule_wholesome_iff (rule : Rule) :
    Wholesome engine rule.outline ↔ rule ≠ .invalid ∧
      (∀ pattern ∈ rule.startPattern?, engine.check pattern.toList = none) ∧
      ∀ pattern ∈ rule.lastingPattern?, Pattern.hasReferences pattern = false → engine.check pattern.toList = none := by
  cases rule <;> simp [Rule.outline, Wholesome]

theorem pattern_fine_iff (document : Document) (location source : String) (filledLater : Bool) :
    Item.problem? engine document ⟨location, .pattern source filledLater⟩ = none ↔
      ((filledLater && Pattern.hasReferences source) = false → engine.check source.toList = none) := by
  change (if filledLater && Pattern.hasReferences source then none else _) = none ↔ _
  cases filledLater && Pattern.hasReferences source <;> simp

theorem visit_wholesome_iff (document : Document) (visit : Visit) :
    (∀ item ∈ visit.ownItems, item.problem? engine document = none) ↔ Wholesome engine visit.site.rule.keys.outline := by
  rw [Visit.ownItems, RuleKeys.outline]
  cases visit.site.rule.keys.shape with
  | error error => simp [Item.problem?, Wholesome]
  | ok shape => cases shape <;> simp [pattern_fine_iff, Wholesome, Shape.outline]

-- The places of the array are those of the rules visited, apart from containers.
theorem rules_wholesome_iff (key : String) (document : Document) :
    (∀ rule ∈ (Grammar.compile engine key document).rules, Wholesome engine rule.outline) ↔
      ∀ visit ∈ document.visits, Wholesome engine visit.site.rule.keys.outline := by
  obtain ⟨_, placed, covered⟩ := compile_follows_tour engine key document
  constructor
  · intro rules visit visited
    obtain ⟨entry, _, _, _, rule, there, same⟩ := matched_right placed visit visited
    rw [← same]
    exact rules rule (Array.mem_of_getElem? there)
  · intro visits rule member
    obtain ⟨id, there⟩ := Array.getElem?_of_mem member
    rcases covered id rule there with container | ⟨entry, listed, rfl⟩
    · rw [container]
      simp [Wholesome]
    · obtain ⟨visit, visited, _, _, other, alsoThere, same⟩ := matched_left placed entry listed
      cases there.symm.trans alsoThere
      rw [same]
      exact visits visit visited

end Rules

section Checks

variable (engine : Pattern.Engine) (key : String) (document : Document)

theorem diagnostics_empty_iff :
    (Grammar.compile engine key document).diagnostics = [] ↔ ∀ item ∈ document.met, item.problem? engine document = none := by
  rw [(compile_follows_tour engine key document).1, List.filterMap_eq_nil_iff]
  simp [Item.report?]

theorem selector_fine_iff (location source : String) :
    Item.problem? engine document ⟨location, .selector source⟩ = none ↔ ∃ selector, Selector.parse source = .ok selector := by
  cases parsed : Selector.parse source <;> simp [Item.problem?, parsed]

theorem visit_own_met (visit : Visit) (visited : visit ∈ document.visits) (item : Item) (listed : item ∈ visit.ownItems) :
    item ∈ document.met := by
  have own : item.element.isOwn := by
    rw [Visit.ownItems] at listed
    split at listed <;> simp only [List.mem_cons, List.not_mem_nil, or_false] at listed
    · rw [listed]
      rfl
    · rw [listed]
      rfl
    · rcases listed with rfl | rfl <;> rfl
    · rcases listed with rfl | rfl <;> rfl
  exact (met_iff document item).mpr (.inr ⟨visit, visited, (visit_own_items item visit own).mpr listed⟩)

theorem sound_of_fine (fine : ∀ item ∈ document.met, item.problem? engine document = none) :
    Sound engine document (Grammar.compile engine key document) := by
  have wholesome : ∀ rule ∈ (Grammar.compile engine key document).rules, Wholesome engine rule.outline := by
    refine (rules_wholesome_iff engine key document).mpr ?_
    intro visit visited
    refine (visit_wholesome_iff engine document visit).mp ?_
    exact fun item listed => fine item (visit_own_met document visit visited item listed)
  have rules := fun rule member => (rule_wholesome_iff engine rule).mp (wholesome rule member)
  have met : ∀ item, item ∈ document.items → item ∈ document.met := fun item listed =>
    (met_iff document item).mpr (.inl listed)
  refine ⟨fun rule member => (rules rule member).1, fun rule member => (rules rule member).2.1,
    fun rule member => (rules rule member).2.2, ?_, ?_, ?_, ?_, ?_⟩
  · rintro ⟨location, _⟩ member key rfl
    simpa [Item.problem?, Option.isSome_iff_ne_none] using fine _ member
  · rintro ⟨location, _⟩ member chain target rfl
    simpa [Item.problem?] using fine _ member
  · intro source rule listed
    have isMet := met ⟨join "injections" source, .selector source⟩
      ((document_own_items _ document rfl).mpr (.inl ⟨source, rule, listed, rfl⟩))
    exact (selector_fine_iff engine document _ source).mp (fine _ isMet)
  · intro source written
    have isMet := met ⟨"injectionSelector", .selector source⟩
      ((document_own_items _ document rfl).mpr (.inr (.inl ⟨source, written, rfl⟩)))
    exact (selector_fine_iff engine document _ source).mp (fine _ isMet)
  · intro source written
    have isMet := met ⟨"firstLineMatch", .pattern source false⟩
      ((document_own_items _ document rfl).mpr (.inr (.inr ⟨source, written, rfl⟩)))
    exact (pattern_fine_iff engine document _ source false).mp (fine _ isMet) rfl

theorem fine_of_sound (sound : Sound engine document (Grammar.compile engine key document)) (item : Item)
    (member : item ∈ document.met) : item.problem? engine document = none := by
  cases own : item.element.isOwn with
  | true =>
      rcases (met_iff document item).mp member with listed | ⟨visit, visited, listed⟩
      · rcases (document_own_items item document own).mp listed with ⟨source, rule, there, rfl⟩ | ⟨source, written, rfl⟩ |
          ⟨source, written, rfl⟩
        · exact (selector_fine_iff engine document _ source).mpr (sound.injections source rule there)
        · exact (selector_fine_iff engine document _ source).mpr (sound.injectionSelector source written)
        · exact (pattern_fine_iff engine document _ source false).mpr fun _ => sound.firstLine source written
      · have wholesome : ∀ rule ∈ (Grammar.compile engine key document).rules, Wholesome engine rule.outline :=
          fun rule there => (rule_wholesome_iff engine rule).mpr
            ⟨sound.shapes rule there, sound.starting rule there, sound.lasting rule there⟩
        have here := (rules_wholesome_iff engine key document).mp wholesome visit visited
        exact (visit_wholesome_iff engine document visit).mpr here item ((visit_own_items item visit own).mp listed)
  | false =>
      obtain ⟨location, element⟩ := item
      cases element with
      | captureKey name => simp [Item.problem?, sound.captureKeys _ member name rfl]
      | inclusion chain target => simp [Item.problem?, sound.includes _ member chain target rfl]
      | rule chain site => rfl
      | keys error => cases own
      | pattern source filledLater => cases own
      | selector source => cases own

end Checks

end Grammar

theorem clean_check_iff_sound (engine : Pattern.Engine) (key : String) (document : Grammar.Document) :
    (Grammar.compile engine key document).diagnostics = [] ↔
      Grammar.Sound engine document (Grammar.compile engine key document) := by
  rw [Grammar.diagnostics_empty_iff]
  exact ⟨Grammar.sound_of_fine engine key document, Grammar.fine_of_sound engine key document⟩

end LineScope
