import LineScope.Proofs.Grammar.CleanCheck
import LineScope.Proofs.Line.Removal
import LineScope.Proofs.Registry.History

/-!
What is reported about a rule, and what becomes of the rule. One whose keys do not fit together, or
whose starting pattern cannot be read, takes no part in tokenizing: it never wins a step, no frame is
pushed for it, and without it every document has the same tokens. A report about an end or a while
pattern has no such effect, and neither has one about a pattern that can be read with its anchors
replaced.
-/

set_option autoImplicit false

namespace LineScope

namespace Pattern

def Engine.Honest (engine : Engine) : Prop :=
  ∀ source text start, (engine.check source).isSome → engine.search source text start = none

def Engine.Refuses (engine : Engine) (source : String) : Prop :=
  ∀ anchors, (engine.check (variant source.toList anchors)).isSome

theorem backtracking_honest : Engine.backtracking.Honest := by
  intro source text start refused
  simp only [Engine.backtracking] at refused ⊢
  split at refused
  · cases refused
  · rfl

variable (engine : Engine) (source : String)

theorem refuses_without_anchor (plain : hasAnchor source.toList = false) (refused : (engine.check source.toList).isSome) :
    engine.Refuses source := by
  intro anchors
  rw [variant, plain, Bool.false_and]
  exact refused

theorem refused_mute (honest : engine.Honest) (refused : engine.Refuses source) : engine.Mute source :=
  fun anchors text start => honest _ text start (refused anchors)

end Pattern

namespace Grammar

-- What keeps a rule from starting once it has been reported: its keys, or the pattern that starts it.
def Element.Bars (engine : Pattern.Engine) : Element → Prop
  | .keys _ => True
  | .pattern source false => engine.Refuses source
  | .pattern _ true | .captureKey _ | .inclusion _ _ | .rule _ _ | .selector _ => False

def Barred (engine : Pattern.Engine) : Option (Option String × Option String) → Prop
  | none => True
  | some (starting, _) => ∃ source ∈ starting, engine.Refuses source

theorem rule_of_get (grammar : Grammar) (id : Nat) (rule : Rule) (there : grammar.rules[id]? = some rule) :
    grammar.rule id = rule := by
  rw [Grammar.rule, Array.getD_eq_getD_getElem?, there, Option.getD_some]

section Reports

variable (engine : Pattern.Engine) (key : String) (document : Document) (id : Nat)

def Document.Bars : Prop :=
  ∃ visit ∈ document.visits, (visit.address, id) ∈ document.places engine ∧
    ∃ item ∈ visit.ownItems, item.element.Bars engine ∧
      ∃ diagnostic ∈ (Grammar.compile engine key document).diagnostics, item.report? engine document = some diagnostic

theorem visit_barred_iff (visit : Visit) :
    (∃ item ∈ visit.ownItems, item.element.Bars engine) ↔ Barred engine visit.site.rule.keys.outline := by
  rw [Visit.ownItems, RuleKeys.outline]
  cases visit.site.rule.keys.shape with
  | error error => simp [Element.Bars, Barred]
  | ok shape => cases shape <;> simp [Element.Bars, Barred, Shape.outline]

theorem bars_reported (item : Item) (bars : item.element.Bars engine) :
    ∃ diagnostic, item.report? engine document = some diagnostic := by
  obtain ⟨location, element⟩ := item
  cases element with
  | keys error => exact ⟨_, rfl⟩
  | pattern source filledLater =>
      cases filledLater with
      | true => cases bars
      | false =>
          -- With both anchors allowed, a pattern is its own variant.
          have refused : (engine.check source.toList).isSome := by simpa [Pattern.variant] using bars ⟨true, true⟩
          obtain ⟨message, isMessage⟩ := Option.isSome_iff_exists.mp refused
          exact ⟨⟨location, .invalidPattern source message⟩, by simp [Item.report?, Item.problem?, isMessage]⟩
  | captureKey key => cases bars
  | inclusion chain target => cases bars
  | rule chain site => cases bars
  | selector source => cases bars

theorem bars_iff :
    document.Bars engine key id ↔
      ∃ rule, (Grammar.compile engine key document).rules[id]? = some rule ∧ Barred engine rule.outline := by
  obtain ⟨reports, placed, covered⟩ := compile_follows_tour engine key document
  constructor
  · rintro ⟨visit, visited, isPlace, item, own, bars, _⟩
    obtain ⟨rule, there, fits⟩ := compile_places engine key document visit visited id isPlace
    exact ⟨rule, there, fits ▸ (visit_barred_iff engine visit).mp ⟨item, own, bars⟩⟩
  · rintro ⟨rule, there, barred⟩
    rcases covered id rule there with container | ⟨entry, listed, rfl⟩
    · rw [container] at barred
      obtain ⟨_, impossible, _⟩ := barred
      cases impossible
    · obtain ⟨visit, visited, _, same, other, alsoThere, fits⟩ := matched_left placed entry listed
      cases there.symm.trans alsoThere
      obtain ⟨item, own, bars⟩ := (visit_barred_iff engine visit).mpr (fits ▸ barred)
      obtain ⟨diagnostic, isReport⟩ := bars_reported engine document item bars
      refine ⟨visit, visited, same ▸ listed, item, own, bars, diagnostic, ?_, isReport⟩
      rw [reports]
      exact List.mem_filterMap.mpr ⟨item, visit_own_met document visit visited item own, isReport⟩

variable {engine}

theorem barred_silent (honest : engine.Honest) (rule : Rule) (barred : Barred engine rule.outline) : rule.Silent engine := by
  have starts : ∀ source ∈ rule.startPattern?, engine.Refuses source → rule.Silent engine := by
    intro source isStart refused
    rw [Rule.Silent, Option.mem_def.mp isStart]
    exact Pattern.refused_mute engine source honest refused
  cases rule with
  | invalid => rfl
  | single _ | container _ | beginEnd _ | beginWhile _ =>
      obtain ⟨source, isStart, refused⟩ := barred
      exact starts source isStart refused

variable (engine)

theorem compile_orderly : (Grammar.compile engine key document).Orderly := by
  obtain ⟨⟨root, isRoot⟩, held⟩ := compile_containers engine key document
  refine ⟨⟨root, rule_of_get _ _ _ isRoot⟩, ?_⟩
  intro id capture listed target isTarget
  rw [Grammar.rule, Array.getD_eq_getD_getElem?] at listed
  cases there : (Grammar.compile engine key document).rules[id]? with
  | none =>
      rw [there] at listed
      cases listed
  | some rule =>
      rw [there] at listed
      obtain ⟨container, isContainer⟩ := held id rule there capture listed target isTarget
      exact ⟨container, rule_of_get _ _ _ isContainer⟩

end Reports

end Grammar

def Registry.without (registry : Registry) (removal : Removal) : Registry :=
  { registry with library := removal.fromLibrary registry.library }

def Registry.known (registry : Registry) : List Grammar := registry.library.grammars.map Prod.snd

-- Rules that take no part in tokenizing. Frames are pushed for the winners of steps and for groups that are tokenized
-- again; if nothing is left of the rules but their places, no scope can come from them.
structure Registry.Ignores (registry : Registry) (rules : List (String × Nat)) : Prop where
  winner : ∀ grammar ∈ registry.known, ∀ text (progress : Line.Progress), progress.stack.Within registry.known →
    progress.output.memory.Valid registry.known registry.library → ∀ candidate rule,
      Line.winnerAt (registry.tokenizerOf grammar) text progress = some candidate → candidate.winner = .rule rule →
        rule.identity ∉ rules
  groups : ∀ rule : RuleRef, rule.grammar ∈ registry.known → ∀ capture ∈ rule.rule.captureRules,
    ∀ target ∈ capture.retokenize, (rule.grammar.key, target) ∉ rules
  frames : ∀ grammar ∈ registry.known, ∀ previous,
    (registry.tokenizerOf grammar).Returns (Memory.Valid registry.known registry.library) previous →
      ∀ frame ∈ (previous.getD (registry.tokenizerOf grammar).initialStack).frames, frame.rule.identity ∉ rules
  tokens : ∀ erased scope text,
    ((registry.without ⟨rules, erased⟩).tokenizeDocument scope text).1.map DocumentResult.lines =
      (registry.tokenizeDocument scope text).1.map DocumentResult.lines

section Removing

variable (registry : Registry) (removal : Removal)

theorem tokenizer_without (grammar : Grammar) :
    (registry.without removal).tokenizerOf (removal.fromGrammar registry.library grammar) =
      removal.fromTokenizer (registry.tokenizerOf grammar) := by
  simp only [Registry.tokenizerOf, Registry.without, Removal.fromTokenizer, Removal.from_library_injections]

variable {removal} {known : List Grammar} (within : registry.library.Within known)
  (harmless : removal.Harmless registry.engine known) (unused : registry.memory = {})

include within harmless unused

theorem without_keeps_tokens (scope : Scope) (text : List Char) :
    ((registry.without removal).tokenizeDocument scope text).1.map DocumentResult.lines =
      (registry.tokenizeDocument scope text).1.map DocumentResult.lines := by
  have begins : ∀ known (start : Registry), start.memory = {} → Registry.Remembering known start start :=
    fun known start isEmpty => ⟨rfl, rfl, rfl, isEmpty ▸ Memory.empty_valid⟩
  rw [document_call _ _ within (begins known registry unused) scope text,
    document_call _ _ (Line.from_library_within registry.library within) (begins _ (registry.without removal) unused) scope
      text]
  change Option.map _ ((removal.fromLibrary registry.library).find? scope) = _
  rw [Removal.from_library_find, Option.map_map]
  cases found : registry.library.find? scope with
  | none => rfl
  | some grammar =>
      have isKnown := Line.find_within registry.library within scope grammar found
      rw [Option.map_some, Option.map_some, Function.comp_apply, tokenizer_without]
      exact congrArg some (removal_keeps_tokens _ harmless (tokenizer_of_within registry within grammar isKnown) text).symm

end Removing

-- A rule of a source that has been reported for something that keeps it from starting, by the scope of its grammar
-- and its place.
def BarredIn (engine : Pattern.Engine) (documents : List Grammar.Document) (rule : Scope × Nat) : Prop :=
  ∃ document, (rule.1, document) ∈ documents.foldl addDocument [] ∧ document.Bars engine rule.1 rule.2

section Sources

variable (engine : Pattern.Engine) (honest : engine.Honest) (documents : List Grammar.Document)
  (injectors : List (Scope × Scope)) (rules : List (Scope × Nat)) (barred : ∀ rule ∈ rules, BarredIn engine documents rule)

include honest barred in
theorem source_harmless (erased : Bool) :
    (Removal.mk rules erased).Harmless engine ((Library.ofSource engine documents injectors).grammars.map Prod.snd) := by
  have compiled : ∀ grammar ∈ (Library.ofSource engine documents injectors).grammars.map Prod.snd,
      ∃ entry ∈ documents.foldl addDocument [], grammar = Grammar.compile engine entry.1 entry.2 := by
    intro grammar isKnown
    simp only [Library.ofSource, Library.ofDocuments, List.map_map, List.mem_map] at isKnown
    obtain ⟨entry, listed, rfl⟩ := isKnown
    exact ⟨entry, listed, rfl⟩
  refine ⟨?_, ?_⟩
  · rintro ⟨grammar, id⟩ isKnown named
    obtain ⟨⟨scope, document⟩, listed, rfl⟩ := compiled grammar isKnown
    obtain ⟨other, otherListed, bars⟩ := barred (scope, id) (of_decide_eq_true named)
    -- The scope that a document is filed under tells it from all others.
    cases List.inj_on_of_nodup_map (source_scopes documents [] List.nodup_nil) listed otherListed rfl
    obtain ⟨rule, there, isBarred⟩ := (Grammar.bars_iff engine scope document id).mp bars
    rw [RuleRef.rule, Grammar.rule_of_get _ id rule there]
    exact Grammar.barred_silent honest rule isBarred
  · intro grammar isKnown
    obtain ⟨entry, _, rfl⟩ := compiled grammar isKnown
    exact Grammar.compile_orderly engine entry.1 entry.2

end Sources

theorem barred_rules_ignored (engine : Pattern.Engine) (honest : engine.Honest) (documents : List Grammar.Document)
    (injectors : List (Scope × Scope)) (options : RegistryOptions) (rules : List (Scope × Nat))
    (barred : ∀ rule ∈ rules, BarredIn engine documents rule) :
    (Registry.fresh engine documents injectors options).Ignores rules := by
  let registry := Registry.fresh engine documents injectors options
  have within : registry.library.Within registry.known := source_within engine documents injectors
  have harmless := source_harmless engine honest documents injectors rules barred
  have unnamed : ∀ rule : RuleRef, (Removal.mk rules false).names rule = false → rule.identity ∉ rules :=
    fun rule => of_decide_eq_false
  refine ⟨?_, ?_, ?_, ?_⟩
  · intro grammar isKnown text progress inside valid candidate rule found winner
    exact unnamed rule (Line.winner_unnamed (registry.tokenizerOf grammar) (harmless false)
      (tokenizer_of_within registry within grammar isKnown) text progress inside valid candidate rule found winner)
  · intro rule isKnown capture listed target isTarget
    exact unnamed ⟨rule.grammar, target⟩ (container_unnamed (registry.tokenizerOf rule.grammar) (harmless false) _ isKnown
      (((harmless false).orderly rule.grammar isKnown).groups rule.id capture listed target isTarget))
  · intro grammar isKnown previous returned frame member
    exact unnamed frame.rule (returned_unnamed (registry.tokenizerOf grammar) (harmless false)
      (tokenizer_of_within registry within grammar isKnown) previous returned frame member)
  · exact fun erased => without_keeps_tokens registry within (harmless erased) rfl

section Examples

open Grammar

def keyed (keys : RuleKeys) : RuleDocument := .mk keys .absent .absent .absent .absent .absent .absent

def listing (rules : RuleSequence) : Document := { scopeName := "s", patterns := rules }

def flawedDocument : Document :=
  listing (.cons (keyed { matchPattern := some "a(", name := some "m" })
    (.cons (keyed { beginPattern := some "a", name := some "m" })
      (.cons (keyed { matchPattern := some "a", name := some "n" }) .nil)))

theorem flawed_rules_ignored :
    (Grammar.compile .backtracking "s" flawedDocument).diagnostics.map Diagnostic.location = ["patterns/0/match", "patterns/1"] ∧
      ((Registry.fresh .backtracking [flawedDocument] [] {}).tokenizeDocument "s" ['a']).1.map DocumentResult.lines =
        some [[⟨0, 1, ["s", "n"]⟩]] ∧
      (Registry.fresh .backtracking [flawedDocument] [] {}).Ignores [("s", 1), ("s", 2)] := by
  refine ⟨by decide +kernel, by decide +kernel, ?_⟩
  refine barred_rules_ignored .backtracking Pattern.backtracking_honest [flawedDocument] [] {} _ ?_
  have first : flawedDocument.Bars .backtracking "s" 1 := by
    refine (bars_iff _ _ _ _).mpr ⟨.single ⟨some "m", "a(", []⟩, by decide +kernel, "a(", rfl, ?_⟩
    exact Pattern.refuses_without_anchor _ _ (by decide +kernel) (by decide +kernel)
  have second : flawedDocument.Bars .backtracking "s" 2 := (bars_iff _ _ _ _).mpr ⟨.invalid, by decide +kernel, trivial⟩
  exact List.forall_mem_cons.mpr ⟨⟨flawedDocument, List.mem_singleton_self _, first⟩,
    List.forall_mem_singleton.mpr ⟨flawedDocument, List.mem_singleton_self _, second⟩⟩

-- A rule of which only the end is refused, and one that can be read where its anchor may not hold.
def unendedDocument : Document :=
  listing (.cons (keyed { beginPattern := some "a", endPattern := some "(", name := some "n" }) .nil)

def anchoredDocument : Document := listing (.cons (keyed { matchPattern := some "[a-\\G]", name := some "n" }) .nil)

/-- Both are reported, and both give their name to what they match. -/
theorem reported_rules_not_ignored :
    ((Grammar.compile .backtracking "s" unendedDocument).diagnostics.map Diagnostic.location = ["patterns/0/end"] ∧
      ((Registry.fresh .backtracking [unendedDocument] [] {}).tokenizeDocument "s" ['a']).1.map DocumentResult.lines =
        some [[⟨0, 1, ["s", "n"]⟩]] ∧
      ¬ (Registry.fresh .backtracking [unendedDocument] [] {}).Ignores [("s", 1)]) ∧
    ((Grammar.compile .backtracking "s" anchoredDocument).diagnostics.map Diagnostic.location = ["patterns/0/match"] ∧
      ((Registry.fresh .backtracking [anchoredDocument] [] {}).tokenizeDocument "s" ['x', 'b']).1.map DocumentResult.lines =
        some [[⟨0, 1, ["s", "n"]⟩, ⟨1, 2, ["s", "n"]⟩]] ∧
      ¬ (Registry.fresh .backtracking [anchoredDocument] [] {}).Ignores [("s", 1)]) := by
  refine ⟨⟨by decide +kernel, by decide +kernel, ?_⟩, by decide +kernel, by decide +kernel, ?_⟩
  · intro ignores
    exact absurd (ignores.tokens false "s" ['a']) (by decide +kernel)
  · intro ignores
    exact absurd (ignores.tokens false "s" ['x', 'b']) (by decide +kernel)

end Examples

end LineScope
