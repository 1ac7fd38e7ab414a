import LineScope.Cli.Run
import LineScope.Proofs.Registry.Arrangement
import Mathlib.Data.List.Forall2
import Mathlib.Data.List.Perm.Basic

set_option autoImplicit false

namespace LineScope.Cli

section Scopes

theorem erase_dups_distinct (texts : List String) (distinct : texts.Nodup) : texts.eraseDups = texts := by
  induction texts with
  | nil => rfl
  | cons text rest ih =>
      obtain ⟨new, others⟩ := List.nodup_cons.mp distinct
      have kept : rest.filter (fun other => !other == text) = rest :=
        List.filter_eq_self.mpr fun other member => by simpa using fun same : other = text => new (same ▸ member)
      rw [List.eraseDups_cons, kept, ih others]

theorem sort_texts_perm {texts others : List String} (perm : texts.Perm others) :
    sortTexts texts = sortTexts others := by
  have sorted : ∀ texts, (sortTexts texts).Pairwise fun a b => !decide (b < a) := fun texts =>
    List.pairwise_mergeSort
      (fun a b c first second => by
        simp only [Bool.not_eq_true', decide_eq_false_iff_not, String.not_lt] at first second ⊢
        exact String.le_trans first second)
      (fun a b => by
        simp only [Bool.or_eq_true, Bool.not_eq_true', decide_eq_false_iff_not, String.not_lt]
        exact String.le_total a b)
      texts
  refine List.Perm.eq_of_pairwise ?_ (sorted texts) (sorted others)
    ((List.mergeSort_perm _ _).trans (perm.trans (List.mergeSort_perm _ _).symm))
  intro a b _ _ first second
  simp only [Bool.not_eq_true', decide_eq_false_iff_not, String.not_lt] at first second
  exact String.le_antisymm first second

end Scopes

section Loading

variable (surroundings : Surroundings)

theorem documents_ok_iff (paths : List String) (documents : List Grammar.Document) :
    surroundings.documents paths = .ok documents ↔
      List.Forall₂ (fun path document => surroundings.document path = .ok document) paths documents := by
  induction paths generalizing documents with
  | nil =>
      rw [List.forall₂_nil_left_iff]
      exact ⟨fun loaded => (Except.ok.inj loaded).symm, fun nothing => nothing ▸ rfl⟩
  | cons path rest ih =>
      rw [Surroundings.documents, List.forall₂_cons_left_iff]
      cases here : surroundings.document path with
      | error failure =>
          constructor
          · intro loaded
            cases loaded
          · rintro ⟨_, _, impossible, _⟩
            cases impossible
      | ok document =>
          cases others : surroundings.documents rest with
          | error failure =>
              constructor
              · intro loaded
                cases loaded
              · rintro ⟨_, further, _, rest, _⟩
                rw [← ih, others] at rest
                cases rest
          | ok later =>
              constructor
              · intro loaded
                cases loaded
                exact ⟨document, later, rfl, (ih later).mp others, rfl⟩
              · rintro ⟨_, further, same, rest, rfl⟩
                rw [← ih, others] at rest
                cases same
                cases rest
                rfl

theorem documents_perm {paths others : List String} (perm : paths.Perm others) (documents : List Grammar.Document)
    (loaded : surroundings.documents paths = .ok documents) :
    ∃ arranged, surroundings.documents others = .ok arranged ∧ documents.Perm arranged := by
  obtain ⟨arranged, read, same⟩ :=
    List.perm_comp_forall₂ perm.symm ((documents_ok_iff surroundings paths documents).mp loaded)
  exact ⟨arranged, (documents_ok_iff surroundings others arranged).mpr read, same.symm⟩

end Loading

structure Grammars.Alike (first second : Grammars) : Prop where
  scopes : first.scopes = second.scopes
  registry : second.registry = { first.registry with library := second.registry.library }
  library : first.registry.library.Alike second.registry.library
  faults (scope : Scope) : first.faults.lookup scope = second.faults.lookup scope

section Commands

theorem fault_of_scope (slotBytes : Nat) (engine : Pattern.Engine) (filed : Scope × Grammar.Document)
    (fault : Scope × Grammar.Fault) (isFault : faultOf? slotBytes engine filed = some fault) : fault.1 = filed.1 := by
  rw [faultOf?] at isFault
  split at isFault
  · cases isFault
  · cases isFault
    rfl

theorem faults_distinct (slotBytes : Nat) (engine : Pattern.Engine) (filed : List (Scope × Grammar.Document))
    (distinct : (filed.map Prod.fst).Nodup) : ((filed.filterMap (faultOf? slotBytes engine)).map Prod.fst).Nodup := by
  induction filed with
  | nil => exact List.nodup_nil
  | cons entry rest ih =>
      obtain ⟨new, others⟩ := List.nodup_cons.mp distinct
      rw [List.filterMap_cons]
      cases isFault : faultOf? slotBytes engine entry with
      | none => exact ih others
      | some fault =>
          refine List.nodup_cons.mpr ⟨fun again => new ?_, ih others⟩
          obtain ⟨other, listed, same⟩ := List.mem_map.mp again
          obtain ⟨source, member, isOther⟩ := List.mem_filterMap.mp listed
          rw [← fault_of_scope _ _ _ _ isFault, ← same, fault_of_scope _ _ _ _ isOther]
          exact List.mem_map_of_mem member

theorem of_documents_alike (slotBytes : Nat) (engine : Pattern.Engine) (config other : Config)
    (options : config.options = other.options) (injections : config.injections = other.injections)
    {documents arranged : List Grammar.Document} (perm : documents.Perm arranged)
    (distinct : (documents.map fun document => document.scopeName).Nodup) :
    (Grammars.ofDocuments slotBytes engine config documents).Alike (.ofDocuments slotBytes engine other arranged) := by
  have names := perm.map fun document => document.scopeName
  have arrangedDistinct := names.nodup_iff.mp distinct
  have injectors : config.injectors = other.injectors := by rw [Config.injectors, Config.injectors, injections]
  refine ⟨?_, ?_, ?_, ?_⟩
  · change sortTexts _ = sortTexts _
    rw [erase_dups_distinct _ distinct, erase_dups_distinct _ arrangedDistinct, sort_texts_perm names]
  · change Registry.mk _ _ other.options _ = Registry.mk _ _ config.options _
    rw [options]
    rfl
  · change Library.Alike _ (.ofSource engine arranged other.injectors)
    rw [← injectors]
    exact documents_alike engine config.injectors perm distinct
  · rw [Grammars.ofDocuments, Grammars.ofDocuments, filed_distinct documents distinct,
      filed_distinct arranged arrangedDistinct]
    exact lookup_perm ((perm.map _).filterMap _) (faults_distinct slotBytes engine _ (by rwa [List.map_map]))

variable {first second : Grammars} (alike : first.Alike second)

include alike

theorem list_alike : first.list = second.list := by
  rw [Grammars.list, Grammars.list, alike.scopes, alike.library.find]

theorem compile_all_alike : first.compileAll = second.compileAll := by
  funext scopes
  rw [Grammars.compileAll, Grammars.compileAll]
  simp only [alike.faults]

theorem compile_asked_alike : first.compileAsked = second.compileAsked := by
  funext memory
  rw [Grammars.compileAsked, Grammars.compileAsked, compile_all_alike alike]

theorem check_alike : first.check = second.check := by
  rw [Grammars.check, Grammars.check, compile_all_alike alike, alike.scopes, alike.library.find]
  simp only [alike.faults]

theorem detect_alike (file : Option String) (text : String) : first.detect file text = second.detect file text := by
  rw [Grammars.detect, Grammars.detect, Grammars.detect?, Grammars.detect?, compile_all_alike alike, list_alike alike,
    alike.scopes, alike.registry]

omit alike in
theorem encode_lines_over (tokenizer : Tokenizer) (library : Library) (same : tokenizer.library.Alike library)
    (styling : Styling) (memory : Memory) (lines : List (List Char)) (previous : Option RuleStack) :
    Grammars.encodeLines (tokenizer.over library) styling memory lines previous =
      Grammars.encodeLines tokenizer styling memory lines previous := by
  induction lines generalizing memory previous with
  | nil => rfl
  | cons line rest ih =>
      rw [Grammars.encodeLines, Grammars.encodeLines, tokenize_encoded_over tokenizer library same]
      simp only [ih]

theorem tokenize_alike (theme : List ThemeRule) (scope : Scope) (text : String) (format : Format) (encoded : Bool) :
    first.tokenize theme scope text format encoded = second.tokenize theme scope text format encoded := by
  rw [Grammars.tokenize, Grammars.tokenize, compile_asked_alike alike, alike.registry,
    tokenizer_over first.registry _ alike.library]
  have library := tokenizer_library first.registry scope
  generalize first.registry.tokenizer? scope = call at library ⊢
  obtain ⟨_ | tokenizer, registry⟩ := call
  · rfl
  · have same : tokenizer.library.Alike second.registry.library := by
      rw [library tokenizer rfl]
      exact alike.library
    dsimp only [Option.map_some]
    simp only [encode_lines_over tokenizer _ same, Tokenizer.tokenizeDocument, tokenize_lines_over tokenizer _ same]

end Commands

section Runs

def settings (config : Config) : Config := { config with grammars := [] }

def Invocation.grammarFiles (surroundings : Surroundings) (invocation : Invocation) : List String :=
  ((surroundings.config invocation.config).toOption.getD {}).grammars ++ invocation.grammars

-- The same command with the same settings and the same files of grammars, but for the order of the files.
structure Invocation.Rearranged (surroundings : Surroundings) (first second : Invocation) : Prop where
  command : first.command = second.command
  settings : (surroundings.config first.config).map settings = (surroundings.config second.config).map settings
  files : (first.grammarFiles surroundings).Perm (second.grammarFiles surroundings)

variable (engine : Pattern.Engine) (surroundings : Surroundings)

theorem grammars_rearranged (config other : Config) (same : settings config = settings other)
    (paths others : List String) (perm : (config.grammars ++ paths).Perm (other.grammars ++ others))
    (documents : List Grammar.Document)
    (loaded : surroundings.documents (config.grammars ++ paths) = .ok documents)
    (distinct : (documents.map fun document => document.scopeName).Nodup) :
    (surroundings.grammars engine config paths = .error .noGrammars ∧
        surroundings.grammars engine other others = .error .noGrammars) ∨
      ∃ first second, surroundings.grammars engine config paths = .ok first ∧
        surroundings.grammars engine other others = .ok second ∧ first.Alike second := by
  obtain ⟨arranged, otherLoaded, documentPerm⟩ := documents_perm surroundings perm documents loaded
  rw [Surroundings.grammars, Surroundings.grammars, loaded, otherLoaded]
  dsimp only [bind, Except.bind]
  rw [documentPerm.isEmpty_eq]
  cases arranged.isEmpty with
  | true => exact .inl ⟨rfl, rfl⟩
  | false =>
      have options : (settings config).options = (settings other).options := by rw [same]
      have injections : (settings config).injections = (settings other).injections := by rw [same]
      have alike := of_documents_alike surroundings.slotBytes engine config other options injections documentPerm distinct
      exact .inr ⟨_, _, rfl, rfl, alike⟩

theorem run_rearranged (first second : Invocation) (rearranged : first.Rearranged surroundings second)
    (documents : List Grammar.Document)
    (loaded : surroundings.documents (first.grammarFiles surroundings) = .ok documents)
    (distinct : (documents.map fun document => document.scopeName).Nodup) :
    first.run engine surroundings = second.run engine surroundings := by
  obtain ⟨command, same, files⟩ := rearranged
  rw [Invocation.grammarFiles, Invocation.grammarFiles] at files
  rw [Invocation.grammarFiles] at loaded
  rw [Invocation.run, Invocation.run, command]
  cases firstConfig : surroundings.config first.config with
  | error failure =>
      cases secondConfig : surroundings.config second.config with
      | error otherFailure =>
          rw [firstConfig, secondConfig] at same
          cases same
          rfl
      | ok other =>
          rw [firstConfig, secondConfig] at same
          cases same
  | ok config =>
      cases secondConfig : surroundings.config second.config with
      | error failure =>
          rw [firstConfig, secondConfig] at same
          cases same
      | ok other =>
          rw [firstConfig, secondConfig] at same files
          rw [firstConfig] at loaded
          have same : settings config = settings other := Except.ok.inj same
          have theme : (settings config).theme = (settings other).theme := by rw [same]
          change config.theme = other.theme at theme
          dsimp only
          rw [theme]
          have rearranged := grammars_rearranged engine surroundings config other same first.grammars second.grammars
            files documents loaded distinct
          rcases rearranged with ⟨isFirst, isSecond⟩ | ⟨firstGrammars, secondGrammars, isFirst, isSecond, alike⟩
          · rw [isFirst, isSecond]
          · rw [isFirst, isSecond]
            cases second.command with
            | select selector scopes => rfl
            | check => exact check_alike alike
            | tokenize file scope format encoded =>
                simp only [bind, Except.bind, detect_alike alike, tokenize_alike alike]

/-- What a command prints, what it complains about and its status, for files that can all be loaded. -/
theorem grammar_order_irrelevant (firstArguments secondArguments : List String) (first second : Invocation)
    (isFirst : Invocation.parse firstArguments = .ok first) (isSecond : Invocation.parse secondArguments = .ok second)
    (rearranged : first.Rearranged surroundings second) (scopes : List Scope)
    (declared : (surroundings.documents (first.grammarFiles surroundings)).map
      (List.map fun document => document.scopeName) = .ok scopes)
    (distinct : scopes.Nodup) :
    run engine surroundings firstArguments = run engine surroundings secondArguments := by
  rw [run, run, isFirst, isSecond]
  cases loaded : surroundings.documents (first.grammarFiles surroundings) with
  | error failure =>
      rw [loaded] at declared
      cases declared
  | ok documents =>
      rw [loaded] at declared
      cases declared
      have same := run_rearranged engine surroundings first second rearranged documents loaded distinct
      exact congrArg Result.outcome same

end Runs

section Example

-- Two grammars for the same files, one of which includes the other and has it injected.
def mutualFiles : String → Option String
  | "c" => some "[injections]\nx = [\"y\"]\n"
  | "a" => some "\x7b\"scopeName\":\"x\",\"fileTypes\":[\"t\"],\"patterns\":[\x7b\"include\":\"y\"\x7d]\x7d"
  | "b" => some
      "\x7b\"scopeName\":\"y\",\"fileTypes\":[\"t\"],\"injectionSelector\":\"x\",\"patterns\":[\x7b\"match\":\"b\"\x7d]\x7d"
  | "f.t" => some "ab"
  | _ => none

theorem mutual_files_swapped :
    run .backtracking ⟨mutualFiles, "", 56⟩ ["-c", "c", "-g", "a", "-g", "b", "tokenize", "f.t"] =
      run .backtracking ⟨mutualFiles, "", 56⟩ ["-c", "c", "-g", "b", "-g", "a", "tokenize", "f.t"] :=
  grammar_order_irrelevant .backtracking ⟨mutualFiles, "", 56⟩ _ _
    ⟨["a", "b"], some "c", false, .tokenize (some "f.t") none .text false⟩
    ⟨["b", "a"], some "c", false, .tokenize (some "f.t") none .text false⟩ (by decide +kernel) (by decide +kernel)
    ⟨rfl, rfl, by decide +kernel⟩ ["x", "y"] (by decide +kernel) (by decide)

end Example

end LineScope.Cli
