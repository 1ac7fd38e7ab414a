import LineScope.Proofs.Line.Continuation
import Mathlib.Data.List.Chain

set_option autoImplicit false

namespace LineScope

open Text (byteLength)

namespace Line

section Runs

variable (metadata : ScopeList → Metadata)

-- What the last pair that starts at a byte or before it holds.
def metadataAt (pairs : List (Nat × Metadata)) (byte : Nat) : Option Metadata :=
  (pairs.filter fun pair => pair.1 ≤ byte).getLast?.map Prod.snd

theorem metadata_at_cons (pair : Nat × Metadata) (rest : List (Nat × Metadata)) (byte : Nat) (started : pair.1 ≤ byte) :
    metadataAt (pair :: rest) byte = (metadataAt rest byte).or (some pair.2) := by
  rw [metadataAt, metadataAt, List.filter_cons_of_pos (by simpa using started), List.getLast?_cons]
  cases (rest.filter fun pair => pair.1 ≤ byte).getLast? <;> rfl

theorem metadata_at_before (pairs : List (Nat × Metadata)) (byte : Nat) (later : ∀ pair ∈ pairs, byte < pair.1) :
    metadataAt pairs byte = none := by
  have nothing : pairs.filter (fun pair => pair.1 ≤ byte) = [] :=
    List.filter_eq_nil_iff.mpr fun pair member => by simpa using later pair member
  rw [metadataAt, nothing]
  rfl

open Tokenizer (runsFrom)

variable {start stop : Nat} {tokens : List Token} (consecutive : Consecutive start stop tokens)
  (short : stop ≤ UInt32.size)

theorem runs_from_cons (last : Option Metadata) (token : Token) (rest : List Token) (fits : token.start < UInt32.size) :
    runsFrom metadata last (token :: rest) =
      if last = some (metadata token.scopes) then runsFrom metadata (some (metadata token.scopes)) rest
      else (token.start, metadata token.scopes) :: runsFrom metadata (some (metadata token.scopes)) rest := by
  rw [runsFrom, Nat.mod_eq_of_lt fits]
  by_cases same : last = some (metadata token.scopes)
  · rw [if_pos same, if_pos same, same]
  · rw [if_neg same, if_neg same]

include consecutive short

theorem runs_from_within (last : Option Metadata) : ∀ pair ∈ runsFrom metadata last tokens, start ≤ pair.1 := by
  induction tokens generalizing start last with
  | nil => simp [runsFrom]
  | cons token rest ih =>
      obtain ⟨begins, proper, further⟩ := consecutive
      have ordered := (consecutive_within further).1
      have later : ∀ pair ∈ runsFrom metadata (some (metadata token.scopes)) rest, start ≤ pair.1 := fun pair member =>
        Nat.le_trans (by omega) (ih further _ pair member)
      rw [runs_from_cons metadata last token rest (by omega)]
      split
      · exact later
      · exact List.forall_mem_cons.mpr ⟨Nat.le_of_eq begins.symm, later⟩

theorem runs_from_chain (last : Option Metadata) :
    (runsFrom metadata last tokens).IsChain (fun pair next => pair.1 < next.1 ∧ pair.2 ≠ next.2) ∧
      ∀ pair ∈ (runsFrom metadata last tokens).head?, last ≠ some pair.2 := by
  induction tokens generalizing start last with
  | nil => exact ⟨.nil, by simp [runsFrom]⟩
  | cons token rest ih =>
      obtain ⟨begins, proper, further⟩ := consecutive
      have ordered := (consecutive_within further).1
      obtain ⟨chain, changes⟩ := ih further (some (metadata token.scopes))
      rw [runs_from_cons metadata last token rest (by omega)]
      by_cases same : last = some (metadata token.scopes)
      · rw [if_pos same]
        exact ⟨chain, same ▸ changes⟩
      · rw [if_neg same]
        refine ⟨List.isChain_cons.mpr ⟨fun next isNext => ⟨?_, ?_⟩, chain⟩, ?_⟩
        · have after := runs_from_within metadata further short _ next (List.mem_of_mem_head? isNext)
          exact Nat.lt_of_lt_of_le proper after
        · exact fun equal => changes next isNext (congrArg some equal)
        · rintro pair ⟨⟩
          exact same

-- The metadata of the token at a byte is that of the last pair up to it; before the first pair the run is the one
-- that is going on.
theorem runs_from_at (last : Option Metadata) (byte : Nat) (token : Token) (member : token ∈ tokens)
    (covered : token.covers byte) :
    (metadataAt (runsFrom metadata last tokens) byte).or last = some (metadata token.scopes) := by
  induction tokens generalizing start last with
  | nil => cases member
  | cons head rest ih =>
      obtain ⟨begins, proper, further⟩ := consecutive
      obtain ⟨ordered, inside⟩ := consecutive_within further
      obtain ⟨reached, before⟩ := (covers_iff token byte).mp covered
      have onward : (metadataAt (runsFrom metadata (some (metadata head.scopes)) rest) byte).or
          (some (metadata head.scopes)) = some (metadata token.scopes) := by
        rcases List.mem_cons.mp member with rfl | later
        · rw [metadata_at_before _ byte fun pair listed =>
            Nat.lt_of_lt_of_le before (runs_from_within metadata further short _ pair listed)]
          rfl
        · exact ih further _ later
      have started : head.start ≤ byte := by
        rcases List.mem_cons.mp member with rfl | later
        · exact reached
        · have after := inside token later
          omega
      rw [runs_from_cons metadata last head rest (by omega)]
      by_cases same : last = some (metadata head.scopes)
      · rw [if_pos same, same]
        exact onward
      · rw [if_neg same, metadata_at_cons _ _ byte started, onward]
        rfl

end Runs

end Line

/-- The pairs of a line say the same as its tokens, and the tokens and the stack are those of the line. The line may
start from any stack. -/
theorem encoded_line_faithful (tokenizer : Tokenizer) (memory : Memory) (line : List Char)
    (previous : Option RuleStack) (styling : Styling) (engineSound : tokenizer.engine.Sound)
    (short : byteLength line < UInt32.size) :
    let result := tokenizer.tokenizeEncoded memory line previous styling
    result.line = tokenizer.tokenizeLine memory line previous ∧
      result.pairs.head?.map Prod.fst = some 0 ∧
      result.pairs.IsChain (fun pair next => pair.1 < next.1 ∧ pair.2 ≠ next.2) ∧
      (∀ byte < byteLength line, ∃ token, result.line.tokens.filter (·.covers byte) = [token] ∧
        Line.metadataAt result.pairs byte = some (styling.metadata token.scopes)) ∧
      (line = [] →
        result.pairs = [(0, styling.metadata (previous.getD tokenizer.initialStack).top.contentScopes)]) := by
  intro result
  obtain ⟨order, _⟩ := Line.tokenize_line_consecutive tokenizer engineSound memory line previous
    (fun _ _ => trivial) (Line.ends_on_stack (fun _ => True) _)
  have pairs : result.pairs =
      if (Tokenizer.runsFrom styling.metadata none result.line.tokens).isEmpty then
        [(0, styling.metadata (previous.getD tokenizer.initialStack).top.contentScopes)]
      else Tokenizer.runsFrom styling.metadata none result.line.tokens := rfl
  refine ⟨rfl, ?_⟩
  change Line.Consecutive 0 (byteLength line) result.line.tokens at order
  generalize result.line.tokens = tokens at order pairs ⊢
  rw [pairs]
  cases tokens with
  | nil =>
      have empty : byteLength line = 0 := (order : 0 = byteLength line).symm
      refine ⟨rfl, .singleton _, fun byte below => ?_, fun _ => rfl⟩
      omega
  | cons token rest =>
      have positive := (Line.consecutive_within order).2 token List.mem_cons_self
      have written := Line.runs_from_cons styling.metadata none token rest (by omega)
      rw [if_neg (by simp)] at written
      rw [if_neg (by rw [written]; simp)]
      refine ⟨?_, (Line.runs_from_chain styling.metadata order (Nat.le_of_lt short) none).1, ?_, ?_⟩
      · rw [written]
        exact congrArg some order.1
      · intro byte below
        obtain ⟨found, member, single, covers⟩ := Line.consecutive_covers order byte (Nat.zero_le byte) below
        have lookup := Line.runs_from_at styling.metadata order (Nat.le_of_lt short) none byte found member covers
        exact ⟨found, single, by rwa [Option.or_none] at lookup⟩
      · rintro rfl
        have none : byteLength [] = 0 := rfl
        omega

section Example

def boldInside : Styling where
  language _ := 0
  style scopes := if scopes.contains "inside" then ⟨.bold, 0, 0⟩ else {}

theorem bracket_line_encoded :
    let first := bracketTokenizer.tokenizeLine {} ['<', 'é'] none
    let result := bracketTokenizer.tokenizeEncoded {} ['é', '>', 'a'] (some first.stack) boldInside
    byteLength ['é', '>', 'a'] < UInt32.size ∧ result.line.tokens.length = 3 ∧
      result.pairs = [(0, boldInside.metadata ["bracket", "inside"]), (3, boldInside.metadata ["bracket"])] ∧
      ∃ token, result.line.tokens.filter (·.covers 2) = [token] ∧
        Line.metadataAt result.pairs 2 = some (boldInside.metadata token.scopes) := by
  intro first result
  have short : byteLength ['é', '>', 'a'] < UInt32.size := by decide
  obtain ⟨_, _, _, lookup, _⟩ := encoded_line_faithful bracketTokenizer {} ['é', '>', 'a'] (some first.stack) boldInside
    Pattern.backtracking_sound short
  exact ⟨short, by decide +kernel, by decide +kernel, lookup 2 (by decide)⟩

end Example

end LineScope
