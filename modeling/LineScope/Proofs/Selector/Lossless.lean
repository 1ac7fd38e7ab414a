import LineScope.Proofs.Selector.Derivation
import LineScope.Proofs.Text.Blank
import LineScope.Proofs.Text.Boundary
import Mathlib.Control.Monad.Basic

set_option autoImplicit false

namespace LineScope.Selector

open Text (byteLength IsBoundary)

def Token.stop (token : Token) : Nat := token.offset + byteLength token.text

def Token.Spelt (token : Token) : Prop :=
  match token.kind with
  | .name => token.text ≠ [] ∧ ∀ c ∈ token.text, isNameContinue c = true
  | .priority priority => priorityMark? token.text = some (priority, [])
  | kind => ∃ c, token.text = [c] ∧ punctuation? c = some kind

def EndsName (rest : List Char) : Prop := ∀ c after, rest = c :: after → isNameContinue c = false

-- The tokens of a text that starts at this offset, with the blanks around them.
inductive Laid : Nat → List Char → List Token → Prop
  | nil (offset : Nat) : Laid offset [] []
  | blank (offset : Nat) (c : Char) (rest : List Char) (list : List Token) (isBlank : Text.isBlank c = true)
      (further : Laid (offset + c.utf8Size) rest list) : Laid offset (c :: rest) list
  | token (token : Token) (rest : List Char) (list : List Token) (spelt : token.Spelt)
      (ended : token.kind = .name → EndsName rest) (further : Laid token.stop rest list) :
      Laid token.offset (token.text ++ rest) (token :: list)

section Spelling

theorem spelt_punctuation (c : Char) (kind : TokenKind) (offset : Nat) (mark : punctuation? c = some kind) :
    Token.Spelt ⟨kind, offset, [c]⟩ := by
  have found := mark
  rw [punctuation?.eq_def] at found
  split at found <;> cases found <;> exact ⟨_, rfl, mark⟩

theorem priority_mark_split (text rest : List Char) (priority : Priority)
    (marked : priorityMark? text = some (priority, rest)) :
    ∃ mark, text = mark ++ rest ∧ priorityMark? mark = some (priority, []) ∧ byteLength mark = 2 ∧ text.take 2 = mark := by
  rw [priorityMark?.eq_def] at marked
  split at marked <;> cases marked <;> exact ⟨[_, ':'], rfl, rfl, by decide, rfl⟩

theorem name_not_blank (c : Char) (continues : isNameContinue c = true) : Text.isBlank c = false := by
  rw [Bool.eq_false_iff]
  intro blank
  have outside := Text.blank_outside isNameContinue (by decide +kernel) c blank
  rw [continues] at outside
  cases outside

theorem punctuation_not_blank (c : Char) (kind : TokenKind) (mark : punctuation? c = some kind) :
    Text.isBlank c = false := by
  rw [punctuation?.eq_def] at mark
  split at mark <;> cases mark <;> decide

theorem spelt_visible (token : Token) (spelt : token.Spelt) :
    token.text ≠ [] ∧ ∀ c ∈ token.text, Text.isBlank c = false := by
  rw [Token.Spelt] at spelt
  split at spelt
  · exact ⟨spelt.1, fun c member => name_not_blank c (spelt.2 c member)⟩
  · generalize token.text = text at spelt ⊢
    rw [priorityMark?.eq_def] at spelt
    split at spelt <;> cases spelt <;> simp [Text.isBlank]
  · obtain ⟨c, isChar, mark⟩ := spelt
    rw [isChar]
    exact ⟨List.cons_ne_nil _ _, List.forall_mem_singleton.mpr (punctuation_not_blank c _ mark)⟩

theorem spelt_stop (token : Token) (spelt : token.Spelt) : token.offset < token.stop := by
  have some := Nat.pos_of_ne_zero fun zero => (spelt_visible token spelt).1 (Text.byte_length_eq_zero zero)
  rw [Token.stop]
  omega

end Spelling

section Lexer

theorem tokens_from_cons (offset : Nat) (c : Char) (rest : List Char) :
    tokensFrom offset (c :: rest) =
      if Text.isBlank c then tokensFrom (offset + c.utf8Size) rest
      else
        match punctuation? c with
        | some kind => do
          let tokens ← tokensFrom (offset + c.utf8Size) rest
          pure (⟨kind, offset, [c]⟩ :: tokens)
        | none =>
          if isNameStart c then do
            let text := c :: rest.takeWhile isNameContinue
            let tokens ← tokensFrom (offset + Text.byteLength text) (rest.dropWhile isNameContinue)
            pure (nameTokens offset text ++ tokens)
          else .error (.unexpectedChar c offset) :=
  tokensFrom.eq_def offset (c :: rest)

theorem name_tokens_laid (offset : Nat) (text rest : List Char) (list : List Token) (some : text ≠ [])
    (continues : ∀ c ∈ text, isNameContinue c = true) (ended : EndsName rest)
    (further : Laid (offset + byteLength text) rest list) : Laid offset (text ++ rest) (nameTokens offset text ++ list) := by
  rw [nameTokens]
  split
  · exact .token ⟨.name, offset, text⟩ rest list ⟨some, continues⟩ (fun _ => ended) further
  · rename_i priority name marked
    obtain ⟨mark, rfl, spelt, length, taken⟩ := priority_mark_split text name priority marked
    rw [Text.byte_length_append, length] at further
    rw [taken, List.append_assoc, List.cons_append]
    refine .token ⟨.priority priority, offset, mark⟩ (name ++ rest) _ spelt (nomatch ·) ?_
    rw [Token.stop, length]
    cases name with
    | nil => exact further
    | cons c name =>
        refine .token ⟨.name, offset + 2, c :: name⟩ rest list ⟨List.cons_ne_nil _ _, ?_⟩ (fun _ => ended) ?_
        · exact fun other member => continues other (List.mem_append_right mark member)
        · rwa [← Nat.add_assoc] at further

theorem ends_name_drop (rest : List Char) : EndsName (rest.dropWhile isNameContinue) := by
  intro c after split
  have first := List.head?_dropWhile_not isNameContinue rest
  rw [split] at first
  simpa using first

theorem tokens_from_laid (offset : Nat) (source : List Char) (list : List Token)
    (lexed : tokensFrom offset source = .ok list) : Laid offset source list := by
  fun_induction tokensFrom offset source generalizing list with
  | case1 offset =>
      cases lexed
      exact .nil offset
  | case2 offset c rest blank ih => exact .blank offset c rest list blank (ih list lexed)
  | case3 offset c rest blank kind mark ih =>
      obtain ⟨others, inner, result⟩ := bind_ok lexed
      cases result
      have spelt := spelt_punctuation c kind offset mark
      refine .token ⟨kind, offset, [c]⟩ rest others spelt ?_ (ih others inner)
      rintro rfl
      rw [punctuation?.eq_def] at mark
      split at mark <;> cases mark
  | case4 offset c rest blank mark begins text ih =>
      obtain ⟨others, inner, result⟩ := bind_ok lexed
      cases result
      have laid := name_tokens_laid offset text (rest.dropWhile isNameContinue) others (List.cons_ne_nil _ _) ?_
        (ends_name_drop rest) (ih others inner)
      · rwa [List.cons_append, List.takeWhile_append_dropWhile] at laid
      · intro other member
        rcases List.mem_cons.mp member with rfl | inRun
        · rw [isNameContinue, begins]
          rfl
        · exact List.all_eq_true.mp List.all_takeWhile other inRun
  | case5 => cases lexed

end Lexer

section Laid

theorem laid_ascend (offset : Nat) (source : List Char) (list : List Token) (laid : Laid offset source list) :
    (∀ token ∈ list, offset ≤ token.offset) ∧ list.Pairwise fun first second => first.stop ≤ second.offset := by
  induction laid with
  | nil offset => exact ⟨by simp, .nil⟩
  | blank offset c rest list isBlank further ih =>
      exact ⟨fun token member => Nat.le_of_add_right_le (ih.1 token member), ih.2⟩
  | token token rest list spelt ended further ih =>
      refine ⟨fun other member => ?_, List.pairwise_cons.mpr ih⟩
      rcases List.mem_cons.mp member with rfl | later
      · exact Nat.le_refl _
      · exact Nat.le_trans (Nat.le_of_lt (spelt_stop token spelt)) (ih.1 other later)

theorem laid_cut (offset : Nat) (source : List Char) (list : List Token) (laid : Laid offset source list) :
    ∀ token ∈ list, token.Spelt ∧ ∃ front back, source = front ++ token.text ++ back ∧
      token.offset = offset + byteLength front ∧ (token.kind = .name → EndsName back) := by
  induction laid with
  | nil offset => simp
  | blank offset c rest list isBlank further ih =>
      intro token member
      obtain ⟨spelt, front, back, rfl, place, ended⟩ := ih token member
      exact ⟨spelt, c :: front, back, rfl, place.trans (Nat.add_assoc _ _ _), ended⟩
  | token first rest list spelt ended further ih =>
      intro token member
      rcases List.mem_cons.mp member with rfl | later
      · exact ⟨spelt, [], rest, rfl, rfl, ended⟩
      · obtain ⟨spelt, front, back, rfl, place, ended⟩ := ih token later
        refine ⟨spelt, first.text ++ front, back, by simp, ?_, ended⟩
        rw [place, Token.stop, Text.byte_length_append, Nat.add_assoc]

theorem laid_name_later (offset : Nat) (source : List Char) (list : List Token) (laid : Laid offset source list)
    (ended : EndsName source) : ∀ token ∈ list, token.kind = .name → offset < token.offset := by
  intro token member isName
  obtain ⟨spelt, front, back, rfl, place, _⟩ := laid_cut offset source list laid token member
  cases front with
  | cons c front =>
      have size := c.utf8Size_pos
      rw [place, byteLength]
      omega
  | nil =>
      rw [Token.Spelt, isName] at spelt
      obtain ⟨c, text, isText⟩ := List.exists_cons_of_ne_nil spelt.1
      have refused := ended c (text ++ back) (by simp [isText])
      rw [spelt.2 c (by simp [isText])] at refused
      cases refused

theorem laid_names_apart (offset : Nat) (source : List Char) (list : List Token) (laid : Laid offset source list) :
    list.Pairwise fun first second => first.kind = .name → second.kind = .name → first.stop < second.offset := by
  induction laid with
  | nil offset => exact .nil
  | blank offset c rest list isBlank further ih => exact ih
  | token token rest list spelt ended further ih =>
      refine List.pairwise_cons.mpr ⟨fun other member isName => ?_, ih⟩
      exact laid_name_later _ rest list further (ended isName) other member

theorem tokens_ascend (source : List Char) (list : List Token) (lexed : tokens source = .ok list) :
    list.Pairwise fun first second => first.offset < second.offset := by
  have laid := tokens_from_laid 0 source list lexed
  refine (laid_ascend 0 source list laid).2.imp_of_mem fun {first second} member _ apart => ?_
  exact Nat.lt_of_lt_of_le (spelt_stop first (laid_cut 0 source list laid first member).1) apart

def Token.Takes (token : Token) (offset : Nat) : Prop := token.offset ≤ offset ∧ offset < token.stop

theorem not_taken_beyond (token : Token) (count : Nat) : ¬ token.Takes (token.stop + count) := by
  rintro ⟨_, inside⟩
  omega

theorem taken_inside (token : Token) (before after : List Char) (c : Char) (isText : token.text = before ++ c :: after) :
    token.Takes (token.offset + byteLength before) := by
  have size := c.utf8Size_pos
  refine ⟨Nat.le_add_right _ _, ?_⟩
  rw [Token.stop, isText, Text.byte_length_append, byteLength]
  omega

theorem laid_blank_iff (offset : Nat) (source : List Char) (list : List Token) (laid : Laid offset source list)
    (before after : List Char) (c : Char) (split : source = before ++ c :: after) :
    Text.isBlank c = true ↔ ∀ token ∈ list, ¬ token.Takes (offset + byteLength before) := by
  induction laid generalizing before with
  | nil offset => simp at split
  | blank offset d rest list isBlank further ih =>
      cases before with
      | nil =>
          cases split
          refine iff_of_true isBlank fun token member takes => ?_
          have later := (laid_ascend _ _ _ further).1 token member
          have size := c.utf8Size_pos
          have reached := takes.1
          rw [byteLength] at reached
          omega
      | cons e before =>
          cases split
          rw [byteLength, ← Nat.add_assoc]
          exact ih before rfl
  | token token rest list spelt ended further ih =>
      have beyond : ∀ middle, before = token.text ++ middle → rest = middle ++ c :: after →
          (Text.isBlank c = true ↔ ∀ other ∈ token :: list, ¬ other.Takes (token.offset + byteLength before)) := by
        rintro middle rfl isRest
        rw [Text.byte_length_append, ← Nat.add_assoc, ← Token.stop, List.forall_mem_cons, ih middle isRest]
        exact (and_iff_right (not_taken_beyond token _)).symm
      -- the character stands behind the first token, or in it
      rcases List.append_eq_append_iff.mp split with ⟨middle, isBefore, isRest⟩ | ⟨middle, isText, isRest⟩
      · exact beyond middle isBefore isRest
      · cases middle with
        | nil => exact beyond [] (by simpa using isText.symm) isRest.symm
        | cons d middle =>
            obtain rfl : c = d := (List.cons.inj isRest).1
            rw [(spelt_visible token spelt).2 c (by simp [isText])]
            have taken := taken_inside token before middle c isText
            exact iff_of_false Bool.false_ne_true fun free => free token List.mem_cons_self taken

end Laid

def Stray (c : Char) : Prop := Text.isBlank c = false ∧ c ∉ [',', '|', '-', '(', ')', '>'] ∧ isNameStart c = false

section Stray

theorem punctuation_none (c : Char) (noMark : punctuation? c = none) : c ∉ [',', '|', '-', '(', ')', '>'] := by
  rw [punctuation?.eq_def] at noMark
  split at noMark <;> simp_all

-- A run that stopped where a text begins stops there whatever part of the text is left.
theorem run_before (rest before after : List Char) (split : rest.dropWhile isNameContinue = before ++ after) :
    (rest.takeWhile isNameContinue ++ before).takeWhile isNameContinue = rest.takeWhile isNameContinue ∧
      (rest.takeWhile isNameContinue ++ before).dropWhile isNameContinue = before := by
  have run : ∀ c ∈ rest.takeWhile isNameContinue, isNameContinue c = true :=
    List.all_eq_true.mp List.all_takeWhile
  rw [List.takeWhile_append_of_pos run, List.dropWhile_append_of_pos run]
  cases before with
  | nil => simp
  | cons c before =>
      have stops := ends_name_drop rest c (before ++ after) split
      simp [stops]

theorem tokens_from_stray (offset : Nat) (source : List Char) (error : ParseError)
    (failed : tokensFrom offset source = .error error) :
    ∃ before c after, source = before ++ c :: after ∧ error = .unexpectedChar c (offset + byteLength before) ∧ Stray c ∧
      ∃ list, tokensFrom offset before = .ok list := by
  fun_induction tokensFrom offset source generalizing error with
  | case1 => cases failed
  | case2 offset c rest blank ih =>
      obtain ⟨before, d, after, rfl, rfl, stray, list, lexed⟩ := ih error failed
      refine ⟨c :: before, d, after, rfl, ?_, stray, list, ?_⟩
      · rw [byteLength, Nat.add_assoc]
      · rwa [tokens_from_cons, if_pos blank]
  | case3 offset c rest blank kind mark ih =>
      rcases bind_error failed with inner | ⟨_, _, failed⟩
      · obtain ⟨before, d, after, rfl, rfl, stray, list, lexed⟩ := ih error inner
        refine ⟨c :: before, d, after, rfl, ?_, stray, ⟨kind, offset, [c]⟩ :: list, ?_⟩
        · rw [byteLength, Nat.add_assoc]
        · rw [tokens_from_cons, if_neg blank, mark]
          simp only [lexed, ok_bind]
          rfl
      · cases failed
  | case4 offset c rest blank mark begins text ih =>
      rcases bind_error failed with inner | ⟨_, _, failed⟩
      · obtain ⟨before, d, after, split, rfl, stray, list, lexed⟩ := ih error inner
        obtain ⟨run, remains⟩ := run_before rest before (d :: after) split
        refine ⟨text ++ before, d, after, ?_, ?_, stray, nameTokens offset text ++ list, ?_⟩
        · rw [List.append_assoc, ← split, List.cons_append, List.takeWhile_append_dropWhile]
        · rw [Text.byte_length_append, Nat.add_assoc]
        · rw [List.cons_append, tokens_from_cons, if_neg blank, mark]
          simp only [begins, if_true, run, remains]
          rw [lexed, ok_bind]
          rfl
      · cases failed
  | case5 offset c rest blank noMark noName =>
      cases failed
      refine ⟨[], c, rest, rfl, rfl, ⟨Bool.eq_false_iff.mpr blank, punctuation_none c noMark, Bool.eq_false_iff.mpr noName⟩, [], ?_⟩
      rw [tokensFrom.eq_def]

end Stray

-- The tokens are those of the text, in its order, and no more is lost than blanks.
structure Lossless (source : List Char) (list : List Token) : Prop where
  spelt : ∀ token ∈ list, token.Spelt
  cut : ∀ token ∈ list, token.offset < token.stop ∧ IsBoundary token.offset source ∧ IsBoundary token.stop source ∧
    Text.slice source token.offset token.stop = token.text
  apart : list.Pairwise fun first second =>
    first.stop ≤ second.offset ∧ (first.kind = .name → second.kind = .name → first.stop < second.offset)
  -- a name takes in all that could belong to it
  longest : ∀ token ∈ list, token.kind = .name → EndsName (Text.dropBytes token.stop source)
  gaps : ∀ before c after, source = before ++ c :: after →
    (Text.isBlank c = true ↔ ∀ token ∈ list, ¬ token.Takes (byteLength before))

theorem laid_lossless (source : List Char) (list : List Token) (laid : Laid 0 source list) : Lossless source list := by
  have cut : ∀ token ∈ list, ∃ front back, source = front ++ token.text ++ back ∧ token.offset = byteLength front ∧
      token.stop = byteLength (front ++ token.text) ∧ (token.kind = .name → EndsName back) := by
    intro token member
    obtain ⟨_, front, back, split, place, ended⟩ := laid_cut 0 source list laid token member
    rw [Nat.zero_add] at place
    exact ⟨front, back, split, place, by rw [Token.stop, place, Text.byte_length_append], ended⟩
  have spelt : ∀ token ∈ list, token.Spelt := fun token member => (laid_cut 0 source list laid token member).1
  refine ⟨spelt, fun token member => ?_, ?_, fun token member isName => ?_, ?_⟩
  · obtain ⟨front, back, rfl, start, stop, _⟩ := cut token member
    refine ⟨spelt_stop token (spelt token member), ?_⟩
    rw [stop, start]
    refine ⟨?_, Text.is_boundary_split _ back, Text.slice_split front token.text back⟩
    rw [List.append_assoc]
    exact Text.is_boundary_split front _
  · exact List.Pairwise.and (laid_ascend 0 source list laid).2 (laid_names_apart 0 source list laid)
  · obtain ⟨front, back, rfl, _, stop, ended⟩ := cut token member
    rw [stop, Text.drop_bytes_split]
    exact ended isName
  · intro before c after split
    have blank := laid_blank_iff 0 source list laid before after c split
    rwa [Nat.zero_add] at blank

theorem lexer_loses_nothing (source : List Char) :
    (∀ list, tokens source = .ok list → Lossless source list) ∧
      ∀ error, tokens source = .error error → ∃ before c after, source = before ++ c :: after ∧
        error = .unexpectedChar c (byteLength before) ∧ Stray c ∧ ∃ list, tokens before = .ok list := by
  refine ⟨fun list lexed => laid_lossless source list (tokens_from_laid 0 source list lexed), fun error failed => ?_⟩
  obtain ⟨before, c, after, split, isError, stray, lexed⟩ := tokens_from_stray 0 source error failed
  rw [Nat.zero_add] at isError
  exact ⟨before, c, after, split, isError, stray, lexed⟩

def accentedText : String := "R:ü-b, >\u2003-é"

def accentedTokens : List Token :=
  [⟨.priority .right, 0, ['R', ':']⟩, ⟨.name, 2, ['ü', '-', 'b']⟩, ⟨.comma, 6, [',']⟩, ⟨.greater, 8, ['>']⟩,
    ⟨.minus, 12, ['-']⟩, ⟨.name, 13, ['é']⟩]

def pricedText : String := "é $b"

theorem accented_texts_accounted_for :
    (tokens accentedText.toList = .ok accentedTokens ∧ Text.slice accentedText.toList 2 6 = ['ü', '-', 'b']) ∧
      tokens pricedText.toList = .error (.unexpectedChar '$' 3) ∧ Stray '$' ∧
        ∃ before after, pricedText.toList = before ++ '$' :: after ∧ byteLength before = 3 ∧
          ∃ list, tokens before = .ok list := by
  have lexed : tokens accentedText.toList = .ok accentedTokens := by decide +kernel
  have failed : tokens pricedText.toList = .error (.unexpectedChar '$' 3) := by decide +kernel
  have lossless := (lexer_loses_nothing accentedText.toList).1 accentedTokens lexed
  obtain ⟨before, c, after, split, isError, stray, others⟩ := (lexer_loses_nothing pricedText.toList).2 _ failed
  obtain ⟨rfl, place⟩ := ParseError.unexpectedChar.inj isError
  refine ⟨⟨lexed, ?_⟩, failed, stray, before, after, split, place.symm, others⟩
  exact (lossless.cut ⟨.name, 2, ['ü', '-', 'b']⟩ (by decide)).2.2.2

end LineScope.Selector
