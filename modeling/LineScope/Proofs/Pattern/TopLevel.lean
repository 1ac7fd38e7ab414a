import LineScope.Pattern.Parser
import LineScope.Proofs.Pattern.Restriction

/-!
Bars and quantifiers that concern a whole pattern. A bar divides the pattern if it stands in no group, class,
comment or escape. Where it stands is found from left to right without a tree: what has to be remembered is the
classes and groups that are open, and whether blanks and comments count inside each of them. Replacing anchors
changes neither which bars divide a pattern nor whether a quantifier stands somewhere.
-/

set_option autoImplicit false

namespace LineScope.Pattern

section Scanning

-- Where the next character of a pattern stands. A class counts the classes around it.
inductive Place where
  | pattern
  | opened
  | asked
  | options (enable extended : Bool)
  | classStart (depth : Nat)
  | negatedStart (depth : Nat)
  | charClass (depth : Nat)
  | lineComment
  | groupComment
  | divided
  -- What follows belongs to options of its own up to the end of the pattern, or to no pattern.
  | over
deriving DecidableEq, Repr, Inhabited

-- With a place: whether the pattern is extended there, and whether it is so again after each open group.
structure Scan where
  place : Place
  extended : Bool
  outer : List Bool
deriving DecidableEq, Repr, Inhabited

namespace Scan

def between (extended : Bool) (outer : List Bool) : Scan := ⟨.pattern, extended, outer⟩

def within (depth : Nat) (extended : Bool) (outer : List Bool) : Scan := ⟨.charClass depth, extended, outer⟩

def closed (extended : Bool) (outer : List Bool) : Nat → Scan
  | 0 => between extended outer
  | depth + 1 => within depth extended outer

def afterGroup : List Bool → Scan
  | [] => ⟨.over, false, []⟩
  | extended :: outer => between extended outer

def onPattern (extended : Bool) (outer : List Bool) : Char → Scan
  | '(' => ⟨.opened, extended, outer⟩
  | '[' => ⟨.classStart 0, extended, outer⟩
  | ')' => afterGroup outer
  | '|' => if outer.isEmpty then ⟨.divided, extended, outer⟩ else between extended outer
  | '#' => if extended then ⟨.lineComment, extended, outer⟩ else between extended outer
  | _ => between extended outer

-- The letters of an option group, with what they have said so far. Any other character starts the group's pattern.
def onOption (extended : Bool) (outer : List Bool) (enable inside : Bool) : Char → Scan
  | '-' => ⟨.options false inside, extended, outer⟩
  | 'i' => ⟨.options enable inside, extended, outer⟩
  | 'm' => ⟨.options enable inside, extended, outer⟩
  | 'x' => ⟨.options enable enable, extended, outer⟩
  | ':' => between inside (extended :: outer)
  | ')' => if outer.isEmpty then ⟨.over, extended, outer⟩ else between inside outer
  | c => onPattern extended (extended :: outer) c

def onClass (depth : Nat) (extended : Bool) (outer : List Bool) : Char → Scan
  | '[' => ⟨.classStart (depth + 1), extended, outer⟩
  | ']' => closed extended outer depth
  | _ => within depth extended outer

def step (scan : Scan) (c : Char) : Scan :=
  match scan.place with
  | .pattern => onPattern scan.extended scan.outer c
  | .opened =>
    if c = '?' then { scan with place := .asked } else onPattern scan.extended (scan.extended :: scan.outer) c
  | .asked =>
    if c = '#' then { scan with place := .groupComment } else onOption scan.extended scan.outer true scan.extended c
  | .options enable inside => onOption scan.extended scan.outer enable inside c
  | .classStart depth =>
    if c = '^' then { scan with place := .negatedStart depth }
    else if c = ']' then within depth scan.extended scan.outer
    else onClass depth scan.extended scan.outer c
  | .negatedStart depth =>
    if c = ']' then within depth scan.extended scan.outer else onClass depth scan.extended scan.outer c
  | .charClass depth => onClass depth scan.extended scan.outer c
  | .lineComment => if c = '\n' then between scan.extended scan.outer else scan
  | .groupComment => if c = ')' then between scan.extended scan.outer else scan
  | .divided | .over => scan

-- An escape hides what its character means, except that nothing hides the end of a line comment.
def pair (scan : Scan) (c : Char) : Scan := if scan.place = .lineComment then scan.step c else scan.step '\\'

def divides : Scan → List Char → Bool
  | scan, '\\' :: c :: rest => (scan.pair c).divides rest
  | scan, c :: rest => (scan.step c).divides rest
  | scan, [] => scan.place == .divided

end Scan

def isDivided (source : List Char) : Bool := (Scan.between false []).divides source

def found (result : Except ParseError (Option (Quantifier × List Char))) : Bool :=
  match result with
  | .ok (some _) => true
  | _ => false

def isRepeated (rest : List Char) : Bool :=
  match skipIgnored false .nothing rest with
  | .error _ => false
  | .ok rest => found (quantifier rest)

end Scanning

section Restriction

open Scan

variable (anchors : Anchors)

theorem divides_cons (scan : Scan) (c : Char) (rest : List Char) (other : c ≠ '\\') :
    scan.divides (c :: rest) = (scan.step c).divides rest := by
  rw [divides]
  exact fun _ _ same _ => other same

theorem pair_anchor (scan : Scan) (escaped : Char) (anchor : escaped = 'A' ∨ escaped = 'G') :
    scan.pair escaped = scan.step neverMatches := by
  obtain ⟨place, extended, outer⟩ := scan
  rcases anchor with rfl | rfl <;> cases place <;> rfl

theorem divides_restricted (scan : Scan) (text : List Char) :
    scan.divides (restrictAnchors anchors text) = scan.divides text := by
  fun_induction restrictAnchors anchors text generalizing scan with
  | case1 escaped rest forbidden ih =>
      rw [divides_cons scan neverMatches _ (by decide), ih, divides,
        pair_anchor scan escaped (forbids_anchor anchors escaped forbidden)]
  | case2 escaped rest allowed ih => rw [divides, divides, ih]
  | case3 c rest apart ih =>
      by_cases backslash : c = '\\'
      · cases rest with
        | nil => rfl
        | cons d rest => exact absurd rfl (apart d rest backslash)
      · rw [divides_cons scan c _ backslash, divides_cons scan c _ backslash, ih]
  | case4 => rfl

theorem skip_nothing (c : Char) (rest : List Char) (apart : ∀ after, c = '(' → rest = '?' :: '#' :: after → False) :
    skipIgnored false .nothing (c :: rest) = .ok (c :: rest) := by
  rw [skipIgnored]
  · rfl
  · exact apart

theorem skip_restricted (skipping : Skipping) (text : List Char) (zone : skipping ≠ .lineComment) :
    skipIgnored false skipping (restrictAnchors anchors text) =
      (skipIgnored false skipping text).map (restrictAnchors anchors) := by
  fun_induction skipIgnored false skipping text with
  | case1 rest ih =>
      rw [restrict_plain _ _ _ (by decide), restrict_plain _ _ _ (by decide), restrict_plain _ _ _ (by decide),
        skipIgnored]
      exact ih (by decide)
  | case2 c rest apart blank => cases blank
  | case3 c rest apart blank comment => cases comment
  | case4 c rest apart blank comment =>
      cases restricted : restrictAnchors anchors (c :: rest) with
      | nil => simp [Except.map, restricted, skipIgnored]
      | cons d after =>
          rw [skip_nothing d after ?_, Except.map, restricted]
          rintro later rfl rfl
          obtain ⟨_, same, first⟩ := restricted_head anchors _ _ _ (by decide) (by decide) restricted
          obtain ⟨_, rfl, second⟩ := restricted_head anchors _ _ _ (by decide) (by decide) first.symm
          obtain ⟨_, rfl, _⟩ := restricted_head anchors _ _ _ (by decide) (by decide) second.symm
          obtain ⟨rfl, rfl⟩ := List.cons.inj same
          exact apart _ rfl rfl
  | case5 | case6 => exact absurd rfl zone
  | case7 escaped rest ih =>
      rw [restrictAnchors]
      split
      · rw [skipIgnored]
        · exact ih zone
        · intro _ _ same
          cases same
        · intro same
          cases same
      · rw [skipIgnored]
        exact ih zone
  | case8 rest ih =>
      rw [restrict_plain _ _ _ (by decide), skipIgnored]
      exact ih (by decide)
  | case9 c rest apart unclosed ih =>
      by_cases backslash : c = '\\'
      · cases rest with
        | nil => exact backslash ▸ rfl
        | cons d rest => exact absurd rfl (apart d rest backslash)
      · rw [restrict_plain _ _ _ backslash, skipIgnored]
        · exact ih zone
        · exact fun _ _ same _ => backslash same
        · exact unclosed
  | case10 => rfl
  | case11 skipping apart =>
      cases skipping with
      | nothing => rfl
      | lineComment => exact absurd rfl zone
      | groupComment => exact absurd rfl apart

theorem interval_found (text : List Char) :
    found (interval text) ↔
      readNumber 10 (text.takeWhile Char.isDigit) ≤ repeatLimit ∧
        ((∃ rest, text.dropWhile Char.isDigit = '\x7d' :: rest ∧ text.takeWhile Char.isDigit ≠ []) ∨
          ∃ upper, text.dropWhile Char.isDigit = ',' :: upper ∧
            readNumber 10 (upper.takeWhile Char.isDigit) ≤ repeatLimit ∧
            (text.takeWhile Char.isDigit ≠ [] ∨ upper.takeWhile Char.isDigit ≠ []) ∧
            ∃ rest, upper.dropWhile Char.isDigit = '\x7d' :: rest ∧ True) := by
  rw [interval]
  generalize text.dropWhile Char.isDigit = after
  generalize text.takeWhile Char.isDigit = lower
  by_cases big : readNumber 10 lower > repeatLimit
  · simp only [if_pos big]
    exact iff_of_false Bool.false_ne_true fun small => Nat.not_le.mpr big small.1
  simp only [if_neg big, Nat.not_lt.mp big, true_and]
  split
  · rename_i upper
    generalize tail : upper.dropWhile Char.isDigit = after
    generalize digits : upper.takeWhile Char.isDigit = most
    by_cases large : readNumber 10 most > repeatLimit
    · simp only [if_pos large]
      refine iff_of_false Bool.false_ne_true ?_
      rintro (⟨_, same, _⟩ | ⟨_, same, small, _⟩)
      · cases same
      · cases same
        exact Nat.not_le.mpr large (digits ▸ small)
    · have small : readNumber 10 (upper.takeWhile Char.isDigit) ≤ repeatLimit := digits ▸ Nat.not_lt.mp large
      simp only [if_neg large]
      split
      · rename_i rest
        cases lower with
        | cons first lower =>
            have written : first :: lower ≠ [] := List.cons_ne_nil _ _
            exact iff_of_true (by cases most <;> rfl) (.inr ⟨upper, rfl, small, .inl written, rest, tail, trivial⟩)
        | nil =>
            cases most with
            | cons first most =>
                have written : upper.takeWhile Char.isDigit ≠ [] := digits ▸ List.cons_ne_nil _ _
                exact iff_of_true rfl (.inr ⟨upper, rfl, small, .inr written, rest, tail, trivial⟩)
            | nil =>
                refine iff_of_false Bool.false_ne_true ?_
                rintro (⟨_, same, _⟩ | ⟨_, same, _, written, _⟩)
                · cases same
                · cases same
                  exact written.elim (absurd rfl) fun written => written digits
      · rename_i unclosed
        refine iff_of_false Bool.false_ne_true ?_
        rintro (⟨_, same, _⟩ | ⟨_, same, _, _, rest, closes, _⟩)
        · cases same
        · cases same
          exact unclosed rest (tail ▸ closes)
  · cases lower <;> simp [found, pure, Except.pure]
  · rename_i apart other
    refine iff_of_false Bool.false_ne_true ?_
    rintro (⟨rest, same, _⟩ | ⟨upper, same, _⟩)
    · exact other rest same
    · exact apart upper same

theorem interval_restricted (text : List Char) :
    found (interval (restrictAnchors anchors text)) = found (interval text) := by
  have runs := fun text => restricted_runs anchors Char.isDigit text (by decide) (by decide)
  rw [Bool.eq_iff_iff, interval_found, interval_found, (runs text).1, (runs text).2,
    restricted_starts anchors _ _ (by decide) (by decide), restricted_starts anchors _ _ (by decide) (by decide)]
  simp only [(runs _).1, (runs _).2, restricted_starts anchors _ _ (by decide : '\x7d' ≠ '\\') (by decide)]

theorem quantifier_found (c : Char) (rest : List Char) :
    found (quantifier (c :: rest)) = (c == '*' || c == '+' || c == '?' || c == '\x7b' && found (interval rest)) := by
  unfold quantifier
  split
  case h_1 | h_2 | h_3 | h_4 =>
    rename_i same
    cases same
    rfl
  case h_5 star plus mark brace =>
    have others : ∀ d, (∀ after, c :: rest = d :: after → False) → (c == d) = false := fun d apart =>
      beq_eq_false_iff_ne.mpr fun same => apart rest (same ▸ rfl)
    rw [others '*' star, others '+' plus, others '?' mark, others '\x7b' brace]
    rfl

theorem quantifier_restricted (text : List Char) :
    found (quantifier (restrictAnchors anchors text)) = found (quantifier text) := by
  fun_cases restrictAnchors anchors text with
  | case1 escaped rest forbidden => simp [quantifier_found, neverMatches]
  | case2 escaped rest allowed => simp [quantifier_found]
  | case3 c rest apart => rw [quantifier_found, quantifier_found, interval_restricted]
  | case4 => rfl

theorem repeated_restricted (rest : List Char) : isRepeated (restrictAnchors anchors rest) = isRepeated rest := by
  rw [isRepeated, isRepeated, skip_restricted anchors .nothing rest (by decide)]
  cases skipIgnored false .nothing rest with
  | error error => rfl
  | ok after => exact quantifier_restricted anchors after

end Restriction

end LineScope.Pattern
