import LineScope.Proofs.Pattern.Inert

/-!
The parser reads a pattern in step with a scan: whatever a scan finds from where a reading starts, it finds from
where the reading ends. So a bar at which the parser ends the first alternative of a pattern divides the pattern.
-/

set_option autoImplicit false

namespace LineScope.Pattern

open Scan (between within closed)

section Comments

variable (extended : Bool) (outer : List Bool)

theorem divides_line_comment (c : Char) (rest : List Char) :
    Scan.divides ⟨.lineComment, extended, outer⟩ (c :: rest) =
      (Scan.step ⟨.lineComment, extended, outer⟩ c).divides rest := by
  by_cases backslash : c = '\\'
  · subst backslash
    induction rest with
    | nil => rfl
    | cons d rest ih =>
        have pair : Scan.divides ⟨.lineComment, extended, outer⟩ ('\\' :: d :: rest) =
            (Scan.step ⟨.lineComment, extended, outer⟩ d).divides rest := by
          rw [Scan.divides]
          rfl
        rw [pair]
        by_cases further : d = '\\'
        · subst further
          exact ih.symm
        · exact (divides_cons _ d rest further).symm
  · rw [divides_cons _ c rest backslash]

def Skipping.place : Skipping → Place
  | .nothing => .pattern
  | .lineComment => .lineComment
  | .groupComment => .groupComment

theorem skip_scanned (skipping : Skipping) (text rest : List Char)
    (skipped : skipIgnored extended skipping text = .ok rest) :
    Scan.divides ⟨skipping.place, extended, outer⟩ text = (between extended outer).divides rest := by
  fun_induction skipIgnored extended skipping text with
  | case1 after ih =>
      rw [divides_cons _ _ _ (by decide), divides_cons _ _ _ (by decide), divides_cons _ _ _ (by decide)]
      exact ih skipped
  | case2 c after apart blank ih =>
      have inert := inert_of isFreeBlank (by decide) c (Bool.and_eq_true_iff.mp blank).2
      rw [← ih skipped]
      exact divides_skimmed (between extended outer) (inert_between extended outer)
        (skims_cons c inert (skims_refl after))
  | case3 c after apart blank comment ih =>
      obtain ⟨rfl, mark⟩ := Bool.and_eq_true_iff.mp comment
      rw [beq_iff_eq.mp mark, divides_cons _ _ _ (by decide)]
      exact ih skipped
  | case4 c after apart blank comment =>
      cases skipped
      rfl
  | case5 after ih =>
      rw [← ih skipped]
      exact divides_line_comment extended outer '\n' after
  | case6 c after other ih =>
      have stays : Scan.step ⟨.lineComment, extended, outer⟩ c = ⟨.lineComment, extended, outer⟩ := if_neg other
      rw [← ih skipped]
      exact (divides_line_comment extended outer c after).trans (by rw [stays]; rfl)
  | case7 escaped after ih =>
      rw [← ih skipped, Scan.divides]
      rfl
  | case8 after ih =>
      rw [← ih skipped, divides_cons _ _ _ (by decide)]
      rfl
  | case9 c after apart unclosed ih =>
      have stays : Scan.step ⟨.groupComment, extended, outer⟩ c = ⟨.groupComment, extended, outer⟩ := if_neg unclosed
      rw [← ih skipped, Scan.divides]
      · exact congrArg (Scan.divides · after) stays
      · exact apart
  | case10 => cases skipped
  | case11 skipping apart =>
      cases skipped
      cases skipping <;> rfl

theorem skip_stops (skipping : Skipping) (text rest : List Char) (c : Char)
    (skipped : skipIgnored extended skipping text = .ok (c :: rest)) : (extended && c == '#') = false := by
  fun_induction skipIgnored extended skipping text with
  | case4 d after apart blank comment =>
      cases skipped
      exact Bool.eq_false_iff.mpr comment
  | case10 => cases skipped
  | case11 => cases skipped
  | case1 _ ih | case2 _ _ _ _ ih | case3 _ _ _ _ _ ih | case5 _ ih | case6 _ _ _ ih | case7 _ _ ih | case8 _ ih
  | case9 _ _ _ _ ih => exact ih skipped

theorem quantify_scanned (options : Options) (fuel : Nat) (node result : Node) (text rest : List Char)
    (read : quantify options fuel node text = .ok (result, rest)) :
    (between options.extended outer).divides text = (between options.extended outer).divides rest := by
  induction fuel generalizing node text with
  | zero =>
      cases read
      rfl
  | succ fuel ih =>
      rw [quantify] at read
      obtain ⟨after, skipped, read⟩ := bind_ok read
      obtain ⟨found, quantified, read⟩ := bind_ok read
      refine (skip_scanned options.extended outer .nothing text after skipped).trans ?_
      cases found with
      | none =>
          cases read
          rfl
      | some found =>
          obtain ⟨found, last⟩ := found
          dsimp only at read
          split at read
          · cases read
          · have skims := quantifier_skims after last found quantified
            rw [divides_skimmed _ (inert_between options.extended outer) skims]
            exact ih _ last read

end Comments

section Classes

variable (extended : Bool) (outer : List Bool)

theorem plain_within (depth : Nat) (c : Char) (opening : c ≠ '[') (closing : c ≠ ']') :
    (within depth extended outer).step c = within depth extended outer := by
  simp only [Scan.step, within, Scan.onClass]

theorem divides_negated (depth : Nat) (text : List Char) (unclosed : ∀ rest, text ≠ ']' :: rest) :
    Scan.divides ⟨.negatedStart depth, extended, outer⟩ text = (within depth extended outer).divides text :=
  divides_as _ _ text (by simp) (by simp [within]) rfl fun c rest same =>
    if_neg fun closing => unclosed rest (by rw [same, closing])

theorem divides_start (depth : Nat) (text : List Char) (unclosed : ∀ rest, text ≠ ']' :: rest)
    (plain : ∀ rest, text ≠ '^' :: rest) :
    Scan.divides ⟨.classStart depth, extended, outer⟩ text = (within depth extended outer).divides text :=
  divides_as _ _ text (by simp) (by simp [within]) rfl fun c rest same =>
    (if_neg fun caret => plain rest (by rw [same, caret])).trans
      (if_neg fun closing => unclosed rest (by rw [same, closing]))

theorem bracket_name_split (text name rest : List Char) (found : bracketName text = some (name, rest)) :
    text = name ++ ':' :: ']' :: rest := by
  fun_induction bracketName text generalizing name with
  | case1 => cases found
  | case2 => cases found; rfl
  | case3 => cases found
  | case4 c after apart other ih =>
      obtain ⟨⟨inner, last⟩, split, same⟩ := Option.map_eq_some_iff.mp found
      cases same
      rw [ih inner split]
      rfl

theorem bracket_class_inert (name : List Char) (set : CharSet) (known : bracketClass name = .ok set) :
    ∀ c ∈ name, isInert c := by
  unfold bracketClass at known
  split at known
  rename_i negative bare written
  split at known
  · rename_i found lookup
    obtain ⟨entry, listed, same⟩ := lookup_known _ _ _ lookup
    have inert := same ▸ known_names_inert entry (List.mem_append_left _ listed)
    split at written
    · cases written
      exact List.forall_mem_cons.mpr ⟨by decide, inert⟩
    · cases written
      exact inert
  · cases known

mutual

theorem class_body_scanned (fuel depth : Nat) (text rest : List Char) (set : CharSet)
    (read : classBody fuel text = .ok (set, rest)) :
    Scan.divides ⟨.classStart depth, extended, outer⟩ text = (closed extended outer depth).divides rest := by
  match fuel with
  | 0 => cases read
  | fuel + 1 =>
      unfold classBody at read
      split at read
      rename_i negative body written
      dsimp only at read
      split at read
      · rename_i after
        split at read
        · obtain ⟨⟨state, items⟩, _, read⟩ := bind_ok read
          obtain ⟨⟨inner, last⟩, contents, read⟩ := bind_ok read
          cases read
          have scanned := class_items_scanned fuel depth state _ _ inner after last contents
          split at written
          · cases written
            rw [divides_cons _ _ _ (by decide), divides_cons _ _ _ (by decide)]
            exact scanned
          · cases written
            rw [divides_cons _ _ _ (by decide)]
            exact scanned
        · cases read
      · rename_i unclosed
        obtain ⟨⟨inner, last⟩, contents, read⟩ := bind_ok read
        cases read
        have scanned := class_items_scanned fuel depth .start _ _ inner body last contents
        split at written
        · cases written
          rw [divides_cons _ _ _ (by decide)]
          exact (divides_negated extended outer depth _ unclosed).trans scanned
        · rename_i plain
          cases written
          exact (divides_start extended outer depth _ unclosed plain).trans scanned

theorem class_items_scanned (fuel depth : Nat) (state : ClassState) (limit items set : CharSet) (text rest : List Char)
    (read : classItems fuel state limit items text = .ok (set, rest)) :
    (within depth extended outer).divides text = (closed extended outer depth).divides rest := by
  match fuel, text with
  | 0, _ => cases read
  | fuel + 1, [] => cases read
  | fuel + 1, c :: text =>
      have skimmed : ∀ {text rest : List Char}, Skims text rest →
          (within depth extended outer).divides text = (within depth extended outer).divides rest :=
        divides_skimmed _ (inert_within extended outer depth)
      unfold classItems at read
      split at read
      -- The end of the class.
      · cases read
        rw [divides_cons _ _ _ (by decide)]
        rfl
      -- A dash.
      · obtain ⟨⟨state, items⟩, _, read⟩ := bind_ok read
        rw [skimmed (skims_cons '-' (by decide) (skims_refl text))]
        exact class_items_scanned fuel depth state limit items set text rest read
      -- One ampersand or two.
      · rw [skimmed (skims_cons '&' (by decide) (skims_refl text))]
        split at read
        · rename_i after
          rw [skimmed (skims_cons '&' (by decide) (skims_refl after))]
          exact class_items_scanned fuel depth .start _ _ set after rest read
        · obtain ⟨⟨state, items⟩, _, read⟩ := bind_ok read
          exact class_items_scanned fuel depth state limit items set text rest read
      -- An opening bracket: the name of a class, or a class in the class.
      · rw [divides_cons _ _ _ (by decide)]
        have nested : ∀ {action : Except ParseError (CharSet × List Char)}, action = classBody fuel text →
            (do
              let (inner, after) ← action
              classItems fuel .complete limit (.union items inner) after) = .ok (set, rest) →
            Scan.divides ⟨.classStart (depth + 1), extended, outer⟩ text = (closed extended outer depth).divides rest := by
          rintro _ rfl read
          obtain ⟨⟨inner, after⟩, body, read⟩ := bind_ok read
          exact (class_body_scanned fuel (depth + 1) text after inner body).trans
            (class_items_scanned fuel depth .complete limit _ set after rest read)
        split at read
        · rename_i named
          split at read
          · rename_i name after found
            obtain ⟨inner, known, read⟩ := bind_ok read
            obtain ⟨⟨state, items⟩, _, read⟩ := bind_ok read
            have skims := skims_append name (bracket_class_inert name inner known)
              (skims_cons ':' (by decide) (skims_refl (']' :: after)))
            refine Eq.trans ?_ (class_items_scanned fuel depth state limit items set after rest read)
            rw [bracket_name_split named name after found, divides_cons _ _ _ (by decide)]
            exact (divides_skimmed _ (inert_within extended outer (depth + 1)) skims).trans
              (divides_cons _ _ _ (by decide))
          · exact nested rfl read
        · exact nested rfl read
      -- A backslash and what it escapes.
      · split at read
        · cases read
        · rename_i escaped after
          obtain ⟨⟨escape, last⟩, taken, read⟩ := bind_ok read
          have skims := skimmed (class_escape_skims escaped after last escape taken)
          rw [Scan.divides]
          refine skims.trans ?_
          dsimp only at read
          split at read
          · obtain ⟨⟨state, items⟩, _, read⟩ := bind_ok read
            exact class_items_scanned fuel depth state limit items set last rest read
          · obtain ⟨⟨state, items⟩, _, read⟩ := bind_ok read
            exact class_items_scanned fuel depth state limit items set last rest read
      -- Any other character.
      · rename_i closing dash ampersand opening backslash
        obtain ⟨⟨state, items⟩, _, read⟩ := bind_ok read
        rw [divides_cons _ _ _ backslash, plain_within extended outer depth c opening closing]
        exact class_items_scanned fuel depth state limit items set text rest read

end

end Classes

section Groups

variable (extended : Bool) (outer : List Bool)

def Ends (rest : List Char) : Prop := rest = [] ∨ ∃ after, rest = ')' :: after

theorem divides_settled (scan : Scan) (text : List Char) (stays : ∀ c, scan.step c = scan) :
    scan.divides text = (scan.place == .divided) := by
  fun_induction Scan.divides scan text with
  | case1 scan c rest ih =>
      have same : scan.pair c = scan := by rw [Scan.pair, stays, stays, ite_self]
      rw [same] at ih ⊢
      exact ih stays
  | case2 scan c rest apart ih =>
      rw [stays] at ih ⊢
      exact ih stays
  | case3 scan => rfl

theorem ends_undivided (rest : List Char) (ends : Ends rest) : (between extended []).divides rest = false := by
  rcases ends with rfl | ⟨after, rfl⟩
  · rfl
  · rw [divides_cons _ _ _ (by decide)]
    exact divides_settled _ after fun _ => rfl

theorem ends_extended (other : Bool) (rest : List Char) (ends : Ends rest) :
    (between extended outer).divides rest = (between other outer).divides rest := by
  rcases ends with rfl | ⟨after, rfl⟩
  · rfl
  · rw [divides_cons _ _ _ (by decide), divides_cons _ _ _ (by decide)]
    rfl

-- Whatever groups are around: a scan that starts before the text finds what one finds that goes on with the rest.
def Tracks (start stop : List Bool → Scan) (text rest : List Char) : Prop :=
  ∀ outer, (start outer).divides text = (stop outer).divides rest

theorem tracks_trans {start middle stop : List Bool → Scan} {text left rest : List Char}
    (first : Tracks start middle text left) (second : Tracks middle stop left rest) : Tracks start stop text rest :=
  fun outer => (first outer).trans (second outer)

theorem skims_tracks {text rest : List Char} (skims : Skims text rest) :
    Tracks (between extended) (between extended) text rest := fun outer =>
  divides_skimmed _ (inert_between extended outer) skims

def Scan.opened (extended : Bool) (outer : List Bool) : Scan := ⟨.opened, extended, outer⟩

def Scan.inside (around extended : Bool) (outer : List Bool) : Scan := between extended (around :: outer)

open Scan (opened inside)

theorem opened_plain (rest : List Char) (plain : ∀ after, rest ≠ '?' :: after) :
    Tracks (opened extended) (inside extended extended) rest rest := fun outer =>
  divides_as (opened extended outer) (inside extended extended outer) rest (by simp [opened]) (by simp [inside, between])
    rfl fun c after same => if_neg fun mark => plain after (by rw [same, mark])

theorem opened_asked (c : Char) (text rest : List Char) (form : c ∈ ":=!><\x27".toList)
    (starts : text = '?' :: c :: rest) : Tracks (opened extended) (inside extended extended) text rest := by
  intro outer
  have other : c ≠ '\\' := fun same => absurd (same ▸ form) (by decide)
  rw [starts, divides_cons _ _ _ (by decide), divides_cons _ _ _ other]
  simp only [String.reduceToList, List.mem_cons, List.not_mem_nil, or_false] at form
  rcases form with rfl | rfl | rfl | rfl | rfl | rfl <;> rfl

theorem opened_behind (c : Char) (text rest : List Char) (inert : isInert c) (starts : text = '?' :: '<' :: c :: rest) :
    Tracks (opened extended) (inside extended extended) text rest :=
  tracks_trans (opened_asked extended '<' text (c :: rest) (by decide) starts) fun outer =>
    divides_skimmed _ (inert_between extended (extended :: outer)) (skims_cons c inert (skims_refl rest))

theorem opened_name (c stop : Char) (text named name rest : List Char) (form : c ∈ ":=!><\x27".toList)
    (mark : isInert stop) (starts : text = '?' :: c :: named) (read : groupName stop named = .ok (name, rest)) :
    Tracks (opened extended) (inside extended extended) text rest :=
  tracks_trans (opened_asked extended c text named form starts) fun outer =>
    divides_skimmed _ (inert_between extended (extended :: outer)) (group_name_inert stop named name rest mark read).2

theorem option_letters_scanned (options within : Options) (enable isolated : Bool) (text rest : List Char)
    (read : optionLetters options enable text = .ok (within, isolated, rest)) :
    Scan.divides ⟨.options enable options.extended, extended, outer⟩ text =
      if isolated then
        if outer.isEmpty then false else (between within.extended outer).divides rest
      else (inside extended within.extended outer).divides rest := by
  fun_induction optionLetters options enable text with
  | case1 => cases read
  | case2 options enable rest =>
      cases read
      rw [divides_cons _ _ _ (by decide)]
      cases outer with
      | nil => exact divides_settled _ rest fun _ => rfl
      | cons flag outer => rfl
  | case3 options enable rest =>
      cases read
      rw [divides_cons _ _ _ (by decide)]
      rfl
  | case4 options enable rest ih | case5 options enable rest ih | case6 options enable rest ih
  | case7 options enable rest ih =>
      rw [divides_cons _ _ _ (by decide)]
      exact ih read
  | case8 => cases read

-- What stands after the question mark is letters, since a comment has no options.
theorem opened_options (options within : Options) (isolated : Bool) (text rest : List Char)
    (read : optionLetters options true text = .ok (within, isolated, rest)) :
    (opened options.extended outer).divides ('?' :: text) =
      if isolated then
        if outer.isEmpty then false else (between within.extended outer).divides rest
      else (inside options.extended within.extended outer).divides rest := by
  rw [divides_cons _ _ _ (by decide), ← option_letters_scanned options.extended outer options within true isolated text
    rest read]
  refine divides_as _ _ text (by simp [Scan.step, opened]) (by simp) rfl fun c after same => if_neg ?_
  rintro rfl
  rw [same] at read
  cases read

mutual

theorem alternation_scanned (fuel : Nat) (options : Options) (reader after : Reader) (node : Node)
    (tame : Tame reader.names) (read : alternation fuel options reader = .ok (node, after)) :
    Tame after.names ∧ Ends after.rest ∧
      ∀ around, Tracks (inside around options.extended) (inside around options.extended) reader.rest after.rest := by
  match fuel with
  | 0 => cases read
  | fuel + 1 =>
      rw [alternation] at read
      obtain ⟨⟨nodes, middle⟩, first, read⟩ := bind_ok read
      obtain ⟨middleTame, stops, scanned⟩ := branch_scanned fuel options reader middle nodes tame first
      dsimp only at read
      split at read
      · rename_i rest bar
        obtain ⟨⟨others, last⟩, second, read⟩ := bind_ok read
        cases read
        obtain ⟨lastTame, ends, further⟩ :=
          alternation_scanned fuel options ⟨rest, middle.opened, middle.names⟩ last others middleTame second
        refine ⟨lastTame, ends, fun around outer => ((scanned (around :: outer)).trans ?_).trans (further around outer)⟩
        rw [bar, divides_cons _ _ _ (by decide)]
        rfl
      · rename_i undivided
        cases read
        refine ⟨middleTame, stops.resolve_right ?_, fun around outer => scanned (around :: outer)⟩
        rintro ⟨rest, bar⟩
        exact undivided rest bar

theorem branch_scanned (fuel : Nat) (options : Options) (reader after : Reader) (nodes : List Node)
    (tame : Tame reader.names) (read : branch fuel options reader = .ok (nodes, after)) :
    Tame after.names ∧ (Ends after.rest ∨ ∃ rest, after.rest = '|' :: rest) ∧
      Tracks (between options.extended) (between options.extended) reader.rest after.rest := by
  match fuel with
  | 0 => cases read
  | fuel + 1 =>
      rw [branch] at read
      obtain ⟨rest, skipped, read⟩ := bind_ok read
      have skips : Tracks (between options.extended) (between options.extended) reader.rest rest := fun outer =>
        skip_scanned options.extended outer .nothing reader.rest rest skipped
      dsimp only at read
      split at read
      · cases read
        exact ⟨tame, .inl (.inl rfl), skips⟩
      · rename_i c text
        split at read
        · rename_i stop
          cases read
          refine ⟨tame, ?_, skips⟩
          rcases Bool.or_eq_true_iff.mp stop with bar | closing
          · exact .inr ⟨text, by rw [beq_iff_eq.mp bar]⟩
          · exact .inl (.inr ⟨text, by rw [beq_iff_eq.mp closing]⟩)
        · rename_i goesOn
          simp only [Bool.or_eq_true, beq_iff_eq, not_or] at goesOn
          obtain ⟨⟨node, middle⟩, one, read⟩ := bind_ok read
          obtain ⟨⟨repeated, left⟩, quantified, read⟩ := bind_ok read
          obtain ⟨⟨others, last⟩, more, read⟩ := bind_ok read
          cases read
          have mark := skip_stops options.extended .nothing reader.rest text c skipped
          obtain ⟨middleTame, first⟩ :=
            atom_scanned fuel options ⟨text, reader.opened, reader.names⟩ middle node c goesOn.2 goesOn.1 mark tame one
          have quantifiers : Tracks (between options.extended) (between options.extended) middle.rest left := fun outer =>
            quantify_scanned outer options fuel node repeated middle.rest left quantified
          obtain ⟨lastTame, ends, further⟩ :=
            branch_scanned fuel options ⟨left, middle.opened, middle.names⟩ last others middleTame more
          exact ⟨lastTame, ends, tracks_trans skips (tracks_trans first (tracks_trans quantifiers further))⟩

theorem atom_scanned (fuel : Nat) (options : Options) (reader after : Reader) (node : Node) (c : Char)
    (closing : c ≠ ')') (bar : c ≠ '|') (mark : (options.extended && c == '#') = false) (tame : Tame reader.names)
    (read : atom fuel options reader c = .ok (node, after)) :
    Tame after.names ∧
      Tracks (between options.extended) (between options.extended) (c :: reader.rest) after.rest := by
  match fuel with
  | 0 => cases read
  | fuel + 1 =>
      have plain : c ≠ '(' → c ≠ '[' → c ≠ '\\' →
          Tracks (between options.extended) (between options.extended) (c :: reader.rest) reader.rest := by
        intro opening bracket backslash outer
        rw [divides_cons _ _ _ backslash, plain_between options.extended outer c opening bracket closing bar]
        rw [mark]
        exact Bool.false_ne_true
      unfold atom at read
      split at read
      · obtain ⟨last, scanned⟩ := group_scanned fuel options reader after node tame read
        refine ⟨last, fun outer => ?_⟩
        rw [divides_cons _ _ _ (by decide)]
        exact scanned outer
      · obtain ⟨⟨set, rest⟩, body, read⟩ := bind_ok read
        cases read
        refine ⟨tame, fun outer => ?_⟩
        rw [divides_cons _ _ _ (by decide)]
        exact class_body_scanned options.extended outer _ 0 reader.rest rest set body
      · cases read
        exact ⟨tame, plain (by decide) (by decide) (by decide)⟩
      · cases read
        exact ⟨tame, plain (by decide) (by decide) (by decide)⟩
      · cases read
        exact ⟨tame, plain (by decide) (by decide) (by decide)⟩
      · split at read
        · cases read
        · rename_i escaped rest written
          obtain ⟨skims, names⟩ := escape_node_skims options reader after escaped rest node tame read
          refine ⟨names ▸ tame, fun outer => ?_⟩
          rw [written, Scan.divides]
          exact skims_tracks options.extended skims outer
      · rename_i opening bracket _ _ _ backslash
        obtain ⟨found, _, read⟩ := bind_ok read
        cases found with
        | some found => cases read
        | none =>
            cases read
            exact ⟨tame, plain opening bracket backslash⟩

theorem group_scanned (fuel : Nat) (options : Options) (reader after : Reader) (node : Node)
    (tame : Tame reader.names) (read : group fuel options reader = .ok (node, after)) :
    Tame after.names ∧ Tracks (opened options.extended) (between options.extended) reader.rest after.rest := by
  match fuel with
  | 0 => cases read
  | fuel + 1 =>
      have contained : ∀ (inner last : Reader) (found : Node), Tame inner.names →
          Tracks (opened options.extended) (inside options.extended options.extended) reader.rest inner.rest →
          enclosed fuel options inner = .ok (found, last) →
          Tame last.names ∧ Tracks (opened options.extended) (between options.extended) reader.rest last.rest := by
        intro inner last found innerTame starts contents
        obtain ⟨lastTame, scanned⟩ := enclosed_scanned fuel options inner last found innerTame contents
        exact ⟨lastTame, tracks_trans starts (scanned options.extended)⟩
      -- What a group is read as counts for nothing here.
      have wrapped : ∀ (inner : Reader) (wrap : Node → Node), Tame inner.names →
          Tracks (opened options.extended) (inside options.extended options.extended) reader.rest inner.rest →
          (do
            let (found, last) ← enclosed fuel options inner
            pure (wrap found, last)) = .ok (node, after) →
          Tame after.names ∧ Tracks (opened options.extended) (between options.extended) reader.rest after.rest := by
        intro inner wrap innerTame starts read
        obtain ⟨⟨found, last⟩, contents, read⟩ := bind_ok read
        cases read
        exact contained inner after found innerTame starts contents
      unfold group at read
      dsimp only at read
      split at read
      case h_1 rest starts =>
        exact contained ⟨rest, _, _⟩ after node tame (opened_asked _ ':' _ rest (by decide) starts) read
      case h_2 rest starts =>
        exact wrapped ⟨rest, _, _⟩ (.ahead false) tame (opened_asked _ '=' _ rest (by decide) starts) read
      case h_3 rest starts =>
        exact wrapped ⟨rest, _, _⟩ (.ahead true) tame (opened_asked _ '!' _ rest (by decide) starts) read
      case h_4 rest starts =>
        exact wrapped ⟨rest, _, _⟩ .atomic tame (opened_asked _ '>' _ rest (by decide) starts) read
      case h_5 rest starts =>
        exact wrapped ⟨rest, _, _⟩ (.behind false 0) tame (opened_behind _ '=' _ rest (by decide) starts) read
      case h_6 rest starts =>
        exact wrapped ⟨rest, _, _⟩ (.behind true 0) tame (opened_behind _ '!' _ rest (by decide) starts) read
      case h_7 named _ _ starts =>
        split at read
        · cases read
        · obtain ⟨⟨name, rest⟩, called, read⟩ := bind_ok read
          exact wrapped ⟨rest, _, _⟩ (.group _ true) (named_tame _ tame '>' named name rest _ (by decide) called)
            (opened_name _ '<' '>' _ named name rest (by decide) (by decide) starts called) read
      case h_8 named starts =>
        obtain ⟨⟨name, rest⟩, called, read⟩ := bind_ok read
        exact wrapped ⟨rest, _, _⟩ (.group _ true) (named_tame _ tame '\x27' named name rest _ (by decide) called)
          (opened_name _ '\x27' '\x27' _ named name rest (by decide) (by decide) starts called) read
      case h_9 => cases read
      case h_10 text _ _ _ _ _ _ _ _ _ starts =>
        obtain ⟨⟨within, isolated, rest⟩, letters, read⟩ := bind_ok read
        have scanned := fun outer => opened_options outer options within isolated text rest letters
        dsimp only at read
        split at read
        · rename_i alone
          obtain ⟨lastTame, ends, further⟩ :=
            alternation_scanned fuel within ⟨rest, reader.opened, reader.names⟩ after node tame read
          refine ⟨lastTame, fun outer => ?_⟩
          rw [starts, scanned, if_pos alone]
          cases outer with
          | nil => exact (ends_undivided options.extended after.rest ends).symm
          | cons around outer => exact (further around outer).trans (ends_extended within.extended _ _ after.rest ends)
        · rename_i enclosing
          obtain ⟨lastTame, further⟩ :=
            enclosed_scanned fuel within ⟨rest, reader.opened, reader.names⟩ after node tame read
          refine ⟨lastTame, fun outer => ?_⟩
          rw [starts, scanned, if_neg enclosing]
          exact further options.extended outer
      case h_11 =>
        rename_i plain
        exact wrapped ⟨reader.rest, reader.opened + 1, _⟩ (.group _ false) tame
          (opened_plain options.extended reader.rest plain) read

theorem enclosed_scanned (fuel : Nat) (options : Options) (reader after : Reader) (node : Node)
    (tame : Tame reader.names) (read : enclosed fuel options reader = .ok (node, after)) :
    Tame after.names ∧
      ∀ around, Tracks (inside around options.extended) (between around) reader.rest after.rest := by
  match fuel with
  | 0 => cases read
  | fuel + 1 =>
      rw [enclosed] at read
      obtain ⟨⟨inner, middle⟩, contents, read⟩ := bind_ok read
      obtain ⟨middleTame, ends, scanned⟩ := alternation_scanned fuel options reader middle inner tame contents
      dsimp only at read
      split at read
      · rename_i rest closing
        cases read
        refine ⟨middleTame, fun around outer => (scanned around outer).trans ?_⟩
        rw [closing, divides_cons _ _ _ (by decide)]
        rfl
      · cases read

end

end Groups

end LineScope.Pattern
