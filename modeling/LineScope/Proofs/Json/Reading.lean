import LineScope.Json.Decode
import LineScope.Json.Reader
import LineScope.Json.Writer

set_option autoImplicit false

namespace LineScope.Json

section Strings

theorem hex_value_digit (digit : Nat) (small : digit < 16) : hexValue? (Nat.digitChar digit) = some digit := by
  decide +revert

theorem hex_digits_low (code : Nat) (small : code < 16) : Text.hexDigits code = [Nat.digitChar code] := by
  decide +revert

theorem hex_digits_high (code : Nat) (small : code < 16) :
    Text.hexDigits (16 + code) = ['1', Nat.digitChar code] := by
  decide +revert

theorem hex_unit_control (high : Char) (top digit : Nat) (isTop : hexValue? high = some top) (small : digit < 16)
    (rest : List Char) :
    hexUnit ('0' :: '0' :: high :: Nat.digitChar digit :: rest) = .ok (top * 16 + digit, rest) := by
  have zero : hexValue? '0' = some 0 := rfl
  simp [hexUnit, zero, isTop, hex_value_digit digit small]

section Characters

variable (fuel : Nat) (decoded : List Char) (c : Char) (rest : List Char)

theorem string_from_plain (notQuote : c ≠ '"') (notBackslash : c ≠ '\\') (notControl : ¬ c.toNat < 0x20) :
    stringFrom (fuel + 1) (some decoded) (c :: rest) = stringFrom fuel (some (c :: decoded)) rest := by
  simp [stringFrom, notQuote, notBackslash, notControl]

theorem string_from_simple (escaped : Char) (isEscape : simpleEscape? escaped = some c) :
    stringFrom (fuel + 1) (some decoded) ('\\' :: escaped :: rest) = stringFrom fuel (some (c :: decoded)) rest := by
  have notUnit : escaped ≠ 'u' := by
    rintro rfl
    cases isEscape
  simp [stringFrom, isEscape]

theorem string_from_unit (digits : List Char) (isUnit : hexUnit digits = .ok (c.toNat, rest)) (low : c.toNat < 0xd800) :
    stringFrom (fuel + 1) (some decoded) ('\\' :: 'u' :: digits) = stringFrom fuel (some (c :: decoded)) rest := by
  have notHigh : ¬ 0xd800 ≤ c.toNat := by omega
  have notLow : ¬ 0xdc00 ≤ c.toNat := by omega
  simp [stringFrom, isUnit, notHigh, notLow, Char.ofNat_toNat]

theorem string_from_char :
    stringFrom (fuel + 1) (some decoded) (writeChar c ++ rest) = stringFrom fuel (some (c :: decoded)) rest := by
  have simple : ∀ special escaped, c = special → simpleEscape? escaped = some special →
      stringFrom (fuel + 1) (some decoded) (['\\', escaped] ++ rest) = stringFrom fuel (some (c :: decoded)) rest :=
    fun special escaped same isEscape => string_from_simple fuel decoded c rest escaped (same ▸ isEscape)
  simp only [writeChar, beq_iff_eq]
  split
  · exact simple '"' '"' ‹_› rfl
  split
  · exact simple '\\' '\\' ‹_› rfl
  split
  · exact simple '\x08' 'b' ‹_› rfl
  split
  · exact simple '\x0c' 'f' ‹_› rfl
  split
  · exact simple '\n' 'n' ‹_› rfl
  split
  · exact simple '\r' 'r' ‹_› rfl
  split
  · exact simple '\t' 't' ‹_› rfl
  split
  · rename_i small
    rw [hex_digits_low c.toNat small]
    have unit := hex_unit_control '0' 0 c.toNat rfl small rest
    exact string_from_unit fuel decoded c rest _ (by simpa using unit) (by omega)
  split
  · rename_i large control
    obtain ⟨code, isCode⟩ := Nat.exists_eq_add_of_le (Nat.le_of_not_lt large)
    have unit := hex_unit_control '1' 1 code rfl (by omega) rest
    rw [isCode, hex_digits_high code (by omega)]
    exact string_from_unit fuel decoded c rest _ (by rw [isCode]; exact unit) (by omega)
  · rename_i notQuote notBackslash _ _ _ _ _ _ notControl
    exact string_from_plain fuel decoded c rest notQuote notBackslash notControl

end Characters

theorem string_from_written (chars : List Char) (fuel : Nat) (decoded rest : List Char)
    (enough : chars.length < fuel) :
    stringFrom fuel (some decoded) (chars.flatMap writeChar ++ '"' :: rest) =
      .text (some (String.ofList (decoded.reverse ++ chars))) rest := by
  induction chars generalizing fuel decoded with
  | nil =>
      obtain ⟨fuel, rfl⟩ := Nat.exists_eq_add_one.mpr enough
      simp [stringFrom]
  | cons c chars ih =>
      obtain ⟨fuel, rfl⟩ := Nat.exists_eq_add_one.mpr (Nat.zero_lt_of_lt enough)
      rw [List.flatMap_cons, List.append_assoc, string_from_char, ih fuel (c :: decoded) (by simpa using enough)]
      simp

theorem write_char_length (c : Char) : 1 ≤ (writeChar c).length := by
  simp only [writeChar]
  repeat' split
  all_goals simp

theorem write_chars_length (chars : List Char) : chars.length ≤ (chars.flatMap writeChar).length := by
  induction chars with
  | nil => exact Nat.le_refl _
  | cons c chars ih =>
      have here := write_char_length c
      rw [List.flatMap_cons, List.length_append, List.length_cons]
      omega

theorem read_string_written (text : String) (rest : List Char) :
    readString (text.toList.flatMap writeChar ++ '"' :: rest) = .text (some text) rest := by
  have longer := write_chars_length text.toList
  rw [readString, string_from_written _ _ _ _ (by rw [List.length_append]; omega)]
  simp

end Strings

section Values

mutual
def Value.Plain : Value → Prop
  | .null | .bool _ => True
  | .text text => text.isSome
  | .array items => items.Plain
  | .object members => members.Plain
  | .number _ | .fault _ _ => False
def Items.Plain : Items → Prop
  | .nil => True
  | .cons head tail => head.Plain ∧ tail.Plain
  | .fault _ => False
def Members.Plain : Members → Prop
  | .nil => True
  | .cons key value tail => key.isSome ∧ value.Plain ∧ tail.Plain
  | .fault _ _ => False
end

theorem skip_blanks_cons (c : Char) (rest : List Char) (dark : isBlank c = false) : skipBlanks (c :: rest) = c :: rest := by
  simp [skipBlanks, dark]

theorem items_write_length (isFirst : Bool) (items : Items) (plain : items.Plain) : 1 ≤ (items.write isFirst).length := by
  cases items with
  | nil => exact Nat.le_refl _
  | cons head tail =>
      have later := items_write_length false tail plain.2
      rw [Items.write, List.length_append]
      omega
  | fault fault => cases plain

theorem members_write_length (isFirst : Bool) (members : Members) (plain : members.Plain) :
    1 ≤ (members.write isFirst).length := by
  cases members with
  | nil => exact Nat.le_refl _
  | cons key value tail =>
      have later := members_write_length false tail plain.2.2
      rw [Members.write, List.length_append]
      omega
  | fault kept skipped => cases plain

theorem value_write_head (value : Value) (plain : value.Plain) :
    ∃ c rest, value.write = c :: rest ∧ isBlank c = false ∧ c ≠ ']' ∧ 1 ≤ rest.length := by
  cases value with
  | null => exact ⟨'n', "ull".toList, rfl, by decide, by decide, by decide⟩
  | bool flag =>
      cases flag with
      | true => exact ⟨'t', "rue".toList, rfl, by decide, by decide, by decide⟩
      | false => exact ⟨'f', "alse".toList, rfl, by decide, by decide, by decide⟩
  | number literal => cases plain
  | text text => exact ⟨'"', _, rfl, by decide, by decide, by simp⟩
  | array items => exact ⟨'[', _, rfl, by decide, by decide, items_write_length true items plain⟩
  | object members => exact ⟨'\x7b', _, rfl, by decide, by decide, members_write_length true members plain⟩
  | fault kept skipped => cases plain

theorem write_string_append (text : String) (rest : List Char) :
    writeString text ++ rest = '"' :: (text.toList.flatMap writeChar ++ '"' :: rest) := by
  simp [writeString]

theorem read_word_written (word rest : List Char) : readWord word (word ++ rest) = .ok rest := by
  induction word with
  | nil => rfl
  | cons c word ih => simp [readWord, ih]

theorem read_items_item (fuel : Nat) (isFirst : Bool) (head : Value) (plain : head.Plain) (rest : List Char) :
    readItems (fuel + 1) isFirst ((if isFirst then [] else [',']) ++ head.write ++ rest) =
      readItem fuel (head.write ++ rest) := by
  obtain ⟨c, others, isWritten, dark, notEnd, _⟩ := value_write_head head plain
  rw [isWritten]
  cases isFirst with
  | true =>
      simp [readItems, skip_blanks_cons c _ dark]
  | false =>
      have comma : isBlank ',' = false := by decide
      simp [readItems, skip_blanks_cons ',' _ comma, skip_blanks_cons c _ dark, notEnd]

theorem read_members_member (fuel : Nat) (isFirst : Bool) (key : String) (rest : List Char) :
    readMembers (fuel + 1) isFirst ((if isFirst then [] else [',']) ++ writeString key ++ rest) =
      readMember fuel (writeString key ++ rest) := by
  have quote : isBlank '"' = false := by decide
  rw [List.append_assoc, write_string_append]
  cases isFirst with
  | true => simp [readMembers, skip_blanks_cons '"' _ quote]
  | false =>
      have comma : isBlank ',' = false := by decide
      simp [readMembers, skip_blanks_cons ',' _ comma, skip_blanks_cons '"' _ quote]

section Kinds

variable (fuel : Nat) (rest : List Char)

theorem read_value_null : readValue (fuel + 1) (Value.null.write ++ rest) = (.null, some rest) := by
  have word := read_word_written "ull".toList rest
  have blank : isBlank 'n' = false := by decide
  rw [show Value.null.write ++ rest = 'n' :: ("ull".toList ++ rest) from rfl, readValue, skip_blanks_cons _ _ blank]
  exact congrArg (valueOfWord .null) word

theorem read_value_bool (flag : Bool) :
    readValue (fuel + 1) ((Value.bool flag).write ++ rest) = (.bool flag, some rest) := by
  cases flag with
  | true =>
      have word := read_word_written "rue".toList rest
      have blank : isBlank 't' = false := by decide
      rw [show (Value.bool true).write ++ rest = 't' :: ("rue".toList ++ rest) from rfl, readValue,
        skip_blanks_cons _ _ blank]
      exact congrArg (valueOfWord (.bool true)) word
  | false =>
      have word := read_word_written "alse".toList rest
      have blank : isBlank 'f' = false := by decide
      rw [show (Value.bool false).write ++ rest = 'f' :: ("alse".toList ++ rest) from rfl, readValue,
        skip_blanks_cons _ _ blank]
      exact congrArg (valueOfWord (.bool false)) word

theorem read_value_text (text : String) :
    readValue (fuel + 1) ((Value.text (some text)).write ++ rest) = (.text (some text), some rest) := by
  have blank : isBlank '"' = false := by decide
  rw [Value.write, Option.getD_some, write_string_append, readValue, skip_blanks_cons _ _ blank]
  simp [read_string_written]

theorem read_value_array (items : Items)
    (inside : readItems fuel true (items.write true ++ rest) = (items, some rest)) :
    readValue (fuel + 1) ((Value.array items).write ++ rest) = (.array items, some rest) := by
  have blank : isBlank '[' = false := by decide
  rw [Value.write, List.cons_append, readValue, skip_blanks_cons _ _ blank]
  simp [inside]

theorem read_value_object (members : Members)
    (inside : readMembers fuel true (members.write true ++ rest) = (members, some rest)) :
    readValue (fuel + 1) ((Value.object members).write ++ rest) = (.object members, some rest) := by
  have blank : isBlank '\x7b' = false := by decide
  rw [Value.write, List.cons_append, readValue, skip_blanks_cons _ _ blank]
  simp [inside]

end Kinds

-- Two calls for every character are enough: a list takes two for each of its values, and a value has
-- two characters at least.
mutual
theorem read_value_written (value : Value) (plain : value.Plain) (fuel : Nat) (rest : List Char)
    (enough : 2 * value.write.length ≤ fuel) : readValue fuel (value.write ++ rest) = (value, some rest) := by
  obtain ⟨c, others, isWritten, _⟩ := value_write_head value plain
  have positive : 0 < fuel := by
    rw [isWritten, List.length_cons] at enough
    omega
  obtain ⟨fuel, rfl⟩ := Nat.exists_eq_add_one.mpr positive
  cases value with
  | null => exact read_value_null fuel rest
  | bool flag => exact read_value_bool fuel rest flag
  | number literal => cases plain
  | text text =>
      obtain ⟨text, rfl⟩ := Option.isSome_iff_exists.mp plain
      exact read_value_text fuel rest text
  | array items =>
      rw [Value.write, List.length_cons] at enough
      exact read_value_array fuel rest items (read_items_written items plain true fuel rest (by omega))
  | object members =>
      rw [Value.write, List.length_cons] at enough
      exact read_value_object fuel rest members (read_members_written members plain true fuel rest (by omega))
  | fault kept skipped => cases plain
theorem read_items_written (items : Items) (plain : items.Plain) (isFirst : Bool) (fuel : Nat) (rest : List Char)
    (enough : 2 * (items.write isFirst).length ≤ fuel) :
    readItems fuel isFirst (items.write isFirst ++ rest) = (items, some rest) := by
  have written := items_write_length isFirst items plain
  obtain ⟨fuel, rfl⟩ := Nat.exists_eq_add_of_le' (show 2 ≤ fuel by omega)
  cases items with
  | nil =>
      have blank : isBlank ']' = false := by decide
      rw [show Items.nil.write isFirst ++ rest = ']' :: rest from rfl, readItems, skip_blanks_cons _ _ blank]
      rfl
  | cons head tail =>
      obtain ⟨c, others, isWritten, _, _, long⟩ := value_write_head head plain.1
      have later := items_write_length false tail plain.2
      have size : head.write.length = others.length + 1 := by rw [isWritten, List.length_cons]
      rw [Items.write, List.length_append, List.length_append] at enough
      rw [Items.write, List.append_assoc, read_items_item (fuel + 1) isFirst head plain.1, readItem,
        read_value_written head plain.1 fuel _ (by omega)]
      dsimp only
      rw [read_items_written tail plain.2 false fuel rest (by omega)]
  | fault fault => cases plain
theorem read_members_written (members : Members) (plain : members.Plain) (isFirst : Bool) (fuel : Nat)
    (rest : List Char) (enough : 2 * (members.write isFirst).length ≤ fuel) :
    readMembers fuel isFirst (members.write isFirst ++ rest) = (members, some rest) := by
  have written := members_write_length isFirst members plain
  obtain ⟨fuel, rfl⟩ := Nat.exists_eq_add_of_le' (show 2 ≤ fuel by omega)
  cases members with
  | nil =>
      have blank : isBlank '\x7d' = false := by decide
      rw [show Members.nil.write isFirst ++ rest = '\x7d' :: rest from rfl, readMembers, skip_blanks_cons _ _ blank]
      rfl
  | cons key value tail =>
      obtain ⟨isKey, plainValue, plainTail⟩ := plain
      obtain ⟨key, rfl⟩ := Option.isSome_iff_exists.mp isKey
      obtain ⟨c, others, isWritten, _, _, long⟩ := value_write_head value plainValue
      have later := members_write_length false tail plainTail
      have size : value.write.length = others.length + 1 := by rw [isWritten, List.length_cons]
      have colon : isBlank ':' = false := by decide
      have quotes : 2 ≤ (writeString key).length := by simp [writeString]
      simp only [Members.write, List.length_append, Option.getD_some] at enough
      rw [Members.write, List.append_assoc, List.append_assoc, List.append_assoc, Option.getD_some,
        read_members_member (fuel + 1) isFirst key, write_string_append, readMember, if_pos (by decide),
        read_string_written]
      simp [skip_blanks_cons _ _ colon, read_value_written value plainValue fuel _ (show _ ≤ fuel by omega),
        read_members_written tail plainTail false fuel rest (show _ ≤ fuel by omega)]
  | fault kept skipped => cases plain
end

theorem read_written (value : Value) (plain : value.Plain) : read value.write = ⟨value, false⟩ := by
  have whole := read_value_written value plain (4 * value.write.length + 4) [] (by omega)
  rw [List.append_nil] at whole
  rw [read, whole]
  rfl

end Values

end LineScope.Json
