import LineScope.Metadata
import Mathlib.Data.Nat.Bitwise

set_option autoImplicit false

namespace LineScope

section Bits

theorem or_shifted (below value low : Nat) (fits : below < 2 ^ low) :
    below ||| value <<< low = below + value * 2 ^ low := by
  rw [Nat.shiftLeft_eq, Nat.mul_comm value, Nat.lor_comm, ← Nat.two_pow_add_eq_or_of_lt fits, Nat.add_comm]

theorem masked_shifted (value low width : Nat) :
    value <<< low &&& (2 ^ width - 1) <<< low = (value % 2 ^ width) <<< low := by
  rw [← Nat.shiftLeft_and_distrib, Nat.and_two_pow_sub_one_eq_mod]

theorem shifted_word (value low : UInt32) (small : low.toNat < 32) (fits : value.toNat * 2 ^ low.toNat < 2 ^ 32) :
    (value <<< low).toNat = value.toNat <<< low.toNat := by
  rw [UInt32.toNat_shiftLeft, Nat.mod_eq_of_lt small, Nat.shiftLeft_eq, Nat.mod_eq_of_lt fits]

-- All bits but bit 10.
theorem cleared_unused (word : Nat) : word &&& 0xfffffbff = word % 0x400 + word / 0x800 % 0x200000 * 0x800 := by
  have above : (word &&& 0xfffffbff) / 2 ^ 11 = word / 2 ^ 11 % 2 ^ 21 := by
    rw [Nat.and_div_two_pow, ← Nat.and_two_pow_sub_one_eq_mod]
  have below : (word &&& 0xfffffbff) % 2 ^ 11 = word % 2 ^ 11 % 2 ^ 10 := by
    rw [Nat.and_mod_two_pow, ← Nat.and_two_pow_sub_one_eq_mod (word % 2 ^ 11)]
  omega

theorem unused_bit (word : Nat) : word &&& 0x400 = word / 0x400 % 2 * 0x400 := by
  have above : (word &&& 0x400) / 2 ^ 10 = word / 2 ^ 10 % 2 ^ 1 := by
    rw [Nat.and_div_two_pow, ← Nat.and_two_pow_sub_one_eq_mod]
  have below : (word &&& 0x400) % 2 ^ 10 = 0 := by
    rw [Nat.and_mod_two_pow]
    exact Nat.and_zero _
  omega

end Bits

namespace TokenType

theorem code_lt (type : TokenType) : type.code < 4 := by cases type <;> decide

theorem of_code (type : TokenType) : ofCode type.code = type := by cases type <;> rfl

theorem code_of (code : Nat) (bound : code < 4) : (ofCode code).code = code := by
  rcases code with _ | _ | _ | _ | code
  all_goals first | rfl | omega

end TokenType

-- What a word keeps of a style: the four styles there are, and nine bits of the foreground.
def TokenStyle.stored (style : TokenStyle) : TokenStyle :=
  ⟨⟨style.font.bits &&& 0xf⟩, style.foreground &&& 0x1ff, style.background⟩

namespace Metadata

def style (metadata : Metadata) : TokenStyle := ⟨metadata.font, metadata.foreground, metadata.background⟩

section Fields

variable (language : UInt8) (type : TokenType) (style : TokenStyle)

theorem stored_font : style.stored.font.bits.toNat = style.font.bits.toNat % 0x10 := by
  rw [TokenStyle.stored, UInt8.toNat_and]
  exact Nat.and_two_pow_sub_one_eq_mod _ 4

theorem stored_foreground : style.stored.foreground.toNat = style.foreground.toNat % 0x200 := by
  rw [TokenStyle.stored, UInt16.toNat_and]
  exact Nat.and_two_pow_sub_one_eq_mod _ 9

theorem pack_word : (pack language type style).bits.toNat =
    language.toNat + type.code * 0x100 + style.stored.font.bits.toNat * 0x800 +
      style.stored.foreground.toNat * 0x8000 + style.background.toNat * 0x1000000 := by
  have languageFits := language.toNat_lt
  have typeFits := type.code_lt
  have backgroundFits := style.background.toNat_lt
  rw [stored_font, stored_foreground, pack]
  refine UInt32.toNat_ofNat_of_lt' ?_
  have size : UInt32.size = 2 ^ 32 := rfl
  omega

theorem pack_masked : (pack language type style).bits =
    language.toUInt32 ||| UInt32.ofNat type.code <<< 8 ||| (style.font.bits.toUInt32 <<< 11 &&& (0x7800 : UInt32)) |||
      (style.foreground.toUInt32 <<< 15 &&& (0xff8000 : UInt32)) ||| style.background.toUInt32 <<< 24 := by
  have languageFits := language.toNat_lt
  have typeFits := type.code_lt
  have fontFits := style.font.bits.toNat_lt
  have foregroundFits := style.foreground.toNat_lt
  have backgroundFits := style.background.toNat_lt
  have code : (UInt32.ofNat type.code).toNat = type.code :=
    UInt32.toNat_ofNat_of_lt' (Nat.lt_of_lt_of_le typeFits (by decide))
  have typePlace : (UInt32.ofNat type.code <<< 8).toNat = type.code <<< 8 := by
    rw [shifted_word _ 8 (by decide) (by rw [code]; change _ * 2 ^ 8 < _; omega), code]
    rfl
  have fontPlace : (style.font.bits.toUInt32 <<< 11 &&& (0x7800 : UInt32)).toNat =
      style.stored.font.bits.toNat <<< 11 := by
    rw [UInt32.toNat_and, shifted_word _ 11 (by decide) (by rw [UInt8.toNat_toUInt32]; change _ * 2 ^ 11 < _; omega),
      UInt8.toNat_toUInt32, stored_font]
    exact masked_shifted _ 11 4
  have foregroundPlace : (style.foreground.toUInt32 <<< 15 &&& (0xff8000 : UInt32)).toNat =
      style.stored.foreground.toNat <<< 15 := by
    rw [UInt32.toNat_and, shifted_word _ 15 (by decide) (by rw [UInt16.toNat_toUInt32]; change _ * 2 ^ 15 < _; omega),
      UInt16.toNat_toUInt32, stored_foreground]
    exact masked_shifted _ 15 9
  have backgroundPlace : (style.background.toUInt32 <<< 24).toNat = style.background.toNat <<< 24 := by
    rw [shifted_word _ 24 (by decide) (by rw [UInt8.toNat_toUInt32]; change _ * 2 ^ 24 < _; omega),
      UInt8.toNat_toUInt32]
    rfl
  have font := stored_font style
  have foreground := stored_foreground style
  apply UInt32.toNat_inj.mp
  rw [pack_word, UInt32.toNat_or, UInt32.toNat_or, UInt32.toNat_or, UInt32.toNat_or, typePlace, fontPlace,
    foregroundPlace, backgroundPlace, UInt8.toNat_toUInt32, or_shifted _ _ 8 (by omega), or_shifted _ _ 11 (by omega),
    or_shifted _ _ 15 (by omega), or_shifted _ _ 24 (by omega)]
  omega

theorem pack_language : (pack language type style).language = language := by
  have fits := language.toNat_lt
  rw [Metadata.language, pack_word]
  apply UInt8.toNat_inj.mp
  rw [UInt8.toNat_ofNat']
  omega

theorem pack_type : (pack language type style).type = type := by
  have languageFits := language.toNat_lt
  have typeFits := type.code_lt
  rw [Metadata.type, pack_word]
  refine (congrArg TokenType.ofCode ?_).trans type.of_code
  omega

theorem pack_style : (pack language type style).style = style.stored := by
  have languageFits := language.toNat_lt
  have typeFits := type.code_lt
  have storedFont := stored_font style
  have storedForeground := stored_foreground style
  have backgroundFits := style.background.toNat_lt
  have font : (pack language type style).font = style.stored.font := by
    rw [Metadata.font, pack_word]
    refine congrArg FontStyle.mk (UInt8.toNat_inj.mp (Eq.trans ?_ storedFont.symm))
    rw [UInt8.toNat_ofNat']
    omega
  have foreground : (pack language type style).foreground = style.stored.foreground := by
    rw [Metadata.foreground, pack_word]
    apply UInt16.toNat_inj.mp
    rw [UInt16.toNat_ofNat']
    omega
  have background : (pack language type style).background = style.background := by
    rw [Metadata.background, pack_word]
    apply UInt8.toNat_inj.mp
    rw [UInt8.toNat_ofNat']
    omega
  rw [Metadata.style, font, foreground, background]
  rfl

theorem pack_unused : (pack language type style).bits &&& 0x400 = 0 := by
  have languageFits := language.toNat_lt
  have typeFits := type.code_lt
  apply UInt32.toNat_inj.mp
  rw [UInt32.toNat_and, pack_word]
  refine (unused_bit _).trans ?_
  change _ = 0
  omega

theorem pack_stored : pack language type style.stored = pack language type style := by
  have font : style.stored.stored.font.bits.toNat = style.stored.font.bits.toNat := by
    rw [stored_font, stored_font, Nat.mod_mod]
  have foreground : style.stored.stored.foreground.toNat = style.stored.foreground.toNat := by
    rw [stored_foreground, stored_foreground, Nat.mod_mod]
  have word : (pack language type style.stored).bits = (pack language type style).bits := by
    apply UInt32.toNat_inj.mp
    rw [pack_word, pack_word, font, foreground]
    rfl
  exact congrArg Metadata.mk word

theorem pack_eq_iff (otherLanguage : UInt8) (otherType : TokenType) (other : TokenStyle) :
    pack language type style = pack otherLanguage otherType other ↔
      language = otherLanguage ∧ type = otherType ∧ style.stored = other.stored := by
  constructor
  · intro same
    refine ⟨?_, ?_, ?_⟩
    · rw [← pack_language language type style, same, pack_language]
    · rw [← pack_type language type style, same, pack_type]
    · rw [← pack_style language type style, same, pack_style]
  · rintro ⟨rfl, rfl, same⟩
    rw [← pack_stored, same, pack_stored]

end Fields

theorem pack_read (word : Metadata) : (pack word.language word.type word.style).bits = word.bits &&& ~~~0x400 := by
  have fits := word.bits.toNat_lt
  have language : word.language.toNat = word.bits.toNat % 0x100 := by
    rw [Metadata.language, UInt8.toNat_ofNat']
    omega
  have type : word.type.code = word.bits.toNat / 0x100 % 4 := TokenType.code_of _ (Nat.mod_lt _ (by decide))
  have font : word.style.stored.font.bits.toNat = word.bits.toNat / 0x800 % 0x10 := by
    rw [stored_font, Metadata.style, Metadata.font, UInt8.toNat_ofNat']
    omega
  have foreground : word.style.stored.foreground.toNat = word.bits.toNat / 0x8000 % 0x200 := by
    rw [stored_foreground, Metadata.style, Metadata.foreground, UInt16.toNat_ofNat']
    omega
  have background : word.style.background.toNat = word.bits.toNat / 0x1000000 := by
    rw [Metadata.style, Metadata.background, UInt8.toNat_ofNat']
    omega
  apply UInt32.toNat_inj.mp
  rw [pack_word, language, type, font, foreground, background, UInt32.toNat_and]
  refine Eq.trans ?_ (cleared_unused _).symm
  omega

end Metadata

/-- The fields of a word are its own: none of them is changed by another, however large, and bit 10 is always zero. -/
theorem packed_fields_read_back :
    (∀ language type style, let packed := Metadata.pack language type style
      packed.bits = language.toUInt32 ||| UInt32.ofNat type.code <<< 8 |||
          (style.font.bits.toUInt32 <<< 11 &&& (0x7800 : UInt32)) |||
          (style.foreground.toUInt32 <<< 15 &&& (0xff8000 : UInt32)) ||| style.background.toUInt32 <<< 24 ∧
        packed.language = language ∧ packed.type = type ∧ packed.font.bits = style.font.bits &&& 0xf ∧
        packed.foreground = style.foreground &&& 0x1ff ∧ packed.background = style.background ∧
        packed.bits &&& 0x400 = 0) ∧
      (∀ word : Metadata, Metadata.pack word.language word.type word.style = ⟨word.bits &&& ~~~0x400⟩) ∧
      ∀ language type style otherLanguage otherType other,
        Metadata.pack language type style = Metadata.pack otherLanguage otherType other ↔
          language = otherLanguage ∧ type = otherType ∧ style.stored = other.stored := by
  refine ⟨fun language type style => ?_, fun word => congrArg Metadata.mk word.pack_read, Metadata.pack_eq_iff⟩
  have stored := Metadata.pack_style language type style
  exact ⟨Metadata.pack_masked language type style, Metadata.pack_language language type style,
    Metadata.pack_type language type style, congrArg (fun style => style.font.bits) stored,
    congrArg TokenStyle.foreground stored, congrArg TokenStyle.background stored,
    Metadata.pack_unused language type style⟩

end LineScope
