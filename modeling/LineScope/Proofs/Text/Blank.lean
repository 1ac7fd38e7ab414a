import LineScope.Text.CharClass

set_option autoImplicit false

namespace LineScope.Text

def blankCodes : List Nat :=
  [0x9, 0xa, 0xb, 0xc, 0xd, 0x20, 0x85, 0xa0, 0x1680, 0x2000, 0x2001, 0x2002, 0x2003, 0x2004, 0x2005, 0x2006, 0x2007,
    0x2008, 0x2009, 0x200a, 0x2028, 0x2029, 0x202f, 0x205f, 0x3000]

theorem blank_code (c : Char) (blank : isBlank c) : c.toNat ∈ blankCodes := by
  simp only [isBlank, Bool.or_eq_true, Bool.and_eq_true, decide_eq_true_eq, beq_iff_eq] at blank
  simp only [blankCodes, List.mem_cons, List.not_mem_nil, or_false]
  omega

theorem blank_outside (chars : Char → Bool) (outside : ∀ code ∈ blankCodes, chars (Char.ofNat code) = false) (c : Char)
    (blank : isBlank c) : chars c = false := by
  have here := outside c.toNat (blank_code c blank)
  rwa [Char.ofNat_toNat] at here

end LineScope.Text
