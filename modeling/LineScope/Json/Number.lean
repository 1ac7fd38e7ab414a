set_option autoImplicit false

namespace LineScope.Json

def naturalOf (digits : List Char) : Nat :=
  digits.foldl (fun total c => total * 10 + (c.toNat - '0'.toNat)) 0

structure Numeral where
  negative : Bool
  integer : List Char
  fraction : List Char
  exponent : Option Int
  isDecimal : Bool
deriving DecidableEq, Repr, Inhabited

def exponentOf : List Char → Int
  | '-' :: digits => -(naturalOf digits : Int)
  | '+' :: digits => naturalOf digits
  | digits => naturalOf digits

def Numeral.ofLiteral (literal : List Char) : Numeral :=
  let (negative, unsigned) :=
    match literal with
    | '-' :: rest => (true, rest)
    | rest => (false, rest)
  let integer := unsigned.takeWhile Char.isDigit
  let afterInteger := unsigned.dropWhile Char.isDigit
  let (fraction, afterFraction) :=
    match afterInteger with
    | '.' :: rest => (rest.takeWhile Char.isDigit, rest.dropWhile Char.isDigit)
    | rest => ([], rest)
  let exponent :=
    match afterFraction with
    | [] => none
    | _ :: digits => some (exponentOf digits)
  ⟨negative, integer, fraction, exponent, !afterInteger.isEmpty⟩

-- The magnitude is at least the one that no longer rounds to a finite double.
def Numeral.isTooLarge (numeral : Numeral) : Bool :=
  let digits := numeral.integer ++ numeral.fraction
  let significand := naturalOf digits
  let scale := numeral.exponent.getD 0 - numeral.fraction.length
  let limit := Nat.pow 2 1024 - Nat.pow 2 970
  if significand = 0 then false
  else if scale > 400 then true
  else if scale ≥ 0 then significand * Nat.pow 10 scale.toNat ≥ limit
  else if -scale > digits.length + 400 then false
  else significand ≥ limit * Nat.pow 10 (-scale).toNat

-- The integer that a literal stands for: one without point and exponent that is not minus zero.
def Numeral.integer? (numeral : Numeral) : Option Int :=
  if numeral.isDecimal then none
  else
    let magnitude := naturalOf numeral.integer
    if numeral.negative then if magnitude = 0 then none else some (-(magnitude : Int))
    else some magnitude

end LineScope.Json
