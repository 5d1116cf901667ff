/-!
# Finite binary numbers of 64 bits

A number that is not an integer is kept as a finite binary number of 64 bits, held by its sign, its
mantissa and its exponent: `±m · 2 ^ e`.  All arithmetic is done on exact fractions of natural
numbers and rounded once, to the nearest such number and, half way between two, to the one with the
even mantissa.  Nothing here depends on the arithmetic of the machine, so every result can be
computed in a proof.

A decimal text is turned into such a number in two ways.  `ofDecimal?` rounds the decimal itself.
`ofScaled?` rounds after each step instead: first the integer of the leading digits, then its
product with, or quotient by, a power of ten.  The two can differ in the last bit.
-/

set_option autoImplicit false

namespace Pacts

/-- The number `±mantissa · 2 ^ exponent`.  Rounding produces a mantissa of 53 bits, or a smaller
one together with the exponent `-1074`. -/
structure Binary64 where
  negative : Bool
  mantissa : Nat
  exponent : Int
  deriving DecidableEq, Repr, Inhabited

namespace Binary64

/-- The number zero, with a sign. -/
def zero (negative : Bool) : Binary64 := ⟨negative, 0, -1074⟩

/-- Whether the number is zero, of either sign. -/
def isZero (x : Binary64) : Bool := x.mantissa == 0

/-- The fraction `n · 2 ^ e` as a numerator and a denominator. -/
def shifted (n : Nat) (e : Int) : Nat × Nat := (n * Nat.pow 2 e.toNat, Nat.pow 2 (-e).toNat)

/-- The quotient to the nearest integer; half way between two, the even one. -/
def roundDiv (num den : Nat) : Nat :=
  let q := num / den
  let r := num % den
  if 2 * r < den then q else if den < 2 * r then q + 1 else q + q % 2

/-- The exponent for which `num / den` has a mantissa of 53 bits, but not below `-1074`. -/
def exponentFor (num den : Nat) : Int :=
  let e : Int := (Nat.log2 num : Int) - Nat.log2 den - 52
  let small :=
    if 0 ≤ e then num < Nat.pow 2 52 * (den * Nat.pow 2 e.toNat)
    else num * Nat.pow 2 (-e).toNat < Nat.pow 2 52 * den
  max (if small then e - 1 else e) (-1074)

/-- The nearest number to the fraction `num / den`, or `none` when it is too large. -/
def ofRatio? (negative : Bool) (num den : Nat) : Option Binary64 :=
  if num = 0 then some (zero negative)
  else
    let e := exponentFor num den
    let m := roundDiv (num * Nat.pow 2 (-e).toNat) (den * Nat.pow 2 e.toNat)
    let rounded : Binary64 :=
      if m = Nat.pow 2 53 then ⟨negative, Nat.pow 2 52, e + 1⟩ else ⟨negative, m, e⟩
    if 971 < rounded.exponent then none else some rounded

/-- The product, rounded; `none` when it is too large. -/
def mul? (x y : Binary64) : Option Binary64 :=
  let (num, den) := shifted (x.mantissa * y.mantissa) (x.exponent + y.exponent)
  ofRatio? (x.negative != y.negative) num den

/-- The quotient by a number other than zero, rounded; `none` when it is too large. -/
def div? (x y : Binary64) : Option Binary64 :=
  let (num, den) := shifted x.mantissa (x.exponent - y.exponent)
  ofRatio? (x.negative != y.negative) num (den * y.mantissa)

/-- The power of ten nearest to `10 ^ n`; the largest that is finite is `10 ^ 308`. -/
def powerOfTen (n : Nat) : Binary64 := (ofRatio? false (Nat.pow 10 n) 1).getD (zero false)

/-- `digits · 10 ^ exponent`, rounded once.  Four hundred places on either side are more than any
finite number needs. -/
def ofDecimal? (negative : Bool) (digits : Nat) (exponent : Int) : Option Binary64 :=
  let places : Int := (Nat.toDigits 10 digits).length + exponent
  if digits = 0 ∨ places < -400 then some (zero negative)
  else if 400 < places then none
  else ofRatio? negative (digits * Nat.pow 10 exponent.toNat) (Nat.pow 10 (-exponent).toNat)

/-- A number scaled by a power of ten, rounded after each step.  A power below `10 ^ -308` is taken
in steps of that size; two of them leave nothing of an integer of 64 bits, so `steps` may be
small. -/
def scale? : (steps : Nat) → Binary64 → Int → Option Binary64
  | 0, x, _ => some (zero x.negative)
  | steps + 1, x, exponent =>
    if exponent.natAbs ≤ 308 then
      if 0 ≤ exponent then mul? x (powerOfTen exponent.natAbs)
      else div? x (powerOfTen exponent.natAbs)
    else if x.isZero then some x
    else if 0 ≤ exponent then none
    else do
      let smaller ← div? x (powerOfTen 308)
      scale? steps smaller (exponent + 308)

/-- `digits · 10 ^ exponent` for an integer of 64 bits, rounded after each step. -/
def ofScaled? (negative : Bool) (digits : Nat) (exponent : Int) : Option Binary64 := do
  let x ← ofRatio? negative digits 1
  scale? 4 x exponent

/-- Two numbers of the same value: equal, or both zero. -/
def sameValue (x y : Binary64) : Bool := x == y || (x.isZero && y.isZero)

end Binary64

end Pacts
