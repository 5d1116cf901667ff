import Pacts.Number.Binary64

/-!
# The shortest decimal of a binary number

A binary number is written with the fewest decimal digits that read back as the same number.  The
decimals that read back are those of an interval around the number, whose ends lie half way to its
two neighbours and belong to it when the mantissa is even.  For one digit, two digits, and so on up
to seventeen, the two decimals of that many digits next to the number are tried; the first count
for which one of them lies in the interval wins, of two the nearer one, and of two equally near the
even one.

Everything is compared by cross multiplication of natural numbers.
-/

set_option autoImplicit false

namespace Pacts

/-- The decimal `digits · 10 ^ exponent`. -/
structure Decimal where
  digits : Nat
  exponent : Int
  deriving DecidableEq, Repr

namespace Decimal

/-- The fraction `n · 10 ^ e` as a numerator and a denominator. -/
def fraction (n : Nat) (e : Int) : Nat × Nat := (n * Nat.pow 10 e.toNat, Nat.pow 10 (-e).toNat)

/-- Trailing zeros moved from the digits to the exponent; `fuel` bounds their number. -/
def stripZeros : Nat → Decimal → Decimal
  | 0, d => d
  | fuel + 1, d =>
    if d.digits ≠ 0 ∧ d.digits % 10 = 0 then stripZeros fuel ⟨d.digits / 10, d.exponent + 1⟩ else d

end Decimal

namespace Binary64

/-- The number, and the ends of the interval that rounds to it, in quarters of its last place.  The
neighbour below a power of two is only half as far as the one above. -/
def quarters (x : Binary64) : Nat × Nat × Nat :=
  let low := if x.mantissa = Nat.pow 2 52 ∧ -1074 < x.exponent then 4 * x.mantissa - 1
    else 4 * x.mantissa - 2
  (4 * x.mantissa, low, 4 * x.mantissa + 2)

/-- Moves `p` to the number of digits in front of the decimal point of `num / den`, that is to
`10 ^ (p - 1) ≤ num / den < 10 ^ p`, in at most `fuel` steps. -/
def adjustPlaces (num den : Nat) : Nat → Int → Int
  | 0, p => p
  | fuel + 1, p =>
    if den * Nat.pow 10 p.toNat ≤ num * Nat.pow 10 (-p).toNat then
      adjustPlaces num den fuel (p + 1)
    else if num * Nat.pow 10 (1 - p).toNat < den * Nat.pow 10 (p - 1).toNat then
      adjustPlaces num den fuel (p - 1)
    else p

/-- The number of digits in front of the decimal point of `num / den`; it is negative or zero for
a fraction below one tenth.  The logarithm to base two gives it up to one or two. -/
def places (num den : Nat) : Int :=
  let bits : Int := (Nat.log2 num : Int) - Nat.log2 den
  adjustPlaces num den 4 (bits * 30103 / 100000)

/-- The better of the two decimals of the grid `10 ^ q` next to the positive number, if one of them
rounds to it. -/
def onGrid (x : Binary64) (q : Int) : Option Decimal :=
  let (mid, low, high) := x.quarters
  let (unitNum, unitDen) := shifted 1 (x.exponent - 2)
  let (gridNum, gridDen) := Decimal.fraction 1 q
  -- a quarter of the last place is `a`, and a step of the grid is `b`, in a common unit
  let a := unitNum * gridDen
  let b := gridNum * unitDen
  let below := mid * a / b
  let inside := fun n : Nat =>
    if x.mantissa % 2 = 0 then decide (low * a ≤ n * b ∧ n * b ≤ high * a)
    else decide (low * a < n * b ∧ n * b < high * a)
  let toBelow := mid * a - below * b
  let toAbove := (below + 1) * b - mid * a
  let below? := inside below && below != 0
  if below? && inside (below + 1) then
    if toBelow < toAbove then some ⟨below, q⟩
    else if toAbove < toBelow then some ⟨below + 1, q⟩
    else some ⟨below + below % 2, q⟩
  else if below? then some ⟨below, q⟩
  else if inside (below + 1) then some ⟨below + 1, q⟩
  else none

/-- The first grid, from `count` digits on, that holds a decimal for the number. -/
def firstGrid (x : Binary64) (p : Int) : (fuel : Nat) → (count : Nat) → Decimal
  | 0, count => ⟨0, p - count⟩
  | fuel + 1, count =>
    match x.onGrid (p - count) with
    | some d => d
    | none => firstGrid x p fuel (count + 1)

/-- The shortest decimal that reads back as the magnitude of the number. -/
def shortest (x : Binary64) : Decimal :=
  if x.isZero then ⟨0, 0⟩
  else
    let (num, den) := shifted x.mantissa x.exponent
    Decimal.stripZeros 20 (x.firstGrid (places num den) 17 1)

end Binary64

/-- How a decimal is written when it is very large or very small. -/
structure ExponentStyle where
  /-- Whether an exponent that is not negative carries a plus sign. -/
  plusSign : Bool

namespace Binary64

/-- The text of a number.  From `10 ^ -5` up to but not including `10 ^ 16` it is written in full
with at least one decimal place; outside, with one digit in front of the point and an exponent. -/
def text (style : ExponentStyle) (x : Binary64) : String :=
  let sign := if x.negative then "-" else ""
  if x.isZero then sign ++ "0.0"
  else
    let d := x.shortest
    let ds := Nat.toDigits 10 d.digits
    let point : Int := ds.length + d.exponent
    let body :=
      if 0 ≤ d.exponent ∧ point ≤ 16 then
        String.ofList (ds ++ List.replicate d.exponent.toNat '0') ++ ".0"
      else if 0 < point ∧ point ≤ 16 then
        String.ofList (ds.take point.toNat ++ '.' :: ds.drop point.toNat)
      else if -5 < point ∧ point ≤ 0 then
        "0." ++ String.ofList (List.replicate (-point).toNat '0' ++ ds)
      else
        let fraction := match ds.drop 1 with
          | [] => []
          | rest => '.' :: rest
        let power := point - 1
        String.ofList (ds.take 1 ++ fraction) ++ "e" ++
          (if power < 0 then "-" else if style.plusSign then "+" else "") ++ toString power.natAbs
    sign ++ body

end Binary64

end Pacts
