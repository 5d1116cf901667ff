/-!
# Labels in plain letters

A label of a host name with characters beyond the first 128 is sent in plain letters, digits and
hyphens.  The plain characters come first; behind the last hyphen stand, as numbers in a mixed
radix, the steps from one insertion of another character to the next.  The radix adapts to the size
of the steps.

Encoding takes the other characters in ascending order, and each of them at its places from left to
right.  Decoding undoes this insertion by insertion.
-/

set_option autoImplicit false

namespace Pacts.Url.Punycode

/-- The digit of a value below 36. -/
def digitChar (d : Nat) : Char := if d < 26 then Char.ofNat (97 + d) else Char.ofNat (22 + d)

/-- The value of a digit. -/
def digitValue? (c : Char) : Option Nat :=
  if 'a' ≤ c ∧ c ≤ 'z' then some (c.toNat - 97)
  else if 'A' ≤ c ∧ c ≤ 'Z' then some (c.toNat - 65)
  else if '0' ≤ c ∧ c ≤ '9' then some (c.toNat - 22)
  else none

/-- The weight limit of the digit at place `k`. -/
def threshold (k bias : Nat) : Nat :=
  if k ≤ bias + 1 then 1 else if bias + 26 ≤ k then 26 else k - bias

/-- Divides a step by 35 until it is small, and counts 36 for each division. -/
def shrink (delta k : Nat) : Nat × Nat :=
  if 455 < delta then shrink (delta / 35) (k + 36) else (delta, k)
termination_by delta
decreasing_by exact Nat.div_lt_self (by omega) (by omega)

/-- The bias after a step, when `count` characters are in place. -/
def adapt (delta count : Nat) (first : Bool) : Nat :=
  let delta := if first then delta / 700 else delta / 2
  let (delta, k) := shrink (delta + delta / count) 0
  k + 36 * delta / (delta + 38)

/-- The digits of a step; `fuel` bounds their number. -/
def stepDigits (bias : Nat) : (fuel : Nat) → (k q : Nat) → List Char
  | 0, _, _ => []
  | fuel + 1, k, q =>
    let t := threshold k bias
    if q < t then [digitChar q]
    else digitChar (t + (q - t) % (36 - t)) :: stepDigits bias fuel (k + 36) ((q - t) / (36 - t))

/-- The state of an encoding: the digits so far, the step, the bias and the number of characters in
place. -/
structure State where
  digits : List Char
  delta : Nat
  bias : Nat
  count : Nat

/-- Passes one character of the label while the characters of code `code` are put in place. -/
def pass (plainCount code : Nat) (st : State) (c : Char) : State :=
  if c.toNat < code then { st with delta := st.delta + 1 }
  else if c.toNat = code then
    { digits := st.digits ++ stepDigits st.bias 12 36 st.delta
      delta := 0
      bias := adapt st.delta (st.count + 1) (st.count = plainCount)
      count := st.count + 1 }
  else st

/-- The codes beyond the first 128 in ascending order, each once. -/
def codes (cs : List Char) : List Nat :=
  ((cs.filter (128 ≤ ·.toNat)).map Char.toNat).mergeSort.eraseDups

/-- A label in plain characters, without the mark in front. -/
def encode (cs : List Char) : List Char :=
  let plain := cs.filter (·.toNat < 128)
  let start : State := ⟨[], 0, 72, plain.length⟩
  let (st, _) := (codes cs).foldl
    (fun (st, next) code =>
      let st := { st with delta := st.delta + (code - next) * (st.count + 1) }
      let st := cs.foldl (pass plain.length code) st
      ({ st with delta := st.delta + 1 }, code + 1))
    (start, 128)
  plain ++ (if plain.isEmpty then [] else ['-']) ++ st.digits

/-- Reads the digits of a step: the sum of their weights and what is left. -/
def readStep (bias : Nat) : (k weight sum : Nat) → List Char → Option (Nat × List Char)
  | _, _, _, [] => none
  | k, weight, sum, c :: cs => do
    let d ← digitValue? c
    let sum := sum + d * weight
    let t := threshold k bias
    if d < t then some (sum, cs) else readStep bias (k + 36) (weight * (36 - t)) sum cs

/-- Inserts the characters that the digits stand for. -/
def decodeFrom : (fuel : Nat) → (output : List Char) → (code place bias : Nat) → List Char →
    Option (List Char)
  | _, output, _, _, _, [] => some output
  | 0, _, _, _, _, _ :: _ => none
  | fuel + 1, output, code, place, bias, c :: cs => do
    let (sum, rest) ← readStep bias 36 1 place (c :: cs)
    let count := output.length + 1
    let code := code + sum / count
    let spot := sum % count
    if 0x110000 ≤ code ∨ (0xD800 ≤ code ∧ code ≤ 0xDFFF) then none
    else
      decodeFrom fuel (output.take spot ++ Char.ofNat code :: output.drop spot) code (spot + 1)
        (adapt (sum - place) count (place = 0)) rest

/-- The label that plain characters stand for, if they stand for one. -/
def decode (cs : List Char) : Option (List Char) :=
  let digits := (cs.reverse.takeWhile (· ≠ '-')).reverse
  let plain := cs.take (cs.length - digits.length - 1)
  if plain.all (·.toNat < 128) then decodeFrom (digits.length + 1) plain 128 0 72 digits else none

end Pacts.Url.Punycode
