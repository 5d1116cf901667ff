import Pacts.Text.Fields
import Pacts.Url.Basic

/-!
# Numeric hosts

A host whose last part is a number stands for an address of four bytes.  The address may be given by
fewer than four parts; the last part then fills all the bytes that are left.  A part is decimal,
octal when it starts with `0`, or hexadecimal when it starts with `0x`.
-/

set_option autoImplicit false

namespace Pacts.Url

/-- The number that digits stand for, if all of them belong to the base. -/
def digitsValue? (base : Nat) (cs : List Char) : Option Nat :=
  cs.foldlM (fun n c => do
    let d ← Text.hexDigitValue? (UInt8.ofNat c.toNat)
    if c.toNat < 128 ∧ d < base then some (n * base + d) else none) 0

/-- The number that a part of a host stands for, if it is one. -/
def ipv4Number? : List Char → Option Nat
  | [] => none
  | '0' :: 'x' :: cs => digitsValue? 16 cs
  | '0' :: 'X' :: cs => digitsValue? 16 cs
  | '0' :: c :: cs => digitsValue? 8 (c :: cs)
  | cs => digitsValue? 10 cs

/-- The parts of a host.  A dot at the end does not count. -/
def hostParts (cs : List Char) : List (List Char) :=
  let parts := Text.fields '.' cs
  if parts.getLast? = some [] then parts.dropLast else parts

/-- Whether the last part of a host is a number. -/
def endsInNumber (cs : List Char) : Bool :=
  match (hostParts cs).getLast? with
  | none => false
  | some part => (!part.isEmpty && part.all Char.isDigit) || (ipv4Number? part).isSome

/-- The address of a list of numbers, as one number. -/
def ipv4Value? (numbers : List Nat) : Option Nat :=
  match numbers.reverse with
  | [] => none
  | last :: front =>
    if 4 < numbers.length ∨ Nat.pow 256 (5 - numbers.length) ≤ last ∨ front.any (255 < ·) then
      none
    else
      some (front.reverse.zipIdx.foldl (fun sum (n, i) => sum + n * Nat.pow 256 (3 - i)) last)

/-- An address in four decimal parts. -/
def ipv4Text (address : Nat) : String :=
  ".".intercalate
    ([address / Nat.pow 256 3, address / Nat.pow 256 2 % 256, address / 256 % 256,
      address % 256].map toString)

/-- The host of a numeric host. -/
def ipv4Host (cs : List Char) : Except Defect String :=
  match (hostParts cs).mapM ipv4Number? with
  | none => .error .ipv4
  | some numbers => match ipv4Value? numbers with
    | none => .error .ipv4
    | some address => .ok (ipv4Text address)

end Pacts.Url
