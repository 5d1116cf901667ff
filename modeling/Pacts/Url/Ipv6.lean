import Pacts.Url.Ipv4

/-!
# Bracketed hosts

A host between brackets is an address of eight groups of up to four hexadecimal digits.  One run of
groups that are zero may be left out between two colons, and the last two groups may be given as
four decimal bytes.

`Groups` holds what was read so far: the groups in front of the gap and, once it was met, those
behind it.  The gap stands for at least one group.
-/

set_option autoImplicit false

namespace Pacts.Url

/-- The groups in front of the gap and behind it. -/
structure Groups where
  front : List Nat
  back : Option (List Nat)

namespace Groups

/-- The number of groups that are taken, the gap being one of them. -/
def count (g : Groups) : Nat :=
  match g.back with
  | none => g.front.length
  | some back => g.front.length + 1 + back.length

/-- The groups with one more. -/
def push (g : Groups) (value : Nat) : Groups :=
  match g.back with
  | none => { g with front := g.front ++ [value] }
  | some back => { g with back := some (back ++ [value]) }

/-- All eight groups, if there are as many. -/
def all? (g : Groups) : Option (List Nat) :=
  match g.back with
  | none => if g.front.length = 8 then some g.front else none
  | some back =>
    if g.count ≤ 8 then
      some (g.front ++ List.replicate (8 - g.front.length - back.length) 0 ++ back)
    else none

end Groups

/-- A decimal byte without a leading zero. -/
def decimalByte? (cs : List Char) : Option Nat :=
  if cs.isEmpty ∨ !cs.all Char.isDigit ∨ (1 < cs.length ∧ cs.head? = some '0') ∨ 3 < cs.length then
    none
  else (digitsValue? 10 cs).filter (· ≤ 255)

/-- The two groups of an address in four decimal bytes. -/
def decimalGroups? (cs : List Char) : Option (Nat × Nat) :=
  match (Text.fields '.' cs).mapM decimalByte? with
  | some [a, b, c, d] => some (a * 256 + b, c * 256 + d)
  | _ => none

/-- Whether a character is a hexadecimal digit. -/
def isHexDigit (c : Char) : Bool :=
  c.toNat < 128 && (Text.hexDigitValue? (UInt8.ofNat c.toNat)).isSome

/-- Reads groups up to the end. -/
def groupsFrom : (fuel : Nat) → Groups → List Char → Option (List Nat)
  | _, g, [] => g.all?
  | 0, _, _ :: _ => none
  | fuel + 1, g, c :: cs =>
    if g.count = 8 then none
    else if c = ':' then
      if g.back.isSome then none else groupsFrom fuel { g with back := some [] } cs
    else
      let digits := ((c :: cs).take 4).takeWhile isHexDigit
      match (c :: cs).drop digits.length, digitsValue? 16 digits with
      | [], some value => (g.push value).all?
      | ':' :: rest, some value =>
        if rest.isEmpty then none else groupsFrom fuel (g.push value) rest
      | '.' :: _, _ =>
        if digits.isEmpty ∨ 6 < g.count then none
        else do
          let (high, low) ← decimalGroups? (c :: cs)
          ((g.push high).push low).all?
      | _, _ => none

/-- The eight groups of an address. -/
def ipv6Groups? (cs : List Char) : Option (List Nat) :=
  match cs with
  | ':' :: ':' :: rest => groupsFrom (rest.length + 1) ⟨[], some []⟩ rest
  | ':' :: _ => none
  | [] => none
  | [_] => none
  | cs => groupsFrom (cs.length + 1) ⟨[], none⟩ cs

/-- The number of zeros in front. -/
def leadingZeros (groups : List Nat) : Nat := (groups.takeWhile (· = 0)).length

/-- The start and the length of the first longest run of zeros, from place `i` on; `best` is the
best so far. -/
def longestZeros : (i : Nat) → (best : Nat × Nat) → List Nat → Nat × Nat
  | _, best, [] => best
  | i, best, g :: gs =>
    let run := leadingZeros (g :: gs)
    longestZeros (i + 1) (if best.2 < run then (i, run) else best) gs

/-- Groups with colons between them. -/
def groupsText (groups : List Nat) : String :=
  ":".intercalate (groups.map fun g => String.ofList (Nat.toDigits 16 g))

/-- The text of an address: the first longest run of at least two zeros is left out. -/
def ipv6Text (groups : List Nat) : String :=
  let (start, run) := longestZeros 0 (0, 0) groups
  if run < 2 then groupsText groups
  else groupsText (groups.take start) ++ "::" ++ groupsText (groups.drop (start + run))

/-- The host of an address between brackets. -/
def ipv6Host (cs : List Char) : Except Defect String :=
  match ipv6Groups? cs with
  | some groups => .ok ("[" ++ ipv6Text groups ++ "]")
  | none => .error .ipv6

end Pacts.Url
