import Pacts.Text.Composed
import Pacts.Text.Fields
import Pacts.Text.Folding
import Pacts.Text.Marks
import Pacts.Url.Basic
import Pacts.Url.Direction
import Pacts.Url.Joiners
import Pacts.Url.Punycode
import Pacts.Url.Refused

/-!
# Domain names

A domain name is brought into the form in which it is looked up: every character is folded, accents
are put on their letters, and a label that still holds characters beyond the first 128 is written in
plain letters behind the mark `xn--`.  A label that carries the mark already has to be what such a
label would be written as.

A label does not start with a mark, its joiners stand where they show, and together the labels can
be read in only one way.
-/

set_option autoImplicit false

namespace Pacts.Url

/-- The characters that no domain name may hold. -/
def isForbiddenInDomain (c : Char) : Bool :=
  c.toNat ≤ 0x20 || c.toNat == 0x7F || "%#/:<>?@[\\]^|".toList.contains c

/-- The mark in front of a label in plain letters. -/
def plainMark : List Char := ['x', 'n', '-', '-']

/-- What a character is folded to in a domain name; `none` when it may not stand there. -/
def foldChar? (c : Char) : Option (List Char) :=
  if isPassedOver c then some []
  else
    let cs := Text.folded c
    if cs = [c] ∧ isRefused c then none else some cs

/-- A text in which every character is folded, in the one way to write it. -/
def foldText? (cs : List Char) : Option (List Char) :=
  (cs.mapM foldChar?).map fun folded => Text.composed folded.flatten

/-- Whether a text holds none but the first 128 characters. -/
def isPlain (cs : List Char) : Bool := cs.all (·.toNat < 128)

/-- Whether a label starts with a mark. -/
def startsWithMark (label : List Char) : Bool := label.head?.any Text.isMark

/-- Whether a text may be a label as far as its own characters go. -/
def isLabel (label : List Char) : Bool := !startsWithMark label && joinersFit label

/-- Whether a text is what a label in plain letters may be written for: it needs to be, and folding
does not change it. -/
def isWorthPlain (decoded : List Char) : Bool :=
  !isPlain decoded && foldText? decoded == some decoded && isLabel decoded

/-- The label that a label in plain letters is written for; every other label is its own. -/
def spelledOut? (label : List Char) : Option (List Char) :=
  if isPlain label then
    if plainMark.isPrefixOf label then
      match Punycode.decode (label.drop 4) with
      | some decoded =>
        if isWorthPlain decoded ∧ Punycode.encode decoded = label.drop 4 then some decoded
        else none
      | none => none
    else some label
  else if plainMark.isPrefixOf label ∨ !isLabel label then none
  else some label

/-- A label in plain letters. -/
def inPlainLetters (label : List Char) : List Char :=
  if isPlain label then label else plainMark ++ Punycode.encode label

/-- A domain name in the form in which it is looked up. -/
def domainName? (cs : List Char) : Option (List Char) := do
  let folded ← foldText? cs
  if folded.any isForbiddenInDomain then none
  else
    let labels ← (Text.fields '.' folded).mapM spelledOut?
    if readsOneWay labels then some (List.intercalate ['.'] (labels.map inPlainLetters))
    else none

end Pacts.Url
