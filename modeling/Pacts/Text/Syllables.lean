/-!
# Syllables of Hangul

A syllable of Hangul is put together from a first consonant, a vowel and perhaps a last consonant.
There are 19 first consonants, 21 vowels and 27 last consonants, and the syllables stand in a row in
that order: those with the same first consonant and vowel next to each other, the one without a last
consonant in front.
-/

set_option autoImplicit false

namespace Pacts.Text.Syllable

/-- The code point of the first syllable. -/
def firstSyllable : Nat := 0xAC00

/-- The code point of the first of the first consonants. -/
def firstInitial : Nat := 0x1100

/-- The code point of the first vowel. -/
def firstVowel : Nat := 0x1161

/-- The code point in front of the first of the last consonants. -/
def beforeFinals : Nat := 0x11A7

/-- The number of vowels. -/
def vowels : Nat := 21

/-- The number of ways in which a syllable may end. -/
def endings : Nat := 28

/-- The number of syllables. -/
def count : Nat := 19 * vowels * endings

/-- Whether a code point is that of a syllable. -/
def isSyllable (n : Nat) : Bool := firstSyllable ≤ n && n < firstSyllable + count

/-- Whether a code point is that of a syllable without a last consonant. -/
def isOpen (n : Nat) : Bool := isSyllable n && (n - firstSyllable) % endings == 0

/-- The code point of what two code points are put together to: a first consonant and a vowel, or an
open syllable and a last consonant. -/
def joined? (a b : Nat) : Option Nat :=
  if firstInitial ≤ a ∧ a < firstInitial + 19 ∧ firstVowel ≤ b ∧ b < firstVowel + vowels then
    some (firstSyllable + ((a - firstInitial) * vowels + (b - firstVowel)) * endings)
  else if isOpen a ∧ beforeFinals < b ∧ b < beforeFinals + endings then
    some (a + (b - beforeFinals))
  else none

/-- The code points that the one of a syllable is put together from. -/
def parted? (n : Nat) : Option (Nat × Nat) :=
  if isSyllable n then
    let place := n - firstSyllable
    if place % endings = 0 then
      some (firstInitial + place / (vowels * endings),
        firstVowel + place % (vowels * endings) / endings)
    else some (n - place % endings, beforeFinals + place % endings)
  else none

end Pacts.Text.Syllable
