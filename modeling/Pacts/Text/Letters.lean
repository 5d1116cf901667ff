/-!
# Letters without their case

Scheme names, media types and host names are compared without regard to the case of the letters
`A` to `Z`; every other character has to be the same.  `lowered` is the representative that two
such strings share, and `sameLetters` compares representatives.
-/

set_option autoImplicit false

namespace Pacts

/-- A string with its letters `A` to `Z` made small. -/
def lowered (s : String) : String := String.ofList (s.toList.map Char.toLower)

/-- A string with its letters `a` to `z` made capital. -/
def raised (s : String) : String := String.ofList (s.toList.map Char.toUpper)

/-- Two strings that differ at most in the case of the letters `A` to `Z`. -/
def sameLetters (a b : String) : Bool := lowered a == lowered b

theorem sameLetters_iff {a b : String} : sameLetters a b = true ↔ lowered a = lowered b := by
  simp [sameLetters]

@[simp]
theorem sameLetters_refl (a : String) : sameLetters a a = true := by simp [sameLetters]

theorem sameLetters_comm (a b : String) : sameLetters a b = sameLetters b a := by
  rw [sameLetters, sameLetters, Bool.beq_comm]

theorem sameLetters_congr {a b : String} (h : sameLetters a b = true) (c : String) :
    sameLetters a c = sameLetters b c := by
  simp [sameLetters, sameLetters_iff.1 h]

end Pacts
