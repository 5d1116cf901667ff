import Pacts.Text.Marks

/-!
# The direction of domain names

Some scripts are written from right to left.  A domain name in which such a script occurs can be
read in only one way when every label of it keeps to one direction: it starts with a letter, holds
no letter of the other direction, and ends, marks aside, in a letter or a digit.  A label from right
to left may hold the digits of either direction, but not both.

The tables list what is not a letter from left to right, as intervals of code points in increasing
order.  An interval may go on over hanging marks and over code points that may not be in a name.
-/

set_option autoImplicit false

namespace Pacts.Url

/-- What a character does to the direction of the text around it. -/
inductive Direction where
  | letter
  | letterFromRight
  | digit
  | digitFromRight
  | neutral
  | hanging
  deriving DecidableEq, Repr

/-- Code points of letters of scripts that are written from right to left. -/
def fromRightRanges : Array (Nat × Nat) := #[
  (0x5BE, 0x5F4), (0x608, 0x608), (0x60B, 0x60B), (0x60D, 0x60D), (0x61B, 0x64A), (0x66D, 0x6D5),
  (0x6E5, 0x6E6), (0x6EE, 0x6EF), (0x6FA, 0x7F5), (0x7FA, 0x8C9), (0xFBB2, 0xFBD2),
  (0xFD90, 0xFDCE), (0xFE73, 0xFE73), (0x10800, 0x1091B), (0x10920, 0x10B35), (0x10B40, 0x10D23),
  (0x10D40, 0x10D8F), (0x10E80, 0x10FF6), (0x1E800, 0x1ED3D)
]

/-- Code points of digits. -/
def digitRanges : Array (Nat × Nat) := #[
  (0x30, 0x39), (0x6F0, 0x6F9), (0x102E1, 0x102FB)
]

/-- Code points of digits that belong to scripts that are written from right to left. -/
def digitFromRightRanges : Array (Nat × Nat) := #[
  (0x660, 0x669), (0x66B, 0x66C), (0x10D30, 0x10D39), (0x10E60, 0x10E7E)
]

/-- Code points of characters that have no direction of their own. -/
def neutralRanges : Array (Nat × Nat) := #[
  (0x21, 0x2E), (0x3B, 0x3D), (0x5F, 0x60), (0x7B, 0x7E), (0xA1, 0xD7), (0xF7, 0xF7),
  (0x2B9, 0x2BA), (0x2C2, 0x2CF), (0x2D2, 0x2ED), (0x2EF, 0x2FF), (0x375, 0x375), (0x3F6, 0x3F6),
  (0x58A, 0x58F), (0x606, 0x607), (0x609, 0x60A), (0x60C, 0x60C), (0x60E, 0x60F), (0x66A, 0x66A),
  (0x6DE, 0x6DE), (0x6E9, 0x6E9), (0x7F6, 0x7F9), (0x9F2, 0x9F3), (0x9FB, 0x9FB), (0xAF1, 0xAF1),
  (0xBF3, 0xBFA), (0xC78, 0xC7E), (0xE3F, 0xE3F), (0xF3A, 0xF3D), (0x1390, 0x1399),
  (0x1400, 0x1400), (0x169B, 0x169C), (0x17DB, 0x17DB), (0x17F0, 0x180A), (0x1940, 0x1945),
  (0x19DE, 0x19FF), (0x200C, 0x214D), (0x218A, 0x2335), (0x237B, 0x2394), (0x2396, 0x2426),
  (0x2440, 0x26AB), (0x26AD, 0x27FF), (0x2900, 0x2B95), (0x2B97, 0x2BFF), (0x2CE5, 0x2CEA),
  (0x2CF9, 0x2CFF), (0x2E00, 0x3004), (0x3008, 0x3020), (0x3030, 0x3030), (0x3037, 0x3037),
  (0x303D, 0x303F), (0x30A0, 0x30A0), (0x30FB, 0x30FB), (0x31C0, 0x31E3), (0x4DC0, 0x4DFF),
  (0xA490, 0xA4C6), (0xA60D, 0xA60F), (0xA673, 0xA67F), (0xA700, 0xA721), (0xA788, 0xA788),
  (0xA828, 0xA82B), (0xA838, 0xA839), (0xA874, 0xA877), (0xAB6A, 0xAB6B), (0xFD3E, 0xFD4F),
  (0xFDCF, 0xFE46), (0x10101, 0x10101), (0x10140, 0x1018C), (0x10190, 0x101A0), (0x1091F, 0x1091F),
  (0x10B39, 0x10B3F), (0x11052, 0x11065), (0x11660, 0x1166C), (0x11FD5, 0x11FF1),
  (0x16FE2, 0x16FE2), (0x1D1E9, 0x1D245), (0x1D300, 0x1D356), (0x1E2FF, 0x1E2FF),
  (0x1EEF0, 0x1F12F), (0x1F16D, 0x1F16F), (0x1F1AD, 0x1F1AD), (0x1F260, 0x1F6D7),
  (0x1F6DC, 0x1F776), (0x1F77B, 0x1F8B1), (0x1F900, 0x1FA53), (0x1FA60, 0x1FA88),
  (0x1FA90, 0x1FABD), (0x1FABF, 0x1FAC5), (0x1FACE, 0x1FADB), (0x1FAE0, 0x1FAE8),
  (0x1FAF0, 0x1FBCA)
]

/-- Hanging marks that count as letters from left to right. -/
def letterMarks : List Nat := [0xCBF, 0xCC6, 0x11A07, 0x11A08, 0x11C3F]

/-- What a character does to the direction of the text around it. -/
def direction (c : Char) : Direction :=
  let n := c.toNat
  if Text.isHangingMark c then if letterMarks.contains n then .letter else .hanging
  else if Text.inRanges fromRightRanges n then .letterFromRight
  else if Text.inRanges digitRanges n then .digit
  else if Text.inRanges digitFromRightRanges n then .digitFromRight
  else if Text.inRanges neutralRanges n then .neutral
  else .letter

namespace Direction

/-- Whether a text with such a character in it is one that is written from right to left. -/
def turns : Direction → Bool
  | .letterFromRight | .digitFromRight => true
  | _ => false

/-- The last direction that does not hang. -/
def last? (ds : List Direction) : Option Direction := (ds.filter (· ≠ .hanging)).getLast?

/-- Whether the characters of a label keep to the direction from left to right. -/
def keepFromLeft (ds : List Direction) : Bool :=
  ds.all (fun d => !d.turns) && (last? ds).any fun d => d == .letter || d == .digit

/-- Whether the characters of a label keep to the direction from right to left. -/
def keepFromRight (ds : List Direction) : Bool :=
  ds.all (· ≠ .letter) && (last? ds).any (fun d => d ≠ .neutral) &&
    !(ds.contains .digit && ds.contains .digitFromRight)

/-- Whether the characters of a label keep to one direction, that of the letter it starts with. -/
def keep : List Direction → Bool
  | [] => true
  | .letter :: ds => keepFromLeft (.letter :: ds)
  | .letterFromRight :: ds => keepFromRight (.letterFromRight :: ds)
  | _ :: _ => false

end Direction

/-- Whether a domain name that consists of these labels can be read in only one way. -/
def readsOneWay (labels : List (List Char)) : Bool :=
  let directions := labels.map (·.map direction)
  !directions.any (·.any Direction.turns) || directions.all Direction.keep

end Pacts.Url
