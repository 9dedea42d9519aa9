import LoadHarness.Url.Domain.Marks

/-!
# Direction of international names

A name in which anything is written from right to left must not be ambiguous: each label runs in
one direction, which its first character decides, and ends in that direction.
`directionsAllowed` checks the labels of a name.
-/

namespace LoadHarness.Url

/-- What a character means for the direction of a text. -/
inductive Direction where
  | leftToRight
  | rightToLeft
  /-- A digit that keeps its direction in either text. -/
  | number
  /-- A digit of texts that run from right to left. -/
  | arabicNumber
  | flatMark
  | neutral
deriving DecidableEq, Repr

/-- Ranges of letters that run from right to left. -/
def rightToLeftLetters : List (Nat × Nat) :=
  [
    (0x5BE, 0x5BE), (0x5C0, 0x5C0), (0x5C3, 0x5C3), (0x5C6, 0x5C6), (0x5D0, 0x5F4),
    (0x608, 0x608), (0x60B, 0x60B), (0x60D, 0x60D), (0x61B, 0x64A), (0x66D, 0x66F),
    (0x671, 0x6D5), (0x6E5, 0x6E6), (0x6EE, 0x6EF), (0x6FA, 0x710), (0x712, 0x72F),
    (0x74D, 0x7A5), (0x7B1, 0x7EA), (0x7F4, 0x7F5), (0x7FA, 0x7FA), (0x7FE, 0x815),
    (0x81A, 0x81A), (0x824, 0x824), (0x828, 0x828), (0x830, 0x858), (0x85E, 0x88E),
    (0x8A0, 0x8C9), (0xFBB2, 0xFBC2), (0xFE73, 0xFE73), (0x10800, 0x1091B), (0x10920, 0x1093F),
    (0x10980, 0x10A00), (0x10A10, 0x10A35), (0x10A40, 0x10AE4), (0x10AEB, 0x10B35),
    (0x10B40, 0x10D23), (0x10E80, 0x10EA9), (0x10EAD, 0x10EB1), (0x10F00, 0x10F45),
    (0x10F51, 0x10F81), (0x10F86, 0x10FF6), (0x1E800, 0x1E8CF), (0x1E922, 0x1E943),
    (0x1E94B, 0x1ED3D) ]

/-- Ranges of digits of texts that run from right to left. -/
def arabicNumbers : List (Nat × Nat) :=
  [
    (0x660, 0x669), (0x66B, 0x66C), (0x10D30, 0x10D39), (0x10E60, 0x10E7E) ]

/-- Ranges of digits of either direction. -/
def numbers : List (Nat × Nat) :=
  [
    (0x30, 0x39), (0x6F0, 0x6F9), (0x102E1, 0x102FB) ]

/-- Ranges of characters without direction. -/
def neutrals : List (Nat × Nat) :=
  [
    (0x0, 0x2F), (0x3A, 0x40), (0x5B, 0x60), (0x7B, 0xD7), (0xF7, 0xF7), (0x2B9, 0x2BA),
    (0x2C2, 0x2CF), (0x2D2, 0x2ED), (0x2EF, 0x2FF), (0x375, 0x375), (0x3F6, 0x3F6),
    (0x58A, 0x58F), (0x606, 0x607), (0x609, 0x60A), (0x60C, 0x60C), (0x60E, 0x60F),
    (0x66A, 0x66A), (0x6DE, 0x6DE), (0x6E9, 0x6E9), (0x7F6, 0x7F9), (0x9F2, 0x9F3),
    (0x9FB, 0x9FB), (0xAF1, 0xAF1), (0xBF3, 0xBFA), (0xC78, 0xC7E), (0xE3F, 0xE3F),
    (0xF3A, 0xF3D), (0x1390, 0x1399), (0x1400, 0x1400), (0x169B, 0x169C), (0x17DB, 0x17DB),
    (0x17F0, 0x180A), (0x1940, 0x1945), (0x19DE, 0x19FF), (0x200C, 0x20C0), (0x2104, 0x214D),
    (0x218A, 0x2335), (0x237B, 0x2394), (0x2396, 0x2426), (0x2440, 0x26AB), (0x26AD, 0x27FF),
    (0x2900, 0x2B95), (0x2B97, 0x2BFF), (0x2CE5, 0x2CEA), (0x2CF9, 0x2CFF), (0x2E00, 0x3004),
    (0x3008, 0x3020), (0x3030, 0x3030), (0x3037, 0x3037), (0x303D, 0x303F), (0x30A0, 0x30A0),
    (0x30FB, 0x30FB), (0x31C0, 0x31E3), (0x4DC0, 0x4DFF), (0xA490, 0xA4C6), (0xA60D, 0xA60F),
    (0xA673, 0xA673), (0xA67E, 0xA67F), (0xA700, 0xA721), (0xA788, 0xA788), (0xA828, 0xA82B),
    (0xA838, 0xA839), (0xA874, 0xA877), (0xAB6A, 0xAB6B), (0xFD3E, 0xFD4F), (0xFDCF, 0xFDFF),
    (0xFE45, 0xFE46), (0x10101, 0x10101), (0x10140, 0x1018C), (0x10190, 0x101A0),
    (0x1091F, 0x1091F), (0x10B39, 0x10B3F), (0x11052, 0x11065), (0x11660, 0x1166C),
    (0x11FD5, 0x11FF1), (0x16FE2, 0x16FE2), (0x1D1E9, 0x1D241), (0x1D245, 0x1D245),
    (0x1D300, 0x1D356), (0x1E2FF, 0x1E2FF), (0x1EEF0, 0x1F12F), (0x1F16D, 0x1F16F),
    (0x1F1AD, 0x1F1AD), (0x1F260, 0x1F6D7), (0x1F6DD, 0x1F773), (0x1F780, 0x1F7D8),
    (0x1F7E0, 0x1F8B1), (0x1F900, 0x1FA53), (0x1FA60, 0x1FA74), (0x1FA78, 0x1FA86),
    (0x1FA90, 0x1FAAC), (0x1FAB0, 0x1FABA), (0x1FAC0, 0x1FAC5), (0x1FAD0, 0x1FAD9),
    (0x1FAE0, 0x1FAE7), (0x1FAF0, 0x1FAF6), (0x1FB00, 0x1FBCA) ]

def Direction.ofChar (c : Char) : Direction :=
  let n := c.toNat
  if inRanges rightToLeftLetters n then .rightToLeft
  else if inRanges arabicNumbers n then .arabicNumber
  else if inRanges numbers n then .number
  else if isFlatMark c then .flatMark
  else if inRanges neutrals n then .neutral
  else .leftToRight

/-- The last direction of a label that is not that of a flat mark. -/
def lastDirection? (ds : List Direction) : Option Direction :=
  ds.reverse.find? (· != .flatMark)

/-- Whether a label, given by its directions, runs in one direction. -/
def runsOneWay (ds : List Direction) : Bool :=
  match ds.head? with
  | none => true
  | some .leftToRight =>
    ds.all (fun d => d != .rightToLeft && d != .arabicNumber)
      && lastDirection? ds ∈ [some .leftToRight, some .number]
  | some .rightToLeft =>
    ds.all (· != .leftToRight)
      && lastDirection? ds ∈ [some .rightToLeft, some .number, some .arabicNumber]
      && !(ds.contains .number && ds.contains .arabicNumber)
  | some _ => false

/-- Whether the labels of a name run in one direction each, if any part of the name runs from
right to left. -/
def directionsAllowed (labels : List (List Char)) : Bool :=
  let ds := labels.map fun label => label.map Direction.ofChar
  if ds.any fun l => l.contains .rightToLeft || l.contains .arabicNumber then ds.all runsOneWay
  else true

end LoadHarness.Url
