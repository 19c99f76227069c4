import ContentGateway.Text.Combining

/-!
# Directions of writing

A name in which something is written from right to left is hard to read unless each of its
labels has one direction.  A label that runs from left to right holds nothing of the other
direction; one that runs from right to left begins with a letter, holds no letter of the
other direction and one kind of digits only.  Either ends in a letter or a digit, which
marks may follow.
-/

namespace ContentGateway
namespace DomainName

/-- How a character takes part in the direction of a text. -/
inductive Direction where
  | leftToRight
  | rightToLeft
  /-- Digits within a text from right to left. -/
  | arabicNumber
  /-- Digits within a text of either direction. -/
  | europeanNumber
  /-- A mark has the direction of the letter before it. -/
  | mark
  | neutral
  deriving DecidableEq, Repr

/-- The letters, among the characters of names, that are written from right to left. -/
def rightToLeftRanges : List (Nat × Nat) :=
  Ranges.ofText "5BE 5C0 5C3 5C6 5D0-5F4 608 60B 60D 61B-64A 66D-66F 671-6D5 6E5-6E6 6EE-6EF
    6FA-710 712-72F 74D-7A5 7B1-7EA 7F4-7F5 7FA 7FE-815 81A 824 828 830-858 85E-88F 8A0-8C9
    FBB2-FBC2 FE73 10800-1091B 10920-10A00 10A10-10A35 10A40-10AE4 10AEB-10B35 10B40-10D23
    10D40-10D4F 10D6F-10D8F 10E80-10EA9 10EAD-10ED8 10F00-10F45 10F51-10F81 10F86-10FF6
    1E800-1E8CF 1E922-1E943 1E94B-1ED3D"

def arabicNumberRanges : List (Nat × Nat) :=
  Ranges.ofText "660-669 66B-66C 10D30-10D39 10E60-10E7E"

def europeanNumberRanges : List (Nat × Nat) :=
  Ranges.ofText "6F0-6F9 102E1-102FB"

def neutralRanges : List (Nat × Nat) :=
  Ranges.ofText "A1-D7 F7 2B9-2BA 2C2-2CF 2D2-2ED 2EF-2FF 375 3F6 58A-58F 606-607 609-60A 60C
    60E-60F 66A 6DE 6E9 7F6-7F9 9F2-9F3 9FB AF1 BF3-BFA C78-C7E E3F F3A-F3D 1390-1399 1400
    169B-169C 17DB 17F0-180A 1940-1945 19DE-19FF 200C-20C1 2104-214D 218A-2335 237B-2394 2396-26AB
    26AD-27FF 2900-2BFF 2CE5-2CEA 2CF9-2CFF 2E00-3004 3008-3020 3030 3037 303D-303F 30A0 30FB
    31C0-31E5 4DC0-4DFF A490-A4C6 A60D-A60F A673 A67E-A67F A700-A721 A788 A828-A82B A838-A839
    A874-A877 AB6A-AB6B FBC3-FDFF FE45-FE46 10101 10140-1018C 10190-101A0 1091F 10B39-10B3F 10D6E
    11052-11065 11660-1166C 11FD5-11FF1 16FE2 1CC00-1CEF0 1D1E9-1D241 1D245 1D300-1D356 1E2FF
    1EEF0-1F12F 1F16D-1F16F 1F1AD 1F260-1FBFA"

/-- These marks are written like letters from left to right. -/
def isLetterLike (c : Char) : Bool :=
  [0xCBF, 0xCC6, 0x11A07, 0x11A08, 0x11C3F].contains c.toNat

namespace Direction

def ofAscii (c : Char) : Direction :=
  if c.isAlpha then .leftToRight else if c.isDigit then .europeanNumber else .neutral

def ofChar (c : Char) : Direction :=
  let n := c.toNat
  if n < 0x80 then ofAscii c
  else if inRanges rightToLeftRanges n then .rightToLeft
  else if inRanges arabicNumberRanges n then .arabicNumber
  else if inRanges europeanNumberRanges n then .europeanNumber
  else if isNonspacing c then (if isLetterLike c then .leftToRight else .mark)
  else if inRanges neutralRanges n then .neutral
  else .leftToRight

/-- Whether text with such a character runs from right to left somewhere. -/
def isReversed (d : Direction) : Bool :=
  d == .rightToLeft || d == .arabicNumber

/-- What follows the first character of a label from left to right. -/
def agreesLeftToRight (rest : List Direction) : Bool :=
  (rest.getLast?.all fun d => d == .leftToRight || d == .europeanNumber)
    && !rest.any isReversed

/-- What follows the first letter of a label from right to left. -/
def agreesRightToLeft (rest : List Direction) : Bool :=
  (rest.getLast?.all fun d => d == .rightToLeft || d == .europeanNumber || d == .arabicNumber)
    && !rest.contains .leftToRight
    && !(rest.contains .europeanNumber && rest.contains .arabicNumber)

/-- The directions of a label without the marks at its end. -/
def withoutFinalMarks (directions : List Direction) : List Direction :=
  (directions.reverse.dropWhile (· == .mark)).reverse

/-- A label has one direction. -/
def agrees (directions : List Direction) : Bool :=
  match directions with
  | [] => true
  | .leftToRight :: rest => agreesLeftToRight (withoutFinalMarks rest)
  | .rightToLeft :: rest => agreesRightToLeft (withoutFinalMarks rest)
  | _ => false

end Direction

/-- Each label has one direction, if anything in the name is written from right to left. -/
def hasDirections (labels : List (List Char)) : Bool :=
  let directions := labels.map fun label => label.map Direction.ofChar
  !directions.any (·.any Direction.isReversed) || directions.all Direction.agrees

end DomainName
end ContentGateway
