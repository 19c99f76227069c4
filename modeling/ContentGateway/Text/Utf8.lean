/-!
# UTF-8

Bytes and characters.  `encode` writes a text as bytes.  Reading goes through
`front`, which says what stands at the front of a byte sequence: a character,
an ill-formed part, or a character cut off by the end.  The readers below differ
only in what they make of the last two.
-/

namespace ContentGateway
namespace Utf8

/-!
# Writing
-/

/-- The bytes of one character: one byte below 128, else a lead byte and up to three tail bytes. -/
def encodeChar (c : Char) : List UInt8 :=
  let n := c.toNat
  if n < 0x80 then
    [UInt8.ofNat n]
  else if n < 0x800 then
    [UInt8.ofNat (0xC0 + n / 64), UInt8.ofNat (0x80 + n % 64)]
  else if n < 0x10000 then
    [UInt8.ofNat (0xE0 + n / 4096), UInt8.ofNat (0x80 + n / 64 % 64),
      UInt8.ofNat (0x80 + n % 64)]
  else
    [UInt8.ofNat (0xF0 + n / 262144), UInt8.ofNat (0x80 + n / 4096 % 64),
      UInt8.ofNat (0x80 + n / 64 % 64), UInt8.ofNat (0x80 + n % 64)]

/-- The bytes of a text, character after character. -/
def encode (text : List Char) : List UInt8 :=
  text.flatMap encodeChar

/-- The bytes of a string. -/
def ofString (text : String) : List UInt8 :=
  encode text.toList

/-!
# Reading
-/

/--
What stands at the front of a byte sequence that starts with a given byte.  The
number counts the bytes after the first one that belong to it.
-/
inductive Front where
  | char (c : Char) (tail : Nat)
  | illFormed (tail : Nat)
  | cutOff
  deriving DecidableEq, Repr

/-- A byte that continues a character. -/
def isTail (b : UInt8) : Bool :=
  0x80 ≤ b && b ≤ 0xBF

/--
The second bytes that may follow a lead byte of a three or four byte character.
The narrowed ranges rule out overlong forms, surrogates and values past the last
code point.
-/
def isSecond (lead b : UInt8) : Bool :=
  if lead == 0xE0 then 0xA0 ≤ b && b ≤ 0xBF
  else if lead == 0xED then 0x80 ≤ b && b ≤ 0x9F
  else if lead == 0xF0 then 0x90 ≤ b && b ≤ 0xBF
  else if lead == 0xF4 then 0x80 ≤ b && b ≤ 0x8F
  else isTail b

/-- The six low bits of a tail byte. -/
def payload (b : UInt8) : Nat :=
  b.toNat % 64

/-- Reads the front of `lead :: rest`. -/
def front (lead : UInt8) (rest : List UInt8) : Front :=
  if lead < 0x80 then
    .char (Char.ofNat lead.toNat) 0
  else if 0xC2 ≤ lead && lead ≤ 0xDF then
    match rest with
    | [] => .cutOff
    | b :: _ =>
        if isTail b then .char (Char.ofNat (lead.toNat % 32 * 64 + payload b)) 1
        else .illFormed 0
  else if 0xE0 ≤ lead && lead ≤ 0xEF then
    match rest with
    | [] => .cutOff
    | b :: more =>
        if isSecond lead b then
          match more with
          | [] => .cutOff
          | c :: _ =>
              if isTail c then
                .char (Char.ofNat (lead.toNat % 16 * 4096 + payload b * 64 + payload c)) 2
              else .illFormed 1
        else .illFormed 0
  else if 0xF0 ≤ lead && lead ≤ 0xF4 then
    match rest with
    | [] => .cutOff
    | b :: more =>
        if isSecond lead b then
          match more with
          | [] => .cutOff
          | c :: more =>
              if isTail c then
                match more with
                | [] => .cutOff
                | d :: _ =>
                    if isTail d then
                      .char (Char.ofNat (lead.toNat % 8 * 262144 + payload b * 4096
                        + payload c * 64 + payload d)) 3
                    else .illFormed 2
              else .illFormed 1
        else .illFormed 0
  else
    .illFormed 0

/-- The characters of a byte sequence; `none` stands for an ill-formed or cut off part. -/
def glyphsAfter : Nat -> List UInt8 -> List (Option Char)
  | _, [] => []
  | skip + 1, _ :: rest => glyphsAfter skip rest
  | 0, b :: rest =>
      match front b rest with
      | .char c tail => some c :: glyphsAfter tail rest
      | .illFormed tail => none :: glyphsAfter tail rest
      | .cutOff => [none]

/-- The characters of a byte sequence, `none` where the bytes form no character. -/
def glyphs (bytes : List UInt8) : List (Option Char) :=
  glyphsAfter 0 bytes

/-- The text of a byte sequence that is valid throughout. -/
def decode? (bytes : List UInt8) : Option (List Char) :=
  (glyphs bytes).mapM id

/-- The text of a byte sequence, each part that forms no character replaced by U+FFFD. -/
def decodeLossy (bytes : List UInt8) : List Char :=
  (glyphs bytes).map fun g => g.getD (Char.ofNat 0xFFFD)

/-- As `decode?`, as a string. -/
def toString? (bytes : List UInt8) : Option String :=
  (decode? bytes).map String.ofList

/-- As `decodeSample`, when the first `skip` bytes belong to a character already read. -/
def sampleAfter : Nat -> List UInt8 -> Option (List Char)
  | _, [] => some []
  | skip + 1, _ :: rest => sampleAfter skip rest
  | 0, b :: rest =>
      match front b rest with
      | .char c tail => (sampleAfter tail rest).map (c :: ·)
      | .illFormed _ => none
      | .cutOff => some []

/-- The text of a byte sequence in which only the last character may be cut off; that one is dropped. -/
def decodeSample (bytes : List UInt8) : Option (List Char) :=
  sampleAfter 0 bytes

end Utf8
end ContentGateway
