import ContentGateway.Text.Hex
import ContentGateway.Text.Utf8

/-!
# Percent encoding

A character that a part of a URL may not hold is written as the bytes of its UTF-8
form, each as a percent sign and two hexadecimal digits.  What may not be held
differs from part to part; the sets grow from the one that every part excludes.
-/

namespace ContentGateway
namespace Percent

/-!
# What is encoded where
-/

/-- Control characters and everything beyond ASCII are encoded everywhere. -/
def inControls (c : Char) : Bool :=
  c.toNat < 0x20 || 0x7F ≤ c.toNat

def inFragment (c : Char) : Bool :=
  inControls c || " \"<>`".toList.contains c

def inQuery (c : Char) : Bool :=
  inControls c || " \"#<>".toList.contains c

/-- In the query of a URL with a special scheme. -/
def inSpecialQuery (c : Char) : Bool :=
  inQuery c || c == '\''

def inPath (c : Char) : Bool :=
  inFragment c || "#?\x7b\x7d".toList.contains c

def inUserInfo (c : Char) : Bool :=
  inPath c || "/:;=@[\\]^|".toList.contains c

/-- In a path segment that is given by its meaning, where a percent sign stands for itself. -/
def inSegment (c : Char) : Bool :=
  inPath c || c == '/' || c == '%'

def inSpecialSegment (c : Char) : Bool :=
  inSegment c || c == '\\'

/-!
# Encoding
-/

def encodeByte (b : UInt8) : List Char :=
  ['%', upperHexDigit (b.toNat / 16), upperHexDigit (b.toNat % 16)]

def encodeChar (excluded : Char -> Bool) (c : Char) : List Char :=
  if excluded c then (Utf8.encodeChar c).flatMap encodeByte else [c]

def encode (excluded : Char -> Bool) (text : List Char) : List Char :=
  text.flatMap (encodeChar excluded)

/-!
# Decoding
-/

/-- The byte that two hexadecimal digits stand for. -/
def byte? (high low : Char) : Option UInt8 := do
  let h ← hexValue? high
  let l ← hexValue? low
  pure (UInt8.ofNat (16 * h + l))

/-- The bytes of a text; a percent sign without two digits stands for itself. -/
def decode : List Char -> List UInt8
  | '%' :: high :: low :: rest =>
      match byte? high low with
      | some b => b :: decode rest
      | none => Utf8.encodeChar '%' ++ decode (high :: low :: rest)
  | c :: rest => Utf8.encodeChar c ++ decode rest
  | [] => []

end Percent
end ContentGateway
