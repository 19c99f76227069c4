import ContentGateway.Content
import ContentGateway.Text.Blank
import ContentGateway.Text.LowerCase

/-!
# Content types

Guessing the type of content from its first bytes.  Binary formats are known by a
signature; what is left is text if a sample of it is, and the kind of text shows in
its first characters.
-/

namespace ContentGateway
namespace ContentType

/-- The number of bytes of a text that are looked at. -/
def sampleSize : Nat := 512

/-- The ASCII bytes of a literal. -/
def ascii (text : String) : Bytes :=
  text.toList.map fun c => UInt8.ofNat c.toNat

/-- Formats by the bytes with which their content starts. -/
def signatures : List (Bytes × String) := [
  (ascii "%PDF-", "application/pdf"),
  (0x89 :: ascii "PNG\r\n\x1a\n", "image/png"),
  ([0xff, 0xd8, 0xff], "image/jpeg"),
  (ascii "GIF87a", "image/gif"),
  (ascii "GIF89a", "image/gif"),
  (ascii "PK\x03\x04", "application/zip"),
  ([0x1f, 0x8b], "application/gzip"),
  (ascii "%!PS", "application/postscript"),
  (ascii "ID3", "audio/mpeg"),
  (ascii "OggS", "audio/ogg"),
  (ascii "fLaC", "audio/flac"),
  (0x00 :: ascii "asm", "application/wasm")]

/-- Is this character unfit for a text?  Control characters are, but for blank ones. -/
def isUnprintable (c : Char) : Bool :=
  isControl c && !isBlank c

/-- The kind of a text by its first characters, blanks and byte order marks aside. -/
def ofText (text : List Char) : String :=
  let start := (text.dropWhile isBlank).dropWhile fun c => c.toNat == 0xFEFF
  let lower := start.map asciiLower
  if "<?xml".toList.isPrefixOf lower then "application/xml"
  else if "<!doctype html".toList.isPrefixOf lower || "<html".toList.isPrefixOf lower then
    "text/html"
  else if ['\x7b'].isPrefixOf start || ['['].isPrefixOf start then "application/json"
  else "text/plain"

/-- The kind of text that a sample is, if it is one; its last character may be cut off. -/
def ofSample (sample : Bytes) : Option String :=
  match Utf8.decodeSample sample with
  | none => none
  | some text => if text.any isUnprintable then none else some (ofText text)

/-- The type that content seems to have. -/
def sniff (content : Bytes) : Option String :=
  if content.isEmpty then none
  else
    match signatures.find? fun s => s.1.isPrefixOf content with
    | some s => some s.2
    | none =>
        let head := content.take 12
        if head.length = 12 && head.take 4 == ascii "RIFF" && head.drop 8 == ascii "WEBP" then
          some "image/webp"
        else if head.length = 12 && (head.drop 4).take 4 == ascii "ftyp" then some "video/mp4"
        else ofSample (content.take sampleSize)

end ContentType
end ContentGateway
