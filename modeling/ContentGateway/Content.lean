import ContentGateway.Digest.Sha256
import ContentGateway.Text.Hex
import ContentGateway.Text.Utf8

/-!
# Content

Content is a sequence of bytes.  Its identity is a digest of the bytes, so equal
content has one identity wherever it is stored.
-/

namespace ContentGateway

abbrev Bytes := List UInt8

/-- The identity of content: the word `sha256`, a dash and the digest. -/
def contentId (content : Bytes) : String :=
  String.ofList ("sha256-".toList ++ hexText (Sha256.digest content))

end ContentGateway
