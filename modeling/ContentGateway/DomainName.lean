import ContentGateway.DomainName.Direction
import ContentGateway.DomainName.Joining
import ContentGateway.DomainName.Mapping
import ContentGateway.DomainName.Punycode
import ContentGateway.Text.Composition

/-!
# Domain names

A name consists of labels with dots between them.  It may hold characters of any script
and is written with ASCII characters only: a label with other characters is encoded and
then begins with `xn--`.  Every way of typing a name leads to one written form; a label
that is encoded already has to be what encoding writes.
-/

namespace ContentGateway
namespace DomainName

/-- No host holds these characters, which have a meaning in a URL. -/
def isReserved (c : Char) : Bool :=
  " #/:<>?@[\\]^|".toList.contains c

/-- No name holds these characters. -/
def isForbidden (c : Char) : Bool :=
  isReserved c || c.toNat < 0x20 || c.toNat == 0x7F || c == '%'

def isAscii (text : List Char) : Bool :=
  text.all fun c => c.toNat < 0x80

/-!
# Labels
-/

/-- The beginning of an encoded label. -/
def mark : List Char :=
  ['x', 'n', '-', '-']

/-- Labels with other characters than ASCII ones are not longer than this. -/
def longestLabel : Nat := 1000

/-- Encoded labels that are longer than this are not decoded. -/
def longestCode : Nat := 2000

/-- A label as it is meant and as it is written. -/
structure Label where
  meaning : List Char
  written : List Char

/-- A label may be encoded: no mark stands in front, and joiners have their places. -/
def isSound (label : List Char) : Bool :=
  label.length ≤ longestLabel && !mark.isPrefixOf label && !label.head?.any isMark
    && hasJoiners label

/-- Text that has no other form. -/
def isNormal (text : List Char) : Bool :=
  text.all isPlain && composed text == text

/-- The label that an encoded one stands for. -/
def decoded? (text : List Char) : Option Label := do
  let code := text.drop mark.length
  if !isAscii code || text.getLast? == some '-' || longestCode < code.length then none
  else
    let meaning ← Punycode.decode? code
    if isNormal meaning && isSound meaning then some ⟨meaning, text⟩ else none

def label? (text : List Char) : Option Label :=
  if mark.isPrefixOf text then decoded? text
  else if isAscii text then some ⟨text, text⟩
  else if isSound text then some ⟨text, mark ++ Punycode.encode text⟩
  else none

/-!
# Names
-/

/-- The characters that a name stands for, in composed form. -/
def plainText? (name : List Char) : Option (List Char) :=
  (name.mapM meaning?).map fun parts => composed parts.flatten

/-- The written form of a name. -/
def written? (name : List Char) : Option (List Char) := do
  let plain ← plainText? name
  if plain.any isForbidden then none
  else
    let labels ← (splitBy (· == '.') plain).mapM label?
    if hasDirections (labels.map Label.meaning) then
      some ((labels.map Label.written).intersperse ['.']).flatten
    else none

end DomainName
end ContentGateway
