/-!
# Blank text

White space as Unicode defines it, trimming, and the test that required strings
have to pass.
-/

namespace ContentGateway

/-- The characters with the Unicode property `White_Space`. -/
def isBlank (c : Char) : Bool :=
  let n := c.toNat
  (9 ≤ n && n ≤ 13) || n == 0x20 || n == 0x85 || n == 0xA0 || n == 0x1680
    || (0x2000 ≤ n && n ≤ 0x200A) || n == 0x2028 || n == 0x2029 || n == 0x202F
    || n == 0x205F || n == 0x3000

/-- The control characters, general category `Cc`. -/
def isControl (c : Char) : Bool :=
  let n := c.toNat
  n < 0x20 || (0x7F ≤ n && n < 0xA0)

/-- The ASCII blanks: space, tab, line feed, form feed and carriage return. -/
def isAsciiBlank (c : Char) : Bool :=
  c == ' ' || c == '\t' || c == '\n' || c == '\x0c' || c == '\r'

/-- A text without its leading and trailing characters that satisfy `p`. -/
def trimBy (p : Char -> Bool) (text : List Char) : List Char :=
  ((text.dropWhile p).reverse.dropWhile p).reverse

/-- A text without leading and trailing white space. -/
def trim (text : String) : String :=
  String.ofList (trimBy isBlank text.toList)

/-- Empty or white space only. -/
def isBlankText (text : String) : Bool :=
  text.toList.all isBlank

/-- A present text that is not blank; a blank one counts as absent. -/
def nonBlank (text : Option String) : Option String :=
  text.filter fun t => !isBlankText t

end ContentGateway
