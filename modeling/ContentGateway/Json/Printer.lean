import ContentGateway.Decimal.Shortest
import ContentGateway.Json.Basic
import ContentGateway.Text.Hex

/-!
# Writing JSON

The compact text of a value: no blanks, members in ascending order of their
names, in strings only what has to be escaped, and doubles with the fewest digits
that read back.
-/

namespace ContentGateway

/-- How doubles are written. -/
structure FloatStyle where
  /-- The decimal point may stand after at most this many digits. -/
  wholeDigits : Int
  /-- At most this many zeros stand between the point and the first digit. -/
  leadingZeros : Int

namespace Json

/-- Up to sixteen digits before the point, up to four zeros behind it, else an exponent with its sign. -/
def floatStyle : FloatStyle := ⟨16, 4⟩

def zeros (n : Int) : List Char :=
  List.replicate n.toNat '0'

/-- The decimal digits of an integer. -/
def intText (n : Int) : List Char :=
  (if n < 0 then ['-'] else []) ++ Nat.toDigits 10 n.natAbs

/-- Writes `digits · 10 ^ exponent`, always with a point or an exponent. -/
def digitsText (style : FloatStyle) (d : Decimal.Digits) : List Char :=
  let text := Nat.toDigits 10 d.digits
  let point := (text.length : Int) + d.exponent
  if 0 ≤ d.exponent && point ≤ style.wholeDigits then
    text ++ zeros d.exponent ++ ['.', '0']
  else if 0 < point && point ≤ style.wholeDigits then
    text.take point.toNat ++ '.' :: text.drop point.toNat
  else if point ≤ 0 && (-point) ≤ style.leadingZeros then
    '0' :: '.' :: zeros (-point) ++ text
  else
    text.take 1 ++ (if text.length = 1 then [] else '.' :: text.drop 1)
      ++ 'e' :: (if point ≥ 1 then ['+'] else []) ++ intText (point - 1)

/-- The text of a double; JSON has none for infinities and for not a number. -/
def floatText (x : Float) : List Char :=
  if !x.isFinite then "null".toList
  else
    let negative := x.toBits.toNat ≥ signWeight
    let magnitude :=
      if x == 0.0 then "0.0".toList else digitsText floatStyle (Decimal.shortest x)
    (if negative then ['-'] else []) ++ magnitude

def numberText : Number -> List Char
  | .int n => intText n
  | .float x => floatText x

/-- A character inside a string: quotes, backslashes and control characters are escaped. -/
def escape (c : Char) : List Char :=
  if c = '"' then ['\\', '"']
  else if c = '\\' then ['\\', '\\']
  else if c = '\x08' then ['\\', 'b']
  else if c = '\x0c' then ['\\', 'f']
  else if c = '\n' then ['\\', 'n']
  else if c = '\r' then ['\\', 'r']
  else if c = '\t' then ['\\', 't']
  else if c.toNat < 32 then
    ['\\', 'u', '0', '0', hexDigit (c.toNat / 16), hexDigit (c.toNat % 16)]
  else [c]

/-- A string with its quotes. -/
def quote (s : String) : List Char :=
  '"' :: s.toList.flatMap escape ++ ['"']

mutual

/-- The compact text of a value. -/
def render : Json -> List Char
  | .null => ['n', 'u', 'l', 'l']
  | .bool true => ['t', 'r', 'u', 'e']
  | .bool false => ['f', 'a', 'l', 's', 'e']
  | .number n => numberText n
  | .string s => quote s
  | .array items => '[' :: renderItems items
  | .object members => '\x7b' :: renderMembers members

/-- The items of an array and the closing bracket. -/
def renderItems : List Json -> List Char
  | [] => [']']
  | [v] => render v ++ [']']
  | v :: rest => render v ++ ',' :: renderItems rest

/-- The members of an object and the closing brace. -/
def renderMembers : List (String × Json) -> List Char
  | [] => ['\x7d']
  | [(k, v)] => quote k ++ ':' :: render v ++ ['\x7d']
  | (k, v) :: rest => quote k ++ ':' :: render v ++ ',' :: renderMembers rest

end

/-- The compact text of a value, as a string. -/
def compact (v : Json) : String :=
  String.ofList (render v)

end Json
end ContentGateway
