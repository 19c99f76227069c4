import ContentGateway.Decimal.Reading
import ContentGateway.Json.Tree
import ContentGateway.Text.Hex
import ContentGateway.Text.Utf8

/-!
# JSON texts

The tree of a text.  A text is a list of glyphs, characters and places where the
bytes form no character.  Strings and numbers are read by plain recursion on the
text; the containers recurse on a bound for the number of steps, which the length
of the text gives.
-/

namespace ContentGateway

/-- A character, or bytes that form none. -/
abbrev Glyph := Option Char

namespace JsonText

/-- The four blanks that may stand between the parts of a text. -/
def isGap (g : Glyph) : Bool :=
  g == some ' ' || g == some '\n' || g == some '\t' || g == some '\r'

def skipGap (text : List Glyph) : List Glyph :=
  text.dropWhile isGap

/-!
# Strings
-/

/-- The number that four hexadecimal digits stand for. -/
def hexUnit? (a b c d : Glyph) : Option Nat := do
  let a ← a.bind hexValue?
  let b ← b.bind hexValue?
  let c ← c.bind hexValue?
  let d ← d.bind hexValue?
  pure (a * 4096 + b * 256 + c * 16 + d)

/-- The character that a short escape stands for. -/
def escaped? : Char -> Option Char
  | '"' => some '"'
  | '\\' => some '\\'
  | '/' => some '/'
  | 'b' => some '\x08'
  | 'f' => some '\x0c'
  | 'n' => some '\n'
  | 'r' => some '\r'
  | 't' => some '\t'
  | _ => none

def isHighHalf (n : Nat) : Bool := 0xD800 ≤ n && n < 0xDC00
def isLowHalf (n : Nat) : Bool := 0xDC00 ≤ n && n < 0xE000

/--
Reads a string behind its opening quote.  `high` is the first half of a surrogate
pair that waits for the second one, `sound` tells whether everything so far formed
characters, and `done` holds these, last first.  No answer means that the text is
malformed here; an answer without a string that its content forms no text.
-/
def readString (high : Option Nat) (sound : Bool) (done : List Char) :
    List Glyph -> Option (Option String × List Glyph)
  | [] => none
  | none :: rest => readString none false done rest
  | some c :: rest =>
      let settled := sound && high.isNone
      if c = '"' then
        some (if settled then some (String.ofList done.reverse) else none, rest)
      else if c = '\\' then
        match rest with
        | some 'u' :: w :: x :: y :: z :: rest =>
            match hexUnit? w x y z with
            | none => none
            | some n =>
                if isHighHalf n then readString (some n) settled done rest
                else if isLowHalf n then
                  match high with
                  | none => readString none false done rest
                  | some h =>
                      let c := Char.ofNat (0x10000 + (h - 0xD800) * 0x400 + (n - 0xDC00))
                      readString none sound (c :: done) rest
                else readString none settled (Char.ofNat n :: done) rest
        | some e :: rest =>
            match escaped? e with
            | none => none
            | some c => readString none settled (c :: done) rest
        | _ => none
      else if c.toNat < 32 then none
      else readString none settled (c :: done) rest

/-!
# Numbers
-/

def spanDigits : List Glyph -> List Nat × List Glyph
  | some c :: rest =>
      match Decimal.digit? c with
      | some d => let (ds, after) := spanDigits rest; (d :: ds, after)
      | none => ([], some c :: rest)
  | text => ([], text)

/-- Takes digits while the number fits in a word; the second part holds the digits not taken. -/
def takeWord : Nat -> List Nat -> Nat × List Nat
  | n, [] => (n, [])
  | n, d :: rest => if 10 * n + d ≤ largestWord then takeWord (10 * n + d) rest else (n, d :: rest)

def tenToThe (n : Nat) : Float :=
  Float.ofScientific 1 false n

/--
The double for `significand · 10 ^ exponent` by one multiplication or division with
a power of ten, two divisions below its range; nothing if it is infinite.
-/
def scale (significand : Nat) (exponent : Int) : Option Float :=
  let x := Float.ofNat significand
  if exponent ≥ 0 then
    if exponent ≤ 308 then
      let y := x * tenToThe exponent.toNat
      if y.isInf then none else some y
    else if significand = 0 then some x
    else none
  else
    let n := (-exponent).toNat
    if n ≤ 308 then some (x / tenToThe n)
    else if n ≤ 616 then some (x / tenToThe 308 / tenToThe (n - 308))
    else some 0.0

def signedFloat (negative : Bool) (significand : Nat) (exponent : Int) : Option Number :=
  (scale significand exponent).map fun x => .float (if negative then -x else x)

/-- An integer; minus zero and what is out of the range of words are doubles. -/
def signedInt (negative : Bool) (n : Nat) : Number :=
  if negative then
    if 0 < n && n ≤ signWeight then .int (-(n : Int)) else .float (-(Float.ofNat n))
  else .int n

/-- The exponent and the end of a number whose digits have been read. -/
def readScale (negative : Bool) (significand : Nat) (exponent : Int) (text : List Glyph) :
    Option (Option Number × List Glyph) :=
  match text with
  | some e :: rest =>
      if e = 'e' ∨ e = 'E' then
        let (down, rest) := match rest with
          | some '-' :: rest => (true, rest)
          | some '+' :: rest => (false, rest)
          | rest => (false, rest)
        match spanDigits rest with
        | ([], _) => none
        | (digits, rest) =>
            let n : Int := Decimal.ofDigits digits
            some (signedFloat negative significand (exponent + (if down then -n else n)), rest)
      else some (signedFloat negative significand exponent, text)
  | _ => some (signedFloat negative significand exponent, text)

/-- Does an exponent follow? -/
def startsExponent : List Glyph -> Bool
  | some c :: _ => c = 'e' || c = 'E'
  | _ => false

/-- Reads a number behind its sign.  The inner `none` stands for one that is out of range. -/
def readNumber (negative : Bool) (text : List Glyph) : Option (Option Number × List Glyph) :=
  match spanDigits text with
  | ([], _) => none
  | (0 :: _ :: _, _) => none
  | (whole, rest) =>
      let (n, unread) := takeWord 0 whole
      match rest with
      | some '.' :: rest =>
          match spanDigits rest with
          | ([], _) => none
          | (part, rest) =>
              let (n, dropped) := takeWord n part
              let taken : Int := (part.length : Int) - dropped.length
              readScale negative n (unread.length - taken) rest
      | rest =>
          if unread.isEmpty && !startsExponent rest then some (some (signedInt negative n), rest)
          else readScale negative n unread.length rest

/-!
# Containers
-/

/-- Marks a container when no further one may be opened. -/
def bounded (room : Nat) (t : Tree) : Tree :=
  if room = 0 then .tooDeep t else t

mutual

/-- Reads a value; there is no rest if the text is malformed in it. -/
def readValue : Nat -> Nat -> List Glyph -> Tree × Option (List Glyph)
  | 0, _, _ => (.broken, none)
  | steps + 1, room, text =>
      match skipGap text with
      | some 'n' :: some 'u' :: some 'l' :: some 'l' :: rest => (.null, some rest)
      | some 't' :: some 'r' :: some 'u' :: some 'e' :: rest => (.bool true, some rest)
      | some 'f' :: some 'a' :: some 'l' :: some 's' :: some 'e' :: rest => (.bool false, some rest)
      | some '"' :: rest =>
          match readString none true [] rest with
          | none => (.broken, none)
          | some (s, rest) => (.string s, some rest)
      | some '[' :: rest =>
          match skipGap rest with
          | some ']' :: rest => (bounded room (.array [] true), some rest)
          | rest =>
              let (items, after) := readItems steps (room - 1) rest
              (bounded room (.array items after.isSome), after)
      | some '\x7b' :: rest =>
          match skipGap rest with
          | some '\x7d' :: rest => (bounded room (.object [] true), some rest)
          | rest =>
              let (members, after) := readMembers steps (room - 1) rest
              (bounded room (.object members after.isSome), after)
      | some '-' :: rest =>
          match readNumber true rest with
          | none => (.broken, none)
          | some (n, rest) => (.number n, some rest)
      | text =>
          match readNumber false text with
          | none => (.broken, none)
          | some (n, rest) => (.number n, some rest)

/-- Reads the items of an array and its closing bracket. -/
def readItems : Nat -> Nat -> List Glyph -> List Tree × Option (List Glyph)
  | 0, _, _ => ([], none)
  | steps + 1, room, text =>
      match readValue steps room text with
      | (t, none) => ([t], none)
      | (t, some rest) =>
          match skipGap rest with
          | some ',' :: rest =>
              let (ts, after) := readItems steps room rest
              (t :: ts, after)
          | some ']' :: rest => ([t], some rest)
          | _ => ([t], none)

/-- Reads the members of an object and its closing brace. -/
def readMembers : Nat -> Nat -> List Glyph -> List (Option String × Tree) × Option (List Glyph)
  | 0, _, _ => ([], none)
  | steps + 1, room, text =>
      match skipGap text with
      | some '"' :: rest =>
          match readString none true [] rest with
          | none => ([], none)
          | some (k, rest) =>
              match skipGap rest with
              | some ':' :: rest =>
                  match readValue steps room rest with
                  | (t, none) => ([(k, t)], none)
                  | (t, some rest) =>
                      match skipGap rest with
                      | some ',' :: rest =>
                          let (ms, after) := readMembers steps room rest
                          ((k, t) :: ms, after)
                      | some '\x7d' :: rest => ([(k, t)], some rest)
                      | _ => ([(k, t)], none)
              | _ => ([(k, .broken)], none)
      | _ => ([], none)

end

/-- Containers may be nested this deep. -/
def maxDepth : Nat := 127

/-- The tree of a text, and whether nothing but blanks follows it. -/
def tree (text : List Glyph) : Tree × Bool :=
  match readValue (2 * text.length + 2) maxDepth text with
  | (t, none) => (t, true)
  | (t, some rest) => (t, (skipGap rest).isEmpty)

/-- Reads the value at the front of bytes; what follows it is not looked at. -/
def readFrontAs (read : Tree -> Except Fault α) (bytes : List UInt8) : Except Fault α :=
  read (tree (Utf8.glyphs bytes)).1

/-- Reads a whole text as a value of a type.  What follows the value is looked at last. -/
def readAs (read : Tree -> Except Fault α) (text : List Glyph) : Except Fault α :=
  let (t, ended) := tree text
  match read t with
  | .error e => .error e
  | .ok v => if ended then .ok v else .error .malformed

/-- Reads bytes as a value of a type. -/
def readBytesAs (read : Tree -> Except Fault α) (bytes : List UInt8) : Except Fault α :=
  readAs read (Utf8.glyphs bytes)

/-- Reads a string as a value of a type. -/
def readStringAs (read : Tree -> Except Fault α) (text : String) : Except Fault α :=
  readAs read (text.toList.map some)

end JsonText

/-- The value that a text stands for. -/
def Json.parse? (text : String) : Option Json :=
  (JsonText.readStringAs Tree.toJson text).toOption

end ContentGateway
