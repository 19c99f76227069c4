/-!
# Reading decimals

The double that a decimal text stands for.  The texts are a sign, digits with a
point somewhere or nowhere, and an exponent; or the words for infinity and for
not a number in any case.
-/

namespace ContentGateway
namespace Decimal

/-- The value of a decimal digit. -/
def digit? (c : Char) : Option Nat :=
  if '0' ≤ c && c ≤ '9' then some (c.toNat - '0'.toNat) else none

/-- The value of a string of digits. -/
def ofDigits (digits : List Nat) : Nat :=
  digits.foldl (fun n d => 10 * n + d) 0

/-- The digits at the front and what follows them. -/
def spanDigits : List Char -> List Nat × List Char
  | [] => ([], [])
  | c :: rest =>
      match digit? c with
      | none => ([], c :: rest)
      | some d => let (ds, after) := spanDigits rest; (d :: ds, after)

/-- A natural number up to `limit`: digits, perhaps behind a plus sign. -/
def natural? (limit : Nat) (text : String) : Option Nat :=
  let digits := match text.toList with
    | '+' :: rest => rest
    | all => all
  match spanDigits digits with
  | (d :: ds, []) => if ofDigits (d :: ds) ≤ limit then some (ofDigits (d :: ds)) else none
  | _ => none

/-- A sign and what follows it. -/
def spanSign : List Char -> Bool × List Char
  | '-' :: rest => (true, rest)
  | '+' :: rest => (false, rest)
  | text => (false, text)

/--
The double nearest to `digits · 10 ^ exponent`.  Exponents far beyond the range of
doubles are answered without a power of ten.
-/
def nearest (digits : Nat) (exponent : Int) : Float :=
  let size := ((Nat.toDigits 10 digits).length : Int) + exponent
  if digits = 0 then 0.0
  else if size > 400 then Float.ofScientific 1 false 400
  else if size < -400 then 0.0
  else if exponent < 0 then Float.ofScientific digits true (-exponent).toNat
  else Float.ofScientific digits false exponent.toNat

/-- The exponent at the end of a decimal: nothing, or a mark with an optional sign and digits. -/
def readExponent : List Char -> Option Int
  | [] => some 0
  | c :: rest =>
      if c = 'e' ∨ c = 'E' then
        let (negative, rest) := spanSign rest
        match spanDigits rest with
        | (d :: ds, []) =>
            let n : Int := ofDigits (d :: ds)
            some (if negative then -n else n)
        | _ => none
      else none

/-- A decimal without a sign. -/
def readUnsigned (text : List Char) : Option Float :=
  let (whole, rest) := spanDigits text
  let (part, rest) := match rest with
    | '.' :: rest => spanDigits rest
    | rest => ([], rest)
  if whole.isEmpty && part.isEmpty then none
  else (readExponent rest).map fun e => nearest (ofDigits (whole ++ part)) (e - part.length)

/-- Is `text` the given lower case word in any ASCII case? -/
def isWord (text : List Char) (word : String) : Bool :=
  text.map (fun c => if 'A' ≤ c && c ≤ 'Z' then Char.ofNat (c.toNat + 32) else c) == word.toList

/-- The double that a text stands for. -/
def read? (text : String) : Option Float :=
  let (negative, rest) := spanSign text.toList
  let magnitude :=
    if isWord rest "inf" || isWord rest "infinity" then some (1.0 / 0.0)
    else if isWord rest "nan" then some (0.0 / 0.0)
    else readUnsigned rest
  magnitude.map fun x => if negative then -x else x

end Decimal
end ContentGateway
