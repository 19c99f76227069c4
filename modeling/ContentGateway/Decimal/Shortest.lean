/-!
# Shortest decimals

The decimal with the fewest digits that reads back as a given binary floating
point number, found in exact integer arithmetic: for one digit, two digits and so
on the two neighbours on that decimal grid are tested against the interval of
reals that round to the number.
-/

namespace ContentGateway
namespace Decimal

/-- A finite positive number `significand · 2 ^ exponent`, as the bits of a double give it. -/
structure Binary where
  significand : Nat
  exponent : Int
  /-- The next lower double is only half as far away as the next higher one. -/
  lowerIsNear : Bool

/-- The weight of the leading bit that a double does not write. -/
def hiddenBit : Nat := 4503599627370496

/-- Reads the bits of a double, the sign aside: fifty-two of the fraction below eleven of the scale. -/
def Binary.ofBits (bits : Nat) : Binary :=
  let fraction : Nat := bits % hiddenBit
  let scale : Nat := bits / hiddenBit % 2048
  if scale = 0 then ⟨fraction, -1074, false⟩
  else ⟨fraction + hiddenBit, Int.ofNat scale - 1075, fraction = 0 && scale > 1⟩

/-- A decimal `digits · 10 ^ exponent`. -/
structure Digits where
  digits : Nat
  exponent : Int
  deriving DecidableEq, Repr

/--
The interval of reals that round to a number, and the number itself, as numerators
over one denominator.
-/
structure Interval where
  low : Nat
  value : Nat
  high : Nat
  denominator : Nat
  /-- The ends belong to it. -/
  closed : Bool

def Binary.interval (b : Binary) : Interval :=
  let up := Nat.pow 2 (b.exponent - 2).toNat
  let low := 4 * b.significand - (if b.lowerIsNear then 1 else 2)
  ⟨low * up, 4 * b.significand * up, (4 * b.significand + 2) * up,
    Nat.pow 2 (2 - b.exponent).toNat, b.significand % 2 = 0⟩

/-- The interval holds `digits · 10 ^ exponent`. -/
def Interval.holds (i : Interval) (d : Digits) : Bool :=
  let n := d.digits * Nat.pow 10 d.exponent.toNat * i.denominator
  let scale := Nat.pow 10 (-d.exponent).toNat
  if i.closed then i.low * scale ≤ n && n ≤ i.high * scale
  else i.low * scale < n && n < i.high * scale

/-- The greatest multiple of `10 ^ exponent` that is not above the value. -/
def Interval.floorOn (i : Interval) (exponent : Int) : Nat :=
  i.value * Nat.pow 10 (-exponent).toNat / (i.denominator * Nat.pow 10 exponent.toNat)

/-- Twice the distance from that multiple, less one grid step, has this sign. -/
def Interval.pastMiddle (i : Interval) (floor : Nat) (exponent : Int) : Ordering :=
  compare (2 * i.value * Nat.pow 10 (-exponent).toNat)
    ((2 * floor + 1) * i.denominator * Nat.pow 10 exponent.toNat)

/-- The point nearest to the value among its neighbours on a grid that the interval holds; a tie goes to the even one. -/
def Interval.onGrid (i : Interval) (exponent : Int) : Option Digits :=
  let floor := i.floorOn exponent
  let below : Digits := ⟨floor, exponent⟩
  let above : Digits := ⟨floor + 1, exponent⟩
  match floor != 0 && i.holds below, i.holds above with
  | true, true =>
      match i.pastMiddle floor exponent with
      | .lt => some below
      | .gt => some above
      | .eq => some (if floor % 2 = 0 then below else above)
  | true, false => some below
  | false, true => some above
  | false, false => none

/-- The decimal exponent of the first digit: `10 ^ e ≤ value < 10 ^ (e + 1)`. -/
def Interval.magnitude (i : Interval) : Int :=
  if i.value ≥ i.denominator then
    ((Nat.toDigits 10 (i.value / i.denominator)).length : Int) - 1
  else
    -- the ceiling of denominator / value lies in (10 ^ (n - 1), 10 ^ n]
    let inverse := (i.denominator + i.value - 1) / i.value
    Int.neg (Nat.toDigits 10 (inverse - 1)).length

/-- The first grid with a hit, from `count` digits on. -/
def Interval.search (i : Interval) (magnitude : Int) : Nat -> Nat -> Digits
  | 0, count => ⟨i.floorOn (magnitude - count), magnitude - count⟩
  | more + 1, count =>
      match i.onGrid (magnitude - count) with
      | some d => d
      | none => i.search magnitude more (count + 1)

/-- The digits without trailing zeros. -/
def Digits.strip (d : Digits) : Nat -> Digits
  | 0 => d
  | n + 1 => if d.digits ≠ 0 ∧ d.digits % 10 = 0 then
      Digits.strip ⟨d.digits / 10, d.exponent + 1⟩ n else d

/-- The shortest decimal of a finite double other than zero, the sign aside. -/
def shortest (x : Float) : Digits :=
  let i := (Binary.ofBits x.abs.toBits.toNat).interval
  (i.search i.magnitude 17 0).strip 20

end Decimal
end ContentGateway
