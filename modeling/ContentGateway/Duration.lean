/-!
# Durations

A span of time in nanoseconds and its text: the largest unit of which there is at
least one, with as many decimals as are needed.
-/

namespace ContentGateway

structure Duration where
  nanoseconds : Nat
  deriving DecidableEq, Repr

namespace Duration

def ofMillis (n : Nat) : Duration := ⟨n * 1000000⟩
def ofMicros (n : Nat) : Duration := ⟨n * 1000⟩
def ofSeconds (n : Nat) : Duration := ⟨n * 1000000000⟩

/-- The whole milliseconds that cover a span. -/
def millisUp (d : Duration) : Nat :=
  (d.nanoseconds + 999999) / 1000000

/-- The whole milliseconds within a span. -/
def millis (d : Duration) : Nat :=
  d.nanoseconds / 1000000

/-- The digits of a fraction of a unit of `10 ^ places`, without trailing zeros. -/
def decimals (fraction places : Nat) : List Char :=
  let digits := Nat.toDigits 10 fraction
  let padded := List.replicate (places - digits.length) '0' ++ digits
  (padded.reverse.dropWhile (· == '0')).reverse

/-- A count of units of `10 ^ places` nanoseconds with its unit. -/
def inUnit (nanoseconds places : Nat) (unit : String) : String :=
  let fraction := nanoseconds % Nat.pow 10 places
  let tail := if fraction = 0 then [] else '.' :: decimals fraction places
  String.ofList (Nat.toDigits 10 (nanoseconds / Nat.pow 10 places) ++ tail) ++ unit

def display (d : Duration) : String :=
  let n := d.nanoseconds
  if n ≥ 1000000000 then inUnit n 9 "s"
  else if n ≥ 1000000 then inUnit n 6 "ms"
  else if n ≥ 1000 then inUnit n 3 "µs"
  else inUnit n 0 "ns"

end Duration
end ContentGateway
