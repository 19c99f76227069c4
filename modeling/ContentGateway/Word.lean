/-!
# Machine words

The numbers that sixty-four bits hold, without and with a sign.
-/

namespace ContentGateway

/-- The largest number without a sign. -/
def largestWord : Nat :=
  18446744073709551615

/-- The weight of the sign bit; the least number with a sign is this one below zero. -/
def signWeight : Nat :=
  9223372036854775808

end ContentGateway
