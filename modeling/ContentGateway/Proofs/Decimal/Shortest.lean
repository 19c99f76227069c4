import ContentGateway.Decimal.Shortest

/-!
# Shortest decimals

A shortest decimal is never a zero that is scaled up: a grid that is coarse enough to scale
digits up lies on the magnitude of the value, and there the value has digits.
-/

namespace ContentGateway
namespace Decimal

/-- A zero is not written with more zeros behind it. -/
def Digits.Proper (d : Digits) : Prop :=
  d.digits = 0 -> d.exponent ≤ 0

theorem pow_length_le {n : Nat} (h : 1 < (Nat.toDigits 10 n).length) :
    Nat.pow 10 ((Nat.toDigits 10 n).length - 1) ≤ n := by
  have hshorter : ¬ (Nat.toDigits 10 n).length ≤ (Nat.toDigits 10 n).length - 1 := by
    omega
  exact Nat.not_lt.mp
    (mt (Nat.length_toDigits_le_iff (by decide) (by omega)).mpr hshorter)

theorem Interval.pow_magnitude_le {i : Interval} (h : 0 < i.magnitude) :
    Nat.pow 10 i.magnitude.toNat ≤ i.value / i.denominator := by
  unfold magnitude at h ⊢
  split
  · next hlarge =>
      rw [if_pos hlarge] at h
      have hlength : 1 < (Nat.toDigits 10 (i.value / i.denominator)).length := by
        omega
      refine Nat.le_trans (Nat.pow_le_pow_right (by decide) ?_) (pow_length_le hlength)
      omega
  · next hsmall =>
      rw [if_neg hsmall] at h
      have hneg : (0 : Int) < -((Nat.toDigits 10
          ((i.denominator + i.value - 1) / i.value - 1)).length : Int) := h
      omega

/-- No value vanishes on a grid that its magnitude lies on. -/
theorem Interval.floorOn_ne_zero {i : Interval} {exponent : Int} (hcoarse : 0 < exponent)
    (hle : exponent ≤ i.magnitude) : i.floorOn exponent ≠ 0 := by
  have hpow : Nat.pow 10 exponent.toNat ≤ i.value / i.denominator :=
    Nat.le_trans (Nat.pow_le_pow_right (by decide) (by omega))
      (pow_magnitude_le (Int.lt_of_lt_of_le hcoarse hle))
  have hpos : 0 < Nat.pow 10 exponent.toNat := Nat.pow_pos (by decide)
  have hfine : (-exponent).toNat = 0 := by
    omega
  have hone : Nat.pow 10 0 = 1 := rfl
  intro hfloor
  rw [floorOn, hfine, hone, Nat.mul_one] at hfloor
  rcases Nat.div_eq_zero_iff.mp hfloor with hzero | hless
  · rcases Nat.mul_eq_zero.mp hzero with hdenominator | hscale
    · rw [hdenominator, Nat.div_zero] at hpow
      omega
    · exact absurd hscale (Nat.ne_of_gt hpos)
  · have hquotient : i.value / i.denominator < Nat.pow 10 exponent.toNat :=
      Nat.div_lt_of_lt_mul hless
    omega

theorem Interval.proper_of_onGrid {i : Interval} {exponent : Int} {d : Digits}
    (h : i.onGrid exponent = some d) : d.Proper := by
  have habove : (Digits.mk (i.floorOn exponent + 1) exponent).Proper :=
    fun hzero => absurd hzero (Nat.succ_ne_zero _)
  have hbelow : i.floorOn exponent ≠ 0 -> (Digits.mk (i.floorOn exponent) exponent).Proper :=
    fun hfloor hzero => absurd hzero hfloor
  unfold onGrid at h
  simp only at h
  split at h
  · next hfloor _ =>
      have hfloor := hbelow (bne_iff_ne.mp (Bool.and_eq_true_iff.mp hfloor).1)
      split at h
      · cases h
        exact hfloor
      · cases h
        exact habove
      · split at h
        · cases h
          exact hfloor
        · cases h
          exact habove
  · next hfloor _ =>
      cases h
      exact hbelow (bne_iff_ne.mp (Bool.and_eq_true_iff.mp hfloor).1)
  · cases h
    exact habove
  · cases h

theorem Interval.proper_search (i : Interval) (more count : Nat) :
    (i.search i.magnitude more count).Proper := by
  induction more generalizing count with
  | zero =>
      intro hfloor
      apply Int.not_lt.mp
      intro hcoarse
      have hle : i.magnitude - count ≤ i.magnitude := by
        omega
      exact floorOn_ne_zero hcoarse hle hfloor
  | succ more ih =>
      rw [search]
      split
      · next h => exact proper_of_onGrid h
      · exact ih (count + 1)

theorem Digits.Proper.strip {d : Digits} (h : d.Proper) (n : Nat) : (d.strip n).Proper := by
  induction n generalizing d with
  | zero => exact h
  | succ n ih =>
      rw [Digits.strip]
      split
      · next hzeros =>
          apply ih
          intro hzero
          have hdigits : d.digits / 10 = 0 := hzero
          omega
      · exact h

theorem proper_shortest (x : Float) : (shortest x).Proper :=
  (Interval.proper_search _ 17 0).strip 20

end Decimal
end ContentGateway
