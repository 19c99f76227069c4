import ContentGateway.Text.Hex

/-!
# ASCII characters

A property of ASCII characters is known from the first 128 code points, where it can be
evaluated.
-/

namespace ContentGateway

theorem of_ascii {P : Char -> Prop} (h : forall n, n < 128 -> P (Char.ofNat n)) {c : Char}
    (hc : c.toNat < 128) : P c := by
  have hpoint := h c.toNat hc
  rwa [Char.ofNat_toNat] at hpoint

/-- What can be evaluated for each character of a text holds of each. -/
theorem forall_of_all {P : Char -> Prop} [DecidablePred P] {text : List Char}
    (h : text.all (fun c => decide (P c)) = true) : forall c, c ∈ text -> P c :=
  fun c hc => of_decide_eq_true (List.all_eq_true.mp h c hc)

theorem between_iff_toNat (low high c : Char) :
    (low ≤ c && c ≤ high) = true ↔ low.toNat ≤ c.toNat ∧ c.toNat ≤ high.toNat := by
  rw [Bool.and_eq_true, decide_eq_true_eq, decide_eq_true_eq]
  exact Iff.rfl

theorem ascii_of_isAlphanum {c : Char} (h : c.isAlphanum = true) : c.toNat < 128 := by
  have hcases : ((c.isUpper || c.isLower) || c.isDigit) = true := h
  rw [Bool.or_eq_true, Bool.or_eq_true] at hcases
  rcases hcases with (hupper | hlower) | hdigit
  · have hbound : 'A'.toNat ≤ c.toNat ∧ c.toNat ≤ 'Z'.toNat := of_decide_eq_true hupper
    exact Nat.lt_of_le_of_lt hbound.2 (by decide)
  · have hbound := ((between_iff_toNat 'a' 'z' c).mp hlower).2
    exact Nat.lt_of_le_of_lt hbound (by decide)
  · have hbound := ((between_iff_toNat '0' '9' c).mp hdigit).2
    exact Nat.lt_of_le_of_lt hbound (by decide)

theorem ascii_of_isAlpha {c : Char} (h : c.isAlpha = true) : c.toNat < 128 :=
  ascii_of_isAlphanum (by rw [Char.isAlphanum, h]; rfl)

theorem ascii_of_hexValue? {c : Char} (h : (hexValue? c).isSome = true) : c.toNat < 128 := by
  unfold hexValue? at h
  split at h
  · next hdigit =>
      have hbound := ((between_iff_toNat '0' '9' c).mp hdigit).2
      exact Nat.lt_of_le_of_lt hbound (by decide)
  split at h
  · next hlower =>
      have hbound := ((between_iff_toNat 'a' 'f' c).mp hlower).2
      exact Nat.lt_of_le_of_lt hbound (by decide)
  split at h
  · next hupper =>
      have hbound := ((between_iff_toNat 'A' 'F' c).mp hupper).2
      exact Nat.lt_of_le_of_lt hbound (by decide)
  · cases h

end ContentGateway
