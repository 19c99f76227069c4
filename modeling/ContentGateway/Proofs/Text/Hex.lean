import Mathlib.Data.List.Basic
import Mathlib.Data.List.Induction
import ContentGateway.Decimal.Reading
import ContentGateway.Text.Hex

/-!
# Digits read back

The digits that a number is written with stand for that number, and zeros before
them do not count.
-/

namespace ContentGateway

theorem inBase?_append (base : Nat) (front back : List Char) :
    inBase? base (front ++ back) =
      (inBase? base front).bind fun n =>
        back.foldlM (fun n c => do
          let d ← hexValue? c
          if d < base then some (base * n + d) else none) n := by
  unfold inBase?
  rw [List.foldlM_append]
  rfl

theorem hexValue?_digitChar {d : Nat} (h : d < 16) : hexValue? (Nat.digitChar d) = some d := by
  decide +revert

theorem inBase?_concat_digitChar {base : Nat} (hbase : base ≤ 16) {front : List Char} {n d : Nat}
    (hfront : inBase? base front = some n) (hd : d < base) :
    inBase? base (front ++ [Nat.digitChar d]) = some (base * n + d) := by
  rw [inBase?_append, hfront]
  simp [hexValue?_digitChar (Nat.lt_of_lt_of_le hd hbase), hd]

theorem inBase?_toDigits {base : Nat} (hone : 1 < base) (hbase : base ≤ 16) (n : Nat) :
    inBase? base (Nat.toDigits base n) = some n := by
  induction n using Nat.strongRecOn with
  | ind n ih =>
      rw [Nat.toDigits_eq_if hone]
      split
      · next hsmall =>
          have hlast : inBase? base ([] ++ [Nat.digitChar n]) = some (base * 0 + n) :=
            inBase?_concat_digitChar hbase rfl hsmall
          rw [Nat.mul_zero, Nat.zero_add] at hlast
          exact hlast
      · next hlarge =>
          have hquotient : n / base < n :=
            Nat.div_lt_self (by omega) hone
          have hread := inBase?_concat_digitChar hbase (ih _ hquotient)
            (Nat.mod_lt n (by omega : 0 < base))
          rw [hread, Nat.div_add_mod]

theorem inBase?_replicate_zero {base : Nat} (hone : 1 < base) (count : Nat) :
    inBase? base (List.replicate count '0') = some 0 := by
  induction count with
  | zero => rfl
  | succ count ih =>
      have hzero : hexValue? '0' = some 0 := by
        decide
      rw [List.replicate_succ', inBase?_append, ih]
      simp [hzero, show 0 < base by omega]

theorem inBase?_padded {base : Nat} (hone : 1 < base) (hbase : base ≤ 16) (count n : Nat) :
    inBase? base (List.replicate count '0' ++ Nat.toDigits base n) = some n := by
  rw [inBase?_append, inBase?_replicate_zero hone]
  exact inBase?_toDigits hone hbase n

theorem digitChar_ne_zero {d : Nat} (hd : d < 10) (hpos : 0 < d) : Nat.digitChar d ≠ '0' := by
  decide +revert

theorem toDigits_head {n : Nat} (hn : 0 < n) :
    exists c digits, Nat.toDigits 10 n = c :: digits ∧ c ≠ '0' := by
  induction n using Nat.strongRecOn with
  | ind n ih =>
      rw [Nat.toDigits_eq_if (by decide)]
      split
      · next hsmall =>
          exact ⟨_, [], rfl, digitChar_ne_zero hsmall hn⟩
      · next hlarge =>
          rcases ih (n / 10) (by omega) (by omega) with ⟨c, digits, hdigits, hc⟩
          exact ⟨c, digits ++ [Nat.digitChar (n % 10)], by rw [hdigits]; rfl, hc⟩

/-!
# Decimal numbers
-/

namespace Decimal

theorem digit?_of_isDigit {c : Char} (h : c.isDigit = true) :
    digit? c = some (c.toNat - '0'.toNat) := by
  have hrange : ('0' ≤ c && c ≤ '9') = true := h
  unfold digit?
  rw [if_pos hrange]

theorem isDigit_of_digit? {c : Char} {d : Nat} (h : digit? c = some d) : c.isDigit = true := by
  unfold digit? at h
  split at h
  · assumption
  · cases h

theorem spanDigits_of_digits {digits : List Char} (h : forall c, c ∈ digits -> c.isDigit = true) :
    spanDigits digits = (digits.map fun c => c.toNat - '0'.toNat, []) := by
  induction digits with
  | nil => rfl
  | cons c digits ih =>
      rw [spanDigits, digit?_of_isDigit (h c List.mem_cons_self)]
      simp only [ih fun d hd => h d (List.mem_cons_of_mem _ hd), List.map_cons]

theorem digits_of_spanDigits {text : List Char} (h : (spanDigits text).2 = []) :
    forall c, c ∈ text -> c.isDigit = true := by
  induction text with
  | nil =>
      intro c hc
      cases hc
  | cons first rest ih =>
      rw [spanDigits] at h
      split at h
      · cases h
      · next hfirst =>
          intro c hc
          rcases List.mem_cons.mp hc with rfl | hrest
          · exact isDigit_of_digit? hfirst
          · exact ih h c hrest

theorem natural?_toDigits {limit n : Nat} (h : n ≤ limit) :
    natural? limit (String.ofList (Nat.toDigits 10 n)) = some n := by
  have hdigits : forall c, c ∈ Nat.toDigits 10 n -> c.isDigit = true :=
    fun c hc => Nat.isDigit_of_mem_toDigits (by decide) (by decide) hc
  have hvalue : ofDigits ((Nat.toDigits 10 n).map fun c => c.toNat - '0'.toNat) = n := by
    unfold ofDigits
    rw [List.foldl_map, ← Nat.ofDigitChars_eq_foldl]
    exact Nat.ofDigitChars_ten_toDigits
  have hspan := spanDigits_of_digits hdigits
  unfold natural?
  rw [String.toList_ofList]
  cases hcons : Nat.toDigits 10 n with
  | nil => exact absurd hcons Nat.toDigits_ne_nil
  | cons c rest =>
      have hplus : c ≠ '+' := by
        rintro rfl
        exact absurd (hdigits '+' (by rw [hcons]; exact List.mem_cons_self)) (by decide)
      rw [hcons, List.map_cons] at hspan hvalue
      generalize c.toNat - '0'.toNat = d at hspan hvalue
      generalize rest.map (fun c => c.toNat - '0'.toNat) = ds at hspan hvalue
      simp [hplus, hspan, hvalue, h]

theorem natural?_of_mem {limit : Nat} {text : List Char} {c : Char} (hc : c ∈ text)
    (hdigit : c.isDigit = false) (hplus : c ≠ '+') :
    natural? limit (String.ofList text) = none := by
  unfold natural?
  rw [String.toList_ofList]
  simp only
  split
  · next hspan =>
      split at hspan
      · next rest =>
          have hrest := (List.mem_cons.mp hc).resolve_left hplus
          have hall := digits_of_spanDigits (by rw [hspan]) c hrest
          rw [hdigit] at hall
          cases hall
      · have hall := digits_of_spanDigits (by rw [hspan]) c hc
        rw [hdigit] at hall
        cases hall
  · rfl

end Decimal

end ContentGateway
