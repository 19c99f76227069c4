import Mathlib.Data.List.Flatten
import ContentGateway.Proofs.Text.Ascii
import ContentGateway.Proofs.Text.Utf8
import ContentGateway.Url.Percent

/-!
# Percent encoding read back

A text in which the percent sign is among the characters that are encoded is read back as
its UTF-8 form.  Where percent signs are kept, encoding changes nothing of what is read.
-/

namespace ContentGateway
namespace Percent

/-!
# Bytes
-/

theorem hexValue?_upperHexDigit {n : Nat} (h : n < 16) : hexValue? (upperHexDigit n) = some n := by
  decide +revert

theorem byte?_upperHexDigit (b : UInt8) :
    byte? (upperHexDigit (b.toNat / 16)) (upperHexDigit (b.toNat % 16)) = some b := by
  have hb : b.toNat < 256 := UInt8.toNat_lt b
  have hsum : 16 * (b.toNat / 16) + b.toNat % 16 = b.toNat := Nat.div_add_mod b.toNat 16
  unfold byte?
  rw [hexValue?_upperHexDigit (by omega), hexValue?_upperHexDigit (by omega)]
  show some (UInt8.ofNat (16 * (b.toNat / 16) + b.toNat % 16)) = some b
  rw [hsum, UInt8.ofNat_toNat]

theorem decode_encodeByte (b : UInt8) (rest : List Char) :
    decode (encodeByte b ++ rest) = b :: decode rest := by
  show decode ('%' :: upperHexDigit (b.toNat / 16) :: upperHexDigit (b.toNat % 16) :: rest) = _
  rw [decode, byte?_upperHexDigit]

theorem decode_encodeBytes (bytes : List UInt8) (rest : List Char) :
    decode (bytes.flatMap encodeByte ++ rest) = bytes ++ decode rest := by
  induction bytes with
  | nil => rfl
  | cons b bytes ih =>
      rw [List.flatMap_cons, List.append_assoc, decode_encodeByte, ih]
      rfl

theorem decode_cons {c : Char} (h : c ≠ '%') (rest : List Char) :
    decode (c :: rest) = Utf8.encodeChar c ++ decode rest := by
  rw [decode]
  intro _ _ _ hc
  exact absurd hc h

/-!
# Texts without percent signs of their own
-/

theorem decode_of_absent {text : List Char} (h : '%' ∉ text) : decode text = Utf8.encode text := by
  induction text with
  | nil => rfl
  | cons c rest ih =>
      rw [List.mem_cons, not_or] at h
      rw [decode_cons (Ne.symm h.1), ih h.2]
      rfl

theorem decode_encode {excluded : Char -> Bool} (h : excluded '%' = true) (text : List Char) :
    decode (encode excluded text) = Utf8.encode text := by
  unfold encode Utf8.encode
  induction text with
  | nil => rfl
  | cons c rest ih =>
      rw [List.flatMap_cons, List.flatMap_cons, encodeChar]
      split
      · rw [decode_encodeBytes, ih]
      · next hkept =>
          have hc : c ≠ '%' := by
            rintro rfl
            exact hkept h
          rw [List.singleton_append, decode_cons hc, ih]

/-!
# Texts that may hold percent signs
-/

def front? : List Char -> Option UInt8
  | high :: low :: _ => byte? high low
  | _ => none

theorem decode_percent (rest : List Char) :
    decode ('%' :: rest) =
      match front? rest with
      | some b => b :: decode (rest.drop 2)
      | none => Utf8.encodeChar '%' ++ decode rest := by
  cases rest with
  | nil => rfl
  | cons high rest =>
      cases rest with
      | nil => rfl
      | cons low rest =>
          rw [decode]
          rfl

/-- What is encoded keeps percent signs and hexadecimal digits as they are. -/
structure Sparing (excluded : Char -> Bool) : Prop where
  percent : excluded '%' = false
  digits : forall c, (hexValue? c).isSome = true -> excluded c = false

theorem byte?_of_high {high : Char} (h : hexValue? high = none) (low : Char) :
    byte? high low = none := by
  unfold byte?
  rw [h]
  rfl

theorem byte?_of_low {low : Char} (h : hexValue? low = none) (high : Char) :
    byte? high low = none := by
  unfold byte?
  rw [h]
  cases hexValue? high with
  | none => rfl
  | some value => rfl

theorem hexValue?_of_byte? {high low : Char} {b : UInt8} (h : byte? high low = some b) :
    (hexValue? high).isSome = true ∧ (hexValue? low).isSome = true := by
  constructor
  · cases hhigh : hexValue? high with
    | none =>
        rw [byte?_of_high hhigh] at h
        cases h
    | some value => rfl
  · cases hlow : hexValue? low with
    | none =>
        rw [byte?_of_low hlow] at h
        cases h
    | some value => rfl

section Sparing

variable {excluded : Char -> Bool}

theorem encode_cons_kept {c : Char} (h : excluded c = false) (rest : List Char) :
    encode excluded (c :: rest) = c :: encode excluded rest := by
  unfold encode
  rw [List.flatMap_cons, encodeChar, h]
  rfl

theorem encode_cons_excluded {c : Char} (h : excluded c = true) (rest : List Char) :
    exists after, encode excluded (c :: rest) = '%' :: after := by
  unfold encode
  rw [List.flatMap_cons, encodeChar, h]
  simp only [if_true]
  cases hbytes : Utf8.encodeChar c with
  | nil => exact absurd hbytes (Utf8.encodeChar_ne_nil c)
  | cons b bytes =>
      rw [List.flatMap_cons]
      exact ⟨_, rfl⟩

theorem encode_cons (excluded : Char -> Bool) (c : Char) (rest : List Char) :
    encode excluded (c :: rest) = c :: encode excluded rest ∨
      excluded c = true ∧ exists after, encode excluded (c :: rest) = '%' :: after := by
  cases h : excluded c with
  | false => exact .inl (encode_cons_kept h rest)
  | true => exact .inr ⟨rfl, encode_cons_excluded h rest⟩

theorem hexValue?_percent : hexValue? '%' = none := by
  decide

theorem hexValue?_of_excluded (h : Sparing excluded) {c : Char} (hc : excluded c = true) :
    hexValue? c = none := by
  cases hvalue : hexValue? c with
  | none => rfl
  | some value =>
      have hkept := h.digits c (by rw [hvalue]; rfl)
      rw [hc] at hkept
      cases hkept

theorem front?_of_high {high : Char} (h : hexValue? high = none) (rest : List Char) :
    front? (high :: rest) = none := by
  cases rest with
  | nil => rfl
  | cons low rest => exact byte?_of_high h low

/-- Encoding neither makes nor breaks a pair of digits behind a percent sign. -/
theorem front?_encode (h : Sparing excluded) (rest : List Char) :
    front? (encode excluded rest) = front? rest := by
  cases rest with
  | nil => rfl
  | cons high rest =>
      rcases encode_cons excluded high rest with hhigh | ⟨hhigh, after, hafter⟩
      · rw [hhigh]
        cases rest with
        | nil => rfl
        | cons low rest =>
            rcases encode_cons excluded low rest with hlow | ⟨hlow, after, hafter⟩
            · rw [hlow]
              rfl
            · rw [hafter]
              show byte? high '%' = byte? high low
              rw [byte?_of_low hexValue?_percent, byte?_of_low (hexValue?_of_excluded h hlow)]
      · rw [hafter, front?_of_high hexValue?_percent,
          front?_of_high (hexValue?_of_excluded h hhigh)]

theorem drop_encode (h : Sparing excluded) {rest : List Char} {b : UInt8}
    (hfront : front? rest = some b) :
    (encode excluded rest).drop 2 = encode excluded (rest.drop 2) := by
  cases rest with
  | nil => cases hfront
  | cons high rest =>
      cases rest with
      | nil => cases hfront
      | cons low rest =>
          rcases hexValue?_of_byte? hfront with ⟨hhigh, hlow⟩
          rw [encode_cons_kept (h.digits high hhigh), encode_cons_kept (h.digits low hlow)]
          rfl

/-- Where percent signs are kept, a text is read as it was before it was encoded. -/
theorem decode_encode_of_sparing (h : Sparing excluded) (text : List Char) :
    decode (encode excluded text) = decode text := by
  induction hlength : text.length using Nat.strongRecOn generalizing text with
  | ind length ih =>
      subst hlength
      cases text with
      | nil => rfl
      | cons c rest =>
          have hrest : decode (encode excluded rest) = decode rest :=
            ih rest.length (Nat.lt_succ_self _) rest rfl
          by_cases hc : c = '%'
          · subst hc
            rw [encode_cons_kept h.percent, decode_percent, decode_percent, front?_encode h, hrest]
            cases hfront : front? rest with
            | none => rfl
            | some b =>
                have hshort : (rest.drop 2).length < ('%' :: rest).length := by
                  rw [List.length_drop, List.length_cons]
                  omega
                simp only
                rw [drop_encode h hfront, ih _ hshort _ rfl]
          · rw [decode_cons hc, ← hrest]
            unfold encode
            rw [List.flatMap_cons, encodeChar]
            split
            · rw [decode_encodeBytes]
            · rw [List.singleton_append, decode_cons hc]

end Sparing

/-!
# Texts that are encoded already
-/

theorem encode_eq_self {excluded : Char -> Bool} {text : List Char}
    (h : forall c, c ∈ text -> excluded c = false) : encode excluded text = text := by
  induction text with
  | nil => rfl
  | cons c rest ih =>
      rw [encode_cons_kept (h c List.mem_cons_self),
        ih fun d hd => h d (List.mem_cons_of_mem _ hd)]

theorem mem_encodeByte {b : UInt8} {c : Char} (h : c ∈ encodeByte b) :
    c = '%' ∨ (hexValue? c).isSome = true := by
  have hb : b.toNat < 256 := UInt8.toNat_lt b
  have hdigits : c = '%' ∨ c = upperHexDigit (b.toNat / 16) ∨
      c = upperHexDigit (b.toNat % 16) := by
    simpa [encodeByte] using h
  rcases hdigits with hc | hc | hc
  · exact .inl hc
  · rw [hc, hexValue?_upperHexDigit (by omega)]
    exact .inr rfl
  · rw [hc, hexValue?_upperHexDigit (by omega)]
    exact .inr rfl

theorem mem_encode {excluded : Char -> Bool} {text : List Char} {c : Char}
    (h : c ∈ encode excluded text) :
    (c ∈ text ∧ excluded c = false) ∨ c = '%' ∨ (hexValue? c).isSome = true := by
  unfold encode at h
  rcases List.mem_flatMap.mp h with ⟨d, hd, hc⟩
  unfold encodeChar at hc
  split at hc
  · rcases List.mem_flatMap.mp hc with ⟨b, _, hc⟩
    exact .inr (mem_encodeByte hc)
  · next hkept =>
      rw [List.mem_singleton.mp hc]
      exact .inl ⟨hd, eq_false_of_ne_true hkept⟩

theorem Sparing.kept_of_mem_encode {excluded : Char -> Bool} (h : Sparing excluded)
    {text : List Char} {c : Char} (hc : c ∈ encode excluded text) : excluded c = false := by
  rcases mem_encode hc with ⟨_, hkept⟩ | rfl | hdigit
  · exact hkept
  · exact h.percent
  · exact h.digits c hdigit

theorem ascii_of_not_inPath {c : Char} (h : inPath c = false) : c.toNat < 128 := by
  by_contra hlarge
  have hexcluded : inPath c = true := by
    simp [inPath, inFragment, inControls, show 0x7F ≤ c.toNat by omega]
  rw [hexcluded] at h
  cases h

theorem not_inPath_of_not_inUserInfo {c : Char} (h : inUserInfo c = false) : inPath c = false := by
  unfold inUserInfo at h
  exact (Bool.or_eq_false_iff.mp h).1

theorem sparing_inPath : Sparing inPath := by
  refine ⟨by decide, ?_⟩
  intro c hc
  exact of_ascii (P := fun c => (hexValue? c).isSome = true -> inPath c = false)
    (by decide +kernel) (ascii_of_hexValue? hc) hc

theorem sparing_inUserInfo : Sparing inUserInfo := by
  refine ⟨by decide, ?_⟩
  intro c hc
  exact of_ascii (P := fun c => (hexValue? c).isSome = true -> inUserInfo c = false)
    (by decide +kernel) (ascii_of_hexValue? hc) hc

/-!
# Lengths
-/

theorem length_encodeChar_percent : (Utf8.encodeChar '%').length = 1 := rfl

theorem length_decode_le (text : List Char) :
    (decode text).length ≤ (Utf8.encode text).length := by
  induction hlength : text.length using Nat.strongRecOn generalizing text with
  | ind length ih =>
      subst hlength
      cases text with
      | nil => exact Nat.le_refl _
      | cons c rest =>
          have hrest := ih rest.length (Nat.lt_succ_self _) rest rfl
          have hencode : Utf8.encode (c :: rest) = Utf8.encodeChar c ++ Utf8.encode rest := rfl
          by_cases hc : c = '%'
          · subst hc
            rw [decode_percent, hencode, List.length_append]
            cases hfront : front? rest with
            | none =>
                simp only
                rw [List.length_append]
                omega
            | some b =>
                have hshort : (rest.drop 2).length < ('%' :: rest).length := by
                  rw [List.length_drop, List.length_cons]
                  omega
                have hdrop := ih _ hshort _ rfl
                have hsublist : (Utf8.encode (rest.drop 2)).length ≤ (Utf8.encode rest).length :=
                  ((List.drop_sublist 2 rest).flatMap Utf8.encodeChar).length_le
                simp only
                rw [List.length_cons, length_encodeChar_percent]
                omega
          · rw [decode_cons hc, hencode, List.length_append, List.length_append]
            omega

end Percent
end ContentGateway
