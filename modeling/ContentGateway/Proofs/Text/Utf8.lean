import Mathlib.Data.List.Basic
import ContentGateway.Text.Utf8

/-!
# Characters read back

Reading the bytes of a text gives its characters again.  A character is written with
one to four bytes, and each of these forms is read by one branch of `front`.
-/

namespace ContentGateway
namespace Utf8

/-!
# Lengths
-/

theorem encodeChar_ne_nil (c : Char) : encodeChar c ≠ [] := by
  unfold encodeChar
  simp only
  split
  · exact List.cons_ne_nil _ _
  · split
    · exact List.cons_ne_nil _ _
    · split
      · exact List.cons_ne_nil _ _
      · exact List.cons_ne_nil _ _

/-!
# Bytes
-/

theorem toNat_ofNat {n : Nat} (h : n < 256) : (UInt8.ofNat n).toNat = n :=
  UInt8.toNat_ofNat_of_lt h

theorem between_iff (low high b : UInt8) :
    (low ≤ b && b ≤ high) = true ↔ low.toNat ≤ b.toNat ∧ b.toNat ≤ high.toNat := by
  rw [Bool.and_eq_true, decide_eq_true_eq, decide_eq_true_eq, UInt8.le_iff_toNat_le,
    UInt8.le_iff_toNat_le]

theorem isTail_iff (b : UInt8) : isTail b = true ↔ 0x80 ≤ b.toNat ∧ b.toNat ≤ 0xBF :=
  between_iff 0x80 0xBF b

theorem isTail_tail {n : Nat} (h : n < 64) : isTail (UInt8.ofNat (0x80 + n)) = true := by
  rw [isTail_iff, toNat_ofNat (by omega)]
  omega

theorem payload_tail {n : Nat} (h : n < 64) : payload (UInt8.ofNat (0x80 + n)) = n := by
  unfold payload
  rw [toNat_ofNat (by omega)]
  omega

theorem isSecond_of_tail {lead b : UInt8} (hb : isTail b = true)
    (hE0 : lead.toNat = 0xE0 -> 0xA0 ≤ b.toNat) (hED : lead.toNat = 0xED -> b.toNat ≤ 0x9F)
    (hF0 : lead.toNat = 0xF0 -> 0x90 ≤ b.toNat) (hF4 : lead.toNat = 0xF4 -> b.toNat ≤ 0x8F) :
    isSecond lead b = true := by
  have htail := (isTail_iff b).mp hb
  unfold isSecond
  split
  · next h =>
      rw [beq_iff_eq, ← UInt8.toNat_inj] at h
      exact (between_iff 0xA0 0xBF b).mpr ⟨hE0 h, htail.2⟩
  split
  · next h =>
      rw [beq_iff_eq, ← UInt8.toNat_inj] at h
      exact (between_iff 0x80 0x9F b).mpr ⟨htail.1, hED h⟩
  split
  · next h =>
      rw [beq_iff_eq, ← UInt8.toNat_inj] at h
      exact (between_iff 0x90 0xBF b).mpr ⟨hF0 h, htail.2⟩
  split
  · next h =>
      rw [beq_iff_eq, ← UInt8.toNat_inj] at h
      exact (between_iff 0x80 0x8F b).mpr ⟨htail.1, hF4 h⟩
  · exact hb

/-!
# The four forms
-/

theorem front_one {lead : UInt8} (h : lead.toNat < 0x80) (rest : List UInt8) :
    front lead rest = .char (Char.ofNat lead.toNat) 0 := by
  have hlow : lead < 0x80 := UInt8.lt_iff_toNat_lt.mpr h
  unfold front
  rw [if_pos hlow]

theorem not_between {low high b : UInt8}
    (h : ¬ (low.toNat ≤ b.toNat ∧ b.toNat ≤ high.toNat)) :
    ¬ (low ≤ b && b ≤ high) = true :=
  fun hb => h ((between_iff low high b).mp hb)

theorem not_low {lead : UInt8} (h : 0x80 ≤ lead.toNat) : ¬ lead < 0x80 :=
  fun hlow => absurd (UInt8.lt_iff_toNat_lt.mp hlow) (Nat.not_lt.mpr h)

theorem front_two {lead b : UInt8} (hlow : 0xC2 ≤ lead.toNat) (hhigh : lead.toNat ≤ 0xDF)
    (hb : isTail b = true) (rest : List UInt8) :
    front lead (b :: rest) = .char (Char.ofNat (lead.toNat % 32 * 64 + payload b)) 1 := by
  unfold front
  rw [if_neg (not_low (by omega)), if_pos ((between_iff 0xC2 0xDF lead).mpr ⟨hlow, hhigh⟩)]
  simp only [hb, if_true]

theorem front_three {lead b c : UInt8} (hlow : 0xE0 ≤ lead.toNat) (hhigh : lead.toNat ≤ 0xEF)
    (hb : isSecond lead b = true) (hc : isTail c = true) (rest : List UInt8) :
    front lead (b :: c :: rest) =
      .char (Char.ofNat (lead.toNat % 16 * 4096 + payload b * 64 + payload c)) 2 := by
  have htwo : ¬ (0xC2 ≤ lead && lead ≤ 0xDF) = true := by
    apply not_between
    show ¬ (0xC2 ≤ lead.toNat ∧ lead.toNat ≤ 0xDF)
    omega
  unfold front
  rw [if_neg (not_low (by omega)), if_neg htwo,
    if_pos ((between_iff 0xE0 0xEF lead).mpr ⟨hlow, hhigh⟩)]
  simp only [hb, hc, if_true]

theorem front_four {lead b c d : UInt8} (hlow : 0xF0 ≤ lead.toNat) (hhigh : lead.toNat ≤ 0xF4)
    (hb : isSecond lead b = true) (hc : isTail c = true) (hd : isTail d = true)
    (rest : List UInt8) :
    front lead (b :: c :: d :: rest) =
      .char (Char.ofNat (lead.toNat % 8 * 262144 + payload b * 4096 + payload c * 64
        + payload d)) 3 := by
  have htwo : ¬ (0xC2 ≤ lead && lead ≤ 0xDF) = true := by
    apply not_between
    show ¬ (0xC2 ≤ lead.toNat ∧ lead.toNat ≤ 0xDF)
    omega
  have hthree : ¬ (0xE0 ≤ lead && lead ≤ 0xEF) = true := by
    apply not_between
    show ¬ (0xE0 ≤ lead.toNat ∧ lead.toNat ≤ 0xEF)
    omega
  unfold front
  rw [if_neg (not_low (by omega)), if_neg htwo, if_neg hthree,
    if_pos ((between_iff 0xF0 0xF4 lead).mpr ⟨hlow, hhigh⟩)]
  simp only [hb, hc, hd, if_true]

/-!
# Texts
-/

theorem toNat_valid (c : Char) : c.toNat < 0xD800 ∨ 0xDFFF < c.toNat ∧ c.toNat < 0x110000 :=
  c.valid

theorem front_encodeChar (c : Char) (rest : List UInt8) :
    exists lead tail, encodeChar c = lead :: tail ∧
      front lead (tail ++ rest) = .char c tail.length := by
  have hvalid := toNat_valid c
  -- in each case the bytes hold parts of the code point that add up to it again
  simp only [encodeChar]
  split
  · next h =>
      have hlead : (UInt8.ofNat c.toNat).toNat = c.toNat := toNat_ofNat (by omega)
      refine ⟨_, [], rfl, ?_⟩
      rw [front_one (by omega), hlead, Char.ofNat_toNat]
      rfl
  split
  · next h =>
      have hlead : (UInt8.ofNat (0xC0 + c.toNat / 64)).toNat = 0xC0 + c.toNat / 64 :=
        toNat_ofNat (by omega)
      have hb : c.toNat % 64 < 64 := Nat.mod_lt _ (by decide)
      have hsum : (0xC0 + c.toNat / 64) % 32 * 64 + c.toNat % 64 = c.toNat := by
        omega
      refine ⟨_, [_], rfl, ?_⟩
      rw [List.singleton_append, front_two (by omega) (by omega) (isTail_tail hb), hlead,
        payload_tail hb, hsum, Char.ofNat_toNat]
      rfl
  split
  · next h =>
      have hlead : (UInt8.ofNat (0xE0 + c.toNat / 4096)).toNat = 0xE0 + c.toNat / 4096 :=
        toNat_ofNat (by omega)
      have hb : c.toNat / 64 % 64 < 64 := Nat.mod_lt _ (by decide)
      have hc : c.toNat % 64 < 64 := Nat.mod_lt _ (by decide)
      have hsecond : isSecond (UInt8.ofNat (0xE0 + c.toNat / 4096))
          (UInt8.ofNat (0x80 + c.toNat / 64 % 64)) = true := by
        apply isSecond_of_tail (isTail_tail hb)
        all_goals
          rw [hlead, toNat_ofNat (by omega)]
          omega
      have hsum : (0xE0 + c.toNat / 4096) % 16 * 4096 + c.toNat / 64 % 64 * 64 + c.toNat % 64 =
          c.toNat := by
        omega
      refine ⟨_, [_, _], rfl, ?_⟩
      rw [List.cons_append, List.singleton_append,
        front_three (by omega) (by omega) hsecond (isTail_tail hc), hlead, payload_tail hb,
        payload_tail hc, hsum, Char.ofNat_toNat]
      rfl
  · next h =>
      have hlead : (UInt8.ofNat (0xF0 + c.toNat / 262144)).toNat = 0xF0 + c.toNat / 262144 :=
        toNat_ofNat (by omega)
      have hb : c.toNat / 4096 % 64 < 64 := Nat.mod_lt _ (by decide)
      have hc : c.toNat / 64 % 64 < 64 := Nat.mod_lt _ (by decide)
      have hd : c.toNat % 64 < 64 := Nat.mod_lt _ (by decide)
      have hsecond : isSecond (UInt8.ofNat (0xF0 + c.toNat / 262144))
          (UInt8.ofNat (0x80 + c.toNat / 4096 % 64)) = true := by
        apply isSecond_of_tail (isTail_tail hb)
        all_goals
          rw [hlead, toNat_ofNat (by omega)]
          omega
      have hsum : (0xF0 + c.toNat / 262144) % 8 * 262144 + c.toNat / 4096 % 64 * 4096
          + c.toNat / 64 % 64 * 64 + c.toNat % 64 = c.toNat := by
        omega
      refine ⟨_, [_, _, _], rfl, ?_⟩
      rw [List.cons_append, List.cons_append, List.singleton_append,
        front_four (by omega) (by omega) hsecond (isTail_tail hc) (isTail_tail hd), hlead,
        payload_tail hb, payload_tail hc, payload_tail hd, hsum, Char.ofNat_toNat]
      rfl

theorem glyphsAfter_skip (tail rest : List UInt8) :
    glyphsAfter tail.length (tail ++ rest) = glyphsAfter 0 rest := by
  induction tail with
  | nil => rfl
  | cons b tail ih => exact ih

theorem glyphsAfter_encodeChar (c : Char) (rest : List UInt8) :
    glyphsAfter 0 (encodeChar c ++ rest) = some c :: glyphsAfter 0 rest := by
  rcases front_encodeChar c rest with ⟨lead, tail, hbytes, hfront⟩
  rw [hbytes, List.cons_append, glyphsAfter, hfront]
  simp only [glyphsAfter_skip]

/-- Every text is read back from its bytes. -/
theorem glyphs_encode (text : List Char) : glyphs (encode text) = text.map some := by
  unfold glyphs encode
  induction text with
  | nil => rfl
  | cons c rest ih =>
      rw [List.flatMap_cons, glyphsAfter_encodeChar, ih]
      rfl

theorem decodeLossy_encode (text : List Char) : decodeLossy (encode text) = text := by
  unfold decodeLossy
  rw [glyphs_encode, List.map_map]
  exact List.map_id _

theorem decode?_encode (text : List Char) : decode? (encode text) = some text := by
  unfold decode?
  rw [glyphs_encode, List.mapM_map]
  show text.mapM (fun c => (pure (id c) : Option Char)) = some text
  rw [List.mapM_pure, List.map_id]
  rfl

theorem encode_injective {text text' : List Char} (h : encode text = encode text') :
    text = text' := by
  have hglyphs := glyphs_encode text
  rw [h, glyphs_encode] at hglyphs
  exact (List.map_injective_iff.mpr (fun _ _ hsome => Option.some.inj hsome) hglyphs).symm

theorem ofString_injective {text text' : String} (h : ofString text = ofString text') :
    text = text' :=
  String.toList_inj.mp (encode_injective h)

theorem glyphs_ofString (text : String) : glyphs (ofString text) = text.toList.map some :=
  glyphs_encode text.toList

end Utf8
end ContentGateway
