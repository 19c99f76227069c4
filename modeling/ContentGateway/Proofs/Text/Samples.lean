import ContentGateway.Proofs.Text.Utf8

/-!
# Characters cut off

A byte sequence can end within a character.  Reading a sample gives the characters before such an
end, and it gives them exactly if nothing else is wrong with the bytes.
-/

namespace ContentGateway
namespace Utf8

/-!
# Bytes of a character
-/

theorem toNat_ofNat_of_valid {n : Nat} (h : n < 0xD800 ∨ 0xDFFF < n ∧ n < 0x110000) :
    (Char.ofNat n).toNat = n := by
  rw [Char.ofNat, dif_pos h]
  rfl

theorem ofNat_eq_of_toNat {n : Nat} {b : UInt8} (h : n = b.toNat) : UInt8.ofNat n = b := by
  rw [h]
  exact UInt8.ofNat_toNat

theorem tail_of_payload {n : Nat} {b : UInt8} (hb : isTail b = true) (h : n = payload b) :
    UInt8.ofNat (0x80 + n) = b := by
  have hbounds := (isTail_iff b).mp hb
  unfold payload at h
  exact ofNat_eq_of_toNat (by omega)

theorem payload_lt (b : UInt8) : payload b < 64 :=
  Nat.mod_lt _ (by decide)

theorem bounds_of_isSecond {lead b : UInt8} (h : isSecond lead b = true) :
    isTail b = true ∧ (lead.toNat = 0xE0 -> 0x20 ≤ payload b) ∧
      (lead.toNat = 0xED -> payload b < 0x20) ∧ (lead.toNat = 0xF0 -> 0x10 ≤ payload b) ∧
      (lead.toNat = 0xF4 -> payload b < 0x10) := by
  have hcases : lead.toNat = 0xE0 ∧ 0xA0 ≤ b.toNat ∧ b.toNat ≤ 0xBF ∨
      lead.toNat = 0xED ∧ 0x80 ≤ b.toNat ∧ b.toNat ≤ 0x9F ∨
      lead.toNat = 0xF0 ∧ 0x90 ≤ b.toNat ∧ b.toNat ≤ 0xBF ∨
      lead.toNat = 0xF4 ∧ 0x80 ≤ b.toNat ∧ b.toNat ≤ 0x8F ∨
      (lead.toNat ≠ 0xE0 ∧ lead.toNat ≠ 0xED ∧ lead.toNat ≠ 0xF0 ∧ lead.toNat ≠ 0xF4) ∧
        0x80 ≤ b.toNat ∧ b.toNat ≤ 0xBF := by
    unfold isSecond at h
    simp only [beq_iff_eq, ← UInt8.toNat_inj] at h
    split at h
    · next hlead => exact .inl ⟨hlead, (between_iff 0xA0 0xBF b).mp h⟩
    split at h
    · next hlead => exact .inr (.inl ⟨hlead, (between_iff 0x80 0x9F b).mp h⟩)
    split at h
    · next hlead => exact .inr (.inr (.inl ⟨hlead, (between_iff 0x90 0xBF b).mp h⟩))
    split at h
    · next hlead => exact .inr (.inr (.inr (.inl ⟨hlead, (between_iff 0x80 0x8F b).mp h⟩)))
    · next hE0 hED hF0 hF4 =>
        exact .inr (.inr (.inr (.inr ⟨⟨hE0, hED, hF0, hF4⟩, (isTail_iff b).mp h⟩)))
  rw [isTail_iff]
  unfold payload
  omega

theorem encodeChar_one {lead : UInt8} (h : lead.toNat < 0x80) :
    encodeChar (Char.ofNat lead.toNat) = [lead] := by
  have hpoint := toNat_ofNat_of_valid (n := lead.toNat) (by omega)
  unfold encodeChar
  simp only [hpoint]
  rw [if_pos h, ofNat_eq_of_toNat rfl]

theorem encodeChar_two {lead b : UInt8} (hlow : 0xC2 ≤ lead.toNat) (hhigh : lead.toNat ≤ 0xDF)
    (hb : isTail b = true) :
    encodeChar (Char.ofNat (lead.toNat % 32 * 64 + payload b)) = [lead, b] := by
  have hpayload := payload_lt b
  have hpoint := toNat_ofNat_of_valid (n := lead.toNat % 32 * 64 + payload b) (by omega)
  unfold encodeChar
  simp only [hpoint]
  rw [if_neg (by omega), if_pos (by omega), ofNat_eq_of_toNat (b := lead) (by omega),
    tail_of_payload hb (by omega)]

theorem encodeChar_three {lead b c : UInt8} (hlow : 0xE0 ≤ lead.toNat) (hhigh : lead.toNat ≤ 0xEF)
    (hb : isSecond lead b = true) (hc : isTail c = true) :
    encodeChar (Char.ofNat (lead.toNat % 16 * 4096 + payload b * 64 + payload c)) =
      [lead, b, c] := by
  rcases bounds_of_isSecond hb with ⟨htail, hE0, hED, _, _⟩
  have hsecond := payload_lt b
  have hthird := payload_lt c
  have hpoint := toNat_ofNat_of_valid
    (n := lead.toNat % 16 * 4096 + payload b * 64 + payload c) (by omega)
  unfold encodeChar
  simp only [hpoint]
  rw [if_neg (by omega), if_neg (by omega), if_pos (by omega),
    ofNat_eq_of_toNat (b := lead) (by omega), tail_of_payload htail (by omega),
    tail_of_payload hc (by omega)]

theorem encodeChar_four {lead b c d : UInt8} (hlow : 0xF0 ≤ lead.toNat)
    (hhigh : lead.toNat ≤ 0xF4) (hb : isSecond lead b = true) (hc : isTail c = true)
    (hd : isTail d = true) :
    encodeChar (Char.ofNat (lead.toNat % 8 * 262144 + payload b * 4096 + payload c * 64
      + payload d)) = [lead, b, c, d] := by
  rcases bounds_of_isSecond hb with ⟨htail, _, _, hF0, hF4⟩
  have hsecond := payload_lt b
  have hthird := payload_lt c
  have hfourth := payload_lt d
  have hpoint := toNat_ofNat_of_valid
    (n := lead.toNat % 8 * 262144 + payload b * 4096 + payload c * 64 + payload d) (by omega)
  unfold encodeChar
  simp only [hpoint]
  rw [if_neg (by omega), if_neg (by omega), if_neg (by omega),
    ofNat_eq_of_toNat (b := lead) (by omega), tail_of_payload htail (by omega),
    tail_of_payload hc (by omega), tail_of_payload hd (by omega)]

/-!
# What stands at the front
-/

def someSecond (lead : UInt8) : UInt8 :=
  if lead == 0xE0 then 0xA0 else if lead == 0xF0 then 0x90 else 0x80

theorem isSecond_someSecond (lead : UInt8) : isSecond lead (someSecond lead) = true := by
  unfold isSecond someSecond
  by_cases hE0 : lead = 0xE0
  · subst hE0
    decide
  by_cases hED : lead = 0xED
  · subst hED
    decide
  by_cases hF0 : lead = 0xF0
  · subst hF0
    decide
  by_cases hF4 : lead = 0xF4
  · subst hF4
    decide
  · simp [hE0, hED, hF0, hF4, isTail]

/-- What is known of bytes by how their front is read: they are those of a character, or their end is missing. -/
def Front.Fits (lead : UInt8) (rest : List UInt8) : Front -> Prop
  | char c tail =>
      exists after, rest = after ++ rest.drop tail ∧ encodeChar c = lead :: after ∧
        after.length = tail
  | illFormed _ => True
  | cutOff => exists c more, more ≠ [] ∧ encodeChar c = lead :: (rest ++ more)

theorem fits_of_front {lead : UInt8} {rest : List UInt8} {f : Front} (h : front lead rest = f) :
    f.Fits lead rest := by
  have htail : isTail 0x80 = true := by
    decide
  -- one case for each length that the lead byte announces; what is missing at the end is filled
  -- up with bytes that fit
  unfold front at h
  split at h
  · next hone =>
      cases h
      exact ⟨[], rfl, encodeChar_one (UInt8.lt_iff_toNat_lt.mp hone), rfl⟩
  split at h
  · next htwo =>
      have hlead : 0xC2 ≤ lead.toNat ∧ lead.toNat ≤ 0xDF := (between_iff 0xC2 0xDF lead).mp htwo
      cases rest with
      | nil =>
          cases h
          exact ⟨_, [0x80], by simp, encodeChar_two hlead.1 hlead.2 htail⟩
      | cons b rest =>
          simp only at h
          split at h
          · next hb =>
              cases h
              exact ⟨[b], rfl, encodeChar_two hlead.1 hlead.2 hb, rfl⟩
          · cases h
            trivial
  split at h
  · next hthree =>
      have hlead : 0xE0 ≤ lead.toNat ∧ lead.toNat ≤ 0xEF :=
        (between_iff 0xE0 0xEF lead).mp hthree
      rcases rest with _ | ⟨b, rest⟩
      · cases h
        exact ⟨_, [someSecond lead, 0x80], by simp,
          encodeChar_three hlead.1 hlead.2 (isSecond_someSecond lead) htail⟩
      simp only at h
      split at h
      · next hb =>
          rcases rest with _ | ⟨c, rest⟩
          · cases h
            exact ⟨_, [0x80], by simp, encodeChar_three hlead.1 hlead.2 hb htail⟩
          simp only at h
          split at h
          · next hc =>
              cases h
              exact ⟨[b, c], rfl, encodeChar_three hlead.1 hlead.2 hb hc, rfl⟩
          · cases h
            trivial
      · cases h
        trivial
  split at h
  · next hfour =>
      have hlead : 0xF0 ≤ lead.toNat ∧ lead.toNat ≤ 0xF4 := (between_iff 0xF0 0xF4 lead).mp hfour
      rcases rest with _ | ⟨b, rest⟩
      · cases h
        exact ⟨_, [someSecond lead, 0x80, 0x80], by simp,
          encodeChar_four hlead.1 hlead.2 (isSecond_someSecond lead) htail htail⟩
      simp only at h
      split at h
      · next hb =>
          rcases rest with _ | ⟨c, rest⟩
          · cases h
            exact ⟨_, [0x80, 0x80], by simp, encodeChar_four hlead.1 hlead.2 hb htail htail⟩
          simp only at h
          split at h
          · next hc =>
              rcases rest with _ | ⟨d, rest⟩
              · cases h
                exact ⟨_, [0x80], by simp, encodeChar_four hlead.1 hlead.2 hb hc htail⟩
              simp only at h
              split at h
              · next hd =>
                  cases h
                  exact ⟨[b, c, d], rfl, encodeChar_four hlead.1 hlead.2 hb hc hd, rfl⟩
              · cases h
                trivial
          · cases h
            trivial
      · cases h
        trivial
  · cases h
    trivial

theorem front_append {lead : UInt8} {rest : List UInt8} (h : front lead rest ≠ .cutOff)
    (more : List UInt8) : front lead (rest ++ more) = front lead rest := by
  rcases rest with _ | ⟨b, _ | ⟨c, _ | ⟨d, rest⟩⟩⟩
  · unfold front at h ⊢
    grind
  · unfold front at h ⊢
    grind
  · unfold front at h ⊢
    grind
  · rfl

/-!
# Samples
-/

/-- The beginning of a character's bytes without its end; nothing at all is one. -/
def IsCut (bytes : List UInt8) : Prop :=
  exists c more, more ≠ [] ∧ encodeChar c = bytes ++ more

theorem isCut_nil : IsCut [] :=
  ⟨'a', encodeChar 'a', encodeChar_ne_nil 'a', rfl⟩

theorem cutOff_of_isCut {lead : UInt8} {rest : List UInt8} (h : IsCut (lead :: rest)) :
    front lead rest = .cutOff := by
  rcases h with ⟨c, more, hmore, hbytes⟩
  rcases front_encodeChar c [] with ⟨lead', tail, hchar, hfront⟩
  rw [hbytes, List.cons_append, List.cons.injEq] at hchar
  rcases hchar with ⟨rfl, rfl⟩
  rw [List.append_nil] at hfront
  by_contra hwhole
  rw [front_append hwhole] at hfront
  rcases fits_of_front hfront with ⟨after, hafter, _, hlength⟩
  have hshort := congrArg List.length hafter
  have hpos := List.length_pos_iff.mpr hmore
  rw [List.length_append] at hshort hlength
  omega

theorem sampleAfter_skip (tail rest : List UInt8) :
    sampleAfter tail.length (tail ++ rest) = sampleAfter 0 rest := by
  induction tail with
  | nil => cases rest <;> rfl
  | cons b tail ih => exact ih

theorem decodeSample_encodeChar (c : Char) (rest : List UInt8) :
    decodeSample (encodeChar c ++ rest) = (decodeSample rest).map (c :: ·) := by
  rcases front_encodeChar c rest with ⟨lead, tail, hbytes, hfront⟩
  unfold decodeSample
  rw [hbytes, List.cons_append, sampleAfter, hfront]
  simp only [sampleAfter_skip]

theorem decodeSample_encode (text : List Char) {cut : List UInt8} (h : IsCut cut) :
    decodeSample (encode text ++ cut) = some text := by
  induction text with
  | nil =>
      cases cut with
      | nil => rfl
      | cons lead rest =>
          show sampleAfter 0 (lead :: rest) = some []
          rw [sampleAfter, cutOff_of_isCut h]
  | cons c text ih =>
      unfold encode at ih ⊢
      rw [List.flatMap_cons, List.append_assoc, decodeSample_encodeChar, ih]
      rfl

theorem encode_of_decodeSample {bytes : List UInt8} {text : List Char}
    (h : decodeSample bytes = some text) : exists cut, bytes = encode text ++ cut ∧ IsCut cut := by
  induction hlength : bytes.length using Nat.strongRecOn generalizing bytes text with
  | ind length ih =>
      cases bytes with
      | nil =>
          cases h
          exact ⟨[], rfl, isCut_nil⟩
      | cons lead rest =>
          unfold decodeSample at h
          rw [sampleAfter] at h
          cases hfront : front lead rest with
          | char c tail =>
              rcases fits_of_front hfront with ⟨after, hafter, hbytes, rfl⟩
              rw [hfront] at h
              simp only at h
              rw [hafter, sampleAfter_skip] at h
              rcases Option.map_eq_some_iff.mp h with ⟨others, hothers, rfl⟩
              have hshorter : (rest.drop after.length).length < length := by
                rw [← hlength, List.length_drop, List.length_cons]
                omega
              rcases ih _ hshorter hothers rfl with ⟨cut, hcut, hisCut⟩
              refine ⟨cut, ?_, hisCut⟩
              rw [hafter, hcut]
              simp [encode, hbytes]
          | illFormed tail =>
              rw [hfront] at h
              cases h
          | cutOff =>
              rw [hfront] at h
              cases h
              exact ⟨lead :: rest, rfl, fits_of_front hfront⟩

/-- A sample is read as a text exactly if it is that text and a character cut off. -/
theorem decodeSample_eq_some_iff (bytes : List UInt8) (text : List Char) :
    decodeSample bytes = some text ↔ exists cut, bytes = encode text ++ cut ∧ IsCut cut := by
  constructor
  · exact encode_of_decodeSample
  · rintro ⟨cut, rfl, h⟩
    exact decodeSample_encode text h

/-- Wherever the bytes of a text are cut, the characters before the cut are whole. -/
theorem exists_take_encode (text : List Char) (count : Nat) :
    exists front cut, (encode text).take count = encode front ++ cut ∧ IsCut cut ∧
      front <+: text := by
  induction text generalizing count with
  | nil => exact ⟨[], [], by simp [encode], isCut_nil, List.nil_prefix⟩
  | cons c text ih =>
      have hcons : encode (c :: text) = encodeChar c ++ encode text := List.flatMap_cons
      rw [hcons]
      by_cases hcount : count < (encodeChar c).length
      · refine ⟨[], (encodeChar c).take count, ?_, ⟨c, (encodeChar c).drop count, ?_, ?_⟩,
          List.nil_prefix⟩
        · rw [List.take_append_of_le_length (by omega)]
          rfl
        · rw [ne_eq, List.drop_eq_nil_iff]
          omega
        · rw [List.take_append_drop]
      · rcases ih (count - (encodeChar c).length) with ⟨front, cut, htake, hcut, hprefix⟩
        refine ⟨c :: front, cut, ?_, hcut, (List.prefix_cons_inj c).mpr hprefix⟩
        rw [List.take_append, List.take_of_length_le (by omega), htake]
        simp [encode]

end Utf8
end ContentGateway
