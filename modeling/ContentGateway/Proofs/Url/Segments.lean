import ContentGateway.Proofs.Text.Pieces
import ContentGateway.Proofs.Url.Building

/-!
# Paths read back

The segments of a path are read back from its text.  Names of levels are the only pieces that
are no segments; a piece is one of them exactly if it is read as one dot or two.
-/

namespace ContentGateway
namespace Url

/-!
# Names of levels
-/

def dots : List (List Char) :=
  [['.'], ['%', '2', 'e'], ['%', '2', 'E']]

theorem hexValue?_lt {c : Char} {n : Nat} (h : hexValue? c = some n) : n < 16 := by
  have hc : c.toNat < 128 := ascii_of_hexValue? (by rw [h]; rfl)
  have hbound := of_ascii (P := fun c => (hexValue? c).all (· < 16) = true) (by decide +kernel) hc
  rw [h] at hbound
  exact of_decide_eq_true hbound

theorem digits_of_dot {high low : Char} (h : Percent.byte? high low = some 0x2e) :
    high = '2' ∧ (low = 'e' ∨ low = 'E') := by
  rcases Percent.hexValue?_of_byte? h with ⟨hhigh, hlow⟩
  rcases Option.isSome_iff_exists.mp hhigh with ⟨a, ha⟩
  rcases Option.isSome_iff_exists.mp hlow with ⟨b, hb⟩
  have ha16 := hexValue?_lt ha
  have hb16 := hexValue?_lt hb
  have hvalue : UInt8.ofNat (16 * a + b) = 0x2e := by
    unfold Percent.byte? at h
    rw [ha, hb] at h
    exact Option.some.inj h
  have hnat : 16 * a + b = 46 := by
    have htoNat : (UInt8.ofNat (16 * a + b)).toNat = 46 := congrArg UInt8.toNat hvalue
    rwa [Utf8.toNat_ofNat (by omega)] at htoNat
  obtain rfl : a = 2 := by omega
  obtain rfl : b = 14 := by omega
  constructor
  · exact of_ascii (P := fun c => hexValue? c = some 2 -> c = '2') (by decide +kernel)
      (ascii_of_hexValue? hhigh) ha
  · exact of_ascii (P := fun c => hexValue? c = some 14 -> c = 'e' ∨ c = 'E') (by decide +kernel)
      (ascii_of_hexValue? hlow) hb

theorem decode_dot {dot : List Char} (h : dot ∈ dots) (rest : List Char) :
    Percent.decode (dot ++ rest) = 0x2e :: Percent.decode rest := by
  have hcases : dot = ['.'] ∨ dot = ['%', '2', 'e'] ∨ dot = ['%', '2', 'E'] := by
    simpa [dots] using h
  rcases hcases with rfl | rfl | rfl
  · exact Percent.decode_cons (by decide) rest
  · rfl
  · rfl

theorem exists_dot_of_decode {text : List Char} {bytes : List UInt8}
    (h : Percent.decode text = 0x2e :: bytes) :
    exists dot rest, dot ∈ dots ∧ text = dot ++ rest ∧ Percent.decode rest = bytes := by
  cases text with
  | nil => cases h
  | cons c rest =>
      by_cases hc : c = '%'
      · subst hc
        rw [Percent.decode_percent] at h
        cases hfront : Percent.front? rest with
        | none =>
            rw [hfront] at h
            exact absurd (List.cons.inj h).1 (by decide)
        | some b =>
            rw [hfront] at h
            rcases List.cons.inj h with ⟨rfl, hbytes⟩
            cases rest with
            | nil => cases hfront
            | cons high rest =>
                cases rest with
                | nil => cases hfront
                | cons low rest =>
                    rcases digits_of_dot hfront with ⟨rfl, rfl | rfl⟩
                    · exact ⟨['%', '2', 'e'], rest, by decide, rfl, hbytes⟩
                    · exact ⟨['%', '2', 'E'], rest, by decide, rfl, hbytes⟩
      · rw [Percent.decode_cons hc] at h
        have hglyphs := Utf8.glyphsAfter_encodeChar c (Percent.decode rest)
        have hdot := Utf8.glyphsAfter_encodeChar '.' bytes
        have hbytes : Utf8.encodeChar '.' ++ bytes = 0x2e :: bytes := rfl
        rw [h, ← hbytes, hdot, List.cons.injEq, Option.some.injEq] at hglyphs
        obtain rfl : '.' = c := hglyphs.1
        exact ⟨['.'], rest, by decide, rfl, (List.cons.inj h).2⟩

theorem eq_nil_of_decode {text : List Char} (h : Percent.decode text = []) : text = [] := by
  cases text with
  | nil => rfl
  | cons c rest =>
      by_cases hc : c = '%'
      · subst hc
        rw [Percent.decode_percent] at h
        cases hfront : Percent.front? rest with
        | none =>
            rw [hfront] at h
            cases h
        | some b =>
            rw [hfront] at h
            cases h
      · rw [Percent.decode_cons hc, List.append_eq_nil_iff] at h
        exact absurd h.1 (Utf8.encodeChar_ne_nil c)

theorem asciiLower_ascii {c : Char} (h : (asciiLower c).toNat < 128) : c.toNat < 128 := by
  unfold asciiLower at h
  split at h
  · next hletter =>
      have hbound := ((between_iff_toNat 'A' 'Z' c).mp hletter).2
      exact Nat.lt_of_le_of_lt hbound (by decide)
  · exact h

theorem of_asciiLower {c : Char} :
    (asciiLower c = '.' -> c = '.') ∧ (asciiLower c = '%' -> c = '%') ∧
      (asciiLower c = '2' -> c = '2') ∧ (asciiLower c = 'e' -> c = 'e' ∨ c = 'E') := by
  by_cases hc : c.toNat < 128
  · exact of_ascii (P := fun c => (asciiLower c = '.' -> c = '.') ∧ (asciiLower c = '%' -> c = '%') ∧
      (asciiLower c = '2' -> c = '2') ∧ (asciiLower c = 'e' -> c = 'e' ∨ c = 'E'))
      (by decide +kernel) hc
  · have hne : forall d : Char, d.toNat < 128 -> asciiLower c ≠ d := by
      rintro d hd rfl
      exact hc (asciiLower_ascii hd)
    exact ⟨fun h => absurd h (hne _ (by decide)), fun h => absurd h (hne _ (by decide)),
      fun h => absurd h (hne _ (by decide)), fun h => absurd h (hne _ (by decide))⟩

theorem mem_dots_iff (text : List Char) :
    text ∈ dots ↔ text.map asciiLower ∈ [['.'], ['%', '2', 'e']] := by
  constructor
  · intro h
    have hcases : text = ['.'] ∨ text = ['%', '2', 'e'] ∨ text = ['%', '2', 'E'] := by
      simpa [dots] using h
    rcases hcases with rfl | rfl | rfl
    · decide
    · decide
    · decide
  · intro h
    rcases List.mem_cons.mp h with hdot | hencoded
    · rcases List.map_eq_cons_iff.mp hdot with ⟨c, rest, rfl, hc, hrest⟩
      rw [of_asciiLower.1 hc, List.map_eq_nil_iff.mp hrest]
      decide
    · rcases List.map_eq_cons_iff.mp (List.mem_singleton.mp hencoded) with ⟨c, rest, rfl, hc, hrest⟩
      rcases List.map_eq_cons_iff.mp hrest with ⟨d, rest, rfl, hd, hrest⟩
      rcases List.map_eq_cons_iff.mp hrest with ⟨e, rest, rfl, he, hrest⟩
      rw [of_asciiLower.2.1 hc, of_asciiLower.2.2.1 hd, List.map_eq_nil_iff.mp hrest]
      rcases of_asciiLower.2.2.2 he with rfl | rfl
      · decide
      · decide

theorem isSame_iff_mem_dots (segment : List Char) : isSame segment = true ↔ segment ∈ dots := by
  rw [mem_dots_iff]
  unfold isSame asciiLowerCase
  rw [String.toList_ofList]
  simp [← String.toList_inj]

theorem isAbove_iff_dots (segment : List Char) :
    isAbove segment = true ↔
      exists dot dot', dot ∈ dots ∧ dot' ∈ dots ∧ segment = dot ++ dot' := by
  have hlower : isAbove segment = true ↔ exists dot dot', dot ∈ [['.'], ['%', '2', 'e']] ∧
      dot' ∈ [['.'], ['%', '2', 'e']] ∧ segment.map asciiLower = dot ++ dot' := by
    unfold isAbove asciiLowerCase
    rw [String.toList_ofList]
    simp [← String.toList_inj, or_assoc]
  rw [hlower]
  constructor
  · rintro ⟨dot, dot', hdot, hdot', hmap⟩
    rcases List.map_eq_append_iff.mp hmap with ⟨front, back, rfl, rfl, rfl⟩
    exact ⟨front, back, (mem_dots_iff front).mpr hdot, (mem_dots_iff back).mpr hdot', rfl⟩
  · rintro ⟨dot, dot', hdot, hdot', rfl⟩
    exact ⟨_, _, (mem_dots_iff dot).mp hdot, (mem_dots_iff dot').mp hdot', List.map_append⟩

theorem isSame_iff (segment : List Char) :
    isSame segment = true ↔ Percent.decode segment = Utf8.ofString "." := by
  rw [isSame_iff_mem_dots]
  constructor
  · intro h
    have hdecode := decode_dot h []
    rw [List.append_nil] at hdecode
    exact hdecode
  · intro h
    rcases exists_dot_of_decode h with ⟨dot, rest, hdot, rfl, hrest⟩
    rw [eq_nil_of_decode hrest, List.append_nil]
    exact hdot

theorem isAbove_iff (segment : List Char) :
    isAbove segment = true ↔ Percent.decode segment = Utf8.ofString ".." := by
  rw [isAbove_iff_dots]
  constructor
  · rintro ⟨dot, dot', hdot, hdot', rfl⟩
    have hdecode := decode_dot hdot' []
    rw [List.append_nil] at hdecode
    rw [decode_dot hdot, hdecode]
    rfl
  · intro h
    rcases exists_dot_of_decode h with ⟨dot, rest, hdot, rfl, hrest⟩
    rcases exists_dot_of_decode hrest with ⟨dot', rest', hdot', rfl, hrest'⟩
    rw [eq_nil_of_decode hrest', List.append_nil]
    exact ⟨dot, dot', hdot, hdot', rfl⟩

/-!
# Segments
-/

/-- A segment as paths have it: nothing is left to be encoded and it names no level. -/
structure Settled (segment : String) : Prop where
  kept : forall c, c ∈ segment.toList -> Percent.inPath c = false
  whole : forall c, c ∈ segment.toList -> isSlash c = false
  named : isAbove segment.toList = false ∧ isSame segment.toList = false

theorem written_of_kept {text : List Char} (h : forall c, c ∈ text -> Percent.inPath c = false)
    (levels : List String) : written false levels text = String.ofList text := by
  unfold written marked
  rw [Percent.encode_eq_self h]
  rfl

theorem isAbove_encode (text : List Char) :
    isAbove (Percent.encode Percent.inPath text) = isAbove text := by
  rw [Bool.eq_iff_iff, isAbove_iff, isAbove_iff,
    Percent.decode_encode_of_sparing Percent.sparing_inPath]

theorem isSame_encode (text : List Char) :
    isSame (Percent.encode Percent.inPath text) = isSame text := by
  rw [Bool.eq_iff_iff, isSame_iff, isSame_iff,
    Percent.decode_encode_of_sparing Percent.sparing_inPath]

theorem not_isSlash_of_mem_encode {text : List Char}
    (h : forall c, c ∈ text -> isSlash c = false) {c : Char}
    (hc : c ∈ Percent.encode Percent.inPath text) : isSlash c = false := by
  rcases Percent.mem_encode hc with ⟨hmem, _⟩ | rfl | hdigit
  · exact h c hmem
  · decide
  · exact of_ascii (P := fun c => (hexValue? c).isSome = true -> isSlash c = false)
      (by decide +kernel) (ascii_of_hexValue? hdigit) hdigit

theorem settled_written {piece : List Char} (h : forall c, c ∈ piece -> isSlash c = false)
    (habove : isAbove piece = false) (hsame : isSame piece = false) (levels : List String) :
    Settled (written false levels piece) := by
  have hwritten : (written false levels piece).toList = Percent.encode Percent.inPath piece := by
    unfold written marked
    rw [String.toList_ofList]
    rfl
  refine ⟨?_, ?_, ?_⟩
  · intro c hc
    rw [hwritten] at hc
    exact Percent.sparing_inPath.kept_of_mem_encode hc
  · intro c hc
    rw [hwritten] at hc
    exact not_isSlash_of_mem_encode h hc
  · rw [hwritten, isAbove_encode, isSame_encode]
    exact ⟨habove, hsame⟩

theorem settled_empty : Settled "" := by
  refine ⟨?_, ?_, by decide⟩
  · intro c hc
    cases hc
  · intro c hc
    cases hc

/-!
# Going down
-/

theorem ascend_subset (levels : List String) : forall s, s ∈ ascend levels -> s ∈ levels := by
  intro s hs
  unfold ascend at hs
  simp only at hs
  split at hs
  · exact hs
  · exact (List.dropLast_sublist levels).subset hs

theorem length_ascend_le (levels : List String) : (ascend levels).length ≤ levels.length := by
  unfold ascend
  simp only
  split
  · exact Nat.le_refl _
  · rw [List.length_dropLast]
    exact Nat.sub_le _ _

theorem settled_descend {pieces : List (List Char)}
    (h : forall piece, piece ∈ pieces -> forall c, c ∈ piece -> isSlash c = false)
    (levels : List String) (hlevels : forall s, s ∈ levels -> Settled s) :
    forall s, s ∈ descend false levels pieces -> Settled s := by
  induction pieces generalizing levels with
  | nil => exact hlevels
  | cons piece rest ih =>
      have hrest := ih fun piece hpiece => h piece (List.mem_cons_of_mem _ hpiece)
      have hlast : forall s, s ∈ (if rest.isEmpty then [""] else []) -> Settled s := by
        intro s hs
        split at hs
        · rw [List.mem_singleton.mp hs]
          exact settled_empty
        · cases hs
      rw [descend]
      split
      · apply hrest
        intro s hs
        rcases List.mem_append.mp hs with hs | hs
        · exact hlevels s (ascend_subset levels s hs)
        · exact hlast s hs
      · next habove =>
          split
          · apply hrest
            intro s hs
            rcases List.mem_append.mp hs with hs | hs
            · exact hlevels s hs
            · exact hlast s hs
          · next hsame =>
              apply hrest
              intro s hs
              rcases List.mem_append.mp hs with hs | hs
              · exact hlevels s hs
              · rw [List.mem_singleton.mp hs]
                exact settled_written (h piece List.mem_cons_self) (eq_false_of_ne_true habove)
                  (eq_false_of_ne_true hsame) levels

theorem descend_settled {segments : List String} (h : forall s, s ∈ segments -> Settled s)
    (levels : List String) (rest : List (List Char)) :
    descend false levels (segments.map String.toList ++ rest) =
      descend false (levels ++ segments) rest := by
  induction segments generalizing levels with
  | nil => rw [List.map_nil, List.nil_append, List.append_nil]
  | cons segment segments ih =>
      have hsegment := h segment List.mem_cons_self
      have hsegments := ih fun s hs => h s (List.mem_cons_of_mem _ hs)
      rw [List.map_cons, List.cons_append, descend]
      rw [hsegment.named.1, hsegment.named.2, if_neg Bool.false_ne_true,
        if_neg Bool.false_ne_true, written_of_kept hsegment.kept, String.ofList_toList, hsegments,
        List.append_assoc]
      rfl

theorem length_descend_le (pieces : List (List Char)) (levels : List String) :
    (descend false levels pieces).length ≤ levels.length + pieces.length := by
  induction pieces generalizing levels with
  | nil => exact Nat.le_refl _
  | cons piece rest ih =>
      have hlast : (if rest.isEmpty then [""] else []).length ≤ 1 := by
        split
        · exact Nat.le_refl _
        · exact Nat.zero_le _
      have hascend := length_ascend_le levels
      rw [descend, List.length_cons]
      split
      · refine Nat.le_trans (ih _) ?_
        rw [List.length_append]
        omega
      split
      · refine Nat.le_trans (ih _) ?_
        rw [List.length_append]
        omega
      · refine Nat.le_trans (ih _) ?_
        rw [List.length_append, List.length_singleton]
        omega

theorem getLast?_descend (pieces : List (List Char)) (piece : List Char) (levels : List String) :
    exists segment, (descend false levels (pieces ++ [piece])).getLast? = some segment ∧
      (segment = "" ∨ isAbove piece = false ∧ isSame piece = false ∧
        meaning segment = Percent.decode piece) := by
  induction pieces generalizing levels with
  | nil =>
      rw [List.nil_append, descend]
      simp only [List.isEmpty_nil, if_true]
      split
      · exact ⟨"", by rw [descend, List.getLast?_concat], .inl rfl⟩
      next habove =>
      split
      · exact ⟨"", by rw [descend, List.getLast?_concat], .inl rfl⟩
      next hsame =>
        refine ⟨written false levels piece, by rw [descend, List.getLast?_concat], .inr
          ⟨eq_false_of_ne_true habove, eq_false_of_ne_true hsame, ?_⟩⟩
        unfold meaning written marked
        rw [String.toList_ofList]
        exact Percent.decode_encode_of_sparing Percent.sparing_inPath piece
  | cons first rest ih =>
      rw [List.cons_append, descend]
      split
      · exact ih _
      split
      · exact ih _
      · exact ih _

/-!
# Texts of paths
-/

def above (segments : List String) : List Char :=
  segments.flatMap fun s => s.toList ++ ['/']

theorem above_cons (segment : String) (segments : List String) :
    above (segment :: segments) = segment.toList ++ '/' :: above segments := by
  unfold above
  rw [List.flatMap_cons, List.append_assoc]
  rfl

theorem toList_display_segments (front : List String) (last : String) :
    (UrlPath.segments (front ++ [last])).display.toList =
      '/' :: (above front ++ last.toList) := by
  show (String.join ((front ++ [last]).map ("/" ++ ·))).toList = _
  rw [String.toList_join]
  induction front with
  | nil => simp [above]
  | cons first front ih =>
      rw [List.cons_append, List.map_cons, List.flatMap_cons, ih, above_cons,
        String.toList_append, List.append_assoc, List.append_assoc, List.cons_append]
      rfl

theorem toList_intercalate (front : List String) (last : String) :
    (String.intercalate "/" (front ++ [last])).toList = above front ++ last.toList := by
  rw [String.toList_intercalate]
  induction front with
  | nil =>
      rw [List.nil_append, List.map_singleton, List.intercalate_singleton]
      rfl
  | cons first front ih =>
      rw [List.cons_append, List.map_cons, List.intercalate_cons_of_ne_nil (by simp), ih,
        above_cons, List.append_assoc, List.append_assoc]
      rfl

theorem splitBy_above {segments : List String}
    (h : forall s, s ∈ segments -> forall c, c ∈ s.toList -> isSlash c = false)
    (text : List Char) :
    splitBy isSlash (above segments ++ text) =
      segments.map String.toList ++ splitBy isSlash text := by
  induction segments with
  | nil => rfl
  | cons segment segments ih =>
      rw [above_cons, List.append_assoc, List.cons_append,
        splitBy_append (h segment List.mem_cons_self) (by decide),
        ih fun s hs => h s (List.mem_cons_of_mem _ hs)]
      rfl

theorem specialSegments_above {front : List String} (h : forall s, s ∈ front -> Settled s)
    (text : List Char) :
    specialSegments (above front ++ text) = descend false front (splitBy isSlash text) := by
  unfold specialSegments
  rw [splitBy_above fun s hs => (h s hs).whole, descend_settled h, List.nil_append]

/-- The segments of a path are read back. -/
theorem specialSegments_settled {front : List String} {last : String}
    (h : forall s, s ∈ front ++ [last] -> Settled s) :
    specialSegments (above front ++ last.toList) = front ++ [last] := by
  have hfront : forall s, s ∈ front -> Settled s := fun s hs => h s (List.mem_append_left _ hs)
  have hlast : Settled last := h last (by simp)
  rw [specialSegments_above hfront, splitBy_of_none hlast.whole]
  have hsingle : forall s, s ∈ [last] -> Settled s := by
    intro s hs
    rw [List.mem_singleton.mp hs]
    exact hlast
  have hdescend := descend_settled hsingle front []
  rw [List.map_singleton, List.append_nil] at hdescend
  rw [hdescend, descend]

theorem settled_specialSegments (text : List Char) :
    forall s, s ∈ specialSegments text -> Settled s :=
  settled_descend (fun _ hpiece => not_separator_of_mem hpiece) [] fun _ hs => by cases hs

theorem specialSegments_eq_concat (text : List Char) :
    exists front last, specialSegments text = front ++ [last] := by
  rcases List.eq_nil_or_concat (splitBy isSlash text) with hnil | ⟨pieces, piece, hpieces⟩
  · exact absurd hnil (splitBy_ne_nil _ _)
  · rcases getLast?_descend pieces piece [] with ⟨last, hlast, _⟩
    rw [← List.concat_eq_append, ← hpieces] at hlast
    rcases List.getLast?_eq_some_iff.mp hlast with ⟨front, hfront⟩
    exact ⟨front, last, hfront⟩

end Url
end ContentGateway
