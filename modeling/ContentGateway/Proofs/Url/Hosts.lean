import ContentGateway.Proofs.Url.Authority

/-!
# Hosts read back

The written form of a host is read as that host: every address of four bytes, every address
of eight pieces of sixteen bits, and every name that is its own written form.
-/

namespace ContentGateway

theorem mapM_written {α : Type} {read : List Char -> Option α} {write : α -> List Char}
    {values : List α} (h : forall value, value ∈ values -> read (write value) = some value) :
    (values.map write).mapM read = some values := by
  have hread : values.mapM (read ∘ write) = pure (values.map id) := mapM_eq_pure h
  rw [List.mapM_map, hread, List.map_id]
  rfl

namespace Host

/-!
# Names
-/

theorem ofSpecial?_of_ordinary {name : List Char} (h : DomainName.Ordinary name)
    (hsome : name ≠ []) :
    ofSpecial? name =
      if endsInNumber name then (ipv4? name).map ipv4
      else some (.domain (String.ofList name)) := by
  have hpercent : '%' ∉ name := fun hc => absurd (h.allowed _ hc) (by decide)
  unfold ofSpecial?
  split
  · exact absurd (h.allowed '[' List.mem_cons_self) (by decide)
  · rw [Percent.decode_of_absent hpercent, Utf8.decode?_encode, Option.bind_eq_bind,
      Option.bind_some, h.written?_eq, Option.bind_some,
      if_neg (by rw [List.isEmpty_iff]; exact hsome)]

theorem exists_written?_of_domain {text : List Char} {name : String}
    (h : ofSpecial? text = some (.domain name)) :
    exists decoded, DomainName.written? decoded = some name.toList := by
  unfold ofSpecial? at h
  split at h
  · rcases Option.map_eq_some_iff.mp h with ⟨_, _, hpieces⟩
    cases hpieces
  · rcases Option.bind_eq_some_iff.mp h with ⟨decoded, _, h⟩
    rcases Option.bind_eq_some_iff.mp h with ⟨written, hwritten, h⟩
    split at h
    · cases h
    split at h
    · rcases Option.map_eq_some_iff.mp h with ⟨_, _, haddress⟩
      cases haddress
    · cases h
      rw [String.toList_ofList]
      exact ⟨decoded, hwritten⟩

/-!
# Addresses of four bytes
-/

theorem ordinary_digitChar {d : Nat} (h : d < 16) :
    (Nat.digitChar d).toNat < 0x80 ∧ asciiLower (Nat.digitChar d) = Nat.digitChar d ∧
      DomainName.isForbidden (Nat.digitChar d) = false ∧ Nat.digitChar d ≠ 'x' ∧
        Nat.digitChar d ≠ '.' := by
  revert d
  decide

theorem absent_of_toDigits {base n : Nat} (hone : 1 < base) (hbase : base ≤ 16) {c : Char}
    (hc : forall d, d < 16 -> Nat.digitChar d ≠ c) : c ∉ Nat.toDigits base n := by
  intro hmem
  rcases digit_of_mem_toDigits hone hbase hmem with ⟨d, hd, rfl⟩
  exact hc d hd rfl

def bytes (address : Nat) : List Nat :=
  [16777216, 65536, 256, 1].map fun unit => address / unit % 256

theorem toList_ipv4Text (address : Nat) :
    (ipv4Text address).toList = ['.'].intercalate ((bytes address).map (Nat.toDigits 10)) := by
  have hdigits : forall n : Nat, (toString n).toList = Nat.toDigits 10 n := by
    intro n
    rw [Nat.toString_eq_repr, Nat.toList_repr]
  unfold ipv4Text bytes
  rw [String.toList_intercalate, List.map_map, List.map_map]
  simp only [Function.comp_def, hdigits]
  rfl

theorem splitBy_ipv4Text (address : Nat) :
    splitBy (· == '.') (ipv4Text address).toList = (bytes address).map (Nat.toDigits 10) := by
  rw [toList_ipv4Text]
  refine splitBy_intercalate ?_ (List.cons_ne_nil _ _)
  intro digits hdigits
  rcases List.mem_map.mp hdigits with ⟨n, _, rfl⟩
  exact absent_of_toDigits (by decide) (by decide) fun d hd => (ordinary_digitChar hd).2.2.2.2

theorem ordinary_ipv4Text (address : Nat) : DomainName.Ordinary (ipv4Text address).toList := by
  refine ⟨?_, ?_, ?_, ?_⟩
  · exact fun c hc => of_digit_or (P := fun c => c.toNat < 0x80) (by decide)
      (fun _ hd => (ordinary_digitChar hd).1) (mem_ipv4Text hc)
  · exact fun c hc => of_digit_or (P := fun c => asciiLower c = c) (by decide)
      (fun _ hd => (ordinary_digitChar hd).2.1) (mem_ipv4Text hc)
  · exact fun c hc => of_digit_or (P := fun c => DomainName.isForbidden c = false) (by decide)
      (fun _ hd => (ordinary_digitChar hd).2.2.1) (mem_ipv4Text hc)
  · intro label hlabel
    rw [splitBy_ipv4Text] at hlabel
    rcases List.mem_map.mp hlabel with ⟨n, _, rfl⟩
    rw [← Bool.not_eq_true, List.isPrefixOf_iff_prefix]
    intro hmark
    exact absent_of_toDigits (by decide) (by decide) (fun d hd => (ordinary_digitChar hd).2.2.2.1)
      (hmark.subset (show 'x' ∈ DomainName.mark by decide))

theorem labels_ipv4Text (address : Nat) :
    labels (ipv4Text address).toList = (bytes address).map (Nat.toDigits 10) := by
  have hlast : (((bytes address).map (Nat.toDigits 10)).getLast? == some []) = false := by
    rw [beq_eq_false_iff_ne]
    exact fun h => Nat.toDigits_ne_nil (Option.some.inj h)
  unfold labels
  rw [splitBy_ipv4Text]
  simp only [hlast, Bool.false_eq_true, if_false]

theorem endsInNumber_ipv4Text (address : Nat) :
    endsInNumber (ipv4Text address).toList = true := by
  have hdigits : (Nat.toDigits 10 (address / 1 % 256)).all Char.isDigit = true :=
    List.all_eq_true.mpr fun c hc => Nat.isDigit_of_mem_toDigits (by decide) (by decide) hc
  have hsome : (Nat.toDigits 10 (address / 1 % 256)).isEmpty = false := by
    rw [List.isEmpty_eq_false_iff]
    exact Nat.toDigits_ne_nil
  unfold endsInNumber
  rw [labels_ipv4Text]
  show ((!(Nat.toDigits 10 (address / 1 % 256)).isEmpty &&
    (Nat.toDigits 10 (address / 1 % 256)).all Char.isDigit) || _) = true
  rw [hsome, hdigits]
  rfl

theorem ipv4Part?_toDigits (n : Nat) : ipv4Part? (Nat.toDigits 10 n) = some n := by
  rcases Nat.eq_zero_or_pos n with rfl | hpos
  · decide
  · rcases toDigits_head hpos with ⟨c, digits, hcons, hc⟩
    rw [← inBase?_toDigits (show 1 < 10 by decide) (by decide) n, hcons]
    unfold ipv4Part?
    split
    · next h => cases h
    · next h =>
        cases h
        exact absurd rfl hc
    · next h =>
        cases h
        exact absurd rfl hc
    · next h =>
        cases h
        exact absurd rfl hc
    · rfl

theorem ipv4Value?_bytes {address : Nat} (h : address < Nat.pow 256 4) :
    ipv4Value? 4 (bytes address) = some address := by
  have hbound : address < 4294967296 := h
  have hsum : address / 16777216 % 256 * 16777216 + (address / 65536 % 256 * 65536 +
      (address / 256 % 256 * 256 + address / 1 % 256)) = address := by
    omega
  have hbyte : forall n : Nat, n % 256 < 256 := fun n => Nat.mod_lt n (by decide)
  unfold bytes
  simp only [List.map_cons, List.map_nil, ipv4Value?, hbyte, if_true, Option.map_some]
  simpa using hsum

theorem ipv4?_ipv4Text {address : Nat} (h : address < Nat.pow 256 4) :
    ipv4? (ipv4Text address).toList = some address := by
  have hparts : ((bytes address).map (Nat.toDigits 10)).mapM ipv4Part? = some (bytes address) :=
    mapM_written fun n _ => ipv4Part?_toDigits n
  unfold ipv4?
  rw [labels_ipv4Text]
  simp only [hparts, Option.bind_eq_bind, Option.bind_some, ipv4Value?_bytes h]
  rfl

theorem ofSpecial?_ipv4Text {address : Nat} (h : address < Nat.pow 256 4) :
    ofSpecial? (ipv4Text address).toList = some (.ipv4 address) := by
  rw [ofSpecial?_of_ordinary (ordinary_ipv4Text address) (placed_ipv4 address).filled,
    endsInNumber_ipv4Text, if_pos rfl, ipv4?_ipv4Text h]
  rfl

/-!
# Pieces between colons
-/

def piecesText (pieces : List Nat) : List Char :=
  [':'].intercalate (pieces.map (Nat.toDigits 16))

theorem piecesText_singleton (p : Nat) : piecesText [p] = Nat.toDigits 16 p := by
  simp [piecesText]

theorem piecesText_cons (p q : Nat) (rest : List Nat) :
    piecesText (p :: q :: rest) = Nat.toDigits 16 p ++ ':' :: piecesText (q :: rest) := rfl

theorem no_colon_in_digits (p : Nat) : ':' ∉ Nat.toDigits 16 p :=
  absent_of_toDigits (by decide) (by decide) fun _ hd => (digitChar_plain hd).2.1

theorem exists_cons_piecesText (p : Nat) (rest : List Nat) :
    exists c text, piecesText (p :: rest) = c :: text ∧ c ≠ ':' := by
  have hbegins : exists behind, piecesText (p :: rest) = Nat.toDigits 16 p ++ behind := by
    cases rest with
    | nil => exact ⟨[], by rw [piecesText_singleton, List.append_nil]⟩
    | cons q rest => exact ⟨_, piecesText_cons p q rest⟩
  rcases hbegins with ⟨behind, hbehind⟩
  cases hdigits : Nat.toDigits 16 p with
  | nil => exact absurd hdigits Nat.toDigits_ne_nil
  | cons c digits =>
      refine ⟨c, digits ++ behind, by rw [hbehind, hdigits]; rfl, ?_⟩
      rintro rfl
      exact no_colon_in_digits p (by rw [hdigits]; exact List.mem_cons_self)

theorem piece?_toDigits {p : Nat} (h : p < 65536) : piece? (Nat.toDigits 16 p) = some p := by
  have hsome : (Nat.toDigits 16 p).isEmpty = false := by
    rw [List.isEmpty_eq_false_iff]
    exact Nat.toDigits_ne_nil
  have hlength : (Nat.toDigits 16 p).length ≤ 4 := 
    (Nat.length_toDigits_le_iff (by decide) (by decide)).mpr h
  unfold piece?
  rw [hsome, Bool.false_or, if_neg (by simpa using hlength),
    inBase?_toDigits (by decide) (by decide)]

theorem pieces?_piecesText (atEnd : Bool) {pieces : List Nat}
    (h : forall p, p ∈ pieces -> p < 65536) :
    pieces? atEnd (piecesText pieces) = some pieces := by
  cases pieces with
  | nil => rfl
  | cons p rest =>
      have hparts : splitBy (· == ':') (piecesText (p :: rest)) =
          (p :: rest).map (Nat.toDigits 16) := by
        refine splitBy_intercalate ?_ (List.cons_ne_nil _ _)
        intro digits hdigits
        rcases List.mem_map.mp hdigits with ⟨q, _, rfl⟩
        exact no_colon_in_digits q
      have hsome : (piecesText (p :: rest)).isEmpty = false := by
        rcases exists_cons_piecesText p rest with ⟨c, text, hcons, _⟩
        rw [hcons]
        rfl
      have hlast : (((p :: rest).map (Nat.toDigits 16)).getLastD []).contains '.' = false := by
        have hmem : ((p :: rest).map (Nat.toDigits 16)).getLastD [] ∈
            (p :: rest).map (Nat.toDigits 16) := by
          rw [List.map_cons, List.getLastD_cons]
          exact List.getLastD_mem_cons
        rcases List.mem_map.mp hmem with ⟨q, _, hq⟩
        rw [← hq, List.contains_eq_mem, decide_eq_false_iff_not]
        exact absent_of_toDigits (by decide) (by decide) fun d hd =>
          (ordinary_digitChar hd).2.2.2.2
      have hread : ((p :: rest).map (Nat.toDigits 16)).mapM piece? = some (p :: rest) :=
        mapM_written fun q hq => piece?_toDigits (h q hq)
      unfold pieces?
      simp only [hsome, hparts, hlast, Bool.and_false, Bool.false_eq_true, if_false, hread]

/-!
# The gap
-/

theorem splitGap_append {front : List Char} (h : ':' ∉ front) (rest : List Char) :
    splitGap (front ++ rest) = (splitGap rest).map fun p => (front ++ p.1, p.2) := by
  induction front with
  | nil => simp
  | cons c front ih =>
      rw [List.mem_cons, not_or] at h
      rw [List.cons_append, splitGap, ih h.2, Option.map_map]
      · rfl
      · intro _ hc
        exact absurd hc.symm h.1

theorem splitGap_colon {c : Char} (h : c ≠ ':') (rest : List Char) :
    splitGap (':' :: c :: rest) = (splitGap (c :: rest)).map fun p => (':' :: p.1, p.2) := by
  rw [splitGap]
  intro _ _ hrest
  exact absurd (List.cons.inj hrest).1 h

/-- Pieces hold no two colons in a row and end in none, so the gap is behind them. -/
theorem splitGap_piecesText (pieces : List Nat) (tail : List Char) :
    splitGap (piecesText pieces ++ tail) =
      (splitGap tail).map fun p => (piecesText pieces ++ p.1, p.2) := by
  induction pieces with
  | nil => simp [piecesText]
  | cons p rest ih =>
      cases rest with
      | nil =>
          rw [piecesText_singleton]
          exact splitGap_append (no_colon_in_digits p) tail
      | cons q rest =>
          rcases exists_cons_piecesText q rest with ⟨c, text, hcons, hc⟩
          have hcolon : splitGap (':' :: (piecesText (q :: rest) ++ tail)) =
              (splitGap (piecesText (q :: rest) ++ tail)).map fun p => (':' :: p.1, p.2) := by
            rw [hcons]
            exact splitGap_colon hc (text ++ tail)
          rw [piecesText_cons, List.append_assoc, List.cons_append,
            splitGap_append (no_colon_in_digits p), hcolon, ih, Option.map_map, Option.map_map]
          simp [Function.comp_def]

theorem longer_mem (runs : List (Nat × Nat)) (best : Nat × Nat) :
    runs.foldl (fun best run => if best.2 < run.2 then run else best) best = best ∨
      runs.foldl (fun best run => if best.2 < run.2 then run else best) best ∈ runs := by
  induction runs generalizing best with
  | nil => exact .inl rfl
  | cons run runs ih =>
      rw [List.foldl_cons]
      split
      · rcases ih run with h | h
        · exact .inr (by rw [h]; exact List.mem_cons_self)
        · exact .inr (List.mem_cons_of_mem _ h)
      · rcases ih best with h | h
        · exact .inl h
        · exact .inr (List.mem_cons_of_mem _ h)

theorem longestGap_mem (pieces : List Nat) :
    longestGap pieces = (0, 0) ∨
      ((pieces.drop (longestGap pieces).1).takeWhile (· == 0)).length = (longestGap pieces).2 := by
  rcases longer_mem _ (0, 0) with h | h
  · exact .inl h
  · right
    rcases List.mem_map.mp h with ⟨i, _, hi⟩
    unfold longestGap
    simp only
    rw [← hi]

theorem eq_append_longestGap {pieces : List Nat} (h : 2 ≤ (longestGap pieces).2) :
    pieces.take (longestGap pieces).1 ++ List.replicate (longestGap pieces).2 0 ++
      pieces.drop ((longestGap pieces).1 + (longestGap pieces).2) = pieces := by
  rcases longestGap_mem pieces with hnone | hrun
  · rw [hnone] at h
    cases h
  · generalize (longestGap pieces).1 = start at hrun ⊢
    generalize (longestGap pieces).2 = count at hrun ⊢
    have hzeros : (pieces.drop start).takeWhile (· == 0) = List.replicate count 0 := by
      rw [List.eq_replicate_iff]
      exact ⟨hrun, fun p hp => by simpa using List.mem_takeWhile_imp hp⟩
    have hbehind : pieces.drop (start + count) = (pieces.drop start).dropWhile (· == 0) := by
      rw [← List.drop_drop]
      conv_lhs => rw [← List.takeWhile_append_dropWhile (p := (· == 0)) (l := pieces.drop start)]
      exact List.drop_left' hrun
    rw [List.append_assoc, hbehind, ← hzeros, List.takeWhile_append_dropWhile,
      List.take_append_drop]

/-!
# Addresses of eight pieces
-/

theorem toList_ipv6Text (pieces : List Nat) :
    (ipv6Text pieces).toList =
      if (longestGap pieces).2 < 2 then piecesText pieces
      else piecesText (pieces.take (longestGap pieces).1) ++ ':' :: ':' ::
        piecesText (pieces.drop ((longestGap pieces).1 + (longestGap pieces).2)) := by
  have hwritten : forall ps : List Nat,
      (String.intercalate ":" (ps.map fun p => String.ofList (Nat.toDigits 16 p))).toList =
        piecesText ps := by
    intro ps
    rw [String.toList_intercalate, List.map_map]
    simp only [Function.comp_def, String.toList_ofList]
    rfl
  unfold ipv6Text
  simp only
  split
  · exact hwritten pieces
  · rw [String.toList_append, String.toList_append, hwritten, hwritten, List.append_assoc]
    rfl

theorem ipv6?_ipv6Text {pieces : List Nat} (hlength : pieces.length = 8)
    (h : forall p, p ∈ pieces -> p < 65536) : ipv6? (ipv6Text pieces).toList = some pieces := by
  rw [toList_ipv6Text]
  split
  · have hgap : splitGap (piecesText pieces) = none := by
      have hempty := splitGap_piecesText pieces []
      rwa [List.append_nil] at hempty
    unfold ipv6?
    simp [hgap, pieces?_piecesText true h, hlength]
  · next hlong =>
      have hwhole := eq_append_longestGap (Nat.not_lt.mp hlong)
      have hfront : forall p, p ∈ pieces.take (longestGap pieces).1 -> p < 65536 :=
        fun p hp => h p (List.mem_of_mem_take hp)
      have hback : forall p,
          p ∈ pieces.drop ((longestGap pieces).1 + (longestGap pieces).2) -> p < 65536 :=
        fun p hp => h p (List.mem_of_mem_drop hp)
      generalize pieces.take (longestGap pieces).1 = front at hwhole hfront ⊢
      generalize pieces.drop ((longestGap pieces).1 + (longestGap pieces).2) = back
        at hwhole hback ⊢
      generalize (longestGap pieces).2 = count at hwhole hlong
      have hcount : front.length + count + back.length = 8 := by
        rw [← hlength, ← hwhole]
        simp [Nat.add_assoc]
      have hgap : splitGap (piecesText front ++ ':' :: ':' :: piecesText back) =
          some (piecesText front, piecesText back) := by
        rw [splitGap_piecesText]
        simp [splitGap]
      have hroom : 8 - (front.length + back.length) = count := by
        omega
      unfold ipv6?
      simp only [hgap, pieces?_piecesText _ hfront, pieces?_piecesText _ hback,
        Option.bind_eq_bind, Option.bind_some, hroom, hwhole]
      rw [if_pos (by omega)]

theorem ofSpecial?_display_ipv6 {pieces : List Nat} (hlength : pieces.length = 8)
    (h : forall p, p ∈ pieces -> p < 65536) :
    ofSpecial? (Host.ipv6 pieces).display.toList = some (.ipv6 pieces) := by
  have hbracketed : bracketed? ((ipv6Text pieces).toList ++ [']']) = some pieces := by
    unfold bracketed?
    simp [ipv6?_ipv6Text hlength h]
  rw [toList_display_ipv6, ofSpecial?, hbracketed]
  rfl

/-!
# Hosts as they are written
-/

/-- The hosts that are written in the form in which they are kept. -/
inductive Canonical : Host -> Prop where
  | domain {name : String} (h : ofSpecial? name.toList = some (.domain name)) :
      Canonical (.domain name)
  | ipv4 {address : Nat} (h : address < Nat.pow 256 4) : Canonical (.ipv4 address)
  | ipv6 {pieces : List Nat} (length : pieces.length = 8)
      (h : forall p, p ∈ pieces -> p < 65536) : Canonical (.ipv6 pieces)

/-- A host in its written form is read as that host. -/
theorem Canonical.read_back {host : Host} (h : host.Canonical) :
    ofSpecial? host.display.toList = some host := by
  cases h with
  | domain h => exact h
  | ipv4 h => exact ofSpecial?_ipv4Text h
  | ipv6 hlength h => exact ofSpecial?_display_ipv6 hlength h

theorem Canonical.placed {host : Host} (h : host.Canonical) : host.Placed :=
  placed_of_ofSpecial? h.read_back

theorem Canonical.ascii {host : Host} (h : host.Canonical) :
    forall c, c ∈ host.display.toList -> c.toNat < 128 := by
  intro c hc
  have hdigit : forall d, d < 16 -> (Nat.digitChar d).toNat < 128 :=
    fun _ hd => (ordinary_digitChar hd).1
  cases h with
  | domain h =>
      rcases exists_written?_of_domain h with ⟨decoded, hwritten⟩
      exact DomainName.ascii_written? hwritten c hc
  | ipv4 h => exact of_digit_or (P := fun c => c.toNat < 128) (by decide) hdigit (mem_ipv4Text hc)
  | ipv6 hlength h =>
      rw [toList_display_ipv6] at hc
      rcases List.mem_cons.mp hc with rfl | hc
      · decide
      rcases List.mem_append.mp hc with hc | hc
      · exact of_digit_or (P := fun c => c.toNat < 128) (by decide) hdigit (mem_ipv6Text hc)
      · rw [List.mem_singleton.mp hc]
        decide

theorem colon_mem_ipv6Text {pieces : List Nat} (h : 2 ≤ pieces.length) :
    ':' ∈ (ipv6Text pieces).toList := by
  rw [toList_ipv6Text]
  split
  · match pieces, h with
    | p :: q :: rest, _ =>
        rw [piecesText_cons]
        exact List.mem_append_right _ List.mem_cons_self
  · exact List.mem_append_right _ List.mem_cons_self

theorem Canonical.colon_iff {host : Host} (h : host.Canonical) :
    ':' ∈ host.display.toList ↔ exists pieces, host = .ipv6 pieces := by
  cases h with
  | domain h =>
      rcases exists_written?_of_domain h with ⟨decoded, hwritten⟩
      refine iff_of_false ?_ ?_
      · intro hc
        exact absurd (DomainName.not_forbidden_written? hwritten _ hc) (by decide)
      · rintro ⟨_, hpieces⟩
        cases hpieces
  | ipv4 h =>
      refine iff_of_false ?_ ?_
      · intro hc
        exact of_digit_or (P := fun c => c ≠ ':') (by decide)
          (fun _ hd => (digitChar_plain hd).2.1) (mem_ipv4Text hc) rfl
      · rintro ⟨_, hpieces⟩
        cases hpieces
  | @ipv6 pieces hlength h =>
      refine iff_of_true ?_ ⟨pieces, rfl⟩
      rw [toList_display_ipv6]
      exact List.mem_cons_of_mem _ (List.mem_append_left _ (colon_mem_ipv6Text (by omega)))

theorem canonical_of_ordinary {name : String} (h : DomainName.Ordinary name.toList)
    (hsome : name ≠ "") (hnumber : endsInNumber name.toList = false) :
    (Host.domain name).Canonical := by
  refine .domain ?_
  rw [ofSpecial?_of_ordinary h (by simpa using hsome), hnumber, if_neg Bool.false_ne_true,
    String.ofList_toList]

end Host
end ContentGateway
