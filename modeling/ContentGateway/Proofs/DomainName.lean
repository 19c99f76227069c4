import ContentGateway.DomainName
import ContentGateway.Proofs.Text.Ascii
import ContentGateway.Proofs.Text.Pieces

/-!
# Written names

The written form of a domain name holds ASCII characters only, and none of those that are
forbidden in names: encoding a label adds only dashes, digits and letters in lower case.  A
name that needs no other form is its own written form.
-/

namespace ContentGateway

theorem mem_flatten_intersperse {sep c : Char} {texts : List (List Char)}
    (h : c ∈ (texts.intersperse [sep]).flatten) :
    c = sep ∨ exists text, text ∈ texts ∧ c ∈ text := by
  rcases List.mem_flatten.mp h with ⟨text, htext, hc⟩
  rcases List.mem_iff_getElem?.mp htext with ⟨i, hi⟩
  rw [List.getElem?_intersperse] at hi
  split at hi
  · exact .inr ⟨text, List.mem_of_getElem? hi, hc⟩
  split at hi
  · rw [← Option.some.inj hi] at hc
    exact .inl (List.mem_singleton.mp hc)
  · cases hi

theorem exists_of_mem_mapM {α β : Type} {read : α -> Option β} {texts : List α} {values : List β}
    (h : texts.mapM read = some values) {value : β} (hvalue : value ∈ values) :
    exists text, text ∈ texts ∧ read text = some value := by
  induction texts generalizing values with
  | nil =>
      cases h
      cases hvalue
  | cons text rest ih =>
      rw [List.mapM_cons] at h
      rcases Option.bind_eq_some_iff.mp h with ⟨first, hread, h⟩
      rcases Option.bind_eq_some_iff.mp h with ⟨others, hrest, h⟩
      cases h
      rcases List.mem_cons.mp hvalue with rfl | hothers
      · exact ⟨text, List.mem_cons_self, hread⟩
      · rcases ih hrest hothers with ⟨text', htext, hvalue⟩
        exact ⟨text', List.mem_cons_of_mem _ htext, hvalue⟩

theorem mapM_eq_pure {m : Type -> Type} [Monad m] [LawfulMonad m] {α β : Type}
    {read : α -> m β} {value : α -> β} {texts : List α}
    (h : forall text, text ∈ texts -> read text = pure (value text)) :
    texts.mapM read = pure (texts.map value) := by
  induction texts with
  | nil => rfl
  | cons text rest ih =>
      rw [List.mapM_cons, h text List.mem_cons_self, pure_bind,
        ih fun other hother => h other (List.mem_cons_of_mem _ hother), pure_bind, List.map_cons]

namespace Punycode

/-!
# Encoded labels
-/

def IsDigit (c : Char) : Prop :=
  exists n, n < 36 ∧ c = digit n

theorem threshold_le (position bias : Nat) : threshold position bias ≤ 26 := by
  unfold threshold
  omega

theorem isDigit_of_mem_digits {bias position n : Nat} {c : Char}
    (h : c ∈ digits bias position n) : IsDigit c := by
  induction n using Nat.strongRecOn generalizing position with
  | ind n ih =>
      have ht := threshold_le position bias
      rw [digits] at h
      split at h
      · next hsmall => exact ⟨n, by omega, List.mem_singleton.mp h⟩
      · next hlarge =>
          rcases List.mem_cons.mp h with hc | hrest
          · have hrem : (n - threshold position bias) % (36 - threshold position bias) <
                36 - threshold position bias := Nat.mod_lt _ (by omega)
            exact ⟨_, by omega, hc⟩
          · have hone : 1 ≤ threshold position bias := Nat.le_max_left _ _
            have hquotient : (n - threshold position bias) / (36 - threshold position bias) < n :=
              Nat.lt_of_le_of_lt (Nat.div_le_self _ _) (by omega)
            exact ih _ hquotient hrest

section Output

variable {Q : Char -> Prop}

theorem placePoint_output (hdigit : forall c, IsDigit c -> Q c) {point plain : Nat}
    (label : List Nat) {s : State} (h : forall c, c ∈ s.output -> Q c) :
    forall c, c ∈ (placePoint point plain label s).output -> Q c := by
  induction label generalizing s with
  | nil => exact h
  | cons n rest ih =>
      rw [placePoint]
      split
      · exact ih h
      split
      · apply ih
        intro c hc
        rcases List.mem_append.mp hc with hold | hnew
        · exact h c hold
        · exact hdigit c (isDigit_of_mem_digits hnew)
      · exact ih h

theorem placeAll_output (hdigit : forall c, IsDigit c -> Q c) {label : List Nat} {plain : Nat}
    (points : List Nat) (next : Nat) {s : State} (h : forall c, c ∈ s.output -> Q c) :
    forall c, c ∈ (placeAll label plain points next s).output -> Q c := by
  induction points generalizing next s with
  | nil => exact h
  | cons point points ih =>
      rw [placeAll]
      apply ih
      exact placePoint_output hdigit label h

/-- Whatever holds of the label's ASCII characters, of dashes and of digits holds of the encoded label. -/
theorem encode_output (hdigit : forall c, IsDigit c -> Q c) (hdash : Q '-') {label : List Char}
    (h : forall c, c ∈ label -> c.toNat < 128 -> Q c) : forall c, c ∈ encode label -> Q c := by
  unfold encode
  apply placeAll_output hdigit
  intro c hc
  simp only at hc
  split at hc
  · cases hc
  · rcases List.mem_append.mp hc with hplain | hlast
    · rcases List.mem_filter.mp hplain with ⟨hmem, hascii⟩
      exact h c hmem (by simpa using hascii)
    · rw [List.mem_singleton.mp hlast]
      exact hdash

end Output

end Punycode

namespace DomainName

/-!
# Characters of written names
-/

theorem not_forbidden_digit {c : Char} (h : Punycode.IsDigit c) : isForbidden c = false := by
  rcases h with ⟨n, hn, rfl⟩
  revert n
  decide

theorem ascii_digit {c : Char} (h : Punycode.IsDigit c) : c.toNat < 128 := by
  rcases h with ⟨n, hn, rfl⟩
  revert n
  decide

theorem ascii_mark : forall c, c ∈ mark -> c.toNat < 128 :=
  forall_of_all (by decide)

/-- A label of ASCII characters is written as it is, any other one behind a mark. -/
theorem label?_cases {text : List Char} {label : Label} (h : label? text = some label) :
    label.written = text ∧ (forall c, c ∈ text -> c.toNat < 128) ∨
      label.written = mark ++ Punycode.encode text := by
  unfold label? at h
  split at h
  · next hmark =>
      left
      unfold decoded? at h
      simp only at h
      split at h
      · cases h
      · next hcode =>
          rcases Option.bind_eq_some_iff.mp h with ⟨meaning, _, h⟩
          split at h
          · cases h
            refine ⟨rfl, ?_⟩
            intro c hc
            rw [← List.prefix_iff_eq_append.mp (List.isPrefixOf_iff_prefix.mp hmark)] at hc
            rcases List.mem_append.mp hc with hc | hc
            · exact ascii_mark c hc
            · have hascii : isAscii (text.drop mark.length) = true := by
                simp only [Bool.or_eq_true, Bool.not_eq_true', not_or, Bool.not_eq_false] at hcode
                exact hcode.1.1
              simpa using List.all_eq_true.mp hascii c hc
          · cases h
  split at h
  · next hascii =>
      left
      cases h
      refine ⟨rfl, ?_⟩
      intro c hc
      simpa using List.all_eq_true.mp hascii c hc
  split at h
  · right
    cases h
    rfl
  · cases h

theorem not_forbidden_label? {text : List Char} (h : forall c, c ∈ text -> isForbidden c = false)
    {label : Label} (hlabel : label? text = some label) :
    forall c, c ∈ label.written -> isForbidden c = false := by
  intro c hc
  rcases label?_cases hlabel with ⟨hwritten, _⟩ | hwritten
  · rw [hwritten] at hc
    exact h c hc
  · rw [hwritten] at hc
    rcases List.mem_append.mp hc with hmark | hcode
    · exact forall_of_all (P := fun c => isForbidden c = false) (by decide) c hmark
    · exact Punycode.encode_output (Q := fun c => isForbidden c = false)
        (fun _ => not_forbidden_digit) (by decide) (fun c hc _ => h c hc) c hcode

theorem ascii_label? {text : List Char} {label : Label} (hlabel : label? text = some label) :
    forall c, c ∈ label.written -> c.toNat < 128 := by
  intro c hc
  rcases label?_cases hlabel with ⟨hwritten, hascii⟩ | hwritten
  · rw [hwritten] at hc
    exact hascii c hc
  · rw [hwritten] at hc
    rcases List.mem_append.mp hc with hmark | hcode
    · exact ascii_mark c hmark
    · exact Punycode.encode_output (Q := fun c => c.toNat < 128) (fun _ => ascii_digit)
        (by decide) (fun _ _ hascii => hascii) c hcode

theorem exists_label_of_mem_written? {name text : List Char} (h : written? name = some text)
    {c : Char} (hc : c ∈ text) :
    c = '.' ∨ exists piece label, (forall d, d ∈ piece -> isForbidden d = false) ∧
      label? piece = some label ∧ c ∈ label.written := by
  unfold written? at h
  rcases Option.bind_eq_some_iff.mp h with ⟨plain, _, h⟩
  split at h
  · cases h
  · next hallowed =>
      rcases Option.bind_eq_some_iff.mp h with ⟨labels, hlabels, h⟩
      split at h
      · cases h
        rcases mem_flatten_intersperse hc with hdot | ⟨written, hwritten, hc⟩
        · exact .inl hdot
        · rcases List.mem_map.mp hwritten with ⟨label, hlabel, rfl⟩
          rcases exists_of_mem_mapM hlabels hlabel with ⟨piece, hpiece, hread⟩
          have hplain : forall d, d ∈ plain -> isForbidden d = false := by
            simpa using hallowed
          have hsublist := sublist_of_mem_splitBy hpiece
          exact .inr ⟨piece, label, fun d hd => hplain d (hsublist.subset hd), hread, hc⟩
      · cases h

theorem not_forbidden_written? {name text : List Char} (h : written? name = some text) :
    forall c, c ∈ text -> isForbidden c = false := by
  intro c hc
  rcases exists_label_of_mem_written? h hc with rfl | ⟨piece, label, hpiece, hlabel, hc⟩
  · decide
  · exact not_forbidden_label? hpiece hlabel c hc

theorem ascii_written? {name text : List Char} (h : written? name = some text) :
    forall c, c ∈ text -> c.toNat < 128 := by
  intro c hc
  rcases exists_label_of_mem_written? h hc with rfl | ⟨_, _, _, hlabel, hc⟩
  · decide
  · exact ascii_label? hlabel c hc

/-!
# Names without another form
-/

/-- A name that needs no other form: small ASCII letters, digits and signs, and no encoded label. -/
structure Ordinary (name : List Char) : Prop where
  ascii : forall c, c ∈ name -> c.toNat < 0x80
  small : forall c, c ∈ name -> asciiLower c = c
  allowed : forall c, c ∈ name -> isForbidden c = false
  unmarked : forall label, label ∈ splitBy (· == '.') name -> mark.isPrefixOf label = false

section Ordinary

variable {name : List Char}

theorem Ordinary.plainText?_eq (h : Ordinary name) : plainText? name = some name := by
  have hmeaning : forall c, c ∈ name -> meaning? c = pure [c] := by
    intro c hc
    unfold meaning?
    rw [if_pos (h.ascii c hc), h.small c hc]
    rfl
  have hcomposed : composed name = name := by
    unfold composed
    rw [if_pos]
    rw [List.all_eq_true]
    intro c hc
    have hascii := h.ascii c hc
    exact decide_eq_true (by omega)
  unfold plainText?
  rw [mapM_eq_pure hmeaning]
  show some (composed (name.map fun c => [c]).flatten) = some name
  rw [← List.flatMap_def, List.flatMap_singleton', hcomposed]

theorem Ordinary.label?_eq (h : Ordinary name) {text : List Char}
    (htext : text ∈ splitBy (· == '.') name) : label? text = pure ⟨text, text⟩ := by
  have hascii : isAscii text = true := by
    unfold isAscii
    rw [List.all_eq_true]
    intro c hc
    exact decide_eq_true (h.ascii c ((sublist_of_mem_splitBy htext).subset hc))
  unfold label?
  rw [if_neg (by rw [h.unmarked text htext]; exact Bool.false_ne_true), if_pos hascii]
  rfl

theorem not_reversed_of_ascii {c : Char} (h : c.toNat < 0x80) :
    (Direction.ofChar c).isReversed = false := by
  unfold Direction.ofChar
  simp only [h, if_true]
  unfold Direction.ofAscii
  split
  · rfl
  · split
    · rfl
    · rfl

theorem Ordinary.directed (h : Ordinary name) :
    hasDirections (splitBy (· == '.') name) = true := by
  have hnone : ((splitBy (· == '.') name).map fun label => label.map Direction.ofChar).any
      (·.any Direction.isReversed) = false := by
    rw [List.any_eq_false]
    intro directions hdirections
    rcases List.mem_map.mp hdirections with ⟨label, hlabel, rfl⟩
    rw [Bool.not_eq_true, List.any_eq_false]
    intro d hd
    rcases List.mem_map.mp hd with ⟨c, hc, rfl⟩
    rw [not_reversed_of_ascii (h.ascii c ((sublist_of_mem_splitBy hlabel).subset hc))]
    exact Bool.false_ne_true
  unfold hasDirections
  simp only [hnone]
  rfl

theorem Ordinary.written?_eq (h : Ordinary name) : written? name = some name := by
  have hallowed : name.any isForbidden = false := by
    rw [List.any_eq_false]
    intro c hc
    rw [h.allowed c hc]
    exact Bool.false_ne_true
  have hlabels : (splitBy (· == '.') name).mapM label? =
      some ((splitBy (· == '.') name).map fun text => ⟨text, text⟩) :=
    mapM_eq_pure fun text htext => h.label?_eq htext
  have hmeanings : ((splitBy (· == '.') name).map fun text => Label.mk text text).map
      Label.meaning = splitBy (· == '.') name := by
    rw [List.map_map]
    exact List.map_id _
  have htexts : ((splitBy (· == '.') name).map fun text => Label.mk text text).map
      Label.written = splitBy (· == '.') name := by
    rw [List.map_map]
    exact List.map_id _
  have hjoined : ((splitBy (· == '.') name).intersperse ['.']).flatten = name := by
    rw [splitBy_eq]
    exact List.intercalate_splitOn '.'
  unfold written?
  simp only [h.plainText?_eq, Option.bind_eq_bind, Option.bind_some, hallowed, hlabels, hmeanings,
    htexts, h.directed, hjoined, Bool.false_eq_true, if_false, if_true]

end Ordinary

end DomainName
end ContentGateway
