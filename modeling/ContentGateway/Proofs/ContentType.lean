import ContentGateway.ContentType
import ContentGateway.Proofs.Text.Ascii
import ContentGateway.Proofs.Text.Samples

/-!
# Content types from a sample

Every rule for the type of content looks at its first bytes only.  So a sample of content
seems to have the type that the whole content seems to have.  Content has a text's type only if
its sample is text, and text always has some type.
-/

namespace ContentGateway
namespace ContentType

theorem isPrefixOf_take {signature : Bytes} {count : Nat} (h : signature.length ≤ count)
    (content : Bytes) :
    signature.isPrefixOf (content.take count) = signature.isPrefixOf content := by
  rw [Bool.eq_iff_iff, List.isPrefixOf_iff_prefix, List.isPrefixOf_iff_prefix,
    List.prefix_take_iff]
  exact and_iff_left h

theorem length_signature_le {entry : Bytes × String} (h : entry ∈ signatures) :
    entry.1.length ≤ sampleSize := by
  have hall : signatures.all (fun entry => decide (entry.1.length ≤ sampleSize)) = true := by
    decide
  exact of_decide_eq_true (List.all_eq_true.mp hall entry h)

theorem find_signature_sample (content : Bytes) :
    (signatures.find? fun s => s.1.isPrefixOf (content.take sampleSize)) =
      signatures.find? fun s => s.1.isPrefixOf content := by
  rw [← List.head?_filter, ← List.head?_filter]
  congr 1
  apply List.filter_congr
  intro entry hentry
  exact isPrefixOf_take (length_signature_le hentry) content

theorem sniff_sample (content : Bytes) : sniff (content.take sampleSize) = sniff content := by
  have hempty : (content.take sampleSize).isEmpty = content.isEmpty := by
    cases content with
    | nil => rfl
    | cons byte rest => rfl
  have hhead : (content.take sampleSize).take 12 = content.take 12 := by
    rw [List.take_take]
    rfl
  have hsample : (content.take sampleSize).take sampleSize = content.take sampleSize := by
    rw [List.take_take, Nat.min_self]
  unfold sniff
  rw [hempty, find_signature_sample, hhead, hsample]

/-!
# Texts
-/

def textTypes : List String :=
  ["application/xml", "text/html", "application/json", "text/plain"]

/-- The bytes of a text without control characters, blank ones aside. -/
def IsText (bytes : Bytes) : Prop :=
  exists text, bytes = Utf8.encode text ∧ forall c, c ∈ text -> isUnprintable c = false

/-- The bytes of such a text, perhaps without the end of one more character. -/
def IsTextSample (bytes : Bytes) : Prop :=
  exists whole cut, bytes = whole ++ cut ∧ IsText whole ∧ Utf8.IsCut cut

theorem IsText.sample {bytes : Bytes} (h : IsText bytes) (count : Nat) :
    IsTextSample (bytes.take count) := by
  rcases h with ⟨text, rfl, hprintable⟩
  rcases Utf8.exists_take_encode text count with ⟨front, cut, htake, hcut, hkept⟩
  exact ⟨_, cut, htake, ⟨front, rfl, fun c hc => hprintable c (hkept.subset hc)⟩, hcut⟩

/-- A sample seems to be text exactly if it is the sample of one. -/
theorem ofSample_ne_none_iff (sample : Bytes) : ofSample sample ≠ none ↔ IsTextSample sample := by
  unfold ofSample
  constructor
  · intro h
    cases hdecoded : Utf8.decodeSample sample with
    | none =>
        rw [hdecoded] at h
        exact absurd rfl h
    | some text =>
        rw [hdecoded] at h
        rcases (Utf8.decodeSample_eq_some_iff sample text).mp hdecoded with ⟨cut, hbytes, hcut⟩
        refine ⟨Utf8.encode text, cut, hbytes, ⟨text, rfl, ?_⟩, hcut⟩
        simpa using h
  · rintro ⟨_, cut, rfl, ⟨text, rfl, hprintable⟩, hcut⟩
    have hdecoded := (Utf8.decodeSample_eq_some_iff (Utf8.encode text ++ cut) text).mpr
      ⟨cut, rfl, hcut⟩
    have hany : text.any isUnprintable = false := by
      simpa using hprintable
    rw [hdecoded]
    simp [hany]

theorem sniff_cases (content : Bytes) :
    content = [] ∧ sniff content = none ∨
      (exists type, type ∉ textTypes ∧ sniff content = some type) ∨
      content ≠ [] ∧ sniff content = ofSample (content.take sampleSize) := by
  have hsignatures : signatures.all (fun entry => decide (entry.2 ∉ textTypes)) = true := by
    decide
  cases hcontent : content with
  | nil => exact .inl ⟨rfl, rfl⟩
  | cons byte rest =>
      rw [← hcontent]
      have hsome : content.isEmpty = false := by
        rw [hcontent]
        rfl
      unfold sniff
      rw [hsome, if_neg Bool.false_ne_true]
      cases hfind : signatures.find? fun s => s.1.isPrefixOf content with
      | some entry =>
          have hmem := List.mem_of_find?_eq_some hfind
          exact .inr (.inl ⟨entry.2, of_decide_eq_true (List.all_eq_true.mp hsignatures entry hmem),
            rfl⟩)
      | none =>
          simp only
          split
          · exact .inr (.inl ⟨"image/webp", by decide, rfl⟩)
          split
          · exact .inr (.inl ⟨"video/mp4", by decide, rfl⟩)
          · exact .inr (.inr ⟨by rw [hcontent]; exact List.cons_ne_nil _ _, rfl⟩)

/--
Text has a type, however long it is and wherever its sample ends.  Content with the type of a text
begins with text up to the end of the sample, where a character may be cut off.
-/
theorem texts_recognised (content : Bytes) :
    (content ≠ [] -> IsText content -> sniff content ≠ none) ∧
      forall type, type ∈ textTypes -> sniff content = some type ->
        IsTextSample (content.take sampleSize) := by
  constructor
  · intro hsome htext
    rcases sniff_cases content with ⟨hnone, _⟩ | ⟨type, _, hsniff⟩ | ⟨_, hsniff⟩
    · exact absurd hnone hsome
    · rw [hsniff]
      exact Option.some_ne_none type
    · rw [hsniff, ofSample_ne_none_iff]
      exact htext.sample sampleSize
  · intro type htype hsniff
    rcases sniff_cases content with ⟨_, hnone⟩ | ⟨binary, hbinary, hsniff'⟩ | ⟨_, hsample⟩
    · rw [hnone] at hsniff
      cases hsniff
    · rw [hsniff', Option.some.injEq] at hsniff
      exact absurd htype (hsniff ▸ hbinary)
    · rw [← ofSample_ne_none_iff, ← hsample, hsniff]
      exact Option.some_ne_none type

def straddling : Bytes :=
  List.replicate 511 0x61 ++ [0xC3, 0xA9]

set_option maxRecDepth 4000 in
theorem texts_recognised_straddling :
    straddling ≠ [] ∧ IsText straddling ∧ sniff straddling ≠ none ∧
      "text/plain" ∈ textTypes ∧ sniff straddling = some "text/plain" ∧
      IsTextSample (straddling.take sampleSize) := by
  have hsome : straddling ≠ [] := by
    decide +kernel
  have htext : IsText straddling :=
    ⟨List.replicate 511 'a' ++ ['é'], by decide +kernel, forall_of_all (by decide +kernel)⟩
  have hmem : "text/plain" ∈ textTypes := by
    decide
  have hsniff : sniff straddling = some "text/plain" := by
    decide +kernel
  exact ⟨hsome, htext, (texts_recognised _).1 hsome htext, hmem, hsniff,
    (texts_recognised _).2 _ hmem hsniff⟩

end ContentType
end ContentGateway
