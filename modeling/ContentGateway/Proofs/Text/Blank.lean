import ContentGateway.Proofs.LowerCase
import ContentGateway.Text.Blank

/-!
# Blank text and lower case

A text that is not blank does not become blank in lower case: a computed check on the runs
of the table shows that none of their images is white space.
-/

namespace ContentGateway
namespace LowerCase

/-- No image of a run is white space. -/
def leadsToInk (run : Nat × Nat × Nat × Int) : Bool :=
  (List.range (run.2.1 - run.1 + 1)).all fun k =>
    !isBlank (Char.ofNat (run.1 + k + run.2.2.2).toNat)

theorem lowerRuns_leadsToInk : forall run, run ∈ lowerRuns -> leadsToInk run = true := by
  have hall : lowerRuns.all leadsToInk = true := by
    decide +kernel
  exact List.all_eq_true.mp hall

theorem isBlank_mapRuns {c : Char} (h : isBlank c = false) :
    isBlank (Char.ofNat (mapRuns lowerRuns c.toNat)) = false := by
  rcases mapRuns_cases lowerRuns c.toNat with hself | ⟨run, hrun, hfirst, hlast, _, himage⟩
  · rw [hself, Char.ofNat_toNat]
    exact h
  · have hink := List.all_eq_true.mp (lowerRuns_leadsToInk run hrun) (c.toNat - run.1)
      (List.mem_range.mpr (by omega))
    have hpoint : (run.1 : Int) + ((c.toNat - run.1 : Nat) : Int) = (c.toNat : Int) := by
      omega
    rw [hpoint] at hink
    rw [himage]
    simpa using hink

/-- A character that is not blank has one in its lower case that is not. -/
theorem exists_ink_ofChar {c : Char} (h : isBlank c = false) :
    exists d, d ∈ ofChar c ∧ isBlank d = false := by
  unfold ofChar
  split
  · exact ⟨'i', List.mem_cons_self .., by decide⟩
  · exact ⟨_, List.mem_singleton.mpr rfl, isBlank_mapRuns h⟩

theorem exists_ink_ofCharsAfter {text : List Char} (before : List Char)
    (h : exists c, c ∈ text ∧ isBlank c = false) :
    exists d, d ∈ ofCharsAfter before text ∧ isBlank d = false := by
  induction text generalizing before with
  | nil =>
      rcases h with ⟨c, hc, _⟩
      cases hc
  | cons first rest ih =>
      rcases h with ⟨c, hc, hink⟩
      rw [ofCharsAfter]
      split
      · -- a sigma is not blank in either form
        refine ⟨_, List.mem_cons_self .., ?_⟩
        split
        · decide
        · decide
      · rcases List.mem_cons.mp hc with rfl | hrest
        · rcases exists_ink_ofChar hink with ⟨d, hd, hdink⟩
          exact ⟨d, List.mem_append_left _ hd, hdink⟩
        · rcases ih (first :: before) ⟨c, hrest, hink⟩ with ⟨d, hd, hdink⟩
          exact ⟨d, List.mem_append_right _ hd, hdink⟩

end LowerCase

theorem nonBlank_iff_exists_ink (text : String) :
    nonBlank (some text) ≠ none ↔ exists c, c ∈ text.toList ∧ isBlank c = false := by
  unfold nonBlank isBlankText
  rw [Option.filter_some]
  cases hall : text.toList.all isBlank with
  | true =>
      simp only [Bool.not_true, Bool.false_eq_true, if_false, ne_eq, not_true_eq_false, false_iff]
      rintro ⟨c, hc, hink⟩
      rw [List.all_eq_true.mp hall c hc] at hink
      cases hink
  | false =>
      simpa using hall

theorem nonBlank_eq_self {text : String} (h : nonBlank (some text) ≠ none) :
    nonBlank (some text) = some text := by
  unfold nonBlank at h ⊢
  rw [Option.filter_some] at h ⊢
  split
  · rfl
  · next hblank => exact absurd (if_neg hblank) h

theorem nonBlank_lowerCase {text : String} (h : nonBlank (some text) ≠ none) :
    nonBlank (some (lowerCase text)) ≠ none := by
  rw [nonBlank_iff_exists_ink] at h ⊢
  unfold lowerCase
  rw [String.toList_ofList]
  exact LowerCase.exists_ink_ofCharsAfter [] h

end ContentGateway
