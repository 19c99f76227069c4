import Mathlib.Data.List.DropRight
import ContentGateway.Text.Blank
import ContentGateway.Text.Pieces

/-!
# Pieces put together

Taking apart a text that was put together.  What stands before a separator comes out as it
was put in, as long as it holds no separators itself.
-/

namespace ContentGateway

/-!
# Pieces between separators
-/

theorem splitFrom_eq (p : Char -> Bool) (piece text : List Char) :
    splitFrom p piece text = List.splitOnPPrepend p text piece := by
  induction text generalizing piece with
  | nil => rfl
  | cons c rest ih =>
      rw [splitFrom, List.splitOnPPrepend_cons_eq_if, ih, ih, List.splitOnPPrepend_nil_right]

theorem splitBy_eq (p : Char -> Bool) (text : List Char) :
    splitBy p text = text.splitOnP p := by
  unfold splitBy
  rw [splitFrom_eq, List.splitOnPPrepend_nil_right]

theorem splitBy_of_none {p : Char -> Bool} {text : List Char}
    (h : forall c, c ∈ text -> p c = false) : splitBy p text = [text] := by
  rw [splitBy_eq, List.splitOnP_eq_singleton h]

theorem splitBy_append {p : Char -> Bool} {front : List Char}
    (h : forall c, c ∈ front -> p c = false) {c : Char} (hc : p c = true) (rest : List Char) :
    splitBy p (front ++ c :: rest) = front :: splitBy p rest := by
  rw [splitBy_eq, splitBy_eq, List.splitOnP_append_cons_of_forall_mem h c hc]

/-- Texts without separators are read back from what is put together of them. -/
theorem splitBy_intercalate {sep : Char} {texts : List (List Char)}
    (h : forall text, text ∈ texts -> sep ∉ text) (hsome : texts ≠ []) :
    splitBy (· == sep) ([sep].intercalate texts) = texts := by
  rw [splitBy_eq, ← List.splitOn_eq_splitOnP]
  exact List.splitOn_intercalate sep h hsome

theorem splitBy_ne_nil (p : Char -> Bool) (text : List Char) : splitBy p text ≠ [] := by
  rw [splitBy_eq]
  exact List.splitOnP_ne_nil p text

theorem splitBy_cons (p : Char -> Bool) (c : Char) (rest : List Char) :
    splitBy p (c :: rest) =
      if p c then [] :: splitBy p rest else (splitBy p rest).modifyHead (List.cons c) := by
  rw [splitBy_eq, splitBy_eq, List.splitOnP_cons_eq_if_modifyHead]

theorem length_splitBy_append {p : Char -> Bool} {front : List Char}
    (h : forall c, c ∈ front -> p c = false) (rest : List Char) :
    (splitBy p (front ++ rest)).length = (splitBy p rest).length := by
  induction front with
  | nil => rfl
  | cons c front ih =>
      rw [List.cons_append, splitBy_cons, h c List.mem_cons_self, if_neg Bool.false_ne_true,
        List.length_modifyHead, ih fun d hd => h d (List.mem_cons_of_mem _ hd)]

theorem not_separator_of_mem {p : Char -> Bool} {text piece : List Char}
    (h : piece ∈ splitBy p text) : forall c, c ∈ piece -> p c = false := by
  induction text generalizing piece with
  | nil =>
      intro c hc
      rw [List.mem_singleton.mp h] at hc
      cases hc
  | cons first rest ih =>
      rw [splitBy_cons] at h
      split at h
      · rcases List.mem_cons.mp h with rfl | hrest
        · intro c hc
          cases hc
        · exact ih hrest
      · next hfirst =>
          cases hpieces : splitBy p rest with
          | nil => exact absurd hpieces (splitBy_ne_nil p rest)
          | cons front others =>
              rw [hpieces, List.modifyHead_cons] at h
              rcases List.mem_cons.mp h with rfl | hothers
              · intro c hc
                rcases List.mem_cons.mp hc with rfl | hfront
                · exact eq_false_of_ne_true hfirst
                · exact ih (by rw [hpieces]; exact List.mem_cons_self) c hfront
              · exact ih (by rw [hpieces]; exact List.mem_cons_of_mem _ hothers)

theorem sublist_of_mem_splitBy {p : Char -> Bool} {text piece : List Char}
    (h : piece ∈ splitBy p text) : piece.Sublist text := by
  induction text generalizing piece with
  | nil =>
      rw [List.mem_singleton.mp h]
      exact List.Sublist.refl _
  | cons first rest ih =>
      rw [splitBy_cons] at h
      split at h
      · rcases List.mem_cons.mp h with rfl | hrest
        · exact List.nil_sublist _
        · exact (ih hrest).cons _
      · cases hpieces : splitBy p rest with
        | nil => exact absurd hpieces (splitBy_ne_nil p rest)
        | cons front others =>
            rw [hpieces, List.modifyHead_cons] at h
            rcases List.mem_cons.mp h with rfl | hothers
            · exact (ih (by rw [hpieces]; exact List.mem_cons_self)).cons_cons _
            · exact (ih (by rw [hpieces]; exact List.mem_cons_of_mem _ hothers)).cons _

/-!
# Parts around a separator
-/

theorem takeWhile_append_of_absent {c : Char} {front : List Char} (h : c ∉ front)
    (rest : List Char) :
    (front ++ rest).takeWhile (· != c) = front ++ rest.takeWhile (· != c) ∧
      (front ++ rest).dropWhile (· != c) = rest.dropWhile (· != c) := by
  have hall : forall d, d ∈ front -> (d != c) = true := by
    intro d hd
    rw [bne_iff_ne]
    rintro rfl
    exact h hd
  exact ⟨List.takeWhile_append_of_pos hall, List.dropWhile_append_of_pos hall⟩

theorem splitFirst_append {c : Char} {front : List Char} (h : c ∉ front) (rest : List Char) :
    splitFirst c (front ++ c :: rest) = some (front, rest) := by
  rcases takeWhile_append_of_absent h (c :: rest) with ⟨htake, hdrop⟩
  unfold splitFirst
  rw [htake, hdrop]
  simp

theorem splitFirst_of_absent {c : Char} {text : List Char} (h : c ∉ text) :
    splitFirst c text = none := by
  rcases takeWhile_append_of_absent h [] with ⟨_, hdrop⟩
  rw [List.append_nil] at hdrop
  unfold splitFirst
  rw [hdrop]
  rfl

theorem splitLast_append {c : Char} {back : List Char} (h : c ∉ back) (front : List Char) :
    splitLast c (front ++ c :: back) = some (front, back) := by
  unfold splitLast
  rw [List.reverse_append, List.reverse_cons, List.append_assoc, List.singleton_append,
    splitFirst_append (by simpa using h)]
  simp

theorem splitLast_of_absent {c : Char} {text : List Char} (h : c ∉ text) :
    splitLast c text = none := by
  unfold splitLast
  rw [splitFirst_of_absent (by simpa using h)]
  rfl

theorem exists_last_place {c : Char} {text : List Char} (h : c ∈ text) :
    exists front back, text = front ++ c :: back ∧ c ∉ back := by
  rcases List.eq_append_cons_of_mem (List.mem_reverse.mpr h) with ⟨after, before, hreverse, hafter⟩
  refine ⟨before.reverse, after.reverse, ?_, by simpa using hafter⟩
  rw [← List.reverse_reverse text, hreverse]
  simp

/-!
# Ends of texts
-/

theorem rdropWhile_append {p : Char -> Bool} {front : List Char}
    (h : forall c, c ∈ front -> p c = false) (text : List Char) :
    (front ++ text).rdropWhile p = front ++ text.rdropWhile p := by
  induction text using List.reverseRecOn with
  | nil =>
      rw [List.append_nil, List.rdropWhile_nil, List.append_nil, List.rdropWhile_eq_self_iff]
      intro hfront
      rw [h _ (List.getLast_mem hfront)]
      exact Bool.false_ne_true
  | append_singleton text c ih =>
      rw [← List.append_assoc, List.rdropWhile_concat, List.rdropWhile_concat]
      split
      · exact ih
      · rw [List.append_assoc]

theorem trimBy_append {p : Char -> Bool} {front : List Char} (hfront : front ≠ [])
    (h : forall c, c ∈ front -> p c = false) (text : List Char) :
    trimBy p (front ++ text) = front ++ text.rdropWhile p := by
  have hdrop : (front ++ text).dropWhile p = front ++ text := by
    cases front with
    | nil => exact absurd rfl hfront
    | cons c rest =>
        rw [List.cons_append, List.dropWhile_cons_of_neg]
        rw [h c List.mem_cons_self]
        exact Bool.false_ne_true
  rw [← rdropWhile_append h]
  unfold trimBy
  rw [hdrop]
  rfl

theorem trimBy_around {p : Char -> Bool} {before text after : List Char}
    (hbefore : forall c, c ∈ before -> p c = true) (htext : forall c, c ∈ text -> p c = false)
    (hafter : forall c, c ∈ after -> p c = true) : trimBy p (before ++ (text ++ after)) = text := by
  have hfront : trimBy p (before ++ (text ++ after)) = trimBy p (text ++ after) := by
    unfold trimBy
    rw [List.dropWhile_append_of_pos hbefore]
  rw [hfront]
  cases text with
  | nil =>
      unfold trimBy
      rw [List.nil_append, List.dropWhile_eq_nil_iff.mpr hafter]
      rfl
  | cons c rest =>
      rw [trimBy_append (List.cons_ne_nil c rest) htext, List.rdropWhile_eq_nil_iff.mpr hafter,
        List.append_nil]

/-!
# Parts of texts
-/

theorem holdsPart_of_absent {part text : List Char} {c : Char} (hc : c ∈ part) (h : c ∉ text) :
    holdsPart part text = false := by
  induction text with
  | nil =>
      cases part with
      | nil => cases hc
      | cons d part => rfl
  | cons d rest ih =>
      have hfront : part.isPrefixOf (d :: rest) = false := by
        rw [← Bool.not_eq_true, List.isPrefixOf_iff_prefix]
        exact fun hpart => h (hpart.subset hc)
      rw [holdsPart, hfront, ih fun hrest => h (List.mem_cons_of_mem _ hrest)]
      rfl

end ContentGateway
