import ContentGateway.Proofs.Sorting.Run
import ContentGateway.Sorting.Pivot

/-!
# What is sorted

A list is parted by rank, so the parts are sorted on their own.  Sorting gives an order of the
list or nothing; a list that has ranks is sorted by them, and a short list has always a result.
-/

namespace ContentGateway
namespace Sorting

variable {α : Type} {less : α -> α -> Bool} {rank : α -> Int}

/-!
# Pivots
-/

theorem median_of (p : Nat × α -> Prop) {a b c : Nat × α} (ha : p a) (hb : p b) (hc : p c) :
    p (median less a b c) := by
  unfold median
  simp only
  split
  · split
    · exact hc
    · exact hb
  · exact ha

theorem exists_sample (less : α -> α -> Bool) {l : List α} (place : Nat) {count : Nat}
    (hcount : 0 < count) (hplace : place + count ≤ l.length) :
    exists m, sample less l place count = some m ∧ l[m.1]? = some m.2 := by
  induction count using Nat.strongRecOn generalizing place with
  | ind count ih =>
      rw [sample]
      split
      · next hmany =>
          have hpart : count / 8 < count := Nat.div_lt_self hcount (by decide)
          have hpos : 0 < count / 8 := Nat.div_pos hmany (by decide)
          rcases ih _ hpart place hpos (by omega) with ⟨a, ha, hla⟩
          rcases ih _ hpart (place + count / 8 * 4) hpos (by omega) with ⟨b, hb, hlb⟩
          rcases ih _ hpart (place + count / 8 * 7) hpos (by omega) with ⟨c, hc, hlc⟩
          rw [ha, hb, hc]
          exact ⟨median less a b c, rfl, median_of (fun m => l[m.1]? = some m.2) hla hlb hlc⟩
      · have hlt : place < l.length := by
          omega
        rw [List.getElem?_eq_getElem hlt]
        exact ⟨(place, l[place]), rfl, List.getElem?_eq_getElem hlt⟩

/-!
# Parts
-/

section Part

variable {goes : α -> Bool} {l : List α} {place : Nat} {pivot : α} {pivotGoes : Bool}

theorem eq_take_cons_drop (h : l[place]? = some pivot) :
    l = l.take place ++ pivot :: l.drop (place + 1) := by
  rcases List.getElem?_eq_some_iff.mp h with ⟨hlt, rfl⟩
  rw [List.getElem_cons_drop, List.take_append_drop]

theorem part_perm (goes : α -> Bool) (pivotGoes : Bool) (h : l[place]? = some pivot) :
    ((part goes l place pivot pivotGoes).1 ++ (part goes l place pivot pivotGoes).2).Perm l := by
  have hwhole : (pivot :: (l.take place ++ l.drop (place + 1))).Perm l := by
    conv => rhs; rw [eq_take_cons_drop h]
    exact List.perm_middle.symm
  refine List.Perm.trans ?_ hwhole
  have hrest := List.filter_append_perm goes (l.take place ++ l.drop (place + 1))
  rw [List.filter_append, List.filter_append] at hrest
  refine List.Perm.trans ?_ (hrest.cons pivot)
  unfold part
  cases pivotGoes with
  | true =>
      rw [if_pos rfl]
      exact (List.perm_middle.append_right _).trans (by simp)
  | false =>
      rw [if_neg Bool.false_ne_true]
      rw [← List.append_assoc, ← List.append_assoc]
      exact List.perm_middle

theorem part_eq (goes : α -> Bool) (h : l[place]? = some pivot) (hgoes : goes pivot = pivotGoes) :
    part goes l place pivot pivotGoes = (l.filter goes, l.filter fun x => !goes x) := by
  conv => rhs; rw [eq_take_cons_drop h]
  unfold part
  cases pivotGoes with
  | true => simp [hgoes]
  | false => simp [hgoes]

theorem filter_keeps (h : forall a, a ∈ l -> forall b, b ∈ l -> goes a = true ->
    goes b = false -> rank a ≠ rank b) :
    Keeps rank l (l.filter goes ++ l.filter fun x => !goes x) := by
  induction l with
  | nil => exact .refl []
  | cons x rest ih =>
      have hrest := ih fun a ha b hb =>
        h a (List.mem_cons_of_mem x ha) b (List.mem_cons_of_mem x hb)
      cases hx : goes x with
      | true =>
          rw [List.filter_cons_of_pos hx, List.filter_cons_of_neg (by simp [hx])]
          exact .cons x hrest
      | false =>
          rw [List.filter_cons_of_neg (by simp [hx]), List.filter_cons_of_pos (by simp [hx])]
          -- `x` goes behind those that are sent to the front
          have hmove : Keeps rank (rest.filter goes ++ x :: rest.filter fun y => !goes y)
              (x :: rest.filter goes ++ rest.filter fun y => !goes y) := by
            apply Keeps.move
            intro a ha
            rcases List.mem_filter.mp ha with ⟨ha, hgoes⟩
            exact h a (List.mem_cons_of_mem x ha) x List.mem_cons_self hgoes hx
          exact (Keeps.cons x hrest).trans hmove.symm

theorem part_low (h : Ranks less rank l) (hpivot : l[place]? = some pivot) {low high : List α}
    (hpart : part (fun x => less x pivot) l place pivot false = (low, high)) :
    Keeps rank l (low ++ high) ∧ (forall x, x ∈ low -> rank x < rank pivot) ∧
      forall x, x ∈ high -> rank pivot ≤ rank x := by
  have hmem : pivot ∈ l := List.mem_of_getElem? hpivot
  have hlow : forall x, x ∈ l -> less x pivot = true -> rank x < rank pivot :=
    fun x hx hless => h.lt_of_less hx hmem hless
  have hhigh : forall x, x ∈ l -> less x pivot = false -> rank pivot ≤ rank x :=
    fun x hx hless => h.le_of_not_less hx hmem hless
  have hself : less pivot pivot = false := by
    rw [h pivot hmem pivot hmem]
    exact decide_eq_false (Int.lt_irrefl _)
  rw [part_eq (fun x => less x pivot) hpivot hself] at hpart
  cases hpart
  refine ⟨filter_keeps fun a ha b hb hless hnot => ?_, fun x hx => ?_, fun x hx => ?_⟩
  · exact Int.ne_of_lt (Int.lt_of_lt_of_le (hlow a ha hless) (hhigh b hb hnot))
  · rcases List.mem_filter.mp hx with ⟨hx, hless⟩
    exact hlow x hx hless
  · rcases List.mem_filter.mp hx with ⟨hx, hless⟩
    exact hhigh x hx (Bool.not_eq_eq_eq_not.mp hless)

theorem part_above (h : Ranks less rank l) (hpivot : l[place]? = some pivot)
    {equal above : List α}
    (hpart : part (fun x => !less pivot x) l place pivot true = (equal, above)) :
    Keeps rank l (equal ++ above) ∧ (forall x, x ∈ equal -> rank x ≤ rank pivot) ∧
      forall x, x ∈ above -> rank pivot < rank x := by
  have hmem : pivot ∈ l := List.mem_of_getElem? hpivot
  have hequal : forall x, x ∈ l -> (!less pivot x) = true -> rank x ≤ rank pivot :=
    fun x hx hless => h.le_of_not_less hmem hx (Bool.not_eq_eq_eq_not.mp hless)
  have habove : forall x, x ∈ l -> (!less pivot x) = false -> rank pivot < rank x :=
    fun x hx hless => h.lt_of_less hmem hx (Bool.not_eq_eq_eq_not.mp hless)
  have hself : (!less pivot pivot) = true := by
    rw [h pivot hmem pivot hmem, decide_eq_false (Int.lt_irrefl _)]
    rfl
  rw [part_eq (fun x => !less pivot x) hpivot hself] at hpart
  cases hpart
  refine ⟨filter_keeps fun a ha b hb hless hnot => ?_, fun x hx => ?_, fun x hx => ?_⟩
  · exact Int.ne_of_lt (Int.lt_of_le_of_lt (hequal a ha hless) (habove b hb hnot))
  · rcases List.mem_filter.mp hx with ⟨hx, hless⟩
    exact hequal x hx hless
  · rcases List.mem_filter.mp hx with ⟨hx, hless⟩
    exact habove x hx (Bool.not_eq_eq_eq_not.mp hless)

theorem low_high_sorted {low high s t : List α} (hkeeps : Keeps rank l (low ++ high))
    (hlow : forall x, x ∈ low -> rank x < rank pivot)
    (hhigh : forall x, x ∈ high -> rank pivot ≤ rank x) (hs : Sorted rank low s)
    (ht : Sorted rank high t) : Sorted rank l (s ++ t) :=
  Sorted.trans hkeeps (hs.append ht fun a ha b hb =>
    Int.le_of_lt (Int.lt_of_lt_of_le (hlow a ha) (hhigh b hb)))

theorem equal_above_sorted {equal above s : List α} (hkeeps : Keeps rank l (equal ++ above))
    (hleast : forall x, x ∈ l -> rank pivot ≤ rank x)
    (hequal : forall x, x ∈ equal -> rank x ≤ rank pivot)
    (habove : forall x, x ∈ above -> rank pivot < rank x) (hs : Sorted rank above s) :
    Sorted rank l (equal ++ s) := by
  have hrising : Rising rank equal := List.pairwise_of_forall_mem_list fun a ha b hb =>
    Int.le_trans (hequal a ha) (hleast b (hkeeps.mem_iff.mp (List.mem_append_left _ hb)))
  exact Sorted.trans hkeeps (Sorted.append ⟨hrising, .refl equal⟩ hs fun a ha b hb =>
    Int.le_of_lt (Int.lt_of_le_of_lt (hequal a ha) (habove b hb)))

end Part

/-!
# Dividing
-/

theorem divide_short {bound : Option α} {l : List α} (limit : Nat) (h : l.length ≤ blockSize) :
    divide less limit bound l = block less l := by
  unfold divide
  rw [if_pos h]

theorem divide_zero {bound : Option α} {l : List α} (h : ¬ l.length ≤ blockSize) :
    divide less 0 bound l = drift less (fun l => some (insertion less l)) true l := by
  unfold divide
  rw [if_neg h]

/-- A long list is parted by one of its elements. -/
theorem exists_divide (less : α -> α -> Bool) (limit : Nat) (bound : Option α) {l : List α}
    (h : ¬ l.length ≤ blockSize) : exists place pivot low high equal above,
      l[place]? = some pivot ∧
      part (fun x => less x pivot) l place pivot false = (low, high) ∧
      part (fun x => !less pivot x) l place pivot true = (equal, above) ∧
      divide less (limit + 1) bound l =
        if low.isEmpty || bound.any fun b => !less b pivot then
          (divide less limit none above).bind fun above => some (equal ++ above)
        else (divide less limit (some pivot) high).bind fun high =>
          (divide less limit bound low).bind fun low => some (low ++ high) := by
  have hpos : 0 < l.length := Nat.lt_of_le_of_lt (Nat.zero_le _) (Nat.not_le.mp h)
  rcases exists_sample less 0 hpos (Nat.le_of_eq (Nat.zero_add _))
    with ⟨⟨place, pivot⟩, hsample, hpivot⟩
  refine ⟨place, pivot, _, _, _, _, hpivot, rfl, rfl, ?_⟩
  conv => lhs; unfold divide
  rw [if_neg h, hsample]
  rfl

theorem divide_perm {limit : Nat} {bound : Option α} {l s : List α}
    (h : divide less limit bound l = some s) : s.Perm l := by
  induction limit generalizing bound l s with
  | zero =>
      by_cases hshort : l.length ≤ blockSize
      · rw [divide_short 0 hshort] at h
        exact (sorts_block less l).perm s h
      · rw [divide_zero hshort] at h
        exact drift_perm (sorts_insertion less) h
  | succ limit ih =>
      by_cases hshort : l.length ≤ blockSize
      · rw [divide_short _ hshort] at h
        exact (sorts_block less l).perm s h
      · rcases exists_divide less limit bound hshort
          with ⟨place, pivot, low, high, equal, above, hpivot, hlow, hequal, hdivide⟩
        rw [hdivide] at h
        split at h
        · rcases Option.bind_eq_some_iff.mp h with ⟨s', habove, hs⟩
          cases hs
          have hperm := part_perm (fun x => !less pivot x) true hpivot
          rw [hequal] at hperm
          exact ((ih habove).append_left equal).trans hperm
        · rcases Option.bind_eq_some_iff.mp h with ⟨t, hhigh', hmore⟩
          rcases Option.bind_eq_some_iff.mp hmore with ⟨s', hlow', hs⟩
          cases hs
          have hperm := part_perm (fun x => less x pivot) false hpivot
          rw [hlow] at hperm
          exact ((ih hlow').append (ih hhigh')).trans hperm

/-- Nothing is below a pivot from which nothing is parted or that is not above the bound. -/
theorem pivot_least {bound : Option α} {l low high : List α} {pivot : α} (hmem : pivot ∈ l)
    (h : Ranks less rank (bound.toList ++ l)) (hkeeps : Keeps rank l (low ++ high))
    (hhigh : forall x, x ∈ high -> rank pivot ≤ rank x)
    (hbound : forall b, b ∈ bound -> forall x, x ∈ l -> rank b ≤ rank x)
    (hleast : (low.isEmpty || bound.any fun b => !less b pivot) = true) :
    forall x, x ∈ l -> rank pivot ≤ rank x := by
  intro x hx
  rcases Bool.or_eq_true_iff.mp hleast with hempty | hany
  · rw [List.isEmpty_iff.mp hempty, List.nil_append] at hkeeps
    exact hhigh x (hkeeps.mem_iff.mpr hx)
  · rcases (Option.any_eq_true _ _).mp hany with ⟨b, hb, hless⟩
    have hmemBound : b ∈ bound.toList ++ l := by
      rw [hb]
      exact List.mem_cons_self
    have hle : rank pivot ≤ rank b := h.le_of_not_less hmemBound (List.mem_append_right _ hmem)
      (Bool.not_eq_eq_eq_not.mp hless)
    exact Int.le_trans hle (hbound b hb x hx)

theorem divide_sorted (limit : Nat) {bound : Option α} {l : List α}
    (h : Ranks less rank (bound.toList ++ l))
    (hbound : forall b, b ∈ bound -> forall x, x ∈ l -> rank b ≤ rank x) :
    exists s, divide less limit bound l = some s ∧ Sorted rank l s := by
  have hl : Ranks less rank l := h.append_right
  induction limit generalizing bound l with
  | zero =>
      by_cases hshort : l.length ≤ blockSize
      · rw [divide_short 0 hshort]
        exact (sorts_block less l).sorted rank hl
      · rw [divide_zero hshort]
        exact drift_sorted (sorts_insertion less) true hl
  | succ limit ih =>
      by_cases hshort : l.length ≤ blockSize
      · rw [divide_short _ hshort]
        exact (sorts_block less l).sorted rank hl
      · rcases exists_divide less limit bound hshort
          with ⟨place, pivot, low, high, equal, above, hpivot, hlow, hequal, hdivide⟩
        have hmem : pivot ∈ l := List.mem_of_getElem? hpivot
        rcases part_low hl hpivot hlow with ⟨hkeeps, hbelow, hhigh⟩
        rw [hdivide]
        split
        · next hleast =>
            -- nothing is below the pivot, so its equals come first and need no more sorting
            have hpivotLeast := pivot_least hmem h hkeeps hhigh hbound hleast
            rcases part_above hl hpivot hequal with ⟨hkeeps, hequal, habove⟩
            have hranks : Ranks less rank ((none : Option α).toList ++ above) :=
              hl.subset fun x hx => hkeeps.mem_iff.mp (List.mem_append_right _ hx)
            rcases ih hranks nofun hranks with ⟨s, hs, hsorted⟩
            exact ⟨equal ++ s, by rw [hs]; rfl,
              equal_above_sorted hkeeps hpivotLeast hequal habove hsorted⟩
        · have hmemLow : forall x, x ∈ low -> x ∈ l := fun x hx =>
            hkeeps.mem_iff.mp (List.mem_append_left _ hx)
          -- the part from the pivot on has the pivot as its bound
          have hranksHigh : Ranks less rank ((some pivot).toList ++ high) :=
            hl.subset (List.cons_subset.mpr ⟨hmem, fun x hx =>
              hkeeps.mem_iff.mp (List.mem_append_right _ hx)⟩)
          have hranksLow : Ranks less rank (bound.toList ++ low) :=
            h.subset (List.append_subset.mpr ⟨List.subset_append_left _ _,
              fun x hx => List.mem_append_right _ (hmemLow x hx)⟩)
          have hboundHigh : forall b, b ∈ some pivot -> forall x, x ∈ high -> rank b ≤ rank x := by
            intro b hb
            cases hb
            exact hhigh
          rcases ih hranksHigh hboundHigh hranksHigh.append_right with ⟨t, ht, hsortedHigh⟩
          rcases ih hranksLow (fun b hb x hx => hbound b hb x (hmemLow x hx))
            hranksLow.append_right with ⟨s, hs, hsortedLow⟩
          exact ⟨s ++ t, by rw [ht, hs]; rfl,
            low_high_sorted hkeeps hbelow hhigh hsortedLow hsortedHigh⟩

theorem sorts_divide (limit : Nat) (l : List α) : Sorts less l (divide less limit none l) where
  perm _ hs := divide_perm hs
  sorted _ h := divide_sorted limit h nofun

/-!
# Sorting
-/

/-- Sorting gives an order of the list, or nothing, and sorts what has ranks. -/
theorem sorts_sort (less : α -> α -> Bool) (l : List α) : Sorts less l (sort less l) := by
  unfold sort
  split
  · exact sorts_insertion less l
  · exact sorts_drift (fun l => sorts_divide (2 * l.length.log2) l) _ l

theorem exists_sort_of_short (less : α -> α -> Bool) {l : List α} (h : l.length ≤ insertionSize) :
    exists s, sort less l = some s :=
  ⟨insertion less l, by rw [sort, if_pos h]⟩

theorem sort_perm {l s : List α} (h : sort less l = some s) : s.Perm l :=
  (sorts_sort less l).perm s h

/-- What a comparison orders is sorted by it, and elements that may stand either way stay in order. -/
theorem exists_sort {l : List α} (h : Orders less l) {earlier : α -> α -> Prop}
    (hl : l.Pairwise earlier) : exists s, sort less l = some s ∧
      s.Pairwise fun a b => less b a = false ∧ (less a b = false -> earlier a b) := by
  rcases h.exists_ranks with ⟨rank, hranks⟩
  rcases (sorts_sort less l).sorted rank hranks with ⟨s, hs, hsorted⟩
  exact ⟨s, hs, hsorted.stable hranks hl⟩

end Sorting
end ContentGateway
