import ContentGateway.Proofs.Sorting.Ranks
import ContentGateway.Sorting.Block

/-!
# Short lists and blocks are sorted

Insertion sorts every list that has ranks.  The halves of a block are drawn from the front
and from the back; where they part is decided by the ranks alone, so both draws stop at the
same place.
-/

namespace ContentGateway
namespace Sorting

variable {α : Type} {less : α -> α -> Bool} {rank : α -> Int}

/-!
# Insertion
-/

theorem insertBack_perm (x : α) (l : List α) : (insertBack less x l).Perm (x :: l) := by
  induction l with
  | nil => exact List.Perm.refl _
  | cons y rest ih =>
      rw [insertBack]
      split
      · exact (ih.cons y).trans (List.Perm.swap x y rest)
      · exact List.Perm.refl _

theorem insertBack_keeps {x : α} {l : List α} (h : Ranks less rank (x :: l)) :
    Keeps rank (x :: l) (insertBack less x l) := by
  induction l with
  | nil => exact Keeps.refl _
  | cons y rest ih =>
      have hrest : Ranks less rank (x :: rest) := h.subset (by simp)
      rw [insertBack]
      split
      · next hless =>
          have hlt := h.lt_of_less (by simp) (by simp) hless
          have hmove : Keeps rank ([x] ++ y :: rest) (y :: [x] ++ rest) :=
            Keeps.move (fun a ha => by
              rw [List.mem_singleton.mp ha]
              exact Int.ne_of_lt hlt) rest
          exact hmove.trans ((ih hrest).cons y)
      · exact Keeps.refl _

theorem insertBack_falling {x : α} {l : List α} (h : Ranks less rank (x :: l))
    (hl : l.Pairwise fun a b => rank b ≤ rank a) :
    (insertBack less x l).Pairwise fun a b => rank b ≤ rank a := by
  induction l with
  | nil => exact List.pairwise_singleton _ x
  | cons y rest ih =>
      rcases List.pairwise_cons.mp hl with ⟨hy, hfalling⟩
      rw [insertBack]
      cases hless : less x y with
      | true =>
          have hlt := h.lt_of_less (by simp) (by simp) hless
          refine List.pairwise_cons.mpr ⟨?_, ih (h.subset (by simp)) hfalling⟩
          intro a ha
          rcases List.mem_cons.mp ((insertBack_perm x rest).mem_iff.mp ha) with rfl | hrest
          · exact Int.le_of_lt hlt
          · exact hy a hrest
      | false =>
          have hle := h.le_of_not_less (by simp) (by simp) hless
          refine List.pairwise_cons.mpr ⟨?_, hl⟩
          intro a ha
          rcases List.mem_cons.mp ha with rfl | hrest
          · exact hle
          · exact Int.le_trans (hy a hrest) hle

theorem insertAll_cons (sorted : List α) (x : α) (new : List α) :
    insertAll less sorted (x :: new) =
      insertAll less (insertBack less x sorted.reverse).reverse new := by
  unfold insertAll
  rw [List.foldl_cons, List.reverse_reverse]

theorem insertAll_perm (sorted new : List α) :
    (insertAll less sorted new).Perm (sorted ++ new) := by
  induction new generalizing sorted with
  | nil =>
      unfold insertAll
      rw [List.foldl_nil, List.reverse_reverse, List.append_nil]
  | cons x new ih =>
      rw [insertAll_cons]
      have hfirst : (insertBack less x sorted.reverse).reverse.Perm (x :: sorted) :=
        (List.reverse_perm _).trans ((insertBack_perm x _).trans
          ((List.reverse_perm sorted).cons x))
      exact (ih _).trans ((hfirst.append_right new).trans List.perm_middle.symm)

theorem insertAll_sorted {sorted new : List α} (h : Ranks less rank (sorted ++ new))
    (hsorted : Rising rank sorted) : Sorted rank (sorted ++ new) (insertAll less sorted new) := by
  induction new generalizing sorted with
  | nil =>
      unfold insertAll
      rw [List.foldl_nil, List.reverse_reverse, List.append_nil]
      exact ⟨hsorted, Keeps.refl sorted⟩
  | cons x new ih =>
      have hx : Ranks less rank (x :: sorted.reverse) := h.subset (by simp)
      have hkeeps := (insertBack_keeps hx).reverse
      rw [List.reverse_cons, List.reverse_reverse] at hkeeps
      have hall : Keeps rank (sorted ++ x :: new)
          ((insertBack less x sorted.reverse).reverse ++ new) := by
        have happend := hkeeps.append (Keeps.refl new)
        rw [List.append_assoc] at happend
        exact happend
      have hfalling := insertBack_falling hx (List.pairwise_reverse.mpr hsorted)
      rw [insertAll_cons]
      apply Sorted.trans hall
      apply ih
      · exact h.subset fun a ha => hall.mem_iff.mp ha
      · exact List.pairwise_reverse.mpr hfalling

theorem insertion_perm (l : List α) : (insertion less l).Perm l :=
  insertAll_perm [] l

theorem insertion_sorted {l : List α} (h : Ranks less rank l) :
    Sorted rank l (insertion less l) := by
  have hsorted : Rising rank ([] : List α) := List.Pairwise.nil
  exact insertAll_sorted h hsorted

/-!
# Halves of a block
-/

theorem crossPairs_perm (a b c d : α) : (crossPairs less a b c d).Perm [a, b, c, d] := by
  unfold crossPairs
  have hacb : List.Perm [a, c, b, d] [a, b, c, d] := (List.Perm.swap b c [d]).cons a
  have hc : List.Perm [c, a, b, d] [a, b, c, d] := (List.Perm.swap a c [b, d]).trans hacb
  have hdb : List.Perm [a, c, d, b] [a, b, c, d] :=
    (((List.Perm.swap b d []).cons c).cons a).trans hacb
  have hadcb : List.Perm [a, d, c, b] [a, b, c, d] := ((List.Perm.swap c d [b]).cons a).trans hdb
  have hcadb : List.Perm [c, a, d, b] [a, b, c, d] := (List.Perm.swap a c [d, b]).trans hdb
  have hcdab : List.Perm [c, d, a, b] [a, b, c, d] :=
    ((List.Perm.swap a d [b]).cons c).trans hcadb
  have hcbad : List.Perm [c, b, a, d] [a, b, c, d] := ((List.Perm.swap a b [d]).cons c).trans hc
  cases less c a with
  | false =>
      cases less d b with
      | false =>
          simp only [Bool.false_eq_true, if_false]
          split
          · exact hacb
          · exact List.Perm.refl _
      | true =>
          simp only [Bool.false_eq_true, if_false, if_true]
          split
          · exact hadcb
          · exact hdb
  | true =>
      cases less d b with
      | false =>
          simp only [Bool.false_eq_true, if_false, if_true]
          split
          · exact hcbad
          · exact hc
      | true =>
          simp only [if_true]
          split
          · exact hcdab
          · exact hcadb

theorem four_perm (a b c d : α) : (four less a b c d).Perm [a, b, c, d] := by
  have hfirst : List.Perm [b, a, c, d] [a, b, c, d] := List.Perm.swap a b [c, d]
  have hlast : List.Perm [a, b, d, c] [a, b, c, d] :=
    ((List.Perm.swap c d []).cons b).cons a
  have hboth : List.Perm [b, a, d, c] [a, b, c, d] := (List.Perm.swap a b [d, c]).trans hlast
  unfold four
  cases less b a with
  | false =>
      cases less d c with
      | false => exact crossPairs_perm a b c d
      | true => exact (crossPairs_perm a b d c).trans hlast
  | true =>
      cases less d c with
      | false => exact (crossPairs_perm b a c d).trans hfirst
      | true => exact (crossPairs_perm b a d c).trans hboth

theorem rising_four {a b c d : α} (hab : rank a ≤ rank b) (hbc : rank b ≤ rank c)
    (hcd : rank c ≤ rank d) : Rising rank [a, b, c, d] := by
  simp only [Rising, List.pairwise_cons, List.mem_cons, List.not_mem_nil, or_false,
    forall_eq_or_imp, forall_eq, List.Pairwise.nil, and_true, implies_true, false_implies]
  omega

theorem keeps_swap {x y : α} (h : rank y ≠ rank x) (r : List α) :
    Keeps rank (y :: x :: r) (x :: y :: r) :=
  Keeps.move (l := [y]) (List.forall_mem_singleton.mpr h) r

theorem crossPairs_sorted {a b c d : α} (h : Ranks less rank [a, b, c, d])
    (hab : rank a ≤ rank b) (hcd : rank c ≤ rank d) :
    Sorted rank [a, b, c, d] (crossPairs less a b c d) := by
  unfold crossPairs
  cases hca : less c a with
  | false =>
      have hac := h.le_of_not_less (by simp) (by simp) hca
      cases hdb : less d b with
      | false =>
          have hbd := h.le_of_not_less (by simp) (by simp) hdb
          simp only [Bool.false_eq_true, if_false]
          cases hcb : less c b with
          | false => exact ⟨rising_four hab (h.le_of_not_less (by simp) (by simp) hcb) hcd, .refl _⟩
          | true =>
              have hlt := h.lt_of_less (by simp) (by simp) hcb
              exact ⟨rising_four hac (Int.le_of_lt hlt) hbd,
                .cons a (keeps_swap (Int.ne_of_gt hlt) [d])⟩
      | true =>
          have hlt := h.lt_of_less (by simp) (by simp) hdb
          have hdc : less d c = false := by
            rw [h d (by simp) c (by simp)]
            exact decide_eq_false (Int.not_lt.mpr hcd)
          have hbc : rank b ≠ rank c := Int.ne_of_gt (Int.lt_of_le_of_lt hcd hlt)
          simp only [hdc, Bool.false_eq_true, if_false, if_true]
          exact ⟨rising_four hac hcd (Int.le_of_lt hlt),
            .cons a ((keeps_swap hbc [d]).trans (.cons c (keeps_swap (Int.ne_of_gt hlt) [])))⟩
  | true =>
      have hlt := h.lt_of_less (by simp) (by simp) hca
      -- one of the second pair comes first, before both of the first pair
      have hc : Keeps rank [a, b, c, d] [c, a, b, d] :=
        (Keeps.cons a (keeps_swap (Int.ne_of_gt (Int.lt_of_lt_of_le hlt hab)) [d])).trans
          (keeps_swap (Int.ne_of_gt hlt) [b, d])
      cases hdb : less d b with
      | false =>
          have hbd := h.le_of_not_less (by simp) (by simp) hdb
          have hba : less b a = false := by
            rw [h b (by simp) a (by simp)]
            exact decide_eq_false (Int.not_lt.mpr hab)
          simp only [hba, Bool.false_eq_true, if_false, if_true]
          exact ⟨rising_four (Int.le_of_lt hlt) hab hbd, hc⟩
      | true =>
          have hdb' := h.lt_of_less (by simp) (by simp) hdb
          have hkeeps : Keeps rank [a, b, c, d] [c, a, d, b] :=
            hc.trans (.cons c (.cons a (keeps_swap (Int.ne_of_gt hdb') [])))
          simp only [if_true]
          cases hda : less d a with
          | false =>
              exact ⟨rising_four (Int.le_of_lt hlt) (h.le_of_not_less (by simp) (by simp) hda)
                (Int.le_of_lt hdb'), hkeeps⟩
          | true =>
              have hda' := h.lt_of_less (by simp) (by simp) hda
              exact ⟨rising_four hcd (Int.le_of_lt hda') hab,
                hkeeps.trans (.cons c (keeps_swap (Int.ne_of_gt hda') [b]))⟩

theorem four_sorted {a b c d : α} (h : Ranks less rank [a, b, c, d]) :
    Sorted rank [a, b, c, d] (four less a b c d) := by
  have hfirst : less b a = true -> Keeps rank [a, b, c, d] [b, a, c, d] := fun hba =>
    keeps_swap (Int.ne_of_gt (h.lt_of_less (by simp) (by simp) hba)) [c, d]
  have hlast : less d c = true -> forall x y, Keeps rank [x, y, c, d] [x, y, d, c] := fun hdc x y =>
    .cons x (.cons y (keeps_swap (Int.ne_of_gt (h.lt_of_less (by simp) (by simp) hdc)) []))
  unfold four
  cases hba : less b a with
  | false =>
      have hab := h.le_of_not_less (by simp) (by simp) hba
      cases hdc : less d c with
      | false => exact crossPairs_sorted h hab (h.le_of_not_less (by simp) (by simp) hdc)
      | true =>
          have hcd := Int.le_of_lt (h.lt_of_less (by simp) (by simp) hdc)
          exact Sorted.trans (hlast hdc a b) (crossPairs_sorted (h.subset (by simp)) hab hcd)
  | true =>
      have hab := Int.le_of_lt (h.lt_of_less (by simp) (by simp) hba)
      cases hdc : less d c with
      | false =>
          exact Sorted.trans (hfirst hba) (crossPairs_sorted (h.subset (by simp)) hab
            (h.le_of_not_less (by simp) (by simp) hdc))
      | true =>
          have hcd := Int.le_of_lt (h.lt_of_less (by simp) (by simp) hdc)
          exact Sorted.trans ((hfirst hba).trans (hlast hdc b a))
            (crossPairs_sorted (h.subset (by simp)) hab hcd)

theorem half_perm (less : α -> α -> Bool) (long : Bool) (l : List α) : (half less long l).Perm l := by
  unfold half
  split
  · next a b c d rest =>
      split
      · exact (insertAll_perm _ rest).trans ((four_perm a b c d).append_right rest)
      · exact insertion_perm _
  · exact insertion_perm l

theorem half_sorted {l : List α} (h : Ranks less rank l) (long : Bool) :
    Sorted rank l (half less long l) := by
  unfold half
  split
  · next a b c d rest =>
      split
      · have hfour : Sorted rank [a, b, c, d] (four less a b c d) :=
          four_sorted (h.subset (by simp))
        have hkeeps : Keeps rank ([a, b, c, d] ++ rest) (four less a b c d ++ rest) :=
          hfour.keeps.append (.refl rest)
        exact Sorted.trans hkeeps
          (insertAll_sorted (h.subset fun x hx => hkeeps.mem_iff.mp hx) hfour.rising)
      · exact insertion_sorted h
  · exact insertion_sorted h

/-!
# Drawing
-/

/-- Where two lists are cut, what lies before the cuts may stand before what lies behind them. -/
structure Cut (rank : α -> Int) (fromLeft left fromRight right : List α) : Prop where
  le : forall x, x ∈ fromLeft -> forall y, y ∈ right -> rank x ≤ rank y
  lt : forall y, y ∈ fromRight -> forall x, x ∈ left -> rank y < rank x

/-- What is drawn from two lists is a part of each, from its front. -/
structure Drawn (less : α -> α -> Bool) (n : Nat)
    (xs ys drawn left right fromLeft fromRight : List α) : Prop where
  left_eq : xs = fromLeft ++ left
  right_eq : ys = fromRight ++ right
  perm : drawn.Perm (fromLeft ++ fromRight)
  count : n ≤ xs.length -> n ≤ ys.length -> fromLeft.length + fromRight.length = n
  sorted : forall rank, Ranks less rank (xs ++ ys) -> Rising rank xs -> Rising rank ys ->
    Sorted rank (fromLeft ++ fromRight) drawn ∧ Cut rank fromLeft left fromRight right

theorem drawn_nothing {n : Nat} {xs ys : List α} (h : n ≤ xs.length -> n ≤ ys.length -> n = 0) :
    Drawn less n xs ys [] xs ys [] [] where
  left_eq := rfl
  right_eq := rfl
  perm := List.Perm.refl []
  count hx hy := (h hx hy).symm
  sorted _ _ _ _ := ⟨⟨List.Pairwise.nil, .refl []⟩, nofun, nofun⟩

section Step

variable {n : Nat} {x y : α} {xs ys drawn left right a b : List α}

theorem Drawn.cons_right (h : Drawn less n (x :: xs) ys drawn left right a b)
    (hless : less y x = true) :
    Drawn less (n + 1) (x :: xs) (y :: ys) (y :: drawn) left right a (y :: b) := by
  constructor
  · exact h.left_eq
  · exact congrArg (y :: ·) h.right_eq
  · exact (h.perm.cons y).trans List.perm_middle.symm
  · intro hx hy
    have hn := h.count (Nat.le_of_succ_le hx) (Nat.le_of_succ_le_succ hy)
    rw [List.length_cons]
    omega
  · intro rank hranks hxs hys
    have hlt : rank y < rank x := hranks.lt_of_less (by simp) (by simp) hless
    rcases List.pairwise_cons.mp hys with ⟨hy, hys⟩
    have hrest : Ranks less rank (x :: xs ++ ys) :=
      hranks.subset ((List.sublist_cons_self y ys).append_left _).subset
    rcases h.sorted rank hrest hxs hys with ⟨hsorted, hcut⟩
    -- the first list has nothing as low as the element that is drawn
    have hlow : forall z, z ∈ x :: xs -> rank y < rank z := by
      intro z hz
      rcases List.mem_cons.mp hz with rfl | hz
      · exact hlt
      · exact Int.lt_of_lt_of_le hlt ((List.pairwise_cons.mp hxs).1 z hz)
    have ha : forall z, z ∈ a -> rank y < rank z := fun z hz =>
      hlow z (h.left_eq ▸ List.mem_append_left _ hz)
    have hb : forall z, z ∈ b -> rank y ≤ rank z := fun z hz =>
      hy z (h.right_eq ▸ List.mem_append_left _ hz)
    refine ⟨⟨List.pairwise_cons.mpr ⟨?_, hsorted.rising⟩, ?_⟩, hcut.le, ?_⟩
    · intro z hz
      rcases List.mem_append.mp (hsorted.keeps.mem_iff.mp hz) with hz | hz
      · exact Int.le_of_lt (ha z hz)
      · exact hb z hz
    · exact (Keeps.move (fun z hz => Int.ne_of_gt (ha z hz)) b).trans (.cons y hsorted.keeps)
    · intro z hz w hw
      rcases List.mem_cons.mp hz with rfl | hz
      · exact hlow w (h.left_eq ▸ List.mem_append_right _ hw)
      · exact hcut.lt z hz w hw

theorem Drawn.cons_left (h : Drawn less n xs (y :: ys) drawn left right a b)
    (hless : less y x = false) :
    Drawn less (n + 1) (x :: xs) (y :: ys) (x :: drawn) left right (x :: a) b := by
  constructor
  · exact congrArg (x :: ·) h.left_eq
  · exact h.right_eq
  · exact h.perm.cons x
  · intro hx hy
    have hn := h.count (Nat.le_of_succ_le_succ hx) (Nat.le_of_succ_le hy)
    rw [List.length_cons]
    omega
  · intro rank hranks hxs hys
    have hle : rank x ≤ rank y := hranks.le_of_not_less (by simp) (by simp) hless
    rcases List.pairwise_cons.mp hxs with ⟨hx, hxs⟩
    rcases h.sorted rank (hranks.subset (by simp)) hxs hys with ⟨hsorted, hcut⟩
    have hlow : forall z, z ∈ y :: ys -> rank x ≤ rank z := by
      intro z hz
      rcases List.mem_cons.mp hz with rfl | hz
      · exact hle
      · exact Int.le_trans hle ((List.pairwise_cons.mp hys).1 z hz)
    refine ⟨⟨List.pairwise_cons.mpr ⟨?_, hsorted.rising⟩, .cons x hsorted.keeps⟩, ?_, hcut.lt⟩
    · intro z hz
      rcases List.mem_append.mp (hsorted.keeps.mem_iff.mp hz) with hz | hz
      · exact hx z (h.left_eq ▸ List.mem_append_left _ hz)
      · exact hlow z (h.right_eq ▸ List.mem_append_left _ hz)
    · intro z hz w hw
      rcases List.mem_cons.mp hz with rfl | hz
      · exact hlow w (h.right_eq ▸ List.mem_append_right _ hw)
      · exact hcut.le z hz w hw

end Step

theorem exists_drawn (less : α -> α -> Bool) (n : Nat) (xs ys : List α) :
    exists fromLeft fromRight, Drawn less n xs ys (draw less n xs ys).1 (draw less n xs ys).2.1
      (draw less n xs ys).2.2 fromLeft fromRight := by
  induction n generalizing xs ys with
  | zero => exact ⟨[], [], drawn_nothing fun _ _ => rfl⟩
  | succ n ih =>
      cases xs with
      | nil => exact ⟨[], [], drawn_nothing fun h => absurd h (Nat.not_succ_le_zero n)⟩
      | cons x xs =>
          cases ys with
          | nil => exact ⟨[], [], drawn_nothing fun _ h => absurd h (Nat.not_succ_le_zero n)⟩
          | cons y ys =>
              rw [draw]
              cases hless : less y x with
              | true =>
                  rcases ih (x :: xs) ys with ⟨a, b, hdrawn⟩
                  exact ⟨a, y :: b, hdrawn.cons_right hless⟩
              | false =>
                  rcases ih xs (y :: ys) with ⟨a, b, hdrawn⟩
                  exact ⟨x :: a, b, hdrawn.cons_left hless⟩

/-!
# Meeting
-/

theorem exists_of_longer {a l c m : List α} (h : a ++ l = c ++ m) (hlonger : c.length < a.length) :
    exists x, x ∈ a ∧ x ∈ m := by
  rcases List.append_eq_append_iff.mp h with ⟨more, hc, _⟩ | ⟨more, ha, hm⟩
  · rw [hc, List.length_append] at hlonger
    omega
  · cases more with
    | nil =>
        rw [ha, List.append_nil] at hlonger
        exact absurd hlonger (Nat.lt_irrefl _)
    | cons x more =>
        refine ⟨x, ?_, ?_⟩
        · rw [ha]
          simp
        · rw [hm]
          simp

theorem Cut.le_of_mem {a l b r : List α} (h : Cut rank a l b r) (hl : Rising rank (a ++ l))
    (hr : Rising rank (b ++ r)) : forall x, x ∈ a ++ b -> forall y, y ∈ l ++ r ->
      rank x ≤ rank y := by
  intro x hx y hy
  rcases List.mem_append.mp hx with hx | hx
  · rcases List.mem_append.mp hy with hy | hy
    · exact hl.of_append.2.2 x hx y hy
    · exact h.le x hx y hy
  · rcases List.mem_append.mp hy with hy | hy
    · exact Int.le_of_lt (h.lt x hx y hy)
    · exact hr.of_append.2.2 x hx y hy

theorem Cut.length_le {a l c l' b r d r' : List α} (h : Cut rank a l b r) (h' : Cut rank c l' d r')
    (hleft : a ++ l = c ++ l') (hright : b ++ r = d ++ r')
    (hlength : a.length + b.length ≤ c.length + d.length) :
    a.length ≤ c.length ∧ b.length ≤ d.length := by
  constructor
  · apply Nat.not_lt.mp
    intro hlonger
    rcases exists_of_longer hleft hlonger with ⟨x, hxa, hxl⟩
    have hshorter : b.length < d.length := by
      omega
    rcases exists_of_longer hright.symm hshorter with ⟨y, hyd, hyr⟩
    exact absurd (h.le x hxa y hyr) (Int.not_le.mpr (h'.lt y hyd x hxl))
  · apply Nat.not_lt.mp
    intro hlonger
    rcases exists_of_longer hright hlonger with ⟨y, hyb, hyr⟩
    have hshorter : a.length < c.length := by
      omega
    rcases exists_of_longer hleft.symm hshorter with ⟨x, hxc, hxl⟩
    exact absurd (h'.le x hxc y hyr) (Int.not_le.mpr (h.lt y hyb x hxl))

theorem eq_of_beginnings {a l c d : List α} {n : Nat} (h : a ++ l = c ++ d)
    (hlength : a.length + n = c.length) : c = a ++ l.take n ∧ l = l.take n ++ d := by
  have hc : c = a ++ l.take n := by
    have htake : (c ++ d).take c.length = c := List.take_left' rfl
    rw [← h, ← hlength, List.take_length_add_append] at htake
    exact htake.symm
  refine ⟨hc, ?_⟩
  rw [hc, List.append_assoc] at h
  exact List.append_cancel_left h

/-- Two draws from two lists, one from the front and one from the back. -/
structure Met (less : α -> α -> Bool) (l r front l₁ r₁ back r₂ l₂ a b c d : List α) : Prop where
  front : Drawn less l.length l r front l₁ r₁ a b
  back : Drawn (fun a b => less b a) l.length r.reverse l.reverse back r₂ l₂ c d

section Met

variable {l r front l₁ r₁ back r₂ l₂ a b c d : List α}

theorem Met.left (h : Met less l r front l₁ r₁ back r₂ l₂ a b c d) :
    a ++ l₁ = l₂.reverse ++ d.reverse := by
  rw [← h.front.left_eq, ← List.reverse_append, ← h.back.right_eq, List.reverse_reverse]

theorem Met.right (h : Met less l r front l₁ r₁ back r₂ l₂ a b c d) :
    b ++ r₁ = r₂.reverse ++ c.reverse := by
  rw [← h.front.right_eq, ← List.reverse_append, ← h.back.left_eq, List.reverse_reverse]

theorem Met.parts (h : Met less l r front l₁ r₁ back r₂ l₂ a b c d) {m n : Nat}
    (hleft : a.length + m = l₂.length) (hright : b.length + n = r₂.length) :
    l ++ r = (a ++ l₁.take m ++ d.reverse) ++ (b ++ r₁.take n ++ c.reverse) := by
  have hl := (eq_of_beginnings h.left (by rw [List.length_reverse, hleft])).2
  have hr := (eq_of_beginnings h.right (by rw [List.length_reverse, hright])).2
  have hl' : l = a ++ l₁.take m ++ d.reverse := by
    rw [List.append_assoc, ← hl]
    exact h.front.left_eq
  have hr' : r = b ++ r₁.take n ++ c.reverse := by
    rw [List.append_assoc, ← hr]
    exact h.front.right_eq
  rw [← hl', ← hr']

theorem Met.perm (h : Met less l r front l₁ r₁ back r₂ l₂ a b c d) {m n : Nat}
    (hleft : a.length + m = l₂.length) (hright : b.length + n = r₂.length) :
    (front ++ l₁.take m ++ r₁.take n ++ back.reverse).Perm (l ++ r) := by
  have hback : back.reverse.Perm (d.reverse ++ c.reverse) := by
    rw [← List.reverse_append]
    exact (List.reverse_perm back).trans (h.back.perm.trans (List.reverse_perm _).symm)
  have hfront : (front ++ l₁.take m ++ r₁.take n ++ back.reverse).Perm
      ((a ++ b) ++ l₁.take m ++ r₁.take n ++ (d.reverse ++ c.reverse)) :=
    ((h.front.perm.append_right _).append_right _).append hback
  rw [h.parts hleft hright]
  refine hfront.trans ?_
  -- the parts of the second list go behind the last part of the first one
  have hlast : (r₁.take n ++ d.reverse).Perm (d.reverse ++ r₁.take n) := List.perm_append_comm
  have hfirst : (b ++ (l₁.take m ++ d.reverse)).Perm ((l₁.take m ++ d.reverse) ++ b) :=
    List.perm_append_comm
  have hall := ((hlast.append_right c.reverse).append_left (a ++ b ++ l₁.take m)).trans
    (by simpa using (hfirst.append_left a).append_right (r₁.take n ++ c.reverse))
  simpa using hall

theorem Met.sorted_ends (h : Met less l r front l₁ r₁ back r₂ l₂ a b c d)
    (hranks : Ranks less rank (l ++ r)) (hl : Rising rank l) (hr : Rising rank r) :
    Sorted rank (a ++ b) front ∧ Cut rank a l₁ b r₁ ∧
      Sorted rank (d.reverse ++ c.reverse) back.reverse ∧
      Cut rank l₂.reverse d.reverse r₂.reverse c.reverse := by
  -- seen from the back, both the lists and the ranks are reversed
  have hranks' : Ranks less rank (r.reverse ++ l.reverse) := hranks.subset (by simp)
  rcases h.front.sorted rank hranks hl hr with ⟨hfront, hcut⟩
  rcases h.back.sorted _ hranks'.swap hr.reverse hl.reverse with ⟨hback, hcut'⟩
  have hsorted := hback.reverse
  rw [List.reverse_append] at hsorted
  refine ⟨hfront, hcut, hsorted, ?_, ?_⟩
  · intro x hx y hy
    exact Int.neg_le_neg_iff.mp
      (hcut'.le y (List.mem_reverse.mp hy) x (List.mem_reverse.mp hx))
  · intro y hy x hx
    exact Int.neg_lt_neg_iff.mp
      (hcut'.lt x (List.mem_reverse.mp hx) y (List.mem_reverse.mp hy))

theorem Met.lengths (h : Met less l r front l₁ r₁ back r₂ l₂ a b c d)
    (hranks : Ranks less rank (l ++ r)) (hl : Rising rank l) (hr : Rising rank r)
    (hlength : l.length ≤ r.length) :
    a.length ≤ l₂.length ∧ b.length ≤ r₂.length ∧ a.length + b.length = l.length ∧
      l₂.length + r₂.length = r.length := by
  rcases h.sorted_ends hranks hl hr with ⟨_, hcut, _, hcut'⟩
  have hfront := h.front.count (Nat.le_refl _) hlength
  have hback := h.back.count (Nat.le_trans hlength (Nat.le_of_eq List.length_reverse.symm))
    (Nat.le_of_eq List.length_reverse.symm)
  have hleft := congrArg List.length h.back.left_eq
  have hright := congrArg List.length h.back.right_eq
  rw [List.length_reverse, List.length_append] at hleft hright
  have hall := hcut.length_le hcut' h.left h.right (by
    rw [List.length_reverse, List.length_reverse]
    omega)
  rw [List.length_reverse, List.length_reverse] at hall
  refine ⟨hall.1, hall.2, hfront, ?_⟩
  omega

/-- Draws that leave no more than the middle leave it where it belongs. -/
theorem Met.sorted (h : Met less l r front l₁ r₁ back r₂ l₂ a b c d)
    (hranks : Ranks less rank (l ++ r)) (hl : Rising rank l) (hr : Rising rank r) {m n : Nat}
    (hmiddle : m + n ≤ 1) (hleft : a.length + m = l₂.length) (hright : b.length + n = r₂.length) :
    Sorted rank (l ++ r) (front ++ l₁.take m ++ r₁.take n ++ back.reverse) := by
  rcases h.sorted_ends hranks hl hr with ⟨hfront, hcut, hback, hcut'⟩
  rcases eq_of_beginnings h.left (by rw [List.length_reverse, hleft]) with ⟨hl₂, hl₁⟩
  rcases eq_of_beginnings h.right (by rw [List.length_reverse, hright]) with ⟨hr₂, hr₁⟩
  have hparts := h.parts hleft hright
  rw [h.front.left_eq] at hl
  rw [h.front.right_eq] at hr
  have hlow := hcut.le_of_mem hl hr
  have hhigh := hcut'.le_of_mem (h.left ▸ hl) (h.right ▸ hr)
  rw [hl₂, hr₂] at hhigh hcut'
  rw [hl₁] at hcut
  have hodd : Sorted rank (l₁.take m ++ r₁.take n) (l₁.take m ++ r₁.take n) := by
    refine ⟨?_, .refl _⟩
    have hlength : (l₁.take m ++ r₁.take n).length ≤ 1 := by
      rw [List.length_append, List.length_take, List.length_take]
      omega
    match l₁.take m ++ r₁.take n, hlength with
    | [], _ => exact List.Pairwise.nil
    | [x], _ => exact List.pairwise_singleton _ x
  have hwhole : Sorted rank ((a ++ b) ++ ((l₁.take m ++ r₁.take n) ++ (d.reverse ++ c.reverse)))
      (front ++ ((l₁.take m ++ r₁.take n) ++ back.reverse)) := by
    apply hfront.append
    · apply hodd.append hback
      intro x hx y hy
      apply hhigh x _ y hy
      rcases List.mem_append.mp hx with hx | hx
      · simp [hx]
      · simp [hx]
    · intro x hx y hy
      apply hlow x hx y
      rw [hl₁, hr₁]
      simp only [List.mem_append] at hy ⊢
      rcases hy with (hy | hy) | hy | hy
      · exact Or.inl (Or.inl hy)
      · exact Or.inr (Or.inl hy)
      · exact Or.inl (Or.inr hy)
      · exact Or.inr (Or.inr hy)
  -- what comes from the second list changes places with what follows it in the first one
  have hfirst : Keeps rank ((l₁.take m ++ d.reverse) ++ b) (b ++ (l₁.take m ++ d.reverse)) :=
    Keeps.exchange fun x hx y hy => Int.ne_of_gt (hcut.lt y hy x hx)
  have hlast : Keeps rank (d.reverse ++ r₁.take n) (r₁.take n ++ d.reverse) :=
    Keeps.exchange fun x hx y hy =>
      Int.ne_of_gt (hcut'.lt y (List.mem_append_right _ hy) x hx)
  have hkeeps : Keeps rank (l ++ r)
      ((a ++ b) ++ ((l₁.take m ++ r₁.take n) ++ (d.reverse ++ c.reverse))) := by
    have hone := ((Keeps.refl a).append hfirst).append (.refl (r₁.take n ++ c.reverse))
    have htwo := ((Keeps.refl (a ++ b ++ l₁.take m)).append hlast).append (.refl c.reverse)
    rw [hparts]
    simp only [List.append_assoc] at hone htwo ⊢
    exact hone.trans htwo
  have hall := Sorted.trans hkeeps hwhole
  simp only [List.append_assoc] at hall ⊢
  exact hall

end Met

/-!
# Blocks
-/

theorem exists_met (less : α -> α -> Bool) (l r : List α) : exists front l₁ r₁ back r₂ l₂ a b c d m n,
    Met less l r front l₁ r₁ back r₂ l₂ a b c d ∧
      m = (if r.length ≠ l.length ∧ a.length < l₂.length then 1 else 0) ∧
      n = (if r.length ≠ l.length ∧ ¬ a.length < l₂.length then 1 else 0) ∧
      meet less l r =
        if a.length + m = l₂.length ∧ b.length + n = r₂.length then
          some (front ++ l₁.take m ++ r₁.take n ++ back.reverse)
        else none := by
  rcases exists_drawn less l.length l r with ⟨a, b, hfront⟩
  rcases exists_drawn (fun a b => less b a) l.length r.reverse l.reverse
    with ⟨c, d, hback⟩
  have ha : l.length - (draw less l.length l r).2.1.length = a.length := by
    have hlength := congrArg List.length hfront.left_eq
    rw [List.length_append] at hlength
    omega
  have hb : r.length - (draw less l.length l r).2.2.length = b.length := by
    have hlength := congrArg List.length hfront.right_eq
    rw [List.length_append] at hlength
    omega
  refine ⟨_, _, _, _, _, _, a, b, c, d, _, _, ⟨hfront, hback⟩, rfl, rfl, ?_⟩
  unfold meet
  simp only [ha, hb]

theorem meet_perm {l r s : List α} (h : meet less l r = some s) : s.Perm (l ++ r) := by
  rcases exists_met less l r with ⟨_, _, _, _, _, _, _, _, _, _, m, n, hmet, _, _, heq⟩
  rw [heq] at h
  split at h
  · next hlengths =>
      cases h
      exact hmet.perm hlengths.1 hlengths.2
  · cases h

/-- Sorted halves always meet. -/
theorem meet_sorted {l r : List α} (hranks : Ranks less rank (l ++ r)) (hl : Rising rank l)
    (hr : Rising rank r) (hlength : r.length = l.length ∨ r.length = l.length + 1) :
    exists s, meet less l r = some s ∧ Sorted rank (l ++ r) s := by
  rcases exists_met less l r with
    ⟨_, _, _, _, r₂, l₂, a, b, _, _, m, n, hmet, hm, hn, heq⟩
  rcases hmet.lengths hranks hl hr (by omega) with ⟨hleft, hright, hfront, hback⟩
  -- between the draws stands the odd element, if there is one
  have hlengths : a.length + m = l₂.length ∧ b.length + n = r₂.length ∧ m + n ≤ 1 := by
    by_cases hodd : r.length = l.length
    · simp only [hodd, ne_eq, not_true_eq_false, false_and, if_false] at hm hn
      omega
    · by_cases hless : a.length < l₂.length
      · simp only [hodd, hless, ne_eq, not_false_eq_true, not_true_eq_false, and_self, and_false,
          if_true, if_false] at hm hn
        omega
      · simp only [hodd, hless, ne_eq, not_false_eq_true, and_self, and_false, if_true,
          if_false] at hm hn
        omega
  rw [heq, if_pos ⟨hlengths.1, hlengths.2.1⟩]
  exact ⟨_, rfl, hmet.sorted hranks hl hr hlengths.2.2 hlengths.1 hlengths.2.1⟩

/-- A block that has ranks is sorted, and what comes of any other block is an order of it. -/
theorem sorts_block (less : α -> α -> Bool) (l : List α) : Sorts less l (block less l) := by
  have hhalves : l.take (l.length / 2) ++ l.drop (l.length / 2) = l := List.take_append_drop _ l
  constructor
  · intro s hs
    unfold block at hs
    split at hs
    · cases hs
      exact List.Perm.refl l
    · have hperm := (half_perm less (decide (8 ≤ l.length)) (l.take (l.length / 2))).append
        (half_perm less (decide (8 ≤ l.length)) (l.drop (l.length / 2)))
      rw [hhalves] at hperm
      exact (meet_perm hs).trans hperm
  · intro rank hranks
    unfold block
    split
    · next hshort =>
        refine ⟨l, rfl, ?_, .refl l⟩
        match l, hshort with
        | [], _ => exact List.Pairwise.nil
        | [x], _ => exact List.pairwise_singleton _ x
    · have hl := half_sorted (hranks.subset (List.take_subset (l.length / 2) l))
        (decide (8 ≤ l.length))
      have hr := half_sorted (hranks.subset (List.drop_subset (l.length / 2) l))
        (decide (8 ≤ l.length))
      have hkeeps := hl.keeps.append hr.keeps
      rw [hhalves] at hkeeps
      have hlength := (half_perm less (decide (8 ≤ l.length))
        (l.take (l.length / 2))).length_eq
      have hlength' := (half_perm less (decide (8 ≤ l.length))
        (l.drop (l.length / 2))).length_eq
      rw [List.length_take] at hlength
      rw [List.length_drop] at hlength'
      rcases meet_sorted (hranks.subset fun x hx => hkeeps.mem_iff.mp hx) hl.rising hr.rising
        (by omega) with ⟨s, hs, hsorted⟩
      exact ⟨s, hs, Sorted.trans hkeeps hsorted⟩

theorem sorts_insertion (less : α -> α -> Bool) (l : List α) : Sorts less l (some (insertion less l)) where
  perm s hs := by
    cases hs
    exact insertion_perm l
  sorted rank hranks := ⟨_, rfl, insertion_sorted hranks⟩

end Sorting
end ContentGateway
