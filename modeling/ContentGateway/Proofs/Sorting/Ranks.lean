/-!
# Ranks

A comparison that orders a list goes by ranks: of two elements the one of lower rank is less.
Sorting by ranks makes the ranks rise and keeps the order of the elements of each rank.  A
comparison that neither contradicts itself nor leaves gaps has ranks on every list.
-/

namespace ContentGateway
namespace Sorting

variable {α : Type} {less : α -> α -> Bool} {rank : α -> Int}

/-- Among the elements of a list one is less than another if its rank is lower. -/
def Ranks (less : α -> α -> Bool) (rank : α -> Int) (l : List α) : Prop :=
  forall a, a ∈ l -> forall b, b ∈ l -> less a b = decide (rank a < rank b)

def Rising (rank : α -> Int) (l : List α) : Prop :=
  l.Pairwise fun a b => rank a ≤ rank b

/-- Both lists have the same elements of each rank, in the same order. -/
def Keeps (rank : α -> Int) (l s : List α) : Prop :=
  forall n, s.filter (fun x => rank x == n) = l.filter fun x => rank x == n

namespace Ranks

variable {l : List α}

theorem subset (h : Ranks less rank l) {s : List α} (hs : s ⊆ l) : Ranks less rank s :=
  fun a ha b hb => h a (hs ha) b (hs hb)

theorem append_left {r : List α} (h : Ranks less rank (l ++ r)) : Ranks less rank l :=
  h.subset (List.subset_append_left l r)

theorem append_right {r : List α} (h : Ranks less rank (l ++ r)) : Ranks less rank r :=
  h.subset (List.subset_append_right l r)

theorem lt_of_less (h : Ranks less rank l) {a b : α} (ha : a ∈ l) (hb : b ∈ l)
    (hab : less a b = true) : rank a < rank b := by
  rw [h a ha b hb] at hab
  exact of_decide_eq_true hab

theorem le_of_not_less (h : Ranks less rank l) {a b : α} (ha : a ∈ l) (hb : b ∈ l)
    (hab : less a b = false) : rank b ≤ rank a := by
  rw [h a ha b hb] at hab
  exact Int.not_lt.mp (of_decide_eq_false hab)

theorem swap (h : Ranks less rank l) : Ranks (fun a b => less b a) (fun x => -rank x) l := by
  intro a ha b hb
  show less b a = _
  rw [h b hb a ha]
  exact decide_eq_decide.mpr Int.neg_lt_neg_iff.symm

end Ranks

/-!
# Rising ranks
-/

namespace Rising

variable {l r : List α}

theorem append (hl : Rising rank l) (hr : Rising rank r)
    (h : forall a, a ∈ l -> forall b, b ∈ r -> rank a ≤ rank b) : Rising rank (l ++ r) :=
  List.pairwise_append.mpr ⟨hl, hr, h⟩

theorem of_append (h : Rising rank (l ++ r)) :
    Rising rank l ∧ Rising rank r ∧ forall a, a ∈ l -> forall b, b ∈ r -> rank a ≤ rank b :=
  List.pairwise_append.mp h

theorem reverse (h : Rising rank l) : Rising (fun x => -rank x) l.reverse := by
  unfold Rising
  rw [List.pairwise_reverse]
  exact h.imp fun hab => Int.neg_le_neg hab

theorem of_reverse (h : Rising (fun x => -rank x) l) : Rising rank l.reverse := by
  unfold Rising
  rw [List.pairwise_reverse]
  exact h.imp fun hab => Int.neg_le_neg_iff.mp hab

end Rising

/-!
# Keeping the order of each rank
-/

namespace Keeps

variable {k l r s t : List α}

theorem refl (l : List α) : Keeps rank l l :=
  fun _ => rfl

theorem symm (h : Keeps rank l s) : Keeps rank s l :=
  fun n => (h n).symm

theorem trans (h : Keeps rank k l) (h' : Keeps rank l s) : Keeps rank k s :=
  fun n => (h' n).trans (h n)

theorem append (h : Keeps rank l s) (h' : Keeps rank r t) : Keeps rank (l ++ r) (s ++ t) := by
  intro n
  rw [List.filter_append, List.filter_append, h n, h' n]

theorem cons (x : α) (h : Keeps rank l s) : Keeps rank (x :: l) (x :: s) :=
  append (refl [x]) h

theorem reverse (h : Keeps rank l s) : Keeps rank l.reverse s.reverse := by
  intro n
  rw [List.filter_reverse, List.filter_reverse, h n]

theorem swap (h : Keeps (fun x => -rank x) l s) : Keeps rank l s := by
  intro n
  have hn := h (-n)
  have hrank : (fun x => -rank x == -n) = fun x => rank x == n := by
    funext x
    rw [Bool.eq_iff_iff, beq_iff_eq, beq_iff_eq, Int.neg_inj]
  rw [hrank] at hn
  exact hn

theorem mem_iff (h : Keeps rank l s) {x : α} : x ∈ s ↔ x ∈ l := by
  have hx : x ∈ s.filter (fun y => rank y == rank x) ↔
      x ∈ l.filter (fun y => rank y == rank x) := by
    rw [h (rank x)]
  simpa using hx

theorem exchange (h : forall a, a ∈ l -> forall b, b ∈ r -> rank a ≠ rank b) :
    Keeps rank (l ++ r) (r ++ l) := by
  intro n
  rw [List.filter_append, List.filter_append]
  by_cases hn : exists a, a ∈ l ∧ rank a = n
  · rcases hn with ⟨a, ha, rfl⟩
    have hr : r.filter (fun x => rank x == rank a) = [] := by
      rw [List.filter_eq_nil_iff]
      intro b hb hab
      exact h a ha b hb (beq_iff_eq.mp hab).symm
    rw [hr, List.append_nil, List.nil_append]
  · have hl : l.filter (fun x => rank x == n) = [] := by
      rw [List.filter_eq_nil_iff]
      intro a ha han
      exact hn ⟨a, ha, beq_iff_eq.mp han⟩
    rw [hl, List.append_nil, List.nil_append]

/-- An element may move past a part in which its rank does not occur. -/
theorem move {x : α} (h : forall a, a ∈ l -> rank a ≠ rank x) (r : List α) :
    Keeps rank (l ++ x :: r) (x :: l ++ r) := by
  have hmove : Keeps rank (l ++ [x]) ([x] ++ l) :=
    exchange fun a ha b hb => by
      rw [List.mem_singleton.mp hb]
      exact h a ha
  have hall := hmove.append (refl r)
  rw [List.append_assoc] at hall
  exact hall

theorem reverse_falling (h : l.Pairwise fun a b => rank b < rank a) :
    Keeps rank l l.reverse := by
  induction l with
  | nil => exact refl []
  | cons x rest ih =>
      rcases List.pairwise_cons.mp h with ⟨hx, hrest⟩
      rw [List.reverse_cons]
      refine (cons x (ih hrest)).trans ?_
      apply exchange (l := [x])
      intro a ha b hb
      rw [List.mem_singleton.mp ha]
      exact (Int.ne_of_lt (hx b (List.mem_reverse.mp hb))).symm

end Keeps

/-!
# Sorted lists
-/

/-- The second list is the first one, sorted. -/
structure Sorted (rank : α -> Int) (l s : List α) : Prop where
  rising : Rising rank s
  keeps : Keeps rank l s

theorem Sorted.trans {k l s : List α} (h : Keeps rank k l) (h' : Sorted rank l s) :
    Sorted rank k s :=
  ⟨h'.rising, h.trans h'.keeps⟩

theorem Sorted.reverse {l s : List α} (h : Sorted (fun x => -rank x) l s) :
    Sorted rank l.reverse s.reverse :=
  ⟨h.rising.of_reverse, h.keeps.swap.reverse⟩

theorem Sorted.append {l r s t : List α} (hl : Sorted rank l s) (hr : Sorted rank r t)
    (h : forall a, a ∈ l -> forall b, b ∈ r -> rank a ≤ rank b) :
    Sorted rank (l ++ r) (s ++ t) where
  rising := hl.rising.append hr.rising fun a ha b hb =>
    h a (hl.keeps.mem_iff.mp ha) b (hr.keeps.mem_iff.mp hb)
  keeps := hl.keeps.append hr.keeps

/-- No element stands behind one that it is less than, and those of one rank stay in order. -/
theorem Sorted.stable {l s : List α} (h : Sorted rank l s) (hranks : Ranks less rank l)
    {earlier : α -> α -> Prop} (hl : l.Pairwise earlier) :
    s.Pairwise fun a b => less b a = false ∧ (less a b = false -> earlier a b) := by
  apply List.pairwise_iff_forall_sublist.mpr
  intro a b hab
  have ha : a ∈ l := h.keeps.mem_iff.mp (hab.subset (by simp))
  have hb : b ∈ l := h.keeps.mem_iff.mp (hab.subset (by simp))
  have hle : rank a ≤ rank b := List.pairwise_iff_forall_sublist.mp h.rising hab
  refine ⟨?_, fun hnot => ?_⟩
  · rw [hranks b hb a ha]
    exact decide_eq_false (Int.not_lt.mpr hle)
  · have hrank : rank a = rank b := Int.le_antisymm hle (hranks.le_of_not_less ha hb hnot)
    have hboth : [a, b].Sublist (s.filter fun x => rank x == rank b) := by
      have hfilter := hab.filter fun x => rank x == rank b
      simpa [hrank] using hfilter
    rw [h.keeps (rank b)] at hboth
    exact List.pairwise_iff_forall_sublist.mp hl (hboth.trans List.filter_sublist)

/-- What sorting without a result may do, and what it does to a list that has ranks. -/
structure Sorts (less : α -> α -> Bool) (l : List α) (result : Option (List α)) : Prop where
  perm : forall s, result = some s -> s.Perm l
  sorted : forall rank, Ranks less rank l -> exists s, result = some s ∧ Sorted rank l s

/-!
# Comparisons with ranks
-/

/-- A comparison that orders the elements of a list, some of which may stand either way. -/
structure Orders (less : α -> α -> Bool) (l : List α) : Prop where
  asymm : forall a, a ∈ l -> forall b, b ∈ l -> less a b = true -> less b a = false
  trans : forall a, a ∈ l -> forall b, b ∈ l -> forall c, c ∈ l ->
    less b a = false -> less c b = false -> less c a = false

namespace Orders

variable {l : List α}

theorem irrefl (h : Orders less l) {a : α} (ha : a ∈ l) : less a a = false := by
  cases haa : less a a with
  | false => rfl
  | true => exact haa ▸ h.asymm a ha a ha haa

theorem less_of_not_less (h : Orders less l) {a b x : α} (ha : a ∈ l) (hb : b ∈ l) (hx : x ∈ l)
    (hxb : less x b = true) (hab : less a b = false) : less x a = true := by
  cases hxa : less x a with
  | true => rfl
  | false =>
      have hne := h.trans b hb a ha x hx hab hxa
      rw [hxb] at hne
      cases hne

theorem less_trans (h : Orders less l) {a b x : α} (ha : a ∈ l) (hb : b ∈ l) (hx : x ∈ l)
    (hxa : less x a = true) (hab : less a b = true) : less x b = true := by
  cases hxb : less x b with
  | true => rfl
  | false =>
      have hne := h.trans b hb x hx a ha hxb (h.asymm x hx a ha hxa)
      rw [hab] at hne
      cases hne

/-- The rank of an element is the number of those that are less. -/
theorem exists_ranks (h : Orders less l) : exists rank, Ranks less rank l := by
  refine ⟨fun a => (l.countP fun x => less x a : Nat), ?_⟩
  intro a ha b hb
  rw [Bool.eq_iff_iff, decide_eq_true_eq, Int.ofNat_lt]
  constructor
  · intro hab
    -- what is less than `a` is less than `b`, and `a` itself is one more
    rcases List.append_of_mem ha with ⟨front, back, rfl⟩
    have hless : forall x, x ∈ front ++ a :: back -> less x a = true -> less x b = true :=
      fun x hx hxa => h.less_trans ha hb hx hxa hab
    have haa : ¬ less a a = true := by
      simp [h.irrefl ha]
    have hfront := List.countP_mono_left fun x hx => hless x (List.mem_append_left _ hx)
    have hback := List.countP_mono_left fun x hx =>
      hless x (List.mem_append_right _ (List.mem_cons_of_mem _ hx))
    rw [List.countP_append, List.countP_append, List.countP_cons, List.countP_cons, if_pos hab,
      if_neg haa]
    omega
  · intro hlt
    cases hab : less a b with
    | true => rfl
    | false =>
        have hcount : l.countP (fun x => less x b) ≤ l.countP fun x => less x a :=
          List.countP_mono_left fun x hx hxb => h.less_of_not_less ha hb hx hxb hab
        exact absurd hlt (Nat.not_lt.mpr hcount)

end Orders

end Sorting
end ContentGateway
