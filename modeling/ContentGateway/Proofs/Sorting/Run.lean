import ContentGateway.Proofs.Sorting.Block
import ContentGateway.Sorting.Run

/-!
# Runs make up a sorted list

Cutting a list into runs loses nothing, and a run that is taken as sorted is sorted.  Which
runs are joined first does not matter: what has been joined stands for a part of the list.
-/

namespace ContentGateway
namespace Sorting

variable {α : Type} {less : α -> α -> Bool} {rank : α -> Int}

/-!
# Merging
-/

theorem listMerge_sorted {l r : List α} (h : Ranks less rank (l ++ r)) (hl : Rising rank l)
    (hr : Rising rank r) : Sorted rank (l ++ r) (l.merge r fun a b => !less b a) := by
  induction l generalizing r with
  | nil =>
      rw [List.nil_merge]
      exact ⟨hr, .refl r⟩
  | cons x xs ihl =>
      induction r with
      | nil =>
          rw [List.merge_right, List.append_nil]
          exact ⟨hl, .refl _⟩
      | cons y ys ihr =>
          rcases List.pairwise_cons.mp hl with ⟨hx, hxs⟩
          rcases List.pairwise_cons.mp hr with ⟨hy, hys⟩
          rw [List.cons_merge_cons]
          cases hless : less y x with
          | true =>
              have hlt : rank y < rank x := h.lt_of_less (by simp) (by simp) hless
              have hlow : forall z, z ∈ x :: xs -> rank y < rank z := by
                intro z hz
                rcases List.mem_cons.mp hz with rfl | hz
                · exact hlt
                · exact Int.lt_of_lt_of_le hlt (hx z hz)
              have hrest := ihr
                (h.subset ((List.sublist_cons_self y ys).append_left (x :: xs)).subset) hys
              refine ⟨List.pairwise_cons.mpr ⟨?_, hrest.rising⟩, ?_⟩
              · intro z hz
                rcases List.mem_append.mp (hrest.keeps.mem_iff.mp hz) with hz | hz
                · exact Int.le_of_lt (hlow z hz)
                · exact hy z hz
              · exact (Keeps.move (fun z hz => Int.ne_of_gt (hlow z hz)) ys).trans
                  (.cons y hrest.keeps)
          | false =>
              have hle : rank x ≤ rank y := h.le_of_not_less (by simp) (by simp) hless
              have hrest := ihl (h.subset (List.subset_cons_self x (xs ++ y :: ys))) hxs hr
              refine ⟨List.pairwise_cons.mpr ⟨?_, hrest.rising⟩, .cons x hrest.keeps⟩
              intro z hz
              rcases List.mem_append.mp (hrest.keeps.mem_iff.mp hz) with hz | hz
              · exact hx z hz
              · rcases List.mem_cons.mp hz with rfl | hz
                · exact hle
                · exact Int.le_trans hle (hy z hz)

theorem merge_perm (l r : List α) : (merge less l r).Perm (l ++ r) := by
  unfold merge
  split
  · exact List.merge_perm_append _
  · have hperm : (r.reverse.merge l.reverse fun b a => !less b a).Perm (r.reverse ++ l.reverse) :=
      List.merge_perm_append _
    rw [← List.reverse_append] at hperm
    exact (List.reverse_perm _).trans (hperm.trans (List.reverse_perm _))

theorem merge_sorted {l r : List α} (h : Ranks less rank (l ++ r)) (hl : Rising rank l)
    (hr : Rising rank r) : Sorted rank (l ++ r) (merge less l r) := by
  unfold merge
  split
  · exact listMerge_sorted h hl hr
  · have hranks : Ranks less rank (r.reverse ++ l.reverse) := h.subset (by simp)
    have hsorted := (listMerge_sorted hranks.swap hr.reverse hl.reverse).reverse
    rw [List.reverse_append, List.reverse_reverse, List.reverse_reverse] at hsorted
    exact hsorted

/-!
# Cutting
-/

theorem chain_pairwise {follows : α -> α -> Bool} {before : α -> α -> Prop}
    (htrans : forall a b c, before a b -> before b c -> before a c) {x : α} {l : List α}
    (h : forall a, a ∈ x :: l -> forall b, b ∈ x :: l -> follows a b = true -> before a b) :
    (x :: l.take (chain follows x l)).Pairwise before := by
  induction l generalizing x with
  | nil => exact List.pairwise_singleton _ x
  | cons y rest ih =>
      rw [chain]
      split
      · next hfollows =>
          have hxy : before x y := h x (by simp) y (by simp) hfollows
          have hrest := ih fun a ha b hb =>
            h a (List.mem_cons_of_mem x ha) b (List.mem_cons_of_mem x hb)
          rw [List.take_succ_cons]
          refine List.pairwise_cons.mpr ⟨?_, hrest⟩
          intro z hz
          rcases List.mem_cons.mp hz with rfl | hz
          · exact hxy
          · exact htrans x y z hxy ((List.pairwise_cons.mp hrest).1 z hz)
      · exact List.pairwise_singleton _ x

theorem firstRun_pairwise {l : List α} (h : Ranks less rank l) :
    if (firstRun less l).2 then (l.take (firstRun less l).1).Pairwise fun a b => rank b < rank a
    else Rising rank (l.take (firstRun less l).1) := by
  match l with
  | [] => exact List.Pairwise.nil
  | [x] => exact List.pairwise_singleton _ x
  | x :: y :: rest =>
      have hrest : Ranks less rank (y :: rest) := h.subset (List.subset_cons_self x _)
      -- only what falls strictly will be reversed, so elements of one rank never change places
      rw [firstRun]
      cases hless : less y x with
      | true =>
          have hlt := h.lt_of_less (by simp) (by simp) hless
          have hfalls : (y :: rest.take (chain (fun a b => less b a) y rest)).Pairwise
              fun a b => rank b < rank a := by
            apply chain_pairwise
            · intro a b c hab hbc
              exact Int.lt_trans hbc hab
            · intro a ha b hb hfollows
              exact hrest.lt_of_less hb ha hfollows
          refine List.pairwise_cons.mpr ⟨?_, hfalls⟩
          intro z hz
          rcases List.mem_cons.mp hz with rfl | hz
          · exact hlt
          · exact Int.lt_trans ((List.pairwise_cons.mp hfalls).1 z hz) hlt
      | false =>
          have hle := h.le_of_not_less (by simp) (by simp) hless
          have hrises : Rising rank (y :: rest.take (chain (fun a b => !less b a) y rest)) := by
            apply chain_pairwise
            · intro a b c hab hbc
              exact Int.le_trans hab hbc
            · intro a ha b hb hfollows
              exact hrest.le_of_not_less hb ha (Bool.not_eq_eq_eq_not.mp hfollows)
          refine List.pairwise_cons.mpr ⟨?_, hrises⟩
          intro z hz
          rcases List.mem_cons.mp hz with rfl | hz
          · exact hle
          · exact Int.le_trans hle ((List.pairwise_cons.mp hrises).1 z hz)

/-- A run that is taken as sorted is sorted. -/
def Run.Sound (rank : α -> Int) (r : Run α) : Prop :=
  r.sorted = true -> Rising rank r.items

section Cutting

variable {eager : Bool} {least : Nat} {l rest : List α} {run : Run α}

theorem nextRun_perm (h : nextRun less eager least l = some (run, rest)) :
    (run.items ++ rest).Perm l := by
  have hwhole : forall n, (l.take n ++ l.drop n).Perm l := fun n => by
    rw [List.take_append_drop]
  unfold nextRun at h
  simp only at h
  split at h
  · cases h
    refine List.Perm.trans (List.Perm.append_right _ ?_) (hwhole (firstRun less l).1)
    show (if _ then _ else _ : List α).Perm _
    split
    · exact List.reverse_perm _
    · exact List.Perm.refl _
  · split at h
    · rcases Option.bind_eq_some_iff.mp h with ⟨items, hitems, hrun⟩
      cases hrun
      exact (((sorts_block less _).perm _ hitems).append_right _).trans (hwhole blockSize)
    · cases h
      exact hwhole least

theorem nextRun_shorter (h : nextRun less eager least l = some (run, rest)) (hleast : 0 < least)
    (hl : l ≠ []) : rest.length < l.length := by
  have hlength := List.length_pos_iff.mpr hl
  unfold nextRun at h
  simp only at h
  split at h
  · cases h
    rw [List.length_drop]
    omega
  · split at h
    · rcases Option.bind_eq_some_iff.mp h with ⟨items, hitems, hrun⟩
      cases hrun
      rw [List.length_drop, blockSize]
      omega
    · cases h
      rw [List.length_drop]
      omega

theorem nextRun_sorted (eager : Bool) (least : Nat) (h : Ranks less rank l) : exists run rest,
    nextRun less eager least l = some (run, rest) ∧ Keeps rank l (run.items ++ rest) ∧
      run.Sound rank := by
  have hwhole : forall n, Keeps rank l (l.take n ++ l.drop n) := fun n => by
    rw [List.take_append_drop]
    exact .refl l
  have hfirst := firstRun_pairwise h
  unfold nextRun
  simp only
  split
  · refine ⟨_, _, rfl, (hwhole (firstRun less l).1).trans (.append ?_ (.refl _)), ?_⟩
    · cases hfalls : (firstRun less l).2 with
      | true =>
          rw [hfalls, if_pos rfl] at hfirst
          exact Keeps.reverse_falling hfirst
      | false => exact .refl _
    · intro _
      cases hfalls : (firstRun less l).2 with
      | true =>
          rw [hfalls, if_pos rfl] at hfirst
          exact List.pairwise_reverse.mpr (hfirst.imp Int.le_of_lt)
      | false =>
          rw [hfalls, if_neg Bool.false_ne_true] at hfirst
          exact hfirst
  · split
    · rcases (sorts_block less (l.take blockSize)).sorted rank
        (h.subset (List.take_subset _ l)) with ⟨items, hitems, hsorted⟩
      rw [hitems]
      exact ⟨_, _, rfl, (hwhole blockSize).trans (hsorted.keeps.append (.refl _)),
        fun _ => hsorted.rising⟩
    · exact ⟨_, _, rfl, hwhole least, fun hsorted => absurd hsorted Bool.false_ne_true⟩

def joined (rs : List (Run α)) : List α :=
  rs.flatMap Run.items

theorem runs_perm (hleast : 0 < least) {count : Nat} (hcount : l.length ≤ count)
    {rs : List (Run α)} (h : runs less eager least count l = some rs) : (joined rs).Perm l := by
  induction count generalizing l rs with
  | zero =>
      have hl := List.length_eq_zero_iff.mp (Nat.le_zero.mp hcount)
      subst hl
      cases h
      exact List.Perm.refl _
  | succ count ih =>
      cases l with
      | nil =>
          cases h
          exact List.Perm.refl _
      | cons x l =>
          rw [runs] at h
          rcases Option.bind_eq_some_iff.mp h with ⟨⟨run, rest⟩, hnext, hmore⟩
          rcases Option.bind_eq_some_iff.mp hmore with ⟨later, hlater, hrs⟩
          cases hrs
          have hshorter := nextRun_shorter hnext hleast (List.cons_ne_nil x l)
          exact ((ih (by omega) hlater).append_left run.items).trans (nextRun_perm hnext)

theorem runs_sorted (eager : Bool) (hleast : 0 < least) {count : Nat} (hcount : l.length ≤ count)
    (h : Ranks less rank l) : exists rs, runs less eager least count l = some rs ∧
      Keeps rank l (joined rs) ∧ forall r, r ∈ rs -> r.Sound rank := by
  induction count generalizing l with
  | zero =>
      have hl := List.length_eq_zero_iff.mp (Nat.le_zero.mp hcount)
      subst hl
      exact ⟨[], rfl, .refl [], nofun⟩
  | succ count ih =>
      cases l with
      | nil => exact ⟨[], rfl, .refl [], nofun⟩
      | cons x l =>
          rcases nextRun_sorted eager least h
            with ⟨run, rest, hnext, hkeeps, hsound⟩
          have hshorter := nextRun_shorter hnext hleast (List.cons_ne_nil x l)
          have hrest : Ranks less rank rest :=
            h.subset fun y hy => hkeeps.mem_iff.mp (List.mem_append_right _ hy)
          rcases ih (by omega) hrest with ⟨later, hlater, hkeepsLater, hsoundLater⟩
          rw [runs, hnext]
          refine ⟨run :: later, ?_, hkeeps.trans (.append (.refl _) hkeepsLater), ?_⟩
          · show (runs less eager least count rest).bind _ = _
            rw [hlater]
            rfl
          · exact List.forall_mem_cons.mpr ⟨hsound, hsoundLater⟩

theorem leastRun_pos {length : Nat} (h : 0 < length) : 0 < leastRun length := by
  unfold leastRun
  split
  · omega
  · next hlong =>
      have hlog : 1 ≤ length.log2 := (Nat.le_log2 (by omega)).mpr (by omega)
      have hshift : 1 ≤ (1 + length.log2) / 2 := by
        omega
      have hpow : Nat.pow 2 1 ≤ Nat.pow 2 ((1 + length.log2) / 2) :=
        Nat.pow_le_pow_right (by decide) hshift
      apply Nat.div_pos
      · exact Nat.le_trans hpow (Nat.le_add_right _ _)
      · decide

end Cutting

/-!
# Joining
-/

section Joining

variable {settle : List α -> Option (List α)} (hsettle : forall l, Sorts less l (settle l))

include hsettle

theorem settled_perm {r : Run α} {s : List α} (h : r.settled settle = some s) :
    s.Perm r.items := by
  unfold Run.settled at h
  split at h
  · cases h
    exact List.Perm.refl _
  · exact (hsettle r.items).perm s h

theorem settled_sorted {r : Run α} (h : Ranks less rank r.items) (hsound : r.Sound rank) :
    exists s, r.settled settle = some s ∧ Sorted rank r.items s := by
  unfold Run.settled
  split
  · next hsorted => exact ⟨_, rfl, hsound hsorted, .refl _⟩
  · exact (hsettle r.items).sorted rank h

theorem join_perm {room : Nat} {l r joint : Run α}
    (h : join less settle room l r = some joint) : joint.items.Perm (l.items ++ r.items) := by
  unfold join at h
  split at h
  · cases h
    exact List.Perm.refl _
  · rcases Option.bind_eq_some_iff.mp h with ⟨left, hleft, hmore⟩
    rcases Option.bind_eq_some_iff.mp hmore with ⟨right, hright, hjoint⟩
    cases hjoint
    exact (merge_perm left right).trans
      ((settled_perm hsettle hleft).append (settled_perm hsettle hright))

theorem join_sorted (room : Nat) {l r : Run α} (h : Ranks less rank (l.items ++ r.items))
    (hl : l.Sound rank) (hr : r.Sound rank) : exists joint,
      join less settle room l r = some joint ∧ Keeps rank (l.items ++ r.items) joint.items ∧
        joint.Sound rank := by
  unfold join
  split
  · exact ⟨_, rfl, .refl _, fun hsorted => absurd hsorted Bool.false_ne_true⟩
  · rcases settled_sorted hsettle h.append_left hl with ⟨left, hleft, hsortedLeft⟩
    rcases settled_sorted hsettle h.append_right hr with ⟨right, hright, hsortedRight⟩
    have hkeeps := hsortedLeft.keeps.append hsortedRight.keeps
    have hmerged := merge_sorted (h.subset fun x hx => hkeeps.mem_iff.mp hx) hsortedLeft.rising
      hsortedRight.rising
    rw [hleft, hright]
    exact ⟨_, rfl, hkeeps.trans hmerged.keeps, fun _ => hmerged.rising⟩

/-- What stands in the runs before a run, of which the last one comes first. -/
def laid : List (Run α × Nat) -> List α
  | [] => []
  | (r, _) :: earlier => laid earlier ++ r.items

theorem collapse_perm {room depth : Nat} {earlier earlier' : List (Run α × Nat)}
    {run run' : Run α} (h : collapse less settle room depth earlier run = some (earlier', run')) :
    (laid earlier' ++ run'.items).Perm (laid earlier ++ run.items) := by
  induction earlier generalizing run with
  | nil =>
      cases h
      exact List.Perm.refl _
  | cons top earlier ih =>
      rcases top with ⟨left, d⟩
      rw [collapse] at h
      split at h
      · rcases Option.bind_eq_some_iff.mp h with ⟨joint, hjoint, hmore⟩
        rw [laid, List.append_assoc]
        exact (ih hmore).trans ((join_perm hsettle hjoint).append_left _)
      · cases h
        exact List.Perm.refl _

theorem collapse_sorted (room depth : Nat) {earlier : List (Run α × Nat)} {run : Run α}
    (h : Ranks less rank (laid earlier ++ run.items))
    (hearlier : forall r, r ∈ earlier -> r.1.Sound rank) (hrun : run.Sound rank) :
    exists earlier' run', collapse less settle room depth earlier run = some (earlier', run') ∧
      Keeps rank (laid earlier ++ run.items) (laid earlier' ++ run'.items) ∧
      (forall r, r ∈ earlier' -> r.1.Sound rank) ∧ run'.Sound rank := by
  induction earlier generalizing run with
  | nil => exact ⟨[], run, rfl, .refl _, nofun, hrun⟩
  | cons top earlier ih =>
      rcases top with ⟨left, d⟩
      rcases List.forall_mem_cons.mp hearlier with ⟨hleft, hrest⟩
      rw [collapse]
      split
      · rw [laid, List.append_assoc] at h
        rcases join_sorted hsettle room h.append_right hleft hrun
          with ⟨joint, hjoint, hkeeps, hsound⟩
        have hall : Keeps rank (laid earlier ++ (left.items ++ run.items))
            (laid earlier ++ joint.items) := .append (.refl _) hkeeps
        rcases ih (h.subset fun x hx => hall.mem_iff.mp hx) hrest hsound
          with ⟨earlier', run', heq, hkeeps', hsounds⟩
        rw [hjoint, laid, List.append_assoc]
        exact ⟨earlier', run', heq, hall.trans hkeeps', hsounds⟩
      · exact ⟨_, run, rfl, .refl _, hearlier, hrun⟩

omit hsettle in
theorem collapse_zero {room : Nat} {earlier earlier' : List (Run α × Nat)} {run run' : Run α}
    (h : collapse less settle room 0 earlier run = some (earlier', run')) : earlier' = [] := by
  induction earlier generalizing run with
  | nil =>
      cases h
      rfl
  | cons top earlier ih =>
      rcases top with ⟨left, d⟩
      rw [collapse, if_pos (Nat.zero_le d)] at h
      rcases Option.bind_eq_some_iff.mp h with ⟨joint, hjoint, hmore⟩
      exact ih hmore

theorem climb_perm {room length scanned : Nat} {earlier : List (Run α × Nat)} {run last : Run α}
    {later : List (Run α)}
    (h : climb less settle room length earlier run scanned later = some last) :
    last.items.Perm (laid earlier ++ run.items ++ joined later) := by
  induction later generalizing earlier run scanned with
  | nil =>
      rw [climb] at h
      rcases Option.bind_eq_some_iff.mp h with ⟨⟨earlier', run'⟩, hcollapse, hlast⟩
      cases hlast
      have hperm := collapse_perm hsettle hcollapse
      rw [collapse_zero hcollapse] at hperm
      rw [joined, List.flatMap_nil, List.append_nil]
      exact hperm
  | cons next later ih =>
      rw [climb] at h
      rcases Option.bind_eq_some_iff.mp h with ⟨⟨earlier', run'⟩, hcollapse, hmore⟩
      have hperm := (collapse_perm hsettle hcollapse).append_right (next.items ++ joined later)
      rw [← List.append_assoc] at hperm
      exact (ih hmore).trans hperm

theorem climb_sorted (room length scanned : Nat) {earlier : List (Run α × Nat)} {run : Run α}
    {later : List (Run α)} (h : Ranks less rank (laid earlier ++ run.items ++ joined later))
    (hearlier : forall r, r ∈ earlier -> r.1.Sound rank) (hrun : run.Sound rank)
    (hlater : forall r, r ∈ later -> r.Sound rank) : exists last,
      climb less settle room length earlier run scanned later = some last ∧
        Keeps rank (laid earlier ++ run.items ++ joined later) last.items ∧ last.Sound rank := by
  induction later generalizing earlier run scanned with
  | nil =>
      rcases collapse_sorted hsettle room 0 h.append_left hearlier hrun
        with ⟨earlier', run', hcollapse, hkeeps, _, hsound⟩
      rw [collapse_zero hcollapse] at hkeeps
      rw [climb, hcollapse, joined, List.flatMap_nil, List.append_nil]
      exact ⟨run', rfl, hkeeps, hsound⟩
  | cons next later ih =>
      rcases List.forall_mem_cons.mp hlater with ⟨hnext, hlater⟩
      rcases collapse_sorted hsettle room
        (boundaryDepth length (scanned - run.items.length) scanned
          (scanned + next.items.length)) h.append_left hearlier hrun
        with ⟨earlier', run', hcollapse, hkeeps, hsounds, hsound⟩
      have hall : Keeps rank (laid earlier ++ run.items ++ joined (next :: later))
          (laid earlier' ++ run'.items ++ next.items ++ joined later) := by
        rw [List.append_assoc (laid earlier' ++ run'.items)]
        exact hkeeps.append (.refl _)
      rw [climb, hcollapse]
      have hranks : Ranks less rank
          (laid ((run', boundaryDepth length (scanned - run.items.length) scanned
            (scanned + next.items.length)) :: earlier') ++ next.items ++ joined later) :=
        h.subset fun x hx => hall.mem_iff.mp hx
      rcases ih (scanned + next.items.length) hranks (List.forall_mem_cons.mpr ⟨hsound, hsounds⟩)
        hnext hlater with ⟨last, hlast, hkeepsLast, hsoundLast⟩
      exact ⟨last, hlast, hall.trans hkeepsLast, hsoundLast⟩

theorem drift_perm {eager : Bool} {l s : List α} (h : drift less settle eager l = some s) :
    s.Perm l := by
  rcases Option.bind_eq_some_iff.mp h with ⟨rs, hrs, hmore⟩
  cases l with
  | nil =>
      cases hrs
      cases hmore
      exact List.Perm.refl _
  | cons x l =>
      have hruns := runs_perm (leastRun_pos (Nat.succ_pos _)) (Nat.le_refl _) hrs
      cases rs with
      | nil => exact absurd hruns.length_eq (Nat.succ_ne_zero _).symm
      | cons first later =>
          rcases Option.bind_eq_some_iff.mp hmore with ⟨last, hlast, hsettled⟩
          exact (settled_perm hsettle hsettled).trans ((climb_perm hsettle hlast).trans hruns)

theorem drift_sorted (eager : Bool) {l : List α} (h : Ranks less rank l) :
    exists s, drift less settle eager l = some s ∧ Sorted rank l s := by
  cases l with
  | nil => exact ⟨[], rfl, List.Pairwise.nil, .refl []⟩
  | cons x l =>
      have hleast : 0 < leastRun (x :: l).length := leastRun_pos (Nat.succ_pos l.length)
      rcases runs_sorted eager hleast (Nat.le_refl _) h with ⟨rs, hrs, hkeeps, hsound⟩
      cases rs with
      | nil => exact absurd (hkeeps.mem_iff.mpr List.mem_cons_self) List.not_mem_nil
      | cons first later =>
          rcases List.forall_mem_cons.mp hsound with ⟨hfirst, hlater⟩
          have hranks : Ranks less rank (laid [] ++ first.items ++ joined later) :=
            h.subset fun y hy => hkeeps.mem_iff.mp hy
          rcases climb_sorted hsettle
            (max ((x :: l).length - (x :: l).length / 2) (min (x :: l).length usualRoom))
            (x :: l).length first.items.length hranks nofun hfirst hlater
            with ⟨last, hlast, hkeepsLast, hsoundLast⟩
          have hall : Keeps rank (x :: l) last.items := hkeeps.trans hkeepsLast
          rcases settled_sorted hsettle (h.subset fun y hy => hall.mem_iff.mp hy) hsoundLast
            with ⟨s, hs, hsorted⟩
          refine ⟨s, ?_, Sorted.trans hall hsorted⟩
          unfold drift
          rw [hrs]
          show (climb less settle _ _ [] first _ later).bind _ = some s
          rw [hlast]
          exact hs

theorem sorts_drift (eager : Bool) (l : List α) : Sorts less l (drift less settle eager l) where
  perm _ hs := drift_perm hsettle hs
  sorted _ h := drift_sorted hsettle eager h

end Joining

end Sorting
end ContentGateway
