import ContentGateway.Proofs.Reconciler.Walk

/-!
# A pass over all indices

A pass scans one index after the other.  Every scan attempts exactly the documents that
wait when it begins, and what the pass changes and reports is what its attempts have
changed and counted.
-/

namespace ContentGateway
namespace Reconciler

variable {W : Type} {b : Backends W} {catalog : W -> Catalog} {quiet : W -> W -> Prop}
  {ready : W -> Prop}

/-!
# One index
-/

def beginning (pageSize : Nat) (report : Report) : Position :=
  .before ⟨0, max pageSize 1, none, .ascending⟩ 0 ⟨[], report⟩

theorem Stage.initial {index : String} {w : W} (hw : ready w) (hc : (catalog w).WellFormed)
    (hknown : index ∈ (catalog w).indexNames) (hfits : (catalog w).size ≤ largestWord)
    (pageSize : Nat) (report : Report) :
    Stage catalog ready index [] (unpinned (catalog w) index)
      ⟨0, max pageSize 1, none, .ascending⟩ ⟨[], report⟩ w := by
  refine ⟨hw, hc, hknown, hfits, rfl, Nat.le_max_right _ _, rfl, ?_, ?_, ?_⟩
  · intro m hm
    cases hm
  · intro m _ hm
    cases hm
  · rw [Nat.zero_mul]
    exact Nat.zero_le _

theorem Serves.reconcileIndex (hs : Serves b catalog quiet ready) {index : String}
    (hall : index ≠ allIndices) {w : W} (hw : ready w) (hc : (catalog w).WellFormed)
    (hknown : index ∈ (catalog w).indexNames) (hfits : (catalog w).size ≤ largestWord)
    (pageSize : Nat) (report : Report) :
    exists attempts u,
      reconcileIndex b pageSize index report w = (report.recordAll attempts, u) ∧
      Walks b index (beginning pageSize report) w (Walk.after ⟨[], report⟩ attempts) u ∧
      Attempted b quiet w attempts u ∧
      attempts.map Attempt.document = unpinned (catalog w) index := by
  have hstage := Stage.initial hw hc hknown hfits pageSize report
  rcases hstage.step hs hall with
    ⟨attempts, later, position, v, hstep, hattempted, hdocuments, hposition⟩
  have hrun : Reconciler.reconcileIndex b pageSize index report w =
      ((walkOn b index (searchBound position) position v).1.report,
        (walkOn b index (searchBound position) position v).2) := by
    unfold Reconciler.reconcileIndex
    rw [Action.state_bind_apply, hstep]
    rfl
  rcases hposition with ⟨rfl, rfl⟩ | ⟨request', rfl, hnext, hless⟩
  · refine ⟨attempts, v, hrun, Walks.search hstep (Walks.ended _ v), hattempted, ?_⟩
    rw [← hdocuments, List.append_nil]
  · have hbound : ([] ++ failures attempts).length + later.length - request'.page <
        searchBound (.before request'
          (([] : List Metadata).length + (unpinned (catalog w) index).length)
          (Walk.after ⟨[], report⟩ attempts)) := by
      have hfirst : ([] ++ failures attempts).length + later.length - request'.page <
          0 + (unpinned (catalog w) index).length - 0 := hless
      show _ < 2 * (0 + (unpinned (catalog w) index).length) + 1
      omega
    rcases hnext.walkOn hs hall _ hbound with ⟨more, u, hwalk, hwalks, hattempted', hdocuments'⟩
    rw [Walk.after_append] at hwalk hwalks
    refine ⟨attempts ++ more, u, ?_, Walks.search hstep hwalks,
      hattempted.append hs hattempted', ?_⟩
    · rw [hrun, hwalk]
      rfl
    · rw [List.map_append, hdocuments', hdocuments]

/-!
# All indices
-/

/-- What a pass did with one index. -/
structure Scan where
  index : String
  attempts : List Attempt

def attemptsOf (scans : List Scan) : List Attempt :=
  scans.flatMap Scan.attempts

def Report.withIndex (r : Report) : Report :=
  { r with indices := r.indices + 1 }

/--
The scans lead from one world and report to another.  In each of them the walk runs until
it has ended, and its attempts are for the documents that wait when it begins.
-/
inductive Passes (b : Backends W) (catalog : W -> Catalog) (quiet : W -> W -> Prop)
    (pageSize : Nat) : Report -> W -> List Scan -> Report -> W -> Prop where
  | done (report : Report) (w : W) : Passes b catalog quiet pageSize report w [] report w
  | scan {report report' : Report} {w v u : W} {s : Scan} {walk : Walk} {rest : List Scan} :
      Walks b s.index (beginning pageSize report.withIndex) w walk v ->
      Attempted b quiet w s.attempts v ->
      s.attempts.map Attempt.document = unpinned (catalog w) s.index ->
      walk.report = report.withIndex.recordAll s.attempts ->
      Passes b catalog quiet pageSize walk.report v rest report' u ->
      Passes b catalog quiet pageSize report w (s :: rest) report' u

/-- A world in which the indices of a list can be scanned one after the other. -/
structure Scannable (catalog : W -> Catalog) (ready : W -> Prop) (indices : List String)
    (w : W) : Prop where
  ready : ready w
  wellFormed : (catalog w).WellFormed
  known : forall index, index ∈ indices -> index ∈ (catalog w).indexNames
  proper : allIndices ∉ indices
  fits : (catalog w).size ≤ largestWord

namespace Scannable

variable {index : String} {rest : List String} {w : W}

theorem index_known (h : Scannable catalog ready (index :: rest) w) :
    index ∈ (catalog w).indexNames :=
  h.known index (List.mem_cons_self ..)

theorem index_proper (h : Scannable catalog ready (index :: rest) w) : index ≠ allIndices :=
  fun heq => h.proper (heq ▸ List.mem_cons_self ..)

theorem after (hs : Serves b catalog quiet ready)
    (h : Scannable catalog ready (index :: rest) w) {attempts : List Attempt} {v : W}
    (hattempted : Attempted b quiet w attempts v)
    (hdocuments : attempts.map Attempt.document = unpinned (catalog w) index) :
    Scannable catalog ready rest v := by
  have hlower : forall a, a ∈ attempts -> lowerCase a.document.index = a.document.index := by
    intro a ha
    rw [index_of_attempt hdocuments ha]
    exact h.wellFormed.lowerCase_name h.index_known
  rcases hattempted.catalog_eq hs h.ready hlower with ⟨hcatalog, hv⟩
  refine ⟨hv, ?_, ?_, fun hmem => h.proper (List.mem_cons_of_mem _ hmem), ?_⟩
  · rw [hcatalog]
    exact wellFormed_afterAttempts h.wellFormed attempts
  · intro i hi
    rw [hcatalog, indexNames_afterAttempts h.wellFormed]
    exact h.known i (List.mem_cons_of_mem _ hi)
  · rw [hcatalog, size_afterAttempts h.wellFormed]
    exact h.fits

end Scannable

theorem Serves.reconcileIndices (hs : Serves b catalog quiet ready) {indices : List String}
    {w : W} (hw : Scannable catalog ready indices w) (pageSize : Nat) (report : Report) :
    exists scans report' u,
      reconcileIndices b pageSize indices report w = (report', u) ∧
      Passes b catalog quiet pageSize report w scans report' u ∧
      scans.map Scan.index = indices := by
  induction indices generalizing w report with
  | nil => exact ⟨[], report, w, rfl, Passes.done report w, rfl⟩
  | cons index rest ih =>
      rcases hs.reconcileIndex hw.index_proper hw.ready hw.wellFormed hw.index_known hw.fits
          pageSize report.withIndex with
        ⟨attempts, v, hrun, hwalks, hattempted, hdocuments⟩
      rcases ih (hw.after hs hattempted hdocuments) (report.withIndex.recordAll attempts) with
        ⟨scans, report', u, hrest, hpasses, hindices⟩
      refine ⟨⟨index, attempts⟩ :: scans, report', u, ?_,
        Passes.scan hwalks hattempted hdocuments rfl hpasses, by rw [List.map_cons, hindices]⟩
      rw [Reconciler.reconcileIndices, Action.state_bind_apply]
      have hrun' : Reconciler.reconcileIndex b pageSize index
          { report with indices := report.indices + 1 } w =
            (report.withIndex.recordAll attempts, v) := hrun
      rw [hrun', hrest]

/-!
# What a pass amounts to
-/

theorem attemptsOf_cons (s : Scan) (rest : List Scan) :
    attemptsOf (s :: rest) = s.attempts ++ attemptsOf rest := by
  unfold attemptsOf
  rw [List.flatMap_cons]

theorem Report.recordAll_eq (r : Report) (attempts : List Attempt) :
    r.recordAll attempts =
      ⟨r.indices, r.scanned + attempts.length, r.pinned + successes attempts,
        r.failed + (failures attempts).length⟩ := by
  induction attempts generalizing r with
  | nil => rfl
  | cons a rest ih =>
      have hfirst : r.recordAll (a :: rest) = (r.record a.succeeded).recordAll rest := rfl
      rw [hfirst, ih, successes_cons, length_failures_cons, List.length_cons]
      unfold Report.record
      cases a.succeeded with
      | false =>
          simp only [Bool.false_eq_true, if_false, Report.mk.injEq, true_and]
          refine ⟨?_, ?_, ?_⟩
          · omega
          · omega
          · omega
      | true =>
          simp only [if_true, Report.mk.injEq, true_and]
          refine ⟨?_, ?_, ?_⟩
          · omega
          · omega
          · omega

theorem Passes.attempted (hs : Serves b catalog quiet ready) {pageSize : Nat}
    {report report' : Report} {w u : W} {scans : List Scan}
    (h : Passes b catalog quiet pageSize report w scans report' u) :
    Attempted b quiet w (attemptsOf scans) u := by
  induction h with
  | done report w => exact Attempted.done (hs.refl w)
  | scan _ hattempted _ _ _ ih =>
      rw [attemptsOf_cons]
      exact hattempted.append hs ih

theorem Passes.report_eq {pageSize : Nat} {report report' : Report} {w u : W} {scans : List Scan}
    (h : Passes b catalog quiet pageSize report w scans report' u) :
    report' = ⟨report.indices + scans.length, report.scanned + (attemptsOf scans).length,
      report.pinned + successes (attemptsOf scans),
      report.failed + (failures (attemptsOf scans)).length⟩ := by
  induction h with
  | done report w => rfl
  | @scan report report' w v u s walk rest _ _ _ hreport _ ih =>
      have hsuccesses : successes (attemptsOf (s :: rest)) =
          successes s.attempts + successes (attemptsOf rest) := by
        unfold successes
        rw [attemptsOf_cons, List.countP_append]
      have hfailures : (failures (attemptsOf (s :: rest))).length =
          (failures s.attempts).length + (failures (attemptsOf rest)).length := by
        rw [attemptsOf_cons, failures_append, List.length_append]
      rw [ih, hreport, Report.recordAll_eq, hsuccesses, hfailures, attemptsOf_cons,
        List.length_append, List.length_cons]
      unfold Report.withIndex
      simp only [Report.mk.injEq]
      refine ⟨?_, ?_, ?_, ?_⟩
      · omega
      · omega
      · omega
      · omega

theorem apart_attemptsOf {scans : List Scan}
    (hindex : forall s, s ∈ scans -> forall a, a ∈ s.attempts -> a.document.index = s.index)
    (hnodup : (scans.map Scan.index).Nodup) (hapart : forall s, s ∈ scans -> Apart s.attempts) :
    Apart (attemptsOf scans) := by
  unfold Apart attemptsOf
  rw [List.pairwise_flatMap]
  refine ⟨hapart, ?_⟩
  rw [List.Nodup, List.pairwise_map] at hnodup
  refine hnodup.imp_of_mem ?_
  intro s s' hs hs' hne a ha a' ha' hplace
  apply hne
  rw [← hindex s hs a ha, ← hindex s' hs' a' ha']
  exact hplace.1

theorem apart_of_waiting {c : Catalog} (hc : c.WellFormed) {index : String}
    {attempts : List Attempt} (h : attempts.map Attempt.document = unpinned c index) :
    Apart attempts := by
  have hplaces := hc.found_pairwise (some index) unpinnedQuery
  have hdocuments : c.found (some index) unpinnedQuery = attempts.map Attempt.document := h.symm
  rw [hdocuments, List.pairwise_map] at hplaces
  exact hplaces

theorem unpinned_afterAttempts_of_other {c : Catalog} (hc : c.WellFormed) {attempts : List Attempt}
    {index other : String} (h : forall a, a ∈ attempts -> a.document.index = other)
    (hne : other ≠ index) : unpinned (afterAttempts c attempts) index = unpinned c index := by
  rw [unpinned_afterAttempts hc]
  apply List.filter_eq_self.mpr
  intro m hm
  rw [pinnedAt_eq_false, Bool.not_false]
  rintro a ha ⟨hindex, _⟩
  rw [h a ha, Catalog.index_of_mem_found_some hm] at hindex
  exact hne hindex

theorem Passes.documents_eq (hs : Serves b catalog quiet ready) {pageSize : Nat}
    {report report' : Report} {w u : W} {scans : List Scan}
    (h : Passes b catalog quiet pageSize report w scans report' u) (hw : ready w)
    (hc : (catalog w).WellFormed) (hlower : forall s, s ∈ scans -> lowerCase s.index = s.index)
    (hnodup : (scans.map Scan.index).Nodup) :
    forall s, s ∈ scans -> s.attempts.map Attempt.document = unpinned (catalog w) s.index := by
  induction h with
  | done report w =>
      intro s hs
      cases hs
  | @scan _ _ w v _ first _ rest _ hattempted hdocuments _ hrest ih =>
      have hlower' : forall a, a ∈ first.attempts ->
          lowerCase a.document.index = a.document.index := by
        intro a ha
        rw [index_of_attempt hdocuments ha]
        exact hlower first (List.mem_cons_self ..)
      rcases hattempted.catalog_eq hs hw hlower' with ⟨hcatalog, hv⟩
      rw [List.map_cons, List.nodup_cons] at hnodup
      intro s hmem
      rcases List.mem_cons.mp hmem with rfl | hmem
      · exact hdocuments
      · have hne : first.index ≠ s.index := by
          intro heq
          exact hnodup.1 (heq ▸ List.mem_map_of_mem hmem)
        rw [ih hv (by rw [hcatalog]; exact wellFormed_afterAttempts hc _)
          (fun s' hs' => hlower s' (List.mem_cons_of_mem _ hs')) hnodup.2 s hmem, hcatalog]
        exact unpinned_afterAttempts_of_other hc (fun _ => index_of_attempt hdocuments) hne

/-- A pass over every index of the catalog. -/
theorem Serves.runOnce (hs : Serves b catalog quiet ready) {w v : W} (hw : ready w)
    (hnames : b.indexer.indexNames w = (.ok (catalog w).indexNames, v)) (hquiet : quiet w v)
    (hc : (catalog w).WellFormed) (hall : allIndices ∉ (catalog w).indexNames)
    (hfits : (catalog w).size ≤ largestWord) (pageSize : Nat) :
    exists scans report u,
      runOnce b pageSize w = (report, u) ∧
      Passes b catalog quiet pageSize .zero v scans report u ∧
      scans.map Scan.index = (catalog w).indexNames ∧
      (forall s, s ∈ scans -> s.attempts.map Attempt.document = unpinned (catalog w) s.index) ∧
      Apart (attemptsOf scans) ∧
      catalog u = afterAttempts (catalog w) (attemptsOf scans) ∧ ready u := by
  have hv : ready v := hs.ready_of_quiet hquiet hw
  have hsame : catalog v = catalog w := hs.catalog_of_quiet hquiet
  rw [← hsame] at hnames hc hall hfits ⊢
  rcases hs.reconcileIndices ⟨hv, hc, fun _ hindex => hindex, hall, hfits⟩ pageSize .zero with
    ⟨scans, report, u, hrun, hpasses, hindices⟩
  have hlower : forall s, s ∈ scans -> lowerCase s.index = s.index := by
    intro s hmem
    apply hc.lowerCase_name
    rw [← hindices]
    exact List.mem_map_of_mem hmem
  have hnodup : (scans.map Scan.index).Nodup := by
    rw [hindices]
    exact hc.shelves.nodup_keys
  have hwaiting := hpasses.documents_eq hs hv hc hlower hnodup
  have hindex : forall s, s ∈ scans -> forall a, a ∈ s.attempts -> a.document.index = s.index :=
    fun s hmem a ha => index_of_attempt (hwaiting s hmem) ha
  have hlower' : forall a, a ∈ attemptsOf scans ->
      lowerCase a.document.index = a.document.index := by
    intro a ha
    rcases List.mem_flatMap.mp ha with ⟨s, hmem, hs⟩
    rw [hindex s hmem a hs]
    exact hlower s hmem
  rcases (hpasses.attempted hs).catalog_eq hs hv hlower' with ⟨hcatalog, hu⟩
  refine ⟨scans, report, u, ?_, hpasses, hindices, hwaiting, ?_, hcatalog, hu⟩
  · unfold Reconciler.runOnce
    rw [Action.state_bind_apply, Action.outcome_apply, hnames]
    exact hrun
  · exact apart_attemptsOf hindex hnodup fun s hmem => apart_of_waiting hc (hwaiting s hmem)

end Reconciler
end ContentGateway
