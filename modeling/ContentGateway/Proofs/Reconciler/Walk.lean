import ContentGateway.Proofs.Reconciler.Attempts

/-!
# Walking one index

The result that a walk pages through shrinks while it runs.  The invariant is that it is
always a list of failed documents followed by the documents that are still to come, and
that the position of the next search lies among the failed ones.  So no document is
skipped, none is attempted twice, and every search either pins a document or moves on.
-/

namespace ContentGateway
namespace Reconciler

variable {W : Type} {b : Backends W} {catalog : W -> Catalog} {quiet : W -> W -> Prop}
  {ready : W -> Prop}

/-!
# What attempts leave behind
-/

def Report.recordAll (r : Report) (attempts : List Attempt) : Report :=
  attempts.foldl (fun r a => r.record a.succeeded) r

def failures (attempts : List Attempt) : List Metadata :=
  (attempts.filter fun a => !a.succeeded).map Attempt.document

def successes (attempts : List Attempt) : Nat :=
  attempts.countP Attempt.succeeded

theorem successes_cons (a : Attempt) (rest : List Attempt) :
    successes (a :: rest) = (if a.succeeded then 1 else 0) + successes rest := by
  unfold successes
  rw [List.countP_cons, Nat.add_comm]

theorem length_failures_cons (a : Attempt) (rest : List Attempt) :
    (failures (a :: rest)).length =
      (if a.succeeded then 0 else 1) + (failures rest).length := by
  unfold failures
  rw [List.filter_cons]
  cases a.succeeded with
  | false => simp [Nat.add_comm]
  | true => simp

theorem failures_append (first second : List Attempt) :
    failures (first ++ second) = failures first ++ failures second := by
  unfold failures
  rw [List.filter_append, List.map_append]

theorem length_failures_add_successes (attempts : List Attempt) :
    (failures attempts).length + successes attempts = attempts.length := by
  induction attempts with
  | nil => rfl
  | cons a rest ih =>
      rw [length_failures_cons, successes_cons, List.length_cons, ← ih]
      cases a.succeeded with
      | false =>
          simp only [Bool.false_eq_true, if_false]
          omega
      | true =>
          simp only [if_true]
          omega

def Walk.after (walk : Walk) (attempts : List Attempt) : Walk :=
  ⟨(attempts.map fun a => a.document.id).reverse ++ walk.attempted,
    walk.report.recordAll attempts⟩

theorem Walk.after_append (walk : Walk) (first second : List Attempt) :
    (walk.after first).after second = walk.after (first ++ second) := by
  simp [Walk.after, Report.recordAll]

/-- Different places all over a list of attempts. -/
def Apart (attempts : List Attempt) : Prop :=
  attempts.Pairwise fun a a' =>
    ¬ (a.document.index = a'.document.index ∧ a.document.id = a'.document.id)

theorem pinnedAt_eq_false {attempts : List Attempt} {index id : String}
    (h : forall a, a ∈ attempts -> ¬ (a.document.index = index ∧ a.document.id = id)) :
    pinnedAt attempts index id = false := by
  unfold pinnedAt
  rw [List.any_eq_false]
  intro a ha
  simp [h a ha]

theorem pinnedAt_of_mem {attempts : List Attempt} (hapart : Apart attempts) {a : Attempt}
    (ha : a ∈ attempts) :
    pinnedAt attempts a.document.index a.document.id = a.succeeded := by
  induction attempts with
  | nil => cases ha
  | cons first rest ih =>
      rcases List.pairwise_cons.mp hapart with ⟨hfirst, hrest⟩
      rw [pinnedAt_cons]
      rcases List.mem_cons.mp ha with rfl | hmem
      · have hlater : pinnedAt rest a.document.index a.document.id = false := by
          apply pinnedAt_eq_false
          rintro a' ha' ⟨hindex, hid⟩
          exact hfirst a' ha' ⟨hindex.symm, hid.symm⟩
        simp [hlater]
      · have hother : decide (first.document.index = a.document.index ∧
            first.document.id = a.document.id) = false := by
          simpa using hfirst a hmem
        rw [hother, Bool.and_false, Bool.false_or]
        exact ih hrest hmem

theorem filter_not_pinnedAt {attempts : List Attempt} (hapart : Apart attempts) :
    (attempts.map Attempt.document).filter (fun m => !pinnedAt attempts m.index m.id) =
      failures attempts := by
  unfold failures
  rw [List.filter_map]
  congr 1
  apply List.filter_congr
  intro a ha
  simp only [Function.comp]
  rw [pinnedAt_of_mem hapart ha]

/-!
# One page
-/

theorem reconcilePage_of_attempted (b : Backends W) {old : List Metadata} {walk : Walk}
    (h : forall m, m ∈ old -> m.id ∈ walk.attempted) (fresh : List Metadata)
    (progress : Progress) :
    reconcilePage b (old ++ fresh) walk progress = reconcilePage b fresh walk progress := by
  induction old with
  | nil => rfl
  | cons m rest ih =>
      have hm : walk.attempted.contains m.id = true := by
        simpa using h m (List.mem_cons_self ..)
      rw [List.cons_append, reconcilePage, if_pos hm]
      exact ih fun m' hm' => h m' (List.mem_cons_of_mem _ hm')

theorem reconcilePage_of_fresh (b : Backends W) {m : Metadata} {walk : Walk}
    (h : m.id ∉ walk.attempted) (rest : List Metadata) (progress : Progress) (w : W) :
    reconcilePage b (m :: rest) walk progress w =
      reconcilePage b rest
        ⟨m.id :: walk.attempted, walk.report.record (reconcile b m w).1⟩
        ⟨progress.fresh + 1, progress.pinned + if (reconcile b m w).1 then 1 else 0⟩
        (reconcile b m w).2 := by
  have hm : ¬ walk.attempted.contains m.id = true := by
    simpa using h
  rw [reconcilePage, if_neg hm]
  rfl

theorem Serves.reconcilePage (hs : Serves b catalog quiet ready) {w : W} (hw : ready w)
    {fresh : List Metadata} (walk : Walk) (progress : Progress)
    (hlower : forall m, m ∈ fresh -> lowerCase m.index = m.index)
    (hnew : forall m, m ∈ fresh -> m.id ∉ walk.attempted)
    (hnodup : (fresh.map Metadata.id).Nodup) :
    exists attempts v,
      reconcilePage b fresh walk progress w =
        ((walk.after attempts,
          ⟨progress.fresh + attempts.length, progress.pinned + successes attempts⟩), v) ∧
      Attempted b quiet w attempts v ∧ attempts.map Attempt.document = fresh := by
  induction fresh generalizing w walk progress with
  | nil => exact ⟨[], w, rfl, Attempted.done (hs.refl w), rfl⟩
  | cons m rest ih =>
      rcases hs.reconcile hw (hlower m (List.mem_cons_self ..)) with
        ⟨succeeded, v, hrun, hcatalog, hv⟩
      rw [List.map_cons, List.nodup_cons] at hnodup
      have hnew' : forall m', m' ∈ rest -> m'.id ∉ m.id :: walk.attempted := by
        intro m' hm' hmem
        rcases List.mem_cons.mp hmem with hsame | hold
        · exact hnodup.1 (hsame ▸ List.mem_map_of_mem hm')
        · exact hnew m' (List.mem_cons_of_mem _ hm') hold
      rcases ih hv ⟨m.id :: walk.attempted, walk.report.record succeeded⟩
          ⟨progress.fresh + 1, progress.pinned + if succeeded then 1 else 0⟩
          (fun m' hm' => hlower m' (List.mem_cons_of_mem _ hm')) hnew' hnodup.2 with
        ⟨attempts, u, hpage, hattempted, hdocuments⟩
      refine ⟨⟨m, succeeded⟩ :: attempts, u, ?_,
        Attempted.attempt (hs.refl w) hrun hattempted, by rw [List.map_cons, hdocuments]⟩
      have hcount : progress.fresh + 1 + attempts.length =
          progress.fresh + (⟨m, succeeded⟩ :: attempts).length := by
        rw [List.length_cons]
        omega
      have hpinned : (progress.pinned + if succeeded then 1 else 0) + successes attempts =
          progress.pinned + successes (⟨m, succeeded⟩ :: attempts) := by
        rw [successes_cons, Nat.add_assoc]
      have hwalk : Walk.after ⟨m.id :: walk.attempted, walk.report.record succeeded⟩ attempts =
          walk.after (⟨m, succeeded⟩ :: attempts) :=
        Walk.after_append walk [⟨m, succeeded⟩] attempts
      rw [reconcilePage_of_fresh b (hnew m (List.mem_cons_self ..)), hrun, hpage, hcount,
        hpinned, hwalk]

/-!
# One search
-/

def positionAfter (request : PageRequest) (page : Page Metadata) (walk : Walk)
    (progress : Progress) : Position :=
  if progress.fresh = 0 ∨ progress.pinned = 0 then
    if page.isLast then .ended walk
    else .before page.nextRequest page.totalElements walk
  else .before request page.totalElements walk

theorem step_of_empty {index : String} {request : PageRequest} {page : Page Metadata} {w v : W}
    (hsearch : b.indexer.search (some index) unpinnedQuery request w = (.ok page, v))
    (hempty : page.elements = []) (walk : Walk) :
    step b index request walk w = (.ended walk, v) := by
  unfold step
  rw [Action.state_bind_apply, Action.outcome_apply, hsearch]
  simp only [hempty, List.isEmpty_nil, if_true]
  rfl

theorem step_of_page {index : String} {request : PageRequest} {page : Page Metadata} {w v u : W}
    {walk walk' : Walk} {progress : Progress}
    (hsearch : b.indexer.search (some index) unpinnedQuery request w = (.ok page, v))
    (hpage : page.elements ≠ [])
    (hrun : reconcilePage b page.elements walk ⟨0, 0⟩ v = ((walk', progress), u)) :
    step b index request walk w = (positionAfter request page walk' progress, u) := by
  have hfull : ¬ page.elements.isEmpty = true := by
    simpa using hpage
  unfold step positionAfter
  rw [Action.state_bind_apply, Action.outcome_apply, hsearch]
  simp only [if_neg hfull, Action.state_bind_apply, hrun, Bool.or_eq_true, decide_eq_true_eq]
  split
  · split
    · rfl
    · rfl
  · rfl

/-!
# The invariant of a walk
-/

/--
A walk that is about to search: the waiting documents are those that have failed before,
followed by those that are still to come, and the search begins among the former.
-/
structure Stage (catalog : W -> Catalog) (ready : W -> Prop) (index : String)
    (failed rest : List Metadata) (request : PageRequest) (walk : Walk) (w : W) : Prop where
  ready : ready w
  wellFormed : (catalog w).WellFormed
  known : index ∈ (catalog w).indexNames
  /-- The position of every document fits into a machine word. -/
  fits : (catalog w).size ≤ largestWord
  unsorted : request.sort = none
  sized : 0 < request.size
  waiting : unpinned (catalog w) index = failed ++ rest
  old : forall m, m ∈ failed -> m.id ∈ walk.attempted
  new : forall m, m ∈ rest -> m.id ∉ walk.attempted
  reached : request.page * request.size ≤ failed.length

namespace Stage

variable {index : String} {failed rest : List Metadata} {request : PageRequest} {walk : Walk}
  {w : W}

theorem length_le (h : Stage catalog ready index failed rest request walk w) :
    failed.length + rest.length ≤ largestWord := by
  rw [← List.length_append, ← h.waiting]
  exact Nat.le_trans (Catalog.length_found_le _ _ _) h.fits

theorem index_eq (h : Stage catalog ready index failed rest request walk w) {m : Metadata}
    (hm : m ∈ failed ++ rest) : m.index = index := by
  rw [← h.waiting] at hm
  exact Catalog.index_of_mem_found_some hm

theorem pairwise_id (h : Stage catalog ready index failed rest request walk w) :
    (failed ++ rest).Pairwise fun m m' => m.id ≠ m'.id := by
  have hplaces := h.wellFormed.found_pairwise (some index) unpinnedQuery
  have hwaiting : (catalog w).found (some index) unpinnedQuery = failed ++ rest := h.waiting
  rw [hwaiting] at hplaces
  refine hplaces.imp_of_mem ?_
  intro m m' hm hm' hne hid
  exact hne ⟨(h.index_eq hm).trans (h.index_eq hm').symm, hid⟩

def room (failed : List Metadata) (request : PageRequest) : Nat :=
  request.size - (failed.length - request.page * request.size)

/-- The next page: failed documents first, and then documents that are still to come. -/
def nextPage (failed rest : List Metadata) (request : PageRequest) : Page Metadata :=
  Page.ofTotal request
    ((failed.drop (request.page * request.size)).take request.size
      ++ rest.take (room failed request))
    (failed.length + rest.length)

theorem search (h : Stage catalog ready index failed rest request walk w)
    (hs : Serves b catalog quiet ready) (hall : index ≠ allIndices) :
    exists v, b.indexer.search (some index) unpinnedQuery request w =
      (.ok (nextPage failed rest request), v) ∧ quiet w v := by
  have hlower : lowerCase index = index := h.wellFormed.lowerCase_name h.known
  have hscope : Catalog.scope (some index) = some index := Catalog.scope_some hlower hall
  have hreaches : (catalog w).Reaches (some index) := by
    intro name hname
    rw [hscope] at hname
    exact Option.some.inj hname ▸ h.known
  have hoffset : request.offset = request.page * request.size :=
    PageRequest.offset_of_le
      (Nat.le_trans h.reached (Nat.le_trans (Nat.le_add_right _ _) h.length_le))
  have hwaiting : (catalog w).found (some index) unpinnedQuery = failed ++ rest := h.waiting
  rcases hs.search h.ready (some index) unpinnedQuery request with ⟨v, hsearch, hquiet⟩
  refine ⟨v, ?_, hquiet⟩
  rw [hsearch, Catalog.search_unsorted hreaches _ h.unsorted, hscope, hwaiting, hoffset,
    List.drop_append_of_le_length h.reached, List.take_append, List.length_drop,
    List.length_append]
  rfl

theorem rest_eq_nil_of_empty (h : Stage catalog ready index failed rest request walk w)
    (hempty : (nextPage failed rest request).elements = []) : rest = [] := by
  have hreached := h.reached
  have hsized := h.sized
  have hlength := congrArg List.length hempty
  unfold nextPage Page.ofTotal room at hlength
  simp only [List.length_append, List.length_take, List.length_drop, List.length_nil] at hlength
  apply List.eq_nil_of_length_eq_zero
  omega

theorem apart {fresh later : List Metadata}
    (h : Stage catalog ready index failed (fresh ++ later) request walk w)
    {attempts : List Attempt} (hdocuments : attempts.map Attempt.document = fresh) :
    Apart attempts := by
  have hfresh : fresh.Pairwise fun m m' => m.id ≠ m'.id :=
    (List.pairwise_append.mp (List.pairwise_append.mp h.pairwise_id).2.1).1
  rw [← hdocuments, List.pairwise_map] at hfresh
  refine hfresh.imp ?_
  intro a a' hne hplace
  exact hne hplace.2

theorem waiting_after {fresh later : List Metadata}
    (h : Stage catalog ready index failed (fresh ++ later) request walk w)
    {attempts : List Attempt} (hdocuments : attempts.map Attempt.document = fresh) :
    unpinned (afterAttempts (catalog w) attempts) index =
      (failed ++ failures attempts) ++ later := by
  have hpairwise := List.pairwise_append.mp h.pairwise_id
  have hrest := List.pairwise_append.mp hpairwise.2.1
  have hmem : forall {a}, a ∈ attempts -> a.document ∈ fresh := by
    intro a ha
    rw [← hdocuments]
    exact List.mem_map_of_mem ha
  -- the attempts are all for fresh documents, so the flags of the others stay as they are
  have hfailed : failed.filter (fun m => !pinnedAt attempts m.index m.id) = failed := by
    apply List.filter_eq_self.mpr
    intro m hm
    rw [pinnedAt_eq_false, Bool.not_false]
    rintro a ha ⟨_, hid⟩
    exact hpairwise.2.2 m hm a.document (List.mem_append_left _ (hmem ha)) hid.symm
  have hfresh : fresh.filter (fun m => !pinnedAt attempts m.index m.id) = failures attempts := by
    rw [← hdocuments]
    exact filter_not_pinnedAt (h.apart hdocuments)
  have hlater : later.filter (fun m => !pinnedAt attempts m.index m.id) = later := by
    apply List.filter_eq_self.mpr
    intro m hm
    rw [pinnedAt_eq_false, Bool.not_false]
    rintro a ha ⟨_, hid⟩
    exact hrest.2.2 a.document (hmem ha) m hm hid
  rw [unpinned_afterAttempts h.wellFormed, h.waiting, List.filter_append, List.filter_append,
    hfailed, hfresh, hlater, List.append_assoc]

theorem lowerCase_index (h : Stage catalog ready index failed rest request walk w)
    {m : Metadata} (hm : m ∈ rest) : lowerCase m.index = m.index := by
  rw [h.index_eq (List.mem_append_right _ hm)]
  exact h.wellFormed.lowerCase_name h.known

theorem after (hs : Serves b catalog quiet ready) {fresh later : List Metadata}
    (h : Stage catalog ready index failed (fresh ++ later) request walk w)
    {attempts : List Attempt} {u : W} (hattempted : Attempted b quiet w attempts u)
    (hdocuments : attempts.map Attempt.document = fresh) {request' : PageRequest}
    (hunsorted : request'.sort = none) (hsized : 0 < request'.size)
    (hreached : request'.page * request'.size ≤ (failed ++ failures attempts).length) :
    Stage catalog ready index (failed ++ failures attempts) later request'
      (walk.after attempts) u := by
  have hlower : forall a, a ∈ attempts -> lowerCase a.document.index = a.document.index := by
    intro a ha
    apply h.lowerCase_index
    rw [← hdocuments]
    exact List.mem_append_left _ (List.mem_map_of_mem ha)
  rcases hattempted.catalog_eq hs h.ready hlower with ⟨hcatalog, hready⟩
  have hpairwise := (List.pairwise_append.mp (List.pairwise_append.mp h.pairwise_id).2.1).2.2
  constructor
  · exact hready
  · rw [hcatalog]
    exact wellFormed_afterAttempts h.wellFormed attempts
  · rw [hcatalog, indexNames_afterAttempts h.wellFormed]
    exact h.known
  · rw [hcatalog, size_afterAttempts h.wellFormed]
    exact h.fits
  · exact hunsorted
  · exact hsized
  · rw [hcatalog]
    exact h.waiting_after hdocuments
  · intro m hm
    rcases List.mem_append.mp hm with hold | hfailure
    · exact List.mem_append_right _ (h.old m hold)
    · rcases List.mem_map.mp hfailure with ⟨a, ha, rfl⟩
      apply List.mem_append_left
      rw [List.mem_reverse]
      exact List.mem_map.mpr ⟨a, List.mem_of_mem_filter ha, rfl⟩
  · intro m hm hmem
    rcases List.mem_append.mp hmem with hnow | hbefore
    · rw [List.mem_reverse] at hnow
      rcases List.mem_map.mp hnow with ⟨a, ha, hid⟩
      refine hpairwise a.document ?_ m hm hid
      rw [← hdocuments]
      exact List.mem_map_of_mem ha
    · exact h.new m (List.mem_append_right _ hm) hbefore
  · exact hreached

theorem isLast_nextPage_iff (h : Stage catalog ready index failed rest request walk w) :
    (nextPage failed rest request).isLast = true ↔
      failed.length + rest.length ≤ (request.page + 1) * request.size :=
  Page.isLast_ofTotal_iff h.sized _ _

theorem later_eq_nil_of_last (h : Stage catalog ready index failed rest request walk w)
    (hlast : failed.length + rest.length ≤ (request.page + 1) * request.size) :
    rest.drop (room failed request) = [] := by
  have hreached := h.reached
  rw [Nat.succ_mul] at hlast
  apply List.drop_eq_nil_of_le
  unfold room
  omega

theorem page_le_of_more (h : Stage catalog ready index failed rest request walk w)
    (hmore : (request.page + 1) * request.size < failed.length + rest.length) :
    (request.page + 1) * request.size ≤
      failed.length + min (room failed request) rest.length := by
  have hreached := h.reached
  rw [Nat.succ_mul] at hmore ⊢
  unfold room
  omega

theorem attempt_page (h : Stage catalog ready index failed rest request walk w)
    (hs : Serves b catalog quiet ready) (hall : index ≠ allIndices)
    (hfull : (nextPage failed rest request).elements ≠ []) :
    exists attempts u,
      Reconciler.step b index request walk w =
        (positionAfter request (nextPage failed rest request) (walk.after attempts)
          ⟨attempts.length, successes attempts⟩, u) ∧
      Attempted b quiet w attempts u ∧
      attempts.map Attempt.document = rest.take (room failed request) := by
  rcases h.search hs hall with ⟨v, hsearch, hquiet⟩
  have hfresh : forall {m}, m ∈ rest.take (room failed request) -> m ∈ rest :=
    fun hm => List.mem_of_mem_take hm
  have hnodup : ((rest.take (room failed request)).map Metadata.id).Nodup := by
    rw [List.Nodup, List.pairwise_map]
    exact (List.pairwise_append.mp h.pairwise_id).2.1.sublist (List.take_sublist _ _)
  rcases hs.reconcilePage (hs.ready_of_quiet hquiet h.ready) walk ⟨0, 0⟩
      (fun m hm => h.lowerCase_index (hfresh hm)) (fun m hm => h.new m (hfresh hm)) hnodup with
    ⟨attempts, u, hrun, hattempted, hdocuments⟩
  -- what has failed before is passed over
  rw [← reconcilePage_of_attempted b
    (fun m hm => h.old m (List.mem_of_mem_drop (List.mem_of_mem_take hm))),
    Nat.zero_add, Nat.zero_add] at hrun
  exact ⟨attempts, u, step_of_page hsearch hfull hrun, hattempted.after_quiet hs hquiet, hdocuments⟩

/--
Where a walk stands after a page.  If a document was pinned, the same position is searched
again in a shorter result; if none was, the page is full of failures, and the walk steps
over it.
-/
theorem positionAfter (h : Stage catalog ready index failed rest request walk w)
    (hs : Serves b catalog quiet ready) {attempts : List Attempt} {u : W}
    (hattempted : Attempted b quiet w attempts u)
    (hdocuments : attempts.map Attempt.document = rest.take (room failed request)) :
    (Reconciler.positionAfter request (nextPage failed rest request) (walk.after attempts)
        ⟨attempts.length, successes attempts⟩ = .ended (walk.after attempts) ∧
      rest.drop (room failed request) = []) ∨
    exists request',
      Reconciler.positionAfter request (nextPage failed rest request) (walk.after attempts)
        ⟨attempts.length, successes attempts⟩ =
          .before request' (failed.length + rest.length) (walk.after attempts) ∧
      Stage catalog ready index (failed ++ failures attempts) (rest.drop (room failed request))
        request' (walk.after attempts) u ∧
      (failed ++ failures attempts).length + (rest.drop (room failed request)).length
        - request'.page < failed.length + rest.length - request.page := by
  have hcount : attempts.length = min (room failed request) rest.length := by
    rw [← List.length_map (f := Attempt.document), hdocuments, List.length_take]
  have hbalance := length_failures_add_successes attempts
  have hlater : (rest.drop (room failed request)).length =
      rest.length - room failed request := List.length_drop
  have hreached := h.reached
  have hpage : request.page ≤ request.page * request.size := Nat.le_mul_of_pos_right _ h.sized
  have hstage : Stage catalog ready index failed
      (rest.take (room failed request) ++ rest.drop (room failed request)) request walk w := by
    rw [List.take_append_drop]
    exact h
  unfold Reconciler.positionAfter
  simp only
  split
  · next hstuck =>
      by_cases hend : failed.length + rest.length ≤ (request.page + 1) * request.size
      · rw [if_pos (h.isLast_nextPage_iff.mpr hend)]
        exact Or.inl ⟨rfl, h.later_eq_nil_of_last hend⟩
      · rw [if_neg (mt h.isLast_nextPage_iff.mp hend)]
        have hfilled := h.page_le_of_more (Nat.not_le.mp hend)
        have hfull : (request.page + 1) * request.size ≤ (failed ++ failures attempts).length := by
          rw [List.length_append]
          omega
        have hnext : request.page + 1 ≤ (request.page + 1) * request.size :=
          Nat.le_mul_of_pos_right _ h.sized
        refine Or.inr ⟨request.next, rfl,
          hstage.after hs hattempted hdocuments h.unsorted h.sized hfull, ?_⟩
        show _ - (request.page + 1) < _
        rw [List.length_append, hlater]
        rw [List.length_append] at hfull
        omega
  · next hmoved =>
      have hkept : request.page * request.size ≤ (failed ++ failures attempts).length := by
        rw [List.length_append]
        omega
      refine Or.inr ⟨request, rfl,
        hstage.after hs hattempted hdocuments h.unsorted h.sized hkept, ?_⟩
      rw [List.length_append, hlater]
      omega

/--
One search: the documents that are new to the walk are attempted, and either none is left,
or the invariant holds again and fewer documents lie beyond the position of the next search.
-/
theorem step (h : Stage catalog ready index failed rest request walk w)
    (hs : Serves b catalog quiet ready) (hall : index ≠ allIndices) :
    exists attempts later position u,
      Reconciler.step b index request walk w = (position, u) ∧
      Attempted b quiet w attempts u ∧ attempts.map Attempt.document ++ later = rest ∧
      ((position = .ended (walk.after attempts) ∧ later = []) ∨
        exists request',
          position = .before request' (failed.length + rest.length) (walk.after attempts) ∧
          Stage catalog ready index (failed ++ failures attempts) later request'
            (walk.after attempts) u ∧
          (failed ++ failures attempts).length + later.length - request'.page
            < failed.length + rest.length - request.page) := by
  by_cases hempty : (nextPage failed rest request).elements = []
  · rcases h.search hs hall with ⟨v, hsearch, hquiet⟩
    refine ⟨[], [], _, v, step_of_empty hsearch hempty walk, Attempted.done hquiet, ?_,
      Or.inl ⟨rfl, rfl⟩⟩
    exact (h.rest_eq_nil_of_empty hempty).symm
  · rcases h.attempt_page hs hall hempty with ⟨attempts, u, hrun, hattempted, hdocuments⟩
    refine ⟨attempts, rest.drop (room failed request), _, u, hrun, hattempted, ?_,
      h.positionAfter hs hattempted hdocuments⟩
    rw [hdocuments, List.take_append_drop]

end Stage

/-!
# A whole walk
-/

/-- The searches of a walk, one after the other, until it has ended. -/
inductive Walks (b : Backends W) (index : String) : Position -> W -> Walk -> W -> Prop where
  | ended (walk : Walk) (w : W) : Walks b index (.ended walk) w walk w
  | search {request : PageRequest} {total : Nat} {walk walk' : Walk} {position : Position}
      {w v u : W} :
      step b index request walk w = (position, v) ->
      Walks b index position v walk' u ->
      Walks b index (.before request total walk) w walk' u

/-- A walk ends, and it has attempted each of the documents that were still to come. -/
theorem Stage.walkOn (hs : Serves b catalog quiet ready) {index : String}
    (hall : index ≠ allIndices) {failed rest : List Metadata} {request : PageRequest}
    {walk : Walk} {w : W} (h : Stage catalog ready index failed rest request walk w)
    (total : Nat) {searches : Nat}
    (hsearches : failed.length + rest.length - request.page < searches) :
    exists attempts u,
      walkOn b index searches (.before request total walk) w = (walk.after attempts, u) ∧
      Walks b index (.before request total walk) w (walk.after attempts) u ∧
      Attempted b quiet w attempts u ∧ attempts.map Attempt.document = rest := by
  induction searches generalizing failed rest request walk w total with
  | zero => omega
  | succ searches ih =>
      rcases h.step hs hall with
        ⟨attempts, later, position, v, hstep, hattempted, hdocuments, hposition⟩
      have hrun : Reconciler.walkOn b index (searches + 1) (.before request total walk) w =
          Reconciler.walkOn b index searches position v := by
        rw [Reconciler.walkOn, Action.state_bind_apply, hstep]
      rcases hposition with ⟨rfl, rfl⟩ | ⟨request', rfl, hstage, hless⟩
      · refine ⟨attempts, v, ?_, Walks.search hstep (Walks.ended _ v), hattempted, ?_⟩
        · rw [hrun]
          cases searches with
          | zero => rfl
          | succ n => rfl
        · rw [← hdocuments, List.append_nil]
      · rcases ih hstage (failed.length + rest.length) (by omega) with
          ⟨more, u, hwalk, hwalks, hattempted', hdocuments'⟩
        rw [Walk.after_append] at hwalk hwalks
        refine ⟨attempts ++ more, u, ?_, Walks.search hstep hwalks,
          hattempted.append hs hattempted', ?_⟩
        · rw [hrun, hwalk]
        · rw [List.map_append, hdocuments', hdocuments]

end Reconciler
end ContentGateway
