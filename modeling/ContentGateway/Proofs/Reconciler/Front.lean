import ContentGateway.Proofs.Reconciler.Completeness

/-!
# A pass stays near the front

No search of a pass begins further from the front of a result than as many documents as have
failed in the same index so far.  So a pass is the same over an indexer that refuses to look
far ahead, as long as its window has room for the failures and for one page.
-/

namespace ContentGateway
namespace Reconciler

variable {W R : Type} {b : Backends W} {catalog : W -> Catalog} {quiet : W -> W -> Prop}
  {ready : W -> Prop}

/-!
# The searches of a pass
-/

/-- A search that a walk comes to, and what the walk has recorded by then. -/
inductive Searched (b : Backends W) (index : String) :
    Position -> W -> PageRequest -> Walk -> W -> Prop where
  | now (request : PageRequest) (total : Nat) (walk : Walk) (w : W) :
      Searched b index (.before request total walk) w request walk w
  | later {request request' : PageRequest} {total : Nat} {walk walk' : Walk}
      {position : Position} {w v u : W} :
      step b index request walk w = (position, v) ->
      Searched b index position v request' walk' u ->
      Searched b index (.before request total walk) w request' walk' u

inductive Begins (b : Backends W) (pageSize : Nat) :
    List String -> Report -> W -> String -> Report -> W -> Prop where
  | now (index : String) (rest : List String) (report : Report) (w : W) :
      Begins b pageSize (index :: rest) report w index report.withIndex w
  | later {first index : String} {rest : List String} {report report' start : Report}
      {w v u : W} :
      reconcileIndex b pageSize first report.withIndex w = (report', v) ->
      Begins b pageSize rest report' v index start u ->
      Begins b pageSize (first :: rest) report w index start u

/--
A search that a pass issues: the index that is scanned, the report with which its scan begins,
what the search asks for, and what the walk has recorded by then.
-/
def Issues (b : Backends W) (pageSize : Nat) (w : W) (index : String) (start : Report)
    (request : PageRequest) (walk : Walk) : Prop :=
  exists names v u z,
    b.indexer.indexNames w = (.ok names, v) ∧
      Begins b pageSize names .zero v index start u ∧
      Searched b index (beginning pageSize start) u request walk z

/-!
# Where a search begins
-/

namespace Stage

variable {index : String} {failed rest : List Metadata} {request : PageRequest} {walk : Walk}
  {w : W}

theorem size_of_step (h : Stage catalog ready index failed rest request walk w)
    (hs : Serves b catalog quiet ready) (hall : index ≠ allIndices) {request' : PageRequest}
    {total : Nat} {walk' : Walk} {v : W}
    (hstep : Reconciler.step b index request walk w = (.before request' total walk', v)) :
    request'.size = request.size := by
  by_cases hempty : (nextPage failed rest request).elements = []
  · rcases h.search hs hall with ⟨u, hsearch, -⟩
    rw [step_of_empty hsearch hempty walk] at hstep
    cases hstep
  · rcases h.attempt_page hs hall hempty with ⟨attempts, u, hrun, -, -⟩
    rw [hrun] at hstep
    have hposition := congrArg Prod.fst hstep
    unfold Reconciler.positionAfter at hposition
    simp only at hposition
    split at hposition
    · split at hposition
      · cases hposition
      · cases hposition
        rfl
    · cases hposition
      rfl

theorem searched (hs : Serves b catalog quiet ready) (hall : index ≠ allIndices)
    {position : Position} {request' : PageRequest} {walk' : Walk} {v : W}
    (hsearched : Searched b index position w request' walk' v) {total : Nat}
    (hposition : position = .before request total walk)
    (h : Stage catalog ready index failed rest request walk w) :
    exists made later,
      walk' = walk.after made ∧ Attempted b quiet w made v ∧
      made.map Attempt.document ++ later = rest ∧ request'.size = request.size ∧
      Stage catalog ready index (failed ++ failures made) later request' walk' v := by
  induction hsearched generalizing request walk total failed rest with
  | now =>
      cases hposition
      refine ⟨[], rest, rfl, Attempted.done (hs.refl _), rfl, rfl, ?_⟩
      have hnone : failed ++ failures [] = failed := List.append_nil failed
      rw [hnone]
      exact h
  | later hstep _ ih =>
      cases hposition
      rcases h.step hs hall with
        ⟨attempts, later, position, u, hrun, hattempted, hdocuments, hnext⟩
      rw [hstep] at hrun
      cases hrun
      rcases hnext with ⟨rfl, -⟩ | ⟨next, rfl, hstage, -⟩
      · -- a walk that has ended comes to no search
        next hended => cases hended
      · have hsize := h.size_of_step hs hall hstep
        rcases ih rfl hstage with ⟨made, still, hwalk, hmade, hrest, hkept, hnow⟩
        refine ⟨attempts ++ made, still, ?_, hattempted.append hs hmade, ?_, hkept.trans hsize, ?_⟩
        · rw [hwalk, Walk.after_append]
        · rw [List.map_append, List.append_assoc, hrest, hdocuments]
        · rw [failures_append, ← List.append_assoc]
          exact hnow

/-- A search begins no further from the front than as many documents as wait after a failure. -/
theorem offset_le (h : Stage catalog ready index failed rest request walk w) :
    request.offset ≤ failed.length := by
  unfold PageRequest.offset
  exact Nat.le_trans (Nat.min_le_left _ _) h.reached

end Stage

theorem Attempted.isPrefix {w v u : W} {made attempts : List Attempt}
    (h : Attempted b Eq w made v) (h' : Attempted b Eq w attempts u)
    (hdocuments : made.map Attempt.document <+: attempts.map Attempt.document) :
    made <+: attempts := by
  induction h generalizing attempts with
  | done _ => exact List.nil_prefix
  | @attempt w v z _ a rest hbefore hrun _ ih =>
      cases h' with
      | done _ =>
          rw [List.map_cons, List.map_nil, List.prefix_nil] at hdocuments
          cases hdocuments
      | @attempt _ _ z' _ a' rest' hbefore' hrun' hrest' =>
          rcases a with ⟨document, succeeded⟩
          rcases a' with ⟨document', succeeded'⟩
          rw [List.map_cons, List.map_cons, List.cons_prefix_cons] at hdocuments
          rcases hdocuments with ⟨hdocument, hdocuments⟩
          have hsame : document = document' := hdocument
          subst hbefore hbefore' hsame
          rw [hrun'] at hrun
          cases hrun
          rw [List.cons_prefix_cons]
          exact ⟨rfl, ih hrest' hdocuments⟩

/-- A walk ends in one way. -/
theorem Walks.unique {index : String} {position : Position} {w u v : W} {walk walk' : Walk}
    (h : Walks b index position w walk u) (h' : Walks b index position w walk' v) :
    walk = walk' ∧ u = v := by
  induction h with
  | ended walk w =>
      cases h'
      exact ⟨rfl, rfl⟩
  | search hstep _ ih =>
      cases h' with
      | search hstep' hrest =>
          rw [hstep] at hstep'
          cases hstep'
          exact ih hrest

theorem Scannable.reconcileIndex_eq (hs : Serves b catalog quiet ready) {index : String}
    {rest : List String} {w v : W} (hw : Scannable catalog ready (index :: rest) w)
    {pageSize : Nat} {report : Report} {walk : Walk}
    (hwalks : Walks b index (beginning pageSize report) w walk v) :
    reconcileIndex b pageSize index report w = (walk.report, v) := by
  rcases hs.reconcileIndex hw.index_proper hw.ready hw.wellFormed hw.index_known hw.fits pageSize
      report with
    ⟨attempts, u, hrun, hwalks', -, -⟩
  rcases hwalks.unique hwalks' with ⟨rfl, rfl⟩
  exact hrun

/-- A search in a scan that has made some of its attempts, and begins among those that failed. -/
structure Near (pageSize : Nat) (s : Scan) (start : Report) (request : PageRequest)
    (walk : Walk) (attempts : List Attempt) : Prop where
  isPrefix : attempts <+: s.attempts
  /-- These are the attempts that the walk has recorded. -/
  recorded : walk = Walk.after ⟨[], start⟩ attempts
  offset_le : request.offset ≤ (failures attempts).length
  size_eq : request.size = max pageSize 1

theorem Near.fits {pageSize : Nat} {s : Scan} {start : Report} {request : PageRequest}
    {walk : Walk} {attempts : List Attempt} (h : Near pageSize s start request walk attempts)
    {window : Nat} (hwindow : (failures s.attempts).length + max pageSize 1 ≤ window) :
    request.offset + request.size ≤ window := by
  have hfailures : (failures attempts).length ≤ (failures s.attempts).length := by
    rcases h.isPrefix with ⟨later, hlater⟩
    rw [← hlater, failures_append, List.length_append]
    exact Nat.le_add_right _ _
  rw [h.size_eq]
  exact Nat.le_trans (Nat.add_le_add_right (Nat.le_trans h.offset_le hfailures) _) hwindow

theorem Passes.near (hs : Serves b catalog Eq ready) {pageSize : Nat} {report report' : Report}
    {w u : W} {scans : List Scan} (h : Passes b catalog Eq pageSize report w scans report' u)
    (hw : Scannable catalog ready (scans.map Scan.index) w) {index : String} {start : Report}
    {v z : W} (hbegins : Begins b pageSize (scans.map Scan.index) report w index start v)
    {request : PageRequest} {walk : Walk}
    (hsearched : Searched b index (beginning pageSize start) v request walk z) :
    exists s, s ∈ scans ∧ s.index = index ∧
      exists attempts, Near pageSize s start request walk attempts := by
  induction h with
  | done report w => cases hbegins
  | @scan report report' w v' u s walk' rest hwalks hattempted hdocuments hreport hpasses ih =>
      cases hbegins with
      | now =>
          have hstage := Stage.initial hw.ready hw.wellFormed hw.index_known hw.fits pageSize
            report.withIndex
          rcases hstage.searched hs hw.index_proper hsearched rfl with
            ⟨made, later, hwalk, hmade, hrest, hsize, hnow⟩
          refine ⟨s, List.mem_cons_self .., rfl, made, ?_, hwalk, hnow.offset_le, hsize⟩
          apply hmade.isPrefix hattempted
          rw [hdocuments, ← hrest]
          exact List.prefix_append _ _
      | later hrun hbegins =>
          rw [hw.reconcileIndex_eq hs hwalks] at hrun
          cases hrun
          rcases ih (hw.after hs hattempted hdocuments) hbegins with ⟨s', hmem, hnear⟩
          exact ⟨s', List.mem_cons_of_mem _ hmem, hnear⟩

/-!
# Windows
-/

/-- The same backends with an indexer that rejects searches that look beyond a window. -/
def within (window : Nat) (refusal : Failure) (b : Backends W) : Backends W :=
  { b with indexer := { b.indexer with
      search := fun index query request =>
        if request.offset + request.size ≤ window then b.indexer.search index query request
        else throw refusal } }

section Within

variable {window : Nat} {refusal : Failure}

theorem reconcilePage_within (page : List Metadata) (walk : Walk) (progress : Progress) :
    reconcilePage (within window refusal b) page walk progress =
      reconcilePage b page walk progress := by
  induction page generalizing walk progress with
  | nil => rfl
  | cons m rest ih =>
      -- an attempt makes no search
      have hattempt : reconcile (within window refusal b) m = reconcile b m := rfl
      simp only [reconcilePage, hattempt, ih]

theorem step_within {request : PageRequest} (h : request.offset + request.size ≤ window)
    (index : String) (walk : Walk) :
    step (within window refusal b) index request walk = step b index request walk := by
  have hsearch : (within window refusal b).indexer.search (some index) unpinnedQuery request =
      b.indexer.search (some index) unpinnedQuery request := if_pos h
  unfold step
  simp only [hsearch, reconcilePage_within]

theorem walkOn_within {index : String} {position : Position} {w : W}
    (h : forall request walk v, Searched b index position w request walk v ->
      request.offset + request.size ≤ window) (searches : Nat) :
    walkOn (within window refusal b) index searches position w =
      walkOn b index searches position w := by
  induction searches generalizing position w with
  | zero =>
      cases position with
      | ended walk => rfl
      | before request total walk => rfl
  | succ searches ih =>
      cases position with
      | ended walk => rfl
      | before request total walk =>
          have hnow := h request walk w (Searched.now request total walk w)
          rw [walkOn, walkOn, Action.state_bind_apply, Action.state_bind_apply, step_within hnow]
          exact ih fun request' walk' v hsearched =>
            h request' walk' v (Searched.later rfl hsearched)

theorem Walks.within {index : String} {position : Position} {w u : W} {walk : Walk}
    (hwalks : Walks b index position w walk u)
    (h : forall request walk v, Searched b index position w request walk v ->
      request.offset + request.size ≤ window) :
    Walks (Reconciler.within window refusal b) index position w walk u := by
  induction hwalks with
  | ended walk w => exact Walks.ended walk w
  | @search request total walk walk' position w v u hstep _ ih =>
      have hnow := h request walk w (Searched.now request total walk w)
      apply Walks.search
      · rw [step_within hnow]
        exact hstep
      · exact ih fun request' walk'' z hsearched =>
          h request' walk'' z (Searched.later hstep hsearched)

theorem reconcileIndex_within {pageSize : Nat} {index : String} {report : Report} {w : W}
    (h : forall request walk v, Searched b index (beginning pageSize report) w request walk v ->
      request.offset + request.size ≤ window) :
    reconcileIndex (within window refusal b) pageSize index report w =
      reconcileIndex b pageSize index report w := by
  have hfirst := h _ _ w (Searched.now ⟨0, max pageSize 1, none, .ascending⟩ 0 ⟨[], report⟩ w)
  unfold reconcileIndex
  rw [Action.state_bind_apply, Action.state_bind_apply, step_within hfirst,
    Action.state_bind_apply, Action.state_bind_apply, walkOn_within]
  exact fun request walk v hsearched => h request walk v (Searched.later rfl hsearched)

theorem reconcileIndices_within {pageSize : Nat} {indices : List String} {report : Report} {w : W}
    (h : forall index start v request walk u, Begins b pageSize indices report w index start v ->
      Searched b index (beginning pageSize start) v request walk u ->
      request.offset + request.size ≤ window) :
    reconcileIndices (within window refusal b) pageSize indices report w =
      reconcileIndices b pageSize indices report w := by
  induction indices generalizing report w with
  | nil => rfl
  | cons index rest ih =>
      have hindex : reconcileIndex (within window refusal b) pageSize index
          { report with indices := report.indices + 1 } w =
            reconcileIndex b pageSize index { report with indices := report.indices + 1 } w :=
        reconcileIndex_within fun request walk u hsearched =>
          h index report.withIndex w request walk u (Begins.now index rest report w) hsearched
      rw [reconcileIndices, reconcileIndices, Action.state_bind_apply, Action.state_bind_apply,
        hindex]
      exact ih fun i start v request walk u hbegins hsearched =>
        h i start v request walk u (Begins.later rfl hbegins) hsearched

/-- A pass whose searches all stay within the window does not notice it. -/
theorem runOnce_within {pageSize : Nat} {w : W}
    (h : forall index start request walk, Issues b pageSize w index start request walk ->
      request.offset + request.size ≤ window) :
    runOnce (within window refusal b) pageSize w = runOnce b pageSize w := by
  have hnames : (within window refusal b).indexer.indexNames = b.indexer.indexNames := rfl
  unfold runOnce
  rw [Action.state_bind_apply, Action.state_bind_apply, Action.outcome_apply,
    Action.outcome_apply, hnames]
  cases hrun : b.indexer.indexNames w with
  | mk answer v =>
      cases answer with
      | error failure => rfl
      | ok names =>
          exact reconcileIndices_within fun index start u request walk z hbegins hsearched =>
            h index start request walk ⟨names, v, u, z, hrun, hbegins, hsearched⟩

theorem Attempted.within {w v : W} {attempts : List Attempt}
    (h : Attempted b quiet w attempts v) :
    Attempted (Reconciler.within window refusal b) quiet w attempts v := by
  induction h with
  | done hquiet => exact Attempted.done hquiet
  | attempt hquiet hrun _ ih => exact Attempted.attempt hquiet hrun ih

theorem Passes.within (hs : Serves b catalog Eq ready) {pageSize : Nat} {report report' : Report}
    {w u : W} {scans : List Scan}
    (hpasses : Passes b catalog Eq pageSize report w scans report' u)
    (hw : Scannable catalog ready (scans.map Scan.index) w)
    (h : forall index start v request walk z,
      Begins b pageSize (scans.map Scan.index) report w index start v ->
      Searched b index (beginning pageSize start) v request walk z ->
      request.offset + request.size ≤ window) :
    Passes (Reconciler.within window refusal b) catalog Eq pageSize report w scans report' u := by
  induction hpasses with
  | done report w => exact Passes.done report w
  | @scan report report' w v u s walk rest hwalks hattempted hdocuments hreport _ ih =>
      have hrun := hw.reconcileIndex_eq hs hwalks
      have hlater := ih (hw.after hs hattempted hdocuments)
        fun index start v request walk z hbegins hsearched =>
          h index start v request walk z (Begins.later hrun hbegins) hsearched
      refine Passes.scan (hwalks.within ?_) hattempted.within hdocuments hreport hlater
      exact fun request walk z hsearched =>
        h s.index report.withIndex w request walk z (Begins.now ..) hsearched

end Within

/-!
# Passes over a catalog
-/

/--
In a pass over a catalog, every search begins among the documents of its index that have failed
by then, whatever the replicas answer.  So the pass makes the same attempts with the same
outcomes, and leaves and reports the same, if the indexer rejects searches beyond a window with
room for the failures of each index and one page.
-/
theorem runOnce_near_front (storage : Storage R) (pageSize : Nat) {c : Catalog}
    (hc : c.WellFormed) (hfits : c.size ≤ largestWord) (hall : allIndices ∉ c.indexNames)
    (r : R) :
    exists scans report after,
      Complete (beside storage) pageSize (c, r) scans report after ∧
      (forall index start request walk,
        Issues (beside storage) pageSize (c, r) index start request walk ->
        exists s, s ∈ scans ∧ s.index = index ∧
          exists attempts, Near pageSize s start request walk attempts) ∧
      forall window refusal,
        (forall s, s ∈ scans -> (failures s.attempts).length + max pageSize 1 ≤ window) ->
        Complete (within window refusal (beside storage)) pageSize (c, r) scans report after := by
  have hs := serves_beside storage
  rcases runOnce_complete storage pageSize hc hfits hall r with
    ⟨scans, report, after, hcomplete⟩
  have hscannable : Scannable Prod.fst (fun _ => True) (scans.map Scan.index) (c, r) := by
    rw [hcomplete.indices]
    exact ⟨trivial, hc, fun _ hindex => hindex, hall, hfits⟩
  have hnear : forall {index start v request walk z},
      Begins (beside storage) pageSize (scans.map Scan.index) .zero (c, r) index start v ->
      Searched (beside storage) index (beginning pageSize start) v request walk z ->
      exists s, s ∈ scans ∧ s.index = index ∧
        exists attempts, Near pageSize s start request walk attempts :=
    fun hbegins hsearched => hcomplete.passes.near hs hscannable hbegins hsearched
  have hissued : forall {index start request walk},
      Issues (beside storage) pageSize (c, r) index start request walk ->
      exists s, s ∈ scans ∧ s.index = index ∧
        exists attempts, Near pageSize s start request walk attempts := by
    intro index start request walk hissues
    rcases hissues with ⟨names, v, u, z, hnames, hbegins, hsearched⟩
    have hall : (Except.ok c.indexNames, (c, r)) = (Except.ok names, v) := hnames
    cases hall
    rw [← hcomplete.indices] at hbegins
    exact hnear hbegins hsearched
  refine ⟨scans, report, after, hcomplete, fun _ _ _ _ => hissued, ?_⟩
  intro window refusal hwindow
  refine { hcomplete with ran := ?_, passes := ?_ }
  · rw [runOnce_within]
    · exact hcomplete.ran
    · intro index start request walk hissues
      rcases hissued hissues with ⟨s, hmem, -, attempts, hsearch⟩
      exact hsearch.fits (hwindow s hmem)
  · apply hcomplete.passes.within hs hscannable
    intro index start v request walk z hbegins hsearched
    rcases hnear hbegins hsearched with ⟨s, hmem, -, attempts, hsearch⟩
    exact hsearch.fits (hwindow s hmem)

theorem length_failures_le {scans : List Scan} {s : Scan} (h : s ∈ scans) :
    (failures s.attempts).length ≤ (failures (attemptsOf scans)).length := by
  induction scans with
  | nil => cases h
  | cons first rest ih =>
      rw [attemptsOf_cons, failures_append, List.length_append]
      rcases List.mem_cons.mp h with rfl | hrest
      · exact Nat.le_add_right _ _
      · exact Nat.le_trans (ih hrest) (Nat.le_add_left _ _)

theorem runOnce_near_front_files :
    exists scans report after,
      Complete (beside (Depot.storage ["first", "second"])) 1 (waitingFiles, moodyReplicas)
        scans report after ∧
      report.failed = 2 ∧
      (exists s, s ∈ scans ∧ s.index = "files" ∧
        exists attempts, Near 1 s (Report.zero.withIndex) ⟨0, 1, none, .ascending⟩
          ⟨[], Report.zero.withIndex⟩ attempts) ∧
      forall refusal,
        Complete (within 3 refusal (beside (Depot.storage ["first", "second"]))) 1
          (waitingFiles, moodyReplicas) scans report after := by
  rcases runOnce_near_front (Depot.storage ["first", "second"]) 1 (c := waitingFiles) (by decide)
      (by decide) (by decide) moodyReplicas with
    ⟨scans, report, after, hcomplete, hnear, hwindow⟩
  have hfailed : report.failed = 2 := by
    have hran : (runOnce (beside (Depot.storage ["first", "second"])) 1
        (waitingFiles, moodyReplicas)).1.failed = 2 := by
      decide +kernel
    rw [hcomplete.ran] at hran
    exact hran
  refine ⟨scans, report, after, hcomplete, hfailed, ?_, ?_⟩
  · apply hnear
    exact ⟨["files"], _, _, _, rfl, Begins.now .., Searched.now ..⟩
  · intro refusal
    apply hwindow
    intro s hmem
    have hfailures : (failures s.attempts).length ≤ report.failed := by
      rw [hcomplete.passes.report_eq]
      exact Nat.le_trans (length_failures_le hmem) (Nat.le_add_left _ _)
    omega

end Reconciler
end ContentGateway
