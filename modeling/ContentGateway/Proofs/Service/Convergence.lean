import ContentGateway.Proofs.Reconciler.Pass
import ContentGateway.Proofs.Service.Runs

/-!
# Passes converge

Replicas that fail only so often are used up by the attempts of the reconciler.  Every
attempt asks every replica for a pin, also after one has failed, so an attempt for a
content costs each replica one of the failures that it has left for that content.  A pass
attempts every document that waits, and so the number of failures left for the content of
a waiting document goes down with every pass.
-/

namespace ContentGateway

/-!
# Failures that are left
-/

namespace Replica

def failedPins (r : Replica) (contentId : String) : Nat :=
  (Table.get? r.failed contentId).getD 0

/-- A pin costs one of the failures that are left for its content, and none of any other. -/
theorem failedPins_pin {r : Replica} (h : r.refused = []) (contentId other : String) :
    (r.pin contentId).2.failedPins other =
      if contentId = other ∧ r.failedPins contentId < r.failures then r.failedPins other + 1
      else r.failedPins other := by
  have hwilling : ¬ r.refused.contains contentId = true := by
    rw [h]
    simp
  unfold pin failedPins
  simp only [if_neg hwilling]
  by_cases hfails : (Table.get? r.failed contentId).getD 0 < r.failures
  · rw [if_pos hfails]
    simp only [Table.get?_insert]
    by_cases hsame : contentId = other
    · subst hsame
      simp [hfails]
    · simp [hsame]
  · rw [if_neg hfails, if_neg fun hboth => hfails hboth.2]

theorem isOk_pin_iff {r : Replica} (h : r.refused = []) (contentId : String) :
    (r.pin contentId).1.isOk = true ↔ r.failures ≤ r.failedPins contentId := by
  have hwilling : ¬ r.refused.contains contentId = true := by
    rw [h]
    simp
  unfold pin failedPins
  simp only [if_neg hwilling]
  split
  · next hfails =>
      constructor
      · intro hok
        cases hok
      · intro hle
        exact absurd hfails (Nat.not_lt.mpr hle)
  · next hfails =>
      constructor
      · intro _
        exact Nat.not_lt.mp hfails
      · intro _
        rfl

end Replica

namespace Service

/-- Every replica fails at most so many more pins of a content. -/
def FailsAtMost (n : Nat) (contentId : String) (d : Depot) : Prop :=
  forall r, r ∈ d.replicas -> r.failures ≤ r.failedPins contentId + n

/-- A depot in which no call is made to fail and no replica refuses any content. -/
structure Calm (names : List String) (d : Depot) : Prop extends Truthful names d where
  faultless : d.faults = []
  willing : forall r, r ∈ d.replicas -> r.refused = []
  fits : d.catalog.size ≤ largestWord
  /-- No index has the name that stands for all of them. -/
  ordinary : allIndices ∉ d.catalog.indexNames

section

variable {names : List String} {d : Depot}

theorem mem_pinned (hfaults : d.faults = []) {contentId : String} {r' : Replica}
    (h : r' ∈ (pinned d contentId).replicas) :
    exists r, r ∈ d.replicas ∧ r' = (r.pin contentId).2 := by
  rcases Depot.mem_asked h with ⟨r, hr, rfl⟩
  rw [hfaults, answer_of_no_faults]
  exact ⟨r, hr, rfl⟩

theorem replicas_replicated (d : Depot) (job : Replication) :
    (replicated d job).replicas = (pinned d job.contentId).replicas := by
  unfold replicated
  split
  · rfl
  · rfl

theorem FailsAtMost.replicated {n : Nat} {contentId : String} (h : FailsAtMost n contentId d)
    (hd : Calm names d) (job : Replication) :
    FailsAtMost n contentId (Service.replicated d job) := by
  intro r' hr'
  rw [replicas_replicated] at hr'
  rcases mem_pinned hd.faultless hr' with ⟨r, hr, rfl⟩
  have hold := h r hr
  have hsame : (r.pin job.contentId).2.failures = r.failures := by rw [r.snd_pin]
  rw [hsame, Replica.failedPins_pin (hd.willing r hr)]
  split
  · omega
  · omega

theorem FailsAtMost.replicated_self {n : Nat} {job : Replication}
    (h : FailsAtMost (n + 1) job.contentId d) (hd : Calm names d) :
    FailsAtMost n job.contentId (Service.replicated d job) := by
  intro r' hr'
  rw [replicas_replicated] at hr'
  rcases mem_pinned hd.faultless hr' with ⟨r, hr, rfl⟩
  have hold := h r hr
  have hsame : (r.pin job.contentId).2.failures = r.failures := by rw [r.snd_pin]
  rw [hsame, Replica.failedPins_pin (hd.willing r hr)]
  split
  · omega
  · next hspent =>
      have hdone : ¬ r.failedPins job.contentId < r.failures := fun hlt => hspent ⟨rfl, hlt⟩
      omega

theorem FailsAtMost.allPinned {contentId : String} (h : FailsAtMost 0 contentId d)
    (hd : Calm names d) : allPinned d contentId = true := by
  unfold Service.allPinned
  rw [hd.faultless, List.all_eq_true]
  intro r hr
  rw [answer_of_no_faults, Replica.isOk_pin_iff (hd.willing r hr)]
  exact h r hr

/-!
# Attempts
-/

theorem Calm.journaled (h : Calm names d) (calls : List String) : Calm names (d.journaled calls) :=
  ⟨h.toTruthful.journaled calls, h.faultless, h.willing, h.fits, h.ordinary⟩

theorem Calm.replicated (h : Calm names d) {job : Replication} (hjob : Truthful.Pending job d) :
    Calm names (Service.replicated d job) := by
  have htruthful := h.toTruthful.replicated hjob
  refine ⟨htruthful, ?_, ?_, ?_, ?_⟩
  · unfold Service.replicated
    split
    · exact h.faultless
    · exact h.faultless
  · intro r' hr'
    rw [replicas_replicated] at hr'
    rcases mem_pinned h.faultless hr' with ⟨r, hr, rfl⟩
    rw [r.snd_pin]
    exact h.willing r hr
  · unfold Service.replicated
    split
    · show (d.catalog.flag _ _ true).size ≤ largestWord
      rw [h.wellFormed.size_flag]
      exact h.fits
    · exact h.fits
  · unfold Service.replicated
    split
    · show allIndices ∉ (d.catalog.flag _ _ true).indexNames
      rw [h.wellFormed.indexNames_flag]
      exact h.ordinary
    · exact h.ordinary

theorem Calm.reconcile (h : Calm names d) {m : Metadata} (hm : Truthful.Known m d) :
    exists contentId, m.contentId = some contentId ∧
      Truthful.Pending ⟨m.index, m.id, contentId⟩ d ∧
      Reconciler.reconcile (Depot.backends names) m d =
        (allPinned d contentId, Service.replicated d ⟨m.index, m.id, contentId⟩) := by
  rcases hm with ⟨document, hdocument, hsame⟩
  rcases (h.supported hdocument).described.contentOf with ⟨contentId, hcontent⟩
  have hknown : m.contentId = some contentId := hsame.symm.trans hcontent
  refine ⟨contentId, hknown, ⟨document, hdocument, hcontent⟩, ?_⟩
  have hpin : pinEverywhere (Depot.backends names).storage.replicas contentId d =
      (allPinned d contentId, pinned d contentId) := by
    rw [← h.names]
    exact Depot.pinEverywhere_apply d contentId
  have hworld := replicate_apply h.ready ⟨m.index, m.id, contentId⟩
  rw [h.names] at hworld
  have hsecond : (Reconciler.reconcile (Depot.backends names) m d).2 =
      Service.replicated d ⟨m.index, m.id, contentId⟩ := by
    rw [reconcile_world d names hknown, hworld]
  refine Prod.ext ?_ hsecond
  rw [Reconciler.reconcile_of_content _ hknown, hpin]
  cases allPinned d contentId with
  | false => rfl
  | true =>
      have hready : (pinned d contentId).Ready := h.ready.congr rfl rfl
      have hlook : (pinned d contentId).catalog.document? (lowerCase m.index) m.id =
          some document := hdocument
      simp only
      rw [Depot.backends_indexer, Depot.setField_apply hready.setField, Catalog.setField_pinnedKey, hlook]
      rfl

open Reconciler in
/-- What a sequence of attempts brings about, for each content that is attempted. -/
structure Progress (names : List String) (d : Depot) (attempts : List Attempt) (d' : Depot) :
    Prop where
  calm : Calm names d'
  atMost : forall {n contentId}, FailsAtMost n contentId d -> FailsAtMost n contentId d'
  fewer : forall {a contentId}, a ∈ attempts -> a.document.contentId = some contentId ->
    forall {n}, FailsAtMost (n + 1) contentId d -> FailsAtMost n contentId d'
  succeeds : forall {a contentId}, a ∈ attempts -> a.document.contentId = some contentId ->
    FailsAtMost 0 contentId d -> a.succeeded = true

theorem FailsAtMost.journaled {n : Nat} {contentId : String} (h : FailsAtMost n contentId d)
    (calls : List String) : FailsAtMost n contentId (d.journaled calls) := h

theorem Calm.progress {d d' : Depot} {attempts : List Reconciler.Attempt} (h : Calm names d)
    (hattempted : Reconciler.Attempted (Depot.backends names) Depot.Quiet d attempts d')
    (hknown : forall a, a ∈ attempts -> Truthful.Known a.document d) :
    Progress names d attempts d' := by
  -- attempts for other contents may come before and after, and they cost this one nothing
  induction hattempted with
  | done hquiet =>
      rcases hquiet with ⟨calls, rfl⟩
      refine ⟨h.journaled calls, fun hn => hn, ?_, ?_⟩
      · intro a contentId ha
        cases ha
      · intro a contentId ha
        cases ha
  | @attempt d _ _ _ a rest hquiet hrun _ ih =>
      rcases hquiet with ⟨calls, rfl⟩
      have hcalm := h.journaled calls
      rcases hcalm.reconcile (hknown a (List.mem_cons_self ..)) with
        ⟨contentId, hcontent, hjob, hreconcile⟩
      rw [hrun] at hreconcile
      rcases Prod.mk.inj hreconcile with ⟨hsucceeded, rfl⟩
      have hknown' : forall a', a' ∈ rest -> Truthful.Known a'.document
          (Service.replicated (d.journaled calls)
            ⟨a.document.index, a.document.id, contentId⟩) := by
        intro a' ha'
        have hbefore : Truthful.Known a'.document (d.journaled calls) :=
          hknown a' (List.mem_cons_of_mem _ ha')
        exact Truthful.known_replicated hbefore _
      have hrest := ih (hcalm.replicated hjob) hknown'
      refine ⟨hrest.calm, ?_, ?_, ?_⟩
      · intro n other hn
        exact hrest.atMost ((hn.journaled calls).replicated hcalm _)
      · intro a' other ha' hother n hn
        rcases List.mem_cons.mp ha' with rfl | ha'
        · rw [hcontent] at hother
          cases hother
          exact hrest.atMost ((hn.journaled calls).replicated_self hcalm)
        · exact hrest.fewer ha' hother ((hn.journaled calls).replicated hcalm _)
      · intro a' other ha' hother hn
        rcases List.mem_cons.mp ha' with rfl | ha'
        · rw [hcontent] at hother
          cases hother
          rw [hsucceeded]
          exact (hn.journaled calls).allPinned hcalm
        · exact hrest.succeeds ha' hother ((hn.journaled calls).replicated hcalm _)

/-!
# Passes
-/

def Waits (d : Depot) (index id : String) (document : Fields) : Prop :=
  d.catalog.document? index id = some document ∧
    Table.get? document pinnedKey ≠ some (.bool true)

structure Passed (names : List String) (d : Depot) (attempts : List Reconciler.Attempt)
    (outcome : Reconciler.Report × Depot) : Prop where
  progress : Progress names d attempts outcome.2
  scanned : outcome.1.scanned = attempts.length
  /-- Every document that waits is attempted. -/
  waiting : forall {index id document}, Waits d index id document ->
    exists a, a ∈ attempts ∧ a.document = Metadata.ofDocument index id document
  /-- No other document is attempted. -/
  attempted : forall {a}, a ∈ attempts ->
    exists document, Waits d a.document.index a.document.id document
  documents : forall index id, outcome.2.catalog.document? index id =
    if Reconciler.pinnedAt attempts index id then (d.catalog.document? index id).map (flagged true)
    else d.catalog.document? index id

theorem get?_pinned_of_not_true {replicas : List Replica} {document : Fields}
    (h : Supported replicas document) (hwaits : Table.get? document pinnedKey ≠ some (.bool true)) :
    Table.get? document pinnedKey = some (.bool false) := by
  rcases h.described.pinned with ⟨pinned, hpinned⟩
  cases pinned with
  | false => exact hpinned
  | true => exact absurd hpinned hwaits

theorem Calm.mem_unpinned_iff (h : Calm names d) {index : String} {m : Metadata} :
    m ∈ Reconciler.unpinned d.catalog index ↔
      m.index = index ∧ exists document, Waits d m.index m.id document ∧
        m = Metadata.ofDocument m.index m.id document := by
  constructor
  · intro hm
    rcases h.wellFormed.mem_found hm with ⟨document, hdocument, hholds, hknown⟩
    refine ⟨Catalog.index_of_mem_found_some hm, document, ⟨hdocument, ?_⟩, hknown⟩
    intro hpinned
    unfold Reconciler.unpinnedQuery at hholds
    rw [Query.holds_equals, hpinned, Option.any_some, Json.termEq_bool] at hholds
    cases hholds
  · rintro ⟨rfl, document, ⟨hdocument, hwaits⟩, hknown⟩
    rw [hknown]
    apply h.wellFormed.mem_found_some_of_document? hdocument
    exact Reconciler.holds_unpinned_of_false
      (get?_pinned_of_not_true (h.supported hdocument) hwaits)

theorem Calm.pass (h : Calm names d) (pageSize : Nat) :
    exists attempts,
      Passed names d attempts (Reconciler.runOnce (Depot.backends names) pageSize d) := by
  have hnames : (Depot.backends names).indexer.indexNames d =
      (.ok d.catalog.indexNames, d.journaled ["indexer.get_indexes"]) := by
    rw [Depot.backends_indexer, Depot.indexNames_apply, fault_of_no_faults h.faultless]
  rcases (Depot.serves_backends names).runOnce ⟨h.ready, h.names⟩ hnames ⟨_, rfl⟩ h.wellFormed
      h.ordinary h.fits pageSize with
    ⟨scans, report, d', hrun, hpasses, hindices, hwaiting, _, hcatalog, _⟩
  have hfound : forall a, a ∈ Reconciler.attemptsOf scans ->
      exists index, a.document ∈ Reconciler.unpinned d.catalog index := by
    intro a ha
    rcases List.mem_flatMap.mp ha with ⟨s, hs, ha⟩
    refine ⟨s.index, ?_⟩
    rw [← hwaiting s hs]
    exact List.mem_map_of_mem ha
  -- a search shows the names of indices in lower case, as they are kept
  have hknown : forall a, a ∈ Reconciler.attemptsOf scans -> Truthful.Known a.document d := by
    intro a ha
    rcases hfound a ha with ⟨index, hmem⟩
    rcases h.mem_unpinned_iff.mp hmem with ⟨_, document, ⟨hdocument, _⟩, hsame⟩
    refine ⟨document, ?_, ?_⟩
    · rw [h.wellFormed.lowerCase_name (Catalog.mem_indexNames_of_document? hdocument)]
      exact hdocument
    · rw [hsame]
      rfl
  have hattempted := hpasses.attempted (Depot.serves_backends names)
  refine ⟨Reconciler.attemptsOf scans, ?_⟩
  rw [hrun]
  constructor
  · exact h.progress (hattempted.after_quiet (Depot.serves_backends names) ⟨_, rfl⟩) hknown
  · show report.scanned = _
    rw [hpasses.report_eq]
    exact Nat.zero_add _
  · intro index id document hwaits
    have hindex : index ∈ scans.map Reconciler.Scan.index := by
      rw [hindices]
      exact Catalog.mem_indexNames_of_document? hwaits.1
    rcases List.mem_map.mp hindex with ⟨s, hs, rfl⟩
    have hmem : Metadata.ofDocument s.index id document ∈ Reconciler.unpinned d.catalog s.index :=
      h.mem_unpinned_iff.mpr ⟨rfl, document, hwaits, rfl⟩
    rw [← hwaiting s hs] at hmem
    rcases List.mem_map.mp hmem with ⟨a, ha, hdocument⟩
    exact ⟨a, List.mem_flatMap.mpr ⟨s, hs, ha⟩, hdocument⟩
  · intro a ha
    rcases hfound a ha with ⟨index, hmem⟩
    rcases h.mem_unpinned_iff.mp hmem with ⟨_, document, hwaits, _⟩
    exact ⟨document, hwaits⟩
  · intro index id
    show d'.catalog.document? index id = _
    rw [hcatalog]
    exact Reconciler.document?_afterAttempts _ _ index id

namespace Passed

variable {attempts : List Reconciler.Attempt} {outcome : Reconciler.Report × Depot}
  {index id contentId : String} {document : Fields}

theorem failed_of_waits (h : Passed names d attempts outcome)
    (hwaits : Waits outcome.2 index id document) :
    Waits d index id document ∧ exists a, a ∈ attempts ∧
      a.document = Metadata.ofDocument index id document ∧ a.succeeded = false := by
  rcases hwaits with ⟨hdocument, hflag⟩
  rw [h.documents] at hdocument
  cases hpinned : Reconciler.pinnedAt attempts index id with
  | true =>
      -- then the flag is set, and the document does not wait
      rw [hpinned, if_pos rfl] at hdocument
      rcases Option.map_eq_some_iff.mp hdocument with ⟨old, _, rfl⟩
      rw [get?_flagged, if_pos rfl] at hflag
      exact absurd rfl hflag
  | false =>
      rw [hpinned] at hdocument
      have hbefore : Waits d index id document := ⟨hdocument, hflag⟩
      rcases h.waiting hbefore with ⟨a, ha, hsame⟩
      refine ⟨hbefore, a, ha, hsame, ?_⟩
      have hplace : a.document.index = index ∧ a.document.id = id := by
        rw [hsame]
        exact ⟨rfl, rfl⟩
      unfold Reconciler.pinnedAt at hpinned
      rw [List.any_eq_false] at hpinned
      simpa [hplace] using hpinned a ha

theorem map_contentOf (h : Passed names d attempts outcome) (index id : String) :
    (outcome.2.catalog.document? index id).map contentOf =
      (d.catalog.document? index id).map contentOf := by
  rw [h.documents]
  split
  · rw [Option.map_map]
    congr 1
    funext document
    exact contentOf_flagged true document
  · rfl

end Passed

/-!
# Convergence
-/

/-- Every replica fails at most so many more pins of the content of a document that waits. -/
def Within (n : Nat) (d : Depot) : Prop :=
  forall {index id contentId document}, Waits d index id document ->
    contentOf document = some contentId -> FailsAtMost n contentId d

def Settled (d : Depot) : Prop :=
  forall {index id document}, ¬ Waits d index id document

namespace Passed

variable {attempts : List Reconciler.Attempt} {outcome : Reconciler.Report × Depot}

theorem within (h : Passed names d attempts outcome) {n : Nat} (hwithin : Within (n + 1) d) :
    Within n outcome.2 := by
  intro index id contentId document hwaits hcontent
  rcases h.failed_of_waits hwaits with ⟨hbefore, a, ha, hsame, _⟩
  have hattempt : a.document.contentId = some contentId := by
    rw [hsame]
    exact hcontent
  exact h.progress.fewer ha hattempt (hwithin hbefore hcontent)

theorem settled (h : Passed names d attempts outcome) (hd : Calm names d) (hwithin : Within 0 d) :
    Settled outcome.2 := by
  intro index id document hwaits
  rcases h.failed_of_waits hwaits with ⟨hbefore, a, ha, hsame, hfailed⟩
  rcases (hd.supported hbefore.1).described.contentOf with ⟨contentId, hcontent⟩
  have hattempt : a.document.contentId = some contentId := by
    rw [hsame]
    exact hcontent
  rw [h.progress.succeeds ha hattempt (hwithin hbefore hcontent)] at hfailed
  cases hfailed

theorem attempts_eq_nil (h : Passed names d attempts outcome) (hsettled : Settled d) :
    attempts = [] := by
  cases attempts with
  | nil => rfl
  | cons a rest =>
      rcases h.attempted (List.mem_cons_self ..) with ⟨document, hwaits⟩
      exact absurd hwaits hsettled

theorem settled_of_settled (h : Passed names d attempts outcome) (hsettled : Settled d) :
    Settled outcome.2 := by
  intro index id document hwaits
  exact hsettled (h.failed_of_waits hwaits).1

end Passed

end

def passReport (pageSize : Nat) (d : Depot) : Reconciler.Report :=
  (Reconciler.runOnce (Depot.backends d.replicaNames) pageSize d).1

def passes (pageSize : Nat) : Nat -> Depot -> Depot
  | 0, d => d
  | n + 1, d => passes pageSize n (perform (.reconcile pageSize) d)

section

variable {names : List String} {d : Depot}

theorem Calm.perform (h : Calm names d) (pageSize : Nat) :
    exists attempts,
      Passed names d attempts (passReport pageSize d, perform (.reconcile pageSize) d) := by
  have hpass := h.pass pageSize
  rw [← h.names] at hpass ⊢
  exact hpass

theorem Calm.passes (h : Calm names d) (pageSize n : Nat) :
    Calm names (Service.passes pageSize n d) ∧
      forall index id, ((Service.passes pageSize n d).catalog.document? index id).map contentOf =
        (d.catalog.document? index id).map contentOf := by
  induction n generalizing d with
  | zero => exact ⟨h, fun _ _ => rfl⟩
  | succ n ih =>
      rcases h.perform pageSize with ⟨attempts, hpass⟩
      rcases ih hpass.progress.calm with ⟨hcalm, hsame⟩
      refine ⟨hcalm, ?_⟩
      intro index id
      exact (hsame index id).trans (hpass.map_contentOf index id)

theorem Settled.passes (h : Settled d) (hd : Calm names d) (pageSize n : Nat) :
    Settled (Service.passes pageSize n d) := by
  induction n generalizing d with
  | zero => exact h
  | succ n ih =>
      rcases hd.perform pageSize with ⟨attempts, hpass⟩
      exact ih (hpass.settled_of_settled h) hpass.progress.calm

/-- Every pass uses up one failure for the content of each document that waits. -/
theorem Within.settled {n : Nat} (h : Within n d) (hd : Calm names d) (pageSize : Nat) :
    Settled (Service.passes pageSize (n + 1) d) := by
  induction n generalizing d with
  | zero =>
      rcases hd.perform pageSize with ⟨attempts, hpass⟩
      exact hpass.settled hd h
  | succ n ih =>
      rcases hd.perform pageSize with ⟨attempts, hpass⟩
      exact ih (hpass.within h) hpass.progress.calm

end

/--
Passes converge: where no replica refuses content, and each fails at most `k` more pins of
any content, `k + 1` passes pin every document everywhere, and further passes find nothing.
-/
theorem Reached.converges {replicas : List Replica} {d : Depot} (h : Reached replicas d)
    (hfaults : d.faults = []) (hall : allIndices ∉ d.catalog.indexNames)
    (hwilling : forall r, r ∈ d.replicas -> r.refused = []) {k : Nat}
    (hlimited : forall r, r ∈ d.replicas ->
      forall contentId, r.failures ≤ r.failedPins contentId + k) (pageSize : Nat) :
    (forall index id, ((passes pageSize (k + 1) d).catalog.document? index id).map contentOf =
      (d.catalog.document? index id).map contentOf) ∧
    (forall index id document,
      (passes pageSize (k + 1) d).catalog.document? index id = some document ->
        Table.get? document pinnedKey = some (.bool true) ∧
        exists contentId, contentOf document = some contentId ∧
          forall r, r ∈ (passes pageSize (k + 1) d).replicas -> r.tracks contentId = true) ∧
    (forall further,
      (passReport pageSize (passes pageSize further (passes pageSize (k + 1) d))).scanned = 0) := by
  have hcalm : Calm d.replicaNames d := ⟨h.truthful, hfaults, hwilling, h.fits, hall⟩
  have hwithin : Within k d := fun _ _ r hr => hlimited r hr _
  have hsettled : Settled (passes pageSize (k + 1) d) := hwithin.settled hcalm pageSize
  rcases hcalm.passes pageSize (k + 1) with ⟨hcalm', hsame⟩
  refine ⟨hsame, ?_, ?_⟩
  · intro index id document hdocument
    have hsupported := hcalm'.supported hdocument
    have hpinned : Table.get? document pinnedKey = some (.bool true) :=
      Classical.not_not.mp fun hflag => hsettled ⟨hdocument, hflag⟩
    rcases hsupported.described.contentOf with ⟨contentId, hcontent⟩
    exact ⟨hpinned, contentId, hcontent, hsupported.tracked hpinned hcontent⟩
  · intro further
    rcases hcalm'.passes pageSize further with ⟨hcalm'', _⟩
    rcases hcalm''.perform pageSize with ⟨attempts, hpass⟩
    have hnone := hpass.attempts_eq_nil (hsettled.passes hcalm' pageSize further)
    rw [hnone] at hpass
    exact hpass.scanned

def flakyFiles : Depot :=
  perform (.index (.reference ⟨"files", some "2", none, []⟩ "b"))
    (perform (.index (.reference ⟨"files", some "1", none, []⟩ "a"))
      (perform (.createIndex "files" none) (Depot.ofReplicas moodyPair)))

theorem reached_flakyFiles : Reached moodyPair flakyFiles := by
  unfold flakyFiles
  refine Reached.step (Reached.step (Reached.step Reached.start trivial ?_) trivial ?_) trivial ?_
  · decide +kernel
  · decide +kernel
  · decide +kernel

theorem converges_flakyFiles :
    ((passes 1 2 flakyFiles).catalog.document? "files" "1").map contentOf = some (some "a") ∧
      (forall index id document,
        (passes 1 2 flakyFiles).catalog.document? index id = some document ->
          Table.get? document pinnedKey = some (.bool true) ∧
          exists contentId, contentOf document = some contentId ∧
            forall r, r ∈ (passes 1 2 flakyFiles).replicas -> r.tracks contentId = true) ∧
      forall further, (passReport 1 (passes 1 further (passes 1 2 flakyFiles))).scanned = 0 := by
  have hwilling : forall r, r ∈ flakyFiles.replicas -> r.refused = [] := by
    decide +kernel
  have hfew : forall r, r ∈ flakyFiles.replicas -> r.failures ≤ 1 := by
    decide +kernel
  have hlimited : forall r, r ∈ flakyFiles.replicas ->
      forall contentId, r.failures ≤ r.failedPins contentId + 1 :=
    fun r hr contentId => Nat.le_trans (hfew r hr) (Nat.le_add_left ..)
  have hall : allIndices ∉ flakyFiles.catalog.indexNames := by
    decide +kernel
  rcases Reached.converges reached_flakyFiles rfl hall hwilling hlimited 1 with
    ⟨hsame, hpinned, hnone⟩
  refine ⟨?_, hpinned, hnone⟩
  rw [hsame]
  rfl

end Service
end ContentGateway
