import ContentGateway.Catalog.Indexer
import ContentGateway.Depot
import ContentGateway.Proofs.Reconciler.Pass

/-!
# A pass is complete

A catalog beside any other world: the storage there may answer every pin as it likes, and
may remember all calls that were made to it.  A pass ends, it attempts every waiting
document exactly once, and its report and the flags say what came of the attempts.
-/

namespace ContentGateway

variable {A B R α : Type}

/-!
# Two worlds side by side
-/

def onFirst (call : StateM A α) : StateM (A × B) α :=
  fun w => ((call w.1).1, ((call w.1).2, w.2))

def onSecond (call : StateM B α) : StateM (A × B) α :=
  fun w => ((call w.2).1, (w.1, (call w.2).2))

namespace Reconciler

/-- A catalog as the indexer beside a storage of another world. -/
def beside (storage : Storage R) : Backends (Catalog × R) :=
  ⟨Storage.lift onSecond storage, Indexer.lift onFirst Catalog.indexer⟩

theorem serves_beside (storage : Storage R) :
    Serves (beside storage) Prod.fst Eq (fun _ => True) where
  refl _ := rfl
  trans h h' := h.trans h'
  catalog_of_quiet h := by rw [h]
  ready_of_quiet _ _ := trivial
  search := by
    intro w _ index query request
    refine ⟨w, ?_, rfl⟩
    show onFirst (Catalog.indexer.search index query request) w = _
    unfold onFirst Catalog.indexer Catalog.call
    cases hsearch : w.1.search index query request with
    | error failure => simp [hsearch, Except.map]
    | ok page => simp [hsearch, Except.map]
  setField := by
    intro w _ index id key value
    refine ⟨(((w.1.setField index id key value).toOption).getD w.1, w.2), ?_, rfl, trivial⟩
    show onFirst (Catalog.indexer.setField index id key value) w = _
    unfold onFirst Catalog.indexer Catalog.call
    cases hset : w.1.setField index id key value with
    | error failure => simp [hset, Except.map, Except.toOption]
    | ok changed => simp [hset, Except.map, Except.toOption]
  pin := by
    intro w _ target htarget id
    rcases List.mem_map.mp htarget with ⟨inner, _, rfl⟩
    exact ⟨_, _, rfl, rfl, trivial⟩

/-!
# What the replicas are asked
-/

/--
Every replica is asked once for the content of each attempt, in turn, and an attempt succeeds
exactly if all of them have pinned it.
-/
inductive Asked (targets : List (PinTarget (Catalog × R))) : R -> List Attempt -> R -> Prop where
  | done (r : R) : Asked targets r [] r
  | contentless {r r' : R} {a : Attempt} {rest : List Attempt} :
      a.document.contentId = none ->
      a.succeeded = false ->
      Asked targets r rest r' ->
      Asked targets r (a :: rest) r'
  | pinned {r v r' : R} {a : Attempt} {rest : List Attempt} {contentId : String} :
      a.document.contentId = some contentId ->
      (forall c, pinEverywhere targets contentId (c, r) = (a.succeeded, (c, v))) ->
      Asked targets v rest r' ->
      Asked targets r (a :: rest) r'

theorem pinEverywhere_beside (storage : Storage R) (id : String) (c : Catalog) (r : R) :
    pinEverywhere (beside storage).storage.replicas id (c, r) =
      ((pinEverywhere storage.replicas id r).1, (c, (pinEverywhere storage.replicas id r).2)) := by
  show pinEverywhere (storage.replicas.map (PinTarget.lift onSecond)) id (c, r) = _
  induction storage.replicas generalizing r with
  | nil => rfl
  | cons target rest ih =>
      rw [List.map_cons, pinEverywhere_cons, pinEverywhere_cons]
      have hpin : (PinTarget.lift onSecond target).pin id (c, r) =
          ((target.pin id r).1, (c, (target.pin id r).2)) := rfl
      rw [hpin, ih]

theorem isSome_document?_apply (c : Catalog) (a : Attempt) (index id : String) :
    ((a.apply c).document? index id).isSome = (c.document? index id).isSome := by
  unfold Attempt.apply
  split
  · rw [Catalog.document?_flag]
    split
    · exact Option.isSome_map
    · rfl
  · rfl

/-- Where the document is there, nothing but the replicas decides about an attempt. -/
theorem reconcile_beside (storage : Storage R) {m : Metadata} {contentId : String}
    (hcontent : m.contentId = some contentId) (hlower : lowerCase m.index = m.index)
    {c : Catalog} (hthere : (c.document? m.index m.id).isSome = true) (r : R) :
    (reconcile (beside storage) m (c, r)).1 = (pinEverywhere storage.replicas contentId r).1 ∧
      (reconcile (beside storage) m (c, r)).2.2 =
        (pinEverywhere storage.replicas contentId r).2 := by
  rw [reconcile_of_content _ hcontent, pinEverywhere_beside]
  cases pinEverywhere storage.replicas contentId r with
  | mk pinned r' =>
      cases pinned with
      | false => exact ⟨rfl, rfl⟩
      | true =>
          rcases (serves_beside storage).flag (w := (c, r')) trivial m.index m.id true
            with ⟨v, hset, _⟩
          rw [hlower] at hset
          exact ⟨(congrArg Prod.fst hset).trans hthere, rfl⟩

theorem asked_of_attempted {storage : Storage R} {w u : Catalog × R} {attempts : List Attempt}
    (h : Attempted (beside storage) Eq w attempts u)
    (hlower : forall a, a ∈ attempts -> lowerCase a.document.index = a.document.index)
    (hthere : forall a, a ∈ attempts ->
      (w.1.document? a.document.index a.document.id).isSome = true) :
    Asked (beside storage).storage.replicas w.2 attempts u.2 := by
  induction h with
  | done hquiet =>
      cases hquiet
      exact .done _
  | @attempt w v u z a rest hquiet hrun _ ih =>
      cases hquiet
      rcases w with ⟨c, r⟩
      have hname := hlower a (List.mem_cons_self ..)
      rcases (serves_beside storage).reconcile (w := (c, r)) trivial hname
        with ⟨succeeded, u', hrun', hcatalog, _⟩
      rw [hrun] at hrun'
      cases hrun'
      -- flags take no document away, so what is there is there for the later attempts
      have hlater := ih (fun a' ha' => hlower a' (List.mem_cons_of_mem _ ha')) fun a' ha' => by
        rw [hcatalog, isSome_document?_apply]
        exact hthere a' (List.mem_cons_of_mem _ ha')
      cases hcontent : a.document.contentId with
      | none =>
          rw [reconcile_of_no_content _ hcontent] at hrun
          rcases Prod.mk.inj hrun with ⟨hsucceeded, rfl⟩
          exact .contentless hcontent hsucceeded.symm hlater
      | some contentId =>
          rcases reconcile_beside storage hcontent hname (hthere a (List.mem_cons_self ..)) r
            with ⟨hsucceeded, hafter⟩
          rw [hrun] at hsucceeded hafter
          simp only at hsucceeded hafter
          rw [hafter] at hlater
          refine .pinned hcontent (fun c' => ?_) hlater
          rw [pinEverywhere_beside, hsucceeded]

/-!
# Completeness
-/

/-- A pass that leads from one world to another, and what it did with each index. -/
structure Complete (b : Backends (Catalog × R)) (pageSize : Nat) (before : Catalog × R)
    (scans : List Scan) (report : Report) (after : Catalog × R) : Prop where
  ran : runOnce b pageSize before = (report, after)
  /-- Every index is searched until its walk has ended, and what waits there is attempted. -/
  passes : Passes b Prod.fst Eq pageSize .zero before scans report after
  indices : scans.map Scan.index = before.1.indexNames
  /-- No scan finds less or more because of the ones before it. -/
  waiting : forall s, s ∈ scans -> s.attempts.map Attempt.document = unpinned before.1 s.index
  /-- No document is attempted twice. -/
  once : Apart (attemptsOf scans)
  asked : Asked b.storage.replicas before.2 (attemptsOf scans) after.2
  counted : report.indices = before.1.indexNames.length
  scanned : report.scanned = (attemptsOf scans).length
  pinned : report.pinned = successes (attemptsOf scans)
  settled : report.pinned + report.failed = report.scanned
  indexNames : after.1.indexNames = before.1.indexNames
  /-- The flag is set where an attempt has succeeded, and nothing else has changed. -/
  documents : forall index id,
    after.1.document? index id =
      if pinnedAt (attemptsOf scans) index id then
        (before.1.document? index id).map (flagged true)
      else before.1.document? index id

/--
A pass over a catalog is complete, whatever the replicas answer.  Memory holds no more
documents than a machine word counts.
-/
theorem runOnce_complete (storage : Storage R) (pageSize : Nat) {c : Catalog}
    (hc : c.WellFormed) (hfits : c.size ≤ largestWord) (hall : allIndices ∉ c.indexNames)
    (r : R) :
    exists scans report after, Complete (beside storage) pageSize (c, r) scans report after := by
  have hs := serves_beside storage
  rcases hs.runOnce (w := (c, r)) trivial rfl rfl hc hall hfits pageSize with
    ⟨scans, report, after, hrun, hpasses, hindices, hwaiting, hapart, hcatalog, _⟩
  have hreport := hpasses.report_eq
  have hlength : scans.length = c.indexNames.length := by
    rw [← hindices, List.length_map]
  have hthere : forall a, a ∈ attemptsOf scans ->
      lowerCase a.document.index = a.document.index ∧
        (c.document? a.document.index a.document.id).isSome = true := by
    intro a ha
    rcases List.mem_flatMap.mp ha with ⟨s, hs, ha⟩
    have hmem : a.document ∈ c.found (some s.index) unpinnedQuery := by
      have hdocument := List.mem_map_of_mem (f := Attempt.document) ha
      rw [hwaiting s hs] at hdocument
      exact hdocument
    rcases hc.mem_found hmem with ⟨document, hdocument, _⟩
    exact ⟨hc.lowerCase_name (Catalog.mem_indexNames_of_document? hdocument), by
      rw [hdocument]
      rfl⟩
  refine ⟨scans, report, after, hrun, hpasses, hindices, hwaiting, hapart,
    asked_of_attempted (hpasses.attempted hs) (fun a ha => (hthere a ha).1)
      fun a ha => (hthere a ha).2, ?_, ?_, ?_, ?_, ?_, ?_⟩
  · rw [hreport, hlength]
    exact Nat.zero_add _
  · rw [hreport]
    exact Nat.zero_add _
  · rw [hreport]
    exact Nat.zero_add _
  · rw [hreport]
    have hbalance := length_failures_add_successes (attemptsOf scans)
    show (0 + _) + (0 + _) = 0 + _
    omega
  · rw [hcatalog]
    exact indexNames_afterAttempts hc _
  · intro index id
    rw [hcatalog]
    exact document?_afterAttempts c _ index id

def waitingFiles : Catalog :=
  ⟨[("files", ⟨none, [
    ("1", [(hashKey, .string "a"), (pinnedKey, .bool false)]),
    ("2", [(hashKey, .string "b"), (pinnedKey, .bool false)]),
    ("3", [(hashKey, .string "a"), (pinnedKey, .bool false)])]⟩)], 0⟩

def moodyReplicas : Depot :=
  Depot.ofReplicas [⟨"first", [], ["b"], 0, [], false⟩, ⟨"second", [], [], 1, [], false⟩]

theorem runOnce_complete_files :
    waitingFiles.WellFormed ∧ exists scans report after,
      Complete (beside (Depot.storage ["first", "second"])) 1 (waitingFiles, moodyReplicas)
        scans report after :=
  ⟨by decide, runOnce_complete (Depot.storage ["first", "second"]) 1 (by decide) (by decide)
    (by decide) moodyReplicas⟩

end Reconciler
end ContentGateway
