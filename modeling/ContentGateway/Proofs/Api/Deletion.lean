import ContentGateway.Proofs.Api.Runs
import ContentGateway.Proofs.Service.ContentLookup

/-!
# Removing by content

The removal of a document by its content is a look-up in the scope that the query names, and
then a removal under the id that was found.  In a single index both are about the first holder,
which goes.  With the name for all indices, the removal looks for the id in an index of that
name: the holder stays, and what has its id there goes instead.
-/

namespace ContentGateway
namespace Api

open Depot
open Catalog (Holder FirstHolder)
open Service (Removed)

/-!
# What is asked for and what comes of it
-/

/-- A request for the removal of a document that holds a content, in the scope of an index name. -/
structure Deletes (r : Request) (index contentId : String) : Prop where
  method : r.method = "DELETE"
  route : exists segment, Route.ofSegments? r.segments = some (.deleteByContent segment) ∧
    pathText segment = .ok contentId
  index : requiredIndex r = .ok index

/-- A document is gone, and nothing else has changed but flags of documents with its content. -/
def Loses (d : Depot) (index id : String) (document : Fields) (d' : Depot) : Prop :=
  d.catalog.document? (lowerCase index) id = some document ∧
    exists d₁ contentId, Quiet d d₁ ∧ contentOf document = some contentId ∧
      Removed d₁ index id contentId (.ok .ok, d')

theorem Loses.of_quiet {d v d' : Depot} {index id : String} {document : Fields}
    (hquiet : Quiet d v) (h : Loses v index id document d') : Loses d index id document d' := by
  rcases h with ⟨hdocument, d₁, contentId, hafter, hrest⟩
  refine ⟨?_, d₁, contentId, hquiet.trans hafter, hrest⟩
  rcases hquiet with ⟨calls, rfl⟩
  exact hdocument

/-- What comes of a removal by content: the status of the response, and the depot after it. -/
inductive Outcome (d : Depot) (index contentId : String) : Nat -> Depot -> Prop where
  /-- A blank content id is none. -/
  | unnamed {d' : Depot} :
      nonBlank (some contentId) = none ->
      Quiet d d' ->
      Outcome d index contentId 400 d'
  | absent {d' : Depot} :
      (forall i j document,
        ¬ Holder d.catalog (Catalog.scope (some index)) contentId i j document) ->
      Quiet d d' ->
      Outcome d index contentId 404 d'
  /-- The first holder has a blank id, under which nothing is removed. -/
  | unaddressed {i j : String} {document : Fields} {d' : Depot} :
      FirstHolder d.catalog (Catalog.scope (some index)) contentId i j document ->
      nonBlank (some j) = none ->
      Quiet d d' ->
      Outcome d index contentId 400 d'
  /-- The index that the query names has no document under the id of the first holder. -/
  | missed {i j : String} {document : Fields} {d' : Depot} :
      FirstHolder d.catalog (Catalog.scope (some index)) contentId i j document ->
      d.catalog.document? (lowerCase index) j = none ->
      Quiet d d' ->
      Outcome d index contentId 404 d'
  /-- The document with the id of the first holder in the index that the query names is gone. -/
  | removed {i j : String} {document other : Fields} {d' : Depot} :
      FirstHolder d.catalog (Catalog.scope (some index)) contentId i j document ->
      Loses d index j other d' ->
      Outcome d index contentId 200 d'

/-- The law of removals by content: one of the holders in scope goes, if there are any. -/
structure Lawful (d : Depot) (index contentId : String) (status : Nat) (d' : Depot) : Prop where
  present :
    (exists i j document,
      Holder d.catalog (Catalog.scope (some index)) contentId i j document) ->
    status = 200 ∧ exists name j document,
      Holder d.catalog (Catalog.scope (some index)) contentId (lowerCase name) j document ∧
        Loses d name j document d'
  absent :
    (forall i j document,
      ¬ Holder d.catalog (Catalog.scope (some index)) contentId i j document) ->
    status = 404 ∧ Quiet d d'

/-- In a single index the law holds, if the content and the first holder can be named. -/
theorem Outcome.lawful {d d' : Depot} {index contentId : String} {status : Nat}
    (h : Outcome d index contentId status d') (hindex : lowerCase index ≠ allIndices)
    (hcontent : nonBlank (some contentId) ≠ none)
    (hids : forall i j document,
      FirstHolder d.catalog (Catalog.scope (some index)) contentId i j document ->
      nonBlank (some j) ≠ none) : Lawful d index contentId status d' := by
  -- an outcome that a holder leads to can only be that the first holder goes
  cases h with
  | unnamed hblank => exact absurd hblank hcontent
  | absent habsent hquiet =>
      constructor
      · intro hholders
        rcases hholders with ⟨i, j, document, hholder⟩
        exact absurd hholder (habsent i j document)
      · intro _
        exact ⟨rfl, hquiet⟩
  | unaddressed hfirst hblank => exact absurd hblank (hids _ _ _ hfirst)
  | missed hfirst hnone =>
      have hpresent := hfirst.present
      rw [hfirst.toHolder.index_eq hindex, hnone] at hpresent
      cases hpresent
  | @removed i j document other _ hfirst hloses =>
      have hplace := hfirst.toHolder.index_eq hindex
      subst hplace
      have hsame : other = document := Option.some.inj (hloses.1.symm.trans hfirst.present)
      subst hsame
      constructor
      · intro _
        exact ⟨rfl, index, j, other, hfirst.toHolder, hloses⟩
      · intro habsent
        exact absurd hfirst.toHolder (habsent _ _ _)

/-!
# The two steps
-/

theorem nonBlank_of_requiredIndex {r : Request} {index : String} (h : requiredIndex r = .ok index) :
    nonBlank (some index) = some index := by
  unfold requiredIndex at h
  cases hparameter : indexParameter r with
  | error refusal =>
      rw [hparameter] at h
      cases h
  | ok parameter =>
      rw [hparameter] at h
      cases hname : nonBlank parameter with
      | none =>
          simp only [bind, Except.bind, hname] at h
          cases h
      | some name =>
          simp only [bind, Except.bind, hname] at h
          cases h
          rcases Option.filter_eq_some_iff.mp hname with ⟨rfl, hink⟩
          exact hname

theorem handle_deletion {W : Type} (b : Backends W) (s : Setup) {r : Request}
    {index contentId segment : String} (hpath : pathText segment = .ok contentId)
    (hindex : requiredIndex r = .ok index) (w : W) :
    handle b s r (.deleteByContent segment) w =
      match Service.get b ⟨some index, none, some contentId, false⟩ w with
      | (.ok found, v) =>
          answering Acknowledgement.toJson (Service.deindex b index found.hit.metadata.id) v
      | (.error failure, v) => (.error (Refusal.ofFailure failure), v) := by
  show deleteByContent b r segment w = _
  unfold deleteByContent
  rw [hpath, reading_ok_bind, hindex, reading_ok_bind, Action.exceptT_bind_apply, ofAction_apply]
  cases Service.get b ⟨some index, none, some contentId, false⟩ w with
  | mk result v =>
      cases result with
      | error failure => rfl
      | ok found => rfl

theorem statusOf_answering {W α : Type} (toJson : α -> Json) (call : Action W α) (w : W) :
    statusOf (answering toJson call w).1 =
      match (call w).1 with
      | .ok _ => 200
      | .error failure => (Refusal.ofFailure failure).response.status := by
  rw [answering_apply]
  cases (call w).1 with
  | error failure => rfl
  | ok answer => rfl

namespace Sound

variable {d : Depot} {index : String}

theorem loses (h : Sound d) (hfits : d.catalog.size ≤ largestWord)
    (hindex : nonBlank (some index) ≠ none) {id : String} (hid : nonBlank (some id) ≠ none)
    {document : Fields} (hdocument : d.catalog.document? (lowerCase index) id = some document) :
    (Service.deindex (backends d.replicaNames) index id d).1 = .ok .ok ∧
      Loses d index id document (Service.deindex (backends d.replicaNames) index id d).2 := by
  have hanswer := (h.healthy.deindex_of_present hindex hid hdocument).1
  rcases (h.truthful.supported hdocument).described.contentOf with ⟨contentId, hcontent⟩
  have hremoved : Removed d index id contentId
      (Service.deindex (backends d.replicaNames) index id d) := by
    rw [Service.deindex_apply hindex hid, Service.fault_of_no_faults h.healthy.faults, hdocument,
      Service.fault_of_no_faults h.healthy.faults]
    simp only
    rw [hcontent]
    exact Service.removed_afterRemoval h.truthful h.healthy.faults hfits index id contentId
  refine ⟨hanswer, hdocument, d, contentId, .refl d, hcontent, ?_⟩
  rw [← hanswer]
  exact hremoved

theorem outcome_of_first (h : Sound d) (hfits : d.catalog.size ≤ largestWord)
    (hindex : nonBlank (some index) ≠ none) {contentId i j : String} {document : Fields}
    (hfirst : FirstHolder d.catalog (Catalog.scope (some index)) contentId i j document)
    {v : Depot} (hquiet : Quiet d v) :
    let outcome := answering Acknowledgement.toJson
      (Service.deindex (backends d.replicaNames) index j) v
    Outcome d index contentId (statusOf outcome.1) outcome.2 := by
  intro outcome
  have hstatus := statusOf_answering Acknowledgement.toJson
    (Service.deindex (backends d.replicaNames) index j) v
  have hworld : outcome.2 = (Service.deindex (backends d.replicaNames) index j v).2 := by
    show (answering _ _ v).2 = _
    rw [answering_apply]
  by_cases hid : nonBlank (some j) = none
  · rw [Service.deindex_of_blank_id hindex hid] at hstatus hworld
    rw [hstatus, hworld]
    exact .unaddressed hfirst hid hquiet
  · -- the look-up has left calls in the journal, and the catalog as it was
    have hsound := h.quiet hquiet
    rcases hquiet with ⟨calls, rfl⟩
    cases hother : d.catalog.document? (lowerCase index) j with
    | none =>
        have hmissing : Service.deindex (backends d.replicaNames) index j (d.journaled calls) =
            (.error (Catalog.missing (lowerCase index) j),
              (d.journaled calls).journaled [Service.fetchEntry index j]) := by
          rw [Service.deindex_apply hindex hid,
            Service.fault_of_no_faults hsound.healthy.faults, journaled_catalog, hother]
        rw [hmissing] at hstatus hworld
        rw [hstatus, hworld]
        exact .missed hfirst hother (Quiet.trans ⟨calls, rfl⟩ ⟨_, rfl⟩)
    | some other =>
        rcases hsound.loses hfits hindex hid hother with ⟨hanswer, hloses⟩
        have hnames : (d.journaled calls).replicaNames = d.replicaNames := rfl
        rw [hnames] at hanswer hloses
        rw [hanswer] at hstatus
        rw [hstatus, hworld]
        exact .removed hfirst (.of_quiet ⟨calls, rfl⟩ hloses)

theorem deletion (h : Sound d) (hfits : d.catalog.size ≤ largestWord) (s : Setup) {r : Request}
    {contentId segment : String} (hpath : pathText segment = .ok contentId)
    (hindex : requiredIndex r = .ok index) (hscope : d.catalog.Reaches (some index)) :
    let outcome := handle (backends d.replicaNames) s r (.deleteByContent segment) d
    Outcome d index contentId (statusOf outcome.1) outcome.2 := by
  intro outcome
  have hhandle : outcome = _ := handle_deletion (backends d.replicaNames) s hpath hindex d
  have hname := nonBlank_of_requiredIndex hindex
  have hink : nonBlank (some index) ≠ none := by
    rw [hname]
    exact Option.some_ne_none index
  by_cases hcontent : nonBlank (some contentId) = none
  · have hget : Service.get (backends d.replicaNames) ⟨some index, none, some contentId, false⟩ d =
        (.error (.validation "either an index document id or a content id is required"), d) := by
      apply Service.get_of_not_located
      unfold Service.locate
      simp only
      rw [hcontent]
      rfl
    rw [hhandle, hget]
    exact .unnamed hcontent (.refl d)
  · have hlocate : Service.locate (backends d.replicaNames)
        ⟨some index, none, some contentId, false⟩ d =
          Service.findByContent (backends d.replicaNames) (some index) contentId d := by
      rw [Service.locate_of_content _ rfl (nonBlank_eq_self hcontent), hname]
    rcases h.truthful.findByContent hscope contentId with
      ⟨hworld, ⟨hanswer, habsent⟩ | ⟨i, j, document, hanswer, hfirst⟩⟩
    · rw [hhandle, Service.get_of_not_located (hlocate.trans (Prod.ext hanswer hworld))]
      exact .absent habsent ⟨_, rfl⟩
    · rw [hhandle, Service.get_of_located_unloaded rfl
        (hlocate.trans (Prod.ext hanswer hworld))]
      exact h.outcome_of_first hfits hink hfirst ⟨_, rfl⟩

end Sound

/-!
# Removals behind the interface
-/

/--
What comes of a request to remove by content, in a depot that requests lead to while nothing is
made to fail.  Where the query names a single index, and neither the content id nor the id of the
first holder is blank, one holder goes if there is one, and otherwise nothing is removed.
-/
theorem Reached.delete_by_content {replicas : List Replica} {d : Depot} (h : Reached replicas d)
    (hloose : forall r, r ∈ replicas -> r.stuck = false) (setup : Setup) {r : Request}
    {index contentId : String} (hr : Deletes r index contentId)
    (hscope : d.catalog.Reaches (some index)) :
    let outcome := serve (backends d.replicaNames) setup r d
    Outcome d index contentId outcome.1.status outcome.2 ∧
      (lowerCase index ≠ allIndices -> nonBlank (some contentId) ≠ none ->
        (forall i j document,
          FirstHolder d.catalog (Catalog.scope (some index)) contentId i j document ->
          nonBlank (some j) ≠ none) ->
        Lawful d index contentId outcome.1.status outcome.2) := by
  intro outcome
  rcases hr.route with ⟨segment, hroute, hpath⟩
  have hmethod : (Route.deleteByContent segment).method.admits r.method = true := by
    rw [hr.method]
    rfl
  have hserved := serve_of_route (backends d.replicaNames) setup r hroute hmethod d
  have houtcome : Outcome d index contentId outcome.1.status outcome.2 := by
    rw [hserved.1, hserved.2]
    exact (h.sound hloose).deletion h.fits setup hpath hr.index hscope
  exact ⟨houtcome, houtcome.lawful⟩

def brief : Setup :=
  ⟨[], 1000⟩

def creation : Request :=
  ⟨"POST", "/config/index/docs", "", [], []⟩

def filing : Request :=
  ⟨"POST", "/raw/index", "", [("content-type", "application/json")],
    Utf8.ofString (Json.ofMembers [("index", .string "docs"), ("id", .string "1"),
      ("content_id", .string "abc")]).compact⟩

def withdrawal (index : String) : Request :=
  ⟨"DELETE", "/delete/hash/abc", "index=" ++ index, [], []⟩

def filed : Depot :=
  (Event.request brief filing).effect
    ((Event.request brief creation).effect (Depot.ofReplicas [Replica.of "near"]))

theorem reached_filed : Reached [Replica.of "near"] filed := by
  unfold filed
  refine Reached.step (Reached.step Reached.start ?_) ?_
  · decide +kernel
  · decide +kernel

theorem loose_near : forall r, r ∈ [Replica.of "near"] -> r.stuck = false := by
  decide +kernel

theorem deletes_withdrawal {index : String} (h : index = "docs" ∨ index = allIndices) :
    Deletes (withdrawal index) index "abc" := by
  rcases h with rfl | rfl
  · exact ⟨rfl, ⟨"abc", by decide +kernel, by decide +kernel⟩, by decide +kernel⟩
  · exact ⟨rfl, ⟨"abc", by decide +kernel, by decide +kernel⟩, by decide +kernel⟩

theorem holder_filed {target : Option String}
    (h : forall name, target = some name -> "docs" = name) :
    exists document, Holder filed.catalog target "abc" "docs" "1" document := by
  have hcontent : (filed.catalog.document? "docs" "1").map contentOf = some (some "abc") := by
    decide +kernel
  rcases Option.map_eq_some_iff.mp hcontent with ⟨document, hpresent, hholds⟩
  exact ⟨document, hpresent, hholds, h⟩

theorem id_filed {i j : String} {document : Fields}
    (h : filed.catalog.document? i j = some document) : j = "1" := by
  have hentry : (⟨i, j, document⟩ : Catalog.Entry) ∈ filed.catalog.entries none :=
    (reached_filed.sound loose_near).truthful.wellFormed.mem_entries_iff.mpr h
  have hids : (filed.catalog.entries none).map Catalog.Entry.id = ["1"] := by
    decide +kernel
  have hid : j ∈ (filed.catalog.entries none).map Catalog.Entry.id :=
    List.mem_map.mpr ⟨_, hentry, rfl⟩
  rw [hids] at hid
  exact List.mem_singleton.mp hid

theorem delete_by_content_filed :
    let outcome := serve (backends filed.replicaNames) brief (withdrawal "docs") filed
    outcome.1.status = 200 ∧ exists name j document,
      Holder filed.catalog (Catalog.scope (some "docs")) "abc" (lowerCase name) j document ∧
        Loses filed name j document outcome.2 := by
  have htarget : Catalog.scope (some "docs") = some "docs" := by
    decide +kernel
  have hscope : filed.catalog.Reaches (some "docs") := by
    intro name hname
    rw [htarget] at hname
    cases hname
    decide +kernel
  have hids : forall i j document,
      FirstHolder filed.catalog (Catalog.scope (some "docs")) "abc" i j document ->
      nonBlank (some j) ≠ none := by
    intro i j document hfirst
    rw [id_filed hfirst.present]
    decide
  have hlawful := (Reached.delete_by_content reached_filed loose_near brief
    (deletes_withdrawal (.inl rfl)) hscope).2 (by decide) (by decide) hids
  have hinScope : forall name, Catalog.scope (some "docs") = some name -> "docs" = name := by
    intro name hname
    exact Option.some.inj (htarget.symm.trans hname)
  rcases holder_filed hinScope with ⟨document, hholder⟩
  exact hlawful.present ⟨_, _, document, hholder⟩

/-- With the name for all indices the law fails: the holder is found and not removed. -/
theorem all_indices_unlawful :
    ¬ forall (replicas : List Replica) (d : Depot), Reached replicas d ->
      (forall r, r ∈ replicas -> r.stuck = false) ->
      forall (setup : Setup) (r : Request) (index contentId : String),
        Deletes r index contentId -> d.catalog.Reaches (some index) ->
        Lawful d index contentId (serve (backends d.replicaNames) setup r d).1.status
          (serve (backends d.replicaNames) setup r d).2 := by
  intro h
  have htarget : Catalog.scope (some allIndices) = none := by
    decide +kernel
  have hscope : filed.catalog.Reaches (some allIndices) := by
    intro name hname
    rw [htarget] at hname
    cases hname
  have hlawful := h _ filed reached_filed loose_near brief _ _ _ (deletes_withdrawal (.inr rfl))
    hscope
  have hinScope : forall name, Catalog.scope (some allIndices) = some name -> "docs" = name := by
    intro name hname
    rw [htarget] at hname
    cases hname
  rcases holder_filed hinScope with ⟨document, hholder⟩
  have hstatus := (hlawful.present ⟨_, _, document, hholder⟩).1
  have hanswer : (serve (backends filed.replicaNames) brief (withdrawal allIndices)
      filed).1.status = 404 := by
    decide +kernel
  rw [hanswer] at hstatus
  cases hstatus

end Api
end ContentGateway
