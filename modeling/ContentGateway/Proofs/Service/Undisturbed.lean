import Mathlib.Data.List.Induction
import ContentGateway.Proofs.Service.Healthy
import ContentGateway.Proofs.Service.Uploads

/-!
# Runs without disturbances

A depot that starts without content and documents, whose replicas never fail and in which no
call is made to fail, stays healthy.  Each step is one of four changes, which says once what all
properties of such runs are derived from.
-/

namespace ContentGateway
namespace Service

open Depot

/-- Steps that make nothing fail and leave the reserved fields alone. -/
def Operation.Plain : Operation -> Prop
  | .updateField request => isReservedKey request.key = false
  | .fault _ | .mood _ _ _ _ => False
  | _ => True

theorem Operation.Plain.allowed {operation : Operation} (h : operation.Plain) :
    operation.Allowed := by
  cases operation with
  | fault faults => exact h.elim
  | mood position refused failures stuck => exact h.elim
  | updateField request => exact h
  | createIndex | index | deindex | get | search | reconcile => exact trivial

def after (names : List String) (operations : List Operation) : Depot :=
  operations.foldl (fun d operation => perform operation d)
    (Depot.ofReplicas (names.map Replica.of))

theorem after_concat (names : List String) (operations : List Operation) (operation : Operation) :
    after names (operations ++ [operation]) = perform operation (after names operations) := by
  unfold after
  rw [List.foldl_append]
  rfl

/-!
# Documents that are written
-/

/-- A document that an indexing has written, and the catalog with it. -/
structure Writing where
  header : Header
  stored : Stored
  docId : String
  catalog : Catalog

end Service

def Depot.writing (d : Depot) (request : IndexRequest) : Option Service.Writing :=
  match Service.validate request, d.obtained request, request.header? with
  | .ok _, .ok stored, some header =>
      match d.entered header stored with
      | .ok (docId, catalog) => some ⟨header, stored, docId, catalog⟩
      | .error _ => none
  | _, _, _ => none

namespace Service

open Depot

theorem writing_eq_some_iff {d : Depot} {request : IndexRequest} {w : Writing} :
    d.writing request = some w ↔
      validate request = .ok () ∧ d.obtained request = .ok w.stored ∧
        request.header? = some w.header ∧ d.entered w.header w.stored = .ok (w.docId, w.catalog) := by
  unfold Depot.writing
  constructor
  · intro hw
    split at hw
    · next stored header hvalid hobtained hheader =>
        cases hentered : d.entered header stored with
        | error failure =>
            rw [hentered] at hw
            cases hw
        | ok answer =>
            rw [hentered] at hw
            cases hw
            exact ⟨hvalid, hobtained, hheader, hentered⟩
    · cases hw
  · rintro ⟨hvalid, hobtained, hheader, hentered⟩
    rw [hvalid, hobtained, hheader]
    simp only
    rw [hentered]

namespace Healthy

variable {d : Depot}

theorem put_of_writing (h : Healthy d) {request : IndexRequest} {w : Writing}
    (hw : d.writing request = some w) :
    d.catalog.put w.header.index w.header.id (some w.stored.contentId) w.stored.contentType
      w.header.fields = .ok (w.docId, w.catalog) := by
  rcases writing_eq_some_iff.mp hw with ⟨_, _, _, hentered⟩
  unfold entered at hentered
  rw [fault_of_no_faults h.faults] at hentered
  exact hentered

theorem written (h : Healthy d) {request : IndexRequest} {w : Writing}
    (hw : d.writing request = some w) :
    Catalog.Written d.catalog w.catalog w.header.index w.header.id w.stored.contentId w.docId :=
  h.wellFormed.written_put (h.put_of_writing hw)

theorem documented (h : Healthy d) {request : IndexRequest} {w : Writing}
    (hw : d.writing request = some w) (calls : List String) :
    Healthy (Service.documented d calls w.stored w.catalog) where
  faults := h.faults
  window := h.window
  loose := h.loose
  wellFormed := (h.written hw).wellFormed
  named := by
    intro index hindex
    have hindex' : index ∈ w.catalog.indexNames := hindex
    rw [(h.written hw).indexNames] at hindex'
    exact h.named index hindex'

theorem index (h : Healthy d) (request : IndexRequest) :
    (d.writing request = none ∧ Tended d (indexed d request).2) ∨
      exists w calls, d.writing request = some w ∧
        Tended (Service.documented d calls w.stored w.catalog) (indexed d request).2 := by
  cases hvalid : validate request with
  | error failure =>
      rw [indexed_of_invalid hvalid]
      refine Or.inl ⟨?_, h.tended⟩
      unfold Depot.writing
      rw [hvalid]
  | ok _ =>
      unfold indexed
      rw [indexAndReplicate_apply hvalid]
      cases hobtained : d.obtained request with
      | error failure =>
          refine Or.inl ⟨?_, h.tended.journaled _⟩
          unfold Depot.writing
          rw [hvalid, hobtained]
      | ok stored =>
          cases hheader : request.header? with
          | none =>
              refine Or.inl ⟨?_, (h.tended.withBlobs _).journaled _⟩
              unfold Depot.writing
              rw [hvalid, hobtained, hheader]
          | some header =>
              simp only
              cases hentered : d.entered header stored with
              | error failure =>
                  refine Or.inl ⟨?_, (h.tended.withBlobs _).journaled _⟩
                  unfold Depot.writing
                  rw [hvalid, hobtained, hheader]
                  simp only
                  rw [hentered]
              | ok answer =>
                  rcases answer with ⟨docId, catalog⟩
                  have hw : d.writing request = some ⟨header, stored, docId, catalog⟩ :=
                    writing_eq_some_iff.mpr ⟨hvalid, hobtained, hheader, hentered⟩
                  refine Or.inr ⟨_, putEntry header :: request.writes, hw, ?_⟩
                  apply (h.documented hw _).tended.settled
                    ⟨header.index, docId, stored.contentId⟩
                  refine ⟨lowerCase header.index, docId, ?_⟩
                  exact ((h.written hw).contentAt _ _).trans (if_pos ⟨rfl, rfl⟩)

/-!
# New indices
-/

theorem createIndex (h : Healthy d) (name : String) (configuration : Option Json) :
    Tended d (Service.createIndex (backends d.replicaNames) name configuration d).2 ∨
      nonBlank (some name) ≠ none ∧
        exists calls,
          (Service.createIndex (backends d.replicaNames) name configuration d).2 =
            (d.withCatalog (d.catalog.createIndex name configuration)).journaled calls := by
  unfold Service.createIndex
  by_cases hname : nonBlank (some name) = none
  · apply Or.inl
    unfold requireText
    rw [hname]
    exact h.tended
  · refine Or.inr ⟨hname, ["indexer.create_index" ++ (" " ++ name)], ?_⟩
    rw [requireText_of_present hname, Action.bind_apply, Action.check_apply]
    simp only
    rw [Action.bind_apply, backends_indexer]
    unfold indexer
    simp only
    rw [catalogCall_apply, fault_of_no_faults h.faults]
    rfl

theorem withIndex (h : Healthy d) {name : String} (hname : nonBlank (some name) ≠ none)
    (configuration : Option Json) :
    Healthy (d.withCatalog (d.catalog.createIndex name configuration)) := by
  refine h.withCatalog (h.wellFormed.createIndex name configuration) ?_
  intro index hindex
  rcases (Catalog.mem_indexNames_createIndex _ _ _ _).mp hindex with rfl | hold
  · exact nonBlank_lowerCase hname
  · exact h.named index hold

/-!
# Removals
-/

theorem without (h : Healthy d) (index id : String) :
    Healthy (d.withCatalog (d.catalog.without index id)) := by
  refine h.withCatalog (h.wellFormed.without index id) ?_
  intro name hname
  have hnames : (d.catalog.without index id).indexNames = d.catalog.indexNames :=
    Catalog.indexNames_withDocuments h.wellFormed _ _
  rw [hnames] at hname
  exact h.named name hname

end Healthy

def withoutDocument (d : Depot) (index id : String) (content : Option String) : Depot :=
  match content with
  | none => d.withCatalog (d.catalog.without index id)
  | some contentId => unpinned (d.withCatalog (d.catalog.without index id)) contentId

theorem catalog_withoutDocument (d : Depot) (index id : String) (content : Option String) :
    (withoutDocument d index id content).catalog = d.catalog.without index id := by
  cases content with
  | none => rfl
  | some contentId => rfl

namespace Healthy

variable {d : Depot}

theorem deindex_of_present (h : Healthy d) {index id : String} {document : Fields}
    (hindex : nonBlank (some index) ≠ none) (hid : nonBlank (some id) ≠ none)
    (hdocument : d.catalog.document? (lowerCase index) id = some document) :
    (Service.deindex (backends d.replicaNames) index id d).1 = .ok .ok ∧
      Tended (Service.withoutDocument d (lowerCase index) id (contentOf document))
        (Service.deindex (backends d.replicaNames) index id d).2 := by
  rw [deindex_apply hindex hid, fault_of_no_faults h.faults, hdocument,
    fault_of_no_faults h.faults]
  simp only
  have hwithout := h.without (lowerCase index) id
  unfold afterRemoval
  cases hcontent : contentOf document with
  | none => exact ⟨rfl, hwithout.tended.journaled _⟩
  | some contentId =>
      have hjournaled := hwithout.tended.journaled [removeEntry index id, fetchEntry index id]
      rcases hjournaled.healthy.release contentId with ⟨d', hrelease, htended⟩
      simp only
      rw [Action.bind_apply]
      have hnames : ((d.withCatalog (d.catalog.without (lowerCase index) id)).journaled
          [removeEntry index id, fetchEntry index id]).replicaNames = d.replicaNames := rfl
      rw [hnames] at hrelease
      rw [hrelease]
      exact ⟨rfl, ((hwithout.unpinned contentId).tended.congr _ _).trans htended⟩

theorem deindex_of_absent (h : Healthy d) {index id : String}
    (hnone : nonBlank (some index) = none ∨ nonBlank (some id) = none ∨
      d.catalog.document? (lowerCase index) id = none) :
    Tended d (Service.deindex (backends d.replicaNames) index id d).2 := by
  by_cases hindex : nonBlank (some index) = none
  · rw [deindex_of_blank_index hindex]
    exact h.tended
  · by_cases hid : nonBlank (some id) = none
    · rw [deindex_of_blank_id hindex hid]
      exact h.tended
    · rcases hnone with hblank | hblank | hdocument
      · exact absurd hblank hindex
      · exact absurd hblank hid
      · rw [deindex_apply hindex hid, fault_of_no_faults h.faults, hdocument]
        exact h.tended.journaled _

end Healthy

/-!
# All that a step can do
-/

/-- What a step makes of a healthy depot. -/
inductive Change (d : Depot) : Operation -> Depot -> Prop where
  /-- Small changes; an indexing among them has written no document. -/
  | tended {operation : Operation} {d' : Depot} :
      (forall request, operation = .index request -> d.writing request = none) ->
      Tended d d' ->
      Change d operation d'
  | created {name : String} {configuration : Option Json} {calls : List String} :
      nonBlank (some name) ≠ none ->
      Change d (.createIndex name configuration)
        ((d.withCatalog (d.catalog.createIndex name configuration)).journaled calls)
  | written {request : IndexRequest} {w : Writing} {calls : List String} {d' : Depot} :
      d.writing request = some w ->
      Tended (documented d calls w.stored w.catalog) d' ->
      Change d (.index request) d'
  | removed {index id : String} {document : Fields} {d' : Depot} :
      d.catalog.document? (lowerCase index) id = some document ->
      Tended (withoutDocument d (lowerCase index) id (contentOf document)) d' ->
      Change d (.deindex index id) d'

theorem change_perform {d : Depot} (h : Healthy d) {operation : Operation}
    (hplain : operation.Plain) : Change d operation (perform operation d) := by
  cases operation with
  | createIndex name configuration =>
      rcases h.createIndex name configuration with htended | ⟨hname, calls, hcreated⟩
      · exact .tended (by rintro request ⟨⟩) htended
      · unfold perform
        simp only
        rw [hcreated]
        exact .created hname
  | index request =>
      rcases h.index request with ⟨hnone, htended⟩ | ⟨w, calls, hw, htended⟩
      · exact .tended (by rintro _ ⟨⟩; exact hnone) htended
      · exact .written hw htended
  | deindex index id =>
      by_cases hindex : nonBlank (some index) = none
      · exact .tended (by rintro request ⟨⟩) (h.deindex_of_absent (Or.inl hindex))
      · by_cases hid : nonBlank (some id) = none
        · exact .tended (by rintro request ⟨⟩) (h.deindex_of_absent (Or.inr (Or.inl hid)))
        · cases hdocument : d.catalog.document? (lowerCase index) id with
          | none =>
              exact .tended (by rintro request ⟨⟩)
                (h.deindex_of_absent (Or.inr (Or.inr hdocument)))
          | some document =>
              exact .removed hdocument (h.deindex_of_present hindex hid hdocument).2
  | get request =>
      exact .tended (by rintro _ ⟨⟩) (h.tended.quiet (quiet_get d.replicaNames request d))
  | search request =>
      exact .tended (by rintro _ ⟨⟩) (h.tended.quiet (quiet_search d.replicaNames request d))
  | updateField request =>
      exact .tended (by rintro _ ⟨⟩) (h.tended.updateField _ hplain)
  | reconcile pageSize =>
      exact .tended (by rintro _ ⟨⟩) ((Tended.preserved d).runOnce pageSize h.tended)
  | fault faults => exact hplain.elim
  | mood position refused failures stuck => exact hplain.elim

theorem Change.healthy {d d' : Depot} {operation : Operation} (hchange : Change d operation d')
    (h : Healthy d) : Healthy d' := by
  cases hchange with
  | tended _ htended => exact htended.healthy
  | created hname => exact ((h.withIndex hname _).tended.journaled _).healthy
  | written hw htended => exact htended.healthy
  | removed hdocument htended => exact htended.healthy

theorem Healthy.perform {d : Depot} (h : Healthy d) {operation : Operation}
    (hplain : operation.Plain) : Healthy (Service.perform operation d) :=
  (change_perform h hplain).healthy h

theorem healthy_ofReplicas {replicas : List Replica}
    (hloose : forall r, r ∈ replicas -> r.stuck = false) : Healthy (Depot.ofReplicas replicas) where
  faults := rfl
  window := rfl
  loose := hloose
  wellFormed := Catalog.wellFormed_empty
  named := by
    intro index hindex
    cases hindex

theorem healthy_start (names : List String) :
    Healthy (Depot.ofReplicas (names.map Replica.of)) := by
  apply healthy_ofReplicas
  intro r hr
  rcases List.mem_map.mp hr with ⟨name, _, rfl⟩
  rfl

theorem healthy_after (names : List String) {operations : List Operation}
    (hplain : forall operation, operation ∈ operations -> operation.Plain) :
    Healthy (after names operations) := by
  induction operations using List.reverseRecOn with
  | nil => exact healthy_start names
  | append_singleton earlier operation ih =>
      rw [after_concat]
      have hearlier := ih fun o ho => hplain o (List.mem_append_left _ ho)
      have hlast : operation ∈ earlier ++ [operation] :=
        List.mem_append_right _ (List.mem_singleton.mpr rfl)
      exact hearlier.perform (hplain operation hlast)

end Service
end ContentGateway
