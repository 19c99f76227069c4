import ContentGateway.Proofs.Service.Undisturbed

/-!
# Documents and their addresses

A document in a run without disturbances is found and removed under the place where it
stands, if its id is not blank.  An id that is blank is taken as absent by every look-up and
refused by every removal, and documents have such ids where requests asked for them.
-/

namespace ContentGateway

/-!
# Ids that are not blank
-/

theorem digitChar_mem_toDigits (n : Nat) : Nat.digitChar (n % 16) ∈ Nat.toDigits 16 n := by
  rw [Nat.toDigits_eq_if (by decide)]
  split
  · next hsmall =>
      rw [Nat.mod_eq_of_lt hsmall]
      exact List.mem_singleton.mpr rfl
  · exact List.mem_append_right _ (List.mem_singleton.mpr rfl)

theorem isBlank_digitChar {d : Nat} (h : d < 16) : isBlank (Nat.digitChar d) = false := by
  decide +revert

theorem Catalog.nonBlank_generatedId (n : Nat) : nonBlank (some (generatedId n)) ≠ none := by
  rw [nonBlank_iff_exists_ink]
  refine ⟨Nat.digitChar (n % 16), ?_, isBlank_digitChar (Nat.mod_lt n (by decide))⟩
  unfold generatedId
  rw [String.toList_ofList]
  exact List.mem_append_right _ (digitChar_mem_toDigits n)

namespace Service

open Depot

/-!
# Look-ups by place
-/

/-- What it takes to address a document: a look-up by its place finds it, a removal removes it. -/
structure Addressable (d : Depot) (index id : String) (document : Fields) : Prop where
  found : forall contentId,
    get (backends d.replicaNames) ⟨some index, some id, contentId, false⟩ d =
      (.ok ⟨.success, ⟨Metadata.ofDocument index id document, none⟩⟩,
        d.journaled [fetchEntry index id])
  answered : (deindex (backends d.replicaNames) index id d).1 = .ok .ok
  removed : (deindex (backends d.replicaNames) index id d).2.catalog.document? index id = none

/-- A place that no look-up and no removal accepts; the depot stays as it is. -/
structure Refused (d : Depot) (index id : String) : Prop where
  lookup : forall loadFile,
    get (backends d.replicaNames) ⟨some index, some id, none, loadFile⟩ d =
      (.error (.validation "either an index document id or a content id is required"), d)
  removal : deindex (backends d.replicaNames) index id d =
    (.error (.validation "id shouldn't be empty"), d)

theorem refused_of_blank_id {index id : String} (hindex : nonBlank (some index) ≠ none)
    (hid : nonBlank (some id) = none) (d : Depot) : Refused d index id where
  lookup := by
    intro loadFile
    unfold get locate
    rw [Action.bind_apply]
    simp only
    rw [hid]
    rfl
  removal := deindex_of_blank_id hindex hid (backends d.replicaNames) d

namespace Healthy

variable {d : Depot}

theorem index_of_document (h : Healthy d) {index id : String} {document : Fields}
    (hdocument : d.catalog.document? index id = some document) :
    nonBlank (some index) ≠ none ∧ lowerCase index = index := by
  have hmem := Catalog.mem_indexNames_of_document? hdocument
  exact ⟨h.named index hmem, h.wellFormed.lowerCase_name hmem⟩

theorem get_of_document (h : Healthy d) {index id : String} {document : Fields}
    (hindex : nonBlank (some index) ≠ none) (hid : nonBlank (some id) ≠ none)
    (hdocument : d.catalog.document? (lowerCase index) id = some document)
    (contentId : Option String) :
    get (backends d.replicaNames) ⟨some index, some id, contentId, false⟩ d =
      (.ok ⟨.success, ⟨Metadata.ofDocument (lowerCase index) id document, none⟩⟩,
        d.journaled [fetchEntry index id]) := by
  have hfetch : indexer.fetch index id d =
      (.ok (Metadata.ofDocument (lowerCase index) id document),
        d.journaled [fetchEntry index id]) := by
    rw [fetch_apply, fault_of_no_faults h.faults, Catalog.fetch_eq, hdocument]
  unfold get locate
  rw [Action.bind_apply]
  simp only
  rw [nonBlank_eq_self hindex, nonBlank_eq_self hid]
  simp only
  rw [requireText_of_present hindex, Action.bind_apply, Action.check_apply]
  simp only [Option.getD_some]
  rw [backends_indexer, hfetch]
  rfl

theorem addressable (h : Healthy d) {index id : String} {document : Fields}
    (hid : nonBlank (some id) ≠ none)
    (hdocument : d.catalog.document? index id = some document) :
    Addressable d index id document := by
  rcases h.index_of_document hdocument with ⟨hindex, hlower⟩
  have hplace : d.catalog.document? (lowerCase index) id = some document := by
    rw [hlower]
    exact hdocument
  rcases h.deindex_of_present hindex hid hplace with ⟨hanswered, htended⟩
  refine ⟨?_, hanswered, ?_⟩
  · intro contentId
    rw [h.get_of_document hindex hid hplace, hlower]
  · have hgone : (Service.withoutDocument d (lowerCase index) id
        (contentOf document)).catalog.document? index id = none := by
      rw [catalog_withoutDocument, Catalog.document?_without, if_pos ⟨hlower, rfl⟩]
    exact htended.contents.document?_eq_none hgone

end Healthy

/-!
# Where blank ids come from
-/

def Operation.AsksFor (index id : String) (operation : Operation) : Prop :=
  exists request header, operation = .index request ∧ request.header? = some header ∧
    lowerCase header.index = index ∧ header.id = some id

theorem exists_of_tended {d d' : Depot} (h : Tended d d') {index id : String} {document : Fields}
    (hdocument : d'.catalog.document? index id = some document) :
    exists old, d.catalog.document? index id = some old := by
  cases hold : d.catalog.document? index id with
  | none =>
      rw [h.contents.document?_eq_none hold] at hdocument
      cases hdocument
  | some old => exact ⟨old, rfl⟩

theorem Change.blank_id {d d' : Depot} {operation : Operation}
    (hchange : Change d operation d') (h : Healthy d) {index id : String}
    (hid : nonBlank (some id) = none) {document : Fields}
    (hdocument : d'.catalog.document? index id = some document) :
    (exists old, d.catalog.document? index id = some old) ∨ operation.AsksFor index id := by
  cases hchange with
  | tended _ htended => exact Or.inl (exists_of_tended htended hdocument)
  | created _ =>
      rw [journaled_catalog, withCatalog_catalog, Catalog.document?_createIndex] at hdocument
      exact Or.inl ⟨document, hdocument⟩
  | @written request w calls _ hw htended =>
      rcases exists_of_tended htended hdocument with ⟨new, hnew⟩
      have hwritten := h.written hw
      have hcontents := hwritten.contents index id
      have hnew' : w.catalog.document? index id = some new := hnew
      rw [hnew'] at hcontents
      split at hcontents
      · next hplace =>
          rcases hplace with ⟨rfl, rfl⟩
          rcases hwritten.chosen with hasked | ⟨_, number, hnumber⟩
          · exact Or.inr ⟨request, w.header, rfl, (writing_eq_some_iff.mp hw).2.2.1, rfl, hasked⟩
          · rw [hnumber] at hid
            exact absurd hid (Catalog.nonBlank_generatedId number)
      · rcases Option.map_eq_some_iff.mp hcontents.symm with ⟨old, hold, _⟩
        exact Or.inl ⟨old, hold⟩
  | removed _ htended =>
      rcases exists_of_tended htended hdocument with ⟨old, hold⟩
      rw [catalog_withoutDocument, Catalog.document?_without] at hold
      split at hold
      · cases hold
      · exact Or.inl ⟨old, hold⟩

theorem asked_of_blank_id (names : List String) {operations : List Operation}
    (hplain : forall operation, operation ∈ operations -> operation.Plain) {index id : String}
    (hid : nonBlank (some id) = none) {document : Fields}
    (hdocument : (after names operations).catalog.document? index id = some document) :
    exists operation, operation ∈ operations ∧ operation.AsksFor index id := by
  induction operations using List.reverseRecOn generalizing document with
  | nil => cases hdocument
  | append_singleton earlier operation ih =>
      have hearlier : forall o, o ∈ earlier -> o.Plain :=
        fun o ho => hplain o (List.mem_append_left _ ho)
      have hlast : operation ∈ earlier ++ [operation] :=
        List.mem_append_right _ (List.mem_singleton.mpr rfl)
      have hhealthy := healthy_after names hearlier
      rw [after_concat] at hdocument
      rcases (change_perform hhealthy (hplain operation hlast)).blank_id hhealthy hid hdocument with
        ⟨old, hold⟩ | hasks
      · rcases ih hearlier hold with ⟨o, ho, hasks⟩
        exact ⟨o, List.mem_append_left _ ho, hasks⟩
      · exact ⟨operation, hlast, hasks⟩

/--
The documents of a run in which nothing is made to fail: one whose id is not blank can be
looked up and removed; one whose id is blank cannot, and a request has asked for that id.
-/
theorem document_addressed (names : List String) {operations : List Operation}
    (hplain : forall operation, operation ∈ operations -> operation.Plain)
    {index id : String} {document : Fields}
    (hdocument : (after names operations).catalog.document? index id = some document) :
    (nonBlank (some id) ≠ none -> Addressable (after names operations) index id document) ∧
      (nonBlank (some id) = none ->
        Refused (after names operations) index id ∧
          exists operation, operation ∈ operations ∧ operation.AsksFor index id) := by
  have hhealthy := healthy_after names hplain
  constructor
  · intro hid
    exact hhealthy.addressable hid hdocument
  · intro hid
    exact ⟨refused_of_blank_id (hhealthy.index_of_document hdocument).1 hid _,
      asked_of_blank_id names hplain hid hdocument⟩

def filed (id : String) : List Operation :=
  [.createIndex "docs" none, .index (.reference ⟨"docs", some id, none, []⟩ "c")]

theorem plain_filed (id : String) :
    forall operation, operation ∈ filed id -> operation.Plain := by
  intro operation hoperation
  rcases List.mem_cons.mp hoperation with rfl | hoperation
  · exact trivial
  · rcases List.mem_singleton.mp hoperation with rfl
    exact trivial

theorem document_filed_d : (after ["r"] (filed "d")).catalog.document? "docs" "d" =
    some [(hashKey, .string "c"), (pinnedKey, .bool true)] := rfl

theorem document_filed_blank : (after ["r"] (filed "")).catalog.document? "docs" "" =
    some [(hashKey, .string "c"), (pinnedKey, .bool true)] := rfl

theorem document_addressed_filed :
    Addressable (after ["r"] (filed "d")) "docs" "d"
        [(hashKey, .string "c"), (pinnedKey, .bool true)] ∧
      Refused (after ["r"] (filed "")) "docs" "" :=
  ⟨(document_addressed ["r"] (plain_filed "d") document_filed_d).1 (by decide),
    ((document_addressed ["r"] (plain_filed "") document_filed_blank).2 (by decide)).1⟩

/-- Not every document of such a run can be looked up and removed by its place. -/
theorem blank_id_not_addressable :
    ¬ forall (names : List String) (operations : List Operation),
      (forall operation, operation ∈ operations -> operation.Plain) ->
      forall (index id : String) (document : Fields),
        (after names operations).catalog.document? index id = some document ->
          (get (backends (after names operations).replicaNames)
            ⟨some index, some id, none, false⟩ (after names operations)).1 =
              .ok ⟨.success, ⟨Metadata.ofDocument index id document, none⟩⟩ ∧
          (deindex (backends (after names operations).replicaNames) index id
            (after names operations)).1 = .ok .ok := by
  intro h
  have hanswers := h ["r"] (filed "") (plain_filed "") "docs" "" _ document_filed_blank
  have hrefused : Refused (after ["r"] (filed "")) "docs" "" :=
    refused_of_blank_id (by decide) (by decide) _
  rw [hrefused.removal] at hanswers
  cases hanswers.2

end Service
end ContentGateway
