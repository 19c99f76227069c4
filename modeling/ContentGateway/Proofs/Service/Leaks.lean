import ContentGateway.Proofs.Service.Undisturbed

/-!
# Pins that outlive their documents

A pin should not outlive the documents that describe its content.  In a run without
disturbances there is one way in which it can: a write of other content under the id of the
only document that describes the content of the pin.  Every other step keeps all pins
described, whatever documents share their content.
-/

namespace ContentGateway
namespace Service

open Depot

def PinsDescribed (d : Depot) : Prop :=
  forall contentId, d.Tracks contentId -> d.catalog.Describes contentId

/--
The step writes other content under the id of a document, and no other document describes
the content that the document had and that a replica tracks.
-/
def Operation.Strands (d : Depot) : Operation -> Prop
  | .index request =>
      exists w old, d.writing request = some w ∧
        d.catalog.contentAt (lowerCase w.header.index) w.docId = some old ∧
        old ≠ w.stored.contentId ∧ d.Tracks old ∧
        forall index id, d.catalog.contentAt index id = some old ->
          lowerCase w.header.index = index ∧ w.docId = id
  | _ => False

theorem writing_of_strands {d : Depot} {operation : Operation} (h : operation.Strands d) :
    exists request w, operation = .index request ∧ d.writing request = some w := by
  cases operation with
  | index request =>
      rcases h with ⟨w, _, hw, _⟩
      exact ⟨request, w, rfl, hw⟩
  | createIndex name configuration => exact h.elim
  | deindex index id => exact h.elim
  | get request => exact h.elim
  | search request => exact h.elim
  | updateField request => exact h.elim
  | reconcile pageSize => exact h.elim
  | fault faults => exact h.elim
  | mood position refused failures stuck => exact h.elim

/-!
# Small changes
-/

theorem Tended.pinsDescribed_iff {d d' : Depot} (h : Tended d d') :
    PinsDescribed d' ↔ PinsDescribed d := by
  constructor
  · intro hpins contentId htracks
    exact (h.contents.describes_iff contentId).mp (hpins contentId (h.kept contentId htracks))
  · intro hpins contentId htracks
    apply (h.contents.describes_iff contentId).mpr
    rcases h.tracked contentId htracks with hbefore | hdescribed
    · exact hpins contentId hbefore
    · exact hdescribed

/-!
# Writes
-/

theorem pinsDescribed_documented_iff {d : Depot} (h : Healthy d) (hpins : PinsDescribed d)
    {request : IndexRequest} {w : Writing} (hw : d.writing request = some w)
    (calls : List String) :
    PinsDescribed (documented d calls w.stored w.catalog) ↔
      ¬ Operation.Strands d (.index request) := by
  have hcontent := (h.written hw).contentAt
  constructor
  · rintro hafter ⟨w', old, hw', hold, hne, htracks, honly⟩
    rw [hw] at hw'
    cases hw'
    rcases hafter old htracks with ⟨index, id, hdescribes⟩
    have hdescribes' : w.catalog.contentAt index id = some old := hdescribes
    rw [hcontent] at hdescribes'
    split at hdescribes'
    · cases hdescribes'
      exact hne rfl
    · next helsewhere => exact helsewhere (honly index id hdescribes')
  · intro hnone contentId htracks
    show w.catalog.Describes contentId
    by_contra hlost
    rcases hpins contentId htracks with ⟨index, id, hdescribes⟩
    -- every document that describes the content is the one that is written
    have honly : forall index id, d.catalog.contentAt index id = some contentId ->
        lowerCase w.header.index = index ∧ w.docId = id := by
      intro index id hcontentId
      by_contra helsewhere
      exact hlost ⟨index, id, by rw [hcontent, if_neg helsewhere]; exact hcontentId⟩
    rcases honly index id hdescribes with ⟨rfl, rfl⟩
    refine hnone ⟨w, contentId, hw, hdescribes, ?_, htracks, honly⟩
    rintro rfl
    exact hlost ⟨_, _, (hcontent _ _).trans (if_pos ⟨rfl, rfl⟩)⟩

/-!
# Removals
-/

theorem pinsDescribed_withoutDocument {d : Depot} (h : Healthy d) (hpins : PinsDescribed d)
    {index id : String} {document : Fields}
    (hdocument : d.catalog.document? index id = some document) :
    PinsDescribed (withoutDocument d index id (contentOf document)) := by
  have hcontentAt := Catalog.contentAt_of_document? hdocument
  have helsewhere : forall {contentId}, contentOf document ≠ some contentId ->
      d.Tracks contentId -> (d.catalog.without index id).Describes contentId := by
    intro contentId hne htracks
    rcases hpins contentId htracks with ⟨i, j, hdescribes⟩
    refine ⟨i, j, ?_⟩
    rw [Catalog.contentAt_without, if_neg]
    · exact hdescribes
    · rintro ⟨rfl, rfl⟩
      exact hne (hcontentAt.symm.trans hdescribes)
  intro contentId htracks
  rw [catalog_withoutDocument]
  cases hcontent : contentOf document with
  | none =>
      rw [hcontent] at htracks
      exact helsewhere (by rw [hcontent]; exact nofun) htracks
  | some own =>
      rw [hcontent] at htracks
      rcases ((h.without index id).tracks_unpinned_iff own contentId).mp htracks with
        ⟨hbefore, hne⟩
      exact helsewhere (by rw [hcontent]; exact fun heq => hne (Option.some.inj heq)) hbefore

/-!
# Runs
-/

theorem Change.pinsDescribed_iff {d d' : Depot} {operation : Operation}
    (hchange : Change d operation d') (h : Healthy d) (hpins : PinsDescribed d) :
    PinsDescribed d' ↔ ¬ operation.Strands d := by
  cases hchange with
  | tended hnone htended =>
      refine iff_of_true (htended.pinsDescribed_iff.mpr hpins) fun hstrands => ?_
      rcases writing_of_strands hstrands with ⟨request, w, hrequest, hw⟩
      rw [hnone request hrequest] at hw
      cases hw
  | created hname =>
      refine iff_of_true ?_ id
      intro contentId htracks
      rcases hpins contentId htracks with ⟨index, id, hdescribes⟩
      exact ⟨index, id, (Catalog.contentAt_createIndex _ _ _ _ _).trans hdescribes⟩
  | written hw htended =>
      exact htended.pinsDescribed_iff.trans (pinsDescribed_documented_iff h hpins hw _)
  | removed hdocument htended =>
      exact iff_of_true
        (htended.pinsDescribed_iff.mpr (pinsDescribed_withoutDocument h hpins hdocument)) id

theorem pinsDescribed_start (names : List String) :
    PinsDescribed (Depot.ofReplicas (names.map Replica.of)) := by
  rintro contentId ⟨r, hr, htracks⟩
  rcases List.mem_map.mp hr with ⟨name, _, rfl⟩
  cases htracks

/--
All along a run in which nothing is made to fail every pin is described by a document, if and
only if no step of the run writes other content in the place of the last document that
describes the content of a pin.
-/
theorem pins_described_iff (names : List String) {operations : List Operation}
    (hplain : forall operation, operation ∈ operations -> operation.Plain) :
    (forall earlier, earlier <+: operations -> PinsDescribed (after names earlier)) ↔
      forall earlier operation, earlier ++ [operation] <+: operations ->
        ¬ operation.Strands (after names earlier) := by
  have hhealthy : forall {earlier}, earlier <+: operations -> Healthy (after names earlier) :=
    fun hpart => healthy_after names fun o ho => hplain o (hpart.subset ho)
  have hstep : forall {earlier operation}, earlier ++ [operation] <+: operations ->
      PinsDescribed (after names earlier) ->
        (PinsDescribed (after names (earlier ++ [operation])) ↔
          ¬ operation.Strands (after names earlier)) := by
    intro earlier operation hpart hpins
    have hearlier := hhealthy ((List.prefix_append earlier [operation]).trans hpart)
    have hlast : operation ∈ earlier ++ [operation] :=
      List.mem_append_right _ (List.mem_singleton.mpr rfl)
    rw [after_concat]
    exact (change_perform hearlier (hplain operation (hpart.subset hlast))).pinsDescribed_iff
      hearlier hpins
  constructor
  · intro hall earlier operation hpart
    have hearlier := hall earlier ((List.prefix_append earlier [operation]).trans hpart)
    exact (hstep hpart hearlier).mp (hall _ hpart)
  · intro hnone earlier hpart
    -- from the start of the run, step by step
    induction earlier using List.reverseRecOn with
    | nil => exact pinsDescribed_start names
    | append_singleton before operation ih =>
        have hbefore := ih ((List.prefix_append before [operation]).trans hpart)
        exact (hstep hpart hbefore).mpr (hnone before operation hpart)

def replaced : List Operation :=
  [.createIndex "docs" none,
    .index (.reference ⟨"docs", some "d", none, []⟩ "old"),
    .index (.reference ⟨"docs", some "d", none, []⟩ "new")]

theorem plain_replaced : forall operation, operation ∈ replaced -> operation.Plain := by
  intro operation hoperation
  simp only [replaced, List.mem_cons, List.not_mem_nil, or_false] at hoperation
  rcases hoperation with rfl | rfl | rfl
  · exact trivial
  · exact trivial
  · exact trivial

def oneDocument (index id : String) (document : Fields) : Catalog :=
  ⟨[(index, ⟨none, [(id, document)]⟩)], 0⟩

theorem place_of_contentAt_oneDocument {index id : String} {document : Fields}
    {i j contentId : String}
    (h : (oneDocument index id document).contentAt i j = some contentId) :
    (index = i ∧ id = j) ∧ contentOf document = some contentId := by
  unfold oneDocument Catalog.contentAt Catalog.document? at h
  by_cases hindex : index = i
  · by_cases hid : id = j
    · refine ⟨⟨hindex, hid⟩, ?_⟩
      simpa [Table.get?, hindex, hid] using h
    · simp [Table.get?, hindex, hid] at h
  · simp [Table.get?, hindex] at h

theorem strands_replaced :
    Operation.Strands (after ["r"] (replaced.take 2))
      (.index (.reference ⟨"docs", some "d", none, []⟩ "new")) := by
  have hcatalog : (after ["r"] (replaced.take 2)).catalog =
      oneDocument "docs" "d" [(hashKey, .string "old"), (pinnedKey, .bool true)] := rfl
  refine ⟨⟨⟨"docs", some "d", none, []⟩, ⟨"new", none, .empty⟩, "d", _⟩, "old", rfl, rfl,
    by decide, ⟨⟨"r", [("old", ())], [], 0, [], false⟩, List.mem_singleton.mpr rfl, rfl⟩, ?_⟩
  intro index id hdescribes
  rw [hcatalog] at hdescribes
  exact (place_of_contentAt_oneDocument hdescribes).1

theorem pins_described_iff_replaced :
    (forall operation, operation ∈ replaced -> operation.Plain) ∧
      ¬ forall earlier, earlier <+: replaced -> PinsDescribed (after ["r"] earlier) := by
  refine ⟨plain_replaced, ?_⟩
  rw [pins_described_iff ["r"] plain_replaced]
  intro hnone
  exact hnone (replaced.take 2) _ (List.prefix_refl replaced) strands_replaced

/-- A pin can outlive all documents that describe its content. -/
theorem pin_outlives_documents :
    ¬ forall (names : List String) (operations : List Operation),
      (forall operation, operation ∈ operations -> operation.Plain) ->
        PinsDescribed (after names operations) := by
  intro h
  have htracks : (after ["r"] replaced).Tracks "old" :=
    ⟨⟨"r", [("new", ()), ("old", ())], [], 0, [], false⟩, List.mem_singleton.mpr rfl, rfl⟩
  have hcatalog : (after ["r"] replaced).catalog =
      oneDocument "docs" "d" [(hashKey, .string "new"), (pinnedKey, .bool true)] := rfl
  rcases h ["r"] replaced plain_replaced "old" htracks with ⟨index, id, hdescribes⟩
  rw [hcatalog] at hdescribes
  exact absurd (place_of_contentAt_oneDocument hdescribes).2 (by decide)

end Service
end ContentGateway
