import ContentGateway.Proofs.Service.Runs

/-!
# Removals within a window

What a removal does to the flags in a depot whose searches end at a window.  The documents
that share the content are walked through page by page, and the flags have no influence on
what is on a page, so the pages lie further and further behind.  The first one that reaches
beyond the window ends the walk, and the documents from there on keep their flags.
-/

namespace ContentGateway

/-!
# The indexer within a window
-/

namespace Depot

def fitsWindow (w : Nat) (request : PageRequest) : Bool :=
  decide (request.offset + request.size ≤ w)

/-- No fault strikes searches and changes of fields, and searches end at a window. -/
structure Windowed (w : Nat) (d : Depot) : Prop where
  search : Table.get? d.faults "indexer.search" = none
  setField : Table.get? d.faults "indexer.update_field" = none
  window : d.window = some w

theorem Windowed.shows_eq {w : Nat} {d : Depot} (h : Windowed w d) (request : PageRequest) :
    d.shows request = fitsWindow w request := by
  unfold shows fitsWindow
  rw [h.window, Option.all_some]

theorem keepsWithin_indexer (w : Nat) :
    KeepsWithin (fitsWindow w) indexer Depot.catalog Quiet (Windowed w) where
  refl := Quiet.refl
  trans := Quiet.trans
  catalog_of_quiet := by
    rintro d _ ⟨calls, rfl⟩
    rfl
  ready_of_quiet := by
    rintro d _ ⟨calls, rfl⟩ hd
    exact ⟨hd.search, hd.setField, hd.window⟩
  search := by
    intro d hd index query request
    refine ⟨_, _, search_run hd.search index query request, ⟨_, rfl⟩, ?_⟩
    rw [hd.shows_eq]
    cases fitsWindow w request with
    | true => rfl
    | false => exact ⟨_, rfl⟩
  setField := by
    intro d hd index id key value
    exact ⟨_, setField_apply hd.setField index id key value, rfl,
      hd.search, hd.setField, hd.window⟩

end Depot

namespace Service

/-!
# The pages within a window
-/

/-- How many documents there are on the pages that lie within a window. -/
def reach (w : Nat) : Nat :=
  w / sharedPageSize * sharedPageSize

theorem fitsWindow_of_lt {w page : Nat} (h : page < w / sharedPageSize) :
    Depot.fitsWindow w (sharedPage page) = true := by
  have hpage : (page + 1) * sharedPageSize ≤ w :=
    (Nat.le_div_iff_mul_le (by decide)).mp h
  rw [Nat.succ_mul] at hpage
  apply decide_eq_true
  exact Nat.le_trans (Nat.add_le_add_right (Nat.min_le_left _ _) _) hpage

theorem fitsWindow_end (w : Nat) {count : Nat} (hcount : count ≤ largestWord) :
    Depot.fitsWindow w (sharedPage (w / sharedPageSize)) = false ∨ count ≤ reach w := by
  -- offsets stand still at the largest word, but there are no documents beyond it
  rcases Nat.le_total (reach w) largestWord with hle | hge
  · refine Or.inl (decide_eq_false ?_)
    have hoffset : (sharedPage (w / sharedPageSize)).offset = reach w :=
      PageRequest.offset_of_le hle
    show ¬ (sharedPage (w / sharedPageSize)).offset + sharedPageSize ≤ w
    rw [hoffset]
    unfold reach sharedPageSize
    omega
  · exact Or.inr (Nat.le_trans hcount hge)

/-!
# The documents that share the content
-/

def sharers (c : Catalog) (contentId : String) : List Metadata :=
  c.found none (contentQuery contentId)

def Flagged (contentId : String) (document : Fields) : Prop :=
  contentOf document = some contentId ∧ Table.get? document pinnedKey = some (.bool true)

def NoneFlagged (c : Catalog) (contentId : String) : Prop :=
  forall index id document, c.document? index id = some document -> ¬ Flagged contentId document

theorem holds_of_contentOf {document : Fields} {contentId : String}
    (h : contentOf document = some contentId) :
    (contentQuery contentId).holds document = true := by
  rcases Option.bind_eq_some_iff.mp h with ⟨value, hvalue, hstring⟩
  unfold contentQuery
  rw [Query.holds_equals, hvalue, Option.any_some]
  cases value with
  | string text =>
      rw [Option.some.inj hstring, Json.termEq_string]
      exact beq_self_eq_true contentId
  | null => cases hstring
  | bool _ => cases hstring
  | number _ => cases hstring
  | array _ => cases hstring
  | object _ => cases hstring

theorem document?_unflagged_take {c : Catalog} (hc : c.WellFormed) (contentId : String) (n : Nat)
    {m : Metadata} (hm : m ∈ (sharers c contentId).drop n) :
    (unflagged c ((sharers c contentId).take n)).document? m.index m.id =
      c.document? m.index m.id := by
  have hpairwise := hc.found_pairwise none (contentQuery contentId)
  rw [← List.take_append_drop n (c.found none (contentQuery contentId))] at hpairwise
  rw [document?_unflagged, if_neg]
  rintro ⟨m', hm', hindex, hid⟩
  exact (List.pairwise_append.mp hpairwise).2.2 m' hm' m hm ⟨hindex, hid⟩

/-- Flagging the first `n` sharers is enough exactly if none of the others is flagged. -/
theorem noneFlagged_unflagged_iff {c : Catalog} (hc : c.WellFormed) (contentId : String)
    (n : Nat) :
    NoneFlagged (unflagged c ((sharers c contentId).take n)) contentId ↔
      forall m, m ∈ (sharers c contentId).drop n ->
        forall document, c.document? m.index m.id = some document ->
          ¬ Flagged contentId document := by
  constructor
  · intro h m hm document hdocument
    rw [← document?_unflagged_take hc contentId n hm] at hdocument
    exact h m.index m.id document hdocument
  · rintro h index id document hdocument ⟨hcontent, hpinned⟩
    rw [document?_unflagged] at hdocument
    split at hdocument
    · rcases Option.map_eq_some_iff.mp hdocument with ⟨old, hold, rfl⟩
      rw [get?_flagged, if_pos rfl] at hpinned
      cases hpinned
    · next habsent =>
        -- it is found, and not among the first `n`
        have hfound : Metadata.ofDocument index id document ∈ sharers c contentId :=
          hc.mem_found_of_document? hdocument (holds_of_contentOf hcontent)
        rw [← List.take_append_drop n (sharers c contentId)] at hfound
        rcases List.mem_append.mp hfound with htake | hdrop
        · exact habsent ⟨_, htake, rfl, rfl⟩
        · exact h _ hdrop document hdocument ⟨hcontent, hpinned⟩

theorem noneFlagged_unflagged_iff_length {c : Catalog} (hc : c.WellFormed) {contentId : String}
    (n : Nat)
    (hall : forall m, m ∈ sharers c contentId ->
      forall document, c.document? m.index m.id = some document -> Flagged contentId document) :
    NoneFlagged (unflagged c ((sharers c contentId).take n)) contentId ↔
      (sharers c contentId).length ≤ n := by
  rw [noneFlagged_unflagged_iff hc, ← List.drop_eq_nil_iff]
  constructor
  · intro h
    rw [List.eq_nil_iff_forall_not_mem]
    intro m hm
    have hshared : m ∈ sharers c contentId := List.mem_of_mem_drop hm
    rcases hc.mem_found hshared with ⟨document, hdocument, _⟩
    exact h m hm document hdocument (hall m hshared document hdocument)
  · intro hnil m hm
    rw [hnil] at hm
    cases hm

/-!
# Releasing the content
-/

theorem catalog_release {d : Depot} {w : Nat} (hd : d.Windowed w) (hc : d.catalog.WellFormed)
    (hfits : d.catalog.size ≤ largestWord) (hreplicas : d.replicas ≠ []) (contentId : String) :
    (release (Depot.backends d.replicaNames) contentId d).2.catalog =
      unflagged d.catalog ((sharers d.catalog contentId).take (reach w)) := by
  have hasked : (d.asked ".unpin" contentId fun r => r.unpin contentId).Windowed w :=
    ⟨hd.search, hd.setField, hd.window⟩
  have hunpin : unpinEverywhere (Depot.backends d.replicaNames).storage.replicas contentId d =
      (firstFailure (unpinAnswers d contentId),
        d.asked ".unpin" contentId fun r => r.unpin contentId) :=
    Depot.unpinEverywhere_apply d contentId
  have hfound : (d.catalog.found none (contentQuery contentId)).length ≤ largestWord :=
    Nat.le_trans (Catalog.length_found_le _ _ _) hfits
  rcases releaseShared_within (b := Depot.backends d.replicaNames) (Depot.keepsWithin_indexer w)
      hasked hc hfits contentId (fun _ => fitsWindow_of_lt) (fitsWindow_end w hfound) with
    ⟨v, hshared, hcatalog, _⟩
  unfold release
  rw [Action.bind_apply, Action.sure_apply, hunpin]
  simp only
  rw [isEmpty_backends, List.isEmpty_eq_false_iff.mpr hreplicas]
  simp only [Bool.not_false, if_true]
  rw [Action.bind_apply, Action.sure_apply, hshared]
  cases firstFailure (unpinAnswers d contentId) with
  | none => exact hcatalog
  | some failure => exact hcatalog

section

variable {d : Depot} {w : Nat} {index id contentId : String} {document : Fields}

theorem catalog_deindex (hc : d.catalog.WellFormed) (hfits : d.catalog.size ≤ largestWord)
    (hfaults : d.faults = []) (hwindow : d.window = some w) (hreplicas : d.replicas ≠ [])
    (hindex : nonBlank (some index) ≠ none) (hid : nonBlank (some id) ≠ none)
    (hdocument : d.catalog.document? (lowerCase index) id = some document)
    (hcontent : contentOf document = some contentId) :
    (deindex (Depot.backends d.replicaNames) index id d).2.catalog =
      unflagged (d.catalog.without (lowerCase index) id)
        ((sharers (d.catalog.without (lowerCase index) id) contentId).take (reach w)) := by
  have hwindowed : ((d.withCatalog (d.catalog.without (lowerCase index) id)).journaled
      [removeEntry index id, fetchEntry index id]).Windowed w := by
    refine ⟨?_, ?_, hwindow⟩
    · rw [Depot.journaled_faults, Depot.withCatalog_faults, hfaults]
      rfl
    · rw [Depot.journaled_faults, Depot.withCatalog_faults, hfaults]
      rfl
  have hrelease := catalog_release hwindowed (hc.without (lowerCase index) id)
    (Nat.le_trans (hc.size_without_le _ _) hfits) hreplicas contentId
  rw [deindex_apply hindex hid, fault_of_no_faults hfaults, fault_of_no_faults hfaults, hdocument]
  simp only
  rw [hcontent, afterRemoval_world]
  exact hrelease

/-!
# Removals
-/

/--
What the removal of a document that describes `contentId` leaves in the catalog, where searches
end at the window `w`.
-/
structure RequeuedWithin (w : Nat) (d : Depot) (index id contentId : String) (c : Catalog) :
    Prop where
  removed : c.document? (lowerCase index) id = none
  /-- Every other document is as it was, but for the flags of the sharers that are reached. -/
  others : forall i j, ¬ (lowerCase index = i ∧ id = j) ->
    c.document? i j =
      if exists m,
          m ∈ (sharers (d.catalog.without (lowerCase index) id) contentId).take (reach w) ∧
            m.index = i ∧ m.id = j then
        (d.catalog.document? i j).map (flagged false)
      else d.catalog.document? i j
  /-- No flag is left exactly if none of the sharers further behind was flagged. -/
  noneFlagged_iff : NoneFlagged c contentId ↔
    forall m, m ∈ (sharers (d.catalog.without (lowerCase index) id) contentId).drop (reach w) ->
      forall other, d.catalog.document? m.index m.id = some other -> ¬ Flagged contentId other
  /-- Where all of them were flagged, no flag is left exactly if all of them are reached. -/
  noneFlagged_iff_length :
    (forall m, m ∈ sharers (d.catalog.without (lowerCase index) id) contentId ->
      forall other, d.catalog.document? m.index m.id = some other -> Flagged contentId other) ->
    (NoneFlagged c contentId ↔
      (sharers (d.catalog.without (lowerCase index) id) contentId).length ≤ reach w)

/--
The effect of a removal on the flags of what shares the content, where searches end at a window
and nothing else fails.
-/
theorem deindex_within_window (hc : d.catalog.WellFormed) (hfits : d.catalog.size ≤ largestWord)
    (hfaults : d.faults = []) (hwindow : d.window = some w) (hreplicas : d.replicas ≠ [])
    (hindex : nonBlank (some index) ≠ none) (hid : nonBlank (some id) ≠ none)
    (hdocument : d.catalog.document? (lowerCase index) id = some document)
    (hcontent : contentOf document = some contentId) :
    RequeuedWithin w d index id contentId
      (deindex (Depot.backends d.replicaNames) index id d).2.catalog := by
  have hremaining := hc.without (lowerCase index) id
  -- what is walked through stands elsewhere than the document that is gone
  have hkept : forall m, m ∈ sharers (d.catalog.without (lowerCase index) id) contentId ->
      (d.catalog.without (lowerCase index) id).document? m.index m.id =
        d.catalog.document? m.index m.id := by
    intro m hm
    rcases hremaining.mem_found hm with ⟨other, hother, _⟩
    rw [Catalog.document?_without] at hother ⊢
    split at hother
    · cases hother
    · next hplace => rw [if_neg hplace]
  rw [catalog_deindex hc hfits hfaults hwindow hreplicas hindex hid hdocument hcontent]
  constructor
  · have hgone :
        (d.catalog.without (lowerCase index) id).document? (lowerCase index) id = none := by
      rw [Catalog.document?_without, if_pos ⟨rfl, rfl⟩]
    rw [document?_unflagged, hgone]
    split
    · rfl
    · rfl
  · intro i j hother
    rw [document?_unflagged, Catalog.document?_without, if_neg hother]
  · rw [noneFlagged_unflagged_iff hremaining]
    constructor
    · intro h m hm other hlook
      exact h m hm other ((hkept m (List.mem_of_mem_drop hm)).trans hlook)
    · intro h m hm other hlook
      exact h m hm other ((hkept m (List.mem_of_mem_drop hm)).symm.trans hlook)
  · intro hall
    apply noneFlagged_unflagged_iff_length hremaining
    intro m hm other hlook
    exact hall m hm other ((hkept m hm).symm.trans hlook)

end

def pinnedDocument : Fields :=
  [(hashKey, .string "c"), (pinnedKey, .bool true)]

def crowd : Table Fields :=
  (List.range 52).map fun n => (String.singleton (Char.ofNat (65 + n)), pinnedDocument)

def crowded : Depot :=
  { Depot.ofReplicas [⟨"r", [("c", ())], [], 0, [], false⟩] with
    catalog := ⟨[("docs", ⟨none, crowd⟩)], 0⟩
    window := some sharedPageSize }

theorem wellFormed_crowded : crowded.catalog.WellFormed := by
  decide +kernel

theorem size_crowded : crowded.catalog.size ≤ largestWord := by
  decide +kernel

theorem document_crowded_a : crowded.catalog.document? (lowerCase "docs") "A" =
    some pinnedDocument := rfl

theorem flagged_crowded {index id : String} {document : Fields}
    (h : crowded.catalog.document? index id = some document) : Flagged "c" document := by
  rcases Option.bind_eq_some_iff.mp h with ⟨shelf, hshelf, hdocument⟩
  have hdocs := List.mem_singleton.mp (Table.mem_of_get? hshelf)
  rw [(Prod.mk.inj hdocs).2] at hdocument
  rcases List.mem_map.mp (Table.mem_of_get? hdocument) with ⟨n, _, hn⟩
  rw [← (Prod.mk.inj hn).2]
  exact ⟨rfl, rfl⟩

theorem length_sharers_crowded :
    (sharers (crowded.catalog.without (lowerCase "docs") "A") "c").length = 51 := by
  decide +kernel

theorem deindex_within_window_crowded :
    RequeuedWithin sharedPageSize crowded "docs" "A" "c"
        (deindex (Depot.backends crowded.replicaNames) "docs" "A" crowded).2.catalog ∧
      ¬ NoneFlagged (deindex (Depot.backends crowded.replicaNames) "docs" "A" crowded).2.catalog
        "c" := by
  have h := deindex_within_window wellFormed_crowded size_crowded rfl rfl (List.cons_ne_nil _ _)
    (by decide) (by decide) document_crowded_a rfl
  refine ⟨h, ?_⟩
  rw [h.noneFlagged_iff_length fun m _ _ => flagged_crowded, length_sharers_crowded]
  decide

/-- Documents that share the content can stay flagged. -/
theorem flags_outlive_window :
    ¬ forall (d : Depot) (w : Nat) (index id contentId : String) (document : Fields),
      d.catalog.WellFormed -> d.catalog.size ≤ largestWord -> d.faults = [] ->
      d.window = some w -> sharedPageSize ≤ w -> d.replicas ≠ [] ->
      nonBlank (some index) ≠ none -> nonBlank (some id) ≠ none ->
      d.catalog.document? (lowerCase index) id = some document ->
      contentOf document = some contentId ->
      (forall i j other, d.catalog.document? i j = some other ->
        contentOf other = some contentId -> Table.get? other pinnedKey = some (.bool true)) ->
        NoneFlagged (deindex (Depot.backends d.replicaNames) index id d).2.catalog contentId := by
  intro h
  have hnone := h crowded sharedPageSize "docs" "A" "c" pinnedDocument wellFormed_crowded
    size_crowded rfl rfl (Nat.le_refl _) (List.cons_ne_nil _ _) (by decide) (by decide)
    document_crowded_a rfl fun _ _ _ hother _ => (flagged_crowded hother).2
  have hall : forall m,
      m ∈ sharers (crowded.catalog.without (lowerCase "docs") "A") "c" ->
        forall other, (crowded.catalog.without (lowerCase "docs") "A").document? m.index m.id =
          some other -> Flagged "c" other := by
    intro m _ other hother
    rw [Catalog.document?_without] at hother
    split at hother
    · cases hother
    · exact flagged_crowded hother
  rw [catalog_deindex wellFormed_crowded size_crowded rfl rfl (List.cons_ne_nil _ _) (by decide)
    (by decide) document_crowded_a rfl,
    noneFlagged_unflagged_iff_length (wellFormed_crowded.without _ _) _ hall,
    length_sharers_crowded] at hnone
  exact absurd hnone (by decide)

end Service
end ContentGateway
