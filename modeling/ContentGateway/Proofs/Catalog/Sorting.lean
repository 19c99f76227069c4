import ContentGateway.Proofs.Catalog.Paging

/-!
# Sorted results

A sorted search shows the documents that have the field first, in the order of their values in
the direction that is asked for, and the others behind them.  Documents that may stand either
way keep the order of their places, in both directions and across the pages.
-/

namespace ContentGateway
namespace Catalog

/-!
# Sorted documents
-/

/-- By its value one document comes before another; a document without a value comes last. -/
inductive Leads : SortDirection -> Option Json -> Option Json -> Prop where
  | ascending {x y : Json} : Json.order x y = some .lt -> Leads .ascending (some x) (some y)
  | descending {x y : Json} : Json.order x y = some .gt -> Leads .descending (some x) (some y)
  | present {direction : SortDirection} {x : Json} : Leads direction (some x) none

/-- The values of two documents do not tell which one comes first. -/
inductive Tie : Option Json -> Option Json -> Prop where
  | equal {x y : Json} : Json.order x y = some .eq -> Tie (some x) (some y)
  | missing : Tie none none

def valueUnder (c : Catalog) (field : String) (m : Metadata) : Option Json :=
  (c.document? m.index m.id).bind fun document => Table.get? document field

/-- In a sorted result one document stands before another: by their values, or else by their
places. -/
def StandsBefore (c : Catalog) (field : String) (direction : SortDirection) (a b : Metadata) :
    Prop :=
  Leads direction (c.valueUnder field a) (c.valueUnder field b) ∨
    Tie (c.valueUnder field a) (c.valueUnder field b) ∧ Before a.index a.id b.index b.id

theorem leads_or_tie {field : String} {direction : SortDirection} {hits : List Entry}
    (h : Json.Preordered (valuesOf field hits)) {a b : Entry} (ha : a ∈ hits) (hb : b ∈ hits)
    (hab : precedes field direction b a = false) :
    Leads direction (Table.get? a.document field) (Table.get? b.document field) ∨
      Tie (Table.get? a.document field) (Table.get? b.document field) ∧
        precedes field direction a b = false := by
  cases hy : Table.get? b.document field with
  | none =>
      cases hx : Table.get? a.document field with
      | none => exact Or.inr ⟨.missing, not_precedes_of_missing hx⟩
      | some x => exact Or.inl .present
  | some y =>
      rcases exists_value_of_not_precedes hab hy with ⟨x, hx⟩
      have hcomparable := h.comparable x (mem_valuesOf ha hx) y (mem_valuesOf hb hy)
      rw [not_precedes_of_values hx hy] at hab
      rw [not_precedes_of_values hy hx, hx]
      cases hxy : Json.order x y with
      | none => exact absurd hxy hcomparable
      | some o =>
          -- either direction is decided by the one comparison of the two values
          have hyx := Json.order_swap x y
          rw [hxy] at hyx
          cases direction with
          | ascending =>
              rw [valueOrder_ascending_ne_gt_iff, hxy] at hab
              rw [valueOrder_ascending_ne_gt_iff, hyx]
              cases o with
              | lt => exact Or.inl (.ascending hxy)
              | eq => exact Or.inr ⟨.equal hxy, by simp⟩
              | gt => exact absurd rfl hab
          | descending =>
              rw [valueOrder_descending, valueOrder_ascending_ne_gt_iff, hyx] at hab
              rw [valueOrder_descending, valueOrder_ascending_ne_gt_iff, hxy]
              cases o with
              | lt => exact absurd rfl hab
              | eq => exact Or.inr ⟨.equal hxy, by simp⟩
              | gt => exact Or.inl (.descending hxy)

namespace WellFormed

variable {c : Catalog}

theorem valueUnder_metadata (hc : c.WellFormed) {index : Option String} {query : Query}
    {e : Entry} (he : e ∈ c.hits index query) (field : String) :
    c.valueUnder field e.metadata = Table.get? e.document field := by
  have hentry := entries_subset c _ (List.mem_filter.mp he).1
  have hdocument : c.document? e.metadata.index e.metadata.id = some e.document :=
    hc.mem_entries_iff.mp hentry
  unfold valueUnder
  rw [hdocument]
  rfl

theorem exists_ranked (hc : c.WellFormed) {index : Option String} {query : Query} {field : String}
    (hvalues : Json.Preordered (valuesOf field (c.hits index query))) (size : Nat)
    (direction : SortDirection) : exists result,
      (forall n, c.ranked index query ⟨n, size, some field, direction⟩ = some result) ∧
        result.Perm ((c.hits index query).map Entry.metadata) ∧
        result.Pairwise (c.StandsBefore field direction) := by
  rcases hc.exists_arrange hvalues ⟨0, size, some field, direction⟩ rfl
    with ⟨arranged, harranged, hordered⟩
  have hperm := arrange_perm harranged
  refine ⟨arranged.map Entry.metadata, fun n => Option.map_eq_some_iff.mpr ⟨arranged, harranged, rfl⟩,
    hperm.map Entry.metadata, ?_⟩
  rw [List.pairwise_map]
  refine hordered.imp_of_mem ?_
  intro a b ha hb hab
  rw [hperm.mem_iff] at ha hb
  unfold StandsBefore
  rw [hc.valueUnder_metadata ha, hc.valueUnder_metadata hb]
  rcases leads_or_tie hvalues ha hb hab.1 with hleads | ⟨htie, hback⟩
  · exact Or.inl hleads
  · exact Or.inr ⟨htie, hab.2 hback⟩

/--
Whoever follows the pages of a sorted search to the last one has seen the matching documents,
each once and in the order of the request, provided that the values under the field compare
with one another.
-/
theorem pages_sorted (hc : c.WellFormed) (hfits : c.size ≤ largestWord)
    {index : Option String} (hindex : c.Reaches index) {query : Query} {field : String}
    (hvalues : Json.Preordered (valuesOf field (c.hits index query))) {size : Nat}
    (hsize : 0 < size) (direction : SortDirection) :
    (exists pages, Page.Chain (c.search index query) ⟨0, size, some field, direction⟩ pages) ∧
    forall pages, Page.Chain (c.search index query) ⟨0, size, some field, direction⟩ pages ->
      (pages.flatMap Page.elements).Perm ((c.hits index query).map Entry.metadata) ∧
        (pages.flatMap Page.elements).Pairwise (c.StandsBefore field direction) := by
  rcases hc.exists_ranked hvalues size direction with ⟨result, hranked, hperm, hordered⟩
  have hword : result.length ≤ largestWord := by
    rw [(ranked_perm (hranked 0)).length_eq]
    exact Nat.le_trans (c.length_found_le _ query) hfits
  have hsearch : forall n, c.search index query ⟨n, size, some field, direction⟩ =
      .ok (Page.slice result ⟨n, size, some field, direction⟩) := fun n =>
    search_eq_slice hindex (hranked n)
  constructor
  · exact Page.exists_chain hsearch hsize 0
  · intro pages hchain
    rcases hchain.covers hsearch hword hsize rfl with ⟨_, helements, _⟩
    rw [Nat.zero_mul, List.drop_zero] at helements
    rw [helements]
    exact ⟨hperm, hordered⟩

end WellFormed

def gradedFiles : Catalog :=
  ⟨[("files", ⟨none, [("1", [("grade", .nat 2)]), ("2", []), ("3", [("grade", .nat 1)])]⟩),
    ("pictures", ⟨none, [("1", [("grade", .nat 2)]), ("2", [])]⟩)], 0⟩

theorem pages_sorted_gradedFiles :
    Json.Preordered (valuesOf "grade" (gradedFiles.hits none .empty)) ∧
    (exists pages, Page.Chain (gradedFiles.search none .empty)
      ⟨0, 2, some "grade", .descending⟩ pages) ∧
    forall pages, Page.Chain (gradedFiles.search none .empty)
        ⟨0, 2, some "grade", .descending⟩ pages ->
      (pages.flatMap Page.elements).Perm ((gradedFiles.hits none .empty).map Entry.metadata) ∧
        (pages.flatMap Page.elements).Pairwise
          (gradedFiles.StandsBefore "grade" .descending) := by
  have hvalues : Json.Preordered (valuesOf "grade" (gradedFiles.hits none .empty)) := by
    constructor
    · decide +kernel
    · decide +kernel
  exact ⟨hvalues, WellFormed.pages_sorted (by decide) (by decide) (reaches_none _) hvalues
    (by decide) .descending⟩

end Catalog
end ContentGateway
