import ContentGateway.Proofs.Catalog.Holders
import ContentGateway.Proofs.Query.Order
import ContentGateway.Proofs.Sorting.Pivot

/-!
# Arranging documents

Documents are sorted by their values under a field.  Values that compare with one another let
them be sorted.  Of any other values this is only known for the short lists, where each
document is put behind those that it may follow.
-/

namespace ContentGateway
namespace Catalog

section Request

variable {field : String} {direction : SortDirection} {a b : Entry}

/-!
# The order of values
-/

theorem valueOrder_descending (x y : Json) :
    valueOrder .descending x y = valueOrder .ascending y x := by
  unfold valueOrder
  rw [Json.order_swap x y]
  cases Json.order x y with
  | none => rfl
  | some o => rfl

theorem valueOrder_swap (direction : SortDirection) (x y : Json) :
    valueOrder direction y x = (valueOrder direction x y).swap := by
  have hascending : forall u v, valueOrder .ascending v u = (valueOrder .ascending u v).swap := by
    intro u v
    unfold valueOrder
    rw [Json.order_swap u v]
    cases Json.order u v with
    | none => rfl
    | some o => rfl
  cases direction with
  | ascending => exact hascending x y
  | descending =>
      rw [valueOrder_descending, valueOrder_descending]
      exact hascending y x

theorem valueOrder_ascending_ne_gt_iff (x y : Json) :
    valueOrder .ascending x y ≠ .gt ↔ Json.order x y ≠ some .gt := by
  unfold valueOrder
  cases Json.order x y with
  | none => simp
  | some o => simp

theorem valueOrder_trans {values : List Json} (h : Json.Preordered values) {x y z : Json}
    (hx : x ∈ values) (hy : y ∈ values) (hz : z ∈ values)
    (hxy : valueOrder direction x y ≠ .gt) (hyz : valueOrder direction y z ≠ .gt) :
    valueOrder direction x z ≠ .gt := by
  cases direction with
  | ascending =>
      rw [valueOrder_ascending_ne_gt_iff] at *
      exact h.trans x hx y hy z hz hxy hyz
  | descending =>
      rw [valueOrder_descending, valueOrder_ascending_ne_gt_iff] at *
      exact h.trans z hz y hy x hx hyz hxy

/-!
# The order of documents
-/

theorem precedes_of_values {x y : Json} (ha : Table.get? a.document field = some x)
    (hb : Table.get? b.document field = some y) :
    precedes field direction a b = true ↔ valueOrder direction x y = .lt := by
  unfold precedes
  rw [ha, hb]
  exact beq_iff_eq

theorem not_precedes_of_values {x y : Json} (ha : Table.get? a.document field = some x)
    (hb : Table.get? b.document field = some y) :
    precedes field direction b a = false ↔ valueOrder direction x y ≠ .gt := by
  rw [← Bool.not_eq_true, precedes_of_values hb ha, valueOrder_swap direction x y]
  cases valueOrder direction x y with
  | lt => simp
  | eq => simp
  | gt => simp

theorem not_precedes_of_missing (hb : Table.get? b.document field = none) :
    precedes field direction b a = false := by
  unfold precedes
  rw [hb]

theorem exists_value_of_not_precedes (h : precedes field direction b a = false) {y : Json}
    (hb : Table.get? b.document field = some y) :
    exists x, Table.get? a.document field = some x := by
  cases ha : Table.get? a.document field with
  | some x => exact ⟨x, rfl⟩
  | none =>
      unfold precedes at h
      rw [ha, hb] at h
      cases h

theorem precedes_asymm (h : precedes field direction a b = true) :
    precedes field direction b a = false := by
  cases hb : Table.get? b.document field with
  | none => exact not_precedes_of_missing hb
  | some y =>
      cases ha : Table.get? a.document field with
      | none =>
          rw [not_precedes_of_missing ha] at h
          cases h
      | some x =>
          rw [precedes_of_values ha hb] at h
          rw [not_precedes_of_values ha hb, h]
          exact Ordering.noConfusion

def valuesOf (field : String) (hits : List Entry) : List Json :=
  hits.filterMap fun e => Table.get? e.document field

theorem mem_valuesOf {hits : List Entry} {e : Entry} (he : e ∈ hits) {x : Json}
    (hx : Table.get? e.document field = some x) : x ∈ valuesOf field hits :=
  List.mem_filterMap.mpr ⟨e, he, hx⟩

/-- Values that compare with one another order the documents. -/
theorem precedes_orders {hits : List Entry} (h : Json.Preordered (valuesOf field hits)) :
    Sorting.Orders (precedes field direction) hits where
  asymm _ _ _ _ hab := precedes_asymm hab
  trans a ha b hb c hc hba hcb := by
    cases hz : Table.get? c.document field with
    | none => exact not_precedes_of_missing hz
    | some z =>
        rcases exists_value_of_not_precedes hcb hz with ⟨y, hy⟩
        rcases exists_value_of_not_precedes hba hy with ⟨x, hx⟩
        rw [not_precedes_of_values hx hy] at hba
        rw [not_precedes_of_values hy hz] at hcb
        rw [not_precedes_of_values hx hz]
        exact valueOrder_trans h (mem_valuesOf ha hx) (mem_valuesOf hb hy) (mem_valuesOf hc hz)
          hba hcb

end Request

/-!
# Arranging the hits of a search
-/

/-- The documents in the scope of a search that satisfy its query, in the order of their places. -/
def hits (c : Catalog) (index : Option String) (query : Query) : List Entry :=
  (c.entries (scope index)).filter fun e => query.holds e.document

theorem WellFormed.hits_ordered {c : Catalog} (hc : c.WellFormed) (index : Option String)
    (query : Query) :
    (c.hits index query).Pairwise fun a b => Before a.index a.id b.index b.id := by
  unfold hits
  exact (hc.entries_ordered (scope index)).filter _

theorem arrange_of_sort {request : PageRequest} {field : String}
    (hsort : request.sort = some field) (hits : List Entry) :
    arrange request hits = Sorting.sort (precedes field request.direction) hits := by
  unfold arrange
  rw [hsort]

/-- Documents that may stand either way keep the order of their places. -/
theorem WellFormed.exists_arrange {c : Catalog} (hc : c.WellFormed) {index : Option String}
    {query : Query} {field : String}
    (hvalues : Json.Preordered (valuesOf field (c.hits index query))) (request : PageRequest)
    (hsort : request.sort = some field) :
    exists arranged, arrange request (c.hits index query) = some arranged ∧
      arranged.Pairwise fun a b => precedes field request.direction b a = false ∧
        (precedes field request.direction a b = false -> Before a.index a.id b.index b.id) := by
  rw [arrange_of_sort hsort]
  exact Sorting.exists_sort (precedes_orders hvalues) (hc.hits_ordered index query)

/-- An arrangement fails only for many documents whose values do not compare with one another. -/
theorem WellFormed.arrange_eq_none {c : Catalog} (hc : c.WellFormed) {index : Option String}
    {query : Query} {request : PageRequest} (h : arrange request (c.hits index query) = none) :
    exists field, request.sort = some field ∧
      Sorting.insertionSize < (c.hits index query).length ∧
      ¬ Json.Preordered (valuesOf field (c.hits index query)) := by
  cases hsort : request.sort with
  | none =>
      unfold arrange at h
      rw [hsort] at h
      cases h
  | some field =>
      refine ⟨field, rfl, ?_, ?_⟩
      · apply Nat.not_le.mp
        intro hshort
        rcases Sorting.exists_sort_of_short (precedes field request.direction) hshort
          with ⟨s, hs⟩
        rw [arrange_of_sort hsort, hs] at h
        cases h
      · intro hvalues
        rcases hc.exists_arrange hvalues request hsort with ⟨arranged, harranged, _⟩
        rw [harranged] at h
        cases h

end Catalog
end ContentGateway
