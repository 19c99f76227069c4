import ContentGateway.Proofs.Catalog.Search

/-!
# Documents that hold a content

Documents stand in order of index and id, and so do those of a scope that hold a content.
The first of them is the first one that a search for the content finds.
-/

namespace ContentGateway
namespace Catalog

/-!
# The order of documents
-/

/-- The place of one document comes before the place of another: by index, and then by id. -/
def Before (i j i' j' : String) : Prop :=
  i < i' ∨ (i = i' ∧ j < j')

theorem WellFormed.entries_ordered {c : Catalog} (hc : c.WellFormed) (target : Option String) :
    (c.entries target).Pairwise fun a b => Before a.index a.id b.index b.id := by
  have hall : (c.entries none).Pairwise fun a b => Before a.index a.id b.index b.id := by
    rw [entries_none, List.pairwise_flatMap]
    constructor
    · intro s hs
      unfold entriesOf
      rw [List.pairwise_map]
      exact (hc.documents s hs).imp fun hlt => Or.inr ⟨rfl, hlt⟩
    · refine hc.shelves.imp ?_
      intro s t hlt a ha b hb
      rw [index_of_mem_entriesOf ha, index_of_mem_entriesOf hb]
      exact Or.inl hlt
  cases target with
  | none => exact hall
  | some index =>
      rw [entries_some]
      exact hall.filter _

/-!
# Holders
-/

structure Holder (c : Catalog) (target : Option String) (contentId index id : String)
    (document : Fields) : Prop where
  present : c.document? index id = some document
  holds : ContentGateway.contentOf document = some contentId
  inScope : forall name, target = some name -> index = name

/-- The first document in a scope that holds a content. -/
structure FirstHolder (c : Catalog) (target : Option String) (contentId index id : String)
    (document : Fields) : Prop extends Holder c target contentId index id document where
  first : forall i j other, Holder c target contentId i j other ->
    (i = index ∧ j = id) ∨ Before index id i j

theorem Holder.index_eq {c : Catalog} {name contentId index id : String} {document : Fields}
    (h : Holder c (scope (some name)) contentId index id document)
    (hname : lowerCase name ≠ allIndices) : index = lowerCase name := by
  apply h.inScope
  simp [scope, hname]

section Searching

variable {c : Catalog} (hc : c.WellFormed)
  (hdescribed : forall {i j document}, c.document? i j = some document -> Described document)
include hc hdescribed

theorem mem_holding_iff {target : Option String} {contentId : String} {e : Entry} :
    e ∈ (c.entries target).filter
        (fun e => (Query.empty.equals hashKey (.string contentId)).holds e.document) ↔
      Holder c target contentId e.index e.id e.document := by
  have hscope : e ∈ c.entries target ↔
      e ∈ c.entries none ∧ forall name, target = some name -> e.index = name := by
    cases target with
    | none => simp
    | some index =>
        rw [entries_some, List.mem_filter, beq_iff_eq]
        simp [eq_comm]
  rw [List.mem_filter, hscope, hc.mem_entries_iff]
  constructor
  · intro h
    exact ⟨h.1.1, ((hdescribed h.1.1).holds_hash_iff contentId).mp h.2, h.1.2⟩
  · intro h
    exact ⟨⟨h.present, h.inScope⟩, ((hdescribed h.present).holds_hash_iff contentId).mpr h.holds⟩

/-- A search for a content finds nothing, and then there is no holder, or the first holder first. -/
theorem found_holding (target : Option String) (contentId : String) :
    (c.found target (Query.empty.equals hashKey (.string contentId)) = [] ∧
      forall index id document, ¬ Holder c target contentId index id document) ∨
    exists index id document rest,
      c.found target (Query.empty.equals hashKey (.string contentId)) =
          Metadata.ofDocument index id document :: rest ∧
        FirstHolder c target contentId index id document := by
  have hordered := (hc.entries_ordered target).filter
    fun e => (Query.empty.equals hashKey (.string contentId)).holds e.document
  have hmem : forall e : Entry, e ∈ (c.entries target).filter
      (fun e => (Query.empty.equals hashKey (.string contentId)).holds e.document) ↔
        Holder c target contentId e.index e.id e.document :=
    fun _ => mem_holding_iff hc hdescribed
  unfold found
  cases hhits : (c.entries target).filter
      fun e => (Query.empty.equals hashKey (.string contentId)).holds e.document with
  | nil =>
      rw [hhits] at hmem
      apply Or.inl
      constructor
      · rfl
      · exact fun index id document hholder =>
          List.not_mem_nil ((hmem ⟨index, id, document⟩).mpr hholder)
  | cons e rest =>
      rw [hhits] at hmem hordered
      apply Or.inr
      refine ⟨e.index, e.id, e.document, rest.map Entry.metadata, rfl, ?_, ?_⟩
      · exact (hmem e).mp (List.mem_cons_self ..)
      · intro i j other hholder
        rcases List.mem_cons.mp ((hmem ⟨i, j, other⟩).mpr hholder) with heq | hrest
        · exact Or.inl (heq ▸ ⟨rfl, rfl⟩)
        · exact Or.inr (List.rel_of_pairwise_cons hordered hrest)

end Searching

end Catalog
end ContentGateway
