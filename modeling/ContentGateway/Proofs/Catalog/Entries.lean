import Mathlib.Data.List.Basic
import ContentGateway.Catalog
import ContentGateway.Proofs.LowerCase
import ContentGateway.Proofs.Table

/-!
# The documents of a catalog

A catalog read in two ways: by look-ups, and as the list of its entries in order.  For
a well-formed catalog both say the same, and every change of one document changes one
look-up and one entry.
-/

namespace ContentGateway
namespace Catalog

/-- Names and ids stand in order, and the names of indices are in lower case. -/
structure WellFormed (c : Catalog) : Prop where
  shelves : Table.Ordered c.shelves
  documents : forall s, s ∈ c.shelves -> Table.Ordered s.2.documents
  named : forall s, s ∈ c.shelves -> lowerCase s.1 = s.1

instance (c : Catalog) : Decidable c.WellFormed :=
  decidable_of_iff
    (Table.Ordered c.shelves ∧ (forall s, s ∈ c.shelves -> Table.Ordered s.2.documents) ∧
      forall s, s ∈ c.shelves -> lowerCase s.1 = s.1)
    ⟨fun h => ⟨h.1, h.2.1, h.2.2⟩, fun h => ⟨h.shelves, h.documents, h.named⟩⟩

def size (c : Catalog) : Nat :=
  (c.entries none).length

theorem wellFormed_empty : WellFormed empty where
  shelves := List.Pairwise.nil
  documents := by
    intro s hs
    cases hs
  named := by
    intro s hs
    cases hs

namespace WellFormed

variable {c : Catalog}

theorem lowerCase_name (hc : c.WellFormed) {index : String} (h : index ∈ c.indexNames) :
    lowerCase index = index := by
  rcases List.mem_map.mp h with ⟨s, hs, rfl⟩
  exact hc.named s hs

theorem shelf_documents (hc : c.WellFormed) {index : String} {shelf : Shelf}
    (h : Table.get? c.shelves index = some shelf) : Table.Ordered shelf.documents :=
  hc.documents _ (Table.mem_of_get? h)

end WellFormed

/-!
# Look-ups
-/

theorem mem_indexNames_iff {c : Catalog} {index : String} :
    index ∈ c.indexNames ↔ exists shelf, Table.get? c.shelves index = some shelf := by
  unfold indexNames
  rw [← Table.contains_iff_mem_keys, Table.contains, Option.isSome_iff_exists]

theorem mem_indexNames_of_document? {c : Catalog} {index id : String} {document : Fields}
    (h : c.document? index id = some document) : index ∈ c.indexNames := by
  rw [mem_indexNames_iff]
  unfold document? at h
  cases hshelf : Table.get? c.shelves index with
  | none => simp [hshelf] at h
  | some shelf => exact ⟨shelf, rfl⟩

theorem withDocuments_of_absent {c : Catalog} {index : String}
    (h : Table.get? c.shelves index = none) (change : Table Fields -> Table Fields) :
    c.withDocuments index change = c := by
  unfold withDocuments
  rw [h]

theorem withDocuments_of_present {c : Catalog} {index : String} {shelf : Shelf}
    (h : Table.get? c.shelves index = some shelf) (change : Table Fields -> Table Fields) :
    c.withDocuments index change =
      ⟨Table.insert c.shelves index ⟨shelf.configuration, change shelf.documents⟩, c.issued⟩ := by
  unfold withDocuments
  rw [h]

theorem document?_withDocuments (c : Catalog) (index : String)
    (change : Table Fields -> Table Fields) (i id : String) :
    (c.withDocuments index change).document? i id =
      if index = i then
        (Table.get? c.shelves index).bind fun s => Table.get? (change s.documents) id
      else c.document? i id := by
  cases hshelf : Table.get? c.shelves index with
  | none =>
      rw [withDocuments_of_absent hshelf]
      split
      · next h =>
          subst h
          simp [document?, hshelf]
      · rfl
  | some shelf =>
      rw [withDocuments_of_present hshelf]
      unfold document?
      rw [Table.get?_insert]
      split
      · rfl
      · rfl

theorem document?_store {c : Catalog} {index : String} (h : index ∈ c.indexNames)
    (id : String) (document : Fields) (i j : String) :
    (c.store index id document).document? i j =
      if index = i ∧ id = j then some document else c.document? i j := by
  rcases mem_indexNames_iff.mp h with ⟨shelf, hshelf⟩
  unfold store
  rw [document?_withDocuments, hshelf]
  simp only [Option.bind_some, Table.get?_insert]
  by_cases hi : index = i
  · subst hi
    by_cases hj : id = j
    · simp [hj]
    · simp [hj, document?, hshelf]
  · simp [hi]

def without (c : Catalog) (index id : String) : Catalog :=
  c.withDocuments index fun documents => Table.erase documents id

theorem document?_without (c : Catalog) (index id i j : String) :
    (c.without index id).document? i j =
      if index = i ∧ id = j then none else c.document? i j := by
  unfold without
  rw [document?_withDocuments]
  by_cases hi : index = i
  · subst hi
    rw [if_pos rfl]
    simp only [Table.get?_erase, true_and]
    cases hshelf : Table.get? c.shelves index with
    | none => simp [document?, hshelf]
    | some shelf => simp [document?, hshelf]
  · simp [hi]

theorem createIndex_of_present {c : Catalog} {index : String}
    (h : lowerCase index ∈ c.indexNames) (configuration : Option Json) :
    c.createIndex index configuration = c := by
  have hcontains : Table.contains c.shelves (lowerCase index) = true :=
    Table.contains_iff_mem_keys.mpr h
  simp only [createIndex, hcontains, if_true]

theorem createIndex_of_absent {c : Catalog} {index : String}
    (h : lowerCase index ∉ c.indexNames) (configuration : Option Json) :
    c.createIndex index configuration =
      ⟨Table.insert c.shelves (lowerCase index) ⟨configuration, []⟩, c.issued⟩ := by
  have hcontains : ¬ Table.contains c.shelves (lowerCase index) = true :=
    fun hmem => h (Table.contains_iff_mem_keys.mp hmem)
  simp only [createIndex, if_neg hcontains]

theorem document?_createIndex (c : Catalog) (index : String) (configuration : Option Json)
    (i id : String) : (c.createIndex index configuration).document? i id = c.document? i id := by
  by_cases hpresent : lowerCase index ∈ c.indexNames
  · rw [createIndex_of_present hpresent]
  · rw [createIndex_of_absent hpresent]
    cases hshelf : Table.get? c.shelves (lowerCase index) with
    | some shelf => exact absurd (mem_indexNames_iff.mpr ⟨shelf, hshelf⟩) hpresent
    | none =>
        unfold document?
        rw [Table.get?_insert]
        split
        · next h =>
            subst h
            rw [hshelf]
            rfl
        · rfl

/-!
# Changes keep a catalog well-formed
-/

namespace WellFormed

variable {c : Catalog}

theorem withDocuments (hc : c.WellFormed) (index : String)
    {change : Table Fields -> Table Fields}
    (hchange : forall documents, Table.Ordered documents -> Table.Ordered (change documents)) :
    (c.withDocuments index change).WellFormed := by
  cases hshelf : Table.get? c.shelves index with
  | none =>
      rw [withDocuments_of_absent hshelf]
      exact hc
  | some shelf =>
      rw [withDocuments_of_present hshelf]
      have hmem : (index, shelf) ∈ c.shelves := Table.mem_of_get? hshelf
      refine ⟨hc.shelves.insert _ _, ?_, ?_⟩
      · intro s hs
        rcases Table.mem_of_mem_insert hs with rfl | hold
        · exact hchange _ (hc.documents _ hmem)
        · exact hc.documents s hold
      · intro s hs
        rcases Table.mem_of_mem_insert hs with rfl | hold
        · exact hc.named (index, shelf) hmem
        · exact hc.named s hold

theorem store (hc : c.WellFormed) (index id : String) (document : Fields) :
    (c.store index id document).WellFormed :=
  hc.withDocuments index fun _ h => h.insert id document

theorem without (hc : c.WellFormed) (index id : String) : (c.without index id).WellFormed :=
  hc.withDocuments index fun _ h => h.erase id

theorem createIndex (hc : c.WellFormed) (index : String) (configuration : Option Json) :
    (c.createIndex index configuration).WellFormed := by
  by_cases hpresent : lowerCase index ∈ c.indexNames
  · rw [createIndex_of_present hpresent]
    exact hc
  · rw [createIndex_of_absent hpresent]
    refine ⟨hc.shelves.insert _ _, ?_, ?_⟩
    · intro s hs
      rcases Table.mem_of_mem_insert hs with rfl | hold
      · exact List.Pairwise.nil
      · exact hc.documents s hold
    · intro s hs
      rcases Table.mem_of_mem_insert hs with rfl | hold
      · exact lowerCase_lowerCase index
      · exact hc.named s hold

end WellFormed

theorem indexNames_withDocuments {c : Catalog} (hc : c.WellFormed) (index : String)
    (change : Table Fields -> Table Fields) :
    (c.withDocuments index change).indexNames = c.indexNames := by
  cases hshelf : Table.get? c.shelves index with
  | none => rw [withDocuments_of_absent hshelf]
  | some shelf =>
      rw [withDocuments_of_present hshelf]
      have hkey : index ∈ Table.keys c.shelves := mem_indexNames_iff.mpr ⟨shelf, hshelf⟩
      exact hc.shelves.keys_insert _ hkey

/-!
# Entries
-/

def entriesOf (s : String × Shelf) : List Entry :=
  s.2.documents.map fun d => ⟨s.1, d.1, d.2⟩

theorem entries_none (c : Catalog) : c.entries none = c.shelves.flatMap entriesOf := by
  have hall : c.shelves.filter (fun _ => true) = c.shelves := by
    simp
  unfold entries
  simp only [Option.all_none, hall]
  rfl

theorem index_of_mem_entriesOf {s : String × Shelf} {e : Entry} (h : e ∈ entriesOf s) :
    e.index = s.1 := by
  rcases List.mem_map.mp h with ⟨d, _, rfl⟩
  rfl

/-- The entries of an index are those among all entries that carry its name. -/
theorem entries_some (c : Catalog) (index : String) :
    c.entries (some index) = (c.entries none).filter fun e => e.index == index := by
  rw [entries_none]
  unfold entries
  simp only [Option.all_some]
  induction c.shelves with
  | nil => rfl
  | cons s rest ih =>
      rw [List.flatMap_cons, List.filter_append, ← ih, List.filter_cons]
      split
      · next h =>
          have hkeep : (entriesOf s).filter (fun e => e.index == index) = entriesOf s := by
            apply List.filter_eq_self.mpr
            intro e he
            rw [index_of_mem_entriesOf he]
            exact h
          rw [hkeep, List.flatMap_cons]
          rfl
      · next h =>
          have hdrop : (entriesOf s).filter (fun e => e.index == index) = [] := by
            apply List.filter_eq_nil_iff.mpr
            intro e he
            rw [index_of_mem_entriesOf he]
            exact h
          rw [hdrop, List.nil_append]

theorem WellFormed.mem_entries_iff {c : Catalog} (hc : c.WellFormed) {e : Entry} :
    e ∈ c.entries none ↔ c.document? e.index e.id = some e.document := by
  rw [entries_none, List.mem_flatMap]
  unfold document?
  constructor
  · rintro ⟨s, hs, he⟩
    rcases List.mem_map.mp he with ⟨d, hd, rfl⟩
    rw [hc.shelves.get?_of_mem hs]
    exact (hc.documents s hs).get?_of_mem hd
  · intro h
    cases hshelf : Table.get? c.shelves e.index with
    | none =>
        rw [hshelf] at h
        cases h
    | some shelf =>
        rw [hshelf] at h
        exact ⟨(e.index, shelf), Table.mem_of_get? hshelf,
          List.mem_map.mpr ⟨(e.id, e.document), Table.mem_of_get? h, rfl⟩⟩

theorem WellFormed.entries_pairwise {c : Catalog} (hc : c.WellFormed) :
    (c.entries none).Pairwise fun a b => ¬ (a.index = b.index ∧ a.id = b.id) := by
  rw [entries_none, List.pairwise_flatMap]
  constructor
  · intro s hs
    unfold entriesOf
    rw [List.pairwise_map]
    refine (hc.documents s hs).imp ?_
    rintro a b hlt ⟨_, hid⟩
    have hkey : a.1 = b.1 := hid
    exact String.lt_irrefl _ (hkey ▸ hlt)
  · refine hc.shelves.imp ?_
    rintro s t hlt a ha b hb ⟨hindex, _⟩
    rw [index_of_mem_entriesOf ha, index_of_mem_entriesOf hb] at hindex
    exact String.lt_irrefl _ (hindex ▸ hlt)

/-- The entry with another document if it stands at the given place. -/
def Entry.replaced (index id : String) (document : Fields) (e : Entry) : Entry :=
  if e.index = index ∧ e.id = id then ⟨e.index, e.id, document⟩ else e

theorem WellFormed.entries_withDocuments {c : Catalog} (hc : c.WellFormed) {index : String}
    {shelf : Shelf} (hshelf : Table.get? c.shelves index = some shelf)
    (change : Table Fields -> Table Fields) :
    (c.withDocuments index change).entries none =
      c.shelves.flatMap fun s =>
        if s.1 = index then entriesOf (index, ⟨shelf.configuration, change shelf.documents⟩)
        else entriesOf s := by
  have hkey : index ∈ Table.keys c.shelves := mem_indexNames_iff.mpr ⟨shelf, hshelf⟩
  rw [withDocuments_of_present hshelf, entries_none]
  simp only
  rw [hc.shelves.insert_eq_map _ hkey, List.flatMap_map]
  congr 1
  funext s
  split
  · rfl
  · rfl

theorem WellFormed.entries_store {c : Catalog} (hc : c.WellFormed) {index id : String}
    {old : Fields} (h : c.document? index id = some old) (document : Fields) :
    (c.store index id document).entries none =
      (c.entries none).map (Entry.replaced index id document) := by
  rcases mem_indexNames_iff.mp (mem_indexNames_of_document? h) with ⟨shelf, hshelf⟩
  have hdocuments : Table.Ordered shelf.documents := hc.shelf_documents hshelf
  have hid : id ∈ Table.keys shelf.documents := by
    rw [← Table.contains_iff_mem_keys]
    unfold document? at h
    rw [hshelf] at h
    simp only [Option.bind_some] at h
    simp [Table.contains, h]
  unfold Catalog.store
  rw [hc.entries_withDocuments hshelf, entries_none, List.map_flatMap]
  apply List.flatMap_congr
  intro s hs
  split
  · next hname =>
      have hself : s.2 = shelf := by
        have hget := hc.shelves.get?_of_mem hs
        rw [hname, hshelf] at hget
        exact (Option.some.inj hget).symm
      unfold entriesOf
      rw [hself, hdocuments.insert_eq_map _ hid, List.map_map, List.map_map]
      apply List.map_congr_left
      intro d _
      simp only [Function.comp, Entry.replaced, hname, true_and]
      split
      · next hd => rw [hd]
      · rfl
  · next hname =>
      rw [List.map_congr_left (g := fun e => e), List.map_id']
      intro e he
      unfold Entry.replaced
      rw [if_neg]
      rintro ⟨hindex, _⟩
      exact hname ((index_of_mem_entriesOf he) ▸ hindex)

theorem WellFormed.entries_without {c : Catalog} (hc : c.WellFormed) (index id : String) :
    (c.without index id).entries none =
      (c.entries none).filter fun e => !decide (e.index = index ∧ e.id = id) := by
  cases hshelf : Table.get? c.shelves index with
  | none =>
      unfold Catalog.without
      rw [withDocuments_of_absent hshelf, eq_comm, List.filter_eq_self]
      intro e he
      have hdocument := hc.mem_entries_iff.mp he
      have hne : e.index ≠ index := by
        intro heq
        rcases mem_indexNames_iff.mp (mem_indexNames_of_document? hdocument) with ⟨shelf, hsome⟩
        rw [heq, hshelf] at hsome
        cases hsome
      simp [hne]
  | some shelf =>
      unfold Catalog.without
      rw [hc.entries_withDocuments hshelf, entries_none, List.filter_flatMap]
      apply List.flatMap_congr
      intro s hs
      split
      · next hname =>
          have hself : s.2 = shelf := by
            have hget := hc.shelves.get?_of_mem hs
            rw [hname, hshelf] at hget
            exact (Option.some.inj hget).symm
          unfold entriesOf Table.erase
          rw [hself, List.filter_map]
          simp [Function.comp_def, hname]
      · next hname =>
          rw [eq_comm, List.filter_eq_self]
          intro e he
          rw [index_of_mem_entriesOf he]
          simp [hname]

theorem WellFormed.size_without_le {c : Catalog} (hc : c.WellFormed) (index id : String) :
    (c.without index id).size ≤ c.size := by
  unfold size
  rw [hc.entries_without]
  exact List.length_filter_le _ _

end Catalog
end ContentGateway
