import ContentGateway.Proofs.Catalog.Changes
import ContentGateway.Proofs.Sorting.Pivot

/-!
# What a search finds

An unsorted search answers a slice of one list: what is known about the documents in
scope that satisfy the query, in order of index and id.  Setting a flag leaves this list
as it was, unless the query asks for the flag.
-/

namespace ContentGateway

/-!
# Pages
-/

namespace PageRequest

theorem offset_of_le {r : PageRequest} (h : r.page * r.size ≤ largestWord) :
    r.offset = r.page * r.size := by
  unfold offset
  omega

end PageRequest

namespace Page

theorem isLast_ofTotal_iff {α : Type} {request : PageRequest} (hsize : 0 < request.size)
    (elements : List α) (total : Nat) :
    (ofTotal request elements total).isLast = true ↔
      total ≤ (request.page + 1) * request.size := by
  have hmax : max request.size 1 = request.size := by
    omega
  unfold ofTotal isLast
  simp only [hmax, decide_eq_true_eq]
  rw [← Nat.lt_succ_iff, Nat.div_lt_iff_lt_mul hsize, Nat.succ_mul]
  omega

theorem le_totalPages_mul {α : Type} {request : PageRequest} (hsize : 0 < request.size)
    (elements : List α) (total : Nat) :
    total ≤ (ofTotal request elements total).totalPages * request.size := by
  have hmax : max request.size 1 = request.size := by
    omega
  unfold ofTotal
  simp only [hmax]
  have hdivision := Nat.div_add_mod (total + request.size - 1) request.size
  have hremainder := Nat.mod_lt (total + request.size - 1) hsize
  rw [Nat.mul_comm]
  omega

end Page

/-!
# Queries for one field
-/

namespace Query

theorem holds_equals (key : String) (value : Json) (document : Fields) :
    (empty.equals key value).holds document =
      (Table.get? document key).any fun v => v.termEq value := by
  simp [empty, equals, filter, withFilter, filters, alternatives, holds, holdsAny,
    Filter.holds, Filter.name]

end Query

theorem Json.termEq_string (a b : String) :
    (Json.string a).termEq (.string b) = (a == b) := by
  simp [Json.termEq, Json.scalarEq, Json.same]

theorem Json.termEq_bool (a b : Bool) : (Json.bool a).termEq (.bool b) = (a == b) := by
  simp [Json.termEq, Json.scalarEq, Json.same]

/-- A document that the gateway has written holds a content exactly when it is found by it. -/
theorem Described.holds_hash_iff {document : Fields} (h : Described document)
    (contentId : String) :
    (Query.empty.equals hashKey (.string contentId)).holds document = true ↔
      ContentGateway.contentOf document = some contentId := by
  rcases h.content with ⟨content, hcontent⟩
  rw [Query.holds_equals, hcontent, Option.any_some, Json.termEq_string]
  simp [ContentGateway.contentOf, hcontent, Json.asString?]

namespace Catalog

/-!
# The list that is searched
-/

def found (c : Catalog) (target : Option String) (query : Query) : List Metadata :=
  ((c.entries target).filter fun e => query.holds e.document).map Entry.metadata

theorem entries_subset (c : Catalog) (target : Option String) {e : Entry}
    (h : e ∈ c.entries target) : e ∈ c.entries none := by
  cases target with
  | none => exact h
  | some index =>
      rw [entries_some] at h
      exact (List.mem_filter.mp h).1

theorem WellFormed.entries_pairwise_of_target {c : Catalog} (hc : c.WellFormed)
    (target : Option String) :
    (c.entries target).Pairwise fun a b => ¬ (a.index = b.index ∧ a.id = b.id) := by
  cases target with
  | none => exact hc.entries_pairwise
  | some index =>
      rw [entries_some]
      exact hc.entries_pairwise.filter _

theorem length_found_le (c : Catalog) (target : Option String) (query : Query) :
    (c.found target query).length ≤ c.size := by
  have htarget : (c.entries target).length ≤ (c.entries none).length := by
    cases target with
    | none => exact Nat.le_refl _
    | some index =>
        rw [entries_some]
        exact List.length_filter_le _ _
  unfold found
  rw [List.length_map]
  exact Nat.le_trans (List.length_filter_le _ _) htarget

theorem WellFormed.mem_found {c : Catalog} (hc : c.WellFormed) {target : Option String}
    {query : Query} {m : Metadata} (h : m ∈ c.found target query) :
    exists document, c.document? m.index m.id = some document ∧
      query.holds document = true ∧ m = Metadata.ofDocument m.index m.id document := by
  rcases List.mem_map.mp h with ⟨e, he, rfl⟩
  rcases List.mem_filter.mp he with ⟨hentry, hholds⟩
  exact ⟨e.document, hc.mem_entries_iff.mp (entries_subset c target hentry), hholds, rfl⟩

theorem WellFormed.mem_found_of_document? {c : Catalog} (hc : c.WellFormed) {query : Query}
    {index id : String} {document : Fields} (h : c.document? index id = some document)
    (hholds : query.holds document = true) :
    Metadata.ofDocument index id document ∈ c.found none query :=
  List.mem_map.mpr ⟨⟨index, id, document⟩,
    List.mem_filter.mpr ⟨hc.mem_entries_iff.mpr h, hholds⟩, rfl⟩

theorem WellFormed.mem_found_some_of_document? {c : Catalog} (hc : c.WellFormed) {query : Query}
    {index id : String} {document : Fields} (h : c.document? index id = some document)
    (hholds : query.holds document = true) :
    Metadata.ofDocument index id document ∈ c.found (some index) query := by
  have hentry : (⟨index, id, document⟩ : Entry) ∈ c.entries (some index) := by
    rw [entries_some]
    exact List.mem_filter.mpr ⟨hc.mem_entries_iff.mpr h, beq_self_eq_true index⟩
  exact List.mem_map.mpr ⟨_, List.mem_filter.mpr ⟨hentry, hholds⟩, rfl⟩

theorem index_of_mem_found_some {c : Catalog} {index : String} {query : Query} {m : Metadata}
    (h : m ∈ c.found (some index) query) : m.index = index := by
  rcases List.mem_map.mp h with ⟨e, he, rfl⟩
  have hentry := (List.mem_filter.mp he).1
  rw [entries_some] at hentry
  have hindex := (List.mem_filter.mp hentry).2
  exact beq_iff_eq.mp hindex

theorem WellFormed.found_pairwise {c : Catalog} (hc : c.WellFormed) (target : Option String)
    (query : Query) :
    (c.found target query).Pairwise fun a b => ¬ (a.index = b.index ∧ a.id = b.id) := by
  unfold found
  rw [List.pairwise_map]
  exact (hc.entries_pairwise_of_target target).filter _

/-!
# Searches
-/

/-- A scope is all indices, or one that exists. -/
def Reaches (c : Catalog) (index : Option String) : Prop :=
  forall name, scope index = some name -> name ∈ c.indexNames

theorem reaches_none (c : Catalog) : c.Reaches none := by
  intro name h
  cases h

theorem scope_some {index : String} (hlower : lowerCase index = index)
    (hall : index ≠ allIndices) : scope (some index) = some index := by
  simp [scope, hlower, hall]

theorem search_of_reaches {c : Catalog} {index : Option String} (h : c.Reaches index)
    (query : Query) (request : PageRequest) :
    c.search index query request =
      match arrange request ((c.entries (scope index)).filter fun e => query.holds e.document) with
      | none => .error .breakdown
      | some hits =>
          .ok (Page.ofTotal request
            (((hits.drop request.offset).take request.size).map Entry.metadata) hits.length) := by
  have hknown : (scope index).filter (fun name => !Table.contains c.shelves name) = none := by
    cases hscope : scope index with
    | none => rfl
    | some name =>
        have hcontains : Table.contains c.shelves name = true :=
          Table.contains_iff_mem_keys.mpr (h name hscope)
        simp [hcontains]
  unfold search
  cases harranged : arrange request ((c.entries (scope index)).filter
      fun e => query.holds e.document) with
  | none => simp only [hknown, harranged]
  | some hits => simp only [hknown, harranged]

theorem search_unsorted {c : Catalog} {index : Option String} (h : c.Reaches index)
    (query : Query) {request : PageRequest} (hsort : request.sort = none) :
    c.search index query request =
      .ok (Page.ofTotal request
        (((c.found (scope index) query).drop request.offset).take request.size)
        (c.found (scope index) query).length) := by
  rw [search_of_reaches h]
  unfold arrange
  simp only [hsort]
  unfold found
  rw [List.length_map, List.map_take, List.map_drop]

theorem arrange_perm {request : PageRequest} {hits arranged : List Entry}
    (h : arrange request hits = some arranged) : arranged.Perm hits := by
  unfold arrange at h
  cases hsort : request.sort with
  | none =>
      rw [hsort] at h
      cases h
      exact List.Perm.refl hits
  | some field =>
      rw [hsort] at h
      exact Sorting.sort_perm h

theorem WellFormed.mem_search {c : Catalog} (hc : c.WellFormed) {index : Option String}
    {query : Query} {request : PageRequest} {page : Page Metadata}
    (h : c.search index query request = .ok page) {m : Metadata} (hm : m ∈ page.elements) :
    exists document, c.document? m.index m.id = some document ∧
      m = Metadata.ofDocument m.index m.id document := by
  unfold search at h
  simp only at h
  split at h
  · cases h
  · split at h
    · cases h
    · next hits harranged =>
        cases h
        rcases List.mem_map.mp hm with ⟨e, he, rfl⟩
        have hhit := (arrange_perm harranged).mem_iff.mp
          (List.mem_of_mem_drop (List.mem_of_mem_take he))
        have hentry : e ∈ c.entries (scope index) := (List.mem_filter.mp hhit).1
        exact ⟨e.document, hc.mem_entries_iff.mp (entries_subset c _ hentry), rfl⟩

/-!
# Flags and searches
-/

theorem WellFormed.entries_flag_of_target {c : Catalog} (hc : c.WellFormed) (index id : String)
    (pinned : Bool) (target : Option String) :
    (c.flag index id pinned).entries target =
      (c.entries target).map (Entry.flag index id pinned) := by
  cases target with
  | none => exact hc.entries_flag index id pinned
  | some name =>
      rw [entries_some, entries_some, hc.entries_flag, List.filter_map]
      congr 1
      apply List.filter_congr
      intro e _
      simp only [Function.comp, Entry.flag]
      split
      · rfl
      · rfl

theorem WellFormed.found_flag {c : Catalog} (hc : c.WellFormed) (index id : String)
    (pinned : Bool) (target : Option String) (query : Query) :
    (c.flag index id pinned).found target query =
      ((c.entries target).filter
        fun e => query.holds (e.flag index id pinned).document).map Entry.metadata := by
  unfold found
  rw [hc.entries_flag_of_target, List.filter_map, List.map_map]
  apply List.map_congr_left
  intro e _
  exact Entry.metadata_flag index id pinned e

/-- A query that does not look at the flag finds the same as before. -/
theorem WellFormed.found_flag_of_blind {c : Catalog} (hc : c.WellFormed) {query : Query}
    (hblind : forall pinned document, query.holds (flagged pinned document) = query.holds document)
    (index id : String) (pinned : Bool) (target : Option String) :
    (c.flag index id pinned).found target query = c.found target query := by
  rw [hc.found_flag]
  unfold found
  congr 1
  apply List.filter_congr
  intro e _
  unfold Entry.flag
  split
  · exact hblind pinned e.document
  · rfl

/-- A query that the flag rules out finds the same as before but for the one document. -/
theorem WellFormed.found_flag_of_ruled_out {c : Catalog} (hc : c.WellFormed) {query : Query}
    {pinned : Bool} (hout : forall document, query.holds (flagged pinned document) = false)
    (index id : String) (target : Option String) :
    (c.flag index id pinned).found target query =
      (c.found target query).filter fun m => !decide (m.index = index ∧ m.id = id) := by
  rw [hc.found_flag]
  unfold found
  rw [List.filter_map, List.filter_filter]
  congr 1
  apply List.filter_congr
  intro e _
  have hplace : (e.metadata.index = index ∧ e.metadata.id = id) ↔
      (e.index = index ∧ e.id = id) := Iff.rfl
  simp only [Function.comp, hplace]
  unfold Entry.flag
  split
  · next h => simp [h, hout]
  · next h => simp [h]

theorem holds_hash_flagged (contentId : String) (pinned : Bool) (document : Fields) :
    (Query.empty.equals hashKey (.string contentId)).holds (flagged pinned document) =
      (Query.empty.equals hashKey (.string contentId)).holds document := by
  rw [Query.holds_equals, Query.holds_equals, get?_flagged, if_neg pinnedKey_ne_hashKey]

end Catalog
end ContentGateway
