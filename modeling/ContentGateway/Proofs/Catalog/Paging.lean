import ContentGateway.Proofs.Catalog.Arranging

/-!
# Walking through the pages of a result

A caller who asks for the first page and goes on to the next one until a page says that it
is the last has seen the whole result, each document once, in as few searches as the size
of the pages allows.  Only where the values of the sort field do not compare with one another
may there be no page at all.
-/

namespace ContentGateway

/-!
# Slices
-/

namespace Page

def slice (result : List α) (request : PageRequest) : Page α :=
  ofTotal request ((result.drop request.offset).take request.size) result.length

def count (total size : Nat) : Nat :=
  (total + size - 1) / size

theorem totalPages_slice (result : List α) {request : PageRequest} (hsize : 0 < request.size) :
    (slice result request).totalPages = count result.length request.size := by
  have hmax : max request.size 1 = request.size := by
    omega
  unfold slice ofTotal count
  simp only [hmax]

theorem isLast_slice_iff (result : List α) {request : PageRequest} (hsize : 0 < request.size) :
    (slice result request).isLast = true ↔
      count result.length request.size ≤ request.page + 1 := by
  unfold isLast
  rw [totalPages_slice result hsize]
  exact decide_eq_true_iff

theorem drop_offset {result : List α} (hfits : result.length ≤ largestWord)
    (request : PageRequest) :
    result.drop request.offset = result.drop (request.page * request.size) := by
  by_cases hword : request.page * request.size ≤ largestWord
  · rw [PageRequest.offset_of_le hword]
  · have hoffset : request.offset = largestWord := by
      unfold PageRequest.offset
      omega
    rw [hoffset, List.drop_eq_nil_of_le hfits, List.drop_eq_nil_of_le (by omega)]

theorem count_le_iff {size : Nat} (hsize : 0 < size) (total pages : Nat) :
    count total size ≤ pages ↔ total ≤ pages * size := by
  unfold count
  rw [← Nat.lt_succ_iff, Nat.div_lt_iff_lt_mul hsize, Nat.succ_mul]
  omega

theorem elements_slice_of_count_le {result : List α} (hfits : result.length ≤ largestWord)
    {request : PageRequest} (hsize : 0 < request.size)
    (h : count result.length request.size ≤ request.page) :
    (slice result request).elements = [] := by
  show (result.drop request.offset).take request.size = []
  rw [drop_offset hfits, List.drop_eq_nil_of_le ((count_le_iff hsize _ _).mp h),
    List.take_nil]

/-!
# Chains of pages
-/

/-- The pages from the answer to a request on, up to the first one that is the last. -/
inductive Chain (search : PageRequest -> Except Failure (Page α)) :
    PageRequest -> List (Page α) -> Prop where
  | last {request : PageRequest} {page : Page α} :
      search request = .ok page -> page.isLast = true -> Chain search request [page]
  | more {request : PageRequest} {page : Page α} {later : List (Page α)} :
      search request = .ok page -> page.isLast = false ->
      Chain search page.nextRequest later -> Chain search request (page :: later)

section

variable {search : PageRequest -> Except Failure (Page α)} {result : List α} {size : Nat}
  {sort : Option String} {direction : SortDirection}

theorem Chain.covers
    (hsearch : forall n, search ⟨n, size, sort, direction⟩ =
      .ok (slice result ⟨n, size, sort, direction⟩))
    (hfits : result.length ≤ largestWord) (hsize : 0 < size) {request : PageRequest}
    {pages : List (Page α)} (hchain : Chain search request pages) {n : Nat}
    (hrequest : request = ⟨n, size, sort, direction⟩) :
    pages.length = max 1 (count result.length size - n) ∧
      pages.flatMap Page.elements = result.drop (n * size) ∧
      forall p, p ∈ pages -> p.totalElements = result.length := by
  -- each page is a slice, and the slices from a page on make up what is left of the result
  induction hchain generalizing n with
  | last hpage hlast =>
      subst hrequest
      rw [hsearch] at hpage
      cases hpage
      have hcount := (isLast_slice_iff result hsize).mp hlast
      simp only at hcount
      refine ⟨?_, ?_, ?_⟩
      · rw [List.length_singleton]
        omega
      · have hlength : (result.drop (n * size)).length ≤ size := by
          have hall := (count_le_iff hsize _ _).mp hcount
          rw [Nat.succ_mul] at hall
          rw [List.length_drop]
          omega
        rw [List.flatMap_singleton]
        show (result.drop (PageRequest.offset _)).take size = _
        rw [drop_offset hfits]
        exact List.take_of_length_le hlength
      · intro p hp
        rw [List.mem_singleton.mp hp]
        rfl
  | more hpage hmore _ ih =>
      subst hrequest
      rw [hsearch] at hpage
      cases hpage
      have hcount : n + 1 < count result.length size := by
        rw [← Bool.not_eq_true, isLast_slice_iff result hsize] at hmore
        simp only at hmore
        omega
      rcases ih (n := n + 1) rfl with ⟨hlength, helements, htotals⟩
      refine ⟨?_, ?_, ?_⟩
      · rw [List.length_cons, hlength]
        omega
      · rw [List.flatMap_cons, helements]
        show (result.drop (PageRequest.offset _)).take size ++ _ = _
        rw [drop_offset hfits, Nat.succ_mul, ← List.drop_drop]
        exact List.take_append_drop size _
      · intro p hp
        rcases List.mem_cons.mp hp with rfl | hlater
        · rfl
        · exact htotals p hlater

/-- From every page on there is a chain: each step brings the end closer. -/
theorem exists_chain
    (hsearch : forall n, search ⟨n, size, sort, direction⟩ =
      .ok (slice result ⟨n, size, sort, direction⟩)) (hsize : 0 < size) (n : Nat) :
    exists pages, Chain search ⟨n, size, sort, direction⟩ pages := by
  by_cases hlast : (slice result ⟨n, size, sort, direction⟩).isLast = true
  · exact ⟨_, Chain.last (hsearch n) hlast⟩
  · have hcount : n + 1 < count result.length size := by
      rw [isLast_slice_iff result hsize] at hlast
      simp only at hlast
      omega
    rcases exists_chain hsearch hsize (n + 1) with ⟨later, hlater⟩
    exact ⟨_, Chain.more (hsearch n) (Bool.not_eq_true _ ▸ hlast) hlater⟩
termination_by count result.length size - n

end
end Page

/-!
# Chains of searches
-/

namespace Catalog

def matching (c : Catalog) (index : Option String) (query : Query) : Nat :=
  (c.entries (scope index)).countP fun e => query.holds e.document

def ranked (c : Catalog) (index : Option String) (query : Query) (request : PageRequest) :
    Option (List Metadata) :=
  (arrange request (c.hits index query)).map fun hits => hits.map Entry.metadata

theorem search_eq_slice {c : Catalog} {index : Option String} (h : c.Reaches index)
    {query : Query} {request : PageRequest} {result : List Metadata}
    (hranked : c.ranked index query request = some result) :
    c.search index query request = .ok (Page.slice result request) := by
  rcases Option.map_eq_some_iff.mp hranked with ⟨hits, harranged, rfl⟩
  rw [search_of_reaches h]
  unfold Catalog.hits at harranged
  simp only [harranged]
  unfold Page.slice
  rw [List.length_map, List.map_take, List.map_drop]

theorem search_of_unranked {c : Catalog} {index : Option String} (h : c.Reaches index)
    {query : Query} {request : PageRequest} (hranked : c.ranked index query request = none) :
    c.search index query request = .error .breakdown := by
  have harranged := Option.map_eq_none_iff.mp hranked
  rw [search_of_reaches h]
  unfold Catalog.hits at harranged
  simp only [harranged]

theorem ranked_perm {c : Catalog} {index : Option String} {query : Query} {request : PageRequest}
    {result : List Metadata} (h : c.ranked index query request = some result) :
    result.Perm (c.found (scope index) query) := by
  rcases Option.map_eq_some_iff.mp h with ⟨hits, harranged, rfl⟩
  exact (arrange_perm harranged).map Entry.metadata

theorem length_found (c : Catalog) (index : Option String) (query : Query) :
    (c.found (scope index) query).length = c.matching index query := by
  unfold found matching
  rw [List.length_map, List.countP_eq_length_filter]

theorem WellFormed.mem_found_scope_iff {c : Catalog} (hc : c.WellFormed) {index : Option String}
    {query : Query} {m : Metadata} :
    m ∈ c.found (scope index) query ↔
      (forall name, scope index = some name -> m.index = name) ∧
        exists document, c.document? m.index m.id = some document ∧
          query.holds document = true ∧ m = Metadata.ofDocument m.index m.id document := by
  constructor
  · intro hm
    refine ⟨?_, hc.mem_found hm⟩
    intro name hscope
    rw [hscope] at hm
    exact index_of_mem_found_some hm
  · rintro ⟨hscope, document, hdocument, hholds, hm⟩
    cases hindex : scope index with
    | none =>
        rw [hm]
        exact hc.mem_found_of_document? hdocument hholds
    | some name =>
        rw [hm, ← hscope name hindex]
        exact hc.mem_found_some_of_document? hdocument hholds

/-- What a walk through the pages of a search shows. -/
structure Shown (c : Catalog) (index : Option String) (query : Query) (size : Nat)
    (pages : List (Page Metadata)) : Prop where
  /-- There are no more searches than full pages and one for the rest, but always one. -/
  searches : pages.length = max 1 (Page.count (c.matching index query) size)
  totals : forall p, p ∈ pages -> p.totalElements = c.matching index query
  /-- The documents in scope that satisfy the query are shown, and nothing else. -/
  mem_elements : forall m, m ∈ pages.flatMap Page.elements ↔
    (forall name, scope index = some name -> m.index = name) ∧
      exists document, c.document? m.index m.id = some document ∧
        query.holds document = true ∧ m = Metadata.ofDocument m.index m.id document
  /-- Each of them is shown once. -/
  once : (pages.flatMap Page.elements).Pairwise fun a b => ¬ (a.index = b.index ∧ a.id = b.id)
  length_elements : (pages.flatMap Page.elements).length = c.matching index query

/--
The pages of a search can be followed to the last one, and then each matching document has been
seen once.  Pages behind the last one are empty and report the same total.
-/
structure Paged (c : Catalog) (index : Option String) (query : Query) (size : Nat)
    (sort : Option String) (direction : SortDirection) : Prop where
  chain : exists pages, Page.Chain (c.search index query) ⟨0, size, sort, direction⟩ pages
  shown : forall pages, Page.Chain (c.search index query) ⟨0, size, sort, direction⟩ pages ->
    Shown c index query size pages
  behind : forall n, Page.count (c.matching index query) size ≤ n ->
    exists page, c.search index query ⟨n, size, sort, direction⟩ = .ok page ∧
      page.elements = [] ∧ page.totalElements = c.matching index query

/-- Many documents match, but under the sort field they have values that do not compare. -/
structure Unsortable (c : Catalog) (index : Option String) (query : Query) (field : String) :
    Prop where
  many : 20 < c.matching index query
  values : ¬ Json.Preordered (valuesOf field (c.hits index query))

theorem WellFormed.paged_of_ranked {c : Catalog} (hc : c.WellFormed)
    (hfits : c.size ≤ largestWord) {index : Option String} (hindex : c.Reaches index)
    {query : Query} {size : Nat} (hsize : 0 < size) {sort : Option String}
    {direction : SortDirection} {result : List Metadata}
    (hranked : forall n, c.ranked index query ⟨n, size, sort, direction⟩ = some result) :
    Paged c index query size sort direction := by
  have hperm := ranked_perm (hranked 0)
  have hlength : result.length = c.matching index query :=
    hperm.length_eq.trans (c.length_found index query)
  have hword : result.length ≤ largestWord := by
    rw [hperm.length_eq]
    exact Nat.le_trans (c.length_found_le _ query) hfits
  have hsearch : forall n, c.search index query ⟨n, size, sort, direction⟩ =
      .ok (Page.slice result ⟨n, size, sort, direction⟩) := fun n =>
    search_eq_slice hindex (hranked n)
  refine ⟨Page.exists_chain hsearch hsize 0, ?_, ?_⟩
  · intro pages hchain
    rcases hchain.covers hsearch hword hsize rfl with ⟨hpages, helements, htotals⟩
    rw [Nat.zero_mul, List.drop_zero] at helements
    rw [hlength] at hpages
    constructor
    · exact hpages
    · intro p hp
      rw [htotals p hp, hlength]
    · intro m
      rw [helements, hperm.mem_iff]
      exact hc.mem_found_scope_iff
    · rw [helements]
      refine (hperm.pairwise_iff ?_).mpr (hc.found_pairwise (scope index) query)
      intro a b hapart hsame
      exact hapart ⟨hsame.1.symm, hsame.2.symm⟩
    · rw [helements, hlength]
  · intro n hn
    refine ⟨_, hsearch n, ?_, hlength⟩
    apply Page.elements_slice_of_count_le hword hsize
    rw [hlength]
    exact hn

/--
The pages of a search show each matching document once, unless the search breaks off on every
page, which needs a sort field under which many documents have values that do not compare.
Memory holds no more documents than a machine word counts.
-/
theorem WellFormed.pages_shown {c : Catalog} (hc : c.WellFormed) (hfits : c.size ≤ largestWord)
    {index : Option String} (hindex : c.Reaches index) (query : Query) {size : Nat}
    (hsize : 0 < size) (sort : Option String) (direction : SortDirection) :
    Paged c index query size sort direction ∨
      (exists field, sort = some field ∧ Unsortable c index query field) ∧
        forall n, c.search index query ⟨n, size, sort, direction⟩ = .error .breakdown := by
  -- the order of the result does not depend on the number of the page
  have hsame : forall n, c.ranked index query ⟨n, size, sort, direction⟩ =
      c.ranked index query ⟨0, size, sort, direction⟩ := fun _ => rfl
  cases hranked : c.ranked index query ⟨0, size, sort, direction⟩ with
  | some result =>
      exact Or.inl (hc.paged_of_ranked hfits hindex hsize fun n => (hsame n).trans hranked)
  | none =>
      refine Or.inr ⟨?_, fun n => search_of_unranked hindex ((hsame n).trans hranked)⟩
      rcases hc.arrange_eq_none (Option.map_eq_none_iff.mp hranked) with
        ⟨field, hfield, hmany, hvalues⟩
      rw [← List.length_map Entry.metadata] at hmany
      exact ⟨field, hfield, (c.length_found index query) ▸ hmany, hvalues⟩

def mixedFiles : Catalog :=
  ⟨[("files", ⟨none, [("1", [("size", .nat 3)]), ("2", [("size", .nat 1)]), ("3", [])]⟩),
    ("pictures", ⟨none, [("1", [("size", .nat 2)])]⟩)], 0⟩

theorem pages_shown_mixedFiles :
    mixedFiles.WellFormed ∧ Paged mixedFiles none .empty 3 (some "size") .descending := by
  refine ⟨by decide, ?_⟩
  rcases WellFormed.pages_shown (by decide : mixedFiles.WellFormed) (by decide)
    (reaches_none mixedFiles) .empty (by decide : 0 < 3) (some "size") .descending
    with hpaged | ⟨⟨field, hfield, hmany, _⟩, _⟩
  · exact hpaged
  · exact absurd hmany (by decide)

def grades : List Json :=
  [.nat 21, .nat 20, .nat 19, .nat 18, .nat 17, .string "n/a", .nat 15, .nat 14, .nat 13, .nat 12,
    .nat 11, .nat 10, .nat 9, .nat 8, .nat 7, .nat 6, .nat 5, .nat 4, .nat 3, .nat 2, .nat 1]

def gradedDocuments : Catalog :=
  ⟨[("docs", ⟨none, grades.zipIdx.map fun g => (generatedId g.2, [("v", g.1)])⟩)], grades.length⟩

/-- The pages of a search for graded documents in the order of the grades cannot be followed. -/
theorem not_paged_gradedDocuments :
    gradedDocuments.WellFormed ∧ gradedDocuments.size ≤ largestWord ∧
      gradedDocuments.Reaches (some "docs") ∧
      ¬ Paged gradedDocuments (some "docs") .empty 10 (some "v") .ascending := by
  have hreaches : gradedDocuments.Reaches (some "docs") := by
    intro name hname
    cases hname
    exact List.mem_singleton_self _
  have hranked : gradedDocuments.ranked (some "docs") .empty ⟨0, 10, some "v", .ascending⟩ = none :=
    Option.isNone_iff_eq_none.mp (by decide +kernel)
  refine ⟨by decide +kernel, by decide +kernel, hreaches, ?_⟩
  intro hpaged
  rcases hpaged.chain with ⟨pages, hchain⟩
  have hbreaks := search_of_unranked hreaches hranked
  cases hchain with
  | last hpage _ =>
      rw [hbreaks] at hpage
      cases hpage
  | more hpage _ _ =>
      rw [hbreaks] at hpage
      cases hpage

end Catalog
end ContentGateway
