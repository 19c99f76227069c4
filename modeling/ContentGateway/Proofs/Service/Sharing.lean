import ContentGateway.Proofs.Catalog.Keeping
import ContentGateway.Service

/-!
# Documents that share content

Releasing content walks through all documents that hold it, page by page, and flags them
as not pinned.  The flag does not show in the result that is walked, so the walk reaches
every one of them, however many there are.  Where a page cannot be searched for, the walk ends
before it.
-/

namespace ContentGateway
namespace Service

variable {W : Type} {b : Backends W} {catalog : W -> Catalog} {quiet : W -> W -> Prop}
  {ready : W -> Prop} {shows : PageRequest -> Bool}

/-!
# Flagging documents
-/

/-- The catalog with documents flagged as not pinned. -/
def unflagged (c : Catalog) (documents : List Metadata) : Catalog :=
  documents.foldl (fun c m => c.flag m.index m.id false) c

theorem unflagged_cons (c : Catalog) (m : Metadata) (rest : List Metadata) :
    unflagged c (m :: rest) = unflagged (c.flag m.index m.id false) rest := rfl

theorem unflagged_append (c : Catalog) (first second : List Metadata) :
    unflagged (unflagged c first) second = unflagged c (first ++ second) := by
  unfold unflagged
  rw [List.foldl_append]

theorem document?_unflagged (c : Catalog) (documents : List Metadata) (index id : String) :
    (unflagged c documents).document? index id =
      if exists m, m ∈ documents ∧ m.index = index ∧ m.id = id then
        (c.document? index id).map (flagged false)
      else c.document? index id := by
  induction documents generalizing c with
  | nil =>
      rw [if_neg]
      · rfl
      · rintro ⟨m, hm, _⟩
        cases hm
  | cons m rest ih =>
      rw [unflagged_cons, ih, Catalog.document?_flag]
      by_cases hplace : m.index = index ∧ m.id = id
      · have hsome : exists m', m' ∈ m :: rest ∧ m'.index = index ∧ m'.id = id :=
          ⟨m, List.mem_cons_self .., hplace⟩
        rw [if_pos hplace, if_pos hsome, Option.map_map]
        -- to flag it once more later makes no difference
        split
        · congr 1
          funext document
          exact Table.insert_insert document pinnedKey _ _
        · rfl
      · rw [if_neg hplace]
        congr 1
        apply propext
        constructor
        · rintro ⟨m', hm', hsame⟩
          exact ⟨m', List.mem_cons_of_mem _ hm', hsame⟩
        · rintro ⟨m', hm', hsame⟩
          rcases List.mem_cons.mp hm' with rfl | hrest
          · exact absurd hsame hplace
          · exact ⟨m', hrest, hsame⟩

section

variable {c : Catalog} (documents : List Metadata)

theorem wellFormed_unflagged (hc : c.WellFormed) : (unflagged c documents).WellFormed := by
  induction documents generalizing c with
  | nil => exact hc
  | cons m rest ih => exact ih (hc.flag _ _ _)

theorem indexNames_unflagged (hc : c.WellFormed) :
    (unflagged c documents).indexNames = c.indexNames := by
  induction documents generalizing c with
  | nil => rfl
  | cons m rest ih => exact (ih (hc.flag _ _ _)).trans (hc.indexNames_flag _ _ _)

theorem found_unflagged (hc : c.WellFormed) {query : Query}
    (hblind : forall pinned document, query.holds (flagged pinned document) = query.holds document)
    (target : Option String) :
    (unflagged c documents).found target query = c.found target query := by
  induction documents generalizing c with
  | nil => rfl
  | cons m rest ih =>
      rw [unflagged_cons, ih (hc.flag _ _ _), hc.found_flag_of_blind hblind]

end

theorem unflagAll_apply (hk : KeepsFields b.indexer catalog quiet ready) {w : W} (hw : ready w)
    {documents : List Metadata}
    (hlower : forall m, m ∈ documents -> lowerCase m.index = m.index) :
    exists v, unflagAll b documents w = ((), v) ∧ catalog v = unflagged (catalog w) documents ∧
      ready v := by
  induction documents generalizing w with
  | nil => exact ⟨w, rfl, rfl, hw⟩
  | cons m rest ih =>
      rcases hk.flag hw m.index m.id false with ⟨v, hset, hcatalog, hv⟩
      rw [hlower m (List.mem_cons_self ..)] at hcatalog
      rcases ih hv fun m' hm' => hlower m' (List.mem_cons_of_mem _ hm') with
        ⟨u, hrest, hcatalog', hu⟩
      refine ⟨u, ?_, ?_, hu⟩
      · have hworld := congrArg Prod.snd hset
        simp only at hworld
        rw [unflagAll, Action.state_bind_apply, Action.outcome_apply, hworld, hrest]
      · rw [hcatalog', hcatalog, unflagged_cons]

/-!
# Walking through the pages
-/

theorem take_drop_of_last {result : List Metadata} {page size : Nat}
    (hend : result.length ≤ (page + 1) * size) :
    (result.drop (page * size)).take size = result.drop (page * size) := by
  apply List.take_of_length_le
  rw [List.length_drop]
  rw [Nat.succ_mul, Nat.add_comm] at hend
  exact Nat.sub_le_of_le_add hend

theorem take_drop_append_page (result : List Metadata) {page limit size : Nat}
    (hlt : page + 1 ≤ limit) :
    (result.drop (page * size)).take size ++ (result.take (limit * size)).drop ((page + 1) * size) =
      (result.take (limit * size)).drop (page * size) := by
  have hsize : size ≤ limit * size - page * size := by
    rw [← Nat.sub_mul]
    exact Nat.le_mul_of_pos_left _ (Nat.sub_pos_of_lt hlt)
  have hpage : (result.drop (page * size)).take size =
      ((result.take (limit * size)).drop (page * size)).take size := by
    rw [List.drop_take, List.take_take, Nat.min_eq_left hsize]
  rw [hpage, Nat.succ_mul, ← List.drop_drop, List.take_append_drop]

section

variable {count page limit size : Nat}

theorem le_limit_of_last (hreach : page < limit ∨ count ≤ limit * size)
    (hend : count ≤ (page + 1) * size) : count ≤ limit * size := by
  rcases hreach with hlt | hall
  · exact Nat.le_trans hend (Nat.mul_le_mul_right _ hlt)
  · exact hall

theorem lt_limit_of_more (hreach : page < limit ∨ count ≤ limit * size)
    (hmore : (page + 1) * size < count) : page < limit := by
  rcases hreach with hlt | hall
  · exact hlt
  · exact Nat.lt_of_succ_lt (Nat.lt_of_mul_lt_mul_right (Nat.lt_of_lt_of_le hmore hall))

end

def foundPage (c : Catalog) (query : Query) (request : PageRequest) : Page Metadata :=
  Page.ofTotal request
    (((c.found none query).drop (request.page * request.size)).take request.size)
    (c.found none query).length

theorem isLast_foundPage_iff (c : Catalog) (query : Query) {request : PageRequest}
    (hsized : 0 < request.size) :
    (foundPage c query request).isLast = true ↔
      (c.found none query).length ≤ (request.page + 1) * request.size :=
  Page.isLast_ofTotal_iff hsized _ _

section

variable {w : W} (query : Query) (request : PageRequest)

theorem search_page (hk : KeepsWithin shows b.indexer catalog quiet ready) (hw : ready w)
    (hshown : shows request = true) (hunsorted : request.sort = none)
    (hfits : request.page * request.size ≤ largestWord) :
    exists v, b.indexer.search none query request w =
      (.ok (foundPage (catalog w) query request), v) ∧ quiet w v := by
  rcases hk.search hw none query request with ⟨answer, v, hsearch, hquiet, hanswer⟩
  rw [if_pos hshown] at hanswer
  refine ⟨v, ?_, hquiet⟩
  rw [hsearch, hanswer, Catalog.search_unsorted (Catalog.reaches_none _) _ hunsorted,
    PageRequest.offset_of_le hfits]
  rfl

theorem search_hidden (hk : KeepsWithin shows b.indexer catalog quiet ready) (hw : ready w)
    (hhidden : shows request = false) :
    exists failure v, b.indexer.search none query request w = (.error failure, v) ∧
      catalog v = catalog w ∧ ready v := by
  rcases hk.search hw none query request with ⟨answer, v, hsearch, hquiet, hanswer⟩
  rw [hhidden, if_neg Bool.false_ne_true] at hanswer
  rcases hanswer with ⟨failure, rfl⟩
  exact ⟨failure, v, hsearch, hk.catalog_of_quiet hquiet, hk.ready_of_quiet hquiet hw⟩

theorem unflagPages_of_hidden (hk : KeepsWithin shows b.indexer catalog quiet ready) (hw : ready w)
    (hhidden : shows request = false) (pages : Nat) :
    exists v, unflagPages b query (pages + 1) request w = ((), v) ∧ catalog v = catalog w ∧
      ready v := by
  rcases search_hidden query request hk hw hhidden with ⟨failure, v, hsearch, hkept⟩
  refine ⟨v, ?_, hkept⟩
  rw [unflagPages, Action.state_bind_apply, Action.outcome_apply, hsearch]
  rfl

theorem unflagPages_of_page {pages : Nat} {page : Page Metadata} {v u : W}
    (hsearch : b.indexer.search none query request w = (.ok page, v))
    (hflags : unflagAll b page.elements v = ((), u)) :
    unflagPages b query (pages + 1) request w =
      if page.isLast then ((), u) else unflagPages b query pages page.nextRequest u := by
  rw [unflagPages, Action.state_bind_apply, Action.outcome_apply, hsearch]
  simp only [Action.state_bind_apply, hflags]
  split
  · rfl
  · rfl

theorem unflagPage (hk : KeepsWithin shows b.indexer catalog quiet ready) (hw : ready w)
    (hc : (catalog w).WellFormed) (hshown : shows request = true)
    (hunsorted : request.sort = none)
    (hfits : request.page * request.size ≤ largestWord) (pages : Nat) :
    exists u,
      unflagPages b query (pages + 1) request w =
        (if (foundPage (catalog w) query request).isLast then ((), u)
          else unflagPages b query pages request.next u) ∧
      catalog u = unflagged (catalog w) (foundPage (catalog w) query request).elements ∧
      ready u := by
  rcases search_page query request hk hw hshown hunsorted hfits with ⟨v, hsearch, hquiet⟩
  have hlower : forall m, m ∈ (foundPage (catalog w) query request).elements ->
      lowerCase m.index = m.index := by
    intro m hm
    have hfound : m ∈ (catalog w).found none query :=
      List.mem_of_mem_drop (List.mem_of_mem_take hm)
    rcases hc.mem_found hfound with ⟨document, hdocument, _⟩
    exact hc.lowerCase_name (Catalog.mem_indexNames_of_document? hdocument)
  rcases unflagAll_apply hk.toKeepsFields (hk.ready_of_quiet hquiet hw) hlower with
    ⟨u, hflags, hcatalog, hu⟩
  rw [hk.catalog_of_quiet hquiet] at hcatalog
  exact ⟨u, unflagPages_of_page query request hsearch hflags, hcatalog, hu⟩

/--
The walk flags everything from its position up to the page `limit`, if that is the first that
cannot be searched for or all that is found stands before it, and if there are enough pages
left to the walk.
-/
theorem unflagPages_apply {pages limit : Nat} (hk : KeepsWithin shows b.indexer catalog quiet ready)
    (hblind : forall pinned document, query.holds (flagged pinned document) = query.holds document)
    (hw : ready w) (hc : (catalog w).WellFormed) (hunsorted : request.sort = none)
    (hsized : 0 < request.size) (hfits : ((catalog w).found none query).length ≤ largestWord)
    (hbegun : request.page * request.size ≤ ((catalog w).found none query).length)
    (hpages : ((catalog w).found none query).length ≤ (request.page + pages) * request.size)
    (hshown : forall page, page < limit -> shows { request with page := page } = true)
    (hlimit : shows { request with page := limit } = false ∨
      ((catalog w).found none query).length ≤ limit * request.size)
    (hbefore : request.page ≤ limit) :
    exists v, unflagPages b query pages request w = ((), v) ∧
      catalog v = unflagged (catalog w)
        ((((catalog w).found none query).take (limit * request.size)).drop
          (request.page * request.size)) ∧ ready v := by
  induction pages generalizing w request with
  | zero =>
      have hnone : (((catalog w).found none query).take (limit * request.size)).drop
          (request.page * request.size) = [] := by
        apply List.drop_eq_nil_of_le
        rw [List.length_take]
        exact Nat.le_trans (Nat.min_le_right _ _) hpages
      refine ⟨w, rfl, ?_, hw⟩
      rw [hnone]
      rfl
  | succ pages ih =>
      cases hpage : shows request with
      | false =>
          have hend : request.page = limit := by
            apply Nat.le_antisymm hbefore
            apply Nat.le_of_not_lt
            intro hlt
            exact Bool.false_ne_true (hpage.symm.trans (hshown request.page hlt))
          rcases unflagPages_of_hidden query request hk hw hpage pages with
            ⟨v, hrun, hcatalog, hv⟩
          refine ⟨v, hrun, ?_, hv⟩
          rw [hcatalog, hend, List.drop_take, Nat.sub_self]
          rfl
      | true =>
          have hreach : request.page < limit ∨
              ((catalog w).found none query).length ≤ limit * request.size := by
            rcases Nat.lt_or_eq_of_le hbefore with hlt | heq
            · exact Or.inl hlt
            · refine Or.inr (hlimit.resolve_left ?_)
              rw [← heq]
              exact fun hhidden => Bool.false_ne_true (hhidden.symm.trans hpage)
          rcases unflagPage query request hk hw hc hpage hunsorted
            (Nat.le_trans hbegun hfits) pages with ⟨u, hrun, hcatalog, hu⟩
          have hflagged : catalog u = unflagged (catalog w)
              ((((catalog w).found none query).drop (request.page * request.size)).take
                request.size) := hcatalog
          by_cases hend :
              ((catalog w).found none query).length ≤ (request.page + 1) * request.size
          · rw [if_pos ((isLast_foundPage_iff _ query hsized).mpr hend)] at hrun
            refine ⟨u, hrun, ?_, hu⟩
            rw [hflagged, take_drop_of_last hend,
              List.take_of_length_le (le_limit_of_last hreach hend)]
          · rw [if_neg (mt (isLast_foundPage_iff _ query hsized).mp hend)] at hrun
            have hlt : request.page + 1 ≤ limit := lt_limit_of_more hreach (Nat.lt_of_not_le hend)
            -- the flag does not show in the result, so the next page is where it was
            have hfound : (catalog u).found none query = (catalog w).found none query := by
              rw [hflagged, found_unflagged _ hc hblind]
            have hc' : (catalog u).WellFormed := by
              rw [hflagged]
              exact wellFormed_unflagged _ hc
            have hpages' : (request.next.page + pages) * request.next.size =
                (request.page + (pages + 1)) * request.size := by
              rw [PageRequest.next, Nat.add_right_comm, Nat.add_assoc]
            rcases ih request.next hu hc' hunsorted hsized (by rw [hfound]; exact hfits)
                (by rw [hfound]; exact Nat.le_of_not_le hend)
                (by rw [hfound, hpages']; exact hpages) hshown
                (by rw [hfound]; exact hlimit) hlt with
              ⟨z, hwalk, hcatalog', hz⟩
            refine ⟨z, hrun.trans hwalk, ?_, hz⟩
            rw [hcatalog', hfound, hflagged, unflagged_append, PageRequest.next]
            congr 1
            exact take_drop_append_page _ hlt

end

/-!
# All documents that hold a content
-/

def contentQuery (contentId : String) : Query :=
  Query.empty.equals hashKey (.string contentId)

def sharedPage (page : Nat) : PageRequest :=
  { PageRequest.standard.withSize sharedPageSize with page := page }

theorem releaseShared_run (b : Backends W) (contentId : String) (w : W) :
    releaseShared b contentId w =
      match b.indexer.search none (contentQuery contentId) (sharedPage 0) w with
      | (.error _, v) => ((), v)
      | (.ok page, _) =>
          unflagPages b (contentQuery contentId) (page.totalPages + 1) (sharedPage 0) w := by
  unfold releaseShared
  rw [Action.state_bind_apply, Action.outcome_apply]
  rw [show Query.empty.equals hashKey (.string contentId) = contentQuery contentId from rfl,
    show PageRequest.standard.withSize sharedPageSize = sharedPage 0 from rfl]
  rcases hsearch : b.indexer.search none (contentQuery contentId) (sharedPage 0) w with
    ⟨answer, v⟩
  cases answer with
  | error failure => rfl
  | ok page =>
      symm
      simp only
      rw [unflagPages, Action.state_bind_apply, Action.outcome_apply, hsearch]

theorem releaseShared_of_hidden (hk : KeepsWithin shows b.indexer catalog quiet ready) {w : W}
    (hw : ready w) (hhidden : shows (sharedPage 0) = false) (contentId : String) :
    exists v, releaseShared b contentId w = ((), v) ∧ catalog v = catalog w ∧ ready v := by
  rcases search_hidden (contentQuery contentId) (sharedPage 0) hk hw hhidden with
    ⟨failure, v, hsearch, hkept⟩
  refine ⟨v, ?_, hkept⟩
  rw [releaseShared_run, hsearch]

theorem releaseShared_within {limit : Nat} (hk : KeepsWithin shows b.indexer catalog quiet ready)
    {w : W} (hw : ready w) (hc : (catalog w).WellFormed) (hfits : (catalog w).size ≤ largestWord)
    (contentId : String)
    (hshown : forall page, page < limit -> shows (sharedPage page) = true)
    (hlimit : shows (sharedPage limit) = false ∨
      ((catalog w).found none (contentQuery contentId)).length ≤ limit * sharedPageSize) :
    exists v, releaseShared b contentId w = ((), v) ∧
      catalog v = unflagged (catalog w) (((catalog w).found none (contentQuery contentId)).take
        (limit * sharedPageSize)) ∧ ready v := by
  cases hfirst : shows (sharedPage 0) with
  | false =>
      have hzero : limit = 0 := by
        apply Nat.eq_zero_of_not_pos
        intro hpos
        exact Bool.false_ne_true (hfirst.symm.trans (hshown 0 hpos))
      rcases releaseShared_of_hidden hk hw hfirst contentId with ⟨v, hrun, hcatalog, hv⟩
      refine ⟨v, hrun, ?_, hv⟩
      rw [hcatalog, hzero, Nat.zero_mul, List.take_zero]
      rfl
  | true =>
      have hfits' : ((catalog w).found none (contentQuery contentId)).length ≤ largestWord :=
        Nat.le_trans (Catalog.length_found_le _ _ _) hfits
      have hsized : 0 < (sharedPage 0).size := by
        decide
      rcases search_page (contentQuery contentId) (sharedPage 0) hk hw hfirst rfl (by decide) with
        ⟨v, hsearch, _⟩
      have hpages : ((catalog w).found none (contentQuery contentId)).length ≤
          (foundPage (catalog w) (contentQuery contentId) (sharedPage 0)).totalPages *
            (sharedPage 0).size :=
        Page.le_totalPages_mul hsized _ _
      rw [releaseShared_run, hsearch]
      rcases unflagPages_apply _ _ hk (Catalog.holds_hash_flagged contentId) hw hc rfl hsized hfits'
          (Nat.le_trans (Nat.le_of_eq (Nat.zero_mul _)) (Nat.zero_le _))
          (Nat.le_trans hpages (Nat.mul_le_mul_right _
            (Nat.le_trans (Nat.le_succ _) (Nat.le_add_left _ _))))
          hshown hlimit (Nat.zero_le _) with
        ⟨v, hrun, hcatalog, hv⟩
      refine ⟨v, hrun, ?_, hv⟩
      rw [hcatalog]
      congr 1

/-- Every document that holds the content is flagged as not pinned, and nothing else changes. -/
theorem releaseShared_apply (hk : Keeps b.indexer catalog quiet ready) {w : W} (hw : ready w)
    (hc : (catalog w).WellFormed) (hfits : (catalog w).size ≤ largestWord) (contentId : String) :
    exists v, releaseShared b contentId w = ((), v) ∧
      catalog v = unflagged (catalog w) ((catalog w).found none (contentQuery contentId)) ∧
      ready v := by
  have hall : ((catalog w).found none (contentQuery contentId)).length ≤
      ((catalog w).found none (contentQuery contentId)).length * sharedPageSize :=
    Nat.le_mul_of_pos_right _ (by decide)
  rcases releaseShared_within hk.within hw hc hfits contentId (fun _ _ => rfl) (Or.inr hall) with
    ⟨v, hrun, hcatalog, hv⟩
  rw [List.take_of_length_le hall] at hcatalog
  exact ⟨v, hrun, hcatalog, hv⟩

theorem document?_requeued {c : Catalog} (hc : c.WellFormed) (contentId index id : String) :
    (unflagged c (c.found none (contentQuery contentId))).document? index id =
      (c.document? index id).map fun document =>
        if (contentQuery contentId).holds document then flagged false document else document := by
  rw [document?_unflagged]
  cases hdocument : c.document? index id with
  | none =>
      split
      · rfl
      · rfl
  | some document =>
      have hmem : (exists m, m ∈ c.found none (contentQuery contentId) ∧
          m.index = index ∧ m.id = id) ↔ (contentQuery contentId).holds document = true := by
        constructor
        · rintro ⟨m, hm, rfl, rfl⟩
          rcases hc.mem_found hm with ⟨document', hdocument', hholds, _⟩
          rw [hdocument] at hdocument'
          rw [Option.some.inj hdocument']
          exact hholds
        · intro hholds
          exact ⟨_, hc.mem_found_of_document? hdocument hholds, rfl, rfl⟩
      by_cases hholds : (contentQuery contentId).holds document = true
      · rw [if_pos (hmem.mpr hholds), Option.map_some, Option.map_some, if_pos hholds]
      · rw [if_neg (mt hmem.mp hholds), Option.map_some, if_neg hholds]

end Service
end ContentGateway
