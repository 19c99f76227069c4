import ContentGateway.Proofs.Catalog.Paging
import ContentGateway.Proofs.Json.Record

/-!
# Pages on the wire

A page request is read back from what is written of it, on its own and among the members of
a page, and so is a page of documents.  Both are written in the order of the names of their
members, and a reading passes over the members of the other.
-/

namespace ContentGateway

/-!
# Parts
-/

theorem exists_of_map_ok {ε α β : Type} {result : Except ε α} {f : α -> β} {b : β}
    (h : result.map f = .ok b) : exists a, result = .ok a ∧ f a = b := by
  cases result with
  | error e => cases h
  | ok a => exact ⟨a, rfl, Except.ok.inj h⟩

theorem ok_of_mapError {ε ε' α : Type} {result : Except ε α} {f : ε -> ε'} {a : α}
    (h : result.mapError f = .ok a) : result = .ok a := by
  cases result with
  | error e => cases h
  | ok a' => exact congrArg _ (Except.ok.inj h)

theorem Reading.word_nat {n : Nat} (h : n ≤ largestWord) :
    Reading.word (Tree.ofJson (.nat n)) = .ok n := by
  have hword : (0 : Int) ≤ n ∧ (n : Int) ≤ largestWord := ⟨Int.natCast_nonneg n, Int.ofNat_le.mpr h⟩
  show (if (0 : Int) ≤ n ∧ (n : Int) ≤ largestWord then _ else _) = _
  rw [if_pos hword]
  rfl

theorem Reading.word_le {t : Tree} {n : Nat} (h : Reading.word t = .ok n) : n ≤ largestWord := by
  unfold Reading.word at h
  split at h
  · split at h
    · next m hword =>
        cases h
        omega
    · cases h
  · cases h

theorem Reading.option_ofOption (text : Option String) :
    Reading.option Reading.string (Tree.ofJson (.ofOption text)) = .ok text := by
  cases text with
  | none => rfl
  | some t => rfl

theorem Reading.fields_object {fields : Fields} (h : (Json.object fields).isTidy = true) :
    Reading.fields (Tree.ofJson (.object fields)) = .ok fields := by
  have hread := Json.toJson_ofJson h
  rw [Tree.ofJson] at hread ⊢
  unfold Reading.fields
  simp only [hread]

theorem SortDirection.readingOver_token (isEmpty : Tree -> Bool) (direction : SortDirection) :
    readingOver isEmpty (Tree.ofJson (.string direction.token)) = .ok direction := by
  cases direction with
  | ascending => rfl
  | descending => rfl

/-!
# Requests
-/

namespace PageRequest

/-- What a request is held to, however it was made. -/
structure Sound (r : PageRequest) : Prop where
  page : r.page ≤ largestWord
  size : r.size ≤ largestWord
  positive : 0 < r.size
  sorted : forall field, r.sort = some field -> isBlankText field = false

def wireMembers (r : PageRequest) : List (String × Json) :=
  [("direction", .string r.direction.token), ("page", .nat r.page), ("size", .nat r.size)]
    ++ Json.optional "sort" r.sort

theorem toJson_eq (r : PageRequest) : r.toJson = .object r.wireMembers := by
  rcases r with ⟨page, size, sort, direction⟩
  cases sort <;>
    simp only [toJson, members, wireMembers, Json.ofMembers, Json.optional, List.cons_append,
      List.nil_append, List.append_nil, Table.ofList, Table.extend, List.foldl_cons,
      List.foldl_nil, Table.insert, String.reduceEq, String.reduceLT, if_true, if_false]

theorem object_wireMembers {r : PageRequest} (h : r.Sound) {direction : Reading SortDirection}
    (hdirection : direction (Tree.ofJson (.string r.direction.token)) = .ok r.direction) :
    Reading.object (slots direction) standard (Tree.ofJson (.object r.wireMembers)) = .ok r := by
  have hrequired : Slot.Fills (slots direction)
      [("direction", .string r.direction.token), ("page", .nat r.page), ("size", .nat r.size)]
      standard ⟨r.page, r.size, none, r.direction⟩ :=
    .cons rfl rfl (Slot.fill_defaulted hdirection ..)
      (.cons rfl rfl (Slot.fill_required (Reading.word_nat h.page) ..)
        (.cons rfl rfl (Slot.fill_required (Reading.word_nat h.size) ..) .nil))
  have hslot : (slots direction).find? (fun s => s.names.contains "sort") =
      some (.defaulted "sort" (Reading.option Reading.string) fun s r => { r with sort := s }) := rfl
  have hfills : Slot.Fills (slots direction) r.wireMembers standard r :=
    hrequired.append (Slot.fills_optional hslot rfl r.sort)
  apply hfills.object
  · unfold wireMembers
    cases r.sort <;> simp [Json.optional, Table.keys]
  · unfold wireMembers
    cases r.sort <;> rfl

theorem checked_of_sound {r : PageRequest} (h : r.Sound) : checked r = .ok r := by
  rcases r with ⟨page, size, sort, direction⟩
  have hsize : size ≠ 0 := Nat.pos_iff_ne_zero.mp h.positive
  cases sort with
  | none =>
      simp only [checked, of, if_neg hsize]
      rfl
  | some field =>
      have hink : nonBlank (some field) = some field := by
        simp [nonBlank, Option.filter_some, h.sorted field rfl]
      simp only [checked, sorted, of, if_neg hsize, hink]
      rfl

theorem reading_toJson {r : PageRequest} (h : r.Sound) :
    Reading.ofJson reading r.toJson = .ok r := by
  refine Reading.refine_of_ok ?_ (checked_of_sound h)
  rw [toJson_eq]
  exact object_wireMembers h (SortDirection.readingOver_token _ _)

theorem readingWithin_ofMembers {r : PageRequest} (h : r.Sound) {members : List (String × Json)}
    (hmembers : members.filter (fun e => Slot.knows
      (slots (SortDirection.readingOver Reading.isEmptyContent)) e.1) = r.wireMembers) :
    readingWithin (Tree.ofJson (.object members)) = .ok r := by
  refine Reading.refine_of_ok ?_ (checked_of_sound h)
  rw [← Reading.object_filter, hmembers]
  exact object_wireMembers h (SortDirection.readingOver_token _ _)

/-!
# Where requests come from
-/

/-- The requests that can be made; page numbers and sizes are words, and no page comes after the
one with the largest number. -/
inductive Obtainable : PageRequest -> Prop where
  | of {page size : Nat} {r : PageRequest} (hpage : page ≤ largestWord)
      (hsize : size ≤ largestWord) (h : PageRequest.of page size = .ok r) : Obtainable r
  | sorted {page size : Nat} {field : String} {direction : SortDirection} {r : PageRequest}
      (hpage : page ≤ largestWord) (hsize : size ≤ largestWord)
      (h : PageRequest.sorted page size field direction = .ok r) : Obtainable r
  | single : Obtainable .single
  | standard : Obtainable .standard
  | withSize {r : PageRequest} {size : Nat} (h : Obtainable r) (hsize : size ≤ largestWord) :
      Obtainable (r.withSize size)
  | next {r : PageRequest} (h : Obtainable r) (hpage : r.page < largestWord) : Obtainable r.next

theorem sound_of {page size : Nat} {r : PageRequest} (hpage : page ≤ largestWord)
    (hsize : size ≤ largestWord) (h : of page size = .ok r) : r.Sound := by
  unfold of at h
  split at h
  · cases h
  · next hpositive =>
      cases h
      exact ⟨hpage, hsize, Nat.pos_of_ne_zero hpositive, fun _ hsort => nomatch hsort⟩

theorem sound_sorted {page size : Nat} {field : String} {direction : SortDirection}
    {r : PageRequest} (hpage : page ≤ largestWord) (hsize : size ≤ largestWord)
    (h : sorted page size field direction = .ok r) : r.Sound := by
  rcases exists_of_map_ok h with ⟨made, hof, rfl⟩
  have hmade := sound_of hpage hsize hof
  refine ⟨hmade.page, hmade.size, hmade.positive, ?_⟩
  intro field' hsort
  have hkept : (some field).filter (fun t => !isBlankText t) = some field' := hsort
  simpa using (Option.filter_eq_some_iff.mp hkept).2

theorem Obtainable.sound {r : PageRequest} (h : r.Obtainable) : r.Sound := by
  induction h with
  | of hpage hsize h => exact sound_of hpage hsize h
  | sorted hpage hsize h => exact sound_sorted hpage hsize h
  | single => exact ⟨by decide, by decide, by decide, fun _ hsort => nomatch hsort⟩
  | standard => exact ⟨by decide, by decide, by decide, fun _ hsort => nomatch hsort⟩
  | withSize _ hsize ih =>
      exact ⟨ih.page, Nat.max_le.mpr ⟨hsize, by decide⟩, Nat.le_max_right _ _, ih.sorted⟩
  | next _ hpage ih => exact ⟨hpage, ih.size, ih.positive, ih.sorted⟩

/-!
# Requests that have been read
-/

theorem keeps_slots {direction : Reading SortDirection} {s : Slot PageRequest}
    (hs : s ∈ slots direction) :
    s.Keeps fun r => r.page ≤ largestWord ∧ r.size ≤ largestWord := by
  simp only [slots, List.mem_cons, List.not_mem_nil, or_false] at hs
  rcases hs with rfl | rfl | rfl | rfl
  · exact Slot.keeps_required fun _ _ _ hread hr => ⟨Reading.word_le hread, hr.2⟩
  · exact Slot.keeps_required fun _ _ _ hread hr => ⟨hr.1, Reading.word_le hread⟩
  · exact Slot.keeps_defaulted fun _ _ _ _ hr => hr
  · exact Slot.keeps_defaulted fun _ _ _ _ hr => hr

theorem sound_of_checked {raw r : PageRequest} (hpage : raw.page ≤ largestWord)
    (hsize : raw.size ≤ largestWord) (h : checked raw = .ok r) : r.Sound := by
  have hmade := ok_of_mapError h
  split at hmade
  · exact sound_sorted hpage hsize hmade
  · rcases exists_of_map_ok hmade with ⟨made, hof, rfl⟩
    have hsound := sound_of hpage hsize hof
    exact ⟨hsound.page, hsound.size, hsound.positive, hsound.sorted⟩

theorem sound_of_reading {t : Tree} {r : PageRequest} (h : reading t = .ok r) : r.Sound := by
  rcases Reading.ok_of_refine h with ⟨raw, hrecord, hchecked⟩
  have hwords := Reading.record_keeps (fun s hs => keeps_slots hs) hrecord ⟨by decide, by decide⟩
  exact sound_of_checked hwords.1 hwords.2 hchecked

theorem sound_of_readingWithin {t : Tree} {r : PageRequest} (h : readingWithin t = .ok r) :
    r.Sound := by
  rcases Reading.ok_of_refine h with ⟨raw, hobject, hchecked⟩
  have hwords := Reading.object_keeps (fun s hs => keeps_slots hs) hobject ⟨by decide, by decide⟩
  exact sound_of_checked hwords.1 hwords.2 hchecked

end PageRequest

/-!
# Documents
-/

namespace Metadata

def wireMembers (m : Metadata) : List (String × Json) :=
  [("content_id", .ofOption m.contentId)] ++ Json.optional "content_type" m.contentType
    ++ [("id", .string m.id), ("index", .string m.index), ("index_fields", .object m.fields)]

theorem toJson_eq (m : Metadata) : m.toJson = .object m.wireMembers := by
  rcases m with ⟨index, id, contentId, contentType, fields⟩
  cases contentType <;>
    simp only [toJson, members, wireMembers, Json.ofMembers, Json.optional, List.cons_append,
      List.nil_append, List.append_nil, Table.ofList, Table.extend, List.foldl_cons,
      List.foldl_nil, Table.insert, String.reduceEq, String.reduceLT, if_true, if_false]

theorem reading_toJson {m : Metadata} (h : (Json.object m.fields).isTidy = true) :
    reading (Tree.ofJson m.toJson) = .ok m := by
  have hstring : forall s, Reading.string (Tree.ofJson (.string s)) = .ok s := fun _ => rfl
  have hcontent : Slot.Fills slots [("content_id", .ofOption m.contentId)]
      ⟨"", "", none, none, []⟩ ⟨"", "", m.contentId, none, []⟩ :=
    .cons rfl rfl (congrArg (Except.map _) (Reading.option_ofOption m.contentId)) .nil
  have hrest : Slot.Fills slots
      [("id", .string m.id), ("index", .string m.index), ("index_fields", .object m.fields)]
      ⟨"", "", m.contentId, m.contentType, []⟩ m :=
    .cons rfl rfl (Slot.fill_required (hstring m.id) ..)
      (.cons rfl rfl (Slot.fill_required (hstring m.index) ..)
        (.cons rfl rfl (Slot.fill_defaulted (Reading.fields_object h) ..) .nil))
  have hfills : Slot.Fills slots m.wireMembers ⟨"", "", none, none, []⟩ m :=
    (hcontent.append (Slot.fills_optional rfl rfl m.contentType)).append hrest
  rw [toJson_eq, reading, Reading.record_object]
  apply hfills.object
  · unfold wireMembers
    cases m.contentType <;> simp [Json.optional, Table.keys]
  · unfold wireMembers
    cases m.contentType <;> rfl

end Metadata

/-!
# Pages
-/

namespace Page

variable {α : Type}

def ownMembers (element : α -> Json) (p : Page α) : List (String × Json) :=
  [("elements", .array (p.elements.map element)), ("total_elements", .nat p.totalElements),
    ("total_pages", .nat p.totalPages)]

def wireMembers (element : α -> Json) (p : Page α) : List (String × Json) :=
  [("direction", .string p.request.direction.token), ("elements", .array (p.elements.map element)),
    ("page", .nat p.request.page), ("size", .nat p.request.size)]
    ++ Json.optional "sort" p.request.sort
    ++ [("total_elements", .nat p.totalElements), ("total_pages", .nat p.totalPages)]

theorem toJson_eq (element : α -> Json) (p : Page α) :
    p.toJson element = .object (p.wireMembers element) := by
  rcases p with ⟨⟨page, size, sort, d⟩, elements, totalElements, totalPages⟩
  cases sort <;>
    simp only [toJson, members, PageRequest.members, wireMembers, Json.ofMembers, Json.optional,
      List.cons_append, List.nil_append, List.append_nil, Table.ofList, Table.extend,
      List.foldl_cons, List.foldl_nil, Table.insert, String.reduceEq, String.reduceLT, if_true,
      if_false]

theorem filter_own (element : α -> Json) (read : Reading α) (p : Page α) :
    (p.wireMembers element).filter (fun e => Slot.knows (slots read) e.1) =
      p.ownMembers element := by
  rcases p with ⟨⟨page, size, sort, d⟩, elements, totalElements, totalPages⟩
  cases sort with
  | none => rfl
  | some field => rfl

theorem filter_request (element : α -> Json) (direction : Reading SortDirection) (p : Page α) :
    (p.wireMembers element).filter (fun e => Slot.knows (PageRequest.slots direction) e.1) =
      p.request.wireMembers := by
  rcases p with ⟨⟨page, size, sort, d⟩, elements, totalElements, totalPages⟩
  cases sort with
  | none => rfl
  | some field => rfl

theorem object_ownMembers {element : α -> Json} {read : Reading α} {p : Page α}
    (helements : forall v, v ∈ p.elements -> read (Tree.ofJson (element v)) = .ok v)
    (htotal : p.totalElements ≤ largestWord) (hpages : p.totalPages ≤ largestWord) :
    Reading.object (slots read) ⟨.standard, [], 0, 0⟩
        (Tree.ofJson (.object (p.ownMembers element))) =
      .ok ⟨.standard, p.elements, p.totalElements, p.totalPages⟩ := by
  have hfills : Slot.Fills (slots read) (p.ownMembers element) ⟨.standard, [], 0, 0⟩
      ⟨.standard, p.elements, p.totalElements, p.totalPages⟩ :=
    .cons rfl rfl (Slot.fill_required (Reading.list_ofJson helements) ..)
      (.cons rfl rfl (Slot.fill_required (Reading.word_nat htotal) ..)
        (.cons rfl rfl (Slot.fill_required (Reading.word_nat hpages) ..) .nil))
  apply hfills.object
  · simp [ownMembers, Table.keys]
  · rfl

theorem reading_toJson {element : α -> Json} {read : Reading α} {p : Page α}
    (hrequest : p.request.Sound)
    (helements : forall v, v ∈ p.elements -> read (Tree.ofJson (element v)) = .ok v)
    (htotal : p.totalElements ≤ largestWord) (hpages : p.totalPages ≤ largestWord) :
    Reading.ofJson (reading read) (p.toJson element) = .ok p := by
  have hown := object_ownMembers helements htotal hpages
  -- the page passes over the members of the request, and the request over those of the page
  rw [← filter_own element read p, Reading.object_filter] at hown
  rw [Reading.ofJson, toJson_eq, reading, hown]
  simp only
  rw [PageRequest.readingWithin_ofMembers hrequest (filter_request element _ p)]

theorem totalPages_ofTotal_le (request : PageRequest) (elements : List α) (total : Nat) :
    (ofTotal request elements total).totalPages ≤ total := by
  have hsize : 0 < max request.size 1 := Nat.lt_of_lt_of_le Nat.one_pos (Nat.le_max_right _ _)
  exact (count_le_iff hsize total total).mpr (Nat.le_mul_of_pos_right total hsize)

theorem sound_of_reading {read : Reading α} {t : Tree} {p : Page α}
    (h : reading read t = .ok p) : p.request.Sound := by
  unfold reading at h
  split at h
  · cases h
  · split at h
    · cases h
    · next r hrequest =>
        cases h
        exact PageRequest.sound_of_readingWithin hrequest

/--
Requests and pages of documents are read back from what is written of them, with all that they
carry.  Whatever is read as a request, or as a page of anything, has a page size and does not
sort by a blank field.
-/
theorem requests_and_pages_read_back :
    (forall r : PageRequest, r.Obtainable ->
      Reading.ofJson PageRequest.reading r.toJson = .ok r) ∧
    (forall (r : PageRequest) (elements : List Metadata) (total : Nat), r.Obtainable ->
      (forall m, m ∈ elements -> (Json.object m.fields).isTidy = true) -> total ≤ largestWord ->
      Reading.ofJson (reading Metadata.reading)
          ((ofTotal r elements total).toJson Metadata.toJson) =
        .ok (ofTotal r elements total)) ∧
    (forall (t : Tree) (r : PageRequest), PageRequest.reading t = .ok r -> r.Sound) ∧
    (forall (α : Type) (read : Reading α) (t : Tree) (p : Page α),
      reading read t = .ok p -> p.request.Sound) := by
  refine ⟨?_, ?_, ?_, ?_⟩
  · exact fun r hr => PageRequest.reading_toJson hr.sound
  · intro r elements total hr htidy htotal
    refine reading_toJson hr.sound (fun m hm => Metadata.reading_toJson (htidy m hm)) htotal ?_
    exact Nat.le_trans (totalPages_ofTotal_le r elements total) htotal
  · exact fun t r h => PageRequest.sound_of_reading h
  · exact fun α read t p h => sound_of_reading h

def fourthRequest : PageRequest :=
  ⟨3, 5, some "title", .descending⟩

theorem fourthRequest_obtainable : fourthRequest.Obtainable := by
  have hsorted : PageRequest.sorted 2 7 "title" .descending =
      .ok ⟨2, 7, some "title", .descending⟩ := rfl
  exact ((PageRequest.Obtainable.sorted (by decide) (by decide) hsorted).withSize
    (by decide : 5 ≤ largestWord)).next (by decide)

theorem requests_and_pages_read_back_fourthRequest :
    let full : Metadata := ⟨"files", "1", some "sha256-ab", some "text/plain",
      [("nested", .object [("size", .nat 4)]), ("title", .string "b")]⟩
    let bare : Metadata := ⟨"files", "2", none, none, []⟩
    let p := ofTotal fourthRequest [full, bare] 17
    Reading.ofJson PageRequest.reading fourthRequest.toJson = .ok fourthRequest ∧
      Reading.ofJson (reading Metadata.reading) (p.toJson Metadata.toJson) = .ok p ∧
      p.totalPages = 4 ∧
      PageRequest.reading (Tree.ofJson (.array [.nat 1, .nat 2, .string " "])) =
        .ok ⟨1, 2, none, .ascending⟩ ∧
      PageRequest.Sound ⟨1, 2, none, .ascending⟩ := by
  intro full bare p
  rcases requests_and_pages_read_back with ⟨hrequests, hpages, hread, -⟩
  have htidy : forall m, m ∈ [full, bare] -> (Json.object m.fields).isTidy = true := by
    decide
  have hlisted : PageRequest.reading (Tree.ofJson (.array [.nat 1, .nat 2, .string " "])) =
      .ok ⟨1, 2, none, .ascending⟩ := rfl
  exact ⟨hrequests _ fourthRequest_obtainable,
    hpages _ _ 17 fourthRequest_obtainable htidy (by decide), rfl, hlisted, hread _ _ hlisted⟩

end Page
end ContentGateway
