import ContentGateway.Proofs.Catalog.Changes

/-!
# What the documents of a catalog describe

Which documents there are and which content each of them describes, with its type, apart from
all else that is known about them.  Flags and free fields do not show here; a write shows in
one place, and so does a removal.
-/

namespace ContentGateway
namespace Catalog

def contentAt (c : Catalog) (index id : String) : Option String :=
  (c.document? index id).bind contentOf

def Describes (c : Catalog) (contentId : String) : Prop :=
  exists index id, c.contentAt index id = some contentId

/-- The same indices and the same documents, each with the content and the type that it had. -/
structure SameContents (c c' : Catalog) : Prop where
  indexNames : c'.indexNames = c.indexNames
  contents : forall index id,
    (c'.document? index id).map contentOf = (c.document? index id).map contentOf
  types : forall index id,
    (c'.document? index id).map typeOf = (c.document? index id).map typeOf

theorem contentAt_of_document? {c : Catalog} {index id : String} {document : Fields}
    (h : c.document? index id = some document) : c.contentAt index id = contentOf document := by
  unfold contentAt
  rw [h]
  rfl

theorem contentAt_eq_join (c : Catalog) (index id : String) :
    c.contentAt index id = ((c.document? index id).map contentOf).join := by
  unfold contentAt
  cases c.document? index id with
  | none => rfl
  | some document => rfl

namespace SameContents

variable {c c' c'' : Catalog}

theorem refl (c : Catalog) : SameContents c c :=
  ⟨rfl, fun _ _ => rfl, fun _ _ => rfl⟩

theorem trans (h : SameContents c c') (h' : SameContents c' c'') : SameContents c c'' :=
  ⟨h'.indexNames.trans h.indexNames,
    fun index id => (h'.contents index id).trans (h.contents index id),
    fun index id => (h'.types index id).trans (h.types index id)⟩

theorem contentAt (h : SameContents c c') (index id : String) :
    c'.contentAt index id = c.contentAt index id := by
  rw [contentAt_eq_join, h.contents, ← contentAt_eq_join]

theorem describes_iff (h : SameContents c c') (contentId : String) :
    c'.Describes contentId ↔ c.Describes contentId := by
  unfold Describes
  simp only [h.contentAt]

theorem document?_eq_none (h : SameContents c c') {index id : String}
    (hnone : c.document? index id = none) : c'.document? index id = none := by
  have hcontents := h.contents index id
  rw [hnone] at hcontents
  exact Option.map_eq_none_iff.mp hcontents

theorem exists_document (h : SameContents c c') {index id : String} {document : Fields}
    (hdocument : c.document? index id = some document) :
    exists document', c'.document? index id = some document' ∧
      contentOf document' = contentOf document := by
  have hcontents := h.contents index id
  rw [hdocument] at hcontents
  exact Option.map_eq_some_iff.mp hcontents

end SameContents

/-!
# Changes that do not show
-/

theorem map_document?_flag (c : Catalog) (index id : String) (pinned : Bool) {α : Type}
    {f : Fields -> α} (hf : forall document, f (flagged pinned document) = f document)
    (i j : String) :
    ((c.flag index id pinned).document? i j).map f = (c.document? i j).map f := by
  rw [document?_flag]
  split
  · rw [Option.map_map]
    congr 1
    funext document
    exact hf document
  · rfl

theorem WellFormed.sameContents_flag {c : Catalog} (hc : c.WellFormed) (index id : String)
    (pinned : Bool) : SameContents c (c.flag index id pinned) where
  indexNames := hc.indexNames_flag index id pinned
  contents := map_document?_flag c index id pinned (contentOf_flagged pinned)
  types := map_document?_flag c index id pinned (typeOf_flagged pinned)

theorem typeOf_insert (document : Fields) {key : String} (hkey : isReservedKey key = false)
    (value : Json) : typeOf (Table.insert document key value) = typeOf document := by
  have htype : key ≠ contentTypeKey := by
    rintro rfl
    exact absurd hkey (by decide)
  unfold typeOf
  rw [Table.get?_insert, if_neg htype]

theorem contentOf_insert (document : Fields) {key : String} (hkey : isReservedKey key = false)
    (value : Json) : contentOf (Table.insert document key value) = contentOf document := by
  have hhash : key ≠ hashKey := by
    rintro rfl
    exact absurd hkey (by decide)
  unfold contentOf
  rw [Table.get?_insert, if_neg hhash]

theorem WellFormed.sameContents_setField {c c' : Catalog} (hc : c.WellFormed)
    {index id key : String} (hkey : isReservedKey key = false) {value : Json}
    (h : c.setField index id key value = .ok c') : c'.WellFormed ∧ SameContents c c' := by
  rw [setField_eq] at h
  cases hdocument : c.document? (lowerCase index) id with
  | none =>
      rw [hdocument] at h
      cases h
  | some document =>
      rw [hdocument] at h
      cases h
      have hsame : forall {f : Fields -> Option String},
          f (Table.insert document key value) = f document -> forall i j,
            ((c.store (lowerCase index) id (Table.insert document key value)).document? i j).map
              f = (c.document? i j).map f := by
        intro f hf i j
        rw [document?_store (mem_indexNames_of_document? hdocument)]
        split
        · next hplace =>
            rw [← hplace.1, ← hplace.2, hdocument, Option.map_some, Option.map_some, hf]
        · rfl
      exact ⟨hc.store _ _ _, indexNames_withDocuments hc _ _,
        hsame (contentOf_insert document hkey value), hsame (typeOf_insert document hkey value)⟩

/-!
# Changes that show in one place
-/

theorem generated_of_put {c c' : Catalog} {index docId : String}
    {contentId contentType : Option String} {fields : Fields}
    (h : c.put index none contentId contentType fields = .ok (docId, c')) :
    exists number, docId = generatedId number := by
  unfold put at h
  cases hshelf : Table.get? c.shelves (lowerCase index) with
  | none => simp [hshelf] at h
  | some shelf =>
      simp only [hshelf] at h
      cases h
      exact ⟨_, rfl⟩

/-- A write of content: where it goes, and what the documents describe afterwards. -/
structure Written (c c' : Catalog) (index : String) (id : Option String)
    (contentId docId : String) : Prop where
  wellFormed : c'.WellFormed
  indexNames : c'.indexNames = c.indexNames
  /-- The id is the given one, or a generated one under which there was no document. -/
  chosen : id = some docId ∨
    c.document? (lowerCase index) docId = none ∧ exists number, docId = generatedId number
  contents : forall i j, (c'.document? i j).map contentOf =
    if lowerCase index = i ∧ docId = j then some (some contentId)
    else (c.document? i j).map contentOf

theorem WellFormed.written_put {c c' : Catalog} (hc : c.WellFormed) {index contentId docId : String}
    {id contentType : Option String} {fields : Fields}
    (h : c.put index id (some contentId) contentType fields = .ok (docId, c')) :
    Written c c' index id contentId docId := by
  rcases put_ok h with ⟨hindex, document, number, hfresh, rfl⟩
  have hstored := hc.store (lowerCase index) docId document
  have hcontent : contentOf document = some contentId := by
    unfold contentOf
    rw [hfresh.content]
    rfl
  refine ⟨⟨hstored.shelves, hstored.documents, hstored.named⟩, ?_, ?_, ?_⟩
  · exact indexNames_withDocuments hc _ _
  · rcases (put_cases h).2 with ⟨rfl, hnone, _⟩ | ⟨hsome, _⟩
    · exact Or.inr ⟨hnone, generated_of_put h⟩
    · exact Or.inl hsome
  · intro i j
    show ((c.store (lowerCase index) docId document).document? i j).map contentOf = _
    rw [document?_store hindex]
    split
    · exact congrArg some hcontent
    · rfl

/-!
# Types that are written
-/

theorem type_of_mem_writtenFields {contentId contentType : Option String} {fields : Fields}
    {e : String × Json} (he : e ∈ writtenFields contentId contentType fields)
    (hkey : e.1 = contentTypeKey) :
    exists type, contentType = some type ∧ e.2 = .string type := by
  rcases mem_writtenFields he with rfl | ⟨id, _, rfl⟩ | ⟨type, htype, rfl⟩ | hfree
  · exact absurd hkey pinnedKey_ne_contentTypeKey
  · exact absurd hkey.symm contentTypeKey_ne_hashKey
  · exact ⟨type, htype, rfl⟩
  · rw [hkey] at hfree
    exact absurd hfree (by decide)

theorem get?_writtenFields_type (contentId contentType : Option String) (fields : Fields) :
    Table.get? (writtenFields contentId contentType fields) contentTypeKey =
      contentType.map Json.string := by
  cases contentType with
  | none =>
      cases hget : Table.get? (writtenFields contentId none fields) contentTypeKey with
      | none => rfl
      | some value =>
          rcases type_of_mem_writtenFields (Table.mem_of_get? hget) rfl with ⟨_, hnone, _⟩
          cases hnone
  | some type =>
      unfold writtenFields
      rw [Table.get?_insert, if_neg pinnedKey_ne_contentTypeKey, Table.get?_insert, if_pos rfl]
      rfl

theorem typeOf_writtenFields (contentId contentType : Option String) (fields : Fields) :
    typeOf (writtenFields contentId contentType fields) = contentType := by
  unfold typeOf
  rw [get?_writtenFields_type]
  cases contentType with
  | none => rfl
  | some type => rfl

theorem typeOf_extend_writtenFields (contentId contentType : Option String) (fields old : Fields) :
    typeOf (Table.extend old (writtenFields contentId contentType fields)) =
      contentType.or (typeOf old) := by
  unfold typeOf
  cases contentType with
  | none =>
      rw [Table.get?_extend_of_absent]
      · rfl
      · intro e he hkey
        rcases type_of_mem_writtenFields he hkey with ⟨_, hnone, _⟩
        cases hnone
  | some type =>
      have hmem := Table.mem_of_get? (get?_writtenFields_type contentId (some type) fields)
      rw [Table.get?_extend_of_unique hmem]
      · rfl
      · intro e he hkey
        rcases type_of_mem_writtenFields he hkey with ⟨_, hsome, hvalue⟩
        rw [hvalue, Option.some.inj hsome]

/-- A write shows in one place, where a document that is there may keep the type it had. -/
theorem types_put {c c' : Catalog} {index docId : String} {id contentId contentType : Option String}
    {fields : Fields} (h : c.put index id contentId contentType fields = .ok (docId, c'))
    (i j : String) :
    (c'.document? i j).map typeOf =
      if lowerCase index = i ∧ docId = j then
        some (contentType.or ((c.document? i j).bind typeOf))
      else (c.document? i j).map typeOf := by
  rcases put_cases h with ⟨hindex, ⟨_, hfree, issued, rfl⟩ | ⟨_, rfl⟩⟩
  · show ((c.store _ _ _).document? i j).map typeOf = _
    rw [document?_store hindex]
    split
    · next hplace =>
        rcases hplace with ⟨rfl, rfl⟩
        rw [hfree, Option.map_some, typeOf_writtenFields, Option.bind_none, Option.or_none]
    · rfl
  · rw [document?_store hindex]
    split
    · next hplace =>
        rcases hplace with ⟨rfl, rfl⟩
        rw [Option.map_some, typeOf_extend_writtenFields]
        cases c.document? (lowerCase index) docId with
        | none => rfl
        | some old => rfl
    · rfl

theorem Written.contentAt {c c' : Catalog} {index contentId docId : String} {id : Option String}
    (h : Written c c' index id contentId docId) (i j : String) :
    c'.contentAt i j =
      if lowerCase index = i ∧ docId = j then some contentId else c.contentAt i j := by
  rw [contentAt_eq_join, contentAt_eq_join, h.contents]
  split
  · rfl
  · rfl

theorem contentAt_without (c : Catalog) (index id i j : String) :
    (c.without index id).contentAt i j =
      if index = i ∧ id = j then none else c.contentAt i j := by
  unfold contentAt
  rw [document?_without]
  split
  · rfl
  · rfl

/-!
# New indices
-/

theorem mem_indexNames_createIndex (c : Catalog) (index : String)
    (configuration : Option Json) (name : String) :
    name ∈ (c.createIndex index configuration).indexNames ↔
      lowerCase index = name ∨ name ∈ c.indexNames := by
  by_cases hpresent : lowerCase index ∈ c.indexNames
  · rw [createIndex_of_present hpresent]
    constructor
    · exact Or.inr
    · rintro (rfl | h)
      · exact hpresent
      · exact h
  · rw [createIndex_of_absent hpresent, mem_indexNames_iff, mem_indexNames_iff]
    simp only [Table.get?_insert]
    by_cases h : lowerCase index = name
    · simp [h]
    · simp [h]

theorem contentAt_createIndex (c : Catalog) (index : String) (configuration : Option Json)
    (i j : String) : (c.createIndex index configuration).contentAt i j = c.contentAt i j := by
  unfold contentAt
  rw [document?_createIndex]

end Catalog
end ContentGateway
