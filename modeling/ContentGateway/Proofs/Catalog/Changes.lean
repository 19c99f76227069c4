import ContentGateway.Proofs.Catalog.GeneratedIds

/-!
# What the calls of a catalog change

Writing, removing and changing a document, each as one change of one look-up.  The flag
that says whether a document is pinned is changed by itself, which leaves everything
else that is known about the document as it was.
-/

namespace ContentGateway

/-!
# Reserved fields
-/

def contentOf (document : Fields) : Option String :=
  (Table.get? document hashKey).bind Json.asString?

def typeOf (document : Fields) : Option String :=
  (Table.get? document contentTypeKey).bind Json.asString?

def flagged (pinned : Bool) (document : Fields) : Fields :=
  Table.insert document pinnedKey (.bool pinned)

theorem pinnedKey_ne_hashKey : pinnedKey ≠ hashKey := by
  decide

theorem contentTypeKey_ne_hashKey : contentTypeKey ≠ hashKey := by
  decide

theorem pinnedKey_ne_contentTypeKey : pinnedKey ≠ contentTypeKey := by
  decide

theorem get?_flagged (pinned : Bool) (document : Fields) (key : String) :
    Table.get? (flagged pinned document) key =
      if pinnedKey = key then some (.bool pinned) else Table.get? document key :=
  Table.get?_insert document pinnedKey _ key

@[simp] theorem contentOf_flagged (pinned : Bool) (document : Fields) :
    contentOf (flagged pinned document) = contentOf document := by
  unfold contentOf
  rw [get?_flagged, if_neg pinnedKey_ne_hashKey]

@[simp] theorem typeOf_flagged (pinned : Bool) (document : Fields) :
    typeOf (flagged pinned document) = typeOf document := by
  unfold typeOf
  rw [get?_flagged, if_neg pinnedKey_ne_contentTypeKey]

theorem freeFields_flagged (pinned : Bool) (document : Fields) :
    freeFields (flagged pinned document) = freeFields document := by
  have hreserved : (!isReservedKey pinnedKey) = false := by
    decide
  exact Table.filter_insert_of_not (p := fun key => !isReservedKey key) document _ hreserved

@[simp] theorem Metadata.ofDocument_flagged (index id : String) (pinned : Bool)
    (document : Fields) :
    Metadata.ofDocument index id (flagged pinned document) =
      Metadata.ofDocument index id document := by
  unfold Metadata.ofDocument
  rw [freeFields_flagged, get?_flagged, get?_flagged, if_neg pinnedKey_ne_hashKey,
    if_neg pinnedKey_ne_contentTypeKey]

/-- The reserved fields of a document that the gateway has written. -/
structure Described (document : Fields) : Prop where
  content : exists contentId, Table.get? document hashKey = some (.string contentId)
  pinned : exists pinned, Table.get? document pinnedKey = some (.bool pinned)

theorem Described.contentOf {document : Fields} (h : Described document) :
    exists contentId, contentOf document = some contentId := by
  rcases h.content with ⟨contentId, hcontent⟩
  exact ⟨contentId, by simp [ContentGateway.contentOf, hcontent, Json.asString?]⟩

theorem Described.flagged {document : Fields} (h : Described document) (pinned : Bool) :
    Described (flagged pinned document) where
  content := by
    rw [get?_flagged, if_neg pinnedKey_ne_hashKey]
    exact h.content
  pinned := ⟨pinned, by rw [get?_flagged, if_pos rfl]⟩

theorem Described.insert {document : Fields} (h : Described document) {key : String}
    (hkey : isReservedKey key = false) (value : Json) :
    Described (Table.insert document key value) := by
  have hreserved : key ≠ hashKey ∧ key ≠ pinnedKey := by
    constructor
    · intro heq
      rw [heq] at hkey
      exact absurd hkey (by decide)
    · intro heq
      rw [heq] at hkey
      exact absurd hkey (by decide)
  constructor
  · rw [Table.get?_insert, if_neg hreserved.1]
    exact h.content
  · rw [Table.get?_insert, if_neg hreserved.2]
    exact h.pinned

/-!
# Written fields
-/

namespace Catalog

theorem mem_writtenFields {contentId contentType : Option String} {fields : Fields}
    {e : String × Json} (h : e ∈ writtenFields contentId contentType fields) :
    e = (pinnedKey, .bool false) ∨ (exists id, contentId = some id ∧ e = (hashKey, .string id)) ∨
      (exists type, contentType = some type ∧ e = (contentTypeKey, .string type)) ∨
      isReservedKey e.1 = false := by
  have hfree : e ∈ freeFields fields -> isReservedKey e.1 = false := by
    intro hmem
    simpa using (List.mem_filter.mp hmem).2
  unfold writtenFields at h
  rcases Table.mem_of_mem_insert h with hpinned | h
  · exact Or.inl hpinned
  · apply Or.inr
    cases contentId with
    | none =>
        cases contentType with
        | none => exact Or.inr (Or.inr (hfree h))
        | some type =>
            rcases Table.mem_of_mem_insert h with htype | h
            · exact Or.inr (Or.inl ⟨type, rfl, htype⟩)
            · exact Or.inr (Or.inr (hfree h))
    | some id =>
        cases contentType with
        | none =>
            rcases Table.mem_of_mem_insert h with hcontent | h
            · exact Or.inl ⟨id, rfl, hcontent⟩
            · exact Or.inr (Or.inr (hfree h))
        | some type =>
            rcases Table.mem_of_mem_insert h with htype | h
            · exact Or.inr (Or.inl ⟨type, rfl, htype⟩)
            · rcases Table.mem_of_mem_insert h with hcontent | h
              · exact Or.inl ⟨id, rfl, hcontent⟩
              · exact Or.inr (Or.inr (hfree h))

theorem get?_writtenFields_pinned (contentId contentType : Option String) (fields : Fields) :
    Table.get? (writtenFields contentId contentType fields) pinnedKey = some (.bool false) := by
  unfold writtenFields
  rw [Table.get?_insert, if_pos rfl]

theorem get?_writtenFields_hash (content : String) (contentType : Option String)
    (fields : Fields) :
    Table.get? (writtenFields (some content) contentType fields) hashKey =
      some (.string content) := by
  unfold writtenFields
  rw [Table.get?_insert, if_neg pinnedKey_ne_hashKey]
  cases contentType with
  | none => simp only [Table.get?_insert, if_true]
  | some type =>
      simp only [Table.get?_insert, if_neg contentTypeKey_ne_hashKey, if_true]

/-- What a write with content leaves under the reserved keys, merged or not. -/
structure Fresh (content : String) (document : Fields) : Prop where
  content : Table.get? document hashKey = some (.string content)
  pinned : Table.get? document pinnedKey = some (.bool false)

theorem Fresh.described {content : String} {document : Fields} (h : Fresh content document) :
    Described document :=
  ⟨⟨content, h.content⟩, ⟨false, h.pinned⟩⟩

theorem fresh_writtenFields (content : String) (contentType : Option String)
    (fields : Fields) : Fresh content (writtenFields (some content) contentType fields) :=
  ⟨get?_writtenFields_hash content contentType fields,
    get?_writtenFields_pinned (some content) contentType fields⟩

theorem fresh_extend_writtenFields (content : String) (contentType : Option String)
    (fields old : Fields) :
    Fresh content (Table.extend old (writtenFields (some content) contentType fields)) := by
  constructor
  · apply Table.get?_extend_of_unique
    · exact Table.mem_of_get? (get?_writtenFields_hash content contentType fields)
    · intro e he hkey
      rcases mem_writtenFields he with rfl | ⟨id, hid, rfl⟩ | ⟨type, _, rfl⟩ | hfree
      · exact absurd hkey pinnedKey_ne_hashKey
      · rw [Option.some.inj hid]
      · exact absurd hkey contentTypeKey_ne_hashKey
      · rw [hkey] at hfree
        exact absurd hfree (by decide)
  · apply Table.get?_extend_of_unique
    · exact Table.mem_of_get? (get?_writtenFields_pinned (some content) contentType fields)
    · intro e he hkey
      rcases mem_writtenFields he with rfl | ⟨id, _, rfl⟩ | ⟨type, _, rfl⟩ | hfree
      · rfl
      · exact absurd hkey.symm pinnedKey_ne_hashKey
      · exact absurd hkey.symm pinnedKey_ne_contentTypeKey
      · rw [hkey] at hfree
        exact absurd hfree (by decide)

/-!
# Writing a document
-/

/-- All that a write can do: a new document under a free id, or fields over those under an id. -/
theorem put_cases {c c' : Catalog} {index chosen : String}
    {id contentId contentType : Option String} {fields : Fields}
    (h : c.put index id contentId contentType fields = .ok (chosen, c')) :
    lowerCase index ∈ c.indexNames ∧
      ((id = none ∧ c.document? (lowerCase index) chosen = none ∧ exists issued,
          c' = ⟨(c.store (lowerCase index) chosen
            (writtenFields contentId contentType fields)).shelves, issued⟩) ∨
        (id = some chosen ∧ c' = c.store (lowerCase index) chosen
          (Table.extend ((c.document? (lowerCase index) chosen).getD [])
            (writtenFields contentId contentType fields)))) := by
  unfold put at h
  cases hshelf : Table.get? c.shelves (lowerCase index) with
  | none => simp [hshelf] at h
  | some shelf =>
      have hdocument : forall id, c.document? (lowerCase index) id =
          Table.get? shelf.documents id := by
        intro id
        rw [document?, hshelf]
        rfl
      refine ⟨mem_indexNames_iff.mpr ⟨shelf, hshelf⟩, ?_⟩
      simp only [hshelf] at h
      cases id with
      | none =>
          cases h
          refine Or.inl ⟨rfl, ?_, _, rfl⟩
          have hfree := nextFree_free shelf.documents c.issued
          rwa [Table.contains, Option.isSome_eq_false_iff, Option.isNone_iff_eq_none,
            ← hdocument] at hfree
      | some id =>
          cases h
          rw [hdocument]
          exact Or.inr ⟨rfl, rfl⟩

theorem put_ok {c c' : Catalog} {index content docId : String} {id contentType : Option String}
    {fields : Fields}
    (h : c.put index id (some content) contentType fields = .ok (docId, c')) :
    lowerCase index ∈ c.indexNames ∧
      exists document number, Fresh content document ∧
        c' = ⟨(c.store (lowerCase index) docId document).shelves, number⟩ := by
  rcases put_cases h with ⟨hindex, ⟨_, _, issued, rfl⟩ | ⟨_, rfl⟩⟩
  · exact ⟨hindex, _, issued, fresh_writtenFields content contentType fields, rfl⟩
  · exact ⟨hindex, _, _, fresh_extend_writtenFields content contentType fields _, rfl⟩

/-!
# Changing a field
-/

theorem setField_eq (c : Catalog) (index id key : String) (value : Json) :
    c.setField index id key value =
      match c.document? (lowerCase index) id with
      | none => .error (missing (lowerCase index) id)
      | some document => .ok (c.store (lowerCase index) id (Table.insert document key value)) :=
  rfl

theorem remove_eq (c : Catalog) (index id : String) :
    c.remove index id =
      match c.document? (lowerCase index) id with
      | none => .error (missing (lowerCase index) id)
      | some _ => .ok (c.without (lowerCase index) id) :=
  rfl

theorem fetch_eq (c : Catalog) (index id : String) :
    c.fetch index id =
      match c.document? (lowerCase index) id with
      | none => .error (missing (lowerCase index) id)
      | some document => .ok (Metadata.ofDocument (lowerCase index) id document) :=
  rfl

def flag (c : Catalog) (index id : String) (pinned : Bool) : Catalog :=
  match c.document? index id with
  | none => c
  | some document => c.store index id (flagged pinned document)

theorem flag_of_absent {c : Catalog} {index id : String} (h : c.document? index id = none)
    (pinned : Bool) : c.flag index id pinned = c := by
  unfold flag
  rw [h]

theorem flag_of_present {c : Catalog} {index id : String} {document : Fields}
    (h : c.document? index id = some document) (pinned : Bool) :
    c.flag index id pinned = c.store index id (flagged pinned document) := by
  unfold flag
  rw [h]

theorem setField_pinnedKey (c : Catalog) (index id : String) (pinned : Bool) :
    c.setField index id pinnedKey (.bool pinned) =
      if (c.document? (lowerCase index) id).isSome then .ok (c.flag (lowerCase index) id pinned)
      else .error (missing (lowerCase index) id) := by
  rw [setField_eq]
  unfold flag
  cases c.document? (lowerCase index) id with
  | none => rfl
  | some document => rfl

theorem document?_flag (c : Catalog) (index id : String) (pinned : Bool) (i j : String) :
    (c.flag index id pinned).document? i j =
      if index = i ∧ id = j then (c.document? i j).map (flagged pinned)
      else c.document? i j := by
  cases h : c.document? index id with
  | none =>
      rw [flag_of_absent h]
      split
      · next hplace =>
          rw [← hplace.1, ← hplace.2, h]
          rfl
      · rfl
  | some document =>
      rw [flag_of_present h, document?_store (mem_indexNames_of_document? h)]
      split
      · next hplace =>
          rw [← hplace.1, ← hplace.2, h]
          rfl
      · rfl

theorem WellFormed.flag {c : Catalog} (hc : c.WellFormed) (index id : String) (pinned : Bool) :
    (c.flag index id pinned).WellFormed := by
  cases h : c.document? index id with
  | none =>
      rw [flag_of_absent h]
      exact hc
  | some document =>
      rw [flag_of_present h]
      exact hc.store index id _

theorem WellFormed.indexNames_flag {c : Catalog} (hc : c.WellFormed) (index id : String)
    (pinned : Bool) : (c.flag index id pinned).indexNames = c.indexNames := by
  cases h : c.document? index id with
  | none => rw [flag_of_absent h]
  | some document =>
      rw [flag_of_present h]
      exact indexNames_withDocuments hc index _

def Entry.flag (index id : String) (pinned : Bool) (e : Entry) : Entry :=
  if e.index = index ∧ e.id = id then ⟨e.index, e.id, flagged pinned e.document⟩ else e

@[simp] theorem Entry.metadata_flag (index id : String) (pinned : Bool) (e : Entry) :
    (e.flag index id pinned).metadata = e.metadata := by
  unfold Entry.flag Entry.metadata
  split
  · exact Metadata.ofDocument_flagged e.index e.id pinned e.document
  · rfl

theorem WellFormed.entries_flag {c : Catalog} (hc : c.WellFormed) (index id : String)
    (pinned : Bool) :
    (c.flag index id pinned).entries none = (c.entries none).map (Entry.flag index id pinned) := by
  cases h : c.document? index id with
  | none =>
      rw [flag_of_absent h, List.map_congr_left (g := fun e => e), List.map_id']
      intro e he
      unfold Entry.flag
      rw [if_neg]
      rintro ⟨hindex, hid⟩
      have hdocument := hc.mem_entries_iff.mp he
      rw [hindex, hid, h] at hdocument
      cases hdocument
  | some document =>
      rw [flag_of_present h, hc.entries_store h]
      apply List.map_congr_left
      intro e he
      unfold Entry.replaced Entry.flag
      split
      · next hplace =>
          have hdocument := hc.mem_entries_iff.mp he
          rw [hplace.1, hplace.2, h] at hdocument
          rw [Option.some.inj hdocument]
      · rfl

theorem WellFormed.size_flag {c : Catalog} (hc : c.WellFormed) (index id : String)
    (pinned : Bool) : (c.flag index id pinned).size = c.size := by
  unfold size
  rw [hc.entries_flag, List.length_map]

end Catalog
end ContentGateway
