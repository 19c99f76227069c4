import ContentGateway.Proofs.Catalog.History

/-!
# Values in a catalog

What calls carry is all that a catalog comes to hold: documents are tables in order, and
their values are those of the calls, texts and the flag of a write.
-/

namespace ContentGateway

structure MadeOf (kind : Json -> Prop) (fields : Fields) : Prop where
  ordered : Table.Ordered fields
  value : forall e, e ∈ fields -> kind e.2

/-- A call that carries values of one kind only. -/
def Indexer.Call.Carries (kind : Json -> Prop) : Indexer.Call -> Prop
  | .put _ _ _ _ fields => MadeOf kind fields
  | .setField _ _ _ value => kind value
  | _ => True

variable {kind : Json -> Prop}

namespace MadeOf

variable {fields : Fields}

theorem insert (h : MadeOf kind fields) (key : String) {value : Json} (hvalue : kind value) :
    MadeOf kind (Table.insert fields key value) := by
  constructor
  · exact h.ordered.insert key value
  · intro e he
    rcases Table.mem_of_mem_insert he with rfl | hold
    · exact hvalue
    · exact h.value e hold

theorem extend (h : MadeOf kind fields) {written : Fields} (hwritten : MadeOf kind written) :
    MadeOf kind (Table.extend fields written) := by
  constructor
  · exact h.ordered.extend written
  · intro e he
    rcases Table.mem_of_mem_extend he with hold | hnew
    · exact h.value e hold
    · exact hwritten.value e hnew

theorem nil : MadeOf kind [] where
  ordered := List.Pairwise.nil
  value _ he := absurd he List.not_mem_nil

theorem withText (h : MadeOf kind fields) (htext : forall s, kind (.string s)) (key : String)
    (text : Option String) : MadeOf kind (Catalog.withText fields key text) := by
  cases text with
  | none => exact h
  | some s => exact h.insert key (htext s)

theorem freeFields (h : MadeOf kind fields) : MadeOf kind (freeFields fields) where
  ordered := h.ordered.filter _
  value e he := h.value e (List.mem_of_mem_filter he)

theorem writtenFields (h : MadeOf kind fields) (htext : forall s, kind (.string s))
    (hflag : kind (.bool false)) (contentId contentType : Option String) :
    MadeOf kind (Catalog.writtenFields contentId contentType fields) := by
  rw [Catalog.writtenFields_eq]
  exact ((h.freeFields.withText htext _ _).withText htext _ _).insert _ hflag

end MadeOf

namespace Catalog

def Holds (kind : Json -> Prop) (c : Catalog) : Prop :=
  forall index id document, c.document? index id = some document -> MadeOf kind document

theorem holds_empty : Holds kind empty := by
  intro index id document h
  cases h

namespace Holds

variable {c : Catalog}

theorem store (h : Holds kind c) {index : String} (hindex : index ∈ c.indexNames) (id : String)
    {document : Fields} (hdocument : MadeOf kind document) :
    Holds kind (c.store index id document) := by
  intro name other found hfound
  rw [document?_store hindex] at hfound
  split at hfound
  · cases hfound
    exact hdocument
  · exact h name other found hfound

theorem put (h : Holds kind c) (htext : forall s, kind (.string s)) (hflag : kind (.bool false))
    {index chosen : String} {id contentId contentType : Option String} {fields : Fields}
    (hfields : MadeOf kind fields) {c' : Catalog}
    (hput : c.put index id contentId contentType fields = .ok (chosen, c')) :
    Holds kind c' := by
  have hwritten := hfields.writtenFields htext hflag contentId contentType
  rcases put_cases hput with ⟨hindex, ⟨_, _, issued, rfl⟩ | ⟨_, rfl⟩⟩
  · exact h.store hindex chosen hwritten
  · apply h.store hindex chosen
    cases hold : c.document? (lowerCase index) chosen with
    | none => exact MadeOf.nil.extend hwritten
    | some old => exact (h _ _ _ hold).extend hwritten

theorem after (h : Holds kind c) (htext : forall s, kind (.string s)) (hflag : kind (.bool false))
    {call : Indexer.Call} (hcall : call.Carries kind) : Holds kind (call.after indexer c) := by
  unfold Indexer.Call.after
  cases call with
  | createIndex index configuration =>
      intro name id document hdocument
      have hsame := document?_createIndex c index configuration name id
      exact h name id document (hsame ▸ hdocument)
  | put index id contentId contentType fields =>
      rw [Indexer.Call.run, indexer, map_call_apply]
      cases hput : c.put index id contentId contentType fields with
      | error failure => exact h
      | ok answer => exact h.put htext hflag hcall hput
  | remove index id =>
      rw [Indexer.Call.run, indexer, map_call_apply, remove_eq]
      cases hold : c.document? (lowerCase index) id with
      | none => exact h
      | some old =>
          intro name other document hdocument
          have hafter : (c.without (lowerCase index) id).document? name other = some document :=
            hdocument
          rw [document?_without] at hafter
          split at hafter
          · cases hafter
          · exact h name other document hafter
  | fetch index id =>
      rw [Indexer.Call.run, indexer, map_call_apply, fetch_eq]
      cases c.document? (lowerCase index) id with
      | none => exact h
      | some old => exact h
  | setField index id key value =>
      rw [Indexer.Call.run, indexer, map_call_apply, setField_eq]
      cases hold : c.document? (lowerCase index) id with
      | none => exact h
      | some old =>
          exact h.store (mem_indexNames_of_document? hold) id ((h _ _ _ hold).insert key hcall)

end Holds

end Catalog
end ContentGateway
