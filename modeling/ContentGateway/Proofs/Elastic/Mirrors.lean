import ContentGateway.Proofs.Catalog.Contents
import ContentGateway.Proofs.Catalog.History
import ContentGateway.Proofs.Elastic.Exchange

/-!
# A server beside a catalog

A server and a catalog that keep the same documents answer every call alike and keep the
same documents afterwards.  The engine spreads a call over up to three exchanges; between
two calls nothing of that is left.
-/

namespace ContentGateway

/-!
# Indices of a catalog after a change
-/

namespace Catalog

theorem mem_indexNames_iff_configuration {c : Catalog} {name : String} :
    name ∈ c.indexNames ↔
      ((Table.get? c.shelves name).map Shelf.configuration).isSome = true := by
  rw [Option.isSome_map, Option.isSome_iff_exists]
  exact mem_indexNames_iff

theorem mem_indexNames_withDocuments (c : Catalog) (index : String)
    (change : Table Fields -> Table Fields) (name : String) :
    name ∈ (c.withDocuments index change).indexNames ↔ name ∈ c.indexNames := by
  rw [mem_indexNames_iff_configuration, mem_indexNames_iff_configuration,
    configuration_withDocuments]

theorem put_named (c : Catalog) (index id : String) (contentId contentType : Option String)
    (fields : Fields) :
    c.put index (some id) contentId contentType fields =
      if lowerCase index ∈ c.indexNames then
        .ok (id, c.store (lowerCase index) id
          (Table.extend ((c.document? (lowerCase index) id).getD [])
            (writtenFields contentId contentType fields)))
      else .error (.noIndex (lowerCase index)) := by
  have hmem : lowerCase index ∈ c.indexNames ↔
      exists shelf, Table.get? c.shelves (lowerCase index) = some shelf := mem_indexNames_iff
  unfold put document?
  cases hshelf : Table.get? c.shelves (lowerCase index) with
  | none => simp [hmem, hshelf]
  | some shelf => simp [hmem, hshelf]

end Catalog

namespace Elastic

/-- A server and a catalog with the same indices and the same documents. -/
structure Mirrors (s : Server) (c : Catalog) : Prop where
  index : forall name, s.has name = decide (name ∈ c.indexNames)
  document : forall name id, s.source? name id = c.document? name id

theorem mirrors_empty : Mirrors .empty .empty where
  index _ := rfl
  document _ _ := rfl

namespace Mirrors

variable {s : Server} {c : Catalog}

theorem createIndex (hm : Mirrors s c) (index : String) (configuration : Option Json) :
    Mirrors (if s.has (lowerCase index) then s else s.create (lowerCase index))
      (c.createIndex index configuration) := by
  constructor
  · intro name
    have hnames := Catalog.mem_indexNames_createIndex c index configuration name
    rw [decide_eq_decide.mpr hnames, Bool.decide_or, ← hm.index]
    cases hhas : s.has (lowerCase index) with
    | true =>
        rw [if_pos rfl]
        by_cases hname : lowerCase index = name
        · rw [← hname, hhas, Bool.or_true]
        · rw [decide_eq_false hname, Bool.false_or]
    | false =>
        rw [if_neg Bool.false_ne_true]
        exact Server.has_change s (lowerCase index) _ name
  · intro name id
    rw [Catalog.document?_createIndex, ← hm.document]
    cases s.has (lowerCase index) with
    | true => rfl
    | false => exact Server.source?_create s (lowerCase index) name id

theorem index_change (hm : Mirrors s c) {index : String} (hindex : index ∈ c.indexNames)
    (f change : Table Fields -> Table Fields) (name : String) :
    (s.change index f).has name = decide (name ∈ (c.withDocuments index change).indexNames) := by
  have hhas : s.has index = true := by
    rw [hm.index]
    exact decide_eq_true hindex
  have hnames := Catalog.mem_indexNames_withDocuments c index change name
  rw [decide_eq_decide.mpr hnames, ← hm.index, Server.has_change]
  by_cases hname : index = name
  · rw [← hname, hhas, Bool.or_true]
  · rw [decide_eq_false hname, Bool.false_or]

theorem store (hm : Mirrors s c) {index : String} (hindex : index ∈ c.indexNames) (id : String)
    (document : Fields) : Mirrors (s.store index id document) (c.store index id document) := by
  constructor
  · exact hm.index_change hindex _ _
  · intro name other
    rw [Catalog.document?_store hindex, Server.source?_store, hm.document]

theorem erase (hm : Mirrors s c) {index id : String} {document : Fields}
    (hdocument : c.document? index id = some document) :
    Mirrors (s.erase index id) (c.without index id) := by
  constructor
  · exact hm.index_change (Catalog.mem_indexNames_of_document? hdocument) _ _
  · intro name other
    rw [Catalog.document?_without, Server.source?_erase, hm.document]

end Mirrors

/-!
# One call
-/

def targets : Indexer.Call -> List Target
  | .createIndex index _ => [.index (lowerCase index)]
  | .put index id _ _ _ =>
      .index (lowerCase index) ::
        id.toList.flatMap fun id => [.document (lowerCase index) id, .update (lowerCase index) id]
  | .remove index id => [.document (lowerCase index) id]
  | .fetch index id => [.document (lowerCase index) id]
  | .setField index id _ _ => [.update (lowerCase index) id]

def IsNamed : Indexer.Call -> Prop
  | .put _ id _ _ _ => id.isSome = true
  | _ => True

section Served

variable {h : Host} {settings : Settings} (freshId : StateM Server String)

/-- A call that does the same on both sides. -/
def Agrees (h : Host) (settings : Settings) (freshId : StateM Server String) (s : Server)
    (c : Catalog) (call : Indexer.Call) : Prop :=
  call.event (h.engine settings freshId).indexer s = call.event Catalog.indexer c ∧
    Mirrors (call.after (h.engine settings freshId).indexer s) (call.after Catalog.indexer c)

/-- One call is answered alike and keeps the server and the catalog alike. -/
theorem agrees (hweb : settings.IsWeb) (hnull : settings.nullValues = false)
    {call : Indexer.Call} (hsound : call.Sound) (hnamed : IsNamed call)
    (hfinds : forall target, target ∈ targets call -> h.Finds settings target)
    {s : Server} {c : Catalog} (hshows : h.Shows s) (hm : Mirrors s c) :
    Agrees h settings freshId s c call := by
  unfold Agrees Indexer.Call.event Indexer.Call.after
  cases call with
  | createIndex index configuration =>
      have hindex : h.Finds settings (.index (lowerCase index)) :=
        hfinds _ (List.mem_singleton.mpr rfl)
      have hcall : (h.engine settings freshId).indexer.createIndex index configuration s = _ :=
        createIndex_apply freshId hweb hindex configuration s
      rw [Indexer.Call.run, Indexer.Call.run, Action.map_apply, hcall]
      exact ⟨rfl, hm.createIndex index configuration⟩
  | put index id contentId contentType fields =>
      cases id with
      | none => cases hnamed
      | some id =>
          have hindex : h.Finds settings (.index (lowerCase index)) :=
            hfinds _ (by simp [targets])
          have hdocument : h.Finds settings (.document (lowerCase index) id) :=
            hfinds _ (by simp [targets])
          have hupdate : h.Finds settings (.update (lowerCase index) id) :=
            hfinds _ (by simp [targets])
          have hcall : (h.engine settings freshId).indexer.put index (some id) contentId
              contentType fields s = _ :=
            put_apply freshId hweb hnull hindex hdocument hupdate hshows contentId contentType
              (Catalog.ordered_writtenFields contentId contentType hsound)
          rw [hm.index, hm.document] at hcall
          rw [Indexer.Call.run, Indexer.Call.run, Action.map_apply, hcall, Catalog.indexer,
            Catalog.map_call_apply, Catalog.put_named]
          by_cases hpresent : lowerCase index ∈ c.indexNames
          · rw [if_pos hpresent, if_pos (decide_eq_true hpresent)]
            exact ⟨rfl, hm.store hpresent id _⟩
          · rw [if_neg hpresent, decide_eq_false hpresent]
            exact ⟨rfl, hm⟩
  | remove index id =>
      have hdocument : h.Finds settings (.document (lowerCase index) id) :=
        hfinds _ (List.mem_singleton.mpr rfl)
      have hcall : (h.engine settings freshId).indexer.remove index id s = _ :=
        remove_apply freshId hweb hdocument s
      rw [hm.document] at hcall
      rw [Indexer.Call.run, Indexer.Call.run, Action.map_apply, hcall, Catalog.indexer,
        Catalog.map_call_apply, Catalog.remove_eq]
      cases hold : c.document? (lowerCase index) id with
      | none => exact ⟨rfl, hm⟩
      | some document => exact ⟨rfl, hm.erase hold⟩
  | fetch index id =>
      have hdocument : h.Finds settings (.document (lowerCase index) id) :=
        hfinds _ (List.mem_singleton.mpr rfl)
      have hcall : (h.engine settings freshId).indexer.fetch index id s = _ :=
        document_apply freshId hweb hdocument hshows
      rw [hm.document] at hcall
      rw [Indexer.Call.run, Indexer.Call.run, Action.map_apply, hcall, Catalog.indexer,
        Catalog.map_call_apply, Catalog.fetch_eq]
      cases c.document? (lowerCase index) id with
      | none => exact ⟨rfl, hm⟩
      | some document => exact ⟨rfl, hm⟩
  | setField index id key value =>
      have hupdate : h.Finds settings (.update (lowerCase index) id) :=
        hfinds _ (List.mem_singleton.mpr rfl)
      have hcall : (h.engine settings freshId).indexer.setField index id key value s = _ :=
        setField_apply freshId hweb hupdate key value s
      rw [hm.document] at hcall
      rw [Indexer.Call.run, Indexer.Call.run, Action.map_apply, hcall, Catalog.indexer,
        Catalog.map_call_apply, Catalog.setField_eq]
      cases hold : c.document? (lowerCase index) id with
      | none => exact ⟨rfl, hm⟩
      | some document =>
          exact ⟨rfl, hm.store (Catalog.mem_indexNames_of_document? hold) id _⟩

end Served

end Elastic
end ContentGateway
