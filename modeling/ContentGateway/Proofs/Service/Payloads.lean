import ContentGateway.Proofs.Service.Reading

/-!
# Payloads of a search

A search reads all content of a page in one go and puts it back by position.  Every read
meets the same content, so each document gets its own, and content that is missing or cannot
be read costs no other document its payload.
-/

namespace ContentGateway
namespace Depot

theorem read_of_quiet {d d' : Depot} (h : Quiet d d') (id : String) :
    (read id d').1 = (read id d).1 := by
  rcases h with ⟨calls, rfl⟩
  rw [read_run, read_run]
  rfl

theorem readAll_answers (ids : List String) (d : Depot) :
    (readAll ids d).1 = ids.map fun id => (read id d).1 := by
  induction ids generalizing d with
  | nil => rfl
  | cons id rest ih =>
      have hquiet : Quiet d (read id d).2 := (reads_read id).world (Quiet.refl d)
      rw [readAll, Action.state_bind_apply, Action.outcome_apply]
      show (read id d).1 :: (readAll rest (read id d).2).1 = _
      rw [ih, List.map_cons]
      simp only [read_of_quiet hquiet]

/-- The content that a search shows beside a document, if it is there and reads succeed. -/
def payload? (d : Depot) (m : Metadata) : Option Bytes :=
  match d.fault "storage.read", m.contentId with
  | .ok _, some id => Table.get? d.blobs.blobs id
  | _, _ => none

theorem payload?_eq (d : Depot) (m : Metadata) :
    d.payload? m = m.contentId.bind fun id => (read id d).1.toOption := by
  unfold payload?
  cases m.contentId with
  | none =>
      cases d.fault "storage.read" with
      | error failure => rfl
      | ok _ => rfl
  | some id =>
      rw [Option.bind_some, read_run]
      cases d.fault "storage.read" with
      | error failure => rfl
      | ok _ =>
          show Table.get? d.blobs.blobs id = (d.blobs.read id).toOption
          unfold BlobStore.read
          cases Table.get? d.blobs.blobs id with
          | none => rfl
          | some content => rfl

end Depot

namespace Service

open Depot

/-!
# Putting payloads back
-/

theorem attach_nil (documents : List Metadata) :
    attach documents [] = documents.map fun m => ⟨m, none⟩ := by
  induction documents with
  | nil => rfl
  | cons m rest ih =>
      unfold attach
      cases m.contentId with
      | none => exact congrArg _ ih
      | some id => exact congrArg _ ih

theorem attach_answers (answer : String -> Except Failure Bytes) (documents : List Metadata) :
    attach documents ((documents.filterMap fun m => m.contentId).map answer) =
      documents.map fun m => ⟨m, m.contentId.bind fun id => (answer id).toOption⟩ := by
  induction documents with
  | nil => rfl
  | cons m rest ih =>
      unfold attach
      cases hcontent : m.contentId with
      -- nothing was read for a document without content, so the answers stay for the others
      | none =>
          rw [List.filterMap_cons_none hcontent, List.map_cons, hcontent, ← ih]
          rfl
      | some id =>
          rw [List.filterMap_cons_some hcontent, List.map_cons, List.map_cons, hcontent, ← ih]
          rfl

/-!
# Searches with and without payloads
-/

theorem backends_search (names : List String) (index : Option String) (query : Query)
    (request : PageRequest) :
    (backends names).indexer.search index query request = indexer.search index query request := rfl

def searched (d : Depot) (request : SearchRequest) : Except Failure (Page Metadata) :=
  match request.page with
  | none => .error (.validation "pageRequest shouldn't be null")
  | some pageRequest => (indexer.search (nonBlank request.index) request.query pageRequest d).1

def showing (payload? : Metadata -> Option Bytes) (page : Page Metadata) : SearchResponse :=
  ⟨.success, page.map fun m => ⟨m, payload? m⟩⟩

theorem search_answer (names : List String) (request : SearchRequest) (d : Depot) :
    (search (backends names) request d).1 =
      (searched d request).map
        (showing fun m => if request.loadFile then d.payload? m else none) := by
  unfold search searched
  cases request.page with
  | none => rfl
  | some pageRequest =>
      have hquiet :
          Quiet d (indexer.search (nonBlank request.index) request.query pageRequest d).2 :=
        (reads_search _ _ _).world (Quiet.refl d)
      simp only
      rw [Action.bind_apply, backends_search]
      cases hsearch : indexer.search (nonBlank request.index) request.query pageRequest d with
      | mk answer d' =>
          rw [hsearch] at hquiet
          cases answer with
          | error failure => rfl
          | ok page =>
              cases request.loadFile with
              | false =>
                  simp only [Except.map, showing, Page.map, Bool.false_eq_true, if_false,
                    ← attach_nil]
                  rfl
              | true =>
                  have hanswers := attach_answers (fun id => (read id d).1) page.elements
                  have hreads := readAll_answers (page.elements.filterMap fun m => m.contentId) d'
                  simp only [read_of_quiet hquiet] at hreads
                  rw [← hreads] at hanswers
                  simp only [Except.map, showing, Page.map, if_true, payload?_eq, ← hanswers]
                  rfl

/--
In a depot in any state, whatever faults strike it: with payloads or without them, a search
shows the page that the indexer answers with, or fails as the indexer does.  The payload of a
document is the content stored under the identity that it carries.  Neither search changes
anything but the journal.
-/
theorem search_payloads (d : Depot) (names : List String) (request : SearchRequest) :
    let plain := search (backends names) { request with loadFile := false } d
    let loaded := search (backends names) { request with loadFile := true } d
    plain.1 = (searched d request).map (showing fun _ => none) ∧
      loaded.1 = (searched d request).map (showing d.payload?) ∧
      Quiet d plain.2 ∧ Quiet d loaded.2 := by
  intro plain loaded
  constructor
  · exact search_answer names { request with loadFile := false } d
  · constructor
    · exact search_answer names { request with loadFile := true } d
    · exact ⟨quiet_search names _ d, quiet_search names _ d⟩

end Service
end ContentGateway
