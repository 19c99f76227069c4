import ContentGateway.Proofs.Depot.Calls
import ContentGateway.Service

/-!
# Looking up and searching

Calls that read leave nothing in a depot but an entry in its journal, whether they fail or
not.  So a look-up and a search change nothing, in a depot in any state.
-/

namespace ContentGateway
namespace Depot

/-- A call that leaves only entries in the journal of a depot `d₀`. -/
def Reads {α : Type} (d₀ : Depot) (call : Action Depot α) : Prop :=
  Action.Ensures (Quiet d₀) call (fun _ => Quiet d₀) (Quiet d₀)

theorem Quiet.journaled {d₀ d : Depot} (h : Quiet d₀ d) (calls : List String) :
    Quiet d₀ (d.journaled calls) :=
  h.trans ⟨calls, rfl⟩

variable {α : Type} {d₀ : Depot}

theorem reads_call (name detail : String) : Reads d₀ (call name detail) := by
  intro d h
  rw [call_apply]
  cases d.fault name with
  | error failure => exact h.journaled _
  | ok _ => exact h.journaled _

theorem reads_of_unchanged {run : Action Depot α} (h : forall d, (run d).2 = d) :
    Reads d₀ run := by
  intro d hd
  have hsame := h d
  cases hrun : run d with
  | mk result d' =>
      rw [hrun] at hsame
      subst hsame
      cases result with
      | error failure => exact hd
      | ok answer => exact hd

theorem reads_withinWindow (request : PageRequest) : Reads d₀ (withinWindow request) := by
  apply reads_of_unchanged
  intro d
  rw [withinWindow_run]

theorem reads_onCatalog (ask : Catalog -> Except Failure α) :
    Reads d₀ (onCatalog (Catalog.call fun c => (ask c).map fun answer => (answer, c))) := by
  apply reads_of_unchanged
  intro d
  rw [onCatalog_apply, Catalog.call_apply]
  cases ask d.catalog with
  | error failure => rfl
  | ok answer => rfl

theorem reads_onBlobs (ask : BlobStore -> Except Failure α) :
    Reads d₀ (onBlobs fun s => (ask s).map fun answer => (answer, s)) := by
  apply reads_of_unchanged
  intro d
  rw [onBlobs_apply]
  cases ask d.blobs with
  | error failure => rfl
  | ok answer => rfl

/-!
# Calls of the backends
-/

theorem reads_fetch (index id : String) : Reads d₀ (indexer.fetch index id) :=
  (reads_call _ _).bind fun _ => reads_onCatalog _

theorem reads_search (index : Option String) (query : Query) (request : PageRequest) :
    Reads d₀ (indexer.search index query request) :=
  (reads_call _ _).bind fun _ => (reads_withinWindow request).bind fun _ => reads_onCatalog _

theorem reads_read (id : String) : Reads d₀ (read id) :=
  (reads_call _ _).bind fun _ => reads_onBlobs _

theorem quiet_readAll {d : Depot} (h : Quiet d₀ d) (ids : List String) :
    Quiet d₀ (readAll ids d).2 := by
  induction ids generalizing d with
  | nil => exact h
  | cons id rest ih =>
      rw [readAll, Action.state_bind_apply, Action.outcome_apply]
      exact ih ((reads_read id).world h)

end Depot

/-!
# Operations that read
-/

namespace Service

open Depot

variable {d₀ : Depot} (names : List String)

theorem reads_locate (request : GetRequest) : Reads d₀ (locate (backends names) request) := by
  unfold locate
  simp only
  cases nonBlank request.id with
  | some id => exact (Action.ensures_check _).bind fun _ => reads_fetch _ id
  | none =>
      cases nonBlank request.contentId with
      | none => exact Action.ensures_throw fun d h => h
      | some contentId =>
          unfold findByContent
          refine (reads_search _ _ _).bind fun page => ?_
          cases page.elements with
          | nil => exact Action.ensures_throw fun d h => h
          | cons metadata rest => exact Action.ensures_pure fun d h => h

theorem quiet_get (request : GetRequest) (d : Depot) :
    Quiet d (get (backends names) request d).2 := by
  have hreads : Reads d (get (backends names) request) := by
    unfold get
    refine (reads_locate names request).bind fun metadata => ?_
    cases request.loadFile with
    | false => exact Action.ensures_pure fun d h => h
    | true =>
        cases metadata.contentId with
        | none => exact Action.ensures_pure fun d h => h
        | some contentId =>
            exact (reads_read contentId).bind fun _ => Action.ensures_pure fun d h => h
  exact hreads.world (Quiet.refl d)

theorem quiet_search (request : SearchRequest) (d : Depot) :
    Quiet d (search (backends names) request d).2 := by
  have hreads : Reads d (search (backends names) request) := by
    unfold search
    cases request.page with
    | none => exact Action.ensures_throw fun d h => h
    | some pageRequest =>
        refine (reads_search _ _ _).bind fun page => ?_
        cases request.loadFile with
        | false => exact Action.ensures_pure fun d h => h
        | true =>
            intro d h
            exact quiet_readAll h _
  exact hreads.world (Quiet.refl d)

end Service
end ContentGateway
