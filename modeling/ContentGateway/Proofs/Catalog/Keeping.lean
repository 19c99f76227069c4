import ContentGateway.Proofs.Action
import ContentGateway.Proofs.Catalog.Search
import ContentGateway.Backend

/-!
# Indexers that keep a catalog

What the operations and the reconciler rely on when they search and change fields: the
answers and the effects of these calls are those of a catalog somewhere in the world.
-/

namespace ContentGateway

variable {W : Type}

/--
An indexer that keeps its documents in a catalog of the world: in a world that is ready,
changes of fields do what the catalog says.  Worlds between which only a search has happened
differ quietly.
-/
structure KeepsFields (indexer : Indexer W) (catalog : W -> Catalog) (quiet : W -> W -> Prop)
    (ready : W -> Prop) : Prop where
  refl : forall w, quiet w w
  trans : forall {w v u}, quiet w v -> quiet v u -> quiet w u
  catalog_of_quiet : forall {w v}, quiet w v -> catalog v = catalog w
  ready_of_quiet : forall {w v}, quiet w v -> ready w -> ready v
  setField : forall {w}, ready w -> forall index id key value, exists v,
    indexer.setField index id key value w =
        (((catalog w).setField index id key value).map fun _ => (), v) ∧
      catalog v = ((catalog w).setField index id key value).toOption.getD (catalog w) ∧
      ready v

structure Keeps (indexer : Indexer W) (catalog : W -> Catalog) (quiet : W -> W -> Prop)
    (ready : W -> Prop) : Prop extends KeepsFields indexer catalog quiet ready where
  search : forall {w}, ready w -> forall index query request, exists v,
    indexer.search index query request w = ((catalog w).search index query request, v) ∧
      quiet w v

/-- Some searches do what the catalog says, and the others fail. -/
structure KeepsWithin (shows : PageRequest -> Bool) (indexer : Indexer W) (catalog : W -> Catalog)
    (quiet : W -> W -> Prop) (ready : W -> Prop) : Prop
    extends KeepsFields indexer catalog quiet ready where
  search : forall {w}, ready w -> forall index query request, exists answer v,
    indexer.search index query request w = (answer, v) ∧ quiet w v ∧
      if shows request then answer = (catalog w).search index query request
      else exists failure, answer = .error failure

theorem Keeps.within {indexer : Indexer W} {catalog : W -> Catalog} {quiet : W -> W -> Prop}
    {ready : W -> Prop} (hk : Keeps indexer catalog quiet ready) :
    KeepsWithin (fun _ => true) indexer catalog quiet ready where
  toKeepsFields := hk.toKeepsFields
  search := by
    intro w hw index query request
    rcases hk.search hw index query request with ⟨v, hsearch, hquiet⟩
    exact ⟨_, v, hsearch, hquiet, rfl⟩

theorem KeepsFields.flag {indexer : Indexer W} {catalog : W -> Catalog} {quiet : W -> W -> Prop}
    {ready : W -> Prop} (hk : KeepsFields indexer catalog quiet ready) {w : W} (hw : ready w)
    (index id : String) (pinned : Bool) :
    exists v,
      ((indexer.setField index id pinnedKey (.bool pinned) w).1.isOk,
        (indexer.setField index id pinnedKey (.bool pinned) w).2) =
          (((catalog w).document? (lowerCase index) id).isSome, v) ∧
      catalog v = (catalog w).flag (lowerCase index) id pinned ∧ ready v := by
  rcases hk.setField hw index id pinnedKey (.bool pinned) with ⟨v, hset, hcatalog, hv⟩
  rw [Catalog.setField_pinnedKey] at hset hcatalog
  rw [hset]
  cases hdocument : ((catalog w).document? (lowerCase index) id) with
  | none =>
      rw [hdocument] at hcatalog
      refine ⟨v, rfl, ?_, hv⟩
      rw [Catalog.flag_of_absent hdocument]
      exact hcatalog
  | some document =>
      rw [hdocument] at hcatalog
      exact ⟨v, rfl, hcatalog, hv⟩

end ContentGateway
