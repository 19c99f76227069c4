import ContentGateway.Proofs.Catalog.Keeping
import ContentGateway.Reconciler

/-!
# Attempts

What a pass of the reconciler does is a sequence of attempts, one document each, with
searches in between.  An attempt that succeeds sets the flag of its document, and no
attempt changes anything else in the catalog, whatever the replicas answer.
-/

namespace ContentGateway
namespace Reconciler

variable {W : Type} {b : Backends W} {catalog : W -> Catalog} {quiet : W -> W -> Prop}
  {ready : W -> Prop}

/-!
# Backends over a catalog
-/

/-- Backends that keep their documents in a catalog of the world, which pins leave alone. -/
structure Serves (b : Backends W) (catalog : W -> Catalog) (quiet : W -> W -> Prop)
    (ready : W -> Prop) : Prop extends Keeps b.indexer catalog quiet ready where
  pin : forall {w}, ready w -> forall target, target ∈ b.storage.replicas ->
    forall id, exists answer v, target.pin id w = (answer, v) ∧ catalog v = catalog w ∧ ready v

theorem pinEverywhere_nil (id : String) (w : W) :
    pinEverywhere ([] : List (PinTarget W)) id w = (true, w) := rfl

theorem pinEverywhere_cons (target : PinTarget W) (rest : List (PinTarget W)) (id : String)
    (w : W) :
    pinEverywhere (target :: rest) id w =
      ((target.pin id w).1.isOk && (pinEverywhere rest id (target.pin id w).2).1,
        (pinEverywhere rest id (target.pin id w).2).2) := rfl

theorem Serves.pinEverywhere (hs : Serves b catalog quiet ready) {w : W} (hw : ready w)
    (id : String) (targets : List (PinTarget W))
    (h : forall target, target ∈ targets -> target ∈ b.storage.replicas) :
    exists pinned v, pinEverywhere targets id w = (pinned, v) ∧ catalog v = catalog w ∧
      ready v := by
  induction targets generalizing w with
  | nil => exact ⟨true, w, pinEverywhere_nil id w, rfl, hw⟩
  | cons target rest ih =>
      rcases hs.pin hw target (h _ (List.mem_cons_self ..)) id with ⟨answer, v, hpin, hcatalog, hv⟩
      rcases ih hv fun t ht => h t (List.mem_cons_of_mem _ ht) with
        ⟨pinned, u, hrest, hcatalog', hu⟩
      refine ⟨answer.isOk && pinned, u, ?_, ?_, hu⟩
      · rw [pinEverywhere_cons, hpin, hrest]
      · rw [hcatalog', hcatalog]

/-!
# One attempt
-/

/-- A document that was handed to the replicas, and what came of it. -/
structure Attempt where
  document : Metadata
  succeeded : Bool

def Attempt.apply (c : Catalog) (a : Attempt) : Catalog :=
  if a.succeeded then c.flag a.document.index a.document.id true else c

theorem reconcile_of_no_content (b : Backends W) {m : Metadata} (h : m.contentId = none) (w : W) :
    reconcile b m w = (false, w) := by
  unfold reconcile
  rw [h]
  rfl

theorem reconcile_of_content (b : Backends W) {m : Metadata} {contentId : String}
    (h : m.contentId = some contentId) (w : W) :
    reconcile b m w =
      match ContentGateway.pinEverywhere b.storage.replicas contentId w with
      | (false, v) => (false, v)
      | (true, v) =>
          ((b.indexer.setField m.index m.id pinnedKey (.bool true) v).1.isOk,
            (b.indexer.setField m.index m.id pinnedKey (.bool true) v).2) := by
  unfold reconcile
  rw [h]
  simp only [Action.state_bind_apply]
  cases hpin : ContentGateway.pinEverywhere b.storage.replicas contentId w with
  | mk pinned v =>
      cases pinned with
      | false => rfl
      | true => rfl

/-- An attempt sets the flag of its document if it succeeds, and changes nothing otherwise. -/
theorem Serves.reconcile (hs : Serves b catalog quiet ready) {w : W} (hw : ready w)
    {m : Metadata} (hlower : lowerCase m.index = m.index) :
    exists succeeded v, reconcile b m w = (succeeded, v) ∧
      catalog v = Attempt.apply (catalog w) ⟨m, succeeded⟩ ∧ ready v := by
  cases hcontent : m.contentId with
  | none => exact ⟨false, w, reconcile_of_no_content b hcontent w, rfl, hw⟩
  | some contentId =>
      rw [reconcile_of_content b hcontent]
      rcases hs.pinEverywhere hw contentId b.storage.replicas fun _ h => h with
        ⟨pinned, v, hpin, hcatalog, hv⟩
      rw [hpin]
      cases pinned with
      | false => exact ⟨false, v, rfl, hcatalog, hv⟩
      | true =>
          rcases hs.flag hv m.index m.id true with ⟨u, hset, hcatalog', hu⟩
          rw [hlower] at hset hcatalog'
          refine ⟨_, u, hset, ?_, hu⟩
          rw [hcatalog', hcatalog]
          unfold Attempt.apply
          cases hdocument : (catalog w).document? m.index m.id with
          | none =>
              rw [Catalog.flag_of_absent hdocument]
              rfl
          | some document => rfl

/-!
# Sequences of attempts
-/

/-- The attempts, one after the other, lead from one world to the other. -/
inductive Attempted (b : Backends W) (quiet : W -> W -> Prop) :
    W -> List Attempt -> W -> Prop where
  | done {w v : W} : quiet w v -> Attempted b quiet w [] v
  | attempt {w v u z : W} {a : Attempt} {rest : List Attempt} :
      quiet w v ->
      reconcile b a.document v = (a.succeeded, u) ->
      Attempted b quiet u rest z ->
      Attempted b quiet w (a :: rest) z

theorem Attempted.after_quiet (hs : Serves b catalog quiet ready) {w v u : W}
    {attempts : List Attempt} (hquiet : quiet w v) (h : Attempted b quiet v attempts u) :
    Attempted b quiet w attempts u := by
  cases h with
  | done hdone => exact Attempted.done (hs.trans hquiet hdone)
  | attempt hbefore hrun hrest => exact Attempted.attempt (hs.trans hquiet hbefore) hrun hrest

theorem Attempted.append (hs : Serves b catalog quiet ready) {w v u : W}
    {first second : List Attempt} (h : Attempted b quiet w first v)
    (h' : Attempted b quiet v second u) : Attempted b quiet w (first ++ second) u := by
  induction h with
  | done hquiet => exact h'.after_quiet hs hquiet
  | attempt hbefore hrun _ ih => exact Attempted.attempt hbefore hrun (ih h')

def afterAttempts (c : Catalog) (attempts : List Attempt) : Catalog :=
  attempts.foldl Attempt.apply c

theorem Attempted.catalog_eq (hs : Serves b catalog quiet ready) {w v : W}
    {attempts : List Attempt} (h : Attempted b quiet w attempts v) (hw : ready w)
    (hlower : forall a, a ∈ attempts -> lowerCase a.document.index = a.document.index) :
    catalog v = afterAttempts (catalog w) attempts ∧ ready v := by
  induction h with
  | done hquiet => exact ⟨hs.catalog_of_quiet hquiet, hs.ready_of_quiet hquiet hw⟩
  | @attempt w v u z a rest hbefore hrun _ ih =>
      have hv : ready v := hs.ready_of_quiet hbefore hw
      rcases hs.reconcile hv (hlower a (List.mem_cons_self ..)) with
        ⟨succeeded, u', hrun', hcatalog, hu⟩
      rw [hrun] at hrun'
      cases hrun'
      rcases ih hu fun a' ha' => hlower a' (List.mem_cons_of_mem _ ha') with ⟨hrest, hz⟩
      refine ⟨?_, hz⟩
      rw [hrest, hcatalog, hs.catalog_of_quiet hbefore]
      rfl

def pinnedAt (attempts : List Attempt) (index id : String) : Bool :=
  attempts.any fun a => a.succeeded && decide (a.document.index = index ∧ a.document.id = id)

theorem pinnedAt_cons (a : Attempt) (rest : List Attempt) (index id : String) :
    pinnedAt (a :: rest) index id =
      ((a.succeeded && decide (a.document.index = index ∧ a.document.id = id))
        || pinnedAt rest index id) := rfl

theorem flagged_flagged (pinned : Bool) (document : Fields) :
    flagged pinned (flagged pinned document) = flagged pinned document := by
  unfold flagged
  exact Table.insert_insert document pinnedKey _ _

/-- Exactly the documents of the attempts that succeeded have their flag set. -/
theorem document?_afterAttempts (c : Catalog) (attempts : List Attempt) (index id : String) :
    (afterAttempts c attempts).document? index id =
      if pinnedAt attempts index id then (c.document? index id).map (flagged true)
      else c.document? index id := by
  induction attempts generalizing c with
  | nil => rfl
  | cons a rest ih =>
      show (afterAttempts (Attempt.apply c a) rest).document? index id = _
      rw [ih, pinnedAt_cons]
      unfold Attempt.apply
      cases hsucceeded : a.succeeded with
      | false => simp
      | true =>
          simp only [if_true, Bool.true_and, Catalog.document?_flag]
          by_cases hplace : a.document.index = index ∧ a.document.id = id
          · rw [if_pos hplace]
            cases pinnedAt rest index id with
            | false => simp [hplace]
            | true =>
                simp only [if_true, Bool.or_true, Option.map_map]
                congr 1
                funext document
                exact flagged_flagged true document
          · simp [hplace]

theorem wellFormed_apply {c : Catalog} (hc : c.WellFormed) (a : Attempt) :
    (a.apply c).WellFormed := by
  unfold Attempt.apply
  split
  · exact hc.flag _ _ _
  · exact hc

theorem wellFormed_afterAttempts {c : Catalog} (hc : c.WellFormed) (attempts : List Attempt) :
    (afterAttempts c attempts).WellFormed := by
  induction attempts generalizing c with
  | nil => exact hc
  | cons a rest ih => exact ih (wellFormed_apply hc a)

theorem indexNames_apply {c : Catalog} (hc : c.WellFormed) (a : Attempt) :
    (a.apply c).indexNames = c.indexNames := by
  unfold Attempt.apply
  split
  · exact hc.indexNames_flag _ _ _
  · rfl

theorem indexNames_afterAttempts {c : Catalog} (hc : c.WellFormed) (attempts : List Attempt) :
    (afterAttempts c attempts).indexNames = c.indexNames := by
  induction attempts generalizing c with
  | nil => rfl
  | cons a rest ih => exact (ih (wellFormed_apply hc a)).trans (indexNames_apply hc a)

theorem size_apply {c : Catalog} (hc : c.WellFormed) (a : Attempt) :
    (a.apply c).size = c.size := by
  unfold Attempt.apply
  split
  · exact hc.size_flag _ _ _
  · rfl

theorem size_afterAttempts {c : Catalog} (hc : c.WellFormed) (attempts : List Attempt) :
    (afterAttempts c attempts).size = c.size := by
  induction attempts generalizing c with
  | nil => rfl
  | cons a rest ih => exact (ih (wellFormed_apply hc a)).trans (size_apply hc a)

/-!
# Documents that wait for a pin
-/

def unpinned (c : Catalog) (index : String) : List Metadata :=
  c.found (some index) unpinnedQuery

theorem index_of_attempt {c : Catalog} {attempts : List Attempt} {index : String}
    (h : attempts.map Attempt.document = unpinned c index) {a : Attempt} (ha : a ∈ attempts) :
    a.document.index = index := by
  have hmem : a.document ∈ unpinned c index := by
    rw [← h]
    exact List.mem_map_of_mem ha
  exact Catalog.index_of_mem_found_some hmem

theorem holds_unpinned_of_false {document : Fields}
    (h : Table.get? document pinnedKey = some (.bool false)) :
    unpinnedQuery.holds document = true := by
  unfold unpinnedQuery
  rw [Query.holds_equals, h, Option.any_some, Json.termEq_bool]
  rfl

theorem holds_unpinned_flagged (document : Fields) :
    unpinnedQuery.holds (flagged true document) = false := by
  unfold unpinnedQuery
  rw [Query.holds_equals, get?_flagged, if_pos rfl, Option.any_some, Json.termEq_bool]
  rfl

theorem unpinned_afterAttempts {c : Catalog} (hc : c.WellFormed) (attempts : List Attempt)
    (index : String) :
    unpinned (afterAttempts c attempts) index =
      (unpinned c index).filter fun m => !pinnedAt attempts m.index m.id := by
  induction attempts generalizing c with
  | nil =>
      have hall : (unpinned c index).filter (fun _ => true) = unpinned c index := by
        simp
      exact hall.symm
  | cons a rest ih =>
      have hstep : unpinned (a.apply c) index =
          (unpinned c index).filter fun m =>
            !(a.succeeded && decide (a.document.index = m.index ∧ a.document.id = m.id)) := by
        unfold Attempt.apply
        cases hsucceeded : a.succeeded with
        | false => simp
        | true =>
            simp only [if_true, Bool.true_and]
            unfold unpinned
            rw [hc.found_flag_of_ruled_out holds_unpinned_flagged]
            apply List.filter_congr
            intro m _
            simp only [eq_comm]
      show unpinned (afterAttempts (a.apply c) rest) index = _
      rw [ih (wellFormed_apply hc a), hstep, List.filter_filter]
      apply List.filter_congr
      intro m _
      rw [pinnedAt_cons, Bool.not_or, Bool.and_comm]

end Reconciler
end ContentGateway
