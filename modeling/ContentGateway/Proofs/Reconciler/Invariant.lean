import ContentGateway.Proofs.Action
import ContentGateway.Reconciler

/-!
# What a pass preserves

A pass consists of searches and of attempts to pin what they have found.  An invariant that
both preserve holds after the pass, in whatever order it goes about the documents.
-/

namespace ContentGateway
namespace Reconciler

variable {W : Type}

/--
An invariant `I` that searches and attempts preserve, where attempts may rely on what
`K` says about a document that a search has found.
-/
structure Preserved (b : Backends W) (I : W -> Prop) (K : Metadata -> W -> Prop) : Prop where
  indexNames : Action.Ensures I b.indexer.indexNames (fun _ => I) I
  search : forall index request,
    Action.Ensures I (b.indexer.search (some index) unpinnedQuery request)
      (fun page w => I w ∧ forall m, m ∈ page.elements -> K m w) I
  reconcile : forall {w m}, I w -> K m w ->
    I (reconcile b m w).2 ∧ forall {m'}, K m' w -> K m' (reconcile b m w).2

namespace Preserved

variable {b : Backends W} {I : W -> Prop} {K : Metadata -> W -> Prop}

theorem reconcilePage (hp : Preserved b I K) {documents : List Metadata} (walk : Walk)
    (progress : Progress) {w : W} (hw : I w) (hk : forall m, m ∈ documents -> K m w) :
    I (Reconciler.reconcilePage b documents walk progress w).2 := by
  induction documents generalizing walk progress w with
  | nil => exact hw
  | cons m rest ih =>
      rw [Reconciler.reconcilePage]
      split
      · exact ih _ _ hw fun m' hm' => hk m' (List.mem_cons_of_mem _ hm')
      · rcases hp.reconcile hw (hk m (List.mem_cons_self ..)) with ⟨hw', hk'⟩
        exact ih _ _ hw' fun m' hm' => hk' (hk m' (List.mem_cons_of_mem _ hm'))

theorem step (hp : Preserved b I K) (index : String) (request : PageRequest) (walk : Walk) {w : W}
    (hw : I w) : I (Reconciler.step b index request walk w).2 := by
  unfold Reconciler.step
  rw [Action.state_bind_apply, Action.outcome_apply]
  have hsearch := hp.search index request w hw
  cases hrun : b.indexer.search (some index) unpinnedQuery request w with
  | mk result v =>
      rw [hrun] at hsearch
      cases result with
      | error failure => exact hsearch
      | ok page =>
          simp only
          split
          · exact hsearch.1
          · have hpage := hp.reconcilePage walk ⟨0, 0⟩ hsearch.1 hsearch.2
            rw [Action.state_bind_apply]
            split
            · split
              · exact hpage
              · exact hpage
            · exact hpage

theorem walkOn (hp : Preserved b I K) (index : String) (searches : Nat) (position : Position)
    {w : W} (hw : I w) : I (Reconciler.walkOn b index searches position w).2 := by
  induction searches generalizing position w with
  | zero =>
      cases position with
      | ended walk => exact hw
      | before request total walk => exact hw
  | succ searches ih =>
      cases position with
      | ended walk => exact hw
      | before request total walk =>
          rw [Reconciler.walkOn, Action.state_bind_apply]
          exact ih _ (hp.step index request walk hw)

theorem reconcileIndices (hp : Preserved b I K) (pageSize : Nat) (indices : List String)
    (report : Report) {w : W} (hw : I w) :
    I (Reconciler.reconcileIndices b pageSize indices report w).2 := by
  induction indices generalizing report w with
  | nil => exact hw
  | cons index rest ih =>
      rw [Reconciler.reconcileIndices, Action.state_bind_apply]
      apply ih
      exact hp.walkOn index _ _ (hp.step index _ _ hw)

theorem runOnce (hp : Preserved b I K) (pageSize : Nat) {w : W} (hw : I w) :
    I (Reconciler.runOnce b pageSize w).2 := by
  unfold Reconciler.runOnce
  rw [Action.state_bind_apply, Action.outcome_apply]
  have hnames := hp.indexNames w hw
  cases hrun : b.indexer.indexNames w with
  | mk result v =>
      rw [hrun] at hnames
      cases result with
      | error failure => exact hnames
      | ok names => exact hp.reconcileIndices pageSize names .zero hnames

end Preserved
end Reconciler
end ContentGateway
