import ContentGateway.Proofs.Depot.Replicas
import ContentGateway.Service

/-!
# Replicating a document

Both the operations and the reconciler pin the content of a document on every replica, and
set its flag if all pins have succeeded.  Here this is one equation on a depot, with what
the pins do to the sets that the replicas track.
-/

namespace ContentGateway

/-!
# What replicas track
-/

namespace Replica

theorem tracks_insert (r : Replica) (id other : String) :
    Table.contains (Table.insert r.tracked id ()) other =
      (decide (id = other) || r.tracks other) := by
  unfold tracks Table.contains
  rw [Table.get?_insert]
  split
  · next h => simp [h]
  · next h => simp [h]

theorem tracks_pin {r : Replica} {other : String} (h : r.tracks other = true) (id : String) :
    (r.pin id).2.tracks other = true := by
  unfold pin
  simp only
  split
  · exact h
  · split
    · exact h
    · show Table.contains (Table.insert r.tracked id ()) other = true
      rw [tracks_insert, h, Bool.or_true]

theorem tracks_of_pin_ok {r : Replica} {id : String} (h : (r.pin id).1.isOk = true) :
    (r.pin id).2.tracks id = true := by
  unfold pin at h ⊢
  simp only at h ⊢
  split at h
  · cases h
  · next hrefused =>
      split at h
      · cases h
      · next hfailed =>
          rw [if_neg hrefused, if_neg hfailed]
          show Table.contains (Table.insert r.tracked id ()) id = true
          rw [tracks_insert, decide_eq_true rfl, Bool.true_or]

theorem tracks_unpin {r : Replica} {other : String} (h : r.tracks other = true) {id : String}
    (hne : id ≠ other) : (r.unpin id).2.tracks other = true := by
  unfold unpin
  split
  · exact h
  · show Table.contains (Table.erase r.tracked id) other = true
    unfold Table.contains
    rw [Table.get?_erase, if_neg hne]
    exact h

end Replica

namespace Depot

variable {verb id : String} {run : Replica -> Except Failure Unit × Replica}

theorem answer_or (faults : Table Failure) (verb : String)
    (run : Replica -> Except Failure Unit × Replica) (r : Replica) :
    answer faults verb run r = run r ∨
      exists failure, answer faults verb run r = (.error failure, r) := by
  unfold answer
  cases Table.get? faults (r.name ++ verb) with
  | none => exact Or.inl rfl
  | some failure => exact Or.inr ⟨failure, rfl⟩

theorem mem_asked {d : Depot} {r' : Replica} (h : r' ∈ (d.asked verb id run).replicas) :
    exists r, r ∈ d.replicas ∧ r' = (answer d.faults verb run r).2 := by
  rcases List.mem_map.mp h with ⟨r, hr, heq⟩
  exact ⟨r, hr, heq.symm⟩

theorem replicaNames_asked {d : Depot} (hrun : forall r, (run r).2.name = r.name) :
    (d.asked verb id run).replicaNames = d.replicaNames := by
  show (d.replicas.map fun r => (answer d.faults verb run r).2).map Replica.name = _
  unfold replicaNames
  rw [List.map_map]
  apply List.map_congr_left
  intro r _
  rcases answer_or d.faults verb run r with heq | ⟨failure, heq⟩
  · simp only [Function.comp, heq, hrun]
  · simp only [Function.comp, heq]

theorem tracks_asked_pin {d : Depot} {contentId other : String}
    (h : forall r, r ∈ d.replicas -> r.tracks other = true) :
    forall r, r ∈ (d.asked ".pin" contentId fun r => r.pin contentId).replicas ->
      r.tracks other = true := by
  intro r' hr'
  rcases mem_asked hr' with ⟨r, hr, rfl⟩
  rcases answer_or d.faults ".pin" (fun r => r.pin contentId) r with heq | ⟨failure, heq⟩
  · rw [heq]
    exact Replica.tracks_pin (h r hr) contentId
  · rw [heq]
    exact h r hr

theorem tracks_asked_unpin {d : Depot} {contentId other : String} (hne : contentId ≠ other)
    (h : forall r, r ∈ d.replicas -> r.tracks other = true) :
    forall r, r ∈ (d.asked ".unpin" contentId fun r => r.unpin contentId).replicas ->
      r.tracks other = true := by
  intro r' hr'
  rcases mem_asked hr' with ⟨r, hr, rfl⟩
  rcases answer_or d.faults ".unpin" (fun r => r.unpin contentId) r with heq | ⟨failure, heq⟩
  · rw [heq]
    exact Replica.tracks_unpin (h r hr) hne
  · rw [heq]
    exact h r hr

theorem tracks_of_pinned {d : Depot} {contentId : String}
    (h : (d.replicas.all fun r =>
      (answer d.faults ".pin" (fun r => r.pin contentId) r).1.isOk) = true) :
    forall r, r ∈ (d.asked ".pin" contentId fun r => r.pin contentId).replicas ->
      r.tracks contentId = true := by
  intro r' hr'
  rcases mem_asked hr' with ⟨r, hr, rfl⟩
  have hok := List.all_eq_true.mp h r hr
  rcases answer_or d.faults ".pin" (fun r => r.pin contentId) r with heq | ⟨failure, heq⟩
  · rw [heq] at hok ⊢
    exact Replica.tracks_of_pin_ok hok
  · rw [heq] at hok
    cases hok

end Depot

/-!
# Replication
-/

namespace Service

def allPinned (d : Depot) (contentId : String) : Bool :=
  d.replicas.all fun r => (Depot.answer d.faults ".pin" (fun r => r.pin contentId) r).1.isOk

def pinned (d : Depot) (contentId : String) : Depot :=
  d.asked ".pin" contentId fun r => r.pin contentId

/-- The depot after a replication. -/
def replicated (d : Depot) (job : Replication) : Depot :=
  if allPinned d job.contentId then
    ((pinned d job.contentId).withCatalog
      (d.catalog.flag (lowerCase job.index) job.id true)).journaled
        [Depot.setFieldEntry job.index job.id pinnedKey (.bool true)]
  else pinned d job.contentId

/-- The depot after a replication, in which the call for the flag may fail too. -/
def settled (d : Depot) (job : Replication) : Depot :=
  if allPinned d job.contentId then
    ((pinned d job.contentId).withCatalog (d.flagCalled job.index job.id true)).journaled
      [Depot.setFieldEntry job.index job.id pinnedKey (.bool true)]
  else pinned d job.contentId

theorem replicate_settled (d : Depot) (job : Replication) :
    replicate (Depot.backends d.replicaNames) job d = ((), settled d job) := by
  have hpin : pinEverywhere (Depot.backends d.replicaNames).storage.replicas job.contentId d =
      (allPinned d job.contentId, pinned d job.contentId) :=
    Depot.pinEverywhere_apply d job.contentId
  unfold replicate settled
  rw [Action.state_bind_apply, hpin]
  cases allPinned d job.contentId with
  | false => rfl
  | true =>
      simp only [if_true]
      rw [Action.state_bind_apply, Action.outcome_apply, Depot.backends_indexer,
        Depot.flagCall_apply]
      rfl

theorem replicate_apply {d : Depot} (hd : d.Ready) (job : Replication) :
    replicate (Depot.backends d.replicaNames) job d = ((), replicated d job) := by
  rw [replicate_settled]
  unfold settled replicated
  rw [Depot.flagCalled_of_ready hd]

/-- An attempt of the reconciler leaves the world that a replication leaves. -/
theorem reconcile_world (d : Depot) (names : List String) {m : Metadata} {contentId : String}
    (h : m.contentId = some contentId) :
    (Reconciler.reconcile (Depot.backends names) m d).2 =
      (replicate (Depot.backends names) ⟨m.index, m.id, contentId⟩ d).2 := by
  rw [Reconciler.reconcile_of_content _ h]
  unfold replicate
  rw [Action.state_bind_apply]
  cases hpin : pinEverywhere (Depot.backends names).storage.replicas contentId d with
  | mk succeeded v =>
      cases succeeded with
      | false => rfl
      | true => rfl

end Service
end ContentGateway
