import ContentGateway.Proofs.Depot.Calls
import ContentGateway.Proofs.Reconciler.Attempts

/-!
# Asking every replica

A pin and an unpin are asked of every replica in turn, also after one has failed.  What the
replicas answer and what becomes of them is known one by one: each answers for itself,
unless a fault strikes the call to it.
-/

namespace ContentGateway

variable {W : Type}

/-!
# Asking one after the other
-/

def answersOf : List (Action W Unit) -> StateM W (List (Except Failure Unit))
  | [] => pure []
  | ask :: rest => do
      let answer ← ask.outcome
      let others ← answersOf rest
      pure (answer :: others)

def firstFailure : List (Except Failure Unit) -> Option Failure
  | [] => none
  | .error failure :: _ => some failure
  | .ok _ :: rest => firstFailure rest

theorem answersOf_cons (ask : Action W Unit) (rest : List (Action W Unit)) (w : W) :
    answersOf (ask :: rest) w =
      ((ask w).1 :: (answersOf rest (ask w).2).1, (answersOf rest (ask w).2).2) := rfl

theorem pinEverywhere_eq (targets : List (PinTarget W)) (id : String) (w : W) :
    pinEverywhere targets id w =
      ((answersOf (targets.map fun t => t.pin id) w).1.all Except.isOk,
        (answersOf (targets.map fun t => t.pin id) w).2) := by
  induction targets generalizing w with
  | nil => rfl
  | cons target rest ih =>
      rw [Reconciler.pinEverywhere_cons, ih, List.map_cons, answersOf_cons, List.all_cons]

theorem unpinEverywhere_cons (target : PinTarget W) (rest : List (PinTarget W)) (id : String)
    (w : W) :
    unpinEverywhere (target :: rest) id w =
      match (target.unpin id w).1 with
      | .error failure => (some failure, (unpinEverywhere rest id (target.unpin id w).2).2)
      | .ok _ => unpinEverywhere rest id (target.unpin id w).2 := by
  rw [unpinEverywhere, Action.state_bind_apply, Action.state_bind_apply, Action.outcome_apply]
  cases (target.unpin id w).1 with
  | error failure => rfl
  | ok _ => rfl

theorem unpinEverywhere_eq (targets : List (PinTarget W)) (id : String) (w : W) :
    unpinEverywhere targets id w =
      (firstFailure (answersOf (targets.map fun t => t.unpin id) w).1,
        (answersOf (targets.map fun t => t.unpin id) w).2) := by
  induction targets generalizing w with
  | nil => rfl
  | cons target rest ih =>
      rw [unpinEverywhere_cons, List.map_cons, answersOf_cons, ih]
      cases (target.unpin id w).1 with
      | error failure => rfl
      | ok _ => rfl

/-- A pin changes what a replica tracks and counts, and nothing else. -/
theorem Replica.snd_pin (r : Replica) (id : String) :
    (r.pin id).2 =
      { r with tracked := (r.pin id).2.tracked, failed := (r.pin id).2.failed } := by
  unfold Replica.pin
  simp only
  split
  · rfl
  · split
    · rfl
    · rfl

theorem Replica.snd_unpin (r : Replica) (id : String) :
    (r.unpin id).2 = { r with tracked := (r.unpin id).2.tracked } := by
  unfold Replica.unpin
  split
  · rfl
  · rfl

namespace Depot

/-!
# One replica
-/

/-- What a replica answers to a call, and what becomes of it, when faults may strike the call. -/
def answer (faults : Table Failure) (verb : String)
    (run : Replica -> Except Failure Unit × Replica) (r : Replica) :
    Except Failure Unit × Replica :=
  match Table.get? faults (r.name ++ verb) with
  | some failure => (.error failure, r)
  | none => run r

def ask (verb id : String) (run : Replica -> Except Failure Unit × Replica)
    (target : String × Nat) : Action Depot Unit := do
  call (target.1 ++ verb) (" " ++ id)
  onReplica target.2 run

def askEntry (verb id name : String) : String :=
  name ++ verb ++ (" " ++ id)

def withReplicas (d : Depot) (replicas : List Replica) : Depot :=
  { d with replicas := replicas }

@[simp] theorem withReplicas_faults (d : Depot) (replicas : List Replica) :
    (d.withReplicas replicas).faults = d.faults := rfl

@[simp] theorem withReplicas_replicas (d : Depot) (replicas : List Replica) :
    (d.withReplicas replicas).replicas = replicas := rfl

theorem withReplicas_journaled (d : Depot) (calls : List String) (replicas : List Replica) :
    (d.journaled calls).withReplicas replicas = (d.withReplicas replicas).journaled calls := rfl

theorem onReplica_apply {d : Depot} {position : Nat} {r : Replica}
    (h : d.replicas[position]? = some r) (run : Replica -> Except Failure Unit × Replica) :
    onReplica position run d = ((run r).1, d.withReplicas (d.replicas.set position (run r).2)) := by
  unfold onReplica
  rw [Action.bind_apply, Action.get_apply]
  simp only [h]
  rw [Action.bind_apply, Action.modify_apply]
  rfl

theorem onReplica_of_none {d : Depot} {position : Nat} (h : d.replicas[position]? = none)
    (run : Replica -> Except Failure Unit × Replica) : onReplica position run d = (.ok (), d) := by
  unfold onReplica
  rw [Action.bind_apply, Action.get_apply]
  simp only [h]
  rfl

theorem ask_apply {d : Depot} {before after : List Replica} {r : Replica}
    (h : d.replicas = before ++ r :: after) (verb id : String)
    (run : Replica -> Except Failure Unit × Replica) :
    ask verb id run (r.name, before.length) d =
      ((answer d.faults verb run r).1,
        (d.withReplicas (before ++ (answer d.faults verb run r).2 :: after)).journaled
          [askEntry verb id r.name]) := by
  have hposition : (d.journaled [askEntry verb id r.name]).replicas[before.length]? = some r := by
    rw [journaled_replicas, h, List.getElem?_append_right (Nat.le_refl _), Nat.sub_self]
    rfl
  unfold ask
  rw [Action.bind_apply, call_apply]
  unfold fault answer
  cases Table.get? d.faults (r.name ++ verb) with
  | some failure =>
      simp only
      rw [← h]
      rfl
  | none =>
      simp only
      rw [show r.name ++ verb ++ (" " ++ id) = askEntry verb id r.name from rfl,
        onReplica_apply hposition, journaled_replicas, h, List.set_append_right _ _ (Nat.le_refl _),
        Nat.sub_self]
      rfl

/-!
# All replicas
-/

theorem answersOf_ask_from {d : Depot} {before after : List Replica}
    (h : d.replicas = before ++ after) (verb id : String)
    (run : Replica -> Except Failure Unit × Replica) :
    answersOf (((after.map Replica.name).zipIdx before.length).map (ask verb id run)) d =
      (after.map fun r => (answer d.faults verb run r).1,
        (d.withReplicas (before ++ after.map fun r => (answer d.faults verb run r).2)).journaled
          ((after.map fun r => askEntry verb id r.name).reverse)) := by
  -- the replicas in `before` have answered already, and the next call is for the first of `after`
  induction after generalizing d before with
  | nil =>
      rw [List.append_nil] at h
      simp only [List.map_nil, List.append_nil, List.reverse_nil, ← h]
      rfl
  | cons r rest ih =>
      have hnext : (((d.withReplicas (before ++ (answer d.faults verb run r).2 :: rest)).journaled
          [askEntry verb id r.name]).replicas =
            (before ++ [(answer d.faults verb run r).2]) ++ rest) := by
        rw [journaled_replicas, withReplicas_replicas, List.append_assoc]
        rfl
      have hrest := ih hnext
      rw [List.length_append, List.length_singleton] at hrest
      rw [List.map_cons, List.zipIdx_cons, List.map_cons, answersOf_cons, ask_apply h, hrest]
      simp only [journaled_faults, withReplicas_faults, List.map_cons, List.reverse_cons,
        List.append_assoc, List.singleton_append]
      rw [withReplicas_journaled, journaled_journaled]
      rfl

/-- Every replica is asked once, in order, and answers for itself. -/
theorem answersOf_ask (d : Depot) (verb id : String)
    (run : Replica -> Except Failure Unit × Replica) :
    answersOf (((d.replicas.map Replica.name).zipIdx).map (ask verb id run)) d =
      (d.replicas.map fun r => (answer d.faults verb run r).1,
        (d.withReplicas (d.replicas.map fun r => (answer d.faults verb run r).2)).journaled
          ((d.replicas.map fun r => askEntry verb id r.name).reverse)) := by
  have h := answersOf_ask_from (List.nil_append d.replicas).symm verb id run
  rw [List.nil_append, List.length_nil] at h
  exact h

def replicaNames (d : Depot) : List String :=
  d.replicas.map Replica.name

def asked (d : Depot) (verb id : String)
    (run : Replica -> Except Failure Unit × Replica) : Depot :=
  (d.withReplicas (d.replicas.map fun r => (answer d.faults verb run r).2)).journaled
    ((d.replicas.map fun r => askEntry verb id r.name).reverse)

theorem pinEverywhere_apply (d : Depot) (id : String) :
    pinEverywhere (pinTargets d.replicaNames) id d =
      (d.replicas.all fun r => (answer d.faults ".pin" (fun r => r.pin id) r).1.isOk,
        d.asked ".pin" id fun r => r.pin id) := by
  have htargets : (pinTargets d.replicaNames).map (fun t => t.pin id) =
      (d.replicas.map Replica.name).zipIdx.map (ask ".pin" id fun r => r.pin id) := by
    unfold pinTargets replicaNames
    rw [List.map_map]
    rfl
  rw [pinEverywhere_eq, htargets, answersOf_ask, List.all_map]
  rfl

theorem unpinEverywhere_apply (d : Depot) (id : String) :
    unpinEverywhere (pinTargets d.replicaNames) id d =
      (firstFailure (d.replicas.map fun r =>
          (answer d.faults ".unpin" (fun r => r.unpin id) r).1),
        d.asked ".unpin" id fun r => r.unpin id) := by
  have htargets : (pinTargets d.replicaNames).map (fun t => t.unpin id) =
      (d.replicas.map Replica.name).zipIdx.map (ask ".unpin" id fun r => r.unpin id) := by
    unfold pinTargets replicaNames
    rw [List.map_map]
    rfl
  rw [unpinEverywhere_eq, htargets, answersOf_ask]
  rfl

/-!
# The depot as backends
-/

theorem aside_replicaNames (names : List String) : Aside fun d => d.replicaNames = names where
  journaled h _ := h
  withCatalog h _ := h

theorem pin_apply (position : Nat) (name id : String) (d : Depot) :
    exists answer replicas,
      (pinTarget position name).pin id d =
        (answer, (d.withReplicas replicas).journaled [askEntry ".pin" id name]) ∧
      replicas.map Replica.name = d.replicas.map Replica.name := by
  show exists answer replicas, ask ".pin" id (fun r => r.pin id) (name, position) d = _ ∧ _
  unfold ask
  rw [Action.bind_apply, call_apply]
  cases d.fault (name ++ ".pin") with
  | error failure => exact ⟨_, d.replicas, rfl, rfl⟩
  | ok _ =>
      cases hr : d.replicas[position]? with
      | none =>
          have hr' : (d.journaled [askEntry ".pin" id name]).replicas[position]? = none := hr
          exact ⟨_, d.replicas, onReplica_of_none hr' _, rfl⟩
      | some r =>
          have hr' : (d.journaled [askEntry ".pin" id name]).replicas[position]? = some r := hr
          refine ⟨_, d.replicas.set position (r.pin id).2, onReplica_apply hr' _, ?_⟩
          have hname : (r.pin id).2.name = r.name := by rw [r.snd_pin]
          rw [List.map_set, hname]
          apply List.ext_getElem?
          intro i
          rw [List.getElem?_set, List.length_map, List.getElem?_map]
          split
          · next hi =>
              subst hi
              rw [hr]
              split
              · rfl
              · next hlength =>
                  rw [List.getElem?_eq_none (Nat.not_lt.mp hlength)] at hr
                  cases hr
          · rfl

theorem serves_backends (names : List String) :
    Reconciler.Serves (backends names) Depot.catalog Quiet
      (fun d => Ready d ∧ d.replicaNames = names) where
  toKeeps := keeps_indexer (aside_replicaNames names)
  pin := by
    rintro d ⟨hd, hnames⟩ target htarget id
    rcases List.mem_map.mp htarget with ⟨n, _, rfl⟩
    rcases pin_apply n.2 n.1 id d with ⟨answer, replicas, hpin, hkept⟩
    exact ⟨answer, _, hpin, rfl, hd.congr rfl rfl, hkept.trans hnames⟩

end Depot
end ContentGateway
