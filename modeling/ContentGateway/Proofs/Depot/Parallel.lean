import ContentGateway.Proofs.Depot.Replicas
import ContentGateway.Proofs.Service.Parallel

/-!
# Depots side by side

The calls on a depot are put together from a few parts.  A relation between depots that the
parts respect is respected by every call, so that operations on related depots agree.  One
such relation leaves open with which failures the faults of a depot strike.
-/

namespace ContentGateway

open ContentGateway.Action

/-!
# Failures of backends
-/

/-- A failure that tells a caller nothing but that something went wrong. -/
def Failure.Internal : Failure -> Prop
  | .technical _ _ => True
  | .connection _ _ => True
  | _ => False

def Failure.Alike (f g : Failure) : Prop :=
  f = g ∨ f.Internal ∧ g.Internal

theorem Failure.Alike.refl (f : Failure) : f.Alike f :=
  Or.inl rfl

namespace Depot

/-!
# The parts of calls
-/

/-- A relation that the parts of calls respect, those that store content apart. -/
structure Respected (R : Depot -> Depot -> Prop) : Prop where
  call : forall name detail, Steady R Failure.Alike (Depot.call name detail)
  window : forall request, Steady R Failure.Alike (withinWindow request)
  onCatalog : forall {α : Type} (run : Catalog -> Except Failure (α × Catalog)),
    Steady R Failure.Alike (Depot.onCatalog (Catalog.call run))
  onReplica : forall position run, Steady R Failure.Alike (Depot.onReplica position run)
  onBlobs : forall {α : Type} (run : BlobStore -> Except Failure (α × BlobStore)),
    (forall {s answer s'}, run s = .ok (answer, s') -> s'.blobs = s.blobs) ->
    Steady R Failure.Alike (Depot.onBlobs run)

namespace Respected

variable {R : Depot -> Depot -> Prop}

theorem read (h : Respected R) (id : String) : Steady R Failure.Alike (Depot.read id) := by
  refine (h.call _ _).bind fun _ => h.onBlobs _ ?_
  intro s answer s' hrun
  cases hread : s.read id with
  | error failure =>
      rw [hread] at hrun
      cases hrun
  | ok content =>
      rw [hread] at hrun
      cases hrun
      rfl

theorem readAll (h : Respected R) (ids : List String) :
    Parallel R (List.Forall₂ (Agree Failure.Alike)) (Depot.readAll ids) (Depot.readAll ids) := by
  induction ids with
  | nil => exact parallel_pure List.Forall₂.nil
  | cons id rest ih =>
      refine (h.read id).outcome.bind ?_
      intro content content' hcontent
      refine ih.bind ?_
      intro others others' hothers
      exact parallel_pure (List.Forall₂.cons hcontent hothers)

theorem check (h : Respected R) : Parallel R Health.Alike Depot.check Depot.check := by
  refine (h.call "storage.check" "").outcome.bind ?_
  intro result result' hresult
  rcases hresult.cases with ⟨a, rfl, rfl⟩ | ⟨f, g, rfl, rfl, hkind⟩
  · exact parallel_pure ⟨rfl, rfl⟩
  · rcases hkind with rfl | ⟨hf, hg⟩
    · split
      · exact parallel_pure ⟨rfl, rfl⟩
      · exact parallel_pure ⟨rfl, rfl⟩
      · exact parallel_pure ⟨rfl, rfl⟩
    · -- both are reported in one way, with what they carry as the hidden cause
      cases f with
      | technical | connection =>
          cases g with
          | technical | connection => exact parallel_pure ⟨rfl, rfl⟩
          | validation | notFound | noIndex | timeout | breakdown => exact hg.elim
      | validation | notFound | noIndex | timeout | breakdown => exact hf.elim

theorem pinTargets (h : Respected R) (names : List String) :
    List.Forall₂ (AgreeingTargets R Failure.Alike) (Depot.pinTargets names)
      (Depot.pinTargets names) := by
  rw [List.forall₂_same]
  intro target htarget
  rcases List.mem_map.mp htarget with ⟨n, -, rfl⟩
  exact ⟨rfl, fun _ => (h.call _ _).bind fun _ => h.onReplica _ _,
    fun _ => (h.call _ _).bind fun _ => h.onReplica _ _⟩

theorem calls (h : Respected R) (names : List String) :
    AgreeingCalls R Failure.Alike (backends names) (backends names) where
  refl := Failure.Alike.refl
  createIndex index configuration := (h.call _ _).bind fun _ =>
    h.onCatalog fun c => .ok ((), c.createIndex index configuration)
  indexNames := (h.call _ _).bind fun _ => h.onCatalog fun c => .ok (c.indexNames, c)
  put _ _ _ _ _ := (h.call _ _).bind fun _ => h.onCatalog _
  remove _ _ := (h.call _ _).bind fun _ => h.onCatalog _
  fetch _ _ := (h.call _ _).bind fun _ => h.onCatalog _
  setField _ _ _ _ := (h.call _ _).bind fun _ => h.onCatalog _
  search _ _ _ := (h.call _ _).bind fun _ => (h.window _).bind fun _ => h.onCatalog _
  read := h.read
  readAll := h.readAll
  check := h.check
  replicas := h.pinTargets names

end Respected

theorem respected_same {P : Depot -> Prop}
    (hjournaled : forall d calls, P d -> P (d.journaled calls))
    (hcatalog : forall d c, P d -> P (d.withCatalog c))
    (hreplicas : forall d replicas, P d -> P (d.withReplicas replicas))
    (hblobs : forall d blobs, blobs.blobs = d.blobs.blobs -> P d -> P (d.withBlobs blobs)) :
    Respected (Same P) where
  call name detail := steady_of_keeps Failure.Alike.refl fun d hd => by
    rw [call_apply]
    exact hjournaled d _ hd
  window request := steady_of_keeps Failure.Alike.refl fun d hd => by
    rw [withinWindow_run]
    exact hd
  onCatalog run := steady_of_keeps Failure.Alike.refl fun d hd => hcatalog d _ hd
  onReplica position run := steady_of_keeps Failure.Alike.refl fun d hd => by
    cases h : d.replicas[position]? with
    | none =>
        rw [onReplica_of_none h]
        exact hd
    | some r =>
        rw [onReplica_apply h]
        exact hreplicas d _ hd
  onBlobs run hrun := steady_of_keeps Failure.Alike.refl fun d hd => by
    rw [onBlobs_apply]
    cases h : run d.blobs with
    | error failure => exact hd
    | ok answer => exact hblobs d _ (hrun h) hd

/-!
# Other failures at the same calls
-/

/-- The same depot, but for the failures with which its faults strike. -/
def Alike (d d' : Depot) : Prop :=
  exists faults, d' = d.withFaults faults ∧
    forall name, Option.Rel Failure.Alike (Table.get? d.faults name) (Table.get? faults name)

theorem alike_call (name detail : String) : Steady Alike Failure.Alike (call name detail) := by
  rintro d _ ⟨faults, rfl, hfaults⟩
  show Agree Failure.Alike (call name detail d).1 (call name detail (d.withFaults faults)).1 ∧
    Alike (call name detail d).2 (call name detail (d.withFaults faults)).2
  rw [call_apply, call_apply]
  refine ⟨?_, faults, rfl, hfaults⟩
  have hname := hfaults name
  unfold fault
  rw [withFaults_faults]
  generalize Table.get? d.faults name = found at hname ⊢
  generalize Table.get? faults name = found' at hname ⊢
  cases hname with
  | none => exact rfl
  | some hkind => exact hkind

theorem alike_of_faultless {α : Type} {run : Action Depot α}
    (h : forall d faults, run (d.withFaults faults) =
      ((run d).1, (run d).2.withFaults faults))
    (hfaults : forall d, (run d).2.faults = d.faults) : Steady Alike Failure.Alike run := by
  rintro d _ ⟨faults, rfl, hstruck⟩
  show Agree Failure.Alike (run d).1 (run (d.withFaults faults)).1 ∧
    Alike (run d).2 (run (d.withFaults faults)).2
  have hrun := h d faults
  rw [hrun]
  refine ⟨Agree.refl Failure.Alike.refl _, faults, rfl, ?_⟩
  rw [hfaults]
  exact hstruck

theorem alike_withinWindow (request : PageRequest) :
    Steady Alike Failure.Alike (withinWindow request) := by
  refine alike_of_faultless ?_ ?_
  · intro d faults
    rw [withinWindow_run, withinWindow_run]
    rfl
  · intro d
    rw [withinWindow_run]

theorem alike_onReplica (position : Nat) (run : Replica -> Except Failure Unit × Replica) :
    Steady Alike Failure.Alike (onReplica position run) := by
  refine alike_of_faultless ?_ ?_
  · intro d faults
    cases h : d.replicas[position]? with
    | none => rw [onReplica_of_none h, onReplica_of_none (d := d.withFaults faults) h]
    | some r =>
        rw [onReplica_apply h, onReplica_apply (d := d.withFaults faults) h]
        rfl
  · intro d
    cases h : d.replicas[position]? with
    | none => rw [onReplica_of_none h]
    | some r =>
        rw [onReplica_apply h]
        rfl

theorem alike_onBlobs {α : Type} (run : BlobStore -> Except Failure (α × BlobStore)) :
    Steady Alike Failure.Alike (onBlobs run) := by
  refine alike_of_faultless ?_ ?_
  · intro d faults
    rw [onBlobs_apply, onBlobs_apply, withFaults_blobs]
    cases run d.blobs with
    | error failure => rfl
    | ok answer => rfl
  · intro d
    rw [onBlobs_apply]
    cases run d.blobs with
    | error failure => rfl
    | ok answer => rfl

theorem alike_respected : Respected Alike where
  call := alike_call
  window := alike_withinWindow
  onCatalog _ := alike_of_faultless (fun _ _ => rfl) fun _ => rfl
  onReplica := alike_onReplica
  onBlobs run _ := alike_onBlobs run

/-- The backends of a depot answer alike whatever the failures that strike them. -/
theorem alike_backends (names : List String) :
    AgreeingBackends Alike Failure.Alike (backends names) (backends names) where
  toAgreeingCalls := alike_respected.calls names
  write _ := (alike_call _ _).bind fun _ => alike_onBlobs _
  writeStream _ := (alike_call _ _).bind fun _ => alike_onBlobs _

end Depot
end ContentGateway
