import ContentGateway.Proofs.Depot.Parallel
import ContentGateway.Session

/-!
# Sessions side by side

Time passes alike in two sessions whose depots are alike: the same passes of the reconciler
run at the same moments.  So the backends of the sessions agree, also in reads that wait.
-/

namespace ContentGateway

open ContentGateway.Action

/-!
# Backends of a larger world
-/

section Lift

variable {A B : Type} {R : A -> A -> Prop} {R' : B -> B -> Prop}
  {kind : Failure -> Failure -> Prop} {within : {α : Type} -> StateM A α -> StateM B α}

/-- What agrees in a world agrees in a larger one, if its actions are run there alike. -/
theorem AgreeingBackends.lift {b b' : Backends A} (h : AgreeingBackends R kind b b')
    (hwithin : forall {α : Type} {Q : α -> α -> Prop} {one other : StateM A α},
      Parallel R Q one other -> Parallel R' Q (within one) (within other)) :
    AgreeingBackends R' kind (b.lift within) (b'.lift within) where
  refl := h.refl
  createIndex index configuration := hwithin (h.createIndex index configuration)
  indexNames := hwithin h.indexNames
  put index id contentId contentType fields := hwithin (h.put index id contentId contentType fields)
  remove index id := hwithin (h.remove index id)
  fetch index id := hwithin (h.fetch index id)
  setField index id key value := hwithin (h.setField index id key value)
  search index query request := hwithin (h.search index query request)
  read id := hwithin (h.read id)
  readAll ids := hwithin (h.readAll ids)
  check := hwithin h.check
  replicas := by
    refine List.forall₂_map_left_iff.mpr (List.forall₂_map_right_iff.mpr ?_)
    exact h.replicas.imp fun target target' hone =>
      ⟨hone.name, fun id => hwithin (hone.pin id), fun id => hwithin (hone.unpin id)⟩
  write content := hwithin (h.write content)
  writeStream content := hwithin (h.writeStream content)

end Lift

namespace Session

def withDepot (s : Session) (d : Depot) : Session :=
  { s with depot := d }

theorem due_withDepot (s : Session) (d : Depot) : (s.withDepot d).due = s.due := rfl

def Alike (s s' : Session) : Prop :=
  exists d, s' = s.withDepot d ∧ s.depot.Alike d

theorem parallel_onDepot {α : Type} {Q : α -> α -> Prop} {one other : StateM Depot α}
    (h : Parallel Depot.Alike Q one other) : Parallel Alike Q (onDepot one) (onDepot other) := by
  rintro s _ ⟨d, rfl, hd⟩
  rcases h s.depot d hd with ⟨hanswers, hdepots⟩
  exact ⟨hanswers, _, rfl, hdepots⟩

theorem steady_act {α : Type} {call : Action Depot α} (h : Steady Depot.Alike Failure.Alike call) :
    Steady Alike Failure.Alike (act call) :=
  parallel_onDepot h

theorem parallel_clock {change : Session -> Session}
    (h : forall s d, change (s.withDepot d) = (change s).withDepot d)
    (hdepot : forall s, (change s).depot = s.depot) :
    Parallel Alike Eq (modify change) (modify change) := by
  refine parallel_modify ?_
  rintro s _ ⟨d, rfl, hd⟩
  refine ⟨d, h s d, ?_⟩
  rw [hdepot]
  exact hd

/-!
# Passes and time
-/

theorem replicaNames_eq {s s' : Session} (h : s.Alike s') : s'.replicaNames = s.replicaNames := by
  rcases h with ⟨_, rfl, _, rfl, -⟩
  rfl

theorem parallel_pass : Parallel Alike Eq pass pass := by
  intro s s' h
  show (onDepot _ s).1 = (onDepot _ s').1 ∧ Alike (onDepot _ s).2 (onDepot _ s').2
  rw [replicaNames_eq h]
  have hsize : s'.pageSize = s.pageSize := by
    rcases h with ⟨_, rfl, -⟩
    rfl
  rw [hsize]
  exact parallel_onDepot ((Depot.alike_respected.calls s.replicaNames).runOnce s.pageSize) s s' h

theorem parallel_catchUp (passes : Nat) : Parallel Alike Eq (catchUp passes) (catchUp passes) := by
  induction passes with
  | zero => exact parallel_pure rfl
  | succ passes ih =>
      refine parallel_get.bind ?_
      rintro s _ ⟨d, rfl, -⟩
      -- the clock is the same in both, so the same passes are due
      rw [due_withDepot]
      cases s.due with
      | none => exact parallel_pure rfl
      | some due =>
          refine Parallel.ite (fun _ => ?_) fun _ => parallel_pure rfl
          refine parallel_pass.andThen fun _ => ?_
          exact Parallel.andThen (parallel_clock (fun _ _ => rfl) fun _ => rfl) fun _ => ih

theorem parallel_passUntil (moment steps : Nat) :
    Parallel Alike Eq (passUntil moment steps) (passUntil moment steps) := by
  induction steps with
  | zero => exact parallel_clock (fun _ _ => rfl) fun _ => rfl
  | succ steps ih =>
      refine parallel_get.bind ?_
      rintro s _ ⟨d, rfl, -⟩
      rw [due_withDepot]
      cases s.due with
      | none => exact parallel_clock (fun _ _ => rfl) fun _ => rfl
      | some due =>
          refine Parallel.ite (fun _ => ?_) fun _ => parallel_clock (fun _ _ => rfl) fun _ => rfl
          refine Parallel.andThen (parallel_clock (fun _ _ => rfl) fun _ => rfl) fun _ => ?_
          exact (parallel_catchUp 1).andThen fun _ => ih

theorem parallel_wait (milliseconds : Nat) :
    Parallel Alike Eq (wait milliseconds) (wait milliseconds) := by
  refine parallel_get.bind ?_
  rintro s _ ⟨d, rfl, -⟩
  exact parallel_passUntil _ _

/-!
# Reads
-/

theorem steady_beginRead (id : String) :
    Steady Alike Failure.Alike (act (Depot.beginRead id)) :=
  steady_act (Depot.alike_call _ _)

theorem steady_fetchBlob (id : String) :
    Steady Alike Failure.Alike (act (Depot.fetchBlob id)) :=
  steady_act (Depot.alike_onBlobs _)

theorem steady_read (id : String) : Steady Alike Failure.Alike (read id) := by
  refine (steady_beginRead id).bind fun _ => ?_
  refine parallel_get.liftBind ?_
  rintro s _ ⟨d, rfl, -⟩
  exact (agreeing_lift (parallel_wait s.readDelay)).bind fun _ => steady_fetchBlob id

theorem parallel_beginAll (ids : List String) :
    Parallel Alike (List.Forall₂ (AgreeAt Failure.Alike)) (beginAll ids) (beginAll ids) := by
  induction ids with
  | nil => exact parallel_pure List.Forall₂.nil
  | cons id rest ih =>
      refine (steady_beginRead id).outcome.bind fun begun begun' hbegun => ?_
      refine ih.bind fun others others' hothers => ?_
      exact parallel_pure (List.Forall₂.cons ⟨rfl, hbegun⟩ hothers)

theorem parallel_fetchAll {begun begun' : List (String × Except Failure Unit)}
    (h : List.Forall₂ (AgreeAt Failure.Alike) begun begun') :
    Parallel Alike (List.Forall₂ (Agree Failure.Alike)) (fetchAll begun) (fetchAll begun') := by
  induction h with
  | nil => exact parallel_pure List.Forall₂.nil
  | @cons one other _ _ hone _ ih =>
      rcases one with ⟨id, result⟩
      rcases other with ⟨_, result'⟩
      rcases hone with ⟨rfl, hresult⟩
      rcases hresult.cases with ⟨_, rfl, rfl⟩ | ⟨f, g, rfl, rfl, hkind⟩
      · refine (steady_fetchBlob id).outcome.bind fun content content' hcontent => ?_
        exact ih.bind fun _ _ hothers => parallel_pure (List.Forall₂.cons hcontent hothers)
      · have hcontent : Agree Failure.Alike (.error f : Except Failure Bytes) (.error g) := hkind
        exact ih.bind fun _ _ hothers => parallel_pure (List.Forall₂.cons hcontent hothers)

theorem any_isOk_eq {begun begun' : List (String × Except Failure Unit)}
    (h : List.Forall₂ (AgreeAt Failure.Alike) begun begun') :
    (begun.any fun b => b.2.isOk) = begun'.any fun b => b.2.isOk := by
  induction h with
  | nil => rfl
  | cons hone _ ih => rw [List.any_cons, List.any_cons, hone.2.isOk_eq, ih]

theorem parallel_readAll (ids : List String) :
    Parallel Alike (List.Forall₂ (Agree Failure.Alike)) (readAll ids) (readAll ids) := by
  refine (parallel_beginAll ids).bind fun begun begun' hbegun => ?_
  rw [any_isOk_eq hbegun]
  refine Parallel.ite (fun _ => ?_) fun _ => parallel_fetchAll hbegun
  refine parallel_get.bind ?_
  rintro s _ ⟨d, rfl, -⟩
  exact (parallel_wait s.readDelay).andThen fun _ => parallel_fetchAll hbegun

theorem alike_backends (names : List String) :
    AgreeingBackends Alike Failure.Alike (backends names) (backends names) :=
  { (Depot.alike_backends names).lift parallel_onDepot with
    read := steady_read
    readAll := parallel_readAll }

end Session
end ContentGateway
