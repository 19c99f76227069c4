import ContentGateway.Proofs.Depot.Parallel

/-!
# Ordinary failures

A failure either blames the request or says what went wrong behind it.  The calls on a depot
never blame the request, unless a fault makes them.
-/

namespace ContentGateway

def Failure.Ordinary : Failure -> Prop
  | .validation _ => False
  | _ => True

/-!
# Calls with ordinary failures
-/

namespace Action

variable {W α : Type} {P : W -> Prop}

/-- A call that leaves an invariant alone and does not blame the request. -/
abbrev Ordinarily (P : W -> Prop) (call : Action W α) : Prop :=
  Steady (Same P) (fun failure _ => failure.Ordinary) call

theorem ordinarily_of_steady {kind : Failure -> Failure -> Prop} {call : Action W α}
    (hkeeps : Steady (Same P) kind call)
    (hordinary : forall w failure, P w -> (call w).1 = .error failure -> failure.Ordinary) :
    Ordinarily P call := by
  rintro w _ ⟨rfl, hw⟩
  refine ⟨?_, rfl, hkeeps.keeps hw⟩
  show Agree _ (call w).1 (call w).1
  cases hanswer : (call w).1 with
  | ok answer => exact rfl
  | error failure => exact hordinary w failure hw hanswer

theorem Ordinarily.ordinary {call : Action W α} (h : Ordinarily P call) {w : W} (hw : P w)
    {failure : Failure} (hfailure : (call w).1 = .error failure) : failure.Ordinary := by
  have hagree : Agree (fun failure _ => failure.Ordinary) (call w).1 (call w).1 :=
    (h w w ⟨rfl, hw⟩).1
  rw [hfailure] at hagree
  exact hagree

end Action

open ContentGateway.Action

namespace Catalog

variable {c : Catalog} {failure : Failure}

theorem ordinary_of_put {index : String} {id contentId contentType : Option String}
    {fields : Fields} (h : c.put index id contentId contentType fields = .error failure) :
    failure.Ordinary := by
  unfold put at h
  simp only at h
  split at h
  · cases h
    exact trivial
  · split at h
    · cases h
    · cases h

theorem ordinary_of_remove {index id : String} (h : c.remove index id = .error failure) :
    failure.Ordinary := by
  unfold remove at h
  simp only at h
  split at h
  · cases h
    exact trivial
  · cases h

theorem ordinary_of_fetch {index id : String} (h : c.fetch index id = .error failure) :
    failure.Ordinary := by
  unfold fetch at h
  simp only at h
  split at h
  · cases h
    exact trivial
  · cases h

theorem ordinary_of_setField {index id key : String} {value : Json}
    (h : c.setField index id key value = .error failure) : failure.Ordinary := by
  unfold setField at h
  simp only at h
  split at h
  · cases h
    exact trivial
  · cases h

theorem ordinary_of_search {index : Option String} {query : Query} {request : PageRequest}
    (h : c.search index query request = .error failure) : failure.Ordinary := by
  unfold search at h
  simp only at h
  split at h
  · cases h
    exact trivial
  · split at h
    · cases h
      exact trivial
    · cases h

end Catalog

namespace Depot

variable {α : Type}

def Lenient (d : Depot) : Prop :=
  forall name failure, Table.get? d.faults name = some failure -> failure.Ordinary

theorem lenient_respected : Respected (Same Lenient) :=
  respected_same (fun _ _ hd => hd) (fun _ _ hd => hd) (fun _ _ hd => hd) fun _ _ _ hd => hd

theorem ordinarily_call (name detail : String) : Ordinarily Lenient (call name detail) := by
  apply ordinarily_of_steady (lenient_respected.call name detail)
  intro d failure hd hfailure
  rw [call_apply] at hfailure
  unfold fault at hfailure
  split at hfailure
  · next struck hstruck =>
      cases hfailure
      exact hd name _ hstruck
  · cases hfailure

theorem ordinarily_withinWindow (request : PageRequest) :
    Ordinarily Lenient (withinWindow request) := by
  apply ordinarily_of_steady (lenient_respected.window request)
  intro d failure _ hfailure
  rw [withinWindow_run] at hfailure
  simp only at hfailure
  split at hfailure
  · cases hfailure
  · cases hfailure
    exact trivial

theorem ordinary_of_map {β : Type} {result : Except Failure α} {f : α -> β} {failure : Failure}
    (hresult : forall failure, result = .error failure -> failure.Ordinary)
    (h : result.map f = .error failure) : failure.Ordinary := by
  cases result with
  | ok answer => cases h
  | error failure' =>
      cases h
      exact hresult _ rfl

theorem ordinarily_onCatalog (run : Catalog -> Except Failure (α × Catalog))
    (hrun : forall c failure, run c = .error failure -> failure.Ordinary) :
    Ordinarily Lenient (onCatalog (Catalog.call run)) := by
  apply ordinarily_of_steady (lenient_respected.onCatalog run)
  intro d failure _ hfailure
  rw [onCatalog_apply, Catalog.call_apply] at hfailure
  exact ordinary_of_map (hrun d.catalog) hfailure

theorem ordinarily_onReplica (position : Nat) {run : Replica -> Except Failure Unit × Replica}
    (hrun : forall r failure, (run r).1 = .error failure -> failure.Ordinary) :
    Ordinarily Lenient (onReplica position run) := by
  apply ordinarily_of_steady (lenient_respected.onReplica position run)
  intro d failure _ hfailure
  cases hposition : d.replicas[position]? with
  | none =>
      rw [onReplica_of_none hposition] at hfailure
      cases hfailure
  | some r =>
      rw [onReplica_apply hposition] at hfailure
      exact hrun r failure hfailure

theorem ordinarily_onBlobs {run : BlobStore -> Except Failure (α × BlobStore)}
    (hrun : forall s failure, run s = .error failure -> failure.Ordinary) :
    Ordinarily Lenient (onBlobs run) := by
  have hkeeps : Steady (Same Lenient) Failure.Alike (onBlobs run) :=
    steady_of_keeps Failure.Alike.refl fun d hd => by
      rw [onBlobs_apply]
      cases run d.blobs with
      | error failure => exact hd
      | ok answer => exact hd
  apply ordinarily_of_steady hkeeps
  intro d failure _ hfailure
  rw [onBlobs_apply] at hfailure
  cases hanswer : run d.blobs with
  | error failure' =>
      rw [hanswer] at hfailure
      cases hfailure
      exact hrun _ _ hanswer
  | ok answer =>
      rw [hanswer] at hfailure
      cases hfailure

theorem ordinary_of_pin {r : Replica} {id : String} {failure : Failure}
    (h : (r.pin id).1 = .error failure) : failure.Ordinary := by
  unfold Replica.pin at h
  simp only at h
  split at h
  · cases h
    exact trivial
  · split at h
    · cases h
      exact trivial
    · cases h

theorem ordinary_of_unpin {r : Replica} {id : String} {failure : Failure}
    (h : (r.unpin id).1 = .error failure) : failure.Ordinary := by
  unfold Replica.unpin at h
  split at h
  · cases h
    exact trivial
  · cases h

/-!
# Calls of the backends
-/

theorem ordinarily_createIndex (index : String) (configuration : Option Json) :
    Ordinarily Lenient (indexer.createIndex index configuration) := by
  refine (ordinarily_call _ _).bind fun _ =>
    ordinarily_onCatalog (fun c => .ok ((), c.createIndex index configuration)) ?_
  intro c failure h
  cases h

theorem ordinarily_put (index : String) (id contentId contentType : Option String)
    (fields : Fields) : Ordinarily Lenient (indexer.put index id contentId contentType fields) :=
  (ordinarily_call _ _).bind fun _ => ordinarily_onCatalog _ fun _ _ => Catalog.ordinary_of_put

theorem ordinarily_remove (index id : String) : Ordinarily Lenient (indexer.remove index id) :=
  (ordinarily_call _ _).bind fun _ => ordinarily_onCatalog _ fun _ _ =>
    ordinary_of_map fun _ => Catalog.ordinary_of_remove

theorem ordinarily_fetch (index id : String) : Ordinarily Lenient (indexer.fetch index id) :=
  (ordinarily_call _ _).bind fun _ => ordinarily_onCatalog _ fun _ _ =>
    ordinary_of_map fun _ => Catalog.ordinary_of_fetch

theorem ordinarily_setField (index id key : String) (value : Json) :
    Ordinarily Lenient (indexer.setField index id key value) :=
  (ordinarily_call _ _).bind fun _ => ordinarily_onCatalog _ fun _ _ =>
    ordinary_of_map fun _ => Catalog.ordinary_of_setField

theorem ordinarily_search (index : Option String) (query : Query) (request : PageRequest) :
    Ordinarily Lenient (indexer.search index query request) :=
  (ordinarily_call _ _).bind fun _ => (ordinarily_withinWindow request).bind fun _ =>
    ordinarily_onCatalog _ fun _ _ => ordinary_of_map fun _ => Catalog.ordinary_of_search

theorem ordinarily_write (names : List String) (content : Bytes) :
    Ordinarily Lenient ((storage names).write content) := by
  refine (ordinarily_call _ _).bind fun _ => ordinarily_onBlobs ?_
  intro s failure h
  cases h

theorem ordinarily_writeStream (names : List String) (content : Stream) :
    Ordinarily Lenient ((storage names).writeStream content) := by
  refine (ordinarily_call _ _).bind fun _ => ordinarily_onBlobs ?_
  intro s failure h
  unfold BlobStore.writeStream at h
  split at h
  · cases h
  · cases h
    exact trivial

theorem ordinarily_read (id : String) : Ordinarily Lenient (read id) := by
  refine (ordinarily_call _ _).bind fun _ => ordinarily_onBlobs ?_
  intro s failure
  apply ordinary_of_map
  intro failure h
  unfold BlobStore.read at h
  split at h
  · cases h
  · cases h
    exact trivial

end Depot
end ContentGateway
