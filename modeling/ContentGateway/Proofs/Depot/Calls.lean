import ContentGateway.Depot
import ContentGateway.Proofs.Catalog.Keeping

/-!
# Calls on a depot

Every call is entered in the journal, and unless a fault strikes it, the part of the depot
that it is for answers it.  So the indexer of a depot keeps the catalog there, and none of
its calls touches the content or the replicas.
-/

namespace ContentGateway

variable {α : Type}

theorem Catalog.call_apply (run : Catalog -> Except Failure (α × Catalog)) (c : Catalog) :
    Catalog.call run c =
      ((run c).map Prod.fst, ((run c).map Prod.snd).toOption.getD c) := by
  unfold Catalog.call
  cases run c with
  | error failure => rfl
  | ok answer => rfl

namespace Depot

/-!
# The journal and the faults
-/

def journaled (d : Depot) (calls : List String) : Depot :=
  { d with journal := calls ++ d.journal }

@[simp] theorem journaled_catalog (d : Depot) (calls : List String) :
    (d.journaled calls).catalog = d.catalog := rfl

@[simp] theorem journaled_replicas (d : Depot) (calls : List String) :
    (d.journaled calls).replicas = d.replicas := rfl

@[simp] theorem journaled_faults (d : Depot) (calls : List String) :
    (d.journaled calls).faults = d.faults := rfl

@[simp] theorem journaled_blobs (d : Depot) (calls : List String) :
    (d.journaled calls).blobs = d.blobs := rfl

theorem journaled_journaled (d : Depot) (calls later : List String) :
    (d.journaled calls).journaled later = d.journaled (later ++ calls) := by
  unfold journaled
  rw [List.append_assoc]

def withCatalog (d : Depot) (c : Catalog) : Depot :=
  { d with catalog := c }

@[simp] theorem withCatalog_catalog (d : Depot) (c : Catalog) : (d.withCatalog c).catalog = c :=
  rfl

@[simp] theorem withCatalog_replicas (d : Depot) (c : Catalog) :
    (d.withCatalog c).replicas = d.replicas := rfl

@[simp] theorem withCatalog_faults (d : Depot) (c : Catalog) :
    (d.withCatalog c).faults = d.faults := rfl

def withBlobs (d : Depot) (blobs : BlobStore) : Depot :=
  { d with blobs := blobs }

def withFaults (d : Depot) (faults : Table Failure) : Depot :=
  { d with faults := faults }

@[simp] theorem withFaults_faults (d : Depot) (faults : Table Failure) :
    (d.withFaults faults).faults = faults := rfl

@[simp] theorem withFaults_blobs (d : Depot) (faults : Table Failure) :
    (d.withFaults faults).blobs = d.blobs := rfl

def fault (d : Depot) (name : String) : Except Failure Unit :=
  match Table.get? d.faults name with
  | some failure => .error failure
  | none => .ok ()

theorem call_apply (name detail : String) (d : Depot) :
    call name detail d = (d.fault name, d.journaled [name ++ detail]) := by
  unfold call fault
  rw [Action.bind_apply, Action.modify_apply]
  simp only [Action.bind_apply, Action.get_apply]
  cases Table.get? d.faults name with
  | none => rfl
  | some failure => rfl

theorem onCatalog_apply (run : Action Catalog α) (d : Depot) :
    onCatalog run d = ((run d.catalog).1, d.withCatalog (run d.catalog).2) := rfl

theorem onBlobs_apply (run : BlobStore -> Except Failure (α × BlobStore)) (d : Depot) :
    onBlobs run d =
      match run d.blobs with
      | .error failure => (.error failure, d)
      | .ok (answer, blobs) => (.ok answer, d.withBlobs blobs) := by
  unfold onBlobs attempt
  rw [Action.bind_apply, Action.get_apply]
  simp only
  cases run d.blobs with
  | error failure => rfl
  | ok answer => rfl

theorem read_run (id : String) (d : Depot) :
    read id d = ((d.fault "storage.read").bind fun _ => d.blobs.read id,
      d.journaled ["storage.read" ++ (" " ++ id)]) := by
  unfold read beginRead fetchBlob
  rw [Action.bind_apply, call_apply]
  cases d.fault "storage.read" with
  | error failure => rfl
  | ok _ =>
      simp only
      rw [onBlobs_apply, journaled_blobs]
      cases hread : d.blobs.read id with
      | error failure => rfl
      | ok content => rfl

/-- A call of the indexer: the journal, the faults, and then the catalog. -/
theorem catalogCall_apply (name detail : String) (run : Action Catalog α) (d : Depot) :
    (do call name detail; onCatalog run : Action Depot α) d =
      match d.fault name with
      | .error failure => (.error failure, d.journaled [name ++ detail])
      | .ok _ =>
          ((run d.catalog).1, (d.withCatalog (run d.catalog).2).journaled [name ++ detail]) := by
  rw [Action.bind_apply, call_apply]
  cases d.fault name with
  | error failure => rfl
  | ok _ => rfl

/-!
# Readiness
-/

/-- Nothing keeps the indexer from searching and from changing fields. -/
structure Ready (d : Depot) : Prop where
  search : Table.get? d.faults "indexer.search" = none
  setField : Table.get? d.faults "indexer.update_field" = none
  window : d.window = none

theorem Ready.congr {d d' : Depot} (h : Ready d) (hfaults : d'.faults = d.faults)
    (hwindow : d'.window = d.window) : Ready d' where
  search := by
    rw [hfaults]
    exact h.search
  setField := by
    rw [hfaults]
    exact h.setField
  window := by
    rw [hwindow]
    exact h.window

/-- Only the journal has grown. -/
def Quiet (d d' : Depot) : Prop :=
  exists calls, d' = d.journaled calls

theorem Quiet.refl (d : Depot) : Quiet d d :=
  ⟨[], rfl⟩

theorem Quiet.trans {d d' d'' : Depot} (h : Quiet d d') (h' : Quiet d' d'') : Quiet d d'' := by
  rcases h with ⟨calls, rfl⟩
  rcases h' with ⟨later, rfl⟩
  exact ⟨later ++ calls, journaled_journaled d calls later⟩

theorem fault_of_none {d : Depot} {name : String} (h : Table.get? d.faults name = none) :
    d.fault name = .ok () := by
  unfold fault
  rw [h]

def shows (d : Depot) (request : PageRequest) : Bool :=
  d.window.all fun w => decide (request.offset + request.size ≤ w)

theorem withinWindow_run (request : PageRequest) (d : Depot) :
    withinWindow request d =
      (if d.shows request then .ok () else .error (.technical "result window is too large" none),
        d) := by
  unfold withinWindow shows
  rw [Action.bind_apply, Action.get_apply]
  simp only
  cases d.window with
  | none => rfl
  | some w =>
      simp only [Option.all_some, decide_eq_true_eq]
      by_cases hw : request.offset + request.size ≤ w
      · rw [if_pos hw, if_neg (Nat.not_lt.mpr hw)]
        rfl
      · rw [if_neg hw, if_pos (Nat.lt_of_not_le hw)]
        rfl

def searchEntry (index : Option String) (request : PageRequest) : String :=
  "indexer.search" ++ (" " ++ index.getD "*" ++ " " ++ toString request.offset ++ "+"
    ++ toString request.size)

def setFieldEntry (index id key : String) (value : Json) : String :=
  "indexer.update_field" ++ (place index id ++ " " ++ key ++ "=" ++ value.compact)

theorem indexNames_apply (d : Depot) :
    indexer.indexNames d =
      match d.fault "indexer.get_indexes" with
      | .error failure => (.error failure, d.journaled ["indexer.get_indexes"])
      | .ok _ => (.ok d.catalog.indexNames, d.journaled ["indexer.get_indexes"]) := by
  unfold indexer
  simp only
  rw [catalogCall_apply]
  rfl

/-- A search that looks beyond the window fails; any other is answered by the catalog. -/
theorem search_run {d : Depot} (hsearch : Table.get? d.faults "indexer.search" = none)
    (index : Option String) (query : Query) (request : PageRequest) :
    indexer.search index query request d =
      (if d.shows request then d.catalog.search index query request
        else .error (.technical "result window is too large" none),
        d.journaled [searchEntry index request]) := by
  unfold indexer
  simp only
  rw [Action.bind_apply, call_apply, fault_of_none hsearch]
  simp only
  rw [Action.bind_apply, withinWindow_run]
  have hshows : (d.journaled ["indexer.search" ++ (" " ++ index.getD "*" ++ " " ++
      toString request.offset ++ "+" ++ toString request.size)]).shows request =
        d.shows request := rfl
  rw [hshows]
  cases d.shows request with
  | false => rfl
  | true =>
      simp only [if_true, onCatalog_apply, Catalog.indexer, Catalog.call_apply, journaled_catalog]
      cases d.catalog.search index query request with
      | error failure => rfl
      | ok page => rfl

theorem search_apply {d : Depot} (hd : Ready d) (index : Option String) (query : Query)
    (request : PageRequest) :
    indexer.search index query request d =
      (d.catalog.search index query request, d.journaled [searchEntry index request]) := by
  have hshows : d.shows request = true := by
    unfold shows
    rw [hd.window]
    rfl
  rw [search_run hd.search, if_pos hshows]

theorem setField_apply {d : Depot} (hset : Table.get? d.faults "indexer.update_field" = none)
    (index id key : String) (value : Json) :
    indexer.setField index id key value d =
      ((d.catalog.setField index id key value).map fun _ => (),
        (d.withCatalog
          ((d.catalog.setField index id key value).toOption.getD d.catalog)).journaled
            [setFieldEntry index id key value]) := by
  unfold indexer
  simp only
  rw [catalogCall_apply, fault_of_none hset]
  simp only [Catalog.indexer, Catalog.call_apply]
  cases d.catalog.setField index id key value with
  | error failure => rfl
  | ok changed => rfl

/-- The catalog after the flag of a document has been called for; the call may fail. -/
def flagCalled (d : Depot) (index id : String) (pinned : Bool) : Catalog :=
  match d.fault "indexer.update_field" with
  | .error _ => d.catalog
  | .ok _ => d.catalog.flag (lowerCase index) id pinned

theorem flagCall_apply (d : Depot) (index id : String) (pinned : Bool) :
    (indexer.setField index id pinnedKey (.bool pinned) d).2 =
      (d.withCatalog (d.flagCalled index id pinned)).journaled
        [setFieldEntry index id pinnedKey (.bool pinned)] := by
  unfold indexer flagCalled
  simp only
  rw [catalogCall_apply]
  cases d.fault "indexer.update_field" with
  | error failure => rfl
  | ok _ =>
      simp only [Catalog.indexer, Catalog.call_apply]
      rw [Catalog.setField_pinnedKey]
      cases hdocument : d.catalog.document? (lowerCase index) id with
      | none =>
          rw [Catalog.flag_of_absent hdocument]
          rfl
      | some document => rfl

theorem flagCalled_of_ready {d : Depot} (hd : Ready d) (index id : String) (pinned : Bool) :
    d.flagCalled index id pinned = d.catalog.flag (lowerCase index) id pinned := by
  unfold flagCalled
  rw [fault_of_none hd.setField]

theorem setFlag_apply {d : Depot} (hd : Ready d) (index id : String) (pinned : Bool) :
    (indexer.setField index id pinnedKey (.bool pinned) d).2 =
      (d.withCatalog (d.catalog.flag (lowerCase index) id pinned)).journaled
        [setFieldEntry index id pinnedKey (.bool pinned)] := by
  rw [flagCall_apply, flagCalled_of_ready hd]

theorem backends_indexer (names : List String) : (backends names).indexer = indexer := rfl

structure Aside (P : Depot -> Prop) : Prop where
  journaled : forall {d}, P d -> forall calls, P (d.journaled calls)
  withCatalog : forall {d}, P d -> forall c, P (d.withCatalog c)

theorem keeps_indexer {P : Depot -> Prop} (hP : Aside P) :
    Keeps indexer Depot.catalog Quiet (fun d => Ready d ∧ P d) where
  refl := Quiet.refl
  trans := Quiet.trans
  catalog_of_quiet := by
    rintro w v ⟨calls, rfl⟩
    rfl
  ready_of_quiet := by
    rintro w v ⟨calls, rfl⟩ ⟨hw, hp⟩
    exact ⟨hw.congr rfl rfl, hP.journaled hp calls⟩
  search := by
    rintro w ⟨hw, -⟩ index query request
    exact ⟨_, search_apply hw index query request, _, rfl⟩
  setField := by
    rintro w ⟨hw, hp⟩ index id key value
    exact ⟨_, setField_apply hw.setField index id key value, rfl,
      hw.congr rfl rfl, hP.journaled (hP.withCatalog hp _) _⟩

end Depot
end ContentGateway
