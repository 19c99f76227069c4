import ContentGateway.Proofs.Service.Parallel

/-!
# Interference

Something between the gateway and its backends strikes some of the calls: a call that is
struck fails and never gets through.  Where the same calls are struck, with failures that are
taken for one another, the backends go on agreeing.
-/

namespace ContentGateway

open ContentGateway.Action

variable {W : Type}

/-!
# Backends whose calls are struck
-/

section Struck

variable (strike : String -> Action W Unit)

def PinTarget.struck (t : PinTarget W) : PinTarget W where
  name := t.name
  pin id := do
    strike (t.name ++ ".pin")
    t.pin id
  unpin id := do
    strike (t.name ++ ".unpin")
    t.unpin id
  tracked := t.tracked

def Indexer.struck (i : Indexer W) : Indexer W where
  name := i.name
  createIndex index configuration := do
    strike "indexer.create_index"
    i.createIndex index configuration
  indexNames := do
    strike "indexer.get_indexes"
    i.indexNames
  put index id contentId contentType fields := do
    strike "indexer.index"
    i.put index id contentId contentType fields
  remove index id := do
    strike "indexer.deindex"
    i.remove index id
  fetch index id := do
    strike "indexer.get_document"
    i.fetch index id
  setField index id key value := do
    strike "indexer.update_field"
    i.setField index id key value
  search index query request := do
    strike "indexer.search"
    i.search index query request

/-- Reads that begin together are struck one by one. -/
def strikeReads : List String -> StateM W (List (String × Except Failure Unit))
  | [] => pure []
  | id :: rest => do
      let result ← (strike "storage.read").outcome
      let others ← strikeReads rest
      pure ((id, result) :: others)

def passing (reads : List (String × Except Failure Unit)) : List String :=
  (reads.filter fun r => r.2.isOk).map Prod.fst

def rejoin : List (String × Except Failure Unit) -> List (Except Failure Bytes) ->
    List (Except Failure Bytes)
  | [], _ => []
  | (_, .error failure) :: rest, answers => .error failure :: rejoin rest answers
  | (_, .ok _) :: _, [] => []
  | (_, .ok _) :: rest, answer :: answers => answer :: rejoin rest answers

def Storage.struck (s : Storage W) : Storage W where
  name := s.name
  write content := do
    strike "storage.write"
    s.write content
  writeStream content := do
    strike "storage.write_stream"
    s.writeStream content
  read id := do
    strike "storage.read"
    s.read id
  readAll ids := do
    let reads ← strikeReads strike ids
    let answers ← s.readAll (passing reads)
    pure (rejoin reads answers)
  pin id := do
    strike "storage.pin"
    s.pin id
  unpin id := do
    strike "storage.unpin"
    s.unpin id
  pinned := do
    strike "storage.list_pinned"
    s.pinned
  replicas := s.replicas.map (PinTarget.struck strike)
  check := do
    match ← (strike "storage.check").outcome with
    | .ok _ => s.check
    | .error failure => pure (.bad "storage is unreachable" failure.display)

def Backends.struck (b : Backends W) : Backends W :=
  ⟨b.storage.struck strike, b.indexer.struck strike⟩

end Struck

/-!
# Agreement under interference
-/

variable {R : W -> W -> Prop} {kind : Failure -> Failure -> Prop}
  {strike strike' : String -> Action W Unit}

theorem parallel_strikeReads (h : forall name, Agreeing R kind (strike name) (strike' name))
    (ids : List String) :
    Parallel R (List.Forall₂ (AgreeAt kind)) (strikeReads strike ids)
      (strikeReads strike' ids) := by
  induction ids with
  | nil => exact parallel_pure List.Forall₂.nil
  | cons id rest ih =>
      refine (h "storage.read").outcome.bind fun result result' hresult => ?_
      refine ih.bind fun others others' hothers => ?_
      exact parallel_pure (List.Forall₂.cons ⟨rfl, hresult⟩ hothers)

theorem passing_eq {reads reads' : List (String × Except Failure Unit)}
    (h : List.Forall₂ (AgreeAt kind) reads reads') : passing reads = passing reads' := by
  unfold passing
  induction h with
  | nil => rfl
  | cons hone _ ih =>
      rw [List.filter_cons, List.filter_cons, hone.2.isOk_eq]
      split
      · rw [List.map_cons, List.map_cons, hone.1, ih]
      · exact ih

theorem rejoin_agree {reads reads' : List (String × Except Failure Unit)}
    (h : List.Forall₂ (AgreeAt kind) reads reads') {answers answers' : List (Except Failure Bytes)}
    (hanswers : List.Forall₂ (Agree kind) answers answers') :
    List.Forall₂ (Agree kind) (rejoin reads answers) (rejoin reads' answers') := by
  induction h generalizing answers answers' with
  | nil => exact List.Forall₂.nil
  | @cons one other _ _ hone _ ih =>
      rcases one with ⟨id, result⟩
      rcases other with ⟨id', result'⟩
      -- a read that gets through takes an answer, and one that is struck does not
      rcases Agree.cases hone.2 with ⟨_, rfl, rfl⟩ | ⟨f, g, rfl, rfl, hkind⟩
      · cases hanswers with
        | nil => exact List.Forall₂.nil
        | cons hanswer hmore => exact List.Forall₂.cons hanswer (ih hmore)
      · have hfailed : Agree kind (.error f : Except Failure Bytes) (.error g) := hkind
        exact List.Forall₂.cons hfailed (ih hanswers)

theorem AgreeingTargets.struck {target target' : PinTarget W}
    (h : AgreeingTargets R kind target target')
    (hstrike : forall name, Agreeing R kind (strike name) (strike' name)) :
    AgreeingTargets R kind (target.struck strike) (target'.struck strike') where
  name := h.name
  pin id := by
    unfold PinTarget.struck
    rw [h.name]
    exact (hstrike _).bind fun _ => h.pin id
  unpin id := by
    unfold PinTarget.struck
    rw [h.name]
    exact (hstrike _).bind fun _ => h.unpin id

/-- Backends that agree go on agreeing when the same of their calls are struck. -/
theorem AgreeingBackends.struck {b b' : Backends W} (h : AgreeingBackends R kind b b')
    (hstrike : forall name, Agreeing R kind (strike name) (strike' name)) :
    AgreeingBackends R kind (b.struck strike) (b'.struck strike') where
  refl := h.refl
  createIndex _ _ := (hstrike _).bind fun _ => h.createIndex _ _
  indexNames := (hstrike _).bind fun _ => h.indexNames
  put _ _ _ _ _ := (hstrike _).bind fun _ => h.put _ _ _ _ _
  remove _ _ := (hstrike _).bind fun _ => h.remove _ _
  fetch _ _ := (hstrike _).bind fun _ => h.fetch _ _
  setField _ _ _ _ := (hstrike _).bind fun _ => h.setField _ _ _ _
  search _ _ _ := (hstrike _).bind fun _ => h.search _ _ _
  read _ := (hstrike _).bind fun _ => h.read _
  readAll ids := by
    refine (parallel_strikeReads hstrike ids).bind fun reads reads' hreads => ?_
    rw [passing_eq hreads]
    refine (h.readAll _).bind fun answers answers' hanswers => ?_
    exact parallel_pure (rejoin_agree hreads hanswers)
  check := by
    refine (hstrike _).outcome.bind fun result result' hresult => ?_
    rcases hresult.cases with ⟨_, rfl, rfl⟩ | ⟨f, g, rfl, rfl, -⟩
    · exact h.check
    · exact parallel_pure ⟨rfl, rfl⟩
  replicas := by
    refine List.forall₂_map_left_iff.mpr (List.forall₂_map_right_iff.mpr ?_)
    exact h.replicas.imp fun target target' hone => hone.struck hstrike
  write _ := (hstrike _).bind fun _ => h.write _
  writeStream _ := (hstrike _).bind fun _ => h.writeStream _

end ContentGateway
