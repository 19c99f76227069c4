import ContentGateway.Proofs.Depot.Ordinary

/-!
# Invalid requests

An operation blames its request exactly if a text that it requires is absent or blank, or a
search has no page.  It does so before it calls a backend, so that nothing has changed and
nothing is left to do.
-/

namespace ContentGateway

open ContentGateway.Action

/-!
# Checks
-/

/-- A check blames the request exactly if that is invalid, and passes it otherwise. -/
structure Rejects (check : Except Failure Unit) (invalid : Prop) : Prop where
  blames : invalid -> exists message, check = .error (.validation message)
  passes : ¬ invalid -> check = .ok ()

theorem rejects_none : Rejects (pure ()) False :=
  ⟨False.elim, fun _ => rfl⟩

theorem Rejects.congr {check : Except Failure Unit} {invalid invalid' : Prop}
    (h : Rejects check invalid) (hiff : invalid ↔ invalid') : Rejects check invalid' :=
  ⟨fun hinvalid => h.blames (hiff.mpr hinvalid), fun hvalid => h.passes (hvalid ∘ hiff.mp)⟩

theorem Rejects.andThen {check next : Except Failure Unit} {invalid invalid' : Prop}
    (h : Rejects check invalid) (hnext : Rejects next invalid') :
    Rejects (check >>= fun _ => next) (invalid ∨ invalid') := by
  by_cases hinvalid : invalid
  · rcases h.blames hinvalid with ⟨message, rfl⟩
    exact ⟨fun _ => ⟨message, rfl⟩, fun hvalid => absurd (Or.inl hinvalid) hvalid⟩
  · rw [h.passes hinvalid]
    constructor
    · rintro (h' | h')
      · exact absurd h' hinvalid
      · exact hnext.blames h'
    · intro hvalid
      exact hnext.passes fun h' => hvalid (Or.inr h')

theorem nonBlank_of_blank {text : Option String} (h : text.all isBlankText = true) :
    nonBlank text = none := by
  cases text with
  | none => rfl
  | some t =>
      have hblank : isBlankText t = true := h
      simp [nonBlank, Option.filter_some, hblank]

theorem nonBlank_of_ink {text : Option String} (h : ¬ text.all isBlankText = true) :
    exists t, nonBlank text = some t ∧ isBlankText t = false := by
  cases text with
  | none => exact absurd rfl h
  | some t =>
      have hink : isBlankText t = false := Bool.eq_false_iff.mpr h
      exact ⟨t, by simp [nonBlank, Option.filter_some, hink], hink⟩

theorem all_isBlankText_nonBlank (text : Option String) :
    (nonBlank text).all isBlankText = text.all isBlankText := by
  by_cases h : text.all isBlankText = true
  · rw [nonBlank_of_blank h, h]
    rfl
  · rcases nonBlank_of_ink h with ⟨t, ht, hink⟩
    rw [ht, Option.all_some, hink, Bool.eq_false_iff.mpr h]

theorem rejects_required (field : String) (text : Option String) :
    Rejects (requireText field text) (text.all isBlankText = true) := by
  unfold requireText
  constructor
  · intro hblank
    rw [nonBlank_of_blank hblank]
    exact ⟨_, rfl⟩
  · intro hink
    rcases nonBlank_of_ink hink with ⟨t, ht, -⟩
    rw [ht]

/-!
# Checks before calls
-/

section Screens

variable {W α β : Type} {w : W} {invalid invalid' : Prop}

/-- A call blames its request exactly if that is invalid, and then leaves the world as it is. -/
def Screens (w : W) (call : Action W α) (invalid : Prop) : Prop :=
  ((exists message, (call w).1 = .error (.validation message)) ↔ invalid) ∧
    (invalid -> (call w).2 = w)

theorem Screens.congr {call : Action W α} (h : Screens w call invalid)
    (hiff : invalid ↔ invalid') : Screens w call invalid' :=
  ⟨h.1.trans hiff, fun hinvalid => h.2 (hiff.mpr hinvalid)⟩

theorem screens_throw (message : String) (h : invalid) :
    Screens w (throw (.validation message) : Action W α) invalid :=
  ⟨⟨fun _ => h, fun _ => ⟨message, rfl⟩⟩, fun _ => rfl⟩

theorem screens_of_silent {call : Action W α}
    (h : forall message, (call w).1 ≠ .error (.validation message)) (hvalid : ¬ invalid) :
    Screens w call invalid := by
  constructor
  · constructor
    · rintro ⟨message, hfailure⟩
      exact absurd hfailure (h message)
    · exact fun hinvalid => absurd hinvalid hvalid
  · exact fun hinvalid => absurd hinvalid hvalid

theorem screens_of_ordinarily {P : W -> Prop} {call : Action W α} (h : Ordinarily P call)
    (hw : P w) (hvalid : ¬ invalid) : Screens w call invalid :=
  screens_of_silent (fun _ hfailure => h.ordinary hw hfailure) hvalid

theorem Rejects.before {check : Except Failure Unit} {next : Action W β}
    (h : Rejects check invalid) (hnext : Screens w next invalid') :
    Screens w ((liftM check : Action W Unit) >>= fun _ => next) (invalid ∨ invalid') := by
  unfold Screens
  rw [bind_apply, check_apply]
  by_cases hinvalid : invalid
  · rcases h.blames hinvalid with ⟨message, rfl⟩
    exact ⟨⟨fun _ => Or.inl hinvalid, fun _ => ⟨message, rfl⟩⟩, fun _ => rfl⟩
  · rw [h.passes hinvalid]
    exact hnext.congr (or_iff_right hinvalid).symm

theorem Rejects.screens {P : W -> Prop} {check : Except Failure Unit} {next : Action W β}
    (h : Rejects check invalid) (hnext : Ordinarily P next) (hw : P w) :
    Screens w ((liftM check : Action W Unit) >>= fun _ => next) invalid :=
  (h.before (screens_of_ordinarily hnext hw not_false)).congr (iff_of_eq (or_false invalid))

theorem Screens.andThen {P : W -> Prop} {call : Action W α} {next : α -> Action W β}
    (h : Screens w call invalid) (hw : P (call w).2) (hnext : forall a, Ordinarily P (next a)) :
    Screens w (call >>= next) invalid := by
  unfold Screens at h
  cases hcall : call w with
  | mk answer w' =>
      rw [hcall] at h hw
      cases answer with
      | error failure =>
          unfold Screens
          rw [bind_apply, hcall]
          simpa using h
      | ok a =>
          apply screens_of_silent
          · intro message
            rw [bind_apply, hcall]
            exact fun hfailure => (hnext a).ordinary hw hfailure
          · intro hinvalid
            rcases h.1.mpr hinvalid with ⟨message, hfailure⟩
            cases hfailure

end Screens

/-!
# What makes a request invalid
-/

def IndexRequest.Invalid (request : IndexRequest) : Prop :=
  (exists header, request.header? = some header ∧ isBlankText header.index = true) ∨
    exists header contentId, request = .reference header contentId ∧ isBlankText contentId = true

/-- A look-up names an index and an id in it, or else a content; blank names count as none. -/
def GetRequest.Invalid (request : GetRequest) : Prop :=
  if request.id.all isBlankText then request.contentId.all isBlankText = true
  else request.index.all isBlankText = true

instance (request : GetRequest) : Decidable request.Invalid :=
  inferInstanceAs (Decidable (ite _ _ _))

def UpdateRequest.Invalid (request : UpdateRequest) : Prop :=
  isBlankText request.index = true ∨ isBlankText request.id = true ∨
    isBlankText request.key = true

namespace Service

open Depot

theorem rejects_validate (request : IndexRequest) : Rejects (validate request) request.Invalid := by
  cases request with
  | storeOnly content =>
      refine (rejects_none.andThen rejects_none).congr ?_
      simp [IndexRequest.Invalid, IndexRequest.header?]
  | store header content =>
      refine ((rejects_required "index" (some header.index)).andThen rejects_none).congr ?_
      simp [IndexRequest.Invalid, IndexRequest.header?]
  | text header content =>
      refine ((rejects_required "index" (some header.index)).andThen rejects_none).congr ?_
      simp [IndexRequest.Invalid, IndexRequest.header?]
  | reference header contentId =>
      refine ((rejects_required "index" (some header.index)).andThen
        (rejects_required "content_id" (some contentId))).congr ?_
      simp [IndexRequest.Invalid, IndexRequest.header?]

/-!
# Operations past their checks
-/

theorem ordinarily_store (names : List String) (content : Source) (declared : Option String) :
    Ordinarily Lenient (store (backends names) content declared) := by
  cases content with
  | bytes bytes => exact (ordinarily_write names bytes).bind fun _ => steady_pure _
  | stream stream =>
      unfold store
      cases nonBlank declared with
      | none => exact (ordinarily_writeStream names _).bind fun _ => steady_pure _
      | some type => exact (ordinarily_writeStream names _).bind fun _ => steady_pure _

theorem ordinarily_enter (names : List String) (header : Header) (contentId : String) :
    Ordinarily Lenient (enter (backends names) header contentId) :=
  (ordinarily_put _ _ _ _ _).bind fun _ => steady_pure _

theorem ordinarily_targets (names : List String) :
    List.Forall₂ (AgreeingTargets (Same Lenient) fun failure _ => failure.Ordinary)
      (pinTargets names) (pinTargets names) := by
  rw [List.forall₂_same]
  intro target htarget
  rcases List.mem_map.mp htarget with ⟨n, -, rfl⟩
  exact ⟨rfl,
    fun _ => (ordinarily_call _ _).bind fun _ => ordinarily_onReplica _ fun _ _ => ordinary_of_pin,
    fun _ => (ordinarily_call _ _).bind fun _ => ordinarily_onReplica _ fun _ _ => ordinary_of_unpin⟩

theorem ordinarily_release (names : List String) (contentId : String) :
    Ordinarily Lenient (release (backends names) contentId) := by
  have hshared : Ordinarily Lenient
      (liftM (releaseShared (backends names) contentId) : Action Depot Unit) :=
    agreeing_lift ((lenient_respected.calls names).releaseShared contentId)
  refine (parallel_unpinEverywhere (ordinarily_targets names) contentId).liftBind ?_
  intro failure failure' hfailure
  cases hfailure with
  | none =>
      refine Agreeing.ite (fun _ => ?_) fun _ => steady_pure ()
      exact hshared.bind fun _ => steady_pure ()
  | some hordinary =>
      refine Agreeing.ite (fun _ => ?_) fun _ => agreeing_throw hordinary
      exact hshared.bind fun _ => agreeing_throw hordinary

theorem lenient_backends (names : List String) :
    AgreeingBackends (Same Lenient) Failure.Alike (backends names) (backends names) where
  toAgreeingCalls := lenient_respected.calls names
  write content :=
    steady_of_keeps Failure.Alike.refl fun _ => (ordinarily_write names content).keeps
  writeStream content :=
    steady_of_keeps Failure.Alike.refl fun _ => (ordinarily_writeStream names content).keeps

/-!
# Operations with their checks
-/

section Operations

variable {d : Depot} (hd : d.Lenient) (names : List String)
include hd

theorem screens_createIndex (name : String) (configuration : Option Json) :
    Screens d (createIndex (backends names) name configuration) (isBlankText name = true) := by
  refine (rejects_required "name" (some name)).screens ?_ hd
  exact (ordinarily_createIndex name configuration).bind fun _ => steady_pure _

theorem screens_index (request : IndexRequest) :
    Screens d (index (backends names) request) request.Invalid := by
  refine (rejects_validate request).screens ?_ hd
  cases request with
  | storeOnly content => exact (ordinarily_store names content none).bind fun _ => steady_pure _
  | store header content =>
      exact (ordinarily_store names content _).bind fun _ => ordinarily_enter names _ _
  | text header content =>
      exact (ordinarily_store names _ _).bind fun _ => ordinarily_enter names _ _
  | reference header contentId => exact ordinarily_enter names header contentId

theorem screens_indexAndReplicate (request : IndexRequest) :
    Screens d (indexAndReplicate (backends names) request) request.Invalid := by
  refine (screens_index hd names request).andThen (P := Lenient)
    (((lenient_backends names).index request).keeps hd) ?_
  rintro ⟨response, job⟩
  cases job with
  | none => exact steady_pure response
  | some job =>
      have hreplicate : Ordinarily Lenient
          (liftM (replicate (backends names) job) : Action Depot Unit) :=
        agreeing_lift ((lenient_backends names).replicate job)
      exact hreplicate.bind fun _ => steady_pure response

theorem screens_deindex (index id : String) :
    Screens d (deindex (backends names) index id)
      (isBlankText index = true ∨ isBlankText id = true) := by
  refine (rejects_required "index" (some index)).before ?_
  refine (rejects_required "id" (some id)).screens ?_ hd
  refine (ordinarily_fetch index id).bind fun metadata => ?_
  refine (ordinarily_remove index id).bind fun _ => ?_
  cases metadata.contentId with
  | none => exact steady_pure _
  | some contentId => exact (ordinarily_release names contentId).bind fun _ => steady_pure _

theorem screens_updateField (request : UpdateRequest) :
    Screens d (updateField (backends names) request) request.Invalid := by
  refine (rejects_required "index" (some request.index)).before ?_
  refine (rejects_required "id" (some request.id)).before ?_
  refine (rejects_required "key" (some request.key)).screens ?_ hd
  exact (ordinarily_setField _ _ _ _).bind fun _ => steady_pure _

theorem screens_locate (request : GetRequest) :
    Screens d (locate (backends names) request) request.Invalid := by
  unfold locate GetRequest.Invalid
  by_cases hid : request.id.all isBlankText = true
  · rw [nonBlank_of_blank hid, if_pos hid]
    by_cases hcontent : request.contentId.all isBlankText = true
    · rw [nonBlank_of_blank hcontent]
      exact screens_throw _ hcontent
    · rcases nonBlank_of_ink hcontent with ⟨contentId, hsome, -⟩
      rw [hsome]
      refine screens_of_ordinarily ?_ hd hcontent
      refine (ordinarily_search _ _ _).bind fun page => ?_
      cases page.elements with
      | nil => exact agreeing_throw trivial
      | cons metadata rest => exact steady_pure metadata
  · rcases nonBlank_of_ink hid with ⟨id, hsome, -⟩
    rw [hsome, if_neg hid, ← all_isBlankText_nonBlank request.index]
    exact (rejects_required "index" _).screens (ordinarily_fetch _ _) hd

theorem screens_get (request : GetRequest) :
    Screens d (get (backends names) request) request.Invalid := by
  refine (screens_locate hd names request).andThen (P := Lenient)
    (((lenient_backends names).locate request).keeps hd) fun metadata => ?_
  cases request.loadFile with
  | false => exact steady_pure _
  | true =>
      cases metadata.contentId with
      | none => exact steady_pure _
      | some contentId => exact (ordinarily_read contentId).bind fun _ => steady_pure _

theorem screens_search (request : SearchRequest) :
    Screens d (search (backends names) request) (request.page = none) := by
  unfold search
  cases request.page with
  | none => exact screens_throw _ rfl
  | some pageRequest =>
      refine screens_of_ordinarily ?_ hd (Option.some_ne_none pageRequest)
      refine (ordinarily_search _ _ _).bind fun page => ?_
      cases request.loadFile with
      | false => exact steady_pure _
      | true =>
          refine ((lenient_backends names).readAll _).liftBind ?_
          intro payloads payloads' hpayloads
          simp only [AgreeingCalls.attach_eq hpayloads page.elements]
          exact steady_pure _

end Operations

structure Screened {W : Type} (b : Backends W) (w : W) : Prop where
  createIndex : forall name configuration,
    Screens w (Service.createIndex b name configuration) (isBlankText name = true)
  index : forall request, Screens w (Service.index b request) request.Invalid
  indexAndReplicate : forall request,
    Screens w (Service.indexAndReplicate b request) request.Invalid
  deindex : forall index id, Screens w (Service.deindex b index id)
    (isBlankText index = true ∨ isBlankText id = true)
  get : forall request, Screens w (Service.get b request) request.Invalid
  search : forall request, Screens w (Service.search b request) (request.page = none)
  updateField : forall request, Screens w (Service.updateField b request) request.Invalid

/--
Whatever a depot holds and wherever its faults strike, as long as none of them blames a
request.  The journal is a part of the depot: that it is unchanged means that there was no
call.  A failed indexing names no replication.
-/
theorem requests_screened {d : Depot} (hd : d.Lenient) (names : List String) :
    Screened (backends names) d where
  createIndex := screens_createIndex hd names
  index := screens_index hd names
  indexAndReplicate := screens_indexAndReplicate hd names
  deindex := screens_deindex hd names
  get := screens_get hd names
  search := screens_search hd names
  updateField := screens_updateField hd names

theorem requests_screened_slowSearch :
    let d := (Depot.ofReplicas []).withFaults [("indexer.search", .timeout "too slow")]
    let b := backends []
    d.Lenient ∧
      (exists message, (Service.get b ⟨none, some " ", some "\u2003", true⟩ d).1 =
        .error (.validation message)) ∧
      ¬ exists message, (Service.get b ⟨none, some " ", some "x", true⟩ d).1 =
        .error (.validation message) := by
  intro d b
  have hlenient : d.Lenient := by
    intro name failure hfault
    change Table.get? [("indexer.search", Failure.timeout "too slow")] name = some failure at hfault
    simp only [Table.get?, Option.ite_none_right_eq_some, Option.some.injEq] at hfault
    rw [← hfault.2]
    exact trivial
  have hscreened := requests_screened hlenient []
  refine ⟨hlenient, (hscreened.get _).1.mpr (by decide), ?_⟩
  rw [(hscreened.get _).1]
  decide

end Service
end ContentGateway
