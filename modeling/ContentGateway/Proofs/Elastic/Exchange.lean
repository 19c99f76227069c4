import ContentGateway.Proofs.Action
import ContentGateway.Proofs.Elastic.Server
import ContentGateway.Proofs.Json.Record
import ContentGateway.Proofs.Json.Values
import ContentGateway.Catalog

/-!
# Calls to a server

What the engine's calls answer and leave behind when a server is at the other end, one
equation for each exchange.
-/

namespace ContentGateway
namespace Elastic

variable {W : Type}

theorem extend?_place {url url' : Url} {segments : List String}
    (h : url.extend? segments = some url') :
    url'.scheme = url.scheme ∧ url'.authority = url.authority := by
  unfold Url.extend? at h
  split at h
  · cases h
  · cases h
    exact ⟨rfl, rfl⟩

theorem path_withParameters (url : Url) (parameters : List (String × String)) :
    (url.withParameters parameters).path = url.path := by
  unfold Url.withParameters
  split
  · rfl
  · rfl

theorem place_withParameters (url : Url) (parameters : List (String × String)) :
    (url.withParameters parameters).scheme = url.scheme ∧
      (url.withParameters parameters).authority = url.authority := by
  unfold Url.withParameters
  split
  · exact ⟨rfl, rfl⟩
  · exact ⟨rfl, rfl⟩

theorem isSendable_congr {r r' : Http.Request} (hscheme : r'.url.scheme = r.url.scheme)
    (hauthority : r'.url.authority = r.url.authority) : r'.isSendable = r.isSendable := by
  unfold Http.Request.isSendable Url.host?
  rw [hscheme, hauthority]

theorem orNone_apply (call : Call W α) (w : W) :
    Engine.orNone call w =
      match call w with
      | (.ok answer, w') => (.ok (some answer), w')
      | (.error error, w') =>
          if error.status? = some 404 then (.ok none, w') else (.error error, w') := by
  unfold Engine.orNone
  rw [Action.exceptT_catch_apply, Action.exceptT_bind_apply]
  cases call w with
  | mk result w' =>
      cases result with
      | ok answer => rfl
      | error error =>
          dsimp only
          split
          · rfl
          · rfl

theorem action_apply (call : Call W α) (w : W) :
    call.action w = ((call w).1.mapError Error.failure, (call w).2) := rfl

/-!
# Documents as the server shows them
-/

theorem fields_of_toJson {inner : Tree} {source : Fields}
    (h : inner.toJson = .ok (.object source)) : Reading.fields inner = .ok source := by
  cases inner with
  | object members complete =>
      rw [Reading.fields, h]
  | array items complete =>
      rw [Tree.toJson] at h
      cases hitems : Tree.toItems items with
      | error e =>
          rw [hitems] at h
          cases h
      | ok vs =>
          rw [hitems] at h
          cases complete with
          | true => cases h
          | false => cases h
  | number n =>
      cases n with
      | none => cases h
      | some n => cases h
  | string s =>
      cases s with
      | none => cases h
      | some s => cases h
  | null => cases h
  | bool b => cases h
  | tooDeep inner => cases h
  | broken => cases h

def documentSlots : List (Slot Engine.Source) := [
  .required "_index" Reading.string fun s d => { d with index := s },
  .required "_id" Reading.string fun s d => { d with id := s },
  .defaulted "found" Reading.bool fun b d => { d with found := b },
  .defaulted "_source" Reading.fields fun fields d => { d with fields := fields }]

theorem source_reading_eq : Engine.Source.reading = Reading.record documentSlots .empty := rfl

/-- What is known of a document when the members with some names have been read. -/
def readSoFar (index id : String) (source : Fields) (names : List (Option String))
    (d : Engine.Source) : Engine.Source :=
  ⟨if some "_index" ∈ names then index else d.index,
    if some "_id" ∈ names then id else d.id,
    if some "found" ∈ names then true else d.found,
    if some "_source" ∈ names then source else d.fields⟩

theorem readSoFar_cons (index id : String) (source : Fields) (name : Option String)
    (names : List (Option String)) (d : Engine.Source) :
    readSoFar index id source names (readSoFar index id source [name] d) =
      readSoFar index id source (name :: names) d := by
  have hboth : forall {α : Type} (k : String) (a b : α),
      (if some k ∈ names then a else if some k ∈ [name] then a else b) =
        if some k ∈ name :: names then a else b := by
    intro α k a b
    by_cases hk : some k ∈ names
    · simp [hk]
    · simp [hk]
  unfold readSoFar
  simp only [hboth]

theorem fillMembers_document (index id : String) {source : Fields} {inner : Tree}
    (hinner : Reading.fields inner = .ok source) {members : List (Option String × Tree)}
    (hmembers : forall m, m ∈ members ->
      m ∈ [(some "_index", Tree.string (some index)), (some "_id", .string (some id)),
        (some "found", .bool true), (some "_source", inner)])
    (hnodup : (members.map Prod.fst).Nodup) {seen : List String}
    (hseen : forall k, k ∈ seen -> some k ∉ members.map Prod.fst) (d : Engine.Source) :
    exists seen', Slot.fillMembers documentSlots members seen d =
        .ok (seen', readSoFar index id source (members.map Prod.fst) d) ∧
      forall k, k ∈ seen ∨ some k ∈ members.map Prod.fst -> k ∈ seen' := by
  -- names that are still to come have not been seen, so no member is taken for a repetition
  induction members generalizing seen d with
  | nil =>
      refine ⟨seen, rfl, ?_⟩
      intro k hk
      rcases hk with hk | hk
      · exact hk
      · cases hk
  | cons m rest ih =>
      rw [List.map_cons, List.nodup_cons] at hnodup
      have hstep : exists k, m.1 = some k ∧
          Slot.fillMembers documentSlots (m :: rest) seen d =
            Slot.fillMembers documentSlots rest (k :: seen)
              (readSoFar index id source [some k] d) := by
        have hnew : forall k, m.1 = some k -> k ∉ seen :=
          fun k hk hmem => hseen k hmem (by rw [← hk]; exact List.mem_cons_self ..)
        have hfirst := hmembers m (List.mem_cons_self ..)
        simp only [List.mem_cons, List.not_mem_nil, or_false] at hfirst
        rcases hfirst with rfl | rfl | rfl | rfl
        · exact ⟨_, rfl, Slot.fillMembers_new rfl rfl (hnew _ rfl) rfl⟩
        · exact ⟨_, rfl, Slot.fillMembers_new rfl rfl (hnew _ rfl) rfl⟩
        · exact ⟨_, rfl, Slot.fillMembers_new rfl rfl (hnew _ rfl) rfl⟩
        · exact ⟨_, rfl, Slot.fillMembers_new rfl rfl (hnew _ rfl) (by
            show (Reading.fields inner).map _ = _
            rw [hinner]
            rfl)⟩
      rcases hstep with ⟨k, hk, hfill⟩
      have hseen' : forall k', k' ∈ k :: seen -> some k' ∉ rest.map Prod.fst := by
        intro k' hk' hmem
        rcases List.mem_cons.mp hk' with rfl | hold
        · exact hnodup.1 (hk ▸ hmem)
        · exact hseen k' hold (List.mem_cons_of_mem _ hmem)
      rcases ih (fun m hm => hmembers m (List.mem_cons_of_mem _ hm)) hnodup.2 hseen'
        (readSoFar index id source [some k] d) with ⟨seen', hread, hall⟩
      refine ⟨seen', ?_, ?_⟩
      · rw [hfill, hread, List.map_cons, hk, readSoFar_cons]
      · intro k' hk'
        rw [List.map_cons, hk, List.mem_cons] at hk'
        rcases hk' with hold | hnew | hlater
        · exact hall k' (Or.inl (List.mem_cons_of_mem _ hold))
        · cases hnew
          exact hall k (Or.inl (List.mem_cons_self ..))
        · exact hall k' (Or.inr hlater)

/-- A document is read as it is shown. -/
theorem reading_members {index id : String} {source : Fields} {inner : Tree}
    {members : List (Option String × Tree)} (hmembers : Host.Members index id inner members)
    (hinner : inner.toJson = .ok (.object source)) :
    Engine.Source.reading (.object members true) = .ok ⟨index, id, true, source⟩ := by
  have hnames : (members.map Prod.fst).Perm
      [some "_index", some "_id", some "found", some "_source"] := hmembers.map Prod.fst
  have hall : forall k, k ∈ [some "_index", some "_id", some "found", some "_source"] ->
      k ∈ members.map Prod.fst := fun k hk => hnames.mem_iff.mpr hk
  have hnone : forall k, k ∈ ([] : List String) -> some k ∉ members.map Prod.fst :=
    fun k hk => absurd hk List.not_mem_nil
  rcases fillMembers_document index id (fields_of_toJson hinner)
    (fun m hm => hmembers.mem_iff.mp hm) (hnames.nodup_iff.mpr (by decide)) hnone .empty
    with ⟨seen, hfill, hseen⟩
  have hread : readSoFar index id source (members.map Prod.fst) .empty =
      ⟨index, id, true, source⟩ := by
    unfold readSoFar
    rw [if_pos (hall _ (by decide)), if_pos (hall _ (by decide)), if_pos (hall _ (by decide)),
      if_pos (hall _ (by decide))]
  have hslots : documentSlots.all (fun s => !s.isRequired || seen.contains s.label) = true := by
    have hindex : "_index" ∈ seen := hseen _ (Or.inr (hall _ (by decide)))
    have hid : "_id" ∈ seen := hseen _ (Or.inr (hall _ (by decide)))
    simp [documentSlots, Slot.required, Slot.defaulted, Slot.label, hindex, hid]
  rw [source_reading_eq]
  show Reading.object documentSlots .empty (.object members true) = _
  rw [Reading.object, hfill, hread]
  simp only [hslots, Bool.not_true, if_true, Bool.false_eq_true, if_false]

section Served

variable {h : Host} {settings : Settings} (freshId : StateM Server String)

/-- An exchange with the server: a success is handed on, everything else is an error. -/
def exchanged (endpoint : String) (a : Http.Response × Server) :
    Except Error Http.Response × Server :=
  if a.1.isSuccess then (.ok a.1, a.2) else (.error (.api endpoint a.1.status a.1.text), a.2)

theorem send_apply (hweb : settings.IsWeb) {target : Target} (hfinds : h.Finds settings target)
    (method : String) (parameters : List (String × String)) (body : Http.Body) (s : Server) :
    (h.engine settings freshId).send method target.segments parameters body s =
      exchanged (method ++ " /" ++ String.intercalate "/" target.segments)
        (h.answer s target method body) := by
  rcases Option.bind_eq_some_iff.mp hfinds with ⟨url, hurl, hroute⟩
  have hsendable : Http.Request.isSendable ⟨method, url.withParameters parameters, [], body⟩ =
      true := by
    rw [← hweb]
    apply isSendable_congr
    · rw [(place_withParameters url parameters).1, (extend?_place hurl).1]
    · rw [(place_withParameters url parameters).2, (extend?_place hurl).2]
  have hcall : (h.engine settings freshId).network.call (h.engine settings freshId).settings.limit
      (some ⟨method, url.withParameters parameters, [], body⟩) s =
        (.ok (h.answer s target method body).1, (h.answer s target method body).2) := by
    show (if Http.Request.isSendable _ then h.network.send _ _ else _) s = _
    rw [if_pos hsendable]
    unfold Host.engine Host.network
    simp only [path_withParameters, hroute]
  have hengine : (h.engine settings freshId).url target.segments = .ok url := by
    have hsettings : (h.engine settings freshId).settings = settings := rfl
    unfold Engine.url
    rw [hsettings, hurl]
  unfold Engine.send
  rw [hengine]
  have hpure : (MonadExcept.ofExcept (Except.ok url) : Call Server Url) s = (.ok url, s) := rfl
  rw [Action.exceptT_bind_apply, hpure]
  dsimp only
  rw [Action.exceptT_bind_apply, Action.exceptT_lift_apply]
  rw [hcall]
  dsimp only
  unfold exchanged
  split
  · rfl
  · rfl

theorem orNone_send_found (hweb : settings.IsWeb) {target : Target}
    (hfinds : h.Finds settings target) {method : String} (parameters : List (String × String))
    {body : Http.Body} {s s' : Server} {r : Http.Response}
    (hanswer : h.answer s target method body = (r, s')) (hsuccess : r.isSuccess = true) :
    Engine.orNone ((h.engine settings freshId).send method target.segments parameters body) s =
      (.ok (some r), s') := by
  rw [orNone_apply, send_apply freshId hweb hfinds, hanswer]
  unfold exchanged
  simp only [hsuccess, if_true]

theorem orNone_send_missing (hweb : settings.IsWeb) {target : Target}
    (hfinds : h.Finds settings target) {method : String} (parameters : List (String × String))
    {body : Http.Body} {s s' : Server}
    (hanswer : h.answer s target method body = (Host.missing, s')) :
    Engine.orNone ((h.engine settings freshId).send method target.segments parameters body) s =
      (.ok none, s') := by
  rw [orNone_apply, send_apply freshId hweb hfinds, hanswer]
  rfl

theorem orNone_send_document (hweb : settings.IsWeb) {target : Target}
    (hfinds : h.Finds settings target) {method : String} (parameters : List (String × String))
    {body : Http.Body} {s : Server} {index id : String} {found : Fields -> Http.Response × Server}
    (hanswer : h.answer s target method body =
      match s.source? index id with
      | none => (Host.missing, s)
      | some source => found source)
    (hsuccess : forall source, (found source).1.isSuccess = true) :
    Engine.orNone ((h.engine settings freshId).send method target.segments parameters body) s =
      match s.source? index id with
      | none => (.ok none, s)
      | some source => (.ok (some (found source).1), (found source).2) := by
  cases hsource : s.source? index id with
  | none =>
      rw [hsource] at hanswer
      exact orNone_send_missing freshId hweb hfinds parameters hanswer
  | some source =>
      rw [hsource] at hanswer
      exact orNone_send_found freshId hweb hfinds parameters hanswer (hsuccess source)

theorem send_done (hweb : settings.IsWeb) {target : Target} (hfinds : h.Finds settings target)
    {method : String} (parameters : List (String × String)) {body : Http.Body} {s s' : Server}
    (hanswer : h.answer s target method body = (Host.done, s')) :
    (h.engine settings freshId).send method target.segments parameters body s =
      (.ok Host.done, s') := by
  rw [send_apply freshId hweb hfinds, hanswer]
  rfl

/-!
# Looking for indices and documents
-/

theorem hasIndex_apply (hweb : settings.IsWeb) {name : String}
    (hfinds : h.Finds settings (.index name)) (s : Server) :
    (h.engine settings freshId).hasIndex name s = (.ok (s.has name), s) := by
  have hanswer : h.answer s (.index name) "HEAD" .none =
      (if s.has name then Host.done else Host.missing, s) := rfl
  unfold Engine.hasIndex
  rw [Action.exceptT_bind_apply]
  cases hhas : s.has name with
  | true =>
      rw [hhas] at hanswer
      have hsend := orNone_send_found freshId hweb hfinds [] hanswer rfl
      rw [Target.segments] at hsend
      rw [hsend]
      rfl
  | false =>
      rw [hhas] at hanswer
      have hsend := orNone_send_missing freshId hweb hfinds [] hanswer
      rw [Target.segments] at hsend
      rw [hsend]
      rfl

def sourceOf (s : Server) (index id : String) : Option Engine.Source :=
  (s.source? index id).map fun fields => ⟨index, id, true, fields⟩

theorem decode_apply {endpoint : String} {read : Reading α} {r : Http.Response} {value : α}
    (hread : JsonText.readBytesAs read r.body = .ok value) (w : W) :
    (Engine.decode endpoint read r : Call W α) w = (.ok value, w) := by
  unfold Engine.decode
  rw [hread]
  rfl

theorem fetch_apply (hweb : settings.IsWeb) {index id : String}
    (hfinds : h.Finds settings (.document index id)) {s : Server} (hshows : h.Shows s) :
    (h.engine settings freshId).fetch index id s = (.ok (sourceOf s index id), s) := by
  have hanswer : h.answer s (.document index id) "GET" .none =
      match s.source? index id with
      | none => (Host.missing, s)
      | some source => (⟨200, h.text (Host.shown index id source)⟩, s) := rfl
  have hsend := orNone_send_document freshId hweb hfinds [] hanswer fun _ => rfl
  rw [Target.segments] at hsend
  unfold Engine.fetch sourceOf
  rw [Action.exceptT_bind_apply, hsend]
  cases hsource : s.source? index id with
  | none => rfl
  | some source =>
      rcases hshows index id source hsource with ⟨members, inner, htree, hmembers, hinner⟩
      have hread : JsonText.readBytesAs Engine.Source.reading
          (h.text (Host.shown index id source)) = .ok ⟨index, id, true, source⟩ := by
        unfold JsonText.readBytesAs JsonText.readAs
        rw [htree]
        simp only [reading_members hmembers hinner, if_true]
      dsimp only
      rw [Action.exceptT_bind_apply, decode_apply hread]
      rfl

/-!
# The calls of the indexer
-/

theorem onDocument_apply (index id : String) (call : Call W (Option α)) (w : W) :
    Engine.onDocument index id call w =
      match call w with
      | (.ok (some answer), w') => (.ok answer, w')
      | (.ok none, w') => (.error (Engine.noDocument index id), w')
      | (.error error, w') => (.error error.failure, w') := by
  unfold Engine.onDocument
  rw [Action.bind_apply, action_apply]
  cases call w with
  | mk result w' =>
      cases result with
      | error error => rfl
      | ok answer =>
          cases answer with
          | none => rfl
          | some answer => rfl

theorem createIndex_apply (hweb : settings.IsWeb) {index : String}
    (hfinds : h.Finds settings (.index (lowerCase index))) (configuration : Option Json)
    (s : Server) :
    ((h.engine settings freshId).createIndex index configuration).action s =
      (.ok (), if s.has (lowerCase index) then s else s.create (lowerCase index)) := by
  have hcall : (h.engine settings freshId).createIndex index configuration s =
      (.ok (), if s.has (lowerCase index) then s else s.create (lowerCase index)) := by
    unfold Engine.createIndex
    rw [Action.exceptT_bind_apply, hasIndex_apply freshId hweb hfinds]
    dsimp only
    cases s.has (lowerCase index) with
    | true => rfl
    | false =>
        have hanswer : h.answer s (.index (lowerCase index)) "PUT"
            (.json (configuration.getD defaultMapping)) =
              (Host.done, s.create (lowerCase index)) := rfl
        have hsend := send_done freshId hweb hfinds [] hanswer
        rw [Target.segments] at hsend
        rw [if_neg Bool.false_ne_true, if_neg Bool.false_ne_true, Action.exceptT_catch_apply,
          Action.exceptT_bind_apply, hsend]
        rfl
  rw [action_apply, hcall]
  rfl

theorem remove_apply (hweb : settings.IsWeb) {index id : String}
    (hfinds : h.Finds settings (.document (lowerCase index) id)) (s : Server) :
    (h.engine settings freshId).remove index id s =
      match s.source? (lowerCase index) id with
      | none => (.error (Engine.noDocument (lowerCase index) id), s)
      | some _ => (.ok (), s.erase (lowerCase index) id) := by
  have hanswer : h.answer s (.document (lowerCase index) id) "DELETE" .none =
      match s.source? (lowerCase index) id with
      | none => (Host.missing, s)
      | some _ => (Host.done, s.erase (lowerCase index) id) := rfl
  have hsend := orNone_send_document freshId hweb hfinds Engine.refresh hanswer fun _ => rfl
  rw [Target.segments] at hsend
  unfold Engine.remove
  rw [Action.bind_apply, onDocument_apply, hsend]
  cases s.source? (lowerCase index) id with
  | none => rfl
  | some source => rfl

theorem document_apply (hweb : settings.IsWeb) {index id : String}
    (hfinds : h.Finds settings (.document (lowerCase index) id)) {s : Server}
    (hshows : h.Shows s) :
    (h.engine settings freshId).document index id s =
      match s.source? (lowerCase index) id with
      | none => (.error (Engine.noDocument (lowerCase index) id), s)
      | some source => (.ok (.ofDocument (lowerCase index) id source), s) := by
  unfold Engine.document
  rw [Action.bind_apply, onDocument_apply, fetch_apply freshId hweb hfinds hshows]
  unfold sourceOf
  cases s.source? (lowerCase index) id with
  | none => rfl
  | some source => rfl

theorem updated?_fieldScript (source : Fields) (key : String) (value : Json) :
    Server.updated? source (Engine.fieldScript key value) =
      some (Table.insert source key value) := by
  let params : Json := .ofMembers [("key", .string key), ("value", value)]
  have hkey : params.member? "key" = some (.string key) :=
    Json.member?_ofMembers (by simp [Table.keys]) _
  have hvalue : params.member? "value" = some value :=
    (Json.member?_ofMembers (by simp [Table.keys]) _).trans (by simp [Table.get?])
  have hdoc : (Engine.fieldScript key value).member? "doc" = none :=
    (Json.member?_ofMembers (by simp [Table.keys]) _).trans (by simp [Table.get?])
  have hscript : ((Engine.fieldScript key value).member? "script").bind
      (fun script => script.member? "params") = some params := by
    unfold Engine.fieldScript
    rw [Json.member?_ofMembers (by simp [Table.keys])]
    exact (Json.member?_ofMembers (by simp [Table.keys]) _).trans (by simp [Table.get?, params])
  unfold Server.updated?
  simp only [hdoc, hscript, hkey, hvalue]

theorem updated?_doc (source document : Fields) :
    Server.updated? source (.ofMembers [("doc", .object document)]) =
      some (Table.extend source document) := by
  unfold Server.updated?
  rw [Json.member?_ofMembers (by simp [Table.keys])]
  rfl

theorem setField_apply (hweb : settings.IsWeb) {index id : String}
    (hfinds : h.Finds settings (.update (lowerCase index) id)) (key : String) (value : Json)
    (s : Server) :
    (h.engine settings freshId).setField index id key value s =
      match s.source? (lowerCase index) id with
      | none => (.error (Engine.noDocument (lowerCase index) id), s)
      | some source =>
          (.ok (), s.store (lowerCase index) id (Table.insert source key value)) := by
  have hanswer : h.answer s (.update (lowerCase index) id) "POST"
      (.json (Engine.fieldScript key value)) =
        match s.source? (lowerCase index) id with
        | none => (Host.missing, s)
        | some source =>
            (Host.done, s.store (lowerCase index) id (Table.insert source key value)) := by
    rw [Host.answer]
    cases s.source? (lowerCase index) id with
    | none => rfl
    | some source => simp only [updated?_fieldScript]
  have hsend := orNone_send_document freshId hweb hfinds Engine.updating hanswer fun _ => rfl
  rw [Target.segments] at hsend
  unfold Engine.setField
  rw [Action.bind_apply, onDocument_apply, hsend]
  cases s.source? (lowerCase index) id with
  | none => rfl
  | some source => rfl

theorem written_eq (e : Engine W) (hnull : e.settings.nullValues = false)
    (contentId contentType : Option String) (fields : Fields) :
    e.written contentId contentType fields =
      Catalog.writtenFields contentId contentType fields := by
  unfold Engine.written Catalog.writtenFields
  rw [hnull]
  cases contentId with
  | none =>
      cases contentType with
      | none => rfl
      | some type => rfl
  | some id =>
      cases contentType with
      | none => rfl
      | some type => rfl

theorem put_apply (hweb : settings.IsWeb) (hnull : settings.nullValues = false)
    {index id : String} (hindex : h.Finds settings (.index (lowerCase index)))
    (hdocument : h.Finds settings (.document (lowerCase index) id))
    (hupdate : h.Finds settings (.update (lowerCase index) id)) {s : Server}
    (hshows : h.Shows s) (contentId contentType : Option String) {fields : Fields}
    (hfields : Table.Ordered (Catalog.writtenFields contentId contentType fields)) :
    (h.engine settings freshId).put index (some id) contentId contentType fields s =
      if s.has (lowerCase index) then
        (.ok id, s.store (lowerCase index) id
          (Table.extend ((s.source? (lowerCase index) id).getD [])
            (Catalog.writtenFields contentId contentType fields)))
      else (.error (.noIndex (lowerCase index)), s) := by
  have hwritten : (h.engine settings freshId).written contentId contentType fields =
      Catalog.writtenFields contentId contentType fields := written_eq _ hnull _ _ _
  unfold Engine.put
  rw [hwritten]
  generalize Catalog.writtenFields contentId contentType fields = document at hfields
  -- three exchanges: one looks for the index, one for the document, and one writes it
  rw [Action.bind_apply, action_apply, hasIndex_apply freshId hweb hindex]
  dsimp only [Except.mapError]
  cases s.has (lowerCase index) with
  | false => rfl
  | true =>
      rw [if_pos rfl]
      show (bind _ _ : Action Server String) s = _
      rw [Action.bind_apply, action_apply, fetch_apply freshId hweb hdocument hshows]
      dsimp only [Except.mapError]
      unfold sourceOf
      cases hsource : s.source? (lowerCase index) id with
      | none =>
          have hanswer : h.answer s (.document (lowerCase index) id) "PUT"
              (.json (.object document)) =
                (Host.done, s.store (lowerCase index) id document) := rfl
          have hsend := send_done freshId hweb hdocument Engine.refresh hanswer
          rw [Target.segments] at hsend
          show (bind _ _ : Action Server String) s = _
          rw [Action.bind_apply, action_apply, hsend]
          -- the server stores the fields as they are sent, a catalog writes them into an empty table
          have hnew : Table.extend [] document = document := hfields.ofList_eq
          rw [Option.getD_none, hnew]
          rfl
      | some old =>
          have hanswer : h.answer s (.update (lowerCase index) id) "POST"
              (.json (.ofMembers [("doc", .object document)])) =
                (Host.done, s.store (lowerCase index) id (Table.extend old document)) := by
            rw [Host.answer, hsource]
            simp only [updated?_doc]
          have hsend := send_done freshId hweb hupdate Engine.updating hanswer
          rw [Target.segments] at hsend
          show (bind _ _ : Action Server String) s = _
          rw [Action.bind_apply, action_apply, hsend]
          rfl

end Served

end Elastic
end ContentGateway
