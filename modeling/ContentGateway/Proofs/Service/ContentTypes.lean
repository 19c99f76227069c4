import ContentGateway.Proofs.Service.Addressing
import ContentGateway.Proofs.Service.Retention

/-!
# The types of documents

A document gives the type of its content as the upload that wrote it last has resolved it.
An upload for which no type is found gives none, and then a document that was there before
keeps the type that it had: its type is the one of its last upload that had any.
-/

namespace ContentGateway

structure Upload where
  content : Bytes
  declared : Option String

def Upload.type (u : Upload) : Option String :=
  nonBlank u.declared <|> ContentType.sniff u.content

def IndexRequest.whole? (request : IndexRequest) : Option Upload :=
  match request.upload? with
  | some (.bytes content, declared) => some ⟨content, declared⟩
  | some (.stream content, declared) => content.content?.map fun bytes => ⟨bytes, declared⟩
  | none => none

namespace Service

open Depot

/-- The steps that file documents: indices are created, content is uploaded, documents go. -/
def Operation.Filing : Operation -> Prop
  | .createIndex _ _ => True
  | .index request => request.whole? ≠ none
  | .deindex _ _ => True
  | _ => False

theorem Operation.Filing.plain {operation : Operation} (h : operation.Filing) :
    operation.Plain := by
  cases operation with
  | createIndex | index | deindex => exact trivial
  | get | search | updateField | reconcile | fault | mood => exact h.elim

/-!
# Uploads on record
-/

def uploaded (d : Depot) (operation : Operation) (index id : String) : Option Upload :=
  match operation with
  | .index request =>
      match (indexed d request).1 with
      | .ok response =>
          if response.index.map lowerCase = some index ∧ response.id = some id then request.whole?
          else none
      | .error _ => none
  | _ => none

/-- The uploads to each place since there was no document, the last one first. -/
abbrev Ledger := String -> String -> List Upload

def Ledger.record (ledger : Ledger) (d : Depot) (operation : Operation) : Ledger :=
  fun index id =>
    if (perform operation d).catalog.document? index id = none then []
    else (uploaded d operation index id).toList ++ ledger index id

def Ledger.recordAll : Ledger -> Depot -> List Operation -> Ledger
  | ledger, _, [] => ledger
  | ledger, d, operation :: rest =>
      (ledger.record d operation).recordAll (perform operation d) rest

def ledgerOf (names : List String) (operations : List Operation) : Ledger :=
  Ledger.recordAll (fun _ _ => []) (Depot.ofReplicas (names.map Replica.of)) operations

/-- A document describes the content of its last upload, with the last type that was found. -/
structure Accounted (document : Option Fields) (uploads : List Upload) : Prop where
  contents : document.map contentOf = uploads.head?.map fun u => some (contentId u.content)
  types : document.map typeOf = uploads.head?.map fun _ => uploads.findSome? Upload.type

def Accounts (c : Catalog) (ledger : Ledger) : Prop :=
  forall index id, Accounted (c.document? index id) (ledger index id)

namespace Accounted

variable {document : Option Fields} {uploads : List Upload}

theorem absent : Accounted none [] :=
  ⟨rfl, rfl⟩

theorem reset (h : document ≠ none -> Accounted document uploads) :
    Accounted document (if document = none then [] else uploads) := by
  cases document with
  | none => exact absent
  | some document => exact h (Option.some_ne_none _)

theorem congr (h : Accounted document uploads) {document' : Option Fields}
    (hcontents : document'.map contentOf = document.map contentOf)
    (htypes : document'.map typeOf = document.map typeOf) : Accounted document' uploads :=
  ⟨hcontents.trans h.contents, htypes.trans h.types⟩

theorem bind_typeOf (h : Accounted document uploads) :
    document.bind typeOf = uploads.findSome? Upload.type := by
  have htypes := h.types
  cases document with
  | none =>
      cases uploads with
      | nil => rfl
      | cons u earlier => cases htypes
  | some document =>
      cases uploads with
      | nil => cases htypes
      | cons u earlier => exact Option.some.inj htypes

theorem write (h : Accounted document uploads) {document' : Option Fields} {u : Upload}
    (hcontents : document'.map contentOf = some (some (contentId u.content)))
    (htypes : document'.map typeOf = some (u.type.or (document.bind typeOf))) :
    Accounted document' (u :: uploads) where
  contents := hcontents
  types := by
    rw [htypes, h.bind_typeOf]
    show _ = some (List.findSome? Upload.type (u :: uploads))
    rw [List.findSome?_cons]
    cases u.type with
    | none => rfl
    | some type => rfl

end Accounted

/-!
# Answers and documents
-/

theorem obtained_whole {d : Depot} {request : IndexRequest} {u : Upload} {stored : Stored}
    (hwhole : request.whole? = some u) (hobtained : d.obtained request = .ok stored) :
    stored.contentId = contentId u.content ∧ stored.contentType = u.type := by
  unfold IndexRequest.whole? at hwhole
  split at hwhole
  · next content declared hupload =>
      cases hwhole
      rw [obtained_upload hupload] at hobtained
      rcases d.stored_cases (.bytes content) declared with ⟨failure, hfailed⟩ | hstored
      · rw [hfailed] at hobtained
        cases hobtained
      · rw [hstored] at hobtained
        cases hobtained
        exact ⟨rfl, rfl⟩
  · next content declared hupload =>
      rcases Option.map_eq_some_iff.mp hwhole with ⟨bytes, hbytes, rfl⟩
      rcases Stream.eq_ofPieces_of_content? hbytes with ⟨pieces, rfl, rfl⟩
      rw [obtained_upload hupload] at hobtained
      rcases d.stored_cases (.stream (.ofPieces pieces)) declared with ⟨failure, hfailed⟩ | hstored
      · rw [hfailed] at hobtained
        cases hobtained
      · rw [hstored, (inspected_ofPieces d.blobs pieces (nonBlank declared)).2] at hobtained
        cases hobtained
        exact ⟨congrArg contentId (Stream.delivered_ofPieces pieces), rfl⟩
  · cases hwhole

theorem indexed_answer (d : Depot) (request : IndexRequest) :
    (d.writing request = none ∧ forall response,
        (indexed d request).1 = .ok response -> request.header? = none ∧ response.index = none) ∨
      exists w, d.writing request = some w ∧
        (indexed d request).1 = .ok ⟨.success, some w.header.index, some w.docId,
          w.stored.contentId, w.stored.contentType, w.header.fields⟩ := by
  cases hvalid : validate request with
  | error failure =>
      rw [indexed_of_invalid hvalid]
      refine Or.inl ⟨?_, by rintro response ⟨⟩⟩
      unfold Depot.writing
      rw [hvalid]
  | ok _ =>
      have heffects := index_effects hvalid d
      unfold indexed Depot.writing
      rw [hvalid]
      cases hobtained : d.obtained request with
      | error failure =>
          rw [heffects.unwritten hobtained]
          exact Or.inl ⟨rfl, by rintro response ⟨⟩⟩
      | ok stored =>
          cases hheader : request.header? with
          | none =>
              rw [heffects.storedOnly hobtained hheader]
              exact Or.inl ⟨rfl, by rintro response ⟨⟩; exact ⟨rfl, rfl⟩⟩
          | some header =>
              cases hentered : d.entered header stored with
              | error failure =>
                  rw [heffects.unentered hobtained hheader hentered]
                  exact Or.inl ⟨by simp only [hentered], by rintro response ⟨⟩⟩
              | ok answer =>
                  rw [(heffects.entered hobtained hheader hentered).answer]
                  exact Or.inr ⟨⟨header, stored, answer.1, answer.2⟩, by simp only [hentered], rfl⟩

/-!
# One step
-/

theorem uploaded_of_unwritten {d : Depot} {operation : Operation}
    (hnone : forall request, operation = .index request -> d.writing request = none)
    (index id : String) : uploaded d operation index id = none := by
  cases operation with
  | index request =>
      rcases indexed_answer d request with ⟨_, hunnamed⟩ | ⟨w, hw, _⟩
      · unfold uploaded
        simp only
        split
        · next response hresponse =>
            rw [(hunnamed response hresponse).2]
            exact if_neg fun h => Option.some_ne_none _ h.1.symm
        · rfl
      · rw [hnone request rfl] at hw
        cases hw
  | createIndex | deindex | get | search | updateField | reconcile | fault | mood => rfl

theorem uploaded_of_writing {d : Depot} {request : IndexRequest} {w : Writing}
    (hw : d.writing request = some w) (index id : String) :
    uploaded d (.index request) index id =
      if lowerCase w.header.index = index ∧ w.docId = id then request.whole? else none := by
  rcases indexed_answer d request with ⟨hnone, _⟩ | ⟨w', hw', hanswer⟩
  · rw [hnone] at hw
    cases hw
  · rw [hw] at hw'
    cases hw'
    simp only [uploaded, hanswer, Option.map_some, Option.some.injEq]

/-- Where a document was written its upload accounts for it, and nothing else has changed. -/
theorem accounted_of_writing {d : Depot} (h : Healthy d) {request : IndexRequest} {w : Writing}
    (hw : d.writing request = some w) (hfiling : request.whole? ≠ none) {index id : String}
    {uploads : List Upload} (hold : Accounted (d.catalog.document? index id) uploads) :
    Accounted (w.catalog.document? index id)
      ((uploaded d (.index request) index id).toList ++ uploads) := by
  rcases Option.ne_none_iff_exists'.mp hfiling with ⟨u, hwhole⟩
  have hcontents := (h.written hw).contents index id
  have htypes := Catalog.types_put (h.put_of_writing hw) index id
  rcases obtained_whole hwhole (writing_eq_some_iff.mp hw).2.1 with ⟨hcontent, htype⟩
  rw [uploaded_of_writing hw]
  split
  · next hplace =>
      rw [if_pos hplace, hcontent] at hcontents
      rw [if_pos hplace, htype] at htypes
      rw [hwhole]
      exact hold.write hcontents htypes
  · next hplace =>
      rw [if_neg hplace] at hcontents htypes
      exact hold.congr hcontents htypes

theorem accounts_record {d : Depot} {ledger : Ledger} (h : Healthy d)
    (haccounts : Accounts d.catalog ledger) {operation : Operation} (hfiling : operation.Filing) :
    Accounts (perform operation d).catalog (ledger.record d operation) := by
  intro i j
  refine Accounted.reset fun hpresent => ?_
  have hold := haccounts i j
  generalize hafter : perform operation d = d' at hpresent ⊢
  have hchange := change_perform h hfiling.plain
  rw [hafter] at hchange
  cases hchange with
  | tended hnone htended =>
      rw [uploaded_of_unwritten hnone]
      exact hold.congr (htended.contents.contents i j) (htended.contents.types i j)
  | created hname =>
      rw [journaled_catalog, withCatalog_catalog, Catalog.document?_createIndex]
      exact hold
  | @written request w calls _ hw htended =>
      have hwritten := accounted_of_writing h hw hfiling hold
      exact hwritten.congr (htended.contents.contents i j) (htended.contents.types i j)
  | @removed index id document _ hdocument htended =>
      -- where the document stood there is none, and the ledger has started anew
      have helsewhere : ¬ (lowerCase index = i ∧ id = j) := by
        intro hplace
        refine hpresent (htended.contents.document?_eq_none ?_)
        rw [catalog_withoutDocument, Catalog.document?_without, if_pos hplace]
      have hcontents := htended.contents.contents i j
      have htypes := htended.contents.types i j
      rw [catalog_withoutDocument, Catalog.document?_without, if_neg helsewhere] at hcontents htypes
      exact hold.congr hcontents htypes

/-!
# Runs
-/

theorem accounts_recordAll {d : Depot} {ledger : Ledger} (h : Healthy d)
    (haccounts : Accounts d.catalog ledger) {operations : List Operation}
    (hfiling : forall operation, operation ∈ operations -> operation.Filing) :
    Accounts (operations.foldl (fun d operation => perform operation d) d).catalog
      (ledger.recordAll d operations) := by
  -- the depot stays healthy and the ledger accounts for it, step after step
  induction operations generalizing d ledger with
  | nil => exact haccounts
  | cons operation rest ih =>
      have hfirst := hfiling operation (List.mem_cons_self ..)
      exact ih (h.perform hfirst.plain) (accounts_record h haccounts hfirst)
        fun o ho => hfiling o (List.mem_cons_of_mem _ ho)

theorem accounts_after (names : List String) {operations : List Operation}
    (hfiling : forall operation, operation ∈ operations -> operation.Filing) :
    Accounts (after names operations).catalog (ledgerOf names operations) :=
  accounts_recordAll (healthy_start names) (fun _ _ => Accounted.absent) hfiling

/-- The last upload, the ones before it, and what the document makes of them. -/
structure Typed (document : Fields) (last : Upload) (earlier : List Upload) : Prop where
  content : contentOf document = some (contentId last.content)
  /-- The type of the last upload that had any. -/
  type : typeOf document = (last :: earlier).findSome? Upload.type
  /-- It is the type of the last upload unless that had none and an earlier one had. -/
  current_iff : typeOf document = last.type ↔
    last.type ≠ none ∨ forall u, u ∈ earlier -> u.type = none

theorem Accounted.typed {document : Fields} {uploads : List Upload}
    (h : Accounted (some document) uploads) :
    exists last earlier, uploads = last :: earlier ∧ Typed document last earlier := by
  have hcontents := h.contents
  have htypes := h.types
  cases uploads with
  | nil => cases hcontents
  | cons last earlier =>
      have htype : typeOf document = (last :: earlier).findSome? Upload.type :=
        Option.some.inj htypes
      refine ⟨last, earlier, rfl, Option.some.inj hcontents, htype, ?_⟩
      rw [htype, List.findSome?_cons]
      cases last.type with
      | some type => exact iff_of_true rfl (Or.inl (Option.some_ne_none _))
      | none =>
          simp only [ne_eq, not_true, false_or]
          exact List.findSome?_eq_none_iff

/-- What a look-up right after an indexing shows of the content, beside what the answer said. -/
structure Shown (d : Depot) (header : Header) (id : String) (response : IndexResponse)
    (upload : Upload) (earlier : List Upload) : Prop where
  named : response.id = some id
  content : response.contentId = contentId upload.content
  type : response.contentType = upload.type
  found : exists metadata,
    (get (backends d.replicaNames) ⟨some header.index, some id, none, false⟩ d).1 =
      .ok ⟨.success, ⟨metadata, none⟩⟩ ∧
    metadata.contentId = some response.contentId ∧
    (metadata.contentType = response.contentType ↔
      response.contentType ≠ none ∨ forall u, u ∈ earlier -> u.type = none)

theorem nonBlank_of_valid {request : IndexRequest} (h : validate request = .ok ())
    {header : Header} (hheader : request.header? = some header) :
    nonBlank (some header.index) ≠ none := by
  intro hblank
  unfold validate requireText at h
  rw [hheader] at h
  simp only [hblank] at h
  cases h

theorem nonBlank_docId {d : Depot} (h : Healthy d) {request : IndexRequest} {w : Writing}
    (hw : d.writing request = some w)
    (hid : w.header.id = none ∨ nonBlank w.header.id ≠ none) :
    nonBlank (some w.docId) ≠ none := by
  rcases (h.written hw).chosen with hasked | ⟨_, number, hnumber⟩
  · rw [hasked] at hid
    rcases hid with hnone | hink
    · cases hnone
    · exact hink
  · rw [hnumber]
    exact Catalog.nonBlank_generatedId number

theorem writing_of_answer {d : Depot} {request : IndexRequest} {header : Header}
    (hheader : request.header? = some header) {response : IndexResponse}
    (hresponse : (indexed d request).1 = .ok response) :
    exists w, d.writing request = some w ∧ w.header = header ∧
      response = ⟨.success, some header.index, some w.docId, w.stored.contentId,
        w.stored.contentType, header.fields⟩ := by
  rcases indexed_answer d request with ⟨_, hunnamed⟩ | ⟨w, hw, hanswer⟩
  · rw [(hunnamed response hresponse).1] at hheader
    cases hheader
  · have hsame := (writing_eq_some_iff.mp hw).2.2.1
    rw [hheader] at hsame
    cases hsame
    rw [hresponse] at hanswer
    exact ⟨w, hw, rfl, Except.ok.inj hanswer⟩

theorem document_of_writing {d : Depot} (h : Healthy d) {request : IndexRequest} {w : Writing}
    (hw : d.writing request = some w) :
    exists document,
      (indexed d request).2.catalog.document? (lowerCase w.header.index) w.docId = some document ∧
        contentOf document = some w.stored.contentId := by
  rcases h.index request with ⟨hnone, _⟩ | ⟨w', calls, hw', htended⟩
  · rw [hnone] at hw
    cases hw
  · rw [hw] at hw'
    cases hw'
    have hcontents := (h.written hw).contents (lowerCase w.header.index) w.docId
    rw [if_pos ⟨rfl, rfl⟩] at hcontents
    exact Option.map_eq_some_iff.mp ((htended.contents.contents _ _).trans hcontents)

theorem shown_of_indexed {d : Depot} {ledger : Ledger} (h : Healthy d)
    (haccounts : Accounts d.catalog ledger) {request : IndexRequest} {upload : Upload}
    (hwhole : request.whole? = some upload) {header : Header}
    (hheader : request.header? = some header)
    (hid : header.id = none ∨ nonBlank header.id ≠ none) {response : IndexResponse}
    (hresponse : (indexed d request).1 = .ok response) :
    exists id, Shown (indexed d request).2 header id response upload
      (ledger (lowerCase header.index) id) := by
  have hfiling : (Operation.index request).Filing := by
    show request.whole? ≠ none
    rw [hwhole]
    exact Option.some_ne_none _
  have hafter : Healthy (indexed d request).2 := h.perform hfiling.plain
  rcases writing_of_answer hheader hresponse with ⟨w, hw, rfl, rfl⟩
  rcases writing_eq_some_iff.mp hw with ⟨hvalid, hobtained, _, _⟩
  rcases obtained_whole hwhole hobtained with ⟨hcontent, htype⟩
  rcases document_of_writing h hw with ⟨document, hdocument, hdescribed⟩
  -- this upload is the last one that is on record for the document
  have hrecorded := accounts_record h haccounts hfiling (lowerCase w.header.index) w.docId
  have hpresent : (perform (.index request) d).catalog.document? (lowerCase w.header.index)
      w.docId = some document := hdocument
  unfold Ledger.record at hrecorded
  rw [hpresent, if_neg (Option.some_ne_none _), uploaded_of_writing hw, if_pos ⟨rfl, rfl⟩,
    hwhole] at hrecorded
  rcases hrecorded.typed with ⟨last, earlier, hsplit, htyped⟩
  cases hsplit
  refine ⟨w.docId, rfl, hcontent, htype,
    Metadata.ofDocument (lowerCase w.header.index) w.docId document, ?_, hdescribed, ?_⟩
  · rw [hafter.get_of_document (nonBlank_of_valid hvalid hheader) (nonBlank_docId h hw hid)
      hdocument none]
  · show typeOf document = w.stored.contentType ↔ w.stored.contentType ≠ none ∨ _
    rw [htype]
    exact htyped.current_iff

/--
What is recorded about content in a run that creates indices, uploads content and removes
documents while nothing fails.  Every document describes the content of its last upload and
gives the type of the last upload that had any, which is its own type exactly when it had one
or no earlier upload to the document had.  So does a look-up right after an indexing.
-/
theorem types_recorded (names : List String) {operations : List Operation}
    (hfiling : forall operation, operation ∈ operations -> operation.Filing) :
    (forall index id document,
      (after names operations).catalog.document? index id = some document ->
        exists last earlier, ledgerOf names operations index id = last :: earlier ∧
          Typed document last earlier) ∧
      forall request header upload response,
        request.whole? = some upload -> request.header? = some header ->
        header.id = none ∨ nonBlank header.id ≠ none ->
        (indexed (after names operations) request).1 = .ok response ->
          exists id, Shown (indexed (after names operations) request).2 header id response upload
            (ledgerOf names operations (lowerCase header.index) id) := by
  have haccounts := accounts_after names hfiling
  constructor
  · intro index id document hdocument
    have hplace := haccounts index id
    rw [hdocument] at hplace
    exact hplace.typed
  · intro request header upload response hwhole hheader hid hresponse
    exact shown_of_indexed (healthy_after names fun o ho => (hfiling o ho).plain) haccounts hwhole
      hheader hid hresponse

def retyped : List Operation :=
  [.createIndex "docs" none, .index (.text ⟨"docs", some "d", none, []⟩ "hello"),
    .index (.store ⟨"docs", some "d", none, []⟩ (.bytes [0]))]

theorem filing_retyped : forall operation, operation ∈ retyped -> operation.Filing := by
  intro operation hoperation
  simp only [retyped, List.mem_cons, List.not_mem_nil, or_false] at hoperation
  rcases hoperation with rfl | rfl | rfl
  · exact trivial
  · exact Option.some_ne_none _
  · exact Option.some_ne_none _

theorem typeOf_retyped :
    ((after ["r"] retyped).catalog.document? "docs" "d").map typeOf = some (some "text/plain") := by
  decide +kernel

theorem ledgerOf_retyped : (ledgerOf ["r"] retyped "docs" "d").map Upload.type =
    [none, some "text/plain"] := by
  decide +kernel

theorem types_recorded_retyped :
    (forall operation, operation ∈ retyped -> operation.Filing) ∧
      (exists document last earlier,
        (after ["r"] retyped).catalog.document? "docs" "d" = some document ∧
          Typed document last earlier ∧ last.type = none ∧ typeOf document = some "text/plain") ∧
      exists id response,
        Shown (indexed (after ["r"] retyped) (.text ⟨"Docs", none, some "text/html", []⟩ "hi")).2
          ⟨"Docs", none, some "text/html", []⟩ id response
          ⟨Utf8.ofString "hi", some "text/html"⟩
          (ledgerOf ["r"] retyped (lowerCase "Docs") id) := by
  rcases types_recorded ["r"] filing_retyped with ⟨hdocuments, hanswers⟩
  refine ⟨filing_retyped, ?_, ?_⟩
  · rcases Option.map_eq_some_iff.mp typeOf_retyped with ⟨document, hdocument, htype⟩
    rcases hdocuments "docs" "d" document hdocument with ⟨last, earlier, hledger, htyped⟩
    have htypes := ledgerOf_retyped
    rw [hledger, List.map_cons] at htypes
    exact ⟨document, last, earlier, hdocument, htyped, (List.cons.inj htypes).1, htype⟩
  · have hanswered : (indexed (after ["r"] retyped)
        (.text ⟨"Docs", none, some "text/html", []⟩ "hi")).1.toOption.isSome = true := by
      decide +kernel
    rcases Option.isSome_iff_exists.mp hanswered with ⟨response, hresponse⟩
    cases hindexed : (indexed (after ["r"] retyped)
        (.text ⟨"Docs", none, some "text/html", []⟩ "hi")).1 with
    | error failure =>
        rw [hindexed] at hresponse
        cases hresponse
    | ok answer =>
        rcases hanswers _ _ _ answer rfl rfl (Or.inl rfl) hindexed with ⟨id, hshown⟩
        exact ⟨id, answer, hshown⟩

/-- The type of a document need not be the one that was found for its content. -/
theorem type_outlives_content :
    ¬ forall (names : List String) (operations : List Operation),
      (forall operation, operation ∈ operations -> operation.Filing) ->
      forall (index id : String) (document : Fields) (last : Upload) (earlier : List Upload),
        (after names operations).catalog.document? index id = some document ->
        ledgerOf names operations index id = last :: earlier ->
          typeOf document = last.type := by
  intro h
  rcases Option.map_eq_some_iff.mp typeOf_retyped with ⟨document, hdocument, htype⟩
  have htypes := ledgerOf_retyped
  cases hledger : ledgerOf ["r"] retyped "docs" "d" with
  | nil =>
      rw [hledger] at htypes
      cases htypes
  | cons last earlier =>
      have hsame := h ["r"] retyped filing_retyped "docs" "d" document last earlier hdocument hledger
      rw [hledger, List.map_cons] at htypes
      rw [htype, (List.cons.inj htypes).1] at hsame
      cases hsame

end Service
end ContentGateway
