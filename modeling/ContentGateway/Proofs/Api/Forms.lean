import ContentGateway.Proofs.Api.Runs

/-!
# Uploads as forms

A form stands for the last of its descriptions and the last of its files, wherever they are
among its parts.  With one of each, the request is answered as the indexing of the bytes; with
none of either, it is refused and nothing has happened.
-/

namespace ContentGateway
namespace Api

open Http (Part Multipart)

/-!
# Parts
-/

def partsNamed (name : String) (parts : List Part) : List Part :=
  parts.filter fun p => p.name == some name

def describe? (p : Part) : Option Description :=
  (JsonText.readBytesAs Description.fileReading p.content).toOption

def undescribed : Refusal :=
  .badRequest ("invalid request part: " ++ withheld)

theorem partsNamed_concat_self {name : String} {p : Part} (h : p.name = some name)
    (parts : List Part) : partsNamed name (parts ++ [p]) = partsNamed name parts ++ [p] := by
  simp [partsNamed, List.filter_append, h]

theorem partsNamed_concat_other {name : String} {p : Part} (h : p.name ≠ some name)
    (parts : List Part) : partsNamed name (parts ++ [p]) = partsNamed name parts := by
  simp [partsNamed, List.filter_append, h]

namespace Form

theorem add_request {p : Part} (h : p.name = some "request") (form : Form) :
    form.add p =
      match describe? p with
      | some d => .ok { form with header := some d.header }
      | none => .error undescribed := by
  unfold add describe?
  rw [h]
  simp only
  cases JsonText.readBytesAs Description.fileReading p.content with
  | ok d => rfl
  | error fault => rfl

theorem add_file {p : Part} (h : p.name = some "file") (form : Form) :
    form.add p = .ok { form with file := some (p.content, fileType p) } := by
  unfold add
  rw [h]
  rfl

theorem add_other {p : Part} (hrequest : p.name ≠ some "request") (hfile : p.name ≠ some "file")
    (form : Form) : form.add p = .ok form := by
  unfold add
  split
  · next h => exact absurd h hrequest
  · next h => exact absurd h hfile
  · rfl

/-- The form that parts stand for whose descriptions can all be read. -/
def ofParts (parts : List Part) : Form :=
  ⟨((partsNamed "request" parts).getLast?.bind describe?).map Description.header,
    (partsNamed "file" parts).getLast?.map fun p => (p.content, fileType p)⟩

def describes (parts : List Part) : Bool :=
  (partsNamed "request" parts).all fun p => (describe? p).isSome

theorem describes_concat (parts : List Part) (p : Part) :
    describes (parts ++ [p]) =
      (describes parts && (p.name != some "request" || (describe? p).isSome)) := by
  unfold describes
  by_cases h : p.name = some "request"
  · rw [partsNamed_concat_self h, List.all_append]
    simp [h]
  · rw [partsNamed_concat_other h]
    simp [h]

theorem ofParts_concat_request {p : Part} (h : p.name = some "request") {d : Description}
    (hd : describe? p = some d) (parts : List Part) :
    ofParts (parts ++ [p]) = { ofParts parts with header := some d.header } := by
  have hfile : p.name ≠ some "file" := by
    rw [h]
    decide
  unfold ofParts
  rw [partsNamed_concat_self h, partsNamed_concat_other hfile, List.getLast?_concat,
    Option.bind_some, hd]
  rfl

theorem ofParts_concat_file {p : Part} (h : p.name = some "file") (parts : List Part) :
    ofParts (parts ++ [p]) = { ofParts parts with file := some (p.content, fileType p) } := by
  have hrequest : p.name ≠ some "request" := by
    rw [h]
    decide
  unfold ofParts
  rw [partsNamed_concat_self h, partsNamed_concat_other hrequest, List.getLast?_concat]
  rfl

theorem ofParts_concat_other {p : Part} (hrequest : p.name ≠ some "request")
    (hfile : p.name ≠ some "file") (parts : List Part) :
    ofParts (parts ++ [p]) = ofParts parts := by
  unfold ofParts
  rw [partsNamed_concat_other hrequest, partsNamed_concat_other hfile]

theorem add_ofParts (parts : List Part) (p : Part) :
    (ofParts parts).add p =
      if p.name != some "request" || (describe? p).isSome then .ok (ofParts (parts ++ [p]))
      else .error undescribed := by
  by_cases hrequest : p.name = some "request"
  · rw [add_request hrequest]
    cases hd : describe? p with
    | some d =>
        rw [ofParts_concat_request hrequest hd, if_pos (by simp)]
    | none =>
        rw [if_neg (by simp [hrequest])]
  · rw [if_pos (by simp [hrequest])]
    by_cases hfile : p.name = some "file"
    · rw [add_file hfile, ofParts_concat_file hfile]
    · rw [add_other hrequest hfile, ofParts_concat_other hrequest hfile]

/-- The parts are taken up in order; only descriptions and files leave something behind. -/
theorem foldlM_add (parts : List Part) :
    parts.foldlM add ⟨none, none⟩ =
      if describes parts then .ok (ofParts parts) else .error undescribed := by
  -- the part that comes last decides, so the induction is from the end of the form
  induction parts using List.reverseRecOn with
  | nil => rfl
  | append_singleton parts p ih =>
      rw [List.foldlM_append, ih, describes_concat]
      cases describes parts with
      | false => rfl
      | true =>
          show [p].foldlM add (ofParts parts) = _
          rw [List.foldlM_cons, add_ofParts, Bool.true_and]
          split
          · rfl
          · rfl

theorem ofMultipart_eq (m : Multipart) :
    ofMultipart m =
      if !describes m.parts then .error undescribed
      else if m.complete then .ok (ofParts m.parts) else .error (.badRequest withheld) := by
  unfold ofMultipart
  rw [foldlM_add]
  cases describes m.parts with
  | false => rfl
  | true =>
      cases m.complete with
      | false => rfl
      | true => rfl

theorem indexRequest_ofParts_missing {parts : List Part}
    (h : partsNamed "request" parts = [] ∨ partsNamed "file" parts = []) :
    exists message, (ofParts parts).indexRequest = .error (.error (.validation message)) := by
  unfold indexRequest ofParts
  rcases h with h | h
  · rw [h]
    exact ⟨_, rfl⟩
  · rw [h]
    simp only [List.getLast?_nil, Option.map_none]
    cases ((partsNamed "request" parts).getLast?.bind describe?).map Description.header with
    | none => exact ⟨_, rfl⟩
    | some header => exact ⟨_, rfl⟩

end Form

/-!
# Requests
-/

theorem formRequest_missing (limit : Nat) {r : Request}
    (h : forall boundary, r.boundary? = some boundary ->
      partsNamed "request" (Multipart.read boundary r.body).parts = [] ∨
        partsNamed "file" (Multipart.read boundary r.body).parts = []) :
    exists refusal, formRequest limit r = .error refusal ∧ refusal.response.status = 400 := by
  unfold formRequest
  cases hboundary : r.boundary? with
  | none => exact ⟨_, rfl, rfl⟩
  | some boundary =>
      rcases Form.indexRequest_ofParts_missing (h boundary hboundary) with ⟨message, hmissing⟩
      simp only
      split
      · exact ⟨_, rfl, rfl⟩
      · rw [Form.ofMultipart_eq]
        split
        · exact ⟨_, rfl, rfl⟩
        · split
          · exact ⟨_, hmissing, rfl⟩
          · exact ⟨_, rfl, rfl⟩

/-- The parts of a form that has come in whole. -/
structure Delivers (limit : Nat) (r : Request) (parts : List Part) : Prop where
  fits : r.body.length ≤ limit
  read : exists boundary, r.boundary? = some boundary ∧
    Multipart.read boundary r.body = ⟨parts, true⟩

/-- The content type that is declared for a file: the described one or else its own, if that says something. -/
def declaredType (d : Description) (file : Part) : Option String :=
  match d.header.contentType, file.contentType with
  | some type, _ => some type
  | none, some own =>
      if own.text = "application/octet-stream" then none else some own.text
  | none, none => none

theorem declaredType_eq (d : Description) (file : Part) :
    d.header.contentType.or (fileType file) = declaredType d file := by
  unfold declaredType fileType
  cases d.header.contentType with
  | some type => rfl
  | none =>
      cases file.contentType with
      | none => rfl
      | some own =>
          by_cases h : own.text = "application/octet-stream"
          · simp [h]
          · simp [h]

def upload (d : Description) (file : Part) : IndexRequest :=
  .store { d.header with contentType := declaredType d file } (.bytes file.content)

theorem formRequest_of_delivers {limit : Nat} {r : Request} {parts : List Part}
    (h : Delivers limit r parts) {request file : Part} {d : Description}
    (hrequest : partsNamed "request" parts = [request]) (hd : describe? request = some d)
    (hfile : partsNamed "file" parts = [file]) :
    formRequest limit r = .ok (upload d file) := by
  rcases h.read with ⟨boundary, hboundary, hread⟩
  have hdescribes : Form.describes parts = true := by
    unfold Form.describes
    rw [hrequest]
    simp [hd]
  have hform : Form.ofParts parts = ⟨some d.header, some (file.content, fileType file)⟩ := by
    unfold Form.ofParts
    rw [hrequest, hfile]
    simp [hd]
  unfold formRequest
  rw [hboundary]
  simp only
  rw [if_neg (Nat.not_lt.mpr h.fits), hread, Form.ofMultipart_eq]
  simp only
  rw [hdescribes, hform]
  unfold upload
  rw [← declaredType_eq]
  rfl

/-!
# Answers
-/

section Answers

variable {W : Type} (b : Backends W) (s : Setup)

def told : Except Refusal Response -> Response
  | .ok response => response
  | .error refusal => refusal.response

def indexed : Except Failure IndexResponse -> Response
  | .ok answer => .ofJson 200 answer.toJson
  | .error failure => (Refusal.ofFailure failure).response

theorem serve_posted {r : Request} {route : Route}
    (hroute : Route.ofSegments? r.segments = some route) (hpost : route.method = .post)
    (hmethod : r.method = "POST") (w : W) :
    serve b s r w =
      (Cors.permit s.origins r (told (handle b s r route w).1), (handle b s r route w).2) := by
  have hadmits : route.method.admits r.method = true := by
    rw [hpost, hmethod]
    rfl
  have hhead : (r.method == "HEAD") = false := by
    rw [hmethod]
    rfl
  unfold serve
  rw [hroute]
  simp only
  rw [if_pos hadmits, Action.state_bind_apply]
  unfold respond
  rw [Action.state_bind_apply]
  simp only [hhead]
  cases hrun : handle b s r route w with
  | mk result w' =>
      have hrun' : (handle b s r route).run w = (result, w') := hrun
      rw [hrun']
      cases result with
      | ok response => rfl
      | error refusal => rfl

theorem index_told (request : IndexRequest) (w : W) :
    told (index b request w).1 = indexed (Service.indexAndReplicate b request w).1 ∧
      (index b request w).2 = (Service.indexAndReplicate b request w).2 := by
  unfold index
  rw [answering_apply]
  refine ⟨?_, rfl⟩
  cases (Service.indexAndReplicate b request w).1 with
  | ok answer => rfl
  | error failure => rfl

theorem delivers_of_complete {limit : Nat} {r : Request} (hfits : r.body.length ≤ limit)
    {boundary : String} (hboundary : r.boundary? = some boundary)
    (hcomplete : (Multipart.read boundary r.body).complete = true) :
    Delivers limit r (Multipart.read boundary r.body).parts := by
  refine ⟨hfits, boundary, hboundary, ?_⟩
  cases hread : Multipart.read boundary r.body with
  | mk parts complete =>
      rw [hread] at hcomplete
      cases hcomplete
      rfl

def posting (parts : List Bytes) : Request :=
  ⟨"POST", "/raw/store_index", "", [("content-type", "multipart/form-data; boundary=b")],
    parts.flatMap (fun part => Utf8.ofString "--b\r\n" ++ part ++ Multipart.lineEnd)
      ++ Utf8.ofString "--b--\r\n"⟩

theorem boundary?_posting (parts : List Bytes) : (posting parts).boundary? = some "b" := by
  show (posting []).boundary? = some "b"
  decide +kernel

def writtenDescription : Bytes :=
  Utf8.ofString "Content-Disposition: form-data; name=\"request\"\r\n\r\n"
    ++ Utf8.ofString (Json.ofMembers [("index", .string "docs")]).compact

def mixedForm : Request :=
  posting [
    Utf8.ofString "Content-Disposition: form-data; name=\"file\"\r\n"
      ++ Utf8.ofString "Content-Type: text/csv\r\n\r\na,b",
    Utf8.ofString "Content-Disposition: form-data; name=\"note\"\r\n\r\nx", writtenDescription]

/--
A form with one readable description and one file, among any other parts and in any order, is
answered as the indexing of the bytes of the file and leaves behind what that leaves; without a
description or without a file it is refused with 400 and leaves everything as it was.
-/
theorem serve_form {r : Request} (hpath : r.segments = ["", "raw", "store_index"])
    (hmethod : r.method = "POST") (w : W) :
    (forall (parts : List Part) (request file : Part) (d : Description),
      Delivers s.maxBody r parts -> partsNamed "request" parts = [request] ->
      describe? request = some d -> partsNamed "file" parts = [file] ->
        let run := Service.indexAndReplicate b (upload d file) w
        serve b s r w = (Cors.permit s.origins r (indexed run.1), run.2)) ∧
    ((forall boundary, r.boundary? = some boundary ->
      partsNamed "request" (Multipart.read boundary r.body).parts = [] ∨
        partsNamed "file" (Multipart.read boundary r.body).parts = []) ->
      (serve b s r w).1.status = 400 ∧ (serve b s r w).2 = w) := by
  have hroute : Route.ofSegments? r.segments = some .indexFile := by
    rw [hpath]
    rfl
  have hserve := serve_posted b s hroute rfl hmethod w
  have hhandle : handle b s r .indexFile =
      reading (formRequest s.maxBody r) >>= index b := rfl
  rw [hhandle] at hserve
  constructor
  · intro parts request file d hdelivers hrequest hd hfile
    rw [formRequest_of_delivers hdelivers hrequest hd hfile, reading_ok_bind] at hserve
    rcases index_told b (upload d file) w with ⟨htold, hworld⟩
    rw [hserve, htold, hworld]
  · intro hmissing
    rcases formRequest_missing s.maxBody hmissing with ⟨refusal, hrefused, hstatus⟩
    have hrun : (reading (formRequest s.maxBody r) >>= index b) w = (.error refusal, w) := by
      rw [hrefused]
      rfl
    rw [hserve, hrun]
    exact ⟨hstatus, rfl⟩

theorem serve_form_mixed :
    (exists request file d, describe? request = some d ∧
      (d.header.index, d.header.contentType) = ("docs", none) ∧
      (file.content, declaredType d file) = (Utf8.ofString "a,b", some "text/csv") ∧
        let run := Service.indexAndReplicate (Depot.backends []) (upload d file)
          (Depot.ofReplicas [])
        serve (Depot.backends []) ⟨[], 1000⟩ mixedForm (Depot.ofReplicas []) =
          (Cors.permit [] mixedForm (indexed run.1), run.2)) ∧
    (serve (Depot.backends []) ⟨[], 1000⟩ (posting [writtenDescription])
      (Depot.ofReplicas [])).1.status = 400 := by
  constructor
  · have hdelivers : Delivers 1000 mixedForm (Multipart.read "b" mixedForm.body).parts :=
      delivers_of_complete (by decide +kernel) (boundary?_posting _) (by decide +kernel)
    have hrequests : (partsNamed "request" (Multipart.read "b" mixedForm.body).parts).map (fun p =>
        (describe? p).map fun d => (d.header.index, d.header.contentType)) =
          [some ("docs", none)] := by
      decide +kernel
    have hfiles : (partsNamed "file" (Multipart.read "b" mixedForm.body).parts).map (fun p =>
        (p.content, p.contentType.map MediaType.text)) =
          [(Utf8.ofString "a,b", some "text/csv")] := by
      decide +kernel
    rcases List.map_eq_singleton_iff.mp hrequests with ⟨request, hrequest, hheader⟩
    rcases List.map_eq_singleton_iff.mp hfiles with ⟨file, hfile, hcontent⟩
    rcases Option.map_eq_some_iff.mp hheader with ⟨d, hd, hdescribed⟩
    rcases Prod.mk.inj hdescribed with ⟨-, hundeclared⟩
    rcases Prod.mk.inj hcontent with ⟨hbytes, hown⟩
    have htype : declaredType d file = some "text/csv" := by
      rw [← declaredType_eq, hundeclared]
      unfold fileType
      rw [hown]
      decide
    refine ⟨request, file, d, hd, hdescribed, ?_, ?_⟩
    · rw [htype, hbytes]
    · exact (serve_form (Depot.backends []) ⟨[], 1000⟩ (by decide +kernel) rfl
        (Depot.ofReplicas [])).1 _ request file d hdelivers hrequest hd hfile
  · refine ((serve_form (Depot.backends []) ⟨[], 1000⟩ (by decide +kernel) rfl
      (Depot.ofReplicas [])).2 ?_).1
    intro boundary h
    rw [boundary?_posting, Option.some.injEq] at h
    apply Or.inr
    rw [← h]
    exact List.length_eq_zero_iff.mp (by decide +kernel)

end Answers

end Api
end ContentGateway
