import ContentGateway.Api.Request
import ContentGateway.Api.Response
import ContentGateway.Request

/-!
# Uploads

The bodies of requests that index content: content stored before, a text, or a form
with a file and a description of it.
-/

namespace ContentGateway
namespace Api

/-!
# Bodies
-/

def unbuffered : String :=
  "Failed to buffer the request body: " ++ withheld

/-- The body of a request, unless it is too long. -/
def wholeBody (limit : Nat) (r : Request) : Except Refusal Bytes :=
  if r.body.length ≤ limit then .ok r.body else .error (.plain 413 unbuffered)

/-- Reads the body of a request that has to be JSON. -/
def jsonBody (limit : Nat) (read : Reading α) (r : Request) : Except Refusal α :=
  if !(r.mediaType?.map MediaType.isJson).getD false then
    .error (.badRequest "Expected request with `Content-Type: application/json`")
  else if limit < r.body.length then .error (.badRequest unbuffered)
  else
    match JsonText.readFrontAs read r.body with
    | .ok value => .ok value
    | .error .malformed =>
        .error (.badRequest ("Failed to parse the request body as JSON: " ++ withheld))
    | .error (.mismatch _) =>
        .error (.badRequest
          ("Failed to deserialize the JSON body into the target type: " ++ withheld))

/-!
# Descriptions
-/

/-- What a body says about content: how to index it, and the content or its identity. -/
structure Description where
  header : Header
  content : String

namespace Description

def empty : Description :=
  ⟨.of "", ""⟩

def onHeader (f : Header -> Header) (d : Description) : Description :=
  { d with header := f d.header }

def indexSlot : Slot Description :=
  .required "index" Reading.string fun s => onHeader fun h => { h with index := s }

def idSlot : Slot Description :=
  .defaulted "id" (Reading.option Reading.string) fun s => onHeader fun h => { h with id := s }

def typeSlot : Slot Description :=
  .defaulted "content_type" (Reading.option Reading.string) fun s =>
    onHeader fun h => { h with contentType := s }

def fieldsSlot : Slot Description :=
  .defaulted "index_fields" Reading.fields fun fs => onHeader fun h => { h with fields := fs }

/-- A slot for the content, which has one or two names. -/
def contentSlot (names : List String) : Slot Description :=
  ⟨names, true, fun t d => (Reading.string t).map fun s => { d with content := s }⟩

/-- Content stored before is given by its identity. -/
def referenceReading : Reading Description :=
  Reading.record [indexSlot, idSlot, contentSlot ["content_id", "hash"], typeSlot, fieldsSlot] empty

def textReading : Reading Description :=
  Reading.record [indexSlot, idSlot, contentSlot ["content"], typeSlot, fieldsSlot] empty

/-- A description that accompanies a file. -/
def fileReading : Reading Description :=
  Reading.record [indexSlot, idSlot, typeSlot, fieldsSlot] empty

end Description

/-!
# Forms
-/

/-- The parts of a form that count; of several with one name, the last. -/
structure Form where
  header : Option Header
  file : Option (Bytes × Option String)

/-- The type of a file, unless it is the one that says nothing. -/
def fileType (part : Http.Part) : Option String :=
  (part.contentType.map MediaType.text).filter (· != "application/octet-stream")

/-- Takes up a part. -/
def Form.add (form : Form) (part : Http.Part) : Except Refusal Form :=
  match part.name with
  | some "request" =>
      match JsonText.readBytesAs Description.fileReading part.content with
      | .ok d => .ok { form with header := some d.header }
      | .error _ => .error (.badRequest ("invalid request part: " ++ withheld))
  | some "file" => .ok { form with file := some (part.content, fileType part) }
  | _ => .ok form

/-- Takes up parts in order; what is wrong with the form itself is noticed last. -/
def Form.ofMultipart (m : Http.Multipart) : Except Refusal Form := do
  let form ← m.parts.foldlM Form.add ⟨none, none⟩
  if m.complete then pure form else throw (.badRequest withheld)

/-- The request to index the file of a form; the description may give its type. -/
def Form.indexRequest (form : Form) : Except Refusal IndexRequest :=
  let missing (part : String) : Refusal :=
    .error (.validation ("multipart part '" ++ part ++ "' is required"))
  match form.header, form.file with
  | none, _ => .error (missing "request")
  | some _, none => .error (missing "file")
  | some header, some (content, type) =>
      .ok (.store { header with contentType := header.contentType.or type } (.bytes content))

/-- The request to index that a form in the body of a request stands for. -/
def formRequest (limit : Nat) (r : Request) : Except Refusal IndexRequest := do
  match r.boundary? with
  | none => throw (.plain 400 "Invalid `boundary` for `multipart/form-data` request")
  | some boundary =>
      if limit < r.body.length then throw (.badRequest withheld)
      let form ← Form.ofMultipart (Http.Multipart.read boundary r.body)
      form.indexRequest

end Api
end ContentGateway
