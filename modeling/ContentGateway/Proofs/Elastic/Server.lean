import ContentGateway.Elastic.Engine
import ContentGateway.Proofs.Table

/-!
# A server that keeps documents

What the search engine is expected to do with the requests that change and show single
documents: it keeps, for every index and id, the fields that were sent last.  A server is
reached over a network and tells the addresses of its documents apart.
-/

namespace ContentGateway
namespace Elastic

inductive Target where
  | index (name : String)
  | document (name id : String)
  | update (name id : String)
  deriving DecidableEq

def Target.segments : Target -> List String
  | .index name => [name]
  | .document name id => [name, "_doc", id]
  | .update name id => [name, "_update", id]

/-- The fields under each id of each index. -/
structure Server where
  indices : Table (Table Fields)

namespace Server

def empty : Server :=
  ⟨[]⟩

def source? (s : Server) (index id : String) : Option Fields :=
  (Table.get? s.indices index).bind fun documents => Table.get? documents id

def has (s : Server) (index : String) : Bool :=
  Table.contains s.indices index

def change (s : Server) (index : String) (f : Table Fields -> Table Fields) : Server :=
  ⟨Table.insert s.indices index (f ((Table.get? s.indices index).getD []))⟩

def create (s : Server) (index : String) : Server :=
  s.change index fun documents => documents

def store (s : Server) (index id : String) (source : Fields) : Server :=
  s.change index fun documents => Table.insert documents id source

def erase (s : Server) (index id : String) : Server :=
  s.change index fun documents => Table.erase documents id

/-- The fields after an update: those of `doc` over the old ones, or one that a script sets. -/
def updated? (source : Fields) (body : Json) : Option Fields :=
  match body.member? "doc", (body.member? "script").bind fun script => script.member? "params" with
  | some (.object doc), _ => some (Table.extend source doc)
  | _, some params =>
      match params.member? "key", params.member? "value" with
      | some (.string key), some value => some (Table.insert source key value)
      | _, _ => none
  | _, none => none

/-!
# Look-ups after a change
-/

theorem get?_documents (s : Server) (index id : String) :
    Table.get? ((Table.get? s.indices index).getD []) id = s.source? index id := by
  unfold source?
  cases Table.get? s.indices index with
  | none => rfl
  | some documents => rfl

theorem source?_change (s : Server) (index : String) (f : Table Fields -> Table Fields)
    (i id : String) :
    (s.change index f).source? i id =
      if index = i then Table.get? (f ((Table.get? s.indices index).getD [])) id
      else s.source? i id := by
  unfold source? change
  rw [Table.get?_insert]
  split
  · rfl
  · rfl

theorem has_change (s : Server) (index : String) (f : Table Fields -> Table Fields)
    (i : String) : (s.change index f).has i = (decide (index = i) || s.has i) := by
  unfold has change Table.contains
  rw [Table.get?_insert]
  by_cases h : index = i
  · simp [h]
  · simp [h]

theorem source?_create (s : Server) (index i id : String) :
    (s.create index).source? i id = s.source? i id := by
  unfold create
  rw [source?_change]
  split
  · next h =>
      rw [get?_documents, h]
  · rfl

theorem source?_store (s : Server) (index id : String) (source : Fields) (i j : String) :
    (s.store index id source).source? i j =
      if index = i ∧ id = j then some source else s.source? i j := by
  unfold store
  rw [source?_change]
  by_cases hi : index = i
  · subst hi
    simp only [if_true, true_and, Table.get?_insert, get?_documents]
  · simp [hi]

theorem source?_erase (s : Server) (index id i j : String) :
    (s.erase index id).source? i j =
      if index = i ∧ id = j then none else s.source? i j := by
  unfold erase
  rw [source?_change]
  by_cases hi : index = i
  · subst hi
    simp only [if_true, true_and, Table.get?_erase, get?_documents]
  · simp [hi]

end Server

/-!
# The server on the network
-/

/-- Where a server keeps what, and how it writes its answers. -/
structure Host where
  route : UrlPath -> Option Target
  text : Json -> Bytes

namespace Host

def shown (index id : String) (source : Fields) : Json :=
  .object [("_id", .string id), ("_index", .string index), ("_source", .object source),
    ("found", .bool true)]

def done : Http.Response :=
  ⟨200, []⟩

def missing : Http.Response :=
  ⟨404, []⟩

def refused : Http.Response :=
  ⟨400, []⟩

def answer (h : Host) (s : Server) : Target -> String -> Http.Body -> Http.Response × Server
  | .index name, "HEAD", _ => (if s.has name then done else missing, s)
  | .index name, "PUT", _ => (done, s.create name)
  | .document index id, "GET", _ =>
      match s.source? index id with
      | none => (missing, s)
      | some source => (⟨200, h.text (shown index id source)⟩, s)
  | .document index id, "PUT", .json (.object source) => (done, s.store index id source)
  | .document index id, "DELETE", _ =>
      match s.source? index id with
      | none => (missing, s)
      | some _ => (done, s.erase index id)
  | .update index id, "POST", .json body =>
      match s.source? index id with
      | none => (missing, s)
      | some source =>
          match Server.updated? source body with
          | some source => (done, s.store index id source)
          | none => (refused, s)
  | _, _, _ => (refused, s)

def network (h : Host) : Http.Network Server where
  send request _ := fun s =>
    match h.route request.url.path with
    | none => (.ok missing, s)
    | some target =>
        (.ok (h.answer s target request.method request.body).1,
          (h.answer s target request.method request.body).2)
  pause _ := pure ()

def engine (h : Host) (settings : Settings) (freshId : StateM Server String) : Engine Server :=
  ⟨h.network, settings, freshId⟩

def Members (index id : String) (inner : Tree) (members : List (Option String × Tree)) : Prop :=
  members.Perm [(some "_index", .string (some index)), (some "_id", .string (some id)),
    (some "found", .bool true), (some "_source", inner)]

/-- The server shows its documents in well-formed texts that say what it keeps. -/
def Shows (h : Host) (s : Server) : Prop :=
  forall index id source, s.source? index id = some source ->
    exists members inner,
      JsonText.tree (Utf8.glyphs (h.text (shown index id source))) = (.object members true, true) ∧
      Members index id inner members ∧ inner.toJson = .ok (.object source)

/-- The server knows what the address stands for that the engine uses for a target. -/
def Finds (h : Host) (settings : Settings) (target : Target) : Prop :=
  ((settings.url.extend? target.segments).bind fun url => h.route url.path) = some target

end Host

def Settings.IsWeb (settings : Settings) : Prop :=
  Http.Request.isSendable ⟨"GET", settings.url, [], .none⟩ = true

/-!
# Addresses
-/

def address? (settings : Settings) (target : Target) : Option UrlPath :=
  (settings.url.extend? target.segments).map Url.path

theorem Host.finds_iff {h : Host} {settings : Settings} {target : Target} :
    h.Finds settings target ↔
      exists path, address? settings target = some path ∧ h.route path = some target := by
  unfold Host.Finds address?
  cases settings.url.extend? target.segments with
  | none => simp
  | some url => simp

/-- A server can find some targets exactly if each one has an address of its own. -/
theorem exists_finds_iff (settings : Settings) (text : Json -> Bytes) (targets : List Target) :
    (exists route, forall target, target ∈ targets -> Host.Finds ⟨route, text⟩ settings target) ↔
      forall target, target ∈ targets -> (address? settings target).isSome = true ∧
        forall other, other ∈ targets ->
          address? settings other = address? settings target -> other = target := by
  constructor
  · intro h
    rcases h with ⟨route, hfinds⟩
    intro target htarget
    rcases Host.finds_iff.mp (hfinds target htarget) with ⟨path, haddress, hroute⟩
    constructor
    · rw [haddress]
      rfl
    · intro other hother hsame
      rcases Host.finds_iff.mp (hfinds other hother) with ⟨path', haddress', hroute'⟩
      rw [hsame, haddress, Option.some.injEq] at haddress'
      rw [← haddress', hroute, Option.some.injEq] at hroute'
      exact hroute'.symm
  · intro h
    let route : UrlPath -> Option Target :=
      fun path => targets.find? fun target => decide (address? settings target = some path)
    exists route
    intro target htarget
    rcases h target htarget with ⟨hsome, hunique⟩
    rcases Option.isSome_iff_exists.mp hsome with ⟨path, haddress⟩
    apply Host.finds_iff.mpr
    exists path
    refine ⟨haddress, ?_⟩
    cases hfound : targets.find? fun target => decide (address? settings target = some path) with
    | none =>
        have hnone := List.find?_eq_none.mp hfound target htarget
        rw [decide_eq_true haddress] at hnone
        exact absurd rfl hnone
    | some other =>
        have hother := List.find?_some hfound
        rw [decide_eq_true_eq] at hother
        have hsame : other = target :=
          hunique other (List.mem_of_find?_eq_some hfound) (hother.trans haddress.symm)
        rw [← hsame]
        exact hfound

end Elastic
end ContentGateway
