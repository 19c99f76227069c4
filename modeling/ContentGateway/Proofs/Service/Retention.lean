import ContentGateway.Proofs.Depot.Parallel
import ContentGateway.Proofs.Service.Runs
import ContentGateway.Proofs.Service.Uploads
import Mathlib.Data.List.Dedup

/-!
# Content stays

Content is stored under its identity, and nothing that is called later changes or removes it.
So a storage that starts empty holds under each identity what was written when a write first
answered with it.
-/

namespace ContentGateway

open ContentGateway.Action

/-!
# The blob store
-/

def Source.delivered : Source -> Bytes
  | .bytes content => content
  | .stream content => content.delivered

def IndexRequest.upload? : IndexRequest -> Option (Source × Option String)
  | .store header content => some (content, header.contentType)
  | .text header content => some (.bytes (Utf8.ofString content), header.contentType)
  | .storeOnly content => some (content, none)
  | .reference _ _ => none

theorem BlobStore.keep_cases (s : BlobStore) (content : Source) :
    (exists failure, s.keep content = .error failure) ∨
      s.keep content = .ok (s.write content.delivered) := by
  cases content with
  | bytes content => exact Or.inr rfl
  | stream content =>
      show (exists failure, s.writeStream content = .error failure) ∨
        s.writeStream content = .ok (s.write content.delivered)
      unfold BlobStore.writeStream
      cases hcontent : content.content? with
      | none => exact Or.inl ⟨_, rfl⟩
      | some bytes =>
          rw [(Stream.eq_delivered_of_content? hcontent).2]
          exact Or.inr rfl

/--
What a storage holds after writes that have answered with an identity for the content given:
under each identity what was first written under it.
-/
structure Retained (writes : List (String × Bytes)) (blobs : Table Bytes) : Prop where
  ordered : Table.Ordered blobs
  first : forall id, Table.get? blobs id = writes.lookup id
  named : forall w, w ∈ writes -> w.1 = contentId w.2

theorem retained_nil : Retained [] [] where
  ordered := List.Pairwise.nil
  first _ := rfl
  named _ hw := nomatch hw

namespace Retained

variable {writes : List (String × Bytes)}

theorem write {s : BlobStore} (h : Retained writes s.blobs) (content : Bytes) :
    Retained (writes ++ [(contentId content, content)]) (s.write content).2.blobs where
  ordered := by
    unfold BlobStore.write
    simp only
    split
    · exact h.ordered
    · exact h.ordered.insert _ _
  first id := by
    rw [BlobStore.get?_write, List.lookup_append, ← h.first id, List.lookup_cons, List.lookup_nil]
    by_cases hid : id = contentId content
    · rw [if_pos hid.symm, hid, beq_self_eq_true]
    · rw [if_neg (Ne.symm hid), beq_eq_false_iff_ne.mpr hid]
  named w hw := by
    rcases List.mem_append.mp hw with hw | hw
    · exact h.named w hw
    · rw [List.mem_singleton.mp hw]

theorem keyed {blobs : Table Bytes} (h : Retained writes blobs) {id : String} {content : Bytes}
    (hget : Table.get? blobs id = some content) : id = contentId content := by
  rw [h.first, List.lookup_eq_some_iff] at hget
  rcases hget with ⟨before, after, rfl, -⟩
  exact h.named (id, content) (List.mem_append_right _ (List.mem_cons_self ..))

theorem length_eq {blobs : Table Bytes} (h : Retained writes blobs) :
    blobs.length = (writes.map Prod.fst).dedup.length := by
  have hperm : (Table.keys blobs).Perm (writes.map Prod.fst).dedup := by
    rw [List.perm_ext_iff_of_nodup h.ordered.nodup_keys (List.nodup_dedup _)]
    intro id
    rw [List.mem_dedup, List.mem_map, ← Table.contains_iff_mem_keys]
    unfold Table.contains
    rw [h.first, List.lookup_isSome_iff]
    constructor
    · rintro ⟨w, hw, hid⟩
      exact ⟨w, hw, (beq_iff_eq.mp hid).symm⟩
    · rintro ⟨w, hw, hid⟩
      exact ⟨w, hw, beq_iff_eq.mpr hid.symm⟩
  rw [← hperm.length_eq]
  exact (List.length_map _).symm

/-- No two of the written contents have the same identity. -/
def Distinct (writes : List (String × Bytes)) : Prop :=
  forall w w', w ∈ writes -> w' ∈ writes -> contentId w.2 = contentId w'.2 -> w.2 = w'.2

theorem get?_of_distinct {blobs : Table Bytes} (h : Retained writes blobs)
    (hdistinct : Distinct writes) {w : String × Bytes} (hw : w ∈ writes) :
    Table.get? blobs w.1 = some w.2 := by
  rw [h.first]
  have hfound : (writes.lookup w.1).isSome :=
    List.lookup_isSome_iff.mpr ⟨w, hw, beq_self_eq_true _⟩
  rcases Option.isSome_iff_exists.mp hfound with ⟨content, hcontent⟩
  have hkept : (w.1, content) ∈ writes := by
    rcases List.lookup_eq_some_iff.mp hcontent with ⟨before, after, hwrites, -⟩
    rw [hwrites]
    exact List.mem_append_right _ (List.mem_cons_self ..)
  have hid : contentId w.2 = contentId content :=
    (h.named w hw).symm.trans (h.named _ hkept)
  rw [hcontent, hdistinct w _ hw hkept hid]

end Retained

/-!
# Calls that store nothing
-/

namespace Depot

open Service

def Holding (blobs : Table Bytes) (d : Depot) : Prop :=
  d.blobs.blobs = blobs

theorem holding_respected (blobs : Table Bytes) : Respected (Same (Holding blobs)) :=
  respected_same (fun _ _ hd => hd) (fun _ _ hd => hd) (fun _ _ hd => hd)
    fun _ _ hsame hd => hsame.trans hd

/-!
# Calls that store content
-/

theorem stored_cases (d : Depot) (content : Source) (declared : Option String) :
    (exists failure, d.stored content declared = .error failure) ∨
      d.stored content declared =
        .ok ⟨contentId content.delivered, (inspected content (nonBlank declared)).2,
          (d.blobs.write content.delivered).2⟩ := by
  have hdelivered : (inspected content (nonBlank declared)).1.delivered = content.delivered := by
    cases content with
    | bytes content => rfl
    | stream content =>
        cases nonBlank declared with
        | none => exact Stream.delivered_peek _ content
        | some type => rfl
  unfold stored written
  cases d.fault (inspected content (nonBlank declared)).1.call with
  | error failure => exact Or.inl ⟨failure, rfl⟩
  | ok _ =>
      simp only
      rcases d.blobs.keep_cases (inspected content (nonBlank declared)).1 with ⟨f, hf⟩ | hkept
      · rw [hf]
        exact Or.inl ⟨f, rfl⟩
      · apply Or.inr
        rw [hkept, hdelivered, ← d.blobs.fst_write content.delivered]
        rfl

theorem obtained_upload {request : IndexRequest} {content : Source} {declared : Option String}
    (h : request.upload? = some (content, declared)) (d : Depot) :
    d.obtained request = d.stored content declared := by
  cases request with
  | store | text | storeOnly =>
      cases h
      rfl
  | reference header contentId => cases h

/-- What a use of the storage answered with and was given; it has stored this or found it stored. -/
def Stores (d d' : Depot) (answered : Option (String × Bytes)) : Prop :=
  match answered with
  | none => d'.blobs.blobs = d.blobs.blobs
  | some w => w.1 = contentId w.2 ∧ d'.blobs.blobs = (d.blobs.write w.2).2.blobs

def answeredBy (result : Except Failure String × Depot) (content : Source) :
    Option (String × Bytes) :=
  result.1.toOption.map fun id => (id, content.delivered)

theorem stores_keep (names : List String) (content : Source) (d : Depot) :
    Stores d (keep (storage names) content d).2
      (answeredBy (keep (storage names) content d) content) := by
  rw [keep_apply]
  unfold written
  cases d.fault content.call with
  | error failure => exact rfl
  | ok _ =>
      simp only
      rcases d.blobs.keep_cases content with ⟨failure, hfailed⟩ | hkept
      · rw [hfailed]
        exact rfl
      · rw [hkept]
        exact ⟨d.blobs.fst_write content.delivered, rfl⟩

theorem read_apply {d : Depot} {id : String} {content : Bytes}
    (h : Table.get? d.blobs.blobs id = some content) :
    (Depot.read id d).1 = (d.fault "storage.read").map fun _ => content := by
  have hread : d.blobs.read id = .ok content := by
    unfold BlobStore.read
    rw [h]
  rw [read_run, hread]
  cases d.fault "storage.read" with
  | error failure => rfl
  | ok _ => rfl

end Depot

/-!
# Uses of a depot
-/

namespace Service

open Depot

inductive Use where
  | operation (operation : Operation)
  | indexNames
  | write (content : Bytes)
  | writeStream (content : Stream)
  | read (id : String)
  /-- A read that is given up before it answers. -/
  | abandonedRead (id : String)
  | readAll (ids : List String)
  | pin (id : String)
  | unpin (id : String)
  | pinned
  | check

def use (d : Depot) : Use -> Depot
  | .operation operation => perform operation d
  | .indexNames => (indexNames (backends d.replicaNames) d).2
  | .write content => ((storage d.replicaNames).write content d).2
  | .writeStream content => ((storage d.replicaNames).writeStream content d).2
  | .read id => ((storage d.replicaNames).read id d).2
  | .abandonedRead id => (beginRead id d).2
  | .readAll ids => ((storage d.replicaNames).readAll ids d).2
  | .pin id => ((storage d.replicaNames).pin id d).2
  | .unpin id => ((storage d.replicaNames).unpin id d).2
  | .pinned => ((storage d.replicaNames).pinned d).2
  | .check => ((storage d.replicaNames).check d).2

def answeredIndexing (d : Depot) (request : IndexRequest) : Option (String × Bytes) :=
  match validate request, request.upload? with
  | .ok _, some (content, declared) =>
      answeredBy ((Prod.fst <$> store (backends d.replicaNames) content declared) d) content
  | _, _ => none

def answered (d : Depot) : Use -> Option (String × Bytes)
  | .write content => answeredBy ((storage d.replicaNames).write content d) (.bytes content)
  | .writeStream content =>
      answeredBy ((storage d.replicaNames).writeStream content d) (.stream content)
  | .operation (.index request) => answeredIndexing d request
  | _ => none

theorem stores_indexed (request : IndexRequest) (d : Depot) :
    Stores d (indexed d request).2 (answeredIndexing d request) := by
  unfold answeredIndexing
  cases hvalid : validate request with
  | error failure =>
      rw [indexed_of_invalid hvalid]
      exact rfl
  | ok _ =>
      cases hupload : request.upload? with
      | none =>
          cases request with
          | reference header contentId =>
              exact congrArg BlobStore.blobs (indexed_of_obtained hvalid rfl).1
          | store | text | storeOnly => cases hupload
      | some upload =>
          rcases upload with ⟨content, declared⟩
          have hobtained := obtained_upload hupload d
          show Stores d (indexed d request).2
            (answeredBy ((Prod.fst <$> store (backends d.replicaNames) content declared) d) content)
          rw [Action.map_apply, store_apply]
          -- only the write matters: what fails after it takes nothing back
          rcases d.stored_cases content declared with ⟨failure, hfailed⟩ | hstored
          · rw [hfailed] at hobtained ⊢
            unfold indexed
            rw [(index_effects hvalid d).unwritten hobtained]
            exact rfl
          · rw [hstored] at hobtained ⊢
            exact ⟨rfl, congrArg BlobStore.blobs (indexed_of_obtained hvalid hobtained).1⟩

/-- A use stores what its write has answered with, and leaves all other content as it is. -/
theorem stores_use (d : Depot) (u : Use) : Stores d (use d u) (answered d u) := by
  have hparts := holding_respected d.blobs.blobs
  have hcalls := hparts.calls d.replicaNames
  have hstays : Holding d.blobs.blobs d := rfl
  cases u with
  | write content => exact stores_keep d.replicaNames (.bytes content) d
  | writeStream content => exact stores_keep d.replicaNames (.stream content) d
  | indexNames => exact hcalls.indexNames_operation.keeps hstays
  | read id => exact (hparts.read id).keeps hstays
  | abandonedRead id => exact (hparts.call _ _).keeps hstays
  | readAll ids => exact (hparts.readAll ids).keeps hstays
  | pin id =>
      refine ((hparts.call _ _).bind fun _ => hparts.onBlobs _ ?_).keeps hstays
      intro s answer s' hrun
      unfold BlobStore.pin at hrun
      split at hrun
      · cases hrun
        rfl
      · cases hrun
  | unpin id =>
      refine ((hparts.call _ _).bind fun _ => hparts.onBlobs _ ?_).keeps hstays
      intro s answer s' hrun
      cases hrun
      rfl
  | pinned =>
      refine ((hparts.call _ _).bind fun _ => hparts.onBlobs _ ?_).keeps hstays
      intro s answer s' hrun
      cases hrun
      rfl
  | check => exact hparts.check.keeps hstays
  | operation operation =>
      cases operation with
      | index request => exact stores_indexed request d
      | createIndex name configuration =>
          exact (hcalls.createIndex_operation name configuration).keeps hstays
      | deindex index id => exact (hcalls.deindex index id).keeps hstays
      | get request => exact (hcalls.get request).keeps hstays
      | search request => exact (hcalls.search_operation request).keeps hstays
      | updateField request => exact (hcalls.updateField request).keeps hstays
      | reconcile pageSize => exact (hcalls.runOnce pageSize).keeps hstays
      | fault faults => exact rfl
      | mood position refused failures stuck => exact rfl

/-!
# Runs of uses
-/

def useAll (d : Depot) (uses : List Use) : Depot :=
  uses.foldl use d

def answers : Depot -> List Use -> List (String × Bytes)
  | _, [] => []
  | d, u :: rest => (answered d u).toList ++ answers (use d u) rest

theorem retained_of_stores {d d' : Depot} {answered : Option (String × Bytes)}
    (h : Stores d d' answered) {writes : List (String × Bytes)}
    (hretained : Retained writes d.blobs.blobs) :
    Retained (writes ++ answered.toList) d'.blobs.blobs := by
  cases answered with
  | none =>
      have hsame : d'.blobs.blobs = d.blobs.blobs := h
      rw [hsame, Option.toList_none, List.append_nil]
      exact hretained
  | some w =>
      rcases w with ⟨id, content⟩
      rcases h with ⟨hid, hblobs⟩
      rw [hblobs, show id = contentId content from hid]
      exact hretained.write content

theorem retained_useAll {d : Depot} {writes : List (String × Bytes)}
    (h : Retained writes d.blobs.blobs) (uses : List Use) :
    Retained (writes ++ answers d uses) (useAll d uses).blobs.blobs := by
  induction uses generalizing d writes with
  | nil =>
      rw [answers, List.append_nil]
      exact h
  | cons u rest ih =>
      rw [answers, ← List.append_assoc]
      exact ih (retained_of_stores (stores_use d u) h)

theorem answers_append (d : Depot) (uses later : List Use) :
    answers d (uses ++ later) = answers d uses ++ answers (useAll d uses) later := by
  induction uses generalizing d with
  | nil => rfl
  | cons u rest ih =>
      rw [List.cons_append, answers, answers, ih, List.append_assoc]
      rfl

/--
A storage that starts empty, at any point of any run and later on: all content stands under
its own identity, none is changed or removed, and there is as much as identities have been
answered.  If no two written contents have the same identity, a read of an identity answers
with what was written.
-/
theorem content_retained (d : Depot) (uses later : List Use) :
    let start := d.withBlobs .empty
    let now := useAll start uses
    let afterwards := useAll start (uses ++ later)
    (forall id content, Table.get? now.blobs.blobs id = some content -> id = contentId content) ∧
      (forall id content, Table.get? now.blobs.blobs id = some content ->
        Table.get? afterwards.blobs.blobs id = some content) ∧
      now.blobs.blobs.length = ((answers start uses).map Prod.fst).dedup.length ∧
      (Retained.Distinct (answers start uses) ->
        forall id content, (id, content) ∈ answers start uses ->
          ((storage afterwards.replicaNames).read id afterwards).1 =
            (afterwards.fault "storage.read").map fun _ => content) := by
  intro start now afterwards
  have hnow : Retained (answers start uses) now.blobs.blobs :=
    @retained_useAll start [] retained_nil uses
  have hafter : Retained (answers start (uses ++ later)) afterwards.blobs.blobs :=
    @retained_useAll start [] retained_nil (uses ++ later)
  have hstays : forall id content, Table.get? now.blobs.blobs id = some content ->
      Table.get? afterwards.blobs.blobs id = some content := by
    intro id content hget
    rw [hafter.first, answers_append, List.lookup_append, ← hnow.first, hget]
    rfl
  refine ⟨fun id content => hnow.keyed, hstays, hnow.length_eq, ?_⟩
  intro hdistinct id content hwritten
  exact read_apply (hstays id content (hnow.get?_of_distinct hdistinct hwritten))

theorem content_retained_refusingPair :
    let start := refusingPair.withBlobs .empty
    let uses := [Use.writeStream (.ofPieces [[104], [105]]), .write [104, 105]]
    let later := [Use.unpin (contentId [104, 105]), .operation (.deindex "files" "1")]
    Retained.Distinct (answers start uses) ∧ (useAll start uses).blobs.blobs.length = 1 ∧
      ((storage ["first", "second"]).read (contentId [104, 105])
        (useAll start (uses ++ later))).1.toOption = some [104, 105] := by
  intro start uses later
  rcases content_retained refusingPair uses later with ⟨-, -, hlength, hread⟩
  have hanswers : answers start uses =
      [(contentId [104, 105], [104, 105]), (contentId [104, 105], [104, 105])] := by
    decide +kernel
  have hdistinct : Retained.Distinct (answers start uses) := by
    rw [hanswers]
    intro w w' hw hw' _
    simp only [List.mem_cons, List.not_mem_nil, or_false, or_self] at hw hw'
    rw [hw, hw']
  refine ⟨hdistinct, ?_, ?_⟩
  · rw [hlength, hanswers]
    decide +kernel
  · have hmem : (contentId [104, 105], [104, 105]) ∈ answers start uses := by
      rw [hanswers]
      exact List.mem_cons_self ..
    exact congrArg Except.toOption (hread hdistinct _ _ hmem)

end Service
end ContentGateway
