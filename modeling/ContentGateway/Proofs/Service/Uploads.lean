import ContentGateway.Proofs.ContentType
import ContentGateway.Proofs.Service.Indexing
import ContentGateway.Proofs.Stream

/-!
# Ways to upload content

Content may come as bytes, as a text, or as a stream in any number of pieces.  What is
stored and indexed is the same, since the type of content shows in its first bytes and a
stream that has been read ahead still delivers all of them.  A stream is stored whole or
not at all.
-/

namespace ContentGateway

theorem BlobStore.fst_write (s : BlobStore) (content : Bytes) :
    (s.write content).1 = contentId content := by
  unfold BlobStore.write
  simp only
  split
  · rfl
  · rfl

theorem BlobStore.get?_write (s : BlobStore) (content : Bytes) (id : String) :
    Table.get? (s.write content).2.blobs id =
      (Table.get? s.blobs id).or (if contentId content = id then some content else none) := by
  unfold BlobStore.write
  simp only
  split
  · next hpresent =>
      split
      · next hid =>
          rcases Option.isSome_iff_exists.mp hpresent with ⟨kept, hkept⟩
          rw [← hid, hkept]
          rfl
      · rw [Option.or_none]
  · next habsent =>
      rw [Table.get?_insert]
      split
      · next hid =>
          have hnone : Table.get? s.blobs id = none :=
            hid ▸ Option.not_isSome_iff_eq_none.mp habsent
          rw [hnone]
          rfl
      · rw [Option.or_none]

namespace Service

open Depot

def indexed (d : Depot) (request : IndexRequest) : Except Failure IndexResponse × Depot :=
  indexAndReplicate (backends d.replicaNames) request d

/-!
# Streams without failures
-/

theorem inspected_ofPieces (s : BlobStore) (pieces : List Bytes) (declared : Option String) :
    s.keep (inspected (.stream (.ofPieces pieces)) declared).1 = .ok (s.write pieces.flatten) ∧
      (inspected (.stream (.ofPieces pieces)) declared).2 =
        (inspected (.bytes pieces.flatten) declared).2 := by
  cases declared with
  | some type =>
      constructor
      · show s.writeStream (.ofPieces pieces) = _
        unfold BlobStore.writeStream
        rw [Stream.content?_ofPieces]
      · rfl
  | none =>
      rcases Stream.peek_ofPieces ContentType.sampleSize pieces with ⟨hhead, hreplay⟩
      constructor
      · show s.writeStream ((Stream.ofPieces pieces).peek ContentType.sampleSize).2 = _
        unfold BlobStore.writeStream
        rw [hreplay]
      · show ContentType.sniff ((Stream.ofPieces pieces).peek ContentType.sampleSize).1 =
          ContentType.sniff pieces.flatten
        rw [hhead, ContentType.sniff_sample]

theorem stored_ofPieces {d : Depot}
    (hfault : d.fault "storage.write_stream" = d.fault "storage.write") (pieces : List Bytes)
    (declared : Option String) :
    d.stored (.stream (.ofPieces pieces)) declared = d.stored (.bytes pieces.flatten) declared := by
  rcases inspected_ofPieces d.blobs pieces (nonBlank declared) with ⟨hkeep, htype⟩
  have hcall : d.fault (Source.stream (.ofPieces pieces)).call =
      d.fault (Source.bytes pieces.flatten).call := hfault
  unfold stored written
  rw [call_inspected, call_inspected, hkeep, htype, hcall]
  rfl

/-!
# Requests that differ in the call that writes
-/

/-- The same answer and the same depot, apart from the calls in the journal. -/
def Alike (one other : Except Failure IndexResponse × Depot) : Prop :=
  one.1 = other.1 ∧ exists journal, one.2 = { other.2 with journal := journal }

theorem indexed_of_invalid {request : IndexRequest} {failure : Failure}
    (h : validate request = .error failure) (d : Depot) :
    indexed d request = (.error failure, d) := by
  unfold indexed indexAndReplicate index
  rw [h]
  rfl

theorem settled_documented (d : Depot) (calls other : List String) (stored : Stored)
    (catalog : Catalog) (job : Replication) :
    exists journal, settled (documented d calls stored catalog) job =
      { settled (documented d other stored catalog) job with journal := journal } := by
  have hpinned : allPinned (documented d calls stored catalog) job.contentId =
      allPinned (documented d other stored catalog) job.contentId := rfl
  unfold settled
  rw [hpinned]
  split
  · exact ⟨_, rfl⟩
  · exact ⟨_, rfl⟩

theorem alike_of_obtained {d : Depot} {request other : IndexRequest}
    (hvalid : validate request = validate other) (hheader : request.header? = other.header?)
    (hobtained : d.obtained request = d.obtained other) :
    Alike (indexed d request) (indexed d other) := by
  cases hvalidity : validate other with
  | error failure =>
      rw [indexed_of_invalid (hvalid.trans hvalidity), indexed_of_invalid hvalidity]
      exact ⟨rfl, d.journal, rfl⟩
  | ok _ =>
      unfold indexed
      rw [indexAndReplicate_apply (hvalid.trans hvalidity), indexAndReplicate_apply hvalidity,
        hobtained, hheader]
      cases d.obtained other with
      | error failure => exact ⟨rfl, _, rfl⟩
      | ok stored =>
          cases other.header? with
          | none => exact ⟨rfl, _, rfl⟩
          | some header =>
              simp only
              cases d.entered header stored with
              | error failure => exact ⟨rfl, _, rfl⟩
              | ok answer => exact ⟨rfl, settled_documented d _ _ stored _ _⟩

/-!
# Streams with failures
-/

def unreadable : Failure :=
  .technical "Error whilst reading the content stream" (some Stream.brokenText)

/-- A look at a stream does not change what is written, if anything is. -/
theorem keep_inspected_stream (s : BlobStore) (content : Stream) (declared : Option String) :
    s.keep (inspected (.stream content) declared).1 = .error unreadable ∨
      (content.endless = false ∧
        s.keep (inspected (.stream content) declared).1 = .ok (s.write content.delivered)) := by
  have hwrite : forall replay : Stream,
      replay.endless = content.endless -> replay.delivered = content.delivered ->
        s.writeStream replay = .error unreadable ∨
          (content.endless = false ∧ s.writeStream replay = .ok (s.write content.delivered)) := by
    intro replay hendless hdelivered
    unfold BlobStore.writeStream
    cases hcontent : replay.content? with
    | none => exact Or.inl rfl
    | some bytes =>
        rcases Stream.eq_delivered_of_content? hcontent with ⟨hends, hwhole⟩
        exact Or.inr ⟨hendless.symm.trans hends, by rw [hwhole, hdelivered]⟩
  cases declared with
  | some type => exact hwrite content rfl rfl
  | none =>
      exact hwrite _ (Stream.endless_peek _ content) (Stream.delivered_peek _ content)

/-- Requests that upload a stream, to be indexed or only to be stored. -/
inductive Uploads (content : Stream) : IndexRequest -> Prop where
  | store (header : Header) : Uploads content (.store header (.stream content))
  | storeOnly : Uploads content (.storeOnly (.stream content))

inductive Kept (d : Depot) (content : Stream) (request : IndexRequest)
    (outcome : Except Failure IndexResponse × Depot) : Prop where
  /-- Only the journal has grown, since the stream, the request or the call has failed. -/
  | unchanged (failure : Failure) (calls : List String) :
      failure = unreadable ∨ validate request = .error failure ∨
        d.fault "storage.write_stream" = .error failure ->
      outcome = (.error failure, d.journaled calls) ->
      Kept d content request outcome
  /-- All that the stream delivers can be read, or what was there under its identity before. -/
  | whole :
      content.endless = false ->
      outcome.2.blobs = (d.blobs.write content.delivered).2 ->
      Table.get? outcome.2.blobs.blobs (contentId content.delivered) =
        (Table.get? d.blobs.blobs (contentId content.delivered)).or (some content.delivered) ->
      (forall response, outcome.1 = .ok response ->
        response.contentId = contentId content.delivered) ->
      Kept d content request outcome

theorem obtained_of_uploads {content : Stream} {request : IndexRequest}
    (h : Uploads content request) (d : Depot) :
    exists declared, d.obtained request = d.stored (.stream content) declared := by
  cases h with
  | store header => exact ⟨header.contentType, rfl⟩
  | storeOnly => exact ⟨none, rfl⟩

theorem indexed_of_obtained {d : Depot} {request : IndexRequest} {stored : Stored}
    (hvalid : validate request = .ok ()) (hobtained : d.obtained request = .ok stored) :
    (indexed d request).2.blobs = stored.blobs ∧
      forall response, (indexed d request).1 = .ok response ->
        response.contentId = stored.contentId := by
  have heffects := index_effects hvalid d
  unfold indexed
  cases hheader : request.header? with
  | none =>
      rw [heffects.storedOnly hobtained hheader]
      refine ⟨rfl, ?_⟩
      intro response hresponse
      cases hresponse
      rfl
  | some header =>
      cases hentered : d.entered header stored with
      | error failure =>
          rw [heffects.unentered hobtained hheader hentered]
          refine ⟨rfl, ?_⟩
          intro response hresponse
          cases hresponse
      | ok answer =>
          have hfollowed := heffects.entered hobtained hheader hentered
          refine ⟨hfollowed.others.1, ?_⟩
          intro response hresponse
          rw [hfollowed.answer] at hresponse
          cases hresponse
          rfl

theorem kept_of_uploads {content : Stream} {request : IndexRequest}
    (h : Uploads content request) (d : Depot) : Kept d content request (indexed d request) := by
  cases hvalid : validate request with
  | error failure =>
      exact .unchanged failure [] (Or.inr (Or.inl hvalid)) (indexed_of_invalid hvalid d)
  | ok _ =>
      have heffects := index_effects hvalid d
      rcases obtained_of_uploads h d with ⟨declared, hobtained⟩
      unfold stored written at hobtained
      rw [call_inspected] at hobtained
      cases hfault : d.fault "storage.write_stream" with
      | error failure =>
          have hfault' : d.fault (Source.stream content).call = .error failure := hfault
          rw [hfault'] at hobtained
          exact .unchanged failure _ (Or.inr (Or.inr hfault)) (heffects.unwritten hobtained)
      | ok _ =>
          have hfault' : d.fault (Source.stream content).call = .ok () := hfault
          rw [hfault'] at hobtained
          simp only at hobtained
          rcases keep_inspected_stream d.blobs content (nonBlank declared) with
            hkeep | ⟨hends, hkeep⟩
          · rw [hkeep] at hobtained
            exact .unchanged unreadable _ (Or.inl rfl) (heffects.unwritten hobtained)
          · rw [hkeep] at hobtained
            rcases indexed_of_obtained hvalid hobtained with ⟨hblobs, hnamed⟩
            refine .whole hends hblobs ?_ ?_
            · rw [hblobs]
              show Table.get? (d.blobs.write content.delivered).2.blobs _ = _
              rw [BlobStore.get?_write, if_pos rfl]
            · intro response hresponse
              rw [hnamed response hresponse]
              exact d.blobs.fst_write content.delivered

/--
The ways to upload content agree: bytes, a text and a stream without failures leave the same
answer and the same depot, where the storage is as ready for streams as for bytes.  Any other
stream is stored whole or leaves nothing behind.
-/
theorem upload_agrees (d : Depot) :
    (d.fault "storage.write_stream" = d.fault "storage.write" ->
      forall (header : Header) (pieces : List Bytes),
        Alike (indexed d (.store header (.stream (.ofPieces pieces))))
            (indexed d (.store header (.bytes pieces.flatten))) ∧
          Alike (indexed d (.storeOnly (.stream (.ofPieces pieces))))
            (indexed d (.storeOnly (.bytes pieces.flatten)))) ∧
      (forall (header : Header) (text : String),
        indexed d (.text header text) =
          indexed d (.store header (.bytes (Utf8.ofString text)))) ∧
      forall (content : Stream) (request : IndexRequest),
        Uploads content request -> Kept d content request (indexed d request) := by
  refine ⟨?_, ?_, ?_⟩
  · intro hfault header pieces
    constructor
    · exact alike_of_obtained rfl rfl (stored_ofPieces hfault pieces header.contentType)
    · exact alike_of_obtained rfl rfl (stored_ofPieces hfault pieces none)
  · intro header text
    rfl
  · intro content request h
    exact kept_of_uploads h d

theorem upload_agrees_refusingPair :
    refusingPair.fault "storage.write_stream" = refusingPair.fault "storage.write" ∧
      Alike
        (indexed refusingPair
          (.store (Header.of "files") (.stream (.ofPieces [[104], [], [105]]))))
        (indexed refusingPair (.store (Header.of "files") (.bytes [104, 105]))) ∧
      Uploads (.failing [[104], [105]] 1 (some 1))
        (.storeOnly (.stream (.failing [[104], [105]] 1 (some 1)))) ∧
      Kept refusingPair (.failing [[104], [105]] 1 (some 1))
        (.storeOnly (.stream (.failing [[104], [105]] 1 (some 1))))
        (indexed refusingPair (.storeOnly (.stream (.failing [[104], [105]] 1 (some 1))))) ∧
      (indexed refusingPair
        (.storeOnly (.stream (.failing [[104], [105]] 1 (some 1))))).2.blobs =
          (BlobStore.empty.write [104, 105]).2 := by
  rcases upload_agrees refusingPair with ⟨hpieces, _, hstreams⟩
  exact ⟨rfl, (hpieces rfl (Header.of "files") [[104], [], [105]]).1, .storeOnly,
    hstreams _ _ .storeOnly, rfl⟩

end Service
end ContentGateway
