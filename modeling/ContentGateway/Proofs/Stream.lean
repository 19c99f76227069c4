import ContentGateway.Stream

/-!
# Reading streams ahead

A look at the first bytes of a stream neither loses nor reorders any of its pieces, also
when a read fails on the way.  Without failures it shows the first bytes of the content,
however the content is cut into pieces.
-/

namespace ContentGateway
namespace Stream

def joinPieces (reads : List (Option Bytes)) : Bytes :=
  reads.flatMap fun piece => piece.getD []

/-- Everything that a stream ever delivers, piece after piece. -/
def delivered (s : Stream) : Bytes :=
  joinPieces s.reads

theorem joinPieces_some (piece : Bytes) (rest : List (Option Bytes)) :
    joinPieces (some piece :: rest) = piece ++ joinPieces rest := rfl

theorem joinPieces_map_some (pieces : List Bytes) :
    joinPieces (pieces.map some) = pieces.flatten := by
  induction pieces with
  | nil => rfl
  | cons piece rest ih => rw [List.map_cons, joinPieces_some, ih, List.flatten_cons]

theorem delivered_ofPieces (pieces : List Bytes) :
    (ofPieces pieces).delivered = pieces.flatten :=
  joinPieces_map_some pieces

/-!
# The whole content
-/

theorem eq_joinPieces_of_joinReads {reads : List (Option Bytes)} {content : Bytes}
    (h : joinReads reads = some content) : content = joinPieces reads := by
  induction reads generalizing content with
  | nil =>
      cases h
      rfl
  | cons read rest ih =>
      cases read with
      | none => cases h
      | some piece =>
          rcases Option.map_eq_some_iff.mp h with ⟨after, hafter, rfl⟩
          rw [joinPieces_some, ih hafter]

theorem joinReads_map_some (pieces : List Bytes) :
    joinReads (pieces.map some) = some pieces.flatten := by
  induction pieces with
  | nil => rfl
  | cons piece rest ih =>
      rw [List.map_cons, joinReads, ih]
      rfl

/-- The content of a stream is all that it delivers, and then the stream ends. -/
theorem eq_delivered_of_content? {s : Stream} {content : Bytes} (h : s.content? = some content) :
    s.endless = false ∧ content = s.delivered := by
  unfold content? at h
  split at h
  · cases h
  · next hends => exact ⟨by simpa using hends, eq_joinPieces_of_joinReads h⟩

theorem eq_map_some_of_joinReads {reads : List (Option Bytes)} {content : Bytes}
    (h : joinReads reads = some content) :
    exists pieces : List Bytes, reads = pieces.map some ∧ pieces.flatten = content := by
  induction reads generalizing content with
  | nil =>
      cases h
      exact ⟨[], rfl, rfl⟩
  | cons read rest ih =>
      cases read with
      | none => cases h
      | some piece =>
          rcases Option.map_eq_some_iff.mp h with ⟨after, hafter, rfl⟩
          rcases ih hafter with ⟨pieces, rfl, rfl⟩
          exact ⟨piece :: pieces, rfl, rfl⟩

theorem eq_ofPieces_of_content? {s : Stream} {content : Bytes} (h : s.content? = some content) :
    exists pieces, s = ofPieces pieces ∧ pieces.flatten = content := by
  rcases s with ⟨reads, endless⟩
  have hends : endless = false := (eq_delivered_of_content? h).1
  subst hends
  rcases eq_map_some_of_joinReads h with ⟨pieces, rfl, hflatten⟩
  exact ⟨pieces, rfl, hflatten⟩

theorem content?_ofPieces (pieces : List Bytes) :
    (ofPieces pieces).content? = some pieces.flatten :=
  joinReads_map_some pieces

/-!
# Looking ahead
-/

theorem takeReads_append (count : Nat) (reads : List (Option Bytes)) :
    (takeReads count reads).1 ++ joinPieces (takeReads count reads).2 = joinPieces reads := by
  induction reads generalizing count with
  | nil => rfl
  | cons read rest ih =>
      cases read with
      | none =>
          rw [takeReads]
          split
          · rfl
          · rfl
      | some piece =>
          rw [takeReads]
          split
          · rfl
          · split
            · rw [List.append_assoc, ih, joinPieces_some]
            · rw [joinPieces_some, joinPieces_some, ← List.append_assoc, List.take_append_drop]

theorem takeReads_map_some (count : Nat) (pieces : List Bytes) :
    exists after : List Bytes, takeReads count (pieces.map some) =
      (pieces.flatten.take count, after.map some) := by
  induction pieces generalizing count with
  | nil => exact ⟨[], by rw [List.flatten_nil, List.take_nil]; rfl⟩
  | cons piece rest ih =>
      rw [List.map_cons, takeReads, List.flatten_cons]
      split
      · next hzero => exact ⟨piece :: rest, by rw [hzero, List.take_zero]; rfl⟩
      · split
        · next hwhole =>
            rcases ih (count - piece.length) with ⟨after, hafter⟩
            exact ⟨after, by rw [hafter, List.take_append, List.take_of_length_le hwhole]⟩
        · next hpart =>
            refine ⟨piece.drop count :: rest, ?_⟩
            rw [List.take_append_of_le_length (Nat.le_of_not_le hpart)]
            rfl

theorem delivered_peek (count : Nat) (s : Stream) : (s.peek count).2.delivered = s.delivered :=
  takeReads_append count s.reads

theorem endless_peek (count : Nat) (s : Stream) : (s.peek count).2.endless = s.endless := rfl

theorem peek_ofPieces (count : Nat) (pieces : List Bytes) :
    ((ofPieces pieces).peek count).1 = pieces.flatten.take count ∧
      ((ofPieces pieces).peek count).2.content? = some pieces.flatten := by
  rcases takeReads_map_some count pieces with ⟨after, hafter⟩
  have htake : takeReads count (ofPieces pieces).reads =
      (pieces.flatten.take count, after.map some) := hafter
  have hreplay : ((ofPieces pieces).peek count).2 =
      ofPieces (pieces.flatten.take count :: after) := by
    unfold peek
    rw [htake]
    rfl
  constructor
  · unfold peek
    rw [htake]
  · have hwhole := takeReads_append count (ofPieces pieces).reads
    rw [htake, joinPieces_map_some] at hwhole
    rw [hreplay, content?_ofPieces, List.flatten_cons]
    exact congrArg some (hwhole.trans (delivered_ofPieces pieces))

end Stream
end ContentGateway
