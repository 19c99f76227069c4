import ContentGateway.Content

/-!
# Streams

Content that arrives in pieces.  A stream is the sequence of its reads: each one
delivers a piece or fails, and reading may go on after a failure.
-/

namespace ContentGateway

/-- The reads of a stream in order. -/
structure Stream where
  /-- A piece of the content, or a read that fails. -/
  reads : List (Option Bytes)
  /-- After these reads every further one fails; otherwise the content ends. -/
  endless : Bool

namespace Stream

/-- The stream that delivers the given pieces. -/
def ofPieces (pieces : List Bytes) : Stream :=
  ⟨pieces.map some, false⟩

/--
The stream that delivers the given pieces but fails before the piece at `place`, so many
times or, if no number is given, for ever.
-/
def failing (pieces : List Bytes) (place : Nat) (times : Option Nat) : Stream :=
  if pieces.length < place then ofPieces pieces
  else
    let before := (pieces.take place).map some
    match times with
    | none => ⟨before, true⟩
    | some n => ⟨before ++ List.replicate n none ++ (pieces.drop place).map some, false⟩

/-- What a failing read reports. -/
def brokenText : String := "stream broken"

/-- Puts content in front of a stream. -/
def prepend (head : Bytes) (s : Stream) : Stream :=
  { s with reads := some head :: s.reads }

/-- The pieces of a sequence of reads without failures, joined. -/
def joinReads : List (Option Bytes) -> Option Bytes
  | [] => some []
  | none :: _ => none
  | some piece :: rest => (joinReads rest).map (piece ++ ·)

/-- The whole content; nothing if a read fails. -/
def content? (s : Stream) : Option Bytes :=
  if s.endless then none else joinReads s.reads

/-- The first `count` bytes of a sequence of reads, fewer at a failing read, and the reads left over. -/
def takeReads : Nat -> List (Option Bytes) -> Bytes × List (Option Bytes)
  | _, [] => ([], [])
  | count, none :: rest => if count = 0 then ([], none :: rest) else ([], rest)
  | count, some piece :: rest =>
      if count = 0 then ([], some piece :: rest)
      else if piece.length ≤ count then
        let (head, after) := takeReads (count - piece.length) rest
        (piece ++ head, after)
      else (piece.take count, some (piece.drop count) :: rest)

/-- Reads up to `count` bytes ahead: what was read, and the stream that delivers it again. -/
def peek (count : Nat) (s : Stream) : Bytes × Stream :=
  let (head, after) := takeReads count s.reads
  (head, prepend head { s with reads := after })

end Stream
end ContentGateway
