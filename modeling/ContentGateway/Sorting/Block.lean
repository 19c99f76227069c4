/-!
# Short lists and blocks

Sorting by a comparison of which nothing is known.  A short list is sorted by insertion.  A
block is sorted in two halves, which are then merged from both ends at once; the ends do not
meet if the comparison contradicts itself, and then there is no result.
-/

namespace ContentGateway
namespace Sorting

variable {α : Type} (less : α -> α -> Bool)

/-!
# Insertion
-/

/-- Puts an element in front of a list that is written backwards, behind those it is less than. -/
def insertBack (x : α) : List α -> List α
  | [] => [x]
  | y :: rest => if less x y then y :: insertBack x rest else x :: y :: rest

def insertAll (sorted new : List α) : List α :=
  (new.foldl (fun backwards x => insertBack less x backwards) sorted.reverse).reverse

def insertion (l : List α) : List α :=
  insertAll less [] l

/-!
# Halves of a block
-/

/-- Two pairs, each in order, sorted by three comparisons. -/
def crossPairs (a b c d : α) : List α :=
  let first := if less c a then c else a
  let last := if less d b then b else d
  -- the two that are neither, in the order in which they stand
  let left := if less c a then a else if less d b then c else b
  let right := if less d b then d else if less c a then b else c
  if less right left then [first, right, left, last] else [first, left, right, last]

def four (a b c d : α) : List α :=
  let (a, b) := if less b a then (b, a) else (a, b)
  let (c, d) := if less d c then (d, c) else (c, d)
  crossPairs less a b c d

/-- In a long block the first four elements of a half are sorted on their own. -/
def half (long : Bool) : List α -> List α
  | a :: b :: c :: d :: rest =>
      if long then insertAll less (four less a b c d) rest
      else insertion less (a :: b :: c :: d :: rest)
  | l => insertion less l

/-!
# Merging from both ends
-/

/-- The first elements of a merge, and what is left of its parts. -/
def draw : Nat -> List α -> List α -> List α × List α × List α
  | n + 1, x :: xs, y :: ys =>
      if less y x then
        let (drawn, left, right) := draw n (x :: xs) ys
        (y :: drawn, left, right)
      else
        let (drawn, left, right) := draw n xs (y :: ys)
        (x :: drawn, left, right)
  | _, xs, ys => ([], xs, ys)

/--
Merges two halves, of which the second one may be longer by one: as many elements as the first
one has are drawn from the front and from the back.  Where the drawn parts neither overlap nor
leave more than the odd element between them, they are the result.
-/
def meet (l r : List α) : Option (List α) :=
  let (front, frontLeft, frontRight) := draw less l.length l r
  let (back, backRight, backLeft) :=
    draw (fun a b => less b a) l.length r.reverse l.reverse
  let drawnLeft := l.length - frontLeft.length
  let drawnRight := r.length - frontRight.length
  let odd := r.length ≠ l.length
  let fromLeft := if odd ∧ drawnLeft < backLeft.length then 1 else 0
  let fromRight := if odd ∧ ¬ drawnLeft < backLeft.length then 1 else 0
  if drawnLeft + fromLeft = backLeft.length ∧ drawnRight + fromRight = backRight.length then
    some (front ++ frontLeft.take fromLeft ++ frontRight.take fromRight ++ back.reverse)
  else none

/-- So many elements are sorted as one block. -/
def blockSize : Nat := 32

def block (l : List α) : Option (List α) :=
  if l.length < 2 then some l
  else
    let long := decide (8 ≤ l.length)
    meet less (half less long (l.take (l.length / 2))) (half less long (l.drop (l.length / 2)))

end Sorting
end ContentGateway
