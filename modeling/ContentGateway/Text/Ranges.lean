import ContentGateway.Text.Blank
import ContentGateway.Text.Hex
import ContentGateway.Text.Pieces

/-!
# Ranges of code points

A property of characters is a list of ranges of code points in ascending order.  A long
one is written as text: hexadecimal numbers with blanks between the ranges.
-/

namespace ContentGateway

/-- Is `n` in one of the ranges?  The ranges are in ascending order, so the search ends early. -/
def inRanges : List (Nat × Nat) -> Nat -> Bool
  | [], _ => false
  | (first, last) :: rest, n =>
      if n < first then false else if n ≤ last then true else inRanges rest n

namespace Ranges

/-- The parts of a text between blanks. -/
def words (text : String) : List (List Char) :=
  (splitBy isAsciiBlank text.toList).filter fun word => !word.isEmpty

/-- A range as it is written: its two ends with a dash between them, or its only number. -/
def ofWord? (word : List Char) : Option (Nat × Nat) :=
  match splitFirst '-' word with
  | some (first, last) => do pure (← inBase? 16 first, ← inBase? 16 last)
  | none => (inBase? 16 word).map fun n => (n, n)

/-- The ranges that are written in a text. -/
def ofText (text : String) : List (Nat × Nat) :=
  (words text).filterMap ofWord?

end Ranges
end ContentGateway
