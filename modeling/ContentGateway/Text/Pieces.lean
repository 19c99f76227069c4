/-!
# Pieces of text

Finding a part of a text and taking a text apart at separators.
-/

namespace ContentGateway

/-- `part` stands somewhere in a text. -/
def holdsPart (part : List Char) : List Char -> Bool
  | [] => part.isEmpty
  | c :: rest => part.isPrefixOf (c :: rest) || holdsPart part rest

/-- `part` stands somewhere in a string. -/
def containsText (text part : String) : Bool :=
  holdsPart part.toList text.toList

/-- The pieces between the characters that satisfy `p`; `piece` holds the one in progress, last first. -/
def splitFrom (p : Char -> Bool) (piece : List Char) : List Char -> List (List Char)
  | [] => [piece.reverse]
  | c :: rest =>
      if p c then piece.reverse :: splitFrom p [] rest else splitFrom p (c :: piece) rest

/-- The pieces of a text between the characters that satisfy `p`, empty ones included. -/
def splitBy (p : Char -> Bool) (text : List Char) : List (List Char) :=
  splitFrom p [] text

/-- What stands before and after the first place where `c` stands. -/
def splitFirst (c : Char) (text : List Char) : Option (List Char × List Char) :=
  match text.dropWhile (· != c) with
  | [] => none
  | _ :: after => some (text.takeWhile (· != c), after)

/-- What stands before and after the last place where `c` stands. -/
def splitLast (c : Char) (text : List Char) : Option (List Char × List Char) :=
  (splitFirst c text.reverse).map fun p => (p.2.reverse, p.1.reverse)

end ContentGateway
