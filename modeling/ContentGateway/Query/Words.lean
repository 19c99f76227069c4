import ContentGateway.Json.Printer
import ContentGateway.Text.Letter
import ContentGateway.Text.LowerCase

/-!
# Words

The words of a value, for searches that look at words and not at whole values: the
longest runs of letters and digits of its text, in lower case.
-/

namespace ContentGateway
namespace Words

/-- The text of a value; strings stand for themselves and null for nothing. -/
def textOf : Json -> List Char
  | .string s => s.toList
  | .null => []
  | v => v.render

/-- The texts of the items of an array stand side by side with a blank between them. -/
def joined : List (List Char) -> List Char
  | [] => []
  | [t] => t
  | t :: rest => t ++ ' ' :: joined rest

def sourceOf : Json -> List Char
  | .array items => joined (items.map textOf)
  | v => textOf v

/-- The longest runs of characters that satisfy `p`; `run` holds the one in progress, last first. -/
def runsFrom (p : Char -> Bool) (run : List Char) : List Char -> List (List Char)
  | [] => if run.isEmpty then [] else [run.reverse]
  | c :: rest =>
      if p c then runsFrom p (c :: run) rest
      else if run.isEmpty then runsFrom p [] rest
      else run.reverse :: runsFrom p [] rest

def runs (p : Char -> Bool) (text : List Char) : List (List Char) :=
  runsFrom p [] text

/-- The words of a value in order. -/
def ofValue (v : Json) : List (List Char) :=
  (runs isLetterOrDigit (sourceOf v)).map (LowerCase.ofCharsAfter [])

/-- Do the words of a phrase stand at the front of a text, the last one as the start of a word? -/
def phraseAt : List (List Char) -> List (List Char) -> Bool
  | [], _ => false
  | _, [] => false
  | [last], word :: _ => last.isPrefixOf word
  | first :: phrase, word :: text => first == word && phraseAt phrase text

/-- Do the words of a phrase follow one another somewhere in a text, the last one as the start of a word? -/
def phraseIn (phrase : List (List Char)) : List (List Char) -> Bool
  | [] => false
  | word :: text => phraseAt phrase (word :: text) || phraseIn phrase text

end Words
end ContentGateway
