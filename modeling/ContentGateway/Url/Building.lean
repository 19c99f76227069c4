import ContentGateway.Url.Reading

/-!
# Building URLs

Adding path segments and query parameters that are given by their meaning.  Whatever
has a meaning in a URL is encoded, so that each stays one segment or one value.
-/

namespace ContentGateway
namespace Url

/-!
# Path segments
-/

/-- A segment as it is written. -/
def encodeSegment (scheme : String) (path : List String) (segment : List Char) : String :=
  let excluded := if isSpecial scheme then Percent.inSpecialSegment else Percent.inSegment
  String.ofList (marked (scheme == "file") path (Percent.encode excluded segment))

/-- Adds a segment below a path; the names of the level itself and the one above add nothing. -/
def pushSegment (scheme : String) (path : List String) (segment : String) : List String :=
  if segment == "." || segment == ".." then path
  else
    let path := if path == [""] then [] else path
    let segment := segment.toList.filter fun c => !isLineBreak c
    if segment == ['.'] then path ++ [""]
    else if segment == ['.', '.'] then ascend path ++ [""]
    else path ++ [encodeSegment scheme path segment]

/-- A path without an empty last segment. -/
def withoutFinalSlash (path : List String) : List String :=
  if path.getLast? == some "" && path.length ≠ 1 then path.dropLast else path

/-- The URL with segments added to its path; none if its path is mere text. -/
def extend? (u : Url) (segments : List String) : Option Url :=
  match u.path with
  | .text _ => none
  | .segments path =>
      let path := segments.foldl (pushSegment u.scheme) (withoutFinalSlash path)
      some { u with path := .segments path }

/-!
# Query parameters
-/

/-- A character of a parameter as forms write it: blanks as plus signs. -/
def encodeFormChar (c : Char) : List Char :=
  if c == ' ' then ['+']
  else if c.isAlphanum || "*-._".toList.contains c then [c]
  else (Utf8.encodeChar c).flatMap Percent.encodeByte

def encodeForm (text : String) : String :=
  String.ofList (text.toList.flatMap encodeFormChar)

/-- The parameters as one text. -/
def formText (parameters : List (String × String)) : String :=
  String.intercalate "&" (parameters.map fun p => encodeForm p.1 ++ "=" ++ encodeForm p.2)

/-- The URL with parameters added to its query; a query without any text is none. -/
def withParameters (u : Url) (parameters : List (String × String)) : Url :=
  if parameters.isEmpty then { u with query := u.query.filter fun q => !q.isEmpty }
  else
    let before := match u.query with
      | some q => if q.isEmpty then "" else q ++ "&"
      | none => ""
    { u with query := some (before ++ formText parameters) }

end Url
end ContentGateway
