import ContentGateway.Text.Blank
import ContentGateway.Url.Basic

/-!
# Reading URLs

An absolute URL from its text.  The text is cut at the first `#`, then at the first
`?`; before them stand the scheme, the authority and the path.  Every spelling is
read that has a meaning, and only the normal one is kept.
-/

namespace ContentGateway
namespace Url

/-- Tabs and line breaks count nowhere. -/
def isLineBreak (c : Char) : Bool :=
  c == '\t' || c == '\n' || c == '\r'

/-- Blanks and control characters around a text do not count either. -/
def clean (text : List Char) : List Char :=
  (trimBy (fun c => c.toNat ≤ 0x20) text).filter fun c => !isLineBreak c

/-- The scheme before a colon. -/
def scheme? (text : List Char) : Option String :=
  match text with
  | [] => none
  | c :: rest =>
      if c.isAlpha && rest.all fun c => c.isAlphanum || c == '+' || c == '-' || c == '.' then
        some (asciiLowerCase (String.ofList (c :: rest)))
      else none

/-- What stands before the first character of a kind, and what follows that character. -/
def cut (c : Char) (text : List Char) : List Char × Option (List Char) :=
  match splitFirst c text with
  | some (before, after) => (before, some after)
  | none => (text, none)

/-!
# Authorities
-/

/-- The host and the rest, which begins with a colon; colons between brackets belong to the host. -/
def spanHost (inside : Bool) : List Char -> List Char × List Char
  | [] => ([], [])
  | c :: rest =>
      if c == ':' && !inside then ([], c :: rest)
      else
        let inside := if c == '[' then true else if c == ']' then false else inside
        let (host, after) := spanHost inside rest
        (c :: host, after)

/-- A port behind a colon and what follows it; the usual port of the scheme counts as none. -/
def portOf? (scheme : String) : List Char -> Option (Option Nat × List Char)
  | ':' :: text =>
      let digits := text.takeWhile Char.isDigit
      let rest := text.dropWhile Char.isDigit
      if !rest.isEmpty && rest.head? != some '\\' then none
      else if digits.isEmpty then some (none, rest)
      else do
        let port ← inBase? 10 digits
        if 65535 < port then none
        else some (if usualPort? scheme == some port then none else some port, rest)
  | text => some (none, text)

def encodeUser (text : List Char) : String :=
  String.ofList (Percent.encode Percent.inUserInfo text)

/-- The host and the port of a URL, and what follows them. -/
def hostPort? (scheme : String) (text : List Char) : Option ((Host × Option Nat) × List Char) := do
  let (host, rest) := spanHost false text
  if host.isEmpty && (isSpecial scheme || !rest.isEmpty) then none
  else
    let host ← if isSpecial scheme then Host.ofSpecial? host else Host.ofOther? host
    let (port, rest) ← portOf? scheme rest
    pure ((host, port), rest)

/-- The authority and what follows it; a user has to be somewhere. -/
def authority? (scheme : String) (text : List Char) : Option (Authority × List Char) := do
  let (user, place) := (splitLast '@' text).getD ([], text)
  let (name, password) := cut ':' user
  let ((host, port), rest) ← hostPort? scheme place
  let authority : Authority := ⟨encodeUser name, encodeUser (password.getD []), host, port⟩
  if host == .domain "" && !authority.credentials.isEmpty then none else pure (authority, rest)

/-!
# Paths
-/

/-- A segment that stands for the level itself. -/
def isSame (segment : List Char) : Bool :=
  [".", "%2e"].contains (asciiLowerCase (String.ofList segment))

/-- A segment that stands for the level above. -/
def isAbove (segment : List Char) : Bool :=
  ["..", ".%2e", "%2e.", "%2e%2e"].contains (asciiLowerCase (String.ofList segment))

/-- The name of a drive: a letter and a colon, or a bar in its place. -/
def isDrive : List Char -> Bool
  | [letter, mark] => letter.isAlpha && (mark == ':' || mark == '|')
  | _ => false

/-- The level above the last one; a drive is not left. -/
def ascend (levels : List String) : List String :=
  let isDriveLevel (level : String) : Bool := isDrive (level.toList.takeWhile (· != '\\'))
  if levels.getLast?.any isDriveLevel then levels else levels.dropLast

/-- A drive at the beginning of the path of a file has a colon. -/
def marked (isFile : Bool) (levels : List String) (text : List Char) : List Char :=
  if isFile && levels.isEmpty && isDrive text then text.take 1 ++ [':'] else text

/-- A segment as it is written. -/
def written (isFile : Bool) (levels : List String) (segment : List Char) : String :=
  String.ofList (marked isFile levels (Percent.encode Percent.inPath segment))

/-- Adds segments to those of the levels above; a path that ends in a level is followed by an empty one. -/
def descend (isFile : Bool) : List String -> List (List Char) -> List String
  | levels, [] => levels
  | levels, segment :: rest =>
      let last := if rest.isEmpty then [""] else []
      if isAbove segment then descend isFile (ascend levels ++ last) rest
      else if isSame segment then descend isFile (levels ++ last) rest
      else descend isFile (levels ++ [written isFile levels segment]) rest

/-- A slash or, in a special URL, a backslash. -/
def isSlash (c : Char) : Bool :=
  c == '/' || c == '\\'

/-- The segments of the path of a URL with a special scheme, from the text behind its first slash. -/
def specialSegments (text : List Char) : List String :=
  descend false [] (splitBy isSlash text)

/-- The segments of the path of any other URL; nothing where there is no path. -/
def otherSegments (text : List Char) : List String :=
  let inside := if text.head? == some '/' then text.drop 1 else text
  if text.isEmpty then [] else descend false [] (splitBy (· == '/') inside)

/-- The segments of the path of a file. -/
def fileSegments (text : List Char) : List String :=
  descend true [] (splitBy isSlash text)

/-- A path does not begin with empty segments. -/
def withoutFirstSlashes (segments : List String) : List String :=
  match segments.dropWhile String.isEmpty with
  | [] => [""]
  | segments => segments

/-!
# Whole URLs
-/

/-- The authority and the path of a URL with a special scheme; any number of slashes may precede them. -/
def placeOfSpecial? (scheme : String) (text : List Char) : Option (Authority × UrlPath) := do
  let text := text.dropWhile isSlash
  let (authority, _) ← authority? scheme (text.takeWhile fun c => !isSlash c)
  let path := (text.dropWhile fun c => !isSlash c).drop 1
  pure (authority, .segments (specialSegments path))

/-- The own host of a file. -/
def nowhere : Authority :=
  ⟨"", "", .domain "", none⟩

/-- The host and the path of a file, from the text behind two slashes; a drive is on the own host. -/
def placeOfHostedFile? (text : List Char) : Option (Authority × List String) :=
  let name := text.takeWhile fun c => !isSlash c
  let path := text.dropWhile fun c => !isSlash c
  if isDrive name then some (nowhere, fileSegments text)
  else if name.isEmpty then some (nowhere, fileSegments path)
  else do
    let host ← Host.ofSpecial? name
    let segments := fileSegments (path.drop 1)
    if host == .domain "localhost" then pure (nowhere, fileSegments path)
    else if segments.head?.any fun s => isDrive s.toList then pure (nowhere, segments)
    else pure (⟨"", "", host, none⟩, segments)

/-- The host and the path of a file; the own host counts as none. -/
def placeOfFile? (text : List Char) : Option (Authority × UrlPath) := do
  let (authority, segments) ← match text with
    | a :: b :: rest =>
        if isSlash a && isSlash b then placeOfHostedFile? rest
        else some (nowhere, fileSegments (if isSlash a then b :: rest else text))
    | text => some (nowhere, fileSegments (text.dropWhile isSlash))
  pure (authority, .segments (withoutFirstSlashes segments))

/-- The authority, if there is one, and the path of a URL with any other scheme. -/
def placeOfOther? (scheme : String) (isWhole : Bool) :
    List Char -> Option (Option Authority × UrlPath)
  | '/' :: '/' :: text => do
      let before := text.takeWhile (· != '/')
      let after := text.dropWhile (· != '/')
      if before == ['@'] && !(isWhole && after.isEmpty) then none
      else
        let (authority, rest) ← authority? scheme before
        pure (some authority, .segments (otherSegments (rest ++ after)))
  | '/' :: text => some (none, .segments (otherSegments ('/' :: text)))
  | text => some (none, .text (String.ofList (Percent.encode Percent.inControls text)))

/-- The absolute URL that a text stands for. -/
def parse? (text : String) : Option Url := do
  let (scheme, rest) ← splitFirst ':' (clean text.toList)
  let scheme ← scheme? scheme
  let (rest, fragment) := cut '#' rest
  let (rest, query) := cut '?' rest
  let special := isSpecial scheme
  let (authority, path) ←
    if scheme == "file" then (placeOfFile? rest).map fun p => (some p.1, p.2)
    else if special then (placeOfSpecial? scheme rest).map fun p => (some p.1, p.2)
    else placeOfOther? scheme (query.isNone && fragment.isNone) rest
  let inQuery := if special then Percent.inSpecialQuery else Percent.inQuery
  let encoded (excluded : Char -> Bool) (part : List Char) : String :=
    String.ofList (Percent.encode excluded part)
  pure ⟨scheme, authority, path, query.map (encoded inQuery),
    fragment.map (encoded Percent.inFragment)⟩

end Url
end ContentGateway
