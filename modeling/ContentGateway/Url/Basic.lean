import ContentGateway.Url.Host

/-!
# URLs

A URL taken apart.  The scheme and the host are in lower case and the parts hold only
characters that may stand there, so equal URLs have one written form.
-/

namespace ContentGateway

/-- Who is addressed: a host, perhaps with the name and password of a user and a port. -/
structure Authority where
  username : String
  password : String
  host : Host
  /-- Absent where it is the usual one of the scheme. -/
  port : Option Nat
  deriving DecidableEq, Repr

namespace Authority

/-- The name and password of a user; nothing if both are empty. -/
def credentials (a : Authority) : String :=
  if a.username.isEmpty && a.password.isEmpty then ""
  else a.username ++ (if a.password.isEmpty then "" else ":" ++ a.password) ++ "@"

def display (a : Authority) : String :=
  a.credentials ++ a.host.display ++ (a.port.map fun p => ":" ++ toString p).getD ""

end Authority

/-- What is addressed there. -/
inductive UrlPath where
  /-- Text without a hierarchy. -/
  | text (content : String)
  | segments (list : List String)
  deriving DecidableEq, Repr

def UrlPath.display : UrlPath -> String
  | .text content => content
  | .segments list => String.join (list.map ("/" ++ ·))

structure Url where
  scheme : String
  authority : Option Authority
  path : UrlPath
  query : Option String
  fragment : Option String
  deriving DecidableEq, Repr

namespace Url

/-- The port that is used with a scheme when none is given. -/
def usualPort? : String -> Option Nat
  | "http" => some 80
  | "ws" => some 80
  | "https" => some 443
  | "wss" => some 443
  | "ftp" => some 21
  | _ => none

/-- Schemes whose URLs always have a hierarchy; a backslash separates there like a slash. -/
def isSpecial (scheme : String) : Bool :=
  scheme == "file" || (usualPort? scheme).isSome

def host? (u : Url) : Option Host :=
  (u.authority.map Authority.host).filter fun h => h != .domain ""

def port? (u : Url) : Option Nat :=
  (u.authority.bind Authority.port).or (usualPort? u.scheme)

/-- The host and, if one is known, the port. -/
def address (u : Url) : String :=
  let host := (u.host?.map Host.display).getD "unknown"
  match u.port? with
  | some port => host ++ ":" ++ toString port
  | none => host

/-!
# The written form
-/

/-- A path that begins with an empty segment would read as an authority. -/
def authorityText (u : Url) : String :=
  match u.authority, u.path with
  | some a, _ => "//" ++ a.display
  | none, .segments ("" :: _ :: _) => "/."
  | none, _ => ""

def display (u : Url) : String :=
  u.scheme ++ ":" ++ u.authorityText ++ u.path.display
    ++ (u.query.map ("?" ++ ·)).getD "" ++ (u.fragment.map ("#" ++ ·)).getD ""

end Url
end ContentGateway
