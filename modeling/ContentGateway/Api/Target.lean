import ContentGateway.Text.Pieces

/-!
# Targets

What a request asks for: a path with an optional query, a whole URL, or a host alone.
Both path and query stay as they are written.
-/

namespace ContentGateway
namespace Api

/-- The path and the query of a target; a host alone has neither. -/
structure Target where
  path : String
  query : String
  deriving DecidableEq, Repr

namespace Target

/-!
# Paths and queries
-/

/-- The characters that a path may hold as they are. -/
def isPathChar (c : Char) : Bool :=
  0x21 ≤ c.toNat && !("<>?#".toList.contains c || c == Char.ofNat 0x60)

/-- The characters that a query may hold as they are. -/
def isQueryChar (c : Char) : Bool :=
  0x21 ≤ c.toNat && !"\"#<>".toList.contains c

/-- A path and a query; a fragment does not count. -/
def ofPath? (text : List Char) : Option Target :=
  let text := text.takeWhile (· != '#')
  let path := text.takeWhile (· != '?')
  let query := (text.dropWhile (· != '?')).drop 1
  if path.all isPathChar && query.all isQueryChar then
    some ⟨String.ofList path, String.ofList query⟩
  else none

/-!
# Hosts
-/

/-- The characters of a host that have no meaning of their own. -/
def isHostChar (c : Char) : Bool :=
  c.isAlphanum || "-._~!$&'()*+,;=".toList.contains c

/-- What has been read of an authority. -/
structure Scan where
  /-- The colons since the user or the brackets ended. -/
  colons : Nat
  isOpened : Bool
  isClosed : Bool
  /-- Whether a percent sign stands outside of the user and the brackets. -/
  hasPercent : Bool

/-- An address in brackets has no more than this many colons. -/
def maxColons : Nat := 8

def Scan.next? (s : Scan) (c : Char) : Option Scan :=
  match c with
  | ':' => if s.colons < maxColons then some { s with colons := s.colons + 1 } else none
  | '@' => some { s with colons := 0, hasPercent := false }
  | '%' => some { s with hasPercent := true }
  | '[' => if s.isOpened || s.hasPercent then none else some { s with isOpened := true }
  | ']' =>
      if s.isOpened && !s.isClosed then
        some { s with isClosed := true, colons := 0, hasPercent := false }
      else none
  | c => if isHostChar c then some s else none

/-- A host, perhaps with a user and a port. -/
def isAuthority (text : List Char) : Bool :=
  match text.foldlM Scan.next? ⟨0, false, false, false⟩ with
  | none => false
  | some s =>
      s.isOpened == s.isClosed && s.colons ≤ 1 && !s.hasPercent && text.getLast? != some '@'

/-!
# Whole targets
-/

def isScheme (text : List Char) : Bool :=
  text.length ≤ 64 && text.all fun c => c.isAlphanum || "+-.".toList.contains c

/-- A URL after its scheme. -/
def ofPlace? (text : List Char) : Option Target :=
  let endsHost (c : Char) : Bool := "/?#".toList.contains c
  let host := text.takeWhile fun c => !endsHost c
  let path := text.dropWhile fun c => !endsHost c
  if host.isEmpty || !isAuthority host then none
  else ofPath? (if path.head? == some '/' then path else '/' :: path)

/-- The length of a target in bytes. -/
def maxLength : Nat := 65534

def ofText? (text : List Char) : Option Target :=
  match text with
  | [] => none
  | '/' :: _ => ofPath? text
  | ['*'] => some ⟨"*", ""⟩
  | _ =>
      match splitFirst ':' text with
      | some (scheme, '/' :: '/' :: place) => if isScheme scheme then ofPlace? place else none
      | _ => if isAuthority text then some ⟨"", ""⟩ else none

def parse? (text : String) : Option Target :=
  if maxLength < text.utf8ByteSize then none else ofText? text.toList

end Target
end Api
end ContentGateway
