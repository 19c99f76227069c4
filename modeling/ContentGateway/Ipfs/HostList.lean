import ContentGateway.Environment
import ContentGateway.Ipfs.Error
import ContentGateway.Url.Reading

/-!
# Host lists

Hosts with commas between them.  An entry is a whole URL, a host with a port, or a
host alone, which gets the port that is usual for the list.
-/

namespace ContentGateway
namespace Ipfs

/-- The URL of a host and a port. -/
def hostUrl (host : String) (port : Nat) : Except ConfigError Url :=
  match Url.parse? ("http://" ++ host ++ ":" ++ toString port) with
  | some url => .ok url
  | none => .error (.invalidUrl (host ++ ":" ++ toString port) withheld)

namespace HostList

/-- The entries that are not blank, without the blanks around them. -/
def entries (text : String) : List String :=
  ((splitBy (· == ',') text.toList).map (trimBy isBlank)).filterMap fun entry =>
    if entry.isEmpty then none else some (String.ofList entry)

def entryUrl (usualPort : Nat) (entry : String) : Except ConfigError Url :=
  if containsText entry "://" then
    match Url.parse? entry with
    | some url => .ok url
    | none => .error (.invalidUrl entry withheld)
  else
    match splitLast ':' entry.toList with
    | none => hostUrl entry usualPort
    | some (host, port) =>
        let port := String.ofList port
        match Decimal.natural? Environment.largestPort port with
        | none => .error (.invalidNumber entry port)
        | some number => hostUrl (String.ofList host) number

/-- The URLs of all entries; the first entry that is wrong is reported. -/
def urls (usualPort : Nat) (text : String) : Except ConfigError (List Url) :=
  (entries text).mapM (entryUrl usualPort)

end HostList
end Ipfs
end ContentGateway
