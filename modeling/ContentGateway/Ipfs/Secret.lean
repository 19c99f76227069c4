/-!
# Secrets

How a secret is shown: its first characters, then stars whatever its length.
-/

namespace ContentGateway
namespace Ipfs

/-- The first five characters of a secret and eleven stars. -/
def obfuscate (secret : String) : String :=
  String.ofList (secret.toList.take 5 ++ List.replicate 11 '*')

end Ipfs
end ContentGateway
