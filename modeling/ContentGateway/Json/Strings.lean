import ContentGateway.Json.Basic

/-!
# Strings in values

Every string in a value, the names of members included, in the order in which they
stand, replaced by a function that may remember what it has seen.
-/

namespace ContentGateway
namespace Json

variable {σ : Type}

mutual

/-- The value with all its strings replaced. -/
def mapStrings (f : String -> StateM σ String) : Json -> StateM σ Json
  | .string s => do pure (.string (← f s))
  | .array items => do pure (.array (← mapItems f items))
  | .object members => do pure (.ofMembers (← mapMembers f members))
  | v => pure v

def mapItems (f : String -> StateM σ String) : List Json -> StateM σ (List Json)
  | [] => pure []
  | v :: rest => do
      let v ← mapStrings f v
      let rest ← mapItems f rest
      pure (v :: rest)

def mapMembers (f : String -> StateM σ String) :
    List (String × Json) -> StateM σ (List (String × Json))
  | [] => pure []
  | (name, v) :: rest => do
      let name ← f name
      let v ← mapStrings f v
      let rest ← mapMembers f rest
      pure ((name, v) :: rest)

end

end Json
end ContentGateway
