import ContentGateway.Decimal.Reading
import ContentGateway.Table
import ContentGateway.Text.Blank
import ContentGateway.Word

/-!
# Environments

Named texts from which settings are read.  A blank text counts as absent.
-/

namespace ContentGateway

/-- The text under a name, if there is one. -/
abbrev Environment := String -> Option String

namespace Environment

def ofTable (texts : Table String) : Environment :=
  Table.get? texts

/-- The text under a name, unless it is blank. -/
def text? (env : Environment) (name : String) : Option String :=
  nonBlank (env name)

/-- The largest port. -/
def largestPort : Nat := 65535

end Environment
end ContentGateway
