import ContentGateway.Table
import ContentGateway.Word

/-!
# JSON values

The values that documents, filters and configurations are made of.  Numbers keep
whether they were written as integers; objects are tables, so that two objects
with the same members are the same value.
-/

namespace ContentGateway

/-- A JSON number: an integer of a machine word, or a double. -/
inductive Number where
  | int (value : Int)
  | float (value : Float)

/-- The double nearest to a number. -/
def Number.toFloat : Number -> Float
  | .int n => Float.ofInt n
  | .float x => x

/-- Equality of numbers: an integer and a double are never equal, two doubles compare as such. -/
def Number.same : Number -> Number -> Bool
  | .int a, .int b => a == b
  | .float a, .float b => a == b
  | _, _ => false

inductive Json where
  | null
  | bool (value : Bool)
  | number (value : Number)
  | string (value : String)
  | array (items : List Json)
  | object (members : List (String × Json))

/-- Named JSON values: the fields of a document or the members of an object. -/
abbrev Fields := Table Json

namespace Json

instance : Inhabited Json := ⟨.null⟩

/-- An integer that is not negative. -/
def nat (n : Nat) : Json :=
  .number (.int n)

/-- The object with the given members; the last one of a name stays. -/
def ofMembers (members : List (String × Json)) : Json :=
  .object (Table.ofList members)

/-- A string, or `null` for an absent one. -/
def ofOption : Option String -> Json
  | none => .null
  | some s => .string s

def strings (items : List String) : Json :=
  .array (items.map .string)

/-- A member that is written only when it is present. -/
def optional (name : String) : Option String -> List (String × Json)
  | none => []
  | some s => [(name, .string s)]

def asString? : Json -> Option String
  | .string s => some s
  | _ => none

def asArray? : Json -> Option (List Json)
  | .array items => some items
  | _ => none

def asObject? : Json -> Option Fields
  | .object members => some members
  | _ => none

/-- The member of an object; nothing for other values. -/
def member? (v : Json) (name : String) : Option Json :=
  v.asObject?.bind fun members => Table.get? members name

mutual

/-- Equality of values, where doubles compare as numbers do. -/
def same : Json -> Json -> Bool
  | .null, .null => true
  | .bool a, .bool b => a == b
  | .number a, .number b => a.same b
  | .string a, .string b => a == b
  | .array a, .array b => sameItems a b
  | .object a, .object b => sameMembers a b
  | _, _ => false

def sameItems : List Json -> List Json -> Bool
  | [], [] => true
  | a :: as, b :: bs => same a b && sameItems as bs
  | _, _ => false

def sameMembers : List (String × Json) -> List (String × Json) -> Bool
  | [], [] => true
  | (k, a) :: as, (l, b) :: bs => k == l && same a b && sameMembers as bs
  | _, _ => false

end

end Json
end ContentGateway
