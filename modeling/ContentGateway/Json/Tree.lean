import ContentGateway.Json.Basic

/-!
# Trees

What a JSON text says, before it is taken for a value: members in the order in
which they stand, repeated names included, up to the first place where the text is
malformed.  Typed readings work on trees, because which of two faults is reported
depends on that order.
-/

namespace ContentGateway

inductive Tree where
  | null
  | bool (value : Bool)
  /-- A number; `none` if it is out of range. -/
  | number (value : Option Number)
  /-- A string; `none` if its characters do not form a text. -/
  | string (value : Option String)
  /-- The items, and whether the array is well-formed after them. -/
  | array (items : List Tree) (complete : Bool)
  /-- The members, and whether the object is well-formed after them. -/
  | object (members : List (Option String × Tree)) (complete : Bool)
  /-- A container nested deeper than readings follow. -/
  | tooDeep (inner : Tree)
  /-- No value stands here. -/
  | broken

/-- Why a tree is not read as a value of a type. -/
inductive Fault where
  /-- The text is no JSON. -/
  | malformed
  /-- The text is JSON of another shape; a rule of the type itself may say which. -/
  | mismatch (rule : Option String)
  deriving DecidableEq, Repr

namespace Tree

mutual

/-- The tree of a value. -/
def ofJson : Json -> Tree
  | .null => .null
  | .bool b => .bool b
  | .number n => .number (some n)
  | .string s => .string (some s)
  | .array items => .array (ofItems items) true
  | .object members => .object (ofMembers members) true

def ofItems : List Json -> List Tree
  | [] => []
  | v :: rest => ofJson v :: ofItems rest

def ofMembers : List (String × Json) -> List (Option String × Tree)
  | [] => []
  | (k, v) :: rest => (some k, ofJson v) :: ofMembers rest

end

mutual

/-- How deep containers are nested. -/
def depth : Tree -> Nat
  | .array items _ => depthItems items + 1
  | .object members _ => depthMembers members + 1
  | .tooDeep inner => depth inner
  | _ => 0

def depthItems : List Tree -> Nat
  | [] => 0
  | t :: rest => max (depth t) (depthItems rest)

def depthMembers : List (Option String × Tree) -> Nat
  | [] => 0
  | (_, t) :: rest => max (depth t) (depthMembers rest)

end

mutual

/-- The tree as a free value: all of it has to be well-formed. -/
def toJson : Tree -> Except Fault Json
  | .null => .ok .null
  | .bool b => .ok (.bool b)
  | .number (some n) => .ok (.number n)
  | .string (some s) => .ok (.string s)
  | .array items complete =>
      match toItems items with
      | .error e => .error e
      | .ok vs => if complete then .ok (.array vs) else .error .malformed
  | .object members complete =>
      match toMembers members with
      | .error e => .error e
      | .ok ms => if complete then .ok (.object (Table.ofList ms)) else .error .malformed
  | _ => .error .malformed

def toItems : List Tree -> Except Fault (List Json)
  | [] => .ok []
  | t :: rest =>
      match toJson t with
      | .error e => .error e
      | .ok v =>
          match toItems rest with
          | .error e => .error e
          | .ok vs => .ok (v :: vs)

def toMembers : List (Option String × Tree) -> Except Fault (List (String × Json))
  | [] => .ok []
  | (none, _) :: _ => .error .malformed
  | (some k, t) :: rest =>
      match toJson t with
      | .error e => .error e
      | .ok v =>
          match toMembers rest with
          | .error e => .error e
          | .ok ms => .ok ((k, v) :: ms)

end

mutual

/-- Passing over a value asks only that its brackets, literals and quotes are in order. -/
def passable : Tree -> Bool
  | .array items complete => passableItems items && complete
  | .object members complete => passableMembers members && complete
  | .tooDeep inner => passable inner
  | .broken => false
  | _ => true

def passableItems : List Tree -> Bool
  | [] => true
  | t :: rest => passable t && passableItems rest

def passableMembers : List (Option String × Tree) -> Bool
  | [] => true
  | (_, t) :: rest => passable t && passableMembers rest

end

/-- The fault of a tree whose shape is not the wanted one: texts that form no value come first. -/
def misfit : Tree -> Fault
  | .number none => .malformed
  | .string none => .malformed
  | .broken => .malformed
  | .tooDeep _ => .mismatch none
  | _ => .mismatch none

end Tree
end ContentGateway
