import ContentGateway.Json.Tree

/-!
# Reading records

Typed readings of a tree.  A record is read from an object, where the order of the
members is free, members without a slot are passed over and a slot is filled once;
or from an array that lists the slots in order.
-/

namespace ContentGateway

/-- A typed reading of a tree. -/
abbrev Reading (α : Type) := Tree -> Except Fault α

namespace Reading

def json : Reading Json :=
  Tree.toJson

def string : Reading String
  | .string (some s) => .ok s
  | t => .error t.misfit

def bool : Reading Bool
  | .bool b => .ok b
  | t => .error t.misfit

/-- A count or position: an integer that fits into a machine word of 64 bits. -/
def word : Reading Nat
  | .number (some (.int n)) =>
      if 0 ≤ n ∧ n ≤ largestWord then .ok n.toNat else .error (.mismatch none)
  | t => .error t.misfit

/-- A value that may be `null`. -/
def option (read : Reading α) : Reading (Option α)
  | .null => .ok none
  | t => (read t).map some

/-- Named free values. -/
def fields : Reading Fields
  | .object members complete =>
      match Tree.toJson (.object members complete) with
      | .ok (.object ms) => .ok ms
      | .ok _ => .error (.mismatch none)
      | .error e => .error e
  | .tooDeep (.object _ _) => .error .malformed
  | t => .error t.misfit

def listItems (read : Reading α) : List Tree -> Except Fault (List α)
  | [] => .ok []
  | t :: rest =>
      match read t with
      | .error e => .error e
      | .ok v =>
          match listItems read rest with
          | .error e => .error e
          | .ok vs => .ok (v :: vs)

def list (read : Reading α) : Reading (List α)
  | .array items complete =>
      match listItems read items with
      | .error e => .error e
      | .ok vs => if complete then .ok vs else .error .malformed
  | .tooDeep (.array _ _) => .error .malformed
  | t => .error t.misfit

def isNull : Tree -> Bool
  | .null => true
  | _ => false

/-- Neither `null` nor an object without members says anything. -/
def isEmptyContent : Tree -> Bool
  | .object [] complete => complete
  | t => isNull t

/-- One of a few names, given as a string or as an object with that name over an empty value. -/
def tag (isEmpty : Tree -> Bool) (names : List (String × α)) : Reading α :=
  let find (s : String) : Except Fault α :=
    match names.find? fun e => e.1 == s with
    | some e => .ok e.2
    | none => .error (.mismatch none)
  fun t =>
    match t with
    | .string (some s) => find s
    | .object [] _ => .error .malformed
    | .object ((none, _) :: _) _ => .error .malformed
    | .object ((some s, inner) :: more) complete =>
        match find s with
        | .error e => .error e
        | .ok v =>
            if !isEmpty inner then .error inner.misfit
            else if complete && more.isEmpty then .ok v
            else .error .malformed
    | .tooDeep (.object _ _) => .error .malformed
    | t => .error t.misfit

end Reading

/-- A slot of a record in the making: its names, and how its tree changes the record. -/
structure Slot (σ : Type) where
  names : List String
  /-- Without it there is no record; any other slot keeps its default when it is left out. -/
  isRequired : Bool
  fill : Tree -> σ -> Except Fault σ

namespace Slot

/-- The name under which a slot is remembered. -/
def label (s : Slot σ) : String :=
  s.names.headD ""

def required (name : String) (read : Reading α) (put : α -> σ -> σ) : Slot σ :=
  ⟨[name], true, fun t r => (read t).map fun v => put v r⟩

def defaulted (name : String) (read : Reading α) (put : α -> σ -> σ) : Slot σ :=
  ⟨[name], false, fun t r => (read t).map fun v => put v r⟩

/-- Fills slots from members in the order in which these stand; `seen` holds the slots filled so far. -/
def fillMembers (slots : List (Slot σ)) :
    List (Option String × Tree) -> List String -> σ -> Except Fault (List String × σ)
  | [], seen, r => .ok (seen, r)
  | (none, _) :: _, _, _ => .error .malformed
  | (some k, t) :: rest, seen, r =>
      match slots.find? fun s => s.names.contains k with
      | none =>
          if t.passable then fillMembers slots rest seen r else .error .malformed
      | some s =>
          if seen.contains s.label then .error (.mismatch none)
          else
            match s.fill t r with
            | .error e => .error e
            | .ok r => fillMembers slots rest (s.label :: seen) r

/-- Fills slots from items in order. -/
def fillItems (complete : Bool) : List (Slot σ) -> List Tree -> σ -> Except Fault σ
  | [], [], r => if complete then .ok r else .error .malformed
  | [], _ :: _, _ => .error .malformed
  | slots, [], r =>
      if !complete then .error .malformed
      else if slots.all fun s => !s.isRequired then .ok r
      else .error (.mismatch none)
  | s :: slots, t :: items, r =>
      match s.fill t r with
      | .error e => .error e
      | .ok r => fillItems complete slots items r

end Slot

/-- Reads an object as a record that starts out as `start`. -/
def Reading.object (slots : List (Slot σ)) (start : σ) : Reading σ
  | .object members complete =>
      match Slot.fillMembers slots members [] start with
      | .error e => .error e
      | .ok (seen, r) =>
          if !complete then .error .malformed
          else if slots.all fun s => !s.isRequired || seen.contains s.label then .ok r
          else .error (.mismatch none)
  | .tooDeep (.object _ _) => .error .malformed
  | t => .error t.misfit

/-- Reads an object or an array as a record that starts out as `start`. -/
def Reading.record (slots : List (Slot σ)) (start : σ) : Reading σ
  | .array items complete => Slot.fillItems complete slots items start
  | .tooDeep (.array _ _) => .error .malformed
  | t => Reading.object slots start t

/-- A reading followed by a rule of the type. -/
def Reading.refine (read : Reading α) (rule : α -> Except String β) : Reading β :=
  fun t =>
    match read t with
    | .error e => .error e
    | .ok v => (rule v).mapError fun m => .mismatch (some m)

/-- Reads a value as a value of a type. -/
def Reading.ofJson (read : Reading α) (v : Json) : Except Fault α :=
  read (Tree.ofJson v)

end ContentGateway
