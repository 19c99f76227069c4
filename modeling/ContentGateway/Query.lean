import ContentGateway.Json.Record

/-!
# Queries

Predicates on documents, independent of the engine that evaluates them.  A query is
a conjunction of filters, joined by *or* with its alternatives; a query without
either matches every document.
-/

namespace ContentGateway

/-- How a filter compares a field with its value. -/
inductive Operation where
  | fullText
  | equals
  | notEquals
  | contains
  | isIn
  | notIn
  | less
  | lessOrEqual
  | greater
  | greaterOrEqual
  deriving DecidableEq, Repr

namespace Operation

/-- The name of an operation on the wire. -/
def token : Operation -> String
  | .fullText => "FULL_TEXT"
  | .equals => "EQUALS"
  | .notEquals => "NOT_EQUALS"
  | .contains => "CONTAINS"
  | .isIn => "IN"
  | .notIn => "NOT_IN"
  | .less => "LT"
  | .lessOrEqual => "LTE"
  | .greater => "GT"
  | .greaterOrEqual => "GTE"

def all : List Operation :=
  [.fullText, .equals, .notEquals, .contains, .isIn, .notIn, .less, .lessOrEqual, .greater,
    .greaterOrEqual]

/-- The value has to be a collection. -/
def requiresCollection : Operation -> Bool
  | .isIn | .notIn => true
  | _ => false

/-- The field is compared by order. -/
def isRange : Operation -> Bool
  | .less | .lessOrEqual | .greater | .greaterOrEqual => true
  | _ => false

def toJson (o : Operation) : Json :=
  .string o.token

def reading : Reading Operation :=
  Reading.tag Reading.isNull (all.map fun o => (o.token, o))

end Operation

/-!
# Filters
-/

/-- A predicate on one field, or on several for a full text search. -/
structure Filter where
  names : List String
  operation : Operation
  value : Json

namespace Filter

/-- The first field name. -/
def name (f : Filter) : String :=
  f.names.headD ""

/-- One field is written as `name`, several as `names`. -/
def toJson (f : Filter) : Json :=
  .ofMembers (
    (match f.names with
      | [name] => [("name", .string name)]
      | names => [("names", Json.strings names)])
    ++ [("operation", f.operation.toJson), ("value", f.value)])

/-- A filter on the wire, where both ways to give names may be used at once. -/
structure Draft where
  name : Option String
  names : Option (List String)
  operation : Operation
  value : Json

def slots : List (Slot Draft) := [
  .defaulted "name" (Reading.option Reading.string) fun n d => { d with name := n },
  .defaulted "names" (Reading.option (Reading.list Reading.string)) fun ns d =>
    { d with names := ns },
  .required "operation" Operation.reading fun o d => { d with operation := o },
  .defaulted "value" Reading.json fun v d => { d with value := v }]

/-- The single name comes first; a filter needs at least one. -/
def ofDraft (d : Draft) : Except String Filter :=
  match d.name.toList ++ d.names.getD [] with
  | [] => .error "filter requires `name` or `names`"
  | names => .ok ⟨names, d.operation, d.value⟩

def reading : Reading Filter :=
  (Reading.record slots ⟨none, none, .equals, .null⟩).refine ofDraft

end Filter

/-!
# Query trees
-/

inductive Query where
  | mk (filters : List Filter) (alternatives : List Query)

namespace Query

def filters : Query -> List Filter
  | mk fs _ => fs

def alternatives : Query -> List Query
  | mk _ qs => qs

/-- The query that matches every document. -/
def empty : Query :=
  mk [] []

instance : Inhabited Query := ⟨empty⟩

def isEmpty (q : Query) : Bool :=
  q.filters.isEmpty && q.alternatives.isEmpty

/-- Adds a filter at the end. -/
def withFilter (q : Query) (f : Filter) : Query :=
  mk (q.filters ++ [f]) q.alternatives

/-- Adds a filter on one field. -/
def filter (q : Query) (name : String) (operation : Operation) (value : Json) : Query :=
  q.withFilter ⟨[name], operation, value⟩

def fullText (q : Query) (names : List String) (value : Json) : Query :=
  q.withFilter ⟨names, .fullText, value⟩

def equals (q : Query) (name : String) (value : Json) : Query :=
  q.filter name .equals value

def notEquals (q : Query) (name : String) (value : Json) : Query :=
  q.filter name .notEquals value

def contains (q : Query) (name : String) (value : Json) : Query :=
  q.filter name .contains value

def isIn (q : Query) (name : String) (values : List Json) : Query :=
  q.filter name .isIn (.array values)

def notIn (q : Query) (name : String) (values : List Json) : Query :=
  q.filter name .notIn (.array values)

def less (q : Query) (name : String) (value : Json) : Query :=
  q.filter name .less value

def lessOrEqual (q : Query) (name : String) (value : Json) : Query :=
  q.filter name .lessOrEqual value

def greater (q : Query) (name : String) (value : Json) : Query :=
  q.filter name .greater value

def greaterOrEqual (q : Query) (name : String) (value : Json) : Query :=
  q.filter name .greaterOrEqual value

/-- Adds an alternative to the filters. -/
def or (q alternative : Query) : Query :=
  mk q.filters (q.alternatives ++ [alternative])

/-!
# On the wire
-/

mutual

/-- Alternatives are written only if there are any. -/
def toJson : Query -> Json
  | mk fs qs =>
      .ofMembers (("query", .array (fs.map Filter.toJson))
        :: (if qs.isEmpty then [] else [("or", .array (toItems qs))]))

def toItems : List Query -> List Json
  | [] => []
  | q :: rest => toJson q :: toItems rest

end

/-- Reads a query whose alternatives are nested no deeper than `nesting`. -/
def readNested : Nat -> Reading Query
  | 0 => fun t => .error t.misfit
  | nesting + 1 =>
      Reading.record [
        .defaulted "query" (Reading.list Filter.reading) fun fs q => mk fs q.alternatives,
        .defaulted "or" (Reading.list (readNested nesting)) fun qs q => mk q.filters qs] empty

def reading : Reading Query :=
  fun t => readNested (t.depth + 1) t

end Query
end ContentGateway
