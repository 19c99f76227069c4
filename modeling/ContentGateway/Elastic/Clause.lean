import ContentGateway.Page
import ContentGateway.Query

/-!
# Search clauses

The query language of the search engine, as far as the gateway speaks it: leaf
clauses on fields, and boolean clauses that combine them.  Queries are turned
clause by clause; what a query demands goes to `must` or `filter`, what it rules out
to `must_not`, and alternatives to `should`.
-/

namespace ContentGateway
namespace Elastic

/-- Which side of a value a range lies on. -/
inductive Bound where
  | below
  | upTo
  | above
  | from
  deriving DecidableEq, Repr

namespace Bound

def token : Bound -> String
  | .below => "lt"
  | .upTo => "lte"
  | .above => "gt"
  | .from => "gte"

end Bound

inductive Clause where
  | matchAll
  /-- The field equals a value. -/
  | term (field : String) (value : Json)
  /-- The field equals one of the values of a collection. -/
  | terms (field : String) (values : Json)
  /-- The field shares a word with a value. -/
  | words (field : String) (value : Json)
  /-- One of the fields has the words of a value in a row, the last one as the start of a word. -/
  | phrase (fields : List String) (value : Json)
  | range (field : String) (bound : Bound) (value : Json)
  /-- All of `must` and `filter`, none of `mustNot`, and if there is a minimum so many of `should`. -/
  | bool (must mustNot filter should : List Clause) (minimum : Option Nat)

namespace Clause

/-- A section of a boolean clause; an empty one is left out. -/
def group? (name : String) (clauses : List Json) : List (String × Json) :=
  if clauses.isEmpty then [] else [(name, .array clauses)]

def object1 (name : String) (value : Json) : Json :=
  .ofMembers [(name, value)]

mutual

def toJson : Clause -> Json
  | .matchAll => object1 "match_all" (.object [])
  | .term field value => object1 "term" (object1 field value)
  | .terms field values => object1 "terms" (object1 field values)
  | .words field value => object1 "match" (object1 field value)
  | .phrase fields value =>
      object1 "multi_match" (.ofMembers [("query", value), ("fields", Json.strings fields),
        ("type", .string "phrase_prefix")])
  | .range field bound value => object1 "range" (object1 field (object1 bound.token value))
  | .bool must mustNot filter should minimum =>
      object1 "bool" (.ofMembers (
        group? "must" (toItems must) ++ group? "must_not" (toItems mustNot)
          ++ group? "filter" (toItems filter) ++ group? "should" (toItems should)
          ++ (match minimum with
            | some n => [("minimum_should_match", .nat n)]
            | none => [])))

def toItems : List Clause -> List Json
  | [] => []
  | c :: rest => toJson c :: toItems rest

end

/-!
# The clauses of queries
-/

/-- Where the clause of a filter goes. -/
inductive Section where
  | must
  | mustNot
  | filter
  deriving DecidableEq, Repr

/-- The clause of a filter and its section; a collection filter without a collection has none. -/
def ofFilter (f : Filter) : Option (Section × Clause) :=
  match f.operation with
  | .fullText => some (.must, .phrase f.names f.value)
  | .equals => some (.must, .term f.name f.value)
  | .notEquals => some (.mustNot, .term f.name f.value)
  | .contains => some (.must, .words f.name f.value)
  | .isIn => f.value.asArray?.map fun _ => (.filter, .terms f.name f.value)
  | .notIn => f.value.asArray?.map fun _ => (.mustNot, .terms f.name f.value)
  | .less => some (.must, .range f.name .below f.value)
  | .lessOrEqual => some (.must, .range f.name .upTo f.value)
  | .greater => some (.must, .range f.name .above f.value)
  | .greaterOrEqual => some (.must, .range f.name .from f.value)

/-- The clauses of one section, in the order of the filters. -/
def inSection (s : Section) (clauses : List (Section × Clause)) : List Clause :=
  clauses.filterMap fun c => if c.1 = s then some c.2 else none

/-- The conjunction of filters. -/
def ofFilters (fs : List Filter) : Clause :=
  let clauses := fs.filterMap ofFilter
  .bool (inSection .must clauses) (inSection .mustNot clauses) (inSection .filter clauses) [] none

mutual

/-- The clause of a query. -/
def ofQuery : Query -> Clause
  | .mk fs qs =>
      if fs.isEmpty && qs.isEmpty then .matchAll
      else if qs.isEmpty then ofFilters fs
      else
        .bool [] [] [] ((if fs.isEmpty then [] else [ofFilters fs]) ++ ofQueries qs) (some 1)

def ofQueries : List Query -> List Clause
  | [] => []
  | q :: rest => ofQuery q :: ofQueries rest

end

end Clause

/-- The body of a search: the query, the page, its order, and an exact count of all hits. -/
def searchBody (query : Query) (request : PageRequest) : Json :=
  let sort := match request.sort with
    | none => []
    | some field =>
        [("sort", .array [Clause.object1 field (.ofMembers [
          ("order", .string request.direction.display), ("unmapped_type", .string "keyword")])])]
  .ofMembers ([("query", (Clause.ofQuery query).toJson), ("from", .nat request.offset),
    ("size", .nat request.size), ("track_total_hits", .bool true)] ++ sort)

end Elastic
end ContentGateway
