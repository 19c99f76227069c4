import ContentGateway.Decimal.Reading
import ContentGateway.Query
import ContentGateway.Query.Words

/-!
# Evaluating queries

Whether a document satisfies a query.  Fields compare with values loosely: an array
stands for each of its items, numbers and booleans compare with their texts.
-/

namespace ContentGateway

/-- The order of two doubles; there is none with not a number. -/
def floatOrder (x y : Float) : Option Ordering :=
  if x < y then some .lt
  else if y < x then some .gt
  else if x == y then some .eq
  else none

/-- A text stands for a number. -/
def textIsNumber (s : String) (n : Number) : Bool :=
  match Decimal.read? s with
  | some x => x == n.toFloat
  | none => false

namespace Json

/-- Equality of two values that are not looked into; numbers and booleans equal their texts. -/
def scalarEq : Json -> Json -> Bool
  | .number a, .number b => a.toFloat == b.toFloat
  | .string s, .number n => textIsNumber s n
  | .number n, .string s => textIsNumber s n
  | .string s, .bool b => s == (if b then "true" else "false")
  | .bool b, .string s => s == (if b then "true" else "false")
  | a, b => a.same b

/-- A field equals a value; an array does when one of its items does. -/
def termEq (field value : Json) : Bool :=
  match field with
  | .array items => items.any fun i => i.scalarEq value
  | field => field.scalarEq value

/-- The order of two values of comparable kinds. -/
def order : Json -> Json -> Option Ordering
  | .number a, .number b => floatOrder a.toFloat b.toFloat
  | .string a, .string b => some (compare a b)
  | .bool a, .bool b => some (compare a b)
  | .string s, .number n => (Decimal.read? s).bind fun x => floatOrder x n.toFloat
  | .number n, .string s => (Decimal.read? s).bind fun x => floatOrder n.toFloat x
  | _, _ => none

/-- A field stands to a value as a range operation asks; incomparable values never do. -/
def inRange (operation : Operation) (field value : Json) : Bool :=
  match order field value with
  | none => false
  | some o =>
      match operation with
      | .less => o == .lt
      | .lessOrEqual => o != .gt
      | .greater => o == .gt
      | .greaterOrEqual => o != .lt
      | _ => false

/-- A field and a value have a word in common. -/
def sharesWord (field value : Json) : Bool :=
  let words := Words.ofValue field
  (Words.ofValue value).any fun w => words.contains w

/-- The words of a value follow one another in a field, the last one as the start of a word. -/
def hasPhrase (field value : Json) : Bool :=
  Words.phraseIn (Words.ofValue value) (Words.ofValue field)

end Json

/-- The field equals one of the candidates. -/
def isOneOf (field : Option Json) (candidates : List Json) : Bool :=
  field.any fun f => candidates.any fun c => f.termEq c

/-- Does a document pass a filter?  A collection filter without a collection lets all documents pass. -/
def Filter.holds (f : Filter) (document : Fields) : Bool :=
  let field := Table.get? document f.name
  match f.operation with
  | .fullText => (f.names.filterMap (Table.get? document)).any fun v => v.hasPhrase f.value
  | .equals => field.any fun v => v.termEq f.value
  | .notEquals => !field.any fun v => v.termEq f.value
  | .contains => field.any fun v => v.sharesWord f.value
  | .isIn =>
      match f.value.asArray? with
      | none => true
      | some candidates => isOneOf field candidates
  | .notIn =>
      match f.value.asArray? with
      | none => true
      | some candidates => !isOneOf field candidates
  | operation => field.any fun v => Json.inRange operation v f.value

namespace Query

mutual

/-- Does a document satisfy a query? -/
def holds : Query -> Fields -> Bool
  | mk fs qs, document =>
      (fs.isEmpty && qs.isEmpty)
        || (!fs.isEmpty && fs.all fun f => f.holds document)
        || holdsAny qs document

def holdsAny : List Query -> Fields -> Bool
  | [], _ => false
  | q :: rest, document => holds q document || holdsAny rest document

end

end Query
end ContentGateway
