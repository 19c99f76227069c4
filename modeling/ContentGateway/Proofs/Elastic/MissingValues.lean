import ContentGateway.Elastic.Fields
import ContentGateway.Proofs.Table

/-!
# Missing values

Fields whose missing values are replaced, level by level: a level is what names lead to,
one object inside the other.  Replacing goes the same way at every level, so that no level
shows a missing value afterwards, and names and all other values stay.
-/

namespace ContentGateway
namespace Elastic

def isMissing : Json -> Bool
  | .null => true
  | .string s => s == ""
  | _ => false

/-!
# One value
-/

theorem replaceNull_of_missing {v : Json} (h : isMissing v = true) : replaceNull v = nullText := by
  cases v with
  | null => rfl
  | string s => exact if_pos (beq_iff_eq.mp h)
  | bool | number | array | object => cases h

theorem replaceNull_of_present {v : Json} (h : isMissing v = false) (hmembers : v.asObject? = none) :
    replaceNull v = v := by
  cases v with
  | null => cases h
  | string s => exact if_neg (beq_eq_false_iff_ne.mp h)
  | object members => cases hmembers
  | bool | number | array => rfl

theorem isMissing_replaceNull (v : Json) : isMissing (replaceNull v) = false := by
  cases hmissing : isMissing v with
  | true =>
      rw [replaceNull_of_missing hmissing]
      rfl
  | false =>
      cases hmembers : v.asObject? with
      | none =>
          rw [replaceNull_of_present hmissing hmembers]
          exact hmissing
      | some members =>
          cases v with
          | object => rfl
          | null | bool | number | string | array => cases hmembers

theorem asObject?_replaceNull (v : Json) :
    (replaceNull v).asObject? = v.asObject?.map replaceNulls := by
  cases v with
  | string s =>
      rw [replaceNull]
      split
      · rfl
      · rfl
  | null | bool | number | array | object => rfl

/-!
# One level
-/

theorem replaceNulls_eq_map (fields : Fields) :
    replaceNulls fields = fields.map fun e => (e.1, replaceNull e.2) := by
  induction fields with
  | nil => rfl
  | cons e rest ih => rw [replaceNulls, ih, List.map_cons]

theorem keys_replaceNulls (fields : Fields) :
    Table.keys (replaceNulls fields) = Table.keys fields := by
  unfold Table.keys
  rw [replaceNulls_eq_map, List.map_map]
  rfl

theorem get?_replaceNulls (fields : Fields) (key : String) :
    Table.get? (replaceNulls fields) key = (Table.get? fields key).map replaceNull := by
  induction fields with
  | nil => rfl
  | cons e rest ih =>
      rcases e with ⟨k, v⟩
      rw [replaceNulls, Table.get?, Table.get?]
      split
      · rfl
      · exact ih

theorem isMissing_of_mem_replaceNulls {fields : Fields} {e : String × Json}
    (h : e ∈ replaceNulls fields) : isMissing e.2 = false := by
  rw [replaceNulls_eq_map] at h
  rcases List.mem_map.mp h with ⟨old, _, rfl⟩
  exact isMissing_replaceNull old.2

mutual

theorem replaceNull_replaceNull : forall v : Json, replaceNull (replaceNull v) = replaceNull v
  | .null | .bool _ | .number _ | .array _ => rfl
  | .string s => by
      rw [replaceNull]
      split
      · rfl
      · next hs => exact if_neg hs
  | .object members => by
      rw [replaceNull, replaceNull, replaceNulls_replaceNulls members]

theorem replaceNulls_replaceNulls : forall fields : List (String × Json),
    replaceNulls (replaceNulls fields) = replaceNulls fields
  | [] => rfl
  | (k, v) :: rest => by
      rw [replaceNulls, replaceNulls, replaceNull_replaceNull v, replaceNulls_replaceNulls rest]

end

/-!
# All levels
-/

/-- The fields that names lead to, one object inside the other. -/
def level? : Fields -> List String -> Option Fields
  | fields, [] => some fields
  | fields, name :: names =>
      ((Table.get? fields name).bind Json.asObject?).bind fun inner => level? inner names

/-- The same names lead to the same level, with its missing values replaced. -/
theorem level?_replaceNulls (fields : Fields) (names : List String) :
    level? (replaceNulls fields) names = (level? fields names).map replaceNulls := by
  induction names generalizing fields with
  | nil => rfl
  | cons name names ih =>
      rw [level?, level?, get?_replaceNulls]
      cases Table.get? fields name with
      | none => rfl
      | some v =>
          rw [Option.map_some, Option.bind_some, Option.bind_some, asObject?_replaceNull]
          cases v.asObject? with
          | none => rfl
          | some inner => exact ih inner

/-- Replacing missing values is done once and for all.  The levels and their names stay, no
level shows a missing value, missing ones are replaced by a text, and every other value but
an object stays as it is. -/
theorem missing_values_replaced (fields : Fields) :
    replaceNulls (replaceNulls fields) = replaceNulls fields ∧
      forall names : List String,
        (level? (replaceNulls fields) names).map Table.keys =
            (level? fields names).map Table.keys ∧
          (forall level, level? (replaceNulls fields) names = some level ->
            forall e, e ∈ level -> isMissing e.2 = false) ∧
          forall level, level? fields names = some level ->
            forall key v, Table.get? level key = some v ->
              (isMissing v = true ->
                (level? (replaceNulls fields) names).bind (Table.get? · key) = some nullText) ∧
              (isMissing v = false -> v.asObject? = none ->
                (level? (replaceNulls fields) names).bind (Table.get? · key) = some v) := by
  refine ⟨replaceNulls_replaceNulls fields, fun names => ?_⟩
  rw [level?_replaceNulls]
  refine ⟨?_, ?_, ?_⟩
  · rw [Option.map_map]
    exact congrArg (Option.map · _) (funext keys_replaceNulls)
  · intro level hlevel e he
    rcases Option.map_eq_some_iff.mp hlevel with ⟨old, _, rfl⟩
    exact isMissing_of_mem_replaceNulls he
  · intro level hlevel key v hv
    have hnew : ((level? fields names).map replaceNulls).bind (Table.get? · key) =
        some (replaceNull v) := by
      rw [hlevel, Option.map_some, Option.bind_some, get?_replaceNulls, hv, Option.map_some]
    rw [hnew]
    constructor
    · exact fun hmissing => congrArg some (replaceNull_of_missing hmissing)
    · exact fun hpresent hmembers => congrArg some (replaceNull_of_present hpresent hmembers)

def sparseFields : Fields :=
  [("author", .string ""), ("scan", .object [("pages", .nat 0), ("place", .null)]),
    ("tags", .array [.null, .string ""])]

theorem missing_values_replaced_sparse :
    replaceNulls sparseFields =
        [("author", nullText), ("scan", .object [("pages", .nat 0), ("place", nullText)]),
          ("tags", .array [.null, .string ""])] ∧
      (forall level, level? (replaceNulls sparseFields) ["scan"] = some level ->
        Table.keys level = ["pages", "place"] ∧ forall e, e ∈ level -> isMissing e.2 = false) ∧
      (level? (replaceNulls sparseFields) ["scan"]).bind (Table.get? · "place") = some nullText ∧
      (level? (replaceNulls sparseFields) []).bind (Table.get? · "tags") =
        some (.array [.null, .string ""]) := by
  rcases (missing_values_replaced sparseFields).2 ["scan"] with ⟨hkeys, hshown, hscan⟩
  rcases (missing_values_replaced sparseFields).2 [] with ⟨_, _, htop⟩
  refine ⟨rfl, ?_, (hscan _ rfl "place" .null rfl).1 rfl,
    (htop _ rfl "tags" (.array [.null, .string ""]) rfl).2 rfl rfl⟩
  intro level hlevel
  rw [hlevel] at hkeys
  exact ⟨Option.some.inj hkeys, hshown level hlevel⟩

end Elastic
end ContentGateway
