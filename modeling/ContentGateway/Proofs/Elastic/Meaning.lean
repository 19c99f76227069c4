import Mathlib.Data.List.Nodup
import ContentGateway.Elastic.Clause
import ContentGateway.Proofs.Table
import ContentGateway.Query.Evaluation

/-!
# What clauses mean

The clauses that the gateway writes, read by the boolean rules of the search engine: a
clause is true or false on a document, and a value that is no clause has no truth.  Leaf
clauses compare fields as queries do in memory.  Every query keeps its meaning when it
is written as a clause.
-/

namespace ContentGateway

/-!
# Induction on queries
-/

@[elab_as_elim]
theorem Query.induction {motive : Query -> Prop}
    (mk : forall fs qs, (forall q, q ∈ qs -> motive q) -> motive (Query.mk fs qs))
    (q : Query) : motive q :=
  match q with
  | .mk fs qs => mk fs qs fun q _ => Query.induction mk q

theorem Query.holdsAny_eq (qs : List Query) (document : Fields) :
    Query.holdsAny qs document = qs.any fun q => q.holds document := by
  induction qs with
  | nil => rfl
  | cons q rest ih => rw [Query.holdsAny, List.any_cons, ih]

namespace Elastic

/-!
# Leaf clauses
-/

def comparison? : String -> Option Operation
  | "lt" => some .less
  | "lte" => some .lessOrEqual
  | "gt" => some .greater
  | "gte" => some .greaterOrEqual
  | _ => none

def fieldHolds? (document : Fields) (kind field : String) (value : Json) : Option Bool :=
  let stored := Table.get? document field
  match kind with
  | "term" => some (stored.any fun v => v.termEq value)
  | "terms" => value.asArray?.map fun candidates => isOneOf stored candidates
  | "match" => some (stored.any fun v => v.sharesWord value)
  | "range" =>
      match value with
      | .object [(bound, limit)] =>
          (comparison? bound).map fun operation =>
            stored.any fun v => Json.inRange operation v limit
      | _ => none
  | _ => none

def phraseHolds? (document body : Fields) : Option Bool := do
  let value ← Table.get? body "query"
  let fields ← (← Table.get? body "fields").asArray?
  let names ← fields.mapM Json.asString?
  let kind ← (← Table.get? body "type").asString?
  if kind = "phrase_prefix" then
    some ((names.filterMap (Table.get? document)).any fun v => v.hasPhrase value)
  else none

/-!
# Boolean clauses
-/

def clausesIn (sections : Fields) (name : String) : List Json :=
  match Table.get? sections name with
  | some (.array clauses) => clauses
  | _ => []

/-- How many of the alternatives have to hold; without requirements it is one unless it is said. -/
def minimumOf (sections : Fields) : Nat :=
  match Table.get? sections "minimum_should_match" with
  | some (.number (.int n)) => n.toNat
  | _ =>
      if (clausesIn sections "must").isEmpty && (clausesIn sections "filter").isEmpty
          && !(clausesIn sections "should").isEmpty then 1
      else 0

theorem sizeOf_clausesIn_lt (sections : Fields) (name kind : String) :
    sizeOf (clausesIn sections name) < sizeOf (Json.object [(kind, .object sections)]) := by
  have hle : sizeOf (clausesIn sections name) ≤ 1 + sizeOf sections := by
    unfold clausesIn
    split
    · next clauses h =>
        have hmem := List.sizeOf_lt_of_mem (Table.mem_of_get? h)
        simp only [Prod.mk.sizeOf_spec, Json.array.sizeOf_spec] at hmem
        omega
    · simp only [List.nil.sizeOf_spec]
      omega
  simp only [Json.object.sizeOf_spec, List.cons.sizeOf_spec, Prod.mk.sizeOf_spec]
  omega

mutual

/-- The truth of a clause on a document. -/
def holds? (document : Fields) : Json -> Option Bool
  | .object [("match_all", _)] => some true
  | .object [("multi_match", .object body)] => phraseHolds? document body
  | .object [("bool", .object sections)] => do
      let must ← verdicts document (clausesIn sections "must")
      let filter ← verdicts document (clausesIn sections "filter")
      let mustNot ← verdicts document (clausesIn sections "must_not")
      let should ← verdicts document (clausesIn sections "should")
      some (must.all id && filter.all id && !mustNot.any id
        && decide (minimumOf sections ≤ should.count true))
  | .object [(kind, .object [(field, value)])] => fieldHolds? document kind field value
  | _ => none
termination_by v => sizeOf v
decreasing_by
  all_goals exact sizeOf_clausesIn_lt sections _ _

def verdicts (document : Fields) : List Json -> Option (List Bool)
  | [] => some []
  | c :: rest => do
      let verdict ← holds? document c
      let others ← verdicts document rest
      some (verdict :: others)
termination_by cs => sizeOf cs

end

/-!
# Sections as they are written
-/

theorem mem_group? {name : String} {clauses : List Json} {e : String × Json} :
    e ∈ Clause.group? name clauses ↔ clauses ≠ [] ∧ e = (name, .array clauses) := by
  unfold Clause.group?
  cases clauses with
  | nil => simp
  | cons c rest => simp

def sections (groups : List (String × List Json)) (beside : Fields) : Fields :=
  Table.ofList (groups.flatMap (fun g => Clause.group? g.1 g.2) ++ beside)

section

variable {groups : List (String × List Json)} {beside : Fields} {name : String}

theorem get?_sections_beside (groups : List (String × List Json)) (name : String)
    (value : Json) : Table.get? (sections groups [(name, value)]) name = some value := by
  unfold sections Table.ofList
  rw [Table.extend_append, Table.extend_cons, Table.extend_nil, Table.get?_insert, if_pos rfl]

theorem get?_sections_of_absent
    (hgroups : forall g, g ∈ groups -> g.1 = name -> g.2 = [])
    (hbeside : forall e, e ∈ beside -> e.1 ≠ name) :
    Table.get? (sections groups beside) name = none := by
  unfold sections Table.ofList
  rw [Table.get?_extend_of_absent]
  · rfl
  · intro e he hkey
    rcases List.mem_append.mp he with hgroup | hother
    · rcases List.mem_flatMap.mp hgroup with ⟨g, hg, hmem⟩
      rcases mem_group?.mp hmem with ⟨hsome, rfl⟩
      exact hsome (hgroups g hg hkey)
    · exact hbeside e hother hkey

/-- Reading finds in a section the clauses that were written there, also if there are none. -/
theorem clausesIn_sections (hnames : (groups.map Prod.fst).Nodup)
    (hbeside : forall e, e ∈ beside -> e.1 ≠ name) {clauses : List Json}
    (hmem : (name, clauses) ∈ groups) : clausesIn (sections groups beside) name = clauses := by
  have honly : forall g, g ∈ groups -> g.1 = name -> g.2 = clauses := by
    intro g hg hkey
    rw [List.inj_on_of_nodup_map hnames hg hmem hkey]
  unfold clausesIn
  by_cases hempty : clauses = []
  · rw [get?_sections_of_absent (fun g hg hkey => (honly g hg hkey).trans hempty) hbeside, hempty]
  · have hget : Table.get? (sections groups beside) name = some (.array clauses) := by
      apply Table.get?_extend_of_unique
      · exact List.mem_append_left _
          (List.mem_flatMap.mpr ⟨_, hmem, mem_group?.mpr ⟨hempty, rfl⟩⟩)
      · intro e he hkey
        rcases List.mem_append.mp he with hgroup | hother
        · rcases List.mem_flatMap.mp hgroup with ⟨g, hg, hin⟩
          rcases mem_group?.mp hin with ⟨_, rfl⟩
          rw [honly g hg hkey]
        · exact absurd hkey (hbeside e hother)
    rw [hget]

end

def minimumMembers : Option Nat -> Fields
  | some n => [("minimum_should_match", .nat n)]
  | none => []

def groups (must mustNot filter should : List Json) : List (String × List Json) :=
  [("must", must), ("must_not", mustNot), ("filter", filter), ("should", should)]

theorem toJson_bool (must mustNot filter should : List Clause) (minimum : Option Nat) :
    (Clause.bool must mustNot filter should minimum).toJson =
      .object [("bool", .object (sections
        (groups (Clause.toItems must) (Clause.toItems mustNot) (Clause.toItems filter)
          (Clause.toItems should)) (minimumMembers minimum)))] := by
  have hsections : sections (groups (Clause.toItems must) (Clause.toItems mustNot)
      (Clause.toItems filter) (Clause.toItems should)) (minimumMembers minimum) =
        Table.ofList (Clause.group? "must" (Clause.toItems must)
          ++ Clause.group? "must_not" (Clause.toItems mustNot)
          ++ Clause.group? "filter" (Clause.toItems filter)
          ++ Clause.group? "should" (Clause.toItems should) ++ minimumMembers minimum) := by
    simp [sections, groups]
  rw [hsections]
  cases minimum with
  | none => rfl
  | some n => rfl

section

variable (must mustNot filter should : List Json) (minimum : Option Nat)

theorem clausesIn_groups {name : String} {clauses : List Json}
    (hmem : (name, clauses) ∈ groups must mustNot filter should) :
    clausesIn (sections (groups must mustNot filter should) (minimumMembers minimum)) name =
      clauses := by
  apply clausesIn_sections
  · simp [groups]
  · intro e he
    cases minimum with
    | none => cases he
    | some n =>
        rw [List.mem_singleton.mp he]
        rintro rfl
        simp [groups] at hmem
  · exact hmem

@[simp] theorem clausesIn_must :
    clausesIn (sections (groups must mustNot filter should) (minimumMembers minimum)) "must" =
      must :=
  clausesIn_groups must mustNot filter should minimum (by simp [groups])

@[simp] theorem clausesIn_mustNot :
    clausesIn (sections (groups must mustNot filter should) (minimumMembers minimum)) "must_not" =
      mustNot :=
  clausesIn_groups must mustNot filter should minimum (by simp [groups])

@[simp] theorem clausesIn_filter :
    clausesIn (sections (groups must mustNot filter should) (minimumMembers minimum)) "filter" =
      filter :=
  clausesIn_groups must mustNot filter should minimum (by simp [groups])

@[simp] theorem clausesIn_should :
    clausesIn (sections (groups must mustNot filter should) (minimumMembers minimum)) "should" =
      should :=
  clausesIn_groups must mustNot filter should minimum (by simp [groups])

theorem minimumOf_sections :
    minimumOf (sections (groups must mustNot filter should) (minimumMembers minimum)) =
      minimum.getD (if must.isEmpty && filter.isEmpty && !should.isEmpty then 1 else 0) := by
  unfold minimumOf
  cases minimum with
  | some n =>
      have hget := get?_sections_beside (groups must mustNot filter should)
        "minimum_should_match" (.nat n)
      rw [minimumMembers, hget]
      rfl
  | none =>
      have habsent : Table.get? (sections (groups must mustNot filter should)
          (minimumMembers none)) "minimum_should_match" = none := by
        apply get?_sections_of_absent
        · intro g hg hkey
          simp only [groups, List.mem_cons, List.not_mem_nil, or_false] at hg
          rcases hg with rfl | rfl | rfl | rfl
          all_goals simp at hkey
        · intro e he
          cases he
      rw [habsent]
      simp only [clausesIn_must, clausesIn_filter, clausesIn_should, Option.getD_none]

end

theorem holds?_toJson_bool {document : Fields} {must mustNot filter should : List Clause}
    (minimum : Option Nat) {ms ns fs ss : List Bool}
    (hmust : verdicts document (Clause.toItems must) = some ms)
    (hmustNot : verdicts document (Clause.toItems mustNot) = some ns)
    (hfilter : verdicts document (Clause.toItems filter) = some fs)
    (hshould : verdicts document (Clause.toItems should) = some ss) :
    holds? document (Clause.bool must mustNot filter should minimum).toJson =
      some (ms.all id && fs.all id && !ns.any id
        && decide (minimum.getD (if (Clause.toItems must).isEmpty
            && (Clause.toItems filter).isEmpty && !(Clause.toItems should).isEmpty then 1 else 0)
          ≤ ss.count true)) := by
  rw [toJson_bool, holds?, minimumOf_sections, clausesIn_must, clausesIn_filter,
    clausesIn_mustNot, clausesIn_should, hmust, hmustNot, hfilter, hshould]
  rfl

/-!
# The clauses of filters
-/

theorem holds?_field (document : Fields) {kind : String} (field : String) (value : Json)
    (hkind : kind ∈ ["term", "terms", "match", "range"]) :
    holds? document (Clause.object1 kind (Clause.object1 field value)) =
      fieldHolds? document kind field value := by
  show holds? document (.object [(kind, .object [(field, value)])]) = _
  simp only [List.mem_cons, List.not_mem_nil, or_false] at hkind
  rcases hkind with rfl | rfl | rfl | rfl
  all_goals
    rw [holds?]
    all_goals simp

theorem mapM_asString?_strings (names : List String) :
    (names.map Json.string).mapM Json.asString? = some names := by
  induction names with
  | nil => rfl
  | cons name rest ih =>
      rw [List.map_cons, List.mapM_cons, ih]
      rfl

theorem holds?_phrase (document : Fields) (names : List String) (value : Json) :
    holds? document (Clause.phrase names value).toJson =
      some ((names.filterMap (Table.get? document)).any fun v => v.hasPhrase value) := by
  show holds? document (.object [("multi_match", .object (Table.ofList [("query", value),
    ("fields", Json.strings names), ("type", .string "phrase_prefix")]))]) = _
  have hquery : Table.get? (Table.ofList [("query", value), ("fields", Json.strings names),
      ("type", .string "phrase_prefix")]) "query" = some value := by
    simp [Table.ofList, Table.extend_cons, Table.get?_insert]
  have hfields : Table.get? (Table.ofList [("query", value), ("fields", Json.strings names),
      ("type", .string "phrase_prefix")]) "fields" = some (.array (names.map .string)) := by
    simp [Table.ofList, Table.extend_cons, Table.get?_insert, Json.strings]
  have htype : Table.get? (Table.ofList [("query", value), ("fields", Json.strings names),
      ("type", .string "phrase_prefix")]) "type" = some (.string "phrase_prefix") := by
    simp [Table.ofList, Table.extend_cons, Table.get?_insert]
  rw [holds?]
  unfold phraseHolds?
  rw [hquery, hfields, htype]
  simp only [Option.bind_eq_bind, Option.bind_some, Json.asArray?, Json.asString?,
    mapM_asString?_strings, if_true]

/-- What a filter demands is written in its section; a filter that is not written demands nothing. -/
theorem holds?_ofFilter (document : Fields) (f : Filter) :
    match Clause.ofFilter f with
    | none => f.holds document = true
    | some (place, clause) =>
        holds? document clause.toJson =
          some (if place = .mustNot then !f.holds document else f.holds document) := by
  rcases f with ⟨names, operation, value⟩
  cases operation with
  | fullText => exact holds?_phrase document names value
  | equals => exact holds?_field document _ value (by decide)
  | notEquals =>
      show holds? document (Clause.object1 "term" (Clause.object1 _ value)) = some (!(!_))
      rw [holds?_field document _ value (by decide), Bool.not_not]
      rfl
  | contains => exact holds?_field document _ value (by decide)
  | isIn =>
      cases value with
      | array candidates => exact holds?_field document _ _ (by decide)
      | _ => rfl
  | notIn =>
      cases value with
      | array candidates =>
          show holds? document (Clause.object1 "terms" (Clause.object1 _ (.array candidates))) =
            some (!(!_))
          rw [holds?_field document _ _ (by decide), Bool.not_not]
          rfl
      | _ => rfl
  | less => exact holds?_field document _ _ (by decide)
  | lessOrEqual => exact holds?_field document _ _ (by decide)
  | greater => exact holds?_field document _ _ (by decide)
  | greaterOrEqual => exact holds?_field document _ _ (by decide)

theorem verdicts_nil (document : Fields) : verdicts document (Clause.toItems []) = some [] := by
  rw [Clause.toItems, verdicts]

theorem verdicts_cons {document : Fields} {c : Clause} {rest : List Clause} {verdict : Bool}
    {others : List Bool} (hc : holds? document c.toJson = some verdict)
    (hrest : verdicts document (Clause.toItems rest) = some others) :
    verdicts document (Clause.toItems (c :: rest)) = some (verdict :: others) := by
  rw [Clause.toItems, verdicts, hc, hrest]
  rfl

def sectionOf? (f : Filter) : Option Clause.Section :=
  (Clause.ofFilter f).map Prod.fst

theorem sectionOf?_eq {f : Filter} {written : Option (Clause.Section × Clause)}
    (h : Clause.ofFilter f = written) : sectionOf? f = written.map Prod.fst := by
  rw [sectionOf?, h]

theorem inSection_cons_self (place : Clause.Section) (clause : Clause)
    (rest : List (Clause.Section × Clause)) :
    Clause.inSection place ((place, clause) :: rest) = clause :: Clause.inSection place rest := by
  simp [Clause.inSection]

theorem inSection_cons_of_ne {place s : Clause.Section} (h : place ≠ s) (clause : Clause)
    (rest : List (Clause.Section × Clause)) :
    Clause.inSection s ((place, clause) :: rest) = Clause.inSection s rest := by
  simp [Clause.inSection, h]

theorem verdicts_inSection (document : Fields) (fs : List Filter) (s : Clause.Section) :
    verdicts document (Clause.toItems (Clause.inSection s (fs.filterMap Clause.ofFilter))) =
      some ((fs.filter fun f => sectionOf? f = some s).map fun f =>
        if s = .mustNot then !f.holds document else f.holds document) := by
  induction fs with
  | nil => exact verdicts_nil document
  | cons f rest ih =>
      have hf := holds?_ofFilter document f
      cases hclause : Clause.ofFilter f with
      | none =>
          have hout : ¬ sectionOf? f = some s := by simp [sectionOf?_eq hclause]
          rw [List.filterMap_cons_none hclause, ih, List.filter_cons_of_neg (by simpa using hout)]
      | some written =>
          rcases written with ⟨place, clause⟩
          rw [hclause] at hf
          rw [List.filterMap_cons_some hclause]
          by_cases hplace : place = s
          · subst hplace
            have hin : sectionOf? f = some place := sectionOf?_eq hclause
            rw [inSection_cons_self, List.filter_cons_of_pos (by simpa using hin), List.map_cons]
            exact verdicts_cons hf ih
          · have hout : ¬ sectionOf? f = some s := by simp [sectionOf?_eq hclause, hplace]
            rw [inSection_cons_of_ne hplace, ih, List.filter_cons_of_neg (by simpa using hout)]

theorem all_sections (document : Fields) (fs : List Filter) :
    (((fs.filter fun f => sectionOf? f = some .must).map fun f => f.holds document).all id
      && ((fs.filter fun f => sectionOf? f = some .filter).map fun f => f.holds document).all id
      && !((fs.filter fun f => sectionOf? f = some .mustNot).map fun f =>
        !f.holds document).any id) =
      fs.all fun f => f.holds document := by
  rw [Bool.eq_iff_iff]
  simp only [Bool.and_eq_true, Bool.not_eq_true', List.all_eq_true, List.any_eq_false,
    List.mem_map, List.mem_filter, decide_eq_true_eq, id]
  constructor
  · rintro ⟨⟨hmust, hfilter⟩, hmustNot⟩ f hf
    cases hclause : Clause.ofFilter f with
    | none =>
        have hholds := holds?_ofFilter document f
        rw [hclause] at hholds
        exact hholds
    | some written =>
        rcases written with ⟨place, clause⟩
        have hplace : sectionOf? f = some place := sectionOf?_eq hclause
        cases place with
        | must => exact hmust _ ⟨f, ⟨hf, hplace⟩, rfl⟩
        | filter => exact hfilter _ ⟨f, ⟨hf, hplace⟩, rfl⟩
        | mustNot => simpa using hmustNot _ ⟨f, ⟨hf, hplace⟩, rfl⟩
  · intro h
    refine ⟨⟨?_, ?_⟩, ?_⟩
    · rintro _ ⟨f, ⟨hf, _⟩, rfl⟩
      exact h f hf
    · rintro _ ⟨f, ⟨hf, _⟩, rfl⟩
      exact h f hf
    · rintro _ ⟨f, ⟨hf, _⟩, rfl⟩
      rw [h f hf]
      decide

theorem holds?_ofFilters (document : Fields) (fs : List Filter) :
    holds? document (Clause.ofFilters fs).toJson = some (fs.all fun f => f.holds document) := by
  have hbool := holds?_toJson_bool none (verdicts_inSection document fs .must)
    (verdicts_inSection document fs .mustNot) (verdicts_inSection document fs .filter)
    (verdicts_nil document)
  have hno : (Clause.toItems []).isEmpty = true := rfl
  simp only [reduceCtorEq, if_true, if_false, all_sections, hno, Bool.not_true, Bool.and_false,
    Bool.false_eq_true, Option.getD_none, Nat.zero_le, decide_true, Bool.and_true] at hbool
  exact hbool

/-!
# The clauses of queries
-/

theorem verdicts_ofQueries {document : Fields} {qs : List Query}
    (h : forall q, q ∈ qs ->
      holds? document (Clause.ofQuery q).toJson = some (q.holds document)) :
    verdicts document (Clause.toItems (Clause.ofQueries qs)) =
      some (qs.map fun q => q.holds document) := by
  induction qs with
  | nil => exact verdicts_nil document
  | cons q rest ih =>
      exact verdicts_cons (h q (List.mem_cons_self ..))
        (ih fun q' hq' => h q' (List.mem_cons_of_mem _ hq'))

theorem holds?_alternatives {document : Fields} {should : List Clause} {vs : List Bool}
    (h : verdicts document (Clause.toItems should) = some vs) :
    holds? document (Clause.bool [] [] [] should (some 1)).toJson = some (vs.any id) := by
  rw [holds?_toJson_bool (some 1) (verdicts_nil document) (verdicts_nil document)
    (verdicts_nil document) h]
  congr 1
  rw [Bool.eq_iff_iff]
  simp [Nat.succ_le_iff, List.count_pos_iff]

theorem holds?_mk {document : Fields} (fs : List Filter) {qs : List Query}
    (h : forall q, q ∈ qs ->
      holds? document (Clause.ofQuery q).toJson = some (q.holds document)) :
    holds? document (Clause.ofQuery (.mk fs qs)).toJson =
      some ((Query.mk fs qs).holds document) := by
  have hqueries := verdicts_ofQueries h
  rw [Query.holds, Query.holdsAny_eq]
  cases qs with
  | nil =>
      cases fs with
      | nil =>
          have hall : (Clause.ofQuery (.mk [] [])).toJson =
              .object [("match_all", .object [])] := rfl
          rw [hall, holds?]
          rfl
      | cons f rest =>
          have hfilters : Clause.ofQuery (.mk (f :: rest) []) = Clause.ofFilters (f :: rest) := rfl
          rw [hfilters, holds?_ofFilters]
          simp
  | cons q others =>
      cases fs with
      | nil =>
          have hshould : Clause.ofQuery (.mk [] (q :: others)) =
              .bool [] [] [] (Clause.ofQueries (q :: others)) (some 1) := rfl
          rw [hshould, holds?_alternatives hqueries, List.any_map]
          rfl
      | cons f rest =>
          have hshould : Clause.ofQuery (.mk (f :: rest) (q :: others)) =
              .bool [] [] [] (Clause.ofFilters (f :: rest) :: Clause.ofQueries (q :: others))
                (some 1) := rfl
          have hall := verdicts_cons (holds?_ofFilters document (f :: rest)) hqueries
          rw [hshould, holds?_alternatives hall, List.any_cons, List.any_map]
          rfl

/--
Every query keeps its meaning on every document when it is written in the language of the
search engine.
-/
theorem holds?_ofQuery (document : Fields) (query : Query) :
    holds? document (Clause.ofQuery query).toJson = some (query.holds document) := by
  induction query using Query.induction with
  | mk fs qs ih => exact holds?_mk fs ih

end Elastic
end ContentGateway
