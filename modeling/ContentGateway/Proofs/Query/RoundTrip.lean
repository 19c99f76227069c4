import ContentGateway.Proofs.Elastic.Meaning
import ContentGateway.Proofs.Json.Record
import ContentGateway.Proofs.Json.Values
import ContentGateway.Query

/-!
# Queries on the wire

A query is read back from what is written of it.  Whatever is read as a query, from an
object or from an array, with one name or several, is a query whose filters can be written
and read again.
-/

namespace ContentGateway

/-!
# Queries that can be written
-/

/-- A filter that says which fields it is about, and whose value is one that is read. -/
structure Filter.Sound (f : Filter) : Prop where
  named : f.names ≠ []
  tidy : f.value.isTidy = true

/-- A filter stands in a query or, at any depth, in one of its alternatives. -/
inductive Query.Mentions : Query -> Filter -> Prop where
  | here {fs : List Filter} {qs : List Query} {f : Filter} :
      f ∈ fs -> Query.Mentions (.mk fs qs) f
  | deeper {fs : List Filter} {qs : List Query} {q : Query} {f : Filter} :
      q ∈ qs -> Query.Mentions q f -> Query.Mentions (.mk fs qs) f

def Query.Sound (q : Query) : Prop :=
  forall f, q.Mentions f -> f.Sound

theorem Query.sound_iff {q : Query} :
    q.Sound ↔ (forall f, f ∈ q.filters -> f.Sound) ∧
      forall q', q' ∈ q.alternatives -> q'.Sound := by
  rcases q with ⟨fs, qs⟩
  constructor
  · intro h
    constructor
    · exact fun f hf => h f (.here hf)
    · exact fun q hq f hf => h f (.deeper hq hf)
  · intro h f hf
    cases hf with
    | here hmem => exact h.1 f hmem
    | deeper hq hmem => exact h.2 _ hq f hmem

/-!
# Filters are read back
-/

theorem Operation.reading_toJson (o : Operation) :
    Reading.ofJson Operation.reading o.toJson = .ok o := by
  cases o <;> rfl

theorem Filter.fillMembers_rest {f : Filter} (hvalue : f.value.isTidy = true)
    {seen : List String} (hoperation : "operation" ∉ seen) (hnew : "value" ∉ seen)
    (d : Filter.Draft) :
    Slot.fillMembers Filter.slots
        (Tree.ofMembers [("operation", f.operation.toJson), ("value", f.value)]) seen d =
      .ok ("value" :: "operation" :: seen, ⟨d.name, d.names, f.operation, f.value⟩) := by
  have hread : Reading.json (Tree.ofJson f.value) = .ok f.value := Json.toJson_ofJson hvalue
  have hop : Operation.reading (Tree.ofJson f.operation.toJson) = .ok f.operation :=
    Operation.reading_toJson f.operation
  rw [Tree.ofMembers, Tree.ofMembers, Tree.ofMembers,
    Slot.fillMembers_new (k := "operation") rfl rfl hoperation (Slot.fill_required hop ..),
    Slot.fillMembers_new (k := "value") rfl rfl (by simpa using hnew)
      (Slot.fill_defaulted hread ..)]
  rfl

theorem Filter.record_toJson {f : Filter} (hvalue : f.value.isTidy = true)
    {s : Slot Filter.Draft} {k : String} {v : Json} {d : Filter.Draft}
    (hfind : Filter.slots.find? (fun s => s.names.contains k) = some s) (hlabel : s.label = k)
    (hfill : s.fill (Tree.ofJson v) ⟨none, none, .equals, .null⟩ = .ok d)
    (hk : k < "operation") :
    Reading.record Filter.slots ⟨none, none, .equals, .null⟩
        (Tree.ofJson (.ofMembers [(k, v), ("operation", f.operation.toJson), ("value", f.value)])) =
      .ok ⟨d.name, d.names, f.operation, f.value⟩ := by
  have hlast : "operation" < "value" := by decide
  have hordered :
      Table.Ordered [(k, v), ("operation", f.operation.toJson), ("value", f.value)] := by
    refine .cons ?_ (.cons ?_ (List.pairwise_singleton _ _))
    · intro e he
      rcases List.mem_cons.mp he with rfl | he
      · exact hk
      · rcases List.mem_singleton.mp he with rfl
        exact String.lt_trans hk hlast
    · intro e he
      rcases List.mem_singleton.mp he with rfl
      exact hlast
  have hoperation : "operation" ≠ k := fun heq => String.lt_irrefl _ (heq ▸ hk)
  have hvalueName : "value" ≠ k := fun heq => String.lt_irrefl _ (heq ▸ String.lt_trans hk hlast)
  have hmembers : Slot.fillMembers Filter.slots (Tree.ofMembers
      [(k, v), ("operation", f.operation.toJson), ("value", f.value)]) []
      ⟨none, none, .equals, .null⟩ =
        .ok (["value", "operation", k], ⟨d.name, d.names, f.operation, f.value⟩) := by
    rw [Tree.ofMembers, Slot.fillMembers_new hfind hlabel (List.not_mem_nil) hfill]
    exact Filter.fillMembers_rest hvalue (by simpa using hoperation) (by simpa using hvalueName) d
  rw [Json.ofMembers, hordered.ofList_eq, Tree.ofJson, Reading.record, Reading.object, hmembers]
  · rfl
  · intro items complete heq
    cases heq
  · intro items complete heq
    cases heq

/-- One name is read back from `name`, several are read back from `names`. -/
theorem Filter.reading_toJson {f : Filter} (h : f.Sound) :
    Reading.ofJson Filter.reading f.toJson = .ok f := by
  rcases f with ⟨names, operation, value⟩
  match names with
  | [] => exact absurd rfl h.named
  | [name] =>
      have hrecord := Filter.record_toJson h.tidy (k := "name") (v := .string name) rfl rfl rfl
        (by decide)
      exact Reading.refine_of_ok hrecord rfl
  | first :: second :: others =>
      have hnames : Reading.list Reading.string
          (Tree.ofJson (Json.strings (first :: second :: others))) =
            .ok (first :: second :: others) :=
        Reading.list_ofJson fun _ _ => rfl
      have hoption : Reading.option (Reading.list Reading.string)
          (Tree.ofJson (Json.strings (first :: second :: others))) =
            .ok (some (first :: second :: others)) :=
        congrArg (Except.map some) hnames
      have hrecord := Filter.record_toJson h.tidy (k := "names")
        (v := Json.strings (first :: second :: others)) rfl rfl
        (Slot.fill_defaulted hoption ..) (by decide)
      exact Reading.refine_of_ok hrecord rfl

/-!
# Queries are read back
-/

namespace Query

theorem toItems_eq (qs : List Query) : toItems qs = qs.map toJson := by
  induction qs with
  | nil => rfl
  | cons q rest ih => rw [toItems, ih, List.map_cons]

theorem toJson_eq (fs : List Filter) (qs : List Query) :
    (mk fs qs).toJson = .object
      ((if qs.isEmpty then [] else [("or", .array (qs.map toJson))])
        ++ [("query", .array (fs.map Filter.toJson))]) := by
  have hlt : "or" < "query" := by decide
  rw [toJson, toItems_eq, Json.ofMembers]
  cases qs with
  | nil => rfl
  | cons q rest => simp [Table.ofList, Table.extend_cons, Table.insert, hlt]

def wireSlots (read : Reading Query) : List (Slot Query) := [
  .defaulted "query" (Reading.list Filter.reading) fun fs q => mk fs q.alternatives,
  .defaulted "or" (Reading.list read) fun qs q => mk q.filters qs]

theorem readNested_succ (nesting : Nat) :
    readNested (nesting + 1) = Reading.record (wireSlots (readNested nesting)) empty := rfl

theorem record_toJson {read : Reading Query} {fs : List Filter} {qs : List Query}
    (hfilters : forall f, f ∈ fs -> Filter.reading (Tree.ofJson f.toJson) = .ok f)
    (halternatives : forall q, q ∈ qs -> read (Tree.ofJson q.toJson) = .ok q) :
    Reading.record (wireSlots read) empty (Tree.ofJson (mk fs qs).toJson) = .ok (mk fs qs) := by
  have hfs := Reading.list_ofJson hfilters
  have hqs := Reading.list_ofJson halternatives
  rw [toJson_eq, Tree.ofJson, Reading.record, Reading.object]
  · cases qs with
    | nil =>
        rw [List.isEmpty_nil, if_pos rfl, List.nil_append, Tree.ofMembers,
          Slot.fillMembers_new (k := "query") rfl rfl List.not_mem_nil
            (Slot.fill_defaulted hfs ..)]
        rfl
    | cons q rest =>
        rw [List.isEmpty_cons, if_neg Bool.false_ne_true, List.singleton_append, Tree.ofMembers,
          Tree.ofMembers,
          Slot.fillMembers_new (k := "or") rfl rfl List.not_mem_nil (Slot.fill_defaulted hqs ..),
          Slot.fillMembers_new (k := "query") rfl rfl (by decide) (Slot.fill_defaulted hfs ..)]
        rfl
  · intro items complete heq
    cases heq
  · intro items complete heq
    cases heq

theorem depth_alternative {fs : List Filter} {qs : List Query} {q : Query} (h : q ∈ qs) :
    (Tree.ofJson q.toJson).depth < (Tree.ofJson (mk fs qs).toJson).depth := by
  have hitem : (Tree.ofJson q.toJson).depth ≤
      Tree.depthItems (Tree.ofItems (qs.map toJson)) :=
    Json.depth_le_depthItems (List.mem_map_of_mem h)
  have hnotEmpty : qs.isEmpty = false := by
    cases qs with
    | nil => cases h
    | cons first rest => rfl
  rw [toJson_eq, hnotEmpty]
  simp only [Bool.false_eq_true, if_false, List.singleton_append, Tree.ofJson, Tree.ofMembers,
    Tree.depth, Tree.depthMembers]
  omega

theorem readNested_toJson {q : Query} : q.Sound ->
    forall {nesting : Nat}, (Tree.ofJson q.toJson).depth < nesting ->
      readNested nesting (Tree.ofJson q.toJson) = .ok q := by
  -- the nesting that may be followed shrinks along with the query
  induction q using Query.induction with
  | mk fs qs ih =>
      intro hsound nesting hdepth
      rcases sound_iff.mp hsound with ⟨hfilters, halternatives⟩
      cases nesting with
      | zero => exact absurd hdepth (Nat.not_lt_zero _)
      | succ nesting =>
          rw [readNested_succ]
          apply record_toJson
          · exact fun f hf => Filter.reading_toJson (hfilters f hf)
          · intro q hq
            have hless : (Tree.ofJson q.toJson).depth < (Tree.ofJson (mk fs qs).toJson).depth :=
              depth_alternative hq
            exact ih q hq (halternatives q hq) (by omega)

theorem reading_toJson {q : Query} (h : q.Sound) : Reading.ofJson reading q.toJson = .ok q :=
  readNested_toJson h (Nat.lt_succ_self _)

/-!
# What is read can be written
-/

end Query

theorem Filter.sound_of_reading {t : Tree} {f : Filter} (h : Filter.reading t = .ok f) :
    f.Sound := by
  rcases Reading.ok_of_refine h with ⟨d, hrecord, hrule⟩
  have htidy : d.value.isTidy = true := by
    apply Reading.record_keeps (P := fun d => d.value.isTidy = true) _ hrecord
    · rfl
    · intro s hs
      simp only [Filter.slots, List.mem_cons, List.not_mem_nil, or_false] at hs
      rcases hs with rfl | rfl | rfl | rfl
      · exact Slot.keeps_defaulted fun _ _ _ _ hd => hd
      · exact Slot.keeps_defaulted fun _ _ _ _ hd => hd
      · exact Slot.keeps_required fun _ _ _ _ hd => hd
      · exact Slot.keeps_defaulted fun _ _ _ hread _ => Json.isTidy_of_toJson hread
  unfold Filter.ofDraft at hrule
  split at hrule
  · cases hrule
  · next names hnames =>
      cases hrule
      exact ⟨hnames, htidy⟩

namespace Query

theorem sound_of_readNested {nesting : Nat} : forall {t : Tree} {q : Query},
    readNested nesting t = .ok q -> q.Sound := by
  induction nesting with
  | zero =>
      intro t q h
      cases h
  | succ nesting ih =>
      intro t q h
      rw [readNested_succ] at h
      apply Reading.record_keeps (P := Sound) _ h
      · exact sound_iff.mpr ⟨fun f hf => absurd hf List.not_mem_nil,
          fun q hq => absurd hq List.not_mem_nil⟩
      · intro s hs
        simp only [wireSlots, List.mem_cons, List.not_mem_nil, or_false] at hs
        rcases hs with rfl | rfl
        · apply Slot.keeps_defaulted
          intro t fs q hread hq
          exact sound_iff.mpr
            ⟨Reading.forall_of_list (fun _ _ => Filter.sound_of_reading) hread, (sound_iff.mp hq).2⟩
        · apply Slot.keeps_defaulted
          intro t qs q hread hq
          exact sound_iff.mpr ⟨(sound_iff.mp hq).1, Reading.forall_of_list (fun _ _ => ih) hread⟩

/-- A query of named filters is read back from what is written of it.  Whatever is read as a
query is such a query. -/
theorem wire_round_trip :
    (forall q : Query, q.Sound -> Reading.ofJson reading q.toJson = .ok q) ∧
      forall (v : Json) (q : Query), Reading.ofJson reading v = .ok q ->
        q.Sound ∧ Reading.ofJson reading q.toJson = .ok q := by
  constructor
  · exact fun q h => reading_toJson h
  · intro v q h
    have hsound : q.Sound := sound_of_readNested h
    exact ⟨hsound, reading_toJson hsound⟩

def nestedSearch : Query :=
  mk [⟨["title", "body"], .fullText, .string "gateway"⟩]
    [mk [⟨["size"], .isIn, .array [.nat 1, .object [("at least", .nat 4)]]⟩] []]

def listedSearch : Json :=
  .array [
    .array [.array [.string "title", .array [.string "body"], .string "FULL_TEXT",
      .string "gateway"]],
    .array [.ofMembers [("query", .array [.ofMembers [("name", .string "size"),
      ("operation", .string "IN"),
      ("value", .array [.nat 1, .object [("at least", .nat 4)]])]])]]]

theorem nestedSearch_sound : nestedSearch.Sound := by
  apply sound_iff.mpr
  constructor
  · intro f hf
    cases List.mem_singleton.mp hf
    exact ⟨List.cons_ne_nil _ _, rfl⟩
  · intro q hq
    cases List.mem_singleton.mp hq
    apply sound_iff.mpr
    constructor
    · intro f hf
      cases List.mem_singleton.mp hf
      exact ⟨List.cons_ne_nil _ _, by decide⟩
    · exact fun q hq => absurd hq List.not_mem_nil

theorem wire_round_trip_nestedSearch :
    Reading.ofJson reading nestedSearch.toJson = .ok nestedSearch ∧
      Reading.ofJson reading listedSearch = .ok nestedSearch ∧ nestedSearch.Sound := by
  have hlisted : Reading.ofJson reading listedSearch = .ok nestedSearch := by rfl
  constructor
  · exact wire_round_trip.1 nestedSearch nestedSearch_sound
  · constructor
    · exact hlisted
    · exact (wire_round_trip.2 listedSearch nestedSearch hlisted).1

end Query
end ContentGateway
