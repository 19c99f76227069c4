import ContentGateway.Proofs.Catalog.Values
import ContentGateway.Proofs.Elastic.Mirrors
import ContentGateway.Proofs.Json.Text

/-!
# The engine does what a catalog does

Whole histories of calls, from nothing on both sides.  What the server keeps comes back to the
engine as text, so the calls may carry only values that are read from their texts as what they
are.  Not every double is such a value.
-/

namespace ContentGateway
namespace Elastic

/-!
# Plain values
-/

/-- A value that is read from its text, with room for a document around it. -/
structure Plain (v : Json) : Prop where
  tidy : v.isTidy = true
  legible : JsonText.Legible v
  shallow : (Tree.ofJson v).depth ≤ JsonText.maxDepth - 2

theorem plain_string (s : String) : Plain (.string s) where
  tidy := rfl
  legible := trivial
  shallow := Nat.zero_le _

theorem plain_bool (b : Bool) : Plain (.bool b) where
  tidy := rfl
  legible := trivial
  shallow := Nat.zero_le _

/-- The texts of a server that show documents with plain values are read as what they show. -/
def Host.IsLegible (h : Host) : Prop :=
  forall index id source, MadeOf Plain source ->
    exists members inner,
      JsonText.tree (Utf8.glyphs (h.text (Host.shown index id source))) =
        (.object members true, true) ∧
      Host.Members index id inner members ∧ inner.toJson = .ok (.object source)

theorem legible_of_compact {h : Host} (hcompact : forall v, h.text v = Utf8.ofString v.compact) :
    h.IsLegible := by
  intro index id source hmade
  have hlegible : JsonText.Legible (Host.shown index id source) :=
    ⟨trivial, trivial, JsonText.legibleMembers_iff.mpr fun e he => (hmade.value e he).legible,
      trivial, trivial⟩
  have hdepth : (Tree.ofJson (Host.shown index id source)).depth ≤ JsonText.maxDepth := by
    have hinner : Tree.depthMembers (Tree.ofMembers source) ≤ JsonText.maxDepth - 2 :=
      Json.depthMembers_le fun e he => (hmade.value e he).shallow
    have houter : (Tree.ofJson (Host.shown index id source)).depth =
        Tree.depthMembers (Tree.ofMembers source) + 2 := by
      simp [Host.shown, Tree.ofJson, Tree.ofMembers, Tree.depth, Tree.depthMembers]
    rw [houter]
    exact Nat.add_le_of_le_sub (by decide) hinner
  have htidy : (Json.object source).isTidy = true := by
    apply Bool.and_eq_true_iff.mpr
    constructor
    · exact decide_eq_true hmade.ordered
    · exact Json.isTidyMembers_iff.mpr fun e he => (hmade.value e he).tidy
  have htree : JsonText.tree (Utf8.glyphs (h.text (Host.shown index id source))) =
      (Tree.ofJson (Host.shown index id source), true) := by
    rw [hcompact]
    exact JsonText.tree_compact hlegible hdepth
  have hmembers : Host.Members index id (Tree.ofJson (.object source))
      [(some "_id", .string (some id)), (some "_index", .string (some index)),
        (some "_source", Tree.ofJson (.object source)), (some "found", .bool true)] :=
    (List.Perm.swap ..).trans (.cons _ (.cons _ (.swap ..)))
  exact ⟨_, _, htree, hmembers, Json.toJson_ofJson htidy⟩

theorem Mirrors.shows {h : Host} (hlegible : h.IsLegible) {s : Server} {c : Catalog}
    (hm : Mirrors s c) (hplain : c.Holds Plain) : h.Shows s := by
  intro index id source hsource
  rw [hm.document] at hsource
  exact hlegible index id source (hplain index id source hsource)

theorem sound_of_carries {call : Indexer.Call} {kind : Json -> Prop} (h : call.Carries kind) :
    call.Sound := by
  cases call with
  | put index id contentId contentType fields => exact h.ordered
  | createIndex index configuration => trivial
  | remove index id => trivial
  | fetch index id => trivial
  | setField index id key value => trivial

/-!
# Histories
-/

section Served

variable {h : Host} {settings : Settings} (freshId : StateM Server String)

/-- Calls that are answered alike one by one are answered alike one after another. -/
theorem history_mirrors (hweb : settings.IsWeb) (hnull : settings.nullValues = false)
    (hlegible : h.IsLegible) {calls : List Indexer.Call}
    (hcalls : forall call, call ∈ calls -> call.Carries Plain ∧ IsNamed call)
    (hfinds : forall call, call ∈ calls ->
      forall target, target ∈ targets call -> h.Finds settings target)
    {s : Server} {c : Catalog} (hm : Mirrors s c) (hplain : c.Holds Plain) :
    (Indexer.history (h.engine settings freshId).indexer calls s).1 =
        (Indexer.history Catalog.indexer calls c).1 ∧
      Mirrors (Indexer.history (h.engine settings freshId).indexer calls s).2
        (Indexer.history Catalog.indexer calls c).2 := by
  -- the server keeps what the catalog keeps, so all that it has to show is plain
  induction calls generalizing s c with
  | nil => exact ⟨rfl, hm⟩
  | cons call rest ih =>
      have hmem : call ∈ call :: rest := List.mem_cons_self ..
      rcases hcalls call hmem with ⟨hcarries, hnamed⟩
      rcases agrees freshId hweb hnull (sound_of_carries hcarries) hnamed (hfinds call hmem)
        (hm.shows hlegible hplain) hm with ⟨hevent, hafter⟩
      rcases ih (fun later hlater => hcalls later (List.mem_cons_of_mem _ hlater))
        (fun later hlater => hfinds later (List.mem_cons_of_mem _ hlater)) hafter
        (hplain.after plain_string (plain_bool false) hcarries) with ⟨hlog, hend⟩
      rw [Indexer.history, Indexer.history]
      refine ⟨?_, hend⟩
      rw [hevent, hlog]

/--
From nothing on both sides, the engine and a catalog answer every call alike and end with
the same indices and documents.  The server tells the addresses of the calls apart, the calls
carry plain values, and the texts of the server are legible.
-/
theorem engine_simulates_catalog (hweb : settings.IsWeb) (hnull : settings.nullValues = false)
    (hlegible : h.IsLegible) {calls : List Indexer.Call}
    (hcalls : forall call, call ∈ calls -> call.Carries Plain ∧ IsNamed call)
    (hfinds : forall call, call ∈ calls ->
      forall target, target ∈ targets call -> h.Finds settings target) :
    (Indexer.history (h.engine settings freshId).indexer calls .empty).1 =
        (Indexer.history Catalog.indexer calls .empty).1 ∧
      Mirrors (Indexer.history (h.engine settings freshId).indexer calls .empty).2
        (Indexer.history Catalog.indexer calls .empty).2 :=
  history_mirrors freshId hweb hnull hlegible hcalls hfinds mirrors_empty Catalog.holds_empty

end Served

def plainHost : Host where
  route
    | .segments [index] => some (.index index)
    | .segments [index, "_doc", id] => some (.document index id)
    | .segments [index, "_update", id] => some (.update index id)
    | _ => none
  text v := Utf8.ofString v.compact

def plainSettings : Settings :=
  ⟨⟨"http", some ⟨"", "", .domain "localhost", some 9200⟩, .segments [""], none, none⟩,
    Settings.usualCluster, false, .ofSeconds 2⟩

def plainCalls : List Indexer.Call := [
  .fetch "files" "1",
  .put "Files" (some "1") none none [],
  .createIndex "Files" none,
  .createIndex "files" (some (.nat 1)),
  .put "FILES" (some "1") (some "content") none
    [("__pinned", .bool true), ("parts", .array [.nat 1, .null]), ("title", .string "\"a\"")],
  .put "files" (some "1") none (some "text/plain") [("parts", .number (.float 1.5))],
  .setField "files" "1" "__pinned" (.bool true),
  .setField "files" "2" "size" (.nat 3),
  .fetch "Files" "1",
  .remove "files" "1",
  .remove "files" "1"]

theorem carries_plainCalls (call : Indexer.Call) (h : call ∈ plainCalls) :
    call.Carries Plain ∧ IsNamed call := by
  have hfloat : Plain (.number (.float 1.5)) := ⟨rfl, rfl, Nat.zero_le _⟩
  have hnat : Plain (.nat 3) :=
    ⟨rfl, JsonText.readsBack_int (by decide) (by decide), Nat.zero_le _⟩
  have hparts : Plain (.array [.nat 1, .null]) :=
    ⟨rfl, ⟨JsonText.readsBack_int (by decide) (by decide), trivial, trivial⟩, by decide⟩
  simp only [plainCalls, List.mem_cons, List.not_mem_nil, or_false] at h
  rcases h with rfl | rfl | rfl | rfl | rfl | rfl | rfl | rfl | rfl | rfl | rfl
  · exact ⟨trivial, trivial⟩
  · exact ⟨MadeOf.nil, rfl⟩
  · exact ⟨trivial, trivial⟩
  · exact ⟨trivial, trivial⟩
  · refine ⟨⟨by decide, ?_⟩, rfl⟩
    simp only [List.forall_mem_cons]
    exact ⟨plain_bool true, hparts, plain_string _, fun _ he => absurd he List.not_mem_nil⟩
  · refine ⟨⟨by decide, ?_⟩, rfl⟩
    simp only [List.forall_mem_cons]
    exact ⟨hfloat, fun _ he => absurd he List.not_mem_nil⟩
  · exact ⟨plain_bool true, trivial⟩
  · exact ⟨hnat, trivial⟩
  · exact ⟨trivial, trivial⟩
  · exact ⟨trivial, trivial⟩
  · exact ⟨trivial, trivial⟩

theorem finds_plainCalls : forall call, call ∈ plainCalls ->
    forall target, target ∈ targets call -> plainHost.Finds plainSettings target := by
  unfold Host.Finds
  decide

theorem engine_simulates_catalog_plainCalls :
    plainSettings.IsWeb ∧ plainSettings.nullValues = false ∧ plainHost.IsLegible ∧
    (forall call, call ∈ plainCalls -> call.Carries Plain ∧ IsNamed call) ∧
    (forall call, call ∈ plainCalls ->
      forall target, target ∈ targets call -> plainHost.Finds plainSettings target) ∧
    (Indexer.history (plainHost.engine plainSettings (pure "")).indexer plainCalls .empty).1 =
        (Indexer.history Catalog.indexer plainCalls .empty).1 ∧
      Mirrors (Indexer.history (plainHost.engine plainSettings (pure "")).indexer
          plainCalls .empty).2
        (Indexer.history Catalog.indexer plainCalls .empty).2 := by
  have hweb : plainSettings.IsWeb := rfl
  have hlegible : plainHost.IsLegible := legible_of_compact fun _ => rfl
  exact ⟨hweb, rfl, hlegible, carries_plainCalls, finds_plainCalls,
    engine_simulates_catalog (pure "") hweb rfl hlegible carries_plainCalls finds_plainCalls⟩

/-!
# A double that is misread
-/

/-- Calls on a document with a number whose shortest numeral is read as another number. -/
def fractionCalls : List Indexer.Call := [
  .createIndex "files" none,
  .put "files" (some "1") none none [("size", .number (.float 9.473684210526315))],
  .fetch "files" "1"]

def shownTexts (log : List Indexer.Event) : List String :=
  log.filterMap fun e =>
    match e.answer with
    | .ok (.metadata m) => some m.toJson.compact
    | _ => none

theorem finds_fractionCalls : forall call, call ∈ fractionCalls ->
    forall target, target ∈ targets call -> plainHost.Finds plainSettings target := by
  unfold Host.Finds
  decide

/-- The engine shows another number than it was given, and a catalog does not. -/
theorem engine_misreads_double :
    plainSettings.IsWeb ∧ plainSettings.nullValues = false ∧
    (forall v, plainHost.text v = Utf8.ofString v.compact) ∧
    (forall call, call ∈ fractionCalls -> call.Sound ∧ IsNamed call) ∧
    (forall call, call ∈ fractionCalls ->
      forall target, target ∈ targets call -> plainHost.Finds plainSettings target) ∧
    (Indexer.history (plainHost.engine plainSettings (pure "")).indexer fractionCalls .empty).1 ≠
      (Indexer.history Catalog.indexer fractionCalls .empty).1 := by
  refine ⟨rfl, rfl, fun _ => rfl, ?_, finds_fractionCalls, ?_⟩
  · intro call h
    simp only [fractionCalls, List.mem_cons, List.not_mem_nil, or_false] at h
    rcases h with rfl | rfl | rfl
    · exact ⟨trivial, trivial⟩
    · exact ⟨by decide, rfl⟩
    · exact ⟨trivial, trivial⟩
  · intro hsame
    have htexts := congrArg shownTexts hsame
    exact absurd htexts (by decide +kernel)

end Elastic
end ContentGateway
