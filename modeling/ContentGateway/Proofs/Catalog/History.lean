import ContentGateway.Catalog.Indexer
import ContentGateway.Proofs.Catalog.Changes
import ContentGateway.Proofs.Indexer.Calls

/-!
# What a catalog remembers

A catalog is determined by the log of the calls that built it.  An index is there since
its first creation, a document since the first write after its last removal, and each
field holds what the last call that wrote it has written.
-/

namespace ContentGateway

/-!
# What an event says
-/

namespace Indexer
namespace Event

def created? (name : String) : Event -> Option (Option Json)
  | ⟨.createIndex index configuration, .ok _⟩ =>
      if lowerCase index = name then some configuration else none
  | _ => none

/-- The document that an event is about.  A write without an id has chosen one. -/
def place? : Event -> Option (String × String)
  | ⟨.put index id _ _ _, .ok (.id chosen)⟩ => some (lowerCase index, id.getD chosen)
  | ⟨.remove index id, .ok _⟩ => some (lowerCase index, id)
  | ⟨.setField index id _ _, .ok _⟩ => some (lowerCase index, id)
  | _ => none

def isPut : Event -> Bool
  | ⟨.put .., _⟩ => true
  | _ => false

def isRemoval : Event -> Bool
  | ⟨.remove .., _⟩ => true
  | _ => false

def puts (name id : String) (e : Event) : Bool :=
  e.isPut && e.place? == some (name, id)

def removes (name id : String) (e : Event) : Bool :=
  e.isRemoval && e.place? == some (name, id)

/-- What a call writes under a key: reserved keys only what the call says about the content. -/
def written? (key : String) : Call -> Option Json
  | .put _ _ contentId contentType fields =>
      if key = pinnedKey then some (.bool false)
      else if key = hashKey then contentId.map .string
      else if key = contentTypeKey then contentType.map .string
      else Table.get? fields key
  | .setField _ _ changed value => if changed = key then some value else none
  | _ => none

def value? (name id key : String) (e : Event) : Option Json :=
  if e.place? = some (name, id) then written? key e.call else none

end Event

/-- The events after the last removal of a document, the last one first. -/
def sinceRemoval (name id : String) (log : List Event) : List Event :=
  log.reverse.takeWhile fun e => !e.removes name id

theorem Event.created?_of_place {e : Event} {place : String × String} (h : e.place? = some place)
    (name : String) : e.created? name = none := by
  rcases e with ⟨call, answer⟩
  cases call with
  | createIndex index configuration => cases h
  | put index id contentId contentType fields => rfl
  | remove index id => rfl
  | fetch index id => rfl
  | setField index id key value => rfl

theorem sinceRemoval_concat (name id : String) (log : List Event) (e : Event) :
    sinceRemoval name id (log ++ [e]) =
      if e.removes name id then [] else e :: sinceRemoval name id log := by
  unfold sinceRemoval
  rw [List.reverse_append, List.reverse_singleton, List.singleton_append, List.takeWhile_cons]
  cases e.removes name id with
  | true => rfl
  | false => rfl

end Indexer

namespace Catalog

open Indexer (Call Answer Event sinceRemoval)

/-- A catalog holds what a log says. -/
structure Recorded (log : List Event) (c : Catalog) : Prop where
  configuration : forall name,
    (Table.get? c.shelves name).map Shelf.configuration = log.findSome? (Event.created? name)
  present : forall name id,
    (c.document? name id).isSome = (sinceRemoval name id log).any (Event.puts name id)
  value : forall name id key,
    ((c.document? name id).bind fun document => Table.get? document key) =
      (sinceRemoval name id log).findSome? (Event.value? name id key)

structure Applied (e : Event) (c c' : Catalog) : Prop where
  configuration : forall name,
    (Table.get? c'.shelves name).map Shelf.configuration =
      ((Table.get? c.shelves name).map Shelf.configuration).or (e.created? name)
  present : forall name id,
    (c'.document? name id).isSome =
      (!e.removes name id && (e.puts name id || (c.document? name id).isSome))
  value : forall name id key,
    ((c'.document? name id).bind fun document => Table.get? document key) =
      if e.removes name id then none
      else (e.value? name id key).or
        ((c.document? name id).bind fun document => Table.get? document key)
  apart : forall name id, e.place? ≠ some (name, id) ->
    c'.document? name id = c.document? name id

theorem recorded_empty : Recorded [] empty := by
  constructor
  · intro name
    rfl
  · intro name id
    rfl
  · intro name id key
    rfl

theorem Recorded.concat {log : List Event} {c c' : Catalog} {e : Event} (h : Recorded log c)
    (he : Applied e c c') : Recorded (log ++ [e]) c' := by
  constructor
  · intro name
    rw [he.configuration, h.configuration, List.findSome?_append, List.findSome?_singleton]
  · intro name id
    rw [he.present, h.present, Indexer.sinceRemoval_concat]
    cases e.removes name id with
    | true => rfl
    | false => rfl
  · intro name id key
    rw [he.value, h.value, Indexer.sinceRemoval_concat]
    cases e.removes name id with
    | true => rfl
    | false =>
        rw [if_neg Bool.false_ne_true, if_neg Bool.false_ne_true, List.findSome?_cons]
        cases e.value? name id key with
        | none => rfl
        | some v => rfl

/-!
# Three kinds of events
-/

theorem applied_of_idle {e : Event} (hplace : e.place? = none)
    (hcreated : forall name, e.created? name = none) (c : Catalog) : Applied e c c := by
  constructor
  · intro name
    rw [hcreated, Option.or_none]
  · intro name id
    simp [Event.removes, Event.puts, hplace]
  · intro name id key
    simp [Event.removes, Event.value?, hplace]
  · intro name id _
    rfl

theorem configuration_withDocuments (c : Catalog) (index : String)
    (change : Table Fields -> Table Fields) (name : String) :
    (Table.get? (c.withDocuments index change).shelves name).map Shelf.configuration =
      (Table.get? c.shelves name).map Shelf.configuration := by
  cases hshelf : Table.get? c.shelves index with
  | none => rw [withDocuments_of_absent hshelf]
  | some shelf =>
      rw [withDocuments_of_present hshelf, Table.get?_insert]
      split
      · next hname =>
          rw [← hname, hshelf]
          rfl
      · rfl

theorem applied_of_store {e : Event} {c : Catalog} {index id : String} {document : Fields}
    (hplace : e.place? = some (index, id)) (hindex : index ∈ c.indexNames)
    (hkind : e.isPut = true ∨ (c.document? index id).isSome = true)
    (hremoval : e.isRemoval = false)
    (hvalue : forall key, Table.get? document key =
      (Event.written? key e.call).or
        ((c.document? index id).bind fun old => Table.get? old key)) (issued : Nat) :
    Applied e c ⟨(c.store index id document).shelves, issued⟩ := by
  have hdocument : forall name other,
      (⟨(c.store index id document).shelves, issued⟩ : Catalog).document? name other =
        if index = name ∧ id = other then some document else c.document? name other :=
    document?_store hindex id document
  have hremoves : forall name other, e.removes name other = false := by
    intro name other
    rw [Event.removes, hremoval, Bool.false_and]
  constructor
  · intro name
    rw [Event.created?_of_place hplace, Option.or_none]
    exact configuration_withDocuments c index _ name
  · intro name other
    rw [hdocument, hremoves, Bool.not_false, Bool.true_and, Event.puts, hplace]
    by_cases hsame : index = name ∧ id = other
    · rcases hsame with ⟨rfl, rfl⟩
      rcases hkind with hput | hpresent
      · simp [hput]
      · simp [hpresent]
    · have hpair : ¬ (some (index, id) = some (name, other)) := by
        simpa using hsame
      rw [if_neg hsame, beq_eq_false_iff_ne.mpr hpair, Bool.and_false, Bool.false_or]
  · intro name other key
    rw [hdocument, hremoves, if_neg Bool.false_ne_true, Event.value?, hplace]
    by_cases hsame : index = name ∧ id = other
    · rcases hsame with ⟨rfl, rfl⟩
      rw [if_pos ⟨rfl, rfl⟩, if_pos rfl]
      exact hvalue key
    · have hpair : ¬ (some (index, id) = some (name, other)) := by
        simpa using hsame
      rw [if_neg hsame, if_neg hpair, Option.none_or]
  · intro name other hother
    rw [hdocument, if_neg]
    rintro ⟨rfl, rfl⟩
    exact hother hplace

theorem applied_of_removal {e : Event} {index id : String}
    (hplace : e.place? = some (index, id)) (hremoval : e.isRemoval = true)
    (hput : e.isPut = false) (hwritten : forall key, Event.written? key e.call = none)
    (c : Catalog) : Applied e c (c.without index id) := by
  have hremoves : forall name other,
      e.removes name other = decide (index = name ∧ id = other) := by
    intro name other
    rw [Event.removes, hremoval, hplace, Bool.true_and]
    by_cases hsame : index = name ∧ id = other
    · rcases hsame with ⟨rfl, rfl⟩
      simp
    · have hpair : ¬ (some (index, id) = some (name, other)) := by
        simpa using hsame
      rw [decide_eq_false hsame]
      exact beq_eq_false_iff_ne.mpr hpair
  constructor
  · intro name
    rw [Event.created?_of_place hplace, Option.or_none]
    exact configuration_withDocuments c index _ name
  · intro name other
    rw [document?_without, hremoves, Event.puts, hput, Bool.false_and, Bool.false_or]
    by_cases hsame : index = name ∧ id = other
    · simp [hsame]
    · simp [hsame]
  · intro name other key
    rw [document?_without, hremoves, Event.value?]
    by_cases hsame : index = name ∧ id = other
    · simp [hsame]
    · simp [hsame, hwritten]
  · intro name other hother
    rw [document?_without, if_neg]
    rintro ⟨rfl, rfl⟩
    exact hother hplace

/-!
# What a write leaves
-/

theorem get?_freeFields (fields : Fields) (key : String) :
    Table.get? (freeFields fields) key =
      if isReservedKey key then none else Table.get? fields key := by
  have hfilter := Table.get?_filter (fun key => !isReservedKey key) fields key
  unfold freeFields
  rw [hfilter]
  cases isReservedKey key with
  | true => rfl
  | false => rfl

def withText (fields : Fields) (name : String) : Option String -> Fields
  | none => fields
  | some text => Table.insert fields name (.string text)

theorem get?_withText (fields : Fields) (name : String) (text : Option String) (key : String) :
    Table.get? (withText fields name text) key =
      if name = key then (text.map Json.string).or (Table.get? fields key)
      else Table.get? fields key := by
  cases text with
  | none => simp [withText]
  | some s => simp [withText, Table.get?_insert]

theorem ordered_withText {fields : Fields} (h : Table.Ordered fields) (name : String)
    (text : Option String) : Table.Ordered (withText fields name text) := by
  cases text with
  | none => exact h
  | some s => exact h.insert name (.string s)

theorem writtenFields_eq (contentId contentType : Option String) (fields : Fields) :
    writtenFields contentId contentType fields =
      Table.insert
        (withText (withText (freeFields fields) hashKey contentId) contentTypeKey contentType)
        pinnedKey (.bool false) := by
  cases contentId with
  | none =>
      cases contentType with
      | none => rfl
      | some type => rfl
  | some id =>
      cases contentType with
      | none => rfl
      | some type => rfl

theorem get?_writtenFields (index : String) (id contentId contentType : Option String)
    (fields : Fields) (key : String) :
    Table.get? (writtenFields contentId contentType fields) key =
      Event.written? key (.put index id contentId contentType fields) := by
  have hpinned : isReservedKey pinnedKey = true := by
    decide
  have hhash : isReservedKey hashKey = true := by
    decide
  have htype : isReservedKey contentTypeKey = true := by
    decide
  rw [writtenFields_eq, Table.get?_insert, get?_withText, get?_withText, get?_freeFields]
  simp only [Event.written?]
  by_cases hp : pinnedKey = key
  · rw [if_pos hp, if_pos hp.symm]
  rw [if_neg hp, if_neg (Ne.symm hp)]
  by_cases hh : hashKey = key
  · subst hh
    simp [contentTypeKey_ne_hashKey, hhash]
  rw [if_neg hh, if_neg (Ne.symm hh)]
  by_cases ht : contentTypeKey = key
  · subst ht
    simp [htype]
  · have hfree : isReservedKey key = false := by
      simp [isReservedKey, Ne.symm hp, Ne.symm hh, Ne.symm ht]
    simp [ht, Ne.symm ht, hfree]

theorem ordered_writtenFields (contentId contentType : Option String) {fields : Fields}
    (h : Table.Ordered fields) :
    Table.Ordered (writtenFields contentId contentType fields) := by
  have hfree : Table.Ordered (freeFields fields) := h.filter _
  rw [writtenFields_eq]
  exact (ordered_withText (ordered_withText hfree _ _) _ _).insert _ _

theorem put_stores {c c' : Catalog} {index chosen : String}
    {id contentId contentType : Option String} {fields : Fields}
    (hfields : Table.Ordered fields)
    (h : c.put index id contentId contentType fields = .ok (chosen, c')) :
    lowerCase index ∈ c.indexNames ∧ id.getD chosen = chosen ∧
      exists document issued,
        c' = ⟨(c.store (lowerCase index) chosen document).shelves, issued⟩ ∧
        forall key, Table.get? document key =
          (Event.written? key (.put index id contentId contentType fields)).or
            ((c.document? (lowerCase index) chosen).bind fun old => Table.get? old key) := by
  have hwritten := ordered_writtenFields contentId contentType hfields
  rcases put_cases h with ⟨hindex, ⟨rfl, hfree, issued, rfl⟩ | ⟨rfl, rfl⟩⟩
  · refine ⟨hindex, rfl, _, issued, rfl, ?_⟩
    intro key
    rw [hfree, Option.bind_none, Option.or_none]
    exact get?_writtenFields index none contentId contentType fields key
  · refine ⟨hindex, rfl, _, _, rfl, ?_⟩
    intro key
    rw [Table.get?_extend hwritten.nodup_keys,
      get?_writtenFields index (some chosen) contentId contentType fields key]
    cases c.document? (lowerCase index) chosen with
    | none => rfl
    | some old => rfl

/-!
# One call
-/

theorem map_call_apply (f : α -> β) (run : Catalog -> Except Failure (α × Catalog))
    (c : Catalog) :
    (f <$> call run : Action Catalog β) c =
      match run c with
      | .error failure => (.error failure, c)
      | .ok (answer, changed) => (.ok (f answer), changed) := by
  rw [Action.map_apply]
  unfold call
  cases run c with
  | error failure => rfl
  | ok answer => rfl

def accepts (c : Catalog) : Call -> Bool
  | .createIndex .. => true
  | .put index .. => decide (lowerCase index ∈ c.indexNames)
  | .remove index id => (c.document? (lowerCase index) id).isSome
  | .fetch index id => (c.document? (lowerCase index) id).isSome
  | .setField index id _ _ => (c.document? (lowerCase index) id).isSome

theorem isOk_put (c : Catalog) (index : String) (id contentId contentType : Option String)
    (fields : Fields) :
    (c.put index id contentId contentType fields).isOk =
      decide (lowerCase index ∈ c.indexNames) := by
  have hmem : lowerCase index ∈ c.indexNames ↔
      exists shelf, Table.get? c.shelves (lowerCase index) = some shelf := mem_indexNames_iff
  unfold put
  cases hshelf : Table.get? c.shelves (lowerCase index) with
  | none => simp [hmem, hshelf, Except.isOk, Except.toBool]
  | some shelf =>
      cases id with
      | none => simp [hmem, hshelf, Except.isOk, Except.toBool]
      | some id => simp [hmem, hshelf, Except.isOk, Except.toBool]

theorem isOk_run (c : Catalog) (call : Call) :
    (call.run indexer c).1.isOk = c.accepts call := by
  cases call with
  | createIndex index configuration =>
      rfl
  | put index id contentId contentType fields =>
      rw [accepts, ← isOk_put c index id contentId contentType fields, Call.run, indexer,
        map_call_apply]
      cases c.put index id contentId contentType fields with
      | error failure => rfl
      | ok answer => rfl
  | remove index id =>
      rw [accepts, Call.run, indexer, map_call_apply, remove_eq]
      cases c.document? (lowerCase index) id with
      | none => rfl
      | some document => rfl
  | fetch index id =>
      rw [accepts, Call.run, indexer, map_call_apply, fetch_eq]
      cases c.document? (lowerCase index) id with
      | none => rfl
      | some document => rfl
  | setField index id key value =>
      rw [accepts, Call.run, indexer, map_call_apply, setField_eq]
      cases c.document? (lowerCase index) id with
      | none => rfl
      | some document => rfl

theorem map_call_of_failed {f : α -> β} {run : Catalog -> Except Failure (α × Catalog)}
    {c : Catalog} (h : ((f <$> call run : Action Catalog β) c).1.isOk = false) :
    ((f <$> call run : Action Catalog β) c).2 = c := by
  rw [map_call_apply] at h ⊢
  cases hrun : run c with
  | error failure => rfl
  | ok answer =>
      rw [hrun] at h
      cases h

theorem after_of_failed {c : Catalog} {call : Call}
    (h : (call.run indexer c).1.isOk = false) : call.after indexer c = c := by
  cases call with
  | createIndex index configuration => cases h
  | put index id contentId contentType fields => exact map_call_of_failed h
  | remove index id => exact map_call_of_failed h
  | fetch index id => exact map_call_of_failed h
  | setField index id key value => exact map_call_of_failed h

theorem created?_of_failed (call : Call) (failure : Failure) (name : String) :
    Event.created? name ⟨call, .error failure⟩ = none := by
  cases call <;> rfl

theorem place?_of_failed (call : Call) (failure : Failure) :
    Event.place? ⟨call, .error failure⟩ = none := by
  cases call <;> rfl

theorem applied_of_failed {c : Catalog} {call : Call}
    (h : (call.run indexer c).1.isOk = false) :
    Applied (call.event indexer c) c (call.after indexer c) := by
  rw [after_of_failed h, Call.event]
  cases hanswer : (call.run indexer c).1 with
  | ok answer =>
      rw [hanswer] at h
      cases h
  | error failure =>
      exact applied_of_idle (place?_of_failed call failure) (created?_of_failed call failure) c

theorem configuration_createIndex (c : Catalog) (index : String) (configuration : Option Json)
    (name : String) :
    (Table.get? (c.createIndex index configuration).shelves name).map Shelf.configuration =
      ((Table.get? c.shelves name).map Shelf.configuration).or
        (if lowerCase index = name then some configuration else none) := by
  by_cases hpresent : lowerCase index ∈ c.indexNames
  · rw [createIndex_of_present hpresent]
    rcases mem_indexNames_iff.mp hpresent with ⟨shelf, hshelf⟩
    split
    · next hname =>
        rw [← hname, hshelf]
        rfl
    · rw [Option.or_none]
  · rw [createIndex_of_absent hpresent, Table.get?_insert]
    split
    · next hname =>
        have habsent : Table.get? c.shelves name = none := by
          rw [Option.eq_none_iff_forall_ne_some]
          intro shelf hshelf
          exact hpresent (mem_indexNames_iff.mpr ⟨shelf, hname ▸ hshelf⟩)
        rw [habsent]
        rfl
    · rw [Option.or_none]

theorem applied_createIndex (c : Catalog) (index : String) (configuration : Option Json) :
    Applied ⟨.createIndex index configuration, .ok .done⟩ c
      (c.createIndex index configuration) := by
  constructor
  · intro name
    exact configuration_createIndex c index configuration name
  · intro name id
    rw [document?_createIndex]
    rfl
  · intro name id key
    rw [document?_createIndex]
    rfl
  · intro name id _
    exact document?_createIndex c index configuration name id

theorem applied_put {c c' : Catalog} {index chosen : String}
    {id contentId contentType : Option String} {fields : Fields}
    (hfields : Table.Ordered fields)
    (h : c.put index id contentId contentType fields = .ok (chosen, c')) :
    Applied ⟨.put index id contentId contentType fields, .ok (.id chosen)⟩ c c' := by
  rcases put_stores hfields h with ⟨hindex, hid, document, issued, rfl, hvalue⟩
  refine applied_of_store ?_ hindex (Or.inl rfl) rfl hvalue issued
  rw [Event.place?, hid]

theorem applied_setField {c : Catalog} {index id : String} {document : Fields}
    (h : c.document? (lowerCase index) id = some document) (key : String) (value : Json) :
    Applied ⟨.setField index id key value, .ok .done⟩ c
      (c.store (lowerCase index) id (Table.insert document key value)) := by
  refine applied_of_store rfl (mem_indexNames_of_document? h) (Or.inr ?_) rfl ?_ _
  · rw [h]
    rfl
  · intro other
    rw [h, Table.get?_insert]
    simp only [Event.written?]
    split
    · rfl
    · rfl

/-- Each call changes the look-ups as its event says. -/
theorem applied_event {call : Call} (hcall : call.Sound) (c : Catalog) :
    Applied (call.event indexer c) c (call.after indexer c) := by
  cases hok : (call.run indexer c).1.isOk with
  | false => exact applied_of_failed hok
  | true =>
      cases call with
      | createIndex index configuration => exact applied_createIndex c index configuration
      | put index id contentId contentType fields =>
          cases hput : c.put index id contentId contentType fields with
          | error failure =>
              rw [Call.run, indexer, map_call_apply, hput] at hok
              cases hok
          | ok answer =>
              have happlied := applied_put hcall hput
              rw [Call.event, Call.after, Call.run, indexer, map_call_apply, hput]
              exact happlied
      | remove index id =>
          rw [isOk_run, accepts, Option.isSome_iff_exists] at hok
          rcases hok with ⟨document, hdocument⟩
          rw [Call.event, Call.after, Call.run, indexer, map_call_apply, remove_eq, hdocument]
          exact applied_of_removal rfl rfl rfl (fun _ => rfl) c
      | fetch index id =>
          rw [isOk_run, accepts, Option.isSome_iff_exists] at hok
          rcases hok with ⟨document, hdocument⟩
          rw [Call.event, Call.after, Call.run, indexer, map_call_apply, fetch_eq, hdocument]
          exact applied_of_idle rfl (fun _ => rfl) c
      | setField index id key value =>
          rw [isOk_run, accepts, Option.isSome_iff_exists] at hok
          rcases hok with ⟨document, hdocument⟩
          rw [Call.event, Call.after, Call.run, indexer, map_call_apply, setField_eq, hdocument]
          exact applied_setField hdocument key value

/-!
# Whole histories
-/

theorem recorded_history {calls : List Call} (hcalls : forall call, call ∈ calls -> call.Sound) :
    Recorded (Indexer.history indexer calls empty).1 (Indexer.history indexer calls empty).2 := by
  have hstep : forall log c call, Call.Sound call -> Recorded log c ->
      Recorded (log ++ [call.event indexer c]) (call.after indexer c) := by
    intro log c call hcall h
    exact h.concat (applied_event hcall c)
  exact Indexer.history_keeps hstep hcalls recorded_empty

/-- How far a call reaches on a catalog. -/
structure Confined (c : Catalog) (call : Call) : Prop where
  isOk : (call.run indexer c).1.isOk = c.accepts call
  failed : (call.run indexer c).1.isOk = false -> call.after indexer c = c
  apart : forall name id, (call.event indexer c).place? ≠ some (name, id) ->
    (call.after indexer c).document? name id = c.document? name id

/--
After any calls a catalog holds what their log says: the first creation of each index, and
of each document the last value under every key since it was removed last.  A further call
succeeds if the catalog has what it needs, changes nothing if it fails, and touches no
document that it is not about.
-/
theorem history_last_writes {calls : List Call}
    (hcalls : forall call, call ∈ calls -> call.Sound) :
    Recorded (Indexer.history indexer calls empty).1
      (Indexer.history indexer calls empty).2 ∧
    forall call, call.Sound -> Confined (Indexer.history indexer calls empty).2 call := by
  refine ⟨recorded_history hcalls, ?_⟩
  intro call hcall
  constructor
  · exact isOk_run _ call
  · exact after_of_failed
  · exact (applied_event hcall _).apart

def mixedCalls : List Call := [
  .createIndex "Files" (some (.nat 1)),
  .put "FILES" (some "1") (some "content") none [("__pinned", .bool true), ("size", .nat 3)],
  .put "files" none none (some "text/plain") [],
  .createIndex "files" none,
  .setField "files" "1" "__pinned" (.bool true),
  .remove "files" "2",
  .put "pictures" (some "1") none none [],
  .put "files" (some "1") none none [("size", .nat 4)],
  .fetch "Files" "1",
  .remove "files" "1"]

theorem history_last_writes_mixedCalls :
    (forall call, call ∈ mixedCalls -> call.Sound) ∧
    Recorded (Indexer.history indexer mixedCalls empty).1
      (Indexer.history indexer mixedCalls empty).2 ∧
    forall call, call.Sound -> Confined (Indexer.history indexer mixedCalls empty).2 call :=
  ⟨by decide, history_last_writes (by decide)⟩

end Catalog
end ContentGateway
