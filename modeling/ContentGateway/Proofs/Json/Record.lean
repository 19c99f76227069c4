import ContentGateway.Json.Record
import ContentGateway.Proofs.Json.Values

/-!
# Records

What reading a record does slot by slot: a member under a new name fills its slot, and a
property that every slot keeps holds of the record that is read, from an object as from an
array.
-/

namespace ContentGateway

theorem Slot.fillMembers_new {slots : List (Slot σ)} {s : Slot σ} {k : String} {t : Tree}
    {rest : List (Option String × Tree)} {seen : List String} {r r' : σ}
    (hfind : slots.find? (fun s => s.names.contains k) = some s) (hlabel : s.label = k)
    (hnew : k ∉ seen) (hfill : s.fill t r = .ok r') :
    Slot.fillMembers slots ((some k, t) :: rest) seen r =
      Slot.fillMembers slots rest (k :: seen) r' := by
  have hcontains : ¬ seen.contains s.label = true := by
    rw [hlabel, List.contains_iff_mem]
    exact hnew
  rw [Slot.fillMembers, hfind]
  simp only [hfill, hlabel, if_neg (hlabel ▸ hcontains)]

theorem Slot.fill_required {read : Reading α} {t : Tree} {v : α} (h : read t = .ok v)
    (name : String) (put : α -> σ -> σ) (r : σ) :
    (Slot.required name read put).fill t r = .ok (put v r) :=
  congrArg (Except.map fun v => put v r) h

theorem Slot.fill_defaulted {read : Reading α} {t : Tree} {v : α} (h : read t = .ok v)
    (name : String) (put : α -> σ -> σ) (r : σ) :
    (Slot.defaulted name read put).fill t r = .ok (put v r) :=
  congrArg (Except.map fun v => put v r) h

/-!
# Members that fill slots
-/

namespace Slot

/-- Members fill slots of a record one after the other. -/
inductive Fills (slots : List (Slot σ)) : List (String × Json) -> σ -> σ -> Prop where
  | nil {r : σ} : Fills slots [] r r
  | cons {s : Slot σ} {k : String} {v : Json} {rest : List (String × Json)} {r r' r'' : σ} :
      slots.find? (fun s => s.names.contains k) = some s -> s.label = k ->
      s.fill (Tree.ofJson v) r = .ok r' -> Fills slots rest r' r'' ->
      Fills slots ((k, v) :: rest) r r''

theorem Fills.append {slots : List (Slot σ)} {members later : List (String × Json)} {r r' r'' : σ}
    (h : Fills slots members r r') (hlater : Fills slots later r' r'') :
    Fills slots (members ++ later) r r'' := by
  induction h with
  | nil => exact hlater
  | cons hfind hlabel hfill _ ih => exact .cons hfind hlabel hfill (ih hlater)

theorem fills_optional {slots : List (Slot σ)} {name : String} {put : Option String -> σ -> σ}
    (hfind : slots.find? (fun s => s.names.contains name) =
      some (.defaulted name (Reading.option Reading.string) put))
    {r : σ} (hnone : put none r = r) (text : Option String) :
    Fills slots (Json.optional name text) r (put text r) := by
  cases text with
  | none =>
      rw [hnone]
      exact .nil
  | some t => exact .cons hfind rfl rfl .nil

theorem Fills.fillMembers_eq {slots : List (Slot σ)} {members : List (String × Json)} {r r' : σ}
    (h : Fills slots members r r') (hnodup : (Table.keys members).Nodup) {seen : List String}
    (hnew : forall k, k ∈ Table.keys members -> k ∉ seen) :
    fillMembers slots (Tree.ofMembers members) seen r =
      .ok ((Table.keys members).reverse ++ seen, r') := by
  induction h generalizing seen with
  | nil => rfl
  | @cons s k v rest r r' r'' hfind hlabel hfill _ ih =>
      rcases List.nodup_cons.mp hnodup with ⟨hk, hrest⟩
      rw [Tree.ofMembers, fillMembers_new hfind hlabel (hnew k (List.mem_cons_self ..)) hfill, ih hrest]
      · show _ = Except.ok ((k :: Table.keys rest).reverse ++ seen, r'')
        rw [List.reverse_cons, List.append_assoc, List.singleton_append]
      · intro k' hk' hseen
        rcases List.mem_cons.mp hseen with rfl | hseen
        · exact hk hk'
        · exact hnew k' (List.mem_cons_of_mem k hk') hseen

/-- An object is read if its members fill slots, each slot once and all that are required. -/
theorem Fills.object {slots : List (Slot σ)} {members : List (String × Json)} {start r : σ}
    (h : Fills slots members start r) (hnodup : (Table.keys members).Nodup)
    (hrequired : slots.all (fun s => !s.isRequired || (Table.keys members).contains s.label) = true) :
    Reading.object slots start (Tree.ofJson (.object members)) = .ok r := by
  rw [Tree.ofJson, Reading.object, h.fillMembers_eq hnodup fun _ _ => List.not_mem_nil]
  simp only [List.append_nil, List.contains_reverse, hrequired, Bool.not_true, Bool.false_eq_true,
    if_false, if_true]

end Slot

theorem Reading.record_object (slots : List (Slot σ)) (start : σ)
    (members : List (String × Json)) :
    Reading.record slots start (Tree.ofJson (.object members)) =
      Reading.object slots start (Tree.ofJson (.object members)) := rfl

/-!
# Members without a slot
-/

def Slot.knows (slots : List (Slot σ)) (name : String) : Bool :=
  (slots.find? fun s => s.names.contains name).isSome

/-- Members without a slot are passed over, wherever they stand. -/
theorem Slot.fillMembers_filter (slots : List (Slot σ)) (members : List (String × Json))
    (seen : List String) (r : σ) :
    Slot.fillMembers slots (Tree.ofMembers (members.filter fun e => knows slots e.1)) seen r =
      Slot.fillMembers slots (Tree.ofMembers members) seen r := by
  induction members generalizing seen r with
  | nil => rfl
  | cons e rest ih =>
      rcases e with ⟨k, v⟩
      rw [List.filter_cons, knows, Tree.ofMembers, Slot.fillMembers]
      cases hfind : slots.find? fun s => s.names.contains k with
      | none =>
          simp only [Option.isSome_none, Bool.false_eq_true, if_false, Json.passable_ofJson, if_true]
          exact ih seen r
      | some s =>
          simp only [Option.isSome_some, if_true]
          rw [Tree.ofMembers, Slot.fillMembers, hfind]
          simp only [ih]

theorem Reading.object_filter (slots : List (Slot σ)) (start : σ)
    (members : List (String × Json)) :
    Reading.object slots start
        (Tree.ofJson (.object (members.filter fun e => Slot.knows slots e.1))) =
      Reading.object slots start (Tree.ofJson (.object members)) := by
  simp only [Tree.ofJson, Reading.object, Slot.fillMembers_filter]

/-!
# Properties that slots keep
-/

section Keeping

variable {slots : List (Slot σ)} {P : σ -> Prop}

/-- Filling a slot keeps a property. -/
def Slot.Keeps (P : σ -> Prop) (s : Slot σ) : Prop :=
  forall t r r', s.fill t r = .ok r' -> P r -> P r'

theorem Slot.keeps_required {read : Reading α} {put : α -> σ -> σ} {name : String}
    (h : forall t v r, read t = .ok v -> P r -> P (put v r)) :
    (Slot.required name read put).Keeps P := by
  intro t r r' hfill hr
  cases hread : read t with
  | error e => simp [Slot.required, hread, Except.map] at hfill
  | ok v =>
      simp only [Slot.required, hread, Except.map, Except.ok.injEq] at hfill
      exact hfill ▸ h t v r hread hr

theorem Slot.keeps_defaulted {read : Reading α} {put : α -> σ -> σ} {name : String}
    (h : forall t v r, read t = .ok v -> P r -> P (put v r)) :
    (Slot.defaulted name read put).Keeps P := by
  have hrequired : (Slot.required name read put).Keeps P := Slot.keeps_required h
  exact hrequired

theorem Slot.fillMembers_keeps (hslots : forall s, s ∈ slots -> s.Keeps P)
    {members : List (Option String × Tree)} {seen seen' : List String} {r r' : σ}
    (h : Slot.fillMembers slots members seen r = .ok (seen', r')) (hr : P r) : P r' := by
  induction members generalizing seen r with
  | nil =>
      cases h
      exact hr
  | cons m rest ih =>
      rcases m with ⟨_ | k, t⟩
      · cases h
      · rw [Slot.fillMembers] at h
        split at h
        · split at h
          · exact ih h hr
          · cases h
        · next s hfind =>
            split at h
            · cases h
            · split at h
              · cases h
              · next r₁ hfill =>
                  exact ih h (hslots s (List.mem_of_find?_eq_some hfind) t r r₁ hfill hr)

theorem Slot.fillItems_keeps {complete : Bool} {items : List Tree} {r r' : σ}
    (hslots : forall s, s ∈ slots -> s.Keeps P)
    (h : Slot.fillItems complete slots items r = .ok r') (hr : P r) : P r' := by
  induction slots generalizing items r with
  | nil =>
      cases items with
      | nil =>
          cases complete with
          | true =>
              cases h
              exact hr
          | false => cases h
      | cons t rest => cases h
  | cons s slots ih =>
      cases items with
      | nil =>
          rw [Slot.fillItems] at h
          · split at h
            · cases h
            · split at h
              · cases h
                exact hr
              · cases h
          · intro hnil
            cases hnil
      | cons t rest =>
          rw [Slot.fillItems] at h
          split at h
          · cases h
          · next r₁ hfill =>
              exact ih (fun s' hs' => hslots s' (List.mem_cons_of_mem _ hs')) h
                (hslots s (List.mem_cons_self ..) t r r₁ hfill hr)

theorem Reading.object_keeps {start r : σ} {t : Tree}
    (hslots : forall s, s ∈ slots -> s.Keeps P) (h : Reading.object slots start t = .ok r)
    (hstart : P start) : P r := by
  unfold Reading.object at h
  split at h
  · split at h
    · cases h
    · next seen r₁ hfill =>
        split at h
        · cases h
        · split at h
          · cases h
            exact Slot.fillMembers_keeps hslots hfill hstart
          · cases h
  · cases h
  · cases h

theorem Reading.record_keeps {start r : σ} {t : Tree}
    (hslots : forall s, s ∈ slots -> s.Keeps P) (h : Reading.record slots start t = .ok r)
    (hstart : P start) : P r := by
  unfold Reading.record at h
  split at h
  · exact Slot.fillItems_keeps hslots h hstart
  · cases h
  · exact Reading.object_keeps hslots h hstart

end Keeping

/-!
# Rules
-/

theorem Reading.refine_of_ok {read : Reading α} {rule : α -> Except String β} {t : Tree} {v : α}
    {w : β} (hread : read t = .ok v) (hrule : rule v = .ok w) :
    read.refine rule t = .ok w := by
  rw [Reading.refine, hread]
  simp only
  rw [hrule]
  rfl

theorem Reading.ok_of_refine {read : Reading α} {rule : α -> Except String β} {t : Tree} {w : β}
    (h : read.refine rule t = .ok w) : exists v, read t = .ok v ∧ rule v = .ok w := by
  unfold Reading.refine at h
  split at h
  · cases h
  · next v hread =>
      cases hrule : rule v with
      | error m =>
          rw [hrule] at h
          cases h
      | ok w' =>
          rw [hrule] at h
          cases h
          exact ⟨v, hread, hrule⟩

/-!
# Lists
-/

theorem Reading.forall_of_listItems {read : Reading α} {P : α -> Prop}
    (hread : forall t v, read t = .ok v -> P v) {items : List Tree} {vs : List α}
    (h : Reading.listItems read items = .ok vs) : forall v, v ∈ vs -> P v := by
  induction items generalizing vs with
  | nil =>
      cases h
      simp
  | cons t rest ih =>
      rw [Reading.listItems] at h
      split at h
      · cases h
      · next v hv =>
          split at h
          · cases h
          · next vs' hrest =>
              cases h
              exact List.forall_mem_cons.mpr ⟨hread t v hv, ih hrest⟩

theorem Reading.forall_of_list {read : Reading α} {P : α -> Prop}
    (hread : forall t v, read t = .ok v -> P v) {t : Tree} {vs : List α}
    (h : Reading.list read t = .ok vs) : forall v, v ∈ vs -> P v := by
  unfold Reading.list at h
  split at h
  · split at h
    · cases h
    · next vs' hitems =>
        split at h
        · cases h
          exact Reading.forall_of_listItems hread hitems
        · cases h
  · cases h
  · cases h

theorem Reading.listItems_map {read : Reading α} {tree : β -> Tree} {value : β -> α} {bs : List β}
    (h : forall b, b ∈ bs -> read (tree b) = .ok (value b)) :
    Reading.listItems read (bs.map tree) = .ok (bs.map value) := by
  induction bs with
  | nil => rfl
  | cons b rest ih =>
      rcases List.forall_mem_cons.mp h with ⟨hfirst, hrest⟩
      rw [List.map_cons, Reading.listItems, hfirst]
      simp only [ih hrest, List.map_cons]

theorem Tree.ofItems_eq_map (items : List Json) : Tree.ofItems items = items.map Tree.ofJson := by
  induction items with
  | nil => rfl
  | cons v rest ih => rw [Tree.ofItems, ih, List.map_cons]

theorem Reading.list_ofJson {read : Reading α} {encode : α -> Json} {vs : List α}
    (h : forall v, v ∈ vs -> read (Tree.ofJson (encode v)) = .ok v) :
    Reading.list read (Tree.ofJson (.array (vs.map encode))) = .ok vs := by
  have hitems : Reading.listItems read (vs.map (Tree.ofJson ∘ encode)) = .ok (vs.map id) :=
    Reading.listItems_map h
  rw [Tree.ofJson, Reading.list, Tree.ofItems_eq_map, List.map_map, hitems, List.map_id]
  rfl

end ContentGateway
