import ContentGateway.Json.Tree
import ContentGateway.Proofs.Table

/-!
# Values and their trees

A value whose objects are tables in order is what its tree is read as.
-/

namespace ContentGateway
namespace Json

theorem member?_ofMembers {members : List (String × Json)} (h : (Table.keys members).Nodup)
    (name : String) : (ofMembers members).member? name = Table.get? members name := by
  show Table.get? (Table.extend [] members) name = _
  rw [Table.get?_extend h, Table.get?, Option.or_none]

mutual

/-- Every object in a value lists its members in order. -/
def isTidy : Json -> Bool
  | .array items => isTidyItems items
  | .object members => decide (Table.Ordered members) && isTidyMembers members
  | _ => true

def isTidyItems : List Json -> Bool
  | [] => true
  | v :: rest => isTidy v && isTidyItems rest

def isTidyMembers : List (String × Json) -> Bool
  | [] => true
  | (_, v) :: rest => isTidy v && isTidyMembers rest

end

theorem isTidyMembers_iff {members : List (String × Json)} :
    isTidyMembers members = true ↔ forall e, e ∈ members -> e.2.isTidy = true := by
  induction members with
  | nil => simp [isTidyMembers]
  | cons e rest ih =>
      rcases e with ⟨k, v⟩
      simp [isTidyMembers, ih]

theorem depthMembers_le {members : List (String × Json)} {n : Nat}
    (h : forall e, e ∈ members -> (Tree.ofJson e.2).depth ≤ n) :
    Tree.depthMembers (Tree.ofMembers members) ≤ n := by
  induction members with
  | nil => exact Nat.zero_le n
  | cons e rest ih =>
      rcases e with ⟨k, v⟩
      rw [Tree.ofMembers, Tree.depthMembers]
      apply Nat.max_le.mpr
      constructor
      · exact h (k, v) (List.mem_cons_self ..)
      · exact ih fun e he => h e (List.mem_cons_of_mem _ he)

theorem depth_le_depthItems {items : List Json} {v : Json} (h : v ∈ items) :
    (Tree.ofJson v).depth ≤ Tree.depthItems (Tree.ofItems items) := by
  induction items with
  | nil => cases h
  | cons first rest ih =>
      rw [Tree.ofItems, Tree.depthItems]
      rcases List.mem_cons.mp h with rfl | hrest
      · exact Nat.le_max_left _ _
      · exact Nat.le_trans (ih hrest) (Nat.le_max_right _ _)

mutual

theorem toJson_ofJson : forall {v : Json}, v.isTidy = true -> (Tree.ofJson v).toJson = .ok v
  | .null, _ => rfl
  | .bool _, _ => rfl
  | .number _, _ => rfl
  | .string _, _ => rfl
  | .array items, h => by
      have hitems : isTidyItems items = true := h
      rw [Tree.ofJson, Tree.toJson, toItems_ofItems hitems]
      rfl
  | .object members, h => by
      have hmembers : decide (Table.Ordered members) = true ∧ isTidyMembers members = true :=
        Bool.and_eq_true_iff.mp h
      rw [Tree.ofJson, Tree.toJson, toMembers_ofMembers hmembers.2]
      simp only [if_true, (of_decide_eq_true hmembers.1).ofList_eq]

theorem toItems_ofItems : forall {items : List Json}, isTidyItems items = true ->
    Tree.toItems (Tree.ofItems items) = .ok items
  | [], _ => rfl
  | v :: rest, h => by
      have hparts : v.isTidy = true ∧ isTidyItems rest = true := Bool.and_eq_true_iff.mp h
      rw [Tree.ofItems, Tree.toItems, toJson_ofJson hparts.1]
      simp only [toItems_ofItems hparts.2]

theorem toMembers_ofMembers : forall {members : List (String × Json)},
    isTidyMembers members = true -> Tree.toMembers (Tree.ofMembers members) = .ok members
  | [], _ => rfl
  | (k, v) :: rest, h => by
      have hparts : v.isTidy = true ∧ isTidyMembers rest = true := Bool.and_eq_true_iff.mp h
      rw [Tree.ofMembers, Tree.toMembers, toJson_ofJson hparts.1]
      simp only [toMembers_ofMembers hparts.2]

end

mutual

theorem passable_ofJson : forall v : Json, (Tree.ofJson v).passable = true
  | .null | .bool _ | .number _ | .string _ => rfl
  | .array items => by
      rw [Tree.ofJson, Tree.passable, passableItems_ofItems items]
      rfl
  | .object members => by
      rw [Tree.ofJson, Tree.passable, passableMembers_ofMembers members]
      rfl

theorem passableItems_ofItems : forall items : List Json,
    Tree.passableItems (Tree.ofItems items) = true
  | [] => rfl
  | v :: rest => by
      rw [Tree.ofItems, Tree.passableItems, passable_ofJson v, passableItems_ofItems rest]
      rfl

theorem passableMembers_ofMembers : forall members : List (String × Json),
    Tree.passableMembers (Tree.ofMembers members) = true
  | [] => rfl
  | (_, v) :: rest => by
      rw [Tree.ofMembers, Tree.passableMembers, passable_ofJson v, passableMembers_ofMembers rest]
      rfl

end

/-!
# What is read is tidy
-/

mutual

/-- A free value that is read lists the members of its objects in order. -/
theorem isTidy_of_toJson : forall {t : Tree} {v : Json}, t.toJson = .ok v -> v.isTidy = true
  | .null, _, h => by
      cases h
      rfl
  | .bool _, _, h => by
      cases h
      rfl
  | .number none, _, h => by cases h
  | .number (some _), _, h => by
      cases h
      rfl
  | .string none, _, h => by cases h
  | .string (some _), _, h => by
      cases h
      rfl
  | .array items complete, v, h => by
      rw [Tree.toJson] at h
      split at h
      · cases h
      · next vs hitems =>
          split at h
          · cases h
            exact isTidyItems_of_toItems hitems
          · cases h
  | .object members complete, v, h => by
      rw [Tree.toJson] at h
      split at h
      · cases h
      · next ms hmembers =>
          split at h
          · cases h
            -- the table of the members is in order, whatever order they came in
            apply Bool.and_eq_true_iff.mpr
            constructor
            · exact decide_eq_true (Table.Ordered.extend List.Pairwise.nil ms)
            · apply isTidyMembers_iff.mpr
              intro e he
              rcases Table.mem_of_mem_extend he with hnil | hmem
              · cases hnil
              · exact isTidyMembers_iff.mp (isTidyMembers_of_toMembers hmembers) e hmem
          · cases h
  | .tooDeep _, _, h => by cases h
  | .broken, _, h => by cases h

theorem isTidyItems_of_toItems : forall {items : List Tree} {vs : List Json},
    Tree.toItems items = .ok vs -> isTidyItems vs = true
  | [], _, h => by
      cases h
      rfl
  | t :: rest, vs, h => by
      rw [Tree.toItems] at h
      split at h
      · cases h
      · next v hv =>
          split at h
          · cases h
          · next vs' hrest =>
              cases h
              exact Bool.and_eq_true_iff.mpr ⟨isTidy_of_toJson hv, isTidyItems_of_toItems hrest⟩

theorem isTidyMembers_of_toMembers :
    forall {members : List (Option String × Tree)} {ms : List (String × Json)},
    Tree.toMembers members = .ok ms -> isTidyMembers ms = true
  | [], _, h => by
      cases h
      rfl
  | (none, _) :: _, _, h => by cases h
  | (some k, t) :: rest, ms, h => by
      rw [Tree.toMembers] at h
      split at h
      · cases h
      · next v hv =>
          split at h
          · cases h
          · next ms' hrest =>
              cases h
              exact Bool.and_eq_true_iff.mpr ⟨isTidy_of_toJson hv, isTidyMembers_of_toMembers hrest⟩

end

end Json
end ContentGateway
