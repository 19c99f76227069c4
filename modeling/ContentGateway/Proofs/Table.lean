import ContentGateway.Table

/-!
# Tables in order

A table in ascending order holds each name once, so that its entries and its look-ups
say the same.  The operations keep the order, and writing under a name that is there
changes one entry in its place.
-/

namespace ContentGateway
namespace Table

variable {α : Type u}

instance (t : Table α) : Decidable (Ordered t) :=
  inferInstanceAs (Decidable (List.Pairwise _ _))

/-!
# Entries and look-ups
-/

theorem mem_of_get? {t : Table α} {key : String} {value : α}
    (h : get? t key = some value) : (key, value) ∈ t := by
  induction t with
  | nil => simp [get?] at h
  | cons e rest ih =>
      rcases e with ⟨k, v⟩
      simp only [get?] at h
      split at h
      · next hk =>
          cases h
          rw [hk]
          exact List.mem_cons_self ..
      · exact List.mem_cons_of_mem _ (ih h)

theorem isSome_get?_of_mem {t : Table α} {e : String × α} (h : e ∈ t) :
    (get? t e.1).isSome = true := by
  induction t with
  | nil => simp at h
  | cons first rest ih =>
      rcases first with ⟨k, v⟩
      simp only [get?]
      split
      · rfl
      · next hk =>
          rcases List.mem_cons.mp h with hfirst | hrest
          · exact absurd (by rw [hfirst]) hk
          · exact ih hrest

theorem contains_iff_mem_keys {t : Table α} {key : String} :
    contains t key = true ↔ key ∈ keys t := by
  constructor
  · intro h
    rcases Option.isSome_iff_exists.mp h with ⟨value, hvalue⟩
    exact List.mem_map.mpr ⟨(key, value), mem_of_get? hvalue, rfl⟩
  · intro h
    rcases List.mem_map.mp h with ⟨e, he, rfl⟩
    exact isSome_get?_of_mem he

theorem Ordered.get?_of_mem {t : Table α} (ht : Ordered t) {e : String × α} (he : e ∈ t) :
    get? t e.1 = some e.2 := by
  induction t with
  | nil => simp at he
  | cons first rest ih =>
      rcases first with ⟨k, v⟩
      have hrest : Ordered rest := ht.tail
      simp only [get?]
      rcases List.mem_cons.mp he with rfl | hmem
      · rw [if_pos rfl]
      · have hlt : k < e.1 := List.rel_of_pairwise_cons ht hmem
        have hne : k ≠ e.1 := fun heq => String.lt_irrefl _ (heq ▸ hlt)
        rw [if_neg hne]
        exact ih hrest hmem

theorem Ordered.nodup_keys {t : Table α} (ht : Ordered t) : (keys t).Nodup := by
  unfold keys List.Nodup
  rw [List.pairwise_map]
  refine ht.imp ?_
  intro a b hlt heq
  exact String.lt_irrefl _ (heq ▸ hlt)

/-!
# Operations keep the order
-/

theorem mem_of_mem_insert {t : Table α} {key : String} {value : α} {e : String × α}
    (h : e ∈ insert t key value) : e = (key, value) ∨ e ∈ t := by
  induction t with
  | nil =>
      apply Or.inl
      simpa [insert] using h
  | cons first rest ih =>
      rcases first with ⟨k, v⟩
      simp only [insert] at h
      split at h
      · rcases List.mem_cons.mp h with hnew | hrest
        · exact Or.inl hnew
        · exact Or.inr (List.mem_cons_of_mem _ hrest)
      · split at h
        · rcases List.mem_cons.mp h with hnew | hold
          · exact Or.inl hnew
          · exact Or.inr hold
        · rcases List.mem_cons.mp h with hfirst | hrest
          · apply Or.inr
            rw [hfirst]
            exact List.mem_cons_self ..
          · rcases ih hrest with hnew | hold
            · exact Or.inl hnew
            · exact Or.inr (List.mem_cons_of_mem _ hold)

theorem Ordered.insert {t : Table α} (ht : Ordered t) (key : String) (value : α) :
    Ordered (insert t key value) := by
  induction t with
  | nil => exact List.pairwise_singleton _ _
  | cons first rest ih =>
      rcases first with ⟨k, v⟩
      rcases List.pairwise_cons.mp ht with ⟨habove, hrest⟩
      simp only [Table.insert]
      split
      · next hk =>
          subst hk
          exact List.pairwise_cons.mpr ⟨habove, hrest⟩
      · next hk =>
          split
          · next hlt =>
              refine List.pairwise_cons.mpr ⟨?_, ht⟩
              intro e he
              rcases List.mem_cons.mp he with rfl | hmem
              · exact hlt
              · exact String.lt_trans hlt (habove e hmem)
          · next hnlt =>
              refine List.pairwise_cons.mpr ⟨?_, ih hrest⟩
              intro e he
              rcases mem_of_mem_insert he with rfl | hmem
              · have hle : k ≤ key := String.not_lt.mp hnlt
                exact Std.lt_of_le_of_ne hle hk
              · exact habove e hmem

theorem Ordered.erase {t : Table α} (ht : Ordered t) (key : String) :
    Ordered (erase t key) :=
  ht.filter _

/-!
# Writing under a name that is there
-/

theorem Ordered.insert_eq_map {t : Table α} (ht : Ordered t) {key : String} (value : α)
    (hkey : key ∈ keys t) :
    Table.insert t key value = t.map fun e => if e.1 = key then (key, value) else e := by
  induction t with
  | nil => simp [keys] at hkey
  | cons first rest ih =>
      rcases first with ⟨k, v⟩
      rcases List.pairwise_cons.mp ht with ⟨habove, hrest⟩
      simp only [Table.insert, List.map_cons]
      split
      · next hk =>
          subst hk
          have hother : rest.map (fun e => if e.1 = k then (k, value) else e) = rest := by
            rw [List.map_congr_left (g := id), List.map_id]
            intro e he
            have hne : e.1 ≠ k := fun heq => String.lt_irrefl _ (heq ▸ habove e he)
            rw [if_neg hne, id]
          rw [hother]
      · next hk =>
          have hmem : key ∈ keys rest := by
            rcases List.mem_cons.mp hkey with heq | hmem
            · exact absurd heq.symm hk
            · exact hmem
          rcases List.mem_map.mp hmem with ⟨e, he, heq⟩
          have hlt : k < key := heq ▸ habove e he
          have hnlt : ¬ key < k := fun h => String.lt_irrefl _ (String.lt_trans h hlt)
          rw [if_neg hnlt, ih hrest hmem]

theorem Ordered.keys_insert {t : Table α} (ht : Ordered t) {key : String} (value : α)
    (hkey : key ∈ keys t) : keys (Table.insert t key value) = keys t := by
  rw [ht.insert_eq_map value hkey]
  unfold keys
  rw [List.map_map]
  apply List.map_congr_left
  intro e _
  simp only [Function.comp]
  split
  · next h => rw [h]
  · rfl

theorem insert_insert (t : Table α) (key : String) (value value' : α) :
    insert (insert t key value) key value' = insert t key value' := by
  induction t with
  | nil => simp [insert]
  | cons first rest ih =>
      rcases first with ⟨k, v⟩
      by_cases hk : k = key
      · simp [insert, hk]
      · by_cases hlt : key < k
        · simp [insert, hk, hlt]
        · simp [insert, hk, hlt, ih]

/-!
# Parts of a table
-/

theorem filter_insert_of_not {p : String -> Bool} (t : Table α) {key : String} (value : α)
    (hkey : p key = false) :
    (insert t key value).filter (fun e => p e.1) = t.filter fun e => p e.1 := by
  induction t with
  | nil => simp [insert, hkey]
  | cons first rest ih =>
      rcases first with ⟨k, v⟩
      simp only [insert]
      split
      · next hk =>
          subst hk
          simp [hkey]
      · split
        · simp [List.filter_cons, hkey]
        · simp only [List.filter_cons, ih]

theorem get?_filter (p : String -> Bool) (t : Table α) (key : String) :
    get? (t.filter fun e => p e.1) key = if p key then get? t key else none := by
  induction t with
  | nil => simp [get?]
  | cons first rest ih =>
      rcases first with ⟨k, v⟩
      rw [List.filter_cons]
      by_cases hk : k = key
      · subst hk
        cases hp : p k with
        | true => simp [get?]
        | false => simpa [hp] using ih
      · cases hp : p k with
        | true => simp [get?, hk, ih]
        | false => simpa [get?, hk] using ih

/-!
# Adding several entries
-/

@[simp] theorem extend_nil (t : Table α) : extend t [] = t := rfl

theorem extend_cons (t : Table α) (e : String × α) (entries : List (String × α)) :
    extend t (e :: entries) = extend (insert t e.1 e.2) entries := rfl

theorem extend_append (t : Table α) (entries later : List (String × α)) :
    extend t (entries ++ later) = extend (extend t entries) later :=
  List.foldl_append ..

/-- Of entries with different names, each one decides what its name stands for. -/
theorem get?_extend {entries : List (String × α)} (hnodup : (keys entries).Nodup) (t : Table α)
    (key : String) :
    get? (extend t entries) key = (get? entries key).or (get? t key) := by
  induction entries generalizing t with
  | nil => rfl
  | cons e rest ih =>
      rcases e with ⟨k, v⟩
      rcases List.nodup_cons.mp hnodup with ⟨hfirst, hrest⟩
      rw [extend_cons, ih hrest, get?_insert]
      simp only [get?]
      split
      · next hk =>
          have habsent : get? rest key = none := by
            rw [← Option.not_isSome_iff_eq_none, ← hk]
            exact fun hsome => hfirst (contains_iff_mem_keys.mp hsome)
          rw [habsent]
          rfl
      · rfl

theorem get?_extend_of_absent {entries : List (String × α)} {key : String}
    (h : forall e, e ∈ entries -> e.1 ≠ key) (t : Table α) :
    get? (extend t entries) key = get? t key := by
  induction entries generalizing t with
  | nil => rfl
  | cons e rest ih =>
      show get? (extend (insert t e.1 e.2) rest) key = get? t key
      rw [ih (fun e' he' => h e' (List.mem_cons_of_mem _ he')), get?_insert,
        if_neg (h e (List.mem_cons_self ..))]

theorem get?_extend_of_unique {entries : List (String × α)} {key : String} {value : α}
    (hmem : (key, value) ∈ entries)
    (hunique : forall e, e ∈ entries -> e.1 = key -> e.2 = value) (t : Table α) :
    get? (extend t entries) key = some value := by
  induction entries generalizing t with
  | nil => simp at hmem
  | cons e rest ih =>
      show get? (extend (insert t e.1 e.2) rest) key = some value
      have huniqueRest : forall e', e' ∈ rest -> e'.1 = key -> e'.2 = value :=
        fun e' he' => hunique e' (List.mem_cons_of_mem _ he')
      by_cases hrest : exists e', e' ∈ rest ∧ e'.1 = key
      · rcases hrest with ⟨e', he', hkey⟩
        have hvalue : e'.2 = value := huniqueRest e' he' hkey
        have hlater : (key, value) ∈ rest := by
          rw [← hkey, ← hvalue]
          exact he'
        exact ih hlater huniqueRest _
      · have habsent : forall e', e' ∈ rest -> e'.1 ≠ key :=
          fun e' he' hkey => hrest ⟨e', he', hkey⟩
        rw [get?_extend_of_absent habsent, get?_insert]
        rcases List.mem_cons.mp hmem with heq | hlater
        · rw [← heq, if_pos rfl]
        · exact absurd rfl (habsent _ hlater)

theorem insert_of_above {t : Table α} {key : String} (h : forall e, e ∈ t -> e.1 < key)
    (value : α) : insert t key value = t ++ [(key, value)] := by
  induction t with
  | nil => rfl
  | cons first rest ih =>
      rcases first with ⟨k, v⟩
      have hlt : k < key := h (k, v) (List.mem_cons_self ..)
      have hne : k ≠ key := fun heq => String.lt_irrefl _ (heq ▸ hlt)
      have hnlt : ¬ key < k := fun hgt => String.lt_irrefl _ (String.lt_trans hlt hgt)
      rw [insert, if_neg hne, if_neg hnlt, ih fun e he => h e (List.mem_cons_of_mem _ he)]
      rfl

theorem extend_of_ordered {entries t : Table α} (h : Ordered (t ++ entries)) :
    extend t entries = t ++ entries := by
  induction entries generalizing t with
  | nil => rw [extend_nil, List.append_nil]
  | cons e rest ih =>
      have habove : forall e', e' ∈ t -> e'.1 < e.1 :=
        fun e' he' => (List.pairwise_append.mp h).2.2 e' he' e (List.mem_cons_self ..)
      have hstep : t ++ e :: rest = (t ++ [e]) ++ rest := by
        rw [List.append_assoc, List.singleton_append]
      rw [hstep] at h ⊢
      rw [extend_cons, insert_of_above habove]
      exact ih h

/-- A table in order is the table of its own entries. -/
theorem Ordered.ofList_eq {t : Table α} (h : Ordered t) : ofList t = t :=
  extend_of_ordered h

theorem Ordered.extend {t : Table α} (h : Ordered t) (entries : List (String × α)) :
    Ordered (Table.extend t entries) := by
  induction entries generalizing t with
  | nil => exact h
  | cons e rest ih =>
      rw [extend_cons]
      exact ih (h.insert e.1 e.2)

theorem mem_of_mem_extend {t : Table α} {entries : List (String × α)} {e : String × α}
    (h : e ∈ extend t entries) : e ∈ t ∨ e ∈ entries := by
  induction entries generalizing t with
  | nil => exact Or.inl h
  | cons first rest ih =>
      rw [extend_cons] at h
      rcases ih h with hinsert | hrest
      · rcases mem_of_mem_insert hinsert with rfl | hold
        · exact Or.inr (List.mem_cons_self ..)
        · exact Or.inl hold
      · exact Or.inr (List.mem_cons_of_mem _ hrest)

end Table
end ContentGateway
