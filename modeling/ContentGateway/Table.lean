/-!
# Tables

A finite map from names to values, kept as a list of entries in ascending order
of the names.  The operations are pinned down by what `get?` answers afterwards.
-/

namespace ContentGateway

/-- Entries in ascending order of their names, each name once. -/
abbrev Table (α : Type u) := List (String × α)

namespace Table

variable {α : Type u}

/-- The value under a name. -/
def get? : Table α -> String -> Option α
  | [], _ => none
  | (k, v) :: rest, key => if k = key then some v else get? rest key

/-- The table with `value` under `key`, in the place of an earlier value if there is one. -/
def insert : Table α -> String -> α -> Table α
  | [], key, value => [(key, value)]
  | (k, v) :: rest, key, value =>
      if k = key then (key, value) :: rest
      else if key < k then (key, value) :: (k, v) :: rest
      else (k, v) :: insert rest key value

/-- The table without `key`. -/
def erase (t : Table α) (key : String) : Table α :=
  t.filter fun e => decide (e.1 ≠ key)

def contains (t : Table α) (key : String) : Bool :=
  (get? t key).isSome

def keys (t : Table α) : List String :=
  t.map fun e => e.1

/-- Adds the entries one after the other, so that the last one of a name stays. -/
def extend (t : Table α) (entries : List (String × α)) : Table α :=
  entries.foldl (fun acc e => insert acc e.1 e.2) t

/-- The table of a list of entries; the last one of a name stays. -/
def ofList (entries : List (String × α)) : Table α :=
  extend [] entries

/-- Names in strictly ascending order. -/
def Ordered (t : Table α) : Prop :=
  t.Pairwise fun a b => a.1 < b.1

/-!
# What the operations do to a look-up
-/

theorem get?_insert (t : Table α) (key : String) (value : α) (k : String) :
    get? (insert t key value) k = if key = k then some value else get? t k := by
  induction t with
  | nil =>
      simp [insert, get?]
  | cons e rest ih =>
      obtain ⟨k', v'⟩ := e
      simp only [insert]
      split
      · next h =>
          subst h
          simp only [get?]
          split <;> rfl
      · next h =>
          split
          · simp only [get?]
          · simp only [get?, ih]
            split
            · next h' =>
                subst h'
                have hne : key ≠ k' := fun he => h he.symm
                simp [hne]
            · rfl

theorem get?_erase (t : Table α) (key k : String) :
    get? (erase t key) k = if key = k then none else get? t k := by
  induction t with
  | nil =>
      simp [erase, get?]
  | cons e rest ih =>
      obtain ⟨k', v'⟩ := e
      simp only [erase] at ih
      simp only [erase, List.filter_cons]
      split
      · next h =>
          simp only [ne_eq, decide_not, Bool.not_eq_true', decide_eq_false_iff_not] at h
          simp only [get?]
          split
          · next h' =>
              subst h'
              have hne : key ≠ k' := fun he => h he.symm
              simp [hne]
          · exact ih
      · next h =>
          simp only [ne_eq, decide_not, Bool.not_eq_true', decide_eq_false_iff_not,
            Decidable.not_not] at h
          subst h
          simp only [get?]
          split
          · next h' => simpa [h'] using ih
          · next h' => simpa [h'] using ih

end Table
end ContentGateway
