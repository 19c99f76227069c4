import Mathlib.Data.List.Nodup
import Mathlib.Data.List.Perm.Subperm
import ContentGateway.Proofs.Catalog.Entries
import ContentGateway.Proofs.Text.Hex

/-!
# Generated ids

Different numbers give different ids, so that among more numbers than an index has
documents there is always one whose id is free.
-/

namespace ContentGateway
namespace Catalog

theorem inBase?_generatedId (n : Nat) : inBase? 16 (generatedId n).toList = some n := by
  unfold generatedId
  rw [String.toList_ofList]
  exact inBase?_padded (by decide) (by decide) _ n

theorem generatedId_injective : Function.Injective generatedId := by
  intro m n h
  have hread := inBase?_generatedId m
  rw [h, inBase?_generatedId n] at hread
  exact (Option.some.inj hread).symm

/-- The search gives up on an id that is taken only after a run of ids that are taken. -/
theorem contains_of_nextFree {documents : Table Fields} {attempts n : Nat}
    (h : Table.contains documents (generatedId (nextFree documents attempts n)) = true)
    {k : Nat} (hk : k ≤ attempts) :
    Table.contains documents (generatedId (n + 1 + k)) = true := by
  induction attempts generalizing n k with
  | zero =>
      have hzero : k = 0 := Nat.le_zero.mp hk
      rw [hzero]
      exact h
  | succ attempts ih =>
      simp only [nextFree] at h
      split at h
      · next hfirst =>
          cases k with
          | zero => exact hfirst
          | succ k =>
              have hlater := ih h (Nat.le_of_succ_le_succ hk)
              rw [show n + 1 + (k + 1) = n + 1 + 1 + k by omega]
              exact hlater
      · next hfirst => exact absurd h hfirst

theorem nextFree_free (documents : Table Fields) (n : Nat) :
    Table.contains documents (generatedId (nextFree documents documents.length n)) = false := by
  rw [← Bool.not_eq_true]
  intro htaken
  -- one id more than there are documents, all of them taken
  let ids := (List.range (documents.length + 1)).map fun k => generatedId (n + 1 + k)
  have hnodup : ids.Nodup := by
    refine List.Nodup.map ?_ List.nodup_range
    intro a b heq
    exact Nat.add_left_cancel (generatedId_injective heq)
  have hsubset : ids ⊆ Table.keys documents := by
    intro id hid
    rcases List.mem_map.mp hid with ⟨k, hk, rfl⟩
    apply Table.contains_iff_mem_keys.mp
    exact contains_of_nextFree htaken (Nat.le_of_lt_succ (List.mem_range.mp hk))
  have hlength := (hnodup.subperm hsubset).length_le
  simp only [ids, Table.keys, List.length_map, List.length_range] at hlength
  exact Nat.not_succ_le_self _ hlength

end Catalog
end ContentGateway
