import Mathlib.Order.Basic
import ContentGateway.Query.Evaluation

/-!
# The order of values

Two values that change places compare the other way round, whatever their kinds.  For doubles
this is read off the signs, exponents and mantissas that they stand for.
-/

namespace ContentGateway

/-!
# Doubles
-/

section Doubles

open Float.Model

theorem compareSigns_swap (s t : UnpackedFloat.Sign) : compare t s = (compare s t).swap := by
  cases s with
  | negative => cases t <;> rfl
  | positive => cases t <;> rfl

theorem compareMagnitudes_swap (e f : Int) (m n : Nat) :
    (compare f e).then (compare n m) = ((compare e f).then (compare m n)).swap := by
  rw [Ordering.swap_then, ← Std.OrientedOrd.eq_swap, ← Std.OrientedOrd.eq_swap]

theorem compareUnpacked_swap (x y : UnpackedFloat) :
    y.compare x = (x.compare y).map Ordering.swap := by
  cases x with
  | notANumber => cases y <;> rfl
  | infinity s =>
      cases y with
      | notANumber => cases s <;> rfl
      | infinity t => exact congrArg some (compareSigns_swap s t)
      | zero t => cases s <;> rfl
      | finite t n f hn => cases s <;> cases t <;> rfl
  | zero s =>
      cases y with
      | notANumber => rfl
      | infinity t => cases t <;> rfl
      | zero t => rfl
      | finite t n f hn => cases t <;> rfl
  | finite s m e hm =>
      cases y with
      | notANumber => cases s <;> rfl
      | infinity t => cases s <;> cases t <;> rfl
      | zero t => cases s <;> rfl
      | finite t n f hn =>
          have hmagnitudes := compareMagnitudes_swap e f m n
          cases s with
          | negative =>
              cases t with
              | negative => exact congrArg (fun o => some o.swap) hmagnitudes
              | positive => rfl
          | positive =>
              cases t with
              | negative => rfl
              | positive => exact congrArg some hmagnitudes

end Doubles

theorem float_lt_iff {x y : Float} :
    x < y ↔ x.toModel.unpack.compare y.toModel.unpack = some .lt := by
  show decide (x.toModel.unpack.lt y.toModel.unpack = true) = true ↔ _
  rw [decide_eq_true_iff]
  exact beq_iff_eq

theorem float_beq_iff {x y : Float} :
    (x == y) = true ↔ x.toModel.unpack.compare y.toModel.unpack = some .eq := by
  show (x.toModel.unpack.compare y.toModel.unpack == some .eq) = true ↔ _
  exact beq_iff_eq

theorem floatOrder_eq_compare (x y : Float) :
    floatOrder x y = x.toModel.unpack.compare y.toModel.unpack := by
  unfold floatOrder
  simp only [float_lt_iff, float_beq_iff]
  rw [compareUnpacked_swap x.toModel.unpack y.toModel.unpack]
  cases x.toModel.unpack.compare y.toModel.unpack with
  | none => rfl
  | some o => cases o <;> rfl

theorem floatOrder_swap (x y : Float) : floatOrder y x = (floatOrder x y).map Ordering.swap := by
  rw [floatOrder_eq_compare, floatOrder_eq_compare]
  exact compareUnpacked_swap _ _

/-!
# Values
-/

namespace Json

theorem order_swap (a b : Json) : order b a = (order a b).map Ordering.swap := by
  cases a with
  | null => cases b <;> rfl
  | bool p =>
      cases b with
      | bool q => exact congrArg some Std.OrientedOrd.eq_swap
      | null | number | string | array | object => rfl
  | number m =>
      cases b with
      | number n => exact floatOrder_swap _ _
      | string s =>
          simp only [order]
          cases Decimal.read? s with
          | none => rfl
          | some x => exact floatOrder_swap _ _
      | null | bool | array | object => rfl
  | string s =>
      cases b with
      | string t => exact congrArg some Std.OrientedOrd.eq_swap
      | number n =>
          simp only [order]
          cases Decimal.read? s with
          | none => rfl
          | some x => exact floatOrder_swap _ _
      | null | bool | array | object => rfl
  | array items => cases b <;> rfl
  | object members => cases b <;> rfl

/-- Any two of the values compare, and what stands no higher than a second one, which stands no
higher than a third one, stands no higher than that. -/
structure Preordered (values : List Json) : Prop where
  comparable : forall x, x ∈ values -> forall y, y ∈ values -> order x y ≠ none
  trans : forall x, x ∈ values -> forall y, y ∈ values -> forall z, z ∈ values ->
    order x y ≠ some .gt -> order y z ≠ some .gt -> order x z ≠ some .gt

end Json
end ContentGateway
