import ContentGateway.Backend

/-!
# Running actions

What an action answers and leaves behind when it runs in a world, step by step: one
equation for each way in which actions are put together.
-/

namespace ContentGateway
namespace Action

variable {W α β : Type}

theorem state_bind_apply (call : StateM W α) (next : α -> StateM W β) (w : W) :
    (call >>= next) w = next (call w).1 (call w).2 := rfl

theorem exceptT_bind_apply {ε : Type} (call : ExceptT ε (StateM W) α)
    (next : α -> ExceptT ε (StateM W) β) (w : W) :
    (call >>= next) w =
      match call w with
      | (.ok answer, w') => next answer w'
      | (.error failure, w') => (.error failure, w') := by
  show (ExceptT.bindCont next (call w).1) (call w).2 = _
  cases h : call w with
  | mk result w' => cases result <;> rfl

theorem exceptT_lift_apply {ε : Type} (call : StateM W α) (w : W) :
    (liftM call : ExceptT ε (StateM W) α) w = (.ok (call w).1, (call w).2) := rfl

theorem exceptT_catch_apply {ε : Type} (call : ExceptT ε (StateM W) α)
    (handle : ε -> ExceptT ε (StateM W) α) (w : W) :
    (tryCatch call handle) w =
      match call w with
      | (.ok answer, w') => (.ok answer, w')
      | (.error failure, w') => handle failure w' := by
  simp only [tryCatch, tryCatchThe, MonadExceptOf.tryCatch, ExceptT.tryCatch]
  show (bind call.run _ : StateM W _) w = _
  rw [state_bind_apply]
  cases h : call w with
  | mk result w' =>
      have hrun : call.run w = (result, w') := h
      rw [hrun]
      cases result with
      | ok answer => rfl
      | error failure => rfl

/-- The second action runs in the world that the first one leaves, unless that one fails. -/
theorem bind_apply (call : Action W α) (next : α -> Action W β) (w : W) :
    (call >>= next) w =
      match call w with
      | (.ok answer, w') => next answer w'
      | (.error failure, w') => (.error failure, w') := by
  rw [exceptT_bind_apply]
  cases h : call w with
  | mk result w' => cases result <;> rfl

theorem check_apply (result : Except Failure α) (w : W) :
    (liftM result : Action W α) w = (result, w) := rfl

theorem sure_apply (call : StateM W α) (w : W) :
    (liftM call : Action W α) w = (.ok (call w).1, (call w).2) := rfl

theorem get_apply (w : W) : (get : Action W W) w = (.ok w, w) := rfl

theorem modify_apply (f : W -> W) (w : W) :
    (modify f : Action W PUnit) w = (.ok ⟨⟩, f w) := rfl

theorem map_apply (f : α -> β) (call : Action W α) (w : W) :
    (f <$> call) w = ((call w).1.map f, (call w).2) := by
  show (f <$> call : Action W β) w = _
  rw [map_eq_pure_bind, bind_apply]
  cases h : call w with
  | mk result w' => cases result <;> rfl

theorem outcome_apply (call : Action W α) (w : W) : call.outcome w = call w := rfl

/-!
# What actions ensure
-/

/-- From a world with `pre`, an action answers with `post` or fails with `failed`. -/
def Ensures (pre : W -> Prop) (call : Action W α) (post : α -> W -> Prop)
    (failed : W -> Prop) : Prop :=
  forall w, pre w ->
    match call w with
    | (.ok answer, w') => post answer w'
    | (.error _, w') => failed w'

theorem Ensures.bind {pre : W -> Prop} {call : Action W α} {mid : α -> W -> Prop}
    {next : α -> Action W β} {post : β -> W -> Prop} {failed : W -> Prop}
    (h : Ensures pre call mid failed) (h' : forall a, Ensures (mid a) (next a) post failed) :
    Ensures pre (call >>= next) post failed := by
  intro w hw
  rw [bind_apply]
  have hcall := h w hw
  cases hrun : call w with
  | mk result w' =>
      rw [hrun] at hcall
      cases result with
      | error failure => exact hcall
      | ok answer => exact h' answer w' hcall

theorem Ensures.imp {pre : W -> Prop} {call : Action W α} {mid post : α -> W -> Prop}
    {failed : W -> Prop} (h : Ensures pre call mid failed)
    (himp : forall answer w, mid answer w -> post answer w) : Ensures pre call post failed := by
  intro w hw
  have hcall := h w hw
  cases hrun : call w with
  | mk result w' =>
      rw [hrun] at hcall
      cases result with
      | error failure => exact hcall
      | ok answer => exact himp answer w' hcall

theorem ensures_pure {pre : W -> Prop} {post : α -> W -> Prop} {failed : W -> Prop} {answer : α}
    (h : forall w, pre w -> post answer w) : Ensures pre (pure answer) post failed :=
  fun w hw => h w hw

theorem ensures_throw {pre failed : W -> Prop} {post : α -> W -> Prop} {failure : Failure}
    (h : forall w, pre w -> failed w) : Ensures pre (throw failure) post failed :=
  fun w hw => h w hw

theorem ensures_check {pre : W -> Prop} (result : Except Failure α) :
    Ensures pre (liftM result : Action W α) (fun _ => pre) pre := by
  intro w hw
  rw [check_apply]
  cases result with
  | error failure => exact hw
  | ok answer => exact hw

theorem Ensures.world {pre : W -> Prop} {call : Action W α}
    (h : Ensures pre call (fun _ => pre) pre) {w : W} (hw : pre w) : pre (call w).2 := by
  have hcall := h w hw
  cases hrun : call w with
  | mk result w' =>
      rw [hrun] at hcall
      cases result with
      | error failure => exact hcall
      | ok answer => exact hcall

end Action
end ContentGateway
