import ContentGateway.Proofs.Action

/-!
# Two runs side by side

Two runs of the same calls, in worlds that differ in some things only, answer alike as long
as every call they are made of does.  There is one rule for each way in which actions are put
together.  An invariant of a single run is the case in which both worlds are the same.
-/

namespace ContentGateway
namespace Action

variable {W α β ε : Type} {R : W -> W -> Prop} {kind : ε -> ε -> Prop}

/-- Both answers are the same, or both are failures that are taken for one another. -/
def Agree (kind : ε -> ε -> Prop) : Except ε α -> Except ε α -> Prop
  | .ok a, .ok b => a = b
  | .error f, .error g => kind f g
  | _, _ => False

theorem Agree.cases {one other : Except ε α} (h : Agree kind one other) :
    (exists answer, one = .ok answer ∧ other = .ok answer) ∨
      exists f g, one = .error f ∧ other = .error g ∧ kind f g := by
  cases one with
  | ok a =>
      cases other with
      | ok b => exact Or.inl ⟨a, rfl, congrArg _ (Eq.symm h)⟩
      | error g => exact h.elim
  | error f =>
      cases other with
      | ok b => exact h.elim
      | error g => exact Or.inr ⟨f, g, rfl, rfl, h⟩

theorem Agree.refl (hkind : forall f, kind f f) (answer : Except ε α) :
    Agree kind answer answer := by
  cases answer with
  | ok a => exact rfl
  | error f => exact hkind f

theorem Agree.isOk_eq {one other : Except ε α} (h : Agree kind one other) :
    one.isOk = other.isOk := by
  rcases h.cases with ⟨a, rfl, rfl⟩ | ⟨f, g, rfl, rfl, _⟩
  · rfl
  · rfl

theorem Agree.toOption_eq {one other : Except ε α} (h : Agree kind one other) :
    one.toOption = other.toOption := by
  rcases h.cases with ⟨a, rfl, rfl⟩ | ⟨f, g, rfl, rfl, _⟩
  · rfl
  · rfl

def AgreeAt (kind : ε -> ε -> Prop) (one other : String × Except ε α) : Prop :=
  one.1 = other.1 ∧ Agree kind one.2 other.2

/-!
# Runs that cannot fail
-/

/-- From related worlds, two runs give related answers and leave related worlds. -/
def Parallel (R : W -> W -> Prop) (A : α -> α -> Prop) (one other : StateM W α) : Prop :=
  forall w v, R w v -> A (one w).1 (other v).1 ∧ R (one w).2 (other v).2

theorem Parallel.bind {A : α -> α -> Prop} {B : β -> β -> Prop} {one other : StateM W α}
    {next next' : α -> StateM W β} (h : Parallel R A one other)
    (h' : forall a b, A a b -> Parallel R B (next a) (next' b)) :
    Parallel R B (one >>= next) (other >>= next') := by
  intro w v hworlds
  rw [state_bind_apply, state_bind_apply]
  rcases h w v hworlds with ⟨hanswers, hworlds'⟩
  exact h' _ _ hanswers _ _ hworlds'

theorem Parallel.andThen {B : β -> β -> Prop} {one other : StateM W α}
    {next next' : α -> StateM W β} (h : Parallel R Eq one other)
    (h' : forall a, Parallel R B (next a) (next' a)) :
    Parallel R B (one >>= next) (other >>= next') := by
  refine h.bind ?_
  rintro a _ rfl
  exact h' a

theorem Parallel.ite {A : α -> α -> Prop} {c : Prop} [Decidable c] {one other one' other' : StateM W α}
    (h : c -> Parallel R A one other) (h' : ¬ c -> Parallel R A one' other') :
    Parallel R A (if c then one else one') (if c then other else other') := by
  by_cases hc : c
  · rw [if_pos hc, if_pos hc]
    exact h hc
  · rw [if_neg hc, if_neg hc]
    exact h' hc

theorem parallel_pure {A : α -> α -> Prop} {a b : α} (h : A a b) :
    Parallel R A (pure a) (pure b) :=
  fun _ _ hworlds => ⟨h, hworlds⟩

theorem parallel_get : Parallel R R get get :=
  fun _ _ hworlds => ⟨hworlds, hworlds⟩

theorem parallel_modify {f g : W -> W} (h : forall w v, R w v -> R (f w) (g v)) :
    Parallel R Eq (modify f) (modify g) :=
  fun w v hworlds => ⟨rfl, h w v hworlds⟩

/-!
# Runs that may fail
-/

/-- From related worlds, two runs agree in their answers and leave related worlds. -/
def Agreeing (R : W -> W -> Prop) (kind : ε -> ε -> Prop) (one other : ExceptT ε (StateM W) α) :
    Prop :=
  Parallel R (Agree kind) one.run other.run

abbrev Steady (R : W -> W -> Prop) (kind : ε -> ε -> Prop) (call : ExceptT ε (StateM W) α) : Prop :=
  Agreeing R kind call call

theorem Agreeing.bind {one other : ExceptT ε (StateM W) α}
    {next next' : α -> ExceptT ε (StateM W) β} (h : Agreeing R kind one other)
    (h' : forall a, Agreeing R kind (next a) (next' a)) :
    Agreeing R kind (one >>= next) (other >>= next') := by
  intro w v hworlds
  show Agree kind ((one >>= next) w).1 ((other >>= next') v).1 ∧
    R ((one >>= next) w).2 ((other >>= next') v).2
  rw [exceptT_bind_apply, exceptT_bind_apply]
  have hone := h w v hworlds
  cases hw : one w with
  | mk answer w' =>
      cases hv : other v with
      | mk answer' v' =>
          have hanswers : Agree kind answer answer' ∧ R w' v' := by
            have hrun : Agree kind (one w).1 (other v).1 ∧ R (one w).2 (other v).2 := hone
            rw [hw, hv] at hrun
            exact hrun
          rcases hanswers with ⟨hagree, hworlds'⟩
          -- both go on with one answer, or both stop with a failure
          rcases hagree.cases with ⟨a, rfl, rfl⟩ | ⟨f, g, rfl, rfl, hkind⟩
          · exact h' a w' v' hworlds'
          · exact ⟨hkind, hworlds'⟩

theorem Agreeing.ite {c : Prop} [Decidable c] {one other one' other' : ExceptT ε (StateM W) α}
    (h : c -> Agreeing R kind one other) (h' : ¬ c -> Agreeing R kind one' other') :
    Agreeing R kind (if c then one else one') (if c then other else other') :=
  Parallel.ite h h'

theorem steady_pure (answer : α) : Steady R kind (pure answer) :=
  fun _ _ hworlds => ⟨rfl, hworlds⟩

theorem agreeing_throw {f g : ε} (h : kind f g) :
    Agreeing R kind (throw f : ExceptT ε (StateM W) α) (throw g) :=
  fun _ _ hworlds => ⟨h, hworlds⟩

theorem steady_check {kind : Failure -> Failure -> Prop} (hkind : forall f, kind f f)
    (result : Except Failure α) : Steady R kind (liftM result : Action W α) :=
  fun _ _ hworlds => ⟨Agree.refl hkind result, hworlds⟩

/-- A run that cannot fail, with answers that are related but need not be the same. -/
theorem Parallel.liftBind {A : α -> α -> Prop} {one other : StateM W α}
    {next next' : α -> ExceptT ε (StateM W) β} (h : Parallel R A one other)
    (h' : forall a b, A a b -> Agreeing R kind (next a) (next' b)) :
    Agreeing R kind ((liftM one : ExceptT ε (StateM W) α) >>= next)
      ((liftM other : ExceptT ε (StateM W) α) >>= next') := by
  intro w v hworlds
  rcases h w v hworlds with ⟨hanswers, hworlds'⟩
  exact h' _ _ hanswers _ _ hworlds'

theorem agreeing_lift {one other : StateM W α} (h : Parallel R Eq one other) :
    Agreeing R kind (liftM one : ExceptT ε (StateM W) α) (liftM other) :=
  fun w v hworlds => ⟨(h w v hworlds).1, (h w v hworlds).2⟩

theorem Agreeing.outcome {kind : Failure -> Failure -> Prop} {one other : Action W α}
    (h : Agreeing R kind one other) : Parallel R (Agree kind) one.outcome other.outcome :=
  h

/-!
# Single runs
-/

def Same (P : W -> Prop) (w v : W) : Prop :=
  w = v ∧ P w

theorem steady_of_keeps {P : W -> Prop} {call : ExceptT ε (StateM W) α}
    (hkind : forall f, kind f f) (h : forall w, P w -> P (call w).2) :
    Steady (Same P) kind call := by
  rintro w _ ⟨rfl, hw⟩
  exact ⟨Agree.refl hkind (call w).1, rfl, h w hw⟩

theorem Steady.keeps {P : W -> Prop} {call : ExceptT ε (StateM W) α}
    (h : Steady (Same P) kind call) {w : W} (hw : P w) : P (call w).2 :=
  (h w w ⟨rfl, hw⟩).2.2

theorem Parallel.keeps {P : W -> Prop} {A : α -> α -> Prop} {call : StateM W α}
    (h : Parallel (Same P) A call call) {w : W} (hw : P w) : P (call w).2 :=
  (h w w ⟨rfl, hw⟩).2.2

end Action
end ContentGateway
