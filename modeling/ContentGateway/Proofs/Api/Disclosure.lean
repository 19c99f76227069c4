import ContentGateway.Api.Router
import ContentGateway.Proofs.Service.Interference
import ContentGateway.Proofs.Session.Parallel

/-!
# What a response discloses

Of a failure inside a backend a client learns nothing but that there was one.  Which backend
it was, what it said and what lay behind it reach neither a response nor what is stored.
-/

namespace ContentGateway
namespace Api

open ContentGateway.Action

variable {W : Type} {R : W -> W -> Prop} {b b' : Backends W}

/-- Refusals that a client cannot tell apart. -/
def Refusal.Alike (x y : Refusal) : Prop :=
  x.response = y.response

theorem Refusal.Alike.refl (x : Refusal) : x.Alike x :=
  rfl

theorem ofFailure_internal {f : Failure} (h : f.Internal) :
    (Refusal.ofFailure f).response = (Refusal.error (.internal "")).response := by
  cases f with
  | technical message cause =>
      cases cause with
      | none => rfl
      | some cause => rfl
  | connection backend reason => rfl
  | validation | notFound | noIndex | timeout | breakdown => exact h.elim

theorem ofFailure_alike {f g : Failure} (h : f.Alike g) :
    (Refusal.ofFailure f).Alike (Refusal.ofFailure g) := by
  rcases h with rfl | ⟨hf, hg⟩
  · rfl
  · exact (ofFailure_internal hf).trans (ofFailure_internal hg).symm

/-!
# Parts of operations
-/

theorem agreeing_ofAction {α : Type} {one other : Action W α}
    (h : Agreeing R Failure.Alike one other) :
    Agreeing R Refusal.Alike (ofAction one) (ofAction other) := by
  intro w v hworlds
  rcases h w v hworlds with ⟨hanswers, hworlds'⟩
  refine ⟨?_, hworlds'⟩
  show Agree Refusal.Alike ((one.run w).1.mapError Refusal.ofFailure)
    ((other.run v).1.mapError Refusal.ofFailure)
  rcases hanswers.cases with ⟨answer, hone, hother⟩ | ⟨f, g, hone, hother, hkind⟩
  · rw [hone, hother]
    exact rfl
  · rw [hone, hother]
    exact ofFailure_alike hkind

theorem steady_reading {α : Type} (value : Except Refusal α) :
    Steady R Refusal.Alike (reading value : Handling W α) :=
  fun _ _ hworlds => ⟨Agree.refl Refusal.Alike.refl value, hworlds⟩

theorem agreeing_answering {α : Type} (toJson : α -> Json) {one other : Action W α}
    (h : Agreeing R Failure.Alike one other) :
    Agreeing R Refusal.Alike (answering toJson one) (answering toJson other) :=
  (agreeing_ofAction h).bind fun _ => steady_pure _

/-!
# Requests
-/

theorem handle_agreeing (h : AgreeingBackends R Failure.Alike b b') (s : Setup) (r : Request)
    (route : Route) : Agreeing R Refusal.Alike (handle b s r route) (handle b' s r route) := by
  cases route with
  | liveness => exact steady_pure _
  | readiness =>
      refine h.check.liftBind fun health health' hhealth => ?_
      rw [hhealth.1, hhealth.2]
      exact Agreeing.ite (fun _ => steady_pure _) fun _ => steady_pure _
  | listIndexes => exact agreeing_answering _ h.indexNames_operation
  | createIndex segment =>
      refine (steady_reading _).bind fun index => ?_
      refine (steady_reading _).bind fun body => ?_
      refine (steady_reading _).bind fun configuration => ?_
      exact agreeing_answering _ (h.createIndex_operation index configuration)
  | indexReference =>
      exact (steady_reading _).bind fun d => agreeing_answering _ (h.indexAndReplicate _)
  | indexFile =>
      exact (steady_reading _).bind fun request => agreeing_answering _ (h.indexAndReplicate request)
  | indexText =>
      exact (steady_reading _).bind fun d => agreeing_answering _ (h.indexAndReplicate _)
  | fetch segment =>
      refine (steady_reading _).bind fun contentId => ?_
      refine (steady_reading _).bind fun index => ?_
      exact (agreeing_ofAction (h.get _)).bind fun found => steady_pure _
  | search =>
      refine (steady_reading _).bind fun parameters => ?_
      refine (steady_reading _).bind fun body => ?_
      refine (steady_reading _).bind fun query => ?_
      refine (steady_reading _).bind fun page => ?_
      exact agreeing_answering _ (h.search_operation _)
  | deleteById segment =>
      refine (steady_reading _).bind fun id => ?_
      refine (steady_reading _).bind fun index => ?_
      exact agreeing_answering _ (h.deindex index id)
  | deleteByContent segment =>
      refine (steady_reading _).bind fun contentId => ?_
      refine (steady_reading _).bind fun index => ?_
      refine (agreeing_ofAction (h.get _)).bind fun found => ?_
      exact agreeing_answering _ (h.deindex index _)

theorem parallel_respond (h : AgreeingBackends R Failure.Alike b b') (s : Setup) (r : Request)
    (route : Route) : Parallel R Eq (respond b s r route) (respond b' s r route) := by
  have hhandled : Parallel R (Agree Refusal.Alike) (handle b s r route).run
      (handle b' s r route).run := handle_agreeing h s r route
  refine hhandled.bind fun result result' hresult => ?_
  rcases hresult.cases with ⟨response, rfl, rfl⟩ | ⟨x, y, rfl, rfl, hkind⟩
  · exact parallel_pure rfl
  · have hresponse : x.response = y.response := hkind
    simp only [hresponse]
    exact parallel_pure rfl

/-- Backends that agree make for the same response to every request. -/
theorem parallel_serve (h : AgreeingBackends R Failure.Alike b b') (s : Setup) (r : Request) :
    Parallel R Eq (serve b s r) (serve b' s r) := by
  unfold serve
  cases Route.ofSegments? r.segments with
  | none => exact parallel_pure rfl
  | some route =>
      refine Parallel.ite (fun _ => ?_) fun _ => parallel_pure rfl
      exact (parallel_respond h s r route).andThen fun _ => parallel_pure rfl

/-!
# The same calls struck with other failures
-/

/-- The same calls are struck in both, and always with a failure inside a backend. -/
def StruckAlike (failures failures' : String -> Option Failure) : Prop :=
  forall name, Option.Rel (fun f g => f.Internal ∧ g.Internal) (failures name) (failures' name)

theorem StruckAlike.alike {failures failures' : String -> Option Failure}
    (h : StruckAlike failures failures') (name : String) :
    Option.Rel Failure.Alike (failures name) (failures' name) := by
  have hname := h name
  generalize failures name = found at hname ⊢
  generalize failures' name = found' at hname ⊢
  cases hname with
  | none => exact Option.Rel.none
  | some hinternal => exact Option.Rel.some (Or.inr hinternal)

def interrupt (name : String) : Option Failure -> Action Session Unit
  | some failure => fun s => (.error failure, s.withDepot (s.depot.journaled [name]))
  | none => pure ()

/-- Strikes a call that has a failure assigned, which may depend on the calls before it. -/
def strike (assigned : List String -> String -> Option Failure) (name : String) :
    Action Session Unit :=
  fun s => interrupt name (assigned s.depot.journal name) s

theorem agreeing_interrupt {found found' : Option Failure}
    (h : Option.Rel Failure.Alike found found') (name : String) :
    Agreeing Session.Alike Failure.Alike (interrupt name found) (interrupt name found') := by
  cases h with
  | none => exact steady_pure ()
  | some hkind =>
      rintro s _ ⟨_, rfl, faults, rfl, hfaults⟩
      exact ⟨hkind, _, rfl, faults, rfl, hfaults⟩

theorem agreeing_strike {assigned assigned' : List String -> String -> Option Failure}
    (h : forall calls, StruckAlike (assigned calls) (assigned' calls)) (name : String) :
    Agreeing Session.Alike Failure.Alike (strike assigned name) (strike assigned' name) := by
  intro s s' hs
  -- both have made the same calls, by which the failures are assigned
  have hjournal : s'.depot.journal = s.depot.journal := by
    rcases hs with ⟨_, rfl, faults, rfl, -⟩
    rfl
  show Agree Failure.Alike (interrupt name (assigned s.depot.journal name) s).1
      (interrupt name (assigned' s'.depot.journal name) s').1 ∧
    Session.Alike (interrupt name (assigned s.depot.journal name) s).2
      (interrupt name (assigned' s'.depot.journal name) s').2
  rw [hjournal]
  exact agreeing_interrupt ((h s.depot.journal).alike name) name s s' hs

/--
Two assignments of failures inside the backends to the same calls make for the same response to
every request, and for the same documents, content and replicas.  The failures may strike the
calls of a name as long as they last, or single calls that are known by the calls before them.
-/
theorem failures_undisclosed (s : Session) {faults faults' : Table Failure}
    (hfaults : StruckAlike (Table.get? faults) (Table.get? faults'))
    {assigned assigned' : List String -> String -> Option Failure}
    (hassigned : forall calls, StruckAlike (assigned calls) (assigned' calls))
    (setup : Setup) (r : Request) :
    let b := Session.backends s.replicaNames
    let after := serve (b.struck (strike assigned)) setup r
      (s.withDepot (s.depot.withFaults faults))
    let after' := serve (b.struck (strike assigned')) setup r
      (s.withDepot (s.depot.withFaults faults'))
    after.1 = after'.1 ∧ after.2.depot.catalog = after'.2.depot.catalog ∧
      after.2.depot.blobs = after'.2.depot.blobs ∧
      after.2.depot.replicas = after'.2.depot.replicas := by
  intro b after after'
  have hagree := (Session.alike_backends s.replicaNames).struck (agreeing_strike hassigned)
  have hstart : (s.withDepot (s.depot.withFaults faults)).Alike
      (s.withDepot (s.depot.withFaults faults')) :=
    ⟨_, rfl, faults', rfl, hfaults.alike⟩
  rcases parallel_serve hagree setup r _ _ hstart with ⟨hresponse, d, hafter, _, hdepot, -⟩
  have hdepots : after'.2.depot = d := congrArg Session.depot hafter
  rw [hdepots, hdepot]
  exact ⟨hresponse, rfl, rfl, rfl⟩

theorem failures_undisclosed_listing :
    let s := Session.ofDepot (Depot.ofReplicas [Replica.of "near"])
    let faults := [("indexer.get_indexes", Failure.technical "the disk is full" (some "device 7"))]
    let faults' := [("indexer.get_indexes", Failure.connection "catalog" "no route to host")]
    let assigned := fun (calls : List String) (_ : String) =>
      if calls.length = 3 then some (Failure.technical "out of memory" none) else none
    let assigned' := fun (calls : List String) (_ : String) =>
      if calls.length = 3 then some (Failure.connection "near" "refused") else none
    let b := Session.backends s.replicaNames
    let r : Request := ⟨"GET", "/config/index", "", [], []⟩
    let after := serve (b.struck (strike assigned)) ⟨[], 0⟩ r
      (s.withDepot (s.depot.withFaults faults))
    let after' := serve (b.struck (strike assigned')) ⟨[], 0⟩ r
      (s.withDepot (s.depot.withFaults faults'))
    after.1.status = 500 ∧ after.1 = after'.1 := by
  refine ⟨by decide +kernel, (failures_undisclosed _ ?_ ?_ _ _).1⟩
  · intro name
    simp only [Table.get?]
    split
    · exact Option.Rel.some ⟨trivial, trivial⟩
    · exact Option.Rel.none
  · intro calls name
    dsimp only
    split
    · exact Option.Rel.some ⟨trivial, trivial⟩
    · exact Option.Rel.none

end Api
end ContentGateway
