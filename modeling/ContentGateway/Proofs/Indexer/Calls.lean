import ContentGateway.Backend
import ContentGateway.Proofs.Action
import ContentGateway.Proofs.Table

/-!
# Calls of an indexer

The calls that create indices and that write, remove and show documents, as data.  A list
of calls runs through a world and leaves a log: each call beside its answer, in order.
-/

namespace ContentGateway
namespace Indexer

variable {W : Type}

inductive Call where
  | createIndex (index : String) (configuration : Option Json)
  | put (index : String) (id contentId contentType : Option String) (fields : Fields)
  | remove (index id : String)
  | fetch (index id : String)
  | setField (index id key : String) (value : Json)

inductive Answer where
  | done
  | id (id : String)
  | metadata (metadata : Metadata)

namespace Call

def run (indexer : Indexer W) : Call -> Action W Answer
  | .createIndex index configuration =>
      (fun _ => .done) <$> indexer.createIndex index configuration
  | .put index id contentId contentType fields =>
      .id <$> indexer.put index id contentId contentType fields
  | .remove index id => (fun _ => .done) <$> indexer.remove index id
  | .fetch index id => .metadata <$> indexer.fetch index id
  | .setField index id key value => (fun _ => .done) <$> indexer.setField index id key value

def Sound : Call -> Prop
  | .put _ _ _ _ fields => Table.Ordered fields
  | _ => True

instance : (call : Call) -> Decidable call.Sound
  | .put _ _ _ _ fields => inferInstanceAs (Decidable (Table.Ordered fields))
  | .createIndex _ _ => isTrue trivial
  | .remove _ _ => isTrue trivial
  | .fetch _ _ => isTrue trivial
  | .setField _ _ _ _ => isTrue trivial

end Call

structure Event where
  call : Call
  answer : Except Failure Answer

def Call.event (call : Call) (indexer : Indexer W) (w : W) : Event :=
  ⟨call, (call.run indexer w).1⟩

def Call.after (call : Call) (indexer : Indexer W) (w : W) : W :=
  (call.run indexer w).2

/-- The log of a list of calls, and the world in which they end. -/
def history (indexer : Indexer W) : List Call -> W -> List Event × W
  | [], w => ([], w)
  | call :: rest, w =>
      let later := history indexer rest (call.after indexer w)
      (call.event indexer w :: later.1, later.2)

/-- What every call keeps up with its log holds of a whole history. -/
theorem history_keeps {indexer : Indexer W} {keeps : List Event -> W -> Prop}
    {allowed : Call -> Prop}
    (hstep : forall log w call, allowed call -> keeps log w ->
      keeps (log ++ [call.event indexer w]) (call.after indexer w))
    {calls : List Call} (hcalls : forall call, call ∈ calls -> allowed call)
    {log : List Event} {w : W} (h : keeps log w) :
    keeps (log ++ (history indexer calls w).1) (history indexer calls w).2 := by
  induction calls generalizing log w with
  | nil =>
      rw [history, List.append_nil]
      exact h
  | cons call rest ih =>
      have hfirst := hstep log w call (hcalls call (List.mem_cons_self ..)) h
      have hrest := ih (fun c hc => hcalls c (List.mem_cons_of_mem _ hc)) hfirst
      rw [List.append_assoc] at hrest
      exact hrest

end Indexer
end ContentGateway
