/-
This file is about what the completion loop knows of the end of a call. The tags
it drains tell it so in two ways: the done tag of a call that R was handed and
did not answer, and a write that fails. A call R was handed is marked dead
exactly when it was told so before.
-/

import Rgrpc.Server.Handover
import Rgrpc.Server.Output

namespace Rgrpc.Server

open Library

/-! ### What the tags tell -/

/-- Whether an entry of the log of a call tells the completion loop that the call is over: its done
tag comes back after R was handed the call and before R answered it, or a write of it fails. -/
def tellsEnd (past : List CallObs) : CallObs → Bool
  | .returned .done _ _ => !(requests past).isEmpty && (terminals past).isEmpty
  | .returned .write ok _ => !ok
  | _ => false

/-- Whether an entry of a log told it so, after the entries before. -/
def learnedFrom (past : List CallObs) : List CallObs → Bool
  | [] => false
  | entry :: rest => tellsEnd past entry || learnedFrom (past ++ [entry]) rest

/-- Whether the completion loop was told that a call is over. -/
def learned (log : List CallObs) : Bool := learnedFrom [] log

theorem learnedFrom_append (past log more : List CallObs) :
    learnedFrom past (log ++ more) = (learnedFrom past log || learnedFrom (past ++ log) more) := by
  induction log generalizing past with
  | nil => rw [List.nil_append, List.append_nil, learnedFrom, Bool.false_or]
  | cons entry rest inductionHypothesis =>
    rw [List.cons_append, learnedFrom, inductionHypothesis, learnedFrom, Bool.or_assoc,
      List.append_assoc, List.singleton_append]

theorem learned_append (log more : List CallObs) :
    learned (log ++ more) = (learned log || learnedFrom log more) :=
  learnedFrom_append [] log more

/-- Only tags that come back tell anything. -/
theorem learnedFrom_eq_false {obs : List CallObs}
    (silent : ∀ entry ∈ obs, ∀ op ok message, entry ≠ .returned op ok message)
    (past : List CallObs) : learnedFrom past obs = false := by
  induction obs generalizing past with
  | nil => rfl
  | cons entry rest inductionHypothesis =>
    have untold : tellsEnd past entry = false := by
      cases entry with
      | returned op ok message => exact absurd rfl (silent _ List.mem_cons_self op ok message)
      | _ => rfl
    rw [learnedFrom, untold, Bool.false_or]
    exact inductionHypothesis (fun other member => silent other (List.mem_cons_of_mem _ member)) _

/-- A handler tells the completion loop what its tag does. -/
theorem learned_handleTag (log : List CallObs) (shutting : Bool) (nextId : Nat) (op : SvOp)
    (delivery : Delivery) (call : SvCall) (tags : List SvOp) :
    learned (log ++ (handleTag shutting nextId op delivery call tags).2) =
      (learned log || tellsEnd log (.returned op delivery.ok delivery.message)) := by
  have silent : learnedFrom (log ++ [.returned op delivery.ok delivery.message])
      ((runCall shutting nextId op delivery call).2 ++
        if freed op delivery.ok (runCall shutting nextId op delivery call).1 then [.deleted]
        else []) = false := by
    refine learnedFrom_eq_false (fun entry member op ok message same => ?_) _
    rcases List.mem_append.mp member with acted | last
    · have acts := isAct_runCall _ _ _ _ _ entry acted
      rw [same] at acts
      exact absurd acts Bool.false_ne_true
    · split at last
      · rw [List.mem_singleton.mp last] at same
        exact absurd same (by simp)
      · exact absurd last List.not_mem_nil
  rw [handleTag, learned_append, List.cons_append, learnedFrom, silent, Bool.or_false]

/-- A request of R tells nothing. -/
theorem learned_answer (log : List CallObs) (shutting : Bool) (request : RCall) (call : SvCall) :
    learned (log ++ (request.answer shutting call).obs) = learned log := by
  have pumped (other : SvCall) : ∀ entry ∈ (pumpLocked shutting other).2,
      ∀ op ok message, entry ≠ .returned op ok message := by
    rintro entry member op ok message rfl
    exact absurd (isAct_pumpLocked _ _ _ member) Bool.false_ne_true
  rw [learned_append, learnedFrom_eq_false, Bool.or_false]
  rcases answer_cases shutting request call with
    same | ⟨-, -, -, -, -, same⟩ | ⟨-, -, same⟩ | ⟨bytes, -, -, -, -, -, same⟩ |
    ⟨-, -, -, -, same | ⟨trailing, hasFinalWrite, error, same⟩⟩
  · rw [same]
    simp [refuse]
  · rw [same]
    simp
  · rw [same]
    simp
  · rw [same, acceptAndPump]
    exact List.forall_mem_cons.mpr ⟨by simp, pumped _⟩
  · rw [same, acceptAndPump]
    exact List.forall_mem_cons.mpr ⟨by simp, pumped _⟩
  · rw [same]
    simp

/-! ### Runs of a call -/

section Handler

variable {call : SvCall} {log : List CallObs}

theorem Handed.isEmpty_requests (handed : Handed call log) :
    (requests log).isEmpty = !call.delivered := by
  cases delivered : call.delivered with
  | false => rw [handed.waiting delivered]; rfl
  | true =>
    obtain ⟨event, pushed, -⟩ := handed.pushed delivered
    cases found : requests log with
    | nil => exact absurd (found ▸ pushed) List.not_mem_nil
    | cons first rest => rfl

theorem Output.isEmpty_terminals (output : Output call log) :
    (terminals log).isEmpty = !call.replied := by
  cases replied : call.replied with
  | false => rw [(output.unanswered replied).1]; rfl
  | true =>
    obtain ⟨request, accepted, -⟩ := output.answered replied
    rw [accepted]
    rfl

/-- A tag marks a call R was handed dead exactly when it tells that the call is over. -/
theorem dead_runCall_eq (handed : Handed call log) (output : Output call log)
    (shutting : Bool) (nextId : Nat) (op : SvOp) (delivery : Delivery)
    (fresh : op = .accept → call.delivered = false)
    (writing : op = .write → call.delivered = true) :
    ((runCall shutting nextId op delivery call).1.delivered &&
        (runCall shutting nextId op delivery call).1.dead) =
      (call.delivered && call.dead ||
        tellsEnd log (.returned op delivery.ok delivery.message)) := by
  rw [runCall_delivered, runCall_dead]
  cases op with
  | accept => simp [tellsEnd, fresh rfl]
  | read =>
    simp only [tellsEnd, BEq.rfl, Bool.true_and, Bool.or_false]
    cases call.delivered <;> cases call.dead <;> cases delivery.ok <;> rfl
  | write =>
    simp [tellsEnd, writing rfl]
  | done =>
    simp only [tellsEnd, handed.isEmpty_requests, output.isEmpty_terminals]
    cases call.delivered <;> cases call.dead <;> cases call.replied <;> rfl
  | finish =>
    show ((call.delivered || false) && (call.dead || false)) =
      (call.delivered && call.dead || false)
    rw [Bool.or_false, Bool.or_false, Bool.or_false]

end Handler

/-- While the mutex is free, a call R was handed is dead exactly when the completion loop was told
that it is over. -/
theorem learned_of_run {view : CallView} {log : List CallObs}
    {allowed : CallView → CallInput → Prop} (run : callMachine.Run allowed view log)
    (unlocked : view.wedged = false) {call : SvCall} (object : view.cell.object = some call) :
    learned log = (call.delivered && call.dead) := by
  induction run generalizing call with
  | start =>
    obtain rfl := Option.some.inj object
    rfl
  | @next state after log news input before _ taken inductionHypothesis =>
    rcases callStep_cases taken with
      ⟨op, delivery, nextId, found, -, free, outstanding, stored, rfl, rfl⟩ |
      ⟨request, found, -, free, stored, named, rfl, rfl⟩ | ⟨-, rfl, rfl⟩ | ⟨-, rfl, rfl⟩
    · rw [eq_of_handleTag object, learned_handleTag, inductionHypothesis free stored]
      have phase := phase_of_run before
      refine (dead_runCall_eq (handed_of_run before stored)
        ((outflow_of_run before).output_of_unlocked free stored) _ _ _ _ ?_ ?_).symm
      · rintro rfl
        rw [phase.slot_of_accept outstanding] at stored
        obtain rfl := Option.some.inj stored
        rfl
      · rintro rfl
        cases phase with
        | slot cell opened =>
          rw [cell] at outstanding
          exact absurd outstanding (by simp)
        | live other same settled =>
          obtain rfl := Option.some.inj (stored.symm.trans same)
          exact (settled.ledger.writing outstanding).1
        | gone cell deleted lawful =>
          rw [cell] at outstanding
          exact absurd outstanding List.not_mem_nil
    · obtain rfl := Option.some.inj object
      rw [learned_answer, inductionHypothesis free stored, (answer_delivered _ _ _).2, answer_dead]
    · rw [List.append_nil]
      exact inductionHypothesis unlocked object
    · exact absurd unlocked (by simp)

end Rgrpc.Server
