/-
This file says when R is handed a call: the `request` event of a call is pushed
by the read that marks the call delivered, and by nothing else. Until then no
request of R changes anything of the call.
-/

import Rgrpc.Server.Capacity

namespace Rgrpc.Server

open Library

/-! ### Handing a call to R -/

/-- The `request` events pushed for a call. -/
def requests (log : List CallObs) : List SvEvent :=
  (pushedEvents log).filter fun event => event.type == .request

@[simp]
theorem requests_append (log more : List CallObs) :
    requests (log ++ more) = requests log ++ requests more := by
  simp [requests, pushedEvents]

/-- A call is marked delivered exactly when its `request` event was pushed. -/
structure Handed (call : SvCall) (log : List CallObs) : Prop where
  pushed : call.delivered = true → ∃ event ∈ requests log, event.id = call.id
  waiting : call.delivered = false → requests log = []

theorem Handed.note {call other : SvCall} {log obs : List CallObs} (handed : Handed call log)
    (none : requests obs = []) (delivered : other.delivered = call.delivered)
    (id : call.delivered = true → other.id = call.id) : Handed other (log ++ obs) := by
  refine ⟨fun done => ?_, fun pending => ?_⟩
  · rw [delivered] at done
    rw [requests_append, none, List.append_nil, id done]
    exact handed.pushed done
  · rw [delivered] at pending
    rw [requests_append, none, List.append_nil]
    exact handed.waiting pending

theorem requests_pumpLocked (shutting : Bool) (call : SvCall) :
    requests (pumpLocked shutting call).2 = [] ∧
      (pumpLocked shutting call).1.delivered = call.delivered := by
  rcases pumpLocked_cases shutting call with
    ⟨same, -⟩ | ⟨-, -, -, -, ⟨front, rest, -, same⟩ | ⟨-, -, same⟩⟩ <;>
  · rw [same]
    exact ⟨rfl, rfl⟩

theorem Handed.runCall {call : SvCall} {log : List CallObs} (handed : Handed call log)
    (op : SvOp) (shutting : Bool) (nextId : Nat) (delivery : Delivery)
    (fresh : op = .accept → call.delivered = false) :
    Handed (runCall shutting nextId op delivery call).1
      (log ++ [.returned op delivery.ok delivery.message] ++
        (runCall shutting nextId op delivery call).2) := by
  have returned : Handed call (log ++ [.returned op delivery.ok delivery.message]) :=
    handed.note rfl rfl fun _ => rfl
  have kept := runCall_id shutting nextId op delivery call
  cases op with
  | accept =>
    have pending := fresh rfl
    unfold Server.runCall runAccept
    simp only
    split_ifs <;>
    · refine returned.note rfl rfl fun done => ?_
      exact absurd (pending.symm.trans done) Bool.false_ne_true
  | read =>
    unfold Server.runCall runRead
    simp only
    split
    · split
      · refine ⟨fun _ => ?_, fun absurdity => absurd absurdity.symm Bool.false_ne_true⟩
        refine ⟨requestEvent delivery.now
          { call with
            pending := call.pending - 1, readInflight := false, request := delivery.message },
          ?_, rfl⟩
        rw [requests_append]
        exact List.mem_append_right _ (List.mem_singleton.mpr rfl)
      · exact returned.note rfl rfl fun _ => rfl
    · split
      · exact returned.note rfl rfl fun _ => rfl
      · exact returned.note rfl rfl fun _ => rfl
  | write =>
    rw [if_neg (by simp)] at kept
    refine returned.note ?_ ?_ fun _ => kept
    · unfold Server.runCall runWrite
      simp only
      split
      · rw [requests_append, (requests_pumpLocked _ _).1, List.append_nil]
        split <;> rfl
      · rfl
    · unfold Server.runCall runWrite
      simp only
      split
      · exact (requests_pumpLocked _ _).2
      · rfl
  | done =>
    unfold Server.runCall runDone
    simp only
    split <;> exact returned.note rfl rfl fun _ => rfl
  | finish => exact returned.note rfl rfl fun _ => rfl

theorem answer_delivered (shutting : Bool) (request : RCall) (call : SvCall) :
    requests (request.answer shutting call).obs = [] ∧
      (request.answer shutting call).call.delivered = call.delivered := by
  rcases answer_cases shutting request call with
    same | ⟨-, -, -, -, -, same⟩ | ⟨-, -, same⟩ | ⟨bytes, -, -, -, -, -, same⟩ |
    ⟨-, -, -, -, same | ⟨trailing, hasFinalWrite, error, same⟩⟩
  · rw [same]
    exact ⟨rfl, rfl⟩
  · rw [same]
    exact ⟨rfl, rfl⟩
  · rw [same]
    exact ⟨rfl, rfl⟩
  · rw [same]
    exact requests_pumpLocked _ _
  · rw [same]
    exact requests_pumpLocked _ _
  · rw [same]
    exact ⟨rfl, rfl⟩

theorem handed_of_run {view : CallView} {log : List CallObs}
    {allowed : CallView → CallInput → Prop} (run : callMachine.Run allowed view log)
    {call : SvCall} (object : view.cell.object = some call) : Handed call log := by
  induction run generalizing call with
  | start =>
    obtain rfl := Option.some.inj object
    exact ⟨fun absurdity => absurd absurdity Bool.false_ne_true, fun _ => rfl⟩
  | @next state after log news input before _ taken inductionHypothesis =>
    have phase := phase_of_run before
    rcases callStep_cases taken with
      ⟨op, delivery, nextId, found, -, unlocked, outstanding, stored, rfl, rfl⟩ |
      ⟨request, found, -, unlocked, stored, named, rfl, rfl⟩ | ⟨-, rfl, rfl⟩ | ⟨-, rfl, rfl⟩
    · have fresh : op = .accept → found.delivered = false := by
        rintro rfl
        rw [phase.slot_of_accept outstanding] at stored
        obtain rfl := Option.some.inj stored
        rfl
      have ran := (inductionHypothesis stored).runCall op state.shutting nextId delivery fresh
      rw [handleTag] at object ⊢
      simp only at object ⊢
      split at object
      · exact absurd object (by simp)
      · rename_i kept
        obtain rfl := Option.some.inj object
        rw [if_neg kept, List.append_nil]
        simp only [List.append_assoc, List.cons_append, List.nil_append] at ran
        exact ran
    · obtain rfl := Option.some.inj object
      obtain ⟨none, delivered⟩ := answer_delivered _ request found
      exact (inductionHypothesis stored).note none delivered fun _ => answer_id _ _ _
    · rw [List.append_nil]
      exact inductionHypothesis object
    · rw [List.append_nil]
      exact inductionHypothesis object

/-! ### The flags of a call -/

theorem runCall_delivered (shutting : Bool) (nextId : Nat) (op : SvOp) (delivery : Delivery)
    (call : SvCall) :
    (runCall shutting nextId op delivery call).1.delivered =
      (call.delivered || (op == .read && delivery.ok && !call.dead)) := by
  cases op with
  | accept =>
    unfold runCall runAccept
    simp only
    split_ifs <;> simp
  | read =>
    unfold runCall runRead
    simp only
    cases delivery.ok <;> cases call.dead <;> cases delivered : call.delivered <;>
      simp
  | write =>
    unfold runCall runWrite
    simp only
    split
    · rw [(requests_pumpLocked _ _).2]
      simp
    · simp
  | done =>
    unfold runCall runDone
    simp only
    split_ifs <;> simp
  | finish => simp [runCall]

/-- A request of a call that was not handed to R changes nothing of it and posts nothing. -/
theorem answer_of_undelivered {shutting : Bool} {request : RCall} {call : SvCall}
    (waiting : call.delivered = false) :
    (request.answer shutting call).call = call ∧
      postedTags (request.answer shutting call).obs = [] := by
  have contradiction (delivered : call.delivered = true) : False :=
    Bool.false_ne_true (waiting.symm.trans delivered)
  rcases answer_cases shutting request call with
    same | ⟨-, delivered, -⟩ | ⟨-, -, same⟩ | ⟨bytes, -, delivered, -⟩ | ⟨-, delivered, -⟩
  · rw [same]
    exact ⟨rfl, rfl⟩
  · exact absurd delivered contradiction
  · rw [same]
    exact ⟨rfl, rfl⟩
  · exact absurd delivered contradiction
  · exact absurd delivered contradiction

theorem pumpLocked_dead (shutting : Bool) (call : SvCall) :
    (pumpLocked shutting call).1.dead = call.dead := by
  rcases pumpLocked_cases shutting call with
    ⟨same, -⟩ | ⟨-, -, -, -, ⟨front, rest, -, same⟩ | ⟨-, -, same⟩⟩ <;>
  · rw [same]

/-- No request of R marks a call dead, or brings a dead one back. -/
theorem answer_dead (shutting : Bool) (request : RCall) (call : SvCall) :
    (request.answer shutting call).call.dead = call.dead := by
  rcases answer_cases shutting request call with
    same | ⟨-, -, -, -, -, same⟩ | ⟨-, -, same⟩ | ⟨bytes, -, -, -, -, -, same⟩ |
    ⟨-, -, -, -, same | ⟨trailing, hasFinalWrite, error, same⟩⟩
  · rw [same]
    rfl
  · rw [same]
  · rw [same]
  · rw [same]
    exact pumpLocked_dead _ _
  · rw [same]
    exact pumpLocked_dead _ _
  · rw [same]
    rfl

/-- What marks a call dead: an accept while the server shuts down, a read without a message before
R was handed the call, a write that fails, and the done tag of a call that R was handed and did not
answer. -/
theorem runCall_dead (shutting : Bool) (nextId : Nat) (op : SvOp) (delivery : Delivery)
    (call : SvCall) :
    (runCall shutting nextId op delivery call).1.dead =
      (call.dead || match op with
        | .accept => delivery.ok && shutting
        | .read => !call.delivered && !delivery.ok
        | .write => !delivery.ok
        | .done => call.delivered && !call.replied
        | .finish => false) := by
  cases op with
  | accept =>
    unfold runCall runAccept
    simp only
    cases delivery.ok <;> cases shutting <;> simp
  | read =>
    unfold runCall runRead
    simp only
    cases delivery.ok <;> cases call.dead <;> cases call.delivered <;> simp
  | write =>
    unfold runCall runWrite
    simp only
    split
    · rename_i ok
      rw [Bool.and_eq_true, Bool.not_eq_true'] at ok
      rw [pumpLocked_dead, ok.1, Bool.not_true, Bool.or_false]
    · rename_i failed
      revert failed
      cases delivery.ok <;> cases call.dead <;> simp
  | done =>
    unfold runCall runDone
    simp only
    cases call.delivered <;> cases call.replied <;> simp
  | finish => simp [runCall]

/-- A write that fails puts nothing out. -/
theorem runWrite_of_not_ok (shutting : Bool) {delivery : Delivery} {call : SvCall}
    (failed : delivery.ok = false) :
    runWrite shutting delivery call = ({ call with writeInflight := false, dead := true }, []) := by
  unfold runWrite
  simp only
  rw [if_neg (by rw [failed, Bool.false_and]; exact Bool.false_ne_true)]

/-- A write that comes back belongs to a call that R was handed and that has no terminal. -/
theorem Ledger.writing {call : SvCall} {tags : List SvOp} {log : List CallObs}
    (ledger : Ledger call tags log) (outstanding : SvOp.write ∈ tags) :
    call.delivered = true ∧ call.finishPosted = false ∧ .write ∉ tags.erase .write := by
  have inflight := ledger.writeInflight_of_mem outstanding
  refine ⟨?_, ?_, ?_⟩
  · by_contra waiting
    rw [Bool.not_eq_true] at waiting
    exact ledger.queued inflight (ledger.handed waiting).2
  · by_contra posted
    rw [Bool.not_eq_false] at posted
    exact absurd (inflight.symm.trans (ledger.ended posted).2.1) (by simp)
  · have one := ledger.write
    rw [inflight, if_pos rfl] at one
    rw [← List.count_eq_zero, List.count_erase_self, one]

theorem done_not_mem_postedTags (obs : List CallObs) : .done ∉ postedTags obs := by
  intro member
  obtain ⟨entry, -, same⟩ := List.mem_filterMap.mp member
  cases entry with
  | posted post => cases post <;> simp [SvPost.op] at same
  | _ => simp at same

end Rgrpc.Server
