/-
This file shows that a server reports a deadline from the context its call was
accepted with. A call is given its context when it is accepted and keeps it for
as long as it is there; its request event is pushed when its first read comes
back, and the deadline in the event is what is left at that moment of the
deadline in the context.
-/

import Rgrpc.Server.Load
import Rgrpc.Server.Events

namespace Rgrpc.Server

open Library

/-! ### The context of a call -/

theorem pumpLocked_ctx (shutting : Bool) (call : SvCall) :
    (pumpLocked shutting call).1.ctx = call.ctx := by
  rcases pumpLocked_cases shutting call with
    ⟨same, -⟩ | ⟨-, -, -, -, ⟨front, rest, -, same⟩ | ⟨-, -, same⟩⟩ <;>
  rw [same]

/-- Only the accept gives a call a context. -/
theorem runCall_ctx (shutting : Bool) (nextId : Nat) {op : SvOp} (used : op ≠ .accept)
    (delivery : Delivery) (call : SvCall) :
    (runCall shutting nextId op delivery call).1.ctx = call.ctx := by
  cases op with
  | accept => exact absurd rfl used
  | read =>
    unfold runCall runRead
    simp only
    split_ifs <;> rfl
  | write =>
    unfold runCall runWrite
    simp only
    split
    · exact pumpLocked_ctx shutting _
    · rfl
  | done =>
    unfold runCall runDone
    simp only
    split_ifs <;> rfl
  | finish => rfl

/-- No request of R changes the context of a call. -/
theorem answer_ctx (shutting : Bool) (request : RCall) (call : SvCall) :
    (request.answer shutting call).call.ctx = call.ctx := by
  have armed : (call.armed request).ctx = call.ctx := by
    cases request <;> rfl
  rcases answer_cases shutting request call with
    same | ⟨-, -, -, -, -, same⟩ | ⟨-, -, same⟩ | ⟨bytes, -, -, -, -, -, same⟩ |
    ⟨-, -, -, -, same | ⟨trailing, hasFinalWrite, error, same⟩⟩
  · rw [same]
    rfl
  · rw [same]
  · rw [same]
  · rw [same]
    exact pumpLocked_ctx shutting _
  · rw [same]
    exact (pumpLocked_ctx shutting _).trans armed
  · rw [same]
    cases request <;> rfl

/-- What is left at an address of the call that was accepted there, if it is still there. -/
def Contexted (server : RServer) (address : Nat) (context : ServerContext) : Prop :=
  ∀ call, (server.arena.cell address).object = some call → call.id ≠ 0 ∧ call.ctx = context

theorem Sound.contexted_step {server after : RServer} {log news : List ServerObs}
    {input : ServerInput} (sound : Sound server log)
    (taken : serverStep server input = some (after, news)) {address : Nat}
    {context : ServerContext} (allocated : address < server.arena.size)
    (contexted : Contexted server address context) : Contexted after address context := by
  rcases sound.step_cases taken with
    ⟨other, op, delivery, call, rfl, -, outstanding, stored, equal⟩ |
    ⟨id, request, other, call, rfl, -, -, -, stored, rfl, rfl⟩ | ⟨-, quiet⟩ |
    ⟨-, -, -, -, rfl⟩ | ⟨-, -, -, -, rfl⟩
  · have cell := cell_handle op delivery stored allocated
    rw [equal] at cell
    intro found object
    by_cases same : other = address
    · subst same
      rw [cell, if_pos rfl] at object
      obtain rfl := eq_of_handleTag object
      obtain ⟨named, own⟩ := contexted call stored
      have used : op ≠ .accept := by
        rintro rfl
        have slot := (sound.slot_of_accept outstanding).1
        rw [slot] at stored
        obtain rfl := Option.some.inj stored
        exact named rfl
      refine ⟨?_, (runCall_ctx _ _ used _ _).trans own⟩
      rw [runCall_id, if_neg (by simp [used])]
      exact named
    · rw [cell, if_neg same] at object
      exact contexted found object
  · intro found object
    by_cases same : other = address
    · subst same
      change ((server.arena.set other _).cell other).object = _ at object
      rw [Arena.cell_set_self allocated] at object
      obtain rfl := Option.some.inj object
      obtain ⟨named, own⟩ := contexted call stored
      exact ⟨(answer_id _ _ _).symm ▸ named, (answer_ctx _ _ _).trans own⟩
    · change ((server.arena.set other _).cell address).object = _ at object
      rw [Arena.cell_set_of_ne same] at object
      exact contexted found object
  · rw [quiet.same]
    exact contexted
  · exact contexted
  · exact contexted

/-- The call a matched accept leaves behind has the context it was accepted with. -/
theorem Sound.contexted_accept {server after : RServer} {log news : List ServerObs}
    {address : Nat} {delivery : Delivery} (sound : Sound server log)
    (taken : serverStep server (.returned address .accept delivery) = some (after, news))
    (ok : delivery.ok = true) :
    callLog address log ≠ [] ∧ Contexted after address delivery.context := by
  rcases sound.step_cases taken with
    ⟨other, op, given, call, same, -, outstanding, stored, equal⟩ |
    ⟨id, request, other, call, origin, -⟩ | ⟨other, -⟩ | ⟨origin, -⟩ | ⟨origin, -⟩
  · obtain ⟨rfl, rfl, rfl⟩ := ServerInput.returned.inj same
    have cell := cell_handle .accept delivery stored (Arena.lt_size_of_object stored)
    rw [equal, if_pos rfl] at cell
    refine ⟨?_, fun found object => ?_⟩
    · rw [(sound.slot_of_accept outstanding).2]
      exact List.cons_ne_nil _ _
    · rw [cell] at object
      obtain rfl := eq_of_handleTag object
      refine ⟨?_, ?_⟩
      · rw [runCall_id, ok]
        exact Nat.ne_of_gt (Nat.lt_of_le_of_lt (Nat.zero_le _) (sound.ids address call stored))
      · unfold runCall runAccept
        simp only [ok, if_true]
        split <;> rfl
  · exact absurd origin (by simp)
  · exact absurd rfl (other _ _ _)
  · exact absurd origin (by simp)
  · exact absurd origin (by simp)

/-- A call keeps its context in every continuation of a run. -/
theorem contexted_of_run_on {acceptWindow maxActive : Int} {wake : WakeHandle}
    {server later : RServer} {log more : List ServerObs} {address : Nat} {context : ServerContext}
    (run : (serverMachine acceptWindow maxActive wake).Run Machine.Free server log)
    (on : ((serverMachine acceptWindow maxActive wake).startedAt server).Run Machine.Free later
      more) (used : callLog address log ≠ []) (contexted : Contexted server address context) :
    Contexted later address context := by
  induction on with
  | start => exact contexted
  | @next state after past news input before _ taken inductionHypothesis =>
    have sound := sound_of_run (run.trans before)
    refine sound.contexted_step taken ?_ inductionHypothesis
    by_contra beyond
    have silent := sound.unused address (Nat.le_of_not_lt beyond)
    rw [callLog_append] at silent
    exact used (List.append_eq_nil_iff.mp silent).1

/-! ### The deadline in a request event -/

/-- The request events some server pushes for a call whose context reports a deadline, when its
first read comes back at some time. -/
inductive RequestAt (deadline now : Int) (event : SvEvent) : Prop
  | pushed {acceptWindow maxActive : Int} {wake : WakeHandle} {server opened later after : RServer}
      {log accepted more news : List ServerObs} {address : Nat} {accept read : Delivery}
      (run : (serverMachine acceptWindow maxActive wake).Run Machine.Free server log)
      (matched : serverStep server (.returned address .accept accept) = some (opened, accepted))
      (ok : accept.ok = true) (reports : accept.context.deadline = deadline)
      (on : ((serverMachine acceptWindow maxActive wake).startedAt opened).Run Machine.Free later
        more)
      (taken : serverStep later (.returned address .read read) = some (after, news))
      (clock : read.now = now) (member : event ∈ queued news) (kind : event.type = .request)

theorem deadlineMs_of_pushed_runRead {delivery : Delivery} {call : SvCall} {event : SvEvent}
    (pushed : event ∈ pushedEvents (runRead delivery call).2) (kind : event.type = .request) :
    event.deadlineMs = deadlineMs call.ctx.deadline delivery.now := by
  unfold runRead at pushed
  simp only at pushed
  split at pushed
  · split at pushed
    · rw [List.mem_singleton.mp pushed]
      rfl
    · rw [List.mem_singleton.mp pushed] at kind
      exact absurd kind (by simp [streamMsgEvent])
  · split at pushed
    · rw [List.mem_singleton.mp pushed] at kind
      exact absurd kind (by simp)
    · exact absurd pushed List.not_mem_nil

/-- Whatever the server does in between, the event reports what is left of the deadline its call was
accepted with. -/
theorem RequestAt.deadlineMs_eq {deadline now : Int} {event : SvEvent}
    (request : RequestAt deadline now event) : event.deadlineMs = deadlineMs deadline now := by
  obtain @⟨acceptWindow, maxActive, wake, server, opened, later, after, log, accepted, more, news,
    address, accept, read, run, matched, ok, reports, on, taken, clock, member, kind⟩ := request
  obtain ⟨used, contexted⟩ := (sound_of_run run).contexted_accept matched ok
  have entered : (serverMachine acceptWindow maxActive wake).Run Machine.Free opened
      (log ++ accepted) := .next run trivial
    (show (serverMachine acceptWindow maxActive wake).step server
      (.returned address .accept accept) = _ from matched)
  have kept := contexted_of_run_on entered on
    (by rw [callLog_append]; exact fun empty => used (List.append_eq_nil_iff.mp empty).1) contexted
  rcases (sound_of_run (entered.trans on)).step_cases taken with
    ⟨other, op, given, call, same, -, -, stored, equal⟩ |
    ⟨id, request, other, call, origin, -⟩ | ⟨other, -⟩ | ⟨origin, -⟩ | ⟨origin, -⟩
  · obtain ⟨rfl, rfl, rfl⟩ := ServerInput.returned.inj same
    have handled := (handles_handle stored .read read).queued
    rw [equal] at handled
    rw [handled] at member
    rw [deadlineMs_of_pushed_runRead member kind, clock, ← reports]
    exact congrArg (fun context => deadlineMs context.deadline now) (kept call stored).2
  · exact absurd origin (by simp)
  · exact absurd rfl (other _ _ _)
  · exact absurd origin (by simp)
  · exact absurd origin (by simp)

/-- For every deadline and every time there is such an event, and it converts to R. -/
theorem exists_requestAt (deadline now : Int) : ∃ event : SvEvent,
    RequestAt deadline now event ∧ event.metadata = [] := by
  have accepts : serverStep (serverMachine 1 2 ⟨16, 0⟩).start
    (.returned 0 .accept { ok := true, context := { deadline } }) = some _ := rfl
  refine ⟨requestEvent now _, .pushed .start accepts rfl rfl .start
    (show serverStep _ (.returned 0 .read { ok := true, message := .ofRaw [1], now }) = some _
      from rfl) rfl (List.mem_cons_self) rfl, rfl⟩

end Rgrpc.Server
