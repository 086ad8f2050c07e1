/-
This file looks at one step of the server from one of its calls, as
`Rgrpc/Client/Turns.lean` does for the client. An address that was not handed
out yet is seen as a slot, and the posting of the slot is left out of what
happens to it.
-/

import Rgrpc.Server.Flow
import Rgrpc.Server.Runs

namespace Rgrpc.Server

open Library

/-- A call of a server as it is seen before and after its slot was posted. -/
def RServer.callView (server : RServer) (address : Nat) : CallView :=
  if address < server.arena.size then server.view address else callMachine.start

/-- What can be observed of one call from its slot on, posted or not. -/
def RServer.history (server : RServer) (address : Nat) (log : List ServerObs) : List CallObs :=
  if address < server.arena.size then callLog address log else callMachine.opening

/-- The guard that lets no tag of a call come back. -/
def Unreturned (_ : CallView) : CallInput → Prop
  | .returned _ _ _ => False
  | _ => True

/-- What a step of the server is for one of its calls: a completion of it, or steps of it that are
no completions. -/
inductive CallTurn (address : Nat) (input : ServerInput) (view after : CallView)
    (news : List CallObs) : Prop
  | completed (op : SvOp) (delivery : Delivery) (nextId : Nat)
      (same : input = .returned address op delivery)
      (taken : callStep view (.returned op delivery nextId) = some (after, news))
  | asked (other : ∀ op delivery, input ≠ .returned address op delivery)
      (run : (callMachine.startedAt view).Run Unreturned after news)

/-- A step that is no completion shows none. -/
theorem returned_not_mem_of_unreturned {view after : CallView} {input : CallInput}
    {news : List CallObs} (unreturned : Unreturned view input)
    (taken : callStep view input = some (after, news)) (op : SvOp) (ok : Bool)
    (message : ByteBuffer) : .returned op ok message ∉ news := by
  have pumps (asked : RCall) (left : SvCall) :
      .returned op ok message ∉ (acceptAndPump view.shutting asked left).obs := by
    rw [acceptAndPump, List.mem_cons, not_or]
    exact ⟨by simp, fun member =>
      absurd (isAct_pumpLocked view.shutting left _ member) Bool.false_ne_true⟩
  rcases callStep_cases taken with
    ⟨other, delivery, nextId, call, rfl, -, -, -, -, -⟩ |
    ⟨request, call, -, -, -, -, -, rfl⟩ | ⟨-, -, rfl⟩ | ⟨-, -, rfl⟩
  · exact absurd unreturned not_false
  · rcases answer_cases view.shutting request call with
      same | ⟨-, -, -, -, -, same⟩ | ⟨-, -, same⟩ | ⟨bytes, -, -, -, -, -, same⟩ |
      ⟨-, -, -, -, same | ⟨trailing, hasFinalWrite, error, same⟩⟩
    · rw [same]
      exact List.not_mem_nil
    · rw [same]
      simp
    · rw [same]
      simp
    · rw [same]
      exact pumps _ _
    · rw [same]
      exact pumps _ _
    · rw [same]
      exact List.not_mem_nil
  · exact List.not_mem_nil
  · exact List.not_mem_nil

theorem silent_of_not_returned {obs : List CallObs}
    (none : ∀ op ok message, CallObs.returned op ok message ∉ obs) :
    arrived obs = [] ∧ failed obs = false := by
  constructor
  · refine List.filterMap_eq_nil_iff.mpr fun entry member => ?_
    split
    · exact absurd member (none _ _ _)
    · rfl
  · refine List.any_eq_false.mpr fun entry member => ?_
    split
    · exact absurd member (none _ _ _)
    · exact absurd member (none _ _ _)
    · exact Bool.false_ne_true

/-- In steps that are no completions nothing arrives and nothing fails. -/
theorem silent_of_asked {view after : CallView} {own : List CallObs}
    (run : (callMachine.startedAt view).Run Unreturned after own) :
    arrived own = [] ∧ failed own = false := by
  induction run with
  | start => exact ⟨rfl, rfl⟩
  | next before permitted taken inductionHypothesis =>
    obtain ⟨unread, sane⟩ := silent_of_not_returned
      (returned_not_mem_of_unreturned permitted taken)
    rw [arrived_append, failed_append, inductionHypothesis.1, inductionHypothesis.2, unread, sane]
    exact ⟨rfl, rfl⟩

section Turns

variable {server after : RServer} {log news : List ServerObs} {input : ServerInput}
  {address : Nat}

variable (address) in
/-- What a step of the server is seen to do on one call, and what that adds to its history: the
posting of the slot of the call is in the history from the beginning. -/
structure Adds (server after : RServer) (log news : List ServerObs) (own : List CallObs) :
    Prop where
  history : after.history address (log ++ news) = server.history address log ++ own
  seen : callLog address news = own ∨ callLog address news = .posted .requestCall :: own

/-- A step of one call that is there. -/
theorem moved_turn (allocated : address < server.arena.size)
    (remains : address < after.arena.size)
    (turn : CallTurn address input (server.view address) (after.view address)
      (callLog address news)) :
    ∃ own, CallTurn address input (server.callView address) (after.callView address) own ∧
      Adds address server after log news own := by
  refine ⟨callLog address news, ?_, ?_, Or.inl rfl⟩
  · rw [RServer.callView, RServer.callView, if_pos allocated, if_pos remains]
    exact turn
  · rw [RServer.history, RServer.history, if_pos allocated, if_pos remains, callLog_append]

/-- A step that does not reach an address. -/
theorem unused_turn (other : ∀ op delivery, input ≠ .returned address op delivery)
    (unused : server.arena.size ≤ address) (still : after.arena.size ≤ address)
    (silent : callLog address news = []) :
    ∃ own, CallTurn address input (server.callView address) (after.callView address) own ∧
      Adds address server after log news own := by
  refine ⟨[], ?_, ?_, Or.inl silent⟩
  · rw [RServer.callView, RServer.callView, if_neg (Nat.not_lt.mpr unused),
      if_neg (Nat.not_lt.mpr still)]
    exact .asked other .start
  · rw [RServer.history, RServer.history, if_neg (Nat.not_lt.mpr unused),
      if_neg (Nat.not_lt.mpr still), List.append_nil]

/-- A step that leaves a call alone. -/
theorem still_turn (other : ∀ op delivery, input ≠ .returned address op delivery)
    (size : after.arena.size = server.arena.size)
    (same : after.view address = server.view address) (silent : callLog address news = []) :
    ∃ own, CallTurn address input (server.callView address) (after.callView address) own ∧
      Adds address server after log news own := by
  by_cases allocated : address < server.arena.size
  · refine moved_turn allocated (size ▸ allocated) ?_
    rw [same, silent]
    exact .asked other .start
  · have unused := Nat.not_lt.mp allocated
    exact unused_turn other unused (size ▸ unused) silent

/-- A completion of one call is a step of it; the others are left alone or get their slot. -/
theorem Sound.handle_turn (sound : Sound server log) (unlocked : server.muHeld = false)
    {home : Nat} {op : SvOp} (delivery : Delivery) {call : SvCall}
    (outstanding : op ∈ (server.arena.cell home).tags)
    (object : (server.arena.cell home).object = some call) (address : Nat) :
    ∃ own, CallTurn address (.returned home op delivery) (server.callView address)
        ((server.handle home op delivery call).1.callView address) own ∧
      Adds address server (server.handle home op delivery call).1 log
        (server.handle home op delivery call).2 own := by
  have allocated := Arena.lt_size_of_object object
  obtain ⟨count, equal, quiet, -⟩ := handle_eq server home op delivery call
  obtain ⟨shutting, muHeld, -⟩ := handleBody_flags server home op delivery call
  have size : (server.handleBody home op delivery call).arena.size = server.arena.size := by
    rw [handleBody_arena, Arena.size_set]
  have sizeAfter : (server.handle home op delivery call).1.arena.size =
      server.arena.size + count := by
    rw [equal, size_withSlots, size]
  have flags (cell : Cell SvCall SvOp) :
      (⟨cell, (server.handle home op delivery call).1.shutting,
        (server.handle home op delivery call).1.muHeld⟩ : CallView) =
        ⟨cell, server.shutting, server.muHeld⟩ := by
    rw [equal]
    exact congrArg₂ (CallView.mk cell) shutting muHeld
  by_cases old : address < server.arena.size
  · refine moved_turn old (by rw [sizeAfter]; omega) ?_
    have slots : callLog address
        ((server.handleBody home op delivery call).withSlots count).2 = [] := by
      rw [callLog_withSlots, size, if_neg (by omega)]
    have view : (server.handle home op delivery call).1.view address =
        ⟨(server.arena.set home (handledCell server home op delivery call)).cell address,
          server.shutting, server.muHeld⟩ := by
      rw [RServer.view, flags, equal, cell_withSlots_of_lt _ _ (by rw [size]; exact old),
        handleBody_arena]
    rw [view, equal, callLog_append, slots, List.append_nil]
    by_cases same : home = address
    · subst same
      refine .completed op delivery server.nextId rfl ?_
      rw [Arena.cell_set_self allocated, callLog_map_self, callStep]
      simp only [RServer.view, unlocked, Bool.not_false, Bool.true_and,
        List.contains_iff_mem.mpr outstanding, if_true, object, Option.map_some]
    · rw [Arena.cell_set_of_ne same, callLog_map_of_ne address same]
      exact .asked (by simp [same]) .start
  · have unused := Nat.not_lt.mp old
    have other : ∀ op' delivery',
        ServerInput.returned home op delivery ≠ .returned address op' delivery' := by
      intro op' delivery' equal
      exact old ((ServerInput.returned.inj equal).1 ▸ allocated)
    have observed : callLog address (server.handle home op delivery call).2 =
        if server.arena.size ≤ address ∧ address < server.arena.size + count then
          [.posted .requestCall] else [] := by
      rw [equal, callLog_append, callLog_map_of_ne address (by omega), List.nil_append,
        callLog_withSlots, size]
    by_cases posted : address < server.arena.size + count
    · have running : server.shutting = false := by
        by_contra shut
        rw [quiet (by simpa using shut)] at posted
        exact old posted
      rw [if_pos ⟨unused, posted⟩] at observed
      have inside : address < (server.handle home op delivery call).1.arena.size := by
        rw [sizeAfter]
        exact posted
      refine ⟨[], ?_, ?_, Or.inr observed⟩
      · rw [RServer.callView, RServer.callView, if_neg old, if_pos inside, RServer.view, flags,
          cell_handle_of_size_le unused inside, running, unlocked]
        exact .asked other .start
      · rw [RServer.history, RServer.history, if_neg old, if_pos inside, callLog_append,
          sound.unused address unused, observed]
        rfl
    · rw [if_neg fun inside => posted inside.2] at observed
      exact unused_turn other unused (by rw [sizeAfter]; omega) observed

/-- What one step of a server is for each of its calls. -/
theorem Sound.call_turn (sound : Sound server log)
    (taken : serverStep server input = some (after, news)) (address : Nat) :
    ∃ own, CallTurn address input (server.callView address) (after.callView address) own ∧
      Adds address server after log news own := by
  rcases sound.step_cases taken with
    ⟨home, op, delivery, call, rfl, unlocked, outstanding, object, equal⟩ |
    ⟨id, request, home, call, rfl, opened, unlocked, found, object, rfl, rfl⟩ | ⟨other, quiet⟩ |
    ⟨rfl, opened, unlocked, rfl, rfl⟩ | ⟨rfl, joining, idle, rfl, rfl⟩
  · have turn := sound.handle_turn unlocked delivery outstanding object address
    rw [equal] at turn
    exact turn
  · have allocated := Arena.lt_size_of_object object
    have named : call.id ≠ 0 := by
      obtain ⟨stored, same, own, nonzero⟩ := sound.active id home found
      obtain rfl := Option.some.inj (object.symm.trans same)
      rw [own]
      exact nonzero
    by_cases old : address < server.arena.size
    · refine moved_turn old (by rw [Arena.size_set]; exact old) (.asked (by simp) ?_)
      rw [callLog_append, callLog_result, callLog_nil, List.append_nil]
      show (callMachine.startedAt (server.view address)).Run Unreturned
        ⟨(server.arena.set home (answeredCell (request.answer server.shutting call)
          (server.arena.cell home).tags)).cell address, server.shutting,
          (request.answer server.shutting call).raised⟩ _
      by_cases same : home = address
      · subst same
        rw [Arena.cell_set_self allocated, callLog_map_self]
        refine Machine.Run.single (show Unreturned _ (.request request) from trivial) ?_
        simp [callMachine, callStep, RServer.view, unlocked, object, Option.filter, named]
      · rw [Arena.cell_set_of_ne same, callLog_map_of_ne address same]
        cases raised : (request.answer server.shutting call).raised with
        | true => exact Machine.Run.single (show Unreturned _ .wedge from trivial) rfl
        | false =>
          rw [RServer.view, unlocked]
          exact .start
    · have unused := Nat.not_lt.mp old
      refine unused_turn (by simp) unused (by rw [Arena.size_set]; exact unused) ?_
      rw [callLog_append, callLog_map_of_ne address (by omega)]
      rfl
  · refine still_turn (fun op delivery => other address op delivery) ?_ ?_ (quiet.silent address)
    · rw [quiet.same]
    · rw [quiet.same]
      rfl
  · by_cases allocated : address < server.arena.size
    · refine moved_turn allocated allocated (.asked (by simp) ?_)
      exact Machine.Run.single (show Unreturned _ .shut from trivial) rfl
    · have unused := Nat.not_lt.mp allocated
      exact unused_turn (by simp) unused unused rfl
  · exact still_turn (by simp) rfl rfl rfl

end Turns

/-! ### A server just created -/

section Created

variable (acceptWindow maxActive : Int) (wake : WakeHandle) (address : Nat)

end Created

end Rgrpc.Server
