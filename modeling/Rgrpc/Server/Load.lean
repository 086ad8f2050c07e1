/-
This file bounds the load of the server. The slots it counts as outstanding are
the accept tags that have not come back, so the count is never negative; with
the calls in the table of active calls they stay within the two bounds the
server was created with. Each call keeps its own bound on the messages that wait
to be written.
-/

import Rgrpc.Server.Capacity

namespace Rgrpc.Server

open Library

/-! ### Accept tags -/

/-- Only `post_accepts_locked` posts an accept slot. -/
theorem accept_not_mem_postedTags {obs : List CallObs}
    (other : CallObs.posted .requestCall ∉ obs) : .accept ∉ postedTags obs := by
  intro member
  obtain ⟨entry, inside, same⟩ := List.mem_filterMap.mp member
  cases entry with
  | posted post =>
    cases post with
    | requestCall => exact other inside
    | _ => simp [SvPost.op] at same
  | _ => simp at same

theorem requestCall_not_mem_pumpLocked (shutting : Bool) (call : SvCall) :
    CallObs.posted .requestCall ∉ (pumpLocked shutting call).2 := by
  have terminal : call.terminalPost ≠ .requestCall := by
    intro same
    have op := terminalPost_op call
    rw [same] at op
    exact absurd op (by simp [SvPost.op])
  rcases pumpLocked_cases shutting call with
    ⟨same, -⟩ | ⟨-, -, -, -, ⟨front, rest, -, same⟩ | ⟨-, -, same⟩⟩
  · rw [same]
    exact List.not_mem_nil
  · rw [same]
    simp
  · rw [same]
    simpa using Ne.symm terminal

theorem requestCall_not_mem_runCall (shutting : Bool) (nextId : Nat) (op : SvOp)
    (delivery : Delivery) (call : SvCall) :
    CallObs.posted .requestCall ∉ (runCall shutting nextId op delivery call).2 := by
  cases op with
  | accept =>
    unfold runCall runAccept
    simp only
    split_ifs <;> simp
  | read =>
    unfold runCall runRead
    simp only
    split_ifs <;> simp
  | write =>
    unfold runCall runWrite
    simp only
    split
    · rw [List.mem_append, not_or]
      refine ⟨?_, requestCall_not_mem_pumpLocked _ _⟩
      split <;> simp
    · exact List.not_mem_nil
  | done =>
    unfold runCall runDone
    simp only
    split_ifs <;> simp
  | finish => exact List.not_mem_nil

theorem requestCall_not_mem_answer (shutting : Bool) (request : RCall) (call : SvCall) :
    CallObs.posted .requestCall ∉ (request.answer shutting call).obs := by
  have pumps (request : RCall) (other : SvCall) :
      CallObs.posted .requestCall ∉ (acceptAndPump shutting request other).obs := by
    have pumped := requestCall_not_mem_pumpLocked shutting other
    simpa [acceptAndPump] using pumped
  rcases answer_cases shutting request call with
    same | ⟨-, -, -, -, -, same⟩ | ⟨-, -, same⟩ | ⟨bytes, -, -, -, -, -, same⟩ |
    ⟨-, -, -, -, same | ⟨trailing, hasFinalWrite, error, same⟩⟩
  · rw [same]
    exact List.not_mem_nil
  · rw [same]
    simp
  · rw [same]
    simp
  · rw [same]
    exact pumps _ _
  · rw [same]
    exact pumps _ _
  · rw [same]
    exact List.not_mem_nil

/-- A handler takes the tag it was called for, and posts no accept slot on its call. -/
theorem count_accept_handleTag (shutting : Bool) (nextId : Nat) {op : SvOp} (delivery : Delivery)
    (call : SvCall) {tags : List SvOp} (outstanding : op ∈ tags) :
    (handleTag shutting nextId op delivery call tags).1.tags.count .accept +
      (if op == .accept then 1 else 0) = tags.count .accept := by
  have posted : (postedTags (runCall shutting nextId op delivery call).2).count .accept = 0 :=
    List.count_eq_zero.mpr
      (accept_not_mem_postedTags (requestCall_not_mem_runCall shutting nextId op delivery call))
  have done : (doneTag op delivery.ok).count .accept = 0 := by
    unfold doneTag
    split <;> rfl
  show (tags.erase op ++ doneTag op delivery.ok ++ postedTags _).count .accept + _ = _
  rw [List.count_append, List.count_append, posted, done]
  by_cases kind : op = .accept
  · subst kind
    have positive := List.count_pos_iff.mpr outstanding
    rw [List.count_erase_self]
    simp only [beq_self_eq_true, if_true]
    omega
  · rw [List.count_erase_of_ne (Ne.symm kind), beq_eq_false_iff_ne.mpr kind]
    rfl

/-- The server counts the accept tags that are outstanding. -/
def RServer.SlotsCounted (server : RServer) : Prop :=
  server.acceptsOutstanding = server.arena.outstanding .accept

theorem slotsCounted_withSlots {server : RServer} (counted : server.SlotsCounted) (count : Nat) :
    (server.withSlots count).1.SlotsCounted := by
  have slots := Arena.outstanding_append_replicate server.arena.cells count slotCell SvOp.accept
  have one : slotCell.tags.count .accept = 1 := rfl
  rw [one, Nat.mul_one] at slots
  have before : server.acceptsOutstanding = server.arena.outstanding .accept := counted
  show server.acceptsOutstanding + (count : Int) = _
  rw [RServer.withSlots, slots, before]
  push_cast
  rfl

theorem slotsCounted_handle {server : RServer} (counted : server.SlotsCounted) {address : Nat}
    {op : SvOp} (delivery : Delivery) (call : SvCall)
    (outstanding : op ∈ (server.arena.cell address).tags) :
    (server.handle address op delivery call).1.SlotsCounted := by
  obtain ⟨count, equal, -⟩ := handle_eq server address op delivery call
  rw [equal]
  refine slotsCounted_withSlots ?_ count
  have exchanged := Arena.outstanding_set (Arena.lt_size_of_mem_tags outstanding)
    (handledCell server address op delivery call) SvOp.accept
  have left : (handledCell server address op delivery call).tags.count .accept +
      (if op == .accept then 1 else 0) = (server.arena.cell address).tags.count .accept :=
    count_accept_handleTag server.shutting server.nextId delivery call outstanding
  have before : server.acceptsOutstanding = server.arena.outstanding .accept := counted
  rw [RServer.SlotsCounted, handleBody_acceptsOutstanding, handleBody_arena, before]
  cases kind : (op == .accept) with
  | true =>
    rw [kind, if_pos rfl] at left
    rw [if_pos rfl]
    omega
  | false =>
    rw [kind, if_neg Bool.false_ne_true] at left
    rw [if_neg Bool.false_ne_true]
    omega

theorem slotsCounted_answered {server : RServer} (counted : server.SlotsCounted) {address : Nat}
    {call : SvCall} (object : (server.arena.cell address).object = some call)
    (request : RCall) :
    RServer.SlotsCounted
      { server with
        arena := server.arena.set address (answeredCell (request.answer server.shutting call)
          (server.arena.cell address).tags)
        muHeld := (request.answer server.shutting call).raised } := by
  have exchanged := Arena.outstanding_set (Arena.lt_size_of_object object)
    (answeredCell (request.answer server.shutting call) (server.arena.cell address).tags)
    SvOp.accept
  have posted : (postedTags (request.answer server.shutting call).obs).count .accept = 0 :=
    List.count_eq_zero.mpr
      (accept_not_mem_postedTags (requestCall_not_mem_answer server.shutting request call))
  rw [answeredCell, List.count_append, posted, Nat.add_zero] at exchanged
  have before : server.acceptsOutstanding = server.arena.outstanding .accept := counted
  show server.acceptsOutstanding = _
  rw [before]
  exact congrArg Int.ofNat (Nat.add_right_cancel exchanged).symm

/-- Along every run the server counts the accept tags that are outstanding. -/
theorem slotsCounted_of_run {acceptWindow maxActive : Int} {wake : WakeHandle}
    {allowed : RServer → ServerInput → Prop} {server : RServer} {log : List ServerObs}
    (run : (serverMachine acceptWindow maxActive wake).Run allowed server log) :
    server.SlotsCounted := by
  induction run with
  | start =>
    obtain ⟨count, equal, -⟩ := postAcceptsLocked_eq { acceptWindow, maxActive, wake }
    show (createServer acceptWindow maxActive wake).1.SlotsCounted
    have empty : ({ acceptWindow, maxActive, wake } : RServer).SlotsCounted := rfl
    rw [createServer, equal]
    exact slotsCounted_withSlots empty count
  | next before _ taken counted =>
    have sound := sound_of_run before
    rcases sound.step_cases taken with
      ⟨address, op, delivery, call, rfl, unlocked, outstanding, object, equal⟩ |
      ⟨id, request, address, call, rfl, opened, unlocked, found, object, rfl, rfl⟩ |
      ⟨-, quiet⟩ | ⟨rfl, opened, unlocked, rfl, rfl⟩ | ⟨rfl, joining, idle, rfl, rfl⟩
    · have handled := slotsCounted_handle counted delivery call outstanding
      rw [equal] at handled
      exact handled
    · exact slotsCounted_answered counted object request
    · rw [quiet.same]
      exact counted
    · exact counted
    · exact counted

/-! ### The write queue -/

/-- A section that leaves the bound on the write queue as it was and the queue within it. -/
structure QueueKept (call after : SvCall) : Prop where
  cap : after.writeCap = call.writeCap
  bounded : call.writeQueue.length ≤ call.writeCap → after.writeQueue.length ≤ after.writeCap

theorem queueKept_of_eq {call after : SvCall} (cap : after.writeCap = call.writeCap)
    (queue : after.writeQueue.length ≤ call.writeQueue.length) : QueueKept call after := by
  refine ⟨cap, fun bounded => ?_⟩
  rw [cap]
  exact Nat.le_trans queue bounded

theorem pumpLocked_queue (shutting : Bool) (call : SvCall) :
    (pumpLocked shutting call).1.writeCap = call.writeCap ∧
      (pumpLocked shutting call).1.writeQueue = call.writeQueue := by
  rcases pumpLocked_cases shutting call with
    ⟨same, -⟩ | ⟨-, -, -, -, ⟨front, rest, -, same⟩ | ⟨-, -, same⟩⟩ <;>
  · rw [same]
    exact ⟨rfl, rfl⟩

theorem queueKept_runCall (shutting : Bool) (nextId : Nat) (op : SvOp) (delivery : Delivery)
    (call : SvCall) : QueueKept call (runCall shutting nextId op delivery call).1 := by
  cases op with
  | accept =>
    unfold runCall runAccept
    simp only
    split_ifs <;> exact queueKept_of_eq rfl (Nat.le_refl _)
  | read =>
    unfold runCall runRead
    simp only
    split_ifs <;> exact queueKept_of_eq rfl (Nat.le_refl _)
  | write =>
    unfold runCall runWrite
    simp only
    split
    · obtain ⟨cap, queue⟩ := pumpLocked_queue shutting
        { call with
          pending := call.pending - 1, writeInflight := false
          writeQueue := call.writeQueue.tail }
      refine queueKept_of_eq cap ?_
      rw [queue]
      exact (List.tail_sublist _).length_le
    · exact queueKept_of_eq rfl (Nat.le_refl _)
  | done =>
    unfold runCall runDone
    simp only
    split_ifs <;> exact queueKept_of_eq rfl (Nat.le_refl _)
  | finish => exact queueKept_of_eq rfl (Nat.le_refl _)

theorem queueLeft_length_le (request : RCall) (call : SvCall) :
    (request.queueLeft call).length ≤ call.writeQueue.length := by
  unfold RCall.queueLeft discardQueued
  split
  · split
    · exact List.length_take_le' _ _
    · exact Nat.zero_le _
  · exact Nat.le_refl _

/-- A send is accepted only while the queue has room. -/
theorem queueKept_answer (shutting : Bool) (request : RCall) (call : SvCall) :
    QueueKept call (request.answer shutting call).call := by
  rcases answer_cases shutting request call with
    same | ⟨-, -, -, -, -, same⟩ | ⟨-, -, same⟩ | ⟨bytes, -, -, -, -, room, same⟩ |
    ⟨-, -, -, -, same | ⟨trailing, hasFinalWrite, error, same⟩⟩
  · rw [same]
    exact queueKept_of_eq rfl (Nat.le_refl _)
  · rw [same]
    exact queueKept_of_eq rfl (Nat.le_refl _)
  · rw [same]
    exact queueKept_of_eq rfl (Nat.le_refl _)
  · rw [same]
    obtain ⟨cap, queue⟩ := pumpLocked_queue shutting
      { call with writeQueue := call.writeQueue ++ [.ofRaw bytes] }
    refine ⟨cap, fun _ => ?_⟩
    show (pumpLocked shutting _).1.writeQueue.length ≤ (pumpLocked shutting _).1.writeCap
    rw [cap, queue, List.length_append]
    exact room
  · rw [same]
    obtain ⟨cap, queue⟩ := pumpLocked_queue shutting (call.armed request)
    refine queueKept_of_eq cap ?_
    show (pumpLocked shutting _).1.writeQueue.length ≤ _
    rw [queue]
    exact queueLeft_length_le request call
  · rw [same]
    exact queueKept_of_eq rfl (queueLeft_length_le request call)

/-- Along every run of one call its write queue stays within its bound. -/
theorem queue_bounded_of_run {view : CallView} {log : List CallObs}
    {allowed : CallView → CallInput → Prop} (run : callMachine.Run allowed view log)
    {call : SvCall} (object : view.cell.object = some call) :
    call.writeQueue.length ≤ call.writeCap := by
  induction run generalizing call with
  | start =>
    obtain rfl := Option.some.inj object
    exact Nat.zero_le _
  | next before _ taken inductionHypothesis =>
    rcases callStep_cases taken with
      ⟨op, delivery, nextId, found, -, -, -, stored, rfl, rfl⟩ |
      ⟨request, found, -, -, stored, -, rfl, rfl⟩ | ⟨-, rfl, rfl⟩ | ⟨-, rfl, rfl⟩
    · rw [handleTag] at object
      simp only at object
      split at object
      · exact absurd object (by simp)
      · obtain rfl := Option.some.inj object
        exact (queueKept_runCall _ _ _ _ _).bounded (inductionHypothesis stored)
    · obtain rfl := Option.some.inj object
      exact (queueKept_answer _ _ _).bounded (inductionHypothesis stored)
    · exact inductionHypothesis object
    · exact inductionHypothesis object

/-! ### The bounds together -/

/-- In every state of every run the slots outstanding are the accept tags outstanding and fit the
accept window, with the active calls they fit the bound on calls, every active call is stored under
its own id, and no call has more messages queued than its bound. -/
theorem load_bounded (acceptWindow maxActive : Int) (window : 1 ≤ acceptWindow)
    (room : 1 ≤ maxActive) (wake : WakeHandle) (server : RServer) (log : List ServerObs)
    (run : (serverMachine acceptWindow maxActive wake).Run Machine.Free server log) :
    0 ≤ server.acceptsOutstanding ∧ server.acceptsOutstanding ≤ acceptWindow ∧
      server.activeSize + server.acceptsOutstanding ≤ maxActive ∧
      server.acceptsOutstanding = server.arena.outstanding .accept ∧
      (∀ id address, server.active.lookup id = some address →
        id ≠ 0 ∧ ∃ call, (server.arena.cell address).object = some call ∧ call.id = id) ∧
      ∀ address call, (server.arena.cell address).object = some call →
        call.writeQueue.length ≤ call.writeCap := by
  have sound := sound_of_run run
  have bounded := withinBounds_of_run window room run
  obtain ⟨sameWindow, sameRoom⟩ := bounds_of_run run
  have counted : server.acceptsOutstanding = server.arena.outstanding .accept :=
    slotsCounted_of_run run
  refine ⟨?_, ?_, ?_, counted, fun id address found => ?_, fun address call object => ?_⟩
  · rw [counted]
    exact Int.natCast_nonneg _
  · rw [← sameWindow]
    exact bounded.slots
  · rw [← sameRoom]
    exact bounded.load
  · obtain ⟨call, object, named, nonzero⟩ := sound.active id address found
    exact ⟨nonzero, call, object, named⟩
  · exact queue_bounded_of_run (sound.calls address (Arena.lt_size_of_object object)) object

/-- A server with a call in hand that has a message queued. -/
def loadedInputs : List ServerInput :=
  [.returned 0 .accept { ok := true },
    .returned 0 .read { ok := true, message := .ofRaw [1] },
    .request 1 (.send [2])]

theorem load_bounded_answering : ∃ server log,
    (serverMachine 1 2 ⟨16, 0⟩).Run Machine.Free server log ∧
      server.acceptsOutstanding = 1 ∧ server.activeSize = 1 ∧
      server.activeSize + server.acceptsOutstanding ≤ 2 ∧
      server.acceptsOutstanding = server.arena.outstanding .accept := by
  have run := Machine.run_of_exec (show (serverMachine 1 2 ⟨16, 0⟩).exec Machine.Free
    (serverMachine 1 2 ⟨16, 0⟩).start loadedInputs = some _ from rfl)
  have bounds := load_bounded 1 2 (by decide) (by decide) ⟨16, 0⟩ _ _ run
  exact ⟨_, _, run, rfl, rfl, bounds.2.2.1, bounds.2.2.2.1⟩

end Rgrpc.Server
