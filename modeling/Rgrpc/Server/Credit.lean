/-
This file bounds the work of the completion thread of a server. Every operation
it posts on an accepted call was paid for: by the client whose call was matched,
which pays for the done tag and the first read, or by R, which pays for the read
it asks for, the write of a message it sends and the terminal operation. What
was paid for and has not come back is the credit of the server. Accept slots are
not counted: how often a slot is matched is up to the clients.
-/

import Rgrpc.Server.Closing
import Rgrpc.Server.Output

namespace Rgrpc.Server

open Library

/-! ### What is still to come back -/

/-- The completions of an accepted call a tag stands for. -/
def SvOp.creditWeight (op : SvOp) : Nat := if op = .accept then 0 else 1

/-- The operations a call still posts without being asked: the writes of what it has queued, and
the terminal it has armed. -/
def SvCall.ahead (call : SvCall) : Nat :=
  if call.dead || call.finishPosted then 0
  else call.unwritten.length + if call.replied then 1 else 0

/-- What a cell is worth: the tags outstanding of an accepted call, and those it still posts. -/
def callCredit (cell : Cell SvCall SvOp) : Nat :=
  weigh SvOp.creditWeight cell.tags +
    match cell.object with
    | some call => call.ahead
    | none => 0

/-- The completions of accepted calls that were paid for. A server whose mutex was left locked
handles none. -/
def RServer.credit (server : RServer) : Nat :=
  if server.muHeld then 0 else server.arena.total callCredit

/-- A completion of an accepted call handled. -/
def ServerObs.works : ServerObs → Nat
  | .call _ (.returned op _ _) => op.creditWeight
  | _ => 0

/-- What a step pays for: two completions when a slot is matched, and one when a request of R is
accepted. -/
def ServerObs.pays : ServerObs → Nat
  | .call _ (.returned .accept true _) => 2
  | .call _ (.accepted _) => 1
  | _ => 0

/-! ### Sections of a call -/

section Ahead

variable (shutting : Bool) (call : SvCall)

/-- The pump posts what the call was ahead of. -/
theorem ahead_pumpLocked : weigh SvOp.creditWeight (postedTags (pumpLocked shutting call).2) +
    (pumpLocked shutting call).1.ahead ≤ call.ahead := by
  rcases pumpLocked_cases shutting call with
    ⟨same, -⟩ | ⟨-, alive, running, idle, ⟨front, rest, queue, same⟩ | ⟨queue, replied, same⟩⟩
  · rw [same]
    exact Nat.le_of_eq (Nat.zero_add _)
  · rw [same]
    simp [SvCall.ahead, SvCall.unwritten, alive, running, idle, queue, SvPost.op,
      SvOp.creditWeight]
    omega
  · rw [same]
    simp [SvCall.ahead, SvCall.unwritten, alive, running, idle, queue, replied,
      terminalPost_op, SvOp.creditWeight]

/-- A handler of an accepted call posts no more than the call was ahead of. -/
theorem ahead_runCall (nextId : Nat) {op : SvOp} (delivery : Delivery) (own : op ≠ .accept)
    (inflight : op = .write → call.writeInflight = true) :
    weigh SvOp.creditWeight (postedTags (runCall shutting nextId op delivery call).2) +
      (runCall shutting nextId op delivery call).1.ahead ≤ call.ahead := by
  cases op with
  | accept => exact absurd rfl own
  | read =>
    simp only [runCall, runRead]
    split
    · split <;> exact Nat.le_of_eq (Nat.zero_add _)
    · split
      · exact Nat.le_of_eq (Nat.zero_add _)
      · exact Nat.zero_le _
  | write =>
    simp only [runCall, runWrite]
    split
    · rename_i fine
      have popped : SvCall.ahead
          { call with
            pending := call.pending - 1
            writeInflight := false
            writeQueue := call.writeQueue.tail } = call.ahead := by
        simp [SvCall.ahead, SvCall.unwritten, inflight rfl]
      have pumped := ahead_pumpLocked shutting
        { call with
          pending := call.pending - 1
          writeInflight := false
          writeQueue := call.writeQueue.tail }
      rw [popped] at pumped
      refine Nat.le_trans (Nat.le_of_eq ?_) pumped
      split <;> simp
    · exact Nat.zero_le _
  | done =>
    simp only [runCall, runDone]
    split
    · exact Nat.zero_le _
    · exact Nat.le_of_eq (Nat.zero_add _)
  | finish => exact Nat.le_of_eq (Nat.zero_add _)

/-- A slot that is matched brings the done tag and the first read. -/
theorem ahead_runAccept (nextId : Nat) (delivery : Delivery) :
    weigh SvOp.creditWeight (doneTag .accept delivery.ok) +
        weigh SvOp.creditWeight
          (postedTags (runCall shutting nextId .accept delivery newSlot).2) +
        (runCall shutting nextId .accept delivery newSlot).1.ahead ≤
      if delivery.ok then 2 else 0 := by
  simp only [runCall, runAccept]
  cases delivery.ok with
  | false => exact Nat.le_refl 0
  | true =>
    cases shutting with
    | true => exact Nat.le_succ 1
    | false => exact Nat.le_refl 2

/-- A request of R that is accepted is ahead of one more operation, and one that is refused of
none. -/
theorem ahead_answer (request : RCall) (kept : (request.answer shutting call).raised = false) :
    weigh SvOp.creditWeight (postedTags (request.answer shutting call).obs) +
        (request.answer shutting call).call.ahead ≤
      call.ahead + if (request.answer shutting call).value = .ok true then 1 else 0 := by
  have pumps (asked : RCall) {other : SvCall} (more : other.ahead ≤ call.ahead + 1) :
      weigh SvOp.creditWeight (postedTags (acceptAndPump shutting asked other).obs) +
          (acceptAndPump shutting asked other).call.ahead ≤ call.ahead + 1 :=
    (ahead_pumpLocked shutting other).trans more
  rcases answer_cases shutting request call with
    same | ⟨-, -, -, -, -, same⟩ | ⟨-, -, same⟩ | ⟨bytes, -, -, -, -, -, same⟩ |
    ⟨-, -, silent, -, same | ⟨trailing, hasFinalWrite, error, same⟩⟩
  · rw [same]
    exact Nat.le_of_eq (Nat.zero_add _)
  · rw [same]
    exact Nat.le_of_eq (Nat.add_comm 1 _)
  · rw [same]
    exact (Nat.le_of_eq (Nat.zero_add _)).trans (Nat.le_add_right _ _)
  · rw [same]
    refine pumps _ ?_
    have longer : (SvCall.unwritten { call with
        writeQueue := call.writeQueue ++ [.ofRaw bytes] }).length ≤
          call.unwritten.length + 1 := by
      unfold SvCall.unwritten
      cases call.writeInflight <;> cases call.writeQueue <;> simp
    simp only [SvCall.ahead]
    split <;> omega
  · rw [same]
    refine pumps _ ?_
    have shorter : (call.armed request).unwritten.length ≤ call.unwritten.length := by
      rw [unwritten_armed]
      split
      · exact Nat.zero_le _
      · exact Nat.le_refl _
    have armed : (call.armed request).ahead =
        if call.dead || call.finishPosted then 0
        else (call.armed request).unwritten.length + 1 := rfl
    rw [armed, SvCall.ahead, silent]
    split
    · exact Nat.zero_le _
    · simp only [Bool.false_eq_true, if_false]
      omega
  · rw [same] at kept
    exact absurd kept.symm Bool.false_ne_true

end Ahead

/-! ### Handlers -/

section Handlers

variable {server : RServer} {log : List ServerObs} {address : Nat} {op : SvOp}
  (delivery : Delivery) (call : SvCall)

/-- A handler of an accepted call uses up credit; the handler of a matched slot opens two. -/
theorem callCredit_handledCell (sound : Sound server log)
    (outstanding : op ∈ (server.arena.cell address).tags)
    (object : (server.arena.cell address).object = some call) :
    callCredit (handledCell server address op delivery call) + op.creditWeight ≤
      callCredit (server.arena.cell address) + if op == .accept && delivery.ok then 2 else 0 := by
  have phase := sound.phase (Arena.lt_size_of_object object)
  have erased := weigh_erase SvOp.creditWeight outstanding
  have left : (match (handledCell server address op delivery call).object with
      | some call => call.ahead
      | none => 0) ≤ (runCall server.shutting server.nextId op delivery call).1.ahead := by
    simp only [handledCell, handleTag]
    split_ifs
    · exact Nat.zero_le _
    · exact Nat.le_refl _
  have tags : weigh SvOp.creditWeight (handledCell server address op delivery call).tags =
      weigh SvOp.creditWeight ((server.arena.cell address).tags.erase op) +
        weigh SvOp.creditWeight (doneTag op delivery.ok) +
        weigh SvOp.creditWeight
          (postedTags (runCall server.shutting server.nextId op delivery call).2) := by
    simp only [handledCell, handleTag, weigh_append]
  have before : callCredit (server.arena.cell address) =
      weigh SvOp.creditWeight (server.arena.cell address).tags + call.ahead := by
    rw [callCredit, object]
  rw [callCredit, tags, before]
  by_cases own : op = .accept
  · subst own
    have slot := phase.slot_of_accept outstanding
    rw [show server.arena.cell address = slotCell from slot] at object ⊢
    obtain rfl := Option.some.inj object
    have ran := ahead_runAccept server.shutting server.nextId delivery
    have nothing : weigh SvOp.creditWeight (slotCell.tags.erase .accept) = 0 := rfl
    have weightless : SvOp.creditWeight .accept = 0 := rfl
    rw [nothing, weightless, beq_self_eq_true, Bool.true_and]
    omega
  · have inflight : op = .write → call.writeInflight = true :=
      fun kind => (phase.write_mem_iff object).1.mp (kind ▸ outstanding)
    have ran := ahead_runCall server.shutting call server.nextId delivery own inflight
    have none : doneTag op delivery.ok = [] := by
      rw [doneTag, if_neg (by simp [own])]
    rw [none, weigh_nil]
    omega

/-- Of what a handler lets be observed, only the tag that came back weighs something. -/
theorem weigh_handleTag (weight : ServerObs → Nat)
    (posted : ∀ post, weight (.call address (.posted post)) = 0)
    (pushed : ∀ event, weight (.call address (.pushed event)) = 0)
    (deleted : weight (.call address .deleted) = 0) (shutting : Bool) (nextId : Nat)
    (tags : List SvOp) :
    weigh weight ((handleTag shutting nextId op delivery call tags).2.map
        (ServerObs.call address)) =
      weight (.call address (.returned op delivery.ok delivery.message)) := by
  have acts : weigh weight ((runCall shutting nextId op delivery call).2.map
      (ServerObs.call address)) = 0 := by
    rw [weigh_map]
    refine weigh_eq_zero fun entry member => ?_
    have act := isAct_runCall _ _ _ _ _ entry member
    cases entry with
    | posted post => exact posted post
    | pushed event => exact pushed event
    | _ => exact absurd act Bool.false_ne_true
  rw [handleTag]
  simp only [List.cons_append, List.map_cons, List.map_append, weigh_cons, weigh_append, acts]
  split
  · simp [deleted]
  · rfl

/-- Slots are worth nothing. -/
theorem total_withSlots (server : RServer) (count : Nat) :
    (server.withSlots count).1.arena.total callCredit = server.arena.total callCredit := by
  have worthless : ((List.replicate count slotCell).map callCredit).sum = 0 := by
    rw [List.map_replicate, List.sum_replicate_nat]
    exact Nat.mul_zero count
  rw [RServer.withSlots, Arena.total, List.map_append, List.sum_append, worthless]
  rfl

theorem weigh_withSlots (weight : ServerObs → Nat)
    (posted : ∀ address, weight (.call address (.posted .requestCall)) = 0) (server : RServer)
    (count : Nat) : weigh weight (server.withSlots count).2 = 0 := by
  rw [RServer.withSlots, weigh_map]
  exact weigh_eq_zero fun address _ => posted address

/-- A handler of a tag of an accepted call is paid by the credit, and the handler of a matched slot
pays for what it opens. -/
theorem credit_handle (sound : Sound server log) (unlocked : server.muHeld = false)
    (outstanding : op ∈ (server.arena.cell address).tags)
    (object : (server.arena.cell address).object = some call) :
    weigh ServerObs.works (server.handle address op delivery call).2 = op.creditWeight ∧
      (server.handle address op delivery call).1.credit + op.creditWeight ≤
        server.credit + if op == .accept && delivery.ok then 2 else 0 := by
  obtain ⟨count, equal, -⟩ := handle_eq server address op delivery call
  rw [equal]
  constructor
  · rw [weigh_append, weigh_handleTag delivery call _ (fun _ => rfl) (fun _ => rfl) rfl,
      weigh_withSlots _ fun _ => rfl]
    rfl
  · have locked := (handleBody_flags server address op delivery call).2.1.trans unlocked
    have used := callCredit_handledCell delivery call sound outstanding object
    have exchanged := Arena.total_set callCredit (Arena.lt_size_of_mem_tags outstanding)
      (handledCell server address op delivery call)
    have after : ((server.handleBody address op delivery call).withSlots count).1.credit =
        (server.arena.set address (handledCell server address op delivery call)).total
          callCredit := by
      rw [RServer.credit, if_neg, total_withSlots, handleBody_arena]
      show ¬(server.handleBody address op delivery call).muHeld = true
      rw [locked]
      exact Bool.false_ne_true
    rw [after, RServer.credit, unlocked, if_neg Bool.false_ne_true]
    omega

end Handlers

/-! ### Steps -/

section Steps

variable {server after : RServer} {log news : List ServerObs} {input : ServerInput}

theorem Quiet.weightless (quiet : Quiet server after news) {weight : ServerObs → Nat}
    (silent : ∀ entry, (∀ address obs, entry ≠ .call address obs) → weight entry = 0) :
    weigh weight news = 0 := by
  refine weigh_eq_zero fun entry member => silent entry ?_
  rintro address obs rfl
  have logged := mem_callLog_iff.mpr member
  rw [quiet.silent address] at logged
  exact absurd logged List.not_mem_nil

/-- A request that is accepted pays for the operation it asks for. -/
theorem pays_answer (shutting : Bool) (call : SvCall) (request : RCall) (address : Nat) :
    weigh ServerObs.works
        ((request.answer shutting call).obs.map (ServerObs.call address)) = 0 ∧
      (if (request.answer shutting call).value = .ok true then 1 else 0) ≤
        weigh ServerObs.pays
          ((request.answer shutting call).obs.map (ServerObs.call address)) := by
  have pumps (asked : RCall) (other : SvCall) :
      weigh ServerObs.works
          ((acceptAndPump shutting asked other).obs.map (ServerObs.call address)) = 0 ∧
        1 ≤ weigh ServerObs.pays
          ((acceptAndPump shutting asked other).obs.map (ServerObs.call address)) := by
    refine ⟨?_, Nat.le_add_right 1 _⟩
    rw [weigh_map]
    refine weigh_eq_zero fun entry member => ?_
    rcases List.mem_cons.mp member with rfl | pumped
    · rfl
    · cases entry with
      | returned op ok message =>
        exact absurd (isAct_pumpLocked shutting other _ pumped) Bool.false_ne_true
      | _ => rfl
  rcases answer_cases shutting request call with
    same | ⟨-, -, -, -, -, same⟩ | ⟨-, -, same⟩ | ⟨bytes, -, -, -, -, -, same⟩ |
    ⟨-, -, -, -, same | ⟨trailing, hasFinalWrite, error, same⟩⟩
  · rw [same]
    exact ⟨rfl, Nat.le_refl 0⟩
  · rw [same]
    exact ⟨rfl, Nat.le_refl 1⟩
  · rw [same]
    exact ⟨rfl, Nat.le_refl 1⟩
  · rw [same]
    exact pumps _ _
  · rw [same]
    exact pumps _ _
  · rw [same]
    exact ⟨rfl, Nat.le_refl 0⟩

/-- No step handles more completions of accepted calls than it takes from the credit and is paid
for. -/
theorem credit_step (sound : Sound server log)
    (taken : serverStep server input = some (after, news)) :
    after.credit + weigh ServerObs.works news ≤ server.credit + weigh ServerObs.pays news := by
  rcases sound.step_cases taken with
    ⟨address, op, delivery, call, rfl, unlocked, outstanding, object, equal⟩ |
    ⟨id, request, address, call, rfl, opened, unlocked, found, object, rfl, rfl⟩ |
    ⟨-, quiet⟩ | ⟨-, -, unlocked, rfl, rfl⟩ | ⟨-, -, -, rfl, rfl⟩
  · obtain ⟨once, paid⟩ := credit_handle delivery call sound unlocked outstanding object
    have matched : (if op == .accept && delivery.ok then 2 else 0) ≤
        weigh ServerObs.pays (server.handle address op delivery call).2 := by
      obtain ⟨count, whole, -⟩ := handle_eq server address op delivery call
      rw [whole, weigh_append,
        weigh_handleTag delivery call _ (fun _ => rfl) (fun _ => rfl) rfl]
      cases op <;> cases delivery.ok <;> exact Nat.le_add_right _ _
    rw [equal] at once paid matched
    simp only at once paid matched
    omega
  · obtain ⟨silent, paid⟩ := pays_answer server.shutting call request address
    rw [weigh_append, weigh_append, silent]
    cases raised : (request.answer server.shutting call).raised with
    | true => exact (Nat.le_of_eq rfl).trans (Nat.zero_le _)
    | false =>
      have ahead := ahead_answer server.shutting call request raised
      have exchanged := Arena.total_set callCredit (Arena.lt_size_of_object object)
        (answeredCell (request.answer server.shutting call) (server.arena.cell address).tags)
      have before : callCredit (server.arena.cell address) =
          weigh SvOp.creditWeight (server.arena.cell address).tags + call.ahead := by
        rw [callCredit, object]
      have left : callCredit (answeredCell (request.answer server.shutting call)
          (server.arena.cell address).tags) =
          weigh SvOp.creditWeight (server.arena.cell address).tags +
            weigh SvOp.creditWeight
              (postedTags (request.answer server.shutting call).obs) +
            (request.answer server.shutting call).call.ahead := by
        rw [callCredit, answeredCell, weigh_append]
      simp only [RServer.credit, unlocked, Bool.false_eq_true, if_false]
      show _ + (0 + 0) ≤ _ + (_ + 0)
      omega
  · rw [quiet.weightless fun entry other => ?_]
    · rw [quiet.same]
      exact Nat.le_add_right _ _
    · cases entry with
      | call address obs => exact absurd rfl (other address obs)
      | _ => rfl
  · simp only [RServer.credit]
    exact Nat.le_refl _
  · exact Nat.le_refl _

end Steps

/-- From every reachable state of a server, the completions of accepted calls handled in any
continuation are at most the credit of the server and what is paid for on the way: two for every
slot that is matched, and one for every send, read, reply, finish or cancel R is told is accepted.
The server never works on its own account. -/
theorem server_completions_paid (acceptWindow maxActive : Int) (wake : WakeHandle)
    (server : RServer) (log : List ServerObs)
    (run : (serverMachine acceptWindow maxActive wake).Run Machine.Free server log)
    (later : RServer) (more : List ServerObs)
    (on : ((serverMachine acceptWindow maxActive wake).startedAt server).Run Machine.Free later
      more) :
    later.credit + weigh ServerObs.works more ≤ server.credit + weigh ServerObs.pays more :=
  (run.amortised (fun _ => True) RServer.credit ServerObs.works ServerObs.pays
    (fun before _ _ taken => ⟨trivial, credit_step (sound_of_run before) taken⟩) trivial on).2

/-- A call is accepted, read, sent to and finished; its done tag is still to come back. -/
def paidInputs : List ServerInput :=
  [.returned 0 .accept { ok := true },
    .returned 0 .read { ok := true, message := .ofRaw [1] },
    .request 1 (.send [2]),
    .request 1 (.finish ⟨0, none, none, true⟩),
    .returned 0 .write { ok := true },
    .returned 0 .finish { ok := true }]

theorem server_completions_paid_served : ∃ later more,
    ((serverMachine 1 2 ⟨16, 0⟩).startedAt (serverMachine 1 2 ⟨16, 0⟩).start).Run Machine.Free
      later more ∧
      weigh ServerObs.works more = 3 ∧ weigh ServerObs.pays more = 4 ∧ later.credit = 1 ∧
      later.credit + weigh ServerObs.works more ≤
        (serverMachine 1 2 ⟨16, 0⟩).start.credit + weigh ServerObs.pays more := by
  have on := Machine.run_of_exec (show ((serverMachine 1 2 ⟨16, 0⟩).startedAt _).exec
    Machine.Free (serverMachine 1 2 ⟨16, 0⟩).start paidInputs = some _ from rfl)
  exact ⟨_, _, on, rfl, rfl, rfl, server_completions_paid 1 2 ⟨16, 0⟩ _ _ .start _ _ on⟩

end Rgrpc.Server
