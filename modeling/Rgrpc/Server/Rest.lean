/-
This file proves where the completions of a server lead when nobody asks
anything of it: no client comes, no call ends and R is silent. They run out,
after no more of them than the credit of the server, and whatever order they come
in, every active call then has only its done tag outstanding. It is dead, or its
terminal operation came back, or R holds its request and can go on: everything
sent was written, no read is outstanding, and whatever R asks next is accepted.
-/

import Rgrpc.Server.Credit
import Rgrpc.Server.Events
import Rgrpc.Server.Waiting

namespace Rgrpc.Server

open Library

/-! ### The first read -/

/-- A call that is alive and was not handed to R waits for its first message. -/
def Greeted (view : CallView) : Prop :=
  ∀ call, view.cell.object = some call → .accept ∉ view.cell.tags → call.dead = false →
    call.delivered = false → call.readInflight = true

theorem Greeted.step {view after : CallView} {log news : List CallObs} {input : CallInput}
    (greeted : Greeted view) (phase : Phase view log)
    (taken : callStep view input = some (after, news)) : Greeted after := by
  rcases callStep_cases taken with
    ⟨op, delivery, nextId, call, -, unlocked, outstanding, object, rfl, rfl⟩ |
    ⟨request, call, -, unlocked, object, named, rfl, rfl⟩ | ⟨-, rfl, rfl⟩ | ⟨-, rfl, rfl⟩
  · intro left stored unslotted alive waiting
    have same := eq_of_handleTag stored
    cases phase with
    | slot cell opened =>
      rw [cell] at outstanding object stored
      obtain rfl := List.mem_singleton.mp outstanding
      obtain rfl := Option.some.inj object
      cases matched : delivery.ok with
      | false => simp [handleTag, runCall, runAccept, matched, freed, newSlot] at stored
      | true =>
        cases shutting : view.shutting with
        | true =>
          rw [same, shutting] at alive
          simp [runCall, runAccept, matched] at alive
        | false =>
          rw [same, runCall_accept _ _ _ matched, shutting]
          rfl
    | live other found settled =>
      obtain rfl := Option.some.inj (object.symm.trans found)
      have ledger := settled.ledger
      rw [same] at alive waiting ⊢
      rw [runCall_delivered, Bool.or_eq_false_iff] at waiting
      cases op with
      | accept => exact absurd outstanding ledger.accept_not_mem
      | read =>
        simp only [runCall, runRead, waiting.1, Bool.not_false, Bool.false_and,
          Bool.false_eq_true, if_false] at alive ⊢
        split at alive
        · rename_i fine
          have none := waiting.2
          rw [beq_self_eq_true, Bool.true_and] at none
          exact absurd (none.symm.trans fine) Bool.false_ne_true
        · exact absurd alive.symm Bool.false_ne_true
      | write =>
        have queued := ledger.queued (ledger.writeInflight_of_mem outstanding)
        exact absurd (ledger.handed waiting.1).2 queued
      | done =>
        simp only [runCall, runDone, waiting.1, Bool.false_and, Bool.false_eq_true,
          if_false] at alive ⊢
        exact greeted call object ledger.accept_not_mem alive waiting.1
      | finish => exact greeted call object ledger.accept_not_mem alive waiting.1
    | gone cell deleted lawful =>
      rw [cell] at outstanding
      exact absurd outstanding List.not_mem_nil
  · intro left stored unslotted alive waiting
    obtain rfl := Option.some.inj stored
    rw [(answer_delivered view.shutting request call).2] at waiting
    obtain ⟨same, none⟩ := @answer_of_undelivered view.shutting request call waiting
    rw [same] at alive ⊢
    simp only [answeredCell, none, List.append_nil] at unslotted
    exact greeted call object unslotted alive waiting
  · exact greeted
  · exact greeted

theorem greeted_of_run {view : CallView} {log : List CallObs}
    (run : callMachine.Run Machine.Free view log) : Greeted view := by
  induction run with
  | start => exact fun _ _ unslotted => absurd (List.mem_singleton.mpr rfl) unslotted
  | next before permitted taken inductionHypothesis =>
    exact inductionHypothesis.step (phase_of_run before) taken

/-! ### Rest -/

/-- The guard that lets only what the server posted on accepted calls come back. -/
def OwnCompletions (_ : RServer) : ServerInput → Prop
  | .returned _ op _ => op ≠ .accept ∧ op ≠ .done
  | _ => False

instance (server : RServer) (input : ServerInput) : Decidable (OwnCompletions server input) :=
  match input with
  | .returned _ op _ => inferInstanceAs (Decidable (op ≠ .accept ∧ op ≠ .done))
  | .request _ _ | .poll _ _ | .woken _ _ | .close | .joined => .isFalse id

/-- Nothing is outstanding but accept slots and the done tags of calls. -/
def RServer.Quiescent (server : RServer) : Prop :=
  ∀ cell ∈ server.arena.cells, ∀ op ∈ cell.tags, op = .accept ∨ op = .done

instance (server : RServer) : Decidable server.Quiescent :=
  inferInstanceAs (Decidable (∀ cell ∈ server.arena.cells, ∀ op ∈ cell.tags, _))

/-- A call that waits for R: R was handed its request and has not answered it, everything sent was
written, and no read is outstanding. -/
structure AwaitsR (call : SvCall) : Prop where
  delivered : call.delivered = true
  unanswered : call.replied = false
  alive : call.dead = false
  unfinished : call.finishPosted = false
  unread : call.readInflight = false
  written : call.writeQueue = []

/-- A call that waits: only its done tag is outstanding, and it is dead, or its terminal came back,
or it waits for R, and then whatever R asks is accepted, unless it raises an error. -/
structure Waits (server : RServer) (address : Nat) (call : SvCall) : Prop where
  tags : (server.arena.cell address).tags = [.done]
  state : call.dead = true ∨ call.finishPosted = true ∨ AwaitsR call
  accepts : AwaitsR call → ∀ request : RCall,
    (request.answer server.shutting call).raised = false →
      (request.answer server.shutting call).value = .ok true

/-- Every active call of a server waits for R or for its peer. -/
def AtRest (server : RServer) : Prop :=
  ∀ id address call, server.active.lookup id = some address →
    (server.arena.cell address).object = some call → Waits server address call

/-- Whatever R asks of a call that waits for it is accepted, unless it raises an error. -/
theorem AwaitsR.accepts {call : SvCall} (awaits : AwaitsR call) (room : 0 < call.writeCap)
    (shutting : Bool) (request : RCall) (clean : (request.answer shutting call).raised = false) :
    (request.answer shutting call).value = .ok true := by
  have terminals (terminal : request.isTerminal = true) :
      (request.answer shutting call).value = .ok true := by
    rcases answer_terminal_of_answerable shutting request call terminal awaits.delivered
      awaits.unanswered awaits.alive with same | ⟨trailing, hasFinalWrite, error, same⟩
    · rw [same]
      rfl
    · rw [same] at clean
      exact absurd clean.symm Bool.false_ne_true
  cases request with
  | reply args => exact terminals rfl
  | finish args => exact terminals rfl
  | read =>
    rw [RCall.answer, readCall, if_neg (by simp [awaits.delivered, awaits.alive, awaits.unread,
      awaits.unfinished])]
  | cancel => rw [RCall.answer, cancelCall, if_neg (by simp [awaits.alive])]
  | send bytes =>
    rw [RCall.answer, sendCall, if_neg (by simp [awaits.delivered, awaits.alive,
      awaits.unanswered]), if_neg (by simpa [awaits.written] using Nat.ne_of_gt room)]
    rfl

section Rest

variable {server after : RServer} {log news : List ServerObs} {input : ServerInput}

/-- A call with nothing outstanding but its done tag waits. -/
theorem Sound.waits (sound : Sound server log) (unlocked : server.muHeld = false)
    (running : server.shutting = false) (quiescent : server.Quiescent) {id address : Nat}
    {call : SvCall} (found : server.active.lookup id = some address)
    (object : (server.arena.cell address).object = some call) : Waits server address call := by
  have allocated := Arena.lt_size_of_object object
  have run := sound.calls address allocated
  have only := quiescent _ (Arena.cell_mem allocated)
  cases sound.phase allocated with
  | slot cell opened =>
    obtain ⟨call', object', named, nonzero⟩ := sound.active id address found
    rw [show server.arena.cell address = slotCell from cell] at object'
    obtain rfl := Option.some.inj object'
    exact absurd named.symm nonzero
  | live other same settled =>
    obtain rfl := Option.some.inj (object.symm.trans same)
    have ledger := settled.ledger
    have unslotted := ledger.accept_not_mem
    have dones : ∀ op ∈ (server.arena.cell address).tags, op = .done := fun op member =>
      (only op member).resolve_left fun slot => unslotted (slot ▸ member)
    have tags : (server.arena.cell address).tags = [.done] := by
      have all := List.eq_replicate_of_mem dones
      have one := ledger.done
      rw [show (server.view address).cell.tags = (server.arena.cell address).tags from rfl, all,
        List.count_replicate_self] at one
      have some := List.length_pos_iff.mpr settled.busy
      rw [all, Nat.le_antisymm one some]
      rfl
    have idle {flag : Bool} {op : SvOp} (other : op ≠ .done)
        (counts : (server.view address).cell.tags.count op = if flag then 1 else 0) :
        flag = false := by
      rw [show (server.view address).cell.tags = [.done] from tags,
        List.count_eq_zero_of_not_mem (by simpa using other)] at counts
      cases flag with
      | true => exact absurd counts (by simp)
      | false => rfl
    have unread := idle (by simp) ledger.read
    have unwritten := idle (by simp) ledger.write
    refine ⟨tags, ?_, fun awaits request clean =>
      awaits.accepts (by rw [writeCap_of_run run object]; exact Nat.succ_pos 15) _ request clean⟩
    by_cases dead : call.dead = true
    · exact Or.inl dead
    · rw [Bool.not_eq_true] at dead
      cases replied : call.replied with
      | true =>
        rcases settled.answers running dead replied with writing | posted | wedged
        · exact absurd (unwritten.symm.trans writing) Bool.false_ne_true
        · exact Or.inr (Or.inl posted)
        · exact absurd (unlocked.symm.trans wedged) Bool.false_ne_true
      | false =>
        refine Or.inr (Or.inr ⟨?_, replied, dead, ledger.finishPosted_of_not_replied replied,
          unread, ?_⟩)
        · by_contra waiting
          rw [Bool.not_eq_true] at waiting
          have reading := greeted_of_run run call object unslotted dead waiting
          exact absurd (unread.symm.trans reading) Bool.false_ne_true
        · by_contra queued
          exact absurd (unwritten.symm.trans (settled.flows running dead queued))
            Bool.false_ne_true
  | gone cell deleted lawful =>
    rw [show server.arena.cell address = ⟨none, []⟩ from cell] at object
    exact absurd object (by simp)

/-- A completion of the server's own is the handling of a tag that was outstanding. -/
theorem Sound.ownCompletion (sound : Sound server log) (only : OwnCompletions server input)
    (taken : serverStep server input = some (after, news)) :
    (after.closed = server.closed ∧ after.muHeld = false) ∧
      after.credit + weigh ServerObs.works news ≤ server.credit := by
  cases input with
  | returned address op delivery =>
    rcases sound.step_cases taken with
      ⟨other, op', delivery', call, same, unlocked, outstanding, object, equal⟩ |
      ⟨id, request, other, call, absurdity, -⟩ | ⟨other, -⟩ | ⟨absurdity, -⟩ | ⟨absurdity, -⟩
    · obtain ⟨rfl, rfl, rfl⟩ := ServerInput.returned.inj same
      obtain ⟨once, paid⟩ := credit_handle delivery call sound unlocked outstanding object
      obtain ⟨count, handled, -⟩ := handle_eq server address op delivery call
      obtain ⟨-, muHeld, closed, -⟩ := handleBody_flags server address op delivery call
      have slotless : (op == .accept && delivery.ok) = false := by simp [only.1]
      rw [slotless, if_neg Bool.false_ne_true, Nat.add_zero] at paid
      rw [equal] at once paid handled
      rw [(Prod.mk.inj handled).1]
      exact ⟨⟨closed, muHeld.trans unlocked⟩,
        (Prod.mk.inj handled).1 ▸ once.symm ▸ paid⟩
    · exact absurd absurdity (by simp)
    · exact absurd rfl (other address op delivery)
    · exact absurd absurdity (by simp)
    · exact absurd absurdity (by simp)
  | _ => exact absurd only id

/-- A server with an operation outstanding on an accepted call can handle its completion, which
uses up credit. -/
theorem Sound.progress (sound : Sound server log) (unlocked : server.muHeld = false)
    (busy : ¬server.Quiescent) :
    ∃ input after news, OwnCompletions server input ∧
      serverStep server input = some (after, news) ∧ after.credit < server.credit := by
  simp only [RServer.Quiescent, not_forall] at busy
  obtain ⟨cell, member, op, outstanding, own⟩ := busy
  rw [not_or] at own
  obtain ⟨address, inside, rfl⟩ := List.getElem_of_mem member
  have here : server.arena.cell address = server.arena.cells[address] := by
    rw [Arena.cell, List.getElem?_eq_getElem inside]
    rfl
  rw [← here] at outstanding
  obtain ⟨call, object⟩ := sound.object_of_mem outstanding
  obtain ⟨-, paid⟩ := credit_handle { ok := true } call sound unlocked outstanding object
  have slotless : (op == .accept && (Delivery.ok { ok := true })) = false := by simp [own.1]
  have weight : op.creditWeight = 1 := if_neg own.1
  rw [slotless, if_neg Bool.false_ne_true, Nat.add_zero, weight] at paid
  refine ⟨.returned address op { ok := true }, (server.handle address op { ok := true } call).1,
    (server.handle address op { ok := true } call).2, own, ?_, paid⟩
  rw [serverStep, RServer.run, if_pos (by simp [unlocked, outstanding]), object]

end Rest

/-- Left alone by R and by its clients, an open server whose mutex was not left locked comes to
rest: the operations it posted on accepted calls can come back until none is outstanding, there are
never more of them than its credit, and wherever they leave none outstanding every active call waits
for R or for its peer. -/
theorem server_comes_to_rest (acceptWindow maxActive : Int) (wake : WakeHandle)
    (server : RServer) (log : List ServerObs)
    (run : (serverMachine acceptWindow maxActive wake).Run Machine.Free server log)
    (open_ : server.closed = false) (unlocked : server.muHeld = false) :
    (∃ later more, ((serverMachine acceptWindow maxActive wake).startedAt server).Run
        OwnCompletions later more ∧ later.Quiescent) ∧
      ∀ later more, ((serverMachine acceptWindow maxActive wake).startedAt server).Run
        OwnCompletions later more →
          later.credit + weigh ServerObs.works more ≤ server.credit ∧
            (later.Quiescent → AtRest later) := by
  constructor
  · refine run.driven RServer.credit (fun state => state.muHeld = false) RServer.Quiescent
      (fun before unlocked busy => ?_) unlocked
    obtain ⟨input, after, news, only, taken, lower⟩ :=
      (sound_of_run before).progress unlocked busy
    exact ⟨input, after, news, only, taken,
      ((sound_of_run before).ownCompletion only taken).1.2, lower⟩
  · intro later more on
    obtain ⟨⟨stillOpen, stillFree⟩, spent⟩ := run.amortised
      (fun state => state.closed = false ∧ state.muHeld = false) RServer.credit
      ServerObs.works (fun _ => 0) (fun before kept only taken => by
        obtain ⟨⟨closed, muHeld⟩, paid⟩ := (sound_of_run before).ownCompletion only taken
        exact ⟨⟨closed.trans kept.1, muHeld⟩, paid.trans (Nat.le_add_right _ _)⟩)
      ⟨open_, unlocked⟩ on
    rw [weigh_zero] at spent
    have sound := sound_of_run (run.trans on.free)
    exact ⟨spent, fun quiescent id address call found object =>
      sound.waits stillFree (sound.closing.trans stillOpen) quiescent found object⟩

/-- Two calls: one is sent to and finished, the other one is sent to. -/
def busyInputs : List ServerInput :=
  [.returned 0 .accept { ok := true },
    .returned 0 .read { ok := true, message := .ofRaw [1] },
    .request 1 (.send [2]),
    .request 1 (.finish ⟨0, none, none, true⟩),
    .returned 1 .accept { ok := true },
    .returned 1 .read { ok := true, message := .ofRaw [3] },
    .request 2 (.send [4])]

/-- Their operations come back. -/
def restReturns : List ServerInput :=
  [.returned 1 .write { ok := true }, .returned 0 .write { ok := true },
    .returned 0 .finish { ok := true }]

theorem server_comes_to_rest_served : ∃ server log later more,
    (serverMachine 1 2 ⟨16, 0⟩).Run Machine.Free server log ∧ server.closed = false ∧
      server.muHeld = false ∧
      ((serverMachine 1 2 ⟨16, 0⟩).startedAt server).Run OwnCompletions later more ∧
      server.credit = 5 ∧ weigh ServerObs.works more = 3 ∧ later.Quiescent ∧ AtRest later := by
  have run := Machine.run_of_exec (show (serverMachine 1 2 ⟨16, 0⟩).exec Machine.Free _
    busyInputs = some _ from rfl)
  have on := Machine.run_of_exec (show ((serverMachine 1 2 ⟨16, 0⟩).startedAt _).exec
    OwnCompletions (((serverMachine 1 2 ⟨16, 0⟩).exec Machine.Free
      (serverMachine 1 2 ⟨16, 0⟩).start busyInputs).get rfl).1 restReturns = some _ from rfl)
  exact ⟨_, _, _, _, run, rfl, rfl, on, rfl, rfl, by decide,
    ((server_comes_to_rest 1 2 ⟨16, 0⟩ _ _ run rfl rfl).2 _ _ on).2 (by decide)⟩

end Rgrpc.Server
