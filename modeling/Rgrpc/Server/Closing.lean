/-
This file proves that a close of the server returns once it got the mutex.
Between the shutdown of the completion queue and the join of the completion
thread nothing is posted any more, so every completion takes one operation off
those outstanding. Only an accept slot may come back matched after all: then the
done tag of its call takes its place, and the slot counts for two. As long as a
tag is outstanding it can be returned, and when none is, the completion thread
can be joined and nothing is left.
-/

import Rgrpc.Library.Potential
import Rgrpc.Server.Runs

namespace Rgrpc.Server

open Library

/-! ### What is left to drain -/

/-- The completions a tag stands for in a server that shuts down. -/
def SvOp.drainWeight (op : SvOp) : Nat := if op = .accept then 2 else 1

/-- The completions a server that shuts down can still handle. -/
def RServer.drain (server : RServer) : Nat :=
  server.arena.total fun cell => weigh SvOp.drainWeight cell.tags

/-- One completion handled: a tag returned. -/
def ServerObs.completes : ServerObs → Nat
  | .call _ (.returned _ _ _) => 1
  | _ => 0

/-- A server inside or past a close. -/
structure RServer.Shut (server : RServer) : Prop where
  closed : server.closed = true
  shutting : server.shutting = true
  unlocked : server.muHeld = false
  thread : server.rthread = .joining ∨ server.rthread = .gone

/-- While shutting down no handler posts an operation. -/
theorem postedTags_runCall_shutting (nextId : Nat) (op : SvOp) (delivery : Delivery)
    (call : SvCall) : postedTags (runCall true nextId op delivery call).2 = [] := by
  cases op with
  | accept =>
    unfold runCall runAccept
    simp only
    split <;> rfl
  | read =>
    unfold runCall runRead
    simp only
    split_ifs <;> rfl
  | write =>
    unfold runCall runWrite
    simp only
    split
    · simp only [pumpLocked, Bool.true_or, if_true, List.append_nil]
      split <;> rfl
    · rfl
  | done =>
    unfold runCall runDone
    simp only
    split <;> rfl
  | finish => rfl

/-- The done tag that takes the place of a matched slot is lighter. -/
theorem weigh_doneTag (op : SvOp) (ok : Bool) :
    weigh SvOp.drainWeight (doneTag op ok) + 1 ≤ op.drainWeight := by
  cases op <;> cases ok <;> decide

section Shut

variable {server after : RServer} {log news : List ServerObs} {input : ServerInput}

/-- What can happen to a server that was closed: a tag comes back, the completion thread is joined,
or R makes a call that is refused. -/
theorem RServer.Shut.step_cases (shut : server.Shut)
    (taken : serverStep server input = some (after, news)) :
    (∃ address op delivery, input = .returned address op delivery) ∨
      (input = .joined ∧ server.rthread = .joining) ∨
      after = server ∧ weigh ServerObs.completes news = 0 := by
  have refused (result : RServer × List ServerObs) (same : some result = some (after, news))
      (kept : result.1 = server) (silent : weigh ServerObs.completes result.2 = 0) :
      after = server ∧ weigh ServerObs.completes news = 0 := by
    rw [Option.some.inj same] at kept silent
    exact ⟨kept, silent⟩
  cases input with
  | returned address op delivery => exact Or.inl ⟨address, op, delivery, rfl⟩
  | request id request =>
    have call := call_of_rthread taken
    rw [RServer.request, if_pos shut.closed] at call
    exact Or.inr (Or.inr (refused _ call rfl rfl))
  | poll args leftMs =>
    have call := call_of_rthread taken
    rw [RServer.grpcRServer2Poll, if_pos shut.closed] at call
    exact Or.inr (Or.inr (refused _ call rfl rfl))
  | woken result leftMs =>
    rcases shut.thread with joining | gone
    · rw [serverStep, joining] at taken
      exact absurd taken (by simp)
    · rw [serverStep, gone] at taken
      exact absurd taken (by simp)
  | close =>
    have call := call_of_rthread taken
    rw [RServer.beginClose, if_pos shut.closed] at call
    exact Or.inr (Or.inr (refused _ call rfl rfl))
  | joined =>
    rcases shut.thread with joining | gone
    · exact Or.inr (Or.inl ⟨rfl, joining⟩)
    · rw [serverStep, gone] at taken
      exact absurd taken (by simp)

/-- A handler of a server that shuts down takes one completion off what is left. -/
theorem drain_handle {address : Nat} {op : SvOp} (call : SvCall) (shutting : server.shutting = true)
    (delivery : Delivery) (outstanding : op ∈ (server.arena.cell address).tags) :
    (server.handle address op delivery call).1.drain + 1 ≤ server.drain ∧
      weigh ServerObs.completes (server.handle address op delivery call).2 = 1 := by
  obtain ⟨count, equal, quiet, -⟩ := handle_eq server address op delivery call
  obtain rfl := quiet shutting
  have silent : postedTags (runCall server.shutting server.nextId op delivery call).2 = [] := by
    rw [shutting]
    exact postedTags_runCall_shutting _ _ _ _
  rw [withSlots_zero, List.append_nil] at equal
  rw [equal]
  constructor
  · have left : weigh SvOp.drainWeight (handledCell server address op delivery call).tags + 1 ≤
        weigh SvOp.drainWeight (server.arena.cell address).tags := by
      have erased := weigh_erase SvOp.drainWeight outstanding
      have matched := weigh_doneTag op delivery.ok
      rw [handledCell, handleTag]
      simp only [silent, List.append_nil, weigh_append]
      omega
    have exchanged := Arena.total_set (fun cell => weigh SvOp.drainWeight cell.tags)
      (Arena.lt_size_of_mem_tags outstanding) (handledCell server address op delivery call)
    rw [RServer.drain, handleBody_arena, RServer.drain]
    omega
  · have acts : weigh ServerObs.completes
        ((runCall server.shutting server.nextId op delivery call).2.map
          (ServerObs.call address)) = 0 := by
      rw [weigh_map]
      refine weigh_eq_zero fun entry member => ?_
      have act := isAct_runCall _ _ _ _ _ entry member
      cases entry with
      | posted post => rfl
      | pushed event => rfl
      | _ => exact absurd act Bool.false_ne_true
    rw [handleTag]
    simp only [List.cons_append, List.map_cons, List.map_append, weigh_cons, weigh_append, acts]
    split <;> rfl

/-- A server that was closed stays so, and no step handles more completions than it takes off what
is left. -/
theorem RServer.Shut.step (shut : server.Shut) (sound : Sound server log)
    (taken : serverStep server input = some (after, news)) :
    after.Shut ∧ after.drain + weigh ServerObs.completes news ≤ server.drain := by
  rcases shut.step_cases taken with
    ⟨address, op, delivery, rfl⟩ | ⟨rfl, joining⟩ | ⟨rfl, silent⟩
  · rcases sound.step_cases taken with
      ⟨other, op', delivery', call, same, -, outstanding, object, equal⟩ |
      ⟨id, request, other, call, absurdity, -⟩ | ⟨other, -⟩ | ⟨absurdity, -⟩ | ⟨absurdity, -⟩
    · obtain ⟨rfl, rfl, rfl⟩ := ServerInput.returned.inj same
      obtain ⟨paid, once⟩ := drain_handle call shut.shutting delivery outstanding
      obtain ⟨count, handled, -⟩ := handle_eq server address op delivery call
      obtain ⟨shutting, muHeld, closed, rthread, -⟩ :=
        handleBody_flags server address op delivery call
      rw [equal] at paid once handled
      have flags := (Prod.mk.inj handled).1
      refine ⟨?_, by rw [once]; exact paid⟩
      rw [flags]
      exact ⟨closed.trans shut.closed, shutting.trans shut.shutting, muHeld.trans shut.unlocked,
        by rw [RServer.withSlots, rthread]; exact shut.thread⟩
    · exact absurd absurdity (by simp)
    · exact absurd rfl (other address op delivery)
    · exact absurd absurdity (by simp)
    · exact absurd absurdity (by simp)
  · rw [serverStep, joining] at taken
    obtain ⟨-, rfl, rfl⟩ := sound.endClose_eq taken
    exact ⟨⟨shut.closed, shut.shutting, shut.unlocked, Or.inr rfl⟩, Nat.le_refl _⟩
  · rw [silent]
    exact ⟨shut, Nat.le_refl _⟩

/-- Any tag outstanding in a server that is closing can be returned, and there is less left to drain
then. -/
theorem RServer.Shut.returned (shut : server.Shut) (sound : Sound server log) {address : Nat}
    {op : SvOp} (outstanding : op ∈ (server.arena.cell address).tags) (delivery : Delivery) :
    ∃ after news, serverStep server (.returned address op delivery) = some (after, news) ∧
      after.drain < server.drain := by
  obtain ⟨call, object⟩ := sound.object_of_mem outstanding
  refine ⟨(server.handle address op delivery call).1, (server.handle address op delivery call).2,
    ?_, (drain_handle _ shut.shutting delivery outstanding).1⟩
  rw [serverStep, RServer.run, if_pos (by simp [shut.unlocked, outstanding]), object]

end Shut

/-! ### A close returns -/

/-- A closed server does not hold its mutex: a close that could start found it free, and no request
gets past the check for a closed server after that. -/
theorem unlocked_of_run {acceptWindow maxActive : Int} {wake : WakeHandle} {server : RServer}
    {log : List ServerObs}
    (run : (serverMachine acceptWindow maxActive wake).Run Machine.Free server log)
    (closed : server.closed = true) : server.muHeld = false := by
  induction run with
  | start =>
    obtain ⟨count, created, -⟩ := postAcceptsLocked_eq { acceptWindow, maxActive, wake }
    show (createServer acceptWindow maxActive wake).1.muHeld = false
    rw [createServer, created]
    rfl
  | @next state after log news input before permitted taken inductionHypothesis =>
    rcases (sound_of_run before).step_cases taken with
      ⟨address, op, delivery, call, -, unlocked, -, -, equal⟩ |
      ⟨id, request, address, call, -, opened, -, -, -, rfl, -⟩ | ⟨-, quiet⟩ |
      ⟨-, -, unlocked, -, rfl⟩ | ⟨-, -, -, -, rfl⟩
    · obtain ⟨count, handled, -⟩ := handle_eq state address op delivery call
      rw [equal] at handled
      rw [(Prod.mk.inj handled).1]
      exact (handleBody_flags state address op delivery call).2.1.trans unlocked
    · exact absurd (opened.symm.trans closed) Bool.false_ne_true
    · rw [quiet.same] at closed ⊢
      exact inductionHypothesis closed
    · exact unlocked
    · exact inductionHypothesis closed

/-- How a close goes on: it handles no more completions than it found outstanding, every tag still
outstanding can be returned, once there is none the completion thread can be joined, and past the
join no call, no tag and no id is left. -/
structure CloseReturns (server later : RServer) (more : List ServerObs) : Prop where
  bounded : later.drain + weigh ServerObs.completes more ≤ server.drain
  thread : later.rthread = .joining ∨ later.rthread = .gone
  returns : ∀ address op delivery, op ∈ (later.arena.cell address).tags →
    (serverStep later (.returned address op delivery)).isSome = true
  joins : later.rthread = .joining → later.arena.Idle →
    (serverStep later .joined).isSome = true
  empty : later.rthread = .gone → later.arena.Idle ∧
    (∀ address, (later.arena.cell address).object = none) ∧ ∀ id, later.active.lookup id = none

section CloseReturns

variable {acceptWindow maxActive : Int} {wake : WakeHandle} {server later : RServer}
  {log more : List ServerObs}

/-- A server that is joining its completion thread is inside a close. -/
theorem shut_of_joining
    (run : (serverMachine acceptWindow maxActive wake).Run Machine.Free server log)
    (joining : server.rthread = .joining) : server.Shut := by
  have sound := sound_of_run run
  have closed := sound.joining joining
  exact ⟨closed, sound.closing.trans closed, unlocked_of_run run closed, Or.inl joining⟩

/-- Whether the join is still to come. -/
def RServer.joinLeft (server : RServer) : Nat := if server.rthread = .gone then 0 else 1

theorem joinLeft_le_one (server : RServer) : server.joinLeft ≤ 1 := by
  unfold RServer.joinLeft
  split
  · exact Nat.zero_le 1
  · exact Nat.le_refl 1

/-- A close can always be driven to its end. -/
theorem driven_to_gone
    (run : (serverMachine acceptWindow maxActive wake).Run Machine.Free server log)
    (shut : server.Shut) :
    ∃ later more, ((serverMachine acceptWindow maxActive wake).startedAt server).Run Machine.Free
      later more ∧ later.rthread = .gone := by
  refine run.driven (fun state => state.drain + state.joinLeft) RServer.Shut
    (fun state => state.rthread = .gone) (fun {state log} before shut waiting => ?_) shut
  have sound := sound_of_run before
  have joining := shut.thread.resolve_right waiting
  by_cases idle : state.arena.Idle
  · have joins : serverStep state .joined = some ({ state with
        arena := (deleteCalls (state.active.entries.map Sigma.snd) state.arena).1
        active := ∅
        rthread := .gone }, (deleteCalls (state.active.entries.map Sigma.snd) state.arena).2) := by
      rw [serverStep, joining]
      exact if_pos idle
    obtain ⟨kept, paid⟩ := shut.step sound joins
    refine ⟨.joined, _, _, trivial, joins, kept, ?_⟩
    show _ + 0 < _ + state.joinLeft
    rw [RServer.joinLeft, if_neg waiting]
    omega
  · obtain ⟨address, op, outstanding⟩ := Arena.exists_tag_of_not_idle idle
    obtain ⟨after, news, taken, lower⟩ := shut.returned sound outstanding { ok := false }
    refine ⟨.returned address op { ok := false }, after, news, trivial, taken,
      (shut.step sound taken).1, ?_⟩
    have late := joinLeft_le_one after
    have early : state.joinLeft = 1 := if_neg waiting
    omega

end CloseReturns

/-- A close of the server that got its mutex returns: from every state in which R waits for the
completion thread the close can be driven to its end, and however the completions come in, there are
no more of them than were left to drain, none of them is stuck, and in the end nothing is left. -/
theorem server_close_returns (acceptWindow maxActive : Int) (wake : WakeHandle) (server : RServer)
    (log : List ServerObs)
    (run : (serverMachine acceptWindow maxActive wake).Run Machine.Free server log)
    (joining : server.rthread = .joining) :
    (∃ later more, ((serverMachine acceptWindow maxActive wake).startedAt server).Run Machine.Free
        later more ∧ later.rthread = .gone) ∧
      ∀ later more, ((serverMachine acceptWindow maxActive wake).startedAt server).Run Machine.Free
        later more → CloseReturns server later more := by
  have shut := shut_of_joining run joining
  refine ⟨driven_to_gone run shut, fun later more on => ?_⟩
  obtain ⟨closing, bounded⟩ := run.amortised RServer.Shut RServer.drain
    ServerObs.completes (fun _ => 0) (fun before shut _ taken => by
      obtain ⟨kept, paid⟩ := shut.step (sound_of_run before) taken
      exact ⟨kept, paid.trans (Nat.le_add_right _ _)⟩) shut on
  rw [weigh_zero] at bounded
  have sound := sound_of_run (run.trans on)
  refine ⟨bounded, closing.thread, fun address op delivery outstanding => ?_, fun waits idle => ?_,
    fun gone => ?_⟩
  · obtain ⟨after, news, taken, -⟩ := closing.returned sound outstanding delivery
    rw [taken]
    rfl
  · rw [serverStep, waits]
    simp only [RServer.endClose, if_pos idle, Option.isSome_some]
  · have idle := (sound.drained gone).2
    refine ⟨idle, sound.objects_gone idle, fun id => ?_⟩
    cases found : later.active.lookup id with
    | none => rfl
    | some address =>
      obtain ⟨call, object, -⟩ := sound.active id address found
      exact absurd ((sound.objects_gone idle address).symm.trans object) (by simp)

/-- A server with a call being answered is closed, and its last slot comes back matched. -/
def closingInputs : List ServerInput :=
  [.returned 0 .accept { ok := true }, .close]

def closingReturns : List ServerInput :=
  [.returned 1 .accept { ok := true }, .returned 0 .done { ok := false },
    .returned 1 .done { ok := false }, .returned 0 .read { ok := false }, .joined]

theorem server_close_returns_matched : ∃ server log later more,
    (serverMachine 1 2 ⟨16, 0⟩).Run Machine.Free server log ∧ server.rthread = .joining ∧
      ((serverMachine 1 2 ⟨16, 0⟩).startedAt server).Run Machine.Free later more ∧
      server.drain = 4 ∧ weigh ServerObs.completes more = 4 ∧ later.rthread = .gone ∧
      CloseReturns server later more := by
  have run := Machine.run_of_exec (show (serverMachine 1 2 ⟨16, 0⟩).exec Machine.Free _
    closingInputs = some _ from rfl)
  have on := Machine.run_of_exec (show ((serverMachine 1 2 ⟨16, 0⟩).startedAt _).exec Machine.Free
    (((serverMachine 1 2 ⟨16, 0⟩).exec Machine.Free (serverMachine 1 2 ⟨16, 0⟩).start
      closingInputs).get rfl).1 closingReturns = some _ from rfl)
  exact ⟨_, _, _, _, run, rfl, on, rfl, rfl, rfl,
    (server_close_returns 1 2 ⟨16, 0⟩ _ _ run rfl).2 _ _ on⟩

end Rgrpc.Server
