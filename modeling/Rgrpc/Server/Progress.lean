/-
This file says how a call moves on while it is healthy: its client is there, the
server is open, and what the call posted succeeds. A slot is matched, the
messages of the client are read as R asks for them, and once R's terminal
request was accepted the call writes what is queued and then its terminal. The
download of a call counts what it still has to do until then, and a write that
makes it write takes more off than what it writes is worth.

It serves to drive a conversation to its end (`Rgrpc/Completion.lean`).
-/

import Rgrpc.Server.Atomic
import Rgrpc.Server.Ending
import Rgrpc.Server.Grammar
import Rgrpc.Server.Rest

namespace Rgrpc.Server

open Library

/-! ### What is left to write -/

/-- What a call still has to do until its terminal is posted: a message is worth six steps, five of
them for whoever carries it on. -/
def SvCall.download (call : SvCall) : Nat :=
  6 * call.unwritten.length + (if call.writeInflight then 1 else 0) +
    if call.finishPosted then 0 else 10

/-- What the pump leaves of a call: it pays for what it writes, and a terminal it posts carries a
trailer. -/
structure Pumping (call : SvCall) (left : SvCall × List CallObs) : Prop where
  id : left.1.id = call.id
  dead : left.1.dead = call.dead
  replied : left.1.replied = call.replied
  download : left.1.download + 5 * (carried left.2).length + 2 * (trailers left.2).length ≤
    call.download
  trailing : left.1.finishPosted = true → call.finishPosted = true ∨ trailers left.2 ≠ []

theorem trailers_terminalPost (call : SvCall) :
    trailers [.posted call.terminalPost] = [⟨call.finalStatus, call.trailingMetadata⟩] := by
  unfold SvCall.terminalPost
  split <;> rfl

theorem carried_terminalPost (call : SvCall) :
    (carried [.posted call.terminalPost]).length ≤ 1 := by
  unfold SvCall.terminalPost
  split
  · exact Nat.le_refl 1
  · exact Nat.zero_le 1

theorem pumping_pumpLocked (shutting : Bool) (call : SvCall) :
    Pumping call (pumpLocked shutting call) := by
  rcases pumpLocked_cases shutting call with
    ⟨same, -⟩ | ⟨-, -, running, idle, ⟨front, rest, queue, same⟩ | ⟨queue, -, same⟩⟩
  · rw [same]
    exact ⟨rfl, rfl, rfl, Nat.le_refl _, Or.inl⟩
  · have waiting : call.unwritten.length = rest.length + 1 := by
      rw [SvCall.unwritten, idle, queue]
      rfl
    have left : SvCall.unwritten
        { call with writeInflight := true, pending := call.pending + 1 } = rest := by
      show call.writeQueue.tail = rest
      rw [queue]
      rfl
    rw [same]
    refine ⟨rfl, rfl, rfl, ?_, Or.inl⟩
    rw [SvCall.download, SvCall.download, left, waiting, idle]
    show 6 * rest.length + 1 + (if call.finishPosted then 0 else 10) + 5 * 1 + 2 * 0 ≤
      6 * (rest.length + 1) + 0 + (if call.finishPosted then 0 else 10)
    omega
  · have few := carried_terminalPost call
    rw [same]
    refine ⟨rfl, rfl, rfl, ?_, fun _ => Or.inr ?_⟩
    · rw [trailers_terminalPost, SvCall.download, SvCall.download, running]
      show 6 * call.unwritten.length + (if call.writeInflight then 1 else 0) + 0 +
        5 * (carried [.posted call.terminalPost]).length + 2 * 1 ≤
        6 * call.unwritten.length + (if call.writeInflight then 1 else 0) + 10
      omega
    · rw [trailers_terminalPost]
      exact List.cons_ne_nil _ _

/-! ### A healthy call -/

/-- A call that was accepted and is not dead, whose client is there and whose server is open. -/
structure Healthy (view : CallView) (call : SvCall) : Prop where
  object : view.cell.object = some call
  running : view.shutting = false
  unlocked : view.wedged = false
  alive : call.dead = false
  named : call.id ≠ 0
  held : .done ∈ view.cell.tags

/-- A slot of an open server that no client has come to yet. -/
structure Vacant (view : CallView) : Prop where
  cell : view.cell = ⟨some newSlot, [.accept]⟩
  running : view.shutting = false
  unlocked : view.wedged = false

/-- What the call of a view still has to do until its terminal is posted. -/
def CallView.download (view : CallView) : Nat :=
  (view.cell.object.map SvCall.download).getD 0

section Healthy

variable {view : CallView} {call : SvCall} {log : List CallObs}

theorem download_of_object (object : view.cell.object = some call) :
    view.download = call.download := by
  rw [CallView.download, object]
  rfl

theorem Healthy.settled (healthy : Healthy view call)
    (run : callMachine.Run Machine.Free view log) : Settled view call log := by
  cases phase_of_run run with
  | slot cell opened =>
    have object := healthy.object
    rw [cell] at object
    obtain rfl := Option.some.inj object
    exact absurd rfl healthy.named
  | live other same settled =>
    obtain rfl := Option.some.inj (healthy.object.symm.trans same)
    exact settled
  | gone cell deleted lawful =>
    have object := healthy.object
    rw [cell] at object
    exact absurd object (by simp)

/-- A healthy call that read a message was handed to R. -/
theorem Healthy.delivered (healthy : Healthy view call)
    (run : callMachine.Run Machine.Free view log) (heard : arrived log ≠ []) :
    call.delivered = true := by
  by_contra waiting
  have unheard := mt ((storied_of_run run).story call healthy.object).begun.mpr waiting
  have silent : pushedEvents log = [] := List.map_eq_nil_iff.mp (not_not.mp unheard)
  have handed := (flow_of_run run).inbound call healthy.object healthy.alive
  rw [messages, silent] at handed
  exact heard (List.map_eq_nil_iff.mp handed.symm)

/-- What the handler of a read or a write leaves of a healthy call that stays alive. -/
theorem Healthy.returned (healthy : Healthy view call)
    (run : callMachine.Run Machine.Free view log) {op : SvOp} (outstanding : op ∈ view.cell.tags)
    (own : op = .read ∨ op = .write) (delivery : Delivery) (ok : delivery.ok = true)
    (alive : (runCall view.shutting 0 op delivery call).1.dead = false) :
    ∃ after news, callStep view (.returned op delivery 0) = some (after, news) ∧
      Healthy after (runCall view.shutting 0 op delivery call).1 ∧
      arrived news =
        (if op == .read then [grpcByteBufferToString delivery.message] else []) ∧
      failed news = false ∧
      carried news = carried (runCall view.shutting 0 op delivery call).2 ∧
      trailers news = trailers (runCall view.shutting 0 op delivery call).2 := by
  have ledger := (healthy.settled run).ledger
  have other : op ≠ .done := by
    rcases own with rfl | rfl <;> simp
  have unslotted : op ≠ .accept := by
    rcases own with rfl | rfl <;> simp
  have held : .done ∈ view.cell.tags.erase op ++ doneTag op delivery.ok ++
      postedTags (runCall view.shutting 0 op delivery call).2 := by
    refine List.mem_append_left _ (List.mem_append_left _ ?_)
    exact (List.mem_erase_of_ne (Ne.symm other)).mpr healthy.held
  have pending := (ledger.runCall outstanding view.shutting 0 delivery).pending
  have kept : freed op delivery.ok (runCall view.shutting 0 op delivery call).1 = false := by
    have some := List.length_pos_of_mem held
    have busy : (runCall view.shutting 0 op delivery call).1.pending ≠ 0 := by
      rw [pending]
      omega
    rw [freed, beq_eq_false_iff_ne.mpr busy, Bool.and_false]
  obtain ⟨-, came, fine, put⟩ :=
    flow_handleTag view.shutting 0 op delivery call view.cell.tags
  have ends : trailers (handleTag view.shutting 0 op delivery call view.cell.tags).2 =
      trailers (runCall view.shutting 0 op delivery call).2 := by
    rw [handleTag, kept]
    simp only [Bool.false_eq_true, if_false, List.append_nil]
    rfl
  refine ⟨{ view with cell := (handleTag view.shutting 0 op delivery call view.cell.tags).1 },
    (handleTag view.shutting 0 op delivery call view.cell.tags).2, ?_,
    ⟨?_, healthy.running, healthy.unlocked, alive, ?_, held⟩, ?_, ?_, put, ends⟩
  · rw [callStep, if_pos (by simp [healthy.unlocked, outstanding]), healthy.object]
    rfl
  · simp only [handleTag, kept, Bool.false_eq_true, if_false]
  · rw [runCall_id, if_neg (by simp [unslotted])]
    exact healthy.named
  · rw [came, ok, Bool.and_true]
  · rw [fine, ok]
    rcases own with rfl | rfl <;> rfl

/-- Nothing arrived at a slot that no client has come to. -/
theorem Vacant.unheard (vacant : Vacant view) (run : callMachine.Run Machine.Free view log) :
    arrived log = [] := by
  cases phase_of_run run with
  | slot cell opened =>
    rw [opened]
    rfl
  | live other object settled =>
    have slot := settled.ledger.accept
    rw [vacant.cell] at slot
    exact absurd slot (by decide)
  | gone cell deleted lawful => exact absurd (vacant.cell.symm.trans cell) (by simp)

/-- A client comes to a slot: its first message is read. -/
theorem Vacant.accept (vacant : Vacant view) :
    ∃ after news call, callStep view (.returned .accept { ok := true } 1) = some (after, news) ∧
      Healthy after call ∧ call.replied = false ∧ call.readInflight = true ∧ arrived news = [] ∧
      failed news = false ∧ carried news = [] ∧ trailers news = [] := by
  let call : SvCall := { id := 1, pending := 2, readInflight := true }
  refine ⟨⟨⟨some call, [.done, .read]⟩, false, false⟩,
    [.returned .accept true .unset, .posted .read], call, ?_,
    ⟨rfl, rfl, rfl, rfl, Nat.one_ne_zero, List.mem_cons_self⟩, rfl, rfl, rfl, rfl, rfl, rfl⟩
  obtain ⟨cell, shutting, wedged⟩ := view
  obtain rfl : cell = ⟨some newSlot, [.accept]⟩ := vacant.cell
  obtain rfl : shutting = false := vacant.running
  obtain rfl : wedged = false := vacant.unlocked
  rfl

/-- A read comes back with a message, which R is handed. -/
theorem Healthy.read (healthy : Healthy view call)
    (run : callMachine.Run Machine.Free view log) (inflight : call.readInflight = true)
    (message : ByteBuffer) :
    ∃ after news left,
      callStep view (.returned .read { ok := true, message := message } 0) = some (after, news) ∧
      Healthy after left ∧ left.replied = call.replied ∧ left.delivered = true ∧
      left.readInflight = false ∧ arrived news = [grpcByteBufferToString message] ∧
      failed news = false ∧ carried news = [] ∧ trailers news = [] := by
  have outstanding := (mem_iff_flag (healthy.settled run).ledger.read).mpr inflight
  have enabled : (true && !call.dead) = true := by
    rw [healthy.alive]
    rfl
  let base : SvCall :=
    { call with pending := call.pending - 1, readInflight := false, request := message }
  have handled : runCall view.shutting 0 .read { ok := true, message := message } call =
      if !call.delivered then ({ base with delivered := true }, [.pushed (requestEvent 0 base)])
      else (base, [.pushed (streamMsgEvent base)]) := if_pos enabled
  obtain ⟨event, left, equal, alive, replied, delivered, unread⟩ :
      ∃ event left, runCall view.shutting 0 .read { ok := true, message := message } call =
          (left, [.pushed event]) ∧
        left.dead = false ∧ left.replied = call.replied ∧ left.delivered = true ∧
        left.readInflight = false := by
    rw [handled]
    cases delivered : call.delivered with
    | false => exact ⟨_, _, rfl, healthy.alive, rfl, rfl, rfl⟩
    | true => exact ⟨_, _, rfl, healthy.alive, rfl, delivered, rfl⟩
  obtain ⟨after, news, taken, kept, came, fine, put, ends⟩ :=
    healthy.returned run outstanding (Or.inl rfl) { ok := true, message := message } rfl (by
      rw [equal]
      exact alive)
  rw [equal] at kept put ends
  exact ⟨after, news, left, taken, kept, replied, delivered, unread, came, fine, put, ends⟩

/-- R asks for the next message of a call that was handed to it. -/
theorem Healthy.readOn (healthy : Healthy view call) (delivered : call.delivered = true)
    (idle : call.readInflight = false) (unfinished : call.finishPosted = false) :
    ∃ after news left, callStep view (.request .read) = some (after, news) ∧
      Healthy after left ∧ left.replied = call.replied ∧ left.readInflight = true ∧
      arrived news = [] ∧ failed news = false ∧ carried news = [] ∧ trailers news = [] := by
  have equal : RCall.read.answer view.shutting call =
      ⟨{ call with readInflight := true, pending := call.pending + 1 },
        [.accepted .read, .posted .read], .ok true⟩ := by
    rw [RCall.answer, readCall, if_neg (by simp [delivered, healthy.alive, idle, unfinished])]
  refine ⟨⟨⟨some { call with readInflight := true, pending := call.pending + 1 },
      view.cell.tags ++ [.read]⟩, false, false⟩, [.accepted .read, .posted .read], _, ?_,
    ⟨rfl, rfl, rfl, healthy.alive, healthy.named, List.mem_append_left _ healthy.held⟩, rfl, rfl,
    rfl, rfl, rfl, rfl⟩
  obtain ⟨cell, shutting, wedged⟩ := view
  obtain rfl : shutting = false := healthy.running
  obtain rfl : wedged = false := healthy.unlocked
  have object : cell.object = some call := healthy.object
  simp only [callStep, object, Option.filter_some, bne_iff_ne, ne_eq, healthy.named,
    not_false_eq_true, if_true, Bool.not_false, Option.map_some]
  rw [equal]
  rfl

/-- A write comes back, and what waits next is written. -/
theorem Healthy.write (healthy : Healthy view call)
    (run : callMachine.Run Machine.Free view log) (inflight : call.writeInflight = true) :
    ∃ after news left, callStep view (.returned .write { ok := true } 0) = some (after, news) ∧
      Healthy after left ∧ left.replied = call.replied ∧ arrived news = [] ∧
      failed news = false ∧
      left.download + 5 * (carried news).length + 2 * (trailers news).length < call.download ∧
      (left.finishPosted = true → call.finishPosted = true ∨ trailers news ≠ []) := by
  have outstanding := (mem_iff_flag (healthy.settled run).ledger.write).mpr inflight
  have enabled : (true && !call.dead) = true := by
    rw [healthy.alive]
    rfl
  let popped : SvCall :=
    { call with
      pending := call.pending - 1, writeInflight := false, writeQueue := call.writeQueue.tail }
  let writable : List CallObs := if popped.writeQueue.isEmpty && !popped.replied then
    [.pushed { type := .streamWritable, id := popped.id }] else []
  have equal : runCall view.shutting 0 .write { ok := true } call =
      ((pumpLocked view.shutting popped).1, writable ++ (pumpLocked view.shutting popped).2) :=
    if_pos enabled
  have pumping := pumping_pumpLocked view.shutting popped
  have silent : carried writable = [] ∧ trailers writable = [] := by
    show carried (if _ then _ else _) = [] ∧ trailers (if _ then _ else _) = []
    split <;> exact ⟨rfl, rfl⟩
  have one : popped.download + 1 = call.download := by
    rw [SvCall.download, SvCall.download, SvCall.unwritten, SvCall.unwritten, inflight]
    show 6 * call.writeQueue.tail.length + 0 + _ + 1 = 6 * call.writeQueue.tail.length + 1 + _
    rw [Nat.add_zero, Nat.add_right_comm]
  obtain ⟨after, news, taken, kept, came, fine, put, ends⟩ :=
    healthy.returned run outstanding (Or.inr rfl) { ok := true } rfl (by
      rw [equal]
      exact pumping.dead.trans healthy.alive)
  rw [equal] at kept put ends
  rw [carried_append, silent.1, List.nil_append] at put
  rw [trailers_append, silent.2, List.nil_append] at ends
  refine ⟨after, news, (pumpLocked view.shutting popped).1, taken, kept, pumping.replied, came,
    fine, ?_, ?_⟩
  · rw [put, ends]
    have paid := pumping.download
    omega
  · rw [ends]
    exact pumping.trailing

/-- R's terminal request is accepted on a call that was handed to it and not answered. -/
theorem Healthy.answer (healthy : Healthy view call)
    (run : callMachine.Run Machine.Free view log) (delivered : call.delivered = true)
    (silent : call.replied = false) {request : RCall} (terminal : request.isTerminal = true)
    (translates : request.translates = true) :
    ∃ after news left, callStep view (.request request) = some (after, news) ∧
      Healthy after left ∧ left.replied = true ∧ .accepted request ∈ news ∧ arrived news = [] ∧
      failed news = false ∧ (left.finishPosted = true → trailers news ≠ []) := by
  have unfinished := (healthy.settled run).ledger.finishPosted_of_not_replied silent
  have equal : request.answer view.shutting call =
      acceptAndPump view.shutting request (call.armed request) := by
    rcases answer_terminal_of_answerable view.shutting request call terminal delivered silent
      healthy.alive with same | ⟨trailing, hasFinalWrite, error, same⟩
    · exact same
    · have raised := (answer_raised_iff view.shutting request call).mp (by
        rw [same]
        rfl)
      exact absurd (translates.symm.trans raised.2) (Bool.false_ne_true ∘ Eq.symm)
  have pumping := pumping_pumpLocked view.shutting (call.armed request)
  have passes := passes_answer view.shutting request call
  rw [equal] at passes
  refine ⟨⟨answeredCell (acceptAndPump view.shutting request (call.armed request))
      view.cell.tags, view.shutting, false⟩,
    (acceptAndPump view.shutting request (call.armed request)).obs, _, ?_,
    ⟨rfl, healthy.running, rfl, pumping.dead.trans healthy.alive, ?_,
      List.mem_append_left _ healthy.held⟩, pumping.replied, List.mem_cons_self, passes.arrived,
    passes.failed, fun posted => ?_⟩
  · obtain ⟨cell, shutting, wedged⟩ := view
    obtain rfl : wedged = false := healthy.unlocked
    have object : cell.object = some call := healthy.object
    simp only [callStep, object, Option.filter_some, bne_iff_ne, ne_eq, healthy.named,
      not_false_eq_true, if_true, Bool.not_false, Option.map_some]
    rw [equal]
    rfl
  · rw [show (acceptAndPump view.shutting request (call.armed request)).call.id = call.id from
      pumping.id]
    exact healthy.named
  · rcases pumping.trailing posted with before | now
    · exact absurd (unfinished.symm.trans before) Bool.false_ne_true
    · exact now

end Healthy

end Rgrpc.Server
