/-
This file looks at a handler whose `grpc_send` was refused because the write
queue of its call was full. It waits for a `stream_writable` event. From the
refusal on the queue is never empty and a Write is always outstanding, until the
event is pushed or there is nothing left to wait for: the call died, a terminal
was accepted on it, or the server is shutting down. So the Write that empties
the queue finds a call that still pushes the event.

An error in the middle of a terminal marks the call replied, which would keep
the event back; but it also leaves the mutex held, and then no Write comes back.
-/

import Rgrpc.Server.Load
import Rgrpc.Server.Termination

namespace Rgrpc.Server

open Library

/-! ### The bound of the write queue -/

/-- Along every run of one call the bound of its write queue is the one it was created with. -/
theorem writeCap_of_run {view : CallView} {log : List CallObs}
    {allowed : CallView → CallInput → Prop} (run : callMachine.Run allowed view log)
    {call : SvCall} (object : view.cell.object = some call) : call.writeCap = 16 := by
  induction run generalizing call with
  | start =>
    obtain rfl := Option.some.inj object
    rfl
  | next before _ taken inductionHypothesis =>
    rcases callStep_cases taken with
      ⟨op, delivery, nextId, found, -, -, -, stored, rfl, rfl⟩ |
      ⟨request, found, -, -, stored, -, rfl, rfl⟩ | ⟨-, rfl, rfl⟩ | ⟨-, rfl, rfl⟩
    · rw [eq_of_handleTag object]
      exact (queueKept_runCall _ _ _ _ _).cap.trans (inductionHypothesis stored)
    · obtain rfl := Option.some.inj object
      exact (queueKept_answer _ _ _).cap.trans (inductionHypothesis stored)
    · exact inductionHypothesis object
    · exact inductionHypothesis object

/-! ### What ends the wait -/

/-- Whether a log says that its call died: a Write came back without `ok`, or the peer is done. -/
def died (log : List CallObs) : Bool :=
  log.any fun
    | .returned .write false _ => true
    | .returned .done _ _ => true
    | _ => false

/-- What ends the wait of a refused sender on its own call: a `stream_writable` event was pushed, a
terminal was accepted, or the call died. -/
inductive Released (log : List CallObs) : Prop
  | woken (event : SvEvent) (pushed : event ∈ pushedEvents log)
      (kind : event.type = .streamWritable)
  | answered (accepted : terminals log ≠ [])
  | died (dead : died log = true)

theorem Released.append_left {log : List CallObs} (released : Released log)
    (more : List CallObs) : Released (log ++ more) := by
  cases released with
  | woken event pushed kind =>
    exact .woken event (by rw [pushedEvents_append]; exact List.mem_append_left _ pushed) kind
  | answered accepted =>
    refine .answered fun empty => accepted ?_
    rw [terminals_append] at empty
    exact (List.append_eq_nil_iff.mp empty).1
  | died dead => exact .died (by rw [Server.died, List.any_append, ← Server.died, dead]; rfl)

theorem Released.append_right {log : List CallObs} (released : Released log)
    (before : List CallObs) : Released (before ++ log) := by
  cases released with
  | woken event pushed kind =>
    exact .woken event (by rw [pushedEvents_append]; exact List.mem_append_right _ pushed) kind
  | answered accepted =>
    refine .answered fun empty => accepted ?_
    rw [terminals_append] at empty
    exact (List.append_eq_nil_iff.mp empty).2
  | died dead =>
    refine .died ?_
    rw [Server.died, List.any_append, ← Server.died, ← Server.died, dead, Bool.or_true]

/-! ### One step of a call somebody waits for -/

/-- A call whose write queue a sender can wait for: R has it, it is not dead, and something is in
the queue. -/
structure Parked (call : SvCall) : Prop where
  delivered : call.delivered = true
  alive : call.dead = false
  queued : call.writeQueue ≠ []

/-- The pump leaves such a call as one. -/
theorem Parked.pumpLocked {call : SvCall} (parked : Parked call) (shutting : Bool) :
    Parked (pumpLocked shutting call).1 ∧
      (pumpLocked shutting call).1.replied = call.replied := by
  rcases pumpLocked_cases shutting call with
    ⟨same, -⟩ | ⟨-, -, -, -, ⟨front, rest, -, same⟩ | ⟨empty, -, -⟩⟩
  · rw [same]
    exact ⟨parked, rfl⟩
  · rw [same]
    exact ⟨⟨parked.delivered, parked.alive, parked.queued⟩, rfl⟩
  · exact absurd empty parked.queued

/-- A handler leaves such a call as one, or ends the wait. -/
theorem Parked.runCall {call : SvCall} (parked : Parked call) (unanswered : call.replied = false)
    (shutting : Bool) (nextId : Nat) {op : SvOp} (used : op ≠ .accept) (delivery : Delivery) :
    Released (.returned op delivery.ok delivery.message ::
        (runCall shutting nextId op delivery call).2) ∨
      Parked (runCall shutting nextId op delivery call).1 ∧
        (runCall shutting nextId op delivery call).1.replied = false := by
  obtain ⟨delivered, alive, queued⟩ := parked
  cases op with
  | accept => exact absurd rfl used
  | read =>
    refine Or.inr ?_
    unfold Server.runCall runRead
    cases ok : delivery.ok <;> simp only [alive, delivered, Bool.not_false, Bool.and_self,
      Bool.and_true, Bool.not_true, if_true, Bool.false_eq_true, if_false] <;>
    exact ⟨⟨rfl, rfl, queued⟩, unanswered⟩
  | write =>
    cases ok : delivery.ok with
    | false => exact Or.inl (.died rfl)
    | true =>
      unfold Server.runCall runWrite
      simp only
      rw [if_pos (by rw [ok, alive]; rfl)]
      by_cases emptied : call.writeQueue.tail = []
      · refine Or.inl (.woken { type := .streamWritable, id := call.id } ?_ rfl)
        simp [pushedEvents, emptied, unanswered]
      · have left : Parked { call with
            pending := call.pending - 1, writeInflight := false
            writeQueue := call.writeQueue.tail } := ⟨delivered, alive, emptied⟩
        obtain ⟨kept, same⟩ := left.pumpLocked shutting
        exact Or.inr ⟨kept, same.trans unanswered⟩
  | done => exact Or.inl (.died rfl)
  | finish => exact Or.inr ⟨⟨delivered, alive, queued⟩, unanswered⟩

/-- A request of R leaves such a call as one, or is a terminal that is accepted. An error in the
middle of a terminal leaves it marked as replied. -/
theorem Parked.answer {call : SvCall} (parked : Parked call) (unanswered : call.replied = false)
    (inflight : call.writeInflight = true) (shutting : Bool) (request : RCall) :
    Released (request.answer shutting call).obs ∨
      Parked (request.answer shutting call).call ∧
        ((request.answer shutting call).call.replied = false ∨
          (request.answer shutting call).raised = true) := by
  obtain ⟨delivered, alive, queued⟩ := parked
  rcases answer_cases shutting request call with
    same | ⟨-, -, -, -, -, same⟩ | ⟨-, -, same⟩ | ⟨bytes, -, -, -, -, -, same⟩ |
    ⟨terminal, -, -, -, same | ⟨trailing, hasFinalWrite, error, same⟩⟩
  · rw [same]
    exact Or.inr ⟨⟨delivered, alive, queued⟩, Or.inl unanswered⟩
  · rw [same]
    exact Or.inr ⟨⟨delivered, alive, queued⟩, Or.inl unanswered⟩
  · rw [same]
    exact Or.inr ⟨⟨delivered, alive, queued⟩, Or.inl unanswered⟩
  · rw [same]
    have left : Parked { call with writeQueue := call.writeQueue ++ [.ofRaw bytes] } :=
      ⟨delivered, alive, by simp⟩
    obtain ⟨kept, replied⟩ := left.pumpLocked shutting
    exact Or.inr ⟨kept, Or.inl (replied.trans unanswered)⟩
  · rw [same]
    exact Or.inl (.answered (by simp [acceptAndPump, terminals, terminal]))
  · rw [same]
    exact Or.inr ⟨⟨delivered, alive, queueLeft_ne_nil inflight queued⟩, Or.inr rfl⟩

/-- A handler does not free a call somebody waits for. -/
theorem Parked.kept {view : CallView} {call : SvCall} {log : List CallObs}
    (settled : Settled view call log) (running : view.shutting = false) {op : SvOp}
    (outstanding : op ∈ view.cell.tags) (delivery : Delivery) (nextId : Nat)
    (unlocked : view.wedged = false)
    (parked : Parked (Server.runCall view.shutting nextId op delivery call).1) :
    (handleTag view.shutting nextId op delivery call view.cell.tags).1.object =
      some (Server.runCall view.shutting nextId op delivery call).1 := by
  have ledger := settled.ledger.runCall outstanding view.shutting nextId delivery
  have pumped := pumped_runCall settled.ledger outstanding nextId delivery
    (settled.flows running)
    (fun alive replied => by simpa [unlocked] using settled.answers running alive replied)
  rw [← running] at pumped
  have inflight := pumped.flows parked.alive parked.queued
  have member := (mem_iff_flag ledger.write).mpr inflight
  have busy : (Server.runCall view.shutting nextId op delivery call).1.pending ≠ 0 := by
    rw [ledger.pending]
    have := List.length_pos_of_mem member
    omega
  simp [handleTag, freed, busy]

/-! ### Steps of the server -/

/-- The call at an address is one somebody waits for, and no terminal was requested on it but for
one that left the mutex held. -/
def ParkedAt (server : RServer) (address : Nat) : Prop :=
  ∃ call, (server.arena.cell address).object = some call ∧ Parked call ∧
    (call.replied = false ∨ server.muHeld = true)

/-- Once a server shuts down it stays so. -/
theorem Sound.shutting_step {server after : RServer} {log news : List ServerObs}
    {input : ServerInput} (sound : Sound server log)
    (taken : serverStep server input = some (after, news)) (shutting : server.shutting = true) :
    after.shutting = true := by
  rcases sound.step_cases taken with
    ⟨address, op, delivery, call, -, -, -, -, equal⟩ |
    ⟨id, request, address, call, -, -, -, -, -, rfl, -⟩ | ⟨-, quiet⟩ | ⟨-, -, -, -, rfl⟩ |
    ⟨-, -, -, -, rfl⟩
  · have same := handle_shutting server address op delivery call
    rw [equal] at same
    exact same.trans shutting
  · exact shutting
  · rw [quiet.same]
    exact shutting
  · rfl
  · exact shutting

/-- An object with messages queued is a call, not a slot. -/
theorem Phase.settled_of_queued {view : CallView} {log : List CallObs} (phase : Phase view log)
    {call : SvCall} (object : view.cell.object = some call) (queued : call.writeQueue ≠ []) :
    Settled view call log := by
  cases phase with
  | slot whole opened =>
    rw [whole] at object
    obtain rfl := Option.some.inj object
    exact absurd rfl queued
  | live found there settled =>
    obtain rfl := Option.some.inj (object.symm.trans there)
    exact settled
  | gone whole deleted lawful =>
    rw [whole] at object
    exact absurd object (by simp)

/-- A step leaves a call somebody waits for as one, or ends the wait, or starts the shutdown. -/
theorem Sound.parked_step {server after : RServer} {log news : List ServerObs}
    {input : ServerInput} (sound : Sound server log)
    (taken : serverStep server input = some (after, news)) {address : Nat}
    (parked : ParkedAt server address) (running : after.shutting = false) :
    Released (callLog address news) ∨ ParkedAt after address := by
  obtain ⟨call, object, waiting, unanswered⟩ := parked
  have before : server.shutting = false := by
    by_contra shutting
    rw [Bool.not_eq_false] at shutting
    exact absurd (running.symm.trans (sound.shutting_step taken shutting)) Bool.false_ne_true
  have allocated := Arena.lt_size_of_object object
  have phase := sound.phase allocated
  rcases sound.step_cases taken with
    ⟨other, op, delivery, found, rfl, unlocked, outstanding, stored, equal⟩ |
    ⟨id, request, other, found, rfl, opened, unlocked, listed, stored, rfl, rfl⟩ | ⟨-, quiet⟩ |
    ⟨rfl, opened, unlocked, rfl, rfl⟩ | ⟨rfl, joining, idle, rfl, rfl⟩
  · have cell := cell_handle op delivery stored allocated
    have logged := (handles_handle stored op delivery).logged address allocated
    have held := (handleBody_flags server other op delivery found).2.1
    rw [equal] at cell logged
    by_cases same : other = address
    · subst same
      obtain rfl := Option.some.inj (object.symm.trans stored)
      have silent : call.replied = false :=
        unanswered.resolve_right fun locked => absurd (unlocked.symm.trans locked) (by simp)
      have settled : Settled (server.view other) call (callLog other log) :=
        phase.settled_of_queued object waiting.queued
      have used : op ≠ .accept := by
        rintro rfl
        exact settled.ledger.accept_not_mem outstanding
      rw [if_pos rfl] at cell logged
      rw [logged, handleTag]
      rcases waiting.runCall silent server.shutting server.nextId used delivery with
        released | ⟨left, replied⟩
      · exact Or.inl (released.append_left _)
      · refine Or.inr ⟨_, ?_, left, Or.inl replied⟩
        rw [cell]
        exact Parked.kept settled before outstanding delivery server.nextId unlocked left
    · rw [if_neg same] at cell
      refine Or.inr ⟨call, cell ▸ object, waiting, ?_⟩
      obtain ⟨count, whole, -⟩ := handle_eq server other op delivery found
      rw [equal, Prod.mk.injEq] at whole
      rw [whole.1]
      exact unanswered.imp_right held.trans
  · rw [callLog_answered]
    have silent : call.replied = false :=
      unanswered.resolve_right fun locked => absurd (unlocked.symm.trans locked) (by simp)
    by_cases same : other = address
    · subst same
      obtain rfl := Option.some.inj (object.symm.trans stored)
      rw [if_pos rfl]
      have inflight := phase.flows object before waiting.alive waiting.queued
      refine (waiting.answer silent inflight server.shutting request).imp_right ?_
      rintro ⟨left, replied⟩
      refine ⟨_, ?_, left, replied⟩
      rw [Arena.cell_set_self allocated]
      rfl
    · refine Or.inr ⟨call, ?_, waiting, Or.inl silent⟩
      rw [Arena.cell_set_of_ne same]
      exact object
  · rw [quiet.same]
    exact Or.inr ⟨call, object, waiting, unanswered⟩
  · exact absurd running (by simp)
  · exact Or.inr ⟨call, object, waiting, unanswered⟩

/-! ### After a refusal -/

/-- A call somebody waits for stays one in every continuation of a run, until the wait has ended or
the server is shutting down. -/
theorem parked_of_run_on {acceptWindow maxActive : Int} {wake : WakeHandle}
    {server later : RServer} {log more : List ServerObs}
    (run : (serverMachine acceptWindow maxActive wake).Run Machine.Free server log)
    (on : ((serverMachine acceptWindow maxActive wake).startedAt server).Run Machine.Free later
      more)
    {address : Nat} (parked : ParkedAt server address) :
    later.shutting = true ∨ Released (callLog address more) ∨ ParkedAt later address := by
  induction on with
  | start => exact Or.inr (Or.inr parked)
  | @next state after past news input before _ taken inductionHypothesis =>
    have sound := sound_of_run (run.trans before)
    rw [callLog_append]
    rcases inductionHypothesis with shutting | released | waiting
    · exact Or.inl (sound.shutting_step taken shutting)
    · exact Or.inr (Or.inl (released.append_left _))
    · cases running : after.shutting with
      | true => exact Or.inl rfl
      | false =>
        rcases sound.parked_step taken waiting running with released | waiting
        · exact Or.inr (Or.inl (released.append_right _))
        · exact Or.inr (Or.inr waiting)

/-- A send on the call with an id finds it open, and its write queue full. -/
structure SendFull (server : RServer) (id address : Nat) (call : SvCall) : Prop where
  found : server.active.lookup id = some address
  object : (server.arena.cell address).object = some call
  opened : call.answerable = true
  full : call.writeCap ≤ call.writeQueue.length

/-- What a handler waits for after its send was refused because the queue was full. A
`stream_writable` event with its id was pushed, a terminal was accepted on the call or it died, the
server is shutting down, or it still waits: for a queue that is not empty, with a Write outstanding
that pushes the event when it empties the queue. -/
inductive SendSequel (id address : Nat) (more : List ServerObs) (after : RServer) : Prop
  | woken (event : SvEvent) (pushed : event ∈ eventsOf id more)
      (kind : event.type = .streamWritable)
  | settled (ended : terminals (callLog address more) ≠ [] ∨ died (callLog address more) = true)
  | closing (shutting : after.shutting = true)
  | waiting (call : SvCall) (found : after.active.lookup id = some address)
      (object : (after.arena.cell address).object = some call) (queued : call.writeQueue ≠ [])
      (outstanding : .write ∈ (after.arena.cell address).tags)
      (wakes : after.muHeld = false → call.writeQueue.length = 1 → ∀ delivery : Delivery,
        delivery.ok = true → ∃ later news event,
          serverStep after (.returned address .write delivery) = some (later, news) ∧
            event ∈ eventsOf id news ∧ event.type = .streamWritable)

/-- The Write that empties the queue of a call somebody waits for pushes `stream_writable`. -/
theorem Parked.wakes {server : RServer} {address : Nat} {call : SvCall}
    (parked : Parked call) (unanswered : call.replied = false)
    (object : (server.arena.cell address).object = some call)
    (outstanding : .write ∈ (server.arena.cell address).tags)
    (unlocked : server.muHeld = false) (last : call.writeQueue.length = 1) (delivery : Delivery)
    (ok : delivery.ok = true) : ∃ later news event,
      serverStep server (.returned address .write delivery) = some (later, news) ∧
        event ∈ eventsOf call.id news ∧ event.type = .streamWritable := by
  have taken : serverStep server (.returned address .write delivery) =
      some (server.handle address .write delivery call) := by
    simp [serverStep, RServer.run, unlocked, outstanding, object]
  have emptied : call.writeQueue.tail = [] := by
    rw [← List.length_eq_zero_iff, List.length_tail, last]
  have queued := (handles_handle object .write delivery).queued
  refine ⟨(server.handle address .write delivery call).1,
    (server.handle address .write delivery call).2,
    { type := .streamWritable, id := call.id }, taken, ?_, rfl⟩
  rw [eventsOf, queued]
  simp [Server.runCall, runWrite, ok, parked.alive, unanswered, emptied, pushedEvents]

/-- A send that was refused because the queue was full is followed by a wake-up, in every
continuation of every run of a server. -/
theorem sendSequel_of_run {acceptWindow maxActive : Int} {wake : WakeHandle}
    {server refused after : RServer} {log news more : List ServerObs} {id address : Nat}
    {bytes : Bytes} {call : SvCall}
    (run : (serverMachine acceptWindow maxActive wake).Run Machine.Free server log)
    (full : SendFull server id address call)
    (taken : serverStep server (.request id (.send bytes)) = some (refused, news))
    (told : ServerObs.result id (.send bytes) (.ok false) ∈ news)
    (on : ((serverMachine acceptWindow maxActive wake).startedAt refused).Run Machine.Free after
      more) : SendSequel id address more after := by
  have sound := sound_of_run run
  have allocated := Arena.lt_size_of_object full.object
  obtain ⟨⟨delivered, unanswered⟩, alive⟩ : (call.delivered = true ∧ call.replied = false) ∧
      call.dead = false := by
    simpa [SvCall.answerable] using full.opened
  have queued : call.writeQueue ≠ [] := by
    have cap := writeCap_of_run (sound.calls address allocated) full.object
    intro empty
    have room := full.full
    rw [cap, empty] at room
    exact absurd room (by simp)
  have same : refused = server := by
    obtain ⟨-, asked⟩ := sound.request_of_result taken told
    obtain ⟨opened, unlocked, valid⟩ := reached_of_result asked told
    have reached : server.callWith id = some call := by
      rw [RServer.callWith, full.found]
      exact full.object
    have refuses : (RCall.send bytes).answer server.shutting call = refuse call := by
      simp [RCall.answer, sendCall, delivered, alive, unanswered, full.full]
    rw [request_of_refuse opened unlocked valid reached refuses] at asked
    exact (Prod.mk.inj (Option.some.inj asked)).1.symm
  subst same
  obtain ⟨found, object, identity, nonzero⟩ := sound.active id address full.found
  obtain rfl := Option.some.inj (full.object.symm.trans object)
  have held : holder log id = some address := by
    rw [← identity]
    exact (numbered_of_run run).named address call object (identity ▸ nonzero)
  have later := sound_of_run (run.trans on)
  have numbered := numbered_of_run (run.trans on)
  rcases parked_of_run_on run on ⟨call, object, ⟨delivered, alive, queued⟩, Or.inl unanswered⟩ with
    shutting | released | ⟨left, there, parked, answer⟩
  · exact .closing shutting
  · cases released with
    | woken event pushed kind =>
      refine .woken event (List.mem_filter.mpr ⟨?_, ?_⟩) kind
      · exact List.mem_filterMap.mpr ⟨_, mem_of_pushedEvents_callLog pushed, rfl⟩
      · have own := (numbered.own id address (holder_mono held more)).1
        have member : event ∈ eventsOf id (log ++ more) := by
          rw [own, callLog_append, pushedEvents_append]
          exact List.mem_append_right _ pushed
        exact (List.mem_filter.mp member).2
    | answered accepted => exact .settled (Or.inl accepted)
    | died dead => exact .settled (Or.inr dead)
  · cases running : after.shutting with
    | true => exact .closing running
    | false =>
      have phase := later.phase (Arena.lt_size_of_object there)
      have outstanding := (phase.write_mem_iff there).1.mpr
        (phase.flows there running parked.alive parked.queued)
      have named : left.id = id := by
        have nameless : left.id ≠ 0 := by
          intro absurdity
          have slot := later.nameless address left there absurdity
          rw [(later.slot_of_accept slot).1] at there
          obtain rfl := Option.some.inj there
          exact absurd rfl parked.queued
        exact holder_injective numbered.nodup (numbered.named address left there nameless)
          (holder_mono held more)
      have listed := later.listed address left there (named.trans_ne nonzero)
      rw [named] at listed
      refine .waiting left listed there parked.queued outstanding
        fun unlocked last delivery ok => ?_
      have silent := answer.resolve_right
        fun locked => absurd (unlocked.symm.trans locked) (by simp)
      rw [← named]
      exact parked.wakes silent there outstanding unlocked last delivery ok

end Rgrpc.Server
