/-
This file shows that the server refines its inbox: whatever a step of the server
does, it does to the queue of events, the wake handle and the R thread what one
step of the inbox does. Handlers only push events; a request of R touches none
of the three; a poll is a poll of the inbox unless the server is closed.
-/

import Rgrpc.Inbox
import Rgrpc.Server.Runs

namespace Rgrpc.Server

open Library

/-! ### What a log says of the queue -/

/-- The events pushed to `ready`, in order. -/
def queued (log : List ServerObs) : List SvEvent :=
  log.filterMap fun
    | .call _ (.pushed event) => some event
    | _ => none

/-- The batches taken from `ready`, in order. -/
def takenBatches (log : List ServerObs) : List (List SvEvent) :=
  log.filterMap fun
    | .polled batch _ => some batch
    | _ => none

section Logs

variable (log more : List ServerObs)

@[simp]
theorem queued_append : queued (log ++ more) = queued log ++ queued more :=
  List.filterMap_append

@[simp]
theorem takenBatches_append : takenBatches (log ++ more) = takenBatches log ++ takenBatches more :=
  List.filterMap_append

theorem queued_map (address : Nat) (obs : List CallObs) :
    queued (obs.map (ServerObs.call address)) = pushedEvents obs := by
  rw [queued, List.filterMap_map]
  refine List.filterMap_congr fun entry _ => ?_
  cases entry <;> rfl

theorem takenBatches_map (address : Nat) (obs : List CallObs) :
    takenBatches (obs.map (ServerObs.call address)) = [] := by
  rw [takenBatches, List.filterMap_map]
  exact List.filterMap_eq_nil_iff.mpr fun _ _ => rfl

theorem queued_withSlots (server : RServer) (count : Nat) :
    queued (server.withSlots count).2 = [] ∧ takenBatches (server.withSlots count).2 = [] := by
  rw [RServer.withSlots, queued, takenBatches, List.filterMap_map, List.filterMap_map]
  exact ⟨List.filterMap_eq_nil_iff.mpr fun _ _ => rfl,
    List.filterMap_eq_nil_iff.mpr fun _ _ => rfl⟩

end Logs

/-- No request of R pushes an event. -/
theorem pushedEvents_answer (shutting : Bool) (request : RCall) (call : SvCall) :
    pushedEvents (request.answer shutting call).obs = [] := by
  have pumps (request : RCall) (other : SvCall) :
      pushedEvents (acceptAndPump shutting request other).obs = [] := by
    unfold acceptAndPump
    rcases pumpLocked_cases shutting other with
      ⟨same, -⟩ | ⟨-, -, -, -, ⟨front, rest, -, same⟩ | ⟨-, -, same⟩⟩ <;>
    · rw [same]
      rfl
  rcases answer_cases shutting request call with
    same | ⟨-, -, -, -, -, same⟩ | ⟨-, -, same⟩ | ⟨bytes, -, -, -, -, -, same⟩ |
    ⟨-, -, -, -, same | ⟨trailing, hasFinalWrite, error, same⟩⟩
  · rw [same]
    rfl
  · rw [same]
    rfl
  · rw [same]
    rfl
  · rw [same]
    exact pumps _ _
  · rw [same]
    exact pumps _ _
  · rw [same]
    rfl

/-! ### The inbox of a server -/

/-- The part of a server that polls work on. -/
def RServer.inbox (server : RServer) : Inbox SvEvent := ⟨server.ready, server.wake, server.rthread⟩

/-- The inputs of the completion thread. -/
def ServerInput.completes : ServerInput → Bool
  | .returned _ _ _ => true
  | _ => false

/-- A server with its inbox. -/
def serverFeed (acceptWindow maxActive : Int) (wake : WakeHandle) :
    Feed RServer ServerInput ServerObs SvEvent where
  machine := serverMachine acceptWindow maxActive wake
  key := SvEvent.id
  inbox := RServer.inbox
  pushed := queued
  takenBatches := takenBatches
  completes := ServerInput.completes
  poll := .poll
  woken := .woken

/-- The end of a poll takes its batch from the inbox. -/
theorem inbox_pollTake (server : RServer) (args : PollArgs) :
    (server.pollTake args).1.inbox = server.inbox.take SvEvent.id args ∧
      (server.pollTake args).2 = [.polled (server.inbox.batch SvEvent.id args)
        ((server.inbox.batch SvEvent.id args).mapM SvEvent.toR)] := by
  have left := takeLoop_left (fun event : SvEvent => args.wants event.id)
    (fun (state : Unit) _ => (state, ([] : List ServerObs))) args.maxEvents server.ready ()
  have batch := takeLoop_batch (fun event : SvEvent => args.wants event.id)
    (fun (state : Unit) _ => (state, ([] : List ServerObs))) args.maxEvents server.ready 0 ()
  rw [Int.natCast_zero, Int.sub_zero] at batch
  rw [RServer.pollTake, RServer.inbox]
  simp only [left, batch]
  exact ⟨rfl, rfl⟩

/-- A pass of the wait loop is one of the inbox. -/
theorem inbox_pollAttempt (server : RServer) (args : PollArgs) (leftMs : Int) :
    (server.pollAttempt args leftMs).1.inbox =
        (server.inbox.attempt SvEvent.id args leftMs).1 ∧
      takenBatches (server.pollAttempt args leftMs).2 =
        (server.inbox.attempt SvEvent.id args leftMs).2 ∧
      queued (server.pollAttempt args leftMs).2 = [] := by
  obtain ⟨taken, observed⟩ := inbox_pollTake server args
  obtain ⟨takenDry, observedDry⟩ := inbox_pollTake { server with wake := server.wake.drain } args
  have unmatched : server.ready.any (fun event => args.wants event.id) =
      server.inbox.ready.any (args.wanted SvEvent.id) := rfl
  unfold RServer.pollAttempt Inbox.attempt
  rw [unmatched]
  split
  · simp only
    split
    · rw [observedDry]
      exact ⟨takenDry, rfl, rfl⟩
    · exact ⟨rfl, rfl, rfl⟩
  · rw [observed]
    exact ⟨taken, rfl, rfl⟩

/-- A handler pushes the events of its call. -/
theorem inbox_handle (server : RServer) (address : Nat) (op : SvOp) (delivery : Delivery)
    (call : SvCall) :
    (server.handle address op delivery call).1.inbox =
        { server.inbox with
          ready := server.ready ++ queued (server.handle address op delivery call).2
          wake := server.wake.signals
            (queued (server.handle address op delivery call).2).length } ∧
      takenBatches (server.handle address op delivery call).2 = [] := by
  obtain ⟨count, equal, -⟩ := handle_eq server address op delivery call
  have body : (server.handleBody address op delivery call).inbox =
      { server.inbox with
        ready := server.ready ++ pushedEvents (handleTag server.shutting server.nextId op delivery
          call (server.arena.cell address).tags).2
        wake := server.wake.signals (pushedEvents (handleTag server.shutting server.nextId op
          delivery call (server.arena.cell address).tags).2).length } := by
    unfold RServer.handleBody RServer.forget RServer.pushEvents
    simp only
    split_ifs <;> rfl
  obtain ⟨none, quiet⟩ := queued_withSlots (server.handleBody address op delivery call) count
  rw [equal, queued_append, queued_map, none, List.append_nil, takenBatches_append,
    takenBatches_map, quiet]
  exact ⟨body, rfl⟩

/-- A request of R touches nothing of the inbox. -/
theorem inbox_request {server after : RServer} {id : Nat} {request : RCall}
    {news : List ServerObs} (asked : server.request id request = some (after, news)) :
    after.inbox = server.inbox ∧ queued news = [] ∧ takenBatches news = [] := by
  rw [RServer.request] at asked
  split at asked
  · obtain ⟨rfl, rfl⟩ := Prod.mk.inj (Option.some.inj asked)
    exact ⟨rfl, rfl, rfl⟩
  · split at asked
    · obtain ⟨rfl, rfl⟩ := Prod.mk.inj (Option.some.inj asked)
      exact ⟨rfl, rfl, rfl⟩
    · split at asked
      · exact absurd asked (by simp)
      · split at asked
        · obtain ⟨rfl, rfl⟩ := Prod.mk.inj (Option.some.inj asked)
          exact ⟨rfl, rfl, rfl⟩
        · split at asked
          · obtain ⟨rfl, rfl⟩ := Prod.mk.inj (Option.some.inj asked)
            exact ⟨rfl, rfl, rfl⟩
          · obtain ⟨rfl, rfl⟩ := Prod.mk.inj (Option.some.inj asked)
            refine ⟨rfl, ?_, ?_⟩
            · rw [queued_append, queued_map, pushedEvents_answer]
              rfl
            · rw [takenBatches_append, takenBatches_map]
              rfl

section Refinement

variable {acceptWindow maxActive : Int} {wake : WakeHandle} {server after : RServer}
  {input : ServerInput} {log news : List ServerObs}

/-- A native call of R that touches nothing of the inbox. -/
theorem seen_idles (free : server.rthread = .idle ∨ server.rthread = .gone)
    (quiet : after.inbox = server.inbox ∧ queued news = [] ∧ takenBatches news = [])
    (own : input.completes = false) (other : ∀ result leftMs, input ≠ .woken result leftMs) :
    (serverFeed acceptWindow maxActive wake).Seen server input after news .idles where
  step := by
    show inboxStep SvEvent.id server.inbox .idles = some (after.inbox, takenBatches news)
    rw [quiet.1, quiet.2.2, inboxStep]
    rcases free with idle | gone
    · rw [show server.inbox.rthread = .idle from idle]
    · rw [show server.inbox.rthread = .gone from gone]
  pushed := quiet.2.1
  completes := by
    show input.completes = true ↔ _
    rw [own]
    simp
  poll := fun _ _ _ => Or.inr rfl
  woken := fun result leftMs equal => absurd equal (other result leftMs)

/-- The R thread makes a native call while it is idle, or when the server is closed. -/
theorem Sound.idle_of_call (sound : Sound server log)
    {call : Option (RServer × List ServerObs)} {result : RServer × List ServerObs}
    (taken : (match server.rthread with
      | .idle | .gone => call
      | _ => none) = some result) :
    (server.rthread = .idle ∨ server.rthread = .gone) ∧
      (server.closed = false → server.inbox.rthread = .idle) := by
  split at taken
  · rename_i idle
    exact ⟨Or.inl idle, fun _ => idle⟩
  · rename_i gone
    refine ⟨Or.inr gone, fun opened => ?_⟩
    exact absurd (opened.symm.trans (sound.drained gone).1) Bool.false_ne_true
  · exact absurd taken (by simp)

theorem Sound.seen_returned (sound : Sound server log) {address : Nat} {op : SvOp}
    {delivery : Delivery}
    (taken : serverStep server (.returned address op delivery) = some (after, news)) :
    (serverFeed acceptWindow maxActive wake).Seen server (.returned address op delivery) after news
      (.pushes (queued news)) where
  step := by
    rcases sound.step_cases taken with
      ⟨_, _, _, call, equal, -, -, -, handled⟩ | ⟨_, _, _, _, equal, -⟩ | ⟨other, -⟩ |
      ⟨equal, -⟩ | ⟨equal, -⟩
    · cases equal
      obtain ⟨inbox, none⟩ := inbox_handle server address op delivery call
      rw [handled] at inbox none
      show some _ = some (after.inbox, takenBatches news)
      rw [inbox, none]
      rfl
    · cases equal
    · exact absurd rfl (other address op delivery)
    · cases equal
    · cases equal
  pushed := rfl
  completes := ⟨fun _ => ⟨_, rfl⟩, fun _ => rfl⟩
  poll := fun _ _ equal => ServerInput.noConfusion equal
  woken := fun _ _ equal => ServerInput.noConfusion equal

theorem Sound.seen_poll (sound : Sound server log) {args : PollArgs} {leftMs : Int}
    (taken : serverStep server (.poll args leftMs) = some (after, news)) :
    ∃ seen, (serverFeed acceptWindow maxActive wake).Seen server (.poll args leftMs) after news
      seen := by
  obtain ⟨free, idle⟩ := sound.idle_of_call taken
  have polled := call_of_rthread taken
  rw [RServer.grpcRServer2Poll] at polled
  split at polled
  · obtain ⟨rfl, rfl⟩ := Prod.mk.inj (Option.some.inj polled)
    exact ⟨.idles, seen_idles free ⟨rfl, rfl, rfl⟩ rfl (by simp)⟩
  · rename_i opened
    split at polled
    · exact absurd polled (by simp)
    · obtain ⟨inbox, returned, silent⟩ := inbox_pollAttempt server args leftMs
      rw [Option.some.inj polled] at inbox returned silent
      refine ⟨.polls args leftMs, ?_, silent, by simp [serverFeed, ServerInput.completes],
        fun _ _ equal => ?_, fun _ _ equal => ServerInput.noConfusion equal⟩
      · show inboxStep SvEvent.id server.inbox (.polls args leftMs) =
          some (after.inbox, takenBatches news)
        rw [inboxStep, if_pos (idle (by simpa using opened)), inbox, returned]
      · obtain ⟨rfl, rfl⟩ := ServerInput.poll.inj equal
        exact Or.inl rfl

theorem seen_woken {result leftMs : Int}
    (taken : serverStep server (.woken result leftMs) = some (after, news)) :
    (serverFeed acceptWindow maxActive wake).Seen server (.woken result leftMs) after news
      (.wakes result leftMs) := by
  rw [serverStep] at taken
  split at taken
  · rename_i args thread
    have inside : server.inbox.rthread = .polling args := thread
    have wakes (step : inboxStep SvEvent.id server.inbox (.wakes result leftMs) =
        some (after.inbox, takenBatches news)) (silent : queued news = []) :
        (serverFeed acceptWindow maxActive wake).Seen server (.woken result leftMs) after news
          (.wakes result leftMs) := by
      refine ⟨step, silent, by simp [serverFeed, ServerInput.completes],
        fun _ _ equal => ServerInput.noConfusion equal, fun _ _ equal => ?_⟩
      obtain ⟨rfl, rfl⟩ := ServerInput.woken.inj equal
      rfl
    rw [RServer.woken] at taken
    split at taken
    · exact absurd taken (by simp)
    · split at taken
      · rename_i expired
        obtain ⟨inbox, observed⟩ := inbox_pollTake server args
        rw [Option.some.inj taken] at inbox observed
        obtain rfl : news = _ := observed
        refine wakes ?_ rfl
        rw [inboxStep, inside]
        simp only [if_pos expired]
        rw [inbox]
        rfl
      · rename_i expired
        split at taken
        · rename_i readable
          obtain ⟨inbox, returned, silent⟩ := inbox_pollAttempt server args leftMs
          rw [Option.some.inj taken] at inbox returned silent
          refine wakes ?_ silent
          rw [inboxStep, inside]
          simp only [if_neg expired]
          rw [if_pos (show server.inbox.wake.readable = true from readable), inbox, returned]
        · exact absurd taken (by simp)
  · exact absurd taken (by simp)

theorem Sound.seen_close (sound : Sound server log)
    (taken : serverStep server .close = some (after, news)) :
    ∃ seen, (serverFeed acceptWindow maxActive wake).Seen server .close after news seen := by
  obtain ⟨free, idle⟩ := sound.idle_of_call taken
  have closed := call_of_rthread taken
  rw [RServer.beginClose] at closed
  split at closed
  · obtain ⟨rfl, rfl⟩ := Prod.mk.inj (Option.some.inj closed)
    exact ⟨.idles, seen_idles free ⟨rfl, rfl, rfl⟩ rfl (by simp)⟩
  · rename_i opened
    split at closed
    · exact absurd closed (by simp)
    · obtain ⟨rfl, rfl⟩ := Prod.mk.inj (Option.some.inj closed)
      refine ⟨.closes, ?_, rfl, by simp [serverFeed, ServerInput.completes],
        fun _ _ equal => ServerInput.noConfusion equal,
        fun _ _ equal => ServerInput.noConfusion equal⟩
      show inboxStep SvEvent.id server.inbox .closes = _
      rw [inboxStep, if_pos (idle (by simpa using opened))]
      rfl

theorem Sound.seen_joined (sound : Sound server log)
    (taken : serverStep server .joined = some (after, news)) :
    (serverFeed acceptWindow maxActive wake).Seen server .joined after news
      (.ends server.ready) := by
  rw [serverStep] at taken
  split at taken
  · rename_i joining
    obtain ⟨-, rfl, rfl⟩ := sound.endClose_eq taken
    refine ⟨?_, rfl, by simp [serverFeed, ServerInput.completes],
      fun _ _ equal => ServerInput.noConfusion equal,
      fun _ _ equal => ServerInput.noConfusion equal⟩
    show inboxStep SvEvent.id server.inbox (.ends server.ready) = _
    rw [inboxStep, if_pos (show server.inbox.rthread = .joining from joining)]
    rfl
  · exact absurd taken (by simp)

/-- The end of a close leaves the queue as it is. -/
theorem Sound.ready_kept (sound : Sound server log)
    (taken : serverStep server input = some (after, news)) (joining : server.rthread = .joining)
    (gone : after.rthread = .gone) : after.ready = server.ready := by
  rcases sound.step_cases taken with
    ⟨address, op, delivery, call, -, -, -, -, handled⟩ |
    ⟨id, request, address, call, -, -, -, -, -, rfl, -⟩ | ⟨-, quiet⟩ | ⟨-, -, -, -, rfl⟩ |
    ⟨-, -, -, -, rfl⟩
  · have inbox := (inbox_handle server address op delivery call).1
    rw [handled] at inbox
    have thread : after.rthread = server.rthread := congrArg Inbox.rthread inbox
    exact absurd (gone.symm.trans (thread.trans joining)) (by simp)
  · exact absurd (gone.symm.trans joining) (by simp)
  · exact absurd (gone.symm.trans ((quiet.thread (Or.inr gone)).trans joining)) (by simp)
  · exact absurd gone (by simp)
  · rfl

end Refinement

/-- The server refines its inbox. -/
theorem serverFeed_refines (acceptWindow maxActive : Int) (wake : WakeHandle) :
    (serverFeed acceptWindow maxActive wake).Refines wake := by
  obtain ⟨count, created, -⟩ := postAcceptsLocked_eq { acceptWindow, maxActive, wake }
  obtain ⟨silent, none⟩ := queued_withSlots { acceptWindow, maxActive, wake } count
  refine ⟨?_, ?_, rfl, queued_append, takenBatches_append, ?_⟩
  · show (createServer acceptWindow maxActive wake).1.inbox = _
    rw [createServer, created]
    rfl
  · show queued (createServer acceptWindow maxActive wake).2 = [] ∧
      takenBatches (createServer acceptWindow maxActive wake).2 = []
    rw [createServer, created]
    exact ⟨silent, none⟩
  · intro server log input after news run taken
    have sound := sound_of_run run
    cases input with
    | returned address op delivery => exact ⟨_, sound.seen_returned taken⟩
    | request id request =>
      exact ⟨.idles, seen_idles (sound.idle_of_call taken).1
        (inbox_request (call_of_rthread taken)) rfl (by simp)⟩
    | poll args leftMs => exact sound.seen_poll taken
    | woken result leftMs => exact ⟨_, seen_woken taken⟩
    | close => exact sound.seen_close taken
    | joined => exact ⟨_, sound.seen_joined taken⟩

end Rgrpc.Server
