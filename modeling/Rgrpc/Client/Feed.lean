/-
This file shows that the client refines its inbox, as the server does. The
completion thread pushes events; a poll is a poll of the inbox unless the client
is closed, and what it posts on the streams whose messages it takes pushes
nothing; every other native call touches none of the queue, the wake handle and
the R thread. The end of a close throws away what is left in the queue.
-/

import Rgrpc.Inbox
import Rgrpc.Client.Runs

namespace Rgrpc.Client

open Library

/-! ### What a log says of the queue -/

/-- The events pushed to `ready`, in order. -/
def queued (log : List ClientObs) : List ClEvent :=
  log.filterMap fun
    | .stream _ (.pushed event) => some event
    | .unary _ (.pushed event) => some event
    | _ => none

/-- The batches taken from `ready`, in order. -/
def takenBatches (log : List ClientObs) : List (List ClEvent) :=
  log.filterMap fun
    | .polled batch _ => some batch
    | _ => none

section Logs

variable (log more : List ClientObs)

@[simp]
theorem queued_append : queued (log ++ more) = queued log ++ queued more :=
  List.filterMap_append

@[simp]
theorem takenBatches_append : takenBatches (log ++ more) = takenBatches log ++ takenBatches more :=
  List.filterMap_append

theorem queued_map (address : Nat) (obs : List StreamObs) :
    queued (obs.map (ClientObs.stream address)) = pushedEvents obs := by
  rw [queued, List.filterMap_map]
  refine List.filterMap_congr fun entry _ => ?_
  cases entry <;> rfl

theorem takenBatches_map (address : Nat) (obs : List StreamObs) :
    takenBatches (obs.map (ClientObs.stream address)) = [] := by
  rw [takenBatches, List.filterMap_map]
  exact List.filterMap_eq_nil_iff.mpr fun _ _ => rfl

end Logs

/-- Observations that neither push an event nor take a batch. -/
structure Unqueued (obs : List ClientObs) : Prop where
  pushed : queued obs = []
  takenBatches : takenBatches obs = []

theorem Unqueued.append {obs more : List ClientObs} (first : Unqueued obs)
    (second : Unqueued more) : Unqueued (obs ++ more) :=
  ⟨by rw [queued_append, first.pushed, second.pushed]; rfl,
    by rw [takenBatches_append, first.takenBatches, second.takenBatches]; rfl⟩

theorem unqueued_map {obs : List StreamObs} (silent : pushedEvents obs = []) (address : Nat) :
    Unqueued (obs.map (ClientObs.stream address)) :=
  ⟨by rw [queued_map, silent], takenBatches_map address obs⟩

/-! ### Sections that push nothing -/

section Sections

variable (shutting : Bool) (stream : StreamState)

theorem pushedEvents_sPostReadLocked :
    pushedEvents (sPostReadLocked shutting stream).2 = [] := by
  unfold sPostReadLocked
  split <;> rfl

theorem pushedEvents_sPumpWritesLocked :
    pushedEvents (sPumpWritesLocked shutting stream).2 = [] := by
  unfold sPumpWritesLocked
  split
  · rfl
  · split
    · rfl
    · split
      · rfl
      · split <;> rfl

theorem pushedEvents_readOn :
    pushedEvents (if stream.unread < stream.readCap then sPostReadLocked shutting stream
      else (stream, [])).2 = [] := by
  split
  · exact pushedEvents_sPostReadLocked shutting stream
  · rfl

/-- No request of R pushes an event. -/
theorem pushedEvents_answer (request : StreamRequest) :
    pushedEvents (request.answer shutting stream).obs = [] := by
  cases request with
  | send bytes =>
    show pushedEvents (sendStream shutting bytes stream).obs = []
    unfold sendStream
    split
    · rfl
    · split
      · rfl
      · exact pushedEvents_sPumpWritesLocked shutting _
  | writesDone =>
    show pushedEvents (writesDoneStream shutting stream).obs = []
    unfold writesDoneStream
    split
    · rfl
    · exact pushedEvents_sPumpWritesLocked shutting _

end Sections

/-! ### The inbox of a client -/

/-- The part of a client that polls work on. -/
def RClient.inbox (client : RClient) : Inbox ClEvent := ⟨client.ready, client.wake, client.rthread⟩

/-- The inputs of the completion thread. -/
def ClientInput.completes : ClientInput → Bool
  | .unary _ _ | .returned _ _ _ => true
  | _ => false

/-- A client with its inbox. -/
def clientFeed (wake : WakeHandle) : Feed RClient ClientInput ClientObs ClEvent where
  machine := clientMachine wake
  key := ClEvent.id
  inbox := RClient.inbox
  pushed := queued
  takenBatches := takenBatches
  completes := ClientInput.completes
  poll := .poll
  woken := .woken

/-- What a poll does for the events it takes neither pushes an event nor returns a batch. -/
theorem accounted_unqueued (client : RClient) (args : PollArgs) :
    Unqueued (takeLoop (fun event : ClEvent => args.wants event.id) RClient.account args.maxEvents
      client.ready 0 client).obs := by
  constructor <;>
  · refine List.filterMap_eq_nil_iff.mpr fun entry member => ?_
    cases collected_takeLoop client args entry member <;> rfl

/-- The end of a poll takes its batch from the inbox. -/
theorem inbox_pollTake (client : RClient) (args : PollArgs) :
    (client.pollTake args).1.inbox = client.inbox.take ClEvent.id args ∧
      takenBatches (client.pollTake args).2 = [client.inbox.batch ClEvent.id args] ∧
      queued (client.pollTake args).2 = [] := by
  have left := takeLoop_left (fun event : ClEvent => args.wants event.id) RClient.account
    args.maxEvents client.ready client
  have batch := takeLoop_batch (fun event : ClEvent => args.wants event.id) RClient.account
    args.maxEvents client.ready 0 client
  have silent := accounted_unqueued client args
  rw [Int.natCast_zero, Int.sub_zero] at batch
  rw [RClient.pollTake, RClient.inbox]
  simp only [left, batch, takenBatches_append, queued_append, silent.takenBatches, silent.pushed]
  exact ⟨rfl, rfl, rfl⟩

/-- A pass of the wait loop is one of the inbox. -/
theorem inbox_pollAttempt (client : RClient) (args : PollArgs) (leftMs : Int) :
    (client.pollAttempt args leftMs).1.inbox =
        (client.inbox.attempt ClEvent.id args leftMs).1 ∧
      takenBatches (client.pollAttempt args leftMs).2 =
        (client.inbox.attempt ClEvent.id args leftMs).2 ∧
      queued (client.pollAttempt args leftMs).2 = [] := by
  have unmatched : client.ready.any (fun event => args.wants event.id) =
      client.inbox.ready.any (args.wanted ClEvent.id) := rfl
  unfold RClient.pollAttempt Inbox.attempt
  rw [unmatched]
  split
  · simp only
    split
    · exact inbox_pollTake { client with wake := client.wake.drain } args
    · exact ⟨rfl, rfl, rfl⟩
  · exact inbox_pollTake client args

/-- A start of a call or a stream touches nothing of the inbox. -/
theorem inbox_callStart (client : RClient) (method : RString) (request : Bytes) (opts : CallOpts)
    (now : Int) :
    (client.grpcRCallStart method request opts now).1.inbox = client.inbox ∧
      Unqueued (client.grpcRCallStart method request opts now).2 := by
  unfold RClient.grpcRCallStart
  split
  · exact ⟨rfl, rfl, rfl⟩
  · split
    · exact ⟨rfl, rfl, rfl⟩
    · split <;> exact ⟨rfl, rfl, rfl⟩

theorem inbox_streamStart (client : RClient) (method : RString) (opts : CallOpts)
    (now readCap writeCap : Int) :
    (client.grpcRStreamStart method opts now readCap writeCap).1.inbox = client.inbox ∧
      Unqueued (client.grpcRStreamStart method opts now readCap writeCap).2 := by
  unfold RClient.grpcRStreamStart
  split
  · exact ⟨rfl, rfl, rfl⟩
  · split
    · exact ⟨rfl, rfl, rfl⟩
    · split <;> exact ⟨rfl, rfl, rfl⟩

/-- A request of R touches nothing of the inbox. -/
theorem inbox_request (client : RClient) (id : Nat) (request : StreamRequest) :
    (client.request id request).1.inbox = client.inbox ∧
      Unqueued (client.request id request).2 := by
  unfold RClient.request
  split
  · exact ⟨rfl, rfl, rfl⟩
  · split
    · exact ⟨rfl, rfl, rfl⟩
    · split
      · exact ⟨rfl, rfl, rfl⟩
      · rename_i stream object
        exact ⟨rfl, (unqueued_map (pushedEvents_answer client.shutting stream request) _).append
          ⟨rfl, rfl⟩⟩

theorem inbox_cancel (client : RClient) (id : Nat) :
    (client.grpcRCallCancel id).1.inbox = client.inbox ∧
      Unqueued (client.grpcRCallCancel id).2 := by
  unfold RClient.grpcRCallCancel
  split <;> exact ⟨rfl, rfl, rfl⟩

section Refinement

variable {wake : WakeHandle} {client after : RClient} {input : ClientInput}
  {log news : List ClientObs}

/-- The R thread makes a native call while it is idle, or when the client is closed. -/
theorem Sound.idle_of_call (sound : Sound client log) {call result : RClient × List ClientObs}
    (taken : (if client.atR then some call else none) = some result) :
    call = result ∧ (client.rthread = .idle ∨ client.rthread = .gone) ∧
      (client.closed = false → client.inbox.rthread = .idle) := by
  split at taken
  · rename_i free
    rw [RClient.atR, Bool.or_eq_true, beq_iff_eq, beq_iff_eq] at free
    refine ⟨Option.some.inj taken, free, fun opened => ?_⟩
    rcases free with idle | gone
    · exact idle
    · exact absurd (opened.symm.trans (sound.drained gone).1) Bool.false_ne_true
  · exact absurd taken (by simp)

/-- A native call of R that touches nothing of the inbox. -/
theorem Sound.seen_idles (sound : Sound client log) {call : RClient × List ClientObs}
    (taken : (if client.atR then some call else none) = some (after, news))
    (quiet : call.1.inbox = client.inbox ∧ Unqueued call.2) (own : input.completes = false)
    (other : ∀ result leftMs, input ≠ .woken result leftMs) :
    (clientFeed wake).Seen client input after news .idles := by
  obtain ⟨rfl, free, -⟩ := sound.idle_of_call taken
  refine ⟨?_, quiet.2.pushed, ?_, fun _ _ _ => Or.inr rfl,
    fun result leftMs equal => absurd equal (other result leftMs)⟩
  · show inboxStep ClEvent.id client.inbox .idles = some (after.inbox, takenBatches news)
    rw [quiet.1, quiet.2.takenBatches, inboxStep]
    rcases free with idle | gone
    · rw [show client.inbox.rthread = .idle from idle]
    · rw [show client.inbox.rthread = .gone from gone]
  · show input.completes = true ↔ _
    rw [own]
    simp

/-- A turn of the completion thread pushes the events it logs. -/
theorem seen_pushes (own : input.completes = true)
    (step : after.inbox = { client.inbox with
      ready := client.ready ++ queued news
      wake := client.wake.signals (queued news).length } ∧ takenBatches news = [])
    (other : (∀ args leftMs, input ≠ .poll args leftMs) ∧
      ∀ result leftMs, input ≠ .woken result leftMs) :
    (clientFeed wake).Seen client input after news (.pushes (queued news)) where
  step := by
    show some _ = some (after.inbox, takenBatches news)
    rw [step.1, step.2]
    rfl
  pushed := rfl
  completes := ⟨fun _ => ⟨_, rfl⟩, fun _ => own⟩
  poll := fun args leftMs equal => absurd equal (other.1 args leftMs)
  woken := fun result leftMs equal => absurd equal (other.2 result leftMs)

theorem seen_unary {address : Nat} {delivery : Delivery}
    (taken : clientStep client (.unary address delivery) = some (after, news)) :
    (clientFeed wake).Seen client (.unary address delivery) after news
      (.pushes (queued news)) := by
  refine seen_pushes rfl ?_ ⟨by simp, by simp⟩
  rw [clientStep, RClient.runUnary] at taken
  split at taken
  · split at taken
    · obtain ⟨rfl, rfl⟩ := Prod.mk.inj (Option.some.inj taken)
      refine ⟨?_, rfl⟩
      show _ = (⟨client.ready ++ [], _, _⟩ : Inbox ClEvent)
      rw [List.append_nil]
      rfl
    · obtain ⟨rfl, rfl⟩ := Prod.mk.inj (Option.some.inj taken)
      exact ⟨rfl, rfl⟩
  · exact absurd taken (by simp)

theorem seen_returned {address : Nat} {op : TagKind} {delivery : Delivery}
    (taken : clientStep client (.returned address op delivery) = some (after, news)) :
    (clientFeed wake).Seen client (.returned address op delivery) after news
      (.pushes (queued news)) := by
  refine seen_pushes rfl ?_ ⟨by simp, by simp⟩
  rw [clientStep, RClient.runTag] at taken
  split at taken
  · split at taken
    · obtain ⟨rfl, rfl⟩ := Prod.mk.inj (Option.some.inj taken)
      refine ⟨?_, rfl⟩
      show _ = (⟨client.ready ++ [], _, _⟩ : Inbox ClEvent)
      rw [List.append_nil]
      rfl
    · obtain ⟨rfl, rfl⟩ := Prod.mk.inj (Option.some.inj taken)
      rw [queued_map]
      exact ⟨rfl, takenBatches_map address _⟩
  · exact absurd taken (by simp)

theorem Sound.seen_poll (sound : Sound client log) {args : PollArgs} {leftMs : Int}
    (taken : clientStep client (.poll args leftMs) = some (after, news)) :
    ∃ seen, (clientFeed wake).Seen client (.poll args leftMs) after news seen := by
  rw [clientStep] at taken
  by_cases closed : client.closed = true
  · refine ⟨.idles, sound.seen_idles taken ?_ rfl (by simp)⟩
    rw [RClient.grpcRClientPoll, if_pos closed]
    exact ⟨rfl, rfl, rfl⟩
  · obtain ⟨polled, -, idle⟩ := sound.idle_of_call taken
    rw [RClient.grpcRClientPoll, if_neg closed] at polled
    obtain ⟨inbox, returned, silent⟩ := inbox_pollAttempt client args leftMs
    rw [polled] at inbox returned silent
    refine ⟨.polls args leftMs, ?_, silent, by simp [clientFeed, ClientInput.completes],
      fun _ _ equal => ?_, fun _ _ equal => ClientInput.noConfusion equal⟩
    · show inboxStep ClEvent.id client.inbox (.polls args leftMs) =
        some (after.inbox, takenBatches news)
      rw [inboxStep, if_pos (idle (by simpa using closed)), inbox, returned]
    · obtain ⟨rfl, rfl⟩ := ClientInput.poll.inj equal
      exact Or.inl rfl

theorem seen_woken {result leftMs : Int}
    (taken : clientStep client (.woken result leftMs) = some (after, news)) :
    (clientFeed wake).Seen client (.woken result leftMs) after news (.wakes result leftMs) := by
  rw [clientStep] at taken
  split at taken
  · rename_i args thread
    have inside : client.inbox.rthread = .polling args := thread
    have wakes (step : inboxStep ClEvent.id client.inbox (.wakes result leftMs) =
        some (after.inbox, takenBatches news)) (silent : queued news = []) :
        (clientFeed wake).Seen client (.woken result leftMs) after news
          (.wakes result leftMs) := by
      refine ⟨step, silent, by simp [clientFeed, ClientInput.completes],
        fun _ _ equal => ClientInput.noConfusion equal, fun _ _ equal => ?_⟩
      obtain ⟨rfl, rfl⟩ := ClientInput.woken.inj equal
      rfl
    rw [RClient.woken] at taken
    split at taken
    · rename_i expired
      obtain ⟨inbox, returned, silent⟩ := inbox_pollTake client args
      rw [Option.some.inj taken] at inbox returned silent
      refine wakes ?_ silent
      rw [inboxStep, inside]
      simp only [if_pos expired]
      rw [inbox, returned]
    · rename_i expired
      split at taken
      · rename_i readable
        obtain ⟨inbox, returned, silent⟩ := inbox_pollAttempt client args leftMs
        rw [Option.some.inj taken] at inbox returned silent
        refine wakes ?_ silent
        rw [inboxStep, inside]
        simp only [if_neg expired]
        rw [if_pos (show client.inbox.wake.readable = true from readable), inbox, returned]
      · exact absurd taken (by simp)
  · exact absurd taken (by simp)

theorem Sound.seen_close (sound : Sound client log)
    (taken : clientStep client .close = some (after, news)) :
    ∃ seen, (clientFeed wake).Seen client .close after news seen := by
  rw [clientStep] at taken
  by_cases closed : client.closed = true
  · refine ⟨.idles, sound.seen_idles taken ?_ rfl (by simp)⟩
    rw [RClient.beginClose, if_pos closed]
    exact ⟨rfl, rfl, rfl⟩
  · obtain ⟨began, -, idle⟩ := sound.idle_of_call taken
    rw [RClient.beginClose, if_neg closed] at began
    obtain ⟨rfl, rfl⟩ := Prod.mk.inj began
    refine ⟨.closes, ?_, rfl, by simp [clientFeed, ClientInput.completes],
      fun _ _ equal => ClientInput.noConfusion equal,
      fun _ _ equal => ClientInput.noConfusion equal⟩
    show inboxStep ClEvent.id client.inbox .closes = _
    rw [inboxStep, if_pos (idle (by simpa using closed))]
    rfl

theorem Sound.seen_joined (sound : Sound client log)
    (taken : clientStep client .joined = some (after, news)) :
    (clientFeed wake).Seen client .joined after news (.ends []) := by
  rw [clientStep] at taken
  split at taken
  · rename_i joining
    obtain ⟨-, -, rfl, rfl⟩ := sound.endClose_eq taken
    have silent : Unqueued ((client.streams.entries.map Sigma.snd).map
        fun address => ClientObs.stream address .deleted) := by
      refine ⟨?_, ?_⟩
      · rw [queued, List.filterMap_map]
        exact List.filterMap_eq_nil_iff.mpr fun _ _ => rfl
      · rw [takenBatches, List.filterMap_map]
        exact List.filterMap_eq_nil_iff.mpr fun _ _ => rfl
    refine ⟨?_, silent.pushed, by simp [clientFeed, ClientInput.completes],
      fun _ _ equal => ClientInput.noConfusion equal,
      fun _ _ equal => ClientInput.noConfusion equal⟩
    show inboxStep ClEvent.id client.inbox (.ends []) = some (_, takenBatches _)
    rw [inboxStep, if_pos (show client.inbox.rthread = .joining from beq_iff_eq.mp joining),
      silent.takenBatches]
    rfl
  · exact absurd taken (by simp)

end Refinement

/-- The client refines its inbox. -/
theorem clientFeed_refines (wake : WakeHandle) : (clientFeed wake).Refines wake := by
  refine ⟨rfl, ⟨rfl, rfl⟩, rfl, queued_append, takenBatches_append, ?_⟩
  intro client log input after news run taken
  have sound := sound_of_run run
  cases input with
  | unary address delivery => exact ⟨_, seen_unary taken⟩
  | returned address op delivery => exact ⟨_, seen_returned taken⟩
  | callStart method request opts now =>
    exact ⟨.idles, sound.seen_idles taken (inbox_callStart client method request opts now) rfl
      (by simp)⟩
  | streamStart method opts now readCap writeCap =>
    exact ⟨.idles, sound.seen_idles taken
      (inbox_streamStart client method opts now readCap writeCap) rfl (by simp)⟩
  | request id request =>
    exact ⟨.idles, sound.seen_idles taken (inbox_request client id request) rfl (by simp)⟩
  | cancel id => exact ⟨.idles, sound.seen_idles taken (inbox_cancel client id) rfl (by simp)⟩
  | poll args leftMs => exact sound.seen_poll taken
  | woken result leftMs => exact ⟨_, seen_woken taken⟩
  | close => exact sound.seen_close taken
  | joined => exact ⟨_, sound.seen_joined taken⟩

end Rgrpc.Client
