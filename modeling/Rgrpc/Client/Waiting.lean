/-
This file looks at a sender whose `grpc_send` was refused because the write
queue of its stream was full. It waits for a `stream_writable` event. From the
refusal on the queue is never empty, and either a Write is outstanding or the
call has not started yet, until the event is pushed, the stream breaks or the
client shuts down. A stream that is not broken posts its finish only once its
queue is empty, so it does not end while somebody waits for it.
-/

import Rgrpc.Client.Onward
import Rgrpc.Client.Output
import Rgrpc.Client.Events

namespace Rgrpc.Client

open Library

/-! ### Streams whose queue a sender waits for -/

/-- A stream whose write queue a sender can wait for: it is not broken, its finish was not posted,
and something is in the queue. -/
structure Parked (id : Nat) (stream : StreamState) : Prop where
  named : stream.id = id
  sane : stream.broken = false
  unfinished : stream.finishPosted = false
  queued : stream.writeQueue ≠ []

/-- What ends the wait of a refused sender on its own stream: a `stream_writable` event was pushed,
or the stream broke. -/
inductive Released (id : Nat) (log : List StreamObs) : Prop
  | woken (event : ClEvent) (pushed : event ∈ pushedEvents log) (named : event.id = id)
      (kind : event.kind = .writable)
  | broken (failed : broke log = true)

theorem Released.append_left {id : Nat} {log : List StreamObs} (released : Released id log)
    (more : List StreamObs) : Released id (log ++ more) := by
  cases released with
  | woken event pushed named kind =>
    exact .woken event (by rw [pushedEvents_append]; exact List.mem_append_left _ pushed) named kind
  | broken failed => exact .broken (by rw [broke_append, failed, Bool.true_or])

theorem Released.append_right {id : Nat} {log : List StreamObs} (released : Released id log)
    (before : List StreamObs) : Released id (before ++ log) := by
  cases released with
  | woken event pushed named kind =>
    exact .woken event (by rw [pushedEvents_append]; exact List.mem_append_right _ pushed) named
      kind
  | broken failed => exact .broken (by rw [broke_append, failed, Bool.or_true])

section Sections

variable {id : Nat} {shutting : Bool} {stream : StreamState}

theorem Parked.sPostReadLocked (parked : Parked id stream) :
    Parked id (sPostReadLocked shutting stream).1 := by
  rcases sPostReadLocked_cases shutting stream with same | ⟨-, -, -, -, -, -, same⟩
  · rw [same]
    exact parked
  · rw [same]
    exact ⟨parked.named, parked.sane, parked.unfinished, parked.queued⟩

theorem Parked.sPumpWritesLocked (parked : Parked id stream) :
    Parked id (sPumpWritesLocked shutting stream).1 := by
  rcases sPumpWritesLocked_cases shutting stream with
    same | ⟨-, -, -, -, -, ⟨front, rest, queue, same⟩ | ⟨empty, -, -, -, same⟩⟩
  · rw [same]
    exact parked
  · rw [same]
    exact ⟨parked.named, parked.sane, parked.unfinished, parked.queued⟩
  · exact absurd empty parked.queued

/-- The finish is not posted on a stream that parks nothing and has something queued. -/
theorem Parked.sTryFinishLocked (parked : Parked id stream) (pumped : Pumped shutting stream) :
    Parked id (sTryFinishLocked shutting stream).1 := by
  rcases sTryFinishLocked_cases shutting stream with
    same | ⟨running, started, -, unfinished, -, idle, -, -⟩
  · rw [same]
    exact parked
  · have inflight := (pumped running started parked.sane unfinished).1 parked.queued
    exact absurd (idle.symm.trans inflight) Bool.false_ne_true

/-- A handler leaves such a stream as one, or ends the wait. -/
theorem Parked.runStream (parked : Parked id stream) (pumped : Pumped shutting stream)
    {tags : List TagKind} {log : List StreamObs} (ledger : Ledger stream tags log) {op : TagKind}
    (outstanding : op ∈ tags) (delivery : Delivery) :
    Released id (.returned op delivery.ok delivery.message ::
        (runStream shutting op delivery stream).2) ∨
      Parked id (runStream shutting op delivery stream).1 := by
  obtain ⟨named, sane, unfinished, queued⟩ := parked
  cases op with
  | start =>
    unfold Client.runStream Client.runStart
    simp only
    cases ok : delivery.ok with
    | false => exact Or.inl (.broken rfl)
    | true =>
      have begun : Parked id
          { stream with pending := stream.pending - 1, started := true } :=
        ⟨named, sane, unfinished, queued⟩
      refine Or.inr ((begun.sPostReadLocked.sPumpWritesLocked).sTryFinishLocked ?_)
      exact pumped_sPumpWritesLocked (queued_sPostReadLocked shutting ledger.queued)
  | read =>
    refine Or.inr (Parked.sTryFinishLocked ?_ ?_)
    · split
      · show Parked id (if _ then _ else _ : StreamState × List StreamObs).1
        split
        · exact Parked.sPostReadLocked ⟨named, sane, unfinished, queued⟩
        · exact ⟨named, sane, unfinished, queued⟩
      · exact ⟨named, sane, unfinished, queued⟩
    · split
      · show Pumped shutting (if _ then _ else _ : StreamState × List StreamObs).1
        split
        · exact Pumped.sPostReadLocked pumped
        · exact pumped
      · exact pumped
  | write =>
    have pushes := pushedEvents_runStream shutting .write delivery stream
    cases ok : delivery.ok with
    | false => exact Or.inl (.broken rfl)
    | true =>
      by_cases emptied : stream.writeQueue.tail = []
      · refine Or.inl (.woken { kind := .writable, id := stream.id } ?_ named rfl)
        show _ ∈ pushedEvents (Client.runStream shutting .write delivery stream).2
        rw [pushes]
        simp [handlerEvents, ok, sane, emptied]
      · refine Or.inr (Parked.sTryFinishLocked ?_ ?_)
        · rw [if_pos (by rw [ok]; show (true && !stream.broken) = true; rw [sane]; rfl)]
          exact Parked.sPumpWritesLocked ⟨named, sane, unfinished, emptied⟩
        · rw [if_pos (by rw [ok]; show (true && !stream.broken) = true; rw [sane]; rfl)]
          exact pumped_sPumpWritesLocked fun absurdity => absurd absurdity (by simp)
  | wdone =>
    have inflight := (mem_iff_flag ledger.wdone).mp outstanding
    have empty := (ledger.drained (by rw [inflight, Bool.true_or])).2.1
    exact absurd empty queued
  | finish =>
    have posted := (mem_iff_flag ledger.finish).mp outstanding
    rw [unfinished, Bool.false_and] at posted
    exact absurd posted Bool.false_ne_true

/-- No request of R empties the queue. -/
theorem Parked.answer (parked : Parked id stream) (request : StreamRequest) :
    Parked id (request.answer shutting stream).stream := by
  rcases answer_cases shutting request stream with
    same | ⟨bytes, -, -, -, -, -, same⟩ | ⟨-, -, same⟩
  · rw [same]
    exact parked
  · rw [same]
    exact Parked.sPumpWritesLocked ⟨parked.named, parked.sane, parked.unfinished, by simp⟩
  · rw [same]
    exact Parked.sPumpWritesLocked
      ⟨parked.named, parked.sane, parked.unfinished, parked.queued⟩

theorem Parked.takeMessage (parked : Parked id stream) :
    Parked id (takeMessage shutting stream).1 := by
  have taken : Parked id { stream with unread := stream.unread - 1 } :=
    ⟨parked.named, parked.sane, parked.unfinished, parked.queued⟩
  show Parked id (if _ then _ else _ : StreamState × List StreamObs).1
  split
  · exact taken.sPostReadLocked
  · exact taken

end Sections

/-! ### After a refusal, seen from the stream -/

/-- A step leaves a stream somebody waits for as one, or ends the wait, or starts the shutdown. -/
theorem Parked.step {view after : StreamView} {log news : List StreamObs} {input : StreamInput}
    (phase : Phase view log) (lossless : Lossless view log)
    (taken : streamStep view input = some (after, news)) {id : Nat} {stream : StreamState}
    (object : view.cell.object = some stream) (parked : Parked id stream) :
    after.shutting = true ∨ Released id news ∨
      ∃ left, after.cell.object = some left ∧ Parked id left := by
  rcases streamStep_cases taken with
    ⟨fresh, readCap, writeCap, found, -, -, -, stored, nameless, rfl, rfl⟩ |
    ⟨op, delivery, found, -, outstanding, stored, rfl, rfl⟩ |
    ⟨found, left, stored, -, origin, rfl, rfl⟩ | ⟨-, rfl, rfl⟩ |
    ⟨found, -, shutting, -, -, -, rfl, rfl⟩
  · obtain rfl := Option.some.inj (object.symm.trans stored)
    cases phase with
    | fresh cell silent =>
      rw [cell] at object
      obtain rfl := Option.some.inj object
      exact absurd rfl parked.queued
    | live other same named ledger unended kept =>
      obtain rfl := Option.some.inj (object.symm.trans same)
      exact absurd nameless named
    | gone cell deleted lawful =>
      rw [cell] at object
      exact absurd object (by simp)
  · obtain rfl := Option.some.inj (object.symm.trans stored)
    obtain ⟨found, there, ledger, -⟩ := phase.ledger_of_mem outstanding
    obtain rfl := Option.some.inj (object.symm.trans there)
    refine Or.inr ?_
    rcases parked.runStream (lossless.pumped stream object) ledger outstanding delivery with
      released | left
    · exact Or.inl (released.append_left _)
    · refine Or.inr ⟨_, ?_, left⟩
      have kept := freed_runStream phase outstanding object view.shutting delivery
      have running : op ≠ .finish := by
        rintro rfl
        have posted := (mem_iff_flag ledger.finish).mp outstanding
        rw [parked.unfinished, Bool.false_and] at posted
        exact absurd posted Bool.false_ne_true
      rw [beq_eq_false_iff_ne.mpr running] at kept
      simp [handleTag, kept]
  · obtain rfl := Option.some.inj (object.symm.trans stored)
    refine Or.inr (Or.inr ⟨_, rfl, ?_⟩)
    rcases origin with ⟨request, -, rfl⟩ | ⟨-, rfl⟩
    · exact parked.answer request
    · exact parked.takeMessage
  · exact Or.inl rfl
  · exact Or.inl shutting

/-- Once a client shuts down, every stream of it sees that. -/
theorem shutting_of_onward {view after : StreamView} {more : List StreamObs}
    (on : Onward view after more) (shutting : view.shutting = true) : after.shutting = true := by
  induction on with
  | start => exact shutting
  | next _ _ taken inductionHypothesis =>
    rcases streamStep_cases taken with
      ⟨-, -, -, -, -, -, -, -, -, rfl, -⟩ | ⟨-, -, -, -, -, -, rfl, -⟩ | ⟨-, -, -, -, -, rfl, -⟩ |
      ⟨-, rfl, -⟩ | ⟨-, -, -, -, -, -, rfl, -⟩
    · exact inductionHypothesis
    · exact inductionHypothesis
    · exact inductionHypothesis
    · rfl
    · exact inductionHypothesis

/-- A stream somebody waits for stays one, until the wait has ended or the client shuts down. -/
theorem Parked.onward {view after : StreamView} {log more : List StreamObs}
    (run : streamMachine.Run Machine.Free view log) (on : Onward view after more) {id : Nat}
    {stream : StreamState} (object : view.cell.object = some stream) (parked : Parked id stream) :
    after.shutting = true ∨ Released id more ∨
      ∃ left, after.cell.object = some left ∧ Parked id left := by
  induction on with
  | start => exact Or.inr (Or.inr ⟨stream, object, parked⟩)
  | @next state after past news input before _ taken inductionHypothesis =>
    have earlier := run.trans before
    rcases inductionHypothesis with shutting | released | ⟨left, there, waiting⟩
    · exact Or.inl (shutting_of_onward (onward_step input taken) shutting)
    · exact Or.inr (Or.inl (released.append_left _))
    · rcases waiting.step (phase_of_run earlier) (lossless_of_run earlier) taken there with
        shutting | released | kept
      · exact Or.inl shutting
      · exact Or.inr (Or.inl (released.append_right _))
      · exact Or.inr (Or.inr kept)

/-! ### After a refusal, seen from the client -/

/-- A send on the stream with an id finds it open, with a bound of at least one on its write queue,
and the queue full. -/
structure SendFull (client : RClient) (id address : Nat) (stream : StreamState) : Prop where
  found : client.streams.lookup id = some address
  object : (client.streamArena.cell address).object = some stream
  sane : stream.broken = false
  unfinished : stream.finishPosted = false
  unclosed : stream.wdoneRequested = false
  room : 1 ≤ stream.writeCap
  full : stream.writeCap ≤ stream.writeQueue.length

/-- What a sender waits for after its send was refused because the queue was full. A
`stream_writable` event with its id was pushed, the stream broke, the client is shutting down, or it
still waits: for a queue that is not empty, with a Write outstanding that pushes the event when it
empties the queue, or the start of the call outstanding. -/
inductive SendSequel (id address : Nat) (more : List ClientObs) (after : RClient) : Prop
  | woken (event : ClEvent) (pushed : event ∈ queued more) (named : event.id = id)
      (kind : event.kind = .writable)
  | broken (failed : broke (streamLog address more) = true)
  | closing (shutting : after.shutting = true)
  | waiting (stream : StreamState) (found : after.streams.lookup id = some address)
      (object : (after.streamArena.cell address).object = some stream)
      (queued : stream.writeQueue ≠ [])
      (outstanding : .write ∈ (after.streamArena.cell address).tags ∨
        .start ∈ (after.streamArena.cell address).tags)
      (wakes : .write ∈ (after.streamArena.cell address).tags → stream.writeQueue.length = 1 →
        ∀ delivery : Delivery, delivery.ok = true → ∃ later news event,
          clientStep after (.returned address .write delivery) = some (later, news) ∧
            event ∈ Client.queued news ∧ event.id = id ∧ event.kind = .writable)

theorem mem_queued_of_streamLog {address : Nat} {event : ClEvent} {log : List ClientObs}
    (pushed : event ∈ pushedEvents (streamLog address log)) : event ∈ queued log := by
  obtain ⟨entry, logged, matched⟩ := List.mem_filterMap.mp pushed
  split at matched
  · rename_i found
    rw [Option.some.injEq] at matched
    subst matched
    exact List.mem_filterMap.mpr ⟨_, mem_streamLog_iff.mp logged, rfl⟩
  · exact absurd matched (by simp)

/-- The Write that empties the queue of a stream somebody waits for pushes `stream_writable`. -/
theorem Parked.wakes {client : RClient} {id address : Nat} {stream : StreamState}
    (parked : Parked id stream)
    (object : (client.streamArena.cell address).object = some stream)
    (outstanding : .write ∈ (client.streamArena.cell address).tags)
    (last : stream.writeQueue.length = 1) (delivery : Delivery) (ok : delivery.ok = true) :
    ∃ later news event,
      clientStep client (.returned address .write delivery) = some (later, news) ∧
        event ∈ Client.queued news ∧ event.id = id ∧ event.kind = .writable := by
  have taken : clientStep client (.returned address .write delivery) =
      some (client.handleStream address .write delivery stream) := by
    simp [clientStep, RClient.runTag, outstanding, object]
  have emptied : stream.writeQueue.tail = [] := by
    rw [← List.length_eq_zero_iff, List.length_tail, last]
  refine ⟨(client.handleStream address .write delivery stream).1,
    (client.handleStream address .write delivery stream).2,
    { kind := .writable, id := stream.id }, taken, ?_, parked.named, rfl⟩
  rw [queued_handleStream]
  simp [handlerEvents, ok, parked.sane, emptied]

/-- A request that its stream refuses returns `FALSE` and changes nothing. -/
theorem request_of_refuse {client : RClient} {id address : Nat} {request : StreamRequest}
    {stream : StreamState} (opened : client.closed = false)
    (found : client.streams.lookup id = some address)
    (object : (client.streamArena.cell address).object = some stream)
    (refuses : request.answer client.shutting stream = refuse stream) :
    client.request id request = (client, [.result id request (.ok false)]) := by
  have same : sectionCell ((refuse stream).stream, (refuse stream).obs)
      (client.streamArena.cell address).tags = client.streamArena.cell address := by
    rw [sectionCell, refuse, show postedTags [] = [] from rfl, List.append_nil, ← object]
  rw [request_of_found opened found object, refuses, RClient.withSection, same, Arena.set_cell]
  rfl

/-- A request returns a value only on an open client. -/
theorem opened_of_result {client : RClient} {id : Nat} {request : StreamRequest} {value : Bool}
    (told : ClientObs.result id request (.ok value) ∈ (client.request id request).2) :
    client.closed = false := by
  by_contra closed
  rw [Bool.not_eq_false] at closed
  rw [RClient.request, if_pos closed] at told
  exact absurd told (by simp)

/-- A send that was refused because the queue was full is followed by a wake-up, in every
continuation of every run of a client. -/
theorem sendSequel_of_run {wake : WakeHandle} {client refused after : RClient}
    {log news more : List ClientObs} {id address : Nat} {bytes : Bytes} {stream : StreamState}
    (run : (clientMachine wake).Run Machine.Free client log)
    (full : SendFull client id address stream)
    (taken : clientStep client (.request id (.send bytes)) = some (refused, news))
    (told : ClientObs.result id (.send bytes) (.ok false) ∈ news)
    (on : ((clientMachine wake).startedAt refused).Run Machine.Free after more) :
    SendSequel id address more after := by
  have sound := sound_of_run run
  have allocated := Arena.lt_size_of_object full.object
  obtain ⟨stream', object, named, nonzero⟩ := sound.streamTable id address full.found
  obtain rfl := Option.some.inj (full.object.symm.trans object)
  have queued : stream.writeQueue ≠ [] := by
    intro empty
    have room := Nat.le_trans full.room full.full
    rw [empty] at room
    exact absurd room (by simp)
  have same : refused = client := by
    obtain ⟨-, asked⟩ := request_of_result taken told
    have opened := opened_of_result (asked ▸ told)
    have refuses : (StreamRequest.send bytes).answer client.shutting stream = refuse stream := by
      simp [StreamRequest.answer, sendStream, full.sane, full.unfinished, full.unclosed, full.full]
    have equal := request_of_refuse opened full.found object refuses
    rw [clientStep, equal] at taken
    split at taken
    · exact (Prod.mk.inj (Option.some.inj taken)).1.symm
    · exact absurd taken (by simp)
  subst same
  obtain ⟨later, onward, -⟩ := sound.onward allocated on
  have parked : Parked id stream := ⟨named, full.sane, full.unfinished, queued⟩
  rcases parked.onward (sound.streams address allocated) onward object with
    shutting | released | ⟨left, there, waiting⟩
  · exact .closing shutting
  · cases released with
    | woken event pushed named kind =>
      exact .woken event (mem_queued_of_streamLog pushed) named kind
    | broken failed => exact .broken failed
  · cases running : after.shutting with
    | true => exact .closing running
    | false =>
      have inside := Arena.lt_size_of_object there
      have listed := later.streamListed address left there (waiting.named ▸ nonzero)
      rw [waiting.named] at listed
      refine .waiting left listed there waiting.queued ?_ fun outstanding last delivery ok =>
        waiting.wakes there outstanding last delivery ok
      have ledger := later.ledger_of_found listed there
      cases started : left.started with
      | true =>
        have pumped := (lossless_of_run (later.streams address inside)).pumped left there
        have inflight := (pumped running started waiting.sane waiting.unfinished).1 waiting.queued
        exact Or.inl ((mem_iff_flag ledger.write).mpr inflight)
      | false =>
        refine Or.inr (List.count_pos_iff.mp ?_)
        rw [ledger.start, started]
        exact Nat.one_pos

end Rgrpc.Client
