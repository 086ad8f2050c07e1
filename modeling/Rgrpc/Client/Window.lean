/-
This file proves the inbound flow control of a client stream. A stream keeps a
Read outstanding until as many messages wait for R as it was opened to hold, and
resumes as soon as R takes one. A stream that is to end posts its finish once
nothing else is outstanding, so between sections a stream either has an
operation outstanding or is paused on a full window.

The count of a stream that says how many of its messages wait is a field that
two threads change; that it is the number of messages in the queue of the client
is an invariant of the whole client.
-/

import Rgrpc.Client.Events
import Rgrpc.Delivery

namespace Rgrpc.Client

open Library

/-! ### What a stream is waiting for -/

/-- The reads of a stream between two sections: what waits for R and the Read outstanding fit the
bound, and a stream that can read pauses exactly when the bound is reached. A stream that is closed
for reading or broken is to be finished. -/
structure Reading (shutting : Bool) (stream : StreamState) : Prop where
  unstarted : stream.started = false → stream.unread ≤ 0
  bounded : 1 ≤ stream.readCap →
    stream.unread + (if stream.readInflight then 1 else 0) ≤ stream.readCap
  paused : 1 ≤ stream.readCap → shutting = false → stream.started = true →
    stream.readsClosed = false → stream.broken = false → stream.finishPosted = false →
    (stream.readInflight = false ↔ stream.unread = stream.readCap)
  ending : stream.readsClosed = true ∨ stream.broken = true → stream.wantFinish = true

/-- A stream that is to be finished waits for an operation that is still outstanding. -/
structure Engaged (shutting : Bool) (stream : StreamState) : Prop
    extends Reading shutting stream where
  waits : shutting = false → stream.started = true → stream.wantFinish = true →
    stream.finishPosted = false →
    (stream.readInflight || stream.writeInflight || stream.wdoneInflight) = true

section Helpers

variable {shutting : Bool} {stream : StreamState}

/-- A Read is posted while there is room: the stream is then not paused. -/
theorem Reading.sPostReadLocked
    (room : 1 ≤ stream.readCap → stream.unread < stream.readCap)
    (unstarted : stream.started = false → stream.unread ≤ 0)
    (ending : stream.readsClosed = true ∨ stream.broken = true → stream.wantFinish = true) :
    Reading shutting (sPostReadLocked shutting stream).1 := by
  unfold Client.sPostReadLocked
  split
  · rename_i refused
    show Reading shutting stream
    refine ⟨unstarted, fun bound => ?_, fun bound running started open_ sane unfinished => ?_,
      ending⟩
    · have fits := room bound
      split <;> omega
    · rw [running, started, open_, sane, unfinished] at refused
      have inflight : stream.readInflight = true := by simpa using refused
      have fits := room bound
      rw [inflight]
      exact ⟨fun idle => absurd idle (by simp), fun full => absurd full (by omega)⟩
  · refine ⟨unstarted, fun bound => ?_, fun bound _ _ _ _ _ => ?_, ending⟩
    · have fits := room bound
      simp only [if_true]
      omega
    · have fits := room bound
      exact ⟨fun idle => absurd idle (by simp), fun full => absurd full (by simp only; omega)⟩

/-- The pump does not touch the reads of a stream. -/
theorem Reading.sPumpWritesLocked (reading : Reading shutting stream) :
    Reading shutting (sPumpWritesLocked shutting stream).1 := by
  rcases sPumpWritesLocked_cases shutting stream with
    same | ⟨-, -, -, -, -, ⟨front, rest, -, same⟩ | ⟨-, -, -, -, same⟩⟩ <;>
  · rw [same]
    exact { reading with }

/-- A section that ends by trying to finish leaves the stream waiting for something. -/
theorem Reading.sTryFinishLocked (reading : Reading shutting stream) :
    Engaged shutting (sTryFinishLocked shutting stream).1 := by
  unfold Client.sTryFinishLocked
  split
  · rename_i refused
    refine { reading with waits := fun running _ wanted unfinished => ?_ }
    rw [running, wanted, unfinished] at refused
    exact absurd refused (by simp)
  · split
    · rename_i inflight
      exact { reading with waits := fun _ _ _ _ => inflight }
    · split
      · rename_i early
        refine { reading with waits := fun _ started _ _ => ?_ }
        rw [started] at early
        exact absurd early (by simp)
      · exact { reading with
          paused := fun _ _ _ _ _ unfinished => absurd unfinished (by simp)
          waits := fun _ _ _ unfinished => absurd unfinished (by simp) }

theorem Engaged.sPumpWritesLocked (engaged : Engaged shutting stream) :
    Engaged shutting (sPumpWritesLocked shutting stream).1 := by
  rcases sPumpWritesLocked_cases shutting stream with
    same | ⟨-, -, -, -, -, ⟨front, rest, -, same⟩ | ⟨-, -, -, -, same⟩⟩
  · rw [same]
    exact engaged
  · rw [same]
    exact { engaged with waits := fun _ _ _ _ => by simp }
  · rw [same]
    exact { engaged with waits := fun _ _ _ _ => by simp }

end Helpers

/-! ### The cases of the completion loop -/

section Handlers

variable {shutting : Bool} {stream : StreamState} {tags : List TagKind} {log : List StreamObs}
  (delivery : Delivery)

theorem Engaged.runStart (engaged : Engaged shutting stream) (early : stream.started = false) :
    Engaged shutting (runStart shutting delivery stream).1 := by
  refine Reading.sTryFinishLocked ?_
  split
  · refine Reading.sPumpWritesLocked (Reading.sPostReadLocked (fun bound => ?_)
      (fun absurdity => absurd absurdity (by simp)) engaged.ending)
    exact Int.lt_of_le_of_lt (engaged.unstarted early) bound
  · exact ⟨fun absurdity => absurd absurdity (by simp), engaged.bounded,
      fun _ _ _ _ absurdity => absurd absurdity (by simp), fun _ => rfl⟩

theorem Engaged.runRead (engaged : Engaged shutting stream) (inflight : stream.readInflight = true)
    (started : stream.started = true) :
    Engaged shutting (runRead shutting delivery stream).1 := by
  have late {unread : Int} : stream.started = false → unread ≤ 0 :=
    fun early => absurd (early.symm.trans started) Bool.false_ne_true
  have fits : 1 ≤ stream.readCap → stream.unread + 1 ≤ stream.readCap := by
    intro bound
    have bounded := engaged.bounded bound
    rw [inflight, if_pos rfl] at bounded
    exact bounded
  refine Reading.sTryFinishLocked ?_
  split
  · show Reading shutting (if stream.unread + 1 < stream.readCap then _ else _ : StreamState × _).1
    split
    · rename_i room
      exact Reading.sPostReadLocked (fun _ => room) late engaged.ending
    · rename_i full
      refine ⟨late, fun bound => ?_, fun bound _ _ _ _ _ => ?_, engaged.ending⟩
      · have fit := fits bound
        simp only [Bool.false_eq_true, if_false]
        omega
      · have fit := fits bound
        exact ⟨fun _ => Int.le_antisymm fit (Int.not_lt.mp full), fun _ => rfl⟩
  · refine ⟨late, fun bound => ?_, fun _ _ _ absurdity => absurd absurdity (by simp),
      fun _ => rfl⟩
    have fit := fits bound
    simp only [Bool.false_eq_true, if_false]
    omega

theorem Engaged.runWrite (engaged : Engaged shutting stream) :
    Engaged shutting (runWrite shutting delivery stream).1 := by
  refine Reading.sTryFinishLocked ?_
  split
  · refine Reading.sPumpWritesLocked ?_
    exact ⟨engaged.unstarted, engaged.bounded, engaged.paused, engaged.ending⟩
  · exact ⟨engaged.unstarted, engaged.bounded,
      fun _ _ _ _ absurdity => absurd absurdity (by simp), fun _ => rfl⟩

theorem Engaged.runWdone (engaged : Engaged shutting stream) :
    Engaged shutting (runWdone shutting delivery stream).1 := by
  refine Reading.sTryFinishLocked ?_
  split
  · exact ⟨engaged.unstarted, engaged.bounded, engaged.paused, engaged.ending⟩
  · exact ⟨engaged.unstarted, engaged.bounded,
      fun _ _ _ _ absurdity => absurd absurdity (by simp), fun _ => rfl⟩

/-- The return of a tag leaves the stream waiting for something. -/
theorem Engaged.runStream (engaged : Engaged shutting stream) {op : TagKind}
    (ledger : Ledger stream tags log) (outstanding : op ∈ tags) :
    Engaged shutting (runStream shutting op delivery stream).1 := by
  have lowered : Engaged shutting { stream with pending := stream.pending - 1 } :=
    { engaged with }
  cases op with
  | start => exact lowered.runStart delivery (ledger.started_of_start outstanding)
  | read =>
    have inflight := (mem_iff_flag ledger.read).mp outstanding
    refine lowered.runRead delivery inflight ?_
    by_contra early
    rw [Bool.not_eq_true] at early
    exact absurd ((ledger.unstarted early).1.symm.trans inflight) Bool.false_ne_true
  | write => exact lowered.runWrite delivery
  | wdone => exact lowered.runWdone delivery
  | finish => exact { lowered with }

end Handlers

/-! ### What R does -/

section Requests

variable {shutting : Bool} {stream : StreamState}

theorem Engaged.answer (engaged : Engaged shutting stream) (request : StreamRequest) :
    Engaged shutting (request.answer shutting stream).stream := by
  rcases answer_cases shutting request stream with
    same | ⟨bytes, -, -, -, -, -, same⟩ | ⟨-, -, same⟩
  · rw [same]
    exact engaged
  · rw [same]
    exact Engaged.sPumpWritesLocked { engaged with }
  · rw [same]
    exact Engaged.sPumpWritesLocked { engaged with }

/-- A poll that takes a message makes room for a Read. -/
theorem Engaged.takeMessage (engaged : Engaged shutting stream) :
    Engaged shutting (takeMessage shutting stream).1 := by
  have fits : 1 ≤ stream.readCap → stream.unread - 1 < stream.readCap := by
    intro bound
    have bounded := engaged.bounded bound
    split at bounded <;> omega
  have early : stream.started = false → stream.unread - 1 ≤ 0 := by
    intro early
    have unread := engaged.unstarted early
    omega
  show Engaged shutting
    (if stream.unread - 1 < stream.readCap then _ else _ : StreamState × List StreamObs).1
  split
  · have reading : Reading shutting (Client.sPostReadLocked shutting
        { stream with unread := stream.unread - 1 }).1 :=
      Reading.sPostReadLocked fits early engaged.ending
    refine { reading with waits := ?_ }
    rcases sPostReadLocked_cases shutting { stream with unread := stream.unread - 1 } with
      same | ⟨-, -, -, -, -, -, same⟩
    · rw [same]
      exact engaged.waits
    · rw [same]
      exact fun _ _ _ _ => by simp
  · rename_i full
    refine { engaged with
      unstarted := early
      bounded := fun bound => absurd (fits bound) full
      paused := fun bound => absurd (fits bound) full }

end Requests

/-! ### Runs of one stream -/

theorem engaged_openStream (shutting : Bool) (id : Nat) (readCap : Int) (writeCap : Nat) :
    Engaged shutting (openStream id readCap writeCap {}).1 :=
  { unstarted := fun _ => Int.le_refl 0
    bounded := fun bound => Int.le_trans Int.one_nonneg bound
    paused := fun _ _ absurdity => absurd absurdity (by simp [openStream])
    ending := fun absurdity => absurd absurdity (by simp [openStream])
    waits := fun _ absurdity => absurd absurdity (by simp [openStream]) }

theorem Engaged.step {view after : StreamView} {log news : List StreamObs} {input : StreamInput}
    (engaged : ∀ stream, view.cell.object = some stream → Engaged view.shutting stream)
    (phase : Phase view log) (taken : streamStep view input = some (after, news)) :
    ∀ stream, after.cell.object = some stream → Engaged after.shutting stream := by
  rcases streamStep_cases taken with
    ⟨id, readCap, writeCap, stream, -, -, -, object, nameless, rfl, rfl⟩ |
    ⟨op, delivery, stream, -, outstanding, object, rfl, rfl⟩ |
    ⟨stream, left, object, -, origin, rfl, rfl⟩ | ⟨-, rfl, rfl⟩ | ⟨stream, -, -, -, -, -, rfl, rfl⟩
  · intro other stored
    obtain rfl := Option.some.inj stored
    cases phase with
    | fresh cell silent =>
      rw [cell] at object
      obtain rfl := Option.some.inj object
      exact engaged_openStream view.shutting id readCap writeCap
    | live live same named ledger unended kept =>
      obtain rfl := Option.some.inj (object.symm.trans same)
      exact absurd nameless named
    | gone cell deleted lawful =>
      rw [cell] at object
      exact absurd object (by simp)
  · intro other stored
    obtain ⟨stream', object', ledger, -⟩ := phase.ledger_of_mem outstanding
    obtain rfl := Option.some.inj (object.symm.trans object')
    simp only [handleTag] at stored
    split at stored
    · exact absurd stored (by simp)
    · obtain rfl := Option.some.inj stored
      exact (engaged stream object).runStream delivery ledger outstanding
  · intro other stored
    obtain rfl := Option.some.inj stored
    rcases origin with ⟨request, -, rfl⟩ | ⟨-, rfl⟩
    · exact (engaged stream object).answer request
    · exact (engaged stream object).takeMessage
  · intro other stored
    exact { engaged other stored with
      paused := fun _ absurdity => absurd absurdity (by simp)
      waits := fun absurdity => absurd absurdity (by simp) }
  · exact fun _ absurdity => absurd absurdity (by simp)

/-- Along every run of one stream it is engaged between sections. -/
theorem engaged_of_run {view : StreamView} {log : List StreamObs}
    (run : streamMachine.Run Machine.Free view log) {stream : StreamState}
    (object : view.cell.object = some stream) : Engaged view.shutting stream := by
  induction run generalizing stream with
  | start =>
    obtain rfl := Option.some.inj object
    exact { engaged_openStream false 0 16 16 with }
  | next before _ taken inductionHypothesis =>
    exact Engaged.step (fun _ => inductionHypothesis) (phase_of_run before) taken stream object

/-! ### The count and the bounds of a stream -/

/-- A part of a section against the count of a stream and its bounds: it counts some more messages
and leaves the bounds alone. -/
structure Counts (more : Int) (stream other : StreamState) : Prop where
  unread : other.unread = stream.unread + more
  readCap : other.readCap = stream.readCap
  writeCap : other.writeCap = stream.writeCap

theorem Counts.trans {more again : Int} {stream other last : StreamState}
    (first : Counts more stream other) (second : Counts again other last) :
    Counts (more + again) stream last :=
  ⟨by rw [second.unread, first.unread, Int.add_assoc], second.readCap.trans first.readCap,
    second.writeCap.trans first.writeCap⟩

theorem counts_zero (stream : StreamState) : Counts 0 stream stream :=
  ⟨(Int.add_zero _).symm, rfl, rfl⟩

section Counting

variable (shutting : Bool) (stream : StreamState)

theorem counts_sPostReadLocked : Counts 0 stream (sPostReadLocked shutting stream).1 := by
  unfold sPostReadLocked
  split <;> exact ⟨(Int.add_zero _).symm, rfl, rfl⟩

theorem counts_sPumpWritesLocked : Counts 0 stream (sPumpWritesLocked shutting stream).1 := by
  rcases sPumpWritesLocked_cases shutting stream with
    same | ⟨-, -, -, -, -, ⟨front, rest, -, same⟩ | ⟨-, -, -, -, same⟩⟩ <;>
  · rw [same]
    exact ⟨(Int.add_zero _).symm, rfl, rfl⟩

theorem counts_sTryFinishLocked : Counts 0 stream (sTryFinishLocked shutting stream).1 := by
  rcases sTryFinishLocked_cases shutting stream with same | ⟨-, -, -, -, -, -, -, same⟩ <;>
  · rw [same]
    exact ⟨(Int.add_zero _).symm, rfl, rfl⟩

/-- Reading on when there is room counts nothing. -/
theorem counts_readOn : Counts 0 stream
    (if stream.unread < stream.readCap then sPostReadLocked shutting stream
      else (stream, [])).1 := by
  split
  · exact counts_sPostReadLocked shutting stream
  · exact counts_zero stream

theorem counts_takeMessage : Counts (-1) stream (takeMessage shutting stream).1 := by
  have taken : Counts (-1) stream { stream with unread := stream.unread - 1 } := ⟨rfl, rfl, rfl⟩
  exact taken.trans (counts_readOn shutting { stream with unread := stream.unread - 1 })

theorem counts_answer (request : StreamRequest) :
    Counts 0 stream (request.answer shutting stream).stream := by
  rcases answer_cases shutting request stream with
    same | ⟨bytes, -, -, -, -, -, same⟩ | ⟨-, -, same⟩
  · rw [same]
    exact counts_zero stream
  · have pumped := counts_sPumpWritesLocked shutting
      { stream with writeQueue := stream.writeQueue ++ [.ofRaw bytes] }
    rw [same]
    exact ⟨pumped.unread, pumped.readCap, pumped.writeCap⟩
  · have pumped := counts_sPumpWritesLocked shutting { stream with wdoneRequested := true }
    rw [same]
    exact ⟨pumped.unread, pumped.readCap, pumped.writeCap⟩

/-- Whether an event is a message of the stream with an id. -/
def ClEvent.messageOf (id : Nat) (event : ClEvent) : Bool := event.kind == .smsg && event.id == id

/-- A handler counts the messages it pushes. -/
theorem counts_runStream (op : TagKind) (delivery : Delivery) :
    Counts ((handlerEvents op delivery stream).countP (ClEvent.messageOf stream.id)) stream
      (runStream shutting op delivery stream).1 := by
  have ending {more : Int} {other : StreamState} (counts : Counts more stream other) :
      Counts more stream (sTryFinishLocked shutting other).1 := by
    have whole := counts.trans (counts_sTryFinishLocked shutting other)
    rw [Int.add_zero] at whole
    exact whole
  cases op with
  | start =>
    refine ending ?_
    split
    · have read := counts_sPostReadLocked shutting
        { stream with pending := stream.pending - 1, started := true }
      have both := read.trans (counts_sPumpWritesLocked shutting _)
      exact ⟨both.unread, both.readCap, both.writeCap⟩
    · exact ⟨(Int.add_zero _).symm, rfl, rfl⟩
  | read =>
    refine ending ?_
    unfold handlerEvents
    simp only
    split
    · have pushed : Counts 1 stream { stream with
          pending := stream.pending - 1, readInflight := false, readBuf := delivery.message
          unread := stream.unread + 1 } := ⟨rfl, rfl, rfl⟩
      have one : (([smsgEvent { stream with readBuf := delivery.message }].countP
          (ClEvent.messageOf stream.id) : Nat) : Int) = 1 + 0 := by
        simp [ClEvent.messageOf, smsgEvent]
      rw [one]
      exact pushed.trans (counts_readOn shutting _)
    · exact ⟨(Int.add_zero _).symm, rfl, rfl⟩
  | write =>
    have silent : (handlerEvents .write delivery stream).countP
        (ClEvent.messageOf stream.id) = 0 := by
      unfold handlerEvents
      simp only
      split <;> rfl
    rw [silent]
    refine ending ?_
    split
    · have pumped := counts_sPumpWritesLocked shutting { stream with
        pending := stream.pending - 1, writeInflight := false
        writeQueue := stream.writeQueue.tail }
      exact ⟨pumped.unread, pumped.readCap, pumped.writeCap⟩
    · exact ⟨(Int.add_zero _).symm, rfl, rfl⟩
  | wdone =>
    refine ending ?_
    split <;> exact ⟨(Int.add_zero _).symm, rfl, rfl⟩
  | finish => exact ⟨(Int.add_zero _).symm, rfl, rfl⟩

end Counting

/-! ### The count of a stream is that of the queue -/

/-- The messages of a stream that wait in the queue of its client. -/
def RClient.undelivered (client : RClient) (id : Nat) : Nat :=
  client.ready.countP (ClEvent.messageOf id)

/-- The counts of the streams of a client against a queue of events. -/
structure Tallied (client : RClient) (queue : List ClEvent) : Prop where
  counted : ∀ id address stream, client.streams.lookup id = some address →
    (client.streamArena.cell address).object = some stream →
    stream.unread = queue.countP (ClEvent.messageOf id)
  behind : ∀ event ∈ queue, event.id < client.nextId

theorem countP_messageOf_of_ne {id : Nat} {events : List ClEvent}
    (others : ∀ event ∈ events, event.id ≠ id) : events.countP (ClEvent.messageOf id) = 0 :=
  List.countP_eq_zero.mpr fun event member => by
    simp [ClEvent.messageOf, others event member]

section Tally

variable {client : RClient} {log : List ClientObs} {queue after : List ClEvent}

/-- One stream changes, and with it the queue in the messages of this stream. -/
theorem Tallied.set (tallied : Tallied client queue) (sound : Sound client log) {address : Nat}
    {stream : StreamState} {cell : Cell StreamState TagKind}
    (object : (client.streamArena.cell address).object = some stream)
    (own : ∀ other, cell.object = some other →
      other.unread = after.countP (ClEvent.messageOf stream.id))
    (others : ∀ id, id ≠ stream.id →
      after.countP (ClEvent.messageOf id) = queue.countP (ClEvent.messageOf id))
    {id other : Nat} {left : StreamState} (found : client.streams.lookup id = some other)
    (stored : ((client.streamArena.set address cell).cell other).object = some left) :
    left.unread = after.countP (ClEvent.messageOf id) := by
  obtain ⟨kept, object', named, nonzero⟩ := sound.streamTable id other found
  by_cases same : address = other
  · subst same
    obtain rfl := Option.some.inj (object.symm.trans object')
    rw [Arena.cell_set_self (Arena.lt_size_of_object object)] at stored
    rw [← named]
    exact own left stored
  · have different : id ≠ stream.id := by
      intro equal
      have listed := sound.streamListed address stream object (equal ▸ nonzero)
      rw [← equal, found] at listed
      exact same (Option.some.inj listed).symm
    rw [Arena.cell_set_of_ne same] at stored
    rw [others id different]
    exact tallied.counted id other left found stored

/-- A poll takes a message out of the queue and off the count of its stream. -/
theorem Tallied.account (sound : Sound client log) {skipped rest : List ClEvent} {event : ClEvent}
    (tallied : Tallied client (skipped ++ event :: rest)) :
    Tallied (client.account event).1 (skipped ++ rest) := by
  have counts (id : Nat) : (skipped ++ event :: rest).countP (ClEvent.messageOf id) =
      (skipped ++ rest).countP (ClEvent.messageOf id) +
        if event.messageOf id then 1 else 0 := by
    rw [List.countP_append, List.countP_append, List.countP_cons]
    omega
  have behind : ∀ other ∈ skipped ++ rest, other.id < client.nextId := by
    intro other member
    refine tallied.behind other ?_
    rw [List.mem_append] at member ⊢
    exact member.imp id (List.mem_cons_of_mem event)
  have apart {id : Nat} (other : event.messageOf id = false) :
      (skipped ++ rest).countP (ClEvent.messageOf id) =
        (skipped ++ event :: rest).countP (ClEvent.messageOf id) := by
    rw [counts id, other]
    rfl
  rcases account_cases client event with ⟨missing, same⟩ | ⟨address, -, found, missing, -⟩ |
    ⟨address, stream, message, found, object, same⟩
  · rw [same]
    refine ⟨fun id address stream found object => ?_, behind⟩
    have different : event.messageOf id = false := by
      rw [← Bool.not_eq_true]
      intro own
      simp only [ClEvent.messageOf, Bool.and_eq_true, beq_iff_eq] at own
      rw [← own.2, missing own.1] at found
      exact absurd found (by simp)
    rw [apart different]
    exact tallied.counted id address stream found object
  · obtain ⟨stream, object, -⟩ := sound.streamTable event.id address found
    exact absurd (missing.symm.trans object) (by simp)
  · obtain ⟨stream', object', named, -⟩ := sound.streamTable event.id address found
    obtain rfl := Option.some.inj (object.symm.trans object')
    rw [same]
    refine ⟨fun id other left found' stored => ?_, behind⟩
    refine tallied.set sound object (fun after stored => ?_) (fun id different => ?_) found' stored
    · obtain rfl := Option.some.inj stored
      have before := tallied.counted event.id address stream found object
      have one : event.messageOf event.id = true := by
        rw [ClEvent.messageOf, message, beq_self_eq_true, beq_self_eq_true]
        rfl
      rw [(counts_takeMessage client.shutting stream).unread, before, counts, if_pos one, named]
      omega
    · refine apart ?_
      rw [ClEvent.messageOf, Bool.and_eq_false_iff, beq_eq_false_iff_ne (a := event.id)]
      rw [← named]
      exact Or.inr (Ne.symm different)

theorem Tallied.pollTake (sound : Sound client log) (tallied : Tallied client client.ready)
    (args : PollArgs) : Tallied (client.pollTake args).1 (client.pollTake args).1.ready := by
  have loop := @takeLoop_queue_invariant _ _ _ (fun event : ClEvent => args.wants event.id)
    RClient.account args.maxEvents (fun state log queue => Sound state log ∧ Tallied state queue)
    (fun _ _ _ event _ _ before => ⟨before.1.account event, before.2.account before.1⟩)
    client.ready 0 client log [] ⟨sound, tallied⟩
  exact ⟨loop.2.counted, loop.2.behind⟩

/-- A step appends what it pushes to the queue, unless it is the end of a poll or of a close. -/
theorem ready_of_step {after : RClient} {input : ClientInput} {news : List ClientObs}
    (taken : clientStep client input = some (after, news)) :
    after.ready = client.ready ++ queued news ∨
      (∃ wake args, after = (({ client with wake } : RClient).pollTake args).1) ∨
      input = .joined := by
  have called {result : RClient × List ClientObs}
      (enabled : (if client.atR then some result else none) = some (after, news))
      (kept : result.1.inbox = client.inbox ∧ Unqueued result.2) :
      after.ready = client.ready ++ queued news := by
    split at enabled
    · rw [Option.some.inj enabled] at kept
      rw [kept.2.pushed, List.append_nil]
      exact congrArg Inbox.ready kept.1
    · exact absurd enabled (by simp)
  have attempted {args : PollArgs} {leftMs : Int}
      (equal : client.pollAttempt args leftMs = (after, news)) :
      after.ready = client.ready ++ queued news ∨
        ∃ wake args, after = (({ client with wake } : RClient).pollTake args).1 := by
    unfold RClient.pollAttempt at equal
    split at equal
    · simp only at equal
      split at equal
      · exact Or.inr ⟨client.wake.drain, args, (congrArg Prod.fst equal).symm⟩
      · obtain ⟨rfl, rfl⟩ := Prod.mk.inj equal
        exact Or.inl (List.append_nil _).symm
    · exact Or.inr ⟨client.wake, args, (congrArg Prod.fst equal).symm⟩
  cases input with
  | unary address delivery =>
    have seen : (clientFeed client.wake).Seen client _ after news (.pushes (queued news)) :=
      seen_unary taken
    have step := seen.step
    exact Or.inl (congrArg Inbox.ready (congrArg Prod.fst (Option.some.inj step))).symm
  | returned address op delivery =>
    have seen : (clientFeed client.wake).Seen client _ after news (.pushes (queued news)) :=
      seen_returned taken
    have step := seen.step
    exact Or.inl (congrArg Inbox.ready (congrArg Prod.fst (Option.some.inj step))).symm
  | callStart method request opts now =>
    exact Or.inl (called taken (inbox_callStart client method request opts now))
  | streamStart method opts now readCap writeCap =>
    exact Or.inl (called taken (inbox_streamStart client method opts now readCap writeCap))
  | request id request => exact Or.inl (called taken (inbox_request client id request))
  | cancel id => exact Or.inl (called taken (inbox_cancel client id))
  | poll args leftMs =>
    rw [clientStep, RClient.grpcRClientPoll] at taken
    split at taken
    · have polled := Option.some.inj taken
      split at polled
      · obtain ⟨rfl, rfl⟩ := Prod.mk.inj polled
        exact Or.inl (List.append_nil _).symm
      · exact (attempted polled).imp id Or.inl
    · exact absurd taken (by simp)
  | woken result leftMs =>
    obtain ⟨args, -, finished | again⟩ := woken_cases taken
    · exact Or.inr (Or.inl ⟨client.wake, args, (congrArg Prod.fst finished).symm⟩)
    · exact (attempted again).imp id Or.inl
  | close =>
    refine Or.inl ?_
    rw [clientStep, RClient.beginClose] at taken
    split at taken
    · have closed := Option.some.inj taken
      split at closed <;>
      · obtain ⟨rfl, rfl⟩ := Prod.mk.inj closed
        exact (List.append_nil _).symm
    · exact absurd taken (by simp)
  | joined => exact Or.inr (Or.inr rfl)

/-- A handler adds no stream to the table. -/
theorem lookup_of_handleStream {id other address : Nat} {op : TagKind} {delivery : Delivery}
    {stream : StreamState}
    (found : (client.handleStream address op delivery stream).1.streams.lookup id = some other) :
    client.streams.lookup id = some other := by
  have erased : (if freed (runStream client.shutting op delivery stream).1 then
      client.streams.erase (runStream client.shutting op delivery stream).1.id
      else client.streams).lookup id = some other := found
  split at erased
  · by_cases same : id = (runStream client.shutting op delivery stream).1.id
    · rw [same, AList.lookup_erase] at erased
      exact absurd erased (by simp)
    · rw [AList.lookup_erase_ne same] at erased
      exact erased
  · exact erased

/-- A handler of a stream pushes its messages and counts them. -/
theorem Tallied.handleStream (sound : Sound client log) (tallied : Tallied client client.ready)
    {address : Nat} {op : TagKind} (delivery : Delivery) {stream : StreamState}
    (outstanding : op ∈ (client.streamArena.cell address).tags)
    (object : (client.streamArena.cell address).object = some stream) :
    Tallied (client.handleStream address op delivery stream).1
      (client.handleStream address op delivery stream).1.ready := by
  have pushed : (client.handleStream address op delivery stream).1.ready =
      client.ready ++ handlerEvents op delivery stream := by
    have same := queued_handleStream client address op delivery stream
    rw [RClient.handleStream, queued_map] at same
    rw [← same]
    rfl
  obtain ⟨stream', object', -, nonzero⟩ := sound.stream_of_mem outstanding
  obtain rfl := Option.some.inj (object.symm.trans object')
  have counts := counts_runStream client.shutting stream op delivery
  rw [pushed]
  refine ⟨fun id other left found stored => ?_, fun event member => ?_⟩
  · have listed := lookup_of_handleStream found
    refine tallied.set sound object (fun after kept => ?_) (fun id different => ?_) listed stored
    · simp only [handleTag] at kept
      split at kept
      · exact absurd kept (by simp)
      · obtain rfl := Option.some.inj kept
        have before := tallied.counted stream.id address stream
          (sound.streamListed address stream object nonzero) object
        rw [counts.unread, before, List.countP_append, Int.natCast_add]
    · have foreign : (handlerEvents op delivery stream).countP (ClEvent.messageOf id) = 0 := by
        refine countP_messageOf_of_ne fun event member => ?_
        rw [id_of_handlerEvents member]
        exact Ne.symm different
      rw [List.countP_append, foreign, Nat.add_zero]
  · rw [List.mem_append] at member
    rcases member with before | now
    · exact tallied.behind event before
    · rw [id_of_handlerEvents now]
      exact sound.streamIds address stream object

/-- Every step keeps the counts of the streams. -/
theorem Tallied.step (sound : Sound client log) (tallied : Tallied client client.ready)
    {after : RClient} {input : ClientInput} {news : List ClientObs}
    (taken : clientStep client input = some (after, news)) : Tallied after after.ready := by
  rcases ready_of_step taken with ready | ⟨wake, args, rfl⟩ | rfl
  · have silent (none : queued news = []) (kept : Tallied after client.ready) :
        Tallied after after.ready := by
      rw [ready, none, List.append_nil]
      exact kept
    cases turn_of_step taken with
    | unary address delivery call outstanding object =>
      refine ⟨fun id other left found stored => ?_, fun event member => ?_⟩
      · have before := tallied.counted id other left found stored
        rw [before]
        show _ = ((client.ready ++ [unaryEvent delivery call]).countP (ClEvent.messageOf id) : Int)
        rw [List.countP_append]
        rfl
      · change event ∈ client.ready ++ [unaryEvent delivery call] at member
        rw [List.mem_append, List.mem_singleton] at member
        rcases member with before | rfl
        · exact tallied.behind event before
        · exact sound.callIds address call object
    | returned address op delivery stream outstanding object =>
      exact tallied.handleStream sound delivery outstanding object
    | leakCall method request opts now error opened named raises =>
      exact silent rfl ⟨tallied.counted, tallied.behind⟩
    | leakStream method opts now readCap writeCap error opened named raises =>
      refine silent rfl ⟨fun id address stream found object => ?_, tallied.behind⟩
      obtain ⟨stream', object', -⟩ := sound.streamTable id address found
      rw [Arena.cell_push_of_lt (Arena.lt_size_of_object object')] at object
      exact tallied.counted id address stream found object
    | callStarted method request opts now name context opened clean =>
      exact silent rfl ⟨tallied.counted,
        fun event member => Nat.lt_succ_of_lt (tallied.behind event member)⟩
    | streamStarted method opts now readCap writeCap opened clean =>
      refine silent rfl ⟨fun id address stream found object => ?_,
        fun event member => Nat.lt_succ_of_lt (tallied.behind event member)⟩
      by_cases same : id = client.nextId
      · rw [RClient.withStream] at found object
        rw [same, AList.lookup_insert] at found
        obtain rfl := Option.some.inj found
        rw [Arena.cell_push_self] at object
        obtain rfl := Option.some.inj object
        rw [same, countP_messageOf_of_ne fun event member =>
          Nat.ne_of_lt (tallied.behind event member)]
        rfl
      · rw [RClient.withStream] at found object
        rw [AList.lookup_insert_ne same] at found
        obtain ⟨stream', object', -⟩ := sound.streamTable id address found
        rw [Arena.cell_push_of_lt (Arena.lt_size_of_object object')] at object
        exact tallied.counted id address stream found object
    | request id request address stream opened found object =>
      obtain ⟨stream', object', named, nonzero⟩ := sound.streamTable id address found
      obtain rfl := Option.some.inj (object.symm.trans object')
      have unqueued : queued ((request.answer client.shutting stream).obs.map
          (ClientObs.stream address) ++
            [.result id request (.ok (request.answer client.shutting stream).value)]) = [] := by
        rw [queued_append, queued_map, pushedEvents_answer]
        rfl
      refine silent unqueued ⟨fun other address' left found' stored => ?_, tallied.behind⟩
      refine tallied.set sound object (fun after kept => ?_) (fun _ _ => rfl) found' stored
      obtain rfl := Option.some.inj kept
      rw [(counts_answer client.shutting stream request).unread, Int.add_zero, named]
      exact tallied.counted id address stream found object
    | polled input wake args origin =>
      exact Tallied.pollTake (sound.idle wake client.ready client.rthread fun _ => rfl)
        ⟨tallied.counted, tallied.behind⟩ args
    | quiet input after news quiet origin =>
      rw [quiet.same] at silent ⊢
      exact silent quiet.still.queued ⟨tallied.counted, tallied.behind⟩
    | closing opened => exact silent rfl ⟨tallied.counted, tallied.behind⟩
    | joined after news joining ended =>
      obtain ⟨-, -, rfl, -⟩ := sound.endClose_eq ended
      exact ⟨fun id address stream found => absurd found (by simp),
        fun _ absurdity => absurd absurdity List.not_mem_nil⟩
    | lost input after news lost => exact absurd lost sound.not_lost
  · exact Tallied.pollTake (sound.idle wake client.ready client.rthread fun _ => rfl)
      ⟨tallied.counted, tallied.behind⟩ args
  · rw [clientStep] at taken
    split at taken
    · obtain ⟨-, -, rfl, -⟩ := sound.endClose_eq taken
      exact ⟨fun id address stream found => absurd found (by simp),
        fun _ absurdity => absurd absurdity List.not_mem_nil⟩
    · exact absurd taken (by simp)

end Tally

/-- Along every run the count of a stream is the number of its messages in the queue. -/
theorem tallied_of_run {wake : WakeHandle} {client : RClient} {log : List ClientObs}
    (run : (clientMachine wake).Run Machine.Free client log) : Tallied client client.ready := by
  induction run with
  | start =>
    exact ⟨fun id address stream found => absurd found (by simp [clientMachine]),
      fun _ absurdity => absurd absurdity List.not_mem_nil⟩
  | next before _ taken inductionHypothesis =>
    exact inductionHypothesis.step (sound_of_run before) taken

/-! ### The bounds a stream was opened with -/

/-- The stream with an id, as long as it is in its table, has the bounds it was opened with. -/
structure Bounded (id : Nat) (readCap : Int) (writeCap : Nat) (client : RClient) : Prop where
  behind : id < client.nextId
  bounds : ∀ address stream, client.streams.lookup id = some address →
    (client.streamArena.cell address).object = some stream →
    stream.readCap = readCap ∧ stream.writeCap = writeCap

section Bounds

variable {client : RClient} {log : List ClientObs} {id writeCap : Nat} {readCap : Int}

/-- One stream changes, and keeps its bounds. -/
theorem Bounded.set (bounded : Bounded id readCap writeCap client) {address : Nat}
    {stream : StreamState} {cell : Cell StreamState TagKind}
    (object : (client.streamArena.cell address).object = some stream)
    (own : ∀ other, cell.object = some other →
      other.readCap = stream.readCap ∧ other.writeCap = stream.writeCap)
    {other : Nat} {left : StreamState} (found : client.streams.lookup id = some other)
    (stored : ((client.streamArena.set address cell).cell other).object = some left) :
    left.readCap = readCap ∧ left.writeCap = writeCap := by
  by_cases same : address = other
  · subst same
    rw [Arena.cell_set_self (Arena.lt_size_of_object object)] at stored
    obtain ⟨reads, writes⟩ := bounded.bounds address stream found object
    have kept := own left stored
    exact ⟨kept.1.trans reads, kept.2.trans writes⟩
  · rw [Arena.cell_set_of_ne same] at stored
    exact bounded.bounds other left found stored

theorem Bounded.account (bounded : Bounded id readCap writeCap client) (event : ClEvent) :
    Bounded id readCap writeCap (client.account event).1 := by
  rcases account_cases client event with ⟨-, same⟩ | ⟨address, -, -, -, same⟩ |
    ⟨address, stream, -, -, object, same⟩
  · rw [same]
    exact bounded
  · rw [same]
    exact bounded
  · rw [same]
    refine ⟨bounded.behind, fun other left found stored =>
      bounded.set object (fun after kept => ?_) found stored⟩
    obtain rfl := Option.some.inj kept
    have counts := counts_takeMessage client.shutting stream
    exact ⟨counts.readCap, counts.writeCap⟩

theorem Bounded.pollTake (bounded : Bounded id readCap writeCap client) (args : PollArgs) :
    Bounded id readCap writeCap (client.pollTake args).1 := by
  have loop := takeLoop_invariant (fun event : ClEvent => args.wants event.id) RClient.account
    args.maxEvents
    (fun (state : RClient) (_ : List ClientObs) event _
        (before : Bounded id readCap writeCap state) => before.account event)
    client.ready 0 client [] bounded
  exact ⟨loop.behind, loop.bounds⟩

/-- Every step keeps the bounds of a stream. -/
theorem Bounded.step (sound : Sound client log) (bounded : Bounded id readCap writeCap client)
    {after : RClient} {input : ClientInput} {news : List ClientObs}
    (taken : clientStep client input = some (after, news)) :
    Bounded id readCap writeCap after := by
  have fresh : id ≠ client.nextId := Nat.ne_of_lt bounded.behind
  have pushed {address : Nat} {stream : StreamState} {cell : Cell StreamState TagKind}
      (found : client.streams.lookup id = some address)
      (object : ((client.streamArena.push cell).cell address).object = some stream) :
      stream.readCap = readCap ∧ stream.writeCap = writeCap := by
    obtain ⟨stream', object', -⟩ := sound.streamTable id address found
    rw [Arena.cell_push_of_lt (Arena.lt_size_of_object object')] at object
    exact bounded.bounds address stream found object
  cases turn_of_step taken with
  | unary address delivery call outstanding object => exact ⟨bounded.behind, bounded.bounds⟩
  | returned address op delivery stream outstanding object =>
    refine ⟨bounded.behind, fun other left found stored => ?_⟩
    have listed := lookup_of_handleStream found
    refine bounded.set object (fun after kept => ?_) listed stored
    simp only [handleTag] at kept
    split at kept
    · exact absurd kept (by simp)
    · obtain rfl := Option.some.inj kept
      have counts := counts_runStream client.shutting stream op delivery
      exact ⟨counts.readCap, counts.writeCap⟩
  | leakCall method request opts now error opened named raises =>
    exact ⟨bounded.behind, bounded.bounds⟩
  | leakStream method opts now readCap writeCap error opened named raises =>
    exact ⟨bounded.behind, fun address stream found object => pushed found object⟩
  | callStarted method request opts now name context opened clean =>
    exact ⟨Nat.lt_succ_of_lt bounded.behind, bounded.bounds⟩
  | streamStarted method opts now readCap writeCap opened clean =>
    refine ⟨Nat.lt_succ_of_lt bounded.behind, fun address stream found object => ?_⟩
    rw [RClient.withStream] at found object
    rw [AList.lookup_insert_ne fresh] at found
    exact pushed found object
  | request id' request address stream opened found object =>
    refine ⟨bounded.behind, fun other left found' stored =>
      bounded.set object (fun after kept => ?_) found' stored⟩
    obtain rfl := Option.some.inj kept
    have counts := counts_answer client.shutting stream request
    exact ⟨counts.readCap, counts.writeCap⟩
  | polled input wake args origin =>
    have kept : Bounded id readCap writeCap ({ client with wake } : RClient) :=
      ⟨bounded.behind, bounded.bounds⟩
    exact kept.pollTake args
  | quiet input after news quiet origin =>
    rw [quiet.same]
    exact ⟨bounded.behind, bounded.bounds⟩
  | closing opened => exact ⟨bounded.behind, bounded.bounds⟩
  | joined after news joining ended =>
    obtain ⟨-, -, rfl, -⟩ := sound.endClose_eq ended
    exact ⟨bounded.behind, fun address stream found => absurd found (by simp)⟩
  | lost input after news lost => exact absurd lost sound.not_lost

end Bounds

/-- A stream keeps the bounds it was opened with along every run that goes on from its start. -/
theorem bounded_of_run {wake : WakeHandle} {client opened later : RClient}
    {log news more : List ClientObs} {method : RString} {opts : CallOpts}
    {now readCap writeCap : Int} {id : Nat}
    (run : (clientMachine wake).Run Machine.Free client log)
    (taken : clientStep client (.streamStart method opts now readCap writeCap) =
      some (opened, news))
    (named : .started (.ok id) ∈ news)
    (on : ((clientMachine wake).startedAt opened).Run Machine.Free later more) :
    Bounded id readCap (sizeOfInteger writeCap) later := by
  have stepped : (clientMachine wake).step client
    (.streamStart method opts now readCap writeCap) = some (opened, news) := taken
  induction on with
  | start =>
    obtain ⟨rfl, -, rfl, -⟩ := id_of_streamStart taken named
    refine ⟨Nat.lt_succ_self _, fun address stream found object => ?_⟩
    change AList.lookup client.nextId
      (client.streams.insert client.nextId client.streamArena.size) = some address at found
    rw [AList.lookup_insert] at found
    obtain rfl := Option.some.inj found
    change ((client.streamArena.push _).cell client.streamArena.size).object = some stream at object
    rw [Arena.cell_push_self] at object
    obtain rfl := Option.some.inj object
    exact ⟨rfl, rfl⟩
  | next before _ step inductionHypothesis =>
    exact inductionHypothesis.step (sound_of_run ((run.next trivial stepped).trans before)) step

/-! ### A paused stream resumes -/

/-- A stream that could read and has no Read outstanding. -/
structure Idle (client : RClient) (address : Nat) (stream : StreamState) : Prop where
  running : client.shutting = false
  started : stream.started = true
  open_ : stream.readsClosed = false
  sane : stream.broken = false
  unfinished : stream.finishPosted = false
  idle : .read ∉ (client.streamArena.cell address).tags

/-- Every poll that returns a message of the stream posts a Read on it. -/
def Resumes (client : RClient) (id address : Nat) : Prop :=
  ∀ input args after news batch value, client.pollArgs input = some args →
    clientStep client input = some (after, news) → .polled batch value ∈ news →
    (∃ event ∈ batch, event.messageOf id = true) → .stream address (.posted .read) ∈ news

/-- A message taken from a stream that is idle and has room posts a Read. -/
theorem takeMessage_posts {stream : StreamState} (started : stream.started = true)
    (open_ : stream.readsClosed = false) (sane : stream.broken = false)
    (unfinished : stream.finishPosted = false) (idle : stream.readInflight = false)
    (room : stream.unread - 1 < stream.readCap) :
    (takeMessage false stream).2 = [.taken, .posted .read] := by
  unfold takeMessage andThen sPostReadLocked
  simp [room, started, open_, sane, unfinished, idle]

section Resuming

variable {client : RClient} {log : List ClientObs} {id address : Nat} {stream : StreamState}

/-- Whether a Read is outstanding is what the stream says. -/
theorem Ledger.read_mem_iff {tags : List TagKind} {log : List StreamObs}
    (ledger : Ledger stream tags log) : .read ∉ tags ↔ stream.readInflight = false := by
  rw [mem_iff_flag ledger.read, Bool.not_eq_true]

/-- As long as a poll took no message of a stream it left the stream alone; the first one it takes
posts a Read on an idle stream with room. -/
theorem posted_pollTake (sound : Sound client log)
    (found : client.streams.lookup id = some address)
    (object : (client.streamArena.cell address).object = some stream)
    (idle : Idle client address stream) (room : stream.unread - 1 < stream.readCap)
    (args : PollArgs) {event : ClEvent}
    (member : event ∈ (takeLoop (fun event : ClEvent => args.wants event.id) RClient.account
      args.maxEvents client.ready 0 client).batch)
    (message : event.messageOf id = true) :
    .stream address (.posted .read) ∈ (client.pollTake args).2 := by
  obtain ⟨stream', object', named, -⟩ := sound.streamTable id address found
  obtain rfl := Option.some.inj (object.symm.trans object')
  have quiet := (sound.ledger_of_found found object).read_mem_iff.mp idle.idle
  have loop := @takeLoop_queue_invariant _ _ _ (fun event : ClEvent => args.wants event.id)
    RClient.account args.maxEvents
    (fun state log queue => state.streams = client.streams ∧ state.shutting = client.shutting ∧
      ((state.streamArena.cell address = client.streamArena.cell address ∧
          queue.countP (ClEvent.messageOf id) = client.undelivered id) ∨
        ClientObs.stream address (.posted .read) ∈ log))
    (fun state log skipped event rest _ ⟨streams, shutting, reached⟩ => by
      refine ⟨(account_tables state event).streams.trans streams,
        (account_shutting state event).trans shutting, ?_⟩
      rcases reached with ⟨cell, count⟩ | posted
      · cases own : event.messageOf id with
        | true =>
          refine Or.inr (List.mem_append_right _ ?_)
          simp only [ClEvent.messageOf, Bool.and_eq_true, beq_iff_eq] at own
          rw [RClient.account, if_pos (beq_iff_eq.mpr own.1), streams, own.2, found]
          simp only
          rw [cell, object, shutting, idle.running]
          simp only
          rw [takeMessage_posts idle.started idle.open_ idle.sane idle.unfinished quiet room]
          exact List.mem_cons_of_mem _ List.mem_cons_self
        | false =>
          refine Or.inl ⟨?_, ?_⟩
          · rw [← cell]
            refine cell_account_of_ne state event fun smsg found' => ?_
            rw [streams] at found'
            obtain ⟨stream', object', named', -⟩ := sound.streamTable event.id address found'
            obtain rfl := Option.some.inj (object.symm.trans object')
            rw [ClEvent.messageOf, smsg, ← named', named] at own
            exact absurd own (by simp)
          · rw [← count, List.countP_append, List.countP_append, List.countP_cons, own]
            simp
      · exact Or.inr (List.mem_append_left _ posted))
    client.ready 0 client [] [] ⟨rfl, rfl, Or.inl ⟨rfl, rfl⟩⟩
  rcases loop.2.2 with ⟨-, count⟩ | posted
  · have whole := (takeLoop_perm (fun event : ClEvent => args.wants event.id) RClient.account
      args.maxEvents client.ready 0 client).countP_eq (ClEvent.messageOf id)
    have some : 0 < (takeLoop (fun event : ClEvent => args.wants event.id) RClient.account
        args.maxEvents client.ready 0 client).batch.countP (ClEvent.messageOf id) :=
      List.countP_pos_iff.mpr ⟨event, member, message⟩
    rw [List.countP_append] at whole
    rw [List.nil_append, RClient.undelivered] at count
    omega
  · rw [List.nil_append] at posted
    exact List.mem_append_left _ posted

theorem resumes_of_idle (sound : Sound client log)
    (found : client.streams.lookup id = some address)
    (object : (client.streamArena.cell address).object = some stream)
    (idle : Idle client address stream) (room : stream.unread - 1 < stream.readCap) :
    Resumes client id address := by
  intro input args after news batch value asked taken polled ⟨event, member, message⟩
  rcases pollStep_clientStep asked taken with ⟨wake, ended⟩ | ⟨-, silent⟩
  · obtain ⟨rfl, rfl⟩ := Prod.mk.inj ended
    rw [(polled_mem_pollTake polled).1] at member
    have still : Sound ({ client with wake } : RClient) log :=
      sound.idle wake client.ready client.rthread fun _ => rfl
    have quiet : Idle ({ client with wake } : RClient) address stream := { idle with }
    exact posted_pollTake still found object quiet room args member message
  · exact absurd polled (silent batch value)

end Resuming

/-- The flow control of a stream between two steps, for a bound on its messages: its count is the
number of its messages in the queue, with the Read outstanding they fit the bound, a stream that
can read pauses exactly when they reach it, and a poll that takes one resumes it. -/
structure FlowControlled (client : RClient) (id address : Nat) (stream : StreamState)
    (bound : Int) : Prop where
  counted : stream.unread = client.undelivered id
  nonneg : 0 ≤ stream.unread
  bounded : stream.unread + (client.streamArena.cell address).tags.count .read ≤ bound
  paused : client.shutting = false → stream.started = true → stream.readsClosed = false →
    stream.broken = false → stream.finishPosted = false →
    (.read ∉ (client.streamArena.cell address).tags ↔ stream.unread = bound)
  resumes : Idle client address stream → Resumes client id address

section FlowControl

variable {client : RClient} {log : List ClientObs} {id address : Nat} {stream : StreamState}

theorem Sound.engaged (sound : Sound client log)
    (object : (client.streamArena.cell address).object = some stream) :
    Engaged client.shutting stream :=
  engaged_of_run (sound.streams address (Arena.lt_size_of_object object)) object

theorem Sound.flowControlled (sound : Sound client log) (tallied : Tallied client client.ready)
    (found : client.streams.lookup id = some address)
    (object : (client.streamArena.cell address).object = some stream)
    (bound : 1 ≤ stream.readCap) :
    FlowControlled client id address stream stream.readCap := by
  have engaged := sound.engaged object
  have ledger := sound.ledger_of_found found object
  have counted := tallied.counted id address stream found object
  have fits := engaged.bounded bound
  refine ⟨counted, by rw [counted]; exact Int.natCast_nonneg _, ?_,
    fun running started open_ sane unfinished => ?_, fun idle => ?_⟩
  · rw [ledger.read]
    split at fits
    · rename_i inflight
      rw [if_pos inflight]
      exact fits
    · rename_i inflight
      rw [if_neg inflight]
      exact fits
  · rw [ledger.read_mem_iff]
    exact engaged.paused bound running started open_ sane unfinished
  · refine resumes_of_idle sound found object idle ?_
    split at fits <;> omega

end FlowControl

/-- However the completions of a stream and the polls of R interleave, a stream opened with room for
at least one message keeps to its bound, pauses exactly when it reached it, and resumes when R takes
a message. -/
theorem inbound_bounded (wake : WakeHandle) (client : RClient) (log : List ClientObs)
    (run : (clientMachine wake).Run Machine.Free client log) (method : RString) (opts : CallOpts)
    (now readCap writeCap : Int) (room : 1 ≤ readCap) (opened : RClient) (news : List ClientObs)
    (id : Nat)
    (taken : clientStep client (.streamStart method opts now readCap writeCap) =
      some (opened, news))
    (named : .started (.ok id) ∈ news) (later : RClient) (more : List ClientObs)
    (on : ((clientMachine wake).startedAt opened).Run Machine.Free later more) (address : Nat)
    (stream : StreamState) (found : later.streams.lookup id = some address)
    (object : (later.streamArena.cell address).object = some stream) :
    FlowControlled later id address stream readCap := by
  have stepped : (clientMachine wake).step client
    (.streamStart method opts now readCap writeCap) = some (opened, news) := taken
  have whole := (run.next trivial stepped).trans on
  have same := ((bounded_of_run run taken named on).bounds address stream found object).1
  have controlled := (sound_of_run whole).flowControlled (tallied_of_run whole) found object
    (by rw [same]; exact room)
  rw [same] at controlled
  exact controlled

/-- A stream with room for two messages that is paused on a full window. -/
def pausedInputs : List ClientInput :=
  [.returned 0 .start { ok := true },
    .returned 0 .read { ok := true, message := .ofRaw [1] },
    .returned 0 .read { ok := true, message := .ofRaw [2] }]

theorem inbound_bounded_paused : ∃ opened news later more address stream,
    clientStep { wake := ⟨16, 0⟩ } (.streamStart (.text [47]) {} 0 2 16) = some (opened, news) ∧
      ((clientMachine ⟨16, 0⟩).startedAt opened).Run Machine.Free later more ∧
      later.streams.lookup 1 = some address ∧
      (later.streamArena.cell address).object = some stream ∧ stream.unread = 2 ∧
      (later.streamArena.cell address).tags = [] ∧ FlowControlled later 1 address stream 2 := by
  have taken : clientStep { wake := ⟨16, 0⟩ } (.streamStart (.text [47]) {} 0 2 16) = some _ := rfl
  have on := Machine.run_of_exec (show ((clientMachine ⟨16, 0⟩).startedAt _).exec Machine.Free
    (RClient.withStream { wake := ⟨16, 0⟩ } 2 16) pausedInputs = some _ from rfl)
  exact ⟨_, _, _, _, _, _, taken, on, rfl, rfl, rfl, rfl,
    inbound_bounded ⟨16, 0⟩ _ _ .start _ _ _ _ _ (by decide) _ _ 1 taken
      (List.mem_cons_of_mem _ List.mem_cons_self) _ _ on _ _ rfl rfl⟩

end Rgrpc.Client
