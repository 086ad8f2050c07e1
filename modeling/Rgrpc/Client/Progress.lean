/-
This file says how a stream moves on when what it posted succeeds. As long as no
operation of a stream failed and its inbound direction is open, every completion
leaves it so. The upload of a stream counts what it still has to do to write
what waits in its queue, and a completion that makes it write takes more off than
what it writes is worth. When the inbound direction ends, the stream only waits
for what is still outstanding before it posts its finish.

It serves to drive a conversation to its end (`Rgrpc/Completion.lean`).
-/

import Rgrpc.Client.Ending
import Rgrpc.Client.Window

namespace Rgrpc.Client

open Library

/-! ### Streams on which nothing failed -/

/-- An open stream on which no operation failed and that is not to be finished, with room to
read. -/
structure Unharmed (stream : StreamState) : Prop where
  named : stream.id ≠ 0
  sane : stream.broken = false
  unended : stream.wantFinish = false
  unfinished : stream.finishPosted = false
  room : 1 ≤ stream.readCap

/-- What a stream still has to do to write what waits: a message is worth five steps, four of them
for whoever carries it on. -/
def StreamState.upload (stream : StreamState) : Nat :=
  5 * stream.unwritten.length + (if stream.writeInflight then 1 else 0) +
    if stream.started then 0 else 1

section Helpers

variable (shutting : Bool) {stream : StreamState}

/-- A stream that is not to be finished is not. -/
theorem sTryFinishLocked_of_unended (unended : stream.wantFinish = false) :
    sTryFinishLocked shutting stream = (stream, []) := by
  rcases sTryFinishLocked_cases shutting stream with same | ⟨-, -, wanted, -⟩
  · exact same
  · exact absurd (unended.symm.trans wanted) Bool.false_ne_true

theorem Unharmed.sPostReadLocked (unharmed : Unharmed stream) :
    Unharmed (sPostReadLocked shutting stream).1 := by
  rcases sPostReadLocked_cases shutting stream with same | ⟨-, -, -, -, -, -, same⟩ <;>
  · rw [same]
    exact { unharmed with }

theorem Unharmed.sPumpWritesLocked (unharmed : Unharmed stream) :
    Unharmed (sPumpWritesLocked shutting stream).1 := by
  rcases sPumpWritesLocked_cases shutting stream with
    same | ⟨-, -, -, -, -, ⟨front, rest, -, same⟩ | ⟨-, -, -, -, same⟩⟩ <;>
  · rw [same]
    exact { unharmed with }

variable (stream)

theorem upload_sPostReadLocked :
    (sPostReadLocked shutting stream).1.upload = stream.upload ∧
      written (sPostReadLocked shutting stream).2 = [] := by
  rcases sPostReadLocked_cases shutting stream with same | ⟨-, -, -, -, -, -, same⟩ <;>
  · rw [same]
    exact ⟨rfl, rfl⟩

/-- What the pump writes was waiting. -/
theorem upload_sPumpWritesLocked :
    (sPumpWritesLocked shutting stream).1.upload +
        4 * (written (sPumpWritesLocked shutting stream).2).length ≤ stream.upload := by
  rcases sPumpWritesLocked_cases shutting stream with
    same | ⟨-, -, -, -, idle, ⟨front, rest, queue, same⟩ | ⟨-, -, -, -, same⟩⟩
  · rw [same]
    exact Nat.le_refl _
  · have waiting : stream.unwritten.length = rest.length + 1 := by
      rw [StreamState.unwritten, idle, queue]
      rfl
    have left : StreamState.unwritten
        { stream with writeInflight := true, pending := stream.pending + 1 } = rest := by
      show stream.writeQueue.tail = rest
      rw [queue]
      rfl
    rw [same, StreamState.upload, StreamState.upload, left, waiting, idle]
    show 5 * rest.length + 1 + (if stream.started then 0 else 1) + 4 * 1 ≤
      5 * (rest.length + 1) + 0 + (if stream.started then 0 else 1)
    omega
  · rw [same]
    exact Nat.le_refl _

/-- A section that leaves a stream which is not to be finished ends where it was. -/
theorem andThen_sTryFinishLocked {left : StreamState × List StreamObs}
    (unended : left.1.wantFinish = false) :
    andThen left (sTryFinishLocked shutting) = left := by
  rw [andThen, sTryFinishLocked_of_unended shutting unended, List.append_nil]

end Helpers

/-! ### Completions that succeed -/

section Handlers

variable (shutting : Bool) {delivery : Delivery} {stream : StreamState}

/-- A start that succeeded starts to read, and to write what waits. -/
theorem Unharmed.runStart (unharmed : Unharmed stream) (ok : delivery.ok = true)
    (early : stream.started = false) :
    Unharmed (runStart shutting delivery stream).1 ∧
      (runStart shutting delivery stream).1.upload +
        4 * (written (runStart shutting delivery stream).2).length < stream.upload := by
  have begun : Unharmed { stream with started := true } := { unharmed with }
  have reads := begun.sPostReadLocked shutting
  have pumps := reads.sPumpWritesLocked shutting
  obtain ⟨kept, silent⟩ := upload_sPostReadLocked shutting { stream with started := true }
  have paid := upload_sPumpWritesLocked shutting
    (Client.sPostReadLocked shutting { stream with started := true }).1
  have one : StreamState.upload { stream with started := true } + 1 = stream.upload := by
    rw [StreamState.upload, StreamState.upload, early]
    rfl
  have equal : Client.runStart shutting delivery stream = andThen
      (Client.sPostReadLocked shutting { stream with started := true })
      (Client.sPumpWritesLocked shutting) := by
    rw [Client.runStart, if_pos ok]
    exact andThen_sTryFinishLocked shutting pumps.unended
  rw [equal]
  refine ⟨pumps, ?_⟩
  rw [kept] at paid
  rw [andThen, written_append, silent, List.nil_append]
  exact Nat.lt_of_le_of_lt paid (Nat.lt_of_lt_of_le (Nat.lt_succ_self _) (Nat.le_of_eq one))

/-- A read that succeeded hands on its message, and the stream reads on while there is room. -/
theorem Unharmed.runRead (unharmed : Unharmed stream) (ok : delivery.ok = true) :
    Unharmed (runRead shutting delivery stream).1 ∧
      (runRead shutting delivery stream).1.upload = stream.upload ∧
      written (runRead shutting delivery stream).2 = [] := by
  let counted : StreamState :=
    { stream with
      readInflight := false, readBuf := delivery.message, unread := stream.unread + 1 }
  have counts : Unharmed counted := { unharmed with }
  obtain ⟨kept, silent⟩ := upload_sPostReadLocked shutting counted
  have reads : Unharmed (if counted.unread < counted.readCap then
        Client.sPostReadLocked shutting counted else (counted, [])).1 ∧
      (if counted.unread < counted.readCap then
        Client.sPostReadLocked shutting counted else (counted, [])).1.upload = stream.upload ∧
      written (if counted.unread < counted.readCap then
        Client.sPostReadLocked shutting counted else (counted, [])).2 = [] := by
    split
    · exact ⟨counts.sPostReadLocked shutting, kept, silent⟩
    · exact ⟨counts, rfl, rfl⟩
  have equal : Client.runRead shutting delivery stream = andThen
      (counted, [.pushed (smsgEvent { stream with
        readInflight := false, readBuf := delivery.message })])
      fun left => if left.unread < left.readCap then Client.sPostReadLocked shutting left
        else (left, []) := by
    rw [Client.runRead, if_pos (by rw [ok]; show (true && !stream.broken) = true
                                   rw [unharmed.sane]; rfl)]
    exact andThen_sTryFinishLocked shutting reads.1.unended
  rw [equal]
  exact reads

/-- A write that succeeded leaves the queue, and the next message that waits is written. -/
theorem Unharmed.runWrite (unharmed : Unharmed stream) (ok : delivery.ok = true)
    (inflight : stream.writeInflight = true) :
    Unharmed (runWrite shutting delivery stream).1 ∧
      (runWrite shutting delivery stream).1.upload +
        4 * (written (runWrite shutting delivery stream).2).length < stream.upload := by
  let popped : StreamState :=
    { stream with writeInflight := false, writeQueue := stream.writeQueue.tail }
  have pops : Unharmed popped := { unharmed with }
  have pumps := pops.sPumpWritesLocked shutting
  have paid := upload_sPumpWritesLocked shutting popped
  have one : popped.upload + 1 = stream.upload := by
    rw [StreamState.upload, StreamState.upload, StreamState.unwritten, StreamState.unwritten,
      inflight]
    show 5 * stream.writeQueue.tail.length + 0 + _ + 1 = 5 * stream.writeQueue.tail.length + 1 + _
    rw [Nat.add_zero, Nat.add_right_comm]
  have equal : Client.runWrite shutting delivery stream = andThen
      (popped, if popped.writeQueue.isEmpty then
        [.pushed { kind := .writable, id := stream.id }] else [])
      (Client.sPumpWritesLocked shutting) := by
    rw [Client.runWrite, if_pos (by rw [ok]; show (true && !stream.broken) = true
                                    rw [unharmed.sane]; rfl)]
    exact andThen_sTryFinishLocked shutting pumps.unended
  have silent (empty : Bool) : written (if empty then
      [StreamObs.pushed { kind := .writable, id := stream.id }] else []) = [] := by
    cases empty <;> rfl
  rw [equal]
  refine ⟨pumps, ?_⟩
  rw [andThen, written_append, silent, List.nil_append]
  exact Nat.lt_of_le_of_lt paid (Nat.lt_of_lt_of_le (Nat.lt_succ_self _) (Nat.le_of_eq one))

/-- A poll that takes a message lets the stream read on. -/
theorem Unharmed.takeMessage (unharmed : Unharmed stream) :
    Unharmed (takeMessage shutting stream).1 ∧
      (takeMessage shutting stream).1.upload = stream.upload ∧
      written (takeMessage shutting stream).2 = [] := by
  have counts : Unharmed { stream with unread := stream.unread - 1 } := { unharmed with }
  obtain ⟨kept, silent⟩ := upload_sPostReadLocked shutting
    { stream with unread := stream.unread - 1 }
  unfold Client.takeMessage andThen
  simp only
  split
  · exact ⟨counts.sPostReadLocked shutting, kept, silent⟩
  · exact ⟨counts, rfl, rfl⟩

end Handlers

/-! ### Steps of a stream on which nothing failed -/

/-- A stream that is there, on a client that is not shutting down, and on which nothing failed. -/
structure Alive (view : StreamView) (stream : StreamState) : Prop where
  object : view.cell.object = some stream
  running : view.shutting = false
  unharmed : Unharmed stream

/-- What the stream of a view still has to do to write what waits. -/
def StreamView.upload (view : StreamView) : Nat :=
  (view.cell.object.map StreamState.upload).getD 0

/-- How many messages of the stream of a view R has yet to collect. -/
def StreamView.unread (view : StreamView) : Nat :=
  (view.cell.object.map fun stream => stream.unread.toNat).getD 0

/-- A step that keeps a stream alive. It reads the given messages, and what it writes is paid for
by the upload. -/
structure Advances (view after : StreamView) (news : List StreamObs)
    (read : List (Option Bytes)) : Prop where
  alive : ∃ stream, Alive after stream
  arrived : arrived news = read
  failed : failed news = false
  upload : after.upload + 4 * (written news).length ≤ view.upload
  unread : after.unread ≤ view.unread + read.length

section Steps

variable {view : StreamView} {stream : StreamState} {log : List StreamObs}

theorem upload_of_object (object : view.cell.object = some stream) :
    view.upload = stream.upload := by
  rw [StreamView.upload, object]
  rfl

theorem unread_of_object (object : view.cell.object = some stream) :
    view.unread = stream.unread.toNat := by
  rw [StreamView.unread, object]
  rfl

theorem Alive.ledger (alive : Alive view stream) (run : streamMachine.Run Machine.Free view log) :
    Ledger stream view.cell.tags log := by
  cases phase_of_run run with
  | fresh cell silent =>
    have object := alive.object
    rw [cell] at object
    obtain rfl := Option.some.inj object
    exact absurd rfl alive.unharmed.named
  | live other same named ledger unended kept =>
    obtain rfl := Option.some.inj (alive.object.symm.trans same)
    exact ledger
  | gone cell deleted lawful =>
    have object := alive.object
    rw [cell] at object
    exact absurd object (by simp)

@[simp]
theorem promised_append (log more : List StreamObs) :
    promised (log ++ more) = promised log ++ promised more :=
  List.filterMap_append

/-- Where only operations are posted and events are pushed, nothing fails. -/
theorem failed_of_isAct {obs : List StreamObs} (acts : ∀ entry ∈ obs, entry.isAct = true) :
    failed obs = false := by
  rw [failed, List.any_eq_false]
  intro entry member
  have act := acts entry member
  cases entry with
  | returned other ok message => exact absurd act Bool.false_ne_true
  | _ => exact Bool.false_ne_true

theorem failed_takeMessage (shutting : Bool) (stream : StreamState) :
    failed (takeMessage shutting stream).2 = false := by
  show failed ([.taken] ++ (if _ then _ else _ : StreamState × List StreamObs).2) = false
  rw [failed_append]
  split
  · exact failed_of_isAct (isAct_sPostReadLocked _ _)
  · rfl

/-- What a handler that is not the last leaves of a stream that is there. -/
theorem returned_of_object (run : streamMachine.Run Machine.Free view log)
    (object : view.cell.object = some stream) {op : TagKind} (outstanding : op ∈ view.cell.tags)
    (more : op ≠ .finish) (delivery : Delivery) :
    ∃ after news, streamStep view (.returned op delivery) = some (after, news) ∧
      after.cell.object = some (runStream view.shutting op delivery stream).1 ∧
      after.shutting = view.shutting ∧
      arrived news =
        (if op == .read && delivery.ok then [grpcByteBufferToString delivery.message] else []) ∧
      failed news = (op == .write && !delivery.ok) ∧
      written news = written (runStream view.shutting op delivery stream).2 := by
  have kept := freed_runStream (phase_of_run run) outstanding object view.shutting delivery
  rw [beq_eq_false_iff_ne.mpr more] at kept
  have split : (handleTag view.shutting op delivery stream view.cell.tags).2 =
      [.returned op delivery.ok delivery.message] ++
        (runStream view.shutting op delivery stream).2 := by
    rw [handleTag]
    simp only [kept, Bool.false_eq_true, if_false, List.append_nil, List.singleton_append]
  refine ⟨{ view with cell := (handleTag view.shutting op delivery stream view.cell.tags).1 },
    (handleTag view.shutting op delivery stream view.cell.tags).2, ?_, ?_, rfl,
    (inbound_handleTag view.shutting op delivery stream view.cell.tags).2, ?_, ?_⟩
  · rw [streamStep, if_pos (List.contains_iff_mem.mpr outstanding), object]
    rfl
  · simp only [handleTag, kept, Bool.false_eq_true, if_false]
  · rw [split, failed_append, failed_of_isAct (isAct_runStream _ _ op delivery), Bool.or_false]
    cases op <;> cases delivery.ok <;> rfl
  · rw [split, written_append]
    rfl

/-- Only a read hands a message to R. -/
theorem countP_handlerEvents_le (op : TagKind) (delivery : Delivery) :
    (handlerEvents op delivery stream).countP (ClEvent.messageOf stream.id) ≤
      (if op == .read then [grpcByteBufferToString delivery.message] else []).length := by
  cases op with
  | read =>
    simp only [handlerEvents]
    split
    · exact List.countP_le_length
    · exact Nat.zero_le _
  | write =>
    simp only [handlerEvents]
    split <;> exact Nat.le_refl _
  | _ => exact Nat.le_refl _

/-- A handler that leaves a stream on which nothing failed advances it. -/
theorem Alive.returned (alive : Alive view stream) (run : streamMachine.Run Machine.Free view log)
    {op : TagKind} (outstanding : op ∈ view.cell.tags) (more : op ≠ .finish) {delivery : Delivery}
    (ok : delivery.ok = true)
    (kept : Unharmed (runStream view.shutting op delivery stream).1)
    (paid : (runStream view.shutting op delivery stream).1.upload +
      4 * (written (runStream view.shutting op delivery stream).2).length ≤ stream.upload) :
    ∃ after news, streamStep view (.returned op delivery) = some (after, news) ∧
      Advances view after news
        (if op == .read then [grpcByteBufferToString delivery.message] else []) ∧
      after.upload + 4 * (written news).length =
        (runStream view.shutting op delivery stream).1.upload +
          4 * (written (runStream view.shutting op delivery stream).2).length := by
  obtain ⟨after, news, taken, object, running, came, fine, wrote⟩ :=
    returned_of_object run alive.object outstanding more delivery
  rw [ok, Bool.and_true] at came
  rw [ok, Bool.not_true, Bool.and_false] at fine
  have same : after.upload + 4 * (written news).length =
      (runStream view.shutting op delivery stream).1.upload +
        4 * (written (runStream view.shutting op delivery stream).2).length := by
    rw [upload_of_object object, wrote]
  refine ⟨after, news, taken, ⟨⟨_, object, running.trans alive.running, kept⟩, came, fine, ?_, ?_⟩,
    same⟩
  · rw [same, upload_of_object alive.object]
    exact paid
  · have counts := (@counts_runStream view.shutting stream op delivery).unread
    have few := @countP_handlerEvents_le stream op delivery
    rw [unread_of_object object, unread_of_object alive.object]
    omega

/-- A stream with something left to write waits for its start or for a write. -/
theorem Alive.busy (alive : Alive view stream) (run : streamMachine.Run Machine.Free view log)
    (something : view.upload ≠ 0) :
    .start ∈ view.cell.tags ∨ stream.writeInflight = true := by
  cases started : stream.started with
  | false =>
    refine Or.inl (List.count_pos_iff.mp ?_)
    rw [(alive.ledger run).start, started]
    exact Nat.one_pos
  | true =>
    refine Or.inr ?_
    by_contra idle
    rw [Bool.not_eq_true] at idle
    have pumped := (lossless_of_run run).pumped stream alive.object
    have empty : stream.writeQueue = [] := by
      by_contra queued
      exact absurd (idle.symm.trans ((pumped alive.running started alive.unharmed.sane
        alive.unharmed.unfinished).1 queued)) Bool.false_ne_true
    refine something ?_
    rw [upload_of_object alive.object, StreamState.upload, StreamState.unwritten, idle, started,
      empty]
    rfl

/-- A stream that does not read although it could waits for R to collect its messages. -/
theorem Alive.unread_pos (alive : Alive view stream)
    (run : streamMachine.Run Machine.Free view log) (started : stream.started = true)
    (idle : stream.readInflight = false) : 0 < stream.unread := by
  have engaged := engaged_of_run run alive.object
  have open_ : stream.readsClosed = false := by
    by_contra closed
    rw [Bool.not_eq_false] at closed
    exact absurd (alive.unharmed.unended.symm.trans (engaged.ending (Or.inl closed)))
      Bool.false_ne_true
  have full := (engaged.paused alive.unharmed.room alive.running started open_
    alive.unharmed.sane alive.unharmed.unfinished).mp idle
  have room := alive.unharmed.room
  omega

/-- A start that comes back with `ok`. -/
theorem Alive.start (alive : Alive view stream) (run : streamMachine.Run Machine.Free view log)
    (outstanding : .start ∈ view.cell.tags) :
    ∃ after news, streamStep view (.returned .start { ok := true }) = some (after, news) ∧
      Advances view after news [] ∧ after.upload + 4 * (written news).length < view.upload := by
  have counted : Unharmed { stream with pending := stream.pending - 1 } := { alive.unharmed with }
  have ok : (Delivery.ok { ok := true }) = true := rfl
  obtain ⟨kept, paid⟩ := counted.runStart view.shutting ok
    ((alive.ledger run).started_of_start outstanding)
  obtain ⟨after, news, taken, advances, same⟩ :=
    alive.returned run outstanding (by simp) rfl kept (Nat.le_of_lt paid)
  refine ⟨after, news, taken, advances, ?_⟩
  rw [same, upload_of_object alive.object]
  exact paid

/-- A write that comes back with `ok`. -/
theorem Alive.write (alive : Alive view stream) (run : streamMachine.Run Machine.Free view log)
    (inflight : stream.writeInflight = true) :
    ∃ after news, streamStep view (.returned .write { ok := true }) = some (after, news) ∧
      Advances view after news [] ∧ after.upload + 4 * (written news).length < view.upload := by
  have outstanding := (mem_iff_flag (alive.ledger run).write).mpr inflight
  have counted : Unharmed { stream with pending := stream.pending - 1 } := { alive.unharmed with }
  have ok : (Delivery.ok { ok := true }) = true := rfl
  obtain ⟨kept, paid⟩ := counted.runWrite view.shutting ok inflight
  obtain ⟨after, news, taken, advances, same⟩ :=
    alive.returned run outstanding (by simp) rfl kept (Nat.le_of_lt paid)
  refine ⟨after, news, taken, advances, ?_⟩
  rw [same, upload_of_object alive.object]
  exact paid

/-- A read that comes back with a message. -/
theorem Alive.read (alive : Alive view stream) (run : streamMachine.Run Machine.Free view log)
    (inflight : stream.readInflight = true) (message : ByteBuffer) :
    ∃ after news, streamStep view (.returned .read { ok := true, message := message }) =
        some (after, news) ∧
      Advances view after news [grpcByteBufferToString message] := by
  have outstanding := (mem_iff_flag (alive.ledger run).read).mpr inflight
  have counted : Unharmed { stream with pending := stream.pending - 1 } := { alive.unharmed with }
  have ok : (Delivery.ok { ok := true, message := message }) = true := rfl
  obtain ⟨kept, paid, silent⟩ := counted.runRead view.shutting ok
  obtain ⟨after, news, taken, advances, -⟩ :=
    alive.returned run outstanding (by simp) rfl kept (by
      rw [runStream, silent, paid]
      exact Nat.le_refl _)
  exact ⟨after, news, taken, advances⟩

/-- A poll that takes a message of a stream that R has messages of yet to collect. -/
theorem Alive.taken (alive : Alive view stream) (waiting : 0 < stream.unread) :
    ∃ after news, streamStep view .taken = some (after, news) ∧ Advances view after news [] ∧
      after.unread < view.unread := by
  obtain ⟨kept, paid, silent⟩ := alive.unharmed.takeMessage view.shutting
  have counts := (counts_takeMessage view.shutting stream).unread
  let after : StreamView :=
    { view with cell := sectionCell (takeMessage view.shutting stream) view.cell.tags }
  have object : after.cell.object = some (takeMessage view.shutting stream).1 := rfl
  have lower : after.unread < view.unread := by
    rw [unread_of_object object, unread_of_object alive.object]
    omega
  refine ⟨after, (takeMessage view.shutting stream).2, ?_, ⟨⟨_, object, alive.running, kept⟩,
    (pushes_takeMessage view.shutting stream).arrived, failed_takeMessage _ _, ?_,
    Nat.le_of_lt lower⟩, lower⟩
  · rw [streamStep, alive.object]
    simp [alive.unharmed.named, after]
  · rw [silent, upload_of_object object, paid, upload_of_object alive.object]
    exact Nat.le_refl _

end Steps

/-! ### The end of a stream on which nothing failed -/

/-- A stream that was read to its end and has written everything: all it has left to do is the
half-close and the finish. -/
structure Ends (stream : StreamState) : Prop where
  named : stream.id ≠ 0
  sane : stream.broken = false
  started : stream.started = true
  wanted : stream.wantFinish = true
  read : stream.readInflight = false
  idle : stream.writeInflight = false

theorem Ends.sTryFinishLocked (shutting : Bool) {stream : StreamState} (ends : Ends stream) :
    Ends (sTryFinishLocked shutting stream).1 ∧
      (sTryFinishLocked shutting stream).1.wdoneInflight = stream.wdoneInflight ∧
      written (sTryFinishLocked shutting stream).2 = [] := by
  rcases sTryFinishLocked_cases shutting stream with same | ⟨-, -, -, -, -, -, -, same⟩ <;>
  · rw [same]
    exact ⟨{ ends with }, rfl, rfl⟩

section Ending

variable {view : StreamView} {stream : StreamState} {log : List StreamObs}

/-- A stream that has nothing left to write was started and has no write outstanding. -/
theorem flushed_of_upload (nothing : stream.upload = 0) :
    stream.started = true ∧ stream.writeInflight = false ∧ stream.unwritten = [] := by
  rw [StreamState.upload] at nothing
  refine ⟨?_, ?_, List.length_eq_zero_iff.mp (by omega)⟩
  · by_contra early
    rw [if_neg early] at nothing
    omega
  · by_contra inflight
    rw [Bool.not_eq_false] at inflight
    rw [if_pos inflight] at nothing
    omega

/-- When a stream that has nothing left to write is read to its end, it ends. -/
theorem Alive.ends (alive : Alive view stream) (run : streamMachine.Run Machine.Free view log)
    (nothing : stream.upload = 0) (inflight : stream.readInflight = true) :
    ∃ after news left, streamStep view (.returned .read { ok := false }) = some (after, news) ∧
      after.cell.object = some left ∧ after.shutting = false ∧ Ends left ∧ arrived news = [] ∧
      failed news = false ∧ written news = [] := by
  have outstanding := (mem_iff_flag (alive.ledger run).read).mpr inflight
  obtain ⟨after, news, taken, object, running, came, fine, wrote⟩ :=
    returned_of_object run alive.object outstanding (by simp) { ok := false }
  obtain ⟨started, idle, -⟩ := flushed_of_upload nothing
  have closed : Ends
      { stream with
        pending := stream.pending - 1, readInflight := false, readBuf := .unset
        readsClosed := true, wantFinish := true } :=
    ⟨alive.unharmed.named, alive.unharmed.sane, started, rfl, rfl, idle⟩
  obtain ⟨ends, -, silent⟩ := closed.sTryFinishLocked view.shutting
  exact ⟨after, news, _, taken, object, running.trans alive.running, ends, came, fine,
    wrote.trans silent⟩

/-- The half-close of a stream that ends. -/
theorem Ends.wdone (run : streamMachine.Run Machine.Free view log)
    (object : view.cell.object = some stream) (running : view.shutting = false)
    (ends : Ends stream) (outstanding : .wdone ∈ view.cell.tags) :
    ∃ after news left, streamStep view (.returned .wdone { ok := true }) = some (after, news) ∧
      after.cell.object = some left ∧ after.shutting = false ∧ Ends left ∧
      left.wdoneInflight = false ∧ arrived news = [] ∧ failed news = false ∧
      written news = [] := by
  obtain ⟨after, news, taken, kept, still, came, fine, wrote⟩ :=
    returned_of_object run object outstanding (by simp) { ok := true }
  have closed : Ends
      { stream with
        pending := stream.pending - 1, wdoneInflight := false, wdoneSent := true } :=
    { ends with }
  obtain ⟨ending, same, silent⟩ := closed.sTryFinishLocked view.shutting
  exact ⟨after, news, _, taken, kept, still.trans running, ending, same, came, fine,
    wrote.trans silent⟩

/-- A stream that ends waits for its half-close, or its finish was posted. -/
theorem Ends.waits (run : streamMachine.Run Machine.Free view log)
    (object : view.cell.object = some stream) (running : view.shutting = false)
    (ends : Ends stream) : stream.wdoneInflight = true ∧ .wdone ∈ view.cell.tags ∨
      .finish ∈ view.cell.tags := by
  cases phase_of_run run with
  | fresh cell silent =>
    rw [cell] at object
    obtain rfl := Option.some.inj object
    exact absurd rfl ends.named
  | live other same named ledger unended kept =>
    obtain rfl := Option.some.inj (object.symm.trans same)
    cases posted : stream.finishPosted with
    | true =>
      refine Or.inr ((mem_iff_flag ledger.finish).mpr ?_)
      rw [posted, unended]
      rfl
    | false =>
      have waits := (engaged_of_run run object).waits running ends.started ends.wanted posted
      rw [ends.read, ends.idle, Bool.false_or, Bool.false_or] at waits
      exact Or.inl ⟨waits, (mem_iff_flag ledger.wdone).mpr waits⟩
  | gone cell deleted lawful =>
    rw [cell] at object
    exact absurd object (by simp)

/-- When `Finish` comes back, R is told the status that came with it. -/
theorem reports_of_finish (run : streamMachine.Run Machine.Free view log)
    (outstanding : .finish ∈ view.cell.tags) (delivery : Delivery) :
    ∃ after news event, streamStep view (.returned .finish delivery) = some (after, news) ∧
      .pushed event ∈ news ∧ event.kind = .status ∧ Reports event delivery ∧ arrived news = [] ∧
      failed news = false ∧ written news = [] ∧ broke news = false := by
  obtain ⟨stream, object, ledger, -⟩ := (phase_of_run run).ledger_of_mem outstanding
  have gone := freed_finish ledger outstanding view.shutting delivery
  let event : ClEvent :=
    { kind := .status, id := stream.id, status := delivery.status.code
      message := delivery.status.message, initialMd := delivery.initialMd
      trailingMd := delivery.trailingMd }
  have news : (handleTag view.shutting .finish delivery stream view.cell.tags).2 =
      [.returned .finish delivery.ok delivery.message, .pushed event, .deleted] := by
    rw [handleTag]
    simp only [gone, if_true]
    rfl
  refine ⟨{ view with cell := (handleTag view.shutting .finish delivery stream view.cell.tags).1 },
    [.returned .finish delivery.ok delivery.message, .pushed event, .deleted], event, ?_,
    List.mem_cons_of_mem _ List.mem_cons_self, rfl, ⟨rfl, rfl, rfl⟩, rfl, rfl, rfl, rfl⟩
  rw [streamStep, if_pos (List.contains_iff_mem.mpr outstanding), object]
  exact congrArg some (Prod.ext rfl news)

end Ending

end Rgrpc.Client
