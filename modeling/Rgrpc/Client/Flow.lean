/-
This file proves in which order messages flow through a client stream. Outbound,
as `Rgrpc/Server/Output.lean` proves for a server call, the messages passed to
`Write` are, in order, the messages R sent, and nothing is written once a write
failed. Inbound, the messages handed to R are a prefix of those that arrived:
what is dropped on a broken stream is dropped at the end.
-/

import Rgrpc.Client.Inbound

namespace Rgrpc.Client

open Library

/-! ### What a log says was sent and written -/

/-- The messages passed to `Write`, in order. -/
def written (log : List StreamObs) : List ByteBuffer :=
  log.filterMap fun
    | .posted (.write message) => some message
    | _ => none

/-- The messages of the sends that were accepted, in order. -/
def sent (log : List StreamObs) : List ByteBuffer :=
  log.filterMap fun
    | .accepted (.send bytes) => some (.ofRaw bytes)
    | _ => none

/-- The messages of the sends that were accepted, as R passed them. -/
def promised (log : List StreamObs) : List Bytes :=
  log.filterMap fun
    | .accepted (.send bytes) => some bytes
    | _ => none

theorem sent_eq (log : List StreamObs) : sent log = (promised log).map .ofRaw := by
  rw [sent, promised, List.map_filterMap]
  congr 1
  funext entry
  rcases entry with _ | _ | _ | (_ | _) | _ | _ <;> rfl

/-- Whether a write came back without `ok`. -/
def failed (log : List StreamObs) : Bool :=
  log.any fun
    | .returned .write false _ => true
    | _ => false

section Projections

variable (log more : List StreamObs)

@[simp]
theorem written_append : written (log ++ more) = written log ++ written more :=
  List.filterMap_append

@[simp]
theorem sent_append : sent (log ++ more) = sent log ++ sent more :=
  List.filterMap_append

@[simp]
theorem failed_append : failed (log ++ more) = (failed log || failed more) :=
  List.any_append

end Projections

/-- Observations in which nothing is sent or written and no write fails. -/
structure Mute (obs : List StreamObs) : Prop where
  written : written obs = []
  sent : sent obs = []
  failed : failed obs = false

/-! ### The output of a stream -/

/-- The messages a stream has queued and not yet passed to `Write`. -/
def StreamState.unwritten (stream : StreamState) : List ByteBuffer :=
  if stream.writeInflight then stream.writeQueue.tail else stream.writeQueue

/-- The output of a stream against its log: what was written is a prefix of what was sent; while
the stream is not broken, what waits unwritten completes it; a failed write breaks the stream. -/
structure Outbound (stream : StreamState) (log : List StreamObs) : Prop where
  inOrder : written log <+: sent log
  whole : stream.broken = false → written log ++ stream.unwritten = sent log
  failing : failed log = true → stream.broken = true

theorem Outbound.note {stream : StreamState} {log : List StreamObs}
    (outbound : Outbound stream log) {obs : List StreamObs} (mute : Mute obs) :
    Outbound stream (log ++ obs) := by
  refine ⟨?_, ?_, ?_⟩
  · rw [written_append, sent_append, mute.written, mute.sent, List.append_nil, List.append_nil]
    exact outbound.inOrder
  · rw [written_append, sent_append, mute.written, mute.sent, List.append_nil, List.append_nil]
    exact outbound.whole
  · rw [failed_append, mute.failed, Bool.or_false]
    exact outbound.failing

/-- A stream may change in what its output does not depend on, and it may break. -/
theorem Outbound.change {stream other : StreamState} {log : List StreamObs}
    (outbound : Outbound stream log)
    (kept : other.broken = false → stream.broken = false ∧ other.unwritten = stream.unwritten) :
    Outbound other log := by
  refine ⟨outbound.inOrder, fun sane => ?_, fun failing => ?_⟩
  · rw [(kept sane).2]
    exact outbound.whole (kept sane).1
  · by_contra sane
    rw [Bool.not_eq_true] at sane
    exact absurd ((kept sane).1.symm.trans (outbound.failing failing)) Bool.false_ne_true

/-- The output after a section: it only wrote if it left the stream unbroken. -/
structure Outbound.After (left : StreamState × List StreamObs) (log : List StreamObs) : Prop where
  outbound : Outbound left.1 (log ++ left.2)
  sane : written left.2 ≠ [] → left.1.broken = false

theorem Outbound.after_mute {stream : StreamState} {log obs : List StreamObs}
    (outbound : Outbound stream log) (mute : Mute obs) : Outbound.After (stream, obs) log :=
  ⟨outbound.note mute, fun wrote => absurd mute.written wrote⟩

theorem Outbound.after_nil {stream : StreamState} {log : List StreamObs}
    (outbound : Outbound stream log) : Outbound.After (stream, []) log :=
  outbound.after_mute ⟨rfl, rfl, rfl⟩

theorem Outbound.andThen {first : StreamState × List StreamObs}
    {next : StreamState → StreamState × List StreamObs} {log : List StreamObs}
    (before : Outbound.After first log)
    (keeps : ∀ {log}, Outbound first.1 log → Outbound.After (next first.1) log)
    (same : (next first.1).1.broken = first.1.broken) :
    Outbound.After (andThen first next) log := by
  have after := keeps before.outbound
  refine ⟨?_, fun wrote => ?_⟩
  · have whole := after.outbound
    rw [List.append_assoc] at whole
    exact whole
  · change written (first.2 ++ (next first.1).2) ≠ [] at wrote
    rw [written_append] at wrote
    by_cases early : written first.2 = []
    · rw [early, List.nil_append] at wrote
      exact after.sane wrote
    · exact same.trans (before.sane early)

/-! ### The helpers -/

section Helpers

variable {stream : StreamState} {log : List StreamObs} (outbound : Outbound stream log)
  (shutting : Bool)

include outbound

theorem Outbound.sPostReadLocked : Outbound.After (sPostReadLocked shutting stream) log := by
  rcases sPostReadLocked_cases shutting stream with same | ⟨-, -, -, -, -, -, same⟩
  · rw [same]
    exact outbound.after_nil
  · rw [same]
    refine Outbound.after_mute (outbound.change fun sane => ⟨sane, rfl⟩) ?_
    exact ⟨rfl, rfl, rfl⟩

theorem Outbound.sTryFinishLocked : Outbound.After (sTryFinishLocked shutting stream) log := by
  rcases sTryFinishLocked_cases shutting stream with same | ⟨-, -, -, -, -, -, -, same⟩
  · rw [same]
    exact outbound.after_nil
  · rw [same]
    refine Outbound.after_mute (outbound.change fun sane => ⟨sane, rfl⟩) ?_
    exact ⟨rfl, rfl, rfl⟩

/-- The pump writes the next message that waits. -/
theorem Outbound.sPumpWritesLocked : Outbound.After (sPumpWritesLocked shutting stream) log := by
  rcases sPumpWritesLocked_cases shutting stream with
    same | ⟨-, -, sane, -, idle, ⟨front, rest, queue, same⟩ | ⟨-, -, -, -, same⟩⟩
  · rw [same]
    exact outbound.after_nil
  · have waiting : stream.unwritten = front :: rest := by
      rw [StreamState.unwritten, idle, queue]
      rfl
    have left : StreamState.unwritten
        { stream with writeInflight := true, pending := stream.pending + 1 } = rest := by
      show stream.writeQueue.tail = rest
      rw [queue]
      rfl
    have whole := outbound.whole sane
    rw [waiting] at whole
    have sentSame : sent (log ++ [.posted (.write front)]) = sent log := by
      simp [sent]
    have writtenMore : written (log ++ [.posted (.write front)]) = written log ++ [front] := by
      simp [written]
    have failedSame : failed (log ++ [.posted (.write front)]) = failed log := by
      simp [failed]
    rw [same]
    refine ⟨⟨?_, fun _ => ?_, ?_⟩, fun _ => sane⟩
    · rw [writtenMore, sentSame, ← whole]
      exact ⟨rest, by simp⟩
    · rw [writtenMore, sentSame, left, ← whole, List.append_assoc]
      rfl
    · rw [failedSame]
      exact outbound.failing
  · rw [same]
    refine Outbound.after_mute (outbound.change fun sane => ⟨sane, rfl⟩) ?_
    exact ⟨rfl, rfl, rfl⟩

end Helpers

section Broken

variable (shutting : Bool) (stream : StreamState)

theorem broken_sPostReadLocked : (sPostReadLocked shutting stream).1.broken = stream.broken := by
  rcases sPostReadLocked_cases shutting stream with same | ⟨-, -, -, -, -, -, same⟩ <;> rw [same]

theorem broken_sPumpWritesLocked :
    (sPumpWritesLocked shutting stream).1.broken = stream.broken := by
  rcases sPumpWritesLocked_cases shutting stream with
    same | ⟨-, -, -, -, -, ⟨front, rest, -, same⟩ | ⟨-, -, -, -, same⟩⟩ <;> rw [same]

theorem broken_sTryFinishLocked :
    (sTryFinishLocked shutting stream).1.broken = stream.broken := by
  rcases sTryFinishLocked_cases shutting stream with
    same | ⟨-, -, -, -, -, -, -, same⟩ <;> rw [same]

end Broken

/-! ### Handlers -/

section Handlers

variable {stream : StreamState} {log : List StreamObs} (outbound : Outbound stream log)
  (shutting : Bool) (delivery : Delivery)

include outbound

theorem Outbound.runStart : Outbound.After (runStart shutting delivery stream) log := by
  unfold Client.runStart
  refine Outbound.andThen ?_ (fun before => before.sTryFinishLocked shutting)
    (broken_sTryFinishLocked _ _)
  split
  · refine Outbound.andThen ?_ (fun before => before.sPumpWritesLocked shutting)
      (broken_sPumpWritesLocked _ _)
    refine Outbound.sPostReadLocked (outbound.change ?_) shutting
    exact fun sane => ⟨sane, rfl⟩
  · refine Outbound.after_nil (outbound.change fun sane => ?_)
    exact absurd sane.symm Bool.false_ne_true

theorem Outbound.runRead : Outbound.After (runRead shutting delivery stream) log := by
  unfold Client.runRead
  refine Outbound.andThen ?_ (fun before => before.sTryFinishLocked shutting)
    (broken_sTryFinishLocked _ _)
  split
  · refine Outbound.andThen ?_ (fun before => ?_) ?_
    · refine Outbound.after_mute (outbound.change fun sane => ⟨sane, rfl⟩) ?_
      exact ⟨rfl, rfl, rfl⟩
    · split
      · exact before.sPostReadLocked shutting
      · exact before.after_nil
    · split
      · exact broken_sPostReadLocked _ _
      · rfl
  · exact Outbound.after_nil (outbound.change fun sane => ⟨sane, rfl⟩)

theorem Outbound.runWdone : Outbound.After (runWdone shutting delivery stream) log := by
  unfold Client.runWdone
  refine Outbound.sTryFinishLocked (outbound.change fun sane => ?_) shutting
  split at sane
  · rename_i ok
    simp only [ok, if_true]
    exact ⟨sane, rfl⟩
  · exact absurd sane.symm Bool.false_ne_true

theorem Outbound.runFinish : Outbound.After (runFinish delivery stream) log := by
  unfold Client.runFinish
  refine Outbound.after_mute (outbound.change fun sane => ⟨sane, rfl⟩) ?_
  exact ⟨rfl, rfl, rfl⟩

end Handlers

/-- The handler of a write that succeeded drops it from the queue and writes the next; one of a
write that failed breaks the stream. -/
theorem Outbound.runWrite {stream : StreamState} {log : List StreamObs}
    (outbound : Outbound stream log) (shutting : Bool) (delivery : Delivery)
    (inflight : stream.writeInflight = true) :
    Outbound.After (runWrite shutting delivery stream)
      (log ++ [.returned .write delivery.ok delivery.message]) := by
  unfold Client.runWrite
  refine Outbound.andThen ?_ (fun before => before.sTryFinishLocked shutting)
    (broken_sTryFinishLocked _ _)
  simp only
  split
  · rename_i succeeded
    rw [Bool.and_eq_true] at succeeded
    have returned : Outbound stream (log ++ [.returned .write delivery.ok delivery.message]) := by
      rw [succeeded.1]
      exact outbound.note ⟨rfl, rfl, rfl⟩
    refine Outbound.andThen ?_ (fun before => before.sPumpWritesLocked shutting)
      (broken_sPumpWritesLocked _ _)
    have popped : Outbound
        { stream with writeInflight := false, writeQueue := stream.writeQueue.tail }
        (log ++ [.returned .write delivery.ok delivery.message]) := by
      refine returned.change fun sane => ⟨sane, ?_⟩
      rw [StreamState.unwritten, StreamState.unwritten, inflight]
      rfl
    refine popped.after_mute ?_
    split <;> exact ⟨rfl, rfl, rfl⟩
  · have broken : Outbound
        { stream with writeInflight := false, broken := true, wantFinish := true }
        (log ++ [.returned .write delivery.ok delivery.message]) := by
      have same : written (log ++ [.returned .write delivery.ok delivery.message]) = written log ∧
          sent (log ++ [.returned .write delivery.ok delivery.message]) = sent log := by
        simp [written, sent]
      refine ⟨?_, fun absurdity => absurd absurdity.symm Bool.false_ne_true, fun _ => rfl⟩
      rw [same.1, same.2]
      exact outbound.inOrder
    exact broken.after_nil

/-- The output of a stream survives the return of any of its tags. -/
theorem Outbound.runStream {stream : StreamState} {log : List StreamObs}
    (outbound : Outbound stream log) (op : TagKind) (shutting : Bool) (delivery : Delivery)
    (inflight : op = .write → stream.writeInflight = true) :
    Outbound.After (runStream shutting op delivery stream)
      (log ++ [.returned op delivery.ok delivery.message]) := by
  have counted : Outbound { stream with pending := stream.pending - 1 } log :=
    outbound.change fun sane => ⟨sane, rfl⟩
  have returned (other : op ≠ .write) :
      Outbound { stream with pending := stream.pending - 1 }
        (log ++ [.returned op delivery.ok delivery.message]) := by
    refine counted.note ⟨rfl, rfl, ?_⟩
    cases op with
    | write => exact absurd rfl other
    | _ => rfl
  cases op with
  | start => exact (returned (by simp)).runStart shutting delivery
  | read => exact (returned (by simp)).runRead shutting delivery
  | write => exact counted.runWrite shutting delivery (inflight rfl)
  | wdone => exact (returned (by simp)).runWdone shutting delivery
  | finish => exact (returned (by simp)).runFinish delivery

/-! ### Requests and polls -/

/-- An accepted send joins the messages that wait. -/
theorem Outbound.queue {stream : StreamState} {log : List StreamObs}
    (outbound : Outbound stream log) (bytes : Bytes) (sane : stream.broken = false)
    (queued : stream.writeInflight = true → stream.writeQueue ≠ []) :
    Outbound { stream with writeQueue := stream.writeQueue ++ [.ofRaw bytes] }
      (log ++ [.accepted (.send bytes)]) := by
  have more : StreamState.unwritten
      { stream with writeQueue := stream.writeQueue ++ [.ofRaw bytes] } =
      stream.unwritten ++ [.ofRaw bytes] := by
    unfold StreamState.unwritten
    cases inflight : stream.writeInflight with
    | false => rfl
    | true => exact List.tail_append_of_ne_nil (queued inflight)
  have writtenSame : written (log ++ [.accepted (.send bytes)]) = written log := by
    simp [written]
  have sentMore : sent (log ++ [.accepted (.send bytes)]) = sent log ++ [.ofRaw bytes] := by
    simp [sent]
  have failedSame : failed (log ++ [.accepted (.send bytes)]) = failed log := by
    simp [failed]
  refine ⟨?_, fun _ => ?_, ?_⟩
  · rw [writtenSame, sentMore]
    exact outbound.inOrder.trans (List.prefix_append _ _)
  · rw [writtenSame, sentMore, more, ← outbound.whole sane, List.append_assoc]
  · rw [failedSame]
    exact outbound.failing

/-- The output of a stream survives every request of R. -/
theorem Outbound.answer {stream : StreamState} {log : List StreamObs}
    (outbound : Outbound stream log) (shutting : Bool) (request : StreamRequest)
    (queued : stream.writeInflight = true → stream.writeQueue ≠ []) :
    Outbound.After ((request.answer shutting stream).stream, (request.answer shutting stream).obs)
      log := by
  have pumps {request : StreamRequest} {other : StreamState}
      (holds : Outbound other (log ++ [.accepted request])) :
      Outbound.After ((acceptAndPump shutting request other).stream,
        (acceptAndPump shutting request other).obs) log := by
    have pumped := holds.sPumpWritesLocked shutting
    refine ⟨?_, pumped.sane⟩
    have whole := pumped.outbound
    rw [List.append_assoc] at whole
    exact whole
  rcases answer_cases shutting request stream with
    same | ⟨bytes, -, sane, -, -, -, same⟩ | ⟨-, -, same⟩
  · rw [same]
    exact outbound.after_nil
  · rw [same]
    exact pumps (outbound.queue bytes sane queued)
  · rw [same]
    refine pumps (Outbound.note (outbound.change ?_) ⟨rfl, rfl, rfl⟩)
    exact fun sane => ⟨sane, rfl⟩

theorem Outbound.takeMessage {stream : StreamState} {log : List StreamObs}
    (outbound : Outbound stream log) (shutting : Bool) :
    Outbound.After (takeMessage shutting stream) log := by
  unfold Client.takeMessage
  refine Outbound.andThen ?_ (fun before => ?_) ?_
  · refine Outbound.after_mute (outbound.change fun sane => ⟨sane, rfl⟩) ?_
    exact ⟨rfl, rfl, rfl⟩
  · split
    · exact before.sPostReadLocked shutting
    · exact before.after_nil
  · split
    · exact broken_sPostReadLocked _ _
    · rfl

/-! ### A broken stream stays broken -/

section StaysBroken

variable (shutting : Bool) {stream : StreamState}

theorem broken_runStream (op : TagKind) (delivery : Delivery) (broken : stream.broken = true) :
    (runStream shutting op delivery stream).1.broken = true := by
  cases op with
  | start =>
    refine (broken_sTryFinishLocked _ _).trans ?_
    split
    · refine (broken_sPumpWritesLocked _ _).trans ?_
      exact (broken_sPostReadLocked _ _).trans broken
    · rfl
  | read =>
    refine (broken_sTryFinishLocked _ _).trans ?_
    simp only [broken, Bool.not_true, Bool.and_false, Bool.false_eq_true, if_false]
  | write =>
    refine (broken_sTryFinishLocked _ _).trans ?_
    simp only [broken, Bool.not_true, Bool.and_false, Bool.false_eq_true, if_false]
  | wdone =>
    refine (broken_sTryFinishLocked _ _).trans ?_
    split
    · exact broken
    · rfl
  | finish => exact broken

theorem broken_answer (request : StreamRequest) :
    (request.answer shutting stream).stream.broken = stream.broken := by
  rcases answer_cases shutting request stream with
    same | ⟨bytes, -, -, -, -, -, same⟩ | ⟨-, -, same⟩
  · rw [same]
    rfl
  · rw [same]
    exact broken_sPumpWritesLocked _ _
  · rw [same]
    exact broken_sPumpWritesLocked _ _

theorem broken_takeMessage : (takeMessage shutting stream).1.broken = stream.broken := by
  unfold takeMessage andThen
  simp only
  split
  · exact broken_sPostReadLocked _ _
  · rfl

end StaysBroken

/-! ### Runs of one stream -/

/-- The flow of messages through one stream: what was written is a prefix of what was sent, what was
handed to R is a prefix of what arrived, and while the stream is there and not broken, nothing is
missing in either direction. -/
structure Flow (view : StreamView) (log : List StreamObs) : Prop where
  inOrder : written log <+: sent log
  handedOn : messages log <+: arrived log
  outbound : ∀ stream, view.cell.object = some stream → Outbound stream log
  inbound : ∀ stream, view.cell.object = some stream → stream.broken = false →
    messages log = arrived log

theorem flow_start : Flow streamMachine.start [] := by
  refine ⟨List.prefix_rfl, List.prefix_rfl, fun stream object => ?_, fun _ _ _ => rfl⟩
  obtain rfl := Option.some.inj object
  exact ⟨List.prefix_rfl, fun _ => rfl, fun absurdity => absurd absurdity Bool.false_ne_true⟩

/-- A section of a stream that is still there: it keeps the flow, and it only wrote if no write
ever failed. -/
theorem Flow.section {view after : StreamView} {log : List StreamObs}
    {left : StreamState × List StreamObs} {stream : StreamState} (flow : Flow view log)
    (object : view.cell.object = some stream) (kept : after.cell.object = some left.1)
    (done : Outbound.After left log) (pushes : Pushes [] left.2)
    (same : left.1.broken = stream.broken) :
    Flow after (log ++ left.2) ∧ (written left.2 ≠ [] → failed (log ++ left.2) = false) := by
  have unchanged : messages (log ++ left.2) = messages log ∧
      arrived (log ++ left.2) = arrived log := by
    rw [messages_append, arrived_append, pushes.messages, pushes.arrived, List.append_nil,
      List.append_nil]
    exact ⟨rfl, rfl⟩
  refine ⟨⟨done.outbound.inOrder, ?_, fun other stored => ?_, fun other stored sane => ?_⟩,
    fun wrote => ?_⟩
  · rw [unchanged.1, unchanged.2]
    exact flow.handedOn
  · obtain rfl := Option.some.inj (kept.symm.trans stored)
    exact done.outbound
  · obtain rfl := Option.some.inj (kept.symm.trans stored)
    rw [unchanged.1, unchanged.2]
    exact flow.inbound stream object (same.symm.trans sane)
  · by_contra failing
    rw [Bool.not_eq_false] at failing
    exact absurd ((done.sane wrote).symm.trans (done.outbound.failing failing))
      Bool.false_ne_true

/-- The return of a tag keeps the flow, and its handler only writes if no write ever failed. -/
theorem Flow.returned {view : StreamView} {log : List StreamObs} (flow : Flow view log)
    (phase : Phase view log) {op : TagKind} (outstanding : op ∈ view.cell.tags)
    {stream : StreamState} (object : view.cell.object = some stream) (delivery : Delivery) :
    Flow { view with cell := (handleTag view.shutting op delivery stream view.cell.tags).1 }
        (log ++ (handleTag view.shutting op delivery stream view.cell.tags).2) ∧
      (written (handleTag view.shutting op delivery stream view.cell.tags).2 ≠ [] →
        failed (log ++ (handleTag view.shutting op delivery stream view.cell.tags).2) =
          false) := by
  obtain ⟨stream', object', ledger, -⟩ := phase.ledger_of_mem outstanding
  obtain rfl := Option.some.inj (object.symm.trans object')
  have inflight : op = .write → stream.writeInflight = true := by
    rintro rfl
    exact (mem_iff_flag ledger.write).mp outstanding
  have ran := (flow.outbound stream object).runStream op view.shutting delivery inflight
  have ending : Mute
      (if freed (runStream view.shutting op delivery stream).1 then [StreamObs.deleted]
        else []) := by
    split <;> exact ⟨rfl, rfl, rfl⟩
  have regroup : log ++ (handleTag view.shutting op delivery stream view.cell.tags).2 =
      log ++ [.returned op delivery.ok delivery.message] ++
        (runStream view.shutting op delivery stream).2 ++
        if freed (runStream view.shutting op delivery stream).1 then [.deleted] else [] := by
    simp [handleTag]
  have outbound := ran.outbound.note ending
  rw [← regroup] at outbound
  obtain ⟨pushed, came⟩ := inbound_handleTag view.shutting op delivery stream view.cell.tags
  have complete (sane : stream.broken = false) :
      messages (log ++ (handleTag view.shutting op delivery stream view.cell.tags).2) =
        arrived (log ++ (handleTag view.shutting op delivery stream view.cell.tags).2) := by
    rw [messages_append, arrived_append, pushed, came, flow.inbound stream object sane, sane,
      Bool.not_false, Bool.and_true]
  refine ⟨⟨outbound.inOrder, ?_, ?_, ?_⟩, ?_⟩
  · cases sane : stream.broken with
    | false => exact complete sane ▸ List.prefix_rfl
    | true =>
      rw [messages_append, arrived_append, pushed, sane, Bool.not_true, Bool.and_false,
        Bool.and_false, if_neg Bool.false_ne_true, List.append_nil]
      exact flow.handedOn.trans (List.prefix_append _ _)
  · intro other stored
    simp only [handleTag] at stored
    split at stored
    · exact absurd stored (by simp)
    · obtain rfl := Option.some.inj stored
      exact outbound
  · intro other stored sane
    simp only [handleTag] at stored
    split at stored
    · exact absurd stored (by simp)
    · obtain rfl := Option.some.inj stored
      refine complete ?_
      by_contra broken
      rw [Bool.not_eq_false] at broken
      exact absurd (sane.symm.trans (broken_runStream view.shutting op delivery broken))
        Bool.false_ne_true
  · intro wrote
    have wroteRan : written (runStream view.shutting op delivery stream).2 ≠ [] := by
      have split : written (handleTag view.shutting op delivery stream view.cell.tags).2 =
          written (runStream view.shutting op delivery stream).2 := by
        have parts : (handleTag view.shutting op delivery stream view.cell.tags).2 =
            [.returned op delivery.ok delivery.message] ++
              ((runStream view.shutting op delivery stream).2 ++
              if freed (runStream view.shutting op delivery stream).1 then [.deleted]
              else []) := rfl
        rw [parts, written_append, written_append, ending.written, List.append_nil]
        rfl
      rw [← split]
      exact wrote
    by_contra failing
    rw [Bool.not_eq_false] at failing
    exact absurd ((ran.sane wroteRan).symm.trans (outbound.failing failing)) Bool.false_ne_true

theorem Flow.step {view after : StreamView} {log news : List StreamObs} {input : StreamInput}
    (flow : Flow view log) (phase : Phase view log)
    (taken : streamStep view input = some (after, news)) :
    Flow after (log ++ news) ∧ (written news ≠ [] → failed (log ++ news) = false) := by
  rcases streamStep_cases taken with
    ⟨id, readCap, writeCap, stream, -, -, -, object, -, rfl, rfl⟩ |
    ⟨op, delivery, stream, -, outstanding, object, rfl, rfl⟩ |
    ⟨stream, left, object, named, origin, rfl, rfl⟩ | ⟨-, rfl, rfl⟩ |
    ⟨stream, -, -, -, object, -, rfl, rfl⟩
  · refine flow.section object rfl ?_ ⟨rfl, rfl, rfl⟩ rfl
    unfold openStream
    refine Outbound.after_mute ((flow.outbound stream object).change ?_) ⟨rfl, rfl, rfl⟩
    exact fun sane => ⟨sane, rfl⟩
  · exact flow.returned phase outstanding object delivery
  · have outbound := flow.outbound stream object
    rcases origin with ⟨request, -, rfl⟩ | ⟨-, rfl⟩
    · have queued : stream.writeInflight = true → stream.writeQueue ≠ [] :=
        phase.queued object
      exact flow.section object rfl (outbound.answer view.shutting request queued)
        (pushes_answer view.shutting stream request) (broken_answer view.shutting request)
    · exact flow.section object rfl (outbound.takeMessage view.shutting)
        (pushes_takeMessage view.shutting stream) (broken_takeMessage view.shutting)
  · rw [List.append_nil]
    exact ⟨⟨flow.inOrder, flow.handedOn, flow.outbound, flow.inbound⟩,
      fun wrote => absurd rfl wrote⟩
  · have ending : Mute [.deleted] := ⟨rfl, rfl, rfl⟩
    have whole := (flow.outbound stream object).note ending
    refine ⟨⟨whole.inOrder, ?_, fun _ absurdity => absurd absurdity (by simp),
      fun _ absurdity => absurd absurdity (by simp)⟩, fun wrote => absurd rfl wrote⟩
    rw [messages_append, arrived_append]
    exact (List.append_nil (messages log)).symm ▸ (List.append_nil (arrived log)).symm ▸
      flow.handedOn

/-- Messages flow in order along every run of one stream. -/
theorem flow_of_run {view : StreamView} {log : List StreamObs}
    (run : streamMachine.Run Machine.Free view log) : Flow view log :=
  run.invariant flow_start fun before flow _ taken =>
    (flow.step (phase_of_run before) taken).1

end Rgrpc.Client
