/-
This file proves what every run of one client stream looks like between locked
sections. A stream was allocated and not opened, or its ledger balances, or it is
gone. The finish of a stream is posted when nothing else is outstanding and
nothing is posted after it, so the stream is gone in the very section that
handles its finish tag.
-/

import Rgrpc.Client.Ledger

namespace Rgrpc.Client

open Library

/-! ### What the sections leave alone -/

/-- How often a stream was deleted. -/
def deletions (log : List StreamObs) : Nat := log.count .deleted

@[simp]
theorem deletions_append (log more : List StreamObs) :
    deletions (log ++ more) = deletions log + deletions more :=
  List.count_append

/-- A section keeps the id of its stream and does not delete it, and its status is not emitted. -/
structure Frame (stream : StreamState) (left : StreamState × List StreamObs) : Prop where
  id : left.1.id = stream.id
  statusEmitted : left.1.statusEmitted = stream.statusEmitted
  kept : deletions left.2 = 0

theorem Frame.andThen {stream : StreamState} {first : StreamState × List StreamObs}
    {next : StreamState → StreamState × List StreamObs} (before : Frame stream first)
    (after : Frame first.1 (next first.1)) : Frame stream (andThen first next) := by
  refine ⟨after.id.trans before.id, after.statusEmitted.trans before.statusEmitted, ?_⟩
  rw [Client.andThen, deletions_append, before.kept, after.kept]

theorem frame_nil (stream : StreamState) : Frame stream (stream, []) := ⟨rfl, rfl, rfl⟩

theorem frame_sPostReadLocked (shutting : Bool) (stream : StreamState) :
    Frame stream (sPostReadLocked shutting stream) := by
  rcases sPostReadLocked_cases shutting stream with same | ⟨-, -, -, -, -, -, same⟩ <;>
  · rw [same]
    exact ⟨rfl, rfl, rfl⟩

theorem frame_sPumpWritesLocked (shutting : Bool) (stream : StreamState) :
    Frame stream (sPumpWritesLocked shutting stream) := by
  rcases sPumpWritesLocked_cases shutting stream with
    same | ⟨-, -, -, -, -, ⟨front, rest, -, same⟩ | ⟨-, -, -, -, same⟩⟩ <;>
  · rw [same]
    exact ⟨rfl, rfl, rfl⟩

theorem frame_sTryFinishLocked (shutting : Bool) (stream : StreamState) :
    Frame stream (sTryFinishLocked shutting stream) := by
  rcases sTryFinishLocked_cases shutting stream with same | ⟨-, -, -, -, -, -, -, same⟩ <;>
  · rw [same]
    exact ⟨rfl, rfl, rfl⟩

/-- Every case of the completion loop but the last keeps the frame. -/
theorem frame_runStream (shutting : Bool) {op : TagKind} (delivery : Delivery)
    (stream : StreamState) (running : op ≠ .finish) :
    Frame stream (runStream shutting op delivery stream) := by
  cases op with
  | start =>
    refine Frame.andThen ?_ (frame_sTryFinishLocked _ _)
    split
    · have read := frame_sPostReadLocked shutting
        { stream with pending := stream.pending - 1, started := true }
      exact Frame.andThen ⟨read.id, read.statusEmitted, read.kept⟩ (frame_sPumpWritesLocked _ _)
    · exact ⟨rfl, rfl, rfl⟩
  | read =>
    refine Frame.andThen ?_ (frame_sTryFinishLocked _ _)
    split
    · refine Frame.andThen ⟨rfl, rfl, by simp [deletions]⟩ ?_
      split
      · exact frame_sPostReadLocked _ _
      · exact frame_nil _
    · exact ⟨rfl, rfl, rfl⟩
  | write =>
    refine Frame.andThen ?_ (frame_sTryFinishLocked _ _)
    split
    · refine Frame.andThen ⟨rfl, rfl, ?_⟩ (frame_sPumpWritesLocked _ _)
      simp only
      split <;> simp [deletions]
    · exact ⟨rfl, rfl, rfl⟩
  | wdone =>
    unfold runStream runWdone
    simp only
    split
    · have finish := frame_sTryFinishLocked shutting
        { stream with
          pending := stream.pending - 1, wdoneInflight := false, wdoneSent := true }
      exact ⟨finish.id, finish.statusEmitted, finish.kept⟩
    · have finish := frame_sTryFinishLocked shutting
        { stream with
          pending := stream.pending - 1, wdoneInflight := false, wdoneSent := true
          broken := true, wantFinish := true }
      exact ⟨finish.id, finish.statusEmitted, finish.kept⟩
  | finish => exact absurd rfl running

theorem frame_answer (shutting : Bool) (request : StreamRequest) (stream : StreamState) :
    Frame stream ((request.answer shutting stream).stream,
      (request.answer shutting stream).obs) := by
  have pumps (request : StreamRequest) (other : StreamState) :
      Frame other ((acceptAndPump shutting request other).stream,
        (acceptAndPump shutting request other).obs) := by
    have pumped := frame_sPumpWritesLocked shutting other
    refine ⟨pumped.id, pumped.statusEmitted, ?_⟩
    have kept := pumped.kept
    simpa [acceptAndPump, deletions] using kept
  rcases answer_cases shutting request stream with
    same | ⟨bytes, -, -, -, -, -, same⟩ | ⟨-, -, same⟩
  · rw [same]
    exact frame_nil stream
  · rw [same]
    have pumped := pumps (.send bytes)
      { stream with writeQueue := stream.writeQueue ++ [.ofRaw bytes] }
    exact ⟨pumped.id, pumped.statusEmitted, pumped.kept⟩
  · rw [same]
    have pumped := pumps .writesDone { stream with wdoneRequested := true }
    exact ⟨pumped.id, pumped.statusEmitted, pumped.kept⟩

theorem frame_takeMessage (shutting : Bool) (stream : StreamState) :
    Frame stream (takeMessage shutting stream) := by
  have counted : Frame stream ({ stream with unread := stream.unread - 1 }, [.taken]) :=
    ⟨rfl, rfl, by simp [deletions]⟩
  unfold takeMessage
  refine counted.andThen ?_
  split
  · exact frame_sPostReadLocked _ _
  · exact frame_nil _

/-! ### The phases of a stream -/

/-- The phase a stream is in. -/
inductive Phase (view : StreamView) (log : List StreamObs) : Prop
  | fresh (cell : view.cell = ⟨some {}, []⟩) (silent : log = [])
  | live (stream : StreamState) (object : view.cell.object = some stream)
      (named : stream.id ≠ 0) (ledger : Ledger stream view.cell.tags log)
      (unended : stream.statusEmitted = false) (kept : deletions log = 0)
  | gone (cell : view.cell = ⟨none, []⟩) (deleted : deletions log = 1)
      (lawful : Lawful Disciplined log)

theorem length_eq_counts (tags : List TagKind) :
    tags.length = tags.count .start + tags.count .read + tags.count .write +
      tags.count .wdone + tags.count .finish := by
  induction tags with
  | nil => rfl
  | cons tag rest inductionHypothesis =>
    cases tag <;> simp <;> omega

/-- A stream with its finish tag outstanding has no other tag. -/
theorem Ledger.tags_of_finish {stream : StreamState} {tags : List TagKind}
    {log : List StreamObs} (ledger : Ledger stream tags log) (outstanding : .finish ∈ tags) :
    tags = [.finish] := by
  have posted := (mem_iff_flag ledger.finish).mp outstanding
  rw [Bool.and_eq_true, Bool.not_eq_true'] at posted
  obtain ⟨reads, writes, halfClose⟩ := ledger.finished posted.1
  have started : stream.started = true := by
    by_contra early
    rw [Bool.not_eq_true] at early
    exact absurd ((ledger.unstarted early).2.2.2.symm.trans posted.1) Bool.false_ne_true
  have length := length_eq_counts tags
  rw [ledger.start, ledger.read, ledger.write, ledger.wdone, ledger.finish, started, reads, writes,
    halfClose, posted.1, posted.2] at length
  obtain ⟨tag, same⟩ := List.length_eq_one_iff.mp length
  rw [same] at outstanding ⊢
  rw [List.mem_singleton.mp outstanding]

/-- What a step of one stream can be. -/
theorem streamStep_cases {view after : StreamView} {input : StreamInput} {news : List StreamObs}
    (taken : streamStep view input = some (after, news)) :
    (∃ id readCap writeCap stream, input = .opened id readCap writeCap ∧ id ≠ 0 ∧
        view.shutting = false ∧ view.cell.object = some stream ∧ stream.id = 0 ∧
        after = { view with
          cell := sectionCell (openStream id readCap writeCap stream) view.cell.tags } ∧
        news = (openStream id readCap writeCap stream).2) ∨
      (∃ op delivery stream, input = .returned op delivery ∧ op ∈ view.cell.tags ∧
        view.cell.object = some stream ∧
        after = { view with
          cell := (handleTag view.shutting op delivery stream view.cell.tags).1 } ∧
        news = (handleTag view.shutting op delivery stream view.cell.tags).2) ∨
      (∃ stream left, view.cell.object = some stream ∧ stream.id ≠ 0 ∧
        ((∃ request, input = .request request ∧
            left = ((request.answer view.shutting stream).stream,
              (request.answer view.shutting stream).obs)) ∨
          input = .taken ∧ left = takeMessage view.shutting stream) ∧
        after = { view with cell := sectionCell left view.cell.tags } ∧ news = left.2) ∨
      (input = .shut ∧ after = { view with shutting := true } ∧ news = []) ∨
      ∃ stream, input = .swept ∧ view.shutting = true ∧ view.cell.tags = [] ∧
        view.cell.object = some stream ∧ stream.id ≠ 0 ∧
        after = { view with cell := ⟨none, []⟩ } ∧ news = [.deleted] := by
  cases input with
  | opened id readCap writeCap =>
    refine Or.inl ?_
    rw [streamStep] at taken
    split at taken
    · rename_i enabled
      simp only [Bool.and_eq_true, bne_iff_ne, Bool.not_eq_true'] at enabled
      obtain ⟨stream, found, equal⟩ := Option.map_eq_some_iff.mp taken
      obtain ⟨object, nameless⟩ := Option.filter_eq_some_iff.mp found
      simp only [Prod.mk.injEq] at equal
      exact ⟨id, readCap, writeCap, stream, rfl, enabled.1, enabled.2, object,
        by simpa using nameless, equal.1.symm, equal.2.symm⟩
    · exact absurd taken (by simp)
  | returned op delivery =>
    refine Or.inr (Or.inl ?_)
    rw [streamStep] at taken
    split at taken
    · rename_i enabled
      obtain ⟨stream, object, equal⟩ := Option.map_eq_some_iff.mp taken
      simp only [Prod.mk.injEq] at equal
      exact ⟨op, delivery, stream, rfl, List.contains_iff_mem.mp enabled, object, equal.1.symm,
        equal.2.symm⟩
    · exact absurd taken (by simp)
  | request request =>
    refine Or.inr (Or.inr (Or.inl ?_))
    obtain ⟨stream, found, equal⟩ := Option.map_eq_some_iff.mp taken
    obtain ⟨object, named⟩ := Option.filter_eq_some_iff.mp found
    simp only [Prod.mk.injEq] at equal
    exact ⟨stream, _, object, by simpa using named, Or.inl ⟨request, rfl, rfl⟩, equal.1.symm,
      equal.2.symm⟩
  | taken =>
    refine Or.inr (Or.inr (Or.inl ?_))
    obtain ⟨stream, found, equal⟩ := Option.map_eq_some_iff.mp taken
    obtain ⟨object, named⟩ := Option.filter_eq_some_iff.mp found
    simp only [Prod.mk.injEq] at equal
    exact ⟨stream, _, object, by simpa using named, Or.inr ⟨rfl, rfl⟩, equal.1.symm,
      equal.2.symm⟩
  | shut =>
    simp only [streamStep, Option.some.injEq, Prod.mk.injEq] at taken
    exact Or.inr (Or.inr (Or.inr (Or.inl ⟨rfl, taken.1.symm, taken.2.symm⟩)))
  | swept =>
    refine Or.inr (Or.inr (Or.inr (Or.inr ?_)))
    rw [streamStep] at taken
    split at taken
    · rename_i enabled
      simp only [Bool.and_eq_true, List.isEmpty_iff] at enabled
      obtain ⟨stream, found, equal⟩ := Option.map_eq_some_iff.mp taken
      obtain ⟨object, named⟩ := Option.filter_eq_some_iff.mp found
      simp only [Prod.mk.injEq] at equal
      refine ⟨stream, rfl, enabled.1, enabled.2, object, by simpa using named, ?_,
        equal.2.symm⟩
      rw [← equal.1, enabled.2]
    · exact absurd taken (by simp)

/-- The handler of the finish tag deletes the stream. -/
theorem freed_finish {stream : StreamState} {tags : List TagKind} {log : List StreamObs}
    (ledger : Ledger stream tags log) (outstanding : .finish ∈ tags) (shutting : Bool)
    (delivery : Delivery) : freed (runStream shutting .finish delivery stream).1 = true := by
  have pending := (ledger.runStream outstanding shutting delivery).pending
  rw [ledger.tags_of_finish outstanding] at pending
  simp only [freed, Bool.and_eq_true, beq_iff_eq]
  exact ⟨pending, rfl⟩

/-- A handler leaves an opened stream accounted for; the handler of its finish tag deletes it. -/
theorem phase_returned {view : StreamView} {stream : StreamState} {log : List StreamObs}
    (named : stream.id ≠ 0) (ledger : Ledger stream view.cell.tags log)
    (unended : stream.statusEmitted = false) (kept : deletions log = 0) {op : TagKind}
    (outstanding : op ∈ view.cell.tags) (delivery : Delivery) :
    Phase
      { view with cell := (handleTag view.shutting op delivery stream view.cell.tags).1 }
      (log ++ (handleTag view.shutting op delivery stream view.cell.tags).2) := by
  have ran := ledger.runStream outstanding view.shutting delivery
  have regroup (tail : List StreamObs) : log ++ (.returned op delivery.ok delivery.message ::
      (runStream view.shutting op delivery stream).2 ++ tail) =
      log ++ [.returned op delivery.ok delivery.message] ++
        (runStream view.shutting op delivery stream).2 ++ tail := by
    simp
  unfold handleTag
  simp only
  rw [regroup]
  by_cases last : op = .finish
  · subst last
    have only := ledger.tags_of_finish outstanding
    rw [freed_finish ledger outstanding]
    refine .gone ?_ ?_ ?_
    · simp only [if_true, Cell.mk.injEq, true_and]
      rw [only]
      rfl
    · rw [deletions_append, deletions_append, deletions_append, kept]
      rfl
    · exact lawful_append_of_silent ran.lawful fun _ => rfl
  · have frame := frame_runStream view.shutting delivery stream last
    have stays : freed (runStream view.shutting op delivery stream).1 = false := by
      rw [freed, frame.statusEmitted, unended, Bool.and_false]
    rw [stays, if_neg Bool.false_ne_true, if_neg Bool.false_ne_true, List.append_nil]
    refine .live _ rfl ?_ ran ?_ ?_
    · rw [frame.id]
      exact named
    · rw [frame.statusEmitted]
      exact unended
    · rw [deletions_append, deletions_append, kept, frame.kept]
      simp [deletions]

/-! ### Runs of one stream -/

theorem Phase.step {view after : StreamView} {log news : List StreamObs} {input : StreamInput}
    (phase : Phase view log) (taken : streamStep view input = some (after, news)) :
    Phase after (log ++ news) := by
  rcases streamStep_cases taken with
    ⟨id, readCap, writeCap, stream, -, nonzero, -, object, nameless, rfl, rfl⟩ |
    ⟨op, delivery, stream, -, outstanding, object, rfl, rfl⟩ |
    ⟨stream, left, object, named, origin, rfl, rfl⟩ | ⟨-, rfl, rfl⟩ |
    ⟨stream, -, -, empty, object, named, rfl, rfl⟩
  · cases phase with
    | fresh cell silent =>
      rw [cell] at object ⊢
      obtain rfl := Option.some.inj object
      rw [silent]
      exact .live _ rfl nonzero (ledger_openStream id readCap writeCap) rfl rfl
    | live other same named ledger unended kept =>
      obtain rfl := Option.some.inj (object.symm.trans same)
      exact absurd nameless named
    | gone cell deleted lawful =>
      rw [cell] at object
      exact absurd object (by simp)
  · cases phase with
    | fresh cell silent =>
      rw [cell] at outstanding
      exact absurd outstanding List.not_mem_nil
    | live other same named ledger unended kept =>
      obtain rfl := Option.some.inj (object.symm.trans same)
      exact phase_returned named ledger unended kept outstanding delivery
    | gone cell deleted lawful =>
      rw [cell] at outstanding
      exact absurd outstanding List.not_mem_nil
  · cases phase with
    | fresh cell silent =>
      rw [cell] at object
      obtain rfl := Option.some.inj object
      exact absurd rfl named
    | live other same named' ledger unended kept =>
      obtain rfl := Option.some.inj (object.symm.trans same)
      have facts : Ledger.After left view.cell.tags log ∧ Frame stream left := by
        rcases origin with ⟨request, -, rfl⟩ | ⟨-, rfl⟩
        · exact ⟨ledger.answer view.shutting request, frame_answer view.shutting request stream⟩
        · exact ⟨ledger.takeMessage view.shutting, frame_takeMessage view.shutting stream⟩
      obtain ⟨after, frame⟩ := facts
      refine .live left.1 rfl ?_ after ?_ ?_
      · rw [frame.id]
        exact named
      · rw [frame.statusEmitted]
        exact unended
      · rw [deletions_append, kept, frame.kept]
    | gone cell deleted lawful =>
      rw [cell] at object
      exact absurd object (by simp)
  · rw [List.append_nil]
    cases phase with
    | fresh cell silent => exact .fresh cell silent
    | live stream object named ledger unended kept =>
      exact .live stream object named ledger unended kept
    | gone cell deleted lawful => exact .gone cell deleted lawful
  · cases phase with
    | fresh cell silent =>
      rw [cell] at object
      obtain rfl := Option.some.inj object
      exact absurd rfl named
    | live other same named' ledger unended kept =>
      refine .gone rfl ?_ (lawful_append_of_silent ledger.lawful fun _ => rfl)
      rw [deletions_append, kept]
      rfl
    | gone cell deleted lawful =>
      rw [cell] at object
      exact absurd object (by simp)

/-- Every run of one stream leaves it unopened, accounted for, or gone. -/
theorem phase_of_run {view : StreamView} {log : List StreamObs}
    {allowed : StreamView → StreamInput → Prop} (run : streamMachine.Run allowed view log) :
    Phase view log :=
  run.invariant (.fresh rfl rfl) fun _ phase _ taken => phase.step taken

/-- The count of pending tags of a stream that is there is right. -/
theorem Phase.pending {view : StreamView} {log : List StreamObs} (phase : Phase view log)
    {stream : StreamState} (object : view.cell.object = some stream) :
    stream.pending = view.cell.tags.length := by
  cases phase with
  | fresh cell silent =>
    rw [cell] at object ⊢
    obtain rfl := Option.some.inj object
    rfl
  | live other same named ledger unended kept =>
    obtain rfl := Option.some.inj (object.symm.trans same)
    exact ledger.pending
  | gone cell deleted lawful =>
    rw [cell] at object
    exact absurd object (by simp)

/-- A stream with a write outstanding keeps its message at the front of its queue. -/
theorem Phase.queued {view : StreamView} {log : List StreamObs} (phase : Phase view log)
    {stream : StreamState} (object : view.cell.object = some stream)
    (inflight : stream.writeInflight = true) : stream.writeQueue ≠ [] := by
  cases phase with
  | fresh cell silent =>
    rw [cell] at object
    obtain rfl := Option.some.inj object
    exact absurd inflight Bool.false_ne_true
  | live other same named ledger unended kept =>
    obtain rfl := Option.some.inj (object.symm.trans same)
    exact ledger.queued inflight
  | gone cell deleted lawful =>
    rw [cell] at object
    exact absurd object (by simp)

/-- A stream with a tag outstanding is still there, and its ledger balances. -/
theorem Phase.ledger_of_mem {view : StreamView} {log : List StreamObs} (phase : Phase view log)
    {op : TagKind} (outstanding : op ∈ view.cell.tags) :
    ∃ stream, view.cell.object = some stream ∧ Ledger stream view.cell.tags log ∧
      stream.id ≠ 0 := by
  cases phase with
  | fresh cell silent =>
    rw [cell] at outstanding
    exact absurd outstanding List.not_mem_nil
  | live stream object named ledger unended kept => exact ⟨stream, object, ledger, named⟩
  | gone cell deleted lawful =>
    rw [cell] at outstanding
    exact absurd outstanding List.not_mem_nil

/-- Every operation of a stream was posted by the rules. -/
theorem Phase.lawful {view : StreamView} {log : List StreamObs} (phase : Phase view log) :
    Lawful Disciplined log := by
  cases phase with
  | fresh cell silent =>
    rw [silent]
    exact lawful_nil _
  | live stream object named ledger unended kept => exact ledger.lawful
  | gone cell deleted lawful => exact lawful

end Rgrpc.Client
