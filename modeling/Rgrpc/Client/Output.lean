/-
This file proves the output law of a client stream. `Rgrpc/Client/Flow.lean` has
the order of what is written; here is what the stream owes R before it says that
it is done. The half-close is posted only once every message that was accepted
is through, and the finish only once the half-close, if R asked for one, is
through as well, unless an operation of the stream failed.

Nothing is parked on the way there: between sections a stream that can write has
a Write outstanding as long as its queue is not empty.
-/

import Rgrpc.Client.Flow

namespace Rgrpc.Client

open Library

/-! ### What a log says was completed -/

/-- How many operations of a kind came back with `ok`. -/
def completed (op : TagKind) (log : List StreamObs) : Nat :=
  log.countP fun
    | .returned other ok _ => other == op && ok
    | _ => false

/-- Whether the start, a write or the half-close came back without `ok`. -/
def broke (log : List StreamObs) : Bool :=
  log.any fun
    | .returned op ok _ => (op == .start || op == .write || op == .wdone) && !ok
    | _ => false

/-- Whether R's request for a half-close was accepted. -/
def asked (log : List StreamObs) : Bool :=
  log.any fun
    | .accepted .writesDone => true
    | _ => false

section Projections

variable (log more : List StreamObs)

@[simp]
theorem completed_append (op : TagKind) :
    completed op (log ++ more) = completed op log + completed op more :=
  List.countP_append

@[simp]
theorem broke_append : broke (log ++ more) = (broke log || broke more) :=
  List.any_append

@[simp]
theorem asked_append : asked (log ++ more) = (asked log || asked more) :=
  List.any_append

end Projections

/-- Every accepted message was written, and every write came back with `ok`. -/
structure Flushed (log : List StreamObs) : Prop where
  written : written log = sent log
  completed : completed .write log = (sent log).length

/-- The output law: the half-close is posted when everything accepted is through, the finish when
the half-close that was asked for is through as well or an operation failed. -/
def OutputLaw (before : List StreamObs) : StreamObs → Prop
  | .posted .writesDone => Flushed before
  | .posted .finish => broke before = true ∨
    (Flushed before ∧ (asked before = true → 0 < completed .wdone before))
  | _ => True

/-! ### The output of a stream -/

/-- The output of a stream against its log: while it is not broken, every message written is through
but for the one outstanding, and a half-close that came back is through. -/
structure Output (stream : StreamState) (log : List StreamObs) : Prop
    extends Outbound stream log where
  through : stream.broken = false →
    completed .write log + (if stream.writeInflight then 1 else 0) = (written log).length
  broken : stream.broken = broke log
  asked : stream.wdoneRequested = asked log
  halfClosed : stream.broken = false → stream.wdoneSent = true → 0 < completed .wdone log
  orderly : Lawful OutputLaw log

/-- How the flags of a stream follow what is observed of it. -/
structure Follows (stream other : StreamState) (entry : StreamObs) : Prop where
  broken : other.broken = (stream.broken || broke [entry])
  requested : other.wdoneRequested = (stream.wdoneRequested || asked [entry])
  through : other.broken = false →
    completed .write [entry] + (if other.writeInflight then 1 else 0) =
      (if stream.writeInflight then 1 else 0) + (written [entry]).length
  sent : other.broken = false → other.wdoneSent = true →
    stream.wdoneSent = true ∨ 0 < completed .wdone [entry]

/-- The output after a section. -/
abbrev Output.After (left : StreamState × List StreamObs) (log : List StreamObs) : Prop :=
  Output left.1 (log ++ left.2)

section Output

variable {stream other : StreamState} {log obs : List StreamObs}

theorem Output.after_nil (output : Output stream log) : Output.After (stream, []) log := by
  show Output stream (log ++ [])
  rw [List.append_nil]
  exact output

theorem Output.andThen {first : StreamState × List StreamObs}
    {next : StreamState → StreamState × List StreamObs} (before : Output.After first log)
    (keeps : ∀ {log}, Output first.1 log → Output.After (next first.1) log) :
    Output.After (andThen first next) log := by
  have after := keeps before
  rw [Output.After, List.append_assoc] at after
  exact after

/-- One more observation, by the law, on a stream whose flags follow it. -/
theorem Output.extend {entry : StreamObs} (output : Output stream log)
    (outbound : Outbound other (log ++ [entry])) (follows : Follows stream other entry)
    (law : OutputLaw log entry) : Output other (log ++ [entry]) := by
  have sane (unbroken : other.broken = false) : stream.broken = false := by
    rw [follows.broken, Bool.or_eq_false_iff] at unbroken
    exact unbroken.1
  exact { outbound with
    through := fun unbroken => by
      have through := output.through (sane unbroken)
      have more := follows.through unbroken
      rw [completed_append, written_append, List.length_append]
      omega
    broken := by
      rw [follows.broken, broke_append, output.broken]
    asked := by
      rw [follows.requested, asked_append, output.asked]
    halfClosed := fun unbroken sent => by
      rw [completed_append]
      rcases follows.sent unbroken sent with before | now
      · exact Nat.lt_of_lt_of_le (output.halfClosed (sane unbroken) before)
          (Nat.le_add_right _ _)
      · exact Nat.lt_of_lt_of_le now (Nat.le_add_left _ _)
    orderly := lawful_append_singleton.mpr ⟨output.orderly, law⟩ }

/-- An observation that the output of a stream does not depend on. -/
theorem Output.note {entry : StreamObs} (output : Output stream log) (mute : Mute [entry])
    (silent : broke [entry] = false ∧ Client.asked [entry] = false ∧
      completed .write [entry] = 0) (law : OutputLaw log entry) : Output stream (log ++ [entry]) :=
  output.extend (output.toOutbound.note mute)
    { broken := by rw [silent.1, Bool.or_false]
      requested := by rw [silent.2.1, Bool.or_false]
      through := fun _ => by
        rw [silent.2.2, mute.written, Nat.zero_add, List.length_nil, Nat.add_zero]
      sent := fun _ now => Or.inl now } law

/-- What is written and through is everything accepted, once no write is outstanding and the queue
is empty. -/
theorem Output.flushed (output : Output stream log) (sane : stream.broken = false)
    (idle : stream.writeInflight = false) (empty : stream.writeQueue = []) : Flushed log := by
  have whole := output.whole sane
  have through := output.through sane
  rw [StreamState.unwritten, idle, empty, if_neg Bool.false_ne_true, List.append_nil] at whole
  rw [idle, if_neg Bool.false_ne_true, Nat.add_zero, whole] at through
  exact ⟨whole, through⟩

end Output

/-! ### Nothing is parked -/

/-- A stream that can write writes as long as its queue is not empty, and then half-closes if it
was asked to. -/
def Pumped (shutting : Bool) (stream : StreamState) : Prop :=
  shutting = false → stream.started = true → stream.broken = false → stream.finishPosted = false →
    (stream.writeQueue ≠ [] → stream.writeInflight = true) ∧
      (stream.writeQueue = [] → stream.wdoneRequested = true →
        (stream.wdoneInflight || stream.wdoneSent) = true)

section Pumping

variable {shutting : Bool} {stream : StreamState}

/-- The pump parks nothing. -/
theorem pumped_sPumpWritesLocked
    (queued : stream.writeInflight = true → stream.writeQueue ≠ []) :
    Pumped shutting (sPumpWritesLocked shutting stream).1 := by
  unfold sPumpWritesLocked
  split
  · rename_i refused
    intro running started sane unfinished
    change stream.started = true at started
    change stream.broken = false at sane
    change stream.finishPosted = false at unfinished
    rw [running, started, sane, unfinished] at refused
    exact absurd refused (by simp)
  · split
    · rename_i inflight
      exact fun _ _ _ _ => ⟨fun _ => inflight, fun empty => absurd empty (queued inflight)⟩
    · split
      · rename_i front rest queue
        exact fun _ _ _ _ => ⟨fun _ => rfl, fun empty => absurd (queue.symm.trans empty) (by simp)⟩
      · rename_i empty
        split
        · exact fun _ _ _ _ => ⟨fun waiting => absurd empty waiting, fun _ _ => rfl⟩
        · rename_i closed
          refine fun _ _ _ _ => ⟨fun waiting => absurd empty waiting, fun _ requested => ?_⟩
          change stream.wdoneRequested = true at requested
          rw [requested, Bool.true_and, Bool.and_eq_true, Bool.not_eq_true', Bool.not_eq_true',
            not_and_or, Bool.not_eq_false, Bool.not_eq_false] at closed
          rw [Bool.or_eq_true]
          exact closed.symm

theorem Pumped.sPostReadLocked (pumped : Pumped shutting stream) :
    Pumped shutting (sPostReadLocked shutting stream).1 := by
  rcases sPostReadLocked_cases shutting stream with same | ⟨-, -, -, -, -, -, same⟩ <;>
  · rw [same]
    exact pumped

theorem Pumped.sTryFinishLocked (pumped : Pumped shutting stream) :
    Pumped shutting (sTryFinishLocked shutting stream).1 := by
  rcases sTryFinishLocked_cases shutting stream with same | ⟨-, -, -, -, -, -, -, same⟩
  · rw [same]
    exact pumped
  · rw [same]
    exact fun _ _ _ unfinished => absurd unfinished (by simp)

end Pumping

/-! ### The helpers -/

/-- Posting an operation changes no flag but that of a write. -/
theorem follows_post {stream other : StreamState} {post : StreamPost}
    (broken : other.broken = stream.broken)
    (requested : other.wdoneRequested = stream.wdoneRequested)
    (sent : other.wdoneSent = stream.wdoneSent)
    (inflight : (if other.writeInflight then 1 else 0) =
      (if stream.writeInflight then 1 else 0) + (written [.posted post]).length) :
    Follows stream other (.posted post) where
  broken := broken.trans (Bool.or_false _).symm
  requested := requested.trans (Bool.or_false _).symm
  through := fun _ => (Nat.zero_add _).trans inflight
  sent := fun _ now => Or.inl (sent.symm.trans now)

section Helpers

variable {stream : StreamState} {log : List StreamObs} (output : Output stream log)
  (shutting : Bool)

include output

theorem Output.sPostReadLocked : Output.After (sPostReadLocked shutting stream) log := by
  have outbound := (output.toOutbound.sPostReadLocked shutting).outbound
  rcases sPostReadLocked_cases shutting stream with same | ⟨-, -, -, -, -, -, same⟩
  · rw [same]
    exact output.after_nil
  · rw [same] at outbound ⊢
    exact output.extend outbound (follows_post rfl rfl rfl rfl) trivial

/-- The pump posts the half-close when everything accepted is through. -/
theorem Output.sPumpWritesLocked : Output.After (sPumpWritesLocked shutting stream) log := by
  have outbound := (output.toOutbound.sPumpWritesLocked shutting).outbound
  rcases sPumpWritesLocked_cases shutting stream with
    same | ⟨-, -, sane, -, idle, ⟨front, rest, queue, same⟩ | ⟨empty, -, -, -, same⟩⟩
  · rw [same]
    exact output.after_nil
  · rw [same] at outbound ⊢
    refine output.extend outbound (follows_post rfl rfl rfl ?_) trivial
    rw [idle]
    rfl
  · rw [same] at outbound ⊢
    exact output.extend outbound (follows_post rfl rfl rfl rfl) (output.flushed sane idle empty)

/-- The finish is posted on a stream that parks nothing, and so when everything accepted is
through. -/
theorem Output.sTryFinishLocked (pumped : Pumped shutting stream) :
    Output.After (sTryFinishLocked shutting stream) log := by
  have outbound := (output.toOutbound.sTryFinishLocked shutting).outbound
  rcases sTryFinishLocked_cases shutting stream with
    same | ⟨running, started, -, unfinished, -, idle, settled, same⟩
  · rw [same]
    exact output.after_nil
  · rw [same] at outbound ⊢
    refine output.extend outbound (follows_post rfl rfl rfl rfl) ?_
    cases sane : stream.broken with
    | true => exact Or.inl (output.broken.symm.trans sane)
    | false =>
      obtain ⟨writes, halfCloses⟩ := pumped running started sane unfinished
      have empty : stream.writeQueue = [] := by
        by_contra waiting
        exact absurd ((writes waiting).symm.trans idle) (by simp)
      refine Or.inr ⟨output.flushed sane idle empty, fun wanted => output.halfClosed sane ?_⟩
      have closing := halfCloses empty (output.asked.trans wanted)
      rw [settled, Bool.false_or] at closing
      exact closing

end Helpers

/-! ### Handlers -/

section Handlers

variable {stream : StreamState} {log : List StreamObs} (shutting : Bool) (delivery : Delivery)

/-- A section that reads on parks nothing. -/
theorem queued_sPostReadLocked (queued : stream.writeInflight = true → stream.writeQueue ≠ []) :
    (sPostReadLocked shutting stream).1.writeInflight = true →
      (sPostReadLocked shutting stream).1.writeQueue ≠ [] := by
  rcases sPostReadLocked_cases shutting stream with same | ⟨-, -, -, -, -, -, same⟩ <;>
  · rw [same]
    exact queued

/-- An operation that fails breaks the stream. -/
theorem Output.fail {other : StreamState} {entry : StreamObs} (output : Output stream log)
    (mute : written [entry] = [] ∧ sent [entry] = []) (broken : other.broken = true)
    (requested : other.wdoneRequested = (stream.wdoneRequested || Client.asked [entry]))
    (cause : (stream.broken || broke [entry]) = true) (law : OutputLaw log entry) :
    Output other (log ++ [entry]) := by
  have unbroken {goal : Prop} (sane : other.broken = false) : goal :=
    absurd (sane.symm.trans broken) Bool.false_ne_true
  refine output.extend ⟨?_, unbroken, fun _ => broken⟩
    ⟨broken.trans cause.symm, requested, unbroken, unbroken⟩ law
  rw [written_append, sent_append, mute.1, mute.2, List.append_nil, List.append_nil]
  exact output.inOrder

theorem Output.runStart (output : Output stream log)
    (queued : stream.writeInflight = true → stream.writeQueue ≠ []) :
    Output.After (runStart shutting delivery stream)
      (log ++ [.returned .start delivery.ok delivery.message]) := by
  unfold Client.runStart
  cases delivery.ok with
  | true =>
    have changed : Output { stream with started := true } log := { output with }
    have begun : Output { stream with started := true }
        (log ++ [.returned .start true delivery.message]) :=
      changed.note ⟨rfl, rfl, rfl⟩ ⟨rfl, rfl, rfl⟩ trivial
    refine Output.andThen (Output.andThen (begun.sPostReadLocked shutting)
      fun before => before.sPumpWritesLocked shutting) fun before =>
      before.sTryFinishLocked shutting ?_
    exact pumped_sPumpWritesLocked (queued_sPostReadLocked shutting queued)
  | false =>
    have failed : Output { stream with broken := true, started := true, wantFinish := true }
        (log ++ [.returned .start false delivery.message]) :=
      output.fail ⟨rfl, rfl⟩ rfl (Bool.or_false _).symm (Bool.or_true _) trivial
    refine Output.andThen failed.after_nil fun before => before.sTryFinishLocked shutting ?_
    exact fun _ _ sane => absurd sane (by simp)

theorem Output.runRead (output : Output stream log) (pumped : Pumped shutting stream) :
    Output.After (runRead shutting delivery stream)
      (log ++ [.returned .read delivery.ok delivery.message]) := by
  have changed (unread : Int) (readsClosed wantFinish : Bool) : Output
      { stream with
        readInflight := false, readBuf := delivery.message, unread, readsClosed, wantFinish }
      log := { output with }
  have returned (unread : Int) (readsClosed wantFinish : Bool) : Output
      { stream with
        readInflight := false, readBuf := delivery.message, unread, readsClosed, wantFinish }
      (log ++ [.returned .read delivery.ok delivery.message]) :=
    (changed unread readsClosed wantFinish).note ⟨rfl, rfl, rfl⟩ ⟨rfl, rfl, rfl⟩ trivial
  unfold Client.runRead
  simp only
  split
  · refine Output.andThen (Output.andThen ?_ fun before => ?_) fun before =>
      before.sTryFinishLocked shutting ?_
    · exact (returned (stream.unread + 1) stream.readsClosed stream.wantFinish).note
        ⟨rfl, rfl, rfl⟩ ⟨rfl, rfl, rfl⟩ trivial
    · split
      · exact before.sPostReadLocked shutting
      · exact before.after_nil
    · show Pumped shutting (if _ then _ else _ : StreamState × List StreamObs).1
      split
      · exact Pumped.sPostReadLocked pumped
      · exact pumped
  · refine Output.andThen (returned stream.unread true true).after_nil fun before =>
      before.sTryFinishLocked shutting ?_
    exact pumped

/-- A write that succeeded leaves the queue, and the next is written. -/
theorem Output.runWrite (output : Output stream log) (inflight : stream.writeInflight = true) :
    Output.After (runWrite shutting delivery stream)
      (log ++ [.returned .write delivery.ok delivery.message]) := by
  unfold Client.runWrite
  simp only
  split
  · rename_i succeeded
    rw [Bool.and_eq_true] at succeeded
    rw [succeeded.1]
    have popped : Output
        { stream with writeInflight := false, writeQueue := stream.writeQueue.tail }
        (log ++ [.returned .write true delivery.message]) := by
      refine output.extend ((output.toOutbound.note ⟨rfl, rfl, rfl⟩).change fun sane =>
        ⟨sane, ?_⟩) ⟨(Bool.or_false _).symm, (Bool.or_false _).symm, fun _ => ?_,
          fun _ now => Or.inl now⟩ trivial
      · rw [StreamState.unwritten, StreamState.unwritten, inflight]
        rfl
      · rw [inflight]
        rfl
    refine Output.andThen (Output.andThen ?_ fun before => before.sPumpWritesLocked shutting)
      fun before => before.sTryFinishLocked shutting ?_
    · split
      · exact popped.note ⟨rfl, rfl, rfl⟩ ⟨rfl, rfl, rfl⟩ trivial
      · exact popped.after_nil
    · exact pumped_sPumpWritesLocked fun absurdity => absurd absurdity (by simp)
  · rename_i refused
    have failed : Output { stream with writeInflight := false, broken := true, wantFinish := true }
        (log ++ [.returned .write delivery.ok delivery.message]) := by
      refine output.fail ⟨rfl, rfl⟩ rfl (Bool.or_false _).symm ?_ trivial
      cases sane : stream.broken with
      | true => exact Bool.true_or _
      | false =>
        rw [sane, Bool.not_false, Bool.and_true, Bool.not_eq_true] at refused
        rw [refused]
        rfl
    refine Output.andThen failed.after_nil fun before => before.sTryFinishLocked shutting ?_
    exact fun _ _ sane => absurd sane (by simp)

theorem Output.runWdone (output : Output stream log) (pumped : Pumped shutting stream) :
    Output.After (runWdone shutting delivery stream)
      (log ++ [.returned .wdone delivery.ok delivery.message]) := by
  unfold Client.runWdone
  simp only
  cases delivery.ok with
  | true =>
    have closed : Output { stream with wdoneInflight := false, wdoneSent := true }
        (log ++ [.returned .wdone true delivery.message]) :=
      output.extend ((output.toOutbound.note ⟨rfl, rfl, rfl⟩).change fun sane => ⟨sane, rfl⟩)
        ⟨(Bool.or_false _).symm, (Bool.or_false _).symm, fun _ => Nat.zero_add _,
          fun _ _ => Or.inr Nat.one_pos⟩ trivial
    refine closed.sTryFinishLocked shutting fun running started sane unfinished => ?_
    exact ⟨(pumped running started sane unfinished).1, fun _ _ => Bool.or_true _⟩
  | false =>
    have failed : Output
        { stream with
          wdoneInflight := false, wdoneSent := true, broken := true, wantFinish := true }
        (log ++ [.returned .wdone false delivery.message]) :=
      output.fail ⟨rfl, rfl⟩ rfl (Bool.or_false _).symm (Bool.or_true _) trivial
    exact failed.sTryFinishLocked shutting fun _ _ sane => absurd sane (by simp)

/-- The return of any tag of an opened stream keeps its output lawful and parks nothing. -/
theorem Output.runStream {tags : List TagKind} (output : Output stream log)
    (pumped : Pumped shutting stream) (ledger : Ledger stream tags log) {op : TagKind}
    (outstanding : op ∈ tags) :
    Output.After (runStream shutting op delivery stream)
      (log ++ [.returned op delivery.ok delivery.message]) := by
  have lowered : Output { stream with pending := stream.pending - 1 } log := { output with }
  cases op with
  | start => exact lowered.runStart shutting delivery ledger.queued
  | read => exact lowered.runRead shutting delivery pumped
  | write => exact lowered.runWrite shutting delivery ((mem_iff_flag ledger.write).mp outstanding)
  | wdone => exact lowered.runWdone shutting delivery pumped
  | finish =>
    have emitted : Output
        { stream with pending := stream.pending - 1, statusEmitted := true } log := { output with }
    have returned : Output
        { stream with pending := stream.pending - 1, statusEmitted := true }
        (log ++ [.returned .finish delivery.ok delivery.message]) :=
      emitted.note ⟨rfl, rfl, rfl⟩ ⟨rfl, rfl, rfl⟩ trivial
    exact returned.note ⟨rfl, rfl, rfl⟩ ⟨rfl, rfl, rfl⟩ trivial

theorem Pumped.runStream {tags : List TagKind} (pumped : Pumped shutting stream)
    (ledger : Ledger stream tags log) (op : TagKind) :
    Pumped shutting (runStream shutting op delivery stream).1 := by
  cases op with
  | start =>
    refine Pumped.sTryFinishLocked ?_
    split
    · exact pumped_sPumpWritesLocked (queued_sPostReadLocked shutting ledger.queued)
    · exact fun _ _ sane => absurd sane (by simp)
  | read =>
    refine Pumped.sTryFinishLocked ?_
    split
    · show Pumped shutting (if _ then _ else _ : StreamState × List StreamObs).1
      split
      · exact Pumped.sPostReadLocked pumped
      · exact pumped
    · exact pumped
  | write =>
    refine Pumped.sTryFinishLocked ?_
    split
    · exact pumped_sPumpWritesLocked fun absurdity => absurd absurdity (by simp)
    · exact fun _ _ sane => absurd sane (by simp)
  | wdone =>
    refine Pumped.sTryFinishLocked ?_
    split
    · exact fun running started sane unfinished =>
        ⟨(pumped running started sane unfinished).1, fun _ _ => Bool.or_true _⟩
    · exact fun _ _ sane => absurd sane (by simp)
  | finish => exact pumped

end Handlers

/-! ### Requests and polls -/

section Requests

variable {stream : StreamState} {log : List StreamObs} (shutting : Bool)

/-- The output of a stream survives every request of R. -/
theorem Output.answer (output : Output stream log) (request : StreamRequest)
    (queued : stream.writeInflight = true → stream.writeQueue ≠ []) :
    Output.After ((request.answer shutting stream).stream, (request.answer shutting stream).obs)
      log := by
  have pumps {request : StreamRequest} {other : StreamState}
      (holds : Output other (log ++ [.accepted request])) :
      Output.After ((acceptAndPump shutting request other).stream,
        (acceptAndPump shutting request other).obs) log := by
    have pumped := holds.sPumpWritesLocked shutting
    rw [Output.After, List.append_assoc] at pumped
    exact pumped
  rcases answer_cases shutting request stream with
    same | ⟨bytes, -, sane, -, -, -, same⟩ | ⟨-, -, same⟩
  · rw [same]
    exact output.after_nil
  · rw [same]
    exact pumps (output.extend (output.toOutbound.queue bytes sane queued)
      ⟨(Bool.or_false _).symm, (Bool.or_false _).symm, fun _ => Nat.zero_add _,
        fun _ now => Or.inl now⟩ trivial)
  · rw [same]
    exact pumps (output.extend
      ((output.toOutbound.note ⟨rfl, rfl, rfl⟩).change fun sane => ⟨sane, rfl⟩)
      ⟨(Bool.or_false _).symm, (Bool.or_true _).symm, fun _ => Nat.zero_add _,
        fun _ now => Or.inl now⟩ trivial)

theorem Output.takeMessage (output : Output stream log) :
    Output.After (takeMessage shutting stream) log := by
  have counted : Output { stream with unread := stream.unread - 1 } log := { output with }
  refine Output.andThen ?_ fun before => ?_
  · exact counted.note ⟨rfl, rfl, rfl⟩ ⟨rfl, rfl, rfl⟩ trivial
  · split
    · exact before.sPostReadLocked shutting
    · exact before.after_nil

theorem Pumped.answer (pumped : Pumped shutting stream) (request : StreamRequest)
    (queued : stream.writeInflight = true → stream.writeQueue ≠ []) :
    Pumped shutting (request.answer shutting stream).stream := by
  rcases answer_cases shutting request stream with
    same | ⟨bytes, -, -, -, -, -, same⟩ | ⟨-, -, same⟩
  · rw [same]
    exact pumped
  · rw [same]
    exact pumped_sPumpWritesLocked fun _ => by simp
  · rw [same]
    exact pumped_sPumpWritesLocked queued

theorem Pumped.takeMessage (pumped : Pumped shutting stream) :
    Pumped shutting (takeMessage shutting stream).1 := by
  show Pumped shutting (if _ then _ else _ : StreamState × List StreamObs).1
  split
  · exact Pumped.sPostReadLocked pumped
  · exact pumped

end Requests

/-! ### Runs of one stream -/

/-- The output of one stream: everything was posted by the law, and while the stream is there its
output agrees with the log and nothing is parked. -/
structure Lossless (view : StreamView) (log : List StreamObs) : Prop where
  orderly : Lawful OutputLaw log
  output : ∀ stream, view.cell.object = some stream → Output stream log
  pumped : ∀ stream, view.cell.object = some stream → Pumped view.shutting stream

theorem Lossless.section {after : StreamView} {log : List StreamObs}
    {left : StreamState × List StreamObs} (kept : after.cell.object = some left.1)
    (done : Output.After left log) (pumped : Pumped after.shutting left.1) :
    Lossless after (log ++ left.2) := by
  refine ⟨done.orderly, fun stream stored => ?_, fun stream stored => ?_⟩
  · obtain rfl := Option.some.inj (kept.symm.trans stored)
    exact done
  · obtain rfl := Option.some.inj (kept.symm.trans stored)
    exact pumped

theorem lossless_start : Lossless streamMachine.start [] := by
  refine ⟨lawful_nil _, fun stream object => ?_, fun stream object => ?_⟩
  · obtain rfl := Option.some.inj object
    exact {
      inOrder := List.prefix_rfl
      whole := fun _ => rfl
      failing := fun absurdity => absurd absurdity Bool.false_ne_true
      through := fun _ => rfl
      broken := rfl
      asked := rfl
      halfClosed := fun _ absurdity => absurd absurdity Bool.false_ne_true
      orderly := lawful_nil _ }
  · obtain rfl := Option.some.inj object
    exact fun _ early => absurd early Bool.false_ne_true

theorem Output.deleted {stream : StreamState} {log : List StreamObs}
    (output : Output stream log) : Lawful OutputLaw (log ++ [.deleted]) :=
  lawful_append_singleton.mpr ⟨output.orderly, trivial⟩

/-- The return of a tag keeps the output of a stream lossless. -/
theorem Lossless.returned {view : StreamView} {log : List StreamObs}
    (lossless : Lossless view log) (phase : Phase view log) {op : TagKind}
    (outstanding : op ∈ view.cell.tags) {stream : StreamState}
    (object : view.cell.object = some stream) (delivery : Delivery) :
    Lossless { view with cell := (handleTag view.shutting op delivery stream view.cell.tags).1 }
      (log ++ (handleTag view.shutting op delivery stream view.cell.tags).2) := by
  obtain ⟨stream', object', ledger, -⟩ := phase.ledger_of_mem outstanding
  obtain rfl := Option.some.inj (object.symm.trans object')
  have pumped := lossless.pumped stream object
  have ran := (lossless.output stream object).runStream view.shutting delivery pumped ledger
    outstanding
  have regroup : log ++ (handleTag view.shutting op delivery stream view.cell.tags).2 =
      log ++ [.returned op delivery.ok delivery.message] ++
        (runStream view.shutting op delivery stream).2 ++
        if freed (runStream view.shutting op delivery stream).1 then [.deleted] else [] := by
    simp [handleTag]
  rw [regroup]
  by_cases gone : freed (runStream view.shutting op delivery stream).1 = true
  · rw [if_pos gone]
    refine ⟨ran.deleted, ?_, ?_⟩ <;>
    · intro other stored
      simp [handleTag, gone] at stored
  · rw [if_neg gone, List.append_nil]
    refine Lossless.section ?_ ran (pumped.runStream view.shutting delivery ledger op)
    simp [handleTag, gone]

theorem Lossless.step {view after : StreamView} {log news : List StreamObs} {input : StreamInput}
    (lossless : Lossless view log) (phase : Phase view log)
    (taken : streamStep view input = some (after, news)) : Lossless after (log ++ news) := by
  rcases streamStep_cases taken with
    ⟨id, readCap, writeCap, stream, -, -, -, object, nameless, rfl, rfl⟩ |
    ⟨op, delivery, stream, -, outstanding, object, rfl, rfl⟩ |
    ⟨stream, left, object, -, origin, rfl, rfl⟩ | ⟨-, rfl, rfl⟩ |
    ⟨stream, -, -, -, object, -, rfl, rfl⟩
  · have output := lossless.output stream object
    have opened : Output (openStream id readCap writeCap stream).1 log := { output with }
    refine Lossless.section rfl (opened.note ⟨rfl, rfl, rfl⟩ ⟨rfl, rfl, rfl⟩ trivial) ?_
    exact lossless.pumped stream object
  · exact lossless.returned phase outstanding object delivery
  · have output := lossless.output stream object
    have pumped := lossless.pumped stream object
    rcases origin with ⟨request, -, rfl⟩ | ⟨-, rfl⟩
    · have queued : stream.writeInflight = true → stream.writeQueue ≠ [] :=
        phase.queued object
      exact Lossless.section rfl (output.answer view.shutting request queued)
        (pumped.answer view.shutting request queued)
    · exact Lossless.section rfl (output.takeMessage view.shutting)
        (pumped.takeMessage view.shutting)
  · rw [List.append_nil]
    exact ⟨lossless.orderly, lossless.output,
      fun _ _ absurdity => absurd absurdity (by simp)⟩
  · have output := lossless.output stream object
    refine ⟨output.deleted, ?_, ?_⟩ <;>
    · exact fun _ absurdity => absurd absurdity (by simp)

/-- The output of a stream is lossless along every run. -/
theorem lossless_of_run {view : StreamView} {log : List StreamObs}
    (run : streamMachine.Run Machine.Free view log) : Lossless view log :=
  run.invariant lossless_start fun before lossless _ taken =>
    lossless.step (phase_of_run before) taken

/-! ### What is accepted -/

/-- Whether something observed of a stream is an operation posted or an event pushed. -/
def StreamObs.isAct : StreamObs → Bool
  | .posted _ | .pushed _ => true
  | _ => false

section Acts

variable (shutting : Bool) (stream : StreamState)

theorem isAct_andThen {first : StreamState × List StreamObs}
    {next : StreamState → StreamState × List StreamObs}
    (before : ∀ entry ∈ first.2, entry.isAct = true)
    (after : ∀ entry ∈ (next first.1).2, entry.isAct = true) :
    ∀ entry ∈ (andThen first next).2, entry.isAct = true :=
  List.forall_mem_append.mpr ⟨before, after⟩

theorem isAct_sPostReadLocked :
    ∀ entry ∈ (sPostReadLocked shutting stream).2, entry.isAct = true := by
  rcases sPostReadLocked_cases shutting stream with same | ⟨-, -, -, -, -, -, same⟩ <;>
  · rw [same]
    simp [StreamObs.isAct]

theorem isAct_sPumpWritesLocked :
    ∀ entry ∈ (sPumpWritesLocked shutting stream).2, entry.isAct = true := by
  rcases sPumpWritesLocked_cases shutting stream with
    same | ⟨-, -, -, -, -, ⟨front, rest, -, same⟩ | ⟨-, -, -, -, same⟩⟩ <;>
  · rw [same]
    simp [StreamObs.isAct]

theorem isAct_sTryFinishLocked :
    ∀ entry ∈ (sTryFinishLocked shutting stream).2, entry.isAct = true := by
  rcases sTryFinishLocked_cases shutting stream with same | ⟨-, -, -, -, -, -, -, same⟩ <;>
  · rw [same]
    simp [StreamObs.isAct]

/-- A handler posts operations and pushes events, and nothing else. -/
theorem isAct_runStream (op : TagKind) (delivery : Delivery) :
    ∀ entry ∈ (runStream shutting op delivery stream).2, entry.isAct = true := by
  cases op with
  | start =>
    refine isAct_andThen ?_ (isAct_sTryFinishLocked _ _)
    split
    · exact isAct_andThen (isAct_sPostReadLocked _ _) (isAct_sPumpWritesLocked _ _)
    · simp
  | read =>
    refine isAct_andThen ?_ (isAct_sTryFinishLocked _ _)
    split
    · refine isAct_andThen (by simp [StreamObs.isAct]) ?_
      split
      · exact isAct_sPostReadLocked _ _
      · simp
    · simp
  | write =>
    refine isAct_andThen ?_ (isAct_sTryFinishLocked _ _)
    split
    · refine isAct_andThen ?_ (isAct_sPumpWritesLocked _ _)
      simp only
      split <;> simp [StreamObs.isAct]
    · simp
  | wdone => exact isAct_sTryFinishLocked _ _
  | finish => simp [runStream, runFinish, StreamObs.isAct]

theorem accepted_not_mem_of_isAct {obs : List StreamObs}
    (acts : ∀ entry ∈ obs, entry.isAct = true) (request : StreamRequest) :
    StreamObs.accepted request ∉ obs :=
  fun member => absurd (acts _ member) Bool.false_ne_true

theorem accepted_not_mem_handleTag (op : TagKind) (delivery : Delivery) (tags : List TagKind)
    (request : StreamRequest) :
    StreamObs.accepted request ∉ (handleTag shutting op delivery stream tags).2 := by
  intro member
  rw [handleTag] at member
  simp only [List.cons_append, List.mem_cons, reduceCtorEq, List.mem_append,
    accepted_not_mem_of_isAct (isAct_runStream _ _ _ _), false_or] at member
  split at member <;> simp at member

/-- A request shows as accepted exactly when it returns `TRUE`. -/
theorem accepted_mem_answer_iff (request other : StreamRequest) :
    StreamObs.accepted other ∈ (request.answer shutting stream).obs ↔
      other = request ∧ (request.answer shutting stream).value = true := by
  have pumps (asked : StreamRequest) (left : StreamState) :
      StreamObs.accepted other ∈ (acceptAndPump shutting asked left).obs ↔ other = asked := by
    simp [acceptAndPump, accepted_not_mem_of_isAct (isAct_sPumpWritesLocked shutting left)]
  rcases answer_cases shutting request stream with
    same | ⟨bytes, rfl, -, -, -, -, same⟩ | ⟨rfl, -, same⟩
  · rw [same]
    simp [refuse]
  · rw [same, pumps]
    simp [acceptAndPump]
  · rw [same, pumps]
    simp [acceptAndPump]

end Acts

section Results

variable {client after : RClient} {news : List ClientObs} {id : Nat} {request : StreamRequest}
  {value : Except RError Bool}

theorem result_not_mem_pollTake (client : RClient) (args : PollArgs) :
    ClientObs.result id request value ∉ (client.pollTake args).2 := by
  intro member
  rcases List.mem_append.mp member with collected | last
  · cases collected_takeLoop client args _ collected
  · exact absurd last (by simp)

theorem result_not_mem_pollAttempt (client : RClient) (args : PollArgs) (leftMs : Int) :
    ClientObs.result id request value ∉ (client.pollAttempt args leftMs).2 := by
  unfold RClient.pollAttempt
  split
  · simp only
    split
    · exact result_not_mem_pollTake _ args
    · exact List.not_mem_nil
  · exact result_not_mem_pollTake client args

/-- A step returns a value only to the request it is of. -/
theorem request_of_result {input : ClientInput}
    (taken : clientStep client input = some (after, news))
    (returned : ClientObs.result id request value ∈ news) :
    input = .request id request ∧ (client.request id request).2 = news := by
  have atR {result : RClient × List ClientObs}
      (enabled : (if client.atR then some result else none) = some (after, news)) :
      result.2 = news := by
    split at enabled
    · exact congrArg Prod.snd (Option.some.inj enabled)
    · exact absurd enabled (by simp)
  cases input with
  | request other asked =>
    have same := atR taken
    rw [← same] at returned
    have own : other = id ∧ asked = request := by
      unfold RClient.request at returned
      split at returned
      · simp only [List.mem_singleton, ClientObs.result.injEq] at returned
        exact ⟨returned.1.symm, returned.2.1.symm⟩
      · split at returned
        · simp only [List.mem_singleton, ClientObs.result.injEq] at returned
          exact ⟨returned.1.symm, returned.2.1.symm⟩
        · split at returned
          · exact absurd returned (by simp)
          · simp only [List.mem_append, List.mem_map, reduceCtorEq, and_false, exists_false,
              List.mem_singleton, ClientObs.result.injEq, false_or] at returned
            exact ⟨returned.1.symm, returned.2.1.symm⟩
    obtain ⟨rfl, rfl⟩ := own
    exact ⟨rfl, same⟩
  | unary address delivery =>
    rw [clientStep, RClient.runUnary] at taken
    split at taken
    · split at taken <;>
      · obtain ⟨-, rfl⟩ := Prod.mk.inj (Option.some.inj taken)
        exact absurd returned (by simp)
    · exact absurd taken (by simp)
  | returned address op delivery =>
    rw [clientStep, RClient.runTag] at taken
    split at taken
    · split at taken <;>
      · obtain ⟨-, rfl⟩ := Prod.mk.inj (Option.some.inj taken)
        exact absurd returned (by simp)
    · exact absurd taken (by simp)
  | callStart method bytes opts now =>
    rw [← atR taken, RClient.grpcRCallStart] at returned
    split at returned
    · exact absurd returned (by simp)
    · split at returned
      · exact absurd returned (by simp)
      · simp only at returned
        split at returned <;> exact absurd returned (by simp)
  | streamStart method opts now readCap writeCap =>
    rw [← atR taken, RClient.grpcRStreamStart] at returned
    split at returned
    · exact absurd returned (by simp)
    · split at returned
      · exact absurd returned (by simp)
      · simp only at returned
        split at returned <;> exact absurd returned (by simp [openStream])
  | cancel other =>
    rw [← atR taken, RClient.grpcRCallCancel] at returned
    split at returned <;> exact absurd returned (by simp)
  | poll args leftMs =>
    rw [← atR taken, RClient.grpcRClientPoll] at returned
    split at returned
    · exact absurd returned (by simp)
    · exact absurd returned (result_not_mem_pollAttempt client args leftMs)
  | woken result leftMs =>
    obtain ⟨args, -, ended | again⟩ := woken_cases taken
    · have absent := @result_not_mem_pollTake id request value client args
      rw [ended] at absent
      exact absurd returned absent
    · have absent := @result_not_mem_pollAttempt id request value client args leftMs
      rw [again] at absent
      exact absurd returned absent
  | close =>
    rw [← atR taken, RClient.beginClose] at returned
    split at returned <;> exact absurd returned List.not_mem_nil
  | joined =>
    rw [clientStep] at taken
    split at taken
    · rw [RClient.endClose] at taken
      split at taken
      · obtain ⟨-, rfl⟩ := Prod.mk.inj (Option.some.inj taken)
        exact absurd returned (by simp)
      · exact absurd taken (by simp)
    · exact absurd taken (by simp)

/-- Over a step of a client, a request shows as accepted on a stream exactly when R asked it of the
id of that stream and got `TRUE`. -/
theorem Sound.accepted_step {log : List ClientObs} {input : ClientInput}
    (sound : Sound client log) (taken : clientStep client input = some (after, news))
    (address : Nat) (request : StreamRequest) :
    ClientObs.stream address (.accepted request) ∈ news ↔
      ∃ id, client.streams.lookup id = some address ∧
        ClientObs.result id request (.ok true) ∈ news := by
  constructor
  · intro member
    cases turn_of_step taken with
    | unary address delivery call outstanding object => simp [RClient.handleUnary] at member
    | returned other op delivery stream outstanding object =>
      simp only [RClient.handleStream, List.mem_map, ClientObs.stream.injEq] at member
      obtain ⟨entry, handled, -, rfl⟩ := member
      exact absurd handled (accepted_not_mem_handleTag _ _ _ _ _ _)
    | leakCall method bytes opts now error opened named raises => simp at member
    | leakStream method opts now readCap writeCap error opened named raises => simp at member
    | callStarted method bytes opts now name context opened clean => simp at member
    | streamStarted method opts now readCap writeCap opened clean => simp at member
    | request id asked other stream opened found object =>
      simp only [List.mem_append, List.mem_map, ClientObs.stream.injEq, List.mem_singleton,
        reduceCtorEq, or_false] at member
      obtain ⟨entry, shown, rfl, rfl⟩ := member
      obtain ⟨rfl, value⟩ := (accepted_mem_answer_iff _ _ _ _).mp shown
      refine ⟨id, found, List.mem_append_right _ ?_⟩
      rw [value]
      exact List.mem_singleton_self _
    | polled input wake args origin =>
      rcases List.mem_append.mp member with collected | last
      · cases collected_takeLoop _ args _ collected
      · exact absurd last (by simp)
    | quiet input after news quiet origin =>
      have logged := mem_streamLog_iff.mpr member
      rw [quiet.still.streams] at logged
      exact absurd logged List.not_mem_nil
    | closing opened => exact absurd member List.not_mem_nil
    | joined after news joining ended =>
      obtain ⟨-, -, -, rfl⟩ := sound.endClose_eq ended
      simp at member
    | lost input after news lost => exact absurd lost sound.not_lost
  · rintro ⟨id, names, returned⟩
    obtain ⟨rfl, same⟩ := request_of_result taken returned
    obtain ⟨stream, object, -⟩ := sound.streamTable id address names
    rw [← same] at returned ⊢
    unfold RClient.request at returned ⊢
    split at returned
    · exact absurd returned (by simp)
    · rename_i opened
      rw [if_neg opened, names]
      rw [names] at returned
      simp only [object, List.mem_append, List.mem_map, reduceCtorEq, and_false, exists_false,
        List.mem_singleton, ClientObs.result.injEq, true_and, Except.ok.injEq, false_or]
        at returned ⊢
      have accepted := (accepted_mem_answer_iff client.shutting stream request request).mpr
        ⟨rfl, returned.symm⟩
      exact Or.inl ⟨_, accepted, rfl⟩

end Results

/-! ### The output law of a client -/

/-- The output law in a state of a client and for the log that led there: on every stream what was
written is, in order and each once, a prefix of what was accepted, the half-close and the finish
were posted by the law, and a started stream that is not broken, finishing or shutting down writes
what it has queued, and half-closes when it was asked to and has nothing queued. A request is
accepted in the next step exactly when it returns `TRUE`. -/
structure OutputKept (client : RClient) (log : List ClientObs) : Prop where
  inOrder : ∀ address, written (streamLog address log) <+: sent (streamLog address log)
  orderly : ∀ address, Lawful OutputLaw (streamLog address log)
  writing : ∀ address stream, (client.streamArena.cell address).object = some stream →
    client.shutting = false → stream.started = true → stream.broken = false →
    stream.finishPosted = false → stream.writeQueue ≠ [] →
    .write ∈ (client.streamArena.cell address).tags
  halfClosing : ∀ address stream, (client.streamArena.cell address).object = some stream →
    client.shutting = false → stream.started = true → stream.broken = false →
    stream.finishPosted = false → stream.writeQueue = [] →
    asked (streamLog address log) = true →
    .wdone ∈ (client.streamArena.cell address).tags ∨
      0 < completed .wdone (streamLog address log)
  accepts : ∀ input after news, clientStep client input = some (after, news) →
    ∀ address request, ClientObs.stream address (.accepted request) ∈ news ↔
      ∃ id, client.streams.lookup id = some address ∧
        ClientObs.result id request (.ok true) ∈ news

/-- A stream whose call has started has its ledger. -/
theorem Phase.ledger_of_started {view : StreamView} {log : List StreamObs}
    (phase : Phase view log) {stream : StreamState} (object : view.cell.object = some stream)
    (started : stream.started = true) : Ledger stream view.cell.tags log := by
  cases phase with
  | fresh cell silent =>
    rw [cell] at object
    obtain rfl := Option.some.inj object
    exact absurd started Bool.false_ne_true
  | live other same named ledger unended kept =>
    obtain rfl := Option.some.inj (object.symm.trans same)
    exact ledger
  | gone cell deleted lawful =>
    rw [cell] at object
    exact absurd object (by simp)

/-- However sends, the half-close and the completions of a stream interleave, its output keeps to
the law. -/
theorem output_kept (wake : WakeHandle) (client : RClient) (log : List ClientObs)
    (run : (clientMachine wake).Run Machine.Free client log) : OutputKept client log := by
  have sound := sound_of_run run
  have each (address : Nat) : written (streamLog address log) <+: sent (streamLog address log) ∧
      Lawful OutputLaw (streamLog address log) := by
    by_cases allocated : address < client.streamArena.size
    · have lone := sound.streams address allocated
      exact ⟨(flow_of_run lone).inOrder, (lossless_of_run lone).orderly⟩
    · rw [sound.unusedStreams address (Nat.le_of_not_lt allocated)]
      exact ⟨List.prefix_rfl, lawful_nil _⟩
  refine ⟨fun address => (each address).1, fun address => (each address).2, ?_, ?_,
    fun input after news taken => sound.accepted_step taken⟩
  · intro address stream object running started sane unfinished waiting
    have lone := sound.streams address (Arena.lt_size_of_object object)
    have pumped := (lossless_of_run lone).pumped stream object running started sane unfinished
    have ledger := (phase_of_run lone).ledger_of_started object started
    exact (mem_iff_flag ledger.write).mpr (pumped.1 waiting)
  · intro address stream object running started sane unfinished empty wanted
    have lone := sound.streams address (Arena.lt_size_of_object object)
    have pumped := (lossless_of_run lone).pumped stream object running started sane unfinished
    have output := (lossless_of_run lone).output stream object
    have ledger := (phase_of_run lone).ledger_of_started object started
    have closing := pumped.2 empty (output.asked.trans wanted)
    rw [Bool.or_eq_true] at closing
    rcases closing with outstanding | returned
    · exact Or.inl ((mem_iff_flag ledger.wdone).mpr outstanding)
    · exact Or.inr (output.halfClosed sane returned)

/-- A stream that is sent to before its call has started, half-closed between two of its writes, and
finished once the half-close is through. -/
def halfClosedInputs : List ClientInput :=
  [.streamStart (.text [47]) {} 0 16 16,
    .request 1 (.send [1]),
    .request 1 (.send [2]),
    .returned 0 .start { ok := true },
    .request 1 .writesDone,
    .returned 0 .write { ok := true },
    .returned 0 .read { ok := false },
    .returned 0 .write { ok := true },
    .returned 0 .wdone { ok := true }]

theorem output_kept_halfClosed : ∃ client log,
    (clientMachine ⟨16, 0⟩).Run Machine.Free client log ∧
      written (streamLog 0 log) = [.ofRaw [1], .ofRaw [2]] ∧
      asked (streamLog 0 log) = true ∧ completed .wdone (streamLog 0 log) = 1 ∧
      posts .finish (streamLog 0 log) = 1 ∧ OutputKept client log := by
  have run := Machine.run_of_exec (show (clientMachine ⟨16, 0⟩).exec Machine.Free
    (clientMachine ⟨16, 0⟩).start halfClosedInputs = some _ from rfl)
  exact ⟨_, _, run, by decide, by decide, by decide, by decide, output_kept ⟨16, 0⟩ _ _ run⟩

end Rgrpc.Client
