/-
This file proves when an acknowledged half-close is real. `grpc_writes_done`
looks at one flag only, whether the half-close was requested before. The pump
that has to honour the request looks at more: it posts nothing on a stream that
is broken or whose finish was posted. On such a stream, still in its table until
its last tag comes back, the request returns `TRUE` and nothing is ever posted.
On every other stream the half-close is posted once, after everything accepted.
-/

import Rgrpc.Client.Waiting

namespace Rgrpc.Client

open Library

/-! ### What a log says of a stream that is gone -/

/-- The tags returned on a stream were posted; and a stream is deleted only after its finish was
posted, or while the client shuts down. -/
structure Traced (view : StreamView) (log : List StreamObs) : Prop where
  posted : ∀ op, returns op log ≤ posts op log
  finished : view.cell.object = none → view.shutting = true ∨ 0 < posts .finish log

theorem Traced.of_phase {view : StreamView} {log : List StreamObs} {stream : StreamState}
    (phase : Phase view log) (object : view.cell.object = some stream) : Traced view log := by
  refine ⟨?_, fun gone => absurd (object.symm.trans gone) (by simp)⟩
  cases phase with
  | fresh cell silent =>
    rw [silent]
    exact fun _ => Nat.le_refl _
  | live other same named ledger unended kept =>
    intro op
    rw [ledger.balance op]
    exact Nat.le_add_right _ _
  | gone cell deleted lawful =>
    rw [cell] at object
    exact absurd object (by simp)

theorem traced_of_run {view : StreamView} {log : List StreamObs}
    (run : streamMachine.Run Machine.Free view log) : Traced view log := by
  induction run with
  | start => exact .of_phase (.fresh rfl rfl) rfl
  | @next view after log news input before permitted taken inductionHypothesis =>
    have phase := phase_of_run before
    have next := phase.step taken
    rcases streamStep_cases taken with
      ⟨id, readCap, writeCap, stream, -, -, -, object, -, rfl, rfl⟩ |
      ⟨op, delivery, stream, -, outstanding, object, rfl, rfl⟩ |
      ⟨stream, left, object, -, origin, rfl, rfl⟩ | ⟨-, rfl, rfl⟩ |
      ⟨stream, -, shutting, -, object, -, rfl, rfl⟩
    · exact .of_phase next rfl
    · by_cases last : op = .finish
      · subst last
        obtain ⟨other, same, ledger, -⟩ := phase.ledger_of_mem outstanding
        obtain rfl := Option.some.inj (object.symm.trans same)
        have ran := ledger.runStream outstanding view.shutting delivery
        have gone := freed_finish ledger outstanding view.shutting delivery
        have regroup : log ++ (handleTag view.shutting .finish delivery stream view.cell.tags).2 =
            log ++ [.returned .finish delivery.ok delivery.message] ++
              (runStream view.shutting .finish delivery stream).2 ++ [.deleted] := by
          simp [handleTag, gone]
        have balance (op : TagKind) := ran.balance op
        have ended := ran.ended
        rw [show (runStream view.shutting .finish delivery stream).1.finishPosted =
          stream.finishPosted from rfl] at ended
        have posted := (mem_iff_flag ledger.finish).mp outstanding
        rw [Bool.and_eq_true] at posted
        rw [posted.1, if_pos rfl] at ended
        rw [regroup]
        refine ⟨fun op => ?_, fun _ => Or.inr ?_⟩
        · rw [returns_append, posts_append, balance op]
          exact Nat.le_add_right_of_le (Nat.le_add_right _ _)
        · rw [posts_append, ended]
          exact Nat.one_pos
      · have kept := freed_runStream phase outstanding object view.shutting delivery
        rw [beq_eq_false_iff_ne.mpr last] at kept
        have stays : (handleTag view.shutting op delivery stream view.cell.tags).1.object =
            some (runStream view.shutting op delivery stream).1 := by
          simp [handleTag, kept]
        exact .of_phase next stays
    · exact .of_phase next rfl
    · rw [List.append_nil]
      exact ⟨inductionHypothesis.posted, fun _ => Or.inl rfl⟩
    · refine ⟨fun op => ?_, fun _ => Or.inl shutting⟩
      rw [returns_append, posts_append]
      exact Nat.add_le_add_right (inductionHypothesis.posted op) _

/-! ### Nothing is accepted after the half-close -/

/-- A message is accepted only while no half-close was. -/
def SealLaw (before : List StreamObs) : StreamObs → Prop
  | .accepted (.send _) => asked before = false
  | _ => True

theorem sealLaw_append {log news : List StreamObs} (lawful : Lawful SealLaw log)
    (first : ∀ bytes rest, news = .accepted (.send bytes) :: rest → asked log = false)
    (only : ∀ bytes, StreamObs.accepted (.send bytes) ∉ news.tail) :
    Lawful SealLaw (log ++ news) := by
  refine lawful.append fun before entry after equal => ?_
  cases entry with
  | accepted request =>
    cases request with
    | writesDone => trivial
    | send bytes =>
      cases before with
      | nil =>
        rw [List.append_nil]
        exact first bytes after equal
      | cons head rest =>
        have member : StreamObs.accepted (.send bytes) ∈ news.tail := by
          rw [equal]
          simp
        exact absurd member (only bytes)
  | _ => trivial

theorem sealLaw_of_run {view : StreamView} {log : List StreamObs}
    (run : streamMachine.Run Machine.Free view log) : Lawful SealLaw log := by
  induction run with
  | start => exact lawful_nil _
  | @next view after log news input before permitted taken inductionHypothesis =>
    have lossless := lossless_of_run before
    have silent {obs : List StreamObs} (absent : ∀ request, StreamObs.accepted request ∉ obs) :
        Lawful SealLaw (log ++ obs) := by
      refine sealLaw_append inductionHypothesis (fun bytes rest equal => ?_)
        fun bytes member => absent _ (List.mem_of_mem_tail member)
      exact absurd (by rw [equal]; exact List.mem_cons_self) (absent (.send bytes))
    rcases streamStep_cases taken with
      ⟨id, readCap, writeCap, stream, -, -, -, object, -, rfl, rfl⟩ |
      ⟨op, delivery, stream, -, outstanding, object, rfl, rfl⟩ |
      ⟨stream, left, object, -, ⟨request, -, rfl⟩ | ⟨-, rfl⟩, rfl, rfl⟩ | ⟨-, rfl, rfl⟩ |
      ⟨stream, -, -, -, object, -, rfl, rfl⟩
    · exact silent (by simp [openStream])
    · exact silent fun request => accepted_not_mem_handleTag _ _ _ _ _ request
    · have pumps (other : StreamState) (wanted : StreamRequest) :
          StreamObs.accepted wanted ∉ (sPumpWritesLocked view.shutting other).2 :=
        accepted_not_mem_of_isAct (isAct_sPumpWritesLocked view.shutting other) wanted
      rcases answer_cases view.shutting request stream with
        same | ⟨bytes, -, -, -, unclosed, -, same⟩ | ⟨-, -, same⟩
      · rw [same]
        exact silent (by simp [refuse])
      · rw [same]
        refine sealLaw_append inductionHypothesis (fun _ _ _ => ?_) fun other => pumps _ _
        exact (lossless.output stream object).asked.symm.trans unclosed
      · rw [same]
        exact sealLaw_append inductionHypothesis
          (fun _ _ equal => absurd (List.cons.inj equal).1 (by simp)) fun other => pumps _ _
    · refine silent fun request member => ?_
      rcases List.mem_cons.mp member with absurdity | posted
      · exact absurd absurdity (by simp)
      · change _ ∈ (if _ then _ else _ : StreamState × List StreamObs).2 at posted
        split at posted
        · exact absurd posted (accepted_not_mem_of_isAct (isAct_sPostReadLocked _ _) request)
        · exact absurd posted List.not_mem_nil
    · exact silent (by simp)
    · exact silent (by simp)

/-! ### An acknowledged half-close -/

/-- What an acknowledged half-close of a stream promises, against what was observed of the stream
before the request and from it on: no message is accepted any more, the half-close is posted at most
once and after everything that was accepted is through, and as long as no operation fails and the
client does not shut down, it was posted or the start or a Write is outstanding. -/
structure Honoured (log more : List StreamObs) (later : StreamView) : Prop where
  sealed : sent more = []
  once : posts .wdone (log ++ more) ≤ 1
  last : ∀ before rest, log ++ more = before ++ .posted .writesDone :: rest →
    written before = sent log ∧ completed .write before = (sent log).length
  due : broke more = true ∨ later.shutting = true ∨ posts .wdone (log ++ more) = 1 ∨
    .start ∈ later.cell.tags ∨ .write ∈ later.cell.tags

section Honoured

variable {view : StreamView} {log more : List StreamObs}

/-- An entry that was not there before a moment comes after it. -/
theorem split_after {entry : StreamObs} {before rest : List StreamObs} (absent : entry ∉ log)
    (equal : log ++ more = before ++ entry :: rest) :
    ∃ between, before = log ++ between ∧ more = between ++ entry :: rest := by
  rcases List.append_eq_append_iff.mp equal with ⟨between, first, second⟩ | ⟨beyond, first, second⟩
  · exact ⟨between, first, second⟩
  · cases beyond with
    | nil =>
      rw [List.append_nil] at first
      exact ⟨[], by rw [List.append_nil, first], second.symm⟩
    | cons head tail =>
      obtain ⟨rfl, -⟩ := List.cons.inj second
      exact absurd (by rw [first]; simp) absent

theorem posted_not_mem {post : StreamPost} (none : posts post.op log = 0) :
    StreamObs.posted post ∉ log := by
  intro member
  have some : 0 < posts post.op log :=
    List.countP_pos_iff.mpr ⟨_, member, by simp⟩
  exact absurd some (Nat.not_lt.mpr (Nat.le_of_eq none))

theorem finish_mem (posted : posts .finish log ≠ 0) : StreamObs.posted .finish ∈ log := by
  obtain ⟨entry, member, counted⟩ := List.countP_pos_iff.mp (Nat.pos_of_ne_zero posted)
  cases entry with
  | posted post =>
    cases post with
    | finish => exact member
    | _ => exact absurd counted (by simp [StreamPost.op])
  | _ => exact absurd counted (by simp)

theorem completed_le_returns (op : TagKind) (log : List StreamObs) :
    completed op log ≤ returns op log := by
  refine List.countP_mono_left fun entry _ through => ?_
  cases entry with
  | returned other ok message =>
    rw [Bool.and_eq_true] at through
    exact through.1
  | _ => exact through

theorem sent_eq_nil (lawful : Lawful SealLaw (log ++ .accepted .writesDone :: more)) :
    sent (.accepted .writesDone :: more) = [] := by
  refine List.filterMap_eq_nil_iff.mpr fun entry member => ?_
  cases entry with
  | accepted request =>
    cases request with
    | writesDone => rfl
    | send bytes =>
      obtain ⟨before, rest, split⟩ := List.append_of_mem
        ((List.mem_cons.mp member).resolve_left (by simp))
      have sealed := lawful (log ++ .accepted .writesDone :: before) (.accepted (.send bytes)) rest
        (by rw [split]; simp)
      exact absurd (show asked _ = false from sealed) (by simp [asked])
  | _ => rfl

/-- On a stream that goes on, a half-close that was asked for is posted once nothing is ahead of
it. -/
theorem posted_of_asked (run : streamMachine.Run Machine.Free view log)
    (requested : asked log = true) (whole : broke log = false) (shutting : view.shutting = false)
    (unfinished : posts .finish log = 0) :
    0 < posts .wdone log ∨ .start ∈ view.cell.tags ∨ .write ∈ view.cell.tags := by
  have lossless := lossless_of_run run
  cases phase_of_run run with
  | fresh cell silent => exact absurd requested (by rw [silent]; decide)
  | live stream object named ledger unended kept =>
    have output := lossless.output stream object
    have going : stream.finishPosted = false := by
      have ended := ledger.ended
      rw [unfinished] at ended
      by_contra finishing
      rw [Bool.not_eq_false] at finishing
      rw [finishing] at ended
      exact absurd ended (by simp)
    cases started : stream.started with
    | false =>
      refine Or.inr (Or.inl (List.count_pos_iff.mp ?_))
      rw [ledger.start, started]
      exact Nat.one_pos
    | true =>
      obtain ⟨writes, halfCloses⟩ := lossless.pumped stream object shutting started
        (output.broken.trans whole) going
      by_cases empty : stream.writeQueue = []
      · refine Or.inl ?_
        rw [ledger.halfClosed, halfCloses empty (output.asked.trans requested)]
        exact Nat.one_pos
      · exact Or.inr (Or.inr ((mem_iff_flag ledger.write).mpr (writes empty)))
  | gone cell deleted lawful =>
    rcases (traced_of_run run).finished (by rw [cell]) with closing | ended
    · exact absurd (shutting.symm.trans closing) Bool.false_ne_true
    · exact absurd unfinished (Nat.ne_of_gt ended)

/-- A stream that did not break posts its finish only after the half-close that was asked for. -/
theorem posted_of_finished
    (run : streamMachine.Run Machine.Free view (log ++ .accepted .writesDone :: more))
    (whole : broke (log ++ .accepted .writesDone :: more) = false)
    (unended : posts .finish log = 0)
    (finished : posts .finish (log ++ .accepted .writesDone :: more) ≠ 0) :
    0 < posts .wdone (log ++ .accepted .writesDone :: more) := by
  obtain ⟨before, rest, equal⟩ := List.append_of_mem (finish_mem finished)
  obtain ⟨between, rfl, split⟩ := split_after
    (posted_not_mem (show posts StreamPost.finish.op log = 0 from unended)) equal
  have law : broke (log ++ between) = true ∨ (Flushed (log ++ between) ∧
      (asked (log ++ between) = true → 0 < completed .wdone (log ++ between))) :=
    (lossless_of_run run).orderly _ _ _ equal
  rcases law with broken | ⟨-, closed⟩
  · rw [equal, broke_append, broken, Bool.true_or] at whole
    exact absurd whole (by simp)
  · have first : asked (log ++ between) = true := by
      cases between with
      | nil => exact absurd (List.cons.inj split).1 (by simp)
      | cons head tail =>
        obtain ⟨rfl, -⟩ := List.cons.inj split
        simp [asked]
    have through := closed first
    have returned := completed_le_returns .wdone (log ++ between)
    have counted := (traced_of_run run).posted .wdone
    rw [equal, returns_append] at counted
    rw [equal]
    omega

/-- A half-close that is acknowledged on a stream that is neither broken nor finishing is real. -/
theorem honoured_of_run
    (run : streamMachine.Run Machine.Free view (log ++ .accepted .writesDone :: more))
    (sane : broke log = false) (unended : posts .finish log = 0)
    (unposted : posts .wdone log = 0) :
    Honoured log (.accepted .writesDone :: more) view := by
  have phase := phase_of_run run
  have lossless := lossless_of_run run
  have sealed := sent_eq_nil (sealLaw_of_run run)
  refine ⟨sealed, posts_wdone_le_one phase.lawful, ?_, ?_⟩
  · intro before rest equal
    obtain ⟨between, rfl, split⟩ := split_after
      (posted_not_mem (show posts StreamPost.writesDone.op log = 0 from unposted)) equal
    have flushed : Flushed (log ++ between) := lossless.orderly _ _ _ equal
    have quiet : sent between = [] := by
      rw [split, sent_append] at sealed
      exact (List.append_eq_nil_iff.mp sealed).1
    have same : sent (log ++ between) = sent log := by
      rw [sent_append, quiet, List.append_nil]
    rw [← same]
    exact ⟨flushed.written, flushed.completed⟩
  · cases failed : broke (.accepted .writesDone :: more) with
    | true => exact Or.inl rfl
    | false =>
      cases shutting : view.shutting with
      | true => exact Or.inr (Or.inl rfl)
      | false =>
        have whole : broke (log ++ .accepted .writesDone :: more) = false := by
          rw [broke_append, sane, failed]
          rfl
        have once (some : 0 < posts .wdone (log ++ .accepted .writesDone :: more)) :
            posts .wdone (log ++ .accepted .writesDone :: more) = 1 :=
          Nat.le_antisymm (posts_wdone_le_one phase.lawful) some
        refine Or.inr (Or.inr ?_)
        by_cases finish : posts .finish (log ++ .accepted .writesDone :: more) = 0
        · exact (posted_of_asked run (by simp [asked]) whole shutting finish).imp_left once
        · exact Or.inl (once (posted_of_finished run whole unended finish))

end Honoured

/-! ### The half-close of a client stream -/

/-- Whether a stream is over: it is broken, or its finish was posted. -/
def StreamState.isOver (stream : StreamState) : Bool := stream.broken || stream.finishPosted

/-- The stream that R reaches under an id. -/
def RClient.streamWith (client : RClient) (id : Nat) : Option StreamState :=
  (client.streams.lookup id).bind fun address => (client.streamArena.cell address).object

/-- What `grpc_writes_done` promises of the step it takes: a half-close it acknowledges is of a
stream that is not over, and is honoured in every continuation; one on a stream that is half-closed
already, or over, is refused and changes nothing. -/
structure HalfCloseReal (wake : WakeHandle) (client : RClient) (log : List ClientObs) (id : Nat)
    (after : RClient) (news : List ClientObs) : Prop where
  real : ClientObs.result id .writesDone (.ok true) ∈ news → ∃ address stream,
    client.streams.lookup id = some address ∧
      (client.streamArena.cell address).object = some stream ∧ stream.isOver = false ∧
      ∀ later more, ((clientMachine wake).startedAt after).Run Machine.Free later more →
        Honoured (streamLog address log) (streamLog address (news ++ more)) (later.view address)
  refuses : client.closed = false → (∀ stream, client.streamWith id = some stream →
      stream.wdoneRequested = true ∨ stream.isOver = true) →
    after = client ∧ news = [.result id .writesDone (.ok false)]

/-- Whether the half-close of the stream with an id is answered as it should be: the client is
closed, or the stream, if there is one, was half-closed before or is not over. -/
def RClient.halfCloses (client : RClient) (id : Nat) : Bool :=
  client.closed ||
    (client.streamWith id).all fun stream => stream.wdoneRequested || !stream.isOver

/-- A half-close that is accepted on a stream that is not over is honoured in every continuation. -/
theorem Sound.honoured {wake : WakeHandle} {client after : RClient} {log news : List ClientObs}
    (sound : Sound client log) {id address : Nat} {stream : StreamState}
    (taken : clientStep client (.request id .writesDone) = some (after, news))
    (found : client.streams.lookup id = some address)
    (object : (client.streamArena.cell address).object = some stream)
    (unclosed : stream.wdoneRequested = false) (going : stream.isOver = false)
    {obs : List StreamObs}
    (shown : streamLog address news = .accepted .writesDone :: obs) {later : RClient}
    {more : List ClientObs}
    (on : ((clientMachine wake).startedAt after).Run Machine.Free later more) :
    Honoured (streamLog address log) (streamLog address (news ++ more)) (later.view address) := by
  have allocated := Arena.lt_size_of_object object
  have ledger := sound.ledger_of_found found object
  have output := (lossless_of_run (sound.streams address allocated)).output stream object
  obtain ⟨sane, unfinished⟩ : stream.broken = false ∧ stream.finishPosted = false := by
    simpa [StreamState.isOver] using going
  obtain ⟨-, inside⟩ := sound.onward_step allocated taken
  obtain ⟨whole, -, still⟩ := (sound.step taken).onward inside on
  have run := whole.streams address still
  have unposted : posts .wdone (streamLog address log) = 0 := by
    rw [ledger.halfClosed, if_neg]
    intro posted
    exact absurd (unclosed.symm.trans (ledger.drained posted).1) Bool.false_ne_true
  have unended : posts .finish (streamLog address log) = 0 := by
    rw [ledger.ended, unfinished]
    rfl
  rw [streamLog_append, streamLog_append, shown, List.append_assoc, List.cons_append] at run
  rw [streamLog_append, shown, List.cons_append]
  exact honoured_of_run run (output.broken.symm.trans sane) unended unposted

/-- In every state of every run, what `grpc_writes_done` promises holds of its step exactly when the
stream was half-closed before or is not over. -/
theorem half_close_real_iff {wake : WakeHandle} {client after : RClient} {log news : List ClientObs}
    (run : (clientMachine wake).Run Machine.Free client log) {id : Nat}
    (taken : clientStep client (.request id .writesDone) = some (after, news)) :
    HalfCloseReal wake client log id after news ↔ client.halfCloses id = true := by
  have sound := sound_of_run run
  have asked : client.request id .writesDone = (after, news) := by
    rw [clientStep] at taken
    split at taken
    · exact Option.some.inj taken
    · exact absurd taken (by simp)
  cases closed : client.closed with
  | true =>
    rw [RClient.request, if_pos closed, Prod.mk.injEq] at asked
    obtain ⟨rfl, rfl⟩ := asked
    refine iff_of_true ⟨fun told => absurd told (by simp), fun opened => ?_⟩ ?_
    · exact absurd (closed.symm.trans opened) (by simp)
    · rw [RClient.halfCloses, closed, Bool.true_or]
  | false =>
    cases found : client.streams.lookup id with
    | none =>
      have missing : client.streamWith id = none := by rw [RClient.streamWith, found]; rfl
      rw [RClient.request, if_neg (by simp [closed]), found, Prod.mk.injEq] at asked
      obtain ⟨rfl, rfl⟩ := asked
      refine iff_of_true ⟨fun told => absurd told (by simp), fun _ _ => ⟨rfl, rfl⟩⟩ ?_
      rw [RClient.halfCloses, missing, Option.all_none, Bool.or_true]
    | some address =>
      obtain ⟨stream, object, -⟩ := sound.streamTable id address found
      have reached : client.streamWith id = some stream := by
        rw [RClient.streamWith, found]
        exact object
      have same : client.halfCloses id = (stream.wdoneRequested || !stream.isOver) := by
        rw [RClient.halfCloses, closed, reached, Option.all_some, Bool.false_or]
      rw [request_of_found closed found object, Prod.mk.injEq] at asked
      rw [same]
      cases requested : stream.wdoneRequested with
      | true =>
        have refuses : StreamRequest.writesDone.answer client.shutting stream = refuse stream := by
          simp [StreamRequest.answer, writesDoneStream, requested]
        have refused := request_of_refuse closed found object refuses
        rw [request_of_found closed found object, asked.1, asked.2, Prod.mk.injEq] at refused
        obtain ⟨rfl, rfl⟩ := refused
        exact iff_of_true ⟨fun told => absurd told (by simp), fun _ _ => ⟨rfl, rfl⟩⟩ rfl
      | false =>
        have accepts : StreamRequest.writesDone.answer client.shutting stream =
            acceptAndPump client.shutting .writesDone { stream with wdoneRequested := true } := by
          simp [StreamRequest.answer, writesDoneStream, requested]
        rw [accepts] at asked
        have told : ClientObs.result id .writesDone (.ok true) ∈ news := by
          rw [← asked.2]
          exact List.mem_append_right _ List.mem_cons_self
        cases going : stream.isOver with
        | true =>
          refine iff_of_false (fun ideal => ?_) (by simp)
          obtain ⟨other, there, listed, stored, alive, -⟩ := ideal.real told
          obtain rfl := Option.some.inj (found.symm.trans listed)
          obtain rfl := Option.some.inj (object.symm.trans stored)
          exact absurd (going.symm.trans alive) (by simp)
        | false =>
          refine iff_of_true ⟨fun _ => ⟨address, stream, found, object, going,
            fun later more on => ?_⟩, fun _ refused => ?_⟩ rfl
          · have shown : streamLog address news = .accepted .writesDone ::
                (sPumpWritesLocked client.shutting { stream with wdoneRequested := true }).2 := by
              rw [← asked.2, streamLog_append, streamLog_map_self, (still_result _ _ _).streams,
                List.append_nil]
              rfl
            exact sound.honoured taken found object requested going shown on
          · rcases refused stream reached with absurdity | absurdity
            · exact absurd (requested.symm.trans absurdity) Bool.false_ne_true
            · exact absurd (going.symm.trans absurdity) Bool.false_ne_true

/-- A stream that is half-closed while a message is on its way. -/
def halfClosingInputs : List ClientInput :=
  [.streamStart (.text [47]) {} 0 16 16,
    .returned 0 .start { ok := true },
    .request 1 (.send [1])]

theorem half_close_real_honoured : ∃ client log after news,
    (clientMachine ⟨16, 0⟩).Run Machine.Free client log ∧
      clientStep client (.request 1 .writesDone) = some (after, news) ∧
      HalfCloseReal ⟨16, 0⟩ client log 1 after news := by
  have run := Machine.run_of_exec (show (clientMachine ⟨16, 0⟩).exec Machine.Free
    (clientMachine ⟨16, 0⟩).start halfClosingInputs = some _ from rfl)
  exact ⟨_, _, _, _, run, (show clientStep _ (.request 1 .writesDone) = some _ from rfl),
    (half_close_real_iff run
      (show clientStep _ (.request 1 .writesDone) = some _ from rfl)).mpr rfl⟩

/-- A stream whose first message could not be written, while its Read is still outstanding. -/
def failedInputs : List ClientInput :=
  halfClosingInputs ++ [.returned 0 .write { ok := false }]

/-- The half-close of a broken stream is acknowledged. -/
theorem half_close_not_real : ∃ client log after news,
    (clientMachine ⟨16, 0⟩).Run Machine.Free client log ∧
      clientStep client (.request 1 .writesDone) = some (after, news) ∧
      ClientObs.result 1 .writesDone (.ok true) ∈ news ∧
      ¬ HalfCloseReal ⟨16, 0⟩ client log 1 after news := by
  have run := Machine.run_of_exec (show (clientMachine ⟨16, 0⟩).exec Machine.Free
    (clientMachine ⟨16, 0⟩).start failedInputs = some _ from rfl)
  refine ⟨_, _, _, _, run, (show clientStep _ (.request 1 .writesDone) = some _ from rfl),
    List.mem_cons_of_mem _ List.mem_cons_self, fun real => ?_⟩
  obtain ⟨address, stream, found, object, going, -⟩ :=
    real.real (List.mem_cons_of_mem _ List.mem_cons_self)
  obtain rfl : 0 = address := Option.some.inj found
  obtain rfl := Option.some.inj object
  exact absurd going (by decide)

end Rgrpc.Client
