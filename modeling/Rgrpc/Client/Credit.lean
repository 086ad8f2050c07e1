/-
This file proves that the completion thread of a client never works on its own
account. Every operation of a stream that is still to come, posted or not, is
counted as the credit of the stream: its outstanding tags, the Reads its window
has room for, the messages queued, a half-close asked for, the Finish. A
completion uses up one unit of credit and what it posts was counted before, so
only R adds to the credit: by starting a call or a stream, by a send or a
half-close that is accepted, and by taking a message out of a full window.
-/

import Rgrpc.Library.Potential
import Rgrpc.Client.Output
import Rgrpc.Client.Window

namespace Rgrpc.Client

open Library

/-! ### What a stream can still post -/

/-- The room a window leaves beyond one more Read. -/
def StreamState.room (stream : StreamState) : Nat := (stream.readCap - stream.unread - 1).toNat

/-- The Reads a stream can still post. The first one is posted without a look at the window, the
others by the completion of the one before; a paused stream posts none. -/
def StreamState.readsAhead (stream : StreamState) : Nat :=
  if stream.started then if stream.readInflight then stream.room else 0 else stream.room + 1

/-- The Writes a stream can still post. -/
def StreamState.writesAhead (stream : StreamState) : Nat :=
  if stream.broken then 0
  else stream.writeQueue.length - if stream.writeInflight then 1 else 0

/-- Whether a stream can still post its half-close. -/
def StreamState.halfCloseAhead (stream : StreamState) : Nat :=
  if !stream.broken && stream.wdoneRequested && !stream.wdoneSent && !stream.wdoneInflight then 1
  else 0

/-- Whether a stream can still post its Finish. -/
def StreamState.finishAhead (stream : StreamState) : Nat := if stream.finishPosted then 0 else 1

/-- The operations a stream can still post without another request of R. -/
def StreamState.ahead (stream : StreamState) : Nat :=
  stream.readsAhead + stream.writesAhead + stream.halfCloseAhead + stream.finishAhead

/-- What a section leaves ahead, with what it posted. -/
def worth (left : StreamState × List StreamObs) : Nat :=
  left.1.ahead + (postedTags left.2).length

/-- A part of a section that posts only what was ahead of it adds nothing. -/
theorem worth_andThen {first : StreamState × List StreamObs}
    {next : StreamState → StreamState × List StreamObs} {bound : Nat}
    (before : worth first ≤ bound) (after : worth (next first.1) ≤ first.1.ahead) :
    worth (andThen first next) ≤ bound := by
  show (next first.1).1.ahead + (postedTags (first.2 ++ (next first.1).2)).length ≤ bound
  rw [postedTags_append, List.length_append]
  unfold worth at before after
  omega

section Helpers

variable (shutting : Bool) (stream : StreamState)

/-- What the pump posts was ahead. -/
theorem worth_sPumpWritesLocked : worth (sPumpWritesLocked shutting stream) ≤ stream.ahead := by
  rcases sPumpWritesLocked_cases shutting stream with
    same | ⟨-, -, sane, -, idle, ⟨front, rest, queue, same⟩ | ⟨-, asked, unsent, unposted, same⟩⟩
  · rw [same]
    exact Nat.le_refl _
  · have less : stream.writesAhead =
        { stream with writeInflight := true, pending := stream.pending + 1 }.writesAhead + 1 := by
      simp [StreamState.writesAhead, sane, idle, queue]
    rw [same]
    show stream.readsAhead +
      { stream with writeInflight := true, pending := stream.pending + 1 }.writesAhead +
      stream.halfCloseAhead + stream.finishAhead + 1 ≤ _
    rw [StreamState.ahead, less]
    omega
  · have less : stream.halfCloseAhead =
        { stream with
          wdoneInflight := true, pending := stream.pending + 1 }.halfCloseAhead + 1 := by
      simp [StreamState.halfCloseAhead, sane, asked, unsent, unposted]
    rw [same]
    show stream.readsAhead + stream.writesAhead +
      { stream with wdoneInflight := true, pending := stream.pending + 1 }.halfCloseAhead +
      stream.finishAhead + 1 ≤ _
    rw [StreamState.ahead, less]
    omega

/-- The Finish was ahead. -/
theorem worth_sTryFinishLocked : worth (sTryFinishLocked shutting stream) ≤ stream.ahead := by
  rcases sTryFinishLocked_cases shutting stream with same | ⟨-, -, -, open_, -, -, -, same⟩
  · rw [same]
    exact Nat.le_refl _
  · rw [same]
    simp [worth, StreamState.ahead, StreamState.readsAhead, StreamState.writesAhead,
      StreamState.halfCloseAhead, StreamState.finishAhead, StreamState.room, open_]

/-- A started stream without a Read outstanding posts one, and those its window has room for. -/
theorem worth_sPostReadLocked (started : stream.started = true)
    (idle : stream.readInflight = false) :
    worth (sPostReadLocked shutting stream) ≤ stream.ahead + stream.room + 1 := by
  rcases sPostReadLocked_cases shutting stream with same | ⟨-, -, -, -, -, -, same⟩
  · rw [same]
    show stream.ahead + 0 ≤ _
    omega
  · rw [same]
    simp [worth, StreamState.ahead, StreamState.readsAhead, StreamState.writesAhead,
      StreamState.halfCloseAhead, StreamState.finishAhead, StreamState.room, started, idle]
    omega

end Helpers

/-! ### The cases of the completion loop -/

section Handlers

variable {stream : StreamState} (shutting : Bool) (delivery : Delivery)

theorem worth_runStart (early : stream.started = false) (idle : stream.readInflight = false) :
    worth (runStart shutting delivery stream) ≤ stream.ahead := by
  refine worth_andThen ?_ (worth_sTryFinishLocked shutting _)
  split
  · refine worth_andThen ?_ (worth_sPumpWritesLocked shutting _)
    refine Nat.le_trans (worth_sPostReadLocked shutting { stream with started := true } rfl idle) ?_
    simp [StreamState.ahead, StreamState.readsAhead, StreamState.writesAhead,
      StreamState.halfCloseAhead, StreamState.finishAhead, StreamState.room, early, idle]
    omega
  · simp [worth, StreamState.ahead, StreamState.readsAhead, StreamState.writesAhead,
      StreamState.halfCloseAhead, StreamState.finishAhead, early, idle]

theorem worth_runRead (started : stream.started = true) (inflight : stream.readInflight = true) :
    worth (runRead shutting delivery stream) ≤ stream.ahead := by
  refine worth_andThen ?_ (worth_sTryFinishLocked shutting _)
  split
  · show worth (if stream.unread + 1 < stream.readCap then sPostReadLocked shutting { stream with
      readInflight := false, readBuf := delivery.message, unread := stream.unread + 1 } else _) ≤ _
    split
    · rename_i open_
      refine Nat.le_trans (worth_sPostReadLocked shutting _ started rfl) ?_
      simp [StreamState.ahead, StreamState.readsAhead, StreamState.writesAhead,
        StreamState.halfCloseAhead, StreamState.finishAhead, StreamState.room, started, inflight]
      omega
    · simp [worth, StreamState.ahead, StreamState.readsAhead, StreamState.writesAhead,
        StreamState.halfCloseAhead, StreamState.finishAhead, started, inflight]
  · simp [worth, StreamState.ahead, StreamState.readsAhead, StreamState.writesAhead,
      StreamState.halfCloseAhead, StreamState.finishAhead, started, inflight]

theorem worth_runWrite (inflight : stream.writeInflight = true) :
    worth (runWrite shutting delivery stream) ≤ stream.ahead := by
  refine worth_andThen ?_ (worth_sTryFinishLocked shutting _)
  split
  · rename_i delivered
    have sane : stream.broken = false := by
      simp only [Bool.and_eq_true, Bool.not_eq_true'] at delivered
      exact delivered.2
    refine worth_andThen ?_ (worth_sPumpWritesLocked shutting _)
    have silent : (postedTags (if stream.writeQueue.tail.isEmpty then
        [StreamObs.pushed { kind := .writable, id := stream.id }] else [])) = [] := by
      split <;> rfl
    refine Nat.le_trans (Nat.le_of_eq (congrArg (_ + ·.length) silent)) ?_
    simp [StreamState.ahead, StreamState.readsAhead, StreamState.writesAhead,
      StreamState.halfCloseAhead, StreamState.finishAhead, StreamState.room, sane, inflight]
  · simp [worth, StreamState.ahead, StreamState.readsAhead, StreamState.writesAhead,
      StreamState.halfCloseAhead, StreamState.finishAhead, StreamState.room]
    omega

theorem worth_runWdone (inflight : stream.wdoneInflight = true) :
    worth (runWdone shutting delivery stream) ≤ stream.ahead := by
  refine Nat.le_trans (worth_sTryFinishLocked shutting _) ?_
  split <;>
  · simp [StreamState.ahead, StreamState.readsAhead, StreamState.writesAhead,
      StreamState.halfCloseAhead, StreamState.finishAhead, StreamState.room, inflight]

/-- What the return of a tag posts was ahead of its stream. -/
theorem worth_runStream {tags : List TagKind} {log : List StreamObs}
    (ledger : Ledger stream tags log) {op : TagKind} (outstanding : op ∈ tags) :
    worth (runStream shutting op delivery stream) ≤ stream.ahead := by
  cases op with
  | start =>
    have early := ledger.started_of_start outstanding
    exact worth_runStart shutting delivery early (ledger.unstarted early).1
  | read =>
    have inflight := (mem_iff_flag ledger.read).mp outstanding
    refine worth_runRead shutting delivery ?_ inflight
    by_contra early
    rw [Bool.not_eq_true] at early
    exact absurd ((ledger.unstarted early).1.symm.trans inflight) Bool.false_ne_true
  | write =>
    exact worth_runWrite shutting delivery ((mem_iff_flag ledger.write).mp outstanding)
  | wdone =>
    exact worth_runWdone shutting delivery ((mem_iff_flag ledger.wdone).mp outstanding)
  | finish => exact Nat.le_refl _

end Handlers

/-! ### What R does to a stream -/

section Requests

variable {shutting : Bool} {stream : StreamState}

/-- A request that is accepted adds one operation. -/
theorem worth_answer (request : StreamRequest) :
    worth ((request.answer shutting stream).stream, (request.answer shutting stream).obs) ≤
      stream.ahead + if (request.answer shutting stream).value then 1 else 0 := by
  have pumps (request : StreamRequest) (other : StreamState) :
      worth ((acceptAndPump shutting request other).stream,
        (acceptAndPump shutting request other).obs) ≤ other.ahead := by
    exact worth_sPumpWritesLocked shutting other
  rcases answer_cases shutting request stream with
    same | ⟨bytes, -, sane, -, -, -, same⟩ | ⟨-, unasked, same⟩
  · rw [same]
    exact Nat.le_refl _
  · rw [same]
    refine Nat.le_trans (pumps _ _) ?_
    simp [acceptAndPump, StreamState.ahead, StreamState.readsAhead, StreamState.writesAhead,
      StreamState.halfCloseAhead, StreamState.finishAhead, StreamState.room, sane]
    omega
  · rw [same]
    refine Nat.le_trans (pumps _ _) ?_
    have once : { stream with wdoneRequested := true }.halfCloseAhead ≤ 1 := by
      unfold StreamState.halfCloseAhead
      split
      · exact Nat.le_refl 1
      · exact Nat.zero_le 1
    have asked : stream.halfCloseAhead = 0 := by
      simp [StreamState.halfCloseAhead, unasked]
    show stream.readsAhead + stream.writesAhead +
      { stream with wdoneRequested := true }.halfCloseAhead + stream.finishAhead ≤ stream.ahead + 1
    rw [StreamState.ahead, asked]
    omega

/-- A message taken makes room for one Read. A stream that is paused has no other room, since its
window was full. -/
theorem worth_takeMessage (engaged : Engaged shutting stream) (waiting : 1 ≤ stream.unread) :
    worth (takeMessage shutting stream) ≤ stream.ahead + 1 := by
  have kept : { stream with unread := stream.unread - 1 }.ahead ≤ stream.ahead + 1 := by
    have one : { stream with unread := stream.unread - 1 }.room ≤ stream.room + 1 := by
      show (stream.readCap - (stream.unread - 1) - 1).toNat ≤
        (stream.readCap - stream.unread - 1).toNat + 1
      omega
    have reads : { stream with unread := stream.unread - 1 }.readsAhead ≤
        stream.readsAhead + 1 := by
      unfold StreamState.readsAhead
      split_ifs <;> omega
    show _ + stream.writesAhead + stream.halfCloseAhead + stream.finishAhead ≤ _
    rw [StreamState.ahead]
    omega
  show worth (if stream.unread - 1 < stream.readCap then sPostReadLocked shutting
    { stream with unread := stream.unread - 1 } else _) ≤ _
  split
  · rename_i open_
    rcases sPostReadLocked_cases shutting { stream with unread := stream.unread - 1 } with
      same | ⟨running, started, idle, unclosed, sane, unfinished, same⟩
    · rw [same]
      exact kept
    · have full := (engaged.paused (by omega) running started unclosed sane unfinished).mp idle
      rw [same]
      simp only at started idle
      simp [worth, StreamState.ahead, StreamState.readsAhead, StreamState.writesAhead,
        StreamState.halfCloseAhead, StreamState.finishAhead, StreamState.room, started, idle]
      omega
  · exact kept

end Requests

/-! ### The credit of a client -/

/-- The credit of a stream: its tags outstanding and what it can still post. A stream that was not
opened never posts anything. -/
def streamCredit (cell : Cell StreamState TagKind) : Nat :=
  cell.tags.length +
    (cell.object.map fun stream => if stream.id = 0 then 0 else stream.ahead).getD 0

/-- The completions a client can still handle without another request of R. -/
def RClient.credit (client : RClient) : Nat :=
  client.callArena.total (fun cell => cell.tags.length) + client.streamArena.total streamCredit

/-- One completion handled: the event of a unary call, or a tag of a stream returned. -/
def ClientObs.completes : ClientObs → Nat
  | .unary _ (.pushed _) => 1
  | .stream _ (.returned _ _ _) => 1
  | _ => 0

/-- What a step of R adds to the credit, with streams of at most a read buffer: one for a unary
call, an accepted request or a message taken; for a stream its StartCall, the first Read and those
its buffer has room for, and its Finish. -/
def ClientObs.grants (readBuffer : Int) : ClientObs → Nat
  | .unary _ (.posted _ _ _) => 1
  | .stream _ (.posted .startCall) => (readBuffer - 1).toNat + 3
  | .stream _ (.accepted _) => 1
  | .stream _ .taken => 1
  | _ => 0

/-- The guard that bounds the read buffers of the streams R starts. -/
def ReadBuffers (readBuffer : Int) (_ : RClient) : ClientInput → Prop
  | .streamStart _ _ _ readCap _ => readCap ≤ readBuffer
  | _ => True

instance (readBuffer : Int) (client : RClient) (input : ClientInput) :
    Decidable (ReadBuffers readBuffer client input) :=
  match input with
  | .streamStart _ _ _ readCap _ => inferInstanceAs (Decidable (readCap ≤ readBuffer))
  | .unary _ _ | .returned _ _ _ | .callStart _ _ _ _ | .request _ _ | .cancel _ | .poll _ _
  | .woken _ _ | .close | .joined => .isTrue trivial

section Credit

variable {client : RClient} {log : List ClientObs}

/-- A section that is not a handler handles no completion. -/
theorem completes_of_isAct {obs : List StreamObs} (address : Nat)
    (acts : ∀ entry ∈ obs, entry.isAct = true) :
    weigh ClientObs.completes (obs.map (ClientObs.stream address)) = 0 := by
  rw [weigh_map]
  refine weigh_eq_zero fun entry member => ?_
  cases entry with
  | posted post => rfl
  | pushed event => rfl
  | _ => exact absurd (acts _ member) Bool.false_ne_true

/-- A request that is accepted is granted for. -/
theorem grants_answer (shutting : Bool) (stream : StreamState) (request : StreamRequest)
    (address : Nat) (readBuffer : Int) :
    weigh ClientObs.completes
        ((request.answer shutting stream).obs.map (ClientObs.stream address)) = 0 ∧
      (if (request.answer shutting stream).value then 1 else 0) ≤
        weigh (ClientObs.grants readBuffer)
          ((request.answer shutting stream).obs.map (ClientObs.stream address)) := by
  have pumps (request : StreamRequest) (other : StreamState) :
      weigh ClientObs.completes
          ((acceptAndPump shutting request other).obs.map (ClientObs.stream address)) = 0 ∧
        1 ≤ weigh (ClientObs.grants readBuffer)
          ((acceptAndPump shutting request other).obs.map (ClientObs.stream address)) := by
    refine ⟨?_, Nat.le_add_right 1 _⟩
    show 0 + weigh _ ((sPumpWritesLocked shutting other).2.map _) = 0
    rw [completes_of_isAct address (isAct_sPumpWritesLocked shutting other)]
  rcases answer_cases shutting request stream with
    same | ⟨bytes, -, -, -, -, -, same⟩ | ⟨-, -, same⟩
  · rw [same]
    exact ⟨rfl, Nat.le_refl 0⟩
  · rw [same]
    exact pumps _ _
  · rw [same]
    exact pumps _ _

theorem streamCredit_sectionCell (left : StreamState × List StreamObs) (tags : List TagKind)
    (named : left.1.id ≠ 0) : streamCredit (sectionCell left tags) = tags.length + worth left := by
  simp [streamCredit, sectionCell, worth, named]
  omega

theorem Still.completes {news : List ClientObs} (still : Still news) :
    weigh ClientObs.completes news = 0 := by
  refine weigh_eq_zero fun entry member => ?_
  cases entry with
  | unary address obs =>
    have shown := mem_unaryLog_iff.mpr member
    rw [still.calls address] at shown
    exact absurd shown List.not_mem_nil
  | stream address obs =>
    have shown := mem_streamLog_iff.mpr member
    rw [still.streams address] at shown
    exact absurd shown List.not_mem_nil
  | _ => rfl

/-- A section of an opened stream changes the credit of the client by what it changes of the
stream. -/
theorem credit_withSection {address : Nat} {stream : StreamState}
    {left : StreamState × List StreamObs}
    (object : (client.streamArena.cell address).object = some stream) (named : stream.id ≠ 0)
    (same : left.1.id = stream.id) :
    (client.withSection address left).credit + stream.ahead = client.credit + worth left := by
  have exchanged := Arena.total_set streamCredit (Arena.lt_size_of_object object)
    (sectionCell left (client.streamArena.cell address).tags)
  rw [streamCredit_sectionCell left _ (by rw [same]; exact named)] at exchanged
  have before : streamCredit (client.streamArena.cell address) =
      (client.streamArena.cell address).tags.length + stream.ahead := by
    simp [streamCredit, object, named]
  rw [before] at exchanged
  show client.callArena.total _ + (client.streamArena.set address _).total streamCredit + _ = _
  rw [RClient.credit]
  omega

/-- A message a poll takes is granted for. -/
theorem credit_account (sound : Sound client log) (readBuffer : Int) {queue : List ClEvent}
    (tallied : Tallied client queue) {event : ClEvent} (member : event ∈ queue) :
    (client.account event).1.credit ≤
      client.credit + weigh (ClientObs.grants readBuffer) (client.account event).2 := by
  rcases account_cases client event with ⟨-, same⟩ | ⟨address, -, found, missing, -⟩ |
    ⟨address, stream, message, found, object, same⟩
  · rw [same]
    exact Nat.le_refl _
  · obtain ⟨stream, object, -⟩ := sound.streamTable event.id address found
    exact absurd (missing.symm.trans object) (by simp)
  · obtain ⟨stream', object', named, nonzero⟩ := sound.streamTable event.id address found
    obtain rfl := Option.some.inj (object.symm.trans object')
    have waiting : 1 ≤ stream.unread := by
      rw [tallied.counted event.id address stream found object]
      have one := List.countP_pos_iff.mpr
        ⟨event, member, show event.messageOf event.id = true by simp [ClEvent.messageOf, message]⟩
      omega
    have exchanged := credit_withSection object (by rw [named]; exact nonzero)
      (frame_takeMessage client.shutting stream).id
    have paid := worth_takeMessage (sound.engaged object) waiting
    rw [same]
    have granted : 1 ≤ weigh (ClientObs.grants readBuffer)
        ((takeMessage client.shutting stream).2.map (ClientObs.stream address)) := by
      rw [weigh_map]
      exact Nat.le_add_right 1 _
    show (client.withSection address _).credit ≤ client.credit +
      weigh (ClientObs.grants readBuffer) ((takeMessage client.shutting stream).2.map _)
    omega

/-- A poll adds one to the credit for each message it takes. -/
theorem credit_pollTake (sound : Sound client log) (tallied : Tallied client client.ready)
    (readBuffer : Int) (args : PollArgs) :
    (client.pollTake args).1.credit ≤
        client.credit + weigh (ClientObs.grants readBuffer) (client.pollTake args).2 ∧
      weigh ClientObs.completes (client.pollTake args).2 = 0 := by
  have loop := @takeLoop_queue_invariant _ _ _ (fun event : ClEvent => args.wants event.id)
    RClient.account args.maxEvents (fun state seen queue =>
      (Sound state seen ∧ Tallied state queue) ∧
        state.credit + weigh (ClientObs.grants readBuffer) log ≤
          client.credit + weigh (ClientObs.grants readBuffer) seen)
    (fun state seen skipped event rest _ before => by
      refine ⟨⟨before.1.1.account event, before.1.2.account before.1.1⟩, ?_⟩
      have paid := credit_account before.1.1 readBuffer before.1.2
        (List.mem_append_right skipped List.mem_cons_self)
      have earlier := before.2
      rw [weigh_append]
      omega)
    client.ready 0 client log [] ⟨⟨sound, tallied⟩, Nat.le_refl _⟩
  have paid := loop.2
  rw [weigh_append] at paid
  constructor
  · rw [RClient.pollTake, weigh_append]
    show RClient.credit _ ≤ _ + (_ + 0)
    refine Nat.le_trans (m := (takeLoop (fun event : ClEvent => args.wants event.id)
      RClient.account args.maxEvents client.ready 0 client).state.credit) (Nat.le_refl _) ?_
    omega
  · rw [RClient.pollTake, weigh_append]
    refine Nat.add_eq_zero_iff.mpr ⟨weigh_eq_zero fun entry member => ?_, rfl⟩
    cases collected_takeLoop client args entry member <;> rfl

/-- The return of a tag uses up one unit of credit. -/
theorem credit_handleStream (sound : Sound client log) {address : Nat} {op : TagKind}
    (delivery : Delivery) {stream : StreamState}
    (outstanding : op ∈ (client.streamArena.cell address).tags)
    (object : (client.streamArena.cell address).object = some stream) :
    weigh ClientObs.completes (client.handleStream address op delivery stream).2 = 1 ∧
      (client.handleStream address op delivery stream).1.credit + 1 ≤ client.credit := by
  obtain ⟨stream', object', ledger, named⟩ := sound.stream_of_mem outstanding
  obtain rfl := Option.some.inj (object.symm.trans object')
  refine ⟨?_, ?_⟩
  · have acts := completes_of_isAct address
      (isAct_runStream client.shutting stream op delivery)
    rw [RClient.handleStream, handleTag]
    simp only [List.cons_append, List.map_cons, List.map_append, weigh_cons, weigh_append, acts]
    split <;> rfl
  have worth := worth_runStream client.shutting delivery ledger outstanding
  have positive := List.length_pos_of_mem outstanding
  have left : streamCredit (handleTag client.shutting op delivery stream
      (client.streamArena.cell address).tags).1 + 1 ≤
      streamCredit (client.streamArena.cell address) := by
    have before : streamCredit (client.streamArena.cell address) =
        (client.streamArena.cell address).tags.length + stream.ahead := by
      simp [streamCredit, object, named]
    rw [before, handleTag, streamCredit]
    simp only [List.length_append, List.length_erase_of_mem outstanding]
    unfold Client.worth at worth
    split
    · rw [Option.map_none, Option.getD_none]
      omega
    · rw [Option.map_some, Option.getD_some, runStream_id, if_neg named]
      omega
  have exchanged := Arena.total_set streamCredit (Arena.lt_size_of_object object)
    (handleTag client.shutting op delivery stream (client.streamArena.cell address).tags).1
  show client.callArena.total _ + (client.streamArena.set address _).total streamCredit + 1 ≤ _
  rw [RClient.credit]
  omega

/-- The completion of a unary call uses up one unit of credit. -/
theorem credit_handleUnary (sound : Sound client log) {address : Nat} (delivery : Delivery)
    (call : CallState) (outstanding : .unary ∈ (client.callArena.cell address).tags) :
    weigh ClientObs.completes (client.handleUnary address delivery call).2 = 1 ∧
      (client.handleUnary address delivery call).1.credit + 1 ≤ client.credit := by
  obtain ⟨call', cell, -⟩ := sound.call_of_mem outstanding
  have exchanged := Arena.total_set (fun cell => cell.tags.length)
    (Arena.lt_size_of_mem_tags outstanding)
    (⟨none, (client.callArena.cell address).tags.erase .unary⟩ : Cell CallState UnaryOp)
  rw [cell] at exchanged
  simp only [List.erase_cons_head, List.length_nil, List.length_singleton] at exchanged
  refine ⟨rfl, ?_⟩
  show (client.callArena.set address _).total _ + client.streamArena.total _ + 1 ≤ _
  rw [cell, RClient.credit]
  simp only [List.erase_cons_head]
  omega

/-- No step handles more completions than it takes from the credit and is granted. -/
theorem credit_step (sound : Sound client log) (tallied : Tallied client client.ready)
    {readBuffer : Int} {after : RClient} {input : ClientInput} {news : List ClientObs}
    (permitted : ReadBuffers readBuffer client input)
    (taken : clientStep client input = some (after, news)) :
    after.credit + weigh ClientObs.completes news ≤
      client.credit + weigh (ClientObs.grants readBuffer) news := by
  cases turn_of_step taken with
  | unary address delivery call outstanding object =>
    obtain ⟨once, paid⟩ := credit_handleUnary sound delivery call outstanding
    rw [once]
    exact paid.trans (Nat.le_add_right _ _)
  | returned address op delivery stream outstanding object =>
    obtain ⟨once, paid⟩ := credit_handleStream sound delivery outstanding object
    rw [once]
    exact paid.trans (Nat.le_add_right _ _)
  | leakCall method request opts now error opened named raises =>
    show (client.callArena.push _).total _ + client.streamArena.total _ + 0 ≤ _
    rw [Arena.total_push]
    exact Nat.le_refl _
  | leakStream method opts now readCap writeCap error opened named raises =>
    show client.callArena.total _ + (client.streamArena.push _).total _ + 0 ≤ _
    rw [Arena.total_push]
    exact Nat.le_refl _
  | callStarted method request opts now name context opened clean =>
    show (client.callArena.push _).total _ + client.streamArena.total _ + 0 ≤ client.credit + 1
    rw [Arena.total_push, RClient.credit]
    simp only [List.length_singleton]
    omega
  | streamStarted method opts now readCap writeCap opened clean =>
    have bound : readCap ≤ readBuffer := permitted
    have opens : streamCredit (sectionCell
        (openStream client.nextId readCap (sizeOfInteger writeCap) {}) []) =
        (readCap - 1).toNat + 3 := by
      rw [streamCredit_sectionCell _ _ (Nat.ne_of_gt sound.numbered)]
      simp [worth, openStream, StreamState.ahead, StreamState.readsAhead, StreamState.writesAhead,
        StreamState.halfCloseAhead, StreamState.finishAhead, StreamState.room, StreamPost.op]
    show client.callArena.total _ + (client.streamArena.push _).total _ + 0 ≤
      client.credit + ((readBuffer - 1).toNat + 3 + 0)
    rw [Arena.total_push, opens, RClient.credit]
    omega
  | request id request address stream opened found object =>
    obtain ⟨stream', object', named, nonzero⟩ := sound.streamTable id address found
    obtain rfl := Option.some.inj (object.symm.trans object')
    have exchanged := credit_withSection object (by rw [named]; exact nonzero)
      (frame_answer client.shutting request stream).id
    have added := @worth_answer client.shutting stream request
    obtain ⟨silent, granted⟩ := grants_answer client.shutting stream request address readBuffer
    rw [weigh_append, weigh_append, silent]
    show (client.withSection address _).credit + (0 + 0) ≤ client.credit + (_ + 0)
    omega
  | polled input wake args origin =>
    have paid := credit_pollTake (sound.idle wake client.ready client.rthread fun _ => rfl)
      ⟨tallied.counted, tallied.behind⟩ readBuffer args
    rw [paid.2]
    exact paid.1
  | quiet input after news quiet origin =>
    rw [quiet.still.completes, quiet.same]
    exact Nat.le_add_right _ _
  | closing opened => exact Nat.le_refl _
  | joined after news joining ended =>
    obtain ⟨-, -, rfl, rfl⟩ := sound.endClose_eq ended
    have swept := Arena.total_deleteAll_le streamCredit (fun cell => Nat.le_add_right _ _)
      client.streamArena (client.streams.entries.map Sigma.snd)
    have silent : weigh ClientObs.completes ((client.streams.entries.map Sigma.snd).map
        fun address => ClientObs.stream address .deleted) = 0 := by
      rw [weigh_map]
      exact weigh_eq_zero fun _ _ => rfl
    rw [silent]
    exact (Nat.add_le_add_left swept _).trans (Nat.le_add_right _ _)
  | lost input after news lost => exact absurd lost sound.not_lost

end Credit

/-! ### Every completion is granted by R -/

/-- From every reachable state of a client, in every continuation in which R starts streams of at
most a read buffer, the completions handled are at most the credit of the client and what R
grants on the way: one for a unary call, a send or a half-close that is accepted, or a message
taken, and for a stream three and what its buffer has room for. A completion thread that R leaves
alone comes to rest. -/
theorem completions_granted (wake : WakeHandle) (client : RClient) (log : List ClientObs)
    (run : (clientMachine wake).Run Machine.Free client log) (readBuffer : Int) (later : RClient)
    (more : List ClientObs)
    (on : ((clientMachine wake).startedAt client).Run (ReadBuffers readBuffer) later more) :
    later.credit + weigh ClientObs.completes more ≤
      client.credit + weigh (ClientObs.grants readBuffer) more :=
  (run.amortised (fun _ => True) RClient.credit ClientObs.completes
    (ClientObs.grants readBuffer) (fun before _ permitted taken =>
      ⟨trivial, credit_step (sound_of_run before) (tallied_of_run before) permitted taken⟩)
    trivial on).2

/-- A stream with room for two messages that sends one, reads two and is paused: of what was
granted only its Finish is left. -/
def creditInputs : List ClientInput :=
  [.streamStart (.text [47]) {} 0 2 16, .request 1 (.send [7]), .returned 0 .start { ok := true },
    .returned 0 .read { ok := true, message := .ofRaw [1] }, .returned 0 .write { ok := true },
    .returned 0 .read { ok := true, message := .ofRaw [2] }]

theorem completions_granted_paused : ∃ later more,
    ((clientMachine ⟨16, 0⟩).startedAt { wake := ⟨16, 0⟩ }).Run (ReadBuffers 2) later more ∧
      weigh ClientObs.completes more = 4 ∧ weigh (ClientObs.grants 2) more = 5 ∧
      later.credit = 1 ∧ later.credit + weigh ClientObs.completes more ≤
        RClient.credit { wake := ⟨16, 0⟩ } + weigh (ClientObs.grants 2) more := by
  have on := Machine.run_of_exec (show ((clientMachine ⟨16, 0⟩).startedAt _).exec (ReadBuffers 2)
    { wake := ⟨16, 0⟩ } creditInputs = some _ from rfl)
  exact ⟨_, _, on, rfl, rfl, rfl, completions_granted ⟨16, 0⟩ _ _ .start 2 _ _ on⟩

end Rgrpc.Client
