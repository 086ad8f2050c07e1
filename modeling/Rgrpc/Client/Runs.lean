/-
This file connects the client to its streams and unary calls, as
`Rgrpc/Server/Runs.lean` does for the server: every run of the client is, for
each stream it allocated, a run of `streamMachine`. A poll may take several
messages of one stream, so one step of the client may be several steps of a
stream.
-/

import Rgrpc.Client.Inversion
import Rgrpc.Client.Phase
import Rgrpc.Library.Registry

namespace Rgrpc.Client

open Library

/-! ### What holds of a client between locked sections -/

/-- How often a unary call was deleted. -/
def unaryDeletions (log : List UnaryObs) : Nat := log.count .deleted

/-- The phase a unary call is in: allocated and not started, waiting for its only tag, or gone. -/
inductive UnaryPhase (cell : Cell CallState UnaryOp) (log : List UnaryObs) : Prop
  | fresh (same : cell = ⟨some {}, []⟩) (silent : log = [])
  | waiting (call : CallState) (same : cell = ⟨some call, [.unary]⟩) (named : call.id ≠ 0)
      (kept : unaryDeletions log = 0)
  | gone (same : cell = ⟨none, []⟩) (deleted : unaryDeletions log = 1)

/-- What holds of a client and its log between locked sections: each of its streams is a run of
`streamMachine` and each of its calls is in a phase, an address that was not handed out has no
history, the two tables hold exactly the calls and streams that were started and are there, under
their own ids, the ids handed out are behind the next one, the client shuts down exactly when it
is closed, and no deleted object was used. -/
structure Sound (client : RClient) (log : List ClientObs) : Prop where
  streams : ∀ address, address < client.streamArena.size →
    streamMachine.Run Machine.Free (client.view address) (streamLog address log)
  unusedStreams : ∀ address, client.streamArena.size ≤ address → streamLog address log = []
  streamTable : ∀ id address, client.streams.lookup id = some address →
    ∃ stream, (client.streamArena.cell address).object = some stream ∧ stream.id = id ∧ id ≠ 0
  streamListed : ∀ address stream, (client.streamArena.cell address).object = some stream →
    stream.id ≠ 0 → client.streams.lookup stream.id = some address
  streamIds : ∀ address stream, (client.streamArena.cell address).object = some stream →
    stream.id < client.nextId
  calls : ∀ address, address < client.callArena.size →
    UnaryPhase (client.callArena.cell address) (unaryLog address log)
  unusedCalls : ∀ address, client.callArena.size ≤ address → unaryLog address log = []
  callTable : ∀ id address, client.calls.lookup id = some address →
    ∃ call, (client.callArena.cell address).object = some call ∧ call.id = id ∧ id ≠ 0
  callListed : ∀ address call, (client.callArena.cell address).object = some call →
    call.id ≠ 0 → client.calls.lookup call.id = some address
  callIds : ∀ address call, (client.callArena.cell address).object = some call →
    call.id < client.nextId
  numbered : 0 < client.nextId
  closing : client.shutting = client.closed
  joining : client.rthread = .joining → client.closed = true
  drained : client.rthread = .gone → client.closed = true ∧ client.streamArena.Idle ∧
    client.callArena.Idle ∧ client.streams.entries = []
  safe : ∀ address, ClientObs.useAfterFree address ∉ log

theorem Sound.phase {client : RClient} {log : List ClientObs} (sound : Sound client log)
    {address : Nat} (allocated : address < client.streamArena.size) :
    Phase (client.view address) (streamLog address log) :=
  phase_of_run (sound.streams address allocated)

/-- A tag outstanding at an address leads to a stream that is still there. -/
theorem Sound.stream_of_mem {client : RClient} {log : List ClientObs} (sound : Sound client log)
    {address : Nat} {op : TagKind}
    (outstanding : op ∈ (client.streamArena.cell address).tags) :
    ∃ stream, (client.streamArena.cell address).object = some stream ∧
      Ledger stream (client.streamArena.cell address).tags (streamLog address log) ∧
      stream.id ≠ 0 :=
  (sound.phase (Arena.lt_size_of_mem_tags outstanding)).ledger_of_mem outstanding

/-- A stream in the table has its ledger. -/
theorem Sound.ledger_of_found {client : RClient} {log : List ClientObs} (sound : Sound client log)
    {id address : Nat} {stream : StreamState}
    (found : client.streams.lookup id = some address)
    (object : (client.streamArena.cell address).object = some stream) :
    Ledger stream (client.streamArena.cell address).tags (streamLog address log) := by
  obtain ⟨stream', object', named, nonzero⟩ := sound.streamTable id address found
  obtain rfl := Option.some.inj (object.symm.trans object')
  cases sound.phase (Arena.lt_size_of_object object) with
  | fresh cell silent =>
    rw [show (client.streamArena.cell address).object = some {} from congrArg Cell.object cell]
      at object
    obtain rfl := Option.some.inj object
    exact absurd named.symm nonzero
  | live other same _ ledger _ _ =>
    obtain rfl := Option.some.inj (object.symm.trans same)
    exact ledger
  | gone cell _ _ =>
    rw [show (client.streamArena.cell address).object = none from congrArg Cell.object cell]
      at object
    exact absurd object (by simp)

theorem Sound.call_of_mem {client : RClient} {log : List ClientObs} (sound : Sound client log)
    {address : Nat} (outstanding : .unary ∈ (client.callArena.cell address).tags) :
    ∃ call, client.callArena.cell address = ⟨some call, [.unary]⟩ ∧ call.id ≠ 0 ∧
      unaryDeletions (unaryLog address log) = 0 := by
  cases sound.calls address (Arena.lt_size_of_mem_tags outstanding) with
  | fresh same silent =>
    rw [same] at outstanding
    exact absurd outstanding List.not_mem_nil
  | waiting call same named kept => exact ⟨call, same, named, kept⟩
  | gone same deleted =>
    rw [same] at outstanding
    exact absurd outstanding List.not_mem_nil

/-- No input leads to an object that is not there. -/
theorem Sound.not_lost {client : RClient} {log : List ClientObs} (sound : Sound client log)
    {input : ClientInput} : ¬ Lost client input := by
  intro lost
  cases lost with
  | unary address delivery outstanding missing =>
    obtain ⟨call, cell, -⟩ := sound.call_of_mem outstanding
    rw [cell] at missing
    exact absurd missing (by simp)
  | returned address op delivery outstanding missing =>
    obtain ⟨stream, object, -⟩ := sound.stream_of_mem outstanding
    exact absurd (object.symm.trans missing) (by simp)
  | request id request address found missing =>
    obtain ⟨stream, object, -⟩ := sound.streamTable id address found
    exact absurd (object.symm.trans missing) (by simp)

/-- The table of streams names the streams that were started and are there. -/
theorem Sound.streamRegistry {client : RClient} {log : List ClientObs} (sound : Sound client log) :
    Registry StreamState.id client.streams client.streamArena client.nextId :=
  ⟨sound.streamTable, sound.streamListed, sound.streamIds⟩

theorem Sound.callRegistry {client : RClient} {log : List ClientObs} (sound : Sound client log) :
    Registry CallState.id client.calls client.callArena client.nextId :=
  ⟨sound.callTable, sound.callListed, sound.callIds⟩

theorem sound_start (wake : WakeHandle) : Sound { wake } [] where
  streams := fun address allocated => absurd allocated (Nat.not_lt_zero address)
  unusedStreams := fun _ _ => rfl
  streamTable := (registry_empty _ 1).found
  streamListed := (registry_empty _ 1).listed
  streamIds := (registry_empty _ 1).behind
  calls := fun address allocated => absurd allocated (Nat.not_lt_zero address)
  unusedCalls := fun _ _ => rfl
  callTable := (registry_empty _ 1).found
  callListed := (registry_empty _ 1).listed
  callIds := (registry_empty _ 1).behind
  numbered := Nat.one_pos
  closing := rfl
  joining := fun absurdity => absurd absurdity (by simp)
  drained := fun absurdity => absurd absurdity (by simp)
  safe := fun address => List.not_mem_nil

/-! ### Steps that leave the calls and streams alone -/

/-- Observations that say nothing of any stream or call keep a client sound. -/
theorem Sound.note {client : RClient} {log obs : List ClientObs} (sound : Sound client log)
    (still : Still obs) : Sound client (log ++ obs) :=
  { sound with
    streams := fun address allocated => by
      rw [streamLog_append, still.streams, List.append_nil]
      exact sound.streams address allocated
    unusedStreams := fun address beyond => by
      rw [streamLog_append, still.streams, List.append_nil]
      exact sound.unusedStreams address beyond
    calls := fun address allocated => by
      rw [unaryLog_append, still.calls, List.append_nil]
      exact sound.calls address allocated
    unusedCalls := fun address beyond => by
      rw [unaryLog_append, still.calls, List.append_nil]
      exact sound.unusedCalls address beyond
    safe := fun address => by simp [sound.safe address, still.safe address] }

/-- The queue of events, the wake handle and the R thread may change, as long as no close is
claimed to be over. -/
theorem Sound.idle {client : RClient} {log : List ClientObs} (sound : Sound client log)
    (wake : WakeHandle) (ready : List ClEvent) (rthread : RThread)
    (thread : rthread = .joining ∨ rthread = .gone → rthread = client.rthread) :
    Sound { client with wake, ready, rthread } log :=
  { sound with
    joining := fun now => sound.joining ((thread (Or.inl now)).symm.trans now)
    drained := fun now => sound.drained ((thread (Or.inr now)).symm.trans now) }

theorem Sound.quiet {client after : RClient} {log news : List ClientObs}
    (sound : Sound client log) (quiet : Quiet client after news) : Sound after (log ++ news) := by
  rw [quiet.same]
  exact (sound.note quiet.still).idle after.wake after.ready after.rthread quiet.thread

/-! ### Sections of one stream -/

/-- What a section of an opened stream that is not a handler can be. -/
def SectionOf (client : RClient) (stream : StreamState)
    (left : StreamState × List StreamObs) : Prop :=
  (∃ request : StreamRequest, left = ((request.answer client.shutting stream).stream,
      (request.answer client.shutting stream).obs)) ∨
    left = takeMessage client.shutting stream

theorem SectionOf.frame {client : RClient} {stream : StreamState}
    {left : StreamState × List StreamObs} (origin : SectionOf client stream left) :
    Frame stream left := by
  rcases origin with ⟨request, rfl⟩ | rfl
  · exact frame_answer client.shutting request stream
  · exact frame_takeMessage client.shutting stream

theorem SectionOf.step {client : RClient} {address : Nat} {stream : StreamState}
    {left : StreamState × List StreamObs} (origin : SectionOf client stream left)
    (object : (client.streamArena.cell address).object = some stream) (named : stream.id ≠ 0) :
    ∃ input, streamStep (client.view address) input =
      some (⟨sectionCell left (client.streamArena.cell address).tags, client.shutting⟩,
        left.2) := by
  rcases origin with ⟨request, rfl⟩ | rfl
  · refine ⟨.request request, ?_⟩
    simp [streamStep, RClient.view, object, Option.filter, named]
  · refine ⟨.taken, ?_⟩
    simp [streamStep, RClient.view, object, Option.filter, named]

/-- A section of one stream keeps the client sound. -/
theorem Sound.withSection {client : RClient} {log : List ClientObs} (sound : Sound client log)
    {id address : Nat} {stream : StreamState} {left : StreamState × List StreamObs}
    (found : client.streams.lookup id = some address)
    (object : (client.streamArena.cell address).object = some stream)
    (origin : SectionOf client stream left) :
    Sound (client.withSection address left)
      (log ++ left.2.map (ClientObs.stream address)) := by
  have allocated := Arena.lt_size_of_object object
  have frame := origin.frame
  have named : stream.id ≠ 0 := by
    obtain ⟨stream', object', same, nonzero⟩ := sound.streamTable id address found
    obtain rfl := Option.some.inj (object.symm.trans object')
    rw [same]
    exact nonzero
  have cell (other : Nat) : (client.withSection address left).streamArena.cell other =
      if address = other then sectionCell left (client.streamArena.cell address).tags
      else client.streamArena.cell other := by
    by_cases same : address = other
    · subst same
      rw [if_pos rfl]
      exact Arena.cell_set_self allocated _
    · rw [if_neg same]
      exact Arena.cell_set_of_ne same _
  have registry := sound.streamRegistry.update object frame.id
    ((client.streamArena.cell address).tags ++ postedTags left.2)
  exact { sound with
    streams := fun other inside => by
      have old : other < client.streamArena.size := by
        rw [RClient.withSection, Arena.size_set] at inside
        exact inside
      have run := sound.streams other old
      rw [streamLog_append]
      by_cases same : address = other
      · subst same
        rw [streamLog_map_self]
        obtain ⟨input, taken⟩ := origin.step object named
        have view : (client.withSection address left).view address =
            ⟨sectionCell left (client.streamArena.cell address).tags, client.shutting⟩ := by
          rw [RClient.view, cell, if_pos rfl]
          rfl
        rw [view]
        exact .next run trivial taken
      · rw [streamLog_map_of_ne other same, List.append_nil]
        have view : (client.withSection address left).view other = client.view other := by
          rw [RClient.view, cell, if_neg same]
          rfl
        rw [view]
        exact run
    unusedStreams := fun other beyond => by
      have old : client.streamArena.size ≤ other := by
        rw [RClient.withSection, Arena.size_set] at beyond
        exact beyond
      rw [streamLog_append, sound.unusedStreams other old,
        streamLog_map_of_ne other (by omega), List.append_nil]
    streamTable := registry.found
    streamListed := registry.listed
    streamIds := registry.behind
    calls := fun other inside => by
      rw [unaryLog_append, unaryLog_map_stream, List.append_nil]
      exact sound.calls other inside
    unusedCalls := fun other beyond => by
      rw [unaryLog_append, unaryLog_map_stream, List.append_nil]
      exact sound.unusedCalls other beyond
    drained := fun gone => by
      have empty := (sound.drained gone).2.2.2
      have member := AList.mem_lookup_iff.mp found
      rw [empty] at member
      exact absurd member List.not_mem_nil
    safe := fun other => by simp [sound.safe other] }

theorem Sound.account {client : RClient} {log : List ClientObs} (sound : Sound client log)
    (event : ClEvent) :
    Sound (client.account event).1 (log ++ (client.account event).2) := by
  have same : Sound client (log ++ []) := by
    rw [List.append_nil]
    exact sound
  rcases account_cases client event with ⟨-, equal⟩ | ⟨address, -, found, missing, -⟩ |
    ⟨address, stream, -, found, object, equal⟩
  · rw [equal]
    exact same
  · obtain ⟨stream, object, -⟩ := sound.streamTable event.id address found
    exact absurd (missing.symm.trans object) (by simp)
  · rw [equal]
    exact sound.withSection found object (Or.inr rfl)

/-- A poll that ends keeps the client sound. -/
theorem Sound.pollTake {client : RClient} {log : List ClientObs} (sound : Sound client log)
    (args : PollArgs) :
    Sound (client.pollTake args).1 (log ++ (client.pollTake args).2) := by
  have loop := takeLoop_invariant (fun event : ClEvent => args.wants event.id) RClient.account
    args.maxEvents (fun _ _ event _ before => before.account event) client.ready 0 client log sound
  rw [RClient.pollTake, ← List.append_assoc]
  exact (loop.note (still_polled _ _)).idle _ _ .idle (by simp)

/-! ### Handlers -/

theorem runStream_id (shutting : Bool) (op : TagKind) (delivery : Delivery)
    (stream : StreamState) : (runStream shutting op delivery stream).1.id = stream.id := by
  by_cases last : op = .finish
  · subst last
    rfl
  · exact (frame_runStream shutting delivery stream last).id

/-- A handler that frees its stream takes it out of the table. -/
theorem Sound.streamRegistry_handleStream {client : RClient} {log : List ClientObs}
    (sound : Sound client log) {address : Nat} {stream : StreamState}
    (object : (client.streamArena.cell address).object = some stream) (named : stream.id ≠ 0)
    (op : TagKind) (delivery : Delivery) :
    Registry StreamState.id (client.handleStream address op delivery stream).1.streams
      (client.handleStream address op delivery stream).1.streamArena
      (client.handleStream address op delivery stream).1.nextId := by
  have id := runStream_id client.shutting op delivery stream
  simp only [RClient.handleStream, handleTag, RClient.pushEvents]
  cases freed (runStream client.shutting op delivery stream).1 with
  | true =>
    rw [if_pos rfl, if_pos rfl, id]
    exact sound.streamRegistry.remove object named _
  | false =>
    rw [if_neg Bool.false_ne_true, if_neg Bool.false_ne_true]
    exact sound.streamRegistry.update object id _

/-- A handler of a stream keeps the client sound. -/
theorem Sound.handleStream {client : RClient} {log : List ClientObs} (sound : Sound client log)
    {address : Nat} {op : TagKind} (delivery : Delivery) {stream : StreamState}
    (outstanding : op ∈ (client.streamArena.cell address).tags)
    (object : (client.streamArena.cell address).object = some stream) :
    Sound (client.handleStream address op delivery stream).1
      (log ++ (client.handleStream address op delivery stream).2) := by
  have allocated := Arena.lt_size_of_object object
  have named : stream.id ≠ 0 := by
    obtain ⟨stream', object', -, nonzero⟩ := sound.stream_of_mem outstanding
    obtain rfl := Option.some.inj (object.symm.trans object')
    exact nonzero
  have cell (other : Nat) :
      (client.handleStream address op delivery stream).1.streamArena.cell other =
        if address = other then
          (handleTag client.shutting op delivery stream
            (client.streamArena.cell address).tags).1
        else client.streamArena.cell other := by
    by_cases same : address = other
    · subst same
      rw [if_pos rfl]
      exact Arena.cell_set_self allocated _
    · rw [if_neg same]
      exact Arena.cell_set_of_ne same _
  have size : (client.handleStream address op delivery stream).1.streamArena.size =
      client.streamArena.size := Arena.size_set _ _ _
  have registry := sound.streamRegistry_handleStream object named op delivery
  refine { sound with
    streams := ?_, unusedStreams := ?_, streamTable := registry.found,
    streamListed := registry.listed, streamIds := registry.behind, calls := ?_,
    unusedCalls := ?_, drained := ?_, safe := ?_ }
  · intro other inside
    rw [size] at inside
    have run := sound.streams other inside
    rw [streamLog_append]
    by_cases same : address = other
    · subst same
      have view : (client.handleStream address op delivery stream).1.view address =
          ⟨(handleTag client.shutting op delivery stream
            (client.streamArena.cell address).tags).1, client.shutting⟩ := by
        rw [RClient.view, cell, if_pos rfl]
        rfl
      have taken : streamMachine.step (client.view address) (.returned op delivery) =
          some (⟨(handleTag client.shutting op delivery stream
              (client.streamArena.cell address).tags).1, client.shutting⟩,
            (handleTag client.shutting op delivery stream
              (client.streamArena.cell address).tags).2) := by
        simp [streamMachine, streamStep, RClient.view, outstanding, object]
      rw [view, RClient.handleStream, streamLog_map_self]
      exact .next run trivial taken
    · have view : (client.handleStream address op delivery stream).1.view other =
          client.view other := by
        rw [RClient.view, cell, if_neg same]
        rfl
      rw [view, RClient.handleStream, streamLog_map_of_ne other same, List.append_nil]
      exact run
  · intro other beyond
    rw [size] at beyond
    rw [streamLog_append, sound.unusedStreams other beyond, RClient.handleStream,
      streamLog_map_of_ne other (by omega), List.append_nil]
  · intro other inside
    rw [unaryLog_append, RClient.handleStream, unaryLog_map_stream, List.append_nil]
    exact sound.calls other inside
  · intro other beyond
    rw [unaryLog_append, RClient.handleStream, unaryLog_map_stream, List.append_nil]
    exact sound.unusedCalls other beyond
  · intro gone
    have idle := (sound.drained gone).2.1
    rw [idle.tags_eq_nil] at outstanding
    exact absurd outstanding List.not_mem_nil
  · intro other
    simp [sound.safe other, RClient.handleStream]

/-- The completion of a unary call keeps the client sound. -/
theorem Sound.handleUnary {client : RClient} {log : List ClientObs} (sound : Sound client log)
    {address : Nat} (delivery : Delivery) {call : CallState}
    (outstanding : .unary ∈ (client.callArena.cell address).tags)
    (object : (client.callArena.cell address).object = some call) :
    Sound (client.handleUnary address delivery call).1
      (log ++ (client.handleUnary address delivery call).2) := by
  have allocated := Arena.lt_size_of_object object
  obtain ⟨call', whole, named, kept⟩ := sound.call_of_mem outstanding
  rw [whole] at object
  obtain rfl := Option.some.inj object
  have registry := sound.callRegistry.remove
    (show (client.callArena.cell address).object = some call' by rw [whole]) named
    ((client.callArena.cell address).tags.erase .unary)
  have cell (other : Nat) :
      (client.handleUnary address delivery call').1.callArena.cell other =
        if address = other then ⟨none, []⟩ else client.callArena.cell other := by
    by_cases same : address = other
    · subst same
      rw [if_pos rfl]
      refine (Arena.cell_set_self allocated _).trans ?_
      rw [whole]
      rfl
    · rw [if_neg same]
      exact Arena.cell_set_of_ne same _
  have size : (client.handleUnary address delivery call').1.callArena.size =
      client.callArena.size := Arena.size_set _ _ _
  have streamsSame (other : Nat) :
      streamLog other (client.handleUnary address delivery call').2 = [] := rfl
  have callsSame {other : Nat} (different : address ≠ other) :
      unaryLog other (client.handleUnary address delivery call').2 = [] := by
    simp [RClient.handleUnary, unaryLog, different]
  refine { sound with
    streams := ?_, unusedStreams := ?_, calls := ?_, unusedCalls := ?_,
    callTable := registry.found, callListed := registry.listed, callIds := registry.behind,
    drained := ?_, safe := ?_ }
  · intro other inside
    rw [streamLog_append, streamsSame, List.append_nil]
    exact sound.streams other inside
  · intro other beyond
    rw [streamLog_append, streamsSame, List.append_nil]
    exact sound.unusedStreams other beyond
  · intro other inside
    rw [size] at inside
    rw [unaryLog_append, cell]
    by_cases same : address = other
    · subst same
      rw [if_pos rfl]
      refine .gone rfl ?_
      simp only [unaryDeletions] at kept ⊢
      rw [List.count_append, kept]
      simp [RClient.handleUnary, unaryLog]
    · rw [if_neg same, callsSame same, List.append_nil]
      exact sound.calls other inside
  · intro other beyond
    rw [size] at beyond
    rw [unaryLog_append, sound.unusedCalls other beyond, callsSame (by omega), List.append_nil]
  · intro gone
    have idle := (sound.drained gone).2.2.1
    rw [idle.tags_eq_nil] at outstanding
    exact absurd outstanding List.not_mem_nil
  · intro other
    simp [sound.safe other, RClient.handleUnary]

/-! ### Starts -/

/-- A start that raises an error leaves the client sound, with a stream nobody reaches. -/
theorem Sound.leakStream {client : RClient} {log : List ClientObs} (sound : Sound client log)
    (opened : client.closed = false) :
    Sound { client with streamArena := client.streamArena.push ⟨some {}, []⟩ } log := by
  have registry := sound.streamRegistry.push sound.numbered
    (show ∀ stream, Cell.object (⟨some {}, []⟩ : Cell StreamState TagKind) = some stream →
      stream.id = 0 by simp)
  refine { sound with
    streams := ?_, unusedStreams := ?_, streamTable := registry.found,
    streamListed := registry.listed, streamIds := registry.behind, drained := ?_ }
  · intro address inside
    rw [Arena.size_push] at inside
    by_cases old : address < client.streamArena.size
    · have run := sound.streams address old
      rw [RClient.view, Arena.cell_push_of_lt old]
      exact run
    · have last : address = client.streamArena.size := by omega
      subst last
      rw [RClient.view, Arena.cell_push_self, sound.unusedStreams _ (Nat.le_refl _),
        show client.shutting = false from sound.closing.trans opened]
      exact .start
  · intro address beyond
    rw [Arena.size_push] at beyond
    exact sound.unusedStreams address (by omega)
  · intro gone
    exact absurd (opened.symm.trans (sound.drained gone).1) Bool.false_ne_true

theorem Sound.leakCall {client : RClient} {log : List ClientObs} (sound : Sound client log)
    (opened : client.closed = false) :
    Sound { client with callArena := client.callArena.push ⟨some {}, []⟩ } log := by
  have registry := sound.callRegistry.push sound.numbered
    (show ∀ call, Cell.object (⟨some {}, []⟩ : Cell CallState UnaryOp) = some call →
      call.id = 0 by simp)
  refine { sound with
    calls := ?_, unusedCalls := ?_, callTable := registry.found, callListed := registry.listed,
    callIds := registry.behind, drained := ?_ }
  · intro address inside
    rw [Arena.size_push] at inside
    by_cases old : address < client.callArena.size
    · rw [Arena.cell_push_of_lt old]
      exact sound.calls address old
    · have last : address = client.callArena.size := by omega
      subst last
      rw [Arena.cell_push_self, sound.unusedCalls _ (Nat.le_refl _)]
      exact .fresh rfl rfl
  · intro address beyond
    rw [Arena.size_push] at beyond
    exact sound.unusedCalls address (by omega)
  · intro gone
    exact absurd (opened.symm.trans (sound.drained gone).1) Bool.false_ne_true

/-- Starting a unary call keeps the client sound. -/
theorem Sound.withCall {client : RClient} {log : List ClientObs} (sound : Sound client log)
    (opened : client.closed = false) (name : Bytes) (context : ClientContext)
    (request : ByteBuffer) :
    Sound client.withCall (log ++ [.unary client.callArena.size (.posted name context request),
      .started (.ok client.nextId)]) := by
  have numbered := sound.numbered
  have size : client.withCall.callArena.size = client.callArena.size + 1 := Arena.size_push _ _
  have streamsSame (address : Nat) :
      streamLog address [ClientObs.unary client.callArena.size (.posted name context request),
        .started (.ok client.nextId)] = [] := rfl
  have callsSame {address : Nat} (different : client.callArena.size ≠ address) :
      unaryLog address [ClientObs.unary client.callArena.size (.posted name context request),
        .started (.ok client.nextId)] = [] := by
    simp [unaryLog, different]
  have registry := sound.callRegistry.pushEntered numbered
    (show CallState.id { id := client.nextId } = client.nextId from rfl) [.unary]
  refine { sound with
    streams := ?_, unusedStreams := ?_, streamIds := sound.streamRegistry.advance.behind,
    calls := ?_, unusedCalls := ?_, callTable := registry.found, callListed := registry.listed,
    callIds := registry.behind, numbered := Nat.succ_pos _, drained := ?_, safe := ?_ }
  · intro address inside
    rw [streamLog_append, streamsSame, List.append_nil]
    exact sound.streams address inside
  · intro address beyond
    rw [streamLog_append, streamsSame, List.append_nil]
    exact sound.unusedStreams address beyond
  · intro address inside
    rw [size] at inside
    rw [unaryLog_append, RClient.withCall]
    by_cases old : address < client.callArena.size
    · rw [callsSame (by omega), List.append_nil, Arena.cell_push_of_lt old]
      exact sound.calls address old
    · have last : address = client.callArena.size := by omega
      subst last
      rw [sound.unusedCalls _ (Nat.le_refl _), Arena.cell_push_self]
      exact .waiting _ rfl (Nat.ne_of_gt numbered) (by simp [unaryLog, unaryDeletions])
  · intro address beyond
    rw [size] at beyond
    rw [unaryLog_append, sound.unusedCalls address (by omega), callsSame (by omega),
      List.append_nil]
  · intro gone
    exact absurd (opened.symm.trans (sound.drained gone).1) Bool.false_ne_true
  · intro address
    simp [sound.safe address]

/-- Opening a stream keeps the client sound: it is the first step of the new stream. -/
theorem Sound.withStream {client : RClient} {log : List ClientObs} (sound : Sound client log)
    (opened : client.closed = false) (readCap : Int) (writeCap : Nat) :
    Sound (client.withStream readCap writeCap)
      (log ++ [.stream client.streamArena.size (.posted .startCall),
        .started (.ok client.nextId)]) := by
  have numbered := sound.numbered
  have size : (client.withStream readCap writeCap).streamArena.size =
      client.streamArena.size + 1 := Arena.size_push _ _
  have streamsSame {address : Nat} (different : client.streamArena.size ≠ address) :
      streamLog address [ClientObs.stream client.streamArena.size (.posted .startCall),
        .started (.ok client.nextId)] = [] := by
    simp [streamLog, different]
  have callsSame (address : Nat) :
      unaryLog address [ClientObs.stream client.streamArena.size (.posted .startCall),
        .started (.ok client.nextId)] = [] := rfl
  have registry := sound.streamRegistry.pushEntered numbered
    (show (openStream client.nextId readCap writeCap {}).1.id = client.nextId from rfl)
    ([] ++ postedTags (openStream client.nextId readCap writeCap {}).2)
  refine { sound with
    streams := ?_, unusedStreams := ?_, streamTable := registry.found,
    streamListed := registry.listed, streamIds := registry.behind, calls := ?_,
    unusedCalls := ?_, callIds := sound.callRegistry.advance.behind,
    numbered := Nat.succ_pos _, drained := ?_, safe := ?_ }
  · intro address inside
    rw [size] at inside
    rw [streamLog_append]
    by_cases old : address < client.streamArena.size
    · rw [streamsSame (by omega), List.append_nil, RClient.view, RClient.withStream,
        Arena.cell_push_of_lt old]
      exact sound.streams address old
    · have last : address = client.streamArena.size := by omega
      subst last
      have view : (client.withStream readCap writeCap).view client.streamArena.size =
          ⟨sectionCell (openStream client.nextId readCap writeCap {}) [], false⟩ := by
        rw [RClient.view, RClient.withStream, Arena.cell_push_self,
          show client.shutting = false from sound.closing.trans opened]
      have started : streamLog client.streamArena.size
          [ClientObs.stream client.streamArena.size (.posted .startCall),
            .started (.ok client.nextId)] =
          (openStream client.nextId readCap writeCap {}).2 := by
        simp [streamLog, openStream]
      have taken : streamMachine.step streamMachine.start
          (.opened client.nextId readCap writeCap) =
          some (⟨sectionCell (openStream client.nextId readCap writeCap {}) [], false⟩,
            (openStream client.nextId readCap writeCap {}).2) := by
        simp [streamMachine, streamStep, Nat.ne_of_gt numbered, Option.filter]
      rw [view, sound.unusedStreams _ (Nat.le_refl _), started]
      exact .next .start trivial taken
  · intro address beyond
    rw [size] at beyond
    rw [streamLog_append, sound.unusedStreams address (by omega), streamsSame (by omega),
      List.append_nil]
  · intro address inside
    rw [unaryLog_append, callsSame, List.append_nil]
    exact sound.calls address inside
  · intro address beyond
    rw [unaryLog_append, callsSame, List.append_nil]
    exact sound.unusedCalls address beyond
  · intro gone
    exact absurd (opened.symm.trans (sound.drained gone).1) Bool.false_ne_true
  · intro address
    simp [sound.safe address]

/-! ### Closing -/

/-- Once the client starts to close, every stream sees it shut down. -/
theorem Sound.close {client : RClient} {log : List ClientObs} (sound : Sound client log) :
    Sound { client with closed := true, shutting := true, rthread := .joining } log :=
  { sound with
    streams := fun address inside => by
      have taken : streamMachine.step (client.view address) .shut =
          some (⟨client.streamArena.cell address, true⟩, []) := rfl
      have run := Machine.Run.next (sound.streams address inside) trivial taken
      rw [List.append_nil] at run
      exact run
    closing := rfl
    joining := fun _ => rfl
    drained := fun gone => absurd gone (by simp) }

theorem unaryLog_map_deleted_stream (address : Nat) (addresses : List Nat) :
    unaryLog address (addresses.map fun other => ClientObs.stream other .deleted) = [] := by
  simp [unaryLog, List.filterMap_map]

/-- Deleting streams at different addresses deletes each of them once. -/
theorem streamLog_map_deleted {addresses : List Nat} (different : addresses.Nodup)
    (address : Nat) :
    streamLog address (addresses.map fun other => ClientObs.stream other .deleted) =
      if address ∈ addresses then [.deleted] else [] := by
  induction addresses with
  | nil => rfl
  | cons first rest inductionHypothesis =>
    obtain ⟨fresh, others⟩ := List.nodup_cons.mp different
    have split : streamLog address
        ((first :: rest).map fun other => ClientObs.stream other .deleted) =
        streamLog address [.stream first .deleted] ++
          streamLog address (rest.map fun other => ClientObs.stream other .deleted) := by
      rw [List.map_cons, ← List.singleton_append, streamLog_append]
    rw [split, inductionHypothesis others]
    by_cases same : first = address
    · subst same
      simp [streamLog, fresh]
    · simp [streamLog, same, Ne.symm same]

/-- When nothing is outstanding, no started unary call is left. -/
theorem Sound.calls_eq_nil {client : RClient} {log : List ClientObs} (sound : Sound client log)
    (idle : client.callArena.Idle) : client.calls.entries = [] := by
  refine sound.callRegistry.entries_eq_nil fun address call object => ?_
  cases sound.calls address (Arena.lt_size_of_object object) with
  | fresh cell silent =>
    rw [cell] at object
    obtain rfl := Option.some.inj object
    rfl
  | waiting call' cell named kept =>
    have tags := idle.tags_eq_nil address
    rw [cell] at tags
    exact absurd tags (by simp)
  | gone cell deleted =>
    rw [cell] at object
    exact absurd object (by simp)

/-- What the end of a close does: it deletes the streams that are left. -/
theorem Sound.endClose_eq {client after : RClient} {log news : List ClientObs}
    (sound : Sound client log) (ended : client.endClose = some (after, news)) :
    client.callArena.Idle ∧ client.streamArena.Idle ∧
      after = { client with
        streamArena := client.streamArena.deleteAll (client.streams.entries.map Sigma.snd)
        calls := ∅, streams := ∅, ready := [], rthread := .gone } ∧
      news = (client.streams.entries.map Sigma.snd).map
        fun address => ClientObs.stream address .deleted := by
  rw [RClient.endClose] at ended
  split at ended
  · rename_i idle
    simp only [sound.calls_eq_nil idle.1, List.map_nil, List.nil_append, Option.some.injEq,
      Prod.mk.injEq] at ended
    exact ⟨idle.1, idle.2, ended.1.symm, ended.2.symm⟩
  · exact absurd ended (by simp)

/-- The end of a close keeps the client sound: every stream that is left is deleted. -/
theorem Sound.endClose {client after : RClient} {log news : List ClientObs}
    (sound : Sound client log) (joining : client.rthread = .joining)
    (ended : client.endClose = some (after, news)) : Sound after (log ++ news) := by
  have closed := sound.joining joining
  obtain ⟨callsIdle, streamsIdle, rfl, rfl⟩ := sound.endClose_eq ended
  have cell := Arena.cell_deleteAll client.streamArena (client.streams.entries.map Sigma.snd)
  have streamNews := streamLog_map_deleted sound.streamRegistry.entries_nodup
  have registry := sound.streamRegistry.clear
  refine { sound with
    streams := ?_, unusedStreams := ?_, streamTable := registry.found,
    streamListed := registry.listed, streamIds := registry.behind, calls := ?_,
    unusedCalls := ?_, callTable := ?_, callListed := ?_, joining := ?_, drained := ?_,
    safe := ?_ }
  · intro address inside
    have run := sound.streams address (by simpa using inside)
    rw [streamLog_append, streamNews]
    by_cases swept : address ∈ client.streams.entries.map Sigma.snd
    · obtain ⟨stream, object, named⟩ := (sound.streamRegistry.mem_entries address).mp swept
      have tags := streamsIdle.tags_eq_nil address
      have taken : streamMachine.step (client.view address) .swept =
          some (⟨⟨none, (client.streamArena.cell address).tags⟩, client.shutting⟩,
            [.deleted]) := by
        simp [streamMachine, streamStep, RClient.view, sound.closing, closed, tags, object,
          Option.filter, named]
      rw [if_pos swept, RClient.view, cell, if_pos swept]
      exact .next run trivial taken
    · rw [if_neg swept, List.append_nil, RClient.view, cell, if_neg swept]
      exact run
  · intro address beyond
    rw [Arena.size_deleteAll] at beyond
    have absent : address ∉ client.streams.entries.map Sigma.snd := by
      rw [sound.streamRegistry.mem_entries]
      rintro ⟨stream, object, -⟩
      exact absurd (Arena.lt_size_of_object object) (Nat.not_lt.mpr beyond)
    rw [streamLog_append, sound.unusedStreams address beyond, streamNews, if_neg absent,
      List.append_nil]
  · intro address inside
    rw [unaryLog_append, unaryLog_map_deleted_stream, List.append_nil]
    exact sound.calls address inside
  · intro address beyond
    rw [unaryLog_append, unaryLog_map_deleted_stream, List.append_nil]
    exact sound.unusedCalls address beyond
  · intro id address found
    exact absurd found (by simp)
  · intro address call object named
    have listed := AList.mem_lookup_iff.mp (sound.callListed address call object named)
    rw [sound.calls_eq_nil callsIdle] at listed
    exact absurd listed List.not_mem_nil
  · intro _
    exact closed
  · intro _
    exact ⟨closed, streamsIdle.deleteAll _, callsIdle, rfl⟩
  · intro address
    simp [sound.safe address]

/-! ### Runs of the client -/

/-- Every step keeps the client sound. -/
theorem Sound.step {client after : RClient} {log news : List ClientObs} {input : ClientInput}
    (sound : Sound client log) (taken : clientStep client input = some (after, news)) :
    Sound after (log ++ news) := by
  cases turn_of_step taken with
  | unary address delivery call outstanding object =>
    exact sound.handleUnary delivery outstanding object
  | returned address op delivery stream outstanding object =>
    exact sound.handleStream delivery outstanding object
  | leakCall method request opts now error opened named raises =>
    exact (sound.leakCall opened).note (still_started _)
  | leakStream method opts now readCap writeCap error opened named raises =>
    exact (sound.leakStream opened).note (still_started _)
  | callStarted method request opts now name context opened clean =>
    exact sound.withCall opened name context _
  | streamStarted method opts now readCap writeCap opened clean =>
    exact sound.withStream opened readCap _
  | request id request address stream opened found object =>
    rw [← List.append_assoc]
    exact (sound.withSection found object (Or.inl ⟨request, rfl⟩)).note (still_result _ _ _)
  | polled input wake args origin =>
    exact Sound.pollTake (sound.idle wake client.ready client.rthread fun _ => rfl) args
  | quiet input after news quiet origin => exact sound.quiet quiet
  | closing opened =>
    rw [List.append_nil]
    exact sound.close
  | joined after news joining ended => exact sound.endClose joining ended
  | lost input after news lost => exact absurd lost sound.not_lost

/-- Every client is sound along every run. -/
theorem sound_of_run {wake : WakeHandle} {client : RClient} {log : List ClientObs}
    {allowed : RClient → ClientInput → Prop} (run : (clientMachine wake).Run allowed client log) :
    Sound client log :=
  run.invariant (sound_start wake) fun _ sound _ taken => sound.step taken

end Rgrpc.Client
