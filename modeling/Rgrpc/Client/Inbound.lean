/-
This file compares what a client stream received with what it handed to R. The
two agree message by message until a read completes on a stream that is already
broken: its message is dropped. A run has no such read exactly when nothing was
lost on any stream. The status of a stream is the last event pushed for it in
any case.
-/

import Rgrpc.Client.Discipline

namespace Rgrpc.Client

open Library

/-! ### What arrived and what was handed on -/

/-- The payload of an event, if it has one. -/
def ClEvent.payload (event : ClEvent) : Option Bytes :=
  if event.hasBytes then some event.bytes else none

/-- The payloads of the `stream_msg` events pushed, in order. -/
def messages (log : List StreamObs) : List (Option Bytes) :=
  ((pushedEvents log).filter fun event => event.kind == .smsg).map ClEvent.payload

/-- The payloads of the reads that completed with `ok`, in order. -/
def arrived (log : List StreamObs) : List (Option Bytes) :=
  log.filterMap fun
    | .returned .read true message => some (grpcByteBufferToString message)
    | _ => none

/-- Whether the `stream_status` event was pushed. -/
def ended (log : List StreamObs) : Bool :=
  (pushedEvents log).any fun event => event.kind == .status

section Projections

variable (log more : List StreamObs)

@[simp]
theorem pushedEvents_append :
    pushedEvents (log ++ more) = pushedEvents log ++ pushedEvents more :=
  List.filterMap_append

@[simp]
theorem messages_append : messages (log ++ more) = messages log ++ messages more := by
  simp [messages]

@[simp]
theorem arrived_append : arrived (log ++ more) = arrived log ++ arrived more :=
  List.filterMap_append

@[simp]
theorem ended_append : ended (log ++ more) = (ended log || ended more) := by
  simp [ended]

end Projections

theorem payload_smsgEvent (stream : StreamState) :
    (smsgEvent stream).payload = grpcByteBufferToString stream.readBuf := by
  unfold ClEvent.payload smsgEvent
  cases grpcByteBufferToString stream.readBuf <;> rfl

/-! ### The parts of a section -/

/-- A part of a section in which messages with the given payloads are pushed, and no status. -/
structure Pushes (payloads : List (Option Bytes)) (obs : List StreamObs) : Prop where
  messages : messages obs = payloads
  arrived : arrived obs = []
  ended : ended obs = false

theorem pushes_nil : Pushes [] [] := ⟨rfl, rfl, rfl⟩

theorem Pushes.append {payloads : List (Option Bytes)} {obs more : List StreamObs}
    (first : Pushes payloads obs) (second : Pushes [] more) : Pushes payloads (obs ++ more) := by
  refine ⟨?_, ?_, ?_⟩
  · rw [messages_append, first.messages, second.messages, List.append_nil]
  · rw [arrived_append, first.arrived, second.arrived, List.append_nil]
  · rw [ended_append, first.ended, second.ended, Bool.or_false]

section Sections

variable (shutting : Bool) (stream : StreamState)

theorem pushes_sPostReadLocked : Pushes [] (sPostReadLocked shutting stream).2 := by
  rcases sPostReadLocked_cases shutting stream with same | ⟨-, -, -, -, -, -, same⟩ <;>
  · rw [same]
    exact ⟨rfl, rfl, rfl⟩

theorem pushes_sPumpWritesLocked : Pushes [] (sPumpWritesLocked shutting stream).2 := by
  rcases sPumpWritesLocked_cases shutting stream with
    same | ⟨-, -, -, -, -, ⟨front, rest, -, same⟩ | ⟨-, -, -, -, same⟩⟩ <;>
  · rw [same]
    exact ⟨rfl, rfl, rfl⟩

theorem pushes_sTryFinishLocked : Pushes [] (sTryFinishLocked shutting stream).2 := by
  rcases sTryFinishLocked_cases shutting stream with same | ⟨-, -, -, -, -, -, -, same⟩ <;>
  · rw [same]
    exact ⟨rfl, rfl, rfl⟩

theorem pushes_answer (request : StreamRequest) :
    Pushes [] (request.answer shutting stream).obs := by
  have pumps (request : StreamRequest) (other : StreamState) :
      Pushes [] (acceptAndPump shutting request other).obs := by
    have accepted : Pushes [] [.accepted request] := ⟨rfl, rfl, rfl⟩
    exact accepted.append (pushes_sPumpWritesLocked shutting other)
  rcases answer_cases shutting request stream with
    same | ⟨bytes, -, -, -, -, -, same⟩ | ⟨-, -, same⟩
  · rw [same]
    exact pushes_nil
  · rw [same]
    exact pumps _ _
  · rw [same]
    exact pumps _ _

/-- Reading on when there is room pushes nothing. -/
theorem pushes_readOn :
    Pushes [] (if stream.unread < stream.readCap then sPostReadLocked shutting stream
      else (stream, [])).2 := by
  split
  · exact pushes_sPostReadLocked _ _
  · exact pushes_nil

theorem pushes_takeMessage : Pushes [] (takeMessage shutting stream).2 := by
  have taken : Pushes [] [.taken] := ⟨rfl, rfl, rfl⟩
  exact taken.append (pushes_readOn _ _)

/-- The case of a read pushes its message, unless the read failed or the stream is broken. -/
theorem pushes_runRead (delivery : Delivery) :
    Pushes
      (if delivery.ok && !stream.broken then [grpcByteBufferToString delivery.message] else [])
      (runRead shutting delivery stream).2 := by
  unfold runRead
  refine Pushes.append ?_ (pushes_sTryFinishLocked _ _)
  cases read : delivery.ok && !stream.broken with
  | true =>
    have pushed : Pushes [grpcByteBufferToString delivery.message]
        [.pushed (smsgEvent
          { stream with readInflight := false, readBuf := delivery.message })] :=
      ⟨congrArg (fun payload => [payload]) (payload_smsgEvent _), rfl, rfl⟩
    simp only [if_true]
    exact pushed.append (pushes_readOn _ _)
  | false =>
    simp only [Bool.false_eq_true, if_false]
    exact pushes_nil

/-- The messages the handler of a tag pushes. -/
theorem pushes_runStream {op : TagKind} (delivery : Delivery) (running : op ≠ .finish) :
    Pushes
      (if op == .read && (delivery.ok && !stream.broken) then
        [grpcByteBufferToString delivery.message] else [])
      (runStream shutting op delivery stream).2 := by
  cases op with
  | start =>
    change Pushes [] _
    unfold runStream runStart
    refine Pushes.append ?_ (pushes_sTryFinishLocked _ _)
    split
    · exact (pushes_sPostReadLocked _ _).append (pushes_sPumpWritesLocked _ _)
    · exact pushes_nil
  | read => exact pushes_runRead shutting { stream with pending := stream.pending - 1 } delivery
  | write =>
    change Pushes [] _
    unfold runStream runWrite
    refine Pushes.append ?_ (pushes_sTryFinishLocked _ _)
    split
    · refine Pushes.append ?_ (pushes_sPumpWritesLocked _ _)
      simp only
      split
      · exact ⟨rfl, rfl, rfl⟩
      · exact pushes_nil
    · exact pushes_nil
  | wdone => exact pushes_sTryFinishLocked _ _
  | finish => exact absurd rfl running

end Sections

/-! ### The status is the last event -/

/-- Nothing is pushed for a stream once its status was. -/
def StatusLast (before : List StreamObs) : StreamObs → Prop
  | .pushed _ => ended before = false
  | _ => True

theorem statusLast_append {log news : List StreamObs} (lawful : Lawful StatusLast log)
    (open_ : ended log = false) (unended : ended news = false) :
    Lawful StatusLast (log ++ news) := by
  refine lawful.append fun before entry after equal => ?_
  have early : ended (log ++ before) = false := by
    rw [equal, ended_append, Bool.or_eq_false_iff] at unended
    rw [ended_append, open_, unended.1, Bool.or_false]
  cases entry with
  | pushed event => exact early
  | _ => trivial

/-- What a stream pushed so far: no status while it is there, and nothing after its status. -/
structure Closing (view : StreamView) (log : List StreamObs) : Prop where
  open_ : ∀ stream, view.cell.object = some stream → ended log = false
  lawful : Lawful StatusLast log

theorem Closing.append {view after : StreamView} {log news : List StreamObs}
    (closing : Closing view log) {stream : StreamState}
    (object : view.cell.object = some stream) (unended : ended news = false) :
    Closing after (log ++ news) := by
  have open_ := closing.open_ stream object
  refine ⟨fun _ _ => ?_, statusLast_append closing.lawful open_ unended⟩
  rw [ended_append, open_, unended, Bool.or_false]

theorem Closing.returned {view : StreamView} {log : List StreamObs} (closing : Closing view log)
    (phase : Phase view log) {op : TagKind} (outstanding : op ∈ view.cell.tags)
    {stream : StreamState} (object : view.cell.object = some stream) (delivery : Delivery) :
    Closing
      { view with cell := (handleTag view.shutting op delivery stream view.cell.tags).1 }
      (log ++ (handleTag view.shutting op delivery stream view.cell.tags).2) := by
  have open_ := closing.open_ stream object
  by_cases last : op = .finish
  · subst last
    obtain ⟨stream', object', ledger, -⟩ := phase.ledger_of_mem outstanding
    obtain rfl := Option.some.inj (object.symm.trans object')
    have gone := freed_finish ledger outstanding view.shutting delivery
    simp only [handleTag, gone, if_true]
    refine ⟨fun _ present => absurd present (by simp), ?_⟩
    have split : log ++ (.returned .finish delivery.ok delivery.message ::
          (runStream view.shutting .finish delivery stream).2 ++ [.deleted]) =
        log ++ [.returned .finish delivery.ok delivery.message] ++
          (runStream view.shutting .finish delivery stream).2 ++ [.deleted] := by
      simp
    have returned : Lawful StatusLast
        (log ++ [.returned .finish delivery.ok delivery.message]) :=
      lawful_append_singleton.mpr ⟨closing.lawful, trivial⟩
    have early : ended (log ++ [.returned .finish delivery.ok delivery.message]) = false := by
      rw [ended_append, open_]
      rfl
    rw [split]
    exact lawful_append_singleton.mpr ⟨lawful_append_singleton.mpr ⟨returned, early⟩, trivial⟩
  · refine closing.append object ?_
    have ran := (pushes_runStream view.shutting stream delivery last).ended
    simp only [handleTag, List.cons_append]
    change ended (_ ++ _) = false
    rw [ended_append, ran, Bool.false_or]
    split <;> rfl

theorem Closing.step {view after : StreamView} {log news : List StreamObs} {input : StreamInput}
    (closing : Closing view log) (phase : Phase view log)
    (taken : streamStep view input = some (after, news)) : Closing after (log ++ news) := by
  rcases streamStep_cases taken with
    ⟨id, readCap, writeCap, stream, -, -, -, object, -, rfl, rfl⟩ |
    ⟨op, delivery, stream, -, outstanding, object, rfl, rfl⟩ |
    ⟨stream, left, object, -, origin, rfl, rfl⟩ | ⟨-, rfl, rfl⟩ |
    ⟨stream, -, -, -, object, -, rfl, rfl⟩
  · exact closing.append object rfl
  · exact closing.returned phase outstanding object delivery
  · refine closing.append object ?_
    rcases origin with ⟨request, -, rfl⟩ | ⟨-, rfl⟩
    · exact (pushes_answer view.shutting stream request).ended
    · exact (pushes_takeMessage view.shutting stream).ended
  · rw [List.append_nil]
    exact ⟨closing.open_, closing.lawful⟩
  · exact closing.append object rfl

/-- Along every run of one stream, its status is the last event pushed. -/
theorem closing_of_run {view : StreamView} {log : List StreamObs}
    (run : streamMachine.Run Machine.Free view log) : Closing view log :=
  run.invariant ⟨fun _ _ => rfl, lawful_nil _⟩ fun before closing _ taken =>
    closing.step (phase_of_run before) taken

theorem Sound.statusLast {client : RClient} {log : List ClientObs} (sound : Sound client log)
    (address : Nat) : Lawful StatusLast (streamLog address log) := by
  by_cases allocated : address < client.streamArena.size
  · exact (closing_of_run (sound.streams address allocated)).lawful
  · rw [sound.unusedStreams address (Nat.le_of_not_lt allocated)]
    exact lawful_nil _

/-! ### Reads on a broken stream -/

/-- Whether a step keeps every message: it is not a read that completes with `ok` on a stream that
is broken. -/
def keepsMessages (client : RClient) : ClientInput → Bool
  | .returned address .read delivery =>
    !(delivery.ok && (client.streamArena.cell address).object.any StreamState.broken)
  | _ => true

/-- Nothing arrived for any stream and nothing was pushed for one. -/
def Wordless (obs : List ClientObs) : Prop :=
  ∀ address, messages (streamLog address obs) = [] ∧ arrived (streamLog address obs) = []

theorem Wordless.append {obs more : List ClientObs} (first : Wordless obs)
    (second : Wordless more) : Wordless (obs ++ more) := by
  intro address
  rw [streamLog_append, messages_append, arrived_append, (first address).1, (first address).2,
    (second address).1, (second address).2]
  exact ⟨rfl, rfl⟩

theorem Still.wordless {obs : List ClientObs} (still : Still obs) : Wordless obs := by
  intro address
  rw [still.streams]
  exact ⟨rfl, rfl⟩

theorem Pushes.wordless {obs : List StreamObs} (pushes : Pushes [] obs) (address : Nat) :
    Wordless (obs.map (ClientObs.stream address)) := by
  intro other
  by_cases same : address = other
  · subst same
    rw [streamLog_map_self]
    exact ⟨pushes.messages, pushes.arrived⟩
  · rw [streamLog_map_of_ne other same]
    exact ⟨rfl, rfl⟩

theorem wordless_of_collected {shutting : Bool} {obs : List ClientObs}
    (collected : ∀ entry ∈ obs, Collected shutting entry) : Wordless obs := by
  intro address
  have shown (entry : StreamObs) (member : entry ∈ streamLog address obs) :
      entry = .taken ∨ entry = .posted .read := by
    cases collected _ (mem_streamLog_iff.mp member) with
    | taken other => exact Or.inl rfl
    | read other running => exact Or.inr rfl
  have unpushed : pushedEvents (streamLog address obs) = [] := by
    refine List.filterMap_eq_nil_iff.mpr fun entry member => ?_
    rcases shown entry member with rfl | rfl <;> rfl
  refine ⟨by rw [messages, unpushed]; rfl, List.filterMap_eq_nil_iff.mpr fun entry member => ?_⟩
  rcases shown entry member with rfl | rfl <;> rfl

theorem pollTake_wordless (client : RClient) (args : PollArgs) :
    Wordless (client.pollTake args).2 := by
  rw [RClient.pollTake]
  exact (wordless_of_collected (collected_takeLoop client args)).append
    (still_polled _ _).wordless

/-- Every step but the return of a tag is silent about messages. -/
theorem Sound.wordless {client after : RClient} {log news : List ClientObs} {input : ClientInput}
    (sound : Sound client log) (taken : clientStep client input = some (after, news))
    (other : ∀ address op delivery, input ≠ .returned address op delivery) : Wordless news := by
  cases turn_of_step taken with
  | unary address delivery call outstanding object => exact fun _ => ⟨rfl, rfl⟩
  | returned address op delivery stream outstanding object =>
    exact absurd rfl (other address op delivery)
  | leakCall method request opts now error opened named raises =>
    exact (still_started _).wordless
  | leakStream method opts now readCap writeCap error opened named raises =>
    exact (still_started _).wordless
  | callStarted method request opts now name context opened clean => exact fun _ => ⟨rfl, rfl⟩
  | streamStarted method opts now readCap writeCap opened clean =>
    have posted : Pushes [] [.posted .startCall] := ⟨rfl, rfl, rfl⟩
    exact (posted.wordless client.streamArena.size).append (still_started _).wordless
  | request id request address stream opened found object =>
    exact ((pushes_answer client.shutting stream request).wordless address).append
      (still_result _ _ _).wordless
  | polled input wake args origin => exact pollTake_wordless _ args
  | quiet input after news quiet origin => exact quiet.still.wordless
  | closing opened => exact fun _ => ⟨rfl, rfl⟩
  | joined after news joining ended =>
    intro address
    obtain ⟨-, -, -, rfl⟩ := sound.endClose_eq ended
    rw [streamLog_map_deleted sound.streamRegistry.entries_nodup]
    split <;> exact ⟨rfl, rfl⟩
  | lost input after news lost => exact absurd lost sound.not_lost

/-- What arrives with a tag, and what its handler hands on. -/
theorem inbound_handleTag (shutting : Bool) (op : TagKind) (delivery : Delivery)
    (stream : StreamState) (tags : List TagKind) :
    messages (handleTag shutting op delivery stream tags).2 =
        (if op == .read && (delivery.ok && !stream.broken) then
          [grpcByteBufferToString delivery.message] else []) ∧
      arrived (handleTag shutting op delivery stream tags).2 =
        if op == .read && delivery.ok then [grpcByteBufferToString delivery.message] else [] := by
  have returned : arrived [.returned op delivery.ok delivery.message] =
      if op == .read && delivery.ok then [grpcByteBufferToString delivery.message] else [] := by
    cases op <;> cases delivery.ok <;> rfl
  have ran : messages (runStream shutting op delivery stream).2 =
        (if op == .read && (delivery.ok && !stream.broken) then
          [grpcByteBufferToString delivery.message] else []) ∧
      arrived (runStream shutting op delivery stream).2 = [] := by
    by_cases last : op = .finish
    · subst last
      exact ⟨rfl, rfl⟩
    · have pushes := pushes_runStream shutting stream delivery last
      exact ⟨pushes.messages, pushes.arrived⟩
  have split : (handleTag shutting op delivery stream tags).2 =
      [.returned op delivery.ok delivery.message] ++
        (runStream shutting op delivery stream).2 ++
        if freed (runStream shutting op delivery stream).1 then [.deleted] else [] := rfl
  have silent : messages [.returned op delivery.ok delivery.message] = [] := rfl
  rw [split, messages_append, messages_append, arrived_append, arrived_append, returned, ran.1,
    ran.2, silent]
  constructor <;> split <;> simp [messages, arrived, pushedEvents]

/-- A step hands on a part of what arrives with it, and all of it exactly when it keeps every
message. -/
theorem Sound.inbound_step {client after : RClient} {log news : List ClientObs}
    {input : ClientInput} (sound : Sound client log)
    (taken : clientStep client input = some (after, news)) :
    (∀ address, (messages (streamLog address news)).Sublist (arrived (streamLog address news))) ∧
      (keepsMessages client input = true ↔
        ∀ address, messages (streamLog address news) = arrived (streamLog address news)) := by
  by_cases tag : ∃ address op delivery, input = .returned address op delivery
  · obtain ⟨address, op, delivery, rfl⟩ := tag
    cases turn_of_step taken with
    | returned address op delivery stream outstanding object =>
      obtain ⟨pushed, came⟩ := inbound_handleTag client.shutting op delivery stream
        (client.streamArena.cell address).tags
      have own : streamLog address (client.handleStream address op delivery stream).2 =
          (handleTag client.shutting op delivery stream
            (client.streamArena.cell address).tags).2 := streamLog_map_self address _
      have others {other : Nat} (different : address ≠ other) :
          streamLog other (client.handleStream address op delivery stream).2 = [] :=
        streamLog_map_of_ne other different _
      have guard : keepsMessages client (.returned address op delivery) =
          !(op == .read && (delivery.ok && stream.broken)) := by
        cases op <;> simp [keepsMessages, object]
      constructor
      · intro other
        by_cases same : address = other
        · subst same
          rw [own, pushed, came]
          cases op == .read <;> cases delivery.ok <;> cases stream.broken <;> simp
        · rw [others same]
          exact List.Sublist.slnil
      · rw [guard]
        constructor
        · intro kept other
          by_cases same : address = other
          · subst same
            rw [own, pushed, came]
            revert kept
            cases op == .read <;> cases delivery.ok <;> cases stream.broken <;> simp
          · rw [others same]
            rfl
        · intro equal
          have here := equal address
          rw [own, pushed, came] at here
          revert here
          cases op == .read <;> cases delivery.ok <;> cases stream.broken <;> simp
    | polled input wake args origin => simp at origin
    | quiet input after news quiet origin => exact absurd rfl (origin address op delivery)
    | lost input after news lost => exact absurd lost sound.not_lost
  · have wordless := sound.wordless taken fun address op delivery same =>
      tag ⟨address, op, delivery, same⟩
    have equal (address : Nat) :
        messages (streamLog address news) = arrived (streamLog address news) := by
      rw [(wordless address).1, (wordless address).2]
    refine ⟨fun address => ?_, ⟨fun _ => equal, fun _ => ?_⟩⟩
    · rw [equal address]
    · cases input with
      | returned address op delivery => exact absurd ⟨address, op, delivery, rfl⟩ tag
      | _ => rfl

/-! ### Runs -/

/-- What was handed on is always a part of what arrived, in order. -/
theorem messages_sublist_arrived {wake : WakeHandle} {client : RClient} {log : List ClientObs}
    (run : (clientMachine wake).Run Machine.Free client log) (address : Nat) :
    (messages (streamLog address log)).Sublist (arrived (streamLog address log)) := by
  induction run with
  | start => exact List.Sublist.slnil
  | @next state after log news input before _ taken inductionHypothesis =>
    rw [streamLog_append, messages_append, arrived_append]
    exact inductionHypothesis.append (((sound_of_run before).inbound_step taken).1 address)

/-- Two parts of two lists that are equal as a whole are equal, when each is a part of its
counterpart. -/
theorem append_eq_append_of_sublist {Entry : Type} {first second third fourth : List Entry}
    (left : first.Sublist third) (right : second.Sublist fourth)
    (equal : first ++ second = third ++ fourth) : first = third ∧ second = fourth := by
  have length := congrArg List.length equal
  rw [List.length_append, List.length_append] at length
  have leftLength := left.length_le
  have rightLength := right.length_le
  exact ⟨left.eq_of_length (by omega), right.eq_of_length (by omega)⟩

/-- A log in which every stream handed on, in order, exactly the messages that arrived for it, all
of them before its status. -/
def InboundComplete (log : List ClientObs) : Prop :=
  ∀ address, messages (streamLog address log) = arrived (streamLog address log) ∧
    Lawful StatusLast (streamLog address log)

/-- A run is complete on every stream exactly when every step of it keeps every message. -/
theorem inbound_complete_iff (wake : WakeHandle) (client : RClient) (log : List ClientObs)
    (run : (clientMachine wake).Run Machine.Free client log) :
    InboundComplete log ↔
      (clientMachine wake).Run (fun client input => keepsMessages client input = true)
        client log := by
  constructor
  · intro complete
    have equal (address : Nat) := (complete address).1
    clear complete
    induction run with
    | start => exact .start
    | @next state after log news input before _ taken inductionHypothesis =>
      have sound := sound_of_run before
      have parts (address : Nat) :
          messages (streamLog address log) = arrived (streamLog address log) ∧
            messages (streamLog address news) = arrived (streamLog address news) := by
        have whole := equal address
        rw [streamLog_append, messages_append, arrived_append] at whole
        exact append_eq_append_of_sublist (messages_sublist_arrived before address)
          ((sound.inbound_step taken).1 address) whole
      have kept := (sound.inbound_step taken).2.mpr fun address => (parts address).2
      exact .next (inductionHypothesis fun address => (parts address).1) kept taken
  · intro kept address
    refine ⟨?_, (sound_of_run run).statusLast address⟩
    clear run
    induction kept with
    | start => rfl
    | @next state after log news input before permitted taken inductionHypothesis =>
      have step := ((sound_of_run before).inbound_step taken).2.mp permitted address
      rw [streamLog_append, messages_append, arrived_append, inductionHypothesis, step]

/-- A stream that receives two messages, one of them while a write is outstanding that then
fails. -/
def receivedInputs : List ClientInput :=
  [.streamStart (.text [47]) {} 0 16 16,
    .returned 0 .start { ok := true },
    .request 1 (.send [1]),
    .returned 0 .read { ok := true, message := .ofRaw [2] },
    .returned 0 .read { ok := true, message := .ofRaw [3] },
    .returned 0 .write { ok := false },
    .returned 0 .read { ok := false },
    .returned 0 .finish { ok := true, status := ⟨14, []⟩ }]

theorem inbound_complete_received : ∃ client log,
    (clientMachine ⟨16, 0⟩).Run Machine.Free client log ∧
      (clientMachine ⟨16, 0⟩).Run (fun client input => keepsMessages client input = true)
        client log ∧
      arrived (streamLog 0 log) = [some [2], some [3]] ∧ InboundComplete log := by
  have run := Machine.run_of_exec (show (clientMachine ⟨16, 0⟩).exec
    (fun client input => keepsMessages client input = true)
    (clientMachine ⟨16, 0⟩).start receivedInputs = some _ from rfl)
  exact ⟨_, _, run.free, run, by decide,
    (inbound_complete_iff ⟨16, 0⟩ _ _ run.free).mpr run⟩

/-- A write fails while a read is outstanding, and the read then completes with a message. -/
def brokenInputs : List ClientInput :=
  [.streamStart (.text [47]) {} 0 16 16,
    .returned 0 .start { ok := true },
    .request 1 (.send [1]),
    .returned 0 .write { ok := false },
    .returned 0 .read { ok := true, message := .ofRaw [2] },
    .returned 0 .finish { ok := true, status := ⟨0, []⟩ }]

/-- The message is dropped: no `stream_msg` event is pushed for it, and the stream ends with the
status OK. -/
theorem inbound_message_dropped : ∃ client log,
    (clientMachine ⟨16, 0⟩).Run Machine.Free client log ∧
      arrived (streamLog 0 log) = [some [2]] ∧ messages (streamLog 0 log) = [] ∧
      pushedEvents (streamLog 0 log) = [{ kind := .status, id := 1 }] ∧
      ¬ InboundComplete log := by
  have run := Machine.run_of_exec (show (clientMachine ⟨16, 0⟩).exec Machine.Free
    (clientMachine ⟨16, 0⟩).start brokenInputs = some _ from rfl)
  refine ⟨_, _, run, by decide, by decide, by decide, fun complete => ?_⟩
  exact absurd (complete 0).1 (by decide)

end Rgrpc.Client
