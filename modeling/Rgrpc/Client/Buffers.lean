/-
This file judges the buffer arguments of `grpc_stream`. It hands both numbers to
`as.integer` and on to the stream without a check: the read buffer becomes an
`int`, the write buffer is cast from there to a `size_t`.

The first Read of a stream is posted without consulting the bound and every later
one only while there is room, so a stream without room for one message reads one
message and never another. A write buffer that is not what its cast says bounds
nothing that R could recognise.
-/

import Rgrpc.Client.Window

namespace Rgrpc.Client

open Library

/-! ### Numbers of R -/

/-- A number of R: `NA` (or not a number), an infinity, or a finite value. -/
inductive RNumber
  | na
  | infinite (negative : Bool)
  | finite (value : Rat)
  deriving DecidableEq, Repr

/-- `NA_INTEGER`. -/
def naInteger : Int := -2147483648

/-- `as.integer`: a finite number is truncated toward zero, and what does not fit is `NA`. -/
def RNumber.asInteger : RNumber → Int
  | .na => naInteger
  | .infinite _ => naInteger
  | .finite value =>
    if -2147483648 < value ∧ value < 2147483648 then value.num.tdiv value.den else naInteger

/-- Whether `count <= number` is `TRUE` in R; a comparison with `NA` is not. -/
def RNumber.atLeast (number : RNumber) (count : Nat) : Bool :=
  match number with
  | .na => false
  | .infinite negative => !negative
  | .finite value => decide ((count : Rat) ≤ value)

theorem RNumber.atLeast_of_le {number : RNumber} {count more : Nat}
    (enough : number.atLeast more = true) (fewer : count ≤ more) : number.atLeast count = true := by
  cases number with
  | na => exact enough
  | infinite negative => exact enough
  | finite value =>
    exact decide_eq_true
      (Rat.le_trans (Rat.natCast_le_natCast.mpr fewer) (of_decide_eq_true enough))

/-- A number that is positive as an integer is at least that integer. -/
theorem RNumber.atLeast_of_le_asInteger {number : RNumber} {count : Nat}
    (positive : 1 ≤ number.asInteger) (fewer : (count : Int) ≤ number.asInteger) :
    number.atLeast count = true := by
  cases number with
  | na => exact absurd positive (by decide)
  | infinite negative => exact absurd positive (by simp [asInteger, naInteger])
  | finite value =>
    rw [asInteger] at positive fewer
    split at positive
    · rename_i fits
      rw [if_pos fits] at fewer
      refine decide_eq_true ((Rat.le_iff _ _).mpr ?_)
      rw [Rat.num_natCast, Rat.den_natCast, Int.natCast_one, Int.mul_one]
      have whole : (0 : Int) < value.den := Int.natCast_pos.mpr value.den_pos
      have nonneg : 0 ≤ value.num := by
        by_contra negative
        have below := Int.tdiv_le_tdiv whole (Int.le_of_not_le negative)
        rw [Int.zero_tdiv] at below
        omega
      rw [Int.tdiv_eq_ediv_of_nonneg nonneg] at fewer
      exact (Int.le_ediv_iff_mul_le whole).mp fewer
    · exact absurd positive (by decide)

/-! ### The write queue -/

section Queue

variable (shutting : Bool) (stream : StreamState)

theorem writeQueue_sPostReadLocked :
    (sPostReadLocked shutting stream).1.writeQueue = stream.writeQueue := by
  rcases sPostReadLocked_cases shutting stream with same | ⟨-, -, -, -, -, -, same⟩ <;> rw [same]

theorem writeQueue_sPumpWritesLocked :
    (sPumpWritesLocked shutting stream).1.writeQueue = stream.writeQueue := by
  rcases sPumpWritesLocked_cases shutting stream with
    same | ⟨-, -, -, -, -, ⟨front, rest, -, same⟩ | ⟨-, -, -, -, same⟩⟩ <;> rw [same]

theorem writeQueue_sTryFinishLocked :
    (sTryFinishLocked shutting stream).1.writeQueue = stream.writeQueue := by
  rcases sTryFinishLocked_cases shutting stream with same | ⟨-, -, -, -, -, -, -, same⟩ <;>
  rw [same]

/-- A handler does not make the queue longer. -/
theorem length_writeQueue_runStream (op : TagKind) (delivery : Delivery) :
    (runStream shutting op delivery stream).1.writeQueue.length ≤ stream.writeQueue.length := by
  cases op with
  | start =>
    show (sTryFinishLocked shutting _).1.writeQueue.length ≤ _
    rw [writeQueue_sTryFinishLocked]
    split
    · show (sPumpWritesLocked shutting _).1.writeQueue.length ≤ _
      rw [writeQueue_sPumpWritesLocked, writeQueue_sPostReadLocked]
    · exact Nat.le_refl _
  | read =>
    show (sTryFinishLocked shutting _).1.writeQueue.length ≤ _
    rw [writeQueue_sTryFinishLocked]
    split
    · show (if stream.unread + 1 < stream.readCap then _ else _ :
        StreamState × List StreamObs).1.writeQueue.length ≤ _
      split
      · rw [writeQueue_sPostReadLocked]
      · exact Nat.le_refl _
    · exact Nat.le_refl _
  | write =>
    show (sTryFinishLocked shutting _).1.writeQueue.length ≤ _
    rw [writeQueue_sTryFinishLocked]
    split
    · show (sPumpWritesLocked shutting _).1.writeQueue.length ≤ _
      rw [writeQueue_sPumpWritesLocked]
      exact (List.tail_sublist _).length_le
    · exact Nat.le_refl _
  | wdone =>
    show (sTryFinishLocked shutting _).1.writeQueue.length ≤ _
    rw [writeQueue_sTryFinishLocked]
    split <;> exact Nat.le_refl _
  | finish => exact Nat.le_refl _

/-- A send is accepted only while the queue has room. -/
theorem fits_answer (request : StreamRequest)
    (fits : stream.writeQueue.length ≤ stream.writeCap) :
    (request.answer shutting stream).stream.writeQueue.length ≤ stream.writeCap := by
  rcases answer_cases shutting request stream with
    same | ⟨bytes, -, -, -, -, room, same⟩ | ⟨-, -, same⟩
  · rw [same]
    exact fits
  · rw [same]
    show (sPumpWritesLocked shutting _).1.writeQueue.length ≤ _
    rw [writeQueue_sPumpWritesLocked, List.length_append]
    exact room
  · rw [same]
    show (sPumpWritesLocked shutting _).1.writeQueue.length ≤ _
    rw [writeQueue_sPumpWritesLocked]
    exact fits

theorem writeQueue_takeMessage :
    (takeMessage shutting stream).1.writeQueue = stream.writeQueue := by
  show (if stream.unread - 1 < stream.readCap then _ else _ :
    StreamState × List StreamObs).1.writeQueue = _
  split
  · exact writeQueue_sPostReadLocked shutting _
  · rfl

end Queue

/-- Along every run of one stream its write queue stays within its bound. -/
theorem fits_of_run {view : StreamView} {log : List StreamObs}
    (run : streamMachine.Run Machine.Free view log) {stream : StreamState}
    (object : view.cell.object = some stream) : stream.writeQueue.length ≤ stream.writeCap := by
  induction run generalizing stream with
  | start =>
    obtain rfl := Option.some.inj object
    exact Nat.zero_le _
  | @next view after log news input before _ taken inductionHypothesis =>
    rcases streamStep_cases taken with
      ⟨id, readCap, writeCap, fresh, -, -, -, object', nameless, rfl, rfl⟩ |
      ⟨op, delivery, other, -, outstanding, object', rfl, rfl⟩ |
      ⟨other, left, object', -, origin, rfl, rfl⟩ | ⟨-, rfl, rfl⟩ |
      ⟨other, -, -, -, -, -, rfl, rfl⟩
    · obtain rfl := Option.some.inj object
      cases phase_of_run before with
      | fresh cell silent =>
        rw [cell] at object'
        obtain rfl := Option.some.inj object'
        exact Nat.zero_le _
      | live live same named ledger unended kept =>
        obtain rfl := Option.some.inj (object'.symm.trans same)
        exact absurd nameless named
      | gone cell deleted lawful =>
        rw [cell] at object'
        exact absurd object' (by simp)
    · simp only [handleTag] at object
      split at object
      · exact absurd object (by simp)
      · obtain rfl := Option.some.inj object
        rw [(counts_runStream view.shutting other op delivery).writeCap]
        exact Nat.le_trans (length_writeQueue_runStream view.shutting other op delivery)
          (inductionHypothesis object')
    · obtain rfl := Option.some.inj object
      rcases origin with ⟨request, -, rfl⟩ | ⟨-, rfl⟩
      · show (request.answer view.shutting other).stream.writeQueue.length ≤ _
        rw [(counts_answer view.shutting other request).writeCap]
        exact fits_answer view.shutting other request (inductionHypothesis object')
      · rw [(counts_takeMessage view.shutting other).writeCap, writeQueue_takeMessage]
        exact inductionHypothesis object'
    · exact inductionHypothesis object
    · exact absurd object (by simp)

/-! ### What a stream needs to go on -/

/-- The input of a `grpc_stream` with these buffers. -/
def grpcStream (method : RString) (opts : CallOpts) (now : Int) (readBuffer writeBuffer : RNumber) :
    ClientInput :=
  .streamStart method opts now readBuffer.asInteger writeBuffer.asInteger

/-- A stream between two steps respects its buffer arguments, and until it posted its finish it has
an operation outstanding or a message in the queue of its client whose delivery posts a Read. -/
structure Drivable (client : RClient) (id address : Nat) (stream : StreamState)
    (readBuffer writeBuffer : RNumber) : Prop where
  held : readBuffer.atLeast (client.undelivered id) = true
  queued : writeBuffer.atLeast stream.writeQueue.length = true
  moving : client.shutting = false → stream.finishPosted = false →
    (client.streamArena.cell address).tags ≠ [] ∨
      (∃ event ∈ client.ready, event.messageOf id = true) ∧ Resumes client id address

/-- Every stream opened with these buffers is drivable along every run. -/
def AlwaysDrivable (wake : WakeHandle) (readBuffer writeBuffer : RNumber) : Prop :=
  ∀ (client : RClient) (log : List ClientObs) (method : RString) (opts : CallOpts) (now : Int)
    (opened : RClient) (news : List ClientObs) (id : Nat) (later : RClient)
    (more : List ClientObs) (address : Nat) (stream : StreamState),
    (clientMachine wake).Run Machine.Free client log →
    clientStep client (grpcStream method opts now readBuffer writeBuffer) = some (opened, news) →
    .started (.ok id) ∈ news →
    ((clientMachine wake).startedAt opened).Run Machine.Free later more →
    later.streams.lookup id = some address →
    (later.streamArena.cell address).object = some stream →
    Drivable later id address stream readBuffer writeBuffer

section Moving

variable {client : RClient} {log : List ClientObs} {id address : Nat} {stream : StreamState}

/-- The flag of an operation is down when no tag is outstanding. -/
theorem flag_of_nil {op : TagKind} {flag : Bool}
    (count : ([] : List TagKind).count op = if flag then 1 else 0) : flag = false := by
  cases flag with
  | false => rfl
  | true => exact absurd count (by simp)

/-- A stream with nothing outstanding that is not to be finished is paused on a full window, and so
has a message in the queue. -/
theorem Sound.moving (sound : Sound client log) (tallied : Tallied client client.ready)
    (found : client.streams.lookup id = some address)
    (object : (client.streamArena.cell address).object = some stream) (room : 1 ≤ stream.readCap)
    (running : client.shutting = false) (unfinished : stream.finishPosted = false) :
    (client.streamArena.cell address).tags ≠ [] ∨
      (∃ event ∈ client.ready, event.messageOf id = true) ∧ Resumes client id address := by
  by_cases quiet : (client.streamArena.cell address).tags = []
  · have ledger := sound.ledger_of_found found object
    have engaged := sound.engaged object
    have controlled := sound.flowControlled tallied found object room
    rw [quiet] at ledger
    have idle : stream.readInflight = false ∧ stream.writeInflight = false ∧
        stream.wdoneInflight = false :=
      ⟨flag_of_nil ledger.read, flag_of_nil ledger.write, flag_of_nil ledger.wdone⟩
    have started : stream.started = true := by
      have start := ledger.start
      rw [List.count_nil] at start
      by_contra early
      rw [if_neg early] at start
      exact absurd start (by simp)
    have unwanted : stream.wantFinish = false := by
      by_contra wanted
      have waits := engaged.waits running started (by simpa using wanted) unfinished
      rw [idle.1, idle.2.1, idle.2.2] at waits
      exact absurd waits (by simp)
    have open_ : stream.readsClosed = false ∧ stream.broken = false := by
      refine ⟨?_, ?_⟩ <;>
      · by_contra ended
        rw [Bool.not_eq_false] at ended
        have wanted := engaged.ending (by simp [ended])
        exact absurd (unwanted.symm.trans wanted) Bool.false_ne_true
    have none : .read ∉ (client.streamArena.cell address).tags := by
      rw [quiet]
      exact List.not_mem_nil
    have full := (controlled.paused running started open_.1 open_.2 unfinished).mp none
    have waiting : 0 < client.undelivered id := by
      have counted := controlled.counted
      omega
    exact Or.inr ⟨List.countP_pos_iff.mp waiting,
      controlled.resumes ⟨running, started, open_.1, open_.2, unfinished, none⟩⟩
  · exact Or.inl quiet

end Moving

/-- Room for one message, and a write buffer that is at least what it is cast to, are enough. -/
theorem alwaysDrivable_of_room {readBuffer writeBuffer : RNumber} (wake : WakeHandle)
    (room : 1 ≤ readBuffer.asInteger)
    (cast : writeBuffer.atLeast (sizeOfInteger writeBuffer.asInteger) = true) :
    AlwaysDrivable wake readBuffer writeBuffer := by
  intro client log method opts now opened news id later more address stream run taken named on
    found object
  have stepped : (clientMachine wake).step client
    (grpcStream method opts now readBuffer writeBuffer) = some (opened, news) := taken
  have whole := (run.next trivial stepped).trans on
  have sound := sound_of_run whole
  obtain ⟨reads, writes⟩ := (bounded_of_run run taken named on).bounds address stream found object
  have controlled := sound.flowControlled (tallied_of_run whole) found object
    (by rw [reads]; exact room)
  refine ⟨RNumber.atLeast_of_le_asInteger room ?_, RNumber.atLeast_of_le cast ?_,
    sound.moving (tallied_of_run whole) found object (by rw [reads]; exact room)⟩
  · have counted := controlled.counted
    have bounded := controlled.bounded
    omega
  · have fits := fits_of_run (sound.streams address (Arena.lt_size_of_object object)) object
    rw [writes] at fits
    exact fits

/-! ### Arguments that fail -/

/-- A client with one stream, under the first id. -/
def RClient.soleStream (wake : WakeHandle) (stream : StreamState) (tags : List TagKind)
    (ready : List ClEvent) : RClient where
  wake := wake
  streamArena := ⟨[⟨some stream, tags⟩]⟩
  streams := (∅ : AList fun _ : Nat => Nat).insert 1 0
  ready := ready
  nextId := 2

/-- A run goes on with a step of the client. -/
theorem run_clientStep {wake : WakeHandle} {opened client after : RClient} {input : ClientInput}
    {log news : List ClientObs}
    (before : ((clientMachine wake).startedAt opened).Run Machine.Free client log)
    (taken : clientStep client input = some (after, news)) :
    ((clientMachine wake).startedAt opened).Run Machine.Free after (log ++ news) :=
  before.next trivial taken

section Wedge

variable (wake : WakeHandle) (readCap : Int) (writeCap : Nat)

/-- The call of a sole stream starts, and its first Read is posted, whatever its bound is. -/
theorem step_started :
    clientStep (.soleStream wake { id := 1, pending := 1, readCap, writeCap } [.start] [])
        (.returned 0 .start { ok := true }) =
      some (.soleStream wake
        { id := 1, pending := 1, started := true, readInflight := true, readCap, writeCap }
        [.read] [],
        [.stream 0 (.returned .start true .unset), .stream 0 (.posted .read)]) := rfl

/-- A sole stream without room for a message gets one, and does not read on. -/
theorem step_filled (tight : ¬ 1 ≤ readCap) :
    clientStep (.soleStream wake
        { id := 1, pending := 1, started := true, readInflight := true, readCap, writeCap }
        [.read] []) (.returned 0 .read { ok := true, message := .ofRaw [1] }) =
      some (.soleStream wake.signal
        { id := 1, readBuf := .ofRaw [1], started := true, unread := 1, readCap, writeCap } []
        [smsgEvent { id := 1, readBuf := .ofRaw [1] }],
        [.stream 0 (.returned .read true (.ofRaw [1])),
          .stream 0 (.pushed (smsgEvent { id := 1, readBuf := .ofRaw [1] }))]) := by
  cases readCap with
  | ofNat count =>
    obtain rfl : count = 0 := by
      rw [Int.ofNat_eq_natCast] at tight
      omega
    rfl
  | negSucc count => rfl

/-- R takes the message of a sole stream without room for one: it still does not read on. -/
theorem step_emptied (tight : ¬ 1 ≤ readCap) :
    ∃ news, clientStep (.soleStream wake
        { id := 1, readBuf := .ofRaw [1], started := true, unread := 1, readCap, writeCap } []
        [smsgEvent { id := 1, readBuf := .ofRaw [1] }]) (.poll ⟨1, 0, none⟩ 0) =
      some (.soleStream wake.drain
        { id := 1, readBuf := .ofRaw [1], started := true, readCap, writeCap } [] [], news) := by
  cases readCap with
  | ofNat count =>
    obtain rfl : count = 0 := by
      rw [Int.ofNat_eq_natCast] at tight
      omega
    exact ⟨_, rfl⟩
  | negSucc count => exact ⟨_, rfl⟩

/-- Without room for one message a stream reads one, and is stuck once R took it. -/
theorem wedged (tight : ¬ 1 ≤ readCap) :
    ∃ wake' more,
      ((clientMachine wake).startedAt (RClient.withStream { wake } readCap writeCap)).Run
        Machine.Free (.soleStream wake'
          { id := 1, readBuf := .ofRaw [1], started := true, readCap, writeCap } [] []) more := by
  obtain ⟨news, emptied⟩ := step_emptied wake.signal readCap writeCap tight
  have opened : ((clientMachine wake).startedAt (RClient.withStream { wake } readCap writeCap)).Run
    Machine.Free (.soleStream wake { id := 1, pending := 1, readCap, writeCap } [.start] []) [] :=
    .start
  have started := run_clientStep opened (step_started wake readCap writeCap)
  have filled := run_clientStep started (step_filled wake readCap writeCap tight)
  exact ⟨_, _, run_clientStep filled emptied⟩

/-- Before its call has started a sole stream takes a message for as long as its queue has room. -/
theorem step_queued (queue : List ByteBuffer) (room : queue.length < writeCap) :
    clientStep (.soleStream wake
        { id := 1, pending := 1, readCap, writeCap, writeQueue := queue } [.start] [])
        (.request 1 (.send [])) =
      some (.soleStream wake
        { id := 1, pending := 1, readCap, writeCap, writeQueue := queue ++ [.ofRaw []] }
        [.start] [],
        [.stream 0 (.accepted (.send [])), .result 1 (.send []) (.ok true)]) := by
  have answered : (StreamRequest.send []).answer false
      { id := 1, pending := 1, readCap, writeCap, writeQueue := queue } =
      ⟨{ id := 1, pending := 1, readCap, writeCap, writeQueue := queue ++ [.ofRaw []] },
        [.accepted (.send [])], true⟩ := by
    show (if writeCap ≤ queue.length then _ else _ : Answer) = _
    rw [if_neg (Nat.not_le.mpr room)]
    rfl
  have free : (RClient.soleStream wake
      { id := 1, pending := 1, readCap, writeCap, writeQueue := queue } [.start] []).atR = true :=
    rfl
  have found : (RClient.soleStream wake
      { id := 1, pending := 1, readCap, writeCap, writeQueue := queue } [.start]
        []).streams.lookup 1 = some 0 := rfl
  rw [clientStep, if_pos free, request_of_found rfl found rfl (.send [])]
  rw [show (RClient.soleStream wake _ _ _).shutting = false from rfl, answered]
  rfl

/-- Before its call has started a stream takes as many messages as its bound allows. -/
theorem parked {count : Nat} (fits : count ≤ writeCap) :
    ∃ more, ((clientMachine wake).startedAt (RClient.withStream { wake } readCap writeCap)).Run
      Machine.Free (.soleStream wake
        { id := 1, pending := 1, readCap, writeCap, writeQueue := .replicate count (.ofRaw []) }
        [.start] []) more := by
  induction count with
  | zero => exact ⟨_, .start⟩
  | succ count inductionHypothesis =>
    obtain ⟨more, run⟩ := inductionHypothesis (Nat.le_of_lt fits)
    have queued := step_queued wake readCap writeCap (.replicate count (.ofRaw []))
      (by rw [List.length_replicate]; exact fits)
    rw [← List.replicate_succ'] at queued
    exact ⟨_, run_clientStep run queued⟩

end Wedge

section Failing

variable {wake : WakeHandle} {readBuffer writeBuffer : RNumber}

/-- The start of a stream with these buffers, on a client just created. -/
theorem start_taken : clientStep { wake } (grpcStream (.text [47]) {} 0 readBuffer writeBuffer) =
    some (RClient.withStream { wake } readBuffer.asInteger (sizeOfInteger writeBuffer.asInteger),
      [.stream 0 (.posted .startCall), .started (.ok 1)]) := rfl

theorem start_named : ClientObs.started (.ok 1) ∈
    [ClientObs.stream 0 (.posted .startCall), .started (.ok 1)] :=
  List.mem_cons_of_mem _ List.mem_cons_self

theorem room_of_alwaysDrivable (always : AlwaysDrivable wake readBuffer writeBuffer) :
    1 ≤ readBuffer.asInteger := by
  by_contra tight
  obtain ⟨wake', more, run⟩ := wedged wake readBuffer.asInteger
    (sizeOfInteger writeBuffer.asInteger) tight
  have drivable := always _ _ _ _ _ _ _ 1 _ _ 0 _ .start start_taken start_named run rfl rfl
  rcases drivable.moving rfl rfl with outstanding | ⟨⟨event, waiting, -⟩, -⟩
  · exact outstanding rfl
  · exact absurd waiting List.not_mem_nil

theorem cast_of_alwaysDrivable (always : AlwaysDrivable wake readBuffer writeBuffer) :
    writeBuffer.atLeast (sizeOfInteger writeBuffer.asInteger) = true := by
  obtain ⟨more, run⟩ := parked wake readBuffer.asInteger
    (sizeOfInteger writeBuffer.asInteger) (Nat.le_refl _)
  have drivable := always _ _ _ _ _ _ _ 1 _ _ 0 _ .start start_taken start_named run rfl rfl
  have queued := drivable.queued
  rw [List.length_replicate] at queued
  exact queued

end Failing

/-- The buffers of a `grpc_stream` keep every stream drivable exactly when the read buffer has room
for one message as an integer, and the write buffer is at least the number of messages that its cast
allows. -/
theorem stream_drivable_iff (wake : WakeHandle) (readBuffer writeBuffer : RNumber) :
    AlwaysDrivable wake readBuffer writeBuffer ↔
      1 ≤ readBuffer.asInteger ∧
        writeBuffer.atLeast (sizeOfInteger writeBuffer.asInteger) = true := by
  constructor
  · intro always
    exact ⟨room_of_alwaysDrivable always, cast_of_alwaysDrivable always⟩
  · rintro ⟨room, cast⟩
    exact alwaysDrivable_of_room wake room cast

/-- A stream opened with a read buffer of `0` is stuck after its first message. -/
theorem not_alwaysDrivable_zero : ¬ AlwaysDrivable ⟨16, 0⟩ (.finite 0) (.finite 16) := by
  intro always
  exact absurd (room_of_alwaysDrivable always) (by decide)

end Rgrpc.Client
