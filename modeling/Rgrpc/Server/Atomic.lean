/-
This file says what an error in the middle of `grpc_reply` or `grpc_finish`
leaves behind. Both convert strings under the lock, after the call was marked as
replied and, for an abortive finish, after its queued writes were discarded. A
string marked with "bytes" encoding ends the conversion with an error, which
passes the lock guard by: the mutex stays held and the call stays half changed.

The checks of the R functions look at the types of their arguments and at
whether the names of the metadata are empty, and let such strings through.
-/

import Rgrpc.Server.Runs

namespace Rgrpc.Server

open Library

/-! ### The checks of the R functions -/

/-- Whether `nzchar` holds of every name of the metadata. -/
def RMetadata.named (metadata : RMetadata) : Bool :=
  metadata.all fun pair =>
    match pair.1 with
    | .text utf8 => !utf8.isEmpty
    | .marked raw => !raw.isEmpty

/-- The checks of `grpc_reply` and `grpc_finish`, on a status code: a raw response for an OK reply,
a character message for any other status, and metadata that is named throughout. -/
def RCall.checked : RCall → Bool
  | .reply args =>
    (if args.status == 0 then args.response.isSome else args.message.isSome) &&
      args.metadata.all RMetadata.named
  | .finish args =>
    (args.status == 0 || args.message.isSome) && args.metadata.all RMetadata.named
  | _ => true

/-- What the R functions let through passes the native checks. -/
theorem validate_of_checked {request : RCall} (checked : request.checked = true) :
    request.validate = .ok () := by
  cases request with
  | reply args =>
    rw [RCall.checked, Bool.and_eq_true] at checked
    by_cases code : args.status = 0
    · have present : args.response.isNone = false := by
        simpa [code, Option.isNone_eq_false_iff] using checked.1
      simp [RCall.validate, code, present]
    · have present : args.message.isNone = false := by
        simpa [code, Option.isNone_eq_false_iff] using checked.1
      simp [RCall.validate, code, present]
  | finish args =>
    rw [RCall.checked, Bool.and_eq_true] at checked
    by_cases code : args.status = 0
    · simp [RCall.validate, code]
    · have present : args.message.isNone = false := by
        simpa [code, Option.isNone_eq_false_iff] using checked.1
      simp [RCall.validate, present]
  | _ => rfl

/-! ### The strings of a terminal request -/

/-- Whether the strings that a terminal request converts translate: those of its metadata, and its
message unless the status is OK. -/
def stringsTranslate (status : Int) (message : Option RString) (metadata : Option RMetadata) :
    Bool :=
  metadata.all RMetadata.translates && (status == 0 || message.any RString.translates)

/-- Whether every string that a request converts under the lock translates. -/
def RCall.translates : RCall → Bool
  | .reply args => stringsTranslate args.status args.message args.metadata
  | .finish args => stringsTranslate args.status args.message args.metadata
  | _ => true

/-- Whether a call can still be answered. -/
def SvCall.answerable (call : SvCall) : Bool := call.delivered && !call.replied && !call.dead

theorem addTrailingMetadata_error_iff (call : SvCall) (metadata : Option RMetadata) :
    (addTrailingMetadata call metadata).2 = none ↔ metadata.all RMetadata.translates = true := by
  cases metadata with
  | none => simp [addTrailingMetadata]
  | some metadata => exact addMetadata_error_iff metadata call.trailingMetadata

theorem translateMessage_error_iff (message : Option RString) :
    (∃ error, translateMessage message = .error error) ↔
      message.any RString.translates = false := by
  rcases message with _ | (text | raw) <;>
    simp [translateMessage, translateCharUTF8, RString.translates]

/-- What a reply and a finish have in common: the metadata is converted, then the message unless the
status is OK, and an error of either ends the request. -/
def converting (call : SvCall) (status : Int) (message : Option RString)
    (metadata : Option RMetadata) (unset : SvCall → SvCall) (plain : SvCall → Answer)
    (spoken : SvCall → Bytes → Answer) : Answer :=
  match addTrailingMetadata call metadata with
  | (call, some error) => ⟨call, [], .error error⟩
  | (call, none) =>
    if status == 0 then plain call
    else
      match translateMessage message with
      | .error error => ⟨unset call, [], .error error⟩
      | .ok text => spoken call text

/-- It is an error exactly when a string does not translate. -/
theorem raised_converting {call : SvCall} {status : Int} {message : Option RString}
    {metadata : Option RMetadata} {unset : SvCall → SvCall} {plain : SvCall → Answer}
    {spoken : SvCall → Bytes → Answer} (accepts : ∀ call, (plain call).raised = false)
    (speaks : ∀ call text, (spoken call text).raised = false) :
    (converting call status message metadata unset plain spoken).raised =
      !stringsTranslate status message metadata := by
  have clean := addTrailingMetadata_error_iff call metadata
  rw [stringsTranslate, converting]
  rcases added : addTrailingMetadata call metadata with ⟨left, _ | error⟩
  · rw [added] at clean
    rw [clean.mp rfl, Bool.true_and]
    cases code : status == 0 with
    | true => exact accepts left
    | false =>
      have marked := translateMessage_error_iff message
      rw [Bool.false_or]
      cases translated : translateMessage message with
      | error error =>
        rw [marked.mp ⟨error, translated⟩]
        rfl
      | ok text =>
        have converted : message.any RString.translates = true := by
          by_contra unconverted
          obtain ⟨error, raised⟩ := marked.mpr (Bool.eq_false_iff.mpr unconverted)
          exact absurd (translated.symm.trans raised) (by simp)
        rw [converted]
        exact speaks left text
  · rw [added] at clean
    have marked : metadata.all RMetadata.translates = false := by simpa using clean
    rw [marked]
    rfl

/-- A request raises an error under the lock exactly when it finds the call answerable and has a
string that does not translate. -/
theorem answer_raised_iff (shutting : Bool) (request : RCall) (call : SvCall) :
    (request.answer shutting call).raised = true ↔
      call.answerable = true ∧ request.translates = false := by
  have blocked_eq : (!call.delivered || call.replied || call.dead) = !call.answerable := by
    simp [SvCall.answerable]
  cases request with
  | reply args =>
    rw [RCall.answer, replyCall, blocked_eq, RCall.translates]
    cases call.answerable with
    | false => simp [refuse, Answer.raised]
    | true =>
      rw [if_neg (by simp)]
      show (converting { call with replied := true } args.status args.message args.metadata
        id _ _).raised = true ↔ _
      rw [raised_converting (fun _ => rfl) fun _ _ => rfl]
      simp
  | finish args =>
    rw [RCall.answer, finishCall, blocked_eq, RCall.translates]
    cases call.answerable with
    | false => simp [refuse, Answer.raised]
    | true =>
      rw [if_neg (by simp)]
      show (converting (if args.drain then { call with replied := true } else
        { call with replied := true, writeQueue := discardQueued { call with replied := true } })
        args.status args.message args.metadata (fun left => { left with hasFinalWrite := false })
        _ _).raised = true ↔ _
      rw [raised_converting (fun _ => rfl) fun _ _ => rfl]
      simp
  | read =>
    rw [RCall.answer, readCall]
    split <;> simp [refuse, Answer.raised, RCall.translates]
  | cancel =>
    rw [RCall.answer, cancelCall]
    split <;> simp [refuse, Answer.raised, RCall.translates]
  | send bytes =>
    rw [RCall.answer, sendCall]
    split_ifs <;> simp [refuse, acceptAndPump, Answer.raised, RCall.translates]

/-! ### The mutex -/

/-- Over a step of a server, its mutex is left held exactly by a request that raised an error under
the lock, unless it was held before. -/
theorem Sound.muHeld_step {server after : RServer} {log news : List ServerObs}
    {input : ServerInput} (sound : Sound server log)
    (taken : serverStep server input = some (after, news)) (held : after.muHeld = true) :
    server.muHeld = true ∨ server.closed = false ∧ after.closed = false ∧
      ∃ id request error, ServerObs.result id request (.error error) ∈ news ∧
        request.translates = false := by
  rcases sound.step_cases taken with
    ⟨address, op, delivery, call, rfl, unlocked, outstanding, object, equal⟩ |
    ⟨id, request, address, call, rfl, opened, unlocked, found, object, rfl, rfl⟩ | ⟨-, quiet⟩ |
    ⟨rfl, opened, unlocked, rfl, rfl⟩ | ⟨rfl, joining, idle, rfl, rfl⟩
  · obtain ⟨count, whole, -⟩ := handle_eq server address op delivery call
    rw [equal, Prod.mk.injEq] at whole
    rw [whole.1] at held
    exact Or.inl ((handleBody_flags server address op delivery call).2.1.symm.trans held)
  · have marked := ((answer_raised_iff server.shutting request call).mp held).2
    refine Or.inr ⟨opened, opened, id, request, ?_⟩
    cases value : (request.answer server.shutting call).value with
    | error error => exact ⟨error, List.mem_append_right _ (List.mem_singleton.mpr rfl), marked⟩
    | ok value =>
      rw [Answer.raised, value] at held
      exact absurd held Bool.false_ne_true
  · rw [quiet.same] at held
    exact Or.inl held
  · exact Or.inl held
  · exact Or.inl held

/-- A held mutex was left so by a request with a string that does not translate, and keeps the
server from being closed. -/
theorem raised_of_muHeld {acceptWindow maxActive : Int} {wake : WakeHandle}
    {allowed : RServer → ServerInput → Prop} {server : RServer} {log : List ServerObs}
    (run : (serverMachine acceptWindow maxActive wake).Run allowed server log)
    (held : server.muHeld = true) : server.closed = false ∧
      ∃ id request error, ServerObs.result id request (.error error) ∈ log ∧
        request.translates = false := by
  induction run with
  | start =>
    obtain ⟨count, created, -⟩ := postAcceptsLocked_eq { acceptWindow, maxActive, wake }
    have free : (createServer acceptWindow maxActive wake).1.muHeld = false := by
      rw [createServer, created]
      rfl
    exact absurd (free.symm.trans held) Bool.false_ne_true
  | @next state after log news input before _ taken inductionHypothesis =>
    have sound := sound_of_run before
    rcases sound.muHeld_step taken held with
      earlier | ⟨-, opened, id, request, error, member, marked⟩
    · obtain ⟨opened, id, request, error, member, marked⟩ := inductionHypothesis earlier
      refine ⟨?_, id, request, error, List.mem_append_left _ member, marked⟩
      rcases sound.step_cases taken with
        ⟨address, op, delivery, call, rfl, unlocked, -⟩ |
        ⟨id, request, address, call, rfl, -, unlocked, -⟩ | ⟨-, quiet⟩ | ⟨rfl, -, unlocked, -⟩ |
        ⟨rfl, joining, -⟩
      · exact absurd (unlocked.symm.trans earlier) Bool.false_ne_true
      · exact absurd (unlocked.symm.trans earlier) Bool.false_ne_true
      · rw [quiet.same]
        exact opened
      · exact absurd (unlocked.symm.trans earlier) Bool.false_ne_true
      · exact absurd (opened.symm.trans (sound.joining joining)) Bool.false_ne_true
    · exact ⟨opened, id, request, error, List.mem_append_right _ member, marked⟩

/-! ### Atomic answers -/

/-- The call that R reaches under an id. -/
def RServer.callWith (server : RServer) (id : Nat) : Option SvCall :=
  (server.active.lookup id).bind fun address => (server.arena.cell address).object

/-- A request of an id is atomic under errors: when it raises an R error, the mutex is not held
afterwards and the call with that id is exactly as before. -/
def Atomic (server : RServer) (id : Nat) (request : RCall) : Prop :=
  ∀ after news error, server.request id request = some (after, news) →
    ServerObs.result id request (.error error) ∈ news →
    after.muHeld = false ∧ after.callWith id = server.callWith id

/-- Whether a request gets to convert its strings: the server is open, no earlier error left its
mutex held, and the call with the id can be answered. -/
def RServer.converts (server : RServer) (id : Nat) : Bool :=
  !server.closed && !server.muHeld && (server.callWith id).any SvCall.answerable

/-- A request that reaches a call under the lock. -/
theorem request_of_callWith {server : RServer} {id : Nat} {request : RCall} {call : SvCall}
    (opened : server.closed = false) (unlocked : server.muHeld = false)
    (valid : request.validate = .ok ()) (found : server.callWith id = some call) :
    ∃ address, server.active.lookup id = some address ∧
      (server.arena.cell address).object = some call ∧
      server.request id request = some
        ({ server with
            arena := server.arena.set address (answeredCell (request.answer server.shutting call)
              (server.arena.cell address).tags)
            muHeld := (request.answer server.shutting call).raised },
          (request.answer server.shutting call).obs.map (ServerObs.call address) ++
            [.result id request (request.answer server.shutting call).value]) := by
  obtain ⟨address, listed, object⟩ := Option.bind_eq_some_iff.mp found
  refine ⟨address, listed, object, ?_⟩
  simp [RServer.request, opened, unlocked, valid, listed, object]

/-- A request that raises an error under the lock is not atomic. -/
theorem not_atomic {server : RServer} {id : Nat} {request : RCall}
    (valid : request.validate = .ok ()) (converts : server.converts id = true)
    (marked : request.translates = false) : ¬ Atomic server id request := by
  intro atomic
  simp only [RServer.converts, Bool.and_eq_true, Bool.not_eq_true'] at converts
  obtain ⟨⟨opened, unlocked⟩, answerable⟩ := converts
  obtain ⟨call, found, answers⟩ := (Option.any_eq_true _ _).mp answerable
  obtain ⟨address, -, -, asked⟩ := request_of_callWith opened unlocked valid found
  have raised := (answer_raised_iff server.shutting request call).mpr ⟨answers, marked⟩
  cases value : (request.answer server.shutting call).value with
  | ok value =>
    rw [Answer.raised, value] at raised
    exact absurd raised Bool.false_ne_true
  | error error =>
    have free := (atomic _ _ error asked (by rw [value]; simp)).1
    exact absurd (raised.symm.trans free) (by simp)

/-- In every state of every run, and for all arguments that pass the checks of R, a reply or a
finish is atomic under errors exactly when it does not get to convert its strings or all of them
translate. -/
theorem answering_atomic_iff {acceptWindow maxActive : Int} {wake : WakeHandle}
    {server : RServer} {log : List ServerObs}
    (run : (serverMachine acceptWindow maxActive wake).Run Machine.Free server log) (id : Nat)
    (request : RCall) (checked : request.checked = true) :
    Atomic server id request ↔ (server.converts id = true → request.translates = true) := by
  have valid := validate_of_checked checked
  constructor
  · intro atomic converts
    by_contra marked
    exact not_atomic valid converts (Bool.eq_false_iff.mpr marked) atomic
  · intro translates after news error asked raised
    cases closed : server.closed with
    | true =>
      rw [RServer.request, if_pos closed, Option.some.injEq, Prod.mk.injEq] at asked
      obtain ⟨rfl, -⟩ := asked
      refine ⟨?_, rfl⟩
      by_contra held
      rw [Bool.not_eq_false] at held
      exact absurd (closed.symm.trans (raised_of_muHeld run held).1) (by simp)
    | false =>
      cases held : server.muHeld with
      | true =>
        exact absurd asked (by simp [RServer.request, closed, valid, held])
      | false =>
        cases found : server.callWith id with
        | none =>
          have quiet : ServerObs.result id request (.error error) ∉ news := by
            rw [RServer.callWith, Option.bind_eq_none_iff] at found
            cases listed : server.active.lookup id with
            | none =>
              simp only [RServer.request, closed, valid, held, listed] at asked
              obtain ⟨-, rfl⟩ := Prod.mk.inj (Option.some.inj asked)
              simp
            | some address =>
              simp only [RServer.request, closed, valid, held, listed, found address listed]
                at asked
              obtain ⟨-, rfl⟩ := Prod.mk.inj (Option.some.inj asked)
              simp
          exact absurd raised quiet
        | some call =>
          obtain ⟨address, -, -, equal⟩ := request_of_callWith closed held valid found
          rw [equal, Option.some.injEq, Prod.mk.injEq] at asked
          obtain ⟨-, rfl⟩ := asked
          have value : (request.answer server.shutting call).value = .error error := by
            rcases List.mem_append.mp raised with own | last
            · simp at own
            · simpa using (List.mem_singleton.mp last).symm
          obtain ⟨answers, marked⟩ := (answer_raised_iff server.shutting request call).mp
            (by rw [Answer.raised, value])
          rw [translates (by simp [RServer.converts, closed, held, found, answers])] at marked
          exact absurd marked (by simp)

/-- A request is delivered to R; in its reply, the value of a metadata pair is marked with "bytes"
encoding. -/
def markedReply : RCall :=
  .reply ⟨some [1], 0, some (.text []), some [(.text [107], .marked [255])]⟩

/-- A call that R can answer. -/
def deliveredInputs : List ServerInput :=
  [.returned 0 .accept { ok := true },
    .returned 0 .read { ok := true, message := .ofRaw [1] }]

theorem answering_atomic_translated : ∃ server log,
    (serverMachine 1 2 ⟨16, 0⟩).Run Machine.Free server log ∧ server.converts 1 = true ∧
      Atomic server 1
        (.reply ⟨some [1], 0, some (.text []), some [(.text [107], .text [118])]⟩) := by
  have run := Machine.run_of_exec (show (serverMachine 1 2 ⟨16, 0⟩).exec Machine.Free
    (serverMachine 1 2 ⟨16, 0⟩).start deliveredInputs = some _ from rfl)
  exact ⟨_, _, run, rfl, (answering_atomic_iff run 1 _ rfl).mpr fun _ => rfl⟩

/-- The error leaves the mutex held and the call marked as replied: no later request of R
returns. -/
theorem answering_not_atomic : ∃ server log,
    (serverMachine 1 2 ⟨16, 0⟩).Run Machine.Free server log ∧ markedReply.checked = true ∧
      ¬ Atomic server 1 markedReply ∧
      ∃ after news error, server.request 1 markedReply = some (after, news) ∧
        ServerObs.result 1 markedReply (.error error) ∈ news ∧ after.muHeld = true ∧
        ((after.callWith 1).map SvCall.replied = some true) ∧
        after.request 1 .cancel = none := by
  have run := Machine.run_of_exec (show (serverMachine 1 2 ⟨16, 0⟩).exec Machine.Free
    (serverMachine 1 2 ⟨16, 0⟩).start deliveredInputs = some _ from rfl)
  exact ⟨_, _, run, rfl, not_atomic rfl rfl rfl, _, _, _, rfl, List.mem_singleton.mpr rfl, rfl,
    rfl, rfl⟩

end Rgrpc.Server
