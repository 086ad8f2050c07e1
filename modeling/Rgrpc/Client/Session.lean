/-
This file models what an R program does with one client through the functions of
`client.R`: it starts calls and streams, typed or not, and polls and awaits. Each
function makes one native call and keeps the table of call types next to it. The
completion thread and the other native calls of R run in between as they do in
`Rgrpc/Client/Client.lean`; they do not reach the table.

The arguments a function refuses by itself make no native call. The options of a
call are taken as they are let through.
-/

import Rgrpc.Client.Decorate
import Rgrpc.Client.Tally
import Rgrpc.Delivery

namespace Rgrpc.Client

open Library

/-! ### Arguments -/

/-- A `"grpc_method"` of a resolved service. -/
structure GrpcMethod where
  path : String
  inputType : String
  outputType : String
  clientStreaming : Bool := false
  serverStreaming : Bool := false
  deriving DecidableEq, Repr

/-- The `method` argument of `grpc_call` and `grpc_stream`: a full path, or a method of a resolved
service for a typed call. -/
inductive MethodArg
  | full (path : RString)
  | typed (method : GrpcMethod)
  deriving DecidableEq, Repr

/-- The `request` argument of `grpc_call`: a raw vector, or a `Message` with the name of its type
and what `RProtoBuf::serialize` makes of it. -/
inductive RequestArg
  | raw (bytes : Bytes)
  | message (type : String) (serialized : Except RError Bytes)

/-- The path native code is given. -/
def MethodArg.toPath : MethodArg → RString
  | .full path => path
  | .typed method => .text method.path.toUTF8.data.toList

/-- The types `grpc_call` stores for a call: only its output type. -/
def MethodArg.callTypes : MethodArg → Option CallTypes
  | .full _ => none
  | .typed method => some { output := some method.outputType }

/-- The types `grpc_stream` stores for a stream. -/
def MethodArg.streamTypes : MethodArg → Option CallTypes
  | .full _ => none
  | .typed method =>
    some { input := some method.inputType, output := some method.outputType }

/-- The checks of `grpc_call` on a typed method and its request. -/
def checkTyped (method : MethodArg) (request : RequestArg) : Except RError Unit :=
  match method with
  | .full _ => .ok ()
  | .typed method =>
    if method.clientStreaming || method.serverStreaming then
      .error ("method '" ++ method.path ++ "' is streaming; use grpc_stream()")
    else
      match request with
      | .raw _ => .ok ()
      | .message type _ =>
        if type = method.inputType then .ok ()
        else .error ("request is '" ++ type ++ "' but '" ++ method.path ++ "' expects '" ++
          method.inputType ++ "'")

/-- The bytes of a request. -/
def RequestArg.serialize : RequestArg → Except RError Bytes
  | .raw bytes => .ok bytes
  | .message _ serialized => serialized

/-- What `grpc_call` does before it makes its native call: the bytes it hands over, or the error it
raises. -/
def prepareCall (method : MethodArg) (request : RequestArg) : Except RError Bytes := do
  checkTyped method request
  request.serialize

/-! ### The session -/

/-- A `"grpc_client"` in R: the native client and `client$calls$types`. -/
structure RSession where
  client : RClient
  types : CallTable := ∅

/-- What an R program can do with a client, and what can happen to it meanwhile: a typed or untyped
start, a poll of everything or of one call, a native call that does not concern the table, a turn
of the completion thread, or the end of a wait. -/
inductive SessionInput
  | grpcCall (method : MethodArg) (request : RequestArg) (opts : CallOpts) (now : Int)
  | grpcStream (method : MethodArg) (opts : CallOpts) (now readBuffer writeBuffer : Int)
  | grpcPoll (maxEvents timeoutMs leftMs : Int)
  | grpcAwait (id : Nat) (timeoutMs maxEvents leftMs : Int)
  | other (input : ClientInput)

/-- What can be observed of a session: something of the native client, an error raised before a
native call, the id a typed or untyped call or stream was started under, and the batch a poll took
with what the native poll made of it and what R was given. -/
inductive SessionObs (Message : Type)
  | native (obs : ClientObs)
  | raised (error : RError)
  | called (id : Nat) (method : MethodArg)
  | opened (id : Nat) (method : MethodArg)
  | returned (batch : List ClEvent) (converted : Except RError (List RClEvent))
      (value : Except RError (List (DecoratedEvent Message)))

/-- The batches the native polls took, each with what it was converted to. -/
def polls (log : List ClientObs) : List (List ClEvent × Except RError (List RClEvent)) :=
  log.filterMap fun
    | .polled batch value => some (batch, value)
    | _ => none

/-- The table once a call was started: an untyped call has no entry. -/
def remember (table : CallTable) (id : Nat) : Option CallTypes → CallTable
  | none => table
  | some types => callsSet table id types

/-- Whether a native call is one that only the modelled functions of R make. -/
def ClientInput.wrapped : ClientInput → Bool
  | .callStart _ _ _ _ | .streamStart _ _ _ _ _ | .poll _ _ => true
  | _ => false

section Session

variable {Message : Type} (grpcDecode : Bytes → String → Except RError Message)

/-- A native call that starts something: what it returns is remembered under its types. -/
def RSession.starts (session : RSession) (types : Option CallTypes)
    (started : Nat → SessionObs Message) (input : ClientInput) :
    Option (RSession × List (SessionObs Message)) :=
  (clientStep session.client input).map fun result =>
    match (startedIds result.2).head? with
    | none => ({ session with client := result.1 }, result.2.map .native)
    | some id =>
      (⟨result.1, remember session.types id types⟩, result.2.map .native ++ [started id])

/-- A native call, or a turn of the native client: when it ends a poll, `decorate_events` maps over
what the poll returned. -/
def RSession.moves (session : RSession) (input : ClientInput) :
    Option (RSession × List (SessionObs Message)) :=
  (clientStep session.client input).map fun result =>
    match (polls result.2).head? with
    | none => ({ session with client := result.1 }, result.2.map .native)
    | some (batch, converted) =>
      let delivered := deliver grpcDecode session.types converted
      (⟨result.1, delivered.1⟩,
        result.2.map .native ++ [.returned batch converted delivered.2])

/-- The step of a session. -/
def sessionStep (session : RSession) :
    SessionInput → Option (RSession × List (SessionObs Message))
  | .grpcCall method request opts now =>
    match prepareCall method request with
    | .error error => if session.client.atR then some (session, [.raised error]) else none
    | .ok bytes =>
      session.starts method.callTypes (.called · method)
        (.callStart method.toPath bytes opts now)
  | .grpcStream method opts now readBuffer writeBuffer =>
    session.starts method.streamTypes (.opened · method)
      (.streamStart method.toPath opts now readBuffer writeBuffer)
  | .grpcPoll maxEvents timeoutMs leftMs =>
    session.moves grpcDecode (.poll ⟨maxEvents, timeoutMs, none⟩ leftMs)
  | .grpcAwait id timeoutMs maxEvents leftMs =>
    session.moves grpcDecode (.poll ⟨maxEvents, timeoutMs, some id⟩ leftMs)
  | .other input => if input.wrapped then none else session.moves grpcDecode input

/-- A client as `grpc_client` leaves it. -/
def sessionMachine (wake : WakeHandle) : Machine RSession SessionInput (SessionObs Message) where
  start := ⟨{ wake }, ∅⟩
  opening := []
  step := sessionStep grpcDecode

end Session

/-! ### What a log says -/

section Logs

variable {Message : Type}

/-- What can be observed of the native client of a session. -/
def nativeLog (log : List (SessionObs Message)) : List ClientObs :=
  log.filterMap fun
    | .native obs => some obs
    | _ => none

/-- The calls and streams started, each with the types stored for it. -/
def starts (log : List (SessionObs Message)) : List (Nat × Option CallTypes) :=
  log.filterMap fun
    | .called id method => some (id, method.callTypes)
    | .opened id method => some (id, method.streamTypes)
    | _ => none

/-- The batches polls took from the queue of the client. -/
def takes (log : List (SessionObs Message)) : List (List ClEvent) :=
  log.filterMap fun
    | .returned batch _ _ => some batch
    | _ => none

/-- The events polls returned to R, in order. -/
def handed (log : List (SessionObs Message)) : List (DecoratedEvent Message) :=
  log.flatMap fun
    | .returned _ _ (.ok events) => events
    | _ => []

/-- The events polls took from the queue and raised an error over. -/
def lost (log : List (SessionObs Message)) : List ClEvent :=
  log.flatMap fun
    | .returned batch _ (.error _) => batch
    | _ => []

/-- An error of `grpc_decode`: the batch was converted, and yet R was given an error. -/
def SessionObs.decodeRaised : SessionObs Message → Bool
  | .returned _ (.ok _) (.error _) => true
  | _ => false

section Projections

variable (log more : List (SessionObs Message)) (obs : List ClientObs)

@[simp]
theorem nativeLog_append : nativeLog (log ++ more) = nativeLog log ++ nativeLog more :=
  List.filterMap_append

@[simp]
theorem starts_append : starts (log ++ more) = starts log ++ starts more :=
  List.filterMap_append

@[simp]
theorem takes_append : takes (log ++ more) = takes log ++ takes more :=
  List.filterMap_append

@[simp]
theorem handed_append : handed (log ++ more) = handed log ++ handed more :=
  List.flatMap_append

@[simp]
theorem lost_append : lost (log ++ more) = lost log ++ lost more :=
  List.flatMap_append

@[simp]
theorem nativeLog_map : nativeLog (obs.map (SessionObs.native : _ → SessionObs Message)) = obs := by
  rw [nativeLog, List.filterMap_map]
  exact List.filterMap_some

@[simp]
theorem starts_map : starts (obs.map (SessionObs.native : _ → SessionObs Message)) = [] := by
  rw [starts, List.filterMap_map]
  exact List.filterMap_eq_nil_iff.mpr fun _ _ => rfl

@[simp]
theorem takes_map : takes (obs.map (SessionObs.native : _ → SessionObs Message)) = [] := by
  rw [takes, List.filterMap_map]
  exact List.filterMap_eq_nil_iff.mpr fun _ _ => rfl

@[simp]
theorem handed_map : handed (obs.map (SessionObs.native : _ → SessionObs Message)) = [] := by
  rw [handed, List.flatMap_map]
  exact List.flatMap_eq_nil_iff.mpr fun _ _ => rfl

@[simp]
theorem lost_map : lost (obs.map (SessionObs.native : _ → SessionObs Message)) = [] := by
  rw [lost, List.flatMap_map]
  exact List.flatMap_eq_nil_iff.mpr fun _ _ => rfl

end Projections

end Logs

/-! ### What a native step starts and returns -/

section Native

variable {client after : RClient} {input : ClientInput} {log news : List ClientObs}

theorem takenBatches_eq_map_polls (log : List ClientObs) :
    takenBatches log = (polls log).map Prod.fst := by
  rw [takenBatches, polls, List.map_filterMap]
  refine List.filterMap_congr fun entry _ => ?_
  cases entry <;> rfl

/-- A poll returns one batch, converted. -/
theorem polls_pollTake (client : RClient) (args : PollArgs) : ∃ batch,
    polls (client.pollTake args).2 = [(batch, batch.mapM ClEvent.toR)] := by
  have silent : polls (takeLoop (fun event : ClEvent => args.wants event.id) RClient.account
      args.maxEvents client.ready 0 client).obs = [] := by
    refine List.filterMap_eq_nil_iff.mpr fun entry member => ?_
    cases collected_takeLoop client args entry member <;> rfl
  refine ⟨(takeLoop (fun event : ClEvent => args.wants event.id) RClient.account
    args.maxEvents client.ready 0 client).batch, ?_⟩
  rw [RClient.pollTake, polls, List.filterMap_append, ← polls, silent]
  rfl

/-- Only a poll returns a batch. -/
theorem Sound.takenBatches_of_step (sound : Sound client log)
    (taken : clientStep client input = some (after, news)) (other : client.pollArgs input = none) :
    takenBatches news = [] := by
  have quiet {call : RClient × List ClientObs} (silent : Unqueued call.2)
      (called : (if client.atR then some call else none) = some (after, news)) :
      takenBatches news = [] := by
    obtain ⟨made, -⟩ := sound.idle_of_call called
    rw [made] at silent
    exact silent.takenBatches
  cases input with
  | unary address delivery =>
    have seen : (clientFeed client.wake).Seen client _ after news _ := seen_unary taken
    exact (Prod.mk.inj (Option.some.inj seen.step)).2.symm
  | returned address op delivery =>
    have seen : (clientFeed client.wake).Seen client _ after news _ := seen_returned taken
    exact (Prod.mk.inj (Option.some.inj seen.step)).2.symm
  | callStart method request opts now =>
    exact quiet (inbox_callStart client method request opts now).2 taken
  | streamStart method opts now readCap writeCap =>
    exact quiet (inbox_streamStart client method opts now readCap writeCap).2 taken
  | request id request => exact quiet (inbox_request client id request).2 taken
  | cancel id => exact quiet (inbox_cancel client id).2 taken
  | poll args leftMs => exact absurd other (by simp [RClient.pollArgs])
  | woken result leftMs =>
    obtain ⟨args, thread, -⟩ := woken_cases taken
    exact absurd other (by simp [RClient.pollArgs, thread])
  | close =>
    obtain ⟨made, -⟩ := sound.idle_of_call taken
    unfold RClient.beginClose at made
    split at made <;>
    · obtain ⟨-, rfl⟩ := Prod.mk.inj made
      rfl
  | joined =>
    have seen : (clientFeed client.wake).Seen client _ after news _ := sound.seen_joined taken
    have step := seen.step
    rw [inboxStep] at step
    split at step
    · exact (Prod.mk.inj (Option.some.inj step)).2.symm
    · exact absurd step (by simp)

/-- Only a start hands out an id. -/
theorem Sound.unnamed_of_step (sound : Sound client log)
    (taken : clientStep client input = some (after, news))
    (other : (∀ method request opts now, input ≠ .callStart method request opts now) ∧
      ∀ method opts now readCap writeCap, input ≠ .streamStart method opts now readCap writeCap) :
    startedIds news = [] := by
  have numbers := (numbers_of_step taken).next
  have same : after.nextId = client.nextId := by
    cases turn_of_step taken with
    | unary | returned | request | closing => rfl
    | leakCall method request opts now => exact absurd rfl (other.1 method request opts now)
    | callStarted method request opts now => exact absurd rfl (other.1 method request opts now)
    | leakStream method opts now readCap writeCap =>
      exact absurd rfl (other.2 method opts now readCap writeCap)
    | streamStarted method opts now readCap writeCap =>
      exact absurd rfl (other.2 method opts now readCap writeCap)
    | polled input wake args origin => exact (pollTake_tables { client with wake } args).next
    | quiet input after news quiet origin => rw [quiet.same]
    | joined after news joining ended =>
      obtain ⟨-, -, rfl, -⟩ := sound.endClose_eq ended
      rfl
    | lost input after news lost => exact absurd lost sound.not_lost
  exact List.length_eq_zero_iff.mp (by omega)

/-- A start hands out one id, or none. -/
theorem startedIds_of_start (taken : clientStep client input = some (after, news))
    (start : (∃ method request opts now, input = .callStart method request opts now) ∨
      ∃ method opts now readCap writeCap, input = .streamStart method opts now readCap writeCap) :
    startedIds news = [] ∨ startedIds news = [client.nextId] ∧ client.closed = false := by
  have numbers := numbers_of_step taken
  rcases named : startedIds news with _ | ⟨id, rest⟩
  · exact Or.inl rfl
  · have member : ClientObs.started (.ok id) ∈ news := by
      have inside : id ∈ startedIds news := named ▸ List.mem_cons_self
      obtain ⟨entry, listed, same⟩ := List.mem_filterMap.mp inside
      cases entry with
      | started value =>
        cases value with
        | ok other => exact Option.some.inj same ▸ listed
        | error error => exact absurd same (by simp)
      | _ => exact absurd same (by simp)
    have one : (after.nextId = client.nextId + 1 ∧ id = client.nextId) ∧
        client.closed = false := by
      rcases start with ⟨method, request, opts, now, rfl⟩ |
        ⟨method, opts, now, readCap, writeCap, rfl⟩
      · obtain ⟨same, opened, rfl, -⟩ := id_of_callStart taken member
        exact ⟨⟨rfl, same⟩, opened⟩
      · obtain ⟨same, opened, rfl, -⟩ := id_of_streamStart taken member
        exact ⟨⟨rfl, same⟩, opened⟩
    have length := numbers.next
    rw [named, List.length_cons] at length
    have empty : rest = [] := List.length_eq_zero_iff.mp (by omega)
    rw [empty, one.1.2]
    exact Or.inr ⟨rfl, one.2⟩

end Native

/-! ### What a step of a session can be -/

section Turns

variable {Message : Type} {grpcDecode : Bytes → String → Except RError Message}

/-- The entry of the log for a start, with what is stored for it. -/
def SessionObs.shows (entry : SessionObs Message) (id : Nat) (types : Option CallTypes) : Prop :=
  (∃ method, entry = .called id method ∧ types = method.callTypes) ∨
    ∃ method, entry = .opened id method ∧ types = method.streamTypes

/-- A step of a session: R is refused before any native call, a call or a stream is started under
the next id, something happens that returns no batch, or a poll returns one. -/
inductive SessionTurn (grpcDecode : Bytes → String → Except RError Message) (session : RSession) :
    RSession → List (SessionObs Message) → Prop
  | refused (error : RError) : SessionTurn grpcDecode session session [.raised error]
  | started (input : ClientInput) (client : RClient) (news : List ClientObs)
      (types : Option CallTypes) (entry : SessionObs Message)
      (taken : clientStep session.client input = some (client, news))
      (named : startedIds news = [session.client.nextId]) (opened : session.client.closed = false)
      (silent : takenBatches news = []) (shown : entry.shows session.client.nextId types) :
      SessionTurn grpcDecode session
        ⟨client, remember session.types session.client.nextId types⟩
        (news.map .native ++ [entry])
  | moved (input : ClientInput) (client : RClient) (news : List ClientObs)
      (taken : clientStep session.client input = some (client, news))
      (unnamed : startedIds news = []) (silent : takenBatches news = []) :
      SessionTurn grpcDecode session { session with client } (news.map .native)
  | polled (input : ClientInput) (client : RClient) (news : List ClientObs)
      (batch : List ClEvent) (types : CallTable)
      (value : Except RError (List (DecoratedEvent Message)))
      (taken : clientStep session.client input = some (client, news))
      (unnamed : startedIds news = []) (took : takenBatches news = [batch])
      (delivered : deliver grpcDecode session.types (batch.mapM ClEvent.toR) = (types, value)) :
      SessionTurn grpcDecode session ⟨client, types⟩
        (news.map .native ++ [.returned batch (batch.mapM ClEvent.toR) value])

section Steps

variable {session after : RSession} {log : List ClientObs} {news : List (SessionObs Message)}

theorem turn_of_starts (sound : Sound session.client log) {types : Option CallTypes}
    {started : Nat → SessionObs Message} {input : ClientInput}
    (taken : session.starts types started input = some (after, news))
    (start : (∃ method request opts now, input = .callStart method request opts now) ∨
      ∃ method opts now readCap writeCap, input = .streamStart method opts now readCap writeCap)
    (shown : ∀ id, (started id).shows id types) :
    SessionTurn grpcDecode session after news := by
  obtain ⟨⟨client, native⟩, step, equal⟩ := Option.map_eq_some_iff.mp taken
  have silent : takenBatches native = [] := by
    refine sound.takenBatches_of_step step ?_
    rcases start with ⟨_, _, _, _, rfl⟩ | ⟨_, _, _, _, _, rfl⟩ <;> rfl
  rcases startedIds_of_start step start with unnamed | ⟨named, opened⟩
  · rw [unnamed] at equal
    obtain ⟨rfl, rfl⟩ := Prod.mk.inj equal
    exact .moved input client native step unnamed silent
  · rw [named] at equal
    obtain ⟨rfl, rfl⟩ := Prod.mk.inj equal
    exact .started input client native types _ step named opened silent (shown _)

theorem turn_of_moves (sound : Sound session.client log) {input : ClientInput}
    (taken : session.moves grpcDecode input = some (after, news))
    (other : (∀ method request opts now, input ≠ .callStart method request opts now) ∧
      ∀ method opts now readCap writeCap, input ≠ .streamStart method opts now readCap writeCap) :
    SessionTurn grpcDecode session after news := by
  obtain ⟨⟨client, native⟩, step, equal⟩ := Option.map_eq_some_iff.mp taken
  have unnamed := sound.unnamed_of_step step other
  have plain (silent : polls native = []) : SessionTurn grpcDecode session after news := by
    rw [silent] at equal
    obtain ⟨rfl, rfl⟩ := Prod.mk.inj equal
    exact .moved input client native step unnamed (by rw [takenBatches_eq_map_polls, silent]; rfl)
  cases asked : session.client.pollArgs input with
  | none =>
    have silent := sound.takenBatches_of_step step asked
    rw [takenBatches_eq_map_polls, List.map_eq_nil_iff] at silent
    exact plain silent
  | some args =>
    rcases pollStep_clientStep asked step with ⟨wake, ended⟩ | ⟨-, silent⟩
    · obtain ⟨batch, took⟩ := polls_pollTake { session.client with wake } args
      rw [← ended] at took
      rw [took] at equal
      obtain ⟨rfl, rfl⟩ := Prod.mk.inj equal
      exact .polled input client native batch _ _ step unnamed
        (by rw [takenBatches_eq_map_polls, took]; rfl) rfl
    · refine plain (List.filterMap_eq_nil_iff.mpr fun entry member => ?_)
      cases entry with
      | polled batch value => exact absurd member (silent batch value)
      | _ => rfl

/-- Every step of a session is one of these. -/
theorem turn_of_sessionStep (sound : Sound session.client log) {input : SessionInput}
    (taken : sessionStep grpcDecode session input = some (after, news)) :
    SessionTurn grpcDecode session after news := by
  cases input with
  | grpcCall method request opts now =>
    rw [sessionStep] at taken
    split at taken
    · split at taken
      · obtain ⟨rfl, rfl⟩ := Prod.mk.inj (Option.some.inj taken)
        exact .refused _
      · exact absurd taken (by simp)
    · exact turn_of_starts sound taken (Or.inl ⟨_, _, _, _, rfl⟩)
        fun id => Or.inl ⟨method, rfl, rfl⟩
  | grpcStream method opts now readBuffer writeBuffer =>
    exact turn_of_starts sound taken (Or.inr ⟨_, _, _, _, _, rfl⟩)
      fun id => Or.inr ⟨method, rfl, rfl⟩
  | grpcPoll maxEvents timeoutMs leftMs => exact turn_of_moves sound taken ⟨by simp, by simp⟩
  | grpcAwait id timeoutMs maxEvents leftMs => exact turn_of_moves sound taken ⟨by simp, by simp⟩
  | other input =>
    rw [sessionStep] at taken
    split at taken
    · exact absurd taken (by simp)
    · rename_i plain
      refine turn_of_moves sound taken ⟨?_, ?_⟩ <;>
      · rintro _ _ _ _
        intros
        rintro rfl
        exact plain rfl

/-- The native client of a session makes the step of the session, or none. -/
theorem SessionTurn.native (turn : SessionTurn grpcDecode session after news) :
    (after.client = session.client ∧ nativeLog news = []) ∨
      ∃ input, clientStep session.client input = some (after.client, nativeLog news) := by
  cases turn with
  | refused error => exact Or.inl ⟨rfl, rfl⟩
  | started input client native types entry taken named opened silent shown =>
    have unseen : nativeLog [entry] = [] := by
      rcases shown with ⟨method, rfl, -⟩ | ⟨method, rfl, -⟩ <;> rfl
    refine Or.inr ⟨input, ?_⟩
    rw [nativeLog_append, nativeLog_map, unseen, List.append_nil]
    exact taken
  | moved input client native taken => exact Or.inr ⟨input, by rw [nativeLog_map]; exact taken⟩
  | polled input client native batch types value taken =>
    refine Or.inr ⟨input, ?_⟩
    rw [nativeLog_append, nativeLog_map]
    exact taken.trans (congrArg some (Prod.ext rfl (List.append_nil native).symm))

end Steps

/-- The native client of a session runs. -/
theorem native_of_run {wake : WakeHandle} {session : RSession} {log : List (SessionObs Message)}
    (run : (sessionMachine grpcDecode wake).Run Machine.Free session log) :
    (clientMachine wake).Run Machine.Free session.client (nativeLog log) := by
  induction run with
  | start => exact .start
  | @next state after log news input before _ taken inductionHypothesis =>
    rw [nativeLog_append]
    rcases (turn_of_sessionStep (sound_of_run inductionHypothesis) taken).native with
      ⟨same, silent⟩ | ⟨native, step⟩
    · rw [same, silent, List.append_nil]
      exact inductionHypothesis
    · have next : (clientMachine wake).step state.client native =
          some (after.client, nativeLog news) := step
      exact inductionHypothesis.next trivial next

end Turns

end Rgrpc.Client
