/-
This file models the asynchronous client, `client` of `client.cpp`, over the
streams of `Rgrpc/Client/Stream.lean`.

As on the server, the completion thread and the R thread work under one mutex
and a step of the model is one locked section. Starting a call or a stream
allocates its state before the lock is taken, and the options of the call are
applied to it there. An error R raises on the way is a `longjmp` that runs no
destructor, so the state stays allocated and nothing points to it.

Of gRPC it is assumed that every posted tag is returned exactly once, and that
the completion queue is drained before `Next` returns false after a shutdown.
-/

import Rgrpc.Client.Stream
import Mathlib.Data.List.AList

namespace Rgrpc.Client

open Library

/-! ### Data -/

/-- The kind of tag of a unary call. -/
inductive UnaryOp
  | unary
  deriving DecidableEq, Repr

/-- `call_state`. -/
structure CallState where
  id : Nat := 0
  deriving DecidableEq, Repr

/-- What the package sets on a `grpc::ClientContext`. Times are nanoseconds of the system clock. -/
structure ClientContext where
  deadline : Option Int := none
  metadata : MdPairs := []
  waitForReady : Bool := false
  deriving DecidableEq, Repr

/-- The options of a call: its deadline in whole milliseconds, its metadata, and whether it waits
for a connection. -/
structure CallOpts where
  deadlineMs : Option Int := none
  metadata : Option RMetadata := none
  waitForReady : Bool := false
  deriving DecidableEq, Repr

/-- What can be observed of one unary call: it was started, its event was pushed, it was
deleted. -/
inductive UnaryObs
  | posted (method : Bytes) (context : ClientContext) (request : ByteBuffer)
  | pushed (event : ClEvent)
  | deleted
  deriving DecidableEq, Repr

/-! ### Events as R sees them -/

/-- The `kind_names` of `grpc_r_client_poll`. -/
def EvKind.name : EvKind → String
  | .unary => "unary"
  | .smsg => "stream_msg"
  | .writable => "stream_writable"
  | .status => "stream_status"

/-- A client event as a list of R values; `none` is `NULL`. -/
structure RClEvent where
  kind : String
  id : Nat
  status : Option Int := none
  message : Option Bytes := none
  response : Option Bytes := none
  initialMetadata : Option MdPairs := none
  trailingMetadata : Option MdPairs := none
  deriving DecidableEq, Repr

/-- Whether an event reports the end of its call. -/
def ClEvent.terminal (event : ClEvent) : Bool :=
  event.kind == .unary || event.kind == .status

/-- The conversion of one event in `grpc_r_client_poll`. -/
def ClEvent.toR (event : ClEvent) : Except RError RClEvent :=
  let response := if event.hasBytes then some event.bytes else none
  if event.terminal then do
    let initialMetadata ← grpcPairsToR event.initialMd
    let trailingMetadata ← grpcPairsToR event.trailingMd
    return {
      kind := event.kind.name
      id := event.id
      status := some event.status
      message := some (mkString event.message)
      response := response
      initialMetadata := some initialMetadata
      trailingMetadata := some trailingMetadata }
  else .ok { kind := event.kind.name, id := event.id, response := response }

/-! ### The client -/

/-- `client`, with the memory of its calls and streams and what the R thread is doing. -/
structure RClient where
  wake : WakeHandle
  callArena : Arena CallState UnaryOp := .empty
  streamArena : Arena StreamState TagKind := .empty
  calls : AList (fun _ : Nat => Nat) := ∅
  streams : AList (fun _ : Nat => Nat) := ∅
  ready : List ClEvent := []
  nextId : Nat := 1
  closed : Bool := false
  shutting : Bool := false
  rthread : RThread := .idle

/-- What can be observed of a client: something of one of its unary calls or streams, the id or
the error a start returned, the value a request of R returned, a cancel, the batch a poll took
with what it returned to R, and a tag or an id that led to a deleted object. -/
inductive ClientObs
  | unary (address : Nat) (obs : UnaryObs)
  | stream (address : Nat) (obs : StreamObs)
  | started (value : Except RError Nat)
  | result (id : Nat) (request : StreamRequest) (value : Except RError Bool)
  | cancelled (id : Nat)
  | polled (batch : List ClEvent) (value : Except RError (List RClEvent))
  | closedError (error : RError)
  | useAfterFree (address : Nat)

/-- Pushes to `ready`, each with its signal. -/
def RClient.pushEvents (client : RClient) (events : List ClEvent) : RClient :=
  { client with
    ready := client.ready ++ events
    wake := client.wake.signals events.length }

/-! ### The completion thread -/

/-- The `unary` event of a completed call. -/
def unaryEvent (delivery : Delivery) (call : CallState) : ClEvent where
  kind := .unary
  id := call.id
  status := delivery.status.code
  message := delivery.status.message
  hasBytes := delivery.status.code == 0 && (grpcByteBufferToString delivery.message).isSome
  bytes := if delivery.status.code == 0 then
    (grpcByteBufferToString delivery.message).getD [] else []
  initialMd := delivery.initialMd
  trailingMd := delivery.trailingMd

/-- The `T_UNARY` case of `client::run`. -/
def RClient.handleUnary (client : RClient) (address : Nat) (delivery : Delivery)
    (call : CallState) : RClient × List ClientObs :=
  let event := unaryEvent delivery call
  let cell := ⟨none, (client.callArena.cell address).tags.erase .unary⟩
  ({ client.pushEvents [event] with
      callArena := client.callArena.set address cell
      calls := client.calls.erase call.id },
    [.unary address (.pushed event), .unary address .deleted])

/-- The other cases of `client::run`, for a tag of a stream that is still there. -/
def RClient.handleStream (client : RClient) (address : Nat) (op : TagKind) (delivery : Delivery)
    (stream : StreamState) : RClient × List ClientObs :=
  let ran := runStream client.shutting op delivery stream
  let handled := handleTag client.shutting op delivery stream
    (client.streamArena.cell address).tags
  ({ client.pushEvents (pushedEvents handled.2) with
      streamArena := client.streamArena.set address handled.1
      streams := if freed ran.1 then client.streams.erase ran.1.id else client.streams },
    handled.2.map (ClientObs.stream address))

/-- One turn of `client::run`: the completion queue returns the tag of a unary call. -/
def RClient.runUnary (client : RClient) (address : Nat) (delivery : Delivery) :
    Option (RClient × List ClientObs) :=
  if (client.callArena.cell address).tags.contains .unary then
    match (client.callArena.cell address).object with
    | none =>
      let cell := ⟨none, (client.callArena.cell address).tags.erase .unary⟩
      some ({ client with callArena := client.callArena.set address cell },
        [.useAfterFree address])
    | some call => some (client.handleUnary address delivery call)
  else none

/-- One turn of `client::run`: the completion queue returns a tag of a stream. -/
def RClient.runTag (client : RClient) (address : Nat) (op : TagKind) (delivery : Delivery) :
    Option (RClient × List ClientObs) :=
  if (client.streamArena.cell address).tags.contains op then
    match (client.streamArena.cell address).object with
    | none =>
      let cell := ⟨none, (client.streamArena.cell address).tags.erase op⟩
      some ({ client with streamArena := client.streamArena.set address cell },
        [.useAfterFree address])
    | some stream => some (client.handleStream address op delivery stream)
  else none

/-! ### The R thread: starting calls and streams -/

/-- `apply_context_opts`: what it set on the context before it ended, and the error that ended it
early. -/
def applyContextOpts (now : Int) (opts : CallOpts) (context : ClientContext) :
    ClientContext × Option RError :=
  let context := match opts.deadlineMs with
    | none => context
    | some ms => { context with deadline := some (now + ms * 1000000) }
  match opts.metadata with
  | none => ({ context with waitForReady := opts.waitForReady }, none)
  | some metadata =>
    match addMetadata context.metadata metadata with
    | (added, some error) => ({ context with metadata := added }, some error)
    | (added, none) => ({ context with metadata := added, waitForReady := opts.waitForReady }, none)

/-- `grpc_r_call_start`. -/
def RClient.grpcRCallStart (client : RClient) (method : RString) (request : Bytes) (opts : CallOpts)
    (now : Int) : RClient × List ClientObs :=
  if client.closed then (client, [.closedError "grpc client is closed"])
  else
    match translateCharUTF8 method with
    | .error error => (client, [.started (.error error)])
    | .ok name =>
      let address := client.callArena.size
      match applyContextOpts now opts {} with
      | (_, some error) =>
        ({ client with callArena := client.callArena.push ⟨some {}, []⟩ },
          [.started (.error error)])
      | (context, none) =>
        ({ client with
            callArena := client.callArena.push ⟨some { id := client.nextId }, [.unary]⟩
            calls := client.calls.insert client.nextId address
            nextId := client.nextId + 1 },
          [.unary address (.posted name context (.ofRaw request)), .started (.ok client.nextId)])

/-- `(size_t) Rf_asInteger(write_cap)`. -/
def sizeOfInteger (value : Int) : Nat := (value % UInt64.size).toNat

/-- `grpc_r_stream_start`. -/
def RClient.grpcRStreamStart (client : RClient) (method : RString) (opts : CallOpts) (now : Int)
    (readCap writeCap : Int) : RClient × List ClientObs :=
  if client.closed then (client, [.closedError "grpc client is closed"])
  else
    match translateCharUTF8 method with
    | .error error => (client, [.started (.error error)])
    | .ok _ =>
      let address := client.streamArena.size
      match applyContextOpts now opts {} with
      | (_, some error) =>
        ({ client with streamArena := client.streamArena.push ⟨some {}, []⟩ },
          [.started (.error error)])
      | (_, none) =>
        let left := openStream client.nextId readCap (sizeOfInteger writeCap) {}
        ({ client with
            streamArena := client.streamArena.push (sectionCell left [])
            streams := client.streams.insert client.nextId address
            nextId := client.nextId + 1 },
          left.2.map (ClientObs.stream address) ++ [.started (.ok client.nextId)])

/-! ### The R thread: requests -/

/-- A native request on the stream with an id: `get_client`, the lookup in `streams`, and the
locked part of the request. -/
def RClient.request (client : RClient) (id : Nat) (request : StreamRequest) :
    RClient × List ClientObs :=
  if client.closed then
    (client, [.result id request (.error "grpc client is closed")])
  else
    match client.streams.lookup id with
    | none => (client, [.result id request (.ok false)])
    | some address =>
      match (client.streamArena.cell address).object with
      | none => (client, [.useAfterFree address])
      | some stream =>
        let answer := request.answer client.shutting stream
        let cell := sectionCell (answer.stream, answer.obs) (client.streamArena.cell address).tags
        ({ client with streamArena := client.streamArena.set address cell },
          answer.obs.map (ClientObs.stream address) ++ [.result id request (.ok answer.value)])

/-- `grpc_r_stream_send`. -/
def RClient.grpcRStreamSend (client : RClient) (id : Nat) (bytes : Bytes) :=
  client.request id (.send bytes)

/-- `grpc_r_stream_writes_done`. -/
def RClient.grpcRStreamWritesDone (client : RClient) (id : Nat) := client.request id .writesDone

/-- `grpc_r_call_cancel`. `TryCancel` changes nothing of the client itself. -/
def RClient.grpcRCallCancel (client : RClient) (id : Nat) : RClient × List ClientObs :=
  if client.closed then (client, [.closedError "grpc client is closed"])
  else (client, [.cancelled id])

/-! ### The R thread: polls -/

/-- What a poll does for an event it takes: a message taken makes room on its stream. -/
def RClient.account (client : RClient) (event : ClEvent) : RClient × List ClientObs :=
  if event.kind == .smsg then
    match client.streams.lookup event.id with
    | none => (client, [])
    | some address =>
      match (client.streamArena.cell address).object with
      | none => (client, [.useAfterFree address])
      | some stream =>
        let left := takeMessage client.shutting stream
        let cell := sectionCell left (client.streamArena.cell address).tags
        ({ client with streamArena := client.streamArena.set address cell },
          left.2.map (ClientObs.stream address))
  else (client, [])

/-- The end of `grpc_r_client_poll`, from the last drain on: take the batch, re-arm the handle,
convert the batch. -/
def RClient.pollTake (client : RClient) (args : PollArgs) : RClient × List ClientObs :=
  let taken := takeLoop (fun event : ClEvent => args.wants event.id) RClient.account
    args.maxEvents client.ready 0 client
  let wake := client.wake.drain
  ({ taken.state with
      ready := taken.left
      wake := if taken.left.isEmpty then wake else wake.signal
      rthread := .idle },
    taken.obs ++ [.polled taken.batch (taken.batch.mapM ClEvent.toR)])

/-- The condition of the wait loop of a poll, with the time that is left of its timeout: whether
it goes on to wait. -/
def RClient.pollAttempt (client : RClient) (args : PollArgs) (leftMs : Int) :
    RClient × List ClientObs :=
  if args.timeoutMs != 0 && !(client.ready.any fun event => args.wants event.id) then
    let client := { client with wake := client.wake.drain }
    if 0 < args.timeoutMs ∧ leftMs ≤ 0 then client.pollTake args
    else ({ client with rthread := .polling args }, [])
  else client.pollTake args

/-- `grpc_r_client_poll`, up to its first wait or its end. -/
def RClient.grpcRClientPoll (client : RClient) (args : PollArgs) (leftMs : Int) :
    RClient × List ClientObs :=
  if client.closed then (client, [.closedError "grpc client is closed"])
  else client.pollAttempt args leftMs

/-- `wake_poll` returns inside a poll: positive only when the handle is readable. -/
def RClient.woken (client : RClient) (args : PollArgs) (result leftMs : Int) :
    Option (RClient × List ClientObs) :=
  if result ≤ 0 then some (client.pollTake args)
  else if client.wake.readable then some (client.pollAttempt args leftMs)
  else none

/-! ### The R thread: close -/

/-- `client_shutdown`, up to the join of the completion thread. -/
def RClient.beginClose (client : RClient) : RClient × List ClientObs :=
  if client.closed then (client, [])
  else ({ client with closed := true, shutting := true, rthread := .joining }, [])

/-- `client_shutdown`, once the completion thread drained the queue and was joined: what is left in
the tables is deleted. -/
def RClient.endClose (client : RClient) : Option (RClient × List ClientObs) :=
  if client.callArena.Idle ∧ client.streamArena.Idle then
    let calls := client.calls.entries.map Sigma.snd
    let streams := client.streams.entries.map Sigma.snd
    some ({ client with
        callArena := client.callArena.deleteAll calls
        streamArena := client.streamArena.deleteAll streams
        calls := ∅
        streams := ∅
        ready := []
        rthread := .gone },
      calls.map (fun address => .unary address .deleted) ++
        streams.map fun address => .stream address .deleted)
  else none

/-! ### The client as a machine -/

/-- What can happen to a client: a tag of a call or a stream comes back, the R thread starts a call
or a stream, makes a request, cancels, starts a poll, wakes inside one, starts a close, or finds
the completion thread finished. -/
inductive ClientInput
  | unary (address : Nat) (delivery : Delivery)
  | returned (address : Nat) (op : TagKind) (delivery : Delivery)
  | callStart (method : RString) (request : Bytes) (opts : CallOpts) (now : Int)
  | streamStart (method : RString) (opts : CallOpts) (now readCap writeCap : Int)
  | request (id : Nat) (request : StreamRequest)
  | cancel (id : Nat)
  | poll (args : PollArgs) (leftMs : Int)
  | woken (result leftMs : Int)
  | close
  | joined
  deriving DecidableEq, Repr

/-- Whether the R thread is free to make a native call. -/
def RClient.atR (client : RClient) : Bool :=
  client.rthread == .idle || client.rthread == .gone

/-- The step of a client. The R thread makes a native call only when it is not inside another. -/
def clientStep (client : RClient) : ClientInput → Option (RClient × List ClientObs)
  | .unary address delivery => client.runUnary address delivery
  | .returned address op delivery => client.runTag address op delivery
  | .callStart method request opts now =>
    if client.atR then some (client.grpcRCallStart method request opts now) else none
  | .streamStart method opts now readCap writeCap =>
    if client.atR then some (client.grpcRStreamStart method opts now readCap writeCap) else none
  | .request id request => if client.atR then some (client.request id request) else none
  | .cancel id => if client.atR then some (client.grpcRCallCancel id) else none
  | .poll args leftMs => if client.atR then some (client.grpcRClientPoll args leftMs) else none
  | .woken result leftMs =>
    match client.rthread with
    | .polling args => client.woken args result leftMs
    | _ => none
  | .close => if client.atR then some client.beginClose else none
  | .joined => if client.rthread == .joining then client.endClose else none

/-- A client as `grpc_r_client_create` leaves it. -/
def clientMachine (wake : WakeHandle) : Machine RClient ClientInput ClientObs where
  start := { wake }
  opening := []
  step := clientStep

/-- What can be observed of one stream of a client. -/
def streamLog (address : Nat) (log : List ClientObs) : List StreamObs :=
  log.filterMap fun
    | .stream other obs => if other = address then some obs else none
    | _ => none

/-- What can be observed of one unary call of a client. -/
def unaryLog (address : Nat) (log : List ClientObs) : List UnaryObs :=
  log.filterMap fun
    | .unary other obs => if other = address then some obs else none
    | _ => none

/-- One stream of a client as a state of `streamMachine`. -/
def RClient.view (client : RClient) (address : Nat) : StreamView :=
  ⟨client.streamArena.cell address, client.shutting⟩

end Rgrpc.Client
