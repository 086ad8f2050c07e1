/-
This file models one server call, `sv_call` of `server.cpp`: the write pump, the
five cases of the completion loop as far as they touch the call, and the five
things R can ask of a call it was handed.

Every function here runs under the server mutex. It returns the call it leaves
behind and, in order, what it did that others can see: the operations it posted
on the completion queue and the events it pushed to `ready`. The server itself
(`Rgrpc/Server/Server.lean`) keeps the tags, the queue of events and the table
of active calls.
-/

import Rgrpc.Common
import Rgrpc.Poll
import Rgrpc.Library.Machine
import Rgrpc.Library.Arena

namespace Rgrpc.Server

open Library

/-! ### Data -/

/-- `svop`: the kinds of tags of a call. -/
inductive SvOp
  | accept
  | read
  | write
  | done
  | finish
  deriving DecidableEq, Repr

/-- The types of server events. -/
inductive SvEventType
  | request
  | cancelled
  | streamMsg
  | clientDone
  | streamWritable
  deriving DecidableEq, Repr

/-- `sv_event`. -/
structure SvEvent where
  type : SvEventType
  id : Nat
  method : Bytes := []
  request : Bytes := []
  metadata : MdPairs := []
  deadlineMs : Int := -1
  peer : Bytes := []
  identity : List Bytes := []
  deriving DecidableEq, Repr

/-- What a `GenericServerContext` knows of an accepted call. Times are nanoseconds of the system
clock. -/
structure ServerContext where
  method : Bytes := []
  clientMetadata : MdPairs := []
  deadline : Int := 0
  peer : Bytes := []
  peerIdentity : Option (List Bytes) := none
  deriving DecidableEq, Repr

/-- `sv_call`. The trailing metadata is the part of its context that the package writes. -/
structure SvCall where
  id : Nat := 0
  ctx : ServerContext := {}
  trailingMetadata : MdPairs := []
  request : ByteBuffer := .unset
  pending : Int := 0
  delivered : Bool := false
  replied : Bool := false
  dead : Bool := false
  readInflight : Bool := false
  writeInflight : Bool := false
  finishPosted : Bool := false
  writeQueue : List ByteBuffer := []
  writeCap : Nat := 16
  hasFinalWrite : Bool := false
  finalWrite : ByteBuffer := .unset
  finalStatus : Status := .ok
  deriving DecidableEq, Repr

/-- The operations the server posts on a call. -/
inductive SvPost
  | requestCall
  | read
  | write (message : ByteBuffer)
  | writeAndFinish (message : ByteBuffer) (status : Status) (trailing : MdPairs)
  | finish (status : Status) (trailing : MdPairs)
  deriving DecidableEq, Repr

/-- The kind of tag a posted operation completes with. -/
def SvPost.op : SvPost → SvOp
  | .requestCall => .accept
  | .read => .read
  | .write _ => .write
  | .writeAndFinish _ _ _ => .finish
  | .finish _ _ => .finish

/-- The arguments of `grpc_r_server2_reply` past the request: a raw vector or `NULL`, a status
code, the first string of a character vector (`none` for anything else) and metadata. -/
structure ReplyArgs where
  response : Option Bytes
  status : Int
  message : Option RString
  metadata : Option RMetadata
  deriving DecidableEq, Repr

/-- The arguments of `grpc_r_server2_finish` past the request. -/
structure FinishArgs where
  status : Int
  message : Option RString
  metadata : Option RMetadata
  drain : Bool
  deriving DecidableEq, Repr

/-- What R can ask of a call. -/
inductive RCall
  | reply (args : ReplyArgs)
  | read
  | cancel
  | send (bytes : Bytes)
  | finish (args : FinishArgs)
  deriving DecidableEq, Repr

/-- What can be observed of one call: an operation was posted, an event was pushed, the
completion queue returned a tag (with the message a read put into its buffer), a request of R
was accepted (returned `TRUE`), the call was deleted. -/
inductive CallObs
  | posted (post : SvPost)
  | pushed (event : SvEvent)
  | returned (op : SvOp) (ok : Bool) (message : ByteBuffer)
  | accepted (request : RCall)
  | deleted
  deriving DecidableEq, Repr

/-! ### The write pump -/

/-- The terminal operation of a call: `WriteAndFinish` when there is a last message to carry, else
`Finish`. -/
def SvCall.terminalPost (call : SvCall) : SvPost :=
  if call.hasFinalWrite then
    .writeAndFinish call.finalWrite call.finalStatus call.trailingMetadata
  else .finish call.finalStatus call.trailingMetadata

/-- `rserver::pump_locked`: drain the write queue one operation at a time; when it is empty and a
terminal was requested, post it. -/
def pumpLocked (shutting : Bool) (call : SvCall) : SvCall × List CallObs :=
  if shutting || call.dead || call.finishPosted then (call, [])
  else if call.writeInflight then (call, [])
  else
    match call.writeQueue with
    | front :: _ =>
      ({ call with writeInflight := true, pending := call.pending + 1 }, [.posted (.write front)])
    | [] =>
      if call.replied then
        ({ call with finishPosted := true, pending := call.pending + 1 },
          [.posted call.terminalPost])
      else (call, [])

/-! ### The cases of the completion loop -/

/-- What the completion queue delivers with a tag: its `ok` flag, the message a read left in
`request`, the context gRPC filled in when it matched an accept slot, and the time at which the
handler looks at the system clock. -/
structure Delivery where
  ok : Bool
  message : ByteBuffer := .unset
  context : ServerContext := {}
  now : Int := 0
  deriving DecidableEq, Repr

/-- The `accept` case. The done tag counts as pending once the call is accepted. -/
def runAccept (shutting : Bool) (nextId : Nat) (delivery : Delivery) (call : SvCall) :
    SvCall × List CallObs :=
  if delivery.ok then
    let call :=
      { call with id := nextId, ctx := delivery.context, pending := call.pending + 1 }
    if shutting then ({ call with dead := true }, [])
    else
      ({ call with pending := call.pending + 1, readInflight := true }, [.posted .read])
  else (call, [])

/-- The remaining time of a call in whole milliseconds, or `-1` when there is none to report. -/
def deadlineMs (deadline now : Int) : Int :=
  let ms := (deadline - now).tdiv 1000000
  if 0 < ms ∧ ms < 31536000000 then ms else -1

/-- The `request` event of a call whose first message was read. -/
def requestEvent (now : Int) (call : SvCall) : SvEvent where
  type := .request
  id := call.id
  method := call.ctx.method
  request := (grpcByteBufferToString call.request).getD []
  metadata := call.ctx.clientMetadata
  deadlineMs := deadlineMs call.ctx.deadline now
  peer := call.ctx.peer
  identity := call.ctx.peerIdentity.getD []

/-- The `stream_msg` event of a later message. -/
def streamMsgEvent (call : SvCall) : SvEvent where
  type := .streamMsg
  id := call.id
  request := (grpcByteBufferToString call.request).getD []

/-- The `read` case. -/
def runRead (delivery : Delivery) (call : SvCall) : SvCall × List CallObs :=
  let call := { call with readInflight := false, request := delivery.message }
  if delivery.ok && !call.dead then
    if !call.delivered then
      ({ call with delivered := true }, [.pushed (requestEvent delivery.now call)])
    else (call, [.pushed (streamMsgEvent call)])
  else if call.delivered && !call.dead then
    (call, [.pushed { type := .clientDone, id := call.id }])
  else ({ call with dead := true }, [])

/-- The `write` case. -/
def runWrite (shutting : Bool) (delivery : Delivery) (call : SvCall) : SvCall × List CallObs :=
  let call := { call with writeInflight := false }
  if delivery.ok && !call.dead then
    let call := { call with writeQueue := call.writeQueue.tail }
    let writable := if call.writeQueue.isEmpty && !call.replied then
      [CallObs.pushed { type := .streamWritable, id := call.id }] else []
    let pumped := pumpLocked shutting call
    (pumped.1, writable ++ pumped.2)
  else ({ call with dead := true }, [])

/-- The `done` case. -/
def runDone (call : SvCall) : SvCall × List CallObs :=
  if call.delivered && !call.replied then
    ({ call with dead := true }, [.pushed { type := .cancelled, id := call.id }])
  else (call, [])

/-- The switch of `rserver::run`, after the count of pending tags was lowered. -/
def runCall (shutting : Bool) (nextId : Nat) (op : SvOp) (delivery : Delivery) (call : SvCall) :
    SvCall × List CallObs :=
  let call := { call with pending := call.pending - 1 }
  match op with
  | .accept => runAccept shutting nextId delivery call
  | .read => runRead delivery call
  | .write => runWrite shutting delivery call
  | .done => runDone call
  | .finish => (call, [])

/-- The test of `maybe_free_locked`, which every case but a matched accept makes. -/
def freed (op : SvOp) (ok : Bool) (call : SvCall) : Bool :=
  !(op == .accept && ok) && call.pending == 0

/-! ### What R asks of a call -/

/-- What a request of R leaves behind: the call, what it did, and the value returned to R or the
error raised. An error here is raised with the server mutex held. -/
structure Answer where
  call : SvCall
  obs : List CallObs
  value : Except RError Bool

/-- A request that is refused with `FALSE`. -/
def refuse (call : SvCall) : Answer := ⟨call, [], .ok false⟩

/-- A request that is accepted: the call as the request left it, pumped. -/
def acceptAndPump (shutting : Bool) (request : RCall) (call : SvCall) : Answer :=
  let pumped := pumpLocked shutting call
  ⟨pumped.1, .accepted request :: pumped.2, .ok true⟩

/-- `AddTrailingMetadata` over the metadata of a reply or a finish. -/
def addTrailingMetadata (call : SvCall) : Option RMetadata → SvCall × Option RError
  | none => (call, none)
  | some metadata =>
    let added := addMetadata call.trailingMetadata metadata
    ({ call with trailingMetadata := added.1 }, added.2)

/-- `Rf_translateCharUTF8(STRING_ELT(message, 0))`. -/
def translateMessage : Option RString → Except RError Bytes
  | none => .error "STRING_ELT() can only be applied to a 'character vector'"
  | some message => translateCharUTF8 message

/-- The locked part of `grpc_r_server2_reply`. -/
def replyCall (shutting : Bool) (args : ReplyArgs) (call : SvCall) : Answer :=
  if !call.delivered || call.replied || call.dead then refuse call
  else
    let call := { call with replied := true }
    match addTrailingMetadata call args.metadata with
    | (call, some error) => ⟨call, [], .error error⟩
    | (call, none) =>
      if args.status == 0 then
        acceptAndPump shutting (.reply args)
          { call with
            finalWrite := .ofRaw (args.response.getD [])
            hasFinalWrite := true
            finalStatus := .ok }
      else
        match translateMessage args.message with
        | .error error => ⟨call, [], .error error⟩
        | .ok message =>
          acceptAndPump shutting (.reply args)
            { call with hasFinalWrite := false, finalStatus := ⟨args.status, message⟩ }

/-- The locked part of `grpc_r_server2_read`. -/
def readCall (call : SvCall) : Answer :=
  if !call.delivered || call.dead || call.readInflight || call.finishPosted then refuse call
  else
    ⟨{ call with readInflight := true, pending := call.pending + 1 },
      [.accepted .read, .posted .read], .ok true⟩

/-- The locked part of `grpc_r_server2_cancel`. `TryCancel` changes nothing of the call itself. -/
def cancelCall (call : SvCall) : Answer :=
  if call.dead then refuse call else ⟨call, [.accepted .cancel], .ok true⟩

/-- The locked part of `grpc_r_server2_send`. -/
def sendCall (shutting : Bool) (bytes : Bytes) (call : SvCall) : Answer :=
  if !call.delivered || call.dead || call.replied then refuse call
  else if call.writeCap ≤ call.writeQueue.length then refuse call
  else
    acceptAndPump shutting (.send bytes)
      { call with writeQueue := call.writeQueue ++ [.ofRaw bytes] }

/-- What an abortive finish leaves of the write queue: a write already posted stays at the front
until its tag comes back. -/
def discardQueued (call : SvCall) : List ByteBuffer :=
  if call.writeInflight then call.writeQueue.take 1 else []

/-- The locked part of `grpc_r_server2_finish`. -/
def finishCall (shutting : Bool) (args : FinishArgs) (call : SvCall) : Answer :=
  if !call.delivered || call.replied || call.dead then refuse call
  else
    let call := { call with replied := true }
    let call := if args.drain then call else { call with writeQueue := discardQueued call }
    match addTrailingMetadata call args.metadata with
    | (call, some error) => ⟨call, [], .error error⟩
    | (call, none) =>
      let call := { call with hasFinalWrite := false }
      if args.status == 0 then
        acceptAndPump shutting (.finish args) { call with finalStatus := .ok }
      else
        match translateMessage args.message with
        | .error error => ⟨call, [], .error error⟩
        | .ok message =>
          acceptAndPump shutting (.finish args)
            { call with finalStatus := ⟨args.status, message⟩ }

/-- The checks `grpc_r_server2_reply` and `grpc_r_server2_finish` make before they take the
lock. -/
def RCall.validate : RCall → Except RError Unit
  | .reply args =>
    if args.status == 0 && args.response.isNone then
      .error "response must be a raw vector when status is OK"
    else if args.status != 0 && args.message.isNone then
      .error "message must be a character string"
    else .ok ()
  | .finish args =>
    if args.status != 0 && args.message.isNone then .error "message must be a character string"
    else .ok ()
  | _ => .ok ()

/-- The locked part of a request of R. -/
def RCall.answer (shutting : Bool) : RCall → SvCall → Answer
  | .reply args => replyCall shutting args
  | .read => readCall
  | .cancel => cancelCall
  | .send bytes => sendCall shutting bytes
  | .finish args => finishCall shutting args

/-! ### One call as a machine -/

/-- The tags posted operations leave outstanding. -/
def postedTags (obs : List CallObs) : List SvOp :=
  obs.filterMap fun
    | .posted post => some post.op
    | _ => none

/-- The events pushed, in order. -/
def pushedEvents (obs : List CallObs) : List SvEvent :=
  obs.filterMap fun
    | .pushed event => some event
    | _ => none

/-- The tag that becomes outstanding because an accept slot was matched. -/
def doneTag (op : SvOp) (ok : Bool) : List SvOp :=
  if op == .accept && ok then [.done] else []

/-- A slot as `post_accepts_locked` allocates it. -/
def newSlot : SvCall := { pending := 1 }

/-- The cell of a call whose tag was returned and handled, and what was observed of it. -/
def handleTag (shutting : Bool) (nextId : Nat) (op : SvOp) (delivery : Delivery) (call : SvCall)
    (tags : List SvOp) : Cell SvCall SvOp × List CallObs :=
  let ran := runCall shutting nextId op delivery call
  let gone := freed op delivery.ok ran.1
  (⟨if gone then none else some ran.1,
      tags.erase op ++ doneTag op delivery.ok ++ postedTags ran.2⟩,
    .returned op delivery.ok delivery.message :: ran.2 ++ if gone then [.deleted] else [])

/-- The cell of a call a request of R was answered on. -/
def answeredCell (answer : Answer) (tags : List SvOp) : Cell SvCall SvOp :=
  ⟨some answer.call, tags ++ postedTags answer.obs⟩

/-- Whether a request raised an error under the lock, which leaves the mutex locked. -/
def Answer.raised (answer : Answer) : Bool :=
  match answer.value with
  | .error _ => true
  | .ok _ => false

/-- One call as it is seen between locked sections: its cell, and of the server whether it is
shutting down and whether its mutex was left locked. -/
structure CallView where
  cell : Cell SvCall SvOp
  shutting : Bool
  wedged : Bool

/-- What can happen to one call: a tag of its comes back, R asks something of it, the server
starts to shut down, or its mutex is left locked over another call. -/
inductive CallInput
  | returned (op : SvOp) (delivery : Delivery) (nextId : Nat)
  | request (request : RCall)
  | shut
  | wedge

/-- The step of one call. R reaches a call only once it was accepted and has an id. -/
def callStep (view : CallView) : CallInput → Option (CallView × List CallObs)
  | .returned op delivery nextId =>
    if !view.wedged && view.cell.tags.contains op then
      view.cell.object.map fun call =>
        let handled := handleTag view.shutting nextId op delivery call view.cell.tags
        ({ view with cell := handled.1 }, handled.2)
    else none
  | .request request =>
    if !view.wedged then
      (view.cell.object.filter fun call => call.id != 0).map fun call =>
        let answer := request.answer view.shutting call
        ({ view with cell := answeredCell answer view.cell.tags, wedged := answer.raised },
          answer.obs)
    else none
  | .shut => some ({ view with shutting := true }, [])
  | .wedge => some ({ view with wedged := true }, [])

/-- One call from the moment its accept slot is posted. -/
def callMachine : Machine CallView CallInput CallObs where
  start := ⟨⟨some newSlot, [.accept]⟩, false, false⟩
  opening := [.posted .requestCall]
  step := callStep

end Rgrpc.Server
