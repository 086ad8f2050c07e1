/-
This file models one client stream, `stream_state` of `client.cpp`: the three
helpers that post operations, the five cases of the completion loop, the two
things R can ask of a stream, and what a poll does to the stream whose message
it takes.

As on the server, every function here runs under the client mutex and returns
the stream it leaves behind with, in order, what it did that others can see. The
client itself (`Rgrpc/Client/Client.lean`) keeps the tags, the queue of events
and the tables of calls and streams.
-/

import Rgrpc.Common
import Rgrpc.Poll
import Rgrpc.Library.Machine
import Rgrpc.Library.Arena

namespace Rgrpc.Client

open Library

/-! ### Data -/

/-- The `tag_kind`s of a stream. -/
inductive TagKind
  | start
  | read
  | write
  | wdone
  | finish
  deriving DecidableEq, Repr

/-- `ev_kind`. -/
inductive EvKind
  | unary
  | smsg
  | writable
  | status
  deriving DecidableEq, Repr

/-- `cl_event`. -/
structure ClEvent where
  kind : EvKind
  id : Nat
  status : Int := 0
  message : Bytes := []
  hasBytes : Bool := false
  bytes : Bytes := []
  initialMd : MdPairs := []
  trailingMd : MdPairs := []
  deriving DecidableEq, Repr

/-- `stream_state`. -/
structure StreamState where
  id : Nat := 0
  readBuf : ByteBuffer := .unset
  pending : Int := 0
  started : Bool := false
  readInflight : Bool := false
  writeInflight : Bool := false
  wdoneInflight : Bool := false
  wdoneRequested : Bool := false
  wdoneSent : Bool := false
  readsClosed : Bool := false
  broken : Bool := false
  wantFinish : Bool := false
  finishPosted : Bool := false
  statusEmitted : Bool := false
  unread : Int := 0
  readCap : Int := 16
  writeCap : Nat := 16
  writeQueue : List ByteBuffer := []
  deriving DecidableEq, Repr

/-- The operations posted on a stream. -/
inductive StreamPost
  | startCall
  | read
  | write (message : ByteBuffer)
  | writesDone
  | finish
  deriving DecidableEq, Repr

/-- The kind of tag a posted operation completes with. -/
def StreamPost.op : StreamPost → TagKind
  | .startCall => .start
  | .read => .read
  | .write _ => .write
  | .writesDone => .wdone
  | .finish => .finish

/-- What R can ask of a stream. -/
inductive StreamRequest
  | send (bytes : Bytes)
  | writesDone
  deriving DecidableEq, Repr

/-- What can be observed of one stream: an operation was posted, an event was pushed, the
completion queue returned a tag (with the message a read put into its buffer), a request of R was
accepted (returned `TRUE`), a poll took one of its messages, the stream was deleted. -/
inductive StreamObs
  | posted (post : StreamPost)
  | pushed (event : ClEvent)
  | returned (op : TagKind) (ok : Bool) (message : ByteBuffer)
  | accepted (request : StreamRequest)
  | taken
  | deleted
  deriving DecidableEq, Repr

/-- Two sections one after the other. -/
def andThen (first : StreamState × List StreamObs)
    (next : StreamState → StreamState × List StreamObs) : StreamState × List StreamObs :=
  ((next first.1).1, first.2 ++ (next first.1).2)

/-! ### The helpers that post operations -/

/-- `s_post_read_locked`. -/
def sPostReadLocked (shutting : Bool) (stream : StreamState) : StreamState × List StreamObs :=
  if shutting || stream.readInflight || stream.readsClosed || stream.broken ||
      stream.finishPosted || !stream.started then (stream, [])
  else ({ stream with readInflight := true, pending := stream.pending + 1 }, [.posted .read])

/-- `s_pump_writes_locked`. -/
def sPumpWritesLocked (shutting : Bool) (stream : StreamState) : StreamState × List StreamObs :=
  if shutting || !stream.started || stream.broken || stream.finishPosted then (stream, [])
  else if stream.writeInflight then (stream, [])
  else
    match stream.writeQueue with
    | front :: _ =>
      ({ stream with writeInflight := true, pending := stream.pending + 1 },
        [.posted (.write front)])
    | [] =>
      if stream.wdoneRequested && !stream.wdoneSent && !stream.wdoneInflight then
        ({ stream with wdoneInflight := true, pending := stream.pending + 1 },
          [.posted .writesDone])
      else (stream, [])

/-- `s_try_finish_locked`. -/
def sTryFinishLocked (shutting : Bool) (stream : StreamState) : StreamState × List StreamObs :=
  if shutting || !stream.wantFinish || stream.finishPosted then (stream, [])
  else if stream.readInflight || stream.writeInflight || stream.wdoneInflight then (stream, [])
  else if !stream.started then (stream, [])
  else ({ stream with finishPosted := true, pending := stream.pending + 1 }, [.posted .finish])

/-! ### The cases of the completion loop -/

/-- What the completion queue delivers with a tag: its `ok` flag, the message a read left in
`read_buf`, and for the last tag of a call its status and the metadata of the peer. -/
structure Delivery where
  ok : Bool
  message : ByteBuffer := .unset
  status : Status := .ok
  initialMd : MdPairs := []
  trailingMd : MdPairs := []
  deriving DecidableEq, Repr

/-- The `T_START` case. -/
def runStart (shutting : Bool) (delivery : Delivery) (stream : StreamState) :
    StreamState × List StreamObs :=
  let begun :=
    if delivery.ok then
      andThen (sPostReadLocked shutting { stream with started := true })
        (sPumpWritesLocked shutting)
    else ({ stream with broken := true, started := true, wantFinish := true }, [])
  andThen begun (sTryFinishLocked shutting)

/-- The `stream_msg` event of the message in `read_buf`. -/
def smsgEvent (stream : StreamState) : ClEvent where
  kind := .smsg
  id := stream.id
  hasBytes := (grpcByteBufferToString stream.readBuf).isSome
  bytes := (grpcByteBufferToString stream.readBuf).getD []

/-- The `T_READ` case. -/
def runRead (shutting : Bool) (delivery : Delivery) (stream : StreamState) :
    StreamState × List StreamObs :=
  let stream := { stream with readInflight := false, readBuf := delivery.message }
  let handled :=
    if delivery.ok && !stream.broken then
      andThen ({ stream with unread := stream.unread + 1 }, [.pushed (smsgEvent stream)])
        fun stream =>
          if stream.unread < stream.readCap then sPostReadLocked shutting stream
          else (stream, [])
    else ({ stream with readsClosed := true, wantFinish := true }, [])
  andThen handled (sTryFinishLocked shutting)

/-- The `T_WRITE` case. -/
def runWrite (shutting : Bool) (delivery : Delivery) (stream : StreamState) :
    StreamState × List StreamObs :=
  let stream := { stream with writeInflight := false }
  let handled :=
    if delivery.ok && !stream.broken then
      let stream := { stream with writeQueue := stream.writeQueue.tail }
      let writable := if stream.writeQueue.isEmpty then
        [StreamObs.pushed { kind := .writable, id := stream.id }] else []
      andThen (stream, writable) (sPumpWritesLocked shutting)
    else ({ stream with broken := true, wantFinish := true }, [])
  andThen handled (sTryFinishLocked shutting)

/-- The `T_WDONE` case. -/
def runWdone (shutting : Bool) (delivery : Delivery) (stream : StreamState) :
    StreamState × List StreamObs :=
  let stream := { stream with wdoneInflight := false, wdoneSent := true }
  sTryFinishLocked shutting
    (if delivery.ok then stream else { stream with broken := true, wantFinish := true })

/-- The `T_FINISH` case. -/
def runFinish (delivery : Delivery) (stream : StreamState) : StreamState × List StreamObs :=
  ({ stream with statusEmitted := true },
    [.pushed {
      kind := .status
      id := stream.id
      status := delivery.status.code
      message := delivery.status.message
      initialMd := delivery.initialMd
      trailingMd := delivery.trailingMd }])

/-- The switch of `client::run` for a stream, after the count of pending tags was lowered. -/
def runStream (shutting : Bool) (op : TagKind) (delivery : Delivery) (stream : StreamState) :
    StreamState × List StreamObs :=
  let stream := { stream with pending := stream.pending - 1 }
  match op with
  | .start => runStart shutting delivery stream
  | .read => runRead shutting delivery stream
  | .write => runWrite shutting delivery stream
  | .wdone => runWdone shutting delivery stream
  | .finish => runFinish delivery stream

/-- The test of `s_maybe_free_locked`. -/
def freed (stream : StreamState) : Bool := stream.pending == 0 && stream.statusEmitted

/-! ### What R does to a stream -/

/-- What a request of R leaves behind: the stream, what it did, and the value returned to R. -/
structure Answer where
  stream : StreamState
  obs : List StreamObs
  value : Bool

/-- A request that is refused with `FALSE`. -/
def refuse (stream : StreamState) : Answer := ⟨stream, [], false⟩

/-- A request that is accepted: the stream as the request left it, pumped. -/
def acceptAndPump (shutting : Bool) (request : StreamRequest) (stream : StreamState) : Answer :=
  let pumped := sPumpWritesLocked shutting stream
  ⟨pumped.1, .accepted request :: pumped.2, true⟩

/-- The locked part of `grpc_r_stream_send`. -/
def sendStream (shutting : Bool) (bytes : Bytes) (stream : StreamState) : Answer :=
  if stream.broken || stream.finishPosted || stream.wdoneRequested then refuse stream
  else if stream.writeCap ≤ stream.writeQueue.length then refuse stream
  else
    acceptAndPump shutting (.send bytes)
      { stream with writeQueue := stream.writeQueue ++ [.ofRaw bytes] }

/-- The locked part of `grpc_r_stream_writes_done`. -/
def writesDoneStream (shutting : Bool) (stream : StreamState) : Answer :=
  if stream.wdoneRequested then refuse stream
  else acceptAndPump shutting .writesDone { stream with wdoneRequested := true }

/-- The locked part of a request of R. -/
def StreamRequest.answer (shutting : Bool) : StreamRequest → StreamState → Answer
  | .send bytes => sendStream shutting bytes
  | .writesDone => writesDoneStream shutting

/-- What `grpc_r_client_poll` does to the stream whose message it takes. -/
def takeMessage (shutting : Bool) (stream : StreamState) : StreamState × List StreamObs :=
  let stream := { stream with unread := stream.unread - 1 }
  andThen (stream, [.taken]) fun stream =>
    if stream.unread < stream.readCap then sPostReadLocked shutting stream else (stream, [])

/-- The locked part of `grpc_r_stream_start`, on a stream just allocated: `read_cap` and `write_cap`
are set, and the call is started. -/
def openStream (id : Nat) (readCap : Int) (writeCap : Nat) (stream : StreamState) :
    StreamState × List StreamObs :=
  ({ stream with id, readCap, writeCap, pending := stream.pending + 1 }, [.posted .startCall])

/-! ### One stream as a machine -/

/-- The tags posted operations leave outstanding. -/
def postedTags (obs : List StreamObs) : List TagKind :=
  obs.filterMap fun
    | .posted post => some post.op
    | _ => none

/-- The events pushed, in order. -/
def pushedEvents (obs : List StreamObs) : List ClEvent :=
  obs.filterMap fun
    | .pushed event => some event
    | _ => none

/-- The cell of a stream after a section that is not a handler. -/
def sectionCell (left : StreamState × List StreamObs) (tags : List TagKind) :
    Cell StreamState TagKind :=
  ⟨some left.1, tags ++ postedTags left.2⟩

/-- The cell of a stream whose tag was returned and handled, and what was observed of it. -/
def handleTag (shutting : Bool) (op : TagKind) (delivery : Delivery) (stream : StreamState)
    (tags : List TagKind) : Cell StreamState TagKind × List StreamObs :=
  let ran := runStream shutting op delivery stream
  let gone := freed ran.1
  (⟨if gone then none else some ran.1, tags.erase op ++ postedTags ran.2⟩,
    .returned op delivery.ok delivery.message :: ran.2 ++ if gone then [.deleted] else [])

/-- One stream as it is seen between locked sections: its cell, and whether the client is shutting
down. -/
structure StreamView where
  cell : Cell StreamState TagKind
  shutting : Bool

/-- What can happen to one stream: it is opened under an id, a tag of its comes back, R asks
something of it, a poll takes one of its messages, the client starts to shut down, or the client
deletes it at the end of the shutdown. -/
inductive StreamInput
  | opened (id : Nat) (readCap : Int) (writeCap : Nat)
  | returned (op : TagKind) (delivery : Delivery)
  | request (request : StreamRequest)
  | taken
  | shut
  | swept

/-- The step of one stream. A stream is opened once, while the client is not shutting down; R and
the end of a shutdown reach it only once it was opened and has an id, and the latter only once its
tags have drained. -/
def streamStep (view : StreamView) : StreamInput → Option (StreamView × List StreamObs)
  | .opened id readCap writeCap =>
    if id != 0 && !view.shutting then
      (view.cell.object.filter fun stream => stream.id == 0).map fun stream =>
        let left := openStream id readCap writeCap stream
        ({ view with cell := sectionCell left view.cell.tags }, left.2)
    else none
  | .returned op delivery =>
    if view.cell.tags.contains op then
      view.cell.object.map fun stream =>
        let handled := handleTag view.shutting op delivery stream view.cell.tags
        ({ view with cell := handled.1 }, handled.2)
    else none
  | .request request =>
    (view.cell.object.filter fun stream => stream.id != 0).map fun stream =>
      let answer := request.answer view.shutting stream
      ({ view with cell := sectionCell (answer.stream, answer.obs) view.cell.tags }, answer.obs)
  | .taken =>
    (view.cell.object.filter fun stream => stream.id != 0).map fun stream =>
      let left := takeMessage view.shutting stream
      ({ view with cell := sectionCell left view.cell.tags }, left.2)
  | .shut => some ({ view with shutting := true }, [])
  | .swept =>
    if view.shutting && view.cell.tags.isEmpty then
      (view.cell.object.filter fun stream => stream.id != 0).map fun _ =>
        ({ view with cell := ⟨none, view.cell.tags⟩ }, [.deleted])
    else none

/-- One stream from the moment it is allocated. -/
def streamMachine : Machine StreamView StreamInput StreamObs where
  start := ⟨⟨some {}, []⟩, false⟩
  opening := []
  step := streamStep

end Rgrpc.Client
