/-
This file shows that a unary call behaves as a stream. The stream that shadows a
unary call is opened, sends the request and waits; when the call ends with an OK
status it reads the response, finds nothing after it, and finishes with that
status. When the call ends with another status the stream waits on, and for a
call that was not started it is not opened.
-/

import Rgrpc.Network

namespace Rgrpc

open Library

/-! ### The stream that shadows a unary call -/

namespace Client

/-- A stream just opened, which reads two messages ahead and keeps one to write. -/
def shadowOpened : StreamView where
  cell := { object := some { id := 1, pending := 1, readCap := 2, writeCap := 1 }
            tags := [.start] }
  shutting := false

/-- A stream just started, which reads. -/
def shadowStarted : StreamView where
  cell :=
    { object := some {
        id := 1
        pending := 1
        started := true
        readInflight := true
        readCap := 2
        writeCap := 1 }
      tags := [.read] }
  shutting := false

/-- The shadow of a call that waits: the request is written, and the response is read. -/
def shadowWaiting (bytes : Bytes) : StreamView where
  cell :=
    { object := some {
        id := 1
        pending := 2
        started := true
        readInflight := true
        writeInflight := true
        readCap := 2
        writeCap := 1
        writeQueue := [.ofRaw bytes] }
      tags := [.read, .write] }
  shutting := false

/-- What the shadow of a call shows until it waits. -/
def shadowOpening (bytes : Bytes) : List StreamObs :=
  [.posted .startCall, .returned .start true .unset, .posted .read, .accepted (.send bytes),
    .posted (.write (.ofRaw bytes))]

/-- The shadow of a call whose response was read. -/
def shadowRead (bytes : Bytes) (message : ByteBuffer) : StreamView where
  cell :=
    { object := some {
        id := 1
        readBuf := message
        pending := 2
        started := true
        readInflight := true
        writeInflight := true
        unread := 1
        readCap := 2
        writeCap := 1
        writeQueue := [.ofRaw bytes] }
      tags := [.write, .read] }
  shutting := false

/-- The shadow of a call whose request was written too. -/
def shadowWritten (message : ByteBuffer) : StreamView where
  cell :=
    { object := some {
        id := 1
        readBuf := message
        pending := 1
        started := true
        readInflight := true
        unread := 1
        readCap := 2
        writeCap := 1 }
      tags := [.read] }
  shutting := false

/-- The shadow of a call that finishes. -/
def shadowFinishing : StreamView where
  cell :=
    { object := some {
        id := 1
        pending := 1
        started := true
        readsClosed := true
        wantFinish := true
        finishPosted := true
        unread := 1
        readCap := 2
        writeCap := 1 }
      tags := [.finish] }
  shutting := false

/-- The shadow of a call that ended with OK. -/
def shadowEnded : StreamView := ⟨⟨none, []⟩, false⟩

/-- The event that tells of the response. -/
def shadowMessage (message : ByteBuffer) : ClEvent where
  kind := .smsg
  id := 1
  hasBytes := (grpcByteBufferToString message).isSome
  bytes := (grpcByteBufferToString message).getD []

/-- The event that tells of the status. -/
def shadowStatus (delivery : Delivery) : ClEvent where
  kind := .status
  id := 1
  status := delivery.status.code
  message := delivery.status.message
  initialMd := delivery.initialMd
  trailingMd := delivery.trailingMd

/-- What the shadow of a call shows when the call ends with OK. -/
def shadowEnding (delivery : Delivery) : List StreamObs :=
  [.returned .read true delivery.message, .pushed (shadowMessage delivery.message),
    .posted .read] ++
  [.returned .write true .unset, .pushed { kind := .writable, id := 1 }] ++
  [.returned .read false .unset, .posted .finish] ++
  [.returned .finish delivery.ok delivery.message, .pushed (shadowStatus delivery), .deleted]

/-- A unary call and the stream that shadows it. -/
inductive Shadow : List UnaryObs → StreamView → List StreamObs → Prop
  | unopened : Shadow [] streamMachine.start []
  | waiting (name : Bytes) (context : ClientContext) (bytes : Bytes) :
      Shadow [.posted name context (.ofRaw bytes)] (shadowWaiting bytes) (shadowOpening bytes)
  | refused (name : Bytes) (context : ClientContext) (bytes : Bytes) (delivery : Delivery)
      (call : CallState) (code : delivery.status.code ≠ 0) :
      Shadow [.posted name context (.ofRaw bytes), .pushed (unaryEvent delivery call), .deleted]
        (shadowWaiting bytes) (shadowOpening bytes)
  | answered (name : Bytes) (context : ClientContext) (bytes : Bytes) (delivery : Delivery)
      (call : CallState) (code : delivery.status.code = 0) :
      Shadow [.posted name context (.ofRaw bytes), .pushed (unaryEvent delivery call), .deleted]
        shadowEnded (shadowOpening bytes ++ shadowEnding delivery)

/-! ### What the shadow tells of the call -/

/-- The event of a call that ended with OK carries the message that came. -/
theorem payload_unaryEvent {delivery : Delivery} (ok : delivery.status.code = 0)
    (call : CallState) :
    (unaryEvent delivery call).payload = grpcByteBufferToString delivery.message := by
  cases dumped : grpcByteBufferToString delivery.message <;>
    simp [unaryEvent, ClEvent.payload, ok, dumped]

theorem responses_unaryEvent (delivery : Delivery) (call : CallState) :
    responses [.pushed (unaryEvent delivery call), .deleted] =
      if delivery.status.code = 0 then [grpcByteBufferToString delivery.message] else [] := by
  by_cases ok : delivery.status.code = 0
  · rw [if_pos ok, ← payload_unaryEvent ok call]
    simp [responses, show (unaryEvent delivery call).status = 0 from ok]
  · rw [if_neg ok]
    simp [responses, unaryEvent, ok]

end Client

/-! ### The steps of the shadow -/

section Steps

variable {wire heard : Wire} {server : Server.CallView}

/-- The start of a unary call is the opening of its shadow, up to the write of the request. -/
theorem shadow_opening (wire : Wire) (server : Server.CallView) (bytes : Bytes) :
    (exchangeMachine.startedAt (wire.exchange Client.streamMachine.start server)).Run Honest
      ((wire.carryUp false [some bytes]).exchange (Client.shadowWaiting bytes) server)
      ((Client.shadowOpening bytes).map .client) := by
  have opened : (exchangeMachine.startedAt (wire.exchange Client.streamMachine.start server)).Run
      Honest (wire.exchange Client.shadowOpened server) [.client (.posted .startCall)] :=
    @exchange_idles wire _ server Client.shadowOpened (.opened 1 2 1) [.posted .startCall] trivial
      rfl rfl rfl rfl
  have started : (exchangeMachine.startedAt (wire.exchange Client.shadowOpened server)).Run Honest
      (wire.exchange Client.shadowStarted server)
      [.client (.returned .start true .unset), .client (.posted .read)] :=
    @exchange_idles wire _ server Client.shadowStarted (.returned .start { ok := true })
      [.returned .start true .unset, .posted .read] trivial rfl rfl rfl rfl
  have sent := @exchange_asks wire Client.shadowStarted server (Client.shadowWaiting bytes)
    (.request (.send bytes)) [.accepted (.send bytes), .posted (.write (.ofRaw bytes))] trivial
    rfl rfl rfl
  have dumped : (Client.written [.accepted (.send bytes), .posted (.write (.ofRaw bytes))]).map
      grpcByteBufferToString = [some bytes] := by
    show [grpcByteBufferToString (.ofRaw bytes)] = _
    rw [grpcByteBufferToString_ofRaw]
  rw [dumped] at sent
  exact (opened.trans started).trans sent

/-- The OK status of a unary call is the end of its shadow, which reads the response before. -/
theorem shadow_ending (bytes : Bytes) {delivery : Client.Delivery} {trailer : Server.Trailer}
    (responds : Responds wire delivery trailer)
    (read : wire.takeDown [grpcByteBufferToString delivery.message] = some heard) :
    (exchangeMachine.startedAt (wire.exchange (Client.shadowWaiting bytes) server)).Run Honest
      (heard.exchange Client.shadowEnded server)
      ((Client.shadowEnding delivery).map .client) := by
  obtain ⟨downward, moved, rfl⟩ := Option.map_eq_some_iff.mp read
  have drained : downward.transit = [] := by
    have rest := (Channel.offered_take moved).2
    rw [responds.response] at rest
    exact (List.cons.inj rest).2
  have reads := @exchange_client wire _ (Client.shadowWaiting bytes) server
    (Client.shadowRead bytes delivery.message)
    (.returned .read { ok := true, message := delivery.message })
    [.returned .read true delivery.message, .pushed (Client.shadowMessage delivery.message),
      .posted .read] rfl read
  rw [show Client.failed [.returned .read true delivery.message,
    .pushed (Client.shadowMessage delivery.message), .posted .read] = false from rfl,
    show Client.written [.returned .read true delivery.message,
    .pushed (Client.shadowMessage delivery.message), .posted .read] = [] from rfl,
    List.map_nil, Wire.carryUp_nil] at reads
  have first : (exchangeMachine.startedAt (wire.exchange (Client.shadowWaiting bytes) server)).Run
      Honest _ _ :=
    .single (show Honest _ (.link (.client (.returned .read
      { ok := true, message := delivery.message }))) from trivial) reads
  have writes := @exchange_idles { wire with downward := downward }
    (Client.shadowRead bytes delivery.message) server (Client.shadowWritten delivery.message)
    (.returned .write { ok := true })
    [.returned .write true .unset, .pushed { kind := .writable, id := 1 }] trivial rfl rfl rfl rfl
  have ends := @exchange_idles { wire with downward := downward }
    (Client.shadowWritten delivery.message) server Client.shadowFinishing
    (.returned .read { ok := false }) [.returned .read false .unset, .posted .finish] trivial
    rfl rfl rfl rfl
  have finishes := @exchange_idles { wire with downward := downward } Client.shadowFinishing
    server Client.shadowEnded (.returned .finish delivery)
    [.returned .finish delivery.ok delivery.message, .pushed (Client.shadowStatus delivery),
      .deleted] (fun _ => ⟨trailer, responds.sent, responds.status, responds.metadata, drained⟩)
    rfl ?_ ?_ rfl
  · exact ((first.trans writes).trans ends).trans finishes
  · rfl
  · rfl

end Steps

end Rgrpc
