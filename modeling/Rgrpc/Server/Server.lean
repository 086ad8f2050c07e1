/-
This file models the generic asynchronous server, `rserver` of `server.cpp`,
over the calls of `Rgrpc/Server/Call.lean`.

Two threads share it. The completion thread takes the tags the completion queue
returns, one handler at a time; the R thread makes one native call at a time.
Both work under the mutex, so a step of the model is one locked section: a
handler, a request of R, one pass of the wait loop of a poll, the start of a
close and, once the completion queue is drained, its end. Steps of the two
threads interleave in any order. gRPC is only assumed to return every posted tag
exactly once, and the done tag exactly for accepted calls.

An error R raises inside a locked section is a `longjmp` that runs no
destructor: the mutex stays locked and no further locked section is entered.
-/

import Rgrpc.Server.Call
import Mathlib.Data.List.AList

namespace Rgrpc.Server

open Library

/-! ### Events as R sees them -/

/-- The `type_names` of `grpc_r_server2_poll`. -/
def SvEventType.name : SvEventType → String
  | .request => "request"
  | .cancelled => "cancelled"
  | .streamMsg => "stream_msg"
  | .clientDone => "client_done"
  | .streamWritable => "stream_writable"

/-- A server event as a list of R values: `none` is `NULL`, and a deadline of `some none` is
`NA`. -/
structure RSvEvent where
  type : String
  id : Nat
  method : Option Bytes := none
  request : Option Bytes := none
  metadata : Option MdPairs := none
  deadlineMs : Option (Option Int) := none
  peer : Option Bytes := none
  peerIdentity : Option (List Bytes) := none
  deriving DecidableEq, Repr

/-- The conversion of one event in `grpc_r_server2_poll`. -/
def SvEvent.toR (event : SvEvent) : Except RError RSvEvent :=
  match event.type with
  | .request => do
    let metadata ← grpcPairsToR event.metadata
    return {
      type := event.type.name
      id := event.id
      method := some (mkString event.method)
      request := some event.request
      metadata := some metadata
      deadlineMs := some (if event.deadlineMs < 0 then none else some event.deadlineMs)
      peer := some (mkString event.peer)
      peerIdentity := some (event.identity.map mkString) }
  | .streamMsg => .ok { type := event.type.name, id := event.id, request := some event.request }
  | _ => .ok { type := event.type.name, id := event.id }

/-! ### The server -/

/-- `rserver`, with the memory of its calls, whether its mutex was left locked, and what the R
thread is doing. -/
structure RServer where
  wake : WakeHandle
  acceptWindow : Int
  maxActive : Int
  arena : Arena SvCall SvOp := .empty
  active : AList (fun _ : Nat => Nat) := ∅
  ready : List SvEvent := []
  acceptsOutstanding : Int := 0
  nextId : Nat := 1
  closed : Bool := false
  shutting : Bool := false
  muHeld : Bool := false
  rthread : RThread := .idle

/-- What can be observed of a server: something of one of its calls, the value a request of R
returned, the batch a poll took with what it returned to R, and a tag or an id that led to a
deleted call. -/
inductive ServerObs
  | call (address : Nat) (obs : CallObs)
  | result (id : Nat) (request : RCall) (value : Except RError Bool)
  | polled (batch : List SvEvent) (value : Except RError (List RSvEvent))
  | closedError (error : RError)
  | useAfterFree (address : Nat)

/-- `active.size()`. -/
def RServer.activeSize (server : RServer) : Int := server.active.keys.length

/-! ### Accept slots -/

/-- The loop condition of `post_accepts_locked`. -/
def RServer.wantsSlot (server : RServer) : Bool :=
  !server.shutting && server.acceptsOutstanding < server.acceptWindow &&
    server.activeSize + server.acceptsOutstanding < server.maxActive

/-- The loop body of `post_accepts_locked`. -/
def RServer.postSlot (server : RServer) : RServer × List ServerObs :=
  ({ server with
      arena := server.arena.push ⟨some newSlot, [.accept]⟩
      acceptsOutstanding := server.acceptsOutstanding + 1 },
    [.call server.arena.size (.posted .requestCall)])

/-- The loop of `post_accepts_locked`, for at most `fuel` slots. -/
def RServer.postAcceptsLoop : Nat → RServer → RServer × List ServerObs
  | 0, server => (server, [])
  | fuel + 1, server =>
    if server.wantsSlot then
      let rest := server.postSlot.1.postAcceptsLoop fuel
      (rest.1, server.postSlot.2 ++ rest.2)
    else (server, [])

/-- `rserver::post_accepts_locked`. The loop cannot post more slots than the window has room
for. -/
def RServer.postAcceptsLocked (server : RServer) : RServer × List ServerObs :=
  server.postAcceptsLoop (server.acceptWindow - server.acceptsOutstanding).toNat

/-! ### The completion thread -/

/-- `push_event_locked`, for the events a handler pushes in order. -/
def RServer.pushEvents (server : RServer) (events : List SvEvent) : RServer :=
  { server with
    ready := server.ready ++ events
    wake := server.wake.signals events.length }

/-- The effect of `maybe_free_locked` on the table of active calls. -/
def RServer.forget (server : RServer) (gone : Bool) (id : Nat) : RServer :=
  if gone && id != 0 then { server with active := server.active.erase id } else server

/-- The body of the loop of `rserver::run`, for a tag of a call that is still there. -/
def RServer.handle (server : RServer) (address : Nat) (op : SvOp) (delivery : Delivery)
    (call : SvCall) : RServer × List ServerObs :=
  let ran := runCall server.shutting server.nextId op delivery call
  let handled := handleTag server.shutting server.nextId op delivery call
    (server.arena.cell address).tags
  let gone := freed op delivery.ok ran.1
  let obs := handled.2.map (ServerObs.call address)
  let server := { server.pushEvents (pushedEvents handled.2) with
    arena := server.arena.set address handled.1 }
  match op with
  | .accept =>
    let server := { server with acceptsOutstanding := server.acceptsOutstanding - 1 }
    if delivery.ok then
      let posted := { server with
        nextId := server.nextId + 1
        active := server.active.insert server.nextId address }.postAcceptsLocked
      (posted.1, obs ++ posted.2)
    else (server.forget gone ran.1.id, obs)
  | .read => (server.forget gone ran.1.id, obs)
  | .write => (server.forget gone ran.1.id, obs)
  | .done =>
    let posted := (server.forget gone ran.1.id).postAcceptsLocked
    (posted.1, obs ++ posted.2)
  | .finish =>
    let posted := (server.forget gone ran.1.id).postAcceptsLocked
    (posted.1, obs ++ posted.2)

/-- One turn of `rserver::run`: the completion queue returns an outstanding tag. -/
def RServer.run (server : RServer) (address : Nat) (op : SvOp) (delivery : Delivery) :
    Option (RServer × List ServerObs) :=
  if !server.muHeld && (server.arena.cell address).tags.contains op then
    match (server.arena.cell address).object with
    | none =>
      let cell := ⟨none, (server.arena.cell address).tags.erase op⟩
      some ({ server with arena := server.arena.set address cell }, [.useAfterFree address])
    | some call => some (server.handle address op delivery call)
  else none

/-! ### The R thread: requests -/

/-- A native request on the call with an id: `get_server`, the checks before the lock, the lookup
in `active`, and the locked part of the request. -/
def RServer.request (server : RServer) (id : Nat) (request : RCall) :
    Option (RServer × List ServerObs) :=
  if server.closed then
    some (server, [.result id request (.error "grpc server is closed")])
  else
    match request.validate with
    | .error error => some (server, [.result id request (.error error)])
    | .ok () =>
      if server.muHeld then none
      else
        match server.active.lookup id with
        | none => some (server, [.result id request (.ok false)])
        | some address =>
          match (server.arena.cell address).object with
          | none => some (server, [.useAfterFree address])
          | some call =>
            let answer := request.answer server.shutting call
            let cell := answeredCell answer (server.arena.cell address).tags
            some ({ server with
                arena := server.arena.set address cell
                muHeld := answer.raised },
              answer.obs.map (ServerObs.call address) ++ [.result id request answer.value])

/-- `grpc_r_server2_reply`. -/
def RServer.grpcRServer2Reply (server : RServer) (id : Nat) (args : ReplyArgs) :=
  server.request id (.reply args)

/-- `grpc_r_server2_read`. -/
def RServer.grpcRServer2Read (server : RServer) (id : Nat) := server.request id .read

/-- `grpc_r_server2_cancel`. -/
def RServer.grpcRServer2Cancel (server : RServer) (id : Nat) := server.request id .cancel

/-- `grpc_r_server2_send`. -/
def RServer.grpcRServer2Send (server : RServer) (id : Nat) (bytes : Bytes) :=
  server.request id (.send bytes)

/-- `grpc_r_server2_finish`. -/
def RServer.grpcRServer2Finish (server : RServer) (id : Nat) (args : FinishArgs) :=
  server.request id (.finish args)

/-! ### The R thread: polls -/

/-- The end of `grpc_r_server2_poll`, from the last drain on: take the batch, re-arm the handle,
convert the batch. -/
def RServer.pollTake (server : RServer) (args : PollArgs) : RServer × List ServerObs :=
  let taken := takeLoop (fun event : SvEvent => args.wants event.id)
    (fun (state : Unit) _ => (state, ([] : List ServerObs))) args.maxEvents server.ready 0 ()
  let wake := server.wake.drain
  ({ server with
      ready := taken.left
      wake := if taken.left.isEmpty then wake else wake.signal
      rthread := .idle },
    [.polled taken.batch (taken.batch.mapM SvEvent.toR)])

/-- The condition of the wait loop of a poll, with the time that is left of its timeout: whether
it goes on to wait. -/
def RServer.pollAttempt (server : RServer) (args : PollArgs) (leftMs : Int) :
    RServer × List ServerObs :=
  if args.timeoutMs != 0 && !(server.ready.any fun event => args.wants event.id) then
    let server := { server with wake := server.wake.drain }
    if 0 < args.timeoutMs ∧ leftMs ≤ 0 then server.pollTake args
    else ({ server with rthread := .polling args }, [])
  else server.pollTake args

/-- `grpc_r_server2_poll`, up to its first wait or its end. -/
def RServer.grpcRServer2Poll (server : RServer) (args : PollArgs) (leftMs : Int) :
    Option (RServer × List ServerObs) :=
  if server.closed then some (server, [.closedError "grpc server is closed"])
  else if server.muHeld then none
  else some (server.pollAttempt args leftMs)

/-- `wake_poll` returns inside a poll: positive only when the handle is readable. -/
def RServer.woken (server : RServer) (args : PollArgs) (result leftMs : Int) :
    Option (RServer × List ServerObs) :=
  if server.muHeld then none
  else if result ≤ 0 then some (server.pollTake args)
  else if server.wake.readable then some (server.pollAttempt args leftMs)
  else none

/-! ### The R thread: close -/

/-- `rserver_shutdown`, up to the join of the completion thread. -/
def RServer.beginClose (server : RServer) : Option (RServer × List ServerObs) :=
  if server.closed then some (server, [])
  else if server.muHeld then none
  else some ({ server with closed := true, shutting := true, rthread := .joining }, [])

/-- `delete` on every address of a list. -/
def deleteCalls : List Nat → Arena SvCall SvOp → Arena SvCall SvOp × List ServerObs
  | [], arena => (arena, [])
  | address :: rest, arena =>
    let tail := deleteCalls rest (arena.set address ⟨none, (arena.cell address).tags⟩)
    (tail.1, .call address .deleted :: tail.2)

/-- `rserver_shutdown`, once the completion thread drained the queue and was joined. -/
def RServer.endClose (server : RServer) : Option (RServer × List ServerObs) :=
  if server.arena.Idle then
    let deleted := deleteCalls (server.active.entries.map Sigma.snd) server.arena
    some ({ server with arena := deleted.1, active := ∅, rthread := .gone }, deleted.2)
  else none

/-! ### The server as a machine -/

/-- What can happen to a server: a tag comes back, the R thread makes a request, starts a poll,
wakes inside one, starts a close, or finds the completion thread finished. -/
inductive ServerInput
  | returned (address : Nat) (op : SvOp) (delivery : Delivery)
  | request (id : Nat) (request : RCall)
  | poll (args : PollArgs) (leftMs : Int)
  | woken (result leftMs : Int)
  | close
  | joined
  deriving DecidableEq, Repr

/-- The step of a server. The R thread makes a native call only when it is not inside another. -/
def serverStep (server : RServer) : ServerInput → Option (RServer × List ServerObs)
  | .returned address op delivery => server.run address op delivery
  | .request id request =>
    match server.rthread with
    | .idle | .gone => server.request id request
    | _ => none
  | .poll args leftMs =>
    match server.rthread with
    | .idle | .gone => server.grpcRServer2Poll args leftMs
    | _ => none
  | .woken result leftMs =>
    match server.rthread with
    | .polling args => server.woken args result leftMs
    | _ => none
  | .close =>
    match server.rthread with
    | .idle | .gone => server.beginClose
    | _ => none
  | .joined =>
    match server.rthread with
    | .joining => server.endClose
    | _ => none

/-- A server as `grpc_r_server2_create` leaves it, and the slots it posted. -/
def createServer (acceptWindow maxActive : Int) (wake : WakeHandle) : RServer × List ServerObs :=
  RServer.postAcceptsLocked { acceptWindow, maxActive, wake }

/-- A server with the given bounds. -/
def serverMachine (acceptWindow maxActive : Int) (wake : WakeHandle) :
    Machine RServer ServerInput ServerObs where
  start := (createServer acceptWindow maxActive wake).1
  opening := (createServer acceptWindow maxActive wake).2
  step := serverStep

/-- What can be observed of one call of a server. -/
def callLog (address : Nat) (log : List ServerObs) : List CallObs :=
  log.filterMap fun
    | .call other obs => if other = address then some obs else none
    | _ => none

/-- One call of a server as a state of `callMachine`. -/
def RServer.view (server : RServer) (address : Nat) : CallView :=
  ⟨server.arena.cell address, server.shutting, server.muHeld⟩

end Rgrpc.Server
