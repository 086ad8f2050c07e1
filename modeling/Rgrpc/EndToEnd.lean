/-
This file puts the two ends together: one stream of a client and the call of a
server it reaches, with a transport between them that carries each direction in
order. The two ends take their steps in any order, each with all the requests
of R and all the completions it can have.

The transport only looks at what the ends let be observed. A message passed to
`Write` or `WriteAndFinish` is offered to it, and it transmits what was offered
when it likes, or never; a read that completes takes the next message in
transit; an operation that fails may have been transmitted or not, and if it
was not, its message is gone. A cancellation shows only in operations that fail.
-/

import Rgrpc.Client.Flow
import Rgrpc.Library.Channel
import Rgrpc.Server.Flow

namespace Rgrpc

open Library

/-! ### The composed system -/

/-- A client stream, the server call it reaches, and the two directions between them. -/
structure Link where
  client : Client.StreamView
  server : Server.CallView
  upward : Channel (Option Bytes) := {}
  downward : Channel (Option Bytes) := {}

/-- What can happen: a step of one of the ends, or the transmission of a message. -/
inductive LinkInput
  | client (input : Client.StreamInput)
  | server (input : Server.CallInput)
  | transmitUp
  | transmitDown

/-- What can be observed, at one end or the other. -/
inductive LinkObs
  | client (obs : Client.StreamObs)
  | server (obs : Server.CallObs)
  deriving DecidableEq

/-- A step of the client: what it read was in transit, what it wrote is offered. -/
def clientEnd (link : Link) (input : Client.StreamInput) : Option (Link × List LinkObs) :=
  (Client.streamMachine.step link.client input).bind fun stepped =>
    (link.downward.take (Client.arrived stepped.2)).map fun downward =>
      ({ client := stepped.1
         server := link.server
         upward := (link.upward.fail (Client.failed stepped.2)).offer
           ((Client.written stepped.2).map grpcByteBufferToString)
         downward := downward },
        stepped.2.map .client)

/-- A step of the server. -/
def serverEnd (link : Link) (input : Server.CallInput) : Option (Link × List LinkObs) :=
  (Server.callMachine.step link.server input).bind fun stepped =>
    (link.upward.take (Server.arrived stepped.2)).map fun upward =>
      ({ client := link.client
         server := stepped.1
         upward := upward
         downward := (link.downward.fail (Server.failed stepped.2)).offer
           ((Server.carried stepped.2).map grpcByteBufferToString) },
        stepped.2.map .server)

/-- The step of the composed system. -/
def linkStep (link : Link) : LinkInput → Option (Link × List LinkObs)
  | .client input => clientEnd link input
  | .server input => serverEnd link input
  | .transmitUp => link.upward.transmit.map fun upward => ({ link with upward := upward }, [])
  | .transmitDown =>
    link.downward.transmit.map fun downward => ({ link with downward := downward }, [])

/-- A stream and a call from the moment they are allocated, with nothing on the way. -/
def linkMachine : Machine Link LinkInput LinkObs where
  start := { client := Client.streamMachine.start, server := Server.callMachine.start }
  opening := Server.callMachine.opening.map .server
  step := linkStep

/-! ### The log of each end -/

/-- What was observed of the client. -/
def clientLog (log : List LinkObs) : List Client.StreamObs :=
  log.filterMap fun
    | .client obs => some obs
    | _ => none

/-- What was observed of the server. -/
def serverLog (log : List LinkObs) : List Server.CallObs :=
  log.filterMap fun
    | .server obs => some obs
    | _ => none

section Projections

variable (log : List LinkObs)

theorem clientLog_client (news : List Client.StreamObs) :
    clientLog (log ++ news.map .client) = clientLog log ++ news := by
  simp [clientLog, List.filterMap_map]

theorem clientLog_server (news : List Server.CallObs) :
    clientLog (log ++ news.map .server) = clientLog log := by
  simp [clientLog, List.filterMap_map]

theorem serverLog_server (news : List Server.CallObs) :
    serverLog (log ++ news.map .server) = serverLog log ++ news := by
  simp [serverLog, List.filterMap_map]

theorem serverLog_client (news : List Client.StreamObs) :
    serverLog (log ++ news.map .client) = serverLog log := by
  simp [serverLog, List.filterMap_map]

end Projections

/-! ### Every run of the composed system -/

/-- Each end runs as it does alone, and each direction carries what its sender wrote to what its
receiver read. -/
structure Linked (link : Link) (log : List LinkObs) : Prop where
  client : Client.streamMachine.Run Machine.Free link.client (clientLog log)
  server : Server.callMachine.Run Machine.Free link.server (serverLog log)
  upward : link.upward.Carries (Server.arrived (serverLog log))
    ((Client.written (clientLog log)).map grpcByteBufferToString)
    (Client.failed (clientLog log))
  downward : link.downward.Carries (Client.arrived (clientLog log))
    ((Server.carried (serverLog log)).map grpcByteBufferToString)
    (Server.failed (serverLog log))

theorem linked_start : Linked linkMachine.start linkMachine.opening :=
  ⟨.start, .start, Channel.carries_nil _, Channel.carries_nil _⟩

/-- A step of the client keeps the link: it writes only while no write failed. -/
theorem Linked.clientEnd {link after : Link} {log news : List LinkObs} {input : Client.StreamInput}
    (linked : Linked link log) (taken : clientEnd link input = some (after, news)) :
    Linked after (log ++ news) := by
  obtain ⟨⟨client, observed⟩, stepped, rest⟩ := Option.bind_eq_some_iff.mp taken
  obtain ⟨downward, read, equal⟩ := Option.map_eq_some_iff.mp rest
  simp only [Prod.mk.injEq] at equal
  obtain ⟨rfl, rfl⟩ := equal
  have flow := (Client.flow_of_run linked.client).step (Client.phase_of_run linked.client) stepped
  refine ⟨?_, ?_, ?_, ?_⟩
  · rw [clientLog_client]
    exact .next linked.client trivial stepped
  · rw [serverLog_client]
    exact linked.server
  · rw [clientLog_client, serverLog_client, Client.written_append, List.map_append,
      Client.failed_append]
    refine (linked.upward.fail _).offer fun wrote => ?_
    rw [← Client.failed_append]
    exact flow.2 fun nothing => wrote (by rw [nothing]; rfl)
  · rw [clientLog_client, serverLog_client, Client.arrived_append]
    exact linked.downward.take read

/-- A step of the server keeps the link: it puts a message on the wire only while none failed. -/
theorem Linked.serverEnd {link after : Link} {log news : List LinkObs} {input : Server.CallInput}
    (linked : Linked link log) (taken : serverEnd link input = some (after, news)) :
    Linked after (log ++ news) := by
  obtain ⟨⟨server, observed⟩, stepped, rest⟩ := Option.bind_eq_some_iff.mp taken
  obtain ⟨upward, read, equal⟩ := Option.map_eq_some_iff.mp rest
  simp only [Prod.mk.injEq] at equal
  obtain ⟨rfl, rfl⟩ := equal
  have flow := (Server.flow_of_run linked.server).step (Server.phase_of_run linked.server) stepped
  refine ⟨?_, ?_, ?_, ?_⟩
  · rw [clientLog_server]
    exact linked.client
  · rw [serverLog_server]
    exact .next linked.server trivial stepped
  · rw [clientLog_server, serverLog_server, Server.arrived_append]
    exact linked.upward.take read
  · rw [clientLog_server, serverLog_server, Server.carried_append, List.map_append,
      Server.failed_append]
    refine (linked.downward.fail _).offer fun wrote => ?_
    rw [← Server.failed_append]
    exact flow.2 fun nothing => wrote (by rw [nothing]; rfl)

theorem Linked.step {link after : Link} {log news : List LinkObs} {input : LinkInput}
    (linked : Linked link log) (taken : linkStep link input = some (after, news)) :
    Linked after (log ++ news) := by
  cases input with
  | client input => exact linked.clientEnd taken
  | server input => exact linked.serverEnd taken
  | transmitUp =>
    obtain ⟨upward, moved, equal⟩ := Option.map_eq_some_iff.mp taken
    simp only [Prod.mk.injEq] at equal
    obtain ⟨rfl, rfl⟩ := equal
    rw [List.append_nil]
    exact ⟨linked.client, linked.server, linked.upward.transmit moved, linked.downward⟩
  | transmitDown =>
    obtain ⟨downward, moved, equal⟩ := Option.map_eq_some_iff.mp taken
    simp only [Prod.mk.injEq] at equal
    obtain ⟨rfl, rfl⟩ := equal
    rw [List.append_nil]
    exact ⟨linked.client, linked.server, linked.upward, linked.downward.transmit moved⟩

theorem linked_of_run {link : Link} {log : List LinkObs}
    (run : linkMachine.Run Machine.Free link log) : Linked link log :=
  run.invariant linked_start fun _ linked _ taken => linked.step taken

/-- The bytes of messages R passed, as they come out of the transport. -/
theorem dumped_ofRaw (messages : List Bytes) :
    (messages.map ByteBuffer.ofRaw).map grpcByteBufferToString = messages.map some := by
  rw [List.map_map]
  exact List.map_congr_left fun bytes _ => grpcByteBufferToString_ofRaw bytes

/-- End to end, messages arrive in the order they were sent: what the server handed to R is a
prefix of what the client accepted from R, and what the client handed to R is a prefix of what the
server accepted, in sends and with an OK reply. -/
theorem messages_in_order (link : Link) (log : List LinkObs)
    (run : linkMachine.Run Machine.Free link log) :
    Server.messages (serverLog log) <+: Client.promised (clientLog log) ∧
      Client.messages (clientLog log) <+: (Server.promised (serverLog log)).map some := by
  have linked := linked_of_run run
  have client := Client.flow_of_run linked.client
  have server := Server.flow_of_run linked.server
  constructor
  · have wire : Server.arrived (serverLog log) <+: (Client.promised (clientLog log)).map some := by
      rw [← dumped_ofRaw, ← Client.sent_eq]
      exact linked.upward.taken_prefix.trans (client.inOrder.map _)
    have unwrap : (fun payload : Option Bytes => payload.getD []) ∘ some = id := rfl
    have dumped := wire.map fun payload => payload.getD []
    rw [List.map_map, unwrap, List.map_id] at dumped
    exact server.handedOn.trans dumped
  · rw [← dumped_ofRaw]
    exact client.handedOn.trans (linked.downward.taken_prefix.trans
      ((Server.carried_prefix_of_run linked.server).map _))

/-- A message is answered with a message and a reply; the client's second message never leaves. -/
def exchangedInputs : List LinkInput :=
  [.client (.opened 1 16 16),
    .client (.returned .start { ok := true }),
    .client (.request (.send [1])),
    .transmitUp,
    .server (.returned .accept { ok := true } 1),
    .server (.returned .read { ok := true, message := .ofRaw [1] } 2),
    .server (.request (.send [2])),
    .server (.request (.reply ⟨some [3], 0, none, none⟩)),
    .server (.returned .write { ok := true } 2),
    .transmitDown,
    .client (.returned .read { ok := true, message := .ofRaw [2] }),
    .transmitDown,
    .client (.returned .read { ok := true, message := .ofRaw [3] }),
    .client (.returned .write { ok := true }),
    .client (.request (.send [4])),
    .client (.returned .write { ok := false })]

theorem messages_in_order_exchanged : ∃ link log, linkMachine.Run Machine.Free link log ∧
    Server.messages (serverLog log) = [[1]] ∧ Client.promised (clientLog log) = [[1], [4]] ∧
    Client.messages (clientLog log) = [some [2], some [3]] ∧
    Server.messages (serverLog log) <+: Client.promised (clientLog log) ∧
    Client.messages (clientLog log) <+: (Server.promised (serverLog log)).map some := by
  have run := Machine.run_of_exec (show linkMachine.exec Machine.Free linkMachine.start
    exchangedInputs = some _ from rfl)
  exact ⟨_, _, run, by decide, by decide, by decide, messages_in_order _ _ run⟩

end Rgrpc
