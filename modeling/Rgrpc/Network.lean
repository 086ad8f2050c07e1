/-
This file puts a whole client and a whole server on one network. The client has
any number of unary calls and streams and the server any number of calls, and
both take their steps in any order, R's requests, polls and close among them.
Some calls of the client reach calls of the server, each at most one and no two
the same; between the two run the three channels of `Rgrpc/Outcome.lean`. The
other calls have peers of their own, about which nothing is assumed.

A unary call writes its request when it is started, and its response comes with
its only tag. Of gRPC it is assumed, as for streams, that it makes up no OK
status; that of a unary call comes with the one message its peer sent.

Seen from one of its calls, a run of the network is a run of the exchange of
that call and its peer: a stream is the stream of the exchange, and a unary call
behaves as a stream that sends one message and reads one.
-/

import Mathlib.Data.PEquiv
import Rgrpc.Client.Names
import Rgrpc.Client.Turns
import Rgrpc.Outcome
import Rgrpc.Server.Turns

namespace Rgrpc

open Library

/-! ### The wires -/

/-- The three channels between a call of the client and the call of the server it reaches. -/
structure Wire where
  upward : Channel (Option Bytes) := {}
  downward : Channel (Option Bytes) := {}
  trailers : Channel Server.Trailer := {}

namespace Wire

/-- The client reads messages that were in transit. -/
def takeDown (wire : Wire) (messages : List (Option Bytes)) : Option Wire :=
  (wire.downward.take messages).map fun downward => { wire with downward := downward }

/-- The server reads messages that were in transit. -/
def takeUp (wire : Wire) (messages : List (Option Bytes)) : Option Wire :=
  (wire.upward.take messages).map fun upward => { wire with upward := upward }

/-- What the client writes, after an operation of its failed or not. -/
def carryUp (wire : Wire) (failing : Bool) (messages : List (Option Bytes)) : Wire :=
  { wire with upward := (wire.upward.fail failing).offer messages }

/-- What the server writes, and what it ends with, after an operation of its failed or not. -/
def carryDown (wire : Wire) (failing : Bool) (messages : List (Option Bytes))
    (trailers : List Server.Trailer) : Wire :=
  { wire with
    downward := (wire.downward.fail failing).offer messages
    trailers := (wire.trailers.fail failing).offer trailers }

def transmitUp (wire : Wire) : Option Wire :=
  wire.upward.transmit.map fun upward => { wire with upward := upward }

def transmitDown (wire : Wire) : Option Wire :=
  wire.downward.transmit.map fun downward => { wire with downward := downward }

/-- The trailer leaves behind every message. -/
def transmitTrailer (wire : Wire) : Option Wire :=
  if wire.downward.offered.isEmpty then
    wire.trailers.transmit.map fun trailers => { wire with trailers := trailers }
  else none

/-- The exchange of a wire and what is at its two ends. -/
def exchange (wire : Wire) (client : Client.StreamView) (server : Server.CallView) : Exchange where
  link := { client := client, server := server, upward := wire.upward, downward := wire.downward }
  trailers := wire.trailers

end Wire

/-! ### What a call of the client puts on its wire -/

namespace Client

/-- The requests of the unary calls started. -/
def requests (log : List UnaryObs) : List ByteBuffer :=
  log.filterMap fun
    | .posted _ _ request => some request
    | _ => none

/-- The messages that came with an OK status of a unary call. -/
def responses (log : List UnaryObs) : List (Option Bytes) :=
  log.filterMap fun
    | .pushed event => if event.status = 0 then some event.payload else none
    | _ => none

namespace Rpc

/-- The messages a call wrote. -/
def written (log : List ClientObs) : Rpc → List (Option Bytes)
  | .unary address => (requests (unaryLog address log)).map grpcByteBufferToString
  | .stream address => (Client.written (streamLog address log)).map grpcByteBufferToString

/-- The messages that arrived at a call. -/
def arrived (log : List ClientObs) : Rpc → List (Option Bytes)
  | .unary address => responses (unaryLog address log)
  | .stream address => Client.arrived (streamLog address log)

/-- Whether a write of a call came back without `ok`. -/
def failed (log : List ClientObs) : Rpc → Bool
  | .unary _ => false
  | .stream address => Client.failed (streamLog address log)

end Rpc

/-- The call an input completes an operation of. -/
def ClientInput.completed : ClientInput → Option Rpc
  | .unary address _ => some (.unary address)
  | .returned address _ _ => some (.stream address)
  | _ => none

end Client

theorem Client.completed_ne_stream {input : Client.ClientInput} {home : Nat}
    (other : ∀ op delivery, input ≠ .returned home op delivery) :
    input.completed ≠ some (.stream home) := by
  intro same
  cases input with
  | returned address op delivery =>
    obtain rfl := Client.Rpc.stream.inj (Option.some.inj same)
    exact other op delivery rfl
  | _ => exact absurd same (by simp [Client.ClientInput.completed])

theorem Client.completed_ne_unary {input : Client.ClientInput} {home : Nat}
    (other : ∀ delivery, input ≠ .unary home delivery) :
    input.completed ≠ some (.unary home) := by
  intro same
  cases input with
  | unary address delivery =>
    obtain rfl := Client.Rpc.unary.inj (Option.some.inj same)
    exact other delivery rfl
  | _ => exact absurd same (by simp [Client.ClientInput.completed])

/-- The call an input completes an operation of. -/
def Server.ServerInput.completed : Server.ServerInput → Option Nat
  | .returned address _ _ => some address
  | _ => none

theorem Server.completed_ne {input : Server.ServerInput} {address : Nat}
    (other : ∀ op delivery, input ≠ .returned address op delivery) :
    input.completed ≠ some address := by
  intro same
  cases input with
  | returned home op delivery =>
    obtain rfl := Option.some.inj same
    exact other op delivery rfl
  | _ => exact absurd same (by simp [Server.ServerInput.completed])

/-! ### The network -/

/-- A client, a server, and the wire of every call of the server. -/
structure Network where
  client : Client.RClient
  server : Server.RServer
  wires : Nat → Wire

/-- What can happen: a step of the client or of the server, or the transmission of a message or a
trailer on one of the wires. -/
inductive NetworkInput
  | client (input : Client.ClientInput)
  | server (input : Server.ServerInput)
  | transmitUp (address : Nat)
  | transmitDown (address : Nat)
  | transmitTrailer (address : Nat)

/-- What can be observed, at one end or the other. -/
inductive NetworkObs
  | client (obs : Client.ClientObs)
  | server (obs : Server.ServerObs)

section Steps

variable (reaches : Client.Rpc ≃. Nat)

/-- What a completion brought the client was on the wire of its call. -/
def readDown (wires : Nat → Wire) (news : List Client.ClientObs) :
    Option Client.Rpc → Option (Nat → Wire)
  | none => some wires
  | some rpc =>
    match reaches rpc with
    | none => some wires
    | some address =>
      ((wires address).takeDown (rpc.arrived news)).map (Function.update wires address)

/-- What the client wrote, on the wire of each call. -/
def writeUp (wires : Nat → Wire) (news : List Client.ClientObs) (address : Nat) : Wire :=
  match reaches.symm address with
  | none => wires address
  | some rpc => (wires address).carryUp (rpc.failed news) (rpc.written news)

/-- What a completion brought the server was on the wire of its call. -/
def readUp (wires : Nat → Wire) (news : List Server.ServerObs) :
    Option Nat → Option (Nat → Wire)
  | none => some wires
  | some address =>
    match reaches.symm address with
    | none => some wires
    | some _ =>
      ((wires address).takeUp (Server.arrived (Server.callLog address news))).map
        (Function.update wires address)

/-- What the server wrote, on the wire of each call. -/
def writeDown (wires : Nat → Wire) (news : List Server.ServerObs) (address : Nat) : Wire :=
  let seen := Server.callLog address news
  (wires address).carryDown (Server.failed seen)
    ((Server.carried seen).map grpcByteBufferToString) (Server.trailers seen)

/-- A step of the client. -/
def clientNode (network : Network) (input : Client.ClientInput) :
    Option (Network × List NetworkObs) :=
  (Client.clientStep network.client input).bind fun stepped =>
    (readDown reaches network.wires stepped.2 input.completed).map fun wires =>
      ({ network with client := stepped.1, wires := writeUp reaches wires stepped.2 },
        stepped.2.map .client)

/-- A step of the server. -/
def serverNode (network : Network) (input : Server.ServerInput) :
    Option (Network × List NetworkObs) :=
  (Server.serverStep network.server input).bind fun stepped =>
    (readUp reaches network.wires stepped.2 input.completed).map fun wires =>
      ({ network with server := stepped.1, wires := writeDown wires stepped.2 },
        stepped.2.map .server)

/-- A transmission on one wire. -/
def transmits (network : Network) (address : Nat) (moved : Option Wire) :
    Option (Network × List NetworkObs) :=
  moved.map fun wire => ({ network with wires := Function.update network.wires address wire }, [])

def networkStep (network : Network) : NetworkInput → Option (Network × List NetworkObs)
  | .client input => clientNode reaches network input
  | .server input => serverNode reaches network input
  | .transmitUp address => transmits network address (network.wires address).transmitUp
  | .transmitDown address => transmits network address (network.wires address).transmitDown
  | .transmitTrailer address => transmits network address (network.wires address).transmitTrailer

/-- A client and a server as they are created, with nothing on the way. -/
def networkMachine (clientWake : WakeHandle) (acceptWindow maxActive : Int)
    (serverWake : WakeHandle) : Machine Network NetworkInput NetworkObs where
  start :=
    { client := (Client.clientMachine clientWake).start
      server := (Server.serverMachine acceptWindow maxActive serverWake).start
      wires := fun _ => {} }
  opening := (Server.serverMachine acceptWindow maxActive serverWake).opening.map .server
  step := networkStep reaches

/-- What the only tag of a unary call delivers with an OK status is a trailer that was sent, with
the one message that was on the way. -/
structure Responds (wire : Wire) (delivery : Client.Delivery) (trailer : Server.Trailer) :
    Prop where
  sent : trailer ∈ wire.trailers.transit
  status : trailer.status = delivery.status
  metadata : trailer.metadata.Perm delivery.trailingMd
  response : wire.downward.transit = [grpcByteBufferToString delivery.message]

/-- The steps gRPC can take: an OK status of a call is one that the call it reaches sent. -/
def Truthful (network : Network) : NetworkInput → Prop
  | .client (.returned home op delivery) => ∀ address ∈ reaches (.stream home),
    Honest ((network.wires address).exchange (network.client.streamView home)
      (network.server.callView address)) (.link (.client (.returned op delivery)))
  | .client (.unary home delivery) => ∀ address ∈ reaches (.unary home),
    delivery.status.code = 0 → ∃ trailer, Responds (network.wires address) delivery trailer
  | _ => True

theorem exists_responds_iff (wire : Wire) (delivery : Client.Delivery) :
    (∃ trailer, Responds wire delivery trailer) ↔
      wire.downward.transit = [grpcByteBufferToString delivery.message] ∧
        ∃ trailer ∈ wire.trailers.transit,
          trailer.status = delivery.status ∧ trailer.metadata.Perm delivery.trailingMd := by
  constructor
  · rintro ⟨trailer, responds⟩
    exact ⟨responds.response, trailer, responds.sent, responds.status, responds.metadata⟩
  · rintro ⟨response, trailer, sent, status, metadata⟩
    exact ⟨trailer, sent, status, metadata, response⟩

instance (wire : Wire) (delivery : Client.Delivery) :
    Decidable (∃ trailer, Responds wire delivery trailer) :=
  decidable_of_iff' _ (exists_responds_iff wire delivery)

instance (network : Network) (input : NetworkInput) :
    Decidable (Truthful reaches network input) :=
  match input with
  | .client (.returned home _ _) =>
    inferInstanceAs (Decidable (∀ address ∈ reaches (.stream home), Honest _ _))
  | .client (.unary home delivery) =>
    inferInstanceAs (Decidable (∀ address ∈ reaches (.unary home),
      delivery.status.code = 0 → ∃ trailer, Responds (network.wires address) delivery trailer))
  | .client (.callStart _ _ _ _) => isTrue trivial
  | .client (.streamStart _ _ _ _ _) => isTrue trivial
  | .client (.request _ _) => isTrue trivial
  | .client (.cancel _) => isTrue trivial
  | .client (.poll _ _) => isTrue trivial
  | .client (.woken _ _) => isTrue trivial
  | .client .close => isTrue trivial
  | .client .joined => isTrue trivial
  | .server _ => isTrue trivial
  | .transmitUp _ => isTrue trivial
  | .transmitDown _ => isTrue trivial
  | .transmitTrailer _ => isTrue trivial

end Steps

/-! ### The log of each end -/

/-- What was observed of the client. -/
def clientSide (log : List NetworkObs) : List Client.ClientObs :=
  log.filterMap fun
    | .client obs => some obs
    | _ => none

/-- What was observed of the server. -/
def serverSide (log : List NetworkObs) : List Server.ServerObs :=
  log.filterMap fun
    | .server obs => some obs
    | _ => none

section Projections

variable (log : List NetworkObs)

@[simp]
theorem clientSide_client (news : List Client.ClientObs) :
    clientSide (log ++ news.map .client) = clientSide log ++ news := by
  simp [clientSide, List.filterMap_map]

@[simp]
theorem clientSide_server (news : List Server.ServerObs) :
    clientSide (log ++ news.map .server) = clientSide log := by
  simp [clientSide, List.filterMap_map]

@[simp]
theorem serverSide_server (news : List Server.ServerObs) :
    serverSide (log ++ news.map .server) = serverSide log ++ news := by
  simp [serverSide, List.filterMap_map]

@[simp]
theorem serverSide_client (news : List Client.ClientObs) :
    serverSide (log ++ news.map .client) = serverSide log := by
  simp [serverSide, List.filterMap_map]

end Projections

/-! ### The steps of an exchange -/

namespace Wire

@[simp]
theorem carryUp_nil (wire : Wire) : wire.carryUp false [] = wire := by
  rw [carryUp, Channel.fail_false, Channel.offer_nil]

@[simp]
theorem carryDown_nil (wire : Wire) : wire.carryDown false [] [] = wire := by
  rw [carryDown, Channel.fail_false, Channel.fail_false, Channel.offer_nil, Channel.offer_nil]

theorem carryUp_carryUp (wire : Wire) (messages more : List (Option Bytes)) :
    (wire.carryUp false messages).carryUp false more = wire.carryUp false (messages ++ more) := by
  rw [carryUp, carryUp, carryUp, Channel.fail_false, Channel.fail_false, Channel.offer_offer]

theorem carryDown_carryDown (wire : Wire) (messages more : List (Option Bytes))
    (trailers others : List Server.Trailer) :
    (wire.carryDown false messages trailers).carryDown false more others =
      wire.carryDown false (messages ++ more) (trailers ++ others) := by
  simp only [carryDown, Channel.fail_false, Channel.offer_offer]

@[simp]
theorem takeDown_nil (wire : Wire) : wire.takeDown [] = some wire := rfl

@[simp]
theorem takeUp_nil (wire : Wire) : wire.takeUp [] = some wire := rfl

end Wire

section Exchanges

variable {wire heard : Wire} {client : Client.StreamView} {server : Server.CallView}

/-- A step of the stream is a step of its exchange. -/
theorem exchange_client {after : Client.StreamView} {input : Client.StreamInput}
    {news : List Client.StreamObs}
    (taken : Client.streamStep client input = some (after, news))
    (read : wire.takeDown (Client.arrived news) = some heard) :
    exchangeStep (wire.exchange client server) (.link (.client input)) =
      some ((heard.carryUp (Client.failed news)
        ((Client.written news).map grpcByteBufferToString)).exchange after server,
        news.map .client) := by
  obtain ⟨downward, moved, rfl⟩ := Option.map_eq_some_iff.mp read
  have silent : serverLog (news.map LinkObs.client) = [] := serverLog_client [] news
  have step : linkStep (wire.exchange client server).link (.client input) =
      some ({ client := after
              server := server
              upward := (wire.upward.fail (Client.failed news)).offer
                ((Client.written news).map grpcByteBufferToString)
              downward := downward }, news.map .client) := by
    show (Client.streamStep client input).bind _ = _
    rw [taken, Option.bind_some]
    show (wire.downward.take (Client.arrived news)).map _ = _
    rw [moved]
    rfl
  show (linkStep _ _).map _ = _
  rw [step, Option.map_some, silent]
  show some (Exchange.mk _ ((wire.trailers.fail false).offer []), _) = _
  rw [Channel.fail_false, Channel.offer_nil]
  rfl

/-- A step of the call is a step of its exchange. -/
theorem exchange_server {after : Server.CallView} {input : Server.CallInput}
    {news : List Server.CallObs} (taken : Server.callStep server input = some (after, news))
    (read : wire.takeUp (Server.arrived news) = some heard) :
    exchangeStep (wire.exchange client server) (.link (.server input)) =
      some ((heard.carryDown (Server.failed news)
        ((Server.carried news).map grpcByteBufferToString) (Server.trailers news)).exchange
          client after, news.map .server) := by
  obtain ⟨upward, moved, rfl⟩ := Option.map_eq_some_iff.mp read
  have seen : serverLog (news.map LinkObs.server) = news := serverLog_server [] news
  have step : linkStep (wire.exchange client server).link (.server input) =
      some ({ client := client
              server := after
              upward := upward
              downward := (wire.downward.fail (Server.failed news)).offer
                ((Server.carried news).map grpcByteBufferToString) }, news.map .server) := by
    show (Server.callStep server input).bind _ = _
    rw [taken, Option.bind_some]
    show (wire.upward.take (Server.arrived news)).map _ = _
    rw [moved]
    rfl
  show (linkStep _ _).map _ = _
  rw [step, Option.map_some, seen]
  rfl

/-- A step of the stream in which nothing arrives and nothing fails. -/
theorem exchange_asks {after : Client.StreamView} {input : Client.StreamInput}
    {news : List Client.StreamObs} (honest : Honest (wire.exchange client server)
      (.link (.client input)))
    (taken : Client.streamStep client input = some (after, news))
    (unread : Client.arrived news = []) (sane : Client.failed news = false) :
    (exchangeMachine.startedAt (wire.exchange client server)).Run Honest
      ((wire.carryUp false ((Client.written news).map grpcByteBufferToString)).exchange after
        server) (news.map .client) := by
  have step := @exchange_client wire _ client server after input news taken
    (by rw [unread]; exact wire.takeDown_nil)
  rw [sane] at step
  exact Machine.Run.single honest step

/-- A step of the stream that does not touch the wire. -/
theorem exchange_idles {after : Client.StreamView} {input : Client.StreamInput}
    {news : List Client.StreamObs} (honest : Honest (wire.exchange client server)
      (.link (.client input)))
    (taken : Client.streamStep client input = some (after, news))
    (unread : Client.arrived news = []) (sane : Client.failed news = false)
    (unwritten : Client.written news = []) :
    (exchangeMachine.startedAt (wire.exchange client server)).Run Honest
      (wire.exchange after server) (news.map .client) := by
  have run := exchange_asks honest taken unread sane
  rw [unwritten, List.map_nil, Wire.carryUp_nil] at run
  exact run

/-- Steps of the stream that are no completions are steps of its exchange. -/
theorem exchange_asked {after : Client.StreamView} {own : List Client.StreamObs}
    (run : (Client.streamMachine.startedAt client).Run Client.Unreturned after own) :
    (exchangeMachine.startedAt (wire.exchange client server)).Run Honest
      ((wire.carryUp false ((Client.written own).map grpcByteBufferToString)).exchange after
        server) (own.map .client) := by
  induction run with
  | start =>
    show Machine.Run _ _ ((wire.carryUp false []).exchange client server) []
    rw [Wire.carryUp_nil]
    exact .start
  | @next view after log news input before permitted taken inductionHypothesis =>
    obtain ⟨unread, sane⟩ := Client.silent_of_not_returned
      (Client.returned_not_mem_of_unreturned permitted taken)
    have honest : ∀ exchange, Honest exchange (.link (.client input)) := by
      intro exchange
      cases input with
      | returned op delivery => exact absurd permitted not_false
      | _ => trivial
    rw [List.map_append, Client.written_append, List.map_append, ← Wire.carryUp_carryUp]
    exact inductionHypothesis.trans (exchange_asks (honest _) taken unread sane)

/-- Steps of the call that are no completions are steps of its exchange. -/
theorem exchange_answered {after : Server.CallView} {own : List Server.CallObs}
    (run : (Server.callMachine.startedAt server).Run Server.Unreturned after own) :
    (exchangeMachine.startedAt (wire.exchange client server)).Run Honest
      ((wire.carryDown false ((Server.carried own).map grpcByteBufferToString)
        (Server.trailers own)).exchange client after) (own.map .server) := by
  induction run with
  | start =>
    show Machine.Run _ _ ((wire.carryDown false [] []).exchange client server) []
    rw [Wire.carryDown_nil]
    exact .start
  | @next view after log news input before permitted taken inductionHypothesis =>
    obtain ⟨unread, sane⟩ := Server.silent_of_not_returned
      (Server.returned_not_mem_of_unreturned permitted taken)
    have step := @exchange_server (wire.carryDown false
      ((Server.carried log).map grpcByteBufferToString) (Server.trailers log)) _ client view after
      input news taken (by rw [unread]; exact Wire.takeUp_nil _)
    rw [sane, Wire.carryDown_carryDown, ← List.map_append, ← Server.carried_append,
      ← Server.trailers_append] at step
    rw [List.map_append]
    exact inductionHypothesis.trans
      (Machine.Run.single (show Honest _ (.link (.server input)) from trivial) step)

end Exchanges

end Rgrpc
