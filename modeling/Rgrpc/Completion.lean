/-
This file proves that a conversation cannot get stuck. Take an exchange in any
state that it can reach, in which no operation failed and R has not answered the
call: there is a way to bring it to its end, on which R at the server only reads
and then answers once, R at the client only polls, and gRPC only completes what
was posted.

The way has two stages, each with a measure that every step of it lowers. First
everything R sent at the client is written, carried and read. Then the answer is
given, and everything the server wrote is carried and read, and its trailer
sent. What is left are the end of the reads, the half-close if R asked for one,
and the status.
-/

import Rgrpc.Client.Progress
import Rgrpc.Conversation
import Rgrpc.Server.Progress

namespace Rgrpc

open Library

/-! ### The way to the end -/

/-- The steps on the way to the end, at which R gives the call the given answer. What was posted
comes back with `ok`, but for the read that finds that the trailer was sent and every message was
read; `Finish` comes back with that trailer; a poll takes a message that was there. -/
def Serves (answer : Server.RCall) (exchange : Exchange) : ExchangeInput → Prop
  | .link (.client (.returned .finish delivery)) => ∃ trailer, Delivers exchange delivery trailer
  | .link (.client (.returned .read delivery)) => delivery.ok = true ∨
    exchange.trailers.transit ≠ [] ∧ exchange.link.downward.transit = []
  | .link (.client (.returned _ delivery)) => delivery.ok = true
  | .link (.client .taken) => 0 < exchange.link.client.unread
  | .link (.server (.returned op delivery nextId)) =>
    delivery.ok = true ∧ (op = .accept ∧ nextId ≠ 0 ∨ op = .read ∨ op = .write)
  | .link (.server (.request request)) => request = .read ∨ request = answer
  | .link .transmitUp => True
  | .link .transmitDown => True
  | .transmitTrailer => True
  | _ => False

/-- What happens on the way to the end can happen. -/
theorem Serves.honest {answer : Server.RCall} {exchange : Exchange} {input : ExchangeInput}
    (serves : Serves answer exchange input) : Honest exchange input := by
  rcases input with ((_ | ⟨op, delivery⟩ | _ | _ | _ | _) | _ | _ | _) | _
  · trivial
  · cases op with
    | finish => exact fun _ => serves
    | _ => trivial
  all_goals trivial

/-- An exchange in which nothing failed and which R has not answered: the stream was opened with
room to read and is not to be finished, and the call it reaches is healthy or waits in its slot. -/
structure Ongoing (exchange : Exchange) : Prop where
  client : ∃ stream, Client.Alive exchange.link.client stream
  server : Server.Vacant exchange.link.server ∨
    ∃ call, Server.Healthy exchange.link.server call ∧ call.replied = false

/-- An exchange in which everything R sent at the client was written and R has answered; a terminal
that was posted put its trailer on the wire. -/
structure Concluding (exchange : Exchange) : Prop where
  client : ∃ stream, Client.Alive exchange.link.client stream
  written : exchange.link.client.upload = 0
  server : ∃ call, Server.Healthy exchange.link.server call ∧ call.replied = true ∧
    (call.finishPosted = true →
      exchange.trailers.offered ≠ [] ∨ exchange.trailers.transit ≠ [])

/-! ### The steps of an exchange -/

/-- The two ends of an exchange run as they do alone, whatever gRPC makes up. -/
theorem linked_of_exchange {exchange : Exchange} {log : List LinkObs}
    (run : exchangeMachine.Run Machine.Free exchange log) : Linked exchange.link log := by
  induction run with
  | start => exact linked_start
  | @next _ after log news input before _ taken linked =>
    cases input with
    | link input =>
      obtain ⟨stepped, step, equal⟩ := Option.map_eq_some_iff.mp taken
      simp only [Prod.mk.injEq] at equal
      obtain ⟨rfl, rfl⟩ := equal
      exact linked.step step
    | transmitTrailer =>
      change (if _ then _ else none) = _ at taken
      split at taken
      · obtain ⟨trailers, -, equal⟩ := Option.map_eq_some_iff.mp taken
        simp only [Prod.mk.injEq] at equal
        obtain ⟨rfl, rfl⟩ := equal
        rw [List.append_nil]
        exact linked
      · exact absurd taken (by simp)

section Steps

variable {exchange : Exchange}

/-- A step of the stream on which nothing fails: what it read was next in transit, what it wrote is
offered. -/
theorem exchangeStep_client {after : Client.StreamView} {input : Client.StreamInput}
    {news : List Client.StreamObs}
    (taken : Client.streamStep exchange.link.client input = some (after, news))
    (fine : Client.failed news = false) {rest : List (Option Bytes)}
    (read : Client.arrived news ++ rest = exchange.link.downward.transit) :
    exchangeStep exchange (.link (.client input)) = some
      ({ link :=
          { client := after
            server := exchange.link.server
            upward := exchange.link.upward.offer
              ((Client.written news).map grpcByteBufferToString)
            downward := { exchange.link.downward with transit := rest } }
         trailers := exchange.trailers },
        news.map .client) := by
  let wire : Wire := ⟨exchange.link.upward, exchange.link.downward, exchange.trailers⟩
  have heard : wire.takeDown (Client.arrived news) =
      some { wire with downward := { wire.downward with transit := rest } } := by
    show Option.map _ (Channel.take _ _) = _
    rw [Channel.take, ← read, if_pos (List.prefix_append _ _), List.drop_left]
    rfl
  have step := @exchange_client wire _ exchange.link.client exchange.link.server after input news
    taken heard
  rw [fine] at step
  exact step

/-- A step of the call on which nothing fails. -/
theorem exchangeStep_server {after : Server.CallView} {input : Server.CallInput}
    {news : List Server.CallObs}
    (taken : Server.callStep exchange.link.server input = some (after, news))
    (fine : Server.failed news = false) {rest : List (Option Bytes)}
    (read : Server.arrived news ++ rest = exchange.link.upward.transit) :
    exchangeStep exchange (.link (.server input)) = some
      ({ link :=
          { client := exchange.link.client
            server := after
            upward := { exchange.link.upward with transit := rest }
            downward := exchange.link.downward.offer
              ((Server.carried news).map grpcByteBufferToString) }
         trailers := exchange.trailers.offer (Server.trailers news) },
        news.map .server) := by
  let wire : Wire := ⟨exchange.link.upward, exchange.link.downward, exchange.trailers⟩
  have heard : wire.takeUp (Server.arrived news) =
      some { wire with upward := { wire.upward with transit := rest } } := by
    show Option.map _ (Channel.take _ _) = _
    rw [Channel.take, ← read, if_pos (List.prefix_append _ _), List.drop_left]
    rfl
  have step := @exchange_server wire _ exchange.link.client exchange.link.server after input news
    taken heard
  rw [fine] at step
  exact step

/-- A channel in which something waits can transmit it. -/
theorem transmit_of_offered {Message : Type} {channel : Channel Message}
    (waiting : channel.offered ≠ []) :
    ∃ after first, channel.transmit = some after ∧ channel.offered = first :: after.offered ∧
      after.transit = channel.transit ++ [first] := by
  obtain ⟨first, rest, offered⟩ := List.exists_cons_of_ne_nil waiting
  refine ⟨⟨rest, channel.transit ++ [first]⟩, first, ?_, offered, rfl⟩
  rw [Channel.transmit, offered]

/-- Any message can be what a read finds. -/
theorem exists_message (payload : Option Bytes) :
    ∃ message, grpcByteBufferToString message = payload := by
  cases payload with
  | none => exact ⟨⟨none⟩, rfl⟩
  | some bytes => exact ⟨.ofRaw bytes, grpcByteBufferToString_ofRaw bytes⟩

end Steps

/-! ### The first stage -/

/-- How far a call is from reading on: its slot is to be matched, or R is to ask for the next
message. -/
def reluctance (view : Server.CallView) : Nat :=
  (view.cell.object.map fun call =>
    if call.id = 0 then 2 else if call.readInflight then 0 else 1).getD 0

/-- What is left of the first stage. -/
def Exchange.toHear (exchange : Exchange) : Nat :=
  exchange.link.client.upload + 3 * exchange.link.upward.offered.length +
    2 * exchange.link.upward.transit.length + reluctance exchange.link.server

/-- Everything R sent at the client was written, carried and read. -/
structure Heard (exchange : Exchange) : Prop where
  written : exchange.link.client.upload = 0
  offered : exchange.link.upward.offered = []
  transit : exchange.link.upward.transit = []

section First

variable {exchange : Exchange} {log : List LinkObs} {answer : Server.RCall}

theorem reluctance_vacant {view : Server.CallView} (vacant : Server.Vacant view) :
    reluctance view = 2 := by
  rw [reluctance, vacant.cell]
  rfl

theorem reluctance_healthy {view : Server.CallView} {call : Server.SvCall}
    (healthy : Server.Healthy view call) :
    reluctance view = if call.readInflight then 0 else 1 := by
  rw [reluctance, healthy.object]
  show (if call.id = 0 then 2 else _) = _
  rw [if_neg healthy.named]

/-- A stream that starts or writes brings the first stage on. -/
theorem Ongoing.upload (ongoing : Ongoing exchange)
    (run : exchangeMachine.Run Machine.Free exchange log)
    (something : exchange.link.client.upload ≠ 0) :
    ∃ input after news, Serves answer exchange input ∧
      exchangeStep exchange input = some (after, news) ∧ Ongoing after ∧
      after.toHear < exchange.toHear := by
  have streams := (linked_of_exchange run).client
  obtain ⟨stream, alive⟩ := ongoing.client
  obtain ⟨op, after, news, permitted, taken, advances, lower⟩ : ∃ op after news,
      Serves answer exchange (.link (.client (.returned op { ok := true }))) ∧
      Client.streamStep exchange.link.client (.returned op { ok := true }) = some (after, news) ∧
      Client.Advances exchange.link.client after news [] ∧
      after.upload + 4 * (Client.written news).length < exchange.link.client.upload := by
    rcases alive.busy streams something with outstanding | inflight
    · obtain ⟨after, news, taken, advances, lower⟩ := alive.start streams outstanding
      exact ⟨.start, after, news, rfl, taken, advances, lower⟩
    · obtain ⟨after, news, taken, advances, lower⟩ := alive.write streams inflight
      exact ⟨.write, after, news, rfl, taken, advances, lower⟩
  have step := exchangeStep_client taken advances.failed
    (show Client.arrived news ++ exchange.link.downward.transit = _ by rw [advances.arrived]; rfl)
  refine ⟨_, _, _, permitted, step, ⟨advances.alive, ongoing.server⟩, ?_⟩
  show after.upload + 3 * (exchange.link.upward.offered ++
      (Client.written news).map grpcByteBufferToString).length +
    2 * exchange.link.upward.transit.length + reluctance exchange.link.server < exchange.toHear
  rw [Exchange.toHear, List.length_append, List.length_map]
  omega

/-- What the client wrote is carried. -/
theorem Ongoing.transmits (ongoing : Ongoing exchange)
    (waiting : exchange.link.upward.offered ≠ []) :
    ∃ input after news, Serves answer exchange input ∧
      exchangeStep exchange input = some (after, news) ∧ Ongoing after ∧
      after.toHear < exchange.toHear := by
  obtain ⟨upward, first, moved, offered, transit⟩ := transmit_of_offered waiting
  have step : exchangeStep exchange (.link .transmitUp) = some
      ({ exchange with link := { exchange.link with upward := upward } }, []) := by
    show Option.map _ (Option.map _ (Channel.transmit _)) = _
    rw [moved]
    show some (Exchange.mk _ ((exchange.trailers.fail false).offer []), _) = _
    rw [Channel.fail_false, Channel.offer_nil]
  refine ⟨.link .transmitUp, _, _, trivial, step, ⟨ongoing.client, ongoing.server⟩, ?_⟩
  show exchange.link.client.upload + 3 * upward.offered.length + 2 * upward.transit.length +
    reluctance exchange.link.server < exchange.toHear
  rw [Exchange.toHear, offered, transit, List.length_append, List.length_singleton,
    List.length_cons]
  omega

/-- A step of the call in which nothing is written brings the first stage on when less is left to
read or R came closer to reading it. -/
theorem Ongoing.listens (ongoing : Ongoing exchange) {input : Server.CallInput}
    {after : Server.CallView} {news : List Server.CallObs} {rest : List (Option Bytes)}
    {call : Server.SvCall} (permitted : Serves answer exchange (.link (.server input)))
    (taken : Server.callStep exchange.link.server input = some (after, news))
    (healthy : Server.Healthy after call) (silent : call.replied = false)
    (read : Server.arrived news ++ rest = exchange.link.upward.transit)
    (fine : Server.failed news = false)
    (lower : 2 * rest.length + reluctance after <
      2 * exchange.link.upward.transit.length + reluctance exchange.link.server) :
    ∃ input after news, Serves answer exchange input ∧
      exchangeStep exchange input = some (after, news) ∧ Ongoing after ∧
      after.toHear < exchange.toHear := by
  refine ⟨_, _, _, permitted, exchangeStep_server taken fine read,
    ⟨ongoing.client, Or.inr ⟨call, healthy, silent⟩⟩, ?_⟩
  show exchange.link.client.upload + 3 * exchange.link.upward.offered.length +
    2 * rest.length + reluctance after < exchange.toHear
  rw [Exchange.toHear]
  omega

/-- What arrived is read: a client comes to the slot, a read comes back, or R asks for the next
message. -/
theorem Ongoing.hears (ongoing : Ongoing exchange)
    (run : exchangeMachine.Run Machine.Free exchange log)
    (waiting : exchange.link.upward.transit ≠ []) :
    ∃ input after news, Serves answer exchange input ∧
      exchangeStep exchange input = some (after, news) ∧ Ongoing after ∧
      after.toHear < exchange.toHear := by
  have calls := (linked_of_exchange run).server
  rcases ongoing.server with vacant | ⟨call, healthy, silent⟩
  · obtain ⟨after, news, call, taken, healthy, silent, reading, came, fine, -, -⟩ :=
      vacant.accept
    have permitted : Serves answer exchange
        (.link (.server (.returned .accept { ok := true } 1))) :=
      ⟨rfl, Or.inl ⟨rfl, Nat.one_ne_zero⟩⟩
    refine ongoing.listens permitted taken healthy silent
      (show Server.arrived news ++ exchange.link.upward.transit = _ by rw [came]; rfl) fine ?_
    rw [reluctance_vacant vacant, reluctance_healthy healthy, if_pos reading]
    omega
  · cases reading : call.readInflight with
    | true =>
      obtain ⟨payload, rest, next⟩ := List.exists_cons_of_ne_nil waiting
      obtain ⟨message, dumped⟩ := exists_message payload
      obtain ⟨after, news, left, taken, kept, replied, -, idle, came, fine, -, -⟩ :=
        healthy.read calls reading message
      have permitted : Serves answer exchange
          (.link (.server (.returned .read { ok := true, message := message } 0))) :=
        ⟨rfl, Or.inr (Or.inl rfl)⟩
      refine ongoing.listens permitted taken kept (replied.trans silent)
        (show Server.arrived news ++ rest = _ by rw [came, dumped, next]; rfl) fine ?_
      rw [reluctance_healthy healthy, reluctance_healthy kept, reading, idle, next,
        List.length_cons, if_pos rfl, if_neg Bool.false_ne_true]
      omega
    | false =>
      have settled := healthy.settled calls
      have delivered : call.delivered = true := by
        by_contra undelivered
        rw [Bool.not_eq_true] at undelivered
        exact absurd (reading.symm.trans (Server.greeted_of_run calls call healthy.object
          settled.ledger.accept_not_mem healthy.alive undelivered)) Bool.false_ne_true
      obtain ⟨after, news, left, taken, kept, replied, reads, came, fine, -, -⟩ :=
        healthy.readOn delivered reading (settled.ledger.finishPosted_of_not_replied silent)
      have permitted : Serves answer exchange (.link (.server (.request .read))) := Or.inl rfl
      refine ongoing.listens permitted taken kept (replied.trans silent)
        (show Server.arrived news ++ exchange.link.upward.transit = _ by rw [came]; rfl) fine ?_
      rw [reluctance_healthy healthy, reluctance_healthy kept, reading, reads, if_pos rfl,
        if_neg Bool.false_ne_true]
      omega

/-- The first stage can be completed. -/
theorem Ongoing.heard (ongoing : Ongoing exchange)
    (run : exchangeMachine.Run Machine.Free exchange log) :
    ∃ later more, (exchangeMachine.startedAt exchange).Run (Serves answer) later more ∧
      Ongoing later ∧ Heard later := by
  refine run.driven Exchange.toHear Ongoing (fun state => Ongoing state ∧ Heard state)
    (fun {state log} before ongoing unsettled => ?_) ongoing
  by_cases written : state.link.client.upload = 0
  · by_cases offered : state.link.upward.offered = []
    · by_cases transit : state.link.upward.transit = []
      · exact absurd ⟨ongoing, ⟨written, offered, transit⟩⟩ unsettled
      · exact ongoing.hears before transit
    · exact ongoing.transmits offered
  · exact ongoing.upload before written

end First

/-! ### The second stage -/

/-- What is left of the second stage. -/
def Exchange.toDeliver (exchange : Exchange) : Nat :=
  exchange.link.server.download + 4 * exchange.link.downward.offered.length +
    3 * exchange.link.downward.transit.length + exchange.link.client.unread +
    exchange.trailers.offered.length

/-- Everything the server wrote was carried and read, its trailer was sent, and the client reads
on. -/
structure Delivered (exchange : Exchange) : Prop where
  sent : exchange.trailers.transit ≠ []
  drained : exchange.link.downward.transit = []
  reading : ∀ stream, exchange.link.client.cell.object = some stream → stream.readInflight = true

section Second

variable {exchange : Exchange} {log : List LinkObs} {answer : Server.RCall}

/-- R answers once everything it is to hear was read. -/
theorem Ongoing.answers (ongoing : Ongoing exchange)
    (run : exchangeMachine.Run Machine.Free exchange log) (heard : Heard exchange)
    (spoken : Server.arrived (serverLog log) ≠ []) (terminal : answer.isTerminal = true)
    (translates : answer.translates = true) :
    ∃ after news, Serves answer exchange (.link (.server (.request answer))) ∧
      exchangeStep exchange (.link (.server (.request answer))) = some (after, news) ∧
      Concluding after ∧ .accepted answer ∈ serverLog news := by
  have calls := (linked_of_exchange run).server
  rcases ongoing.server with vacant | ⟨call, healthy, silent⟩
  · exact absurd (vacant.unheard calls) spoken
  · obtain ⟨after, news, left, taken, kept, replied, accepted, came, fine, trailing⟩ :=
      healthy.answer calls (healthy.delivered calls spoken) silent terminal translates
    have step := exchangeStep_server taken fine
      (show Server.arrived news ++ exchange.link.upward.transit = _ by rw [came]; rfl)
    refine ⟨_, _, Or.inr rfl, step,
      ⟨ongoing.client, heard.written, left, kept, replied, fun posted => Or.inl ?_⟩, ?_⟩
    · exact fun none => trailing posted (List.append_eq_nil_iff.mp none).2
    · rw [show serverLog (news.map LinkObs.server) = news from serverLog_server [] news]
      exact accepted

/-- A call that was answered writes what is queued, and then its terminal. -/
theorem Concluding.writes (concluding : Concluding exchange)
    (run : exchangeMachine.Run Machine.Free exchange log) {call : Server.SvCall}
    (healthy : Server.Healthy exchange.link.server call) (replied : call.replied = true)
    (inflight : call.writeInflight = true)
    (trailing : call.finishPosted = true →
      exchange.trailers.offered ≠ [] ∨ exchange.trailers.transit ≠ []) :
    ∃ input after news, Serves answer exchange input ∧
      exchangeStep exchange input = some (after, news) ∧ Concluding after ∧
      after.toDeliver < exchange.toDeliver := by
  have calls := (linked_of_exchange run).server
  obtain ⟨after, news, left, taken, kept, same, came, fine, lower, ends⟩ :=
    healthy.write calls inflight
  have permitted : Serves answer exchange
      (.link (.server (.returned .write { ok := true } 0))) := ⟨rfl, Or.inr (Or.inr rfl)⟩
  have step := exchangeStep_server taken fine
    (show Server.arrived news ++ exchange.link.upward.transit = _ by rw [came]; rfl)
  refine ⟨_, _, _, permitted, step, ⟨concluding.client, concluding.written, left, kept,
    same.trans replied, fun posted => ?_⟩, ?_⟩
  · rcases ends posted with before | now
    · rcases trailing before with offered | transit
      · exact Or.inl fun none => offered (List.append_eq_nil_iff.mp none).1
      · exact Or.inr transit
    · exact Or.inl fun none => now (List.append_eq_nil_iff.mp none).2
  · show after.download + 4 * (exchange.link.downward.offered ++
        (Server.carried news).map grpcByteBufferToString).length +
      3 * exchange.link.downward.transit.length + exchange.link.client.unread +
      (exchange.trailers.offered ++ Server.trailers news).length < exchange.toDeliver
    rw [Exchange.toDeliver, Server.download_of_object kept.object,
      Server.download_of_object healthy.object, List.length_append, List.length_append,
      List.length_map]
    omega

/-- What the server wrote is carried. -/
theorem Concluding.transmits (concluding : Concluding exchange)
    (waiting : exchange.link.downward.offered ≠ []) :
    ∃ input after news, Serves answer exchange input ∧
      exchangeStep exchange input = some (after, news) ∧ Concluding after ∧
      after.toDeliver < exchange.toDeliver := by
  obtain ⟨downward, first, moved, offered, transit⟩ := transmit_of_offered waiting
  have step : exchangeStep exchange (.link .transmitDown) = some
      ({ exchange with link := { exchange.link with downward := downward } }, []) := by
    show Option.map _ (Option.map _ (Channel.transmit _)) = _
    rw [moved]
    show some (Exchange.mk _ ((exchange.trailers.fail false).offer []), _) = _
    rw [Channel.fail_false, Channel.offer_nil]
  refine ⟨.link .transmitDown, _, _, trivial, step,
    ⟨concluding.client, concluding.written, concluding.server⟩, ?_⟩
  show exchange.link.server.download + 4 * downward.offered.length +
    3 * downward.transit.length + exchange.link.client.unread +
    exchange.trailers.offered.length < exchange.toDeliver
  rw [Exchange.toDeliver, offered, transit, List.length_append, List.length_singleton,
    List.length_cons]
  omega

/-- The trailer is sent once every message was. -/
theorem Concluding.transmitsTrailer (concluding : Concluding exchange)
    (nothing : exchange.link.downward.offered = []) (waiting : exchange.trailers.offered ≠ []) :
    ∃ input after news, Serves answer exchange input ∧
      exchangeStep exchange input = some (after, news) ∧ Concluding after ∧
      after.toDeliver < exchange.toDeliver := by
  obtain ⟨trailers, first, moved, offered, transit⟩ := transmit_of_offered waiting
  obtain ⟨call, healthy, replied, -⟩ := concluding.server
  have step : exchangeStep exchange .transmitTrailer =
      some ({ exchange with trailers := trailers }, []) := by
    show (if _ then Option.map _ (Channel.transmit _) else none) = _
    rw [if_pos (List.isEmpty_iff.mpr nothing), moved]
    rfl
  refine ⟨.transmitTrailer, _, _, trivial, step,
    ⟨concluding.client, concluding.written, call, healthy, replied, fun _ => Or.inr ?_⟩, ?_⟩
  · show trailers.transit ≠ []
    rw [transit]
    exact List.append_ne_nil_of_right_ne_nil _ (List.cons_ne_nil _ _)
  · show exchange.link.server.download + 4 * exchange.link.downward.offered.length +
      3 * exchange.link.downward.transit.length + exchange.link.client.unread +
      trailers.offered.length < exchange.toDeliver
    rw [Exchange.toDeliver, offered, List.length_cons]
    exact Nat.lt_succ_self _

/-- A step of the stream that reads what arrived or makes room for it. -/
theorem Concluding.reads (concluding : Concluding exchange) {input : Client.StreamInput}
    {after : Client.StreamView} {news : List Client.StreamObs} {read rest : List (Option Bytes)}
    (permitted : Serves answer exchange (.link (.client input)))
    (taken : Client.streamStep exchange.link.client input = some (after, news))
    (advances : Client.Advances exchange.link.client after news read)
    (next : read ++ rest = exchange.link.downward.transit)
    (lower : 3 * rest.length + after.unread <
      3 * exchange.link.downward.transit.length + exchange.link.client.unread) :
    ∃ input after news, Serves answer exchange input ∧
      exchangeStep exchange input = some (after, news) ∧ Concluding after ∧
      after.toDeliver < exchange.toDeliver := by
  have paid := advances.upload
  rw [concluding.written] at paid
  have step := exchangeStep_client taken advances.failed
    (show Client.arrived news ++ rest = _ by rw [advances.arrived]; exact next)
  refine ⟨_, _, _, permitted, step,
    ⟨advances.alive, Nat.eq_zero_of_le_zero (Nat.le_of_add_right_le paid), concluding.server⟩, ?_⟩
  show exchange.link.server.download + 4 * exchange.link.downward.offered.length +
    3 * rest.length + after.unread + exchange.trailers.offered.length < exchange.toDeliver
  rw [Exchange.toDeliver]
  omega

/-- The second stage can be completed. -/
theorem Concluding.delivered (concluding : Concluding exchange)
    (run : exchangeMachine.Run Machine.Free exchange log) :
    ∃ later more, (exchangeMachine.startedAt exchange).Run (Serves answer) later more ∧
      Concluding later ∧ Delivered later := by
  refine run.driven Exchange.toDeliver Concluding
    (fun state => Concluding state ∧ Delivered state)
    (fun {state log} before concluding unsettled => ?_) concluding
  have linked := linked_of_exchange before
  obtain ⟨call, healthy, replied, trailing⟩ := concluding.server
  obtain ⟨stream, alive⟩ := concluding.client
  cases posted : call.finishPosted with
  | false =>
    rcases (Server.phase_of_run linked.server).answers healthy.object healthy.unlocked
      healthy.running healthy.alive replied with inflight | absurdity
    · exact concluding.writes before healthy replied inflight trailing
    · exact absurd (posted.symm.trans absurdity) Bool.false_ne_true
  | true =>
    by_cases offered : state.link.downward.offered = []
    · by_cases unsent : state.trailers.offered = []
      · have sent := (trailing posted).resolve_left (not_not.mpr unsent)
        have started := (Client.flushed_of_upload
          ((Client.upload_of_object alive.object).symm.trans concluding.written)).1
        cases reading : stream.readInflight with
        | false =>
          have waiting := alive.unread_pos linked.client started reading
          obtain ⟨after, news, taken, advances, lower⟩ := alive.taken waiting
          have permitted : Serves answer state (.link (.client .taken)) :=
            Nat.lt_of_le_of_lt (Nat.zero_le _) lower
          exact concluding.reads permitted taken advances (List.nil_append _)
            (Nat.add_lt_add_left lower _)
        | true =>
          by_cases drained : state.link.downward.transit = []
          · refine absurd ⟨concluding, ⟨sent, drained, fun other object => ?_⟩⟩ unsettled
            obtain rfl := Option.some.inj (alive.object.symm.trans object)
            exact reading
          · obtain ⟨payload, rest, next⟩ := List.exists_cons_of_ne_nil drained
            obtain ⟨message, dumped⟩ := exists_message payload
            obtain ⟨after, news, taken, advances⟩ := alive.read linked.client reading message
            have permitted : Serves answer state
                (.link (.client (.returned .read { ok := true, message := message }))) :=
              Or.inl rfl
            refine concluding.reads permitted taken advances
              (show [grpcByteBufferToString message] ++ rest = _ by rw [dumped, next]; rfl) ?_
            have more := advances.unread
            rw [next, List.length_cons]
            rw [List.length_singleton] at more
            omega
      · exact concluding.transmitsTrailer offered unsent
    · exact concluding.transmits offered

end Second

/-! ### The end -/

/-- Everything was read and only the status is left. -/
structure Ready (exchange : Exchange) : Prop where
  sent : exchange.trailers.transit ≠ []
  drained : exchange.link.downward.transit = []
  sane : ∀ stream, exchange.link.client.cell.object = some stream → stream.broken = false
  posted : .finish ∈ exchange.link.client.cell.tags

section End

variable {exchange : Exchange} {log : List LinkObs} {answer : Server.RCall}

/-- A step of the stream in which nothing arrives and nothing is written leaves the rest of the
exchange alone. -/
theorem exchangeStep_idle {after : Client.StreamView} {input : Client.StreamInput}
    {news : List Client.StreamObs}
    (taken : Client.streamStep exchange.link.client input = some (after, news))
    (came : Client.arrived news = []) (fine : Client.failed news = false)
    (silent : Client.written news = []) :
    exchangeStep exchange (.link (.client input)) = some
      ({ exchange with link := { exchange.link with client := after } }, news.map .client) := by
  have step := exchangeStep_client taken fine
    (show Client.arrived news ++ exchange.link.downward.transit = _ by rw [came]; rfl)
  rw [silent, List.map_nil, Channel.offer_nil] at step
  exact step

/-- Once everything was delivered, the end of the reads and the half-close lead to the finish. -/
theorem Concluding.ready (concluding : Concluding exchange)
    (run : exchangeMachine.Run Machine.Free exchange log) (delivered : Delivered exchange) :
    ∃ later more, (exchangeMachine.startedAt exchange).Run (Serves answer) later more ∧
      Ready later := by
  obtain ⟨stream, alive⟩ := concluding.client
  have flushed := (Client.upload_of_object alive.object).symm.trans concluding.written
  obtain ⟨after, news, left, taken, object, running, ends, came, fine, silent⟩ :=
    alive.ends (linked_of_exchange run).client flushed (delivered.reading stream alive.object)
  have step := exchangeStep_idle taken came fine silent
  have permitted : Serves answer exchange (.link (.client (.returned .read { ok := false }))) :=
    Or.inr ⟨delivered.sent, delivered.drained⟩
  have on : (exchangeMachine.startedAt exchange).Run (Serves answer) _ _ :=
    .single permitted step
  have closed := (linked_of_exchange (run.trans on.free)).client
  rcases Client.Ends.waits closed object running ends with ⟨-, outstanding⟩ | posted
  · obtain ⟨final, more, last, ended, kept, still, ending, idle, nothing, fine, silent⟩ :=
      Client.Ends.wdone closed object running ends outstanding
    let waits : Exchange := { exchange with link := { exchange.link with client := after } }
    have close := @exchangeStep_idle waits final _ more ended nothing fine silent
    have closes : Serves answer waits (.link (.client (.returned .wdone { ok := true }))) := rfl
    have half : (exchangeMachine.startedAt waits).Run (Serves answer) _ _ :=
      .single closes close
    have handled := (linked_of_exchange ((run.trans on.free).trans half.free)).client
    refine ⟨_, _, on.trans half, delivered.sent, delivered.drained, fun other stored => ?_, ?_⟩
    · obtain rfl := Option.some.inj (kept.symm.trans stored)
      exact ending.sane
    · rcases Client.Ends.waits handled kept still ending with ⟨absurdity, -⟩ | posted
      · exact absurd (idle.symm.trans absurdity) Bool.false_ne_true
      · exact posted
  · refine ⟨_, _, on, delivered.sent, delivered.drained, fun other stored => ?_, posted⟩
    obtain rfl := Option.some.inj (object.symm.trans stored)
    exact ends.sane

/-- The status comes with the trailer. -/
theorem Ready.reports (ready : Ready exchange)
    (run : exchangeMachine.Run Machine.Free exchange log) :
    ∃ later more event delivery trailer,
      (exchangeMachine.startedAt exchange).Run (Serves answer) later more ∧
      .pushed event ∈ clientLog more ∧ event.kind = .status ∧ Client.Reports event delivery ∧
      Delivers exchange delivery trailer ∧
      Client.broke (clientLog (log ++ more)) = false := by
  have streams := (linked_of_exchange run).client
  obtain ⟨trailer, sent⟩ := List.exists_mem_of_ne_nil _ ready.sent
  let delivery : Client.Delivery :=
    { ok := true, status := trailer.status, trailingMd := trailer.metadata }
  have delivers : Delivers exchange delivery trailer :=
    ⟨sent, rfl, List.Perm.refl _, ready.drained⟩
  obtain ⟨after, news, event, taken, pushed, kind, reports, came, fine, silent, unbroken⟩ :=
    Client.reports_of_finish streams ready.posted delivery
  obtain ⟨stream, object, -⟩ := (Client.phase_of_run streams).ledger_of_mem ready.posted
  have sane := ((Client.lossless_of_run streams).output stream object).broken.symm.trans
    (ready.sane stream object)
  have permitted : Serves answer exchange (.link (.client (.returned .finish delivery))) :=
    ⟨trailer, delivers⟩
  have seen : clientLog (news.map LinkObs.client) = news := clientLog_client [] news
  have on : (exchangeMachine.startedAt exchange).Run (Serves answer) _ _ :=
    .single permitted (exchangeStep_idle taken came fine silent)
  refine ⟨_, _, event, delivery, trailer, on, ?_, kind, reports, delivers, ?_⟩
  · rw [seen]
    exact pushed
  · rw [clientLog_append, Client.broke_append, seen, sane, unbroken]
    rfl

end End

/-! ### What is said on the way -/

section Said

variable {exchange later : Exchange} {log more : List LinkObs} {answer : Server.RCall}

end Said

/-! ### Completion -/

section Completion

variable {exchange : Exchange} {log : List LinkObs} {answer : Server.RCall}

/-- Once the first stage is completed, R at the server was handed every message of the client. -/
theorem Ongoing.messages (ongoing : Ongoing exchange)
    (run : exchangeMachine.Run Machine.Free exchange log) (heard : Heard exchange) :
    Server.arrived (serverLog log) = (Client.promised (clientLog log)).map some := by
  have linked := linked_of_exchange run
  obtain ⟨stream, alive⟩ := ongoing.client
  have outbound := (Client.flow_of_run linked.client).outbound stream alive.object
  have flushed := Client.flushed_of_upload
    ((Client.upload_of_object alive.object).symm.trans heard.written)
  have fine : Client.failed (clientLog log) = false := by
    by_contra failing
    rw [Bool.not_eq_false] at failing
    exact absurd (alive.unharmed.sane.symm.trans (outbound.failing failing)) Bool.false_ne_true
  have wrote := outbound.whole alive.unharmed.sane
  rw [flushed.2.2, List.append_nil] at wrote
  have carried := linked.upward.whole fine
  rw [heard.offered, heard.transit, List.append_nil, List.append_nil, wrote, Client.sent_eq,
    dumped_ofRaw] at carried
  exact carried

/-- What arrived at a call that is ongoing was handed to R. -/
theorem Ongoing.handed (ongoing : Ongoing exchange)
    (run : exchangeMachine.Run Machine.Free exchange log)
    (spoken : Server.arrived (serverLog log) ≠ []) :
    Server.messages (serverLog log) =
      (Server.arrived (serverLog log)).map fun payload => payload.getD [] := by
  have calls := (linked_of_exchange run).server
  rcases ongoing.server with vacant | ⟨call, healthy, -⟩
  · exact absurd (vacant.unheard calls) spoken
  · exact (Server.flow_of_run calls).inbound call healthy.object healthy.alive

end Completion

end Rgrpc
