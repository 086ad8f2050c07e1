/-
This file shows that a run of the network is, for each call of the client and the
call of the server it reaches, a run of their exchange: what happens on other
calls does not touch it, and what an end does to several of its calls at once,
such as a poll that takes messages of many streams or a shutdown, is for each of
them some steps of its own.
-/

import Rgrpc.Shadow

namespace Rgrpc

open Library

/-! ### The wires of the other calls -/

section Wires

variable {reaches : Client.Rpc ≃. Nat} {wires heard : Nat → Wire} {rpc : Client.Rpc}
  {address : Nat}

theorem readDown_self {news : List Client.ClientObs} (pair : reaches rpc = some address)
    (read : readDown reaches wires news (some rpc) = some heard) :
    (wires address).takeDown (rpc.arrived news) = some (heard address) := by
  rw [readDown, pair] at read
  obtain ⟨wire, moved, rfl⟩ := Option.map_eq_some_iff.mp read
  rw [moved, Function.update_self]

theorem readDown_of_ne {news : List Client.ClientObs} {completed : Option Client.Rpc}
    (pair : reaches rpc = some address) (other : completed ≠ some rpc)
    (read : readDown reaches wires news completed = some heard) :
    heard address = wires address := by
  cases completed with
  | none => rw [Option.some.inj read]
  | some own =>
    rw [readDown] at read
    split at read
    · rw [Option.some.inj read]
    · rename_i home owner
      obtain ⟨wire, -, rfl⟩ := Option.map_eq_some_iff.mp read
      refine Function.update_of_ne ?_ _ _
      rintro rfl
      exact other (congrArg some (reaches.inj owner pair))

theorem writeUp_eq (pair : reaches rpc = some address) (news : List Client.ClientObs) :
    writeUp reaches wires news address =
      (wires address).carryUp (rpc.failed news) (rpc.written news) := by
  rw [writeUp, reaches.eq_some_iff.mpr pair]

theorem readUp_self {news : List Server.ServerObs} (pair : reaches rpc = some address)
    (read : readUp reaches wires news (some address) = some heard) :
    (wires address).takeUp (Server.arrived (Server.callLog address news)) =
      some (heard address) := by
  rw [readUp, reaches.eq_some_iff.mpr pair] at read
  obtain ⟨wire, moved, rfl⟩ := Option.map_eq_some_iff.mp read
  rw [moved, Function.update_self]

theorem readUp_of_ne {news : List Server.ServerObs} {completed : Option Nat}
    (other : completed ≠ some address)
    (read : readUp reaches wires news completed = some heard) :
    heard address = wires address := by
  cases completed with
  | none => rw [Option.some.inj read]
  | some own =>
    rw [readUp] at read
    split at read
    · rw [Option.some.inj read]
    · obtain ⟨wire, -, rfl⟩ := Option.map_eq_some_iff.mp read
      exact Function.update_of_ne (fun same => other (congrArg some same.symm)) _ _

end Wires

/-! ### The two ends of the network -/

section Ends

variable {reaches : Client.Rpc ≃. Nat} {clientWake serverWake : WakeHandle}
  {acceptWindow maxActive : Int} {network : Network} {log : List NetworkObs}

/-- Each end of the network runs as it does alone. -/
theorem ends_of_run {allowed : Network → NetworkInput → Prop}
    (run : (networkMachine reaches clientWake acceptWindow maxActive serverWake).Run allowed
      network log) :
    (Client.clientMachine clientWake).Run Machine.Free network.client (clientSide log) ∧
      (Server.serverMachine acceptWindow maxActive serverWake).Run Machine.Free network.server
        (serverSide log) := by
  induction run with
  | start =>
    constructor
    · rw [show clientSide (networkMachine reaches clientWake acceptWindow maxActive
        serverWake).opening = [] from clientSide_server [] _]
      exact .start
    · rw [show serverSide (networkMachine reaches clientWake acceptWindow maxActive
        serverWake).opening = _ from serverSide_server [] _]
      exact .start
  | @next state after log news input before permitted taken ends =>
    have transmitted {address : Nat} {moved : Option Wire}
        (step : transmits state address moved = some (after, news)) :
        after.client = state.client ∧ after.server = state.server ∧ news = [] := by
      obtain ⟨wire, -, equal⟩ := Option.map_eq_some_iff.mp step
      simp only [Prod.mk.injEq] at equal
      obtain ⟨rfl, rfl⟩ := equal
      exact ⟨rfl, rfl, rfl⟩
    have unmoved (same : after.client = state.client ∧ after.server = state.server ∧ news = []) :
        (Client.clientMachine clientWake).Run Machine.Free after.client
            (clientSide (log ++ news)) ∧
          (Server.serverMachine acceptWindow maxActive serverWake).Run Machine.Free after.server
            (serverSide (log ++ news)) := by
      rw [same.1, same.2.1, same.2.2, List.append_nil]
      exact ends
    cases input with
    | client own =>
      obtain ⟨stepped, step, rest⟩ := Option.bind_eq_some_iff.mp taken
      obtain ⟨wires, -, equal⟩ := Option.map_eq_some_iff.mp rest
      simp only [Prod.mk.injEq] at equal
      obtain ⟨rfl, rfl⟩ := equal
      rw [clientSide_client, serverSide_client]
      exact ⟨ends.1.next trivial step, ends.2⟩
    | server own =>
      obtain ⟨stepped, step, rest⟩ := Option.bind_eq_some_iff.mp taken
      obtain ⟨wires, -, equal⟩ := Option.map_eq_some_iff.mp rest
      simp only [Prod.mk.injEq] at equal
      obtain ⟨rfl, rfl⟩ := equal
      rw [clientSide_server, serverSide_server]
      exact ⟨ends.1, ends.2.next trivial step⟩
    | transmitUp address => exact unmoved (transmitted taken)
    | transmitDown address => exact unmoved (transmitted taken)
    | transmitTrailer address => exact unmoved (transmitted taken)

end Ends

/-! ### One step, seen from one exchange -/

/-- How a call of a client stands in its exchange: a stream as itself, a unary call as the stream
that shadows it. -/
def Stands (client : Client.RClient) (log : List Client.ClientObs) :
    Client.Rpc → Client.StreamView → List Client.StreamObs → Prop
  | .unary home, view, seen => Client.Shadow (Client.unaryLog home log) view seen
  | .stream home, view, seen => view = client.streamView home ∧ seen = Client.streamLog home log

section Steps

variable {reaches : Client.Rpc ≃. Nat} {network : Network} {address : Nat}

/-- A step of the client is some steps of each of its exchanges. -/
theorem stream_advances {after : Client.RClient} {input : Client.ClientInput}
    {log news : List Client.ClientObs} {heard : Nat → Wire} {home : Nat}
    (sound : Client.Sound network.client log) (pair : reaches (.stream home) = some address)
    (truthful : Truthful reaches network (.client input))
    (taken : Client.clientStep network.client input = some (after, news))
    (read : readDown reaches network.wires news input.completed = some heard) :
    (exchangeMachine.startedAt ((network.wires address).exchange
        (network.client.streamView home) (network.server.callView address))).Run Honest
      ((writeUp reaches heard news address).exchange (after.streamView home)
        (network.server.callView address)) ((Client.streamLog home news).map .client) := by
  rw [writeUp_eq pair]
  cases sound.stream_turn taken home with
  | completed op delivery same step =>
    subst same
    exact .single (truthful address pair) (exchange_client step (readDown_self pair read))
  | asked other run =>
    obtain ⟨-, sane⟩ := Client.silent_of_asked run
    have still := readDown_of_ne pair (Client.completed_ne_stream other) read
    rw [still, show Client.Rpc.failed news (.stream home) = false from sane]
    exact exchange_asked run

/-- A step of the client is some steps of the shadow of each of its unary calls. -/
theorem unary_advances {after : Client.RClient} {input : Client.ClientInput}
    {log news : List Client.ClientObs} {heard : Nat → Wire} {home : Nat}
    (sound : Client.Sound network.client log) (waits : Client.Waits network.client log)
    (pair : reaches (.unary home) = some address)
    (truthful : Truthful reaches network (.client input))
    (taken : Client.clientStep network.client input = some (after, news))
    (read : readDown reaches network.wires news input.completed = some heard)
    {view : Client.StreamView} {seen : List Client.StreamObs}
    (shadow : Client.Shadow (Client.unaryLog home log) view seen) :
    ∃ later own, Client.Shadow (Client.unaryLog home (log ++ news)) later (seen ++ own) ∧
      (exchangeMachine.startedAt ((network.wires address).exchange view
          (network.server.callView address))).Run Honest
        ((writeUp reaches heard news address).exchange later (network.server.callView address))
        (own.map .client) := by
  rw [writeUp_eq pair, Client.unaryLog_append]
  have unfailed : Client.Rpc.failed news (.unary home) = false := rfl
  have wrote (shown : List Client.UnaryObs) (same : Client.unaryLog home news = shown) :
      Client.Rpc.written news (.unary home) =
        (Client.requests shown).map grpcByteBufferToString := by
    rw [Client.Rpc.written, same]
  have came (shown : List Client.UnaryObs) (same : Client.unaryLog home news = shown) :
      Client.Rpc.arrived news (.unary home) = Client.responses shown := by
    rw [Client.Rpc.arrived, same]
  cases sound.unary_turn waits taken home with
  | completed delivery call same waited shown =>
    subst same
    obtain ⟨name, context, bytes, waited⟩ := waited
    have read := readDown_self pair read
    rw [came _ shown, Client.responses_unaryEvent] at read
    rw [waited] at shadow ⊢
    rw [unfailed, wrote _ shown, shown]
    rw [show (Client.requests [.pushed (Client.unaryEvent delivery call), .deleted]).map
      grpcByteBufferToString = [] from rfl, Wire.carryUp_nil]
    cases shadow
    by_cases ok : delivery.status.code = 0
    · rw [if_pos ok] at read
      obtain ⟨trailer, responds⟩ := truthful address pair ok
      exact ⟨_, _, .answered name context bytes delivery call ok,
        shadow_ending bytes responds read⟩
    · rw [if_neg ok, Wire.takeDown_nil] at read
      rw [← Option.some.inj read]
      refine ⟨_, [], ?_, .start⟩
      rw [List.append_nil]
      exact .refused name context bytes delivery call ok
  | started name context bytes other fresh shown =>
    rw [fresh] at shadow ⊢
    rw [unfailed, wrote _ shown, shown,
      readDown_of_ne pair (Client.completed_ne_unary other) read,
      show (Client.requests [.posted name context (.ofRaw bytes)]).map grpcByteBufferToString =
        [some bytes] by
          show [grpcByteBufferToString (.ofRaw bytes)] = _
          rw [grpcByteBufferToString_ofRaw]]
    cases shadow
    exact ⟨_, _, .waiting name context bytes, shadow_opening _ _ bytes⟩
  | still other silent =>
    rw [silent, List.append_nil, unfailed, wrote _ silent,
      readDown_of_ne pair (Client.completed_ne_unary other) read]
    refine ⟨view, [], ?_, ?_⟩
    · rw [List.append_nil]
      exact shadow
    · rw [show (Client.requests []).map grpcByteBufferToString = [] from rfl, Wire.carryUp_nil]
      exact .start

/-- A step of the server is some steps of each of its exchanges. -/
theorem call_advances {rpc : Client.Rpc} {after : Server.RServer} {input : Server.ServerInput}
    {log news : List Server.ServerObs} {heard : Nat → Wire}
    (sound : Server.Sound network.server log) (pair : reaches rpc = some address)
    (taken : Server.serverStep network.server input = some (after, news))
    (read : readUp reaches network.wires news input.completed = some heard)
    (view : Client.StreamView) :
    ∃ own, after.history address (log ++ news) = network.server.history address log ++ own ∧
      (exchangeMachine.startedAt ((network.wires address).exchange view
          (network.server.callView address))).Run Honest
        ((writeDown heard news address).exchange view (after.callView address))
        (own.map .server) := by
  obtain ⟨own, turn, adds⟩ := sound.call_turn taken address
  refine ⟨own, adds.history, ?_⟩
  have same : Server.arrived (Server.callLog address news) = Server.arrived own ∧
      Server.failed (Server.callLog address news) = Server.failed own ∧
      Server.carried (Server.callLog address news) = Server.carried own ∧
      Server.trailers (Server.callLog address news) = Server.trailers own := by
    rcases adds.seen with seen | seen <;> rw [seen] <;> exact ⟨rfl, rfl, rfl, rfl⟩
  obtain ⟨came, broke, wrote, ends⟩ := same
  rw [show writeDown heard news address = (heard address).carryDown (Server.failed own)
    ((Server.carried own).map grpcByteBufferToString) (Server.trailers own) by
      rw [writeDown, broke, wrote, ends]]
  cases turn with
  | completed op delivery nextId same step =>
    subst same
    have read := readUp_self pair read
    rw [came] at read
    exact .single (show Honest _ (.link (.server _)) from trivial) (exchange_server step read)
  | asked other run =>
    rw [(Server.silent_of_asked run).2, readUp_of_ne (Server.completed_ne other) read]
    exact exchange_answered run

end Steps

/-! ### Every run of the network -/

/-- A call of the client and the call it reaches, as a run of their exchange. -/
def Exchanged (network : Network) (log : List NetworkObs) (rpc : Client.Rpc) (address : Nat) :
    Prop :=
  ∃ view mirror, Stands network.client (clientSide log) rpc view (clientLog mirror) ∧
    exchangeMachine.Run Honest ((network.wires address).exchange view
      (network.server.callView address)) mirror ∧
    serverLog mirror = network.server.history address (serverSide log)

section Runs

variable {reaches : Client.Rpc ≃. Nat} {clientWake serverWake : WakeHandle}
  {acceptWindow maxActive : Int} {network : Network} {log : List NetworkObs}

/-- A transmission on a wire is one of its exchange. -/
theorem Exchanged.transmits {rpc : Client.Rpc} {address other : Nat} {moved : Option Wire}
    {after : Network} {news : List NetworkObs} (exchanged : Exchanged network log rpc address)
    (taken : transmits network other moved = some (after, news)) (input : ExchangeInput)
    (honest : ∀ exchange, Honest exchange input)
    (step : ∀ wire view, moved = some wire → exchangeStep ((network.wires other).exchange view
      (network.server.callView other)) input =
        some (wire.exchange view (network.server.callView other), [])) :
    Exchanged after (log ++ news) rpc address := by
  obtain ⟨wire, moved, equal⟩ := Option.map_eq_some_iff.mp taken
  simp only [Prod.mk.injEq] at equal
  obtain ⟨rfl, rfl⟩ := equal
  obtain ⟨view, mirror, stands, run, shown⟩ := exchanged
  rw [List.append_nil]
  refine ⟨view, mirror, stands, ?_, shown⟩
  by_cases same : other = address
  · subst same
    have on := run.next (honest _) (step wire view moved)
    rw [List.append_nil] at on
    simp only [Function.update_self]
    exact on
  · simp only [Function.update_of_ne (Ne.symm same)]
    exact run

theorem Exchanged.step {rpc : Client.Rpc} {address : Nat}
    (run : (networkMachine reaches clientWake acceptWindow maxActive serverWake).Run
      (Truthful reaches) network log) (pair : reaches rpc = some address) {input : NetworkInput}
    {after : Network} {news : List NetworkObs} (exchanged : Exchanged network log rpc address)
    (truthful : Truthful reaches network input)
    (taken : networkStep reaches network input = some (after, news)) :
    Exchanged after (log ++ news) rpc address := by
  obtain ⟨client, server⟩ := ends_of_run run
  cases input with
  | client own =>
    obtain ⟨stepped, step, rest⟩ := Option.bind_eq_some_iff.mp taken
    obtain ⟨wires, read, equal⟩ := Option.map_eq_some_iff.mp rest
    simp only [Prod.mk.injEq] at equal
    obtain ⟨rfl, rfl⟩ := equal
    obtain ⟨view, mirror, stands, before, shown⟩ := exchanged
    rw [Exchanged, clientSide_client, serverSide_client]
    cases rpc with
    | unary home =>
      obtain ⟨later, more, shadow, on⟩ := unary_advances (Client.sound_of_run client)
        (Client.waits_of_run client) pair truthful step read stands
      refine ⟨later, _, ?_, before.trans on, ?_⟩
      · rw [clientLog_client]
        exact shadow
      · rw [serverLog_client]
        exact shown
    | stream home =>
      obtain ⟨rfl, seen⟩ := stands
      refine ⟨_, _, ⟨rfl, ?_⟩, before.trans (stream_advances (Client.sound_of_run client) pair
        truthful step read), ?_⟩
      · rw [clientLog_client, seen, Client.streamLog_append]
      · rw [serverLog_client]
        exact shown
  | server own =>
    obtain ⟨stepped, step, rest⟩ := Option.bind_eq_some_iff.mp taken
    obtain ⟨wires, read, equal⟩ := Option.map_eq_some_iff.mp rest
    simp only [Prod.mk.injEq] at equal
    obtain ⟨rfl, rfl⟩ := equal
    obtain ⟨view, mirror, stands, before, shown⟩ := exchanged
    obtain ⟨more, adds, on⟩ := call_advances (Server.sound_of_run server) pair step read view
    rw [Exchanged, clientSide_server, serverSide_server]
    refine ⟨view, _, ?_, before.trans on, ?_⟩
    · rw [clientLog_server]
      exact stands
    · rw [serverLog_server, shown]
      exact adds.symm
  | transmitUp other =>
    refine exchanged.transmits taken (.link .transmitUp) (fun _ => trivial)
      fun wire view moved => ?_
    obtain ⟨upward, sent, rfl⟩ := Option.map_eq_some_iff.mp moved
    show ((_ : Option _).map _).map _ = _
    rw [show ((network.wires other).exchange view (network.server.callView other)).link.upward =
      (network.wires other).upward from rfl, sent]
    exact congrArg some (Prod.ext (congrArg (Exchange.mk _) Channel.offer_nil) rfl)
  | transmitDown other =>
    refine exchanged.transmits taken (.link .transmitDown) (fun _ => trivial)
      fun wire view moved => ?_
    obtain ⟨downward, sent, rfl⟩ := Option.map_eq_some_iff.mp moved
    show ((_ : Option _).map _).map _ = _
    rw [show ((network.wires other).exchange view (network.server.callView other)).link.downward =
      (network.wires other).downward from rfl, sent]
    exact congrArg some (Prod.ext (congrArg (Exchange.mk _) Channel.offer_nil) rfl)
  | transmitTrailer other =>
    refine exchanged.transmits taken .transmitTrailer (fun _ => trivial)
      fun wire view moved => ?_
    rw [Wire.transmitTrailer] at moved
    split at moved
    · rename_i nothing
      obtain ⟨trailers, sent, rfl⟩ := Option.map_eq_some_iff.mp moved
      refine (if_pos nothing).trans ?_
      show Option.map _ (network.wires other).trailers.transmit = _
      rw [sent]
      rfl
    · exact absurd moved (by simp)

end Runs

end Rgrpc
