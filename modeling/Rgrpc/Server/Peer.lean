/-
This file is about the end of a peer's messages. The peer of a call sends
messages and half-closes, or the call ends before it does; R is to read
`client_done` as "that was all of it". The completion loop pushes it whenever a
read comes back without a message on a call it believes alive. A read that fails
because the call is over is reported as a clean end, unless the tags the loop
drained before told it that the call is over.

gRPC is assumed to hand over the messages of a peer in order, each once, and to
return a read without a message only when the peer half-closed and everything it
sent was read, or when the call is over. In which order the tag of such a read
and the done tag come back is left open.
-/

import Rgrpc.Server.Events
import Rgrpc.Server.Learned

namespace Rgrpc.Server

open Library

/-! ### Peers -/

/-- The peer of a call: what it sent, what of it was not read yet, whether it half-closed, and
whether the call is over: the peer cancelled it, its deadline expired, the connection was lost, or
the server ended it. -/
structure Peer where
  sent : List ByteBuffer := []
  unread : List ByteBuffer := []
  halfClosed : Bool := false
  callOver : Bool := false
  deriving DecidableEq, Repr

/-- What can happen at the peer's end of a call. -/
inductive PeerAct
  | send (message : ByteBuffer)
  | halfClose
  | endCall
  deriving DecidableEq, Repr

/-- A peer sends nothing more once it half-closed or the call is over. -/
def Peer.act (peer : Peer) : PeerAct → Option Peer
  | .send message =>
    if peer.halfClosed || peer.callOver then none
    else some { peer with sent := peer.sent ++ [message], unread := peer.unread ++ [message] }
  | .halfClose => if peer.callOver then none else some { peer with halfClosed := true }
  | .endCall => some { peer with callOver := true }

/-- A peer half-closed, and everything it sent was read. -/
def Peer.exhausted (peer : Peer) : Bool := peer.halfClosed && peer.unread.isEmpty

/-- A read of the server completes with the next message of the peer; or without one, when the peer
is exhausted or the call is over. -/
def Peer.read (peer : Peer) (delivery : Delivery) : Option Peer :=
  if delivery.ok then
    match peer.unread with
    | [] => none
    | message :: rest =>
      if delivery.message = message then some { peer with unread := rest } else none
  else if peer.exhausted || peer.callOver then some peer
  else none

/-- A server with the peers of its calls, and what was observed of it so far. -/
structure Served where
  server : RServer
  peers : Nat → Peer
  seen : List ServerObs

/-- What can happen to a server and its peers. -/
inductive ServedInput
  | server (input : ServerInput)
  | peer (address : Nat) (act : PeerAct)
  deriving DecidableEq, Repr

/-- What a step of the server takes from the peers. -/
def readFrom (peers : Nat → Peer) : ServerInput → Option (Nat → Peer)
  | .returned address .read delivery =>
    ((peers address).read delivery).map (Function.update peers address)
  | _ => some peers

/-- The step of a server and its peers. -/
def servedStep (served : Served) : ServedInput → Option (Served × List ServerObs)
  | .server input =>
    (readFrom served.peers input).bind fun peers =>
      (serverStep served.server input).map fun result =>
        (⟨result.1, peers, served.seen ++ result.2⟩, result.2)
  | .peer address act =>
    ((served.peers address).act act).map fun peer =>
      ({ served with peers := Function.update served.peers address peer }, [])

/-- A server with the given bounds and the peers of its calls. -/
def servedMachine (acceptWindow maxActive : Int) (wake : WakeHandle) :
    Machine Served ServedInput ServerObs where
  start := ⟨(serverMachine acceptWindow maxActive wake).start, fun _ => {},
    (serverMachine acceptWindow maxActive wake).opening⟩
  opening := (serverMachine acceptWindow maxActive wake).opening
  step := servedStep

section Steps

variable {served after : Served} {news : List ServerObs}

/-- What a step of a server and its peers can be. -/
theorem servedStep_cases {input : ServedInput}
    (taken : servedStep served input = some (after, news)) :
    (∃ own, input = .server own ∧ readFrom served.peers own = some after.peers ∧
        serverStep served.server own = some (after.server, news) ∧
        after.seen = served.seen ++ news) ∨
      ∃ address act peer, input = .peer address act ∧ (served.peers address).act act = some peer ∧
        news = [] ∧ after = { served with peers := Function.update served.peers address peer } := by
  cases input with
  | server own =>
    obtain ⟨peers, read, rest⟩ := Option.bind_eq_some_iff.mp taken
    obtain ⟨result, step, equal⟩ := Option.map_eq_some_iff.mp rest
    rw [Prod.mk.injEq] at equal
    obtain ⟨rfl, rfl⟩ := equal
    exact Or.inl ⟨own, rfl, read, step, rfl⟩
  | peer address act =>
    obtain ⟨peer, acted, equal⟩ := Option.map_eq_some_iff.mp taken
    rw [Prod.mk.injEq] at equal
    exact Or.inr ⟨address, act, peer, rfl, acted, equal.2.symm, equal.1.symm⟩

/-- The server of a run with peers is in a run of its own. -/
theorem serverRun_of_run {acceptWindow maxActive : Int} {wake : WakeHandle} {log : List ServerObs}
    {allowed : Served → ServedInput → Prop}
    (run : (servedMachine acceptWindow maxActive wake).Run allowed served log) :
    (serverMachine acceptWindow maxActive wake).Run Machine.Free served.server log := by
  induction run with
  | start => exact .start
  | next _ _ taken inductionHypothesis =>
    rcases servedStep_cases taken with
      ⟨own, -, -, step, -⟩ | ⟨address, act, peer, -, -, rfl, rfl⟩
    · exact inductionHypothesis.next trivial step
    · rw [List.append_nil]
      exact inductionHypothesis

/-- What was seen of the server is its log. -/
theorem seen_of_run {acceptWindow maxActive : Int} {wake : WakeHandle} {log : List ServerObs}
    {allowed : Served → ServedInput → Prop}
    (run : (servedMachine acceptWindow maxActive wake).Run allowed served log) :
    served.seen = log := by
  induction run with
  | start => rfl
  | next _ _ taken inductionHypothesis =>
    rcases servedStep_cases taken with
      ⟨own, -, -, -, seen⟩ | ⟨address, act, peer, -, -, rfl, rfl⟩
    · rw [seen, inductionHypothesis]
    · rw [List.append_nil]
      exact inductionHypothesis

end Steps

/-! ### What R hears of one peer -/

/-- The bytes R is given of a message. -/
def payload (message : ByteBuffer) : Bytes := (grpcByteBufferToString message).getD []

/-- A call against its peer: what arrived and what was not read yet is what was sent, in order, and
an end of input that was reported is one: the peer half-closed, and R was handed all it sent. -/
structure Hearing (peer : Peer) (log : List CallObs) : Prop where
  inOrder : arrived log ++ peer.unread.map grpcByteBufferToString =
    peer.sent.map grpcByteBufferToString
  ended : .clientDone ∈ kinds log → peer.halfClosed = true ∧ peer.unread = [] ∧
    messages log = peer.sent.map payload

section Hearing

variable {peer : Peer} {log obs : List CallObs}

/-- What is not about messages. -/
theorem Hearing.note (hearing : Hearing peer log) (silent : messages obs = [])
    (unread : arrived obs = []) (untold : .clientDone ∉ kinds obs) :
    Hearing peer (log ++ obs) := by
  refine ⟨?_, ?_⟩
  · rw [arrived_append, unread, List.append_nil]
    exact hearing.inOrder
  · rw [kinds_append, messages_append, silent, List.append_nil]
    exact fun told => hearing.ended ((List.mem_append.mp told).resolve_right untold)

/-- A message is read. -/
theorem Hearing.take (hearing : Hearing peer log) {message : ByteBuffer} {rest : List ByteBuffer}
    (next : peer.unread = message :: rest)
    (read : arrived obs = [grpcByteBufferToString message]) (untold : .clientDone ∉ kinds obs) :
    Hearing { peer with unread := rest } (log ++ obs) := by
  refine ⟨?_, ?_⟩
  · rw [arrived_append, read, List.append_assoc]
    have inOrder := hearing.inOrder
    rw [next, List.map_cons] at inOrder
    exact inOrder
  · rw [kinds_append]
    intro told
    have empty := (hearing.ended ((List.mem_append.mp told).resolve_right untold)).2.1
    exact absurd (next.symm.trans empty) (by simp)

theorem map_payload (messages : List ByteBuffer) :
    messages.map payload =
      (messages.map grpcByteBufferToString).map fun payload => payload.getD [] := by
  rw [List.map_map]
  rfl

/-- The end of the input is reported after a peer half-closed and everything was read. -/
theorem Hearing.close (hearing : Hearing peer log) (silent : messages obs = [])
    (unread : arrived obs = []) (closed : peer.halfClosed = true) (drained : peer.unread = [])
    (inbound : messages log = (arrived log).map fun payload => payload.getD []) :
    Hearing peer (log ++ obs) := by
  refine ⟨?_, fun _ => ⟨closed, drained, ?_⟩⟩
  · rw [arrived_append, unread, List.append_nil]
    exact hearing.inOrder
  · have inOrder := hearing.inOrder
    rw [drained, List.map_nil, List.append_nil] at inOrder
    rw [messages_append, silent, List.append_nil, inbound, inOrder, map_payload]

/-- Once everything a peer sent was handed to R, everything was read. -/
theorem Hearing.drained (hearing : Hearing peer log)
    (inbound : messages log = (arrived log).map fun payload => payload.getD [])
    (everything : messages log = peer.sent.map payload) : peer.unread = [] := by
  rw [inbound, map_payload, ← hearing.inOrder, List.map_append, List.self_eq_append_right,
    List.map_eq_nil_iff, List.map_eq_nil_iff] at everything
  exact everything

/-- A peer that half-closed sends nothing more. -/
theorem Hearing.act (hearing : Hearing peer log) {act : PeerAct} {after : Peer}
    (acted : peer.act act = some after) : Hearing after log := by
  cases act with
  | send message =>
    rw [Peer.act] at acted
    split at acted
    · exact absurd acted (by simp)
    · rename_i open_
      simp only [Bool.or_eq_true, not_or, Bool.not_eq_true] at open_
      obtain rfl := Option.some.inj acted
      refine ⟨?_, fun told => ?_⟩
      · rw [List.map_append, List.map_append, ← List.append_assoc, hearing.inOrder]
      · exact absurd (open_.1.symm.trans (hearing.ended told).1) Bool.false_ne_true
  | halfClose =>
    rw [Peer.act] at acted
    split at acted
    · exact absurd acted (by simp)
    · obtain rfl := Option.some.inj acted
      exact ⟨hearing.inOrder, fun told => ⟨rfl, (hearing.ended told).2⟩⟩
  | endCall =>
    obtain rfl := Option.some.inj acted
    exact ⟨hearing.inOrder, hearing.ended⟩

end Hearing

/-- An end of input is reported by a read without a message on a live call R was handed. -/
theorem clientDone_mem_handleTag_iff (shutting : Bool) (nextId : Nat) (op : SvOp)
    (delivery : Delivery) (call : SvCall) (tags : List SvOp) :
    .clientDone ∈ kinds (handleTag shutting nextId op delivery call tags).2 ↔
      op = .read ∧ delivery.ok = false ∧ call.delivered = true ∧ call.dead = false := by
  rw [kinds, (log_handleTag _ _ _ _ _ _).1]
  cases op with
  | accept =>
    unfold runCall runAccept
    simp only
    split_ifs <;> simp [pushedEvents]
  | read =>
    unfold runCall runRead
    simp only
    cases delivery.ok <;> cases call.dead <;> cases call.delivered <;>
      simp [pushedEvents, requestEvent, streamMsgEvent]
  | write =>
    unfold runCall runWrite
    simp only
    split
    · rw [pushedEvents_append, (silent_pumpLocked _ _).1]
      split <;> simp [pushedEvents]
    · simp [pushedEvents]
  | done =>
    unfold runCall runDone
    simp only
    split <;> simp [pushedEvents]
  | finish => simp [runCall, pushedEvents]

/-! ### Runs of a server and its peers -/

section Reading

variable {peers after : Nat → Peer} {address : Nat} {op : SvOp} {delivery : Delivery}

/-- Only the call whose tag came back takes something from its peer. -/
theorem readFrom_of_ne {other : Nat} (different : address ≠ other)
    (read : readFrom peers (.returned address op delivery) = some after) :
    after other = peers other := by
  cases op with
  | read =>
    obtain ⟨peer, -, rfl⟩ := Option.map_eq_some_iff.mp read
    exact Function.update_of_ne (Ne.symm different) _ _
  | _ =>
    obtain rfl := Option.some.inj read
    rfl

theorem readFrom_self
    (read : readFrom peers (.returned address .read delivery) = some after) :
    (peers address).read delivery = some (after address) := by
  obtain ⟨peer, taken, rfl⟩ := Option.map_eq_some_iff.mp read
  rw [taken, Function.update_self]

theorem readFrom_of_op_ne (other : op ≠ .read)
    (read : readFrom peers (.returned address op delivery) = some after) : after = peers := by
  cases op with
  | read => exact absurd rfl other
  | _ => exact (Option.some.inj read).symm

theorem readFrom_of_not_returned {input : ServerInput}
    (other : ∀ address op delivery, input ≠ .returned address op delivery)
    (read : readFrom peers input = some after) : after = peers := by
  cases input with
  | returned address op delivery => exact absurd rfl (other address op delivery)
  | _ => exact (Option.some.inj read).symm

/-- A read either takes the next message of the peer, or nothing from a peer that is exhausted or
whose call is over. -/
theorem Peer.read_cases {peer left : Peer} (read : peer.read delivery = some left) :
    delivery.ok = true ∧ (∃ rest, peer.unread = delivery.message :: rest ∧
        left = { peer with unread := rest }) ∨
      delivery.ok = false ∧ left = peer ∧ (peer.exhausted = true ∨ peer.callOver = true) := by
  rw [Peer.read] at read
  split at read
  · rename_i ok
    split at read
    · exact absurd read (by simp)
    · rename_i message rest unread
      split at read
      · rename_i same
        rw [same]
        exact Or.inl ⟨ok, rest, unread, (Option.some.inj read).symm⟩
      · exact absurd read (by simp)
  · rename_i failed
    rw [Bool.not_eq_true] at failed
    split at read
    · rename_i finished
      rw [Bool.or_eq_true] at finished
      exact Or.inr ⟨failed, (Option.some.inj read).symm, finished⟩
    · exact absurd read (by simp)

end Reading

/-- The steps that report no end that is not one: a read that comes back without a message from a
call R was handed, while its peer is not exhausted, comes back after the tags drained before told
the completion loop that the call is over. -/
def learnsInTime (served : Served) : ServedInput → Bool
  | .server (.returned address .read delivery) =>
    delivery.ok || (served.peers address).exhausted ||
      (requests (callLog address served.seen)).isEmpty || learned (callLog address served.seen)
  | _ => true

/-- The completion loop believes a call that R was handed alive exactly when it was not told that
the call is over. -/
theorem Sound.believed {served : Served} {log : List ServerObs} (sound : Sound served.server log)
    (seen : served.seen = log) (unlocked : served.server.muHeld = false) {address : Nat}
    {call : SvCall} (object : (served.server.arena.cell address).object = some call) :
    ((requests (callLog address served.seen)).isEmpty ||
        learned (callLog address served.seen)) = !(call.delivered && !call.dead) := by
  have own := sound.calls address (Arena.lt_size_of_object object)
  rw [seen, (handed_of_run own object).isEmpty_requests, learned_of_run own unlocked object]
  cases call.delivered <;> cases call.dead <;> rfl

/-- The return of a tag, as its peer sees it. -/
theorem Hearing.returned {served : Served} {peers : Nat → Peer} {log : List ServerObs}
    {address : Nat} (hearing : Hearing (served.peers address) (callLog address log))
    (sound : Sound served.server log) (seen : served.seen = log)
    (unlocked : served.server.muHeld = false) {op : SvOp} {delivery : Delivery} {call : SvCall}
    (object : (served.server.arena.cell address).object = some call)
    (read : readFrom served.peers (.returned address op delivery) = some peers)
    (learns : learnsInTime served (.server (.returned address op delivery)) = true) :
    Hearing (peers address) (callLog address log ++
      (handleTag served.server.shutting served.server.nextId op delivery call
        (served.server.arena.cell address).tags).2) := by
  obtain ⟨handed, came, -⟩ := flow_handleTag served.server.shutting served.server.nextId op
    delivery call (served.server.arena.cell address).tags
  have told := clientDone_mem_handleTag_iff served.server.shutting served.server.nextId op
    delivery call (served.server.arena.cell address).tags
  by_cases reading : op = .read
  · subst reading
    rcases Peer.read_cases (readFrom_self read) with
      ⟨ok, rest, unread, same⟩ | ⟨failed, same, -⟩
    · rw [same]
      refine hearing.take unread (by rw [came, ok]; rfl) fun absurdity => ?_
      exact absurd (ok.symm.trans (told.mp absurdity).2.1) (by simp)
    · rw [failed] at handed came
      rw [same]
      by_cases alive : call.delivered = true ∧ call.dead = false
      · have believed := sound.believed seen unlocked object
        rw [alive.1, alive.2, Bool.not_false, Bool.and_self, Bool.not_true] at believed
        rw [learnsInTime, Bool.or_assoc, believed, failed, Bool.false_or, Bool.or_false,
          Peer.exhausted, Bool.and_eq_true, List.isEmpty_iff] at learns
        have flow := flow_of_run (sound.calls address (Arena.lt_size_of_object object))
        exact hearing.close handed came learns.1 learns.2 (flow.inbound call object alive.2)
      · exact hearing.note handed came fun reported => alive (told.mp reported).2.2
  · rw [beq_eq_false_iff_ne.mpr reading] at handed came
    rw [readFrom_of_op_ne reading read]
    exact hearing.note handed came fun reported => reading (told.mp reported).1

/-- As long as the completion loop learns in time that calls are over, R hears the ends that are. -/
theorem hearing_of_run {acceptWindow maxActive : Int} {wake : WakeHandle} {served : Served}
    {log : List ServerObs}
    (run : (servedMachine acceptWindow maxActive wake).Run
      (fun served input => learnsInTime served input = true) served log) (address : Nat) :
    Hearing (served.peers address) (callLog address log) := by
  induction run with
  | start =>
    obtain ⟨count, created, -⟩ := postAcceptsLocked_eq { acceptWindow, maxActive, wake }
    show Hearing {} (callLog address (createServer acceptWindow maxActive wake).2)
    rw [createServer, created, callLog_withSlots]
    split
    · exact ⟨rfl, fun told => absurd told List.not_mem_nil⟩
    · exact ⟨rfl, fun told => absurd told List.not_mem_nil⟩
  | @next state after log news input before learns taken inductionHypothesis =>
    have sound := sound_of_run (serverRun_of_run before)
    rcases servedStep_cases taken with
      ⟨own, rfl, read, step, -⟩ | ⟨other, act, peer, rfl, acted, rfl, rfl⟩
    · rw [callLog_append]
      rcases sound.step_cases step with
        ⟨other, op, delivery, call, rfl, unlocked, outstanding, object, equal⟩ |
        ⟨id, request, other, call, rfl, opened, unlocked, found, object, stepped, rfl⟩ |
        ⟨different, quiet⟩ | ⟨rfl, opened, unlocked, rfl, -⟩ | ⟨rfl, joining, idle, rfl, -⟩
      · by_cases same : other = address
        · subst same
          have logged := callLog_handle_self op delivery object
          rw [equal] at logged
          rw [logged]
          exact inductionHypothesis.returned sound (seen_of_run before) unlocked object read learns
        · have logged := callLog_handle_of_ne state.server op delivery call same
          rw [equal] at logged
          rw [readFrom_of_ne same read]
          rcases logged with nothing | slot
          · rw [nothing]
            exact inductionHypothesis.note rfl rfl List.not_mem_nil
          · rw [slot]
            exact inductionHypothesis.note rfl rfl List.not_mem_nil
      · rw [readFrom_of_not_returned (by simp) read, callLog_answered]
        split
        · have passes := passes_answer state.server.shutting request call
          refine inductionHypothesis.note passes.messages passes.arrived ?_
          rw [kinds_eq_nil (pushedEvents_answer _ _ _)]
          exact List.not_mem_nil
        · exact inductionHypothesis.note rfl rfl List.not_mem_nil
      · rw [readFrom_of_not_returned different read, quiet.silent]
        exact inductionHypothesis.note rfl rfl List.not_mem_nil
      · rw [readFrom_of_not_returned (by simp) read]
        exact inductionHypothesis.note rfl rfl List.not_mem_nil
      · rw [readFrom_of_not_returned (by simp) read]
        exact inductionHypothesis.note rfl rfl List.not_mem_nil
    · rw [List.append_nil]
      by_cases same : other = address
      · subst same
        show Hearing (Function.update state.peers other peer other) _
        rw [Function.update_self]
        exact inductionHypothesis.act acted
      · show Hearing (Function.update state.peers other peer address) _
        rw [Function.update_of_ne (Ne.symm same)]
        exact inductionHypothesis

/-! ### Clean ends -/

/-- An end of input is reported only for a peer that half-closed, after every message it sent was
handed to R. A peer whose call was over before it half-closed is never reported to have ended. -/
def CleanEnds (served : Served) (log : List ServerObs) : Prop :=
  ∀ address, .clientDone ∈ kinds (callLog address log) →
    (served.peers address).halfClosed = true ∧
      messages (callLog address log) = (served.peers address).sent.map payload

/-- A read that fails because the call is over, before the completion loop was told so, is reported
as an end of input. -/
theorem not_cleanEnds_of_step {served after : Served} {log news : List ServerObs}
    {input : ServedInput} (sound : Sound served.server log) (seen : served.seen = log)
    (hearing : ∀ address, Hearing (served.peers address) (callLog address log))
    (taken : servedStep served input = some (after, news))
    (late : learnsInTime served input = false) :
    (∃ address delivery, input = .server (.returned address .read delivery) ∧
        delivery.ok = false ∧ (served.peers address).callOver = true) ∧
      ¬ CleanEnds after (log ++ news) := by
  rcases servedStep_cases taken with ⟨own, rfl, read, step, -⟩ | ⟨address, act, peer, rfl, -⟩
  · rcases sound.step_cases step with
      ⟨address, op, delivery, call, rfl, unlocked, outstanding, object, equal⟩ |
      ⟨id, request, address, call, rfl, -⟩ | ⟨other, -⟩ | ⟨rfl, -⟩ | ⟨rfl, -⟩
    · by_cases reading : op = .read
      · subst reading
        have believed := sound.believed seen unlocked object
        rw [learnsInTime, Bool.or_assoc, believed, Bool.or_eq_false_iff, Bool.or_eq_false_iff,
          Bool.not_eq_false', Bool.and_eq_true, Bool.not_eq_true'] at late
        obtain ⟨⟨failed, unended⟩, delivered, alive⟩ := late
        rcases Peer.read_cases (readFrom_self read) with ⟨ok, -⟩ | ⟨-, same, finished⟩
        · exact absurd (failed.symm.trans ok) Bool.false_ne_true
        · have dropped := finished.resolve_left (by rw [unended]; exact Bool.false_ne_true)
          refine ⟨⟨address, delivery, rfl, failed, dropped⟩, ?_⟩
          have logged := callLog_handle_self .read delivery object
          rw [equal] at logged
          have told := (clientDone_mem_handleTag_iff served.server.shutting served.server.nextId
            .read delivery call (served.server.arena.cell address).tags).mpr
            ⟨rfl, failed, delivered, alive⟩
          obtain ⟨handed, -⟩ := flow_handleTag served.server.shutting served.server.nextId .read
            delivery call (served.server.arena.cell address).tags
          rw [failed] at handed
          have flow := flow_of_run (sound.calls address (Arena.lt_size_of_object object))
          intro clean
          obtain ⟨closed, everything⟩ := clean address (by
            rw [callLog_append, logged, kinds_append]
            exact List.mem_append_right _ told)
          rw [callLog_append, logged, messages_append, handed, Bool.false_and, Bool.and_false,
            if_neg Bool.false_ne_true, List.append_nil, same] at everything
          rw [same] at closed
          have drained := (hearing address).drained (flow.inbound call object alive) everything
          rw [Peer.exhausted, closed, drained] at unended
          exact absurd unended (by simp)
      · cases op with
        | read => exact absurd rfl reading
        | _ => exact absurd late (by simp [learnsInTime])
    · exact absurd late (by simp [learnsInTime])
    · cases own with
      | returned address op delivery => exact absurd rfl (other address op delivery)
      | _ => exact absurd late (by simp [learnsInTime])
    · exact absurd late (by simp [learnsInTime])
    · exact absurd late (by simp [learnsInTime])
  · exact absurd late (by simp [learnsInTime])

/-- In every run of a server and its peers in which the completion loop learns in time that calls
are over, every end of input R was told of is one: the peer half-closed, and R was handed everything
it sent. A step after such a run that breaks the condition is a read that fails because the call is
over, and reports a false end. -/
theorem ends_clean (acceptWindow maxActive : Int) (wake : WakeHandle) (served : Served)
    (log : List ServerObs)
    (run : (servedMachine acceptWindow maxActive wake).Run
      (fun served input => learnsInTime served input = true) served log) :
    CleanEnds served log ∧
      ∀ input after news, servedStep served input = some (after, news) →
        learnsInTime served input = false →
        (∃ address delivery, input = .server (.returned address .read delivery) ∧
            delivery.ok = false ∧ (served.peers address).callOver = true) ∧
          ¬ CleanEnds after (log ++ news) := by
  have sound := sound_of_run (serverRun_of_run run)
  have hearing := hearing_of_run run
  refine ⟨fun address told => ?_,
    fun input after news taken late =>
      not_cleanEnds_of_step sound (seen_of_run run) hearing taken late⟩
  obtain ⟨closed, -, everything⟩ := (hearing address).ended told
  exact ⟨closed, everything⟩

/-- A peer sends two messages and half-closes; R reads to the end. -/
def uploadInputs : List ServedInput :=
  [.server (.returned 0 .accept { ok := true }),
    .peer 0 (.send (.ofRaw [1])),
    .server (.returned 0 .read { ok := true, message := .ofRaw [1] }),
    .server (.request 1 .read),
    .peer 0 (.send (.ofRaw [2])),
    .peer 0 .halfClose,
    .server (.returned 0 .read { ok := true, message := .ofRaw [2] }),
    .server (.request 1 .read),
    .server (.returned 0 .read { ok := false })]

theorem ends_clean_upload : ∃ served log,
    (servedMachine 1 2 ⟨16, 0⟩).Run
      (fun served input => learnsInTime served input = true) served log ∧
      kinds (callLog 0 log) = [.request, .streamMsg, .clientDone] ∧ CleanEnds served log := by
  have run := Machine.run_of_exec (show (servedMachine 1 2 ⟨16, 0⟩).exec
    (fun served input => learnsInTime served input = true)
    (servedMachine 1 2 ⟨16, 0⟩).start uploadInputs = some _ from rfl)
  exact ⟨_, _, run, by decide, (ends_clean 1 2 ⟨16, 0⟩ _ _ run).1⟩

/-- A peer cancels while R waits for its next message, and the done tag comes back before the read:
R is told of the cancellation alone. -/
example : ∃ served log,
    (servedMachine 1 2 ⟨16, 0⟩).Run
      (fun served input => learnsInTime served input = true) served log ∧
      kinds (callLog 0 log) = [.request, .cancelled] := by
  have run := Machine.run_of_exec (show (servedMachine 1 2 ⟨16, 0⟩).exec
    (fun served input => learnsInTime served input = true)
    (servedMachine 1 2 ⟨16, 0⟩).start
    [.server (.returned 0 .accept { ok := true }),
      .peer 0 (.send (.ofRaw [1])),
      .server (.returned 0 .read { ok := true, message := .ofRaw [1] }),
      .server (.request 1 .read),
      .peer 0 .endCall,
      .server (.returned 0 .done { ok := true }),
      .server (.returned 0 .read { ok := false })] = some _ from rfl)
  exact ⟨_, _, run, by decide⟩

/-- A peer sends one message and cancels the call while R waits for the next; the read fails before
the completion loop sees the done tag. -/
def truncatedUploadInputs : List ServedInput :=
  [.server (.returned 0 .accept { ok := true }),
    .peer 0 (.send (.ofRaw [1])),
    .server (.returned 0 .read { ok := true, message := .ofRaw [1] }),
    .server (.request 1 .read),
    .peer 0 .endCall,
    .server (.returned 0 .read { ok := false }),
    .server (.returned 0 .done { ok := true })]

/-- A peer that cancelled without half-closing is reported to have ended its input. -/
theorem cleanEnds_fails_truncated : ∃ served log,
    (servedMachine 1 2 ⟨16, 0⟩).Run Machine.Free served log ∧
      (served.peers 0).callOver = true ∧ (served.peers 0).halfClosed = false ∧
      kinds (callLog 0 log) = [.request, .clientDone, .cancelled] ∧ ¬ CleanEnds served log := by
  have run := Machine.run_of_exec (show (servedMachine 1 2 ⟨16, 0⟩).exec Machine.Free
    (servedMachine 1 2 ⟨16, 0⟩).start truncatedUploadInputs = some _ from rfl)
  refine ⟨_, _, run, by decide, by decide, by decide, fun clean => ?_⟩
  exact absurd (clean 0 (by decide)).1 (by decide)

end Rgrpc.Server
