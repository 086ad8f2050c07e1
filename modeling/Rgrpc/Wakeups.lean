/-
This file joins the two ends of a refused send. On a client and on a server a
sender that is told `FALSE` because the write queue is full goes on when a
`stream_writable` event comes; nothing else tells it when. So the event has to
come, or something has to have ended the call.
-/

import Rgrpc.Server.Waiting
import Rgrpc.Client.Waiting

namespace Rgrpc

open Library Server Client

/-- However sends and completions interleave, a send refused because the write queue was full is
followed by a wake-up. In every state of every continuation, on a server and on a client: the
`stream_writable` event was pushed, the call died or broke or was answered, the object is shutting
down, or the queue is not empty and an operation is outstanding that leads to the event. -/
theorem refused_send_woken :
    (∀ (acceptWindow maxActive : Int) (wake : WakeHandle) (server : RServer)
        (log : List ServerObs),
      (serverMachine acceptWindow maxActive wake).Run Machine.Free server log →
      ∀ (id address : Nat) (bytes : Bytes) (call : SvCall) (refused : RServer)
        (news : List ServerObs), Server.SendFull server id address call →
      serverStep server (.request id (.send bytes)) = some (refused, news) →
      ServerObs.result id (.send bytes) (.ok false) ∈ news →
      ∀ (after : RServer) (more : List ServerObs),
        ((serverMachine acceptWindow maxActive wake).startedAt refused).Run Machine.Free after
          more → Server.SendSequel id address more after) ∧
    ∀ (wake : WakeHandle) (client : RClient) (log : List ClientObs),
      (clientMachine wake).Run Machine.Free client log →
      ∀ (id address : Nat) (bytes : Bytes) (stream : StreamState) (refused : RClient)
        (news : List ClientObs), Client.SendFull client id address stream →
      clientStep client (.request id (.send bytes)) = some (refused, news) →
      ClientObs.result id (.send bytes) (.ok false) ∈ news →
      ∀ (after : RClient) (more : List ClientObs),
        ((clientMachine wake).startedAt refused).Run Machine.Free after more →
          Client.SendSequel id address more after :=
  ⟨fun _ _ _ _ _ run _ _ _ _ _ _ full taken told _ _ on =>
    Server.sendSequel_of_run run full taken told on,
    fun _ _ _ run _ _ _ _ _ _ full taken told _ _ on =>
      Client.sendSequel_of_run run full taken told on⟩

/-- A server with one call in hand, a message of it on its way and the queue behind it. -/
def sendingServer (queue : List ByteBuffer) : RServer where
  wake := ⟨16, 1⟩
  acceptWindow := 1
  maxActive := 2
  arena := ⟨[⟨some {
      id := 1, request := .ofRaw [1], pending := 2, delivered := true, writeInflight := true
      writeQueue := .ofRaw [2] :: queue }, [.done, .write]⟩, slotCell]⟩
  active := (∅ : AList fun _ : Nat => Nat).insert 1 0
  ready := [{ type := .request, id := 1, request := [1] }]
  acceptsOutstanding := 1
  nextId := 2

/-- A send on such a server is queued as long as there is room. -/
theorem step_sent (queue : List ByteBuffer) (room : queue.length + 1 < 16) :
    serverStep (sendingServer queue) (.request 1 (.send [2])) =
      some (sendingServer (queue ++ [.ofRaw [2]]),
        [.call 0 (.accepted (.send [2])), .result 1 (.send [2]) (.ok true)]) := by
  have answered : (RCall.send [2]).answer false
      { id := 1, request := .ofRaw [1], pending := 2, delivered := true, writeInflight := true
        writeQueue := .ofRaw [2] :: queue } =
      ⟨{ id := 1, request := .ofRaw [1], pending := 2, delivered := true, writeInflight := true
         writeQueue := .ofRaw [2] :: (queue ++ [.ofRaw [2]]) },
        [.accepted (.send [2])], .ok true⟩ := by
    show (if 16 ≤ queue.length + 1 then _ else _ : Server.Answer) = _
    rw [if_neg (Nat.not_le.mpr room)]
    rfl
  obtain ⟨address, found, -, asked⟩ := request_of_callWith
    (show (sendingServer queue).closed = false from rfl) rfl
    (show (RCall.send [2]).validate = .ok () from rfl)
    (show (sendingServer queue).callWith 1 = some _ from rfl)
  obtain rfl : 0 = address := Option.some.inj found
  refine Eq.trans (asked : serverStep (sendingServer queue) (.request 1 (.send [2])) = _) ?_
  rw [show (sendingServer queue).shutting = false from rfl, answered]
  rfl

/-- A handler sends until its queue is full. -/
theorem sendingServer_of_run {count : Nat} (fits : count ≤ 15) :
    ∃ log, (serverMachine 1 2 ⟨16, 0⟩).Run Machine.Free
      (sendingServer (.replicate count (.ofRaw [2]))) log := by
  induction count with
  | zero =>
    exact ⟨_, Machine.run_of_exec (show (serverMachine 1 2 ⟨16, 0⟩).exec Machine.Free
      (serverMachine 1 2 ⟨16, 0⟩).start [.returned 0 .accept { ok := true },
        .returned 0 .read { ok := true, message := .ofRaw [1] }, .request 1 (.send [2])] =
      some (sendingServer [], _) from rfl)⟩
  | succ count inductionHypothesis =>
    obtain ⟨log, run⟩ := inductionHypothesis (Nat.le_of_lt fits)
    have sent := step_sent (.replicate count (.ofRaw [2]))
      (by rw [List.length_replicate]; omega)
    rw [← List.replicate_succ'] at sent
    exact ⟨_, run.next trivial (show (serverMachine 1 2 ⟨16, 0⟩).step _ (.request 1 (.send [2])) =
      some (_, _) from sent)⟩

/-- A sender that fills a buffer of one message before its call has started. -/
def eagerInputs : List ClientInput :=
  [.streamStart (.text [47]) {} 0 16 1,
    .request 1 (.send [1])]

/-- On the server a Write of the full queue came back, with fifteen to go; on the client the call
started and its only message was written. -/
theorem refused_send_woken_both : ∃ server serverLog client clientLog,
    (serverMachine 1 2 ⟨16, 0⟩).Run Machine.Free server serverLog ∧
      (clientMachine ⟨16, 0⟩).Run Machine.Free client clientLog ∧
      (∃ after more, ((serverMachine 1 2 ⟨16, 0⟩).startedAt server).Run Machine.Free after more ∧
        Server.eventsOf 1 more = [] ∧ Server.SendSequel 1 0 more after) ∧
      ∃ after more, ((clientMachine ⟨16, 0⟩).startedAt client).Run Machine.Free after more ∧
        Client.queued more = [{ kind := .writable, id := 1 }] ∧
        Client.SendSequel 1 0 more after := by
  obtain ⟨serverLog, serverRun⟩ := sendingServer_of_run (Nat.le_refl 15)
  have clientRun := Machine.run_of_exec (show (clientMachine ⟨16, 0⟩).exec Machine.Free
    (clientMachine ⟨16, 0⟩).start eagerInputs = some _ from rfl)
  refine ⟨_, _, _, _, serverRun, clientRun,
    ⟨_, _, .next .start trivial (show ((serverMachine 1 2 ⟨16, 0⟩).startedAt _).step _
      (.returned 0 .write { ok := true }) = some _ from rfl), by decide, ?server⟩,
    ⟨_, _, .next (.next .start trivial (show ((clientMachine ⟨16, 0⟩).startedAt _).step _
      (.returned 0 .start { ok := true }) = some _ from rfl)) trivial
      (show ((clientMachine ⟨16, 0⟩).startedAt _).step _
        (.returned 0 .write { ok := true }) = some _ from rfl), by decide, ?client⟩⟩
  case server =>
    exact refused_send_woken.1 1 2 ⟨16, 0⟩ _ _ serverRun 1 0 [3] _ _ _
      ⟨rfl, rfl, rfl, by decide⟩
      (show serverStep _ (.request 1 (.send [3])) = some _ from rfl) List.mem_cons_self _ _
      (.next .start trivial (show ((serverMachine 1 2 ⟨16, 0⟩).startedAt _).step _
        (.returned 0 .write { ok := true }) = some _ from rfl))
  case client =>
    exact refused_send_woken.2 ⟨16, 0⟩ _ _ clientRun 1 0 [3] _ _ _
      ⟨rfl, rfl, rfl, rfl, rfl, by decide, by decide⟩
      (show clientStep _ (.request 1 (.send [3])) = some _ from rfl) List.mem_cons_self _ _
      (.next (.next .start trivial (show ((clientMachine ⟨16, 0⟩).startedAt _).step _
        (.returned 0 .start { ok := true }) = some _ from rfl)) trivial
        (show ((clientMachine ⟨16, 0⟩).startedAt _).step _
          (.returned 0 .write { ok := true }) = some _ from rfl))

end Rgrpc
