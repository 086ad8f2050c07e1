/-
This file states what the two ways of collecting events promise R, of a client
and of a server: when the wake handle is readable and what that is worth to a
waiting poll, and how polls and awaits share one queue out among themselves.
Both ends refine the same inbox, so both statements are instances of what the
inbox does. What is left to show here is that a poll of a client touches only
the streams whose messages it takes.
-/

import Rgrpc.Server.Feed
import Rgrpc.Client.Events

namespace Rgrpc

open Library Server Client

/-! ### The wake handle -/

/-- However pushes, polls and awaits interleave, the wake handle of a server and of a client is
readable exactly while events are queued, no wake-up is lost, every wake-up was earned by an event
pushed since the wait began, and a poll comes back empty only when its time is over. -/
theorem wake_contract (capacity : Nat) (room : 1 ≤ capacity) :
    (∀ (acceptWindow maxActive : Int) (server : RServer) (log : List ServerObs),
      (serverMachine acceptWindow maxActive ⟨capacity, 0⟩).Run Machine.Free server log →
      (serverFeed acceptWindow maxActive ⟨capacity, 0⟩).WakeContract server log) ∧
    ∀ (client : RClient) (log : List ClientObs),
      (clientMachine ⟨capacity, 0⟩).Run Machine.Free client log →
      (clientFeed ⟨capacity, 0⟩).WakeContract client log :=
  ⟨fun acceptWindow maxActive _ _ run =>
    (serverFeed_refines acceptWindow maxActive ⟨capacity, 0⟩).wakeContract room rfl run,
    fun _ _ run => (clientFeed_refines ⟨capacity, 0⟩).wakeContract room rfl run⟩

/-- An await on one stream, woken by a message of another one and waiting again. -/
def awaitingInputs : List ClientInput :=
  [.streamStart (.text [47]) {} 0 16 16,
    .streamStart (.text [47]) {} 0 16 16,
    .returned 0 .start { ok := true },
    .returned 1 .start { ok := true },
    .poll ⟨1, -1, some 2⟩ 0,
    .returned 0 .read { ok := true, message := .ofRaw [1] },
    .woken 1 0,
    .returned 1 .read { ok := true, message := .ofRaw [2] }]

theorem wake_contract_awaiting : ∃ client log,
    (clientMachine ⟨1, 0⟩).Run Machine.Free client log ∧
      client.rthread = .polling ⟨1, -1, some 2⟩ ∧ client.ready.map ClEvent.id = [1, 2] ∧
      (clientFeed ⟨1, 0⟩).WakeContract client log := by
  have run := Machine.run_of_exec (show (clientMachine ⟨1, 0⟩).exec Machine.Free
    (clientMachine ⟨1, 0⟩).start awaitingInputs = some _ from rfl)
  exact ⟨_, _, run, rfl, by decide, (wake_contract 1 (by decide)).2 _ _ run⟩

/-! ### The take step of a poll -/

/-- What the take step of a poll does to a queue: it returns the first wanted events in arrival
order, up to the bound, and leaves the queue without just these. -/
structure TakesFirst {Event : Type} (wanted : Event → Bool) (maxEvents : Int)
    (ready batch left : List Event) : Prop where
  first : batch = (ready.filter wanted).take maxEvents.toNat
  length : (batch.length : Int) = min maxEvents (ready.countP wanted)
  places : batch = (picked wanted maxEvents ready).filterMap fun position => ready[position]?
  left : left = without (picked wanted maxEvents ready) ready

theorem takesFirst_takeLoop {State Event Obs : Type} {wanted : Event → Bool}
    {account : State → Event → State × List Obs} {maxEvents : Int} (bound : 1 ≤ maxEvents)
    (ready : List Event) (state : State) :
    TakesFirst wanted maxEvents ready (takeLoop wanted account maxEvents ready 0 state).batch
      (takeLoop wanted account maxEvents ready 0 state).left := by
  have first := takeLoop_batch wanted account maxEvents ready 0 state
  rw [Int.natCast_zero, Int.sub_zero] at first
  refine ⟨first, ?_, takeLoop_batch_eq_picked wanted account maxEvents ready state,
    takeLoop_left wanted account maxEvents ready state⟩
  rw [first, List.length_take, ← List.countP_eq_length_filter]
  omega

/-- A poll on one id leaves the cell of every stream with another id as it was. -/
theorem cell_pollTake_of_ne (client : RClient) {args : PollArgs} {id address : Nat}
    (only : args.onlyId = some id) (other : client.streams.lookup id ≠ some address) :
    (client.pollTake args).1.streamArena.cell address = client.streamArena.cell address := by
  have loop := takeLoop_invariant (fun event : ClEvent => args.wants event.id) RClient.account
    args.maxEvents
    (fun (state : RClient) (_ : List ClientObs) event wants
        (before : state.streams = client.streams ∧
          state.streamArena.cell address = client.streamArena.cell address) => by
      rw [PollArgs.wants, only, beq_iff_eq] at wants
      refine ⟨(account_tables state event).streams.trans before.1, ?_⟩
      rw [← before.2]
      exact cell_account_of_ne state event fun _ => by rw [before.1, wants]; exact other)
    client.ready 0 client [] ⟨rfl, rfl⟩
  exact loop.2

/-! ### Polls and awaits on one queue -/

/-- Polls and awaits share one queue out. The take step of a poll takes the first wanted events
and leaves the others where they were, with the streams of other ids untouched; so along every run
what polls took of an id and what is still queued of it is what was pushed of it. The queue of a
client goes with the client at the end of a close; what polls took of an id stays a prefix. -/
theorem polls_partition (acceptWindow maxActive : Int) (wake : WakeHandle) :
    (∀ (server : RServer) (args : PollArgs), 1 ≤ args.maxEvents → ∃ batch,
      (server.pollTake args).2 = [.polled batch (batch.mapM SvEvent.toR)] ∧
        TakesFirst (args.wanted SvEvent.id) args.maxEvents server.ready batch
          (server.pollTake args).1.ready) ∧
    (∀ (client : RClient) (args : PollArgs), 1 ≤ args.maxEvents → ∃ accounted batch,
      (client.pollTake args).2 = accounted ++ [.polled batch (batch.mapM ClEvent.toR)] ∧
        Client.takenBatches accounted = [] ∧
        TakesFirst (args.wanted ClEvent.id) args.maxEvents client.ready batch
          (client.pollTake args).1.ready) ∧
    (∀ (server : RServer) (log : List ServerObs),
      (serverMachine acceptWindow maxActive wake).Run Machine.Free server log → ∀ id,
      (Server.takenBatches log).flatten.filter (fun event => event.id == id) ++
          server.ready.filter (fun event => event.id == id) =
        (Server.queued log).filter fun event => event.id == id) ∧
    ∀ (client : RClient) (log : List ClientObs),
      (clientMachine wake).Run Machine.Free client log →
      (∀ id events args, args.onlyId = some id → ∀ address stream,
        (client.streamArena.cell address).object = some stream → stream.id ≠ id →
        (RClient.pollTake { client with ready := events } args).1.streamArena.cell address =
          client.streamArena.cell address) ∧
      ∀ id,
        ((Client.takenBatches log).flatten.filter fun event => event.id == id) <+:
            ((Client.queued log).filter fun event => event.id == id) ∧
          (client.rthread ≠ .gone →
            (Client.takenBatches log).flatten.filter (fun event => event.id == id) ++
                client.ready.filter (fun event => event.id == id) =
              (Client.queued log).filter fun event => event.id == id) := by
  refine ⟨fun server args bound => ⟨_, rfl, takesFirst_takeLoop bound server.ready ()⟩,
    fun client args bound => ⟨_, _, rfl, (accounted_unqueued client args).takenBatches,
      takesFirst_takeLoop bound client.ready client⟩,
    fun server log run id => ?_, fun client log run => ⟨?_, fun id => ⟨?_, fun present => ?_⟩⟩⟩
  · exact (serverFeed_refines acceptWindow maxActive wake).partition_of_run (fun _ => True)
      (fun before taken _ => ⟨trivial, (sound_of_run before).ready_kept taken⟩) run trivial id
  · intro id events args only address stream object different
    refine cell_pollTake_of_ne { client with ready := events } only fun found => ?_
    obtain ⟨stored, same, named, -⟩ := (sound_of_run run).streamTable id address found
    rw [object] at same
    exact different ((congrArg StreamState.id (Option.some.inj same)).trans named)
  · exact (clientFeed_refines wake).taken_prefix_of_run run id
  · exact (clientFeed_refines wake).partition_of_open run present id

/-- A request and a message of its call, polled one at a time, of the call only. -/
def pickedInputs : List ServerInput :=
  [.returned 0 .accept { ok := true },
    .returned 0 .read { ok := true, message := .ofRaw [1] },
    .request 1 .read,
    .returned 0 .read { ok := true, message := .ofRaw [2] },
    .poll ⟨1, 0, some 1⟩ 0]

/-- Messages of two streams, of which an await on the second takes its own. -/
def filteredInputs : List ClientInput :=
  [.streamStart (.text [47]) {} 0 16 16,
    .streamStart (.text [47]) {} 0 16 16,
    .returned 0 .start { ok := true },
    .returned 1 .start { ok := true },
    .returned 0 .read { ok := true, message := .ofRaw [1] },
    .returned 1 .read { ok := true, message := .ofRaw [2] },
    .poll ⟨64, -1, some 2⟩ 0]

theorem polls_partition_filtered : ∃ server serverLog client clientLog,
    (serverMachine 1 1 ⟨16, 0⟩).Run Machine.Free server serverLog ∧
      (clientMachine ⟨16, 0⟩).Run Machine.Free client clientLog ∧
      server.ready.length = 1 ∧ (Server.takenBatches serverLog).flatten.length = 1 ∧
      client.ready.map ClEvent.id = [1] ∧
      (Client.takenBatches clientLog).flatten.map ClEvent.id = [2] ∧
      (∃ batch, TakesFirst (PollArgs.wanted SvEvent.id ⟨1, 0, some 1⟩) 1 server.ready batch
        (server.pollTake ⟨1, 0, some 1⟩).1.ready) ∧
      (∃ batch, TakesFirst (PollArgs.wanted ClEvent.id ⟨1, 0, some 1⟩) 1 client.ready batch
        (client.pollTake ⟨1, 0, some 1⟩).1.ready) ∧
      (Server.takenBatches serverLog).flatten.filter (fun event => event.id == 1) ++
          server.ready.filter (fun event => event.id == 1) =
        (Server.queued serverLog).filter (fun event => event.id == 1) ∧
      (RClient.pollTake { client with ready := [] } ⟨1, 0, some 1⟩).1.streamArena.cell 1 =
        client.streamArena.cell 1 ∧
      (Client.takenBatches clientLog).flatten.filter (fun event => event.id == 2) ++
          client.ready.filter (fun event => event.id == 2) =
        (Client.queued clientLog).filter fun event => event.id == 2 := by
  have serverRun := Machine.run_of_exec (show (serverMachine 1 1 ⟨16, 0⟩).exec Machine.Free
    (serverMachine 1 1 ⟨16, 0⟩).start pickedInputs = some _ from rfl)
  have clientRun := Machine.run_of_exec (show (clientMachine ⟨16, 0⟩).exec Machine.Free
    (clientMachine ⟨16, 0⟩).start filteredInputs = some _ from rfl)
  obtain ⟨serverTake, clientTake, serverRuns, clientRuns⟩ := polls_partition 1 1 ⟨16, 0⟩
  obtain ⟨frame, order⟩ := clientRuns _ _ clientRun
  obtain ⟨batch, -, serverTaken⟩ := serverTake _ ⟨1, 0, some 1⟩ (by decide)
  obtain ⟨-, taken, -, -, clientTaken⟩ := clientTake _ ⟨1, 0, some 1⟩ (by decide)
  exact ⟨_, _, _, _, serverRun, clientRun, rfl, rfl, by decide, by decide, ⟨batch, serverTaken⟩,
    ⟨taken, clientTaken⟩, serverRuns _ _ serverRun 1,
    frame 1 [] _ rfl 1 _ rfl (by decide), (order 2).2 (by decide)⟩

end Rgrpc
