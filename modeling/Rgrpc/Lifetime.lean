/-
This file accounts for the objects of both sides. Along every run the counts of
pending tags are right, a tag always leads to an object that is there, and an
object is deleted at most once. A server that was closed has deleted everything
it allocated. So has a client, unless one of its calls or streams was started
with metadata that has no translation: R raises the error after the state was
allocated and before anything points to it.
-/

import Rgrpc.Client.Runs
import Rgrpc.Server.Runs

namespace Rgrpc.Server

open Library

/-! ### The server -/

/-- The accounting of the calls of a server: the count of pending tags of a call that is there is
right, the call a tag was posted on is there, no deleted call was used, an active call has a tag
outstanding, and no call was deleted twice. -/
structure Accounted (server : RServer) (log : List ServerObs) : Prop where
  pending : ∀ address call, (server.arena.cell address).object = some call →
    call.pending = (server.arena.cell address).tags.length
  present : ∀ address op, op ∈ (server.arena.cell address).tags →
    (server.arena.cell address).object.isSome = true
  safe : ∀ address, ServerObs.useAfterFree address ∉ log
  active : ∀ id address, server.active.lookup id = some address →
    ∃ call, (server.arena.cell address).object = some call ∧ 1 ≤ call.pending
  once : ∀ address, deletions (callLog address log) ≤ 1

/-- Every call and slot a server allocated was deleted exactly once. -/
def DeletedOnce (server : RServer) (log : List ServerObs) : Prop :=
  ∀ address, address < server.arena.size → deletions (callLog address log) = 1

theorem Phase.deletions_le_one {view : CallView} {log : List CallObs} (phase : Phase view log) :
    deletions log ≤ 1 := by
  cases phase with
  | slot cell opened =>
    rw [opened]
    exact Nat.zero_le 1
  | live call object settled =>
    rw [settled.kept]
    exact Nat.zero_le 1
  | gone cell deleted lawful => exact Nat.le_of_eq deleted

theorem Phase.deletions_of_none {view : CallView} {log : List CallObs} (phase : Phase view log)
    (missing : view.cell.object = none) : deletions log = 1 := by
  cases phase with
  | slot cell opened =>
    rw [cell] at missing
    exact absurd missing (by simp)
  | live call object settled => exact absurd (object.symm.trans missing) (by simp)
  | gone cell deleted lawful => exact deleted

theorem Sound.accounted {server : RServer} {log : List ServerObs} (sound : Sound server log) :
    Accounted server log where
  pending := fun _ _ object => ((sound.phase (Arena.lt_size_of_object object)).pending object).1
  present := fun _ _ outstanding => Option.isSome_iff_exists.mpr (sound.object_of_mem outstanding)
  safe := sound.safe
  active := fun id address found => by
    obtain ⟨call, object, -⟩ := sound.active id address found
    obtain ⟨pending, busy⟩ := (sound.phase (Arena.lt_size_of_object object)).pending object
    have positive := List.length_pos_iff.mpr busy
    have count : call.pending = (server.arena.cell address).tags.length := pending
    exact ⟨call, object, by rw [count]; exact Int.ofNat_lt.mpr positive⟩
  once := fun address => by
    by_cases allocated : address < server.arena.size
    · exact (sound.phase allocated).deletions_le_one
    · rw [sound.unused address (Nat.le_of_not_lt allocated)]
      exact Nat.zero_le 1

/-- A server that was closed has deleted everything it allocated, once. -/
theorem Sound.deletedOnce {server : RServer} {log : List ServerObs} (sound : Sound server log)
    (gone : server.rthread = .gone) : DeletedOnce server log := fun address allocated =>
  (sound.phase allocated).deletions_of_none (sound.objects_gone (sound.drained gone).2 address)

end Rgrpc.Server

namespace Rgrpc.Client

open Library

/-! ### The client -/

/-- The accounting of the calls and streams of a client: the count of pending tags of a stream that
is there is right, what a tag was posted on is there, nothing deleted was used, the handler of a
finish tag deletes the stream and removes it from the table, and nothing was deleted twice. -/
structure Accounted (client : RClient) (log : List ClientObs) : Prop where
  pending : ∀ address stream, (client.streamArena.cell address).object = some stream →
    stream.pending = (client.streamArena.cell address).tags.length
  streamPresent : ∀ address op, op ∈ (client.streamArena.cell address).tags →
    (client.streamArena.cell address).object.isSome = true
  callPresent : ∀ address op, op ∈ (client.callArena.cell address).tags →
    (client.callArena.cell address).object.isSome = true
  safe : ∀ address, ClientObs.useAfterFree address ∉ log
  finished : ∀ address delivery after news,
    clientStep client (.returned address .finish delivery) = some (after, news) →
      (after.streamArena.cell address).object = none ∧
        ClientObs.stream address .deleted ∈ news ∧
        ∀ id, after.streams.lookup id ≠ some address
  once : (∀ address, deletions (streamLog address log) ≤ 1) ∧
    ∀ address, unaryDeletions (unaryLog address log) ≤ 1

/-- Every stream and every call a client allocated was deleted exactly once. -/
def DeletedOnce (client : RClient) (log : List ClientObs) : Prop :=
  (∀ address, address < client.streamArena.size → deletions (streamLog address log) = 1) ∧
    ∀ address, address < client.callArena.size → unaryDeletions (unaryLog address log) = 1

theorem Phase.deletions_le_one {view : StreamView} {log : List StreamObs}
    (phase : Phase view log) : deletions log ≤ 1 := by
  cases phase with
  | fresh cell silent =>
    rw [silent]
    exact Nat.zero_le 1
  | live stream object named ledger unended kept =>
    rw [kept]
    exact Nat.zero_le 1
  | gone cell deleted lawful => exact Nat.le_of_eq deleted

theorem UnaryPhase.deletions_le_one {cell : Cell CallState UnaryOp} {log : List UnaryObs}
    (phase : UnaryPhase cell log) : unaryDeletions log ≤ 1 := by
  cases phase with
  | fresh same silent =>
    rw [silent]
    exact Nat.zero_le 1
  | waiting call same named kept =>
    rw [kept]
    exact Nat.zero_le 1
  | gone same deleted => exact Nat.le_of_eq deleted

/-- The handler of a finish tag deletes the stream and removes it from the table. -/
theorem Sound.finished {client after : RClient} {log news : List ClientObs}
    (sound : Sound client log) {address : Nat} {delivery : Delivery}
    (taken : clientStep client (.returned address .finish delivery) = some (after, news)) :
    (after.streamArena.cell address).object = none ∧
      ClientObs.stream address .deleted ∈ news ∧
      ∀ id, after.streams.lookup id ≠ some address := by
  have later := sound.step taken
  cases turn_of_step taken with
  | returned address op delivery stream outstanding object =>
    obtain ⟨stream', object', ledger, -⟩ := sound.stream_of_mem outstanding
    obtain rfl := Option.some.inj (object.symm.trans object')
    have gone := freed_finish ledger outstanding client.shutting delivery
    have missing : ((client.handleStream address .finish delivery stream).1.streamArena.cell
        address).object = none := by
      refine (congrArg Cell.object
        (Arena.cell_set_self (Arena.lt_size_of_object object) _)).trans ?_
      simp only [handleTag, gone, if_true]
    refine ⟨missing, ?_, fun id found => ?_⟩
    · refine List.mem_map.mpr ⟨.deleted, ?_, rfl⟩
      simp only [handleTag, gone, if_true]
      exact List.mem_append_right _ List.mem_cons_self
    · obtain ⟨stored, present, -⟩ := later.streamTable id address found
      exact absurd (present.symm.trans missing) (by simp)
  | polled input wake args origin => simp at origin
  | quiet input after news quiet origin => exact absurd rfl (origin address .finish delivery)
  | lost input after news lost => exact absurd lost sound.not_lost

theorem Sound.accounted {client : RClient} {log : List ClientObs} (sound : Sound client log) :
    Accounted client log where
  pending := fun _ _ object => (sound.phase (Arena.lt_size_of_object object)).pending object
  streamPresent := fun _ _ outstanding => by
    obtain ⟨stream, object, -⟩ := sound.stream_of_mem outstanding
    rw [object]
    rfl
  callPresent := fun _ _ outstanding => by
    obtain ⟨call, cell, -⟩ := sound.call_of_mem outstanding
    rw [cell]
    rfl
  safe := sound.safe
  finished := fun _ _ _ _ taken => sound.finished taken
  once := by
    constructor
    · intro address
      by_cases allocated : address < client.streamArena.size
      · exact (sound.phase allocated).deletions_le_one
      · rw [sound.unusedStreams address (Nat.le_of_not_lt allocated)]
        exact Nat.zero_le 1
    · intro address
      by_cases allocated : address < client.callArena.size
      · exact (sound.calls address allocated).deletions_le_one
      · rw [sound.unusedCalls address (Nat.le_of_not_lt allocated)]
        exact Nat.zero_le 1

/-! ### Objects nothing points to -/

/-- Whether a step starts no call or stream that R abandons after it was allocated: on an open
client, with a method that can be translated, the metadata can be translated too. -/
def keepsOwner (client : RClient) : ClientInput → Bool
  | .callStart method _ opts _ => client.closed || !method.translates || !opts.raises
  | .streamStart method opts _ _ _ => client.closed || !method.translates || !opts.raises
  | _ => true

/-- Whether a stream was allocated and never given an id. -/
def StreamState.unnamed (stream : StreamState) : Bool := stream.id == 0

/-- Whether a call was allocated and never given an id. -/
def CallState.unnamed (call : CallState) : Bool := call.id == 0

/-- A client in which every stream and every call that is there was given an id. -/
def Owned (client : RClient) : Prop :=
  (∀ address, client.streamArena.holds StreamState.unnamed address = false) ∧
    ∀ address, client.callArena.holds CallState.unnamed address = false

/-- Two clients with the same unnamed streams and calls. -/
structure SameOwned (client after : RClient) : Prop where
  streams : ∀ address, after.streamArena.holds StreamState.unnamed address =
    client.streamArena.holds StreamState.unnamed address
  calls : ∀ address, after.callArena.holds CallState.unnamed address =
    client.callArena.holds CallState.unnamed address

theorem sameOwned_refl (client : RClient) : SameOwned client client :=
  ⟨fun _ => rfl, fun _ => rfl⟩

theorem SameOwned.trans {client middle after : RClient} (first : SameOwned client middle)
    (second : SameOwned middle after) : SameOwned client after :=
  ⟨fun address => (second.streams address).trans (first.streams address),
    fun address => (second.calls address).trans (first.calls address)⟩

theorem SameOwned.iff {client after : RClient} (same : SameOwned client after) :
    Owned after ↔ Owned client := by
  unfold Owned
  simp only [same.streams, same.calls]

theorem unnamed_eq_false {stream : StreamState} (named : stream.id ≠ 0) :
    stream.unnamed = false := by
  simp [StreamState.unnamed, named]

/-- A section of a named stream gives up nothing. -/
theorem sameOwned_withSection {client : RClient} {address : Nat} {stream : StreamState}
    {left : StreamState × List StreamObs}
    (object : (client.streamArena.cell address).object = some stream) (named : stream.id ≠ 0)
    (origin : SectionOf client stream left) :
    SameOwned client (client.withSection address left) := by
  refine ⟨fun other => Arena.holds_set (Arena.holds_eq_false object (unnamed_eq_false named)) ?_
    other, fun _ => rfl⟩
  have kept : left.1.id ≠ 0 := by
    rw [origin.frame.id]
    exact named
  exact unnamed_eq_false kept

theorem Sound.sameOwned_account {client : RClient} {log : List ClientObs}
    (sound : Sound client log) (event : ClEvent) :
    SameOwned client (client.account event).1 := by
  rcases account_cases client event with ⟨-, equal⟩ | ⟨address, -, -, -, equal⟩ |
    ⟨address, stream, -, found, object, equal⟩
  · rw [equal]
    exact sameOwned_refl client
  · rw [equal]
    exact sameOwned_refl client
  · obtain ⟨stream', object', same, nonzero⟩ := sound.streamTable event.id address found
    obtain rfl := Option.some.inj (object.symm.trans object')
    rw [equal]
    exact sameOwned_withSection object (by rw [same]; exact nonzero) (Or.inr rfl)

theorem Sound.sameOwned_pollTake {client : RClient} {log : List ClientObs}
    (sound : Sound client log) (args : PollArgs) :
    SameOwned client (client.pollTake args).1 := by
  have loop := takeLoop_invariant (fun event : ClEvent => args.wants event.id) RClient.account
    args.maxEvents
    (fun (state : RClient) (log : List ClientObs) (event : ClEvent) _
        (before : Sound state log ∧ SameOwned client state) =>
      (⟨before.1.account event, before.2.trans (before.1.sameOwned_account event)⟩ :
        Sound (state.account event).1 (log ++ (state.account event).2) ∧
          SameOwned client (state.account event).1))
    client.ready 0 client log ⟨sound, sameOwned_refl client⟩
  exact ⟨loop.2.streams, loop.2.calls⟩

/-- A step that starts nothing R abandons leaves every stream and call owned that was owned. -/
theorem Sound.owned_of_kept {client after : RClient} {log news : List ClientObs}
    {input : ClientInput} (sound : Sound client log)
    (taken : clientStep client input = some (after, news))
    (kept : keepsOwner client input = true) : Owned after ↔ Owned client := by
  have numbered := Nat.ne_of_gt sound.numbered
  cases turn_of_step taken with
  | unary address delivery call outstanding object =>
    obtain ⟨call', cell, named, -⟩ := sound.call_of_mem outstanding
    have stored : (client.callArena.cell address).object = some call' := by rw [cell]
    have owner : call'.unnamed = false := by simp [CallState.unnamed, named]
    exact SameOwned.iff ⟨fun _ => rfl, Arena.holds_set (Arena.holds_eq_false stored owner) rfl⟩
  | returned address op delivery stream outstanding object =>
    obtain ⟨stream', object', -, named⟩ := sound.stream_of_mem outstanding
    obtain rfl := Option.some.inj (object.symm.trans object')
    have same := runStream_id client.shutting op delivery stream
    refine SameOwned.iff
      ⟨Arena.holds_set (Arena.holds_eq_false object (unnamed_eq_false named)) ?_, fun _ => rfl⟩
    simp only [handleTag]
    split
    · rfl
    · exact unnamed_eq_false (by rw [same]; exact named)
  | leakCall method request opts now error opened named raises =>
    simp [keepsOwner, opened, named, raises] at kept
  | leakStream method opts now readCap writeCap error opened named raises =>
    simp [keepsOwner, opened, named, raises] at kept
  | callStarted method request opts now name context opened clean =>
    refine SameOwned.iff ⟨fun _ => rfl, fun other => ?_⟩
    refine (Arena.holds_push _ other).trans ?_
    split
    · rename_i last
      rw [last, Arena.holds, Arena.cell_of_size_le (Nat.le_refl _)]
      simp [CallState.unnamed, numbered, Cell.blank]
    · rfl
  | streamStarted method opts now readCap writeCap opened clean =>
    refine SameOwned.iff ⟨fun other => ?_, fun _ => rfl⟩
    refine (Arena.holds_push _ other).trans ?_
    split
    · rename_i last
      rw [last, Arena.holds, Arena.cell_of_size_le (Nat.le_refl _)]
      simp [StreamState.unnamed, sectionCell, openStream, numbered, Cell.blank]
    · rfl
  | request id request address stream opened found object =>
    obtain ⟨stream', object', same, nonzero⟩ := sound.streamTable id address found
    obtain rfl := Option.some.inj (object.symm.trans object')
    exact (sameOwned_withSection object (by rw [same]; exact nonzero)
      (Or.inl ⟨request, rfl⟩)).iff
  | polled input wake args origin =>
    have before : Sound { client with wake } log :=
      sound.idle wake client.ready client.rthread fun _ => rfl
    have same := before.sameOwned_pollTake args
    exact SameOwned.iff ⟨same.streams, same.calls⟩
  | quiet input after news quiet origin =>
    rw [quiet.same]
    exact Iff.rfl
  | closing opened => exact Iff.rfl
  | joined after news joining ended =>
    obtain ⟨-, -, rfl, -⟩ := sound.endClose_eq ended
    refine SameOwned.iff ⟨Arena.holds_deleteAll fun address listed => ?_, fun _ => rfl⟩
    obtain ⟨stream, object, named⟩ := (sound.streamRegistry.mem_entries address).mp listed
    exact Arena.holds_eq_false object (unnamed_eq_false named)
  | lost input after news lost => exact absurd lost sound.not_lost

/-- A step that starts what R then abandons leaves an object nothing points to. -/
theorem not_owned_of_abandoned {client after : RClient} {news : List ClientObs}
    {input : ClientInput} (taken : clientStep client input = some (after, news))
    (abandoned : keepsOwner client input = false) : ¬ Owned after := by
  have translated {method : RString} (named : method.translates = true) :
      ∃ name, translateCharUTF8 method = .ok name := by
    cases method with
    | text bytes => exact ⟨bytes, rfl⟩
    | marked raw => exact absurd named (by simp [RString.translates])
  have raised {now : Int} {opts : CallOpts} (raises : opts.raises = true) :
      ∃ context error, applyContextOpts now opts {} = (context, some error) := by
    have some := (applyContextOpts_raises now opts {}).trans raises
    obtain ⟨error, same⟩ := Option.isSome_iff_exists.mp some
    exact ⟨_, error, Prod.ext rfl same⟩
  cases input with
  | callStart method request opts now =>
    simp only [keepsOwner, Bool.or_eq_false_iff, Bool.not_eq_false'] at abandoned
    obtain ⟨⟨opened, named⟩, raises⟩ := abandoned
    obtain ⟨name, named⟩ := translated named
    obtain ⟨context, error, applied⟩ := @raised now opts raises
    simp only [clientStep, RClient.grpcRCallStart, opened, named, applied] at taken
    split at taken
    · obtain ⟨rfl, -⟩ := Prod.mk.inj (Option.some.inj taken)
      intro owned
      have clear := owned.2 client.callArena.size
      rw [Arena.holds_push, if_pos rfl] at clear
      exact absurd clear (by decide)
    · exact absurd taken (by simp)
  | streamStart method opts now readCap writeCap =>
    simp only [keepsOwner, Bool.or_eq_false_iff, Bool.not_eq_false'] at abandoned
    obtain ⟨⟨opened, named⟩, raises⟩ := abandoned
    obtain ⟨name, named⟩ := translated named
    obtain ⟨context, error, applied⟩ := @raised now opts raises
    simp only [clientStep, RClient.grpcRStreamStart, opened, named, applied] at taken
    split at taken
    · obtain ⟨rfl, -⟩ := Prod.mk.inj (Option.some.inj taken)
      intro owned
      have clear := owned.1 client.streamArena.size
      rw [Arena.holds_push, if_pos rfl] at clear
      exact absurd clear (by decide)
    · exact absurd taken (by simp)
  | _ => exact absurd abandoned (by simp [keepsOwner])

/-- A stream that was never given an id stays as it was allocated. -/
theorem owned_of_step {client after : RClient} {log news : List ClientObs} {input : ClientInput}
    (sound : Sound client log) (taken : clientStep client input = some (after, news)) :
    Owned after ↔ Owned client ∧ keepsOwner client input = true := by
  cases kept : keepsOwner client input with
  | true => simpa using sound.owned_of_kept taken kept
  | false => simpa using not_owned_of_abandoned taken kept

/-- Every stream and call is owned exactly in the runs whose steps start nothing that R
abandons. -/
theorem owned_iff_run {wake : WakeHandle} {client : RClient} {log : List ClientObs}
    (run : (clientMachine wake).Run Machine.Free client log) :
    Owned client ↔
      (clientMachine wake).Run (fun client input => keepsOwner client input = true)
        client log := by
  constructor
  · intro owned
    induction run with
    | start => exact .start
    | @next state after log news input before _ taken inductionHypothesis =>
      obtain ⟨earlier, kept⟩ := (owned_of_step (sound_of_run before) taken).mp owned
      exact .next (inductionHypothesis earlier) kept taken
  · intro kept
    clear run
    induction kept with
    | start => exact ⟨fun _ => rfl, fun _ => rfl⟩
    | @next state after log news input before permitted taken inductionHypothesis =>
      exact (owned_of_step (sound_of_run before) taken).mpr ⟨inductionHypothesis, permitted⟩

/-! ### The end of a client -/

/-- A client that was closed has deleted everything exactly when everything was owned. -/
theorem Sound.deletedOnce_iff {client : RClient} {log : List ClientObs} (sound : Sound client log)
    (gone : client.rthread = .gone) : DeletedOnce client log ↔ Owned client := by
  obtain ⟨-, -, callsIdle, empty⟩ := sound.drained gone
  constructor
  · rintro ⟨streams, calls⟩
    constructor
    · intro address
      cases object : (client.streamArena.cell address).object with
      | none => rw [Arena.holds, object]; rfl
      | some stream =>
        have allocated := Arena.lt_size_of_object object
        have once := streams address allocated
        cases sound.phase allocated with
        | fresh cell silent =>
          rw [silent] at once
          exact absurd once (by simp [deletions])
        | live stream' object' named ledger unended kept =>
          rw [kept] at once
          exact absurd once (by simp)
        | gone cell deleted lawful =>
          have missing : client.streamArena.cell address = ⟨none, []⟩ := cell
          rw [missing] at object
          exact absurd object (by simp)
    · intro address
      cases object : (client.callArena.cell address).object with
      | none => rw [Arena.holds, object]; rfl
      | some call =>
        have allocated := Arena.lt_size_of_object object
        have once := calls address allocated
        cases sound.calls address allocated with
        | fresh same silent =>
          rw [silent] at once
          exact absurd once (by simp [unaryDeletions])
        | waiting call' same named kept =>
          rw [kept] at once
          exact absurd once (by simp)
        | gone same deleted =>
          rw [same] at object
          exact absurd object (by simp)
  · rintro ⟨streams, calls⟩
    constructor
    · intro address allocated
      have clear := streams address
      cases sound.phase allocated with
      | fresh cell silent =>
        have same : client.streamArena.cell address = ⟨some {}, []⟩ := cell
        rw [Arena.holds, same] at clear
        exact absurd clear (by decide)
      | live stream object named ledger unended kept =>
        have listed := AList.mem_lookup_iff.mp (sound.streamListed address stream object named)
        rw [empty] at listed
        exact absurd listed List.not_mem_nil
      | gone cell deleted lawful => exact deleted
    · intro address allocated
      have clear := calls address
      cases sound.calls address allocated with
      | fresh same silent =>
        rw [Arena.holds, same] at clear
        exact absurd clear (by decide)
      | waiting call same named kept =>
        have tags := callsIdle.tags_eq_nil address
        rw [same] at tags
        exact absurd tags (by simp)
      | gone same deleted => exact deleted

end Rgrpc.Client

namespace Rgrpc

open Library

/-! ### Both sides -/

/-- Along every run of a server and of a client their objects are accounted for. A server that was
closed has deleted all of them once; a client that was closed has, exactly when no call or stream
was abandoned after it was allocated. -/
theorem lifetimes_accounted (acceptWindow maxActive : Int) (serverWake : WakeHandle)
    (server : Server.RServer) (serverLog : List Server.ServerObs)
    (serverRun : (Server.serverMachine acceptWindow maxActive serverWake).Run Machine.Free
      server serverLog)
    (clientWake : WakeHandle) (client : Client.RClient) (clientLog : List Client.ClientObs)
    (clientRun : (Client.clientMachine clientWake).Run Machine.Free client clientLog) :
    (Server.Accounted server serverLog ∧
      (server.rthread = .gone → Server.DeletedOnce server serverLog)) ∧
    Client.Accounted client clientLog ∧
      (client.rthread = .gone →
        (Client.DeletedOnce client clientLog ↔
          (Client.clientMachine clientWake).Run
            (fun client input => Client.keepsOwner client input = true) client clientLog)) := by
  have serverSound := Server.sound_of_run serverRun
  have clientSound := Client.sound_of_run clientRun
  refine ⟨⟨serverSound.accounted, serverSound.deletedOnce⟩, clientSound.accounted, fun gone => ?_⟩
  rw [clientSound.deletedOnce_iff gone]
  exact Client.owned_iff_run clientRun

/-- A call that is served to its end, and a close that drains the slots that are left. -/
def drainedServerInputs : List Server.ServerInput :=
  [.returned 0 .accept { ok := true },
    .returned 0 .read { ok := true, message := .ofRaw [1] },
    .request 1 (.finish ⟨0, none, none, true⟩),
    .returned 0 .finish { ok := true },
    .returned 0 .done { ok := true },
    .close,
    .returned 1 .accept { ok := false },
    .joined]

/-- A stream that runs to its status, a unary call and a stream that are open when the client is
closed. -/
def drainedClientInputs : List Client.ClientInput :=
  [.streamStart (.text [47]) {} 0 16 16,
    .callStart (.text [47]) [1] {} 0,
    .streamStart (.text [47]) {} 0 16 16,
    .returned 0 .start { ok := false },
    .returned 0 .finish { ok := true, status := ⟨14, []⟩ },
    .close,
    .unary 0 { ok := true, status := ⟨1, []⟩ },
    .returned 1 .start { ok := false },
    .joined]

theorem lifetimes_accounted_drained : ∃ server serverLog client clientLog,
    (Server.serverMachine 1 2 ⟨16, 0⟩).Run Machine.Free server serverLog ∧
      (Client.clientMachine ⟨16, 0⟩).Run Machine.Free client clientLog ∧
      server.arena.size = 2 ∧ client.streamArena.size = 2 ∧ client.callArena.size = 1 ∧
      Server.DeletedOnce server serverLog ∧ Client.DeletedOnce client clientLog := by
  have serverRun := Machine.run_of_exec
    (show (Server.serverMachine 1 2 ⟨16, 0⟩).exec Machine.Free
      (Server.serverMachine 1 2 ⟨16, 0⟩).start drainedServerInputs = some _ from rfl)
  have clientRun := Machine.run_of_exec
    (show (Client.clientMachine ⟨16, 0⟩).exec
      (fun client input => Client.keepsOwner client input = true)
      (Client.clientMachine ⟨16, 0⟩).start drainedClientInputs = some _ from rfl)
  have accounted := lifetimes_accounted 1 2 ⟨16, 0⟩ _ _ serverRun ⟨16, 0⟩ _ _ clientRun.free
  exact ⟨_, _, _, _, serverRun, clientRun.free, rfl, rfl, rfl, accounted.1.2 rfl,
    (accounted.2.2 rfl).mpr clientRun⟩

/-- A stream is opened with a metadata value that has no translation, and the client is closed. -/
def abandonedInputs : List Client.ClientInput :=
  [.streamStart (.text [47]) { metadata := some [(.text [97], .marked [200])] } 0 16 16,
    .close,
    .joined]

/-- The stream is still there when everything else is gone. -/
theorem stream_abandoned : ∃ client log,
    (Client.clientMachine ⟨16, 0⟩).Run Machine.Free client log ∧ client.rthread = .gone ∧
      (client.streamArena.cell 0).object.isSome = true ∧
      Client.deletions (Client.streamLog 0 log) = 0 ∧ ¬ Client.DeletedOnce client log := by
  have run := Machine.run_of_exec (show (Client.clientMachine ⟨16, 0⟩).exec Machine.Free
    (Client.clientMachine ⟨16, 0⟩).start abandonedInputs = some _ from rfl)
  refine ⟨_, _, run, rfl, rfl, by decide, fun once => ?_⟩
  exact absurd (once.1 0 (by decide)) (by decide)

end Rgrpc
