/-
This file proves that a close of the client returns, as `Rgrpc/Server/Closing.lean`
does for the server. A client has no slots: once it shuts down every completion
takes exactly one tag off those outstanding, and the streams that never came to
their Finish are deleted when the completion thread is joined.
-/

import Rgrpc.Client.Rest

namespace Rgrpc.Client

open Library

/-! ### What is left to drain -/

/-- The tags outstanding in a client. -/
def RClient.drain (client : RClient) : Nat :=
  client.callArena.total (fun cell => cell.tags.length) +
    client.streamArena.total fun cell => cell.tags.length

/-- A client inside or past a close. -/
structure RClient.Shut (client : RClient) : Prop where
  closed : client.closed = true
  shutting : client.shutting = true
  thread : client.rthread = .joining ∨ client.rthread = .gone

section Shut

variable {client after : RClient} {log news : List ClientObs} {input : ClientInput}

/-- What can happen to a client that was closed: a tag comes back, the completion thread is joined,
or R makes a call that is refused. -/
theorem RClient.Shut.step_cases (shut : client.Shut)
    (taken : clientStep client input = some (after, news)) :
    Completions client input ∨ (input = .joined ∧ client.rthread = .joining) ∨
      after = client ∧ weigh ClientObs.completes news = 0 := by
  have refused {result : RClient × List ClientObs} {obs : List ClientObs}
      (taken : (if client.atR then some result else none) = some (after, news))
      (equal : result = (client, obs)) (silent : weigh ClientObs.completes obs = 0) :
      Completions client input ∨ (input = .joined ∧ client.rthread = .joining) ∨
        after = client ∧ weigh ClientObs.completes news = 0 := by
    split at taken
    · rw [equal] at taken
      obtain ⟨rfl, rfl⟩ := Prod.mk.inj (Option.some.inj taken)
      exact Or.inr (Or.inr ⟨rfl, silent⟩)
    · exact absurd taken (by simp)
  cases input with
  | unary address delivery => exact Or.inl trivial
  | returned address op delivery => exact Or.inl trivial
  | callStart method request opts now => exact refused taken (if_pos shut.closed) rfl
  | streamStart method opts now readCap writeCap =>
    exact refused taken (if_pos shut.closed) rfl
  | request id request => exact refused taken (if_pos shut.closed) rfl
  | cancel id => exact refused taken (if_pos shut.closed) rfl
  | poll args leftMs => exact refused taken (if_pos shut.closed) rfl
  | woken result leftMs =>
    rcases shut.thread with joining | gone
    · rw [clientStep, joining] at taken
      exact absurd taken (by simp)
    · rw [clientStep, gone] at taken
      exact absurd taken (by simp)
  | close => exact refused taken (if_pos shut.closed) rfl
  | joined =>
    rcases shut.thread with joining | gone
    · exact Or.inr (Or.inl ⟨rfl, joining⟩)
    · rw [clientStep, gone] at taken
      exact absurd taken (by simp)

/-- The return of a tag takes one off those outstanding. -/
theorem drain_handleStream (shutting : client.shutting = true) {address : Nat} {op : TagKind}
    (delivery : Delivery) (stream : StreamState)
    (outstanding : op ∈ (client.streamArena.cell address).tags) :
    (client.handleStream address op delivery stream).1.drain + 1 = client.drain := by
  have silent := postedTags_runStream_shutting stream op delivery
  have positive := List.length_pos_of_mem outstanding
  have exchanged := Arena.total_set (fun cell => cell.tags.length)
    (Arena.lt_size_of_mem_tags outstanding)
    (handleTag client.shutting op delivery stream (client.streamArena.cell address).tags).1
  have left : (handleTag client.shutting op delivery stream
      (client.streamArena.cell address).tags).1.tags.length + 1 =
      (client.streamArena.cell address).tags.length := by
    rw [shutting, handleTag]
    simp only [silent, List.append_nil, List.length_erase_of_mem outstanding]
    omega
  show client.callArena.total _ + (client.streamArena.set address _).total _ + 1 = _
  rw [RClient.drain]
  omega

theorem drain_handleUnary {address : Nat} (delivery : Delivery) (call : CallState)
    (outstanding : .unary ∈ (client.callArena.cell address).tags) :
    (client.handleUnary address delivery call).1.drain + 1 = client.drain := by
  have exchanged := Arena.total_set (fun cell => cell.tags.length)
    (Arena.lt_size_of_mem_tags outstanding)
    (⟨none, (client.callArena.cell address).tags.erase .unary⟩ : Cell CallState UnaryOp)
  have positive := List.length_pos_of_mem outstanding
  simp only [List.length_erase_of_mem outstanding] at exchanged
  show (client.callArena.set address _).total _ + client.streamArena.total _ + 1 = _
  rw [RClient.drain]
  omega

/-- A completion takes one tag off those outstanding, and goes on inside the close. -/
theorem RClient.Shut.completion (shut : client.Shut) (sound : Sound client log)
    (only : Completions client input) (taken : clientStep client input = some (after, news)) :
    after.Shut ∧ after.drain + 1 = client.drain ∧ weigh ClientObs.completes news = 1 := by
  rcases sound.completion_cases only taken with ⟨address, delivery, call, outstanding, equal⟩ |
    ⟨address, op, delivery, stream, outstanding, object, equal⟩
  · have kept : (client.handleUnary address delivery call).1.Shut :=
      ⟨shut.closed, shut.shutting, shut.thread⟩
    have drained := drain_handleUnary delivery call outstanding
    have once := (credit_handleUnary sound delivery call outstanding).1
    rw [equal] at kept drained once
    exact ⟨kept, drained, once⟩
  · have kept : (client.handleStream address op delivery stream).1.Shut :=
      ⟨shut.closed, shut.shutting, shut.thread⟩
    have drained := drain_handleStream shut.shutting delivery stream outstanding
    have once := (credit_handleStream sound delivery outstanding object).1
    rw [equal] at kept drained once
    exact ⟨kept, drained, once⟩

/-- A client that was closed stays so, and no step handles more completions than it takes tags off
those outstanding. -/
theorem RClient.Shut.step (shut : client.Shut) (sound : Sound client log)
    (taken : clientStep client input = some (after, news)) :
    after.Shut ∧ after.drain + weigh ClientObs.completes news ≤ client.drain := by
  rcases shut.step_cases taken with only | ⟨rfl, joining⟩ | ⟨rfl, silent⟩
  · obtain ⟨kept, drained, once⟩ := shut.completion sound only taken
    exact ⟨kept, by omega⟩
  · rw [clientStep, joining] at taken
    obtain ⟨-, -, rfl, rfl⟩ := sound.endClose_eq taken
    refine ⟨⟨shut.closed, shut.shutting, Or.inr rfl⟩, ?_⟩
    have swept := Arena.total_deleteAll_le (fun cell => cell.tags.length)
      (fun cell => Nat.le_refl _) client.streamArena (client.streams.entries.map Sigma.snd)
    have silent : weigh ClientObs.completes ((client.streams.entries.map Sigma.snd).map
        fun address => ClientObs.stream address .deleted) = 0 := by
      rw [weigh_map]
      exact weigh_eq_zero fun _ _ => rfl
    rw [silent]
    exact Nat.add_le_add_left swept _
  · rw [silent]
    exact ⟨shut, Nat.le_refl _⟩

end Shut

/-! ### A close returns -/

/-- Neither an operation of a stream nor a unary call is posted. -/
structure PostsNothing (obs : List ClientObs) : Prop where
  streams : Unposted obs
  calls : ∀ address name context request,
    ClientObs.unary address (.posted name context request) ∉ obs

/-- How a close goes on: it posts no operation and handles no more completions than it found tags
outstanding, every tag still outstanding can be returned, once there is none the completion thread
can be joined, and past the join no tag is left, both tables are empty, and no call or stream that
was started is still there. -/
structure CloseReturns (client later : RClient) (more : List ClientObs) : Prop where
  unposted : PostsNothing more
  bounded : later.drain + weigh ClientObs.completes more ≤ client.drain
  thread : later.rthread = .joining ∨ later.rthread = .gone
  unary : ∀ address delivery, .unary ∈ (later.callArena.cell address).tags →
    (clientStep later (.unary address delivery)).isSome = true
  returns : ∀ address op delivery, op ∈ (later.streamArena.cell address).tags →
    (clientStep later (.returned address op delivery)).isSome = true
  joins : later.rthread = .joining → later.Quiescent → (clientStep later .joined).isSome = true
  quiescent : later.rthread = .gone → later.Quiescent
  tables : later.rthread = .gone →
    ∀ id, later.calls.lookup id = none ∧ later.streams.lookup id = none
  calls : later.rthread = .gone → ∀ address call,
    (later.callArena.cell address).object = some call → call.id = 0
  streams : later.rthread = .gone → ∀ address stream,
    (later.streamArena.cell address).object = some stream → stream.id = 0

section CloseReturns

variable {wake : WakeHandle} {client later : RClient} {log more : List ClientObs}

/-- Past the join both tables are empty. -/
theorem Sound.tables_of_gone (sound : Sound client log) (gone : client.rthread = .gone) (id : Nat) :
    client.calls.lookup id = none ∧ client.streams.lookup id = none := by
  obtain ⟨-, -, calls, streams⟩ := sound.drained gone
  constructor
  · cases found : client.calls.lookup id with
    | none => rfl
    | some address =>
      have member := AList.mem_lookup_iff.mp found
      rw [sound.calls_eq_nil calls] at member
      exact absurd member List.not_mem_nil
  · cases found : client.streams.lookup id with
    | none => rfl
    | some address =>
      have member := AList.mem_lookup_iff.mp found
      rw [streams] at member
      exact absurd member List.not_mem_nil

/-- A client that was closed stays so and posts nothing, along every continuation. -/
theorem postsNothing_of_shut (run : (clientMachine wake).Run Machine.Free client log)
    (shut : client.Shut)
    (on : ((clientMachine wake).startedAt client).Run Machine.Free later more) :
    later.Shut ∧ PostsNothing more := by
  induction on with
  | start => exact ⟨shut, fun _ => rfl, fun _ _ _ _ => List.not_mem_nil⟩
  | next before _ taken inductionHypothesis =>
    obtain ⟨still, silent⟩ := inductionHypothesis
    have sound := sound_of_run (run.trans before)
    refine ⟨(still.step sound taken).1,
      silent.streams.append (unposted_of_shutting sound still.shutting taken),
      fun address name context request member => ?_⟩
    rcases List.mem_append.mp member with earlier | now
    · exact silent.calls address name context request earlier
    · exact uncalled_of_shutting sound still.shutting taken address name context request now

/-- Once nothing is outstanding the completion thread can be joined. -/
theorem clientStep_joined (joining : client.rthread = .joining) (quiescent : client.Quiescent) :
    ∃ after news, clientStep client .joined = some (after, news) := by
  have enabled : (client.rthread == .joining) = true := by
    rw [joining]
    rfl
  exact ⟨_, _, (if_pos enabled).trans (if_pos quiescent)⟩

/-- Whether the join is still to come. -/
def RClient.joinLeft (client : RClient) : Nat := if client.rthread = .gone then 0 else 1

theorem joinLeft_le_one (client : RClient) : client.joinLeft ≤ 1 := by
  unfold RClient.joinLeft
  split
  · exact Nat.zero_le 1
  · exact Nat.le_refl 1

/-- A close can always be driven to its end. -/
theorem driven_to_gone (run : (clientMachine wake).Run Machine.Free client log)
    (shut : client.Shut) :
    ∃ later more, ((clientMachine wake).startedAt client).Run Machine.Free later more ∧
      later.rthread = .gone := by
  refine run.driven (fun state => state.drain + state.joinLeft) RClient.Shut
    (fun state => state.rthread = .gone) (fun {state log} before shut waiting => ?_) shut
  have sound := sound_of_run before
  have joining := shut.thread.resolve_right waiting
  have early : state.joinLeft = 1 := if_neg waiting
  by_cases quiescent : state.Quiescent
  · obtain ⟨after, news, joins⟩ := clientStep_joined joining quiescent
    obtain ⟨kept, paid⟩ := shut.step sound joins
    have ended : state.endClose = some (after, news) := by
      rw [clientStep, joining] at joins
      exact joins
    obtain ⟨-, -, same, -⟩ := sound.endClose_eq ended
    have last : after.joinLeft = 0 := by
      rw [same]
      rfl
    exact ⟨.joined, after, news, trivial, joins, kept, by omega⟩
  · obtain ⟨input, after, news, only, taken, -⟩ := sound.progress quiescent
    obtain ⟨kept, drained, -⟩ := shut.completion sound only taken
    have late := joinLeft_le_one after
    exact ⟨input, after, news, trivial, taken, kept, by omega⟩

end CloseReturns

/-- A close of the client returns: from every state in which R waits for the completion thread the
close can be driven to its end, and however the completions come in, nothing is posted, there are no
more of them than tags were outstanding, none of them is stuck, and in the end nothing that was
started is left. -/
theorem client_close_returns (wake : WakeHandle) (client : RClient) (log : List ClientObs)
    (run : (clientMachine wake).Run Machine.Free client log)
    (joining : client.rthread = .joining) :
    (∃ later more, ((clientMachine wake).startedAt client).Run Machine.Free later more ∧
        later.rthread = .gone) ∧
      ∀ later more, ((clientMachine wake).startedAt client).Run Machine.Free later more →
        CloseReturns client later more := by
  have closed := (sound_of_run run).joining joining
  have shut : client.Shut :=
    ⟨closed, (sound_of_run run).closing.trans closed, Or.inl joining⟩
  refine ⟨driven_to_gone run shut, fun later more on => ?_⟩
  obtain ⟨closing, bounded⟩ := run.amortised RClient.Shut RClient.drain
    ClientObs.completes (fun _ => 0) (fun before shut _ taken => by
      obtain ⟨kept, paid⟩ := shut.step (sound_of_run before) taken
      exact ⟨kept, paid.trans (Nat.le_add_right _ _)⟩) shut on
  rw [weigh_zero] at bounded
  have sound := sound_of_run (run.trans on)
  refine ⟨(postsNothing_of_shut run shut on).2, bounded, closing.thread,
    fun address delivery outstanding => ?_,
    fun address op delivery outstanding => ?_, fun waits quiescent => ?_, fun gone => ?_,
    sound.tables_of_gone, fun gone address call object => ?_,
    fun gone address stream object => ?_⟩
  · obtain ⟨call, cell, -⟩ := sound.call_of_mem outstanding
    rw [clientStep_unary cell]
    rfl
  · obtain ⟨stream, object, -⟩ := sound.stream_of_mem outstanding
    rw [clientStep_returned outstanding object]
    rfl
  · obtain ⟨after, news, joins⟩ := clientStep_joined waits quiescent
    rw [joins]
    rfl
  · obtain ⟨-, streams, calls, -⟩ := sound.drained gone
    exact ⟨calls, streams⟩
  · by_contra named
    have listed := sound.callListed address call object named
    exact absurd ((sound.tables_of_gone gone call.id).1.symm.trans listed) (by simp)
  · by_contra named
    have listed := sound.streamListed address stream object named
    exact absurd ((sound.tables_of_gone gone stream.id).2.symm.trans listed) (by simp)

/-- A client with a call and a stream that reads is closed. -/
def closingInputs : List ClientInput :=
  [.callStart (.text [47]) [] {} 0, .streamStart (.text [47]) {} 0 2 16,
    .returned 0 .start { ok := true }, .close]

def closingReturns : List ClientInput :=
  [.returned 0 .read { ok := false }, .unary 0 { ok := true }, .joined]

theorem client_close_returns_reading : ∃ client log later more,
    (clientMachine ⟨16, 0⟩).Run Machine.Free client log ∧ client.rthread = .joining ∧
      ((clientMachine ⟨16, 0⟩).startedAt client).Run Machine.Free later more ∧
      client.drain = 2 ∧ weigh ClientObs.completes more = 2 ∧ later.rthread = .gone ∧
      CloseReturns client later more := by
  have run := Machine.run_of_exec (show (clientMachine ⟨16, 0⟩).exec Machine.Free _
    closingInputs = some _ from rfl)
  have on := Machine.run_of_exec (show ((clientMachine ⟨16, 0⟩).startedAt _).exec Machine.Free
    (((clientMachine ⟨16, 0⟩).exec Machine.Free (clientMachine ⟨16, 0⟩).start
      closingInputs).get rfl).1 closingReturns = some _ from rfl)
  exact ⟨_, _, _, _, run, rfl, on, rfl, rfl, rfl,
    (client_close_returns ⟨16, 0⟩ _ _ run rfl).2 _ _ on⟩

end Rgrpc.Client
