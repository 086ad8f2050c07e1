/-
This file looks at one stream from some moment of a run on. What happens to a
stream after that moment is a run of `streamMachine` started in the state it had
then, whatever the client does meanwhile. A property of "every continuation" is
a property of such runs.
-/

import Rgrpc.Client.Runs

namespace Rgrpc.Client

open Library

/-- What happens to one stream from the state it is in on. -/
abbrev Onward (view after : StreamView) (more : List StreamObs) : Prop :=
  (streamMachine.startedAt view).Run Machine.Free after more

theorem onward_refl (view : StreamView) : Onward view view [] := .start

theorem Onward.trans {view middle after : StreamView} {more last : List StreamObs}
    (first : Onward view middle more) (second : Onward middle after last) :
    Onward view after (more ++ last) :=
  Machine.Run.trans first second

theorem onward_step {view after : StreamView} {news : List StreamObs} (input : StreamInput)
    (taken : streamStep view input = some (after, news)) : Onward view after news :=
  .next .start trivial taken

/-- A stream that a step does not touch stays where it is. -/
theorem onward_still {view after : StreamView} {news : List StreamObs} (same : after = view)
    (silent : news = []) : Onward view after news := by
  rw [same, silent]
  exact onward_refl view

section Step

variable {client after : RClient} {log news : List ClientObs} {address other : Nat}
  {stream : StreamState}

/-- A section of one stream is one step of it, and none of the others. -/
theorem Sound.onward_section (sound : Sound client log) {id : Nat}
    {left : StreamState × List StreamObs} (found : client.streams.lookup id = some address)
    (object : (client.streamArena.cell address).object = some stream)
    (origin : SectionOf client stream left) :
    Onward (client.view other) ((client.withSection address left).view other)
      (streamLog other (left.2.map (ClientObs.stream address))) := by
  have named : stream.id ≠ 0 := by
    obtain ⟨stream', object', same, nonzero⟩ := sound.streamTable id address found
    obtain rfl := Option.some.inj (object.symm.trans object')
    rw [same]
    exact nonzero
  have view : (client.withSection address left).view other =
      ⟨(client.streamArena.set address
        (sectionCell left (client.streamArena.cell address).tags)).cell other,
        client.shutting⟩ := rfl
  rw [view]
  by_cases same : address = other
  · subst same
    obtain ⟨input, taken⟩ := origin.step object named
    rw [streamLog_map_self, Arena.cell_set_self (Arena.lt_size_of_object object)]
    exact onward_step input taken
  · refine onward_still ?_ (streamLog_map_of_ne other same _)
    rw [Arena.cell_set_of_ne same]
    rfl

/-- A handler is one step of the stream whose tag came back, and none of the others. -/
theorem onward_handleStream {op : TagKind} (delivery : Delivery)
    (outstanding : op ∈ (client.streamArena.cell address).tags)
    (object : (client.streamArena.cell address).object = some stream) :
    Onward (client.view other) ((client.handleStream address op delivery stream).1.view other)
      (streamLog other (client.handleStream address op delivery stream).2) := by
  have view : (client.handleStream address op delivery stream).1.view other =
      ⟨(client.streamArena.set address (handleTag client.shutting op delivery stream
        (client.streamArena.cell address).tags).1).cell other, client.shutting⟩ := rfl
  rw [view, RClient.handleStream]
  by_cases same : address = other
  · subst same
    rw [streamLog_map_self, Arena.cell_set_self (Arena.lt_size_of_object object)]
    refine onward_step (.returned op delivery) ?_
    simp only [streamStep, RClient.view, List.contains_iff_mem.mpr outstanding, if_true, object,
      Option.map_some]
  · refine onward_still ?_ (streamLog_map_of_ne other same _)
    rw [Arena.cell_set_of_ne same]
    rfl

/-- What a poll does for an event it takes is at most one step of each stream. -/
theorem Sound.onward_account (sound : Sound client log) (event : ClEvent) (other : Nat) :
    Onward (client.view other) ((client.account event).1.view other)
      (streamLog other (client.account event).2) := by
  rcases account_cases client event with ⟨-, equal⟩ | ⟨address, -, found, missing, -⟩ |
    ⟨address, stream, -, found, object, equal⟩
  · rw [equal]
    exact onward_refl _
  · obtain ⟨stream, object, -⟩ := sound.streamTable event.id address found
    exact absurd (missing.symm.trans object) (by simp)
  · rw [equal]
    exact sound.onward_section found object (Or.inr rfl)

/-- A poll that ends is as many steps of a stream as it takes messages of it. -/
theorem Sound.onward_pollTake (sound : Sound client log) (args : PollArgs) (other : Nat) :
    Onward (client.view other) ((client.pollTake args).1.view other)
      (streamLog other (client.pollTake args).2) := by
  have loop := takeLoop_invariant (fun event : ClEvent => args.wants event.id) RClient.account
    args.maxEvents
    (fun (state : RClient) (more : List ClientObs) event _
        (before : Sound state (log ++ more) ∧
          Onward (client.view other) (state.view other) (streamLog other more)) => by
      refine ⟨?_, ?_⟩
      · rw [← List.append_assoc]
        exact before.1.account event
      · rw [streamLog_append]
        exact before.2.trans (before.1.onward_account event other))
    client.ready 0 client [] ⟨by rwa [List.append_nil], onward_refl _⟩
  rw [RClient.pollTake, streamLog_append, (still_polled _ _).streams, List.append_nil]
  exact loop.2

theorem size_pollTake (client : RClient) (args : PollArgs) :
    (client.pollTake args).1.streamArena.size = client.streamArena.size :=
  takeLoop_invariant (fun event : ClEvent => args.wants event.id) RClient.account args.maxEvents
    (fun (state : RClient) (_ : List ClientObs) event _
        (before : state.streamArena.size = client.streamArena.size) => by
      rcases account_cases state event with ⟨-, equal⟩ | ⟨address, -, -, -, equal⟩ |
        ⟨address, stream, -, -, -, equal⟩
      · rw [equal]
        exact before
      · rw [equal]
        exact before
      · rw [equal, RClient.withSection, Arena.size_set]
        exact before)
    client.ready 0 client [] rfl

/-- The end of a close deletes a stream, or leaves it alone. -/
theorem Sound.onward_endClose (sound : Sound client log) (joining : client.rthread = .joining)
    (ended : client.endClose = some (after, news)) (other : Nat) :
    Onward (client.view other) (after.view other) (streamLog other news) := by
  have closed := sound.joining joining
  obtain ⟨-, idle, rfl, rfl⟩ := sound.endClose_eq ended
  have cell := Arena.cell_deleteAll client.streamArena (client.streams.entries.map Sigma.snd)
  rw [streamLog_map_deleted sound.streamRegistry.entries_nodup, RClient.view, RClient.view]
  by_cases swept : other ∈ client.streams.entries.map Sigma.snd
  · obtain ⟨stream, object, named⟩ := (sound.streamRegistry.mem_entries other).mp swept
    rw [if_pos swept, cell, if_pos swept]
    refine onward_step .swept ?_
    simp [streamStep, sound.closing, closed, idle.tags_eq_nil other, object, Option.filter, named]
  · rw [if_neg swept, cell, if_neg swept]
    exact onward_refl _

/-- A step of the client takes each of its streams some steps on. -/
theorem Sound.onward_step {input : ClientInput} (sound : Sound client log)
    (allocated : other < client.streamArena.size)
    (taken : clientStep client input = some (after, news)) :
    Onward (client.view other) (after.view other) (streamLog other news) ∧
      other < after.streamArena.size := by
  cases turn_of_step taken with
  | unary address delivery call outstanding object => exact ⟨onward_refl _, allocated⟩
  | returned address op delivery stream outstanding object =>
    exact ⟨onward_handleStream delivery outstanding object,
      by rwa [RClient.handleStream, Arena.size_set]⟩
  | leakCall method request opts now error opened named raises =>
    exact ⟨onward_refl _, allocated⟩
  | leakStream method opts now readCap writeCap error opened named raises =>
    refine ⟨onward_still ?_ rfl, ?_⟩
    · rw [RClient.view, Arena.cell_push_of_lt allocated]
      rfl
    · rw [Arena.size_push]
      exact Nat.lt_succ_of_lt allocated
  | callStarted method request opts now name context opened clean =>
    exact ⟨onward_refl _, allocated⟩
  | streamStarted method opts now readCap writeCap opened clean =>
    refine ⟨onward_still ?_ ?_, ?_⟩
    · rw [RClient.view, RClient.withStream, Arena.cell_push_of_lt allocated]
      rfl
    · simp [streamLog, Nat.ne_of_gt allocated]
    · rw [RClient.withStream, Arena.size_push]
      exact Nat.lt_succ_of_lt allocated
  | request id request address stream opened found object =>
    refine ⟨?_, by rwa [RClient.withSection, Arena.size_set]⟩
    rw [streamLog_append, (still_result _ _ _).streams, List.append_nil]
    exact sound.onward_section found object (Or.inl ⟨request, rfl⟩)
  | polled input wake args origin =>
    have awake : Sound { client with wake } log :=
      sound.idle wake client.ready client.rthread fun _ => rfl
    refine ⟨awake.onward_pollTake args other, ?_⟩
    rw [size_pollTake]
    exact allocated
  | quiet input after news quiet origin =>
    rw [quiet.same]
    exact ⟨onward_still rfl (quiet.still.streams other), allocated⟩
  | closing opened => exact ⟨Client.onward_step .shut rfl, allocated⟩
  | joined after news joining ended =>
    refine ⟨sound.onward_endClose joining ended other, ?_⟩
    obtain ⟨-, -, rfl, -⟩ := sound.endClose_eq ended
    rwa [Arena.size_deleteAll]
  | lost input after news lost => exact absurd lost sound.not_lost

/-- What happens in a client from some moment on is, for each stream it has then, what happens to
that stream from the state it is in on. -/
theorem Sound.onward {wake : WakeHandle} {more : List ClientObs} (sound : Sound client log)
    (allocated : other < client.streamArena.size)
    (on : ((clientMachine wake).startedAt client).Run Machine.Free after more) :
    Sound after (log ++ more) ∧
      Onward (client.view other) (after.view other) (streamLog other more) ∧
      other < after.streamArena.size := by
  induction on with
  | start =>
    refine ⟨?_, onward_refl _, allocated⟩
    rw [show ((clientMachine wake).startedAt client).opening = [] from rfl, List.append_nil]
    exact sound
  | next _ _ taken inductionHypothesis =>
    obtain ⟨later, onward, inside⟩ := inductionHypothesis
    obtain ⟨step, still⟩ := later.onward_step inside taken
    refine ⟨?_, ?_, still⟩
    · rw [← List.append_assoc]
      exact later.step taken
    · rw [streamLog_append]
      exact onward.trans step

end Step

end Rgrpc.Client
