/-
This file is about the way of an event from the queue `ready` to R. Both polls
take a batch out of the queue first and convert it afterwards. A conversion that
fails raises an R error, and by then the batch is gone. The conversion of an
event fails exactly when it carries metadata with a NUL byte in a key or a
value, so a poll delivers all-or-nothing exactly when none of the events it is
about to take does.
-/

import Rgrpc.Client.Inversion
import Rgrpc.Library.Traverse
import Rgrpc.Server.Server

namespace Rgrpc

open Library

/-! ### All or nothing -/

/-- A poll that is all-or-nothing, given the queue before and after it, the batch it took and what
it returned: it returned every event it took, or it raised an error and left the queue alone. -/
def AllOrNothing {Event Value : Type} (convert : Event → Except RError Value)
    (ready left batch : List Event) (value : Except RError (List Value)) : Prop :=
  (∃ values, value = .ok values ∧
      List.Forall₂ (fun event value => convert event = .ok value) batch values ∧
      (batch ++ left).Perm ready) ∨
    (∃ error, value = .error error) ∧ left = ready

/-- The events a poll is about to take: the first of the queue that it wants, up to its bound. -/
def due {Event : Type} (wanted : Event → Bool) (maxEvents : Int) (ready : List Event) :
    List Event :=
  (ready.filter wanted).take maxEvents.toNat

/-- The take loop followed by the conversion of its batch is all-or-nothing exactly when every
event it is about to take can be converted. -/
theorem allOrNothing_takeLoop_iff {State Event Obs Value : Type} (wanted : Event → Bool)
    (account : State → Event → State × List Obs) (maxEvents : Int) (ready : List Event)
    (state : State) (convert : Event → Except RError Value) :
    AllOrNothing convert ready (takeLoop wanted account maxEvents ready 0 state).left
        (takeLoop wanted account maxEvents ready 0 state).batch
        ((takeLoop wanted account maxEvents ready 0 state).batch.mapM convert) ↔
      ∀ event ∈ due wanted maxEvents ready, ∃ value, convert event = .ok value := by
  have batch : (takeLoop wanted account maxEvents ready 0 state).batch =
      due wanted maxEvents ready := by
    rw [takeLoop_batch, due]
    simp
  have whole := takeLoop_perm wanted account maxEvents ready 0 state
  rw [batch] at whole ⊢
  constructor
  · rintro (⟨values, converted, -⟩ | ⟨-, same⟩) event member
    · by_contra fails
      obtain ⟨error, failed⟩ := mapM_error_of_mem member (not_exists.mp fails)
      exact absurd (converted.symm.trans failed) (by simp)
    · rw [same] at whole
      have length := whole.length_eq
      rw [List.length_append] at length
      have empty : due wanted maxEvents ready = [] := List.length_eq_zero_iff.mp (by omega)
      rw [empty] at member
      exact absurd member List.not_mem_nil
  · intro succeeds
    obtain ⟨values, converted, each⟩ := mapM_ok_of_forall succeeds
    exact Or.inl ⟨values, converted, each, whole⟩

/-- Metadata can be converted exactly when no key or value of it has a NUL byte. -/
theorem grpcPairsToR_iff (pairs : MdPairs) :
    (∃ converted, grpcPairsToR pairs = .ok converted) ↔ pairs.any pairHasNul = false := by
  constructor
  · rintro ⟨converted, succeeded⟩
    rw [List.any_eq_false]
    intro pair member nul
    obtain ⟨error, failed⟩ := pairToR_of_nul nul
    have fails (result : Bytes × Bytes) : pairToR pair ≠ .ok result := by
      rw [failed]
      simp
    obtain ⟨error, all⟩ := mapM_error_of_mem member fails
    exact absurd (succeeded.symm.trans all) (by simp)
  · intro clean
    have succeeds (pair : Bytes × Bytes) (member : pair ∈ pairs) :
        ∃ converted, pairToR pair = .ok converted :=
      ⟨pair, pairToR_of_not_nul (by simpa using List.any_eq_false.mp clean pair member)⟩
    obtain ⟨converted, all, -⟩ := mapM_ok_of_forall succeeds
    exact ⟨converted, all⟩

end Rgrpc

namespace Rgrpc.Client

open Library

/-! ### The client -/

/-- Whether the metadata R gets with an event has a NUL byte. -/
def ClEvent.hasNul (event : ClEvent) : Bool :=
  event.terminal && (event.initialMd.any pairHasNul || event.trailingMd.any pairHasNul)

theorem toR_iff (event : ClEvent) :
    (∃ value, event.toR = .ok value) ↔ event.hasNul = false := by
  unfold ClEvent.toR ClEvent.hasNul
  cases event.terminal with
  | false => simp
  | true =>
    have first := grpcPairsToR_iff event.initialMd
    have second := grpcPairsToR_iff event.trailingMd
    simp only [if_true, Bool.true_and, Bool.or_eq_false_iff]
    rw [← first, ← second]
    cases grpcPairsToR event.initialMd with
    | error error => simp [bind, Except.bind]
    | ok initial =>
      cases grpcPairsToR event.trailingMd with
      | error error => simp [bind, Except.bind]
      | ok trailing => simp [bind, Except.bind, pure, Except.pure]

/-- The arguments of the poll a step of the R thread belongs to. -/
def RClient.pollArgs (client : RClient) : ClientInput → Option PollArgs
  | .poll args _ => some args
  | .woken _ _ =>
    match client.rthread with
    | .polling args => some args
    | _ => none
  | _ => none

/-- What a poll reports is the batch of its take loop and the conversion of it. -/
theorem polled_mem_pollTake {client : RClient} {args : PollArgs} {batch : List ClEvent}
    {value : Except RError (List RClEvent)}
    (polled : ClientObs.polled batch value ∈ (client.pollTake args).2) :
    batch = (takeLoop (fun event : ClEvent => args.wants event.id) RClient.account
        args.maxEvents client.ready 0 client).batch ∧ value = batch.mapM ClEvent.toR := by
  rw [RClient.pollTake, List.mem_append] at polled
  rcases polled with collected | last
  · cases collected_takeLoop client args _ collected
  · simp only [List.mem_singleton, ClientObs.polled.injEq] at last
    exact ⟨last.1, by rw [last.2, last.1]⟩

theorem allOrNothing_pollTake_iff {client : RClient} {args : PollArgs} {batch : List ClEvent}
    {value : Except RError (List RClEvent)}
    (polled : ClientObs.polled batch value ∈ (client.pollTake args).2) :
    AllOrNothing ClEvent.toR client.ready (client.pollTake args).1.ready batch value ↔
      ∀ event ∈ due (fun event : ClEvent => args.wants event.id) args.maxEvents client.ready,
        event.hasNul = false := by
  obtain ⟨rfl, rfl⟩ := polled_mem_pollTake polled
  simp only [← toR_iff]
  exact allOrNothing_takeLoop_iff _ _ _ _ _ _

/-- A step of a poll: it ends the poll with its take loop, or it leaves the queue alone and the
poll does not return. -/
def PollStep (client after : RClient) (news : List ClientObs) (args : PollArgs) : Prop :=
  (∃ wake, (after, news) = ({ client with wake } : RClient).pollTake args) ∨
    after.ready = client.ready ∧ ∀ batch value, ClientObs.polled batch value ∉ news

theorem pollStep_pollAttempt {client after : RClient} {news : List ClientObs} {args : PollArgs}
    {leftMs : Int} (attempted : client.pollAttempt args leftMs = (after, news)) :
    PollStep client after news args := by
  unfold RClient.pollAttempt at attempted
  split at attempted
  · simp only at attempted
    split at attempted
    · exact Or.inl ⟨client.wake.drain, attempted.symm⟩
    · obtain ⟨rfl, rfl⟩ := Prod.mk.inj attempted
      exact Or.inr ⟨rfl, fun _ _ => List.not_mem_nil⟩
  · exact Or.inl ⟨client.wake, attempted.symm⟩

theorem pollStep_clientStep {client after : RClient} {input : ClientInput}
    {news : List ClientObs} {args : PollArgs} (asked : client.pollArgs input = some args)
    (taken : clientStep client input = some (after, news)) :
    PollStep client after news args := by
  cases input with
  | poll args' leftMs =>
    obtain rfl := Option.some.inj asked
    rw [clientStep] at taken
    split at taken
    · rw [RClient.grpcRClientPoll] at taken
      split at taken
      · obtain ⟨rfl, rfl⟩ := Prod.mk.inj (Option.some.inj taken)
        exact Or.inr ⟨rfl, by simp⟩
      · exact pollStep_pollAttempt (Option.some.inj taken)
    · exact absurd taken (by simp)
  | woken result leftMs =>
    obtain ⟨args', polling, ended⟩ := woken_cases taken
    simp only [RClient.pollArgs, polling, Option.some.injEq] at asked
    subst asked
    rcases ended with finished | again
    · exact Or.inl ⟨client.wake, finished.symm⟩
    · exact pollStep_pollAttempt again
  | _ => exact absurd asked (by simp [RClient.pollArgs])

/-- The end of a poll is all-or-nothing exactly when no event it is about to take carries metadata
with a NUL byte to R; a poll that does not end leaves the queue alone. -/
theorem PollStep.delivery {client after : RClient} {news : List ClientObs} {args : PollArgs}
    (step : PollStep client after news args) :
    (∀ batch value, .polled batch value ∈ news →
      (AllOrNothing ClEvent.toR client.ready after.ready batch value ↔
        ∀ event ∈ due (fun event : ClEvent => args.wants event.id) args.maxEvents client.ready,
          event.hasNul = false)) ∧
    ((∀ batch value, .polled batch value ∉ news) → after.ready = client.ready) := by
  rcases step with ⟨wake, ended⟩ | ⟨same, silent⟩
  · obtain ⟨rfl, rfl⟩ := Prod.mk.inj ended
    refine ⟨fun batch value polled => allOrNothing_pollTake_iff polled, fun silent => ?_⟩
    exact absurd (List.mem_append_right _ List.mem_cons_self) (silent _ _)
  · exact ⟨fun batch value polled => absurd polled (silent batch value), fun _ => same⟩

end Rgrpc.Client

namespace Rgrpc.Server

open Library

/-! ### The server -/

/-- Whether the metadata R gets with an event has a NUL byte. -/
def SvEvent.hasNul (event : SvEvent) : Bool :=
  event.type == .request && event.metadata.any pairHasNul

theorem toR_iff (event : SvEvent) :
    (∃ value, event.toR = .ok value) ↔ event.hasNul = false := by
  unfold SvEvent.toR SvEvent.hasNul
  cases event.type with
  | request =>
    have metadata := grpcPairsToR_iff event.metadata
    simp only [beq_self_eq_true, Bool.true_and]
    rw [← metadata]
    cases grpcPairsToR event.metadata with
    | error error => simp [bind, Except.bind]
    | ok converted => simp [bind, Except.bind, pure, Except.pure]
  | _ => simp

/-- The arguments of the poll a step of the R thread belongs to. -/
def RServer.pollArgs (server : RServer) : ServerInput → Option PollArgs
  | .poll args _ => some args
  | .woken _ _ =>
    match server.rthread with
    | .polling args => some args
    | _ => none
  | _ => none

theorem allOrNothing_pollTake_iff {server : RServer} {args : PollArgs} {batch : List SvEvent}
    {value : Except RError (List RSvEvent)}
    (polled : ServerObs.polled batch value ∈ (server.pollTake args).2) :
    AllOrNothing SvEvent.toR server.ready (server.pollTake args).1.ready batch value ↔
      ∀ event ∈ due (fun event : SvEvent => args.wants event.id) args.maxEvents server.ready,
        event.hasNul = false := by
  simp only [RServer.pollTake, List.mem_singleton, ServerObs.polled.injEq] at polled
  obtain ⟨rfl, rfl⟩ := polled
  simp only [← toR_iff]
  exact allOrNothing_takeLoop_iff _ _ _ _ _ _

/-- A step of a poll: it ends the poll with its take loop, or it leaves the queue alone and the
poll does not return. -/
def PollStep (server after : RServer) (news : List ServerObs) (args : PollArgs) : Prop :=
  (∃ wake, (after, news) = ({ server with wake } : RServer).pollTake args) ∨
    after.ready = server.ready ∧ ∀ batch value, ServerObs.polled batch value ∉ news

theorem pollStep_pollAttempt {server after : RServer} {news : List ServerObs} {args : PollArgs}
    {leftMs : Int} (attempted : server.pollAttempt args leftMs = (after, news)) :
    PollStep server after news args := by
  unfold RServer.pollAttempt at attempted
  split at attempted
  · simp only at attempted
    split at attempted
    · exact Or.inl ⟨server.wake.drain, attempted.symm⟩
    · obtain ⟨rfl, rfl⟩ := Prod.mk.inj attempted
      exact Or.inr ⟨rfl, fun _ _ => List.not_mem_nil⟩
  · exact Or.inl ⟨server.wake, attempted.symm⟩

theorem pollStep_grpcRServer2Poll {server after : RServer} {news : List ServerObs}
    {args : PollArgs} {leftMs : Int}
    (started : server.grpcRServer2Poll args leftMs = some (after, news)) :
    PollStep server after news args := by
  rw [RServer.grpcRServer2Poll] at started
  split at started
  · obtain ⟨rfl, rfl⟩ := Prod.mk.inj (Option.some.inj started)
    exact Or.inr ⟨rfl, by simp⟩
  · split at started
    · exact absurd started (by simp)
    · exact pollStep_pollAttempt (Option.some.inj started)

theorem pollStep_serverStep {server after : RServer} {input : ServerInput}
    {news : List ServerObs} {args : PollArgs} (asked : server.pollArgs input = some args)
    (taken : serverStep server input = some (after, news)) :
    PollStep server after news args := by
  cases input with
  | poll args' leftMs =>
    obtain rfl := Option.some.inj asked
    rw [serverStep] at taken
    split at taken
    · exact pollStep_grpcRServer2Poll taken
    · exact pollStep_grpcRServer2Poll taken
    · exact absurd taken (by simp)
  | woken result leftMs =>
    rw [serverStep] at taken
    rw [RServer.pollArgs] at asked
    split at taken
    · rename_i args' polling
      simp only [polling, Option.some.injEq] at asked
      subst asked
      rw [RServer.woken] at taken
      split at taken
      · exact absurd taken (by simp)
      · split at taken
        · exact Or.inl ⟨server.wake, (Option.some.inj taken).symm⟩
        · split at taken
          · exact pollStep_pollAttempt (Option.some.inj taken)
          · exact absurd taken (by simp)
    · exact absurd taken (by simp)
  | _ => exact absurd asked (by simp [RServer.pollArgs])

/-- The end of a poll is all-or-nothing exactly when no event it is about to take carries metadata
with a NUL byte to R; a poll that does not end leaves the queue alone. -/
theorem PollStep.delivery {server after : RServer} {news : List ServerObs} {args : PollArgs}
    (step : PollStep server after news args) :
    (∀ batch value, .polled batch value ∈ news →
      (AllOrNothing SvEvent.toR server.ready after.ready batch value ↔
        ∀ event ∈ due (fun event : SvEvent => args.wants event.id) args.maxEvents server.ready,
          event.hasNul = false)) ∧
    ((∀ batch value, .polled batch value ∉ news) → after.ready = server.ready) := by
  rcases step with ⟨wake, ended⟩ | ⟨same, silent⟩
  · obtain ⟨rfl, rfl⟩ := Prod.mk.inj ended
    refine ⟨fun batch value polled => allOrNothing_pollTake_iff polled, fun silent => ?_⟩
    exact absurd List.mem_cons_self (silent _ _)
  · exact ⟨fun batch value polled => absurd polled (silent batch value), fun _ => same⟩

end Rgrpc.Server

namespace Rgrpc

open Library

/-! ### Both polls -/

/-- Every step of a poll with any arguments, on either side and in any state: the step that ends
it is all-or-nothing exactly when none of the events it is about to take carries metadata with a
NUL byte to R, and a step that does not end it leaves the queue alone. -/
theorem poll_all_or_nothing_iff (args : PollArgs) :
    (∀ (client after : Client.RClient) (input : Client.ClientInput)
        (news : List Client.ClientObs),
      client.pollArgs input = some args → Client.clientStep client input = some (after, news) →
      (∀ batch value, .polled batch value ∈ news →
        (AllOrNothing Client.ClEvent.toR client.ready after.ready batch value ↔
          ∀ event ∈ due (fun event : Client.ClEvent => args.wants event.id) args.maxEvents
            client.ready, event.hasNul = false)) ∧
      ((∀ batch value, .polled batch value ∉ news) → after.ready = client.ready)) ∧
    ∀ (server after : Server.RServer) (input : Server.ServerInput)
        (news : List Server.ServerObs),
      server.pollArgs input = some args → Server.serverStep server input = some (after, news) →
      (∀ batch value, .polled batch value ∈ news →
        (AllOrNothing Server.SvEvent.toR server.ready after.ready batch value ↔
          ∀ event ∈ due (fun event : Server.SvEvent => args.wants event.id) args.maxEvents
            server.ready, event.hasNul = false)) ∧
      ((∀ batch value, .polled batch value ∉ news) → after.ready = server.ready) :=
  ⟨fun _ _ _ _ asked taken => (Client.pollStep_clientStep asked taken).delivery,
    fun _ _ _ _ asked taken => (Server.pollStep_serverStep asked taken).delivery⟩

/-- A client with two events waiting: a message of one stream and the status of another. -/
def answeredClient : Client.RClient where
  wake := ⟨16, 2⟩
  ready := [{ kind := .smsg, id := 1, hasBytes := true, bytes := [1] },
    { kind := .status, id := 2, trailingMd := [([97], [98])] }]

/-- A server with a request waiting. -/
def askedServer : Server.RServer where
  wake := ⟨16, 1⟩
  acceptWindow := 1
  maxActive := 1
  ready := [{ type := .request, id := 1, metadata := [([97], [98])] }]

theorem poll_all_or_nothing_answered :
    (∃ after news batch value,
      Client.clientStep answeredClient (.poll ⟨16, 0, none⟩ 0) = some (after, news) ∧
      .polled batch value ∈ news ∧
      AllOrNothing Client.ClEvent.toR answeredClient.ready after.ready batch value) ∧
    ∃ after news batch value,
      Server.serverStep askedServer (.poll ⟨16, 0, none⟩ 0) = some (after, news) ∧
      .polled batch value ∈ news ∧
      AllOrNothing Server.SvEvent.toR askedServer.ready after.ready batch value := by
  constructor
  · have delivered := (poll_all_or_nothing_iff ⟨16, 0, none⟩).1 answeredClient _
      (.poll ⟨16, 0, none⟩ 0) _ rfl rfl
    exact ⟨_, _, _, _, rfl, List.mem_append_right _ List.mem_cons_self,
      (delivered.1 _ _ (List.mem_append_right _ List.mem_cons_self)).mpr (by decide)⟩
  · have delivered := (poll_all_or_nothing_iff ⟨16, 0, none⟩).2 askedServer _
      (.poll ⟨16, 0, none⟩ 0) _ rfl rfl
    exact ⟨_, _, _, _, rfl, List.mem_cons_self,
      (delivered.1 _ _ List.mem_cons_self).mpr (by decide)⟩

/-- A message arrives on one stream, and the status of another with a NUL byte in the value of the
trailing metadata key `a-bin`. -/
def nulInputs : List Client.ClientInput :=
  [.streamStart (.text [47]) {} 0 16 16,
    .streamStart (.text [47]) {} 0 16 16,
    .returned 0 .start { ok := true },
    .returned 0 .read { ok := true, message := .ofRaw [1] },
    .returned 1 .start { ok := false },
    .returned 1 .finish { ok := true, trailingMd := [([97, 45, 98, 105, 110], [0])] }]

/-- The poll that takes the two events raises an error, and the message of the one stream is lost
with the status of the other. -/
theorem poll_loses_batch : ∃ client log after news batch error,
    (Client.clientMachine ⟨16, 0⟩).Run Machine.Free client log ∧
      Client.clientStep client (.poll ⟨16, 0, none⟩ 0) = some (after, news) ∧
      .polled batch (.error error) ∈ news ∧ batch = client.ready ∧ batch.length = 2 ∧
      after.ready = [] ∧
      ¬ AllOrNothing Client.ClEvent.toR client.ready after.ready batch (.error error) := by
  have run := Machine.run_of_exec (show (Client.clientMachine ⟨16, 0⟩).exec Machine.Free
    (Client.clientMachine ⟨16, 0⟩).start nulInputs = some _ from rfl)
  refine ⟨_, _, _, _, _, _, run, rfl, List.mem_append_right _ List.mem_cons_self, rfl, rfl, rfl,
    ?_⟩
  rintro (⟨values, converted, -⟩ | ⟨-, kept⟩)
  · exact absurd converted (by simp)
  · exact absurd kept (by decide)

end Rgrpc
