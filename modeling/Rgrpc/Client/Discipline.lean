/-
This file proves the operation discipline of the client: whatever is posted on
any stream, along any run, is posted by the rules of the gRPC API, and nothing
is posted on any stream once the client shuts down.
-/

import Rgrpc.Client.Runs

namespace Rgrpc.Client

open Library

/-! ### What the rules imply for a log -/

/-- An operation that the rules allow only while none was posted is posted at most once. -/
theorem posts_le_one {op : TagKind} {log : List StreamObs}
    (once : ∀ before post, post.op = op → Disciplined before (.posted post) → posts op before = 0)
    (lawful : Lawful Disciplined log) : posts op log ≤ 1 := by
  induction log using List.reverseRecOn with
  | nil => exact Nat.zero_le 1
  | append_singleton rest entry inductionHypothesis =>
    obtain ⟨before, last⟩ := lawful_append_singleton.mp lawful
    have bound := inductionHypothesis before
    rw [posts_append]
    cases entry with
    | posted post =>
      by_cases same : post.op = op
      · rw [once rest post same last]
        simp [same]
      · simpa [same] using bound
    | _ => simpa [posts] using bound

theorem posts_finish_le_one {log : List StreamObs} (lawful : Lawful Disciplined log) :
    posts .finish log ≤ 1 := by
  refine posts_le_one (fun before post kind disciplined => ?_) lawful
  cases post with
  | finish => exact disciplined.1.2
  | _ => exact absurd kind (by simp [StreamPost.op])

theorem posts_wdone_le_one {log : List StreamObs} (lawful : Lawful Disciplined log) :
    posts .wdone log ≤ 1 := by
  refine posts_le_one (fun before post kind disciplined => ?_) lawful
  cases post with
  | writesDone => exact disciplined.2.2
  | _ => exact absurd kind (by simp [StreamPost.op])

/-- At most one read is outstanding, and at most one of a write and the half-close. -/
theorem Phase.count_le_one {view : StreamView} {log : List StreamObs} (phase : Phase view log) :
    view.cell.tags.count .read ≤ 1 ∧
      view.cell.tags.count .write + view.cell.tags.count .wdone ≤ 1 := by
  cases phase with
  | fresh cell silent =>
    rw [cell]
    exact ⟨Nat.zero_le 1, Nat.zero_le 1⟩
  | live stream object named ledger unended kept =>
    rw [ledger.read, ledger.write, ledger.wdone]
    refine ⟨by split <;> omega, ?_⟩
    cases closing : stream.wdoneInflight with
    | true =>
      have settled := ledger.drained (by rw [closing, Bool.true_or])
      rw [settled.2.2]
      exact Nat.le_refl 1
    | false => split <;> simp
  | gone cell deleted lawful =>
    rw [cell]
    exact ⟨Nat.zero_le 1, Nat.zero_le 1⟩

/-! ### A client that shuts down posts nothing -/

section Shutting

variable (stream : StreamState)

theorem sPostReadLocked_shutting : sPostReadLocked true stream = (stream, []) := rfl

theorem sPumpWritesLocked_shutting : sPumpWritesLocked true stream = (stream, []) := rfl

theorem postedTags_runStream_shutting (op : TagKind) (delivery : Delivery) :
    postedTags (runStream true op delivery stream).2 = [] := by
  cases op with
  | start =>
    simp only [runStream, runStart, sPostReadLocked_shutting, andThen]
    split <;> rfl
  | read =>
    simp only [runStream, runRead, sPostReadLocked_shutting, andThen]
    split
    · split <;> rfl
    · rfl
  | write =>
    simp only [runStream, runWrite, sPumpWritesLocked_shutting, andThen]
    split
    · simp only
      split <;> rfl
    · rfl
  | wdone => rfl
  | finish => rfl

theorem postedTags_handleTag_shutting (op : TagKind) (delivery : Delivery)
    (tags : List TagKind) :
    postedTags (handleTag true op delivery stream tags).2 = [] := by
  have ran := postedTags_runStream_shutting stream op delivery
  simp only [handleTag, List.cons_append]
  change postedTags (_ ++ _) = []
  rw [postedTags_append, ran]
  split <;> rfl

end Shutting

/-- Nothing was posted on any stream. -/
def Unposted (obs : List ClientObs) : Prop := ∀ address, postedTags (streamLog address obs) = []

theorem Unposted.append {obs more : List ClientObs} (first : Unposted obs)
    (second : Unposted more) : Unposted (obs ++ more) := by
  intro address
  rw [streamLog_append, postedTags_append, first address, second address, List.append_nil]

theorem unposted_map {obs : List StreamObs} (silent : postedTags obs = []) (address : Nat) :
    Unposted (obs.map (ClientObs.stream address)) := by
  intro other
  by_cases same : address = other
  · subst same
    rw [streamLog_map_self]
    exact silent
  · rw [streamLog_map_of_ne other same]
    rfl

theorem Still.unposted {obs : List ClientObs} (still : Still obs) : Unposted obs := by
  intro address
  rw [still.streams]
  rfl

theorem unposted_of_collected {obs : List ClientObs}
    (collected : ∀ entry ∈ obs, Collected true entry) : Unposted obs := by
  intro address
  refine List.filterMap_eq_nil_iff.mpr fun entry member => ?_
  cases collected _ (mem_streamLog_iff.mp member) with
  | taken other => rfl
  | read other running => exact absurd running (by simp)

/-- A poll on a client that shuts down posts nothing. -/
theorem pollTake_unposted {client : RClient} (shutting : client.shutting = true)
    (args : PollArgs) : Unposted (client.pollTake args).2 := by
  have collected := collected_takeLoop client args
  rw [shutting] at collected
  rw [RClient.pollTake]
  exact (unposted_of_collected collected).append (still_polled _ _).unposted

/-- A step of a client that shuts down posts nothing on any stream. -/
theorem unposted_of_shutting {client after : RClient} {log news : List ClientObs}
    {input : ClientInput} (sound : Sound client log) (shutting : client.shutting = true)
    (taken : clientStep client input = some (after, news)) : Unposted news := by
  have closed : client.closed = true := sound.closing.symm.trans shutting
  cases turn_of_step taken with
  | unary address delivery call outstanding object => exact fun _ => rfl
  | returned address op delivery stream outstanding object =>
    have silent := postedTags_handleTag_shutting stream op delivery
      (client.streamArena.cell address).tags
    rw [← shutting] at silent
    exact unposted_map silent address
  | leakCall method request opts now error opened named raises =>
    exact absurd (opened.symm.trans closed) Bool.false_ne_true
  | leakStream method opts now readCap writeCap error opened named raises =>
    exact absurd (opened.symm.trans closed) Bool.false_ne_true
  | callStarted method request opts now name context opened clean =>
    exact absurd (opened.symm.trans closed) Bool.false_ne_true
  | streamStarted method opts now readCap writeCap opened clean =>
    exact absurd (opened.symm.trans closed) Bool.false_ne_true
  | request id request address stream opened found object =>
    exact absurd (opened.symm.trans closed) Bool.false_ne_true
  | polled input wake args origin =>
    have stopping : ({ client with wake } : RClient).shutting = true := shutting
    exact pollTake_unposted stopping args
  | quiet input after news quiet origin => exact quiet.still.unposted
  | closing opened => exact absurd (opened.symm.trans closed) Bool.false_ne_true
  | joined after news joining ended =>
    intro address
    obtain ⟨-, -, -, rfl⟩ := sound.endClose_eq ended
    rw [streamLog_map_deleted sound.streamRegistry.entries_nodup]
    split <;> rfl
  | lost input after news lost => exact absurd lost sound.not_lost

/-- A step of a client that shuts down posts no unary call. -/
theorem uncalled_of_shutting {client after : RClient} {log news : List ClientObs}
    {input : ClientInput} (sound : Sound client log) (shutting : client.shutting = true)
    (taken : clientStep client input = some (after, news)) (address : Nat) (name : Bytes)
    (context : ClientContext) (request : ByteBuffer) :
    ClientObs.unary address (.posted name context request) ∉ news := by
  have closed : client.closed = true := sound.closing.symm.trans shutting
  rw [← mem_unaryLog_iff]
  cases turn_of_step taken with
  | unary home delivery call outstanding object =>
    rw [mem_unaryLog_iff]
    simp [RClient.handleUnary]
  | returned home op delivery stream outstanding object =>
    rw [RClient.handleStream, unaryLog_map_stream]
    exact List.not_mem_nil
  | leakCall method request opts now error opened named raises => exact List.not_mem_nil
  | leakStream method opts now readCap writeCap error opened named raises => exact List.not_mem_nil
  | callStarted method request opts now name context opened clean =>
    exact absurd (opened.symm.trans closed) Bool.false_ne_true
  | streamStarted method opts now readCap writeCap opened clean =>
    exact absurd (opened.symm.trans closed) Bool.false_ne_true
  | request id request home stream opened found object =>
    exact absurd (opened.symm.trans closed) Bool.false_ne_true
  | polled input wake args origin =>
    rw [RClient.pollTake, unaryLog_append, (still_polled _ _).calls, List.append_nil,
      mem_unaryLog_iff]
    intro member
    cases collected_takeLoop _ args _ member
  | quiet input after news quiet origin =>
    rw [quiet.still.calls]
    exact List.not_mem_nil
  | closing opened => exact absurd (opened.symm.trans closed) Bool.false_ne_true
  | joined after news joining ended =>
    obtain ⟨-, -, -, rfl⟩ := sound.endClose_eq ended
    rw [unaryLog_map_deleted_stream]
    exact List.not_mem_nil
  | lost input after news lost => exact absurd lost sound.not_lost

/-! ### The discipline of the client -/

/-- The operation discipline of a client: on every stream every operation was posted by the rules,
at most one read and at most one of a write and the half-close is outstanding, the half-close and
the finish were each posted at most once, and whatever the next step posts on any stream, it posts
while the client is not shutting down. -/
structure OperationDiscipline (client : RClient) (log : List ClientObs) : Prop where
  lawful : ∀ address, Lawful Disciplined (streamLog address log)
  reads : ∀ address, (client.streamArena.cell address).tags.count .read ≤ 1
  writes : ∀ address, (client.streamArena.cell address).tags.count .write +
    (client.streamArena.cell address).tags.count .wdone ≤ 1
  halfCloses : ∀ address, posts .wdone (streamLog address log) ≤ 1
  finishes : ∀ address, posts .finish (streamLog address log) ≤ 1
  posting : ∀ input after news, clientStep client input = some (after, news) →
    ∀ address post, ClientObs.stream address (.posted post) ∈ news → client.shutting = false

/-- Every operation of every stream was posted by the rules. -/
theorem Sound.lawful {client : RClient} {log : List ClientObs} (sound : Sound client log)
    (address : Nat) : Lawful Disciplined (streamLog address log) := by
  by_cases allocated : address < client.streamArena.size
  · exact (sound.phase allocated).lawful
  · rw [sound.unusedStreams address (Nat.le_of_not_lt allocated)]
    exact lawful_nil _

/-- The operation discipline holds in every state of every run of a client, with every number of
streams and every order of requests, polls and completions. -/
theorem stream_operations_disciplined (wake : WakeHandle) (client : RClient)
    (log : List ClientObs) (run : (clientMachine wake).Run Machine.Free client log) :
    OperationDiscipline client log := by
  have sound := sound_of_run run
  have counts (address : Nat) : (client.streamArena.cell address).tags.count .read ≤ 1 ∧
      (client.streamArena.cell address).tags.count .write +
        (client.streamArena.cell address).tags.count .wdone ≤ 1 := by
    by_cases allocated : address < client.streamArena.size
    · exact (sound.phase allocated).count_le_one
    · rw [Arena.cell_of_size_le (Nat.le_of_not_lt allocated)]
      exact ⟨Nat.zero_le 1, Nat.zero_le 1⟩
  refine ⟨sound.lawful, fun address => (counts address).1, fun address => (counts address).2,
    fun address => posts_wdone_le_one (sound.lawful address),
    fun address => posts_finish_le_one (sound.lawful address), ?_⟩
  intro input after news taken address post posted
  by_contra shutting
  rw [Bool.not_eq_false] at shutting
  have silent := unposted_of_shutting sound shutting taken address
  have member : post.op ∈ postedTags (streamLog address news) :=
    List.mem_filterMap.mpr ⟨_, mem_streamLog_iff.mpr posted, rfl⟩
  rw [silent] at member
  exact absurd member List.not_mem_nil

/-- A stream that is opened, sent to, half-closed and answered, and a second one that is open when
the client is closed. -/
def closedInputs : List ClientInput :=
  [.streamStart (.text [47]) {} 0 16 16,
    .streamStart (.text [47]) {} 0 16 16,
    .returned 0 .start { ok := true },
    .request 1 (.send [1]),
    .request 1 .writesDone,
    .returned 0 .write { ok := true },
    .returned 0 .wdone { ok := true },
    .returned 0 .read { ok := true, message := .ofRaw [2] },
    .returned 0 .read { ok := false },
    .returned 1 .start { ok := true },
    .close,
    .returned 1 .read { ok := false }]

theorem stream_operations_disciplined_closed : ∃ client log,
    (clientMachine ⟨16, 0⟩).Run Machine.Free client log ∧
      posts .finish (streamLog 0 log) = 1 ∧ posts .wdone (streamLog 0 log) = 1 ∧
      posts .finish (streamLog 1 log) = 0 ∧ client.shutting = true ∧
      OperationDiscipline client log := by
  have run := Machine.run_of_exec (show (clientMachine ⟨16, 0⟩).exec Machine.Free
    (clientMachine ⟨16, 0⟩).start closedInputs = some _ from rfl)
  exact ⟨_, _, run, by decide, by decide, by decide, rfl,
    stream_operations_disciplined ⟨16, 0⟩ _ _ run⟩

end Rgrpc.Client
