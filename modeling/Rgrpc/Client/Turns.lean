/-
This file looks at one step of the client from one of its streams. A completion
of the stream is one step of it; any other input of the client is some steps of
it that are no completions, or none. An address that was not handed out yet is
seen as a stream that was not opened.
-/

import Rgrpc.Client.Flow
import Rgrpc.Client.Output
import Rgrpc.Client.Runs

namespace Rgrpc.Client

open Library

/-- A stream of a client as it is seen before and after it was allocated. -/
def RClient.streamView (client : RClient) (address : Nat) : StreamView :=
  if address < client.streamArena.size then client.view address else streamMachine.start

/-- The guard that lets no tag of a stream come back. -/
def Unreturned (_ : StreamView) : StreamInput → Prop
  | .returned _ _ => False
  | _ => True

/-- What a step of the client is for one of its streams: a completion of it, or steps of it that
are no completions. -/
inductive StreamTurn (address : Nat) (input : ClientInput) (view after : StreamView)
    (news : List StreamObs) : Prop
  | completed (op : TagKind) (delivery : Delivery) (same : input = .returned address op delivery)
      (taken : streamStep view (.returned op delivery) = some (after, news))
  | asked (other : ∀ op delivery, input ≠ .returned address op delivery)
      (run : (streamMachine.startedAt view).Run Unreturned after news)

/-- A step that is no completion shows none. -/
theorem returned_not_mem_of_unreturned {view after : StreamView} {input : StreamInput}
    {news : List StreamObs} (unreturned : Unreturned view input)
    (taken : streamStep view input = some (after, news)) (op : TagKind) (ok : Bool)
    (message : ByteBuffer) : .returned op ok message ∉ news := by
  have acts {obs : List StreamObs} (act : ∀ entry ∈ obs, entry.isAct = true) :
      .returned op ok message ∉ obs := fun member => absurd (act _ member) Bool.false_ne_true
  have pumps (shutting : Bool) (asked : StreamRequest) (left : StreamState) :
      .returned op ok message ∉ (acceptAndPump shutting asked left).obs := by
    rw [acceptAndPump, List.mem_cons, not_or]
    exact ⟨by simp, acts (isAct_sPumpWritesLocked shutting left)⟩
  rcases streamStep_cases taken with
    ⟨id, readCap, writeCap, stream, -, -, -, -, -, -, rfl⟩ |
    ⟨other, delivery, stream, rfl, -, -, -, -⟩ |
    ⟨stream, left, -, -, ⟨request, -, rfl⟩ | ⟨-, rfl⟩, -, rfl⟩ | ⟨-, -, rfl⟩ |
    ⟨stream, -, -, -, -, -, -, rfl⟩
  · simp [openStream]
  · exact absurd unreturned not_false
  · rcases answer_cases view.shutting request stream with
      same | ⟨bytes, -, -, -, -, -, same⟩ | ⟨-, -, same⟩
    · rw [same]
      exact List.not_mem_nil
    · rw [same]
      exact pumps _ _ _
    · rw [same]
      exact pumps _ _ _
  · rw [takeMessage, andThen, List.mem_append, not_or]
    refine ⟨by simp, ?_⟩
    simp only
    split
    · exact acts (isAct_sPostReadLocked _ _)
    · exact List.not_mem_nil
  · exact List.not_mem_nil
  · simp

theorem silent_of_not_returned {obs : List StreamObs}
    (none : ∀ op ok message, StreamObs.returned op ok message ∉ obs) :
    arrived obs = [] ∧ failed obs = false := by
  constructor
  · refine List.filterMap_eq_nil_iff.mpr fun entry member => ?_
    split
    · exact absurd member (none _ _ _)
    · rfl
  · refine List.any_eq_false.mpr fun entry member => ?_
    split
    · exact absurd member (none _ _ _)
    · exact Bool.false_ne_true

/-- In steps that are no completions nothing arrives and nothing fails. -/
theorem silent_of_asked {view after : StreamView} {own : List StreamObs}
    (run : (streamMachine.startedAt view).Run Unreturned after own) :
    arrived own = [] ∧ failed own = false := by
  induction run with
  | start => exact ⟨rfl, rfl⟩
  | next before permitted taken inductionHypothesis =>
    obtain ⟨unread, sane⟩ := silent_of_not_returned
      (returned_not_mem_of_unreturned permitted taken)
    rw [arrived_append, failed_append, inductionHypothesis.1, inductionHypothesis.2, unread, sane]
    exact ⟨rfl, rfl⟩

section Turns

variable {client after : RClient} {log news : List ClientObs} {input : ClientInput}
  {address : Nat}

/-- A client whose streams are the same looks the same to each of them. -/
theorem streamView_eq (arena : after.streamArena = client.streamArena)
    (shutting : after.shutting = client.shutting) (address : Nat) :
    after.streamView address = client.streamView address := by
  rw [RClient.streamView, RClient.streamView, RClient.view, RClient.view, arena, shutting]

/-- A stream that is allocated is seen under its own address only. -/
theorem streamView_push_of_ne (client : RClient) (cell : Cell StreamState TagKind)
    (different : address ≠ client.streamArena.size) :
    RClient.streamView { client with streamArena := client.streamArena.push cell } address =
      client.streamView address := by
  rw [RClient.streamView, RClient.streamView, Arena.size_push]
  by_cases old : address < client.streamArena.size
  · rw [if_pos old, if_pos (Nat.lt_succ_of_lt old), RClient.view, Arena.cell_push_of_lt old]
    rfl
  · rw [if_neg old, if_neg (by omega)]

theorem streamView_push_self (client : RClient) (cell : Cell StreamState TagKind) :
    RClient.streamView { client with streamArena := client.streamArena.push cell }
      client.streamArena.size = ⟨cell, client.shutting⟩ := by
  rw [RClient.streamView, Arena.size_push, if_pos (Nat.lt_succ_self _), RClient.view,
    Arena.cell_push_self]

theorem StreamTurn.still (other : ∀ op delivery, input ≠ .returned address op delivery)
    (same : after.streamView address = client.streamView address)
    (silent : streamLog address news = []) :
    StreamTurn address input (client.streamView address) (after.streamView address)
      (streamLog address news) := by
  rw [same, silent]
  exact .asked other .start

theorem StreamTurn.single {view later : StreamView} {own : StreamInput} {observed : List StreamObs}
    (other : ∀ op delivery, input ≠ .returned address op delivery)
    (permitted : Unreturned view own) (taken : streamStep view own = some (later, observed)) :
    StreamTurn address input view later observed :=
  .asked other (Machine.Run.single permitted taken)

/-- A section of one stream is a step of it, and nothing for the others. -/
theorem Sound.section_run (sound : Sound client log) {id home : Nat} {stream : StreamState}
    {left : StreamState × List StreamObs} (found : client.streams.lookup id = some home)
    (object : (client.streamArena.cell home).object = some stream)
    (origin : SectionOf client stream left) (address : Nat) :
    (streamMachine.startedAt (client.streamView address)).Run Unreturned
      ((client.withSection home left).streamView address)
      (streamLog address (left.2.map (ClientObs.stream home))) := by
  have allocated := Arena.lt_size_of_object object
  have named : stream.id ≠ 0 := by
    obtain ⟨stored, same, own, nonzero⟩ := sound.streamTable id home found
    obtain rfl := Option.some.inj (object.symm.trans same)
    rw [own]
    exact nonzero
  have size : (client.withSection home left).streamArena.size = client.streamArena.size :=
    Arena.size_set _ _ _
  by_cases same : home = address
  · subst same
    have view : (client.withSection home left).streamView home =
        ⟨sectionCell left (client.streamArena.cell home).tags, client.shutting⟩ := by
      rw [RClient.streamView, size, if_pos allocated, RClient.view, RClient.withSection,
        Arena.cell_set_self allocated]
    rw [view, streamLog_map_self, RClient.streamView, if_pos allocated]
    rcases origin with ⟨request, rfl⟩ | rfl
    · have taken : streamStep (client.view home) (.request request) =
          some (⟨sectionCell ((request.answer client.shutting stream).stream,
            (request.answer client.shutting stream).obs) (client.streamArena.cell home).tags,
            client.shutting⟩, (request.answer client.shutting stream).obs) := by
        simp [streamStep, RClient.view, object, Option.filter, named]
      exact Machine.Run.single (show Unreturned _ (.request request) from trivial) taken
    · have taken : streamStep (client.view home) .taken =
          some (⟨sectionCell (takeMessage client.shutting stream)
            (client.streamArena.cell home).tags, client.shutting⟩,
            (takeMessage client.shutting stream).2) := by
        simp [streamStep, RClient.view, object, Option.filter, named]
      exact Machine.Run.single (show Unreturned _ .taken from trivial) taken
  · have view : (client.withSection home left).streamView address = client.streamView address := by
      rw [RClient.streamView, RClient.streamView, size]
      refine if_congr Iff.rfl ?_ rfl
      rw [RClient.view, RClient.view, RClient.withSection, Arena.cell_set_of_ne same]
    rw [view, streamLog_map_of_ne address same]
    exact .start

theorem Sound.account_run (sound : Sound client log) (event : ClEvent) (address : Nat) :
    (streamMachine.startedAt (client.streamView address)).Run Unreturned
      ((client.account event).1.streamView address)
      (streamLog address (client.account event).2) := by
  rcases account_cases client event with ⟨-, equal⟩ | ⟨home, -, found, missing, -⟩ |
    ⟨home, stream, -, found, object, equal⟩
  · rw [equal]
    exact .start
  · obtain ⟨stream, object, -⟩ := sound.streamTable event.id home found
    exact absurd (missing.symm.trans object) (by simp)
  · rw [equal]
    exact sound.section_run found object (Or.inr rfl) address

/-- A poll that ends is steps of the streams whose messages it takes. -/
theorem Sound.pollTake_run (sound : Sound client log) (args : PollArgs) (address : Nat) :
    (streamMachine.startedAt (client.streamView address)).Run Unreturned
      ((client.pollTake args).1.streamView address)
      (streamLog address (client.pollTake args).2) := by
  have loop := takeLoop_invariant (fun event : ClEvent => args.wants event.id) RClient.account
    args.maxEvents
    (fun (state : RClient) (seen : List ClientObs) event _
        (before : Sound state (log ++ seen) ∧
          (streamMachine.startedAt (client.streamView address)).Run Unreturned
            (state.streamView address) (streamLog address seen)) => by
      refine ⟨?_, ?_⟩
      · rw [← List.append_assoc]
        exact before.1.account event
      · rw [streamLog_append]
        exact before.2.trans (before.1.account_run event address))
    client.ready 0 client [] ⟨by rw [List.append_nil]; exact sound, .start⟩
  rw [RClient.pollTake, streamLog_append,
    (still_polled _ _ : Still [ClientObs.polled _ _]).streams, List.append_nil]
  exact loop.2

/-- A completion of one stream is a step of it, and nothing for the others. -/
theorem returned_turn {home : Nat} {op : TagKind} {delivery : Delivery} {stream : StreamState}
    (outstanding : op ∈ (client.streamArena.cell home).tags)
    (object : (client.streamArena.cell home).object = some stream) (address : Nat) :
    StreamTurn address (.returned home op delivery) (client.streamView address)
      ((client.handleStream home op delivery stream).1.streamView address)
      (streamLog address (client.handleStream home op delivery stream).2) := by
  have allocated := Arena.lt_size_of_object object
  have size : (client.handleStream home op delivery stream).1.streamArena.size =
      client.streamArena.size := Arena.size_set _ _ _
  have view : (client.handleStream home op delivery stream).1.view address =
      ⟨(client.streamArena.set home (handleTag client.shutting op delivery stream
        (client.streamArena.cell home).tags).1).cell address, client.shutting⟩ := rfl
  by_cases same : home = address
  · subst same
    refine .completed op delivery rfl ?_
    rw [RClient.streamView, RClient.streamView, size, if_pos allocated, if_pos allocated, view,
      Arena.cell_set_self allocated, RClient.handleStream, streamLog_map_self]
    simp [streamStep, RClient.view, outstanding, object]
  · refine .still (by simp [same]) ?_ (streamLog_map_of_ne address same _)
    rw [RClient.streamView, RClient.streamView, size, view, Arena.cell_set_of_ne same]
    rfl

/-- The end of a close sweeps the streams that are left. -/
theorem Sound.joined_turn (sound : Sound client log) (joining : client.rthread = .joining)
    (ended : client.endClose = some (after, news)) (address : Nat) :
    StreamTurn address .joined (client.streamView address) (after.streamView address)
      (streamLog address news) := by
  have closed := sound.joining joining
  obtain ⟨-, streamsIdle, rfl, rfl⟩ := sound.endClose_eq ended
  have sees : RClient.streamView { client with
        streamArena := client.streamArena.deleteAll (client.streams.entries.map Sigma.snd)
        calls := ∅
        streams := ∅
        ready := []
        rthread := .gone } address =
      if address < client.streamArena.size then
        ⟨if address ∈ client.streams.entries.map Sigma.snd then
            ⟨none, (client.streamArena.cell address).tags⟩
          else client.streamArena.cell address, client.shutting⟩
      else streamMachine.start := by
    rw [RClient.streamView, Arena.size_deleteAll, RClient.view, Arena.cell_deleteAll]
  rw [streamLog_map_deleted sound.streamRegistry.entries_nodup, sees]
  by_cases swept : address ∈ client.streams.entries.map Sigma.snd
  · obtain ⟨stream, object, named⟩ := (sound.streamRegistry.mem_entries address).mp swept
    have allocated := Arena.lt_size_of_object object
    have tags := streamsIdle.tags_eq_nil address
    rw [if_pos swept, if_pos swept, if_pos allocated, RClient.streamView, if_pos allocated]
    refine .single (by simp) (show Unreturned _ .swept from trivial) ?_
    simp [streamStep, RClient.view, sound.closing, closed, tags, object, Option.filter, named]
  · rw [if_neg swept, if_neg swept]
    exact .asked (by simp) .start

/-- What one step of a client is for each of its streams. -/
theorem Sound.stream_turn (sound : Sound client log)
    (taken : clientStep client input = some (after, news)) (address : Nat) :
    StreamTurn address input (client.streamView address) (after.streamView address)
      (streamLog address news) := by
  cases turn_of_step taken with
  | unary home delivery call outstanding object =>
    exact .still (by simp) (streamView_eq rfl rfl address) rfl
  | returned home op delivery stream outstanding object =>
    exact returned_turn outstanding object address
  | leakCall method request opts now error opened named raises =>
    exact .still (by simp) (streamView_eq rfl rfl address) rfl
  | leakStream method opts now readCap writeCap error opened named raises =>
    refine .still (by simp) ?_ rfl
    have running : client.shutting = false := sound.closing.trans opened
    by_cases same : address = client.streamArena.size
    · rw [same, streamView_push_self, RClient.streamView, if_neg (Nat.lt_irrefl _), running]
      rfl
    · exact streamView_push_of_ne client _ same
  | callStarted method request opts now name context opened clean =>
    exact .still (by simp) (streamView_eq rfl rfl address) rfl
  | streamStarted method opts now readCap writeCap opened clean =>
    have running : client.shutting = false := sound.closing.trans opened
    by_cases same : address = client.streamArena.size
    · subst same
      have taken : streamStep (client.streamView client.streamArena.size)
          (.opened client.nextId readCap (sizeOfInteger writeCap)) =
          some (⟨sectionCell (openStream client.nextId readCap (sizeOfInteger writeCap) {}) [],
            client.shutting⟩, [.posted .startCall]) := by
        rw [RClient.streamView, if_neg (Nat.lt_irrefl _), running]
        simp [streamMachine, streamStep, Nat.ne_of_gt sound.numbered, Option.filter, openStream]
      have after : (client.withStream readCap (sizeOfInteger writeCap)).streamView
          client.streamArena.size =
          ⟨sectionCell (openStream client.nextId readCap (sizeOfInteger writeCap) {}) [],
            client.shutting⟩ := streamView_push_self client _
      rw [after, show streamLog client.streamArena.size [ClientObs.stream client.streamArena.size
        (.posted .startCall), .started (.ok client.nextId)] = [.posted .startCall] by
          simp [streamLog]]
      exact .single (by simp) (show Unreturned _ (.opened _ _ _) from trivial) taken
    · refine .still (by simp) (streamView_push_of_ne client _ same) ?_
      simp [streamLog, Ne.symm same]
  | request id request home stream opened found object =>
    rw [streamLog_append, (still_result _ _ _).streams, List.append_nil]
    exact .asked (by simp) (sound.section_run found object (Or.inl ⟨request, rfl⟩) address)
  | polled input wake args origin =>
    refine .asked ?_ ?_
    · rcases origin with ⟨_, _, rfl⟩ | ⟨_, _, rfl⟩ <;> simp
    · exact (sound.idle wake client.ready client.rthread fun _ => rfl).pollTake_run args address
  | quiet input after news quiet origin =>
    refine .still (fun op delivery => origin address op delivery) ?_ (quiet.still.streams address)
    rw [quiet.same]
    exact streamView_eq rfl rfl address
  | closing opened =>
    by_cases allocated : address < client.streamArena.size
    · refine .single (by simp) (show Unreturned _ .shut from trivial) ?_
      rw [RClient.streamView, RClient.streamView, if_pos allocated, if_pos allocated]
      rfl
    · refine .still (by simp) ?_ rfl
      rw [RClient.streamView, RClient.streamView, if_neg allocated, if_neg allocated]
  | joined after news joining ended => exact sound.joined_turn joining ended address
  | lost input after news lost => exact absurd lost sound.not_lost

end Turns

/-! ### Unary calls -/

section Unary

variable {client after : RClient} {log news : List ClientObs} {input : ClientInput}

/-- A call whose tag is outstanding was started, and nothing else was seen of it. -/
def Waits (client : RClient) (log : List ClientObs) : Prop :=
  ∀ address, .unary ∈ (client.callArena.cell address).tags →
    ∃ name context bytes, unaryLog address log = [.posted name context (.ofRaw bytes)]

/-- What a step of the client is for one of its unary calls: its completion, its start, or
nothing. -/
inductive UnaryTurn (address : Nat) (input : ClientInput) (before news : List UnaryObs) : Prop
  | completed (delivery : Delivery) (call : CallState) (same : input = .unary address delivery)
      (waited : ∃ name context bytes, before = [.posted name context (.ofRaw bytes)])
      (shown : news = [.pushed (unaryEvent delivery call), .deleted])
  | started (name : Bytes) (context : ClientContext) (bytes : Bytes)
      (other : ∀ delivery, input ≠ .unary address delivery) (fresh : before = [])
      (shown : news = [.posted name context (.ofRaw bytes)])
  | still (other : ∀ delivery, input ≠ .unary address delivery) (silent : news = [])

/-- What a step leaves of the tags of the unary calls. -/
theorem Waits.keep (waits : Waits client log) (silent : ∀ address, unaryLog address news = [])
    (tags : ∀ address, .unary ∈ (after.callArena.cell address).tags →
      .unary ∈ (client.callArena.cell address).tags) : Waits after (log ++ news) := by
  intro address outstanding
  rw [unaryLog_append, silent, List.append_nil]
  exact waits address (tags address outstanding)

theorem account_callArena (client : RClient) (event : ClEvent) :
    (client.account event).1.callArena = client.callArena := by
  rcases account_cases client event with ⟨-, same⟩ | ⟨own, -, -, -, same⟩ |
    ⟨own, stream, -, -, -, same⟩ <;> rw [same]
  rfl

theorem pollTake_callArena (client : RClient) (args : PollArgs) :
    (client.pollTake args).1.callArena = client.callArena :=
  takeLoop_invariant (fun event : ClEvent => args.wants event.id) RClient.account
    args.maxEvents
    (fun (state : RClient) (_ : List ClientObs) event _
      (before : state.callArena = client.callArena) => (account_callArena state event).trans before)
    client.ready 0 client [] rfl

theorem unaryLog_pollTake (client : RClient) (args : PollArgs) (address : Nat) :
    unaryLog address (client.pollTake args).2 = [] := by
  rw [RClient.pollTake, unaryLog_append, (still_polled _ _).calls, List.append_nil]
  refine List.filterMap_eq_nil_iff.mpr fun entry member => ?_
  cases collected_takeLoop client args entry member <;> rfl

/-- The completion of a unary call is seen. -/
theorem not_quiet_of_unary {address : Nat} {delivery : Delivery}
    (taken : clientStep client (.unary address delivery) = some (after, news)) :
    ¬ Quiet client after news := by
  intro quiet
  rw [clientStep, RClient.runUnary] at taken
  split at taken
  · split at taken
    · obtain ⟨-, rfl⟩ := Prod.mk.inj (Option.some.inj taken)
      exact quiet.still.safe address (List.mem_singleton_self _)
    · rename_i call object
      obtain ⟨-, rfl⟩ := Prod.mk.inj (Option.some.inj taken)
      have silent := quiet.still.calls address
      simp [unaryLog] at silent
  · exact absurd taken (by simp)

/-- What one step of a client is for each of its unary calls. -/
theorem Sound.unary_turn (sound : Sound client log) (waits : Waits client log)
    (taken : clientStep client input = some (after, news)) (address : Nat) :
    UnaryTurn address input (unaryLog address log) (unaryLog address news) := by
  cases turn_of_step taken with
  | unary home delivery call outstanding object =>
    by_cases same : home = address
    · subst same
      refine .completed delivery call rfl (waits home outstanding) ?_
      simp [RClient.handleUnary, unaryLog]
    · exact .still (by simp [same]) (by simp [RClient.handleUnary, unaryLog, same])
  | returned home op delivery stream outstanding object =>
    exact .still (by simp) (unaryLog_map_stream address home _)
  | leakCall method request opts now error opened named raises => exact .still (by simp) rfl
  | leakStream method opts now readCap writeCap error opened named raises =>
    exact .still (by simp) rfl
  | callStarted method request opts now name context opened clean =>
    by_cases same : client.callArena.size = address
    · subst same
      refine .started name context request (by simp) (sound.unusedCalls _ (Nat.le_refl _)) ?_
      simp [unaryLog]
    · exact .still (by simp) (by simp [unaryLog, same])
  | streamStarted method opts now readCap writeCap opened clean => exact .still (by simp) rfl
  | request id request home stream opened found object =>
    refine .still (by simp) ?_
    rw [unaryLog_append, unaryLog_map_stream, (still_result _ _ _).calls]
    rfl
  | polled input wake args origin =>
    refine .still ?_ (unaryLog_pollTake _ args address)
    rcases origin with ⟨_, _, rfl⟩ | ⟨_, _, rfl⟩ <;> simp
  | quiet input after news quiet origin =>
    refine .still ?_ (quiet.still.calls address)
    rintro delivery rfl
    exact (not_quiet_of_unary taken quiet).elim
  | closing opened => exact .still (by simp) rfl
  | joined after news joining ended =>
    obtain ⟨-, -, -, rfl⟩ := sound.endClose_eq ended
    refine .still (by simp) ?_
    exact unaryLog_map_deleted_stream address _
  | lost input after news lost => exact absurd lost sound.not_lost

theorem Waits.step (waits : Waits client log) (sound : Sound client log)
    (taken : clientStep client input = some (after, news)) : Waits after (log ++ news) := by
  have kept {arena : Arena CallState UnaryOp} (same : arena = client.callArena) (address : Nat)
      (outstanding : .unary ∈ (arena.cell address).tags) :
      .unary ∈ (client.callArena.cell address).tags := same ▸ outstanding
  cases turn_of_step taken with
  | unary home delivery call outstanding object =>
    obtain ⟨present, cell, -⟩ := sound.call_of_mem outstanding
    intro address later
    by_cases same : home = address
    · subst same
      change .unary ∈ ((client.callArena.set home ⟨none,
        (client.callArena.cell home).tags.erase .unary⟩).cell home).tags at later
      rw [Arena.cell_set_self (Arena.lt_size_of_object object), cell] at later
      exact absurd later List.not_mem_nil
    · change .unary ∈ ((client.callArena.set home ⟨none,
        (client.callArena.cell home).tags.erase .unary⟩).cell address).tags at later
      rw [Arena.cell_set_of_ne same] at later
      rw [unaryLog_append, show unaryLog address (client.handleUnary home delivery call).2 = [] by
        simp [RClient.handleUnary, unaryLog, same], List.append_nil]
      exact waits address later
  | returned home op delivery stream outstanding object =>
    exact waits.keep (fun address => unaryLog_map_stream address home _) (kept rfl)
  | leakCall method request opts now error opened named raises =>
    refine waits.keep (fun _ => rfl) fun address outstanding => ?_
    exact (Arena.mem_tags_push outstanding).resolve_right fun new =>
      List.not_mem_nil new.2
  | leakStream method opts now readCap writeCap error opened named raises =>
    exact waits.keep (fun _ => rfl) (kept rfl)
  | callStarted method request opts now name context opened clean =>
    intro address outstanding
    rcases Arena.mem_tags_push outstanding with before | ⟨rfl, -⟩
    · have different := Nat.ne_of_gt (Arena.lt_size_of_mem_tags before)
      rw [unaryLog_append, show unaryLog address [ClientObs.unary client.callArena.size
        (.posted name context (.ofRaw request)), .started (.ok client.nextId)] = [] by
          simp [unaryLog, different], List.append_nil]
      exact waits address before
    · refine ⟨name, context, request, ?_⟩
      rw [unaryLog_append, sound.unusedCalls _ (Nat.le_refl _)]
      simp [unaryLog]
  | streamStarted method opts now readCap writeCap opened clean =>
    exact waits.keep (fun _ => rfl) (kept rfl)
  | request id request home stream opened found object =>
    refine waits.keep (fun address => ?_) (kept rfl)
    rw [unaryLog_append, unaryLog_map_stream, (still_result _ _ _).calls]
    rfl
  | polled input wake args origin =>
    exact waits.keep (unaryLog_pollTake _ args) (kept (pollTake_callArena _ args))
  | quiet input after news quiet origin =>
    exact waits.keep quiet.still.calls (kept (by rw [quiet.same]))
  | closing opened => exact waits.keep (fun _ => rfl) (kept rfl)
  | joined after news joining ended =>
    obtain ⟨-, -, rfl, rfl⟩ := sound.endClose_eq ended
    exact waits.keep (fun address => unaryLog_map_deleted_stream address _) (kept rfl)
  | lost input after news lost => exact absurd lost sound.not_lost

theorem waits_of_run {wake : WakeHandle}
    (run : (clientMachine wake).Run Machine.Free client log) : Waits client log := by
  induction run with
  | start => exact fun _ outstanding => absurd outstanding List.not_mem_nil
  | next before permitted taken inductionHypothesis =>
    exact inductionHypothesis.step (sound_of_run before) taken

end Unary

end Rgrpc.Client
