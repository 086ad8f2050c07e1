/-
This file keeps the books of an open client. Every call and stream that was
started is in one of its two tables or has one terminal event, pushed in the
step that took it out; and nothing is pushed for an id after its terminal event.
What polls take keeps the order of the events of each id, so the batches taken
from the queue inherit both.
-/

import Rgrpc.Client.Events

namespace Rgrpc.Client

open Library

/-! ### Tables and terminal events -/

/-- The events of a list in which nothing comes after the terminal event of its id. -/
def Ordered (events : List ClEvent) : Prop :=
  events.Pairwise fun earlier later => earlier.id = later.id → earlier.terminal = false

/-- What the queue of an open client says of its tables: an id is in one of them at most and in none
once its terminal event was pushed, nothing comes after that event, and there is one for each id
that was started and is no longer in a table. -/
structure Balanced (client : RClient) (log : List ClientObs) : Prop where
  ordered : Ordered (queued log)
  left : ∀ event ∈ queued log, event.terminal = true →
    client.calls.lookup event.id = none ∧ client.streams.lookup event.id = none
  apart : ∀ id, client.calls.lookup id = none ∨ client.streams.lookup id = none
  counted : (startedIds log).length = client.calls.keys.length + client.streams.keys.length +
    (queued log).countP ClEvent.terminal

theorem not_terminal_of_going {event : ClEvent} (going : event.going = true) :
    event.terminal = false := by
  unfold ClEvent.going at going
  unfold ClEvent.terminal
  cases kind : event.kind <;> rw [kind] at going <;> first | rfl | exact absurd going (by decide)

section Tables

variable {table : AList fun _ : Nat => Nat} {id : Nat}

theorem length_keys_erase (listed : table.lookup id ≠ none) :
    (table.erase id).keys.length + 1 = table.keys.length := by
  have member : id ∈ table.keys := by
    rw [← AList.mem_keys]
    exact AList.lookup_isSome.mp (Option.isSome_iff_ne_none.mpr listed)
  rw [AList.keys_erase, List.length_erase_of_mem member]
  have positive := List.length_pos_of_mem member
  omega

theorem lookup_erase_of_none {other : Nat} (missing : table.lookup other = none) :
    (table.erase id).lookup other = none := by
  by_cases same : other = id
  · rw [same]
    exact AList.lookup_erase _ _
  · rw [AList.lookup_erase_ne same]
    exact missing

theorem length_keys_insert (unlisted : table.lookup id = none) (address : Nat) :
    (table.insert id address).keys.length = table.keys.length + 1 := by
  have missing : id ∉ table.keys := by
    rw [← AList.mem_keys]
    exact AList.lookup_eq_none.mp unlisted
  rw [AList.keys_insert, List.length_cons, List.erase_of_not_mem missing]

end Tables

section Steps

variable {client after : RClient} {log news : List ClientObs}

/-- Events pushed for an id that is in a table come after no terminal event of that id. -/
theorem Balanced.ordered_append (balanced : Balanced client log) {id : Nat}
    (listed : client.calls.lookup id ≠ none ∨ client.streams.lookup id ≠ none)
    (own : ∀ event ∈ queued news, event.id = id) (last : Ordered (queued news)) :
    Ordered (queued (log ++ news)) := by
  rw [queued_append]
  refine List.pairwise_append.mpr ⟨balanced.ordered, last, fun earlier before later now same => ?_⟩
  by_contra ended
  obtain ⟨calls, streams⟩ := balanced.left earlier before (by simpa using ended)
  rw [same, own later now] at calls streams
  rcases listed with call | stream
  · exact call calls
  · exact stream streams

/-- A call or a stream leaves its table with its terminal event. -/
theorem Balanced.leave (balanced : Balanced client log) {event : ClEvent}
    (listed : client.calls.lookup event.id ≠ none ∨ client.streams.lookup event.id ≠ none)
    (pushed : queued news = [event]) (last : event.terminal = true)
    (started : (startedIds news).length = 0)
    (gone : after.calls.lookup event.id = none ∧ after.streams.lookup event.id = none)
    (calls : ∀ id, client.calls.lookup id = none → after.calls.lookup id = none)
    (streams : ∀ id, client.streams.lookup id = none → after.streams.lookup id = none)
    (size : after.calls.keys.length + after.streams.keys.length + 1 =
      client.calls.keys.length + client.streams.keys.length) : Balanced after (log ++ news) := by
  refine ⟨balanced.ordered_append listed ?_ ?_, ?_,
    fun other => (balanced.apart other).imp (calls other) (streams other), ?_⟩
  · rw [pushed]
    exact fun other member => by rw [List.mem_singleton.mp member]
  · rw [pushed]
    exact List.pairwise_singleton _ _
  · intro other member terminal
    rw [queued_append, pushed, List.mem_append, List.mem_singleton] at member
    rcases member with before | rfl
    · obtain ⟨noCall, noStream⟩ := balanced.left other before terminal
      exact ⟨calls _ noCall, streams _ noStream⟩
    · exact gone
  · rw [startedIds_append, List.length_append, queued_append, List.countP_append, pushed,
      balanced.counted, List.countP_singleton, if_pos last, started]
    omega

/-- A step that pushes no terminal event, and starts as many calls and streams as it lists. -/
theorem Balanced.stay (balanced : Balanced client log)
    (ordered : Ordered (queued (log ++ news)))
    (going : ∀ event ∈ queued news, event.terminal = false)
    (left : ∀ event ∈ queued log, event.terminal = true → client.calls.lookup event.id = none →
      client.streams.lookup event.id = none →
      after.calls.lookup event.id = none ∧ after.streams.lookup event.id = none)
    (apart : ∀ id, after.calls.lookup id = none ∨ after.streams.lookup id = none)
    (size : after.calls.keys.length + after.streams.keys.length =
      client.calls.keys.length + client.streams.keys.length + (startedIds news).length) :
    Balanced after (log ++ news) := by
  refine ⟨ordered, ?_, apart, ?_⟩
  · intro other member terminal
    rw [queued_append, List.mem_append] at member
    rcases member with before | now
    · obtain ⟨noCall, noStream⟩ := balanced.left other before terminal
      exact left other before terminal noCall noStream
    · exact absurd (terminal.symm.trans (going other now)) (by simp)
  · have none : (queued news).countP ClEvent.terminal = 0 :=
      List.countP_eq_zero.mpr fun event member => by simp [going event member]
    rw [startedIds_append, List.length_append, queued_append, List.countP_append, none,
      balanced.counted]
    omega

/-- A call or a stream enters its table under the next id. -/
theorem Balanced.enter (balanced : Balanced client log) (pushed : queued news = [])
    (started : (startedIds news).length = 1)
    (behind : ∀ event ∈ queued log, event.id < client.nextId)
    (calls : ∀ id ≠ client.nextId, after.calls.lookup id = client.calls.lookup id)
    (streams : ∀ id ≠ client.nextId, after.streams.lookup id = client.streams.lookup id)
    (one : after.calls.lookup client.nextId = none ∨ after.streams.lookup client.nextId = none)
    (size : after.calls.keys.length + after.streams.keys.length =
      client.calls.keys.length + client.streams.keys.length + 1) :
    Balanced after (log ++ news) := by
  refine balanced.stay ?_ ?_ ?_ ?_ (by rw [started]; exact size)
  · rw [queued_append, pushed, List.append_nil]
    exact balanced.ordered
  · rw [pushed]
    exact fun _ absurdity => absurd absurdity List.not_mem_nil
  · intro event member _ noCall noStream
    have earlier := Nat.ne_of_lt (behind event member)
    rw [calls _ earlier, streams _ earlier]
    exact ⟨noCall, noStream⟩
  · intro other
    by_cases new : other = client.nextId
    · rw [new]
      exact one
    · rw [calls _ new, streams _ new]
      exact balanced.apart other

/-- A step of an open client keeps its books. -/
theorem Balanced.step (balanced : Balanced client log) (traffic : Traffic client after news)
    (numbers : Numbers client after news)
    (behind : ∀ event ∈ queued log, event.id < client.nextId)
    (fresh : client.calls.lookup client.nextId = none ∧
      client.streams.lookup client.nextId = none) : Balanced after (log ++ news) := by
  have started := numbers.next
  cases traffic with
  | completed id event listed pushed own kind calls streams next =>
    subst own
    have size := length_keys_erase listed
    refine balanced.leave (Or.inl listed) pushed (by rw [ClEvent.terminal, kind]; rfl)
      (by omega) ?_ ?_ ?_ ?_
    · rw [calls, streams]
      exact ⟨AList.lookup_erase _ _, (balanced.apart event.id).resolve_left listed⟩
    · rw [calls]
      exact fun other => lookup_erase_of_none
    · rw [streams]
      exact fun _ => id
    · rw [calls, streams]
      omega
  | heard id listed own calls streams next =>
    refine balanced.stay ?_ (fun event member => not_terminal_of_going (own event member).2)
      ?_ ?_ ?_
    · refine balanced.ordered_append (Or.inr listed) (fun event member => (own event member).1) ?_
      exact List.pairwise_of_forall_mem_list fun earlier member later _ _ =>
        not_terminal_of_going (own earlier member).2
    · rw [calls, streams]
      exact fun _ _ _ => And.intro
    · rw [calls, streams]
      exact balanced.apart
    · rw [calls, streams]
      omega
  | ended id event listed pushed own kind calls streams next =>
    subst own
    have size := length_keys_erase listed
    refine balanced.leave (Or.inr listed) pushed (by rw [ClEvent.terminal, kind]; rfl)
      (by omega) ?_ ?_ ?_ ?_
    · rw [calls, streams]
      exact ⟨(balanced.apart event.id).resolve_right listed, AList.lookup_erase _ _⟩
    · rw [calls]
      exact fun _ => id
    · rw [streams]
      exact fun other => lookup_erase_of_none
    · rw [calls, streams]
      omega
  | silent pushed calls streams next =>
    refine balanced.stay ?_ ?_ ?_ ?_ ?_
    · rw [queued_append, pushed, List.append_nil]
      exact balanced.ordered
    · rw [pushed]
      exact fun _ absurdity => absurd absurdity List.not_mem_nil
    · rw [calls, streams]
      exact fun _ _ _ => And.intro
    · rw [calls, streams]
      exact balanced.apart
    · rw [calls, streams]
      omega
  | called address pushed calls streams next =>
    have size := length_keys_insert fresh.1 address
    refine balanced.enter pushed (by omega) behind ?_ (fun _ _ => by rw [streams])
      (Or.inr (by rw [streams]; exact fresh.2)) (by rw [calls, streams]; omega)
    rw [calls]
    exact fun other different => AList.lookup_insert_ne different
  | opened address pushed calls streams next =>
    have size := length_keys_insert fresh.2 address
    refine balanced.enter pushed (by omega) behind (fun _ _ => by rw [calls]) ?_
      (Or.inl (by rw [calls]; exact fresh.1)) (by rw [calls, streams]; omega)
    rw [streams]
    exact fun other different => AList.lookup_insert_ne different

end Steps

/-! ### Runs -/

section Runs

variable {wake : WakeHandle} {client : RClient} {log : List ClientObs}

/-- Along every run an open client keeps its books. -/
theorem balanced_of_run (run : (clientMachine wake).Run Machine.Free client log)
    (open_ : client.closed = false) : Balanced client log := by
  induction run with
  | start => exact ⟨.nil, fun _ absurdity => absurd absurdity List.not_mem_nil,
      fun _ => Or.inl rfl, rfl⟩
  | next before _ taken inductionHypothesis =>
    have sound := sound_of_run before
    have earlier := sound.open_of_step taken open_
    exact (inductionHypothesis earlier).step (sound.traffic open_ taken) (numbers_of_step taken)
      (queued_behind_of_run before earlier) sound.lookup_nextId

/-- What was taken from the queue and what is left in it is what was pushed, in some order. -/
theorem taken_perm_of_run (run : (clientMachine wake).Run Machine.Free client log)
    (open_ : client.closed = false) :
    ((takenBatches log).flatten ++ client.ready).Perm (queued log) := by
  have present : client.rthread ≠ .gone := fun gone =>
    absurd (open_.symm.trans ((sound_of_run run).drained gone).1) Bool.false_ne_true
  refine List.perm_iff_count.mpr fun event => ?_
  have own : (event.id == event.id) = true := beq_self_eq_true _
  have parts := (clientFeed_refines wake).partition_of_open run present event.id
  change (takenBatches log).flatten.filter (fun other => other.id == event.id) ++
    client.ready.filter (fun other => other.id == event.id) =
      (queued log).filter fun other => other.id == event.id at parts
  rw [← List.filter_append] at parts
  rw [← List.count_filter (p := fun other => other.id == event.id) own, parts]
  exact List.count_filter own

/-- The R thread of a closed client joins the completion thread, or is done with it. -/
theorem busy_of_closed (run : (clientMachine wake).Run Machine.Free client log)
    (closed : client.closed = true) :
    client.rthread = .joining ∨ client.rthread = .gone := by
  induction run with
  | start => exact absurd closed Bool.false_ne_true
  | @next state after log news input before _ taken inductionHypothesis =>
    cases earlier : state.closed with
    | true =>
      obtain ⟨seen, step⟩ := (clientFeed_refines wake).step before taken
      exact busy_inboxStep step.step (inductionHypothesis earlier)
    | false =>
      have stays (same : after.closed = state.closed) :
          after.rthread = .joining ∨ after.rthread = .gone :=
        absurd (closed.symm.trans (same.trans earlier)) Bool.false_ne_true.symm
      cases turn_of_step taken with
      | unary | returned | leakCall | leakStream | callStarted | streamStarted | request =>
        exact stays rfl
      | polled input wake args origin =>
        exact stays (pollTake_tables { state with wake } args).closed
      | quiet input after news quiet origin =>
        exact stays (by rw [quiet.same])
      | closing opened => exact Or.inl rfl
      | joined after news joining ended =>
        exact absurd (earlier.symm.trans ((sound_of_run before).joining joining))
          Bool.false_ne_true
      | lost input after news lost => exact absurd lost (sound_of_run before).not_lost

/-- A poll returns a batch only while the client is open. -/
theorem open_of_returned {after : RClient} {input : ClientInput} {news : List ClientObs}
    (run : (clientMachine wake).Run Machine.Free client log)
    (taken : clientStep client input = some (after, news)) (returned : takenBatches news ≠ []) :
    after.closed = false := by
  by_contra closed
  rw [Bool.not_eq_false] at closed
  have next : (clientMachine wake).step client input = some (after, news) := taken
  obtain ⟨seen, step⟩ := (clientFeed_refines wake).step run next
  have idle : after.rthread = .idle := idle_of_returned step.step returned
  rcases busy_of_closed (run.next trivial next) closed with joining | gone
  · exact absurd (idle.symm.trans joining) (by simp)
  · exact absurd (idle.symm.trans gone) (by simp)

/-- What was taken from the queue: nothing comes after the terminal event of its id, and every id
was handed out. -/
structure Taken (log : List ClientObs) : Prop where
  ordered : Ordered (takenBatches log).flatten
  started : ∀ event ∈ (takenBatches log).flatten, event.id ∈ startedIds log

theorem taken_of_open (run : (clientMachine wake).Run Machine.Free client log)
    (open_ : client.closed = false) : Taken log := by
  refine ⟨List.pairwise_iff_forall_sublist.mpr fun {earlier later} inside same => ?_,
    fun event member => queued_started_of_run run open_ event
      ((taken_perm_of_run run open_).subset (List.mem_append_left _ member))⟩
  have kept : ([earlier, later].filter fun event => event.id == earlier.id) = [earlier, later] := by
    simp [same]
  have chosen := inside.filter fun event => event.id == earlier.id
  rw [kept] at chosen
  have returned := (clientFeed_refines wake).taken_prefix_of_run run earlier.id
  have pushed : [earlier, later].Sublist (queued log) :=
    (chosen.trans returned.sublist).trans List.filter_sublist
  exact List.pairwise_iff_forall_sublist.mp (balanced_of_run run open_).ordered pushed same

/-- Along every run, since a closed client returns no batch. -/
theorem taken_of_run (run : (clientMachine wake).Run Machine.Free client log) : Taken log := by
  induction run with
  | start => exact ⟨.nil, fun _ absurdity => absurd absurdity List.not_mem_nil⟩
  | @next state after log news input before _ taken inductionHypothesis =>
    by_cases returned : takenBatches news = []
    · refine ⟨?_, fun event member => ?_⟩
      · rw [takenBatches_append, returned, List.append_nil]
        exact inductionHypothesis.ordered
      · rw [takenBatches_append, returned, List.append_nil] at member
        rw [startedIds_append]
        exact List.mem_append_left _ (inductionHypothesis.started event member)
    · exact taken_of_open (before.next trivial taken) (open_of_returned before taken returned)

end Runs

end Rgrpc.Client
