/-
This file gives the component a poll works on, whether of a client or of a
server: the queue of events, the wake handle, and what the R thread is doing. It
says what each of the two threads does to it and proves what follows, once for
both ends.

The completion thread pushes events and signals the handle for each. The R
thread polls: while no event it wants is queued it drains the handle and waits
for it, and before it returns it drains it once more, takes its batch and
signals again when events are left. Draining before a wait breaks the rule that
the handle is readable exactly while events are queued; the end of the poll
restores it.

A machine feeds an inbox when each of its steps is a step of the inbox.
-/

import Rgrpc.Library.Machine
import Rgrpc.Poll

namespace Rgrpc

open Library

/-! ### The inbox -/

/-- The queue of events, the wake handle, and what the R thread is doing. -/
structure Inbox (Event : Type) where
  ready : List Event
  wake : WakeHandle
  rthread : RThread

/-- What can happen to an inbox: the completion thread pushes events, the R thread starts a poll,
wakes inside one, starts a close or ends it, or makes a call that is not about events. -/
inductive InboxInput (Event : Type)
  | pushes (events : List Event)
  | polls (args : PollArgs) (leftMs : Int)
  | wakes (result leftMs : Int)
  | closes
  | ends (left : List Event)
  | idles

/-- The events an input pushes. -/
def InboxInput.pushed {Event : Type} : InboxInput Event → List Event
  | .pushes events => events
  | _ => []

section Inbox

variable {Event : Type} (key : Event → Nat)

/-- Whether an event is one a poll wants. -/
abbrev PollArgs.wanted (args : PollArgs) (event : Event) : Bool := args.wants (key event)

/-- What a poll takes. -/
def Inbox.batch (inbox : Inbox Event) (args : PollArgs) : List Event :=
  (inbox.ready.filter (args.wanted key)).take args.maxEvents.toNat

/-- What a poll leaves queued. -/
def Inbox.left (inbox : Inbox Event) (args : PollArgs) : List Event :=
  without (picked (args.wanted key) args.maxEvents inbox.ready) inbox.ready

/-- The end of a poll. -/
def Inbox.take (inbox : Inbox Event) (args : PollArgs) : Inbox Event where
  ready := inbox.left key args
  wake := if (inbox.left key args).isEmpty then inbox.wake.drain else inbox.wake.drain.signal
  rthread := .idle

/-- One pass of the wait loop of a poll: it waits, or the poll ends and takes a batch. -/
def Inbox.attempt (inbox : Inbox Event) (args : PollArgs) (leftMs : Int) :
    Inbox Event × List (List Event) :=
  if args.timeoutMs != 0 && !inbox.ready.any (args.wanted key) then
    if 0 < args.timeoutMs ∧ leftMs ≤ 0 then (inbox.take key args, [inbox.batch key args])
    else ({ inbox with wake := inbox.wake.drain, rthread := .polling args }, [])
  else (inbox.take key args, [inbox.batch key args])

/-- The step of an inbox, with the batches that polls take. -/
def inboxStep (inbox : Inbox Event) : InboxInput Event → Option (Inbox Event × List (List Event))
  | .pushes events =>
    some ({ inbox with
      ready := inbox.ready ++ events
      wake := inbox.wake.signals events.length }, [])
  | .polls args leftMs =>
    if inbox.rthread = .idle then some (inbox.attempt key args leftMs) else none
  | .wakes result leftMs =>
    match inbox.rthread with
    | .polling args =>
      if result ≤ 0 then some (inbox.take key args, [inbox.batch key args])
      else if inbox.wake.readable then some (inbox.attempt key args leftMs)
      else none
    | _ => none
  | .closes =>
    if inbox.rthread = .idle then some ({ inbox with rthread := .joining }, []) else none
  | .ends left =>
    if inbox.rthread = .joining then some ({ inbox with ready := left, rthread := .gone }, [])
    else none
  | .idles =>
    match inbox.rthread with
    | .idle | .gone => some (inbox, [])
    | _ => none

/-! ### Readiness -/

/-- The handle while it is open: between polls it is readable exactly while events are queued, and
inside the wait of a poll it is readable once an event the poll wants is queued. -/
def Inbox.Armed (inbox : Inbox Event) : Prop :=
  match inbox.rthread with
  | .polling args => inbox.ready.any (args.wanted key) = true → inbox.wake.readable = true
  | .gone => True
  | _ => inbox.wake.readable = true ↔ inbox.ready ≠ []

theorem capacity_signal (wake : WakeHandle) : wake.signal.capacity = wake.capacity := by
  unfold WakeHandle.signal
  split <;> rfl

theorem capacity_signals (wake : WakeHandle) (count : Nat) :
    (wake.signals count).capacity = wake.capacity := by
  induction count generalizing wake with
  | zero => rfl
  | succ count inductionHypothesis =>
    rw [WakeHandle.signals, inductionHypothesis, capacity_signal]

/-- A signal that is dropped found the handle readable. -/
theorem readable_signal {wake : WakeHandle} (room : 1 ≤ wake.capacity) :
    wake.signal.readable = true := by
  unfold WakeHandle.signal WakeHandle.readable
  split
  · exact decide_eq_true (Nat.succ_pos _)
  · rename_i full
    exact decide_eq_true (Nat.lt_of_lt_of_le room (Nat.le_of_not_lt full))

/-- Signals leave the handle readable when there was one, or when it was readable before. -/
theorem readable_signals {wake : WakeHandle} (room : 1 ≤ wake.capacity) (count : Nat) :
    (wake.signals count).readable = true ↔ wake.readable = true ∨ count ≠ 0 := by
  induction count generalizing wake with
  | zero => simp [WakeHandle.signals]
  | succ count inductionHypothesis =>
    rw [WakeHandle.signals, inductionHypothesis (by rw [capacity_signal]; exact room)]
    simp [readable_signal room]

theorem Inbox.armed_take (inbox : Inbox Event) (room : 1 ≤ inbox.wake.capacity)
    (args : PollArgs) : (inbox.take key args).Armed key := by
  show (inbox.take key args).wake.readable = true ↔ inbox.left key args ≠ []
  unfold Inbox.take
  cases empty : (inbox.left key args).isEmpty with
  | true =>
    rw [if_pos rfl, List.isEmpty_iff.mp empty]
    simp [WakeHandle.drain, WakeHandle.readable]
  | false =>
    have drained : 1 ≤ inbox.wake.drain.capacity := room
    rw [if_neg Bool.false_ne_true]
    simp [readable_signal drained, List.isEmpty_eq_false_iff.mp empty]

theorem Inbox.armed_attempt (inbox : Inbox Event) (room : 1 ≤ inbox.wake.capacity)
    (args : PollArgs) (leftMs : Int) : (inbox.attempt key args leftMs).1.Armed key := by
  unfold Inbox.attempt
  split
  · rename_i waits
    split
    · exact inbox.armed_take key room args
    · rw [Bool.and_eq_true, Bool.not_eq_true'] at waits
      exact fun matched => absurd (waits.2.symm.trans matched) Bool.false_ne_true
  · exact inbox.armed_take key room args

theorem Inbox.capacity_take (inbox : Inbox Event) (args : PollArgs) :
    (inbox.take key args).wake.capacity = inbox.wake.capacity := by
  unfold Inbox.take
  simp only
  split
  · rfl
  · exact capacity_signal _

theorem Inbox.capacity_attempt (inbox : Inbox Event) (args : PollArgs) (leftMs : Int) :
    (inbox.attempt key args leftMs).1.wake.capacity = inbox.wake.capacity := by
  unfold Inbox.attempt
  split
  · split
    · exact inbox.capacity_take key args
    · rfl
  · exact inbox.capacity_take key args

/-- Pushed events leave the handle armed: each of them signals. -/
theorem Inbox.armed_pushes {inbox : Inbox Event} (room : 1 ≤ inbox.wake.capacity)
    (armed : inbox.Armed key) (events : List Event) :
    Inbox.Armed key { inbox with
      ready := inbox.ready ++ events
      wake := inbox.wake.signals events.length } := by
  have signalled := readable_signals room events.length
  have between (before : inbox.wake.readable = true ↔ inbox.ready ≠ []) :
      (inbox.wake.signals events.length).readable = true ↔ inbox.ready ++ events ≠ [] := by
    rw [signalled, before, ne_eq, ne_eq, ne_eq, List.append_eq_nil_iff, not_and_or,
      List.length_eq_zero_iff]
  unfold Inbox.Armed at armed ⊢
  cases thread : inbox.rthread with
  | idle =>
    rw [thread] at armed
    exact between armed
  | joining =>
    rw [thread] at armed
    exact between armed
  | gone => trivial
  | polling args =>
    rw [thread] at armed
    intro matched
    rw [List.any_append, Bool.or_eq_true] at matched
    refine signalled.mpr ?_
    rcases matched with before | now
    · exact Or.inl (armed before)
    · refine Or.inr fun none => ?_
      rw [List.length_eq_zero_iff.mp none] at now
      exact absurd now (by simp)

/-- Every step leaves the handle armed, and its capacity as it was. -/
theorem armed_inboxStep {inbox after : Inbox Event} {input : InboxInput Event}
    {takenBatches : List (List Event)} (room : 1 ≤ inbox.wake.capacity) (armed : inbox.Armed key)
    (taken : inboxStep key inbox input = some (after, takenBatches)) :
    after.Armed key ∧ after.wake.capacity = inbox.wake.capacity := by
  cases input with
  | pushes events =>
    obtain ⟨rfl, rfl⟩ := Prod.mk.inj (Option.some.inj taken)
    exact ⟨Inbox.armed_pushes key room armed events, capacity_signals _ _⟩
  | polls args leftMs =>
    rw [inboxStep] at taken
    split at taken
    · have left : (inbox.attempt key args leftMs).1 = after :=
        congrArg Prod.fst (Option.some.inj taken)
      rw [← left]
      exact ⟨inbox.armed_attempt key room args leftMs, inbox.capacity_attempt key args leftMs⟩
    · exact absurd taken (by simp)
  | wakes result leftMs =>
    rw [inboxStep] at taken
    split at taken
    · rename_i args thread
      split at taken
      · obtain ⟨rfl, rfl⟩ := Prod.mk.inj (Option.some.inj taken)
        exact ⟨inbox.armed_take key room args, inbox.capacity_take key args⟩
      · split at taken
        · have left : (inbox.attempt key args leftMs).1 = after :=
            congrArg Prod.fst (Option.some.inj taken)
          rw [← left]
          exact ⟨inbox.armed_attempt key room args leftMs,
            inbox.capacity_attempt key args leftMs⟩
        · exact absurd taken (by simp)
    · exact absurd taken (by simp)
  | closes =>
    rw [inboxStep] at taken
    split at taken
    · rename_i thread
      obtain ⟨rfl, rfl⟩ := Prod.mk.inj (Option.some.inj taken)
      unfold Inbox.Armed at armed ⊢
      rw [thread] at armed
      exact ⟨armed, rfl⟩
    · exact absurd taken (by simp)
  | ends left =>
    rw [inboxStep] at taken
    split at taken
    · obtain ⟨rfl, rfl⟩ := Prod.mk.inj (Option.some.inj taken)
      exact ⟨trivial, rfl⟩
    · exact absurd taken (by simp)
  | idles =>
    rw [inboxStep] at taken
    split at taken
    · obtain ⟨rfl, rfl⟩ := Prod.mk.inj (Option.some.inj taken)
      exact ⟨armed, rfl⟩
    · obtain ⟨rfl, rfl⟩ := Prod.mk.inj (Option.some.inj taken)
      exact ⟨armed, rfl⟩
    · exact absurd taken (by simp)

/-! ### Empty batches -/

/-- A poll that takes nothing found nothing it wants. -/
theorem Inbox.batch_eq_nil {inbox : Inbox Event} {args : PollArgs} (bound : 1 ≤ args.maxEvents)
    (empty : inbox.batch key args = []) : inbox.ready.any (args.wanted key) = false := by
  have positive : args.maxEvents.toNat ≠ 0 := by omega
  rcases List.take_eq_nil_iff.mp empty with zero | none
  · exact absurd zero positive
  · rw [List.any_eq_false]
    exact fun event member => List.filter_eq_nil_iff.mp none event member

/-- A pass of the wait loop returns an empty batch only when the time is over. -/
theorem Inbox.attempt_nil {inbox : Inbox Event} {args : PollArgs} {leftMs : Int}
    (bound : 1 ≤ args.maxEvents) (waits : args.timeoutMs ≠ 0)
    (empty : [] ∈ (inbox.attempt key args leftMs).2) : 0 < args.timeoutMs ∧ leftMs ≤ 0 := by
  unfold Inbox.attempt at empty
  split at empty
  · split at empty
    · rename_i expired
      exact expired
    · exact absurd empty List.not_mem_nil
  · rename_i matched
    have unmatched := Inbox.batch_eq_nil key bound (List.mem_singleton.mp empty).symm
    refine absurd ?_ matched
    rw [unmatched, bne_iff_ne.mpr waits]
    rfl

/-! ### Order -/

/-- A poll keeps the order of the events of each key. -/
theorem Inbox.take_filter (inbox : Inbox Event) (args : PollArgs) (id : Nat) :
    (inbox.batch key args).filter (fun event => key event == id) ++
        (inbox.take key args).ready.filter (fun event => key event == id) =
      inbox.ready.filter fun event => key event == id := by
  have together : (∀ event, (key event == id) = true → args.wanted key event = true) ∨
      ∀ event, (key event == id) = true → args.wanted key event = false := by
    cases wanted : args.wants id with
    | true =>
      refine Or.inl fun event same => ?_
      rw [PollArgs.wanted, beq_iff_eq.mp same]
      exact wanted
    | false =>
      refine Or.inr fun event same => ?_
      rw [PollArgs.wanted, beq_iff_eq.mp same]
      exact wanted
  have kept := takeLoop_filter (args.wanted key)
    (fun (state : Unit) (_ : Event) => (state, ([] : List Unit))) args.maxEvents together
    inbox.ready 0 ()
  rw [takeLoop_batch, takeLoop_left, Int.natCast_zero, Int.sub_zero] at kept
  exact kept

theorem Inbox.attempt_filter (inbox : Inbox Event) (args : PollArgs) (leftMs : Int) (id : Nat) :
    (inbox.attempt key args leftMs).2.flatten.filter (fun event => key event == id) ++
        (inbox.attempt key args leftMs).1.ready.filter (fun event => key event == id) =
      inbox.ready.filter fun event => key event == id := by
  have ends : ([inbox.batch key args] : List (List Event)).flatten = inbox.batch key args :=
    List.flatten_singleton
  unfold Inbox.attempt
  split
  · split
    · rw [ends]
      exact inbox.take_filter key args id
    · rfl
  · rw [ends]
    exact inbox.take_filter key args id

/-- A step neither loses nor reorders the events of a key, unless it is the end of a close that
throws the queue away. -/
theorem filter_inboxStep {inbox after : Inbox Event} {input : InboxInput Event}
    {takenBatches : List (List Event)}
    (taken : inboxStep key inbox input = some (after, takenBatches))
    (kept : inbox.rthread = .joining → after.rthread = .gone → after.ready = inbox.ready)
    (id : Nat) :
    takenBatches.flatten.filter (fun event => key event == id) ++
        after.ready.filter (fun event => key event == id) =
      inbox.ready.filter (fun event => key event == id) ++
        input.pushed.filter fun event => key event == id := by
  have none {result : Inbox Event × List (List Event)}
      (same : result.2.flatten.filter (fun event => key event == id) ++
        result.1.ready.filter (fun event => key event == id) =
        inbox.ready.filter fun event => key event == id)
      (equal : some result = some (after, takenBatches)) :
      takenBatches.flatten.filter (fun event => key event == id) ++
          after.ready.filter (fun event => key event == id) =
        inbox.ready.filter (fun event => key event == id) ++
          ([] : List Event).filter fun event => key event == id := by
    rw [Option.some.inj equal] at same
    rw [List.filter_nil, List.append_nil]
    exact same
  have ends (args : PollArgs) :
      ([inbox.batch key args] : List (List Event)).flatten = inbox.batch key args :=
    List.flatten_singleton
  cases input with
  | pushes events =>
    obtain ⟨rfl, rfl⟩ := Prod.mk.inj (Option.some.inj taken)
    exact List.filter_append _ _
  | polls args leftMs =>
    rw [inboxStep] at taken
    split at taken
    · exact none (inbox.attempt_filter key args leftMs id) taken
    · exact absurd taken (by simp)
  | wakes result leftMs =>
    rw [inboxStep] at taken
    split at taken
    · rename_i args thread
      split at taken
      · refine none ?_ taken
        rw [ends]
        exact inbox.take_filter key args id
      · split at taken
        · exact none (inbox.attempt_filter key args leftMs id) taken
        · exact absurd taken (by simp)
    · exact absurd taken (by simp)
  | closes =>
    rw [inboxStep] at taken
    split at taken
    · exact none rfl taken
    · exact absurd taken (by simp)
  | ends left =>
    rw [inboxStep] at taken
    split at taken
    · rename_i joining
      refine none ?_ taken
      obtain ⟨rfl, rfl⟩ := Prod.mk.inj (Option.some.inj taken)
      rw [kept joining rfl]
      rfl
    · exact absurd taken (by simp)
  | idles =>
    rw [inboxStep] at taken
    split at taken
    · exact none rfl taken
    · exact none rfl taken
    · exact absurd taken (by simp)

end Inbox

/-! ### Machines that feed an inbox -/

/-- A machine with the inbox of its states: the key of an event, the events a log pushed and the
batches taken from it, the inputs that are turns of the completion thread, and those that are a poll
and the return of `wake_poll` inside one. -/
structure Feed (State Input Obs Event : Type) where
  machine : Machine State Input Obs
  key : Event → Nat
  inbox : State → Inbox Event
  pushed : List Obs → List Event
  takenBatches : List Obs → List (List Event)
  completes : Input → Bool
  poll : PollArgs → Int → Input
  woken : Int → Int → Input

/-- A step of a machine is a step of its inbox: the completion thread only pushes, a poll is a poll
unless it is refused, and a return of `wake_poll` is one. -/
structure Feed.Seen {State Input Obs Event : Type} (feed : Feed State Input Obs Event)
    (state : State) (input : Input) (after : State) (news : List Obs)
    (seen : InboxInput Event) : Prop where
  step : inboxStep feed.key (feed.inbox state) seen =
    some (feed.inbox after, feed.takenBatches news)
  pushed : feed.pushed news = seen.pushed
  completes : feed.completes input = true ↔ ∃ events, seen = .pushes events
  poll : ∀ args leftMs, input = feed.poll args leftMs → seen = .polls args leftMs ∨ seen = .idles
  woken : ∀ result leftMs, input = feed.woken result leftMs → seen = .wakes result leftMs

/-- The machine refines its inbox. -/
structure Feed.Refines {State Input Obs Event : Type} (feed : Feed State Input Obs Event)
    (wake : WakeHandle) : Prop where
  start : feed.inbox feed.machine.start = ⟨[], wake, .idle⟩
  opening : feed.pushed feed.machine.opening = [] ∧ feed.takenBatches feed.machine.opening = []
  pushed_nil : feed.pushed [] = []
  pushed_append : ∀ log more, feed.pushed (log ++ more) = feed.pushed log ++ feed.pushed more
  takenBatches_append : ∀ log more,
    feed.takenBatches (log ++ more) = feed.takenBatches log ++ feed.takenBatches more
  step : ∀ {state log input after news}, feed.machine.Run Machine.Free state log →
    feed.machine.step state input = some (after, news) →
    ∃ seen, feed.Seen state input after news seen

/-- A wait that goes on in a state of a run: the step of the R thread that drained the handle and
began it, and the turns the completion thread took since. -/
structure Feed.WaitsSince {State Input Obs Event : Type} (feed : Feed State Input Obs Event)
    (state : State) (log : List Obs) (args : PollArgs) (earlier : State) (entry : Input)
    (drained : State) (before entered later : List Obs) : Prop where
  reached : feed.machine.Run Machine.Free earlier before
  own : feed.completes entry = false
  entry : feed.machine.step earlier entry = some (drained, entered)
  waits : (feed.inbox drained).rthread = .polling args
  empty : (feed.inbox drained).wake.bytes = 0
  since : (feed.machine.startedAt drained).Run (fun _ input => feed.completes input = true) state
    later
  log : log = before ++ entered ++ later

/-- What the wake handle is good for, in a state of a run. Between polls it is readable exactly
while events are queued. Inside a wait it is readable once a wanted event is queued, and when
`wake_poll` finds it readable, an event was pushed since the drain that began the wait. A poll
returns an empty batch only when `wake_poll` timed out or no time was left. -/
structure Feed.WakeContract {State Input Obs Event : Type} (feed : Feed State Input Obs Event)
    (state : State) (log : List Obs) : Prop where
  readable : (feed.inbox state).rthread = .idle ∨ (feed.inbox state).rthread = .joining →
    ((feed.inbox state).wake.readable = true ↔ (feed.inbox state).ready ≠ [])
  waiting : ∀ args, (feed.inbox state).rthread = .polling args →
    (feed.inbox state).ready.any (args.wanted feed.key) = true →
    (feed.inbox state).wake.readable = true
  pushedSince : ∀ result leftMs, 0 < result → feed.machine.step state (feed.woken result leftMs) ≠
    none → ∃ args earlier entry drained before entered later,
      feed.WaitsSince state log args earlier entry drained before entered later ∧
        feed.pushed later ≠ []
  empty : ∀ args leftMs after news, feed.machine.step state (feed.poll args leftMs) =
    some (after, news) → [] ∈ feed.takenBatches news → 1 ≤ args.maxEvents → args.timeoutMs ≠ 0 →
    0 < args.timeoutMs ∧ leftMs ≤ 0
  emptyWoken : ∀ args result leftMs after news, (feed.inbox state).rthread = .polling args →
    feed.machine.step state (feed.woken result leftMs) = some (after, news) →
    [] ∈ feed.takenBatches news → 1 ≤ args.maxEvents → args.timeoutMs ≠ 0 →
    result ≤ 0 ∨ 0 < args.timeoutMs ∧ leftMs ≤ 0

/-- A step that leaves the R thread inside the wait of a poll is a turn of the completion thread, or
it drained the handle and began the wait. -/
theorem wait_inboxStep {Event : Type} {key : Event → Nat} {inbox after : Inbox Event}
    {input : InboxInput Event} {takenBatches : List (List Event)} {args : PollArgs}
    (taken : inboxStep key inbox input = some (after, takenBatches))
    (waits : after.rthread = .polling args) :
    (∃ events, input = .pushes events ∧ inbox.rthread = .polling args ∧
        after.wake = inbox.wake.signals events.length) ∨
      (∀ events, input ≠ .pushes events) ∧ after.wake.bytes = 0 := by
  have drained {args' : PollArgs} {leftMs : Int}
      (equal : some (inbox.attempt key args' leftMs) = some (after, takenBatches)) :
      after.wake.bytes = 0 := by
    have left : (inbox.attempt key args' leftMs).1 = after :=
      congrArg Prod.fst (Option.some.inj equal)
    rw [← left] at waits ⊢
    unfold Inbox.attempt at waits ⊢
    split at waits
    · rename_i unmatched
      rw [if_pos unmatched]
      split at waits
      · exact absurd waits (by simp [Inbox.take])
      · rename_i time
        rw [if_neg time]
        rfl
    · exact absurd waits (by simp [Inbox.take])
  cases input with
  | pushes events =>
    obtain ⟨rfl, rfl⟩ := Prod.mk.inj (Option.some.inj taken)
    exact Or.inl ⟨events, rfl, waits, rfl⟩
  | polls args' leftMs =>
    rw [inboxStep] at taken
    split at taken
    · exact Or.inr ⟨by simp, drained taken⟩
    · exact absurd taken (by simp)
  | wakes result leftMs =>
    rw [inboxStep] at taken
    split at taken
    · split at taken
      · obtain ⟨rfl, rfl⟩ := Prod.mk.inj (Option.some.inj taken)
        exact absurd waits (by simp [Inbox.take])
      · split at taken
        · exact Or.inr ⟨by simp, drained taken⟩
        · exact absurd taken (by simp)
    · exact absurd taken (by simp)
  | closes =>
    rw [inboxStep] at taken
    split at taken
    · obtain ⟨rfl, rfl⟩ := Prod.mk.inj (Option.some.inj taken)
      exact absurd waits (by simp)
    · exact absurd taken (by simp)
  | ends left =>
    rw [inboxStep] at taken
    split at taken
    · obtain ⟨rfl, rfl⟩ := Prod.mk.inj (Option.some.inj taken)
      exact absurd waits (by simp)
    · exact absurd taken (by simp)
  | idles =>
    rw [inboxStep] at taken
    split at taken
    · rename_i thread
      obtain ⟨rfl, rfl⟩ := Prod.mk.inj (Option.some.inj taken)
      exact absurd (thread.symm.trans waits) (by simp)
    · rename_i thread
      obtain ⟨rfl, rfl⟩ := Prod.mk.inj (Option.some.inj taken)
      exact absurd (thread.symm.trans waits) (by simp)
    · exact absurd taken (by simp)

section Feed

variable {State Input Obs Event : Type} {feed : Feed State Input Obs Event} {wake : WakeHandle}

/-- Along every run the handle is armed, and it has room for a byte. -/
theorem Feed.Refines.armed_of_run (refines : feed.Refines wake) (room : 1 ≤ wake.capacity)
    (empty : wake.bytes = 0) {state : State} {log : List Obs}
    (run : feed.machine.Run Machine.Free state log) :
    (feed.inbox state).Armed feed.key ∧ 1 ≤ (feed.inbox state).wake.capacity := by
  induction run with
  | start =>
    rw [refines.start]
    refine ⟨?_, room⟩
    show wake.readable = true ↔ [] ≠ []
    simp [WakeHandle.readable, empty]
  | next before _ taken inductionHypothesis =>
    obtain ⟨seen, step⟩ := refines.step before taken
    obtain ⟨armed, same⟩ := armed_inboxStep feed.key inductionHypothesis.2 inductionHypothesis.1
      step.step
    exact ⟨armed, by rw [same]; exact inductionHypothesis.2⟩

/-- While a poll waits, the handle is readable exactly when an event was pushed since the poll
drained it. -/
theorem Feed.Refines.waitsSince_of_run (refines : feed.Refines wake) (room : 1 ≤ wake.capacity)
    (empty : wake.bytes = 0) {state : State} {log : List Obs}
    (run : feed.machine.Run Machine.Free state log) {args : PollArgs}
    (waits : (feed.inbox state).rthread = .polling args) :
    ∃ earlier entry drained before entered later,
      feed.WaitsSince state log args earlier entry drained before entered later ∧
        ((feed.inbox state).wake.readable = true ↔ feed.pushed later ≠ []) := by
  induction run with
  | start =>
    rw [refines.start] at waits
    exact absurd waits (by simp)
  | @next state after log news input before _ taken inductionHypothesis =>
    obtain ⟨seen, step⟩ := refines.step before taken
    rcases wait_inboxStep step.step waits with
      ⟨events, rfl, thread, signalled⟩ | ⟨other, drained⟩
    · obtain ⟨earlier, entry, drained, first, entered, later, since, readable⟩ :=
        inductionHypothesis thread
      have completes : feed.completes input = true := step.completes.mpr ⟨events, rfl⟩
      have capacity := (refines.armed_of_run room empty before).2
      refine ⟨earlier, entry, drained, first, entered, later ++ news,
        { since with
          since := .next since.since completes taken
          log := by rw [since.log, List.append_assoc _ later news] }, ?_⟩
      rw [signalled, readable_signals capacity, readable, refines.pushed_append, step.pushed,
        ne_eq, ne_eq, ne_eq, List.append_eq_nil_iff, not_and_or, List.length_eq_zero_iff]
      rfl
    · have own : feed.completes input = false := by
        rw [← Bool.not_eq_true, step.completes]
        rintro ⟨events, same⟩
        exact other events same
      refine ⟨state, input, after, log, news, [],
        ⟨before, own, taken, waits, drained, .start, (List.append_nil _).symm⟩, ?_⟩
      rw [refines.pushed_nil]
      simp [WakeHandle.readable, drained]

/-- `wake_poll` returns only inside a poll, and positive only when the handle is readable. -/
theorem wakes_inboxStep {key : Event → Nat} {inbox : Inbox Event} {result leftMs : Int}
    {outcome : Inbox Event × List (List Event)}
    (taken : inboxStep key inbox (.wakes result leftMs) = some outcome) :
    ∃ args, inbox.rthread = .polling args ∧ (0 < result → inbox.wake.readable = true) ∧
      ((result ≤ 0 ∧ outcome = (inbox.take key args, [inbox.batch key args])) ∨
        outcome = inbox.attempt key args leftMs) := by
  rw [inboxStep] at taken
  split at taken
  · rename_i args thread
    refine ⟨args, thread, ?_⟩
    split at taken
    · rename_i expired
      exact ⟨fun positive => absurd positive (Int.not_lt.mpr expired),
        Or.inl ⟨expired, (Option.some.inj taken).symm⟩⟩
    · split at taken
      · rename_i readable
        exact ⟨fun _ => readable, Or.inr (Option.some.inj taken).symm⟩
      · exact absurd taken (by simp)
  · exact absurd taken (by simp)

/-- A machine that refines its inbox keeps the contract of the wake handle along every run. -/
theorem Feed.Refines.wakeContract (refines : feed.Refines wake) (room : 1 ≤ wake.capacity)
    (empty : wake.bytes = 0) {state : State} {log : List Obs}
    (run : feed.machine.Run Machine.Free state log) : feed.WakeContract state log := by
  have armed := (refines.armed_of_run room empty run).1
  refine ⟨fun thread => ?_, fun args thread matched => ?_,
    fun result leftMs positive possible => ?_,
    fun args leftMs after news taken returned bound waits => ?_,
    fun args result leftMs after news thread taken returned bound waits => ?_⟩
  · unfold Inbox.Armed at armed
    rcases thread with idle | joining
    · rw [idle] at armed
      exact armed
    · rw [joining] at armed
      exact armed
  · unfold Inbox.Armed at armed
    rw [thread] at armed
    exact armed matched
  · obtain ⟨⟨after, news⟩, taken⟩ := Option.ne_none_iff_exists'.mp possible
    obtain ⟨seen, step⟩ := refines.step run taken
    have wakes := step.step
    rw [step.woken result leftMs rfl] at wakes
    obtain ⟨args, thread, readable, -⟩ := wakes_inboxStep wakes
    obtain ⟨earlier, entry, drained, before, entered, later, since, pushed⟩ :=
      refines.waitsSince_of_run room empty run thread
    exact ⟨args, earlier, entry, drained, before, entered, later, since,
      pushed.mp (readable positive)⟩
  · obtain ⟨seen, step⟩ := refines.step run taken
    have polls := step.step
    rcases step.poll args leftMs rfl with rfl | rfl
    · rw [inboxStep] at polls
      split at polls
      · have same : (Inbox.attempt feed.key (feed.inbox state) args leftMs).2 =
            feed.takenBatches news :=
          congrArg Prod.snd (Option.some.inj polls)
        rw [← same] at returned
        exact Inbox.attempt_nil feed.key bound waits returned
      · exact absurd polls (by simp)
    · rw [inboxStep] at polls
      split at polls
      · rw [← (Prod.mk.inj (Option.some.inj polls)).2] at returned
        exact absurd returned List.not_mem_nil
      · rw [← (Prod.mk.inj (Option.some.inj polls)).2] at returned
        exact absurd returned List.not_mem_nil
      · exact absurd polls (by simp)
  · obtain ⟨seen, step⟩ := refines.step run taken
    have wakes := step.step
    rw [step.woken result leftMs rfl] at wakes
    obtain ⟨args', thread', -, outcome⟩ := wakes_inboxStep wakes
    obtain rfl : args' = args := RThread.polling.inj (thread'.symm.trans thread)
    rcases outcome with ⟨expired, -⟩ | attempted
    · exact Or.inl expired
    · have same : feed.takenBatches news =
          (Inbox.attempt feed.key (feed.inbox state) args' leftMs).2 := congrArg Prod.snd attempted
      rw [same] at returned
      exact Or.inr (Inbox.attempt_nil feed.key bound waits returned)

/-- As long as a machine has not thrown its queue away, what was taken of a key and what is still
queued of it is what was pushed of it. -/
theorem Feed.Refines.partition_of_run (refines : feed.Refines wake) (kept : State → Prop)
    (held : ∀ {state log input after news}, feed.machine.Run Machine.Free state log →
      feed.machine.step state input = some (after, news) → kept after →
      kept state ∧ ((feed.inbox state).rthread = .joining → (feed.inbox after).rthread = .gone →
        (feed.inbox after).ready = (feed.inbox state).ready))
    {state : State} {log : List Obs} (run : feed.machine.Run Machine.Free state log)
    (now : kept state) (id : Nat) :
    (feed.takenBatches log).flatten.filter (fun event => feed.key event == id) ++
        (feed.inbox state).ready.filter (fun event => feed.key event == id) =
      (feed.pushed log).filter fun event => feed.key event == id := by
  induction run with
  | start =>
    rw [refines.start, refines.opening.1, refines.opening.2]
    rfl
  | next before _ taken inductionHypothesis =>
    obtain ⟨earlier, same⟩ := held before taken now
    obtain ⟨seen, step⟩ := refines.step before taken
    have moved := filter_inboxStep feed.key step.step same id
    rw [refines.takenBatches_append, List.flatten_append, List.filter_append, List.append_assoc,
      moved,
      ← List.append_assoc, inductionHypothesis earlier, refines.pushed_append, List.filter_append,
      step.pushed]

/-- A closed inbox returns nothing, and an inbox that was closed stays so. -/
theorem gone_inboxStep {Event : Type} {key : Event → Nat} {inbox after : Inbox Event}
    {input : InboxInput Event} {takenBatches : List (List Event)}
    (taken : inboxStep key inbox input = some (after, takenBatches)) :
    (inbox.rthread = .gone → after.rthread = .gone) ∧
      (after.rthread = .gone → takenBatches = []) := by
  have attempted {args : PollArgs} {leftMs : Int}
      (equal : some (inbox.attempt key args leftMs) = some (after, takenBatches)) :
      after.rthread ≠ .gone := by
    have left : (inbox.attempt key args leftMs).1 = after :=
      congrArg Prod.fst (Option.some.inj equal)
    rw [← left]
    unfold Inbox.attempt
    split
    · split <;> simp [Inbox.take]
    · simp [Inbox.take]
  cases input with
  | pushes events =>
    obtain ⟨rfl, rfl⟩ := Prod.mk.inj (Option.some.inj taken)
    exact ⟨id, fun _ => rfl⟩
  | polls args leftMs =>
    rw [inboxStep] at taken
    split at taken
    · rename_i idle
      exact ⟨fun gone => absurd (idle.symm.trans gone) (by simp),
        fun gone => absurd gone (attempted taken)⟩
    · exact absurd taken (by simp)
  | wakes result leftMs =>
    obtain ⟨args, thread, -, outcome⟩ := wakes_inboxStep taken
    refine ⟨fun gone => absurd (thread.symm.trans gone) (by simp), fun gone => ?_⟩
    rcases outcome with ⟨-, equal⟩ | equal
    · obtain ⟨rfl, rfl⟩ := Prod.mk.inj equal
      exact absurd gone (by simp [Inbox.take])
    · exact absurd gone (attempted (congrArg some equal).symm)
  | closes =>
    rw [inboxStep] at taken
    split at taken
    · rename_i idle
      obtain ⟨rfl, rfl⟩ := Prod.mk.inj (Option.some.inj taken)
      exact ⟨fun gone => absurd (idle.symm.trans gone) (by simp), fun _ => rfl⟩
    · exact absurd taken (by simp)
  | ends left =>
    rw [inboxStep] at taken
    split at taken
    · obtain ⟨rfl, rfl⟩ := Prod.mk.inj (Option.some.inj taken)
      exact ⟨fun _ => rfl, fun _ => rfl⟩
    · exact absurd taken (by simp)
  | idles =>
    rw [inboxStep] at taken
    split at taken
    · obtain ⟨rfl, rfl⟩ := Prod.mk.inj (Option.some.inj taken)
      exact ⟨id, fun _ => rfl⟩
    · obtain ⟨rfl, rfl⟩ := Prod.mk.inj (Option.some.inj taken)
      exact ⟨id, fun _ => rfl⟩
    · exact absurd taken (by simp)

theorem Feed.Refines.partition_of_open (refines : feed.Refines wake) {state : State}
    {log : List Obs} (run : feed.machine.Run Machine.Free state log)
    (now : (feed.inbox state).rthread ≠ .gone) (id : Nat) :
    (feed.takenBatches log).flatten.filter (fun event => feed.key event == id) ++
        (feed.inbox state).ready.filter (fun event => feed.key event == id) =
      (feed.pushed log).filter fun event => feed.key event == id := by
  refine refines.partition_of_run (fun state => (feed.inbox state).rthread ≠ .gone)
    (fun before taken later => ?_) run now id
  obtain ⟨seen, step⟩ := refines.step before taken
  exact ⟨fun earlier => later ((gone_inboxStep step.step).1 earlier),
    fun _ gone => absurd gone later⟩

/-- Whether or not the queue is thrown away at the end of a close, what was taken of a key is a
prefix of what was pushed of it. -/
theorem Feed.Refines.taken_prefix_of_run (refines : feed.Refines wake) {state : State}
    {log : List Obs} (run : feed.machine.Run Machine.Free state log) (id : Nat) :
    ((feed.takenBatches log).flatten.filter fun event => feed.key event == id) <+:
      (feed.pushed log).filter fun event => feed.key event == id := by
  induction run with
  | start =>
    rw [refines.opening.2]
    exact List.nil_prefix
  | @next state after log news input before permitted taken inductionHypothesis =>
    by_cases gone : (feed.inbox after).rthread = .gone
    · obtain ⟨seen, step⟩ := refines.step before taken
      rw [refines.takenBatches_append, (gone_inboxStep step.step).2 gone, List.append_nil,
        refines.pushed_append, List.filter_append]
      exact inductionHypothesis.trans (List.prefix_append _ _)
    · exact ⟨_, refines.partition_of_open (before.next permitted taken) gone id⟩

/-- What is left of the R thread after a close began: it joins, or it is done. -/
theorem busy_inboxStep {Event : Type} {key : Event → Nat} {inbox after : Inbox Event}
    {input : InboxInput Event} {returned : List (List Event)}
    (taken : inboxStep key inbox input = some (after, returned))
    (busy : inbox.rthread = .joining ∨ inbox.rthread = .gone) :
    after.rthread = .joining ∨ after.rthread = .gone := by
  have occupied {args : PollArgs} : ¬ (inbox.rthread = .idle ∨ inbox.rthread = .polling args) := by
    rcases busy with joining | gone
    · rw [joining]
      simp
    · rw [gone]
      simp
  cases input with
  | pushes events =>
    obtain ⟨rfl, -⟩ := Prod.mk.inj (Option.some.inj taken)
    exact busy
  | polls args leftMs =>
    rw [inboxStep] at taken
    split at taken
    · rename_i idle
      exact absurd (Or.inl idle) (@occupied args)
    · exact absurd taken (by simp)
  | wakes result leftMs =>
    obtain ⟨args, polling, -⟩ := wakes_inboxStep taken
    exact absurd (Or.inr polling) occupied
  | closes =>
    rw [inboxStep] at taken
    split at taken
    · obtain ⟨rfl, -⟩ := Prod.mk.inj (Option.some.inj taken)
      exact Or.inl rfl
    · exact absurd taken (by simp)
  | ends left =>
    rw [inboxStep] at taken
    split at taken
    · obtain ⟨rfl, -⟩ := Prod.mk.inj (Option.some.inj taken)
      exact Or.inr rfl
    · exact absurd taken (by simp)
  | idles =>
    rw [inboxStep] at taken
    split at taken
    · obtain ⟨rfl, -⟩ := Prod.mk.inj (Option.some.inj taken)
      exact busy
    · obtain ⟨rfl, -⟩ := Prod.mk.inj (Option.some.inj taken)
      exact busy
    · exact absurd taken (by simp)

/-- A poll that returns a batch leaves the R thread free. -/
theorem idle_of_returned {Event : Type} {key : Event → Nat} {inbox after : Inbox Event}
    {input : InboxInput Event} {returned : List (List Event)}
    (taken : inboxStep key inbox input = some (after, returned))
    (some_ : returned ≠ []) : after.rthread = .idle := by
  have attempted {args : PollArgs} {leftMs : Int}
      (equal : inbox.attempt key args leftMs = (after, returned)) :
      after.rthread = .idle := by
    unfold Inbox.attempt at equal
    split at equal
    · split at equal
      · rw [← (Prod.mk.inj equal).1]
        rfl
      · exact absurd (Prod.mk.inj equal).2.symm some_
    · rw [← (Prod.mk.inj equal).1]
      rfl
  cases input with
  | pushes events => exact absurd (Prod.mk.inj (Option.some.inj taken)).2.symm some_
  | polls args leftMs =>
    rw [inboxStep] at taken
    split at taken
    · exact attempted (Option.some.inj taken)
    · exact absurd taken (by simp)
  | wakes result leftMs =>
    obtain ⟨args, -, -, ⟨-, ended⟩ | again⟩ := wakes_inboxStep taken
    · rw [(Prod.mk.inj ended).1]
      rfl
    · exact attempted again.symm
  | closes | ends left =>
    rw [inboxStep] at taken
    split at taken
    · exact absurd (Prod.mk.inj (Option.some.inj taken)).2.symm some_
    · exact absurd taken (by simp)
  | idles =>
    rw [inboxStep] at taken
    split at taken
    · exact absurd (Prod.mk.inj (Option.some.inj taken)).2.symm some_
    · exact absurd (Prod.mk.inj (Option.some.inj taken)).2.symm some_
    · exact absurd taken (by simp)

end Feed

end Rgrpc
