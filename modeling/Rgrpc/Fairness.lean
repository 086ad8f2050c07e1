/-
This file bounds how long a queued event can stay behind others. A poll takes
the first events it wants and an event keeps its place among those of its call,
so every poll that wants the event either takes it or takes a full batch from
the events ahead of it; the polls that do not want it can only bring it forward.
The bound is proved once for the inbox and holds of both ends.
-/

import Rgrpc.Client.Tally
import Rgrpc.Server.Feed

namespace Rgrpc

open Library

/-! ### One event of an inbox -/

/-- Whether a poll wants the events of an id and takes as many of them as a bound says. -/
def PollArgs.reaches (args : PollArgs) (id bound : Nat) : Bool :=
  args.wants id && decide ((bound : Int) ≤ args.maxEvents)

/-- How far a poll brings an event of an id forward that it does not take. -/
def PollArgs.reach (args : PollArgs) (id bound : Nat) : Nat :=
  if args.reaches id bound then bound else 0

/-- What the poll that goes on in an inbox still owes an event of an id. -/
def Inbox.owed {Event : Type} (inbox : Inbox Event) (id bound : Nat) : Nat :=
  match inbox.rthread with
  | .polling args => args.reach id bound
  | _ => 0

/-- How far an input asks an event of an id to be brought forward. -/
def InboxInput.asked {Event : Type} (id bound : Nat) : InboxInput Event → Nat
  | .polls args _ => args.reach id bound
  | _ => 0

/-- Where an event is that was queued behind `front`: it was taken behind the events of its key
that were ahead of it, or it waits behind those of them that were not taken, as far forward as
the polls asked for it to be, up to what is still owed. -/
inductive Served {Event : Type} (key : Event → Nat) (front : List Event) (event : Event)
    (asked owed : Nat) (drawn ready : List Event) : Prop
  | taken (first : ((front ++ [event]).filter fun other => key other == key event) <+:
      drawn.filter fun other => key other == key event)
  | waiting (ahead behind : List Event) (queued : ready = ahead ++ event :: behind)
      (order : (drawn.filter fun other => key other == key event) ++
        (ahead.filter fun other => key other == key event) =
          front.filter fun other => key other == key event)
      (closer : ahead.length + asked ≤ front.length + owed)

section Served

variable {Event : Type} {key : Event → Nat} {front : List Event} {event : Event}
  {asked owed bound : Nat} {drawn ready : List Event}

theorem Served.mono (served : Served key front event asked owed drawn ready) {less : Nat}
    (fewer : less ≤ asked) : Served key front event less owed drawn ready := by
  cases served with
  | taken first => exact .taken first
  | waiting ahead behind queued order closer =>
    exact .waiting ahead behind queued order
      (Nat.le_trans (Nat.add_le_add_left fewer _) closer)

/-- What is taken and queued later changes nothing for an event that waits. -/
theorem Served.pushed (served : Served key front event asked owed drawn ready)
    (events : List Event) : Served key front event asked owed drawn (ready ++ events) := by
  cases served with
  | taken first => exact .taken first
  | waiting ahead behind queued order closer =>
    refine .waiting ahead (behind ++ events) ?_ order closer
    rw [queued, List.append_assoc, List.cons_append]

/-- The end of a poll takes its batch in two parts when the queue is split. -/
theorem Inbox.take_append (key : Event → Nat) {inbox : Inbox Event} {ahead behind : List Event}
    (args : PollArgs) (queued : inbox.ready = ahead ++ behind) :
    ∃ first second : Taken Unit Event Unit,
      first = takeLoop (args.wanted key) (fun state _ => (state, [])) args.maxEvents ahead 0 () ∧
      second = takeLoop (args.wanted key) (fun state _ => (state, [])) args.maxEvents behind
        first.batch.length () ∧
      inbox.batch key args = first.batch ++ second.batch ∧
      (inbox.take key args).ready = first.left ++ second.left := by
  have whole := takeLoop_append (args.wanted key)
    (fun (state : Unit) (_ : Event) => (state, ([] : List Unit))) args.maxEvents ahead behind 0 ()
  have batch := takeLoop_batch (args.wanted key)
    (fun (state : Unit) (_ : Event) => (state, ([] : List Unit))) args.maxEvents inbox.ready 0 ()
  have left := takeLoop_left (args.wanted key)
    (fun (state : Unit) (_ : Event) => (state, ([] : List Unit))) args.maxEvents inbox.ready ()
  rw [queued, whole] at batch left
  rw [Int.natCast_zero, Int.sub_zero] at batch
  simp only [Nat.zero_add] at batch left
  refine ⟨_, _, rfl, rfl, ?_, ?_⟩
  · rw [Inbox.batch, queued]
    exact batch.symm
  · show inbox.left key args = _
    rw [Inbox.left, queued]
    exact left.symm

/-- A poll that does not want the events of a key takes none of them. -/
theorem takeLoop_filter_eq_nil {State Obs : Type} {account : State → Event → State × List Obs}
    {args : PollArgs} {id : Nat} (unwanted : args.wants id = false) (events : List Event)
    (count : Nat) (state : State) :
    ((takeLoop (args.wanted key) account args.maxEvents events count state).batch.filter
      fun other => key other == id) = [] := by
  refine List.filter_eq_nil_iff.mpr fun other member same => ?_
  rw [takeLoop_batch] at member
  have wanted := (List.mem_filter.mp (List.mem_of_mem_take member)).2
  rw [PollArgs.wanted, beq_iff_eq.mp same, unwanted] at wanted
  exact Bool.false_ne_true wanted

/-- A poll that does not fill its batch took everything it wants. -/
theorem takeLoop_all {State Obs : Type} {account : State → Event → State × List Obs}
    {args : PollArgs} {events : List Event} {count : Nat} (state : State)
    (room : ((takeLoop (args.wanted key) account args.maxEvents events count state).batch.length :
      Int) + count < args.maxEvents) :
    (takeLoop (args.wanted key) account args.maxEvents events count state).batch =
      events.filter (args.wanted key) := by
  rw [takeLoop_batch] at room ⊢
  rw [List.length_take] at room
  exact List.take_of_length_le (by omega)

/-- The end of a poll takes the event, or brings it forward by a full batch if it wants it. -/
theorem Inbox.take_served {inbox : Inbox Event} {args : PollArgs}
    (served : Served key front event asked (args.reach (key event) bound) drawn inbox.ready) :
    Served key front event asked 0 (drawn ++ inbox.batch key args)
      (inbox.take key args).ready := by
  cases served with
  | taken prefixed =>
    refine .taken (prefixed.trans ?_)
    rw [List.filter_append]
    exact List.prefix_append _ _
  | waiting ahead behind queued order closer =>
    obtain ⟨first, second, firstIs, secondIs, batch, left⟩ := Inbox.take_append key args queued
    have parts : first.batch.length + first.left.length = ahead.length := by
      rw [← List.length_append, firstIs]
      exact (takeLoop_perm _ _ _ ahead 0 ()).length_eq
    have together : (∀ other, (key other == key event) = true → args.wanted key other = true) ∨
        ∀ other, (key other == key event) = true → args.wanted key other = false := by
      cases wants : args.wants (key event) with
      | true => exact Or.inl fun other same => by rw [PollArgs.wanted, beq_iff_eq.mp same, wants]
      | false => exact Or.inr fun other same => by rw [PollArgs.wanted, beq_iff_eq.mp same, wants]
    have kept := takeLoop_filter (args.wanted key)
      (fun (state : Unit) (_ : Event) => (state, ([] : List Unit))) args.maxEvents together ahead 0
      ()
    rw [← firstIs] at kept
    have waits (rest : List Event) (stays : second.left = event :: rest)
        (none : (second.batch.filter fun other => key other == key event) = [])
        (full : args.wants (key event) = true → args.maxEvents ≤ first.batch.length) :
        Served key front event asked 0 (drawn ++ inbox.batch key args)
          (inbox.take key args).ready := by
      refine .waiting first.left rest (by rw [left, stays]) ?_ ?_
      · rw [batch, List.filter_append, List.filter_append, none, List.append_nil,
          List.append_assoc, kept, order]
      · unfold PollArgs.reach PollArgs.reaches at closer
        split at closer
        · rename_i reaches
          rw [Bool.and_eq_true, decide_eq_true_eq] at reaches
          have taken := full reaches.1
          omega
        · omega
    by_cases room : (first.batch.length : Int) < args.maxEvents
    · rw [takeLoop, if_pos room] at secondIs
      cases wants : args.wants (key event) with
      | true =>
        rw [PollArgs.wanted, wants, if_pos rfl] at secondIs
        have all : first.batch = ahead.filter (args.wanted key) := by
          rw [firstIs] at room ⊢
          exact takeLoop_all () (by simpa using room)
        have own : (first.batch.filter fun other => key other == key event) =
            ahead.filter fun other => key other == key event := by
          rw [all, List.filter_filter]
          refine List.filter_congr fun other _ => ?_
          cases same : key other == key event with
          | true => rw [PollArgs.wanted, beq_iff_eq.mp same, wants]; rfl
          | false => rfl
        have next : [event].filter (fun other => key other == key event) <+:
            second.batch.filter fun other => key other == key event := by
          rw [secondIs]
          exact (List.prefix_append [event] _).filter _
        refine .taken ?_
        rw [batch, List.filter_append, List.filter_append, List.filter_append, own,
          ← List.append_assoc, order]
        exact (List.prefix_append_right_inj _).mpr next
      | false =>
        rw [PollArgs.wanted, wants, if_neg Bool.false_ne_true] at secondIs
        refine waits _ (by rw [secondIs]) ?_ fun wanted => ?_
        · rw [secondIs]
          exact takeLoop_filter_eq_nil wants _ _ _
        · exact absurd (wants.symm.trans wanted) Bool.false_ne_true
    · rw [takeLoop_full _ _ _ _ _ (Int.not_lt.mp room)] at secondIs
      exact waits behind (by rw [secondIs]) (by rw [secondIs]; rfl)
        fun _ => Int.not_lt.mp room

/-- One pass of the wait loop of a poll leaves what the poll owes, or ends it. -/
theorem Inbox.attempt_served {inbox : Inbox Event} {args : PollArgs} (leftMs : Int)
    (served : Served key front event asked (args.reach (key event) bound) drawn inbox.ready) :
    Served key front event asked ((inbox.attempt key args leftMs).1.owed (key event) bound)
      (drawn ++ (inbox.attempt key args leftMs).2.flatten)
      (inbox.attempt key args leftMs).1.ready := by
  have ends : Served key front event asked ((inbox.take key args).owed (key event) bound)
      (drawn ++ ([inbox.batch key args] : List (List Event)).flatten)
      (inbox.take key args).ready := by
    rw [List.flatten_singleton]
    exact Inbox.take_served served
  unfold Inbox.attempt
  split
  · split
    · exact ends
    · rw [List.flatten_nil, List.append_nil]
      exact served
  · exact ends

/-- A step of an open inbox brings the event forward as far as the polls that ended were asked. -/
theorem Served.step {inbox after : Inbox Event} {input : InboxInput Event}
    {takenBatches : List (List Event)}
    (served : Served key front event asked (inbox.owed (key event) bound) drawn inbox.ready)
    (taken : inboxStep key inbox input = some (after, takenBatches))
    (opened : after.rthread ≠ .gone) :
    Served key front event (asked + input.asked (key event) bound)
      (after.owed (key event) bound) (drawn ++ takenBatches.flatten) after.ready := by
  cases input with
  | pushes events =>
    obtain ⟨rfl, rfl⟩ := Prod.mk.inj (Option.some.inj taken)
    rw [List.flatten_nil, List.append_nil]
    exact served.pushed events
  | polls args leftMs =>
    rw [inboxStep] at taken
    split at taken
    · rename_i idle
      have attempted := Option.some.inj taken
      rw [Inbox.owed, idle] at served
      have asking : Served key front event (asked + args.reach (key event) bound)
          (args.reach (key event) bound) drawn inbox.ready := by
        cases served with
        | taken first => exact .taken first
        | waiting ahead behind queued order closer =>
          refine .waiting ahead behind queued order ?_
          rw [← Nat.add_assoc]
          exact Nat.add_le_add_right closer _
      have passed := Inbox.attempt_served leftMs asking
      rw [attempted] at passed
      exact passed
    · exact absurd taken (by simp)
  | wakes result leftMs =>
    obtain ⟨args, polling, -, ⟨-, ended⟩ | again⟩ := wakes_inboxStep taken
    · obtain ⟨rfl, rfl⟩ := Prod.mk.inj ended
      rw [Inbox.owed, polling] at served
      rw [List.flatten_singleton]
      exact Inbox.take_served served
    · rw [Inbox.owed, polling] at served
      have passed := Inbox.attempt_served leftMs served
      rw [← again] at passed
      exact passed
  | closes =>
    rw [inboxStep] at taken
    split at taken
    · rename_i idle
      obtain ⟨rfl, rfl⟩ := Prod.mk.inj (Option.some.inj taken)
      rw [Inbox.owed, idle] at served
      rw [List.flatten_nil, List.append_nil]
      exact served
    · exact absurd taken (by simp)
  | ends left =>
    rw [inboxStep] at taken
    split at taken
    · obtain ⟨rfl, rfl⟩ := Prod.mk.inj (Option.some.inj taken)
      exact absurd rfl opened
    · exact absurd taken (by simp)
  | idles =>
    have same : inbox = after ∧ [] = takenBatches := by
      rw [inboxStep] at taken
      split at taken
      · exact Prod.mk.inj (Option.some.inj taken)
      · exact Prod.mk.inj (Option.some.inj taken)
      · exact absurd taken (by simp)
    rw [← same.1, ← same.2, List.flatten_nil, List.append_nil]
    exact served

end Served

/-! ### One event of a machine that feeds an inbox -/

section Feed

variable {State Input Obs Event : Type} {feed : Feed State Input Obs Event} {wake : WakeHandle}

/-- The inputs of a machine that are polls, with their arguments, and what is known of them: a poll
of an open inbox is not refused. -/
structure Feed.Polls (feed : Feed State Input Obs Event) (polled : Input → Option PollArgs) :
    Prop where
  poll : ∀ {input args}, polled input = some args → ∃ leftMs, input = feed.poll args leftMs
  heard : ∀ {state log args leftMs after news}, feed.machine.Run Machine.Free state log →
    feed.machine.step state (feed.poll args leftMs) = some (after, news) →
    (feed.inbox after).rthread ≠ .gone →
    inboxStep feed.key (feed.inbox state) (.polls args leftMs) =
      some (feed.inbox after, feed.takenBatches news)

/-- Among some inputs, how many polls take the events of an id a full batch at a time. -/
def reaching (polled : Input → Option PollArgs) (id bound : Nat) (inputs : List Input) : Nat :=
  inputs.countP fun input => (polled input).any fun args => args.reaches id bound

/-- An inbox that is closed stays closed. -/
theorem Feed.Refines.gone_of_exec (refines : feed.Refines wake) {inputs : List Input}
    {state later : State} {log more : List Obs} (run : feed.machine.Run Machine.Free state log)
    (taken : feed.machine.exec Machine.Free state inputs = some (later, more))
    (gone : (feed.inbox state).rthread = .gone) : (feed.inbox later).rthread = .gone := by
  induction inputs generalizing state log more with
  | nil =>
    obtain ⟨rfl, -⟩ := Prod.mk.inj (Option.some.inj taken)
    exact gone
  | cons input rest inductionHypothesis =>
    rw [Machine.exec, if_pos trivial] at taken
    obtain ⟨⟨middle, news⟩, step, tail⟩ := Option.bind_eq_some_iff.mp taken
    obtain ⟨⟨final, others⟩, on, equal⟩ := Option.map_eq_some_iff.mp tail
    obtain ⟨rfl, -⟩ := Prod.mk.inj equal
    obtain ⟨seen, seenStep⟩ := refines.step run step
    exact inductionHypothesis (run.next trivial step) on ((gone_inboxStep seenStep.step).1 gone)

/-- Along every run of an inbox that stays open, the event is where the polls left it. -/
theorem Feed.Refines.served_of_exec (refines : feed.Refines wake)
    {polled : Input → Option PollArgs} (polls : feed.Polls polled) {front : List Event}
    {event : Event} {bound : Nat} {inputs : List Input} {state later : State} {log more : List Obs}
    {asked : Nat} {drawn : List Event} (run : feed.machine.Run Machine.Free state log)
    (served : Served feed.key front event asked ((feed.inbox state).owed (feed.key event) bound)
      drawn (feed.inbox state).ready)
    (taken : feed.machine.exec Machine.Free state inputs = some (later, more))
    (opened : (feed.inbox later).rthread ≠ .gone) :
    Served feed.key front event (asked + bound * reaching polled (feed.key event) bound inputs)
      ((feed.inbox later).owed (feed.key event) bound)
      (drawn ++ (feed.takenBatches more).flatten) (feed.inbox later).ready := by
  induction inputs generalizing state log more asked drawn with
  | nil =>
    obtain ⟨rfl, rfl⟩ := Prod.mk.inj (Option.some.inj taken)
    have nothing : feed.takenBatches [] = [] :=
      List.self_eq_append_left.mp (refines.takenBatches_append [] [])
    rw [nothing, List.flatten_nil, List.append_nil]
    exact served
  | cons input rest inductionHypothesis =>
    rw [Machine.exec, if_pos trivial] at taken
    obtain ⟨⟨middle, news⟩, step, tail⟩ := Option.bind_eq_some_iff.mp taken
    obtain ⟨⟨final, others⟩, on, equal⟩ := Option.map_eq_some_iff.mp tail
    obtain ⟨rfl, rfl⟩ := Prod.mk.inj equal
    have onward := run.next trivial step
    have open_ : (feed.inbox middle).rthread ≠ .gone :=
      fun gone => opened (refines.gone_of_exec onward on gone)
    have brought : Served feed.key front event
        (asked + bound * reaching polled (feed.key event) bound [input])
        ((feed.inbox middle).owed (feed.key event) bound)
        (drawn ++ (feed.takenBatches news).flatten) (feed.inbox middle).ready := by
      cases poll : (polled input).any fun args => args.reaches (feed.key event) bound with
      | false =>
        obtain ⟨seen, seenStep⟩ := refines.step run step
        refine (served.step seenStep.step open_).mono ?_
        rw [reaching, List.countP_singleton, poll, if_neg Bool.false_ne_true, Nat.mul_zero]
        exact Nat.le_add_right _ _
      | true =>
        obtain ⟨args, isPoll, reaches⟩ := (Option.any_eq_true _ _).mp poll
        obtain ⟨leftMs, rfl⟩ := polls.poll isPoll
        refine (served.step (polls.heard run step open_) open_).mono ?_
        rw [reaching, List.countP_singleton, poll, if_pos rfl, Nat.mul_one]
        show asked + bound ≤ asked + args.reach (feed.key event) bound
        rw [PollArgs.reach, if_pos reaches]
    have passed := inductionHypothesis onward brought on
    rw [refines.takenBatches_append, List.flatten_append, ← List.append_assoc]
    refine passed.mono (Nat.le_of_eq ?_)
    rw [Nat.add_assoc, ← Nat.mul_add]
    congr 2
    rw [reaching, reaching, reaching, ← List.countP_append]
    rfl

/-- An event of an inbox has been taken once the polls that reach it could have taken everything
that was queued ahead of it. -/
theorem Feed.Refines.taken_of_exec (refines : feed.Refines wake)
    {polled : Input → Option PollArgs} (polls : feed.Polls polled) {front rest : List Event}
    {event : Event} {bound : Nat} {inputs : List Input} {state later : State} {log more : List Obs}
    (run : feed.machine.Run Machine.Free state log)
    (queued : (feed.inbox state).ready = front ++ event :: rest)
    (taken : feed.machine.exec Machine.Free state inputs = some (later, more))
    (idle : (feed.inbox later).rthread = .idle)
    (enough : front.length < bound * reaching polled (feed.key event) bound inputs) :
    ((front ++ [event]).filter fun other => feed.key other == feed.key event) <+:
      (feed.takenBatches more).flatten.filter fun other => feed.key other == feed.key event := by
  have atFirst : Served feed.key front event 0 ((feed.inbox state).owed (feed.key event) bound) []
      (feed.inbox state).ready :=
    .waiting front rest queued rfl (Nat.le_add_right _ _)
  have served := refines.served_of_exec polls run atFirst taken (by rw [idle]; simp)
  cases served with
  | taken first => exact first
  | waiting ahead behind _ _ closer =>
    rw [Inbox.owed, idle] at closer
    simp only [Nat.zero_add, Nat.add_zero] at closer
    omega

end Feed

/-! ### Both ends -/

namespace Server

variable {acceptWindow maxActive : Int} {wake : WakeHandle} {server : RServer}
  {log : List ServerObs}

/-- The R thread of a closed server joins the completion thread, or is done with it. -/
theorem busy_of_closed
    (run : (serverMachine acceptWindow maxActive wake).Run Machine.Free server log)
    (closed : server.closed = true) : server.rthread = .joining ∨ server.rthread = .gone := by
  induction run with
  | start =>
    obtain ⟨count, created, -⟩ := postAcceptsLocked_eq { acceptWindow, maxActive, wake }
    change (createServer acceptWindow maxActive wake).1.closed = true at closed
    rw [createServer, created] at closed
    exact absurd closed Bool.false_ne_true
  | @next state after log news input before permitted taken inductionHypothesis =>
    cases earlier : state.closed with
    | true =>
      obtain ⟨seen, step⟩ := (serverFeed_refines acceptWindow maxActive wake).step before taken
      exact busy_inboxStep step.step (inductionHypothesis earlier)
    | false =>
      rcases (sound_of_run before).step_cases taken with
        ⟨address, op, delivery, call, -, -, -, -, equal⟩ |
        ⟨id, request, address, call, -, opened, -, -, -, rfl, -⟩ | ⟨-, quiet⟩ |
        ⟨-, -, -, -, rfl⟩ | ⟨-, -, -, -, rfl⟩
      · obtain ⟨count, handled, -⟩ := handle_eq state address op delivery call
        rw [equal] at handled
        rw [(Prod.mk.inj handled).1] at closed
        have same := (handleBody_flags state address op delivery call).2.2.1
        exact absurd (closed.symm.trans (same.trans earlier)) (by simp)
      · exact absurd (earlier.symm.trans closed) Bool.false_ne_true
      · rw [quiet.same] at closed
        exact absurd (earlier.symm.trans closed) Bool.false_ne_true
      · exact Or.inl rfl
      · exact Or.inr rfl

/-- The arguments of a poll. -/
def ServerInput.polled : ServerInput → Option PollArgs
  | .poll args _ => some args
  | _ => none

theorem serverFeed_polls (acceptWindow maxActive : Int) (wake : WakeHandle) :
    (serverFeed acceptWindow maxActive wake).Polls ServerInput.polled where
  poll := by
    intro input args polled
    cases input with
    | poll other leftMs => exact ⟨leftMs, by rw [Option.some.inj polled]; rfl⟩
    | _ => exact absurd polled (by simp [ServerInput.polled])
  heard := by
    intro server log args leftMs after news run taken opened
    change serverStep server (.poll args leftMs) = some (after, news) at taken
    obtain ⟨free, idle⟩ := (sound_of_run run).idle_of_call taken
    have polled := call_of_rthread taken
    rw [RServer.grpcRServer2Poll] at polled
    split at polled
    · rename_i closed
      obtain ⟨rfl, -⟩ := Prod.mk.inj (Option.some.inj polled)
      have gone : server.rthread ≠ .gone := opened
      rcases busy_of_closed run closed with joining | left
      · exact absurd free (by simp [joining])
      · exact absurd left gone
    · rename_i live
      split at polled
      · exact absurd polled (by simp)
      · obtain ⟨inbox, returned, -⟩ := inbox_pollAttempt server args leftMs
        rw [Option.some.inj polled] at inbox returned
        show inboxStep SvEvent.id server.inbox (.polls args leftMs) =
          some (after.inbox, takenBatches news)
        rw [inboxStep, if_pos (idle (by simpa using live)), inbox, returned]

end Server

namespace Client

/-- The arguments of a poll. -/
def ClientInput.polled : ClientInput → Option PollArgs
  | .poll args _ => some args
  | _ => none

theorem clientFeed_polls (wake : WakeHandle) : (clientFeed wake).Polls ClientInput.polled where
  poll := by
    intro input args polled
    cases input with
    | poll other leftMs => exact ⟨leftMs, by rw [Option.some.inj polled]; rfl⟩
    | _ => exact absurd polled (by simp [ClientInput.polled])
  heard := by
    intro client log args leftMs after news run taken opened
    change clientStep client (.poll args leftMs) = some (after, news) at taken
    rw [clientStep] at taken
    obtain ⟨polled, free, idle⟩ := (sound_of_run run).idle_of_call taken
    rw [RClient.grpcRClientPoll] at polled
    split at polled
    · rename_i closed
      obtain ⟨rfl, -⟩ := Prod.mk.inj polled
      have gone : client.rthread ≠ .gone := opened
      rcases busy_of_closed run closed with joining | left
      · exact absurd free (by simp [joining])
      · exact absurd left gone
    · rename_i live
      obtain ⟨inbox, returned, -⟩ := inbox_pollAttempt client args leftMs
      rw [polled] at inbox returned
      show inboxStep ClEvent.id client.inbox (.polls args leftMs) =
        some (after.inbox, takenBatches news)
      rw [inboxStep, if_pos (idle (by simpa using live)), inbox, returned]

end Client

open Server Client

/-- No queued event is starved. Wherever an event is in the queue of a server or of a client, a poll
has taken it from there, behind the events of its call that were ahead of it, once the polls that
want it and take at least `bound` events could have taken everything ahead of it and no poll or
close is going on; what else is polled, awaited, pushed or asked meanwhile does not matter. -/
theorem events_served (acceptWindow maxActive : Int) (wake : WakeHandle) (bound : Nat) :
    (∀ (server : RServer) (log : List ServerObs),
      (serverMachine acceptWindow maxActive wake).Run Machine.Free server log →
      ∀ (front rest : List SvEvent) (event : SvEvent), server.ready = front ++ event :: rest →
      ∀ (inputs : List ServerInput) (later : RServer) (more : List ServerObs),
      (serverMachine acceptWindow maxActive wake).exec Machine.Free server inputs =
        some (later, more) →
      later.rthread = .idle →
      front.length < bound * reaching ServerInput.polled event.id bound inputs →
      ((front ++ [event]).filter fun other => other.id == event.id) <+:
        (Server.takenBatches more).flatten.filter fun other => other.id == event.id) ∧
    ∀ (client : RClient) (log : List ClientObs),
      (clientMachine wake).Run Machine.Free client log →
      ∀ (front rest : List ClEvent) (event : ClEvent), client.ready = front ++ event :: rest →
      ∀ (inputs : List ClientInput) (later : RClient) (more : List ClientObs),
      (clientMachine wake).exec Machine.Free client inputs = some (later, more) →
      later.rthread = .idle →
      front.length < bound * reaching ClientInput.polled event.id bound inputs →
      ((front ++ [event]).filter fun other => other.id == event.id) <+:
        (Client.takenBatches more).flatten.filter fun other => other.id == event.id :=
  ⟨fun _ _ run _ _ _ queued _ _ _ taken idle enough =>
    (serverFeed_refines acceptWindow maxActive wake).taken_of_exec
      (serverFeed_polls acceptWindow maxActive wake) run queued taken idle enough,
    fun _ _ run _ _ _ queued _ _ _ taken idle enough =>
      (clientFeed_refines wake).taken_of_exec (clientFeed_polls wake) run queued taken idle
        enough⟩

/-- Messages of two streams, of which only the last is of the second. -/
def crowdedInputs : List ClientInput :=
  [.streamStart (.text [47]) {} 0 16 16,
    .streamStart (.text [47]) {} 0 16 16,
    .returned 0 .start { ok := true },
    .returned 1 .start { ok := true },
    .returned 0 .read { ok := true, message := .ofRaw [1] },
    .returned 0 .read { ok := true, message := .ofRaw [2] },
    .returned 0 .read { ok := true, message := .ofRaw [3] },
    .returned 1 .read { ok := true, message := .ofRaw [4] }]

/-- Two polls of two events each, with an await on the other stream and a message in between. -/
def drainingInputs : List ClientInput :=
  [.poll ⟨2, 0, none⟩ 0,
    .poll ⟨1, -1, some 1⟩ 0,
    .returned 0 .read { ok := true, message := .ofRaw [5] },
    .poll ⟨2, -1, none⟩ 0]

/-- The requests of two calls. -/
def requestedInputs : List ServerInput :=
  [.returned 0 .accept { ok := true },
    .returned 0 .read { ok := true, message := .ofRaw [1] },
    .returned 1 .accept { ok := true },
    .returned 1 .read { ok := true, message := .ofRaw [2] }]

/-- Two polls of one event each, the second of them for one call. -/
def servingInputs : List ServerInput :=
  [.poll ⟨1, 0, none⟩ 0, .poll ⟨1, 0, some 2⟩ 0]

theorem events_served_crowded : ∃ server serverLog servedBy serverMore client clientLog drainedBy
    clientMore,
    (serverMachine 1 2 ⟨16, 0⟩).Run Machine.Free server serverLog ∧
      (serverMachine 1 2 ⟨16, 0⟩).exec Machine.Free server servingInputs =
        some (servedBy, serverMore) ∧
      (clientMachine ⟨16, 0⟩).Run Machine.Free client clientLog ∧
      (clientMachine ⟨16, 0⟩).exec Machine.Free client drainingInputs =
        some (drainedBy, clientMore) ∧
      server.ready.map SvEvent.id = [1, 2] ∧ client.ready.map ClEvent.id = [1, 1, 1, 2] ∧
      (server.ready.filter fun other => other.id == 2) <+:
        ((Server.takenBatches serverMore).flatten.filter fun other => other.id == 2) ∧
      (client.ready.filter fun other => other.id == 2) <+:
        (Client.takenBatches clientMore).flatten.filter fun other => other.id == 2 := by
  have serverRun := Machine.run_of_exec (show (serverMachine 1 2 ⟨16, 0⟩).exec Machine.Free
    (serverMachine 1 2 ⟨16, 0⟩).start requestedInputs = some _ from rfl)
  have clientRun := Machine.run_of_exec (show (clientMachine ⟨16, 0⟩).exec Machine.Free
    (clientMachine ⟨16, 0⟩).start crowdedInputs = some _ from rfl)
  refine ⟨_, _, _, _, _, _, _, _, serverRun, rfl, clientRun, rfl, by decide, by decide, ?_, ?_⟩
  · exact (events_served 1 2 ⟨16, 0⟩ 1).1 _ _ serverRun [_] [] _ rfl servingInputs _ _ rfl
      rfl (by decide)
  · exact (events_served 1 1 ⟨16, 0⟩ 2).2 _ _ clientRun [_, _, _] [] _ rfl drainingInputs _ _ rfl
      rfl (by decide)

end Rgrpc
