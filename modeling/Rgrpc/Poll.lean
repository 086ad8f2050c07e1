/-
This file models what the client and the server share of delivering events to
R: the wake handle of `wake.h`, and the wait and take loops of
`grpc_r_client_poll` and `grpc_r_server2_poll`.

The two polls differ only in what they do with an event they take: the server
moves it to the batch, the client also accounts for it on its stream. The take
loop is therefore one definition with that action as a parameter.
-/

import Mathlib.Data.List.TakeWhile
import Mathlib.Data.List.Perm.Basic
import Mathlib.Tactic.Common

namespace Rgrpc

/-! ### The wake handle -/

/-- A wake handle: a byte buffer of some capacity, and how many bytes wait in it. -/
structure WakeHandle where
  capacity : Nat
  bytes : Nat
  deriving DecidableEq, Repr

/-- `wake_signal`: write one byte; a full buffer drops it. -/
def WakeHandle.signal (wake : WakeHandle) : WakeHandle :=
  if wake.bytes < wake.capacity then { wake with bytes := wake.bytes + 1 } else wake

/-- `wake_drain`: read until nothing is left. -/
def WakeHandle.drain (wake : WakeHandle) : WakeHandle :=
  { wake with bytes := 0 }

/-- Whether `wake_poll` finds the handle readable. -/
def WakeHandle.readable (wake : WakeHandle) : Bool :=
  0 < wake.bytes

/-- One signal for each of a number of pushed events. -/
def WakeHandle.signals (wake : WakeHandle) : Nat → WakeHandle
  | 0 => wake
  | count + 1 => wake.signal.signals count

/-! ### The arguments of a poll, and the thread that makes it -/

/-- The arguments of a native poll. -/
structure PollArgs where
  maxEvents : Int
  timeoutMs : Int
  onlyId : Option Nat
  deriving DecidableEq, Repr

/-- The `matches` test of a poll. -/
def PollArgs.wants (args : PollArgs) (id : Nat) : Bool :=
  match args.onlyId with
  | none => true
  | some wanted => id == wanted

/-- What the R thread is doing between two locked sections: nothing that holds it, waiting in
`wake_poll` inside a poll, joining the completion thread inside a close, or past the close. -/
inductive RThread
  | idle
  | polling (args : PollArgs)
  | joining
  | gone
  deriving DecidableEq, Repr

/-! ### The take loop -/

/-- What the take loop of a poll leaves behind: the state its accounting changed, the batch it
took, what stays queued, and what the accounting let be observed. -/
structure Taken (State Event Obs : Type) where
  state : State
  batch : List Event
  left : List Event
  obs : List Obs

/-- The take loop of a poll over what is left of `ready`, after `count` events were taken: skip
events that do not match, take those that do and account for them, stop at the bound. -/
def takeLoop {State Event Obs : Type} (wanted : Event → Bool)
    (account : State → Event → State × List Obs) (maxEvents : Int) :
    List Event → Nat → State → Taken State Event Obs
  | [], _, state => ⟨state, [], [], []⟩
  | event :: rest, count, state =>
    if (count : Int) < maxEvents then
      if wanted event then
        let accounted := account state event
        let tail := takeLoop wanted account maxEvents rest (count + 1) accounted.1
        ⟨tail.state, event :: tail.batch, tail.left, accounted.2 ++ tail.obs⟩
      else
        let tail := takeLoop wanted account maxEvents rest count state
        ⟨tail.state, tail.batch, event :: tail.left, tail.obs⟩
    else ⟨state, [], event :: rest, []⟩

/-- The positions a poll takes from the queue: the first ones that match, up to the bound. -/
def picked {Event : Type} (wanted : Event → Bool) (maxEvents : Int) (events : List Event) :
    List Nat :=
  ((events.zipIdx.filter fun entry => wanted entry.1).map Prod.snd).take maxEvents.toNat

/-- A list without the elements at some positions. -/
def without {Event : Type} (positions : List Nat) (events : List Event) : List Event :=
  (events.zipIdx.filter fun entry => !positions.contains entry.2).map Prod.fst

section TakeLoop

variable {State Event Obs : Type} (wanted : Event → Bool)
  (account : State → Event → State × List Obs) (maxEvents : Int)

/-- The loop takes the first matching events, up to the bound, in arrival order. -/
theorem takeLoop_batch (events : List Event) (count : Nat) (state : State) :
    (takeLoop wanted account maxEvents events count state).batch =
      (events.filter wanted).take (maxEvents - count).toNat := by
  induction events generalizing count state with
  | nil => simp [takeLoop]
  | cons event rest inductionHypothesis =>
    rw [takeLoop]
    by_cases room : (count : Int) < maxEvents
    · rw [if_pos room]
      have more : (maxEvents - count).toNat = (maxEvents - (count + 1 : Nat)).toNat + 1 := by
        omega
      cases wants : wanted event with
      | true =>
        rw [List.filter_cons_of_pos wants, more, List.take_succ_cons, if_pos rfl]
        exact congrArg (event :: ·) (inductionHypothesis _ _)
      | false =>
        rw [List.filter_cons_of_neg (by simp [wants]), if_neg (by simp)]
        exact inductionHypothesis _ _
    · rw [if_neg room]
      have full : (maxEvents - count).toNat = 0 := by omega
      rw [full, List.take_zero]

/-- The picked positions are those of the batch. -/
theorem takeLoop_batch_eq_picked (events : List Event) (state : State) :
    (takeLoop wanted account maxEvents events 0 state).batch =
      (picked wanted maxEvents events).filterMap fun position => events[position]? := by
  have entries : ((events.zipIdx.filter fun entry => wanted entry.1).map Prod.snd).filterMap
      (fun position => events[position]?) = events.filter wanted := by
    have found : ∀ entry ∈ events.zipIdx.filter fun entry => wanted entry.1,
        events[entry.2]? = some entry.1 := by
      intro entry member
      exact List.mem_zipIdx_iff_getElem?.mp (List.mem_filter.mp member).1
    have values : (events.zipIdx.filter fun entry => wanted entry.1).map Prod.fst =
        events.filter wanted := by
      conv_rhs => rw [← List.zipIdx_map_fst 0 events, List.filter_map]
      rfl
    rw [List.filterMap_map, ← values, ← List.filterMap_eq_map]
    exact List.filterMap_congr found
  rw [takeLoop_batch, picked, ← entries, Int.natCast_zero, Int.sub_zero]
  have present : ∀ position ∈ (events.zipIdx.filter fun entry => wanted entry.1).map Prod.snd,
      (events[position]?).isSome = true := by
    intro position member
    obtain ⟨entry, inside, rfl⟩ := List.mem_map.mp member
    rw [List.mem_zipIdx_iff_getElem?.mp (List.mem_filter.mp inside).1]
    rfl
  generalize (events.zipIdx.filter fun entry => wanted entry.1).map Prod.snd = positions at present
  generalize maxEvents.toNat = bound
  induction positions generalizing bound with
  | nil => simp
  | cons position rest inductionHypothesis =>
    obtain ⟨event, found⟩ := Option.isSome_iff_exists.mp (present position List.mem_cons_self)
    cases bound with
    | zero => simp
    | succ bound =>
      rw [List.take_succ_cons, List.filterMap_cons_some found, List.filterMap_cons_some found,
        List.take_succ_cons, inductionHypothesis fun other member =>
          present other (List.mem_cons_of_mem _ member)]

/-- The loop leaves the queue without the picked positions. -/
theorem takeLoop_left (events : List Event) (state : State) :
    (takeLoop wanted account maxEvents events 0 state).left =
      without (picked wanted maxEvents events) events := by
  -- The positions of the tail of a queue start one later, and the count of events taken so far
  -- lowers the bound.
  have loop (events : List Event) : ∀ (first count : Nat) (state : State),
      (takeLoop wanted account maxEvents events count state).left =
        ((events.zipIdx first).filter fun entry =>
          !((((events.zipIdx first).filter fun entry => wanted entry.1).map Prod.snd).take
            (maxEvents - count).toNat).contains entry.2).map Prod.fst := by
    induction events with
    | nil => exact fun _ _ _ => rfl
    | cons event rest inductionHypothesis =>
      intro first count state
      have later : ∀ position ∈ ((rest.zipIdx (first + 1)).filter
          fun entry => wanted entry.1).map Prod.snd, position ≠ first := by
        intro position member
        obtain ⟨entry, inside, rfl⟩ := List.mem_map.mp member
        have bound := List.le_snd_of_mem_zipIdx (List.mem_filter.mp inside).1
        omega
      rw [takeLoop, List.zipIdx_cons]
      by_cases room : (count : Int) < maxEvents
      · rw [if_pos room]
        cases wants : wanted event with
        | true =>
          have more : (maxEvents - count).toNat = (maxEvents - (count + 1 : Nat)).toNat + 1 := by
            omega
          have positions : (((event, first) :: rest.zipIdx (first + 1)).filter
              fun entry => wanted entry.1).map Prod.snd =
              first :: ((rest.zipIdx (first + 1)).filter fun entry => wanted entry.1).map
                Prod.snd := by
            rw [List.filter_cons, if_pos wants, List.map_cons]
          rw [if_pos rfl, positions, more, List.take_succ_cons,
            List.filter_cons_of_neg (by simp)]
          show (takeLoop wanted account maxEvents rest (count + 1) _).left = _
          rw [inductionHypothesis (first + 1)]
          refine congrArg (List.map Prod.fst) (List.filter_congr fun entry member => ?_)
          have bound := List.le_snd_of_mem_zipIdx member
          have other : entry.2 ≠ first := by omega
          simp [other]
        | false =>
          have kept : first ∉ (((rest.zipIdx (first + 1)).filter
              fun entry => wanted entry.1).map Prod.snd).take (maxEvents - count).toNat :=
            fun member => later first (List.mem_of_mem_take member) rfl
          have positions : (((event, first) :: rest.zipIdx (first + 1)).filter
              fun entry => wanted entry.1).map Prod.snd =
              ((rest.zipIdx (first + 1)).filter fun entry => wanted entry.1).map Prod.snd := by
            rw [List.filter_cons, if_neg (ne_true_of_eq_false wants)]
          rw [if_neg Bool.false_ne_true, positions,
            List.filter_cons_of_pos (by simpa using kept), List.map_cons]
          exact congrArg (event :: ·) (inductionHypothesis (first + 1) count state)
      · rw [if_neg room]
        have full : (maxEvents - count).toNat = 0 := by omega
        simp [full]
  have whole := loop events 0 0 state
  rw [Int.natCast_zero, Int.sub_zero] at whole
  exact whole

/-- The loop keeps the order of any events that match together or not at all. -/
theorem takeLoop_filter {test : Event → Bool}
    (together : (∀ event, test event = true → wanted event = true) ∨
      ∀ event, test event = true → wanted event = false)
    (events : List Event) (count : Nat) (state : State) :
    (takeLoop wanted account maxEvents events count state).batch.filter test ++
        (takeLoop wanted account maxEvents events count state).left.filter test =
      events.filter test := by
  induction events generalizing count state with
  | nil => rfl
  | cons event rest inductionHypothesis =>
    rw [takeLoop]
    by_cases room : (count : Int) < maxEvents
    · rw [if_pos room]
      cases wants : wanted event with
      | true =>
        rw [if_pos rfl]
        show (event :: _).filter test ++ _ = _
        cases tested : test event with
        | true =>
          rw [List.filter_cons_of_pos tested, List.filter_cons_of_pos tested, List.cons_append,
            inductionHypothesis]
        | false =>
          rw [List.filter_cons_of_neg (by simp [tested]),
            List.filter_cons_of_neg (by simp [tested])]
          exact inductionHypothesis _ _
      | false =>
        rw [if_neg Bool.false_ne_true]
        show _ ++ (event :: _).filter test = _
        cases tested : test event with
        | true =>
          rcases together with all | none
          · exact absurd (wants.symm.trans (all event tested)) Bool.false_ne_true
          · have empty : (takeLoop wanted account maxEvents rest count state).batch.filter test =
                [] := by
              refine List.filter_eq_nil_iff.mpr fun other member passes => ?_
              rw [takeLoop_batch] at member
              have matched := (List.mem_filter.mp (List.mem_of_mem_take member)).2
              exact Bool.false_ne_true ((none other passes).symm.trans matched)
            have tail := inductionHypothesis count state
            rw [empty, List.nil_append] at tail
            rw [empty, List.nil_append, List.filter_cons_of_pos tested,
              List.filter_cons_of_pos tested, tail]
        | false =>
          rw [List.filter_cons_of_neg (by simp [tested]),
            List.filter_cons_of_neg (by simp [tested])]
          exact inductionHypothesis _ _
    · rw [if_neg room]
      rfl

/-- The batch and what is left are the events of the queue. -/
theorem takeLoop_perm (events : List Event) (count : Nat) (state : State) :
    ((takeLoop wanted account maxEvents events count state).batch ++
      (takeLoop wanted account maxEvents events count state).left).Perm events := by
  induction events generalizing count state with
  | nil => exact List.Perm.refl []
  | cons event rest inductionHypothesis =>
    rw [takeLoop]
    split
    · split
      · exact (inductionHypothesis (count + 1) (account state event).1).cons event
      · exact List.perm_middle.trans ((inductionHypothesis count state).cons event)
    · exact List.Perm.refl (event :: rest)

/-- A loop that has reached its bound takes nothing. -/
theorem takeLoop_full (events : List Event) {count : Nat} (state : State)
    (full : maxEvents ≤ count) :
    takeLoop wanted account maxEvents events count state = ⟨state, [], events, []⟩ := by
  cases events with
  | nil => rfl
  | cons event rest => rw [takeLoop, if_neg (Int.not_lt.mpr full)]

/-- Over a queue in two parts the loop goes through the first part, and with what it took there
through the second. -/
theorem takeLoop_append (front back : List Event) (count : Nat) (state : State) :
    takeLoop wanted account maxEvents (front ++ back) count state =
      let first := takeLoop wanted account maxEvents front count state
      let second := takeLoop wanted account maxEvents back (count + first.batch.length) first.state
      ⟨second.state, first.batch ++ second.batch, first.left ++ second.left,
        first.obs ++ second.obs⟩ := by
  induction front generalizing count state with
  | nil => rfl
  | cons event rest inductionHypothesis =>
    rw [List.cons_append, takeLoop, takeLoop]
    by_cases room : (count : Int) < maxEvents
    · rw [if_pos room, if_pos room]
      cases wants : wanted event with
      | true =>
        rw [if_pos rfl, if_pos rfl]
        simp only [inductionHypothesis, List.length_cons, List.cons_append, List.append_assoc,
          Nat.add_assoc, Nat.add_comm 1]
      | false =>
        rw [if_neg Bool.false_ne_true, if_neg Bool.false_ne_true]
        simp only [inductionHypothesis, List.cons_append]
    · rw [if_neg room, if_neg room]
      simp only [List.length_nil, Nat.add_zero,
        takeLoop_full wanted account maxEvents back state (Int.not_lt.mp room), List.nil_append,
        List.cons_append]

/-- What the accounting of one event keeps, of the state and of the events still queued, the whole
loop keeps. -/
theorem takeLoop_queue_invariant {holds : State → List Obs → List Event → Prop}
    (kept : ∀ state log skipped event rest, wanted event = true →
      holds state log (skipped ++ event :: rest) →
      holds (account state event).1 (log ++ (account state event).2) (skipped ++ rest))
    (events : List Event) (count : Nat) (state : State) (log : List Obs) (skipped : List Event)
    (before : holds state log (skipped ++ events)) :
    holds (takeLoop wanted account maxEvents events count state).state
      (log ++ (takeLoop wanted account maxEvents events count state).obs)
      (skipped ++ (takeLoop wanted account maxEvents events count state).left) := by
  induction events generalizing count state log skipped with
  | nil =>
    rw [takeLoop, List.append_nil log]
    exact before
  | cons event rest inductionHypothesis =>
    rw [takeLoop]
    split
    · split
      · rename_i wants
        have tail := inductionHypothesis (count + 1) _ _ skipped
          (kept state log skipped event rest wants before)
        rw [List.append_assoc log] at tail
        exact tail
      · have tail := inductionHypothesis count state log (skipped ++ [event])
          (by rw [List.append_assoc]; exact before)
        rw [List.append_assoc skipped] at tail
        exact tail
    · rw [List.append_nil log]
      exact before

/-- What the accounting of one wanted event keeps, the whole loop keeps. -/
theorem takeLoop_invariant {holds : State → List Obs → Prop}
    (kept : ∀ state log event, wanted event = true → holds state log →
      holds (account state event).1 (log ++ (account state event).2))
    (events : List Event) (count : Nat) (state : State) (log : List Obs)
    (before : holds state log) :
    holds (takeLoop wanted account maxEvents events count state).state
      (log ++ (takeLoop wanted account maxEvents events count state).obs) :=
  @takeLoop_queue_invariant _ _ _ wanted account maxEvents (fun state log _ => holds state log)
    (fun state log _ event _ wants before => kept state log event wants before)
    events count state log [] before

end TakeLoop

end Rgrpc
