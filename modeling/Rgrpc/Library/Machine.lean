/-
This file gives the transition systems of the development and the rules to
reason about their runs. A machine takes inputs one at a time; each accepted
input changes the state and appends what can be observed of it to a log. The
log is the history of the run: properties that speak of "before", "after" and
"at the moment" are properties of the log.

A run is restricted by a guard on its steps, a predicate of the state before
the step and of the input. The guard that allows everything gives all runs; a
sharper guard gives the runs whose steps all meet a condition.
-/

import Mathlib.Data.List.Induction
import Mathlib.Tactic.Common

namespace Rgrpc.Library

/-- A machine: the state it starts in, what is observed when it is started, and the step one
input takes, with what the step lets be observed. A step is `none` when the input is not
possible in that state. -/
structure Machine (State Input Obs : Type) where
  start : State
  opening : List Obs
  step : State → Input → Option (State × List Obs)

namespace Machine

variable {State Input Obs : Type}

/-- The guard that allows every step. -/
abbrev Free : State → Input → Prop := fun _ _ => True

/-- The states a machine reaches by steps that all meet the guard, each with the log of the
run that reaches it. -/
inductive Run (machine : Machine State Input Obs) (allowed : State → Input → Prop) :
    State → List Obs → Prop
  | start : Run machine allowed machine.start machine.opening
  | next {state after : State} {log news : List Obs} {input : Input}
      (before : Run machine allowed state log) (permitted : allowed state input)
      (taken : machine.step state input = some (after, news)) :
      Run machine allowed after (log ++ news)

/-- What holds at the start and is kept by every permitted step holds along every run. -/
theorem Run.invariant {machine : Machine State Input Obs} {allowed : State → Input → Prop}
    {holds : State → List Obs → Prop} (atStart : holds machine.start machine.opening)
    (kept : ∀ {state log input after news}, machine.Run allowed state log → holds state log →
      allowed state input → machine.step state input = some (after, news) →
      holds after (log ++ news))
    {state : State} {log : List Obs} (run : machine.Run allowed state log) : holds state log := by
  induction run with
  | start => exact atStart
  | next before permitted taken inductionHypothesis =>
    exact kept before inductionHypothesis permitted taken

/-- A run under a sharper guard is a run under a weaker one. -/
theorem Run.mono {machine : Machine State Input Obs} {sharp weak : State → Input → Prop}
    (weaker : ∀ state input, sharp state input → weak state input) {state : State}
    {log : List Obs} (run : machine.Run sharp state log) : machine.Run weak state log := by
  induction run with
  | start => exact .start
  | next _ permitted taken inductionHypothesis =>
    exact .next inductionHypothesis (weaker _ _ permitted) taken

/-- Every run is a run of the unguarded machine. -/
theorem Run.free {machine : Machine State Input Obs} {allowed : State → Input → Prop}
    {state : State} {log : List Obs} (run : machine.Run allowed state log) :
    machine.Run Free state log :=
  run.mono fun _ _ _ => trivial

/-- The same machine, started in another state. -/
def startedAt (machine : Machine State Input Obs) (state : State) : Machine State Input Obs :=
  { machine with start := state, opening := [] }

/-- A run goes on from where another one ended. -/
theorem Run.trans {machine : Machine State Input Obs} {allowed : State → Input → Prop}
    {state later : State} {log more : List Obs} (before : machine.Run allowed state log)
    (on : (machine.startedAt state).Run allowed later more) :
    machine.Run allowed later (log ++ more) := by
  induction on with
  | start =>
    rw [show (machine.startedAt state).opening = [] from rfl, List.append_nil]
    exact before
  | next _ permitted taken inductionHypothesis =>
    rw [← List.append_assoc]
    exact inductionHypothesis.next permitted taken

/-- A run of one step. -/
theorem Run.single {machine : Machine State Input Obs} {allowed : State → Input → Prop}
    {state after : State} {input : Input} {news : List Obs} (permitted : allowed state input)
    (taken : machine.step state input = some (after, news)) :
    (machine.startedAt state).Run allowed after news :=
  .next .start permitted taken

/-! ### Running a list of inputs -/

/-- Take a list of inputs one after the other, collecting what they let be observed; `none` when
one of them is not possible or breaks the guard. -/
def exec (machine : Machine State Input Obs) (allowed : State → Input → Prop)
    [∀ state input, Decidable (allowed state input)] :
    State → List Input → Option (State × List Obs)
  | state, [] => some (state, [])
  | state, input :: rest =>
    if allowed state input then
      (machine.step state input).bind fun result =>
        (machine.exec allowed result.1 rest).map fun final => (final.1, result.2 ++ final.2)
    else none

theorem Run.exec {machine : Machine State Input Obs} {allowed : State → Input → Prop}
    [∀ state input, Decidable (allowed state input)] {inputs : List Input} {state after : State}
    {log news : List Obs} (before : machine.Run allowed state log)
    (taken : machine.exec allowed state inputs = some (after, news)) :
    machine.Run allowed after (log ++ news) := by
  induction inputs generalizing state log news with
  | nil =>
    simp only [Machine.exec, Option.some.injEq, Prod.mk.injEq] at taken
    obtain ⟨rfl, rfl⟩ := taken
    rw [List.append_nil]
    exact before
  | cons input rest inductionHypothesis =>
    rw [Machine.exec] at taken
    split at taken
    · rename_i permitted
      obtain ⟨⟨middle, first⟩, step, tail⟩ := Option.bind_eq_some_iff.mp taken
      obtain ⟨⟨final, second⟩, run, equal⟩ := Option.map_eq_some_iff.mp tail
      simp only [Prod.mk.injEq] at equal
      obtain ⟨rfl, rfl⟩ := equal
      rw [← List.append_assoc]
      exact inductionHypothesis (.next before permitted step) run
    · exact absurd taken (by simp)

/-- A list of inputs the machine can take from its start is a run. -/
theorem run_of_exec {machine : Machine State Input Obs} {allowed : State → Input → Prop}
    [∀ state input, Decidable (allowed state input)] {inputs : List Input} {after : State}
    {news : List Obs} (taken : machine.exec allowed machine.start inputs = some (after, news)) :
    machine.Run allowed after (machine.opening ++ news) :=
  Run.start.exec taken

end Machine

/-! ### Properties of every entry of a log -/

section History

variable {Obs : Type}

/-- Every entry of the log is lawful, given the part of the log before it. -/
def Lawful (law : List Obs → Obs → Prop) (log : List Obs) : Prop :=
  ∀ before entry after, log = before ++ entry :: after → law before entry

theorem lawful_nil (law : List Obs → Obs → Prop) : Lawful law [] := by
  intro before entry after equal
  exact absurd equal (by simp)

theorem lawful_append_singleton {law : List Obs → Obs → Prop} {log : List Obs} {entry : Obs} :
    Lawful law (log ++ [entry]) ↔ Lawful law log ∧ law log entry := by
  constructor
  · intro lawful
    refine ⟨fun before other after equal => ?_, lawful log entry [] rfl⟩
    exact lawful before other (after ++ [entry]) (by rw [equal]; simp)
  · rintro ⟨lawful, last⟩ before other after equal
    rcases List.eq_nil_or_concat after with rfl | ⟨rest, final, rfl⟩
    · obtain ⟨rfl, same⟩ := List.append_inj' equal rfl
      rw [List.singleton_inj] at same
      rw [← same]
      exact last
    · have split : log ++ [entry] = (before ++ other :: rest) ++ [final] := by
        rw [equal]
        simp
      exact lawful before other rest (List.append_inj_left' split rfl)

/-- The earlier part of a lawful log is lawful. -/
theorem Lawful.earlier {law : List Obs → Obs → Prop} {log news : List Obs}
    (lawful : Lawful law (log ++ news)) : Lawful law log := by
  intro before entry after equal
  refine lawful before entry (after ++ news) ?_
  rw [equal, List.append_assoc, List.cons_append]

/-- A log stays lawful when the entries added to it are lawful one after the other. -/
theorem Lawful.append {law : List Obs → Obs → Prop} {log news : List Obs}
    (lawful : Lawful law log)
    (added : ∀ before entry after, news = before ++ entry :: after → law (log ++ before) entry) :
    Lawful law (log ++ news) := by
  induction news using List.reverseRecOn with
  | nil =>
    rw [List.append_nil]
    exact lawful
  | append_singleton rest entry inductionHypothesis =>
    rw [← List.append_assoc, lawful_append_singleton]
    refine ⟨inductionHypothesis fun before other after equal => ?_, added rest entry [] rfl⟩
    exact added before other (after ++ [entry]) (by rw [equal]; simp)

end History

end Rgrpc.Library
