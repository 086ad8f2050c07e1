/-
This file gives the rules of amortised counting for the machines of
`Rgrpc/Library/Machine.lean`. Every entry of a log costs something and is paid
something; a potential says what a state can still cost without being paid. When
no step costs more than it takes from the potential and is paid, no run does,
and a machine that can always take a paid-up step until it is settled can be
driven there.

The potential of an arena is usually the sum of what its cells are worth, so the
file also adds up a weight over the cells of an arena.
-/

import Rgrpc.Library.Machine
import Rgrpc.Library.Arena

namespace Rgrpc.Library

/-! ### Weighing a log -/

section Weigh

variable {Obs : Type} (weight : Obs → Nat)

/-- What the entries of a log weigh together. -/
def weigh (log : List Obs) : Nat := (log.map weight).sum

@[simp]
theorem weigh_nil : weigh weight [] = 0 := rfl

@[simp]
theorem weigh_cons (entry : Obs) (log : List Obs) :
    weigh weight (entry :: log) = weight entry + weigh weight log := by
  rw [weigh, List.map_cons, List.sum_cons, weigh]

@[simp]
theorem weigh_append (log more : List Obs) :
    weigh weight (log ++ more) = weigh weight log + weigh weight more := by
  rw [weigh, List.map_append, List.sum_append, weigh, weigh]

variable {weight}

theorem weigh_eq_zero {log : List Obs} (free : ∀ entry ∈ log, weight entry = 0) :
    weigh weight log = 0 := by
  induction log with
  | nil => rfl
  | cons entry rest inductionHypothesis =>
    rw [weigh_cons, free entry List.mem_cons_self,
      inductionHypothesis fun other member => free other (List.mem_cons_of_mem _ member)]

theorem weigh_zero (log : List Obs) : weigh (fun _ => 0) log = 0 :=
  weigh_eq_zero fun _ _ => rfl

/-- A log weighs as much as what it was made from. -/
theorem weigh_map {Inner : Type} (wrap : Inner → Obs) (log : List Inner) :
    weigh weight (log.map wrap) = weigh (fun entry => weight (wrap entry)) log := by
  rw [weigh, List.map_map]
  rfl

/-- Taking an entry out of a log takes its weight off. -/
theorem weigh_erase [DecidableEq Obs] (weight : Obs → Nat) {log : List Obs} {entry : Obs}
    (member : entry ∈ log) : weigh weight (log.erase entry) + weight entry = weigh weight log := by
  have same := ((List.perm_cons_erase member).map weight).sum_nat
  rw [List.map_cons, List.sum_cons] at same
  unfold weigh
  omega

end Weigh

/-! ### Amortised runs -/

namespace Machine

variable {State Input Obs : Type} {machine : Machine State Input Obs}
  {allowed : State → Input → Prop}

/-- When every permitted step of a reachable state keeps an invariant and costs no more than it
takes from the potential and is paid, no continuation of a run costs more than the potential it
starts with and what it is paid. -/
theorem Run.amortised (holds : State → Prop) (potential : State → Nat) (cost paid : Obs → Nat)
    (step : ∀ {state log input after news}, machine.Run Free state log → holds state →
      allowed state input → machine.step state input = some (after, news) →
      holds after ∧ potential after + weigh cost news ≤ potential state + weigh paid news)
    {state later : State} {log more : List Obs} (run : machine.Run Free state log)
    (begun : holds state) (on : (machine.startedAt state).Run allowed later more) :
    holds later ∧ potential later + weigh cost more ≤ potential state + weigh paid more := by
  induction on with
  | start => exact ⟨begun, Nat.le_refl _⟩
  | next before permitted taken inductionHypothesis =>
    obtain ⟨kept, spent⟩ := step (run.trans before.free) inductionHypothesis.1 permitted taken
    refine ⟨kept, ?_⟩
    rw [weigh_append, weigh_append]
    have earlier := inductionHypothesis.2
    omega

/-- A machine that can lower a measure by a permitted step that keeps an invariant, from every
reachable state that is not settled, can be driven to a settled state. -/
theorem Run.driven (measure : State → Nat) (holds settled : State → Prop)
    (progress : ∀ {state log}, machine.Run Free state log → holds state → ¬settled state →
      ∃ input after news, allowed state input ∧ machine.step state input = some (after, news) ∧
        holds after ∧ measure after < measure state)
    {state : State} {log : List Obs} (run : machine.Run Free state log) (begun : holds state) :
    ∃ later more, (machine.startedAt state).Run allowed later more ∧ settled later := by
  generalize size : measure state = bound
  induction bound using Nat.strongRecOn generalizing state log with
  | ind bound inductionHypothesis =>
    by_cases done : settled state
    · exact ⟨state, [], .start, done⟩
    · obtain ⟨input, after, news, permitted, taken, kept, lower⟩ := progress run begun done
      rw [size] at lower
      obtain ⟨later, more, on, finished⟩ :=
        inductionHypothesis (measure after) lower (run.next trivial taken) kept rfl
      exact ⟨later, news ++ more, (Run.single permitted taken).trans on, finished⟩

end Machine

/-! ### Adding up the cells of an arena -/

namespace Arena

variable {Object Op : Type} (weight : Cell Object Op → Nat)

/-- What the cells of an arena weigh together. -/
def total (arena : Arena Object Op) : Nat := (arena.cells.map weight).sum

theorem total_push (arena : Arena Object Op) (cell : Cell Object Op) :
    (arena.push cell).total weight = arena.total weight + weight cell := by
  rw [total, push, List.map_append, List.sum_append, total]
  rfl

/-- Replacing a cell exchanges its weight for that of the new one. -/
theorem total_set {arena : Arena Object Op} {address : Nat} (allocated : address < arena.size)
    (cell : Cell Object Op) :
    (arena.set address cell).total weight + weight (arena.cell address) =
      arena.total weight + weight cell := by
  have inside : address < arena.cells.length := allocated
  have here : arena.cell address = arena.cells[address] := by
    rw [Arena.cell, List.getElem?_eq_getElem inside]
    rfl
  have before : arena.cells =
      arena.cells.take address ++ arena.cells[address] :: arena.cells.drop (address + 1) := by
    rw [← List.drop_eq_getElem_cons inside, List.take_append_drop]
  have old := congrArg (fun cells => (cells.map weight).sum) before
  have new := congrArg (fun cells => (cells.map weight).sum)
    (List.set_eq_take_append_cons_drop (a := cell) (l := arena.cells) (i := address))
  simp only [if_pos inside, List.map_append, List.map_cons, List.sum_append,
    List.sum_cons] at old new
  rw [here, total, set, total, new]
  omega

/-- Deleting objects does not make an arena heavier when it does not make a cell heavier. -/
theorem total_deleteAll_le (lighter : ∀ cell, weight ⟨none, cell.tags⟩ ≤ weight cell)
    (arena : Arena Object Op) (addresses : List Nat) :
    (arena.deleteAll addresses).total weight ≤ arena.total weight := by
  induction addresses generalizing arena with
  | nil => exact Nat.le_refl _
  | cons address rest inductionHypothesis =>
    refine Nat.le_trans (inductionHypothesis _) ?_
    by_cases allocated : address < arena.size
    · have exchanged := total_set weight allocated ⟨none, (arena.cell address).tags⟩
      have light := lighter (arena.cell address)
      omega
    · exact Nat.le_of_eq (by rw [set, List.set_eq_of_length_le (Nat.le_of_not_lt allocated)])

/-- An arena that is not idle has a tag outstanding somewhere. -/
theorem exists_tag_of_not_idle {arena : Arena Object Op} (busy : ¬arena.Idle) :
    ∃ address tag, tag ∈ (arena.cell address).tags := by
  by_contra none
  refine busy fun cell member => ?_
  obtain ⟨address, inside, same⟩ := List.getElem_of_mem member
  have here : arena.cell address = cell := by
    rw [Arena.cell, List.getElem?_eq_getElem inside, same]
    rfl
  rw [← here, List.isEmpty_iff, List.eq_nil_iff_forall_not_mem]
  exact fun tag outstanding => none ⟨address, tag, outstanding⟩

end Arena

end Rgrpc.Library
