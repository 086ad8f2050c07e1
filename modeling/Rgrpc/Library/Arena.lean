/-
This file gives the memory of a program that hands the addresses of its
objects to a completion queue. An object is allocated at the next address and
may be deleted; the operations posted on it stay outstanding as tags until the
queue returns them, whether or not the object is still there. A cell keeps the
two together: the object, if it has not been deleted, and the tags outstanding
at its address. The queue has no order of its own, so the tags of one cell may
come back in any order, and those of different cells in any interleaving.
-/

import Mathlib.Algebra.GroupWithZero.Nat
import Mathlib.Data.List.Basic
import Mathlib.Tactic.Common

namespace Rgrpc.Library

/-- One address: the object stored there, if it has not been deleted, and the tags of the
operations outstanding on it. -/
structure Cell (Object Op : Type) where
  object : Option Object
  tags : List Op
  deriving DecidableEq, Repr

/-- The cell of an address that was never handed out. -/
def Cell.blank {Object Op : Type} : Cell Object Op := ⟨none, []⟩

/-- An operation that is outstanding once while a flag is up, and not at all while it is down, is
outstanding exactly while it is up. -/
theorem mem_iff_flag {Op : Type} [BEq Op] [LawfulBEq Op] {tags : List Op} {op : Op} {flag : Bool}
    (counts : tags.count op = if flag then 1 else 0) : op ∈ tags ↔ flag = true := by
  rw [← List.count_pos_iff, counts]
  cases flag <;> simp

section Returned

variable {Op : Type} [DecidableEq Op] {tags : List Op} {op : Op}

/-- A tag comes back: the count of pending tags goes down with the tags outstanding. -/
theorem pending_return {pending : Int} (agrees : pending = tags.length) (outstanding : op ∈ tags) :
    pending - 1 = (tags.erase op).length := by
  have positive := List.length_pos_of_mem outstanding
  rw [List.length_erase_of_mem outstanding, agrees]
  omega

/-- Of every kind there are as many tags as are left, and the one that came back. -/
theorem count_return (outstanding : op ∈ tags) (other : Op) :
    tags.count other = (tags.erase op).count other + if op = other then 1 else 0 := by
  have positive := List.count_pos_iff.mpr outstanding
  by_cases same : op = other
  · subst same
    rw [List.count_erase_self, if_pos rfl]
    omega
  · rw [List.count_erase_of_ne (Ne.symm same), if_neg same, Nat.add_zero]

end Returned

/-- The addresses handed out so far, with their cells. -/
structure Arena (Object Op : Type) where
  cells : List (Cell Object Op)
  deriving DecidableEq, Repr

namespace Arena

variable {Object Op : Type}

/-- The arena in which nothing was allocated yet. -/
def empty : Arena Object Op := ⟨[]⟩

/-- How many addresses were handed out. -/
def size (arena : Arena Object Op) : Nat := arena.cells.length

/-- The cell of an address. -/
def cell (arena : Arena Object Op) (address : Nat) : Cell Object Op :=
  arena.cells[address]?.getD Cell.blank

/-- Replace the cell of an address. -/
def set (arena : Arena Object Op) (address : Nat) (cell : Cell Object Op) : Arena Object Op :=
  ⟨arena.cells.set address cell⟩

/-- Hand out the next address, with the given cell. -/
def push (arena : Arena Object Op) (cell : Cell Object Op) : Arena Object Op :=
  ⟨arena.cells ++ [cell]⟩

/-- Delete the objects of a list of addresses. -/
def deleteAll (arena : Arena Object Op) : List Nat → Arena Object Op
  | [] => arena
  | address :: rest => (arena.set address ⟨none, (arena.cell address).tags⟩).deleteAll rest

/-- Whether an object that passes a test is stored at an address. -/
def holds (arena : Arena Object Op) (test : Object → Bool) (address : Nat) : Bool :=
  (arena.cell address).object.any test

/-- How many tags of a kind are outstanding, at all addresses together. -/
def outstanding [BEq Op] (arena : Arena Object Op) (tag : Op) : Nat :=
  (arena.cells.map fun cell => cell.tags.count tag).sum

/-- No tag is outstanding anywhere: the completion queue has nothing left to return. -/
def Idle (arena : Arena Object Op) : Prop :=
  ∀ cell ∈ arena.cells, cell.tags.isEmpty = true

instance (arena : Arena Object Op) : Decidable arena.Idle :=
  inferInstanceAs (Decidable (∀ cell ∈ arena.cells, cell.tags.isEmpty = true))

theorem cell_of_size_le {arena : Arena Object Op} {address : Nat}
    (beyond : arena.size ≤ address) : arena.cell address = Cell.blank := by
  rw [cell, List.getElem?_eq_none beyond]
  rfl

theorem lt_size_of_object {arena : Arena Object Op} {address : Nat} {object : Object}
    (stored : (arena.cell address).object = some object) : address < arena.size := by
  by_contra beyond
  rw [cell_of_size_le (Nat.le_of_not_lt beyond)] at stored
  exact absurd stored (by simp [Cell.blank])

theorem lt_size_of_mem_tags {arena : Arena Object Op} {address : Nat} {tag : Op}
    (outstanding : tag ∈ (arena.cell address).tags) : address < arena.size := by
  by_contra beyond
  rw [cell_of_size_le (Nat.le_of_not_lt beyond)] at outstanding
  exact absurd outstanding (by simp [Cell.blank])

theorem cell_mem {arena : Arena Object Op} {address : Nat} (allocated : address < arena.size) :
    arena.cell address ∈ arena.cells := by
  rw [cell, List.getElem?_eq_getElem allocated]
  exact List.getElem_mem allocated

@[simp]
theorem size_set (arena : Arena Object Op) (address : Nat) (cell : Cell Object Op) :
    (arena.set address cell).size = arena.size := by
  rw [size, set, List.length_set, size]

@[simp]
theorem size_push (arena : Arena Object Op) (cell : Cell Object Op) :
    (arena.push cell).size = arena.size + 1 := by
  rw [size, push, List.length_append, List.length_singleton, size]

theorem cell_set_self {arena : Arena Object Op} {address : Nat} (allocated : address < arena.size)
    (cell : Cell Object Op) : (arena.set address cell).cell address = cell := by
  rw [Arena.cell, set, List.getElem?_set_self allocated]
  rfl

theorem cell_set_of_ne {arena : Arena Object Op} {address other : Nat} (different : address ≠ other)
    (cell : Cell Object Op) : (arena.set address cell).cell other = arena.cell other := by
  rw [Arena.cell, set, List.getElem?_set_ne different, Arena.cell]

theorem cell_set {arena : Arena Object Op} {address : Nat} (allocated : address < arena.size)
    (cell : Cell Object Op) (other : Nat) :
    (arena.set address cell).cell other = if address = other then cell else arena.cell other := by
  split
  · rename_i same
    rw [← same, cell_set_self allocated]
  · rename_i different
    exact cell_set_of_ne different cell

/-- Putting back the cell that is there changes nothing. -/
theorem set_cell (arena : Arena Object Op) (address : Nat) :
    arena.set address (arena.cell address) = arena := by
  by_cases allocated : address < arena.size
  · have inside : address < arena.cells.length := allocated
    rw [cell, List.getElem?_eq_getElem inside, set, Option.getD_some, List.set_getElem_self]
  · rw [set, List.set_eq_of_length_le (Nat.le_of_not_lt allocated)]

/-- After an object was deleted, the objects that are there are the others. -/
theorem object_set_none {arena : Arena Object Op} {address other : Nat} {tags : List Op}
    {object : Object} (allocated : address < arena.size)
    (stored : ((arena.set address ⟨none, tags⟩).cell other).object = some object) :
    address ≠ other ∧ (arena.cell other).object = some object := by
  by_cases here : address = other
  · subst here
    rw [cell_set_self allocated] at stored
    exact absurd stored (by simp)
  · rw [cell_set_of_ne here] at stored
    exact ⟨here, stored⟩

theorem cell_push_self (arena : Arena Object Op) (cell : Cell Object Op) :
    (arena.push cell).cell arena.size = cell := by
  rw [Arena.cell, push, size, List.getElem?_concat_length]
  rfl

theorem cell_push_of_lt {arena : Arena Object Op} {address : Nat} (allocated : address < arena.size)
    (cell : Cell Object Op) : (arena.push cell).cell address = arena.cell address := by
  rw [Arena.cell, push, List.getElem?_append_left allocated, Arena.cell]

/-- An object of an arena that grew was there before, or is the new one. -/
theorem object_push {arena : Arena Object Op} {cell : Cell Object Op} {address : Nat}
    {object : Object} (stored : ((arena.push cell).cell address).object = some object) :
    (arena.cell address).object = some object ∨
      address = arena.size ∧ cell.object = some object := by
  have inside := lt_size_of_object stored
  rw [size_push] at inside
  by_cases old : address < arena.size
  · rw [cell_push_of_lt old] at stored
    exact Or.inl stored
  · have last : address = arena.size := by omega
    subst last
    rw [cell_push_self] at stored
    exact Or.inr ⟨rfl, stored⟩

/-- A tag outstanding in an arena that grew was outstanding before, or is of the new cell. -/
theorem mem_tags_push {arena : Arena Object Op} {cell : Cell Object Op} {address : Nat} {tag : Op}
    (outstanding : tag ∈ ((arena.push cell).cell address).tags) :
    tag ∈ (arena.cell address).tags ∨ address = arena.size ∧ tag ∈ cell.tags := by
  have inside := lt_size_of_mem_tags outstanding
  rw [size_push] at inside
  by_cases old : address < arena.size
  · rw [cell_push_of_lt old] at outstanding
    exact Or.inl outstanding
  · have last : address = arena.size := by omega
    subst last
    rw [cell_push_self] at outstanding
    exact Or.inr ⟨rfl, outstanding⟩

theorem set_push (arena : Arena Object Op) (cell other : Cell Object Op) :
    (arena.push cell).set arena.size other = arena.push other := by
  rw [push, push, set, size, List.set_append_right _ _ (Nat.le_refl _), Nat.sub_self]
  rfl

@[simp]
theorem size_deleteAll (arena : Arena Object Op) (addresses : List Nat) :
    (arena.deleteAll addresses).size = arena.size := by
  induction addresses generalizing arena with
  | nil => rfl
  | cons address rest inductionHypothesis =>
    rw [deleteAll, inductionHypothesis, size_set]

/-- Deleting takes the objects of the listed addresses and leaves all tags and other objects. -/
theorem cell_deleteAll (arena : Arena Object Op) (addresses : List Nat) (address : Nat) :
    (arena.deleteAll addresses).cell address =
      if address ∈ addresses then ⟨none, (arena.cell address).tags⟩ else arena.cell address := by
  induction addresses generalizing arena with
  | nil => simp [deleteAll]
  | cons first rest inductionHypothesis =>
    have deleted : (arena.set first ⟨none, (arena.cell first).tags⟩).cell address =
        if address = first then ⟨none, (arena.cell address).tags⟩ else arena.cell address := by
      by_cases same : address = first
      · subst same
        rw [if_pos rfl]
        by_cases allocated : address < arena.size
        · exact cell_set_self allocated _
        · have beyond := Nat.le_of_not_lt allocated
          rw [cell_of_size_le (by rw [size_set]; exact beyond), cell_of_size_le beyond]
          rfl
      · rw [if_neg same, cell_set_of_ne (Ne.symm same)]
    rw [deleteAll, inductionHypothesis, deleted]
    by_cases same : address = first
    · subst same
      simp
    · simp [same]

/-- Once nothing is outstanding, no address has a tag. -/
theorem Idle.tags_eq_nil {arena : Arena Object Op} (idle : arena.Idle) (address : Nat) :
    (arena.cell address).tags = [] := by
  by_cases allocated : address < arena.size
  · exact List.isEmpty_iff.mp (idle _ (cell_mem allocated))
  · rw [cell_of_size_le (Nat.le_of_not_lt allocated)]
    rfl

/-- Deleting objects leaves nothing outstanding that was not outstanding before. -/
theorem Idle.deleteAll {arena : Arena Object Op} (idle : arena.Idle) (addresses : List Nat) :
    (arena.deleteAll addresses).Idle := by
  induction addresses generalizing arena with
  | nil => exact idle
  | cons address rest inductionHypothesis =>
    refine inductionHypothesis fun cell member => ?_
    rcases List.mem_or_eq_of_mem_set member with old | rfl
    · exact idle cell old
    · rw [idle.tags_eq_nil]
      rfl

/-- Replacing a cell exchanges its tags for those of the new one. -/
theorem outstanding_set [BEq Op] {arena : Arena Object Op} {address : Nat}
    (allocated : address < arena.size) (cell : Cell Object Op) (tag : Op) :
    (arena.set address cell).outstanding tag + (arena.cell address).tags.count tag =
      arena.outstanding tag + cell.tags.count tag := by
  obtain ⟨cells⟩ := arena
  have exchange (cells : List (Cell Object Op)) : ∀ address, address < cells.length →
      ((cells.set address cell).map fun cell => cell.tags.count tag).sum +
          (cells[address]?.getD Cell.blank).tags.count tag =
        (cells.map fun cell => cell.tags.count tag).sum + cell.tags.count tag := by
    induction cells with
    | nil => exact fun address inside => absurd inside (Nat.not_lt_zero address)
    | cons first rest inductionHypothesis =>
      intro address inside
      cases address with
      | zero =>
        simp only [List.set_cons_zero, List.map_cons, List.sum_cons, List.getElem?_cons_zero,
          Option.getD_some]
        omega
      | succ address =>
        have tail := inductionHypothesis address (Nat.lt_of_succ_lt_succ inside)
        simp only [List.set_cons_succ, List.map_cons, List.sum_cons, List.getElem?_cons_succ]
        omega
  exact exchange cells address allocated

theorem outstanding_append_replicate [BEq Op] (cells : List (Cell Object Op)) (count : Nat)
    (cell : Cell Object Op) (tag : Op) :
    (⟨cells ++ List.replicate count cell⟩ : Arena Object Op).outstanding tag =
      (⟨cells⟩ : Arena Object Op).outstanding tag + count * cell.tags.count tag := by
  simp [outstanding]

section Holds

variable {arena : Arena Object Op} {test : Object → Bool}

theorem holds_eq_false {address : Nat} {object : Object}
    (stored : (arena.cell address).object = some object) (fails : test object = false) :
    arena.holds test address = false := by
  rw [holds, stored]
  exact fails

/-- Replacing a cell whose object fails the test by another such cell changes nothing. -/
theorem holds_set {address : Nat} (before : arena.holds test address = false)
    {cell : Cell Object Op} (now : cell.object.any test = false) (other : Nat) :
    (arena.set address cell).holds test other = arena.holds test other := by
  by_cases same : address = other
  · subst same
    rw [before]
    by_cases allocated : address < arena.size
    · rw [holds, cell_set_self allocated]
      exact now
    · rw [holds, cell_of_size_le (by rw [size_set]; exact Nat.le_of_not_lt allocated)]
      rfl
  · rw [holds, cell_set_of_ne same, holds]

theorem holds_push (cell : Cell Object Op) (other : Nat) :
    (arena.push cell).holds test other =
      if other = arena.size then cell.object.any test else arena.holds test other := by
  by_cases last : other = arena.size
  · rw [if_pos last, last, holds, cell_push_self]
  · rw [if_neg last]
    by_cases old : other < arena.size
    · rw [holds, cell_push_of_lt old, holds]
    · rw [holds, cell_of_size_le (by rw [size_push]; omega), holds, cell_of_size_le (by omega)]

theorem holds_deleteAll {addresses : List Nat}
    (clear : ∀ address ∈ addresses, arena.holds test address = false) (other : Nat) :
    (arena.deleteAll addresses).holds test other = arena.holds test other := by
  rw [holds, cell_deleteAll]
  split
  · rename_i listed
    rw [clear other listed]
    rfl
  · rfl

end Holds

end Arena

end Rgrpc.Library
