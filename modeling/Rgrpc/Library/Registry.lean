/-
This file gives the table in which a program keeps the objects of an arena by
id. Ids are handed out in order, and an object without one has the id 0. The
table of a registry names exactly the objects that have an id and are there, and
every id handed out is behind the next one, so that the next one is new.
-/

import Rgrpc.Library.Arena
import Mathlib.Data.List.AList

namespace Rgrpc.Library

/-- A table of the objects of an arena by id, with the next id to hand out. -/
structure Registry {Object Op : Type} (idOf : Object → Nat) (table : AList fun _ : Nat => Nat)
    (arena : Arena Object Op) (nextId : Nat) : Prop where
  found : ∀ id address, table.lookup id = some address →
    ∃ object, (arena.cell address).object = some object ∧ idOf object = id ∧ id ≠ 0
  listed : ∀ address object, (arena.cell address).object = some object → idOf object ≠ 0 →
    table.lookup (idOf object) = some address
  behind : ∀ address object, (arena.cell address).object = some object → idOf object < nextId

/-- The registry of a program that allocated nothing yet. -/
theorem registry_empty {Object Op : Type} (idOf : Object → Nat) (nextId : Nat) :
    Registry idOf ∅ (Arena.empty : Arena Object Op) nextId :=
  ⟨fun _ _ found => absurd found (by simp),
    fun address _ stored =>
      absurd (Arena.lt_size_of_object stored) (Nat.not_lt_zero address),
    fun address _ stored =>
      absurd (Arena.lt_size_of_object stored) (Nat.not_lt_zero address)⟩

namespace Registry

variable {Object Op : Type} {idOf : Object → Nat} {table : AList fun _ : Nat => Nat}
  {arena : Arena Object Op} {nextId : Nat} (registry : Registry idOf table arena nextId)

include registry

theorem lookup_lt {id address : Nat} (found : table.lookup id = some address) : id < nextId := by
  obtain ⟨object, stored, rfl, -⟩ := registry.found id address found
  exact registry.behind address object stored

/-- An id may be handed out elsewhere. -/
theorem advance : Registry idOf table arena (nextId + 1) :=
  ⟨registry.found, registry.listed,
    fun address object stored => Nat.lt_succ_of_lt (registry.behind address object stored)⟩

/-- An object may change, as long as it keeps its id. -/
theorem update {address : Nat} {before after : Object}
    (stored : (arena.cell address).object = some before) (same : idOf after = idOf before)
    (tags : List Op) : Registry idOf table (arena.set address ⟨some after, tags⟩) nextId := by
  have cell := Arena.cell_set_self (Arena.lt_size_of_object stored) ⟨some after, tags⟩
  refine ⟨fun id other found => ?_, fun other object stored' named => ?_,
    fun other object stored' => ?_⟩
  · obtain ⟨object, stored', named⟩ := registry.found id other found
    by_cases here : address = other
    · subst here
      obtain rfl := Option.some.inj (stored.symm.trans stored')
      rw [cell]
      exact ⟨after, rfl, same.trans named.1, named.2⟩
    · rw [Arena.cell_set_of_ne here]
      exact ⟨object, stored', named⟩
  · by_cases here : address = other
    · subst here
      rw [cell] at stored'
      obtain rfl := Option.some.inj stored'
      rw [same] at named ⊢
      exact registry.listed address before stored named
    · rw [Arena.cell_set_of_ne here] at stored'
      exact registry.listed other object stored' named
  · by_cases here : address = other
    · subst here
      rw [cell] at stored'
      obtain rfl := Option.some.inj stored'
      rw [same]
      exact registry.behind address before stored
    · rw [Arena.cell_set_of_ne here] at stored'
      exact registry.behind other object stored'

/-- An object that is deleted is taken out of the table. -/
theorem remove {address : Nat} {before : Object}
    (stored : (arena.cell address).object = some before) (named : idOf before ≠ 0)
    (tags : List Op) :
    Registry idOf (table.erase (idOf before)) (arena.set address ⟨none, tags⟩) nextId := by
  have allocated := Arena.lt_size_of_object stored
  refine ⟨fun id other found => ?_, fun other object stored' named' => ?_,
    fun other object stored' =>
      registry.behind other object (Arena.object_set_none allocated stored').2⟩
  · have different : id ≠ idOf before := by
      rintro rfl
      rw [AList.lookup_erase] at found
      exact absurd found (by simp)
    rw [AList.lookup_erase_ne different] at found
    obtain ⟨object, stored', same, nonzero⟩ := registry.found id other found
    have apart : address ≠ other := by
      rintro rfl
      obtain rfl := Option.some.inj (stored.symm.trans stored')
      exact different same.symm
    rw [Arena.cell_set_of_ne apart]
    exact ⟨object, stored', same, nonzero⟩
  · obtain ⟨apart, stored'⟩ := Arena.object_set_none allocated stored'
    have listed := registry.listed other object stored' named'
    rw [AList.lookup_erase_ne, listed]
    intro clash
    rw [clash, registry.listed address before stored named, Option.some.injEq] at listed
    exact apart listed

/-- An object that was never given an id is deleted. -/
theorem discard {address : Nat} {before : Object}
    (stored : (arena.cell address).object = some before) (nameless : idOf before = 0)
    (tags : List Op) : Registry idOf table (arena.set address ⟨none, tags⟩) nextId := by
  have left {other : Nat} {object : Object}
      (stored' : ((arena.set address ⟨none, tags⟩).cell other).object = some object) :
      (arena.cell other).object = some object :=
    (Arena.object_set_none (Arena.lt_size_of_object stored) stored').2
  refine ⟨fun id other found => ?_,
    fun other object stored' => registry.listed other object (left stored'),
    fun other object stored' => registry.behind other object (left stored')⟩
  obtain ⟨object, stored', same, nonzero⟩ := registry.found id other found
  have apart : address ≠ other := by
    rintro rfl
    obtain rfl := Option.some.inj (stored.symm.trans stored')
    exact nonzero (same.symm.trans nameless)
  rw [Arena.cell_set_of_ne apart]
  exact ⟨object, stored', same, nonzero⟩

/-- The next id is given to an object that had none, or was not there. -/
theorem enter {address : Nat} (allocated : address < arena.size)
    (vacant : ∀ before, (arena.cell address).object = some before → idOf before = 0)
    (numbered : 0 < nextId) {after : Object} (named : idOf after = nextId) (tags : List Op) :
    Registry idOf (table.insert nextId address) (arena.set address ⟨some after, tags⟩)
      (nextId + 1) := by
  have cell := Arena.cell_set_self allocated ⟨some after, tags⟩
  refine ⟨fun id other found => ?_, fun other object stored named' => ?_,
    fun other object stored => ?_⟩
  · by_cases new : id = nextId
    · subst new
      rw [AList.lookup_insert, Option.some.injEq] at found
      subst found
      rw [cell]
      exact ⟨after, rfl, named, Nat.ne_of_gt numbered⟩
    · rw [AList.lookup_insert_ne new] at found
      obtain ⟨object, stored, same, nonzero⟩ := registry.found id other found
      have apart : address ≠ other := by
        rintro rfl
        exact nonzero (same.symm.trans (vacant object stored))
      rw [Arena.cell_set_of_ne apart]
      exact ⟨object, stored, same, nonzero⟩
  · by_cases here : address = other
    · subst here
      rw [cell] at stored
      obtain rfl := Option.some.inj stored
      rw [named]
      exact AList.lookup_insert _
    · rw [Arena.cell_set_of_ne here] at stored
      rw [AList.lookup_insert_ne (Nat.ne_of_lt (registry.behind other object stored))]
      exact registry.listed other object stored named'
  · by_cases here : address = other
    · subst here
      rw [cell] at stored
      obtain rfl := Option.some.inj stored
      rw [named]
      exact Nat.lt_succ_self _
    · rw [Arena.cell_set_of_ne here] at stored
      exact Nat.lt_succ_of_lt (registry.behind other object stored)

/-- A new object has no id yet. -/
theorem push (numbered : 0 < nextId) {cell : Cell Object Op}
    (nameless : ∀ object, cell.object = some object → idOf object = 0) :
    Registry idOf table (arena.push cell) nextId := by
  refine ⟨fun id address found => ?_, fun address object stored named => ?_,
    fun address object stored => ?_⟩
  · obtain ⟨object, stored, named⟩ := registry.found id address found
    refine ⟨object, ?_, named⟩
    rw [Arena.cell_push_of_lt (Arena.lt_size_of_object stored)]
    exact stored
  · rcases Arena.object_push stored with before | ⟨-, fresh⟩
    · exact registry.listed address object before named
    · exact absurd (nameless object fresh) named
  · rcases Arena.object_push stored with before | ⟨-, fresh⟩
    · exact registry.behind address object before
    · rw [nameless object fresh]
      exact numbered

/-- A new object is given the next id. -/
theorem pushEntered (numbered : 0 < nextId) {after : Object} (named : idOf after = nextId)
    (tags : List Op) :
    Registry idOf (table.insert nextId arena.size) (arena.push ⟨some after, tags⟩)
      (nextId + 1) := by
  have pushed : Registry idOf table (arena.push Cell.blank) nextId :=
    registry.push numbered fun object absurdity => absurd absurdity (by simp [Cell.blank])
  have entered := pushed.enter (by rw [Arena.size_push]; exact Nat.lt_succ_self _)
    (fun before stored => by
      rw [Arena.cell_push_self] at stored
      exact absurd stored (by simp [Cell.blank]))
    numbered named tags
  rw [Arena.set_push] at entered
  exact entered

/-- The table names the addresses of the objects that have an id. -/
theorem mem_entries (address : Nat) :
    address ∈ table.entries.map Sigma.snd ↔
      ∃ object, (arena.cell address).object = some object ∧ idOf object ≠ 0 := by
  constructor
  · intro member
    obtain ⟨⟨id, other⟩, entry, rfl⟩ := List.mem_map.mp member
    obtain ⟨object, stored, same, nonzero⟩ :=
      registry.found id other (AList.mem_lookup_iff.mpr entry)
    exact ⟨object, stored, by rw [same]; exact nonzero⟩
  · rintro ⟨object, stored, named⟩
    have listed := registry.listed address object stored named
    exact List.mem_map.mpr ⟨⟨idOf object, address⟩, AList.mem_lookup_iff.mp listed, rfl⟩

/-- The addresses in the table are different. -/
theorem entries_nodup : (table.entries.map Sigma.snd).Nodup := by
  refine List.Nodup.map_on ?_ table.nodupKeys.nodup
  rintro ⟨id, address⟩ first ⟨id', address'⟩ second same
  obtain rfl : address = address' := same
  obtain ⟨object, stored, named, -⟩ := registry.found id address (AList.mem_lookup_iff.mpr first)
  obtain ⟨object', stored', named', -⟩ :=
    registry.found id' address (AList.mem_lookup_iff.mpr second)
  obtain rfl := Option.some.inj (stored.symm.trans stored')
  rw [← named, ← named']

/-- Without objects that have an id, the table is empty. -/
theorem entries_eq_nil
    (nameless : ∀ address object, (arena.cell address).object = some object → idOf object = 0) :
    table.entries = [] := by
  rw [List.eq_nil_iff_forall_not_mem]
  intro entry member
  obtain ⟨object, stored, named⟩ :=
    (registry.mem_entries entry.2).mp (List.mem_map.mpr ⟨entry, member, rfl⟩)
  exact named (nameless entry.2 object stored)

/-- Everything in the table is deleted with it. -/
theorem clear :
    Registry idOf ∅ (arena.deleteAll (table.entries.map Sigma.snd)) nextId := by
  have left {address : Nat} {object : Object}
      (stored : ((arena.deleteAll (table.entries.map Sigma.snd)).cell address).object =
        some object) :
      (arena.cell address).object = some object ∧ idOf object = 0 := by
    rw [Arena.cell_deleteAll] at stored
    split at stored
    · exact absurd stored (by simp)
    · rename_i missing
      refine ⟨stored, ?_⟩
      by_contra named
      exact missing ((registry.mem_entries address).mpr ⟨object, stored, named⟩)
  refine ⟨fun id address found => absurd found (by simp), fun address object stored named => ?_,
    fun address object stored => registry.behind address object (left stored).1⟩
  exact absurd (left stored).2 named

end Registry

end Rgrpc.Library
