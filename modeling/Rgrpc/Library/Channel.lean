/-
This file gives one direction of a transport: a list of messages that were
offered and not yet transmitted, and a list of messages in transit. Messages are
transmitted and taken in the order they were offered. When an operation fails,
what it offered and was not transmitted is gone, so a message offered after that
would overtake it.

`Carries` compares a channel with the history of its two ends. As long as
nothing failed, what was taken, what is in transit and what is still offered is
everything that was ever offered, in order; afterwards it is a prefix of it, as
long as nothing more is offered.
-/

import Mathlib.Data.List.Infix
import Mathlib.Tactic.Common

namespace Rgrpc.Library

/-- One direction of a transport. -/
structure Channel (Message : Type) where
  offered : List Message := []
  transit : List Message := []
  deriving DecidableEq, Repr

namespace Channel

variable {Message : Type}

/-- Messages are handed to the transport. -/
def offer (channel : Channel Message) (messages : List Message) : Channel Message :=
  { channel with offered := channel.offered ++ messages }

/-- The transport sends the next message on its way. -/
def transmit (channel : Channel Message) : Option (Channel Message) :=
  match channel.offered with
  | [] => none
  | first :: rest => some ⟨rest, channel.transit ++ [first]⟩

/-- Once an operation failed, what was not transmitted is gone. -/
def fail (channel : Channel Message) (failing : Bool) : Channel Message :=
  if failing then { channel with offered := [] } else channel

/-- The next messages in transit are taken, and they are the given ones. -/
def take [DecidableEq Message] (channel : Channel Message) (messages : List Message) :
    Option (Channel Message) :=
  if messages <+: channel.transit then
    some { channel with transit := channel.transit.drop messages.length }
  else none

/-- A channel against what its receiver took and its sender offered. -/
structure Carries (channel : Channel Message) (taken written : List Message) (failed : Bool) :
    Prop where
  inOrder : taken ++ channel.transit ++ channel.offered <+: written
  whole : failed = false → taken ++ channel.transit ++ channel.offered = written

theorem carries_nil (failed : Bool) : Carries ({} : Channel Message) [] [] failed :=
  ⟨List.prefix_rfl, fun _ => rfl⟩

variable {channel : Channel Message} {taken written : List Message} {failed : Bool}

/-- What was taken is a prefix of what was offered. -/
theorem Carries.taken_prefix (carries : Carries channel taken written failed) :
    taken <+: written := by
  refine List.IsPrefix.trans ?_ carries.inOrder
  rw [List.append_assoc]
  exact List.prefix_append _ _

theorem Carries.offer (carries : Carries channel taken written failed)
    {messages : List Message} (sane : messages ≠ [] → failed = false) :
    Carries (channel.offer messages) taken (written ++ messages) failed := by
  have regroup : taken ++ (channel.offer messages).transit ++ (channel.offer messages).offered =
      taken ++ channel.transit ++ channel.offered ++ messages := by
    simp [Channel.offer]
  refine ⟨?_, fun alive => ?_⟩
  · rw [regroup]
    by_cases nothing : messages = []
    · rw [nothing, List.append_nil, List.append_nil]
      exact carries.inOrder
    · rw [carries.whole (sane nothing)]
  · rw [regroup, carries.whole alive]

theorem Carries.transmit (carries : Carries channel taken written failed)
    {after : Channel Message} (moved : channel.transmit = some after) :
    Carries after taken written failed := by
  unfold Channel.transmit at moved
  split at moved
  · exact absurd moved (by simp)
  · rename_i first rest offered
    obtain rfl := Option.some.inj moved
    have regroup : taken ++ (channel.transit ++ [first]) ++ rest =
        taken ++ channel.transit ++ channel.offered := by
      rw [offered]
      simp
    exact ⟨by rw [regroup]; exact carries.inOrder, fun alive => by
      rw [regroup]
      exact carries.whole alive⟩

theorem Carries.fail (carries : Carries channel taken written failed) (failing : Bool) :
    Carries (channel.fail failing) taken written (failed || failing) := by
  cases failing with
  | false =>
    rw [Bool.or_false]
    exact carries
  | true =>
    rw [Bool.or_true]
    refine ⟨?_, fun absurdity => absurd absurdity.symm Bool.false_ne_true⟩
    refine List.IsPrefix.trans ?_ carries.inOrder
    show taken ++ channel.transit ++ [] <+: taken ++ channel.transit ++ channel.offered
    rw [List.append_nil]
    exact List.prefix_append _ _

theorem Carries.take [DecidableEq Message] (carries : Carries channel taken written failed)
    {messages : List Message} {after : Channel Message}
    (moved : channel.take messages = some after) :
    Carries after (taken ++ messages) written failed := by
  unfold Channel.take at moved
  split at moved
  · rename_i next
    obtain rfl := Option.some.inj moved
    have regroup : taken ++ messages ++ channel.transit.drop messages.length ++ channel.offered =
        taken ++ channel.transit ++ channel.offered := by
      rw [List.append_assoc taken, List.prefix_iff_eq_append.mp next]
    refine ⟨?_, fun alive => ?_⟩
    · rw [regroup]
      exact carries.inOrder
    · rw [regroup]
      exact carries.whole alive
  · exact absurd moved (by simp)

/-! ### What an operation leaves -/

@[simp]
theorem transit_offer (messages : List Message) :
    (channel.offer messages).transit = channel.transit := rfl

@[simp]
theorem transit_fail (failing : Bool) : (channel.fail failing).transit = channel.transit := by
  cases failing <;> rfl

@[simp]
theorem offer_nil : channel.offer [] = channel := by
  rw [offer, List.append_nil]

theorem offer_offer (messages more : List Message) :
    (channel.offer messages).offer more = channel.offer (messages ++ more) := by
  rw [offer, offer, offer, List.append_assoc]

@[simp]
theorem fail_false : channel.fail false = channel := rfl

/-- A failure takes nothing from a channel in which nothing waits. -/
theorem fail_of_offered_eq_nil (nothing : channel.offered = []) (failing : Bool) :
    channel.fail failing = channel := by
  cases failing with
  | false => rfl
  | true =>
    rw [fail, if_pos rfl, ← nothing]

theorem offered_take [DecidableEq Message] {messages : List Message} {after : Channel Message}
    (moved : channel.take messages = some after) :
    after.offered = channel.offered ∧ messages ++ after.transit = channel.transit := by
  unfold Channel.take at moved
  split at moved
  · rename_i next
    obtain rfl := Option.some.inj moved
    exact ⟨rfl, (List.prefix_iff_eq_append.mp next)⟩
  · exact absurd moved (by simp)

/-- What is transmitted was the first that waited. -/
theorem transmit_eq_some {after : Channel Message} (moved : channel.transmit = some after) :
    ∃ first, channel.offered = first :: after.offered ∧
      after.transit = channel.transit ++ [first] := by
  unfold Channel.transmit at moved
  split at moved
  · exact absurd moved (by simp)
  · rename_i first rest offered
    obtain rfl := Option.some.inj moved
    exact ⟨first, offered, rfl⟩

end Channel

end Rgrpc.Library
