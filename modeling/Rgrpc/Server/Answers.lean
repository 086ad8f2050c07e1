/-
This file puts the answers of a server in order. `Numbered` ties what R was told
about an id to what was accepted on its call, entry by entry; here the requests
of an id that returned `TRUE` are, as a list, the requests its call accepted.
-/

import Rgrpc.Server.Events
import Rgrpc.Server.Flow

namespace Rgrpc.Server

open Library

/-- The requests of R with an id that returned `TRUE`, in order. -/
def answersOf (id : Nat) (log : List ServerObs) : List RCall :=
  log.filterMap fun
    | .result other request (.ok true) => if other = id then some request else none
    | _ => none

/-- The requests a call accepted, in order. -/
def acceptedRequests (log : List CallObs) : List RCall :=
  log.filterMap fun
    | .accepted request => some request
    | _ => none

section Projections

variable (log more : List ServerObs)

theorem answersOf_append (id : Nat) :
    answersOf id (log ++ more) = answersOf id log ++ answersOf id more :=
  List.filterMap_append

theorem acceptedRequests_append (before after : List CallObs) :
    acceptedRequests (before ++ after) = acceptedRequests before ++ acceptedRequests after :=
  List.filterMap_append

theorem answersOf_map (id address : Nat) (obs : List CallObs) :
    answersOf id (obs.map (ServerObs.call address)) = [] := by
  rw [answersOf, List.filterMap_map]
  exact List.filterMap_eq_nil_iff.mpr fun _ _ => rfl

theorem answersOf_eq_nil {log : List ServerObs}
    (refused : ∀ id request, ServerObs.result id request (.ok true) ∉ log) (id : Nat) :
    answersOf id log = [] := by
  refine List.filterMap_eq_nil_iff.mpr fun entry member => ?_
  split
  · exact absurd member (refused _ _)
  · rfl

theorem acceptedRequests_eq_nil {log : List CallObs}
    (none : ∀ request, CallObs.accepted request ∉ log) : acceptedRequests log = [] := by
  refine List.filterMap_eq_nil_iff.mpr fun entry member => ?_
  split
  · exact absurd member (none _)
  · rfl

end Projections

/-- A request returns `TRUE` exactly when its call accepts it. -/
theorem answersOf_answer (shutting : Bool) (request : RCall) (call : SvCall) (id other : Nat) :
    answersOf other [.result id request (request.answer shutting call).value] =
      if id = other then acceptedRequests (request.answer shutting call).obs else [] := by
  have pumps (asked : RCall) (left : SvCall) :
      acceptedRequests (acceptAndPump shutting asked left).obs = [asked] := by
    rw [acceptAndPump, ← List.singleton_append, acceptedRequests_append,
      acceptedRequests_eq_nil (accepted_not_mem_of_isAct (isAct_pumpLocked shutting left))]
    rfl
  rcases answer_cases shutting request call with
    same | ⟨rfl, -, -, -, -, same⟩ | ⟨rfl, -, same⟩ | ⟨bytes, rfl, -, -, -, -, same⟩ |
    ⟨-, -, -, -, same | ⟨trailing, hasFinalWrite, error, same⟩⟩
  · rw [same]
    simp [answersOf, refuse, acceptedRequests]
  · rw [same]
    by_cases own : id = other <;> simp [answersOf, acceptedRequests, own]
  · rw [same]
    by_cases own : id = other <;> simp [answersOf, acceptedRequests, own]
  · rw [same, pumps]
    by_cases own : id = other <;> simp [answersOf, acceptAndPump, own]
  · rw [same, pumps]
    by_cases own : id = other <;> simp [answersOf, acceptAndPump, own]
  · rw [same]
    simp [answersOf, acceptedRequests]

/-- What R was told of every id is, in order, what its call accepted. -/
def Answered (log : List ServerObs) : Prop :=
  ∀ id, answersOf id log =
    ((holder log id).map fun address => acceptedRequests (callLog address log)).getD []

section Steps

variable {server after : RServer} {log news : List ServerObs} {input : ServerInput}

/-- A step in which nothing is answered, and nothing accepted. -/
theorem Answered.quiet (answered : Answered log) (numbered : Numbered server log)
    (later : Numbered after (log ++ news))
    (refused : ∀ id request, ServerObs.result id request (.ok true) ∉ news)
    (unaccepted : ∀ id address, holder log id = some address →
      acceptedRequests (callLog address news) = []) : Answered (log ++ news) := by
  intro id
  rw [answersOf_append, answersOf_eq_nil refused, List.append_nil, answered]
  cases held : holder log id with
  | some address =>
    rw [holder_mono held news]
    show acceptedRequests (callLog address log) = acceptedRequests (callLog address (log ++ news))
    rw [callLog_append, acceptedRequests_append, unaccepted id address held, List.append_nil]
  | none =>
    cases given : holder (log ++ news) id with
    | none => rfl
    | some address =>
      show [] = acceptedRequests (callLog address (log ++ news))
      refine (acceptedRequests_eq_nil fun request accepted => ?_).symm
      have told := (List.mem_append.mp (later.told id address request given accepted)).resolve_right
        (refused id request)
      obtain ⟨other, owner, -⟩ := numbered.answered id request told
      exact absurd (held.symm.trans owner) (by simp)

theorem Answered.step (answered : Answered log) (sound : Sound server log)
    (numbered : Numbered server log) (taken : serverStep server input = some (after, news)) :
    Answered (log ++ news) := by
  have later := numbered.step sound taken
  rcases sound.step_cases taken with
    ⟨address, op, delivery, call, rfl, unlocked, outstanding, object, equal⟩ |
    ⟨id, request, address, call, rfl, opened, unlocked, found, object, rfl, rfl⟩ |
    ⟨-, quiet⟩ | ⟨rfl, opened, unlocked, rfl, rfl⟩ | ⟨rfl, joining, idle, rfl, rfl⟩
  · have handles := handles_handle object op delivery
    rw [equal] at handles
    refine answered.quiet numbered later handles.unanswered fun id other held => ?_
    rw [handles.logged other (sound.lt_size_of_holder held)]
    split
    · exact acceptedRequests_eq_nil (accepted_not_mem_handleTag _ _ _ _ _ _)
    · rfl
  · obtain ⟨other, stored, own, nonzero⟩ := sound.active id address found
    obtain rfl := Option.some.inj (object.symm.trans stored)
    subst own
    have owner := numbered.named address call object nonzero
    intro other
    have unmatched : acceptances ((request.answer server.shutting call).obs.map
        (ServerObs.call address) ++
          [.result call.id request (request.answer server.shutting call).value]) = [] := by
      rw [acceptances_append, acceptances_answer]
      rfl
    have held := holder_append_of_nil log unmatched
    rw [held, answersOf_append, answersOf_append, answersOf_map, List.nil_append,
      answersOf_answer, answered]
    cases holds : holder log other with
    | none =>
      refine if_neg ?_
      rintro rfl
      exact absurd (holds.symm.trans owner) (by simp)
    | some home =>
      show acceptedRequests (callLog home log) ++ _ = acceptedRequests (callLog home (log ++ _))
      rw [callLog_append, acceptedRequests_append, callLog_answered]
      refine congrArg _ ?_
      by_cases same : address = home
      · rw [if_pos same, if_pos]
        exact holder_injective numbered.nodup (same ▸ owner) holds
      · rw [if_neg same, if_neg]
        · rfl
        · rintro rfl
          exact same (Option.some.inj (owner.symm.trans holds))
  · exact answered.quiet numbered later quiet.refused fun _ address _ => by
      rw [quiet.silent]
      rfl
  · exact answered.quiet numbered later (by simp) fun _ _ _ => rfl
  · exact answered.quiet numbered later (by simp) fun _ _ _ => rfl

end Steps

end Rgrpc.Server
