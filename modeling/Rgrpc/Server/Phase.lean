/-
This file proves what every run of one server call looks like between locked
sections. A call is an accept slot nobody has matched yet, or an accepted call
whose ledger balances and whose pump has run, or it is gone. A gone call was
deleted once and has no tag outstanding; a call that is still there has at least
one, so it will be looked at again.
-/

import Rgrpc.Server.Ledger

namespace Rgrpc.Server

open Library

/-! ### The phases of a call -/

/-- How often a call was deleted. -/
def deletions (log : List CallObs) : Nat := log.count .deleted

/-- An accepted call between two locked sections: its ledger balances, some tag of it is
outstanding, it was not deleted, and unless the server is shutting down its pump has run. A
terminal that was requested but neither posted nor waiting behind a write means that the request
ended in an error which left the mutex locked. -/
structure Settled (view : CallView) (call : SvCall) (log : List CallObs) : Prop where
  ledger : Ledger call view.cell.tags log
  busy : view.cell.tags ≠ []
  kept : deletions log = 0
  flows : view.shutting = false → call.dead = false → call.writeQueue ≠ [] →
    call.writeInflight = true
  answers : view.shutting = false → call.dead = false → call.replied = true →
    call.writeInflight = true ∨ call.finishPosted = true ∨ view.wedged = true

/-- The phase a call is in. -/
inductive Phase (view : CallView) (log : List CallObs) : Prop
  | slot (cell : view.cell = ⟨some newSlot, [.accept]⟩) (opened : log = [.posted .requestCall])
  | live (call : SvCall) (object : view.cell.object = some call) (settled : Settled view call log)
  | gone (cell : view.cell = ⟨none, []⟩) (deleted : deletions log = 1)
      (lawful : Lawful Disciplined log)

@[simp]
theorem deletions_append (log more : List CallObs) :
    deletions (log ++ more) = deletions log + deletions more :=
  List.count_append

theorem deletions_of_isAct {obs : List CallObs} (acts : ∀ entry ∈ obs, entry.isAct = true) :
    deletions obs = 0 :=
  List.count_eq_zero.mpr fun member => absurd (acts _ member) Bool.false_ne_true

/-- No request of R deletes its call. -/
theorem deletions_answer (shutting : Bool) (request : RCall) (call : SvCall) :
    deletions (request.answer shutting call).obs = 0 := by
  have accepted (request : RCall) (call : SvCall) :
      deletions (acceptAndPump shutting request call).obs = 0 := by
    have pumped := deletions_of_isAct (isAct_pumpLocked shutting call)
    simpa [acceptAndPump, deletions] using pumped
  rcases answer_cases shutting request call with
    same | ⟨-, -, -, -, -, same⟩ | ⟨-, -, same⟩ | ⟨bytes, -, -, -, -, -, same⟩ |
    ⟨-, -, -, -, same | ⟨trailing, hasFinalWrite, error, same⟩⟩
  · rw [same]
    rfl
  · rw [same]
    simp [deletions]
  · rw [same]
    simp [deletions]
  · rw [same]
    exact accepted _ _
  · rw [same]
    exact accepted _ _
  · rw [same]
    rfl

/-! ### What the sections leave of the pump's work -/

theorem pumped_runCall {call : SvCall} {tags : List SvOp} {log : List CallObs}
    (ledger : Ledger call tags log) {op : SvOp} (outstanding : op ∈ tags) (nextId : Nat)
    (delivery : Delivery)
    (flows : call.dead = false → call.writeQueue ≠ [] → call.writeInflight = true)
    (answers : call.dead = false → call.replied = true →
      call.writeInflight = true ∨ call.finishPosted = true) :
    Pumped (runCall false nextId op delivery call).1 := by
  cases op with
  | accept => exact absurd outstanding ledger.accept_not_mem
  | read =>
    unfold runCall runRead
    simp only
    split
    · split
      · exact ⟨flows, answers⟩
      · exact ⟨flows, answers⟩
    · split
      · exact ⟨flows, answers⟩
      · exact ⟨fun alive => absurd alive.symm Bool.false_ne_true,
          fun alive => absurd alive.symm Bool.false_ne_true⟩
  | write =>
    unfold runCall runWrite
    simp only
    split
    · exact (ledger.returnWrite outstanding delivery.ok delivery.message call.writeQueue.tail
        fun empty => by rw [empty]; rfl).pumped
    · exact ⟨fun alive => absurd alive.symm Bool.false_ne_true,
        fun alive => absurd alive.symm Bool.false_ne_true⟩
  | done =>
    unfold runCall runDone
    simp only
    split
    · exact ⟨fun alive => absurd alive.symm Bool.false_ne_true,
        fun alive => absurd alive.symm Bool.false_ne_true⟩
    · exact ⟨flows, answers⟩
  | finish => exact ⟨flows, answers⟩

theorem pumped_answer {call : SvCall} {tags : List SvOp} {log : List CallObs}
    (ledger : Ledger call tags log) (request : RCall)
    (flows : call.dead = false → call.writeQueue ≠ [] → call.writeInflight = true)
    (answers : call.dead = false → call.replied = true →
      call.writeInflight = true ∨ call.finishPosted = true) :
    Pumped (request.answer false call).call ∨
      (request.answer false call).raised = true ∧
        ((request.answer false call).call.writeQueue ≠ [] →
          (request.answer false call).call.writeInflight = true) := by
  rcases answer_cases false request call with
    same | ⟨-, -, -, -, -, same⟩ | ⟨-, -, same⟩ | ⟨bytes, -, delivered, -, silent, -, same⟩ |
    ⟨-, delivered, silent, alive, same | ⟨trailing, hasFinalWrite, error, same⟩⟩
  · rw [same]
    exact Or.inl ⟨flows, answers⟩
  · rw [same]
    exact Or.inl ⟨flows, answers⟩
  · rw [same]
    exact Or.inl ⟨flows, answers⟩
  · rw [same]
    exact Or.inl (ledger.queue bytes delivered silent).pumped
  · rw [same]
    exact Or.inl (ledger.armed request delivered silent).pumped
  · rw [same]
    refine Or.inr ⟨rfl, fun waiting => flows alive fun empty => waiting ?_⟩
    show request.queueLeft call = []
    unfold RCall.queueLeft discardQueued
    simp [empty]

/-! ### Steps of one call -/

/-- A call that is kept after the return of a tag is the one its handler left. -/
theorem eq_of_handleTag {shutting : Bool} {nextId : Nat} {op : SvOp} {delivery : Delivery}
    {call found : SvCall} {tags : List SvOp}
    (stored : (handleTag shutting nextId op delivery call tags).1.object = some found) :
    found = (runCall shutting nextId op delivery call).1 := by
  simp only [handleTag] at stored
  split at stored
  · exact absurd stored (by simp)
  · exact (Option.some.inj stored).symm

/-- What a step of one call can be. -/
theorem callStep_cases {view after : CallView} {input : CallInput} {news : List CallObs}
    (taken : callStep view input = some (after, news)) :
    (∃ op delivery nextId call, input = .returned op delivery nextId ∧ view.wedged = false ∧
        op ∈ view.cell.tags ∧ view.cell.object = some call ∧
        after = { view with
          cell := (handleTag view.shutting nextId op delivery call view.cell.tags).1 } ∧
        news = (handleTag view.shutting nextId op delivery call view.cell.tags).2) ∨
      (∃ request call, input = .request request ∧ view.wedged = false ∧
        view.cell.object = some call ∧ call.id ≠ 0 ∧
        after = { view with
          cell := answeredCell (request.answer view.shutting call) view.cell.tags
          wedged := (request.answer view.shutting call).raised } ∧
        news = (request.answer view.shutting call).obs) ∨
      (input = .shut ∧ after = { view with shutting := true } ∧ news = []) ∨
      input = .wedge ∧ after = { view with wedged := true } ∧ news = [] := by
  cases input with
  | returned op delivery nextId =>
    refine Or.inl ?_
    rw [callStep] at taken
    split at taken
    · rename_i enabled
      simp only [Bool.and_eq_true, Bool.not_eq_true', List.contains_iff_mem] at enabled
      obtain ⟨call, object, equal⟩ := Option.map_eq_some_iff.mp taken
      simp only [Prod.mk.injEq] at equal
      exact ⟨op, delivery, nextId, call, rfl, enabled.1, enabled.2, object, equal.1.symm,
        equal.2.symm⟩
    · exact absurd taken (by simp)
  | request request =>
    refine Or.inr (Or.inl ?_)
    rw [callStep] at taken
    split at taken
    · rename_i enabled
      rw [Bool.not_eq_true'] at enabled
      obtain ⟨call, found, equal⟩ := Option.map_eq_some_iff.mp taken
      obtain ⟨object, named⟩ := Option.filter_eq_some_iff.mp found
      simp only [Prod.mk.injEq] at equal
      exact ⟨request, call, rfl, enabled, object, by simpa using named, equal.1.symm,
        equal.2.symm⟩
    · exact absurd taken (by simp)
  | shut =>
    simp only [callStep, Option.some.injEq, Prod.mk.injEq] at taken
    exact Or.inr (Or.inr (Or.inl ⟨rfl, taken.1.symm, taken.2.symm⟩))
  | wedge =>
    simp only [callStep, Option.some.injEq, Prod.mk.injEq] at taken
    exact Or.inr (Or.inr (Or.inr ⟨rfl, taken.1.symm, taken.2.symm⟩))

/-- A handler leaves an accepted call settled, or gone when it took its last tag. -/
theorem Settled.returned {view : CallView} {call : SvCall} {log : List CallObs}
    (settled : Settled view call log) (unlocked : view.wedged = false) {op : SvOp}
    (outstanding : op ∈ view.cell.tags) (delivery : Delivery) (nextId : Nat) :
    Phase
      { view with cell := (handleTag view.shutting nextId op delivery call view.cell.tags).1 }
      (log ++ (handleTag view.shutting nextId op delivery call view.cell.tags).2) := by
  have ledger := settled.ledger.runCall outstanding view.shutting nextId delivery
  have undeleted : deletions (log ++ [.returned op delivery.ok delivery.message] ++
      (runCall view.shutting nextId op delivery call).2) = 0 := by
    rw [deletions_append, deletions_append, settled.kept,
      deletions_of_isAct (isAct_runCall _ _ _ _ _)]
    simp [deletions]
  have notAccept : op ≠ .accept := by
    rintro rfl
    exact settled.ledger.accept_not_mem outstanding
  have regroup (tail : List CallObs) : log ++ (.returned op delivery.ok delivery.message ::
      (runCall view.shutting nextId op delivery call).2 ++ tail) =
      log ++ [.returned op delivery.ok delivery.message] ++
        (runCall view.shutting nextId op delivery call).2 ++ tail := by
    simp
  unfold handleTag
  simp only [freed, beq_eq_false_iff_ne.mpr notAccept, Bool.false_and, Bool.not_false,
    Bool.true_and, beq_iff_eq]
  rw [regroup]
  by_cases last : (runCall view.shutting nextId op delivery call).1.pending = 0
  · have empty := ledger.pending
    rw [last] at empty
    refine .gone ?_ ?_ ?_
    · simp only [if_pos last, Cell.mk.injEq, true_and]
      exact List.length_eq_zero_iff.mp (by omega)
    · rw [if_pos last, deletions_append, undeleted]
      simp [deletions]
    · rw [if_pos last]
      exact lawful_append_of_silent ledger.lawful fun _ => rfl
  · rw [if_neg last, if_neg last, List.append_nil]
    refine .live _ rfl ⟨ledger, ?_, undeleted, ?_, ?_⟩
    · intro empty
      exact last (ledger.pending.trans
        (congrArg (fun tags : List SvOp => (tags.length : Int)) empty))
    · intro running alive waiting
      have pumped := pumped_runCall settled.ledger outstanding nextId delivery
        (settled.flows running)
        (fun alive replied => by simpa [unlocked] using settled.answers running alive replied)
      rw [running] at alive waiting ⊢
      exact pumped.flows alive waiting
    · intro running alive replied
      have pumped := pumped_runCall settled.ledger outstanding nextId delivery
        (settled.flows running)
        (fun alive replied => by simpa [unlocked] using settled.answers running alive replied)
      rw [running] at alive replied ⊢
      rcases pumped.answers alive replied with inflight | posted
      · exact Or.inl inflight
      · exact Or.inr (Or.inl posted)

/-- A matched accept slot becomes a settled call; a slot that comes back unmatched is gone. -/
theorem phase_slot_returned (view : CallView) (delivery : Delivery) (nextId : Nat) :
    Phase
      { view with cell := (handleTag view.shutting nextId .accept delivery newSlot [.accept]).1 }
      ([.posted .requestCall] ++
        (handleTag view.shutting nextId .accept delivery newSlot [.accept]).2) := by
  cases matched : delivery.ok with
  | false =>
    have handled : handleTag view.shutting nextId .accept delivery newSlot [.accept] =
        (⟨none, []⟩, [.returned .accept false delivery.message, .deleted]) := by
      simp [handleTag, runCall, runAccept, matched, freed, newSlot, doneTag]
    rw [handled]
    exact .gone rfl rfl (lawful_append_of_silent lawful_requestCall fun _ => rfl)
  | true =>
    have ledger := ledger_runAccept view.shutting nextId delivery matched
    have undeleted :=
      deletions_of_isAct (isAct_runCall view.shutting nextId .accept delivery newSlot)
    have handled : handleTag view.shutting nextId .accept delivery newSlot [.accept] =
        (⟨some (runCall view.shutting nextId .accept delivery newSlot).1,
            [.done] ++ postedTags (runCall view.shutting nextId .accept delivery newSlot).2⟩,
          .returned .accept true delivery.message ::
            (runCall view.shutting nextId .accept delivery newSlot).2) := by
      simp [handleTag, matched, freed, doneTag]
    rw [handled]
    refine .live _ rfl ⟨ledger, ?_, ?_, ?_, ?_⟩
    · simp
    · rw [deletions_append]
      simpa [deletions] using undeleted
    · intro running _ waiting
      refine absurd ?_ waiting
      rw [runCall_accept _ _ _ matched, if_neg (Bool.eq_false_iff.mp running)]
    · intro running _ replied
      rw [runCall_accept _ _ _ matched, if_neg (Bool.eq_false_iff.mp running)] at replied
      exact absurd replied Bool.false_ne_true

/-- A request of R leaves an accepted call settled. -/
theorem Settled.answered {view : CallView} {call : SvCall} {log : List CallObs}
    (settled : Settled view call log) (unlocked : view.wedged = false) (request : RCall) :
    Phase
      { view with
        cell := answeredCell (request.answer view.shutting call) view.cell.tags
        wedged := (request.answer view.shutting call).raised }
      (log ++ (request.answer view.shutting call).obs) := by
  have ledger := settled.ledger.answer view.shutting request
  refine .live _ rfl ⟨ledger, ?_, ?_, ?_, ?_⟩
  · intro empty
    exact settled.busy (List.append_eq_nil_iff.mp empty).1
  · rw [deletions_append, settled.kept, deletions_answer]
  · intro running alive waiting
    have pumped := pumped_answer settled.ledger request (settled.flows running)
      (fun alive replied => by simpa [unlocked] using settled.answers running alive replied)
    rw [running] at alive waiting ⊢
    rcases pumped with pumped | ⟨-, flows⟩
    · exact pumped.flows alive waiting
    · exact flows waiting
  · intro running alive replied
    have pumped := pumped_answer settled.ledger request (settled.flows running)
      (fun alive replied => by simpa [unlocked] using settled.answers running alive replied)
    rw [running] at alive replied ⊢
    rcases pumped with pumped | ⟨raised, -⟩
    · rcases pumped.answers alive replied with inflight | posted
      · exact Or.inl inflight
      · exact Or.inr (Or.inl posted)
    · exact Or.inr (Or.inr raised)

/-! ### Runs of one call -/

theorem Phase.step {view after : CallView} {log news : List CallObs} {input : CallInput}
    (phase : Phase view log) (taken : callStep view input = some (after, news)) :
    Phase after (log ++ news) := by
  rcases callStep_cases taken with
    ⟨op, delivery, nextId, call, -, unlocked, outstanding, object, rfl, rfl⟩ |
    ⟨request, call, -, unlocked, object, named, rfl, rfl⟩ | ⟨-, rfl, rfl⟩ | ⟨-, rfl, rfl⟩
  · cases phase with
    | slot cell opened =>
      rw [cell] at object outstanding ⊢
      obtain rfl := Option.some.inj object
      obtain rfl := List.mem_singleton.mp outstanding
      rw [opened]
      exact phase_slot_returned view delivery nextId
    | live other same settled =>
      obtain rfl := Option.some.inj (object.symm.trans same)
      exact settled.returned unlocked outstanding delivery nextId
    | gone cell deleted lawful =>
      rw [cell] at outstanding
      exact absurd outstanding (List.not_mem_nil)
  · cases phase with
    | slot cell opened =>
      rw [cell] at object
      obtain rfl := Option.some.inj object
      exact absurd rfl named
    | live other same settled =>
      obtain rfl := Option.some.inj (object.symm.trans same)
      exact settled.answered unlocked request
    | gone cell deleted lawful =>
      rw [cell] at object
      exact absurd object (by simp)
  · rw [List.append_nil]
    cases phase with
    | slot cell opened => exact .slot cell opened
    | live call object settled =>
      refine .live call object ⟨settled.ledger, settled.busy, settled.kept, ?_, ?_⟩
      · exact fun running => absurd running.symm Bool.false_ne_true
      · exact fun running => absurd running.symm Bool.false_ne_true
    | gone cell deleted lawful => exact .gone cell deleted lawful
  · rw [List.append_nil]
    cases phase with
    | slot cell opened => exact .slot cell opened
    | live call object settled =>
      exact .live call object ⟨settled.ledger, settled.busy, settled.kept, settled.flows,
        fun _ _ _ => Or.inr (Or.inr rfl)⟩
    | gone cell deleted lawful => exact .gone cell deleted lawful

/-- Every run of one call leaves it a slot, settled, or gone. -/
theorem phase_of_run {view : CallView} {log : List CallObs}
    {allowed : CallView → CallInput → Prop} (run : callMachine.Run allowed view log) :
    Phase view log :=
  run.invariant (.slot rfl rfl) fun _ phase _ taken => phase.step taken

/-- A call that is still there has a tag outstanding, and its count of pending tags is right. -/
theorem Phase.pending {view : CallView} {log : List CallObs} (phase : Phase view log)
    {call : SvCall} (object : view.cell.object = some call) :
    call.pending = view.cell.tags.length ∧ view.cell.tags ≠ [] := by
  cases phase with
  | slot cell opened =>
    rw [cell] at object ⊢
    obtain rfl := Option.some.inj object
    exact ⟨rfl, by simp⟩
  | live other same settled =>
    obtain rfl := Option.some.inj (object.symm.trans same)
    exact ⟨settled.ledger.pending, settled.busy⟩
  | gone cell deleted lawful =>
    rw [cell] at object
    exact absurd object (by simp)

/-- A call with a tag outstanding is still there. -/
theorem Phase.object_of_mem {view : CallView} {log : List CallObs} (phase : Phase view log)
    {op : SvOp} (outstanding : op ∈ view.cell.tags) : ∃ call, view.cell.object = some call := by
  cases phase with
  | slot cell opened => exact ⟨newSlot, by rw [cell]⟩
  | live call object settled => exact ⟨call, object⟩
  | gone cell deleted lawful =>
    rw [cell] at outstanding
    exact absurd outstanding (List.not_mem_nil)

/-- Every operation of a call was posted by the rules. -/
theorem Phase.lawful {view : CallView} {log : List CallObs} (phase : Phase view log) :
    Lawful Disciplined log := by
  cases phase with
  | slot cell opened =>
    rw [opened]
    exact lawful_requestCall
  | live call object settled => exact settled.ledger.lawful
  | gone cell deleted lawful => exact lawful

end Rgrpc.Server
