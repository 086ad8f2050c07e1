/-
This file is about requests R was handed and never answered. Such a request is
closed by its `cancelled` event, which the completion loop pushes when the done
tag comes back and finds the call handed over and unanswered. There is one way
around it: the done tag comes back first, and the first read, which hands the
call over, after it. R then holds a request that is gone.
-/

import Rgrpc.Server.Events

namespace Rgrpc.Server

open Library

/-! ### One call -/

/-- A request that was handed over and not answered is closed, or its done tag is outstanding. -/
def Closing (cell : Cell SvCall SvOp) (log : List CallObs) : Prop :=
  kinds log ≠ [] → terminals log = [] → .cancelled ∈ kinds log ∨ .done ∈ cell.tags

/-- Nothing is pushed or accepted, and the done tag stays where it is. -/
theorem Closing.note {cell after : Cell SvCall SvOp} {log obs : List CallObs}
    (closing : Closing cell log) (silent : pushedEvents obs = [])
    (kept : .done ∈ cell.tags → .done ∈ after.tags) : Closing after (log ++ obs) := by
  intro begun unanswered
  rw [kinds_append, kinds_eq_nil silent, List.append_nil] at begun ⊢
  rw [terminals_append, List.append_eq_nil_iff] at unanswered
  exact (closing begun unanswered.1).imp id kept

/-- A first read that brings a message comes back while the done tag is outstanding. -/
theorem closing_handleTag {view : CallView} {log : List CallObs} (phase : Phase view log)
    (outflow : Outflow view log) (storied : Storied view log) (unlocked : view.wedged = false)
    (closing : Closing view.cell log) {op : SvOp} {delivery : Delivery} {call : SvCall}
    (nextId : Nat) (outstanding : op ∈ view.cell.tags) (object : view.cell.object = some call)
    (inTime : op = .read → delivery.ok = true → call.dead = false → call.delivered = false →
      .done ∈ view.cell.tags) :
    Closing (handleTag view.shutting nextId op delivery call view.cell.tags).1
      (log ++ (handleTag view.shutting nextId op delivery call view.cell.tags).2) := by
  have story := storied.story call object
  have ran := storied.returned phase outflow unlocked outstanding object nextId delivery
  have kept (other : op ≠ .done) (before : .done ∈ view.cell.tags) : .done ∈
      (handleTag view.shutting nextId op delivery call view.cell.tags).1.tags := by
    rw [handleTag]
    exact List.mem_append_left _ (List.mem_append_left _
      ((List.mem_erase_of_ne (Ne.symm other)).mpr before))
  intro begun unanswered
  rw [terminals_append, List.append_eq_nil_iff] at unanswered
  have output := outflow.output_of_unlocked unlocked object
  have silent : call.replied = false := by
    by_contra replied
    rw [Bool.not_eq_false] at replied
    obtain ⟨request, only, -⟩ := output.answered replied
    exact absurd (only.symm.trans unanswered.1) (by simp)
  cases delivered : call.delivered with
  | true =>
    by_cases last : op = .done
    · subst last
      have told : kinds (handleTag view.shutting nextId .done delivery call view.cell.tags).2 =
          [.cancelled] := by
        rw [kinds, (log_handleTag _ _ _ _ _ _).1]
        simp [runCall, runDone, delivered, silent, pushedEvents]
      rw [kinds_append, told]
      exact Or.inl (List.mem_append_right _ (List.mem_singleton.mpr rfl))
    · rcases closing (story.begun.mp delivered) unanswered.1 with ended | open_
      · rw [kinds_append]
        exact Or.inl (List.mem_append_left _ ended)
      · exact Or.inr (kept last open_)
  | false =>
    have handed := ran.begun.mpr begun
    rw [runCall_delivered, delivered, Bool.false_or] at handed
    simp only [Bool.and_eq_true, beq_iff_eq, Bool.not_eq_true'] at handed
    obtain ⟨⟨read, ok⟩, alive⟩ := handed
    exact Or.inr (kept (by simp [read]) (inTime read ok alive delivered))

/-! ### Runs of the server -/

/-- The steps that leave no request open: a first read that brings a message to a live call comes
back before the done tag of the call. -/
def closesInTime (server : RServer) : ServerInput → Bool
  | .returned address .read delivery =>
    !delivery.ok ||
      !((server.arena.cell address).object.any fun call => !call.dead && !call.delivered) ||
      (server.arena.cell address).tags.contains .done
  | _ => true

/-- As long as first reads come back in time, every request is closed or will be. -/
theorem closing_of_run {acceptWindow maxActive : Int} {wake : WakeHandle} {server : RServer}
    {log : List ServerObs}
    (run : (serverMachine acceptWindow maxActive wake).Run
      (fun server input => closesInTime server input = true) server log) (address : Nat) :
    Closing (server.arena.cell address) (callLog address log) := by
  induction run with
  | start =>
    obtain ⟨count, created, -⟩ := postAcceptsLocked_eq { acceptWindow, maxActive, wake }
    intro begun
    refine absurd ?_ begun
    show kinds (callLog address (createServer acceptWindow maxActive wake).2) = []
    rw [createServer, created, callLog_withSlots]
    split <;> rfl
  | @next state after log news input before inTime taken inductionHypothesis =>
    have sound := sound_of_run before
    rcases sound.step_cases taken with
      ⟨other, op, delivery, call, rfl, unlocked, outstanding, object, equal⟩ |
      ⟨id, request, other, call, rfl, opened, unlocked, found, object, rfl, rfl⟩ |
      ⟨-, quiet⟩ | ⟨rfl, opened, unlocked, rfl, rfl⟩ | ⟨rfl, joining, idle, rfl, rfl⟩
    · by_cases allocated : address < state.arena.size
      · have handles := handles_handle object op delivery
        have cell := cell_handle op delivery object allocated
        rw [equal] at handles cell
        rw [callLog_append, handles.logged address allocated, cell]
        by_cases same : other = address
        · subst same
          rw [if_pos rfl, if_pos rfl]
          have run := sound.calls other allocated
          refine closing_handleTag (phase_of_run run) (outflow_of_run run) (storied_of_run run)
            unlocked inductionHypothesis state.nextId outstanding object ?_
          rintro rfl ok alive waiting
          rw [closesInTime, ok, object] at inTime
          have open_ : .done ∈ (state.arena.cell other).tags := by
            simpa [alive, waiting] using inTime
          exact open_
        · rw [if_neg same, if_neg same, List.append_nil]
          exact inductionHypothesis
      · have handles := handles_handle object op delivery
        rw [equal] at handles
        rw [callLog_append]
        refine inductionHypothesis.note ?_ ?_
        · refine List.eq_nil_iff_forall_not_mem.mpr fun event pushed => allocated ?_
          obtain rfl := handles.own address event (mem_of_pushedEvents_callLog pushed)
          exact Arena.lt_size_of_object object
        · intro absurdity
          exact absurd (Arena.lt_size_of_mem_tags absurdity) allocated
    · rw [callLog_append, callLog_answered]
      by_cases same : other = address
      · subst same
        rw [if_pos rfl, Arena.cell_set_self (Arena.lt_size_of_object object)]
        exact inductionHypothesis.note (pushedEvents_answer _ _ _)
          fun open_ => List.mem_append_left _ open_
      · rw [if_neg same, Arena.cell_set_of_ne same]
        exact inductionHypothesis.note rfl fun open_ => open_
    · rw [callLog_append, quiet.silent, quiet.same]
      exact inductionHypothesis.note rfl id
    · rw [List.append_nil]
      exact inductionHypothesis
    · rw [List.append_nil]
      exact inductionHypothesis

/-! ### Closed requests -/

/-- A call that left the table of active calls is gone. -/
theorem Numbered.gone_of_lookup {server : RServer} {log : List ServerObs}
    (sound : Sound server log) (numbered : Numbered server log) {id address : Nat}
    (held : holder log id = some address) (left : server.active.lookup id = none) :
    server.arena.cell address = ⟨none, []⟩ := by
  have absent : (server.arena.cell address).object = none := by
    by_contra present
    obtain ⟨call, object⟩ := Option.ne_none_iff_exists'.mp present
    have named : call.id ≠ 0 := by
      intro nameless
      have waiting := sound.nameless address call object nameless
      obtain ⟨message, member⟩ := exists_holder_iff.mp ⟨id, held⟩
      rw [(sound.slot_of_accept waiting).2] at member
      exact absurd member (by simp)
    have same := holder_injective numbered.nodup held
      (numbered.named address call object named)
    rw [same, sound.listed address call object named] at left
    exact absurd left (by simp)
  cases sound.phase (sound.lt_size_of_holder held) with
  | slot cell opened =>
    rw [show server.arena.cell address = slotCell from cell] at absent
    exact absurd absent (by simp [slotCell])
  | live call object settled => exact absurd (absent.symm.trans object) (by simp)
  | gone cell deleted lawful => exact cell

end Rgrpc.Server
