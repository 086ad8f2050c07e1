/-
This file says what the end of a client stream tells R. The status event is
pushed when `Finish` comes back, with the status and the trailing metadata that
came with it. On a stream that no operation broke, R was handed every message
that arrived.
-/

import Rgrpc.Client.Flow
import Rgrpc.Client.Output

namespace Rgrpc.Client

open Library

/-! ### The status event -/

/-- An event that tells R the status that came with the last tag of a stream. -/
structure Reports (event : ClEvent) (delivery : Delivery) : Prop where
  status : event.status = delivery.status.code
  message : event.message = delivery.status.message
  trailingMd : event.trailingMd = delivery.trailingMd

theorem ended_of_pushed {obs : List StreamObs} {event : ClEvent} (pushed : .pushed event ∈ obs)
    (kind : event.kind = .status) : ended obs = true := by
  refine List.any_eq_true.mpr ⟨event, List.mem_filterMap.mpr ⟨_, pushed, rfl⟩, ?_⟩
  simp [kind]

/-- A status event is pushed only when `Finish` comes back, and tells R what came with it. -/
theorem reports_of_step {view after : StreamView} {input : StreamInput} {news : List StreamObs}
    (taken : streamStep view input = some (after, news)) {event : ClEvent}
    (pushed : .pushed event ∈ news) (kind : event.kind = .status) :
    ∃ delivery, input = .returned .finish delivery ∧ Reports event delivery := by
  have ending := ended_of_pushed pushed kind
  have unended {obs : List StreamObs} (pushes : Pushes [] obs) (same : news = obs) : False := by
    rw [same, pushes.ended] at ending
    exact Bool.false_ne_true ending
  rcases streamStep_cases taken with
    ⟨id, readCap, writeCap, stream, -, -, -, -, -, -, rfl⟩ |
    ⟨op, delivery, stream, rfl, -, -, -, rfl⟩ |
    ⟨stream, left, -, -, ⟨request, -, rfl⟩ | ⟨-, rfl⟩, -, rfl⟩ | ⟨-, -, rfl⟩ |
    ⟨stream, -, -, -, -, -, -, rfl⟩
  · exact absurd ending Bool.false_ne_true
  · by_cases last : op = .finish
    · subst last
      refine ⟨delivery, rfl, ?_⟩
      have ran : StreamObs.pushed event ∈ (runFinish delivery
          { stream with pending := stream.pending - 1 }).2 := by
        rw [handleTag, List.cons_append, List.mem_cons, List.mem_append] at pushed
        rcases pushed with absurdity | own | deleted
        · exact absurd absurdity (by simp)
        · exact own
        · split at deleted
          · exact absurd (List.mem_singleton.mp deleted) (by simp)
          · exact absurd deleted List.not_mem_nil
      obtain rfl := StreamObs.pushed.inj (List.mem_singleton.mp ran)
      exact ⟨rfl, rfl, rfl⟩
    · have ran := (pushes_runStream view.shutting stream delivery last).ended
      simp only [handleTag, List.cons_append] at ending
      change ended (_ ++ _) = true at ending
      rw [ended_append, ran, Bool.false_or] at ending
      split at ending <;> exact absurd ending Bool.false_ne_true
  · exact (unended (pushes_answer view.shutting stream request) rfl).elim
  · exact (unended (pushes_takeMessage view.shutting stream) rfl).elim
  · exact absurd pushed List.not_mem_nil
  · exact absurd ending Bool.false_ne_true

/-! ### A stream that nothing broke -/

/-- On a stream that nothing broke, R was handed every message that arrived. -/
theorem messages_of_unbroken {view : StreamView} {log : List StreamObs}
    (run : streamMachine.Run Machine.Free view log) (sane : broke log = false) :
    messages log = arrived log := by
  induction run with
  | start => rfl
  | @next view after log news input before permitted taken inductionHypothesis =>
  rw [broke_append, Bool.or_eq_false_iff] at sane
  rw [messages_append, arrived_append, inductionHypothesis sane.1]
  refine congrArg _ ?_
  rcases streamStep_cases taken with
    ⟨id, readCap, writeCap, stream, -, -, -, -, -, -, rfl⟩ |
    ⟨op, delivery, stream, -, -, object, -, rfl⟩ |
    ⟨stream, left, -, -, ⟨request, -, rfl⟩ | ⟨-, rfl⟩, -, rfl⟩ | ⟨-, -, rfl⟩ |
    ⟨stream, -, -, -, -, -, -, rfl⟩
  · rfl
  · obtain ⟨handed, came⟩ := inbound_handleTag view.shutting op delivery stream view.cell.tags
    have unbroken := ((lossless_of_run before).output stream object).broken.trans sane.1
    rw [handed, came, unbroken, Bool.not_false, Bool.and_true]
  · have pushes := pushes_answer view.shutting stream request
    exact pushes.messages.trans pushes.arrived.symm
  · have pushes := pushes_takeMessage view.shutting stream
    exact pushes.messages.trans pushes.arrived.symm
  · rfl
  · rfl

end Rgrpc.Client
