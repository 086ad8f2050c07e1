/-
This file proves the grammar of the events of a server call. R first hears of a
call by its `request`, then of what the peer sends and of room to write, and
last, if at all, that the call was cancelled; nothing follows that. Every
`grpc_read` that was granted is answered by one message or by one `client_done`,
as long as the call lives.

The handlers that push events look at three flags of the call. What ties them to
the log is that `delivered` is set by the `request` event, `replied` is set before
a terminal is accepted, and the one event that ends the sequence comes from the
done tag, of which there is only one.
-/

import Rgrpc.Server.Flow
import Rgrpc.Server.Handover
import Rgrpc.Server.Feed

namespace Rgrpc.Server

open Library

/-! ### The grammar -/

/-- What may follow a `request`: messages, ends of input and room to write in any order, and at
most one `cancelled`, last. -/
def continues : List SvEventType → Bool
  | [] => true
  | .request :: _ => false
  | .cancelled :: rest => rest.isEmpty
  | _ :: rest => continues rest

/-- The events of one call: none, or a `request` and what may follow it. -/
def grammatical : List SvEventType → Bool
  | [] => true
  | .request :: rest => continues rest
  | _ => false

theorem continues_append {kinds : List SvEventType} (whole : continues kinds = true)
    (open_ : .cancelled ∉ kinds) {kind : SvEventType} (later : kind ≠ .request) :
    continues (kinds ++ [kind]) = true := by
  induction kinds with
  | nil =>
    cases kind with
    | request => exact absurd rfl later
    | _ => rfl
  | cons first rest inductionHypothesis =>
    rw [List.mem_cons, not_or] at open_
    cases first with
    | request => exact absurd whole Bool.false_ne_true
    | cancelled => exact absurd rfl open_.1
    | _ => exact inductionHypothesis whole open_.2

/-- An open sequence of events goes on. -/
theorem grammatical_append {kinds : List SvEventType} (whole : grammatical kinds = true)
    (begun : kinds ≠ []) (open_ : .cancelled ∉ kinds) {kind : SvEventType}
    (later : kind ≠ .request) : grammatical (kinds ++ [kind]) = true := by
  cases kinds with
  | nil => exact absurd rfl begun
  | cons first rest =>
    cases first with
    | request =>
      rw [List.mem_cons, not_or] at open_
      exact continues_append whole open_.2 later
    | _ => exact absurd whole Bool.false_ne_true

/-! ### What a log says of its events -/

/-- The types of the events pushed, in order. -/
def kinds (log : List CallObs) : List SvEventType := (pushedEvents log).map SvEvent.type

/-- How many `grpc_read`s returned `TRUE`. -/
def granted (log : List CallObs) : Nat := log.count (.accepted .read)

/-- Whether an event answers a read of R: a message or the end of the input. -/
def SvEventType.isInput (kind : SvEventType) : Bool := kind == .streamMsg || kind == .clientDone

/-- How many messages and ends of input were pushed. -/
def inputs (log : List CallObs) : Nat := (kinds log).countP SvEventType.isInput

section Projections

variable (log more : List CallObs)

@[simp]
theorem kinds_append : kinds (log ++ more) = kinds log ++ kinds more := by
  simp [kinds]

@[simp]
theorem granted_append : granted (log ++ more) = granted log + granted more :=
  List.count_append

@[simp]
theorem inputs_append : inputs (log ++ more) = inputs log + inputs more := by
  simp [inputs]

end Projections

theorem kinds_eq_nil {obs : List CallObs} (silent : pushedEvents obs = []) : kinds obs = [] := by
  rw [kinds, silent, List.map_nil]

/-- Cancellation and room to write are reported only while no reply or finish was accepted. -/
def EventLaw (before : List CallObs) : CallObs → Prop
  | .pushed event =>
    event.type = .cancelled ∨ event.type = .streamWritable → terminals before = []
  | _ => True

theorem eventLaw_of_not_pushed {entry : CallObs} (silent : pushedEvents [entry] = [])
    (before : List CallObs) : EventLaw before entry := by
  cases entry with
  | pushed event => exact absurd silent (by simp [pushedEvents])
  | _ => trivial

theorem lawful_append_of_unpushed {log obs : List CallObs} (lawful : Lawful EventLaw log)
    (silent : pushedEvents obs = []) : Lawful EventLaw (log ++ obs) := by
  refine lawful.append fun before entry after equal => eventLaw_of_not_pushed ?_ _
  rw [equal, pushedEvents_append, List.append_eq_nil_iff] at silent
  rw [← List.singleton_append, pushedEvents_append, List.append_eq_nil_iff] at silent
  exact silent.2.1

/-! ### The events of a call -/

/-- The events of a call that is there, against its flags and tags. -/
structure Story (call : SvCall) (tags : List SvOp) (log : List CallObs) : Prop where
  grammar : grammatical (kinds log) = true
  begun : call.delivered = true ↔ kinds log ≠ []
  ends : .cancelled ∈ kinds log → call.dead = true ∧ .done ∉ tags
  named : ∀ event ∈ pushedEvents log, event.id = call.id
  bounded : inputs log ≤ granted log
  balanced : call.dead = false →
    granted log = inputs log + if call.readInflight && call.delivered then 1 else 0
  lawful : Lawful EventLaw log

/-- A change of a call that its events do not depend on; it may die. -/
structure Kept (call other : SvCall) : Prop where
  delivered : other.delivered = call.delivered
  dead : call.dead = true → other.dead = true
  reading : other.dead = false →
    (other.readInflight && other.delivered) = (call.readInflight && call.delivered)
  id : call.delivered = true → other.id = call.id

theorem Kept.alive {call other : SvCall} (kept : Kept call other) (alive : other.dead = false) :
    call.dead = false := by
  by_contra dead
  rw [Bool.not_eq_false] at dead
  exact absurd (alive.symm.trans (kept.dead dead)) Bool.false_ne_true

theorem Kept.trans {call other last : SvCall} (first : Kept call other)
    (second : Kept other last) : Kept call last where
  delivered := second.delivered.trans first.delivered
  dead := fun dead => second.dead (first.dead dead)
  reading := fun alive => (second.reading alive).trans (first.reading (second.alive alive))
  id := fun delivered => (second.id (first.delivered.trans delivered)).trans (first.id delivered)

section Story

variable {call other : SvCall} {tags left : List SvOp} {log obs : List CallObs}

/-- What pushes no event and grants no read. -/
theorem Story.note (story : Story call tags log) (kept : Kept call other)
    (silent : pushedEvents obs = []) (ungranted : granted obs = 0)
    (fewer : call.delivered = true → .done ∉ tags → .done ∉ left) :
    Story other left (log ++ obs) := by
  have same : kinds (log ++ obs) = kinds log := by
    rw [kinds_append, kinds_eq_nil silent, List.append_nil]
  have counted : inputs (log ++ obs) = inputs log := by rw [inputs, same, inputs]
  have grants : granted (log ++ obs) = granted log := by
    rw [granted_append, ungranted, Nat.add_zero]
  refine ⟨?_, ?_, ?_, ?_, ?_, ?_, lawful_append_of_unpushed story.lawful silent⟩
  · rw [same]
    exact story.grammar
  · rw [same, kept.delivered]
    exact story.begun
  · rw [same]
    intro ended
    have delivered := story.begun.mpr (List.ne_nil_of_mem ended)
    exact ⟨kept.dead (story.ends ended).1, fewer delivered (story.ends ended).2⟩
  · rw [pushedEvents_append, silent, List.append_nil]
    intro event member
    have delivered : call.delivered = true := by
      refine story.begun.mpr fun empty => ?_
      rw [kinds, List.map_eq_nil_iff] at empty
      rw [empty] at member
      exact absurd member List.not_mem_nil
    rw [kept.id delivered]
    exact story.named event member
  · rw [counted, grants]
    exact story.bounded
  · intro alive
    rw [counted, grants, kept.reading alive]
    exact story.balanced (kept.alive alive)

/-- A live call can still be told anything. -/
theorem Story.open_ (story : Story call tags log) (alive : call.dead = false) :
    .cancelled ∉ kinds log :=
  fun ended => absurd (alive.symm.trans (story.ends ended).1) Bool.false_ne_true

/-- An event is pushed for a call R was handed. -/
theorem Story.push (story : Story call tags log) (delivered : call.delivered = true)
    (open_ : .cancelled ∉ kinds log) {event : SvEvent} (named : event.id = call.id)
    (later : event.type ≠ .request)
    (same : other.delivered = call.delivered ∧ other.id = call.id)
    (ends : event.type = .cancelled → other.dead = true ∧ .done ∉ left)
    (bounded : inputs (log ++ [.pushed event]) ≤ granted log)
    (balanced : other.dead = false → granted log = inputs (log ++ [.pushed event]) +
      if other.readInflight && other.delivered then 1 else 0)
    (law : EventLaw log (.pushed event)) : Story other left (log ++ [.pushed event]) := by
  have kind : kinds [.pushed event] = [event.type] := rfl
  have grants : granted (log ++ [.pushed event]) = granted log := by
    rw [granted_append]
    rfl
  refine ⟨?_, ?_, ?_, ?_, ?_, ?_, lawful_append_singleton.mpr ⟨story.lawful, law⟩⟩
  · rw [kinds_append, kind]
    exact grammatical_append story.grammar (story.begun.mp delivered) open_ later
  · rw [same.1, kinds_append, kind]
    exact ⟨fun _ => by simp, fun _ => delivered⟩
  · rw [kinds_append, kind]
    intro ended
    rcases List.mem_append.mp ended with before | last
    · exact absurd before open_
    · exact ends (List.mem_singleton.mp last).symm
  · rw [pushedEvents_append, same.2]
    intro pushed member
    rcases List.mem_append.mp member with before | last
    · exact story.named pushed before
    · rw [List.mem_singleton.mp last]
      exact named
  · rw [grants]
    exact bounded
  · rw [grants]
    exact balanced

/-- The first event of a call is its `request`. -/
theorem Story.begin_ (story : Story call tags log) (waiting : call.delivered = false)
    (alive : call.dead = false) {event : SvEvent} (kind : event.type = .request)
    (named : event.id = other.id) (delivered : other.delivered = true)
    (idle : other.readInflight = false) :
    Story other left (log ++ [.pushed event]) := by
  have silent : kinds log = [] := by
    by_contra some
    exact absurd (waiting.symm.trans (story.begun.mpr some)) Bool.false_ne_true
  have first : kinds (log ++ [.pushed event]) = [.request] := by
    rw [kinds_append, silent, ← kind]
    rfl
  have nothing : pushedEvents log = [] := List.map_eq_nil_iff.mp silent
  have none : inputs (log ++ [.pushed event]) = 0 := by
    rw [inputs, first]
    rfl
  have ungranted : granted (log ++ [.pushed event]) = 0 := by
    have balanced := story.balanced alive
    rw [waiting, Bool.and_false, if_neg Bool.false_ne_true, inputs, silent] at balanced
    rw [granted_append, balanced]
    rfl
  refine ⟨?_, ?_, ?_, ?_, ?_, ?_, lawful_append_singleton.mpr ⟨story.lawful, ?_⟩⟩
  · rw [first]
    rfl
  · rw [first, delivered]
    simp
  · rw [first]
    simp
  · rw [pushedEvents_append, nothing]
    intro pushed member
    rw [List.mem_singleton.mp member]
    exact named
  · rw [none]
    exact Nat.zero_le _
  · intro _
    rw [none, ungranted, idle]
    rfl
  · rintro (ended | writable)
    · exact absurd (kind.symm.trans ended) (by simp)
    · exact absurd (kind.symm.trans writable) (by simp)

end Story

/-! ### Handlers -/

theorem silent_pumpLocked (shutting : Bool) (call : SvCall) :
    pushedEvents (pumpLocked shutting call).2 = [] ∧ granted (pumpLocked shutting call).2 = 0 ∧
      Kept call (pumpLocked shutting call).1 := by
  rcases pumpLocked_cases shutting call with
    ⟨same, -⟩ | ⟨-, -, -, -, ⟨front, rest, -, same⟩ | ⟨-, -, same⟩⟩ <;>
  · rw [same]
    exact ⟨rfl, rfl, rfl, id, fun _ => rfl, fun _ => rfl⟩

theorem granted_acceptAndPump (shutting : Bool) {request : RCall} (other : request ≠ .read)
    (call : SvCall) : granted (acceptAndPump shutting request call).obs = 0 := by
  obtain ⟨-, ungranted, -⟩ := silent_pumpLocked shutting call
  rw [granted, acceptAndPump, List.count_cons, ← granted, ungranted]
  simp [other]

section Handlers

variable {call : SvCall} {tags left : List SvOp} {log : List CallObs}

/-- The answer to a read: a message or the end of the input. -/
theorem Story.input (story : Story call tags log) (inflight : call.readInflight = true)
    (alive : call.dead = false) (delivered : call.delivered = true) (event : SvEvent)
    (named : event.id = call.id) (kind : event.type = .streamMsg ∨ event.type = .clientDone)
    {other : SvCall} (same : other.delivered = call.delivered ∧ other.id = call.id)
    (idle : other.readInflight = false) : Story other left (log ++ [.pushed event]) := by
  have answers : granted log = inputs log + 1 := by
    have balanced := story.balanced alive
    rw [inflight, delivered] at balanced
    exact balanced
  have one : inputs (log ++ [.pushed event]) = inputs log + 1 := by
    rw [inputs_append]
    rcases kind with message | done
    · simp [inputs, kinds, pushedEvents, SvEventType.isInput, message]
    · simp [inputs, kinds, pushedEvents, SvEventType.isInput, done]
  have apart (other : SvEventType) (message : other ≠ .streamMsg) (done : other ≠ .clientDone) :
      event.type ≠ other := by
    rintro rfl
    exact kind.elim message done
  refine story.push delivered (story.open_ alive) named (apart _ (by simp) (by simp)) same
    (fun ended => absurd ended (apart _ (by simp) (by simp))) ?_ ?_ ?_
  · rw [one, answers]
  · intro _
    rw [one, answers, idle]
    rfl
  · rintro (ended | writable)
    · exact absurd ended (apart _ (by simp) (by simp))
    · exact absurd writable (apart _ (by simp) (by simp))

theorem Story.runRead (story : Story call tags log) (delivery : Delivery)
    (inflight : call.readInflight = true) (fewer : .done ∉ tags → .done ∉ left) :
    Story (runRead delivery { call with pending := call.pending - 1 }).1 left
      (log ++ (runRead delivery { call with pending := call.pending - 1 }).2) := by
  have dropped (dead : call.dead = true ∨ call.delivered = false) {other : SvCall}
      (same : other.delivered = call.delivered ∧ other.id = call.id)
      (kept : call.dead = true → other.dead = true) : Story other left (log ++ []) := by
    refine story.note ⟨same.1, kept, fun alive => ?_, fun _ => same.2⟩ rfl rfl fun _ => fewer
    rcases dead with dead | waiting
    · exact absurd (alive.symm.trans (kept dead)) Bool.false_ne_true
    · rw [same.1, waiting, Bool.and_false, Bool.and_false]
  unfold Server.runRead
  simp only
  split
  · rename_i succeeded
    simp only [Bool.and_eq_true, Bool.not_eq_true'] at succeeded
    split
    · rename_i waiting
      rw [Bool.not_eq_true'] at waiting
      exact story.begin_ waiting succeeded.2 rfl rfl rfl rfl
    · rename_i delivered
      rw [Bool.not_eq_true, Bool.not_eq_false'] at delivered
      refine story.input inflight succeeded.2 delivered _ ?_ (Or.inl ?_) ⟨?_, ?_⟩ ?_ <;> rfl
  · split
    · rename_i ended
      simp only [Bool.and_eq_true, Bool.not_eq_true'] at ended
      exact story.input inflight ended.2 ended.1 _ rfl (Or.inr rfl) ⟨rfl, rfl⟩ rfl
    · rename_i closed
      simp only [Bool.and_eq_true, Bool.not_eq_true', not_and, Bool.not_eq_false] at closed
      refine dropped ?_ ⟨rfl, rfl⟩ fun _ => rfl
      cases delivered : call.delivered with
      | true => exact Or.inl (closed delivered)
      | false => exact Or.inr rfl

theorem Story.runWrite (story : Story call tags log) (shutting : Bool) (delivery : Delivery)
    (delivered : call.delivered = true) (unanswered : call.replied = false → terminals log = [])
    (fewer : .done ∉ tags → .done ∉ left) :
    Story (runWrite shutting delivery { call with pending := call.pending - 1 }).1 left
      (log ++ (runWrite shutting delivery { call with pending := call.pending - 1 }).2) := by
  unfold Server.runWrite
  simp only
  split
  · rename_i succeeded
    simp only [Bool.and_eq_true, Bool.not_eq_true'] at succeeded
    have popped (notice : List CallObs)
        (story : Story { call with
          pending := call.pending - 1, writeInflight := false
          writeQueue := call.writeQueue.tail } left (log ++ notice)) :
        Story (pumpLocked shutting { call with
          pending := call.pending - 1, writeInflight := false
          writeQueue := call.writeQueue.tail }).1 left
          (log ++ (notice ++ (pumpLocked shutting { call with
            pending := call.pending - 1, writeInflight := false
            writeQueue := call.writeQueue.tail }).2)) := by
      obtain ⟨silent, ungranted, kept⟩ := silent_pumpLocked shutting { call with
        pending := call.pending - 1, writeInflight := false
        writeQueue := call.writeQueue.tail }
      rw [← List.append_assoc]
      exact story.note kept silent ungranted fun _ => id
    refine popped _ ?_
    split
    · rename_i drained
      simp only [Bool.and_eq_true, Bool.not_eq_true'] at drained
      have none : inputs (log ++ [.pushed { type := .streamWritable, id := call.id }]) =
          inputs log := by
        rw [inputs_append]
        rfl
      refine story.push delivered (story.open_ succeeded.2) rfl (by simp) ⟨rfl, rfl⟩ (by simp)
        ?_ ?_ fun _ => unanswered drained.2
      · rw [none]
        exact story.bounded
      · rw [none]
        exact story.balanced
    · exact story.note ⟨rfl, id, fun _ => rfl, fun _ => rfl⟩ rfl rfl fun _ => fewer
  · refine story.note ⟨rfl, fun _ => rfl, ?_, fun _ => rfl⟩ rfl rfl fun _ => fewer
    exact fun alive => absurd alive.symm Bool.false_ne_true

theorem Story.runDone (story : Story call tags log) (outstanding : .done ∈ tags)
    (unanswered : call.replied = false → terminals log = []) (spent : .done ∉ left) :
    Story (runDone { call with pending := call.pending - 1 }).1 left
      (log ++ (runDone { call with pending := call.pending - 1 }).2) := by
  unfold Server.runDone
  split
  · rename_i abandoned
    simp only [Bool.and_eq_true, Bool.not_eq_true'] at abandoned
    have none : inputs (log ++ [.pushed { type := .cancelled, id := call.id }]) =
        inputs log := by
      rw [inputs_append]
      rfl
    refine story.push abandoned.1 (fun ended => absurd outstanding (story.ends ended).2) rfl
      (by simp) ⟨rfl, rfl⟩ (fun _ => ⟨rfl, spent⟩) ?_ ?_ fun _ => unanswered abandoned.2
    · rw [none]
      exact story.bounded
    · exact fun alive => absurd alive.symm Bool.false_ne_true
  · exact story.note ⟨rfl, id, fun _ => rfl, fun _ => rfl⟩ rfl rfl fun _ _ => spent

/-- The events of a call survive the return of any tag of an accepted call. -/
theorem Story.runCall (story : Story call tags log) (ledger : Ledger call tags log)
    (unanswered : call.replied = false → terminals log = []) {op : SvOp}
    (outstanding : op ∈ tags) (shutting : Bool) (nextId : Nat) (delivery : Delivery) :
    Story (runCall shutting nextId op delivery call).1
      (tags.erase op ++ doneTag op delivery.ok ++
        postedTags (runCall shutting nextId op delivery call).2)
      (log ++ [.returned op delivery.ok delivery.message] ++
        (runCall shutting nextId op delivery call).2) := by
  have returned : Story call tags (log ++ [.returned op delivery.ok delivery.message]) :=
    story.note ⟨rfl, id, fun _ => rfl, fun _ => rfl⟩ rfl rfl fun _ => id
  have silent : call.replied = false →
      terminals (log ++ [.returned op delivery.ok delivery.message]) = [] := by
    intro pending
    rw [terminals_append, unanswered pending]
    rfl
  have accepted : op ≠ .accept := by
    rintro rfl
    exact ledger.accept_not_mem outstanding
  have fewer (posted : List CallObs) : .done ∉ tags.erase op →
      .done ∉ tags.erase op ++ doneTag op delivery.ok ++ postedTags posted := by
    intro absent
    simp [absent, doneTag, accepted, done_not_mem_postedTags]
  cases op with
  | accept => exact absurd rfl accepted
  | read =>
    exact returned.runRead delivery (ledger.readInflight_of_mem outstanding)
      fun absent => fewer _ fun left => absent (List.mem_of_mem_erase left)
  | write =>
    refine returned.runWrite shutting delivery ?_ silent
      fun absent => fewer _ fun left => absent (List.mem_of_mem_erase left)
    by_contra waiting
    rw [Bool.not_eq_true] at waiting
    exact ledger.queued (ledger.writeInflight_of_mem outstanding) (ledger.handed waiting).2
  | done =>
    refine returned.runDone outstanding silent (fewer _ fun left => ?_)
    have one := ledger.done
    have more := List.count_pos_iff.mpr left
    rw [List.count_erase_self] at more
    omega
  | finish =>
    exact returned.note ⟨rfl, id, fun _ => rfl, fun _ => rfl⟩ rfl rfl
      fun _ absent => fewer _ fun left => absent (List.mem_of_mem_erase left)

/-- A matched accept tells R nothing. -/
theorem story_runAccept (story : Story newSlot tags log) (shutting : Bool) (nextId : Nat)
    (delivery : Delivery) :
    Story (runCall shutting nextId .accept delivery newSlot).1 left
      (log ++ [.returned .accept delivery.ok delivery.message] ++
        (runCall shutting nextId .accept delivery newSlot).2) := by
  rw [List.append_assoc]
  have fresh (other : SvCall) (waiting : other.delivered = false) (obs : List CallObs)
      (silent : pushedEvents obs = []) (ungranted : granted obs = 0) :
      Story other left (log ++ obs) :=
    story.note ⟨waiting, fun absurdity => absurd absurdity Bool.false_ne_true,
      fun _ => by rw [waiting, Bool.and_false]; rfl,
      fun absurdity => absurd absurdity Bool.false_ne_true⟩ silent ungranted
      fun absurdity => absurd absurdity Bool.false_ne_true
  cases matched : delivery.ok with
  | true =>
    rw [runCall_accept _ _ _ matched]
    split
    · exact fresh _ rfl _ rfl rfl
    · exact fresh _ rfl _ rfl rfl
  | false =>
    have same : runCall shutting nextId .accept delivery newSlot =
        ({ newSlot with pending := 0 }, []) := by
      simp [runCall, runAccept, matched, newSlot]
    rw [same]
    exact fresh _ rfl _ rfl rfl

end Handlers

/-! ### Requests of R -/

/-- The events of a call survive every request of R. -/
theorem Story.answer {call : SvCall} {tags : List SvOp} {log : List CallObs}
    (story : Story call tags log) (shutting : Bool) (request : RCall) :
    Story (request.answer shutting call).call
      (tags ++ postedTags (request.answer shutting call).obs)
      (log ++ (request.answer shutting call).obs) := by
  have fewer (obs : List CallObs) : call.delivered = true → .done ∉ tags →
      .done ∉ tags ++ postedTags obs := by
    intro _ absent
    simp [absent, done_not_mem_postedTags]
  have kept (other : SvCall) (same : Kept call other) (obs : List CallObs)
      (silent : pushedEvents obs = []) (ungranted : granted obs = 0) :
      Story other (tags ++ postedTags obs) (log ++ obs) :=
    story.note same silent ungranted (fewer obs)
  have pumps (asked : RCall) (reading : asked ≠ .read) (other : SvCall)
      (same : Kept call other) :
      Story (acceptAndPump shutting asked other).call
        (tags ++ postedTags (acceptAndPump shutting asked other).obs)
        (log ++ (acceptAndPump shutting asked other).obs) := by
    obtain ⟨silent, -, pumped⟩ := silent_pumpLocked shutting other
    exact kept _ (same.trans pumped) _ silent (granted_acceptAndPump shutting reading other)
  rcases answer_cases shutting request call with
    same | ⟨-, delivered, alive, idle, -, same⟩ | ⟨-, -, same⟩ | ⟨bytes, -, -, -, -, -, same⟩ |
    ⟨terminal, -, -, -, same | ⟨trailing, hasFinalWrite, error, same⟩⟩
  · rw [same]
    exact kept call ⟨rfl, id, fun _ => rfl, fun _ => rfl⟩ [] rfl rfl
  · rw [same]
    have grants : granted (log ++ [.accepted .read, .posted .read]) = granted log + 1 := by
      rw [granted_append]
      rfl
    have none : kinds (log ++ [.accepted .read, .posted .read]) = kinds log := by
      rw [kinds_append]
      exact List.append_nil _
    have counted : inputs (log ++ [.accepted .read, .posted .read]) = inputs log := by
      rw [inputs, none, inputs]
    have balanced := story.balanced alive
    rw [idle, Bool.false_and, if_neg Bool.false_ne_true, Nat.add_zero] at balanced
    refine ⟨?_, ?_, ?_, ?_, ?_, ?_, lawful_append_of_unpushed story.lawful rfl⟩
    · rw [none]
      exact story.grammar
    · rw [none]
      exact story.begun
    · rw [none]
      exact fun ended => absurd ended (story.open_ alive)
    · rw [pushedEvents_append]
      simpa [pushedEvents] using story.named
    · rw [counted, grants, balanced]
      exact Nat.le_succ _
    · intro _
      rw [counted, grants, balanced, delivered]
      rfl
  · rw [same]
    exact kept call ⟨rfl, id, fun _ => rfl, fun _ => rfl⟩ [.accepted .cancel] rfl rfl
  · rw [same]
    exact pumps _ (by simp) _ ⟨rfl, id, fun _ => rfl, fun _ => rfl⟩
  · rw [same]
    refine pumps _ ?_ _ ⟨rfl, id, fun _ => rfl, fun _ => rfl⟩
    rintro rfl
    exact absurd terminal Bool.false_ne_true
  · rw [same]
    exact kept (call.halfArmed request trailing hasFinalWrite)
      ⟨rfl, id, fun _ => rfl, fun _ => rfl⟩ [] rfl rfl

/-! ### Runs of one call -/

/-- The events of a call that may be gone. -/
structure Storied (view : CallView) (log : List CallObs) : Prop where
  grammar : grammatical (kinds log) = true
  bounded : inputs log ≤ granted log
  lawful : Lawful EventLaw log
  story : ∀ call, view.cell.object = some call → Story call view.cell.tags log

theorem Story.storied {view : CallView} {call : SvCall} {tags : List SvOp} {log : List CallObs}
    (story : Story call tags log)
    (present : ∀ found, view.cell.object = some found → Story found view.cell.tags log) :
    Storied view log :=
  ⟨story.grammar, story.bounded, story.lawful, present⟩

theorem story_newSlot : Story newSlot [.accept] [.posted .requestCall] where
  grammar := rfl
  begun := by simp [newSlot, kinds, pushedEvents]
  ends := by simp [kinds, pushedEvents]
  named := by simp [pushedEvents]
  bounded := Nat.zero_le _
  balanced := fun _ => rfl
  lawful := lawful_append_of_unpushed (lawful_nil _) rfl

/-- The events of a call after the return of one of its tags, whether or not the call is kept. -/
theorem Storied.returned {view : CallView} {log : List CallObs} (storied : Storied view log)
    (phase : Phase view log) (outflow : Outflow view log) (unlocked : view.wedged = false)
    {op : SvOp} (outstanding : op ∈ view.cell.tags) {call : SvCall}
    (object : view.cell.object = some call) (nextId : Nat) (delivery : Delivery) :
    Story (runCall view.shutting nextId op delivery call).1
      (handleTag view.shutting nextId op delivery call view.cell.tags).1.tags
      (log ++ (handleTag view.shutting nextId op delivery call view.cell.tags).2) := by
  have story := storied.story call object
  have output := outflow.output_of_unlocked unlocked object
  have ran : Story (runCall view.shutting nextId op delivery call).1
      (view.cell.tags.erase op ++ doneTag op delivery.ok ++
        postedTags (runCall view.shutting nextId op delivery call).2)
      (log ++ [.returned op delivery.ok delivery.message] ++
        (runCall view.shutting nextId op delivery call).2) := by
    cases phase with
    | slot cell opened =>
      rw [cell] at outstanding object story
      obtain rfl := List.mem_singleton.mp outstanding
      obtain rfl := Option.some.inj object
      exact story_runAccept story view.shutting nextId delivery
    | live other found settled =>
      obtain rfl := Option.some.inj (object.symm.trans found)
      exact story.runCall settled.ledger (fun silent => (output.unanswered silent).1)
        outstanding view.shutting nextId delivery
    | gone cell deleted lawful =>
      rw [cell] at outstanding
      exact absurd outstanding List.not_mem_nil
  have ended (tail : List CallObs) (silent : pushedEvents tail = [])
      (ungranted : granted tail = 0) :
      Story (runCall view.shutting nextId op delivery call).1
        (view.cell.tags.erase op ++ doneTag op delivery.ok ++
          postedTags (runCall view.shutting nextId op delivery call).2)
        (log ++ (.returned op delivery.ok delivery.message ::
          (runCall view.shutting nextId op delivery call).2 ++ tail)) := by
    have noted := ran.note ⟨rfl, id, fun _ => rfl, fun _ => rfl⟩ silent ungranted fun _ => id
    simpa using noted
  rw [handleTag]
  simp only
  split
  · exact ended [.deleted] rfl rfl
  · exact ended [] rfl rfl

theorem Storied.step {view after : CallView} {log news : List CallObs} {input : CallInput}
    (phase : Phase view log) (outflow : Outflow view log) (storied : Storied view log)
    (taken : callStep view input = some (after, news)) : Storied after (log ++ news) := by
  rcases callStep_cases taken with
    ⟨op, delivery, nextId, call, -, unlocked, outstanding, object, rfl, rfl⟩ |
    ⟨request, call, -, unlocked, object, -, rfl, rfl⟩ | ⟨-, rfl, rfl⟩ | ⟨-, rfl, rfl⟩
  · have story := storied.returned phase outflow unlocked outstanding object nextId delivery
    refine story.storied fun found stored => ?_
    obtain rfl := eq_of_handleTag stored
    exact story
  · have story := (storied.story call object).answer view.shutting request
    refine story.storied fun found stored => ?_
    obtain rfl := Option.some.inj stored
    exact story
  · rw [List.append_nil]
    exact ⟨storied.grammar, storied.bounded, storied.lawful, storied.story⟩
  · rw [List.append_nil]
    exact ⟨storied.grammar, storied.bounded, storied.lawful, storied.story⟩

/-- The events of every call follow the grammar. -/
theorem storied_of_run {view : CallView} {log : List CallObs}
    {allowed : CallView → CallInput → Prop} (run : callMachine.Run allowed view log) :
    Storied view log := by
  refine run.invariant ?_ fun before storied _ taken =>
    storied.step (phase_of_run before) (outflow_of_run before) taken
  refine story_newSlot.storied fun found stored => ?_
  obtain rfl := Option.some.inj stored
  exact story_newSlot

end Rgrpc.Server
