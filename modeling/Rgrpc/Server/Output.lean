/-
This file proves what a server call puts on the wire. The messages passed to
`Write` are, in order, the messages R sent; a terminal that drains waits for all
of them, an abortive one gives up those that were not yet written, and the
terminal operation carries exactly what the accepted terminal asked for.

`Output` is the invariant of a call: what was written, followed by what still
waits unwritten, is what was sent. It holds as long as the call is not dead and
nothing was discarded; the log keeps what was written either way.
-/

import Rgrpc.Server.Discipline

namespace Rgrpc.Server

open Library

/-! ### What a log says was sent and written -/

/-- The messages passed to `Write`, in order. -/
def written (log : List CallObs) : List ByteBuffer :=
  log.filterMap fun
    | .posted (.write message) => some message
    | _ => none

/-- The messages of the sends that were accepted, in order. -/
def sent (log : List CallObs) : List ByteBuffer :=
  log.filterMap fun
    | .accepted (.send bytes) => some (.ofRaw bytes)
    | _ => none

/-- The replies and finishes that were accepted, in order. -/
def terminals (log : List CallObs) : List RCall :=
  log.filterMap fun
    | .accepted request => if request.isTerminal then some request else none
    | _ => none

/-- An abortive finish was accepted. -/
def aborted (log : List CallObs) : Bool := (terminals log).any RCall.aborts

section Projections

variable (log more : List CallObs)

@[simp]
theorem written_append : written (log ++ more) = written log ++ written more :=
  List.filterMap_append

@[simp]
theorem sent_append : sent (log ++ more) = sent log ++ sent more :=
  List.filterMap_append

@[simp]
theorem terminals_append : terminals (log ++ more) = terminals log ++ terminals more :=
  List.filterMap_append

end Projections

/-! ### The rules for output -/

/-- What must have happened on a call for an entry of its log to follow: a write takes the next
message sent, unless an abortive finish was accepted; a terminal operation is the one the
accepted terminal asked for and, unless that was abortive, follows the write of everything sent;
sends and terminals are accepted only while no terminal was. -/
def OutputLaw (before : List CallObs) : CallObs → Prop
  | .posted (.write message) =>
    aborted before = false ∧ written before ++ [message] <+: sent before
  | .posted (.writeAndFinish message status trailing) =>
    ∃ request, terminals before = [request] ∧
      request.terminalPost = .writeAndFinish message status trailing ∧
      (request.aborts = false → written before = sent before)
  | .posted (.finish status trailing) =>
    ∃ request, terminals before = [request] ∧ request.terminalPost = .finish status trailing ∧
      (request.aborts = false → written before = sent before)
  | .accepted (.send _) => terminals before = []
  | .accepted (.reply _) => terminals before = []
  | .accepted (.finish _) => terminals before = []
  | _ => True

/-- Whether an observation is about output: a write, a terminal operation, a send or a terminal
accepted. -/
def CallObs.speaks : CallObs → Bool
  | .posted (.write _) => true
  | .posted (.writeAndFinish _ _ _) => true
  | .posted (.finish _ _) => true
  | .accepted (.send _) => true
  | .accepted (.reply _) => true
  | .accepted (.finish _) => true
  | _ => false

theorem outputLaw_of_not_speaks {entry : CallObs} (silent : entry.speaks = false)
    (before : List CallObs) : OutputLaw before entry := by
  cases entry with
  | posted post =>
    cases post with
    | requestCall => trivial
    | read => trivial
    | _ => exact absurd silent.symm Bool.false_ne_true
  | accepted request =>
    cases request with
    | read => trivial
    | cancel => trivial
    | _ => exact absurd silent.symm Bool.false_ne_true
  | _ => trivial

/-- Observations that are not about output add nothing to what was written, sent or answered. -/
theorem projections_of_silent {obs : List CallObs} (silent : ∀ entry ∈ obs, entry.speaks = false) :
    written obs = [] ∧ sent obs = [] ∧ terminals obs = [] := by
  refine ⟨List.filterMap_eq_nil_iff.mpr ?_, List.filterMap_eq_nil_iff.mpr ?_,
    List.filterMap_eq_nil_iff.mpr ?_⟩
  · intro entry member
    have quiet := silent entry member
    split
    · exact absurd quiet.symm Bool.false_ne_true
    · rfl
  · intro entry member
    have quiet := silent entry member
    split
    · exact absurd quiet.symm Bool.false_ne_true
    · rfl
  · intro entry member
    have quiet := silent entry member
    split
    · rename_i request
      cases request with
      | read => rfl
      | cancel => rfl
      | _ => exact absurd quiet.symm Bool.false_ne_true
    · rfl

/-- What a log says of the output of its call, whatever became of the call. -/
structure Emitted (log : List CallObs) : Prop where
  single : (terminals log).length ≤ 1
  inOrder : written log <+: sent log
  lawful : Lawful OutputLaw log

/-- The messages a call has queued and not yet passed to `Write`. -/
def SvCall.unwritten (call : SvCall) : List ByteBuffer :=
  if call.writeInflight then call.writeQueue.tail else call.writeQueue

/-- The output of a call that is there, against its log: what waits unwritten completes what was
sent unless it was discarded, and the terminal armed on the call is the accepted one. -/
structure Output (call : SvCall) (log : List CallObs) : Prop where
  emitted : Emitted log
  whole : call.dead = false → aborted log = false →
    written log ++ call.unwritten = sent log
  discarded : call.dead = false → aborted log = true → call.unwritten = []
  unanswered : call.replied = false → terminals log = [] ∧ call.trailingMetadata = []
  answered : call.replied = true →
    ∃ request, terminals log = [request] ∧ call.terminalPost = request.terminalPost

/-! ### Changes that put nothing out -/

theorem aborted_append_of_silent (log : List CallObs) {obs : List CallObs}
    (silent : ∀ entry ∈ obs, entry.speaks = false) : aborted (log ++ obs) = aborted log := by
  rw [aborted, terminals_append, (projections_of_silent silent).2.2, List.append_nil, aborted]

theorem Emitted.note {log obs : List CallObs} (emitted : Emitted log)
    (silent : ∀ entry ∈ obs, entry.speaks = false) : Emitted (log ++ obs) := by
  obtain ⟨writtenNone, sentNone, terminalsNone⟩ := projections_of_silent silent
  refine ⟨?_, ?_, ?_⟩
  · rw [terminals_append, terminalsNone, List.append_nil]
    exact emitted.single
  · rw [written_append, sent_append, writtenNone, sentNone, List.append_nil, List.append_nil]
    exact emitted.inOrder
  · refine emitted.lawful.append fun before entry after equal => ?_
    exact outputLaw_of_not_speaks (silent entry (by rw [equal]; simp)) _

/-- What is not about output leaves the output of a call alone. -/
theorem Output.note {call : SvCall} {log : List CallObs} (output : Output call log)
    {obs : List CallObs} (silent : ∀ entry ∈ obs, entry.speaks = false) :
    Output call (log ++ obs) := by
  obtain ⟨writtenNone, sentNone, terminalsNone⟩ := projections_of_silent silent
  have same := aborted_append_of_silent log silent
  refine ⟨output.emitted.note silent, ?_, ?_, ?_, ?_⟩
  · rw [same, written_append, sent_append, writtenNone, sentNone, List.append_nil,
      List.append_nil]
    exact output.whole
  · rw [same]
    exact output.discarded
  · rw [terminals_append, terminalsNone, List.append_nil]
    exact output.unanswered
  · rw [terminals_append, terminalsNone, List.append_nil]
    exact output.answered

/-- A call may change in what its output does not depend on, and it may die. -/
theorem Output.change {call other : SvCall} {log : List CallObs} (output : Output call log)
    (alive : other.dead = false → call.dead = false ∧ other.unwritten = call.unwritten)
    (replied : other.replied = call.replied)
    (trailing : other.trailingMetadata = call.trailingMetadata)
    (terminal : other.terminalPost = call.terminalPost) : Output other log := by
  refine ⟨output.emitted, ?_, ?_, ?_, ?_⟩
  · intro living
    rw [(alive living).2]
    exact output.whole (alive living).1
  · intro living
    rw [(alive living).2]
    exact output.discarded (alive living).1
  · rw [replied, trailing]
    exact output.unanswered
  · rw [replied, terminal]
    exact output.answered

/-! ### The pump -/

theorem Output.postWrite {call : SvCall} {log : List CallObs} (output : Output call log)
    {front : ByteBuffer} {rest : List ByteBuffer} (alive : call.dead = false)
    (idle : call.writeInflight = false) (queue : call.writeQueue = front :: rest) :
    Output { call with writeInflight := true, pending := call.pending + 1 }
      (log ++ [.posted (.write front)]) := by
  have waiting : call.unwritten = front :: rest := by
    rw [SvCall.unwritten, idle, queue]
    rfl
  have left : SvCall.unwritten
      { call with writeInflight := true, pending := call.pending + 1 } = rest := by
    show call.writeQueue.tail = rest
    rw [queue]
    rfl
  have undisturbed : aborted log = false := by
    by_contra discarded
    rw [Bool.not_eq_false] at discarded
    have nothing := output.discarded alive discarded
    rw [waiting] at nothing
    exact absurd nothing (by simp)
  have whole := output.whole alive undisturbed
  rw [waiting] at whole
  have next : written log ++ [front] <+: sent log := ⟨rest, by rw [← whole]; simp⟩
  have terminalsSame : terminals (log ++ [.posted (.write front)]) = terminals log := by
    simp [terminals]
  have sentSame : sent (log ++ [.posted (.write front)]) = sent log := by
    simp [sent]
  have writtenMore : written (log ++ [.posted (.write front)]) = written log ++ [front] := by
    simp [written]
  refine ⟨⟨?_, ?_, ?_⟩, ?_, ?_, ?_, ?_⟩
  · rw [terminalsSame]
    exact output.emitted.single
  · rw [writtenMore, sentSame]
    exact next
  · exact lawful_append_singleton.mpr ⟨output.emitted.lawful, undisturbed, next⟩
  · intro _ _
    rw [writtenMore, sentSame, left, ← whole, List.append_assoc]
    rfl
  · intro _ discarded
    rw [aborted, terminalsSame] at discarded
    exact absurd (undisturbed.symm.trans discarded) Bool.false_ne_true
  · rw [terminalsSame]
    exact output.unanswered
  · rw [terminalsSame]
    exact output.answered

theorem Output.postTerminal {call : SvCall} {log : List CallObs} (output : Output call log)
    (alive : call.dead = false) (idle : call.writeInflight = false) (drained : call.writeQueue = [])
    (replied : call.replied = true) :
    Output { call with finishPosted := true, pending := call.pending + 1 }
      (log ++ [.posted call.terminalPost]) := by
  obtain ⟨request, only, same⟩ := output.answered replied
  have waiting : call.unwritten = [] := by
    rw [SvCall.unwritten, idle, drained]
    rfl
  have everything (drains : request.aborts = false) : written log = sent log := by
    have whole := output.whole alive (by rw [aborted, only]; simpa using drains)
    rw [waiting, List.append_nil] at whole
    exact whole
  have law : OutputLaw log (.posted call.terminalPost) := by
    unfold SvCall.terminalPost at same ⊢
    cases final : call.hasFinalWrite with
    | true =>
      rw [final, if_pos rfl] at same
      exact ⟨request, only, same.symm, everything⟩
    | false =>
      rw [final, if_neg Bool.false_ne_true] at same
      exact ⟨request, only, same.symm, everything⟩
  have writtenSame : written (log ++ [.posted call.terminalPost]) = written log := by
    unfold SvCall.terminalPost
    split <;> simp [written]
  have sentSame : sent (log ++ [.posted call.terminalPost]) = sent log := by
    simp [sent]
  have terminalsSame : terminals (log ++ [.posted call.terminalPost]) = terminals log := by
    simp [terminals]
  refine ⟨⟨?_, ?_, ?_⟩, ?_, ?_, ?_, ?_⟩
  · rw [terminalsSame]
    exact output.emitted.single
  · rw [writtenSame, sentSame]
    exact output.emitted.inOrder
  · exact lawful_append_singleton.mpr ⟨output.emitted.lawful, law⟩
  · rw [writtenSame, sentSame, aborted, terminalsSame]
    exact output.whole
  · rw [aborted, terminalsSame]
    exact output.discarded
  · rw [terminalsSame]
    exact output.unanswered
  · rw [terminalsSame]
    exact output.answered

theorem Output.pump {call : SvCall} {log : List CallObs} (output : Output call log)
    (shutting : Bool) :
    Output (pumpLocked shutting call).1 (log ++ (pumpLocked shutting call).2) := by
  rcases pumpLocked_cases shutting call with
    ⟨same, -⟩ | ⟨-, alive, -, idle, ⟨front, rest, queue, same⟩ | ⟨queue, replied, same⟩⟩
  · rw [same, List.append_nil]
    exact output
  · rw [same]
    exact output.postWrite alive idle queue
  · rw [same]
    exact output.postTerminal alive idle queue replied

/-! ### Handlers -/

/-- A write that comes back leaves the queue without its front. -/
theorem Output.popWrite {call : SvCall} {log : List CallObs} (output : Output call log)
    (inflight : call.writeInflight = true) :
    Output
      { call with
        pending := call.pending - 1, writeInflight := false
        writeQueue := call.writeQueue.tail } log := by
  refine output.change (fun alive => ⟨alive, ?_⟩) rfl rfl rfl
  rw [SvCall.unwritten, SvCall.unwritten, inflight]
  rfl

/-- The output of a call survives the return of any of its tags. -/
theorem Output.runCall {call : SvCall} {log : List CallObs} (output : Output call log)
    (op : SvOp) (shutting : Bool) (nextId : Nat) (delivery : Delivery)
    (inflight : op = .write → call.writeInflight = true) :
    Output (runCall shutting nextId op delivery call).1
      (log ++ [.returned op delivery.ok delivery.message] ++
        (runCall shutting nextId op delivery call).2) := by
  have returned : Output call (log ++ [.returned op delivery.ok delivery.message]) :=
    output.note (by simp [CallObs.speaks])
  cases op with
  | accept =>
    unfold Server.runCall runAccept
    simp only
    split
    · split
      · rw [List.append_nil]
        exact returned.change (fun dead => absurd dead.symm Bool.false_ne_true) rfl rfl rfl
      · refine (returned.note (by simp [CallObs.speaks])).change
          (fun alive => ⟨alive, rfl⟩) rfl rfl rfl
    · rw [List.append_nil]
      exact returned.change (fun alive => ⟨alive, rfl⟩) rfl rfl rfl
  | read =>
    unfold Server.runCall runRead
    simp only
    split
    · split
      · exact (returned.note (by simp [CallObs.speaks])).change (fun alive => ⟨alive, rfl⟩)
          rfl rfl rfl
      · exact (returned.note (by simp [CallObs.speaks])).change (fun alive => ⟨alive, rfl⟩)
          rfl rfl rfl
    · split
      · exact (returned.note (by simp [CallObs.speaks])).change (fun alive => ⟨alive, rfl⟩)
          rfl rfl rfl
      · rw [List.append_nil]
        exact returned.change (fun dead => absurd dead.symm Bool.false_ne_true) rfl rfl rfl
  | write =>
    unfold Server.runCall runWrite
    simp only
    split
    · have popped := returned.popWrite (inflight rfl)
      split
      · have pumped := (popped.note (show ∀ entry ∈ [CallObs.pushed
          { type := .streamWritable, id := call.id }], entry.speaks = false by
            simp [CallObs.speaks])).pump shutting
        rw [List.append_assoc] at pumped
        exact pumped
      · rw [List.nil_append]
        exact popped.pump shutting
    · rw [List.append_nil]
      exact returned.change (fun dead => absurd dead.symm Bool.false_ne_true) rfl rfl rfl
  | done =>
    unfold Server.runCall runDone
    simp only
    split
    · exact (returned.note (by simp [CallObs.speaks])).change
        (fun dead => absurd dead.symm Bool.false_ne_true) rfl rfl rfl
    · rw [List.append_nil]
      exact returned.change (fun alive => ⟨alive, rfl⟩) rfl rfl rfl
  | finish =>
    rw [show (Server.runCall shutting nextId .finish delivery call).2 = [] from rfl,
      List.append_nil]
    exact returned.change (fun alive => ⟨alive, rfl⟩) rfl rfl rfl

/-! ### Requests of R -/

/-- An accepted send joins the messages that wait. -/
theorem Output.queue {call : SvCall} {log : List CallObs} (output : Output call log)
    (bytes : Bytes) (silent : call.replied = false)
    (queued : call.writeInflight = true → call.writeQueue ≠ []) :
    Output { call with writeQueue := call.writeQueue ++ [.ofRaw bytes] }
      (log ++ [.accepted (.send bytes)]) := by
  have none := (output.unanswered silent).1
  have undisturbed : aborted log = false := by
    rw [aborted, none]
    rfl
  have more : SvCall.unwritten { call with writeQueue := call.writeQueue ++ [.ofRaw bytes] } =
      call.unwritten ++ [.ofRaw bytes] := by
    unfold SvCall.unwritten
    cases inflight : call.writeInflight with
    | false => rfl
    | true => exact List.tail_append_of_ne_nil (queued inflight)
  have terminalsSame : terminals (log ++ [.accepted (.send bytes)]) = terminals log := by
    simp [terminals, RCall.isTerminal]
  have writtenSame : written (log ++ [.accepted (.send bytes)]) = written log := by
    simp [written]
  have sentMore : sent (log ++ [.accepted (.send bytes)]) = sent log ++ [.ofRaw bytes] := by
    simp [sent]
  refine ⟨⟨?_, ?_, ?_⟩, ?_, ?_, ?_, ?_⟩
  · rw [terminalsSame]
    exact output.emitted.single
  · rw [writtenSame, sentMore]
    exact output.emitted.inOrder.trans (List.prefix_append _ _)
  · exact lawful_append_singleton.mpr ⟨output.emitted.lawful, none⟩
  · intro alive _
    rw [writtenSame, sentMore, more, ← output.whole alive undisturbed, List.append_assoc]
  · intro _ discarded
    rw [aborted, terminalsSame] at discarded
    exact absurd (undisturbed.symm.trans discarded) Bool.false_ne_true
  · rw [terminalsSame]
    exact output.unanswered
  · rw [terminalsSame]
    exact output.answered

/-- What an abortive finish leaves of the queue has been passed to `Write`. -/
theorem unwritten_armed (call : SvCall) (request : RCall) :
    (call.armed request).unwritten = if request.aborts then [] else call.unwritten := by
  unfold SvCall.unwritten SvCall.armed RCall.queueLeft discardQueued
  cases call.writeInflight <;> cases request.aborts <;> cases call.writeQueue <;> rfl

theorem terminalPost_armed (call : SvCall) (request : RCall)
    (fresh : call.trailingMetadata = []) :
    (call.armed request).terminalPost = request.terminalPost := by
  unfold SvCall.terminalPost SvCall.armed RCall.terminalPost
  rw [fresh]
  cases request.payload <;> rfl

/-- An accepted terminal is armed on the call. -/
theorem Output.armed {call : SvCall} {log : List CallObs} (output : Output call log)
    {request : RCall} (terminal : request.isTerminal = true) (silent : call.replied = false) :
    Output (call.armed request) (log ++ [.accepted request]) := by
  obtain ⟨none, fresh⟩ := output.unanswered silent
  have only : terminals (log ++ [.accepted request]) = [request] := by
    rw [terminals_append, none]
    simp [terminals, terminal]
  have abortedNow : aborted (log ++ [.accepted request]) = request.aborts := by
    rw [aborted, only]
    simp
  have undisturbed : aborted log = false := by
    rw [aborted, none]
    rfl
  have writtenSame : written (log ++ [.accepted request]) = written log := by
    simp [written]
  have sentSame : sent (log ++ [.accepted request]) = sent log := by
    cases request with
    | send bytes => exact absurd terminal Bool.false_ne_true
    | _ => simp [sent]
  have law : OutputLaw log (.accepted request) := by
    cases request with
    | read => trivial
    | cancel => trivial
    | _ => exact none
  refine ⟨⟨?_, ?_, ?_⟩, ?_, ?_, ?_, ?_⟩
  · rw [only]
    exact Nat.le_refl 1
  · rw [writtenSame, sentSame]
    exact output.emitted.inOrder
  · exact lawful_append_singleton.mpr ⟨output.emitted.lawful, law⟩
  · intro alive drains
    rw [abortedNow] at drains
    rw [writtenSame, sentSame, unwritten_armed, drains, if_neg Bool.false_ne_true]
    exact output.whole alive undisturbed
  · intro _ aborts
    rw [abortedNow] at aborts
    rw [unwritten_armed, aborts, if_pos rfl]
  · exact fun absurdity => absurd absurdity.symm Bool.false_ne_true
  · exact fun _ => ⟨request, only, terminalPost_armed call request fresh⟩

/-- The output of a call survives every request of R, except one that ends in an error. -/
theorem Output.answer {call : SvCall} {log : List CallObs} (output : Output call log)
    (shutting : Bool) (request : RCall)
    (queued : call.writeInflight = true → call.writeQueue ≠ []) :
    Emitted (log ++ (request.answer shutting call).obs) ∧
      (Output (request.answer shutting call).call (log ++ (request.answer shutting call).obs) ∨
        (request.answer shutting call).raised = true ∧
          terminals (log ++ (request.answer shutting call).obs) = []) := by
  have kept {answer : Answer}
      (holds : Output answer.call (log ++ answer.obs)) :
      Emitted (log ++ answer.obs) ∧ (Output answer.call (log ++ answer.obs) ∨
        answer.raised = true ∧ terminals (log ++ answer.obs) = []) :=
    ⟨holds.emitted, Or.inl holds⟩
  have pumps {request : RCall} {other : SvCall}
      (holds : Output other (log ++ [.accepted request])) :
      Output (acceptAndPump shutting request other).call
        (log ++ (acceptAndPump shutting request other).obs) := by
    have pumped := holds.pump shutting
    rw [List.append_assoc] at pumped
    exact pumped
  rcases answer_cases shutting request call with
    same | ⟨-, -, -, -, -, same⟩ | ⟨-, -, same⟩ | ⟨bytes, -, -, -, silent, -, same⟩ |
    ⟨terminal, -, silent, -, same | ⟨trailing, hasFinalWrite, error, same⟩⟩
  · rw [same]
    refine kept ?_
    rw [refuse, List.append_nil]
    exact output
  · rw [same]
    exact kept ((output.note (by simp [CallObs.speaks])).change (fun alive => ⟨alive, rfl⟩)
      rfl rfl rfl)
  · rw [same]
    exact kept (output.note (by simp [CallObs.speaks]))
  · rw [same]
    exact kept (pumps (output.queue bytes silent queued))
  · rw [same]
    exact kept (pumps (output.armed terminal silent))
  · rw [same]
    simp only [List.append_nil]
    exact ⟨output.emitted, Or.inr ⟨rfl, (output.unanswered silent).1⟩⟩

/-! ### Runs of one call -/

/-- The output of one call between locked sections: what its log says, and while the call is
there, its output; only an error in the middle of its terminal can break that, and then no
terminal was accepted. An accepted terminal has been posted or waits behind a write, unless the
call died or the server is shutting down. -/
structure Outflow (view : CallView) (log : List CallObs) : Prop where
  emitted : Emitted log
  output : ∀ call, view.cell.object = some call →
    Output call log ∨ view.wedged = true ∧ terminals log = []
  waits : ∀ call, view.cell.object = some call → view.shutting = false → call.dead = false →
    terminals log ≠ [] → call.writeInflight = true ∨ call.finishPosted = true

/-- A terminal requested while the mutex is free has been posted or waits behind a write. -/
theorem Phase.answers {view : CallView} {log : List CallObs} (phase : Phase view log)
    {call : SvCall} (object : view.cell.object = some call) (unlocked : view.wedged = false)
    (running : view.shutting = false) (alive : call.dead = false) (replied : call.replied = true) :
    call.writeInflight = true ∨ call.finishPosted = true := by
  cases phase with
  | slot cell opened =>
    rw [cell] at object
    obtain rfl := Option.some.inj object
    exact absurd replied Bool.false_ne_true
  | live other same settled =>
    obtain rfl := Option.some.inj (object.symm.trans same)
    rcases settled.answers running alive replied with inflight | posted | wedged
    · exact Or.inl inflight
    · exact Or.inr posted
    · exact absurd (unlocked.symm.trans wedged) Bool.false_ne_true
  | gone cell deleted lawful =>
    rw [cell] at object
    exact absurd object (by simp)

theorem Output.replied_of_terminals {call : SvCall} {log : List CallObs}
    (output : Output call log) (accepted : terminals log ≠ []) : call.replied = true := by
  by_contra silent
  rw [Bool.not_eq_true] at silent
  exact accepted (output.unanswered silent).1

/-- A request that ends in an error found the call unanswered and did nothing others can see. -/
theorem answer_raised {shutting : Bool} {request : RCall} {call : SvCall}
    (raised : (request.answer shutting call).raised = true) :
    call.replied = false ∧ (request.answer shutting call).obs = [] := by
  rcases answer_cases shutting request call with
    same | ⟨-, -, -, -, -, same⟩ | ⟨-, -, same⟩ | ⟨bytes, -, -, -, silent, -, same⟩ |
    ⟨terminal, -, silent, -, same | ⟨trailing, hasFinalWrite, error, same⟩⟩
  · rw [same] at raised
    exact absurd raised Bool.false_ne_true
  · rw [same] at raised
    exact absurd raised Bool.false_ne_true
  · rw [same] at raised
    exact absurd raised Bool.false_ne_true
  · rw [same] at raised
    exact absurd raised Bool.false_ne_true
  · rw [same] at raised
    exact absurd raised Bool.false_ne_true
  · rw [same]
    exact ⟨silent, rfl⟩

theorem Outflow.output_of_unlocked {view : CallView} {log : List CallObs}
    (outflow : Outflow view log) (unlocked : view.wedged = false) {call : SvCall}
    (object : view.cell.object = some call) : Output call log := by
  rcases outflow.output call object with output | ⟨wedged, -⟩
  · exact output
  · exact absurd (unlocked.symm.trans wedged) Bool.false_ne_true

theorem outflow_start : Outflow callMachine.start callMachine.opening := by
  have silent : ∀ entry ∈ callMachine.opening, entry.speaks = false := by
    simp [callMachine, CallObs.speaks]
  have nothing : Emitted [] := ⟨Nat.zero_le 1, List.prefix_rfl, lawful_nil _⟩
  have emitted : Emitted callMachine.opening := nothing.note silent
  refine ⟨emitted, fun call object => Or.inl ?_, fun _ _ _ _ accepted => absurd rfl accepted⟩
  obtain rfl := Option.some.inj object
  exact ⟨emitted, fun _ _ => rfl, fun _ absurdity => absurd absurdity Bool.false_ne_true,
    fun _ => ⟨rfl, rfl⟩, fun absurdity => absurd absurdity Bool.false_ne_true⟩

theorem Outflow.step {view after : CallView} {log news : List CallObs} {input : CallInput}
    (phase : Phase view log) (outflow : Outflow view log)
    (taken : callStep view input = some (after, news)) : Outflow after (log ++ news) := by
  have phaseAfter := phase.step taken
  rcases callStep_cases taken with
    ⟨op, delivery, nextId, call, -, unlocked, outstanding, object, rfl, rfl⟩ |
    ⟨request, call, -, unlocked, object, named, rfl, rfl⟩ | ⟨-, rfl, rfl⟩ | ⟨-, rfl, rfl⟩
  · have output := outflow.output_of_unlocked unlocked object
    have ran := output.runCall op view.shutting nextId delivery
      fun kind => (phase.write_mem_iff object).1.mp (kind ▸ outstanding)
    have regroup (tail : List CallObs) :
        log ++ (.returned op delivery.ok delivery.message ::
          (runCall view.shutting nextId op delivery call).2 ++ tail) =
        log ++ [.returned op delivery.ok delivery.message] ++
          (runCall view.shutting nextId op delivery call).2 ++ tail := by
      simp
    have emitted : Emitted
        (log ++ (handleTag view.shutting nextId op delivery call view.cell.tags).2) := by
      rw [handleTag, regroup]
      refine ran.emitted.note ?_
      split <;> simp [CallObs.speaks]
    have left (other : SvCall)
        (same : (handleTag view.shutting nextId op delivery call view.cell.tags).1.object =
          some other) :
        Output other
          (log ++ (handleTag view.shutting nextId op delivery call view.cell.tags).2) := by
      rw [handleTag] at same ⊢
      rw [regroup]
      simp only at same ⊢
      split at same
      · exact absurd same (by simp)
      · rename_i kept
        obtain rfl := Option.some.inj same
        rw [if_neg kept, List.append_nil]
        exact ran
    refine ⟨emitted, fun other same => Or.inl (left other same), ?_⟩
    intro other same running alive accepted
    exact phaseAfter.answers same unlocked running alive
      ((left other same).replied_of_terminals accepted)
  · have output := outflow.output_of_unlocked unlocked object
    obtain ⟨emitted, left⟩ := output.answer view.shutting request (phase.write_mem_iff object).2
    refine ⟨emitted, fun other same => ?_, fun other same running alive accepted => ?_⟩
    · obtain rfl := Option.some.inj same
      exact left
    · cases raised : (request.answer view.shutting call).raised with
      | true =>
        obtain ⟨silent, nothing⟩ := answer_raised raised
        rw [nothing, List.append_nil] at accepted
        exact absurd (output.unanswered silent).1 accepted
      | false =>
        obtain rfl := Option.some.inj same
        rcases left with answered | ⟨absurdity, -⟩
        · exact phaseAfter.answers rfl raised running alive
            (answered.replied_of_terminals accepted)
        · exact absurd (raised.symm.trans absurdity) Bool.false_ne_true
  · rw [List.append_nil]
    exact ⟨outflow.emitted, outflow.output,
      fun _ _ running => absurd running.symm Bool.false_ne_true⟩
  · rw [List.append_nil]
    refine ⟨outflow.emitted, fun call object => ?_, outflow.waits⟩
    rcases outflow.output call object with output | ⟨-, none⟩
    · exact Or.inl output
    · exact Or.inr ⟨rfl, none⟩

theorem outflow_of_run {view : CallView} {log : List CallObs}
    {allowed : CallView → CallInput → Prop} (run : callMachine.Run allowed view log) :
    Outflow view log :=
  run.invariant outflow_start fun before outflow _ taken =>
    outflow.step (phase_of_run before) taken

/-! ### Every call of a server -/

/-- A handler accepts nothing. -/
theorem accepted_not_mem_of_isAct {obs : List CallObs}
    (acts : ∀ entry ∈ obs, entry.isAct = true) (request : RCall) :
    CallObs.accepted request ∉ obs :=
  fun member => absurd (acts _ member) Bool.false_ne_true

theorem accepted_not_mem_handleTag (shutting : Bool) (nextId : Nat) (op : SvOp)
    (delivery : Delivery) (call : SvCall) (tags : List SvOp) (request : RCall) :
    CallObs.accepted request ∉ (handleTag shutting nextId op delivery call tags).2 := by
  intro member
  rw [handleTag] at member
  simp only [List.cons_append, List.mem_cons, reduceCtorEq, List.mem_append,
    accepted_not_mem_of_isAct (isAct_runCall _ _ _ _ _), false_or] at member
  split at member <;> simp at member

/-- A request shows as accepted exactly when it returns `TRUE`. -/
theorem accepted_mem_answer_iff (shutting : Bool) (request other : RCall) (call : SvCall) :
    CallObs.accepted other ∈ (request.answer shutting call).obs ↔
      other = request ∧ (request.answer shutting call).value = .ok true := by
  have pumps (asked : RCall) (left : SvCall) :
      CallObs.accepted other ∈ (acceptAndPump shutting asked left).obs ↔ other = asked := by
    simp [acceptAndPump, accepted_not_mem_of_isAct (isAct_pumpLocked shutting left)]
  rcases answer_cases shutting request call with
    same | ⟨rfl, -, -, -, -, same⟩ | ⟨rfl, -, same⟩ | ⟨bytes, rfl, -, -, -, -, same⟩ |
    ⟨-, -, -, -, same | ⟨trailing, hasFinalWrite, error, same⟩⟩
  · rw [same]
    simp [refuse]
  · rw [same]
    simp
  · rw [same]
    simp
  · rw [same, pumps]
    simp [acceptAndPump]
  · rw [same, pumps]
    simp [acceptAndPump]
  · rw [same]
    simp

/-- Over a step of a server, a request shows as accepted on a call exactly when R asked it of an
id of that call and got `TRUE`. -/
theorem Sound.accepted_step {server after : RServer} {log news : List ServerObs}
    {input : ServerInput} (sound : Sound server log)
    (taken : serverStep server input = some (after, news)) (address : Nat) (request : RCall) :
    ServerObs.call address (.accepted request) ∈ news ↔
      ∃ id, server.active.lookup id = some address ∧
        ServerObs.result id request (.ok true) ∈ news := by
  rcases sound.step_cases taken with
    ⟨other, op, delivery, call, rfl, unlocked, outstanding, object, equal⟩ |
    ⟨id, asked, other, call, rfl, opened, unlocked, found, object, rfl, rfl⟩ |
    ⟨-, quiet⟩ | ⟨rfl, opened, unlocked, rfl, rfl⟩ | ⟨rfl, joining, idle, rfl, rfl⟩
  · obtain ⟨count, whole, -⟩ := handle_eq server other op delivery call
    rw [equal, Prod.mk.injEq] at whole
    rw [whole.2]
    constructor
    · intro member
      rcases List.mem_append.mp member with own | slot
      · simp only [List.mem_map, ServerObs.call.injEq] at own
        obtain ⟨entry, handled, -, rfl⟩ := own
        exact absurd handled (accepted_not_mem_handleTag _ _ _ _ _ _ request)
      · exact absurd (mem_withSlots slot).1 (by simp)
    · rintro ⟨id, -, member⟩
      simp [RServer.withSlots] at member
  · simp only [List.mem_append, List.mem_map, ServerObs.call.injEq, List.mem_singleton,
      reduceCtorEq, or_false, ServerObs.result.injEq, and_false, exists_false, false_or]
    constructor
    · rintro ⟨entry, member, rfl, rfl⟩
      obtain ⟨rfl, value⟩ := (accepted_mem_answer_iff _ _ _ _).mp member
      exact ⟨id, found, rfl, rfl, value.symm⟩
    · rintro ⟨name, names, rfl, rfl, value⟩
      rw [found, Option.some.injEq] at names
      exact ⟨_, (accepted_mem_answer_iff _ _ _ _).mpr ⟨rfl, value.symm⟩, names, rfl⟩
  · constructor
    · intro member
      have logged := mem_callLog_iff.mpr member
      rw [quiet.silent] at logged
      exact absurd logged List.not_mem_nil
    · rintro ⟨id, -, member⟩
      exact absurd member (quiet.refused id request)
  · simp
  · simp

/-- The output law of a server, in one of its states: on every call at most one terminal was
accepted and the messages written are the first of those sent, every entry of its log keeps the
rules for output and the order of operations, a live call with a non-empty queue has a write
outstanding, and one with an accepted terminal has a write outstanding or the terminal posted. A
request is accepted in the next step exactly when it returns `TRUE`. -/
structure OutputDiscipline (server : RServer) (log : List ServerObs) : Prop where
  emitted : ∀ address, Emitted (callLog address log)
  ordered : ∀ address, Lawful Disciplined (callLog address log)
  flows : ∀ address call, (server.arena.cell address).object = some call →
    server.shutting = false → call.dead = false → call.writeQueue ≠ [] →
    .write ∈ (server.arena.cell address).tags
  answers : ∀ address call, (server.arena.cell address).object = some call →
    server.shutting = false → call.dead = false → terminals (callLog address log) ≠ [] →
    .write ∈ (server.arena.cell address).tags ∨ posts .finish (callLog address log) = 1
  accepts : ∀ input after news, serverStep server input = some (after, news) →
    ∀ address request, ServerObs.call address (.accepted request) ∈ news ↔
      ∃ id, server.active.lookup id = some address ∧
        ServerObs.result id request (.ok true) ∈ news

theorem Phase.flows {view : CallView} {log : List CallObs} (phase : Phase view log)
    {call : SvCall} (object : view.cell.object = some call) (running : view.shutting = false)
    (alive : call.dead = false) (waiting : call.writeQueue ≠ []) : call.writeInflight = true := by
  cases phase with
  | slot cell opened =>
    rw [cell] at object
    obtain rfl := Option.some.inj object
    exact absurd rfl waiting
  | live other same settled =>
    obtain rfl := Option.some.inj (object.symm.trans same)
    exact settled.flows running alive waiting
  | gone cell deleted lawful =>
    rw [cell] at object
    exact absurd object (by simp)

theorem Phase.posts_finish {view : CallView} {log : List CallObs} (phase : Phase view log)
    {call : SvCall} (object : view.cell.object = some call) (posted : call.finishPosted = true) :
    posts .finish log = 1 := by
  cases phase with
  | slot cell opened =>
    rw [cell] at object
    obtain rfl := Option.some.inj object
    exact absurd posted Bool.false_ne_true
  | live other same settled =>
    obtain rfl := Option.some.inj (object.symm.trans same)
    rw [settled.ledger.terminal, posted]
    rfl
  | gone cell deleted lawful =>
    rw [cell] at object
    exact absurd object (by simp)

/-- The output law holds in every state of every run of a server. -/
theorem output_disciplined (acceptWindow maxActive : Int) (wake : WakeHandle)
    (server : RServer) (log : List ServerObs)
    (run : (serverMachine acceptWindow maxActive wake).Run Machine.Free server log) :
    OutputDiscipline server log := by
  have sound := sound_of_run run
  refine ⟨fun address => ?_, sound.lawful,
    fun address call object running alive waiting => ?_,
    fun address call object running alive accepted => ?_,
    fun input after news taken => sound.accepted_step taken⟩
  · by_cases allocated : address < server.arena.size
    · exact (outflow_of_run (sound.calls address allocated)).emitted
    · rw [sound.unused address (Nat.le_of_not_lt allocated)]
      exact ⟨Nat.zero_le 1, List.prefix_rfl, lawful_nil _⟩
  · have phase := sound.phase (Arena.lt_size_of_object object)
    exact (phase.write_mem_iff object).1.mpr (phase.flows object running alive waiting)
  · have allocated := Arena.lt_size_of_object object
    have phase := sound.phase allocated
    have outflow := outflow_of_run (sound.calls address allocated)
    rcases outflow.waits call object running alive accepted with inflight | posted
    · exact Or.inl ((phase.write_mem_iff object).1.mpr inflight)
    · exact Or.inr (phase.posts_finish object posted)

/-- Two messages are sent and a third is discarded by an abortive finish. -/
def fencedInputs : List ServerInput :=
  [.returned 0 .accept { ok := true },
    .returned 0 .read { ok := true, message := .ofRaw [1] },
    .request 1 (.send [2]),
    .returned 0 .write { ok := true },
    .request 1 (.send [3]),
    .request 1 (.send [4]),
    .request 1 (.finish ⟨10, some (.text [5]), none, false⟩),
    .returned 0 .write { ok := true }]

theorem output_disciplined_fenced : ∃ server log,
    (serverMachine 1 2 ⟨16, 0⟩).Run Machine.Free server log ∧
      written (callLog 0 log) = [.ofRaw [2], .ofRaw [3]] ∧
      sent (callLog 0 log) = [.ofRaw [2], .ofRaw [3], .ofRaw [4]] ∧
      CallObs.posted (.finish ⟨10, [5]⟩ []) ∈ callLog 0 log ∧
      OutputDiscipline server log := by
  have run := Machine.run_of_exec (show (serverMachine 1 2 ⟨16, 0⟩).exec Machine.Free
    (serverMachine 1 2 ⟨16, 0⟩).start fencedInputs = some _ from rfl)
  exact ⟨_, _, run, by decide, by decide, by decide, output_disciplined 1 2 ⟨16, 0⟩ _ _ run⟩

end Rgrpc.Server
