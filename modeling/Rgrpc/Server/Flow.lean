/-
This file proves in which order messages flow through a server call, in both
directions and whatever becomes of the call. Outbound, the messages that are put
on the wire, by `Write` or with the terminal operation, are a prefix of those R
was told are accepted, and nothing is put on the wire once an operation that
carries a message failed. Inbound, the messages handed to R are a prefix of
those that arrived: what is dropped on a dead call is dropped at the end.
-/

import Rgrpc.Server.Output

namespace Rgrpc.Server

open Library

/-! ### What a log says of the messages of a call -/

/-- The message an event hands to R: that of a `request` or a `stream_msg`. -/
def SvEvent.message (event : SvEvent) : Option Bytes :=
  match event.type with
  | .request => some event.request
  | .streamMsg => some event.request
  | _ => none

/-- The payloads of the `request` and `stream_msg` events pushed, in order. -/
def messages (log : List CallObs) : List Bytes :=
  (pushedEvents log).filterMap SvEvent.message

/-- The payloads of the reads that completed with `ok`, in order. -/
def arrived (log : List CallObs) : List (Option Bytes) :=
  log.filterMap fun
    | .returned .read true message => some (grpcByteBufferToString message)
    | _ => none

/-- The messages passed to `Write` and `WriteAndFinish`, in order. -/
def carried (log : List CallObs) : List ByteBuffer :=
  log.filterMap fun
    | .posted (.write message) => some message
    | .posted (.writeAndFinish message _ _) => some message
    | _ => none

/-- The message a request asks to send: that of a send or of an OK reply. -/
def RCall.message : RCall → Option Bytes
  | .send bytes => some bytes
  | .reply args => if args.status = 0 then some (args.response.getD []) else none
  | _ => none

/-- The messages of the sends and OK replies that were accepted, in order. -/
def promised (log : List CallObs) : List Bytes :=
  log.filterMap fun
    | .accepted request => request.message
    | _ => none

/-- Whether an operation that may carry a message came back without `ok`. -/
def failed (log : List CallObs) : Bool :=
  log.any fun
    | .returned .write false _ => true
    | .returned .finish false _ => true
    | _ => false

section Projections

variable (log more : List CallObs)

@[simp]
theorem pushedEvents_append :
    pushedEvents (log ++ more) = pushedEvents log ++ pushedEvents more :=
  List.filterMap_append

@[simp]
theorem messages_append : messages (log ++ more) = messages log ++ messages more := by
  simp [messages]

@[simp]
theorem arrived_append : arrived (log ++ more) = arrived log ++ arrived more :=
  List.filterMap_append

@[simp]
theorem carried_append : carried (log ++ more) = carried log ++ carried more :=
  List.filterMap_append

@[simp]
theorem promised_append : promised (log ++ more) = promised log ++ promised more :=
  List.filterMap_append

@[simp]
theorem failed_append : failed (log ++ more) = (failed log || failed more) :=
  List.any_append

end Projections

/-! ### Output in order -/

theorem message_of_isTerminal {request : RCall} (terminal : request.isTerminal = true) :
    request.message.map ByteBuffer.ofRaw = request.payload := by
  cases request with
  | reply args =>
    simp only [RCall.message, RCall.payload]
    split <;> rfl
  | finish args => rfl
  | _ => exact absurd terminal Bool.false_ne_true

theorem promised_accepted (log : List CallObs) (request : RCall) :
    promised (log ++ [.accepted request]) = promised log ++ request.message.toList := by
  rw [promised_append]
  cases message : request.message <;> simp [promised, message]

theorem terminals_accepted (log : List CallObs) {request : RCall}
    (terminal : request.isTerminal = true) :
    terminals (log ++ [.accepted request]) = terminals log ++ [request] := by
  simp [terminals, terminal]

/-- What R was told is accepted is what was sent, followed by the message of the terminal. -/
theorem promised_eq {log : List CallObs} (lawful : Lawful OutputLaw log) :
    (promised log).map .ofRaw = sent log ++ (terminals log).filterMap RCall.payload := by
  induction log using List.reverseRecOn with
  | nil => rfl
  | append_singleton rest entry inductionHypothesis =>
    obtain ⟨before, last⟩ := lawful_append_singleton.mp lawful
    have rests := inductionHypothesis before
    have answers {request : RCall} (terminal : request.isTerminal = true)
        (quiet : sent [.accepted request] = []) :
        (promised (rest ++ [.accepted request])).map .ofRaw =
          sent (rest ++ [.accepted request]) ++
            (terminals (rest ++ [.accepted request])).filterMap RCall.payload := by
      have payload : [request].filterMap RCall.payload =
          (request.message.map ByteBuffer.ofRaw).toList := by
        rw [message_of_isTerminal terminal]
        cases found : request.payload <;> simp [found]
      rw [promised_accepted, List.map_append, rests, sent_append, quiet, List.append_nil,
        terminals_accepted rest terminal, List.filterMap_append, List.append_assoc, payload]
      cases request.message <;> rfl
    cases entry with
    | accepted request =>
      cases request with
      | send bytes =>
        have silent : terminals rest = [] := last
        have same : terminals (rest ++ [.accepted (.send bytes)]) = [] := by
          rw [terminals_append, silent]
          rfl
        rw [silent, List.filterMap_nil, List.append_nil] at rests
        rw [promised_accepted, List.map_append, rests, same, sent_append, List.filterMap_nil,
          List.append_nil]
        rfl
      | reply args => exact answers rfl rfl
      | finish args => exact answers rfl rfl
      | read => simpa [promised, sent, terminals, RCall.message, RCall.isTerminal] using rests
      | cancel => simpa [promised, sent, terminals, RCall.message, RCall.isTerminal] using rests
    | _ => simpa [promised, sent, terminals] using rests

/-- Until a terminal operation carries a message, what was put on the wire is what was written;
then everything sent was written before. -/
theorem carried_cases {log : List CallObs} (output : Lawful OutputLaw log)
    (order : Lawful Disciplined log) :
    carried log = written log ∨ 0 < posts .finish log ∧ written log = sent log ∧
      ∃ request, terminals log = [request] ∧
        carried log = written log ++ request.payload.toList := by
  induction log using List.reverseRecOn with
  | nil => exact Or.inl rfl
  | append_singleton rest entry inductionHypothesis =>
    obtain ⟨outputBefore, law⟩ := lawful_append_singleton.mp output
    obtain ⟨orderBefore, rule⟩ := lawful_append_singleton.mp order
    have rests := inductionHypothesis outputBefore orderBefore
    cases entry with
    | posted post =>
      cases post with
      | requestCall => simpa [carried, written, sent, terminals, SvPost.op] using rests
      | read => simpa [carried, written, sent, terminals, SvPost.op] using rests
      | finish status trailing =>
        rcases rests with same | ⟨posted, -⟩
        · exact Or.inl (by simpa [carried, written] using same)
        · exact absurd rule.2.1 (Nat.ne_of_gt posted)
      | write message =>
        rcases rests with same | ⟨posted, -⟩
        · refine Or.inl ?_
          rw [carried_append, written_append, same]
          rfl
        · exact absurd rule.2.1 (Nat.ne_of_gt posted)
      | writeAndFinish message status trailing =>
        rcases rests with same | ⟨posted, -⟩
        · obtain ⟨request, only, asked, everything⟩ := law
          have payload : request.payload = some message := by
            unfold RCall.terminalPost at asked
            split at asked
            · rename_i found
              rw [SvPost.writeAndFinish.injEq] at asked
              rw [found, asked.1]
            · exact absurd asked (by simp)
          have drains : request.aborts = false := by
            cases request with
            | finish args => exact absurd payload (by simp [RCall.payload])
            | _ => rfl
          refine Or.inr ⟨by simp [SvPost.op], ?_, request, ?_, ?_⟩
          · simpa [written, sent] using everything drains
          · simpa [terminals] using only
          · rw [carried_append, written_append, same, payload, Option.toList_some]
            simp [carried, written]
        · exact absurd rule.2.1 (Nat.ne_of_gt posted)
    | accepted request =>
      rcases rests with same | ⟨posted, everything, terminal, only, carries⟩
      · exact Or.inl (by simpa [carried, written] using same)
      · have answered (absurdity : terminals rest = []) : False := by
          rw [only] at absurdity
          exact absurd absurdity (by simp)
        refine Or.inr ?_
        cases request with
        | send bytes => exact (answered law).elim
        | reply args => exact (answered law).elim
        | finish args => exact (answered law).elim
        | read =>
          exact ⟨by simpa using posted, by simpa [written, sent] using everything, terminal,
            by simpa [terminals, RCall.isTerminal] using only,
            by simpa [carried, written] using carries⟩
        | cancel =>
          exact ⟨by simpa using posted, by simpa [written, sent] using everything, terminal,
            by simpa [terminals, RCall.isTerminal] using only,
            by simpa [carried, written] using carries⟩
    | _ => simpa [carried, written, sent, terminals] using rests

/-- What was put on the wire is a prefix of what R was told is accepted. -/
theorem Emitted.carried_prefix {log : List CallObs} (emitted : Emitted log)
    (order : Lawful Disciplined log) : carried log <+: (promised log).map .ofRaw := by
  rw [promised_eq emitted.lawful]
  rcases carried_cases emitted.lawful order with same | ⟨-, everything, request, only, same⟩
  · rw [same]
    exact emitted.inOrder.trans (List.prefix_append _ _)
  · rw [same, everything, only]
    refine (List.prefix_append_right_inj _).mpr ?_
    cases payload : request.payload <;> simp [payload]

/-! ### The parts of a section -/

/-- A part of a section, as far as messages go: it hands on the given payloads, a call that is dead
or has posted its terminal stays so, nothing is put on the wire for such a call, and no tag comes
back. -/
structure Passes (payloads : List Bytes) (call : SvCall) (left : SvCall × List CallObs) :
    Prop where
  dead : call.dead = true → left.1.dead = true
  finishPosted : call.finishPosted = true → left.1.finishPosted = true
  carries : carried left.2 ≠ [] → call.dead = false ∧ call.finishPosted = false
  messages : messages left.2 = payloads
  arrived : arrived left.2 = []
  failed : failed left.2 = false

/-- A part that puts nothing on the wire. -/
theorem passes_of_silent {payloads : List Bytes} {call : SvCall}
    {left : SvCall × List CallObs} (dead : call.dead = true → left.1.dead = true)
    (finishPosted : left.1.finishPosted = call.finishPosted) (carries : carried left.2 = [])
    (messages : messages left.2 = payloads) (arrived : arrived left.2 = [])
    (failed : failed left.2 = false) : Passes payloads call left :=
  ⟨dead, finishPosted.trans, fun some => absurd carries some, messages, arrived, failed⟩

/-- A part may be preceded by observations that are not about messages. -/
theorem Passes.prepend {payloads : List Bytes} {call : SvCall} {left : SvCall × List CallObs}
    (passes : Passes payloads call left) {notice : List CallObs} (carries : carried notice = [])
    (messages : Server.messages notice = []) (arrived : Server.arrived notice = [])
    (failed : Server.failed notice = false) : Passes payloads call (left.1, notice ++ left.2) := by
  refine ⟨passes.dead, passes.finishPosted, ?_, ?_, ?_, ?_⟩
  · rw [carried_append, carries, List.nil_append]
    exact passes.carries
  · rw [messages_append, messages, List.nil_append]
    exact passes.messages
  · rw [arrived_append, arrived, List.nil_append]
    exact passes.arrived
  · rw [failed_append, failed, Bool.false_or]
    exact passes.failed

theorem passes_pumpLocked (shutting : Bool) (call : SvCall) :
    Passes [] call (pumpLocked shutting call) := by
  rcases pumpLocked_cases shutting call with
    ⟨same, -⟩ | ⟨-, alive, running, -, ⟨front, rest, -, same⟩ | ⟨-, -, same⟩⟩
  · rw [same]
    exact passes_of_silent id rfl rfl rfl rfl rfl
  · rw [same]
    exact ⟨id, id, fun _ => ⟨alive, running⟩, rfl, rfl, rfl⟩
  · rw [same]
    exact ⟨id, fun _ => rfl, fun _ => ⟨alive, running⟩, rfl, rfl, rfl⟩

theorem passes_runRead (delivery : Delivery) (call : SvCall) :
    Passes (if delivery.ok && !call.dead then
      [(grpcByteBufferToString delivery.message).getD []] else []) call
      (runRead delivery call) := by
  simp only [runRead]
  split
  · split
    · exact passes_of_silent id rfl rfl rfl rfl rfl
    · exact passes_of_silent id rfl rfl rfl rfl rfl
  · split
    · exact passes_of_silent id rfl rfl rfl rfl rfl
    · exact passes_of_silent (fun _ => rfl) rfl rfl rfl rfl rfl

theorem passes_runWrite (shutting : Bool) (delivery : Delivery) (call : SvCall) :
    Passes [] call (runWrite shutting delivery call) := by
  simp only [runWrite]
  split
  · have pumped := passes_pumpLocked shutting
      { call with writeInflight := false, writeQueue := call.writeQueue.tail }
    have passes : Passes [] call (pumpLocked shutting
        { call with writeInflight := false, writeQueue := call.writeQueue.tail }) :=
      ⟨pumped.dead, pumped.finishPosted, pumped.carries, pumped.messages, pumped.arrived,
        pumped.failed⟩
    split
    · exact passes.prepend rfl rfl rfl rfl
    · exact passes.prepend rfl rfl rfl rfl
  · exact passes_of_silent (fun _ => rfl) rfl rfl rfl rfl rfl

theorem passes_runAccept (shutting : Bool) (nextId : Nat) (delivery : Delivery) (call : SvCall) :
    Passes [] call (runAccept shutting nextId delivery call) := by
  simp only [runAccept]
  split
  · split
    · exact passes_of_silent (fun _ => rfl) rfl rfl rfl rfl rfl
    · exact passes_of_silent id rfl rfl rfl rfl rfl
  · exact passes_of_silent id rfl rfl rfl rfl rfl

theorem passes_runDone (call : SvCall) : Passes [] call (runDone call) := by
  simp only [runDone]
  split
  · exact passes_of_silent (fun _ => rfl) rfl rfl rfl rfl rfl
  · exact passes_of_silent id rfl rfl rfl rfl rfl

/-- The handler of a tag hands on the message of a read that succeeded on a live call. -/
theorem passes_runCall (shutting : Bool) (nextId : Nat) (op : SvOp) (delivery : Delivery)
    (call : SvCall) :
    Passes (if op == .read && (delivery.ok && !call.dead) then
      [(grpcByteBufferToString delivery.message).getD []] else []) call
      (runCall shutting nextId op delivery call) := by
  have counted {payloads : List Bytes} {left : SvCall × List CallObs}
      (passes : Passes payloads { call with pending := call.pending - 1 } left) :
      Passes payloads call left :=
    ⟨passes.dead, passes.finishPosted, passes.carries, passes.messages, passes.arrived,
      passes.failed⟩
  cases op with
  | accept => exact counted (passes_runAccept shutting nextId delivery _)
  | read => exact counted (passes_runRead delivery { call with pending := call.pending - 1 })
  | write => exact counted (passes_runWrite shutting delivery _)
  | done => exact counted (passes_runDone _)
  | finish => exact passes_of_silent id rfl rfl rfl rfl rfl

/-- A request of R hands on nothing. -/
theorem passes_answer (shutting : Bool) (request : RCall) (call : SvCall) :
    Passes [] call ((request.answer shutting call).call, (request.answer shutting call).obs) := by
  have pumps (request : RCall) {other : SvCall} (dead : other.dead = call.dead)
      (finishPosted : other.finishPosted = call.finishPosted) :
      Passes [] call ((acceptAndPump shutting request other).call,
        (acceptAndPump shutting request other).obs) := by
    have pumped := (passes_pumpLocked shutting other).prepend
      (show carried [.accepted request] = [] from rfl) rfl rfl rfl
    refine ⟨?_, ?_, ?_, pumped.messages, pumped.arrived, pumped.failed⟩
    · rw [← dead]
      exact pumped.dead
    · rw [← finishPosted]
      exact pumped.finishPosted
    · rw [← dead, ← finishPosted]
      exact pumped.carries
  rcases answer_cases shutting request call with
    same | ⟨-, -, -, -, -, same⟩ | ⟨-, -, same⟩ | ⟨bytes, -, -, -, -, -, same⟩ |
    ⟨-, -, -, -, same | ⟨trailing, hasFinalWrite, error, same⟩⟩
  · rw [same]
    exact passes_of_silent id rfl rfl rfl rfl rfl
  · rw [same]
    exact passes_of_silent id rfl rfl rfl rfl rfl
  · rw [same]
    exact passes_of_silent id rfl rfl rfl rfl rfl
  · rw [same]
    exact pumps _ rfl rfl
  · rw [same]
    exact pumps _ rfl rfl
  · rw [same]
    exact passes_of_silent id rfl rfl rfl rfl rfl

/-! ### Tags that come back -/

theorem arrived_returned (op : SvOp) (ok : Bool) (message : ByteBuffer) :
    arrived [.returned op ok message] =
      if op == .read && ok then [grpcByteBufferToString message] else [] := by
  cases op <;> cases ok <;> rfl

/-- An operation that failed leaves the call dead or with its terminal posted, and its handler puts
nothing on the wire. -/
theorem runCall_of_failed (shutting : Bool) (nextId : Nat) {op : SvOp} {delivery : Delivery}
    (call : SvCall) (failing : failed [.returned op delivery.ok delivery.message] = true)
    (posted : op = .finish → call.finishPosted = true) :
    ((runCall shutting nextId op delivery call).1.dead = true ∨
        (runCall shutting nextId op delivery call).1.finishPosted = true) ∧
      carried (runCall shutting nextId op delivery call).2 = [] := by
  cases op with
  | write =>
    cases ok : delivery.ok with
    | true =>
      rw [ok] at failing
      exact absurd failing Bool.false_ne_true
    | false =>
      simp only [runCall, runWrite, ok, Bool.false_and, Bool.false_eq_true, if_false]
      exact ⟨Or.inl trivial, rfl⟩
  | finish => exact ⟨Or.inr (posted rfl), rfl⟩
  | _ =>
    cases ok : delivery.ok <;>
    · rw [ok] at failing
      exact absurd failing Bool.false_ne_true

/-- A terminal that is outstanding was posted. -/
theorem Phase.finishPosted_of_mem {view : CallView} {log : List CallObs} (phase : Phase view log)
    {call : SvCall} (object : view.cell.object = some call)
    (outstanding : SvOp.finish ∈ view.cell.tags) : call.finishPosted = true := by
  cases phase with
  | slot cell opened =>
    rw [cell] at outstanding
    exact absurd outstanding (by simp)
  | live other same settled =>
    obtain rfl := Option.some.inj (object.symm.trans same)
    by_contra absent
    have none := settled.ledger.finish
    rw [if_neg absent] at none
    exact absurd (List.count_pos_iff.mpr outstanding) (Nat.not_lt.mpr none)
  | gone cell deleted lawful =>
    rw [cell] at outstanding
    exact absurd outstanding List.not_mem_nil

/-! ### Runs of one call -/

/-- The flow of messages through one call: what was handed to R is a prefix of what arrived, all of
it while the call is there and not dead, and once an operation that carries a message failed, the
call is dead or its terminal was posted. -/
structure Flow (view : CallView) (log : List CallObs) : Prop where
  handedOn : messages log <+: (arrived log).map fun payload => payload.getD []
  inbound : ∀ call, view.cell.object = some call → call.dead = false →
    messages log = (arrived log).map fun payload => payload.getD []
  failing : ∀ call, view.cell.object = some call → failed log = true →
    call.dead = true ∨ call.finishPosted = true

theorem flow_start : Flow callMachine.start callMachine.opening :=
  ⟨List.prefix_rfl, fun _ _ _ => rfl, fun _ _ absurdity => absurd absurdity Bool.false_ne_true⟩

/-- No operation failed on a call that is not dead and has not posted its terminal. -/
theorem Flow.failed_eq_false {view : CallView} {log : List CallObs} (flow : Flow view log)
    {call : SvCall} (object : view.cell.object = some call) (alive : call.dead = false)
    (running : call.finishPosted = false) : failed log = false := by
  by_contra failing
  rw [Bool.not_eq_false] at failing
  rcases flow.failing call object failing with dead | posted
  · exact absurd (alive.symm.trans dead) Bool.false_ne_true
  · exact absurd (running.symm.trans posted) Bool.false_ne_true

/-- What the return of a tag adds to the log, as far as messages go. -/
theorem flow_handleTag (shutting : Bool) (nextId : Nat) (op : SvOp) (delivery : Delivery)
    (call : SvCall) (tags : List SvOp) :
    messages (handleTag shutting nextId op delivery call tags).2 =
        (if op == .read && (delivery.ok && !call.dead) then
          [(grpcByteBufferToString delivery.message).getD []] else []) ∧
      arrived (handleTag shutting nextId op delivery call tags).2 =
        (if op == .read && delivery.ok then [grpcByteBufferToString delivery.message] else []) ∧
      failed (handleTag shutting nextId op delivery call tags).2 =
        failed [.returned op delivery.ok delivery.message] ∧
      carried (handleTag shutting nextId op delivery call tags).2 =
        carried (runCall shutting nextId op delivery call).2 := by
  have passes := passes_runCall shutting nextId op delivery call
  have parts : (handleTag shutting nextId op delivery call tags).2 =
      [.returned op delivery.ok delivery.message] ++
        ((runCall shutting nextId op delivery call).2 ++
        if freed op delivery.ok (runCall shutting nextId op delivery call).1 then [.deleted]
        else []) := rfl
  have ending (obs : List CallObs) (gone : Bool) :
      messages (obs ++ if gone then [.deleted] else []) = messages obs ∧
        arrived (obs ++ if gone then [.deleted] else []) = arrived obs ∧
        failed (obs ++ if gone then [.deleted] else []) = failed obs ∧
        carried (obs ++ if gone then [.deleted] else []) = carried obs := by
    cases gone <;> simp [messages, pushedEvents, arrived, failed, carried]
  obtain ⟨handed, came, broke, put⟩ := ending (runCall shutting nextId op delivery call).2
    (freed op delivery.ok (runCall shutting nextId op delivery call).1)
  rw [parts, messages_append, arrived_append, failed_append, carried_append, handed, came, broke,
    put, passes.messages, passes.arrived, passes.failed, arrived_returned, List.append_nil,
    Bool.or_false]
  exact ⟨rfl, rfl, rfl, rfl⟩

/-- The return of a tag keeps the flow, and its handler puts something on the wire only if no
operation failed. -/
theorem Flow.returned {view : CallView} {log : List CallObs} (flow : Flow view log)
    (phase : Phase view log) {op : SvOp} (outstanding : op ∈ view.cell.tags) {call : SvCall}
    (object : view.cell.object = some call) (delivery : Delivery) (nextId : Nat) :
    Flow { view with cell := (handleTag view.shutting nextId op delivery call view.cell.tags).1 }
        (log ++ (handleTag view.shutting nextId op delivery call view.cell.tags).2) ∧
      (carried (handleTag view.shutting nextId op delivery call view.cell.tags).2 ≠ [] →
        failed (log ++ (handleTag view.shutting nextId op delivery call view.cell.tags).2) =
          false) := by
  have passes := passes_runCall view.shutting nextId op delivery call
  have posted (last : op = .finish) : call.finishPosted = true :=
    phase.finishPosted_of_mem object (last ▸ outstanding)
  obtain ⟨handed, came, broke, put⟩ :=
    flow_handleTag view.shutting nextId op delivery call view.cell.tags
  have complete (alive : call.dead = false) :
      messages (log ++ (handleTag view.shutting nextId op delivery call view.cell.tags).2) =
        (arrived (log ++ (handleTag view.shutting nextId op delivery call view.cell.tags).2)).map
          fun payload => payload.getD [] := by
    rw [messages_append, arrived_append, handed, came, flow.inbound call object alive, alive,
      Bool.not_false, Bool.and_true, List.map_append]
    split <;> rfl
  refine ⟨⟨?_, fun other stored alive => ?_, fun other stored failing => ?_⟩, fun some => ?_⟩
  · cases dead : call.dead with
    | false => exact complete dead ▸ List.prefix_rfl
    | true =>
      rw [messages_append, handed, dead, Bool.not_true, Bool.and_false, Bool.and_false,
        if_neg Bool.false_ne_true, List.append_nil, arrived_append, List.map_append]
      exact flow.handedOn.trans (List.prefix_append _ _)
  · obtain rfl := eq_of_handleTag stored
    refine complete ?_
    by_contra dead
    rw [Bool.not_eq_false] at dead
    exact absurd (alive.symm.trans (passes.dead dead)) Bool.false_ne_true
  · obtain rfl := eq_of_handleTag stored
    rw [failed_append, broke, Bool.or_eq_true] at failing
    rcases failing with before | now
    · exact (flow.failing call object before).imp passes.dead passes.finishPosted
    · exact (runCall_of_failed view.shutting nextId call now posted).1
  · rw [put] at some
    obtain ⟨alive, running⟩ := passes.carries some
    rw [failed_append, broke, flow.failed_eq_false object alive running, Bool.false_or]
    by_contra now
    rw [Bool.not_eq_false] at now
    exact some (runCall_of_failed view.shutting nextId call now posted).2

theorem Flow.step {view after : CallView} {log news : List CallObs} {input : CallInput}
    (flow : Flow view log) (phase : Phase view log)
    (taken : callStep view input = some (after, news)) :
    Flow after (log ++ news) ∧ (carried news ≠ [] → failed (log ++ news) = false) := by
  rcases callStep_cases taken with
    ⟨op, delivery, nextId, call, -, -, outstanding, object, rfl, rfl⟩ |
    ⟨request, call, -, -, object, -, rfl, rfl⟩ | ⟨-, rfl, rfl⟩ | ⟨-, rfl, rfl⟩
  · exact flow.returned phase outstanding object delivery nextId
  · have passes := passes_answer view.shutting request call
    have unchanged : messages (log ++ (request.answer view.shutting call).obs) = messages log ∧
        arrived (log ++ (request.answer view.shutting call).obs) = arrived log ∧
        failed (log ++ (request.answer view.shutting call).obs) = failed log := by
      rw [messages_append, arrived_append, failed_append, passes.messages, passes.arrived,
        passes.failed, List.append_nil, List.append_nil, Bool.or_false]
      exact ⟨rfl, rfl, rfl⟩
    refine ⟨⟨?_, fun other stored alive => ?_, fun other stored failing => ?_⟩, fun some => ?_⟩
    · rw [unchanged.1, unchanged.2.1]
      exact flow.handedOn
    · obtain rfl := Option.some.inj stored
      rw [unchanged.1, unchanged.2.1]
      refine flow.inbound call object ?_
      by_contra dead
      rw [Bool.not_eq_false] at dead
      exact absurd (alive.symm.trans (passes.dead dead)) Bool.false_ne_true
    · obtain rfl := Option.some.inj stored
      rw [unchanged.2.2] at failing
      exact (flow.failing call object failing).imp passes.dead passes.finishPosted
    · rw [unchanged.2.2]
      exact flow.failed_eq_false object (passes.carries some).1 (passes.carries some).2
  · rw [List.append_nil]
    exact ⟨⟨flow.handedOn, flow.inbound, flow.failing⟩, fun some => absurd rfl some⟩
  · rw [List.append_nil]
    exact ⟨⟨flow.handedOn, flow.inbound, flow.failing⟩, fun some => absurd rfl some⟩

/-- Messages flow in order along every run of one call. -/
theorem flow_of_run {view : CallView} {log : List CallObs}
    (run : callMachine.Run Machine.Free view log) : Flow view log :=
  run.invariant flow_start fun before flow _ taken => (flow.step (phase_of_run before) taken).1

/-- What a call put on the wire is a prefix of what R was told is accepted. -/
theorem carried_prefix_of_run {view : CallView} {log : List CallObs}
    (run : callMachine.Run Machine.Free view log) : carried log <+: (promised log).map .ofRaw :=
  (outflow_of_run run).emitted.carried_prefix (phase_of_run run).lawful

end Rgrpc.Server
