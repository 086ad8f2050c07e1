/-
This file says once what the locked sections of one server call can do: what the
pump posts, and how each request of R is answered. Everything later reasons from
these case lemmas and does not unfold the sections again.

A terminal request is a `grpc_reply` or a `grpc_finish`. What it asks for is read
off its arguments: a status, the trailing metadata, for an OK reply a last
message, and whether the messages still queued are to be discarded.
-/

import Rgrpc.Server.Server

namespace Rgrpc.Server

open Library

/-! ### The pump -/

theorem terminalPost_op (call : SvCall) : call.terminalPost.op = .finish := by
  unfold SvCall.terminalPost
  split <;> rfl

/-- The pump posts nothing, or the write at the front of the queue, or the terminal operation once
the queue is empty. -/
theorem pumpLocked_cases (shutting : Bool) (call : SvCall) :
    (pumpLocked shutting call = (call, []) ∧
        (shutting = true ∨ call.dead = true ∨ call.finishPosted = true ∨
          call.writeInflight = true ∨ call.writeQueue = [] ∧ call.replied = false)) ∨
      shutting = false ∧ call.dead = false ∧ call.finishPosted = false ∧
        call.writeInflight = false ∧
        ((∃ front rest, call.writeQueue = front :: rest ∧
            pumpLocked shutting call =
              ({ call with writeInflight := true, pending := call.pending + 1 },
                [.posted (.write front)])) ∨
          call.writeQueue = [] ∧ call.replied = true ∧
            pumpLocked shutting call =
              ({ call with finishPosted := true, pending := call.pending + 1 },
                [.posted call.terminalPost])) := by
  unfold pumpLocked
  cases shutting with
  | true => exact Or.inl ⟨rfl, Or.inl rfl⟩
  | false =>
    cases dead : call.dead with
    | true => exact Or.inl ⟨rfl, Or.inr (Or.inl rfl)⟩
    | false =>
      cases posted : call.finishPosted with
      | true => exact Or.inl ⟨rfl, Or.inr (Or.inr (Or.inl rfl))⟩
      | false =>
        cases inflight : call.writeInflight with
        | true => exact Or.inl ⟨rfl, Or.inr (Or.inr (Or.inr (Or.inl rfl)))⟩
        | false =>
          cases queue : call.writeQueue with
          | cons front rest => exact Or.inr ⟨rfl, rfl, rfl, rfl, Or.inl ⟨front, rest, rfl, rfl⟩⟩
          | nil =>
            cases replied : call.replied with
            | true => exact Or.inr ⟨rfl, rfl, rfl, rfl, Or.inr ⟨rfl, rfl, rfl⟩⟩
            | false => exact Or.inl ⟨rfl, Or.inr (Or.inr (Or.inr (Or.inr ⟨rfl, rfl⟩)))⟩

/-! ### What a handler does -/

/-- Whether an observation is of something a handler did: an operation posted or an event pushed. -/
def CallObs.isAct : CallObs → Bool
  | .posted _ => true
  | .pushed _ => true
  | _ => false

theorem isAct_pumpLocked (shutting : Bool) (call : SvCall) :
    ∀ entry ∈ (pumpLocked shutting call).2, entry.isAct = true := by
  rcases pumpLocked_cases shutting call with
    ⟨same, -⟩ | ⟨-, -, -, -, ⟨front, rest, -, same⟩ | ⟨-, -, same⟩⟩ <;>
  · rw [same]
    simp [CallObs.isAct]

theorem isAct_runCall (shutting : Bool) (nextId : Nat) (op : SvOp) (delivery : Delivery)
    (call : SvCall) :
    ∀ entry ∈ (runCall shutting nextId op delivery call).2, entry.isAct = true := by
  cases op with
  | accept =>
    unfold runCall runAccept
    simp only
    split_ifs <;> simp [CallObs.isAct]
  | read =>
    unfold runCall runRead
    simp only
    split_ifs <;> simp [CallObs.isAct]
  | write =>
    unfold runCall runWrite
    simp only
    split
    · intro entry member
      rcases List.mem_append.mp member with notice | pumped
      · split at notice
        · rw [List.mem_singleton.mp notice]
          rfl
        · exact absurd notice List.not_mem_nil
      · exact isAct_pumpLocked _ _ entry pumped
    · simp
  | done =>
    unfold runCall runDone
    simp only
    split <;> simp [CallObs.isAct]
  | finish => simp [runCall]

/-! ### Terminal requests -/

/-- Whether a request asks to end the call: a reply or a finish. -/
def RCall.isTerminal : RCall → Bool
  | .reply _ => true
  | .finish _ => true
  | _ => false

/-- Whether a request discards the messages still queued: a finish without draining. -/
def RCall.aborts : RCall → Bool
  | .finish args => !args.drain
  | _ => false

/-- The status a code and a message stand for. -/
def requestedStatus (code : Int) (message : Option RString) : Status :=
  if code = 0 then .ok else ⟨code, (message.map RString.utf8).getD []⟩

/-- The status a terminal request asks for. -/
def RCall.status : RCall → Status
  | .reply args => requestedStatus args.status args.message
  | .finish args => requestedStatus args.status args.message
  | _ => .ok

/-- The last message a terminal request carries: the response of an OK reply. -/
def RCall.payload : RCall → Option ByteBuffer
  | .reply args => if args.status = 0 then some (.ofRaw (args.response.getD [])) else none
  | _ => none

/-- The trailing metadata a terminal request carries. -/
def RCall.trailing : RCall → MdPairs
  | .reply args => (args.metadata.map RMetadata.utf8).getD []
  | .finish args => (args.metadata.map RMetadata.utf8).getD []
  | _ => []

/-- The terminal operation a terminal request asks for. -/
def RCall.terminalPost (request : RCall) : SvPost :=
  match request.payload with
  | some message => .writeAndFinish message request.status request.trailing
  | none => .finish request.status request.trailing

/-- What a terminal request leaves of the write queue. -/
def RCall.queueLeft (request : RCall) (call : SvCall) : List ByteBuffer :=
  if request.aborts then discardQueued call else call.writeQueue

/-- A call with a terminal request armed on it. -/
def SvCall.armed (call : SvCall) (request : RCall) : SvCall :=
  { call with
    replied := true
    writeQueue := request.queueLeft call
    trailingMetadata := call.trailingMetadata ++ request.trailing
    hasFinalWrite := request.payload.isSome
    finalWrite := request.payload.getD call.finalWrite
    finalStatus := request.status }

/-- A call on which an error was raised in the middle of a terminal request. -/
def SvCall.halfArmed (call : SvCall) (request : RCall) (trailing : MdPairs)
    (hasFinalWrite : Bool) : SvCall :=
  { call with
    replied := true
    writeQueue := request.queueLeft call
    trailingMetadata := trailing
    hasFinalWrite := hasFinalWrite }

theorem addTrailingMetadata_cases (call : SvCall) (metadata : Option RMetadata) :
    (∃ trailing error, addTrailingMetadata call metadata =
        ({ call with trailingMetadata := trailing }, some error)) ∨
      addTrailingMetadata call metadata =
        ({ call with trailingMetadata :=
            call.trailingMetadata ++ (metadata.map RMetadata.utf8).getD [] }, none) := by
  cases metadata with
  | none =>
    refine Or.inr ?_
    simp [addTrailingMetadata]
  | some metadata =>
    cases translates : metadata.translates with
    | true =>
      refine Or.inr ?_
      rw [addTrailingMetadata, addMetadata_of_translates translates]
      rfl
    | false =>
      refine Or.inl ⟨(addMetadata call.trailingMetadata metadata).1, ?_⟩
      cases raised : (addMetadata call.trailingMetadata metadata).2 with
      | none =>
        have clean := (addMetadata_error_iff metadata call.trailingMetadata).mp raised
        exact absurd (translates.symm.trans clean) Bool.false_ne_true
      | some error =>
        refine ⟨error, ?_⟩
        rw [addTrailingMetadata, raised]

theorem translateMessage_cases (message : Option RString) :
    (∃ error, translateMessage message = .error error) ∨
      translateMessage message = .ok ((message.map RString.utf8).getD []) := by
  rcases message with _ | (text | raw)
  · exact Or.inl ⟨_, rfl⟩
  · exact Or.inr rfl
  · exact Or.inl ⟨_, rfl⟩

/-- A terminal request on a call that can still be answered is accepted and armed, or an error is
raised in the middle of it. -/
theorem answer_terminal_of_answerable (shutting : Bool) (request : RCall) (call : SvCall)
    (terminal : request.isTerminal = true) (delivered : call.delivered = true)
    (silent : call.replied = false) (alive : call.dead = false) :
    request.answer shutting call = acceptAndPump shutting request (call.armed request) ∨
      ∃ trailing hasFinalWrite error, request.answer shutting call =
        ⟨call.halfArmed request trailing hasFinalWrite, [], .error error⟩ := by
  cases request with
  | read => exact absurd terminal Bool.false_ne_true
  | cancel => exact absurd terminal Bool.false_ne_true
  | send bytes => exact absurd terminal Bool.false_ne_true
  | reply args =>
    have blocked : (!call.delivered || call.replied || call.dead) = false := by
      rw [delivered, silent, alive]
      rfl
    rw [RCall.answer, replyCall, if_neg (by rw [blocked]; exact Bool.false_ne_true)]
    rcases addTrailingMetadata_cases { call with replied := true } args.metadata with
      ⟨trailing, error, raised⟩ | added
    · refine Or.inr ⟨trailing, call.hasFinalWrite, error, ?_⟩
      simp only [raised]
      rfl
    · simp only [added]
      by_cases code : args.status = 0
      · refine Or.inl ?_
        rw [if_pos (by simp [code])]
        simp [SvCall.armed, RCall.queueLeft, RCall.aborts, RCall.trailing, RCall.payload,
          RCall.status, requestedStatus, code]
      · rw [if_neg (by simp [code])]
        rcases translateMessage_cases args.message with ⟨error, raised⟩ | text
        · refine Or.inr ⟨call.trailingMetadata ++ (RCall.reply args).trailing,
            call.hasFinalWrite, error, ?_⟩
          simp only [raised]
          rfl
        · refine Or.inl ?_
          simp [text, SvCall.armed, RCall.queueLeft, RCall.aborts, RCall.trailing, RCall.payload,
            RCall.status, requestedStatus, code]
  | finish args =>
    have blocked : (!call.delivered || call.replied || call.dead) = false := by
      rw [delivered, silent, alive]
      rfl
    rw [RCall.answer, finishCall, if_neg (by rw [blocked]; exact Bool.false_ne_true)]
    have queue : (if args.drain = true then { call with replied := true } else
        { call with replied := true, writeQueue := discardQueued { call with replied := true } }) =
        { call with replied := true, writeQueue := (RCall.finish args).queueLeft call } := by
      cases drains : args.drain <;>
        simp [RCall.queueLeft, RCall.aborts, drains, discardQueued]
    simp only [queue]
    rcases addTrailingMetadata_cases { call with
        replied := true, writeQueue := (RCall.finish args).queueLeft call } args.metadata with
      ⟨trailing, error, raised⟩ | added
    · refine Or.inr ⟨trailing, call.hasFinalWrite, error, ?_⟩
      simp only [raised]
      rfl
    · simp only [added]
      by_cases code : args.status = 0
      · refine Or.inl ?_
        rw [if_pos (by simp [code])]
        simp [SvCall.armed, RCall.trailing, RCall.payload, RCall.status, requestedStatus, code]
      · rw [if_neg (by simp [code])]
        rcases translateMessage_cases args.message with ⟨error, raised⟩ | text
        · refine Or.inr ⟨call.trailingMetadata ++ (RCall.finish args).trailing, false, error,
            ?_⟩
          simp only [raised]
          rfl
        · refine Or.inl ?_
          simp [text, SvCall.armed, RCall.trailing, RCall.payload, RCall.status, requestedStatus,
            code]

/-! ### All requests -/

/-- How a request of R is answered: refused, or accepted as a read, a cancel, a send or a
terminal, or ended by an error in the middle of a terminal. -/
theorem answer_cases (shutting : Bool) (request : RCall) (call : SvCall) :
    request.answer shutting call = refuse call ∨
      (request = .read ∧ call.delivered = true ∧ call.dead = false ∧ call.readInflight = false ∧
        call.finishPosted = false ∧
        request.answer shutting call =
          ⟨{ call with readInflight := true, pending := call.pending + 1 },
            [.accepted .read, .posted .read], .ok true⟩) ∨
      (request = .cancel ∧ call.dead = false ∧
        request.answer shutting call = ⟨call, [.accepted .cancel], .ok true⟩) ∨
      (∃ bytes, request = .send bytes ∧ call.delivered = true ∧ call.dead = false ∧
        call.replied = false ∧ call.writeQueue.length < call.writeCap ∧
        request.answer shutting call = acceptAndPump shutting (.send bytes)
          { call with writeQueue := call.writeQueue ++ [.ofRaw bytes] }) ∨
      request.isTerminal = true ∧ call.delivered = true ∧ call.replied = false ∧
        call.dead = false ∧
        (request.answer shutting call = acceptAndPump shutting request (call.armed request) ∨
          ∃ trailing hasFinalWrite error, request.answer shutting call =
            ⟨call.halfArmed request trailing hasFinalWrite, [], .error error⟩) := by
  have terminalRefused (blocked : (!call.delivered || call.replied || call.dead) = true)
      (terminal : request.isTerminal = true) : request.answer shutting call = refuse call := by
    cases request with
    | reply args => rw [RCall.answer, replyCall, if_pos blocked]
    | finish args => rw [RCall.answer, finishCall, if_pos blocked]
    | _ => exact absurd terminal Bool.false_ne_true
  have terminalCase (terminal : request.isTerminal = true) : _ :=
    answer_terminal_of_answerable shutting request call terminal
  cases kind : request.isTerminal with
  | true =>
    cases blocked : (!call.delivered || call.replied || call.dead) with
    | true => exact Or.inl (terminalRefused blocked kind)
    | false =>
      simp only [Bool.or_eq_false_iff, Bool.not_eq_false'] at blocked
      obtain ⟨⟨delivered, silent⟩, alive⟩ := blocked
      exact Or.inr (Or.inr (Or.inr (Or.inr
        ⟨rfl, delivered, silent, alive, terminalCase kind delivered silent alive⟩)))
  | false =>
    cases request with
    | reply args => exact absurd kind (by simp [RCall.isTerminal])
    | finish args => exact absurd kind (by simp [RCall.isTerminal])
    | read =>
      rw [RCall.answer, readCall]
      split
      · exact Or.inl rfl
      · rename_i open_
        simp only [Bool.or_eq_true, Bool.not_eq_true', not_or, Bool.not_eq_false,
          Bool.not_eq_true] at open_
        obtain ⟨⟨⟨delivered, alive⟩, idle⟩, running⟩ := open_
        exact Or.inr (Or.inl ⟨rfl, delivered, alive, idle, running, rfl⟩)
    | cancel =>
      rw [RCall.answer, cancelCall]
      split
      · exact Or.inl rfl
      · rename_i alive
        exact Or.inr (Or.inr (Or.inl ⟨rfl, by simpa using alive, rfl⟩))
    | send bytes =>
      rw [RCall.answer, sendCall]
      split
      · exact Or.inl rfl
      · rename_i open_
        simp only [Bool.or_eq_true, Bool.not_eq_true', not_or, Bool.not_eq_false,
          Bool.not_eq_true] at open_
        obtain ⟨⟨delivered, alive⟩, silent⟩ := open_
        split
        · exact Or.inl rfl
        · rename_i room
          exact Or.inr (Or.inr (Or.inr (Or.inl
            ⟨bytes, rfl, delivered, alive, silent, Nat.lt_of_not_le room, rfl⟩)))

end Rgrpc.Server
