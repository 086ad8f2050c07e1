/-
This file proves the accounting of one server call: its flags, its count of
pending tags and its write queue agree, after every step of every run, with the
operations that were posted and returned.

The accounting is kept by the parts of a handler one by one: the return of a
tag, the changes a case makes to the flags, and the pump. `Ledger` is what holds
between any two of these parts; `Settled` adds what only holds once the locked
section is over, when the pump has run.
-/

import Rgrpc.Server.Inversion

namespace Rgrpc.Server

open Library

/-! ### Counting a log -/

/-- How many operations of a kind were posted. -/
def posts (op : SvOp) (log : List CallObs) : Nat :=
  log.countP fun
    | .posted post => post.op == op
    | _ => false

/-- How many tags of a kind were returned. -/
def returns (op : SvOp) (log : List CallObs) : Nat :=
  log.countP fun
    | .returned other _ _ => other == op
    | _ => false

/-- The accept tag of the call came back with a matched call. -/
def WasAccepted (log : List CallObs) : Prop :=
  ∃ message, CallObs.returned .accept true message ∈ log

section Counting

variable (op : SvOp) (log more : List CallObs)

@[simp]
theorem posts_nil : posts op [] = 0 := rfl

@[simp]
theorem posts_append : posts op (log ++ more) = posts op log + posts op more :=
  List.countP_append

@[simp]
theorem posts_posted (post : SvPost) :
    posts op (.posted post :: log) = (if post.op = op then 1 else 0) + posts op log := by
  by_cases same : post.op = op <;> simp [posts, same, Nat.add_comm]

@[simp]
theorem posts_pushed (event : SvEvent) : posts op (.pushed event :: log) = posts op log := by
  simp [posts]

@[simp]
theorem posts_returned (other : SvOp) (ok : Bool) (message : ByteBuffer) :
    posts op (.returned other ok message :: log) = posts op log := by
  simp [posts]

@[simp]
theorem posts_accepted (request : RCall) :
    posts op (.accepted request :: log) = posts op log := by
  simp [posts]

@[simp]
theorem posts_deleted : posts op (.deleted :: log) = posts op log := by
  simp [posts]

@[simp]
theorem returns_nil : returns op [] = 0 := rfl

@[simp]
theorem returns_append : returns op (log ++ more) = returns op log + returns op more :=
  List.countP_append

@[simp]
theorem returns_returned (other : SvOp) (ok : Bool) (message : ByteBuffer) :
    returns op (.returned other ok message :: log) =
      (if other = op then 1 else 0) + returns op log := by
  by_cases same : other = op <;> simp [returns, same, Nat.add_comm]

@[simp]
theorem returns_posted (post : SvPost) :
    returns op (.posted post :: log) = returns op log := by
  simp [returns]

@[simp]
theorem returns_pushed (event : SvEvent) :
    returns op (.pushed event :: log) = returns op log := by
  simp [returns]

@[simp]
theorem returns_accepted (request : RCall) :
    returns op (.accepted request :: log) = returns op log := by
  simp [returns]

end Counting

@[simp]
theorem postedTags_nil : postedTags [] = [] := rfl

@[simp]
theorem postedTags_posted (post : SvPost) (log : List CallObs) :
    postedTags (.posted post :: log) = post.op :: postedTags log := rfl

@[simp]
theorem postedTags_pushed (event : SvEvent) (log : List CallObs) :
    postedTags (.pushed event :: log) = postedTags log := rfl

@[simp]
theorem postedTags_append (log more : List CallObs) :
    postedTags (log ++ more) = postedTags log ++ postedTags more :=
  List.filterMap_append

theorem WasAccepted.append {log : List CallObs} (accepted : WasAccepted log)
    (more : List CallObs) : WasAccepted (log ++ more) := by
  obtain ⟨message, member⟩ := accepted
  exact ⟨message, List.mem_append_left _ member⟩

/-! ### The rules for posting operations -/

/-- What must have happened on a call for an entry of its log to follow: the accept slot is the
first operation posted, and any other operation is posted after the slot was matched, while no
operation of its kind is outstanding and no terminal was posted. A terminal operation also waits
for the writes before it. -/
def Disciplined (before : List CallObs) : CallObs → Prop
  | .posted .requestCall => before = []
  | .posted post =>
    WasAccepted before ∧ posts .finish before = 0 ∧
      posts post.op before = returns post.op before ∧
      (post.op = .finish → posts .write before = returns .write before)
  | _ => True

theorem disciplined_of_not_posted {entry : CallObs} (silent : ∀ op, posts op [entry] = 0)
    (before : List CallObs) : Disciplined before entry := by
  cases entry with
  | posted post =>
    have one := silent post.op
    simp at one
  | _ => trivial

theorem lawful_append_of_silent {log obs : List CallObs} (lawful : Lawful Disciplined log)
    (silent : ∀ op, posts op obs = 0) : Lawful Disciplined (log ++ obs) := by
  refine lawful.append fun before entry after equal => disciplined_of_not_posted (fun op => ?_) _
  have zero := silent op
  rw [equal, posts_append, ← List.singleton_append, posts_append] at zero
  omega

theorem lawful_requestCall : Lawful Disciplined [.posted .requestCall] :=
  lawful_append_singleton.mpr ⟨lawful_nil _, rfl⟩

/-! ### The ledger of an accepted call -/

/-- The accounting of a call whose slot was matched: its flags and its count of pending tags
against the tags outstanding and the log, and its write queue against its flags. -/
structure Ledger (call : SvCall) (tags : List SvOp) (log : List CallObs) : Prop where
  pending : call.pending = tags.length
  accepted : WasAccepted log
  accept : tags.count .accept = 0
  read : tags.count .read = if call.readInflight then 1 else 0
  write : tags.count .write = if call.writeInflight then 1 else 0
  finish : tags.count .finish ≤ if call.finishPosted then 1 else 0
  done : tags.count .done ≤ 1
  balance : ∀ op, op ≠ .done → posts op log = returns op log + tags.count op
  terminal : posts .finish log = if call.finishPosted then 1 else 0
  queued : call.writeInflight = true → call.writeQueue ≠ []
  ended : call.finishPosted = true →
    call.replied = true ∧ call.writeInflight = false ∧ call.writeQueue = []
  handed : call.delivered = false → call.replied = false ∧ call.writeQueue = []
  lawful : Lawful Disciplined log

/-- The accept tag of a call that is in use came back. -/
theorem Ledger.accept_not_mem {call : SvCall} {tags : List SvOp} {log : List CallObs}
    (ledger : Ledger call tags log) : .accept ∉ tags :=
  List.count_eq_zero.mp ledger.accept

theorem Ledger.readInflight_of_mem {call : SvCall} {tags : List SvOp} {log : List CallObs}
    (ledger : Ledger call tags log) (outstanding : SvOp.read ∈ tags) :
    call.readInflight = true :=
  (mem_iff_flag ledger.read).mp outstanding

theorem Ledger.writeInflight_of_mem {call : SvCall} {tags : List SvOp} {log : List CallObs}
    (ledger : Ledger call tags log) (outstanding : SvOp.write ∈ tags) :
    call.writeInflight = true :=
  (mem_iff_flag ledger.write).mp outstanding

/-- An operation of a kind is posted: its tag and its entry of the log. -/
theorem balance_post {tags : List SvOp} {log : List CallObs}
    (balance : ∀ op, op ≠ .done → posts op log = returns op log + tags.count op) (post : SvPost) :
    ∀ op, op ≠ .done →
      posts op (log ++ [.posted post]) =
        returns op (log ++ [.posted post]) + (tags ++ [post.op]).count op := by
  intro op notDone
  have before := balance op notDone
  simp only [posts_append, posts_posted, posts_nil, returns_append, returns_posted, returns_nil,
    List.count_append, List.count_singleton, beq_iff_eq]
  omega

theorem Ledger.postWrite {call : SvCall} {tags : List SvOp} {log : List CallObs}
    (ledger : Ledger call tags log) (message : ByteBuffer) (idle : call.writeInflight = false)
    (waiting : call.writeQueue ≠ []) (running : call.finishPosted = false) :
    Ledger { call with writeInflight := true, pending := call.pending + 1 }
      (tags ++ [.write]) (log ++ [.posted (.write message)]) where
  pending := by simp [ledger.pending]
  accepted := ledger.accepted.append _
  accept := by simp [ledger.accept]
  read := by simp [ledger.read]
  write := by simp [ledger.write, idle]
  finish := by simpa using ledger.finish
  done := by simpa using ledger.done
  balance := balance_post ledger.balance (.write message)
  terminal := by simp [ledger.terminal, SvPost.op]
  queued := fun _ => waiting
  ended := fun ended => absurd ended (by simp [running])
  handed := ledger.handed
  lawful := by
    refine lawful_append_singleton.mpr ⟨ledger.lawful, ledger.accepted, ?_, ?_, ?_⟩
    · rw [ledger.terminal, running]
      rfl
    · have balanced := ledger.balance .write (by simp)
      rw [ledger.write, idle] at balanced
      exact balanced
    · exact fun kind => absurd kind (by simp [SvPost.op])

theorem Ledger.postRead {call : SvCall} {tags : List SvOp} {log : List CallObs}
    (ledger : Ledger call tags log) (idle : call.readInflight = false)
    (running : call.finishPosted = false) :
    Ledger { call with readInflight := true, pending := call.pending + 1 }
      (tags ++ [.read]) (log ++ [.posted .read]) where
  pending := by simp [ledger.pending]
  accepted := ledger.accepted.append _
  accept := by simp [ledger.accept]
  read := by simp [ledger.read, idle]
  write := by simp [ledger.write]
  finish := by simpa using ledger.finish
  done := by simpa using ledger.done
  balance := balance_post ledger.balance .read
  terminal := by simp [ledger.terminal, SvPost.op]
  queued := ledger.queued
  ended := ledger.ended
  handed := ledger.handed
  lawful := by
    refine lawful_append_singleton.mpr ⟨ledger.lawful, ledger.accepted, ?_, ?_, ?_⟩
    · rw [ledger.terminal, running]
      rfl
    · have balanced := ledger.balance .read (by simp)
      rw [ledger.read, idle] at balanced
      exact balanced
    · exact fun kind => absurd kind (by simp [SvPost.op])

theorem Ledger.postTerminal {call : SvCall} {tags : List SvOp} {log : List CallObs}
    (ledger : Ledger call tags log) (post : SvPost) (kind : post.op = .finish)
    (replied : call.replied = true) (idle : call.writeInflight = false)
    (drained : call.writeQueue = []) (running : call.finishPosted = false) :
    Ledger { call with finishPosted := true, pending := call.pending + 1 }
      (tags ++ [.finish]) (log ++ [.posted post]) where
  pending := by simp [ledger.pending]
  accepted := ledger.accepted.append _
  accept := by simp [ledger.accept]
  read := by simp [ledger.read]
  write := by simp [ledger.write]
  finish := by
    have before := ledger.finish
    simp only [running, Bool.false_eq_true, if_false] at before
    simp [Nat.le_zero.mp before]
  done := by simpa using ledger.done
  balance := kind ▸ balance_post ledger.balance post
  terminal := by simp [ledger.terminal, running, kind]
  queued := fun inflight => absurd inflight (by simp [idle])
  ended := fun _ => ⟨replied, idle, drained⟩
  handed := ledger.handed
  lawful := by
    have none : posts .finish log = 0 := by
      rw [ledger.terminal, running]
      rfl
    have law : WasAccepted log ∧ posts .finish log = 0 ∧
        posts post.op log = returns post.op log ∧
        (post.op = .finish → posts .write log = returns .write log) := by
      refine ⟨ledger.accepted, none, ?_, fun _ => ?_⟩
      · have balanced := ledger.balance .finish (by simp)
        rw [kind]
        omega
      · have balanced := ledger.balance .write (by simp)
        rw [ledger.write, idle] at balanced
        exact balanced
    refine lawful_append_singleton.mpr ⟨ledger.lawful, ?_⟩
    cases post with
    | requestCall => exact absurd kind (by simp [SvPost.op])
    | _ => exact law

/-- The pump keeps the ledger. -/
theorem Ledger.pump {call : SvCall} {tags : List SvOp} {log : List CallObs}
    (ledger : Ledger call tags log) (shutting : Bool) :
    Ledger (pumpLocked shutting call).1 (tags ++ postedTags (pumpLocked shutting call).2)
      (log ++ (pumpLocked shutting call).2) := by
  rcases pumpLocked_cases shutting call with
    ⟨same, -⟩ | ⟨-, -, running, idle, ⟨front, rest, queue, same⟩ | ⟨queue, replied, same⟩⟩
  · rw [same, postedTags_nil, List.append_nil, List.append_nil]
    exact ledger
  · rw [same]
    exact ledger.postWrite front idle (by simp [queue]) running
  · rw [same, postedTags_posted, terminalPost_op]
    exact ledger.postTerminal _ (terminalPost_op call) replied idle queue running

/-- Once the pump has run, a live call with a non-empty queue has a write outstanding, and one
with a requested terminal has a write outstanding or its terminal posted. -/
structure Pumped (call : SvCall) : Prop where
  flows : call.dead = false → call.writeQueue ≠ [] → call.writeInflight = true
  answers : call.dead = false → call.replied = true →
    call.writeInflight = true ∨ call.finishPosted = true

theorem Ledger.pumped {call : SvCall} {tags : List SvOp} {log : List CallObs}
    (ledger : Ledger call tags log) : Pumped (pumpLocked false call).1 := by
  rcases pumpLocked_cases false call with
    ⟨same, blocked⟩ | ⟨-, -, -, -, ⟨front, rest, queue, same⟩ | ⟨queue, replied, same⟩⟩
  · rw [same]
    rcases blocked with absurdity | dead | posted | inflight | ⟨queue, silent⟩
    · exact absurd absurdity (by simp)
    · exact ⟨fun alive => absurd (alive.symm.trans dead) Bool.false_ne_true,
        fun alive => absurd (alive.symm.trans dead) Bool.false_ne_true⟩
    · exact ⟨fun _ waiting => absurd (ledger.ended posted).2.2 waiting, fun _ _ => Or.inr posted⟩
    · exact ⟨fun _ _ => inflight, fun _ _ => Or.inl inflight⟩
    · exact ⟨fun _ waiting => absurd queue waiting,
        fun _ replied => absurd (silent.symm.trans replied) Bool.false_ne_true⟩
  · rw [same]
    exact ⟨fun _ _ => rfl, fun _ _ => Or.inl rfl⟩
  · rw [same]
    exact ⟨fun _ waiting => absurd queue waiting, fun _ _ => Or.inr rfl⟩

/-! ### Tags that come back -/

theorem balance_return {tags : List SvOp} {log : List CallObs}
    (balance : ∀ op, op ≠ .done → posts op log = returns op log + tags.count op) {op : SvOp}
    (outstanding : op ∈ tags) (ok : Bool) (message : ByteBuffer) :
    ∀ other, other ≠ .done →
      posts other (log ++ [.returned op ok message]) =
        returns other (log ++ [.returned op ok message]) + (tags.erase op).count other := by
  intro other notDone
  have before := balance other notDone
  rw [count_return outstanding other] at before
  simp only [posts_append, posts_returned, posts_nil, returns_append, returns_returned,
    returns_nil]
  omega

theorem Ledger.returnRead {call : SvCall} {tags : List SvOp} {log : List CallObs}
    (ledger : Ledger call tags log) (outstanding : SvOp.read ∈ tags) (ok : Bool)
    (message : ByteBuffer) :
    Ledger { call with pending := call.pending - 1, readInflight := false, request := message }
      (tags.erase .read) (log ++ [.returned .read ok message]) where
  pending := pending_return ledger.pending outstanding
  accepted := ledger.accepted.append _
  accept := by simp [ledger.accept]
  read := by simp [List.count_erase_self, ledger.read, ledger.readInflight_of_mem outstanding]
  write := by simp [ledger.write]
  finish := by simpa using ledger.finish
  done := by simpa using ledger.done
  balance := balance_return ledger.balance outstanding ok message
  terminal := by simp [ledger.terminal]
  queued := ledger.queued
  ended := ledger.ended
  handed := ledger.handed
  lawful := lawful_append_of_silent ledger.lawful fun _ => rfl

/-- A write comes back, and leaves the queue as it was or without its front. -/
theorem Ledger.returnWrite {call : SvCall} {tags : List SvOp} {log : List CallObs}
    (ledger : Ledger call tags log) (outstanding : SvOp.write ∈ tags) (ok : Bool)
    (message : ByteBuffer) (queue : List ByteBuffer)
    (kept : call.writeQueue = [] → queue = []) :
    Ledger { call with pending := call.pending - 1, writeInflight := false, writeQueue := queue }
      (tags.erase .write) (log ++ [.returned .write ok message]) where
  pending := pending_return ledger.pending outstanding
  accepted := ledger.accepted.append _
  accept := by simp [ledger.accept]
  read := by simp [ledger.read]
  write := by simp [List.count_erase_self, ledger.write, ledger.writeInflight_of_mem outstanding]
  finish := by simpa using ledger.finish
  done := by simpa using ledger.done
  balance := balance_return ledger.balance outstanding ok message
  terminal := by simp [ledger.terminal]
  queued := fun inflight => absurd inflight (by simp)
  ended := fun ended =>
    absurd (ledger.ended ended).2.1 (by simp [ledger.writeInflight_of_mem outstanding])
  handed := fun waiting => ⟨(ledger.handed waiting).1, kept (ledger.handed waiting).2⟩
  lawful := lawful_append_of_silent ledger.lawful fun _ => rfl

theorem Ledger.returnDone {call : SvCall} {tags : List SvOp} {log : List CallObs}
    (ledger : Ledger call tags log) (outstanding : SvOp.done ∈ tags) (ok : Bool)
    (message : ByteBuffer) :
    Ledger { call with pending := call.pending - 1 } (tags.erase .done)
      (log ++ [.returned .done ok message]) where
  pending := pending_return ledger.pending outstanding
  accepted := ledger.accepted.append _
  accept := by simp [ledger.accept]
  read := by simp [ledger.read]
  write := by simp [ledger.write]
  finish := by simpa using ledger.finish
  done := (List.erase_sublist.count_le _).trans ledger.done
  balance := balance_return ledger.balance outstanding ok message
  terminal := by simp [ledger.terminal]
  queued := ledger.queued
  ended := ledger.ended
  handed := ledger.handed
  lawful := lawful_append_of_silent ledger.lawful fun _ => rfl

theorem Ledger.returnFinish {call : SvCall} {tags : List SvOp} {log : List CallObs}
    (ledger : Ledger call tags log) (outstanding : SvOp.finish ∈ tags) (ok : Bool)
    (message : ByteBuffer) :
    Ledger { call with pending := call.pending - 1 } (tags.erase .finish)
      (log ++ [.returned .finish ok message]) where
  pending := pending_return ledger.pending outstanding
  accepted := ledger.accepted.append _
  accept := by simp [ledger.accept]
  read := by simp [ledger.read]
  write := by simp [ledger.write]
  finish := (List.erase_sublist.count_le _).trans ledger.finish
  done := by simpa using ledger.done
  balance := balance_return ledger.balance outstanding ok message
  terminal := by simp [ledger.terminal]
  queued := ledger.queued
  ended := ledger.ended
  handed := ledger.handed
  lawful := lawful_append_of_silent ledger.lawful fun _ => rfl

/-! ### Changes that post and return nothing -/

/-- What neither posts an operation nor returns a tag leaves the ledger alone. -/
theorem Ledger.note {call : SvCall} {tags : List SvOp} {log : List CallObs}
    (ledger : Ledger call tags log) (obs : List CallObs)
    (silent : ∀ op, posts op obs = 0 ∧ returns op obs = 0) : Ledger call tags (log ++ obs) where
  pending := ledger.pending
  accepted := ledger.accepted.append _
  accept := ledger.accept
  read := ledger.read
  write := ledger.write
  finish := ledger.finish
  done := ledger.done
  balance := by
    intro op notDone
    rw [posts_append, returns_append, (silent op).1, (silent op).2]
    exact ledger.balance op notDone
  terminal := by
    rw [posts_append, (silent .finish).1]
    exact ledger.terminal
  queued := ledger.queued
  ended := ledger.ended
  handed := ledger.handed
  lawful := lawful_append_of_silent ledger.lawful fun op => (silent op).1

/-- The flags and fields the ledger does not speak of may change. -/
theorem Ledger.change {call other : SvCall} {tags : List SvOp} {log : List CallObs}
    (ledger : Ledger call tags log) (pending : other.pending = call.pending)
    (readInflight : other.readInflight = call.readInflight)
    (writeInflight : other.writeInflight = call.writeInflight)
    (finishPosted : other.finishPosted = call.finishPosted)
    (queued : other.writeInflight = true → other.writeQueue ≠ [])
    (ended : other.finishPosted = true →
      other.replied = true ∧ other.writeInflight = false ∧ other.writeQueue = [])
    (handed : other.delivered = false → other.replied = false ∧ other.writeQueue = []) :
    Ledger other tags log where
  pending := pending.trans ledger.pending
  accepted := ledger.accepted
  accept := ledger.accept
  read := readInflight ▸ ledger.read
  write := writeInflight ▸ ledger.write
  finish := finishPosted ▸ ledger.finish
  done := ledger.done
  balance := ledger.balance
  terminal := finishPosted ▸ ledger.terminal
  queued := queued
  ended := ended
  handed := handed
  lawful := ledger.lawful

/-! ### Whole handlers -/

/-- A matched accept slot, with its first read posted unless the server is shutting down. -/
theorem runCall_accept (shutting : Bool) (nextId : Nat) (delivery : Delivery)
    (matched : delivery.ok = true) :
    runCall shutting nextId .accept delivery newSlot =
      if shutting then ({ id := nextId, ctx := delivery.context, pending := 1, dead := true }, [])
      else
        ({ id := nextId, ctx := delivery.context, pending := 1 + 1, readInflight := true },
          [.posted .read]) := by
  simp [runCall, runAccept, newSlot, matched]

/-- The ledger after a matched accept. -/
theorem ledger_runAccept (shutting : Bool) (nextId : Nat) (delivery : Delivery)
    (matched : delivery.ok = true) :
    Ledger (runCall shutting nextId .accept delivery newSlot).1
      ([.done] ++ postedTags (runCall shutting nextId .accept delivery newSlot).2)
      ([.posted .requestCall, .returned .accept true delivery.message] ++
        (runCall shutting nextId .accept delivery newSlot).2) := by
  have base (dead : Bool) : Ledger
      { id := nextId, ctx := delivery.context, pending := 1, dead := dead } [.done]
      [.posted .requestCall, .returned .accept true delivery.message] := by
    refine ⟨rfl, ⟨delivery.message, by simp⟩, rfl, rfl, rfl, Nat.zero_le _, Nat.le_refl _, ?_,
      rfl, ?_, ?_, fun _ => ⟨rfl, rfl⟩, ?_⟩
    · intro op notDone
      cases op with
      | done => exact absurd rfl notDone
      | _ => rfl
    · exact fun inflight => absurd inflight Bool.false_ne_true
    · exact fun posted => absurd posted Bool.false_ne_true
    · exact lawful_append_of_silent lawful_requestCall fun _ => rfl
  rw [runCall_accept shutting nextId delivery matched]
  cases shutting with
  | true => exact (base true).note [] fun _ => ⟨rfl, rfl⟩
  | false => exact (base false).postRead rfl rfl

theorem Ledger.runRead {call : SvCall} {tags : List SvOp} {log : List CallObs}
    (ledger : Ledger call tags log) (outstanding : SvOp.read ∈ tags) (delivery : Delivery) :
    Ledger (runRead delivery { call with pending := call.pending - 1 }).1
      (tags.erase .read ++
        postedTags (runRead delivery { call with pending := call.pending - 1 }).2)
      (log ++ [.returned .read delivery.ok delivery.message] ++
        (runRead delivery { call with pending := call.pending - 1 }).2) := by
  have returned := ledger.returnRead outstanding delivery.ok delivery.message
  unfold Server.runRead
  simp only
  split
  · split
    · rw [postedTags_pushed, postedTags_nil, List.append_nil]
      refine (returned.note _ fun op => by simp).change rfl rfl rfl rfl returned.queued
        returned.ended ?_
      exact fun absurdity => absurd absurdity (by simp)
    · rw [postedTags_pushed, postedTags_nil, List.append_nil]
      exact returned.note _ fun op => by simp
  · split
    · rw [postedTags_pushed, postedTags_nil, List.append_nil]
      exact returned.note _ fun op => by simp
    · rw [postedTags_nil, List.append_nil]
      exact (returned.note [] fun op => by simp).change rfl rfl rfl rfl returned.queued
        returned.ended returned.handed

theorem Ledger.runWrite {call : SvCall} {tags : List SvOp} {log : List CallObs}
    (ledger : Ledger call tags log) (outstanding : SvOp.write ∈ tags) (shutting : Bool)
    (delivery : Delivery) :
    Ledger (runWrite shutting delivery { call with pending := call.pending - 1 }).1
      (tags.erase .write ++
        postedTags (runWrite shutting delivery { call with pending := call.pending - 1 }).2)
      (log ++ [.returned .write delivery.ok delivery.message] ++
        (runWrite shutting delivery { call with pending := call.pending - 1 }).2) := by
  have popped := ledger.returnWrite outstanding delivery.ok delivery.message call.writeQueue.tail
    fun empty => by rw [empty]; rfl
  have kept := ledger.returnWrite outstanding delivery.ok delivery.message call.writeQueue id
  unfold Server.runWrite
  simp only
  split
  · split
    · have noted := (popped.note [.pushed { type := .streamWritable, id := call.id }]
        fun op => by simp).pump shutting
      rw [List.append_assoc] at noted
      rw [postedTags_append, postedTags_pushed, postedTags_nil, List.nil_append]
      exact noted
    · rw [List.nil_append]
      exact popped.pump shutting
  · rw [postedTags_nil, List.append_nil]
    exact (kept.note [] fun op => by simp).change rfl rfl rfl rfl kept.queued kept.ended
      kept.handed

theorem Ledger.runDone {call : SvCall} {tags : List SvOp} {log : List CallObs}
    (ledger : Ledger call tags log) (outstanding : SvOp.done ∈ tags) (delivery : Delivery) :
    Ledger (runDone { call with pending := call.pending - 1 }).1
      (tags.erase .done ++ postedTags (runDone { call with pending := call.pending - 1 }).2)
      (log ++ [.returned .done delivery.ok delivery.message] ++
        (runDone { call with pending := call.pending - 1 }).2) := by
  have returned := ledger.returnDone outstanding delivery.ok delivery.message
  unfold Server.runDone
  split
  · rw [postedTags_pushed, postedTags_nil, List.append_nil]
    exact (returned.note _ fun op => by simp).change rfl rfl rfl rfl returned.queued
      returned.ended returned.handed
  · rw [postedTags_nil, List.append_nil]
    exact returned.note [] fun op => by simp

/-- The ledger survives the return of any tag of an accepted call. -/
theorem Ledger.runCall {call : SvCall} {tags : List SvOp} {log : List CallObs}
    (ledger : Ledger call tags log) {op : SvOp} (outstanding : op ∈ tags) (shutting : Bool)
    (nextId : Nat) (delivery : Delivery) :
    Ledger (runCall shutting nextId op delivery call).1
      (tags.erase op ++ doneTag op delivery.ok ++
        postedTags (runCall shutting nextId op delivery call).2)
      (log ++ [.returned op delivery.ok delivery.message] ++
        (runCall shutting nextId op delivery call).2) := by
  cases op with
  | accept =>
    exact absurd outstanding ledger.accept_not_mem
  | read =>
    rw [show doneTag .read delivery.ok = [] from rfl, List.append_nil]
    exact ledger.runRead outstanding delivery
  | write =>
    rw [show doneTag .write delivery.ok = [] from rfl, List.append_nil]
    exact ledger.runWrite outstanding shutting delivery
  | done =>
    rw [show doneTag .done delivery.ok = [] from rfl, List.append_nil]
    exact ledger.runDone outstanding delivery
  | finish =>
    rw [show doneTag .finish delivery.ok = [] from rfl, List.append_nil]
    rw [show (Server.runCall shutting nextId .finish delivery call).2 = [] from rfl,
      postedTags_nil, List.append_nil, List.append_nil]
    exact ledger.returnFinish outstanding delivery.ok delivery.message

/-! ### Requests of R -/

theorem queueLeft_ne_nil {request : RCall} {call : SvCall} (inflight : call.writeInflight = true)
    (queued : call.writeQueue ≠ []) : request.queueLeft call ≠ [] := by
  rw [RCall.queueLeft, discardQueued, if_pos inflight]
  split
  · exact fun empty => queued ((List.take_eq_nil_iff.mp empty).resolve_left Nat.one_ne_zero)
  · exact queued

/-- A call that was not answered has posted no terminal. -/
theorem Ledger.finishPosted_of_not_replied {call : SvCall} {tags : List SvOp}
    {log : List CallObs} (ledger : Ledger call tags log) (silent : call.replied = false) :
    call.finishPosted = false := by
  by_contra posted
  rw [Bool.not_eq_false] at posted
  exact absurd (silent.symm.trans (ledger.ended posted).1) Bool.false_ne_true

theorem Ledger.armed {call : SvCall} {tags : List SvOp} {log : List CallObs}
    (ledger : Ledger call tags log) (request : RCall) (delivered : call.delivered = true)
    (silent : call.replied = false) : Ledger (call.armed request) tags log := by
  have running := ledger.finishPosted_of_not_replied silent
  refine ledger.change rfl rfl rfl rfl ?_ ?_ ?_
  · exact fun inflight => queueLeft_ne_nil inflight (ledger.queued inflight)
  · exact fun posted => absurd (running.symm.trans posted) Bool.false_ne_true
  · exact fun undelivered => absurd (undelivered.symm.trans delivered) Bool.false_ne_true

theorem Ledger.halfArmed {call : SvCall} {tags : List SvOp} {log : List CallObs}
    (ledger : Ledger call tags log) (request : RCall) (trailing : MdPairs) (hasFinalWrite : Bool)
    (delivered : call.delivered = true) (silent : call.replied = false) :
    Ledger (call.halfArmed request trailing hasFinalWrite) tags log := by
  have running := ledger.finishPosted_of_not_replied silent
  refine ledger.change rfl rfl rfl rfl ?_ ?_ ?_
  · exact fun inflight => queueLeft_ne_nil inflight (ledger.queued inflight)
  · exact fun posted => absurd (running.symm.trans posted) Bool.false_ne_true
  · exact fun undelivered => absurd (undelivered.symm.trans delivered) Bool.false_ne_true

theorem Ledger.queue {call : SvCall} {tags : List SvOp} {log : List CallObs}
    (ledger : Ledger call tags log) (bytes : Bytes) (delivered : call.delivered = true)
    (silent : call.replied = false) :
    Ledger { call with writeQueue := call.writeQueue ++ [.ofRaw bytes] } tags log := by
  have running := ledger.finishPosted_of_not_replied silent
  refine ledger.change rfl rfl rfl rfl ?_ ?_ ?_
  · exact fun _ => by simp
  · exact fun posted => absurd (running.symm.trans posted) Bool.false_ne_true
  · exact fun undelivered => absurd (undelivered.symm.trans delivered) Bool.false_ne_true

theorem Ledger.acceptAndPump {call : SvCall} {tags : List SvOp} {log : List CallObs}
    (ledger : Ledger call tags log) (shutting : Bool) (request : RCall) :
    Ledger (acceptAndPump shutting request call).call
      (tags ++ postedTags (acceptAndPump shutting request call).obs)
      (log ++ (acceptAndPump shutting request call).obs) := by
  have pumped := (ledger.note [.accepted request] fun op => by simp).pump shutting
  rw [List.append_assoc] at pumped
  exact pumped

/-- The ledger survives every request of R. -/
theorem Ledger.answer {call : SvCall} {tags : List SvOp} {log : List CallObs}
    (ledger : Ledger call tags log) (shutting : Bool) (request : RCall) :
    Ledger (request.answer shutting call).call
      (tags ++ postedTags (request.answer shutting call).obs)
      (log ++ (request.answer shutting call).obs) := by
  have silentNote {other : SvCall} (same : Ledger other tags log) :
      Ledger other (tags ++ postedTags []) (log ++ []) := by
    rw [postedTags_nil, List.append_nil, List.append_nil]
    exact same
  rcases answer_cases shutting request call with
    refused | ⟨-, -, -, idle, running, read⟩ | ⟨-, -, cancelled⟩ |
    ⟨bytes, -, delivered, -, silent, -, sent⟩ |
    ⟨-, delivered, silent, -, accepted | ⟨trailing, hasFinalWrite, error, raised⟩⟩
  · rw [refused]
    exact silentNote ledger
  · rw [read]
    have posted := (ledger.note [.accepted .read] fun op => by simp).postRead idle running
    rw [List.append_assoc] at posted
    exact posted
  · rw [cancelled]
    show Ledger call (tags ++ postedTags []) (log ++ [.accepted .cancel])
    rw [postedTags_nil, List.append_nil]
    exact ledger.note _ fun op => by simp
  · rw [sent]
    exact (ledger.queue bytes delivered silent).acceptAndPump shutting _
  · rw [accepted]
    exact (ledger.armed request delivered silent).acceptAndPump shutting request
  · rw [raised]
    exact silentNote (ledger.halfArmed request trailing hasFinalWrite delivered silent)

end Rgrpc.Server
