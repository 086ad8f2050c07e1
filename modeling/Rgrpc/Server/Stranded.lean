/-
This file is about accepted calls nobody attends to. A call waits for its first
message, then it is in the hands of R until R ends it; either way something is
outstanding on it or R can end it. There are two ways out of this. A read that
comes back without a message before R was handed the call, and a write that
fails, make the completion loop mark the call dead; a call that is not over but
dead refuses everything R asks of it, and once no operation of it is outstanding
nothing ends it. And an error raised under the lock leaves the mutex locked, so
that R can end no call any more.
-/

import Rgrpc.Server.Handover
import Rgrpc.Server.Termination

namespace Rgrpc.Server

open Library

/-! ### Ways to end a call -/

/-- Something the server posted on a call is outstanding. -/
def underway (cell : Cell SvCall SvOp) : Bool :=
  cell.tags.contains .read || cell.tags.contains .write || cell.tags.contains .finish

/-- R is able to end a call: its `request` event was pushed, and a cancel of it returns `TRUE`, as
it still does after R answered or finished the call. -/
structure InHand (server : RServer) (log : List ServerObs) (id address : Nat) : Prop where
  handed : ∃ event ∈ requests (callLog address log), event.id = id
  cancels : ∃ after news, server.grpcRServer2Cancel id = some (after, news) ∧
    .result id .cancel (.ok true) ∈ news

/-- Something the server posted on a call is outstanding, or R is able to end it. -/
def CanEnd (server : RServer) (log : List ServerObs) (id address : Nat) : Prop :=
  underway (server.arena.cell address) = true ∨ InHand server log id address

/-- A cancel returns `TRUE` exactly when the server is open, its mutex is free and the call with
the id is not dead. -/
theorem cancels_iff (server : RServer) (id : Nat) :
    (∃ after news, server.grpcRServer2Cancel id = some (after, news) ∧
        ServerObs.result id .cancel (.ok true) ∈ news) ↔
      server.closed = false ∧ server.muHeld = false ∧
        ∃ call, server.callWith id = some call ∧ call.dead = false := by
  constructor
  · rintro ⟨after, news, asked, accepted⟩
    rw [RServer.grpcRServer2Cancel] at asked
    rcases request_cases asked with
      quiet | ⟨address, opened, unlocked, found, ⟨call, object, -, rfl⟩ | missing⟩
    · exact absurd accepted (quiet.refused _ _)
    · refine ⟨opened, unlocked, call, by rw [RServer.callWith, found, Option.bind_some, object], ?_⟩
      by_contra dead
      rw [Bool.not_eq_false] at dead
      rw [answer_of_dead _ _ dead] at accepted
      simp [refuse] at accepted
    · simp only [RServer.request, opened, unlocked, RCall.validate, found, missing] at asked
      obtain ⟨-, rfl⟩ := Prod.mk.inj (Option.some.inj asked)
      simp at accepted
  · rintro ⟨opened, unlocked, call, found, alive⟩
    obtain ⟨address, -, -, equal⟩ := request_of_callWith opened unlocked
      (show RCall.cancel.validate = .ok () from rfl) found
    have answered : RCall.cancel.answer server.shutting call =
        ⟨call, [.accepted .cancel], .ok true⟩ := by
      rw [RCall.answer, cancelCall, if_neg (by rw [alive]; exact Bool.false_ne_true)]
    refine ⟨_, _, equal, ?_⟩
    rw [answered]
    exact List.mem_append_right _ (List.mem_singleton.mpr rfl)

/-! ### Calls that are attended to -/

/-- A call whose done tag is outstanding is attended to: until R is handed it, its first read is
outstanding, and if a write marked it dead, a read that was posted before is. -/
structure Attended (cell : Cell SvCall SvOp) (call : SvCall) : Prop where
  waiting : call.delivered = false → .read ∈ cell.tags
  dying : call.dead = true → .read ∈ cell.tags ∧ call.delivered = true ∧
    call.finishPosted = false ∧ call.writeInflight = false

/-- Whether the return of a tag takes the last way to end a call away: a read that comes back
without a message before R was handed the call, a read of a dead call, and a write that fails while
no read is outstanding. -/
def losesCall (tags : List SvOp) (call : SvCall) (op : SvOp) (ok : Bool) : Bool :=
  match op with
  | .read => call.dead || !call.delivered && !ok
  | .write => !ok && !tags.contains .read
  | _ => false

/-- Whether a request raises an error under the lock: it passes the checks before the lock, gets to
convert its strings, and one of them does not translate. -/
def RServer.raises (server : RServer) (id : Nat) (request : RCall) : Bool :=
  request.validate.isOk && server.converts id && !request.translates

/-- The steps that leave every call a way to end, until the server shuts down: no tag that comes
back takes the last way to end a call whose done tag is outstanding, and no request raises an error
under the lock while a call whose done tag is outstanding has nothing else outstanding. -/
def keepsCalls (server : RServer) : ServerInput → Bool
  | .returned address op delivery =>
    server.shutting || !(server.arena.cell address).tags.contains .done ||
      !(server.arena.cell address).object.any fun call =>
        losesCall (server.arena.cell address).tags call op delivery.ok
  | .request id request =>
    !server.raises id request || server.active.entries.all fun entry =>
      !(server.arena.cell entry.2).tags.contains .done || underway (server.arena.cell entry.2)
  | _ => true

/-! ### One call -/

section Handlers

variable {call : SvCall} {tags : List SvOp} {log : List CallObs} {delivery : Delivery}

/-- A read that does not take the last way to end its call away leaves it in the hands of R. -/
theorem handed_of_read (shutting : Bool) (nextId : Nat)
    (keeps : losesCall tags call .read delivery.ok = false) :
    (runCall shutting nextId .read delivery call).1.delivered = true ∧
      (runCall shutting nextId .read delivery call).1.dead = false := by
  refine ⟨?_, (runCall_dead _ _ _ _ _).trans keeps⟩
  rw [losesCall, Bool.or_eq_false_iff] at keeps
  rw [runCall_delivered, keeps.1]
  revert keeps
  cases call.delivered <;> cases delivery.ok <;> simp

/-- A write that marks its call dead, and does not take the last way to end it away, leaves a read
of it outstanding and nothing else. -/
theorem dying_of_write (ledger : Ledger call tags log) {cell : Cell SvCall SvOp}
    (attended : Attended cell call) (shutting : Bool) (nextId : Nat)
    (outstanding : SvOp.write ∈ tags) (keeps : losesCall tags call .write delivery.ok = false)
    (dead : (runCall shutting nextId .write delivery call).1.dead = true) :
    .read ∈ tags ∧ (runCall shutting nextId .write delivery call).1.delivered = true ∧
      (runCall shutting nextId .write delivery call).1.finishPosted = false ∧
      (runCall shutting nextId .write delivery call).1.writeInflight = false := by
  obtain ⟨delivered, unposted, -⟩ := ledger.writing outstanding
  have alive : call.dead = false := by
    by_contra dying
    rw [Bool.not_eq_false] at dying
    exact absurd (ledger.writeInflight_of_mem outstanding)
      (by rw [(attended.dying dying).2.2.2]; exact Bool.false_ne_true)
  have failed : delivery.ok = false := by
    have after : (call.dead || !delivery.ok) = true := (runCall_dead _ _ _ _ _).symm.trans dead
    rw [alive, Bool.false_or, Bool.not_eq_true'] at after
    exact after
  refine ⟨?_, ?_, ?_⟩
  · rw [losesCall, failed] at keeps
    simpa using keeps
  · rw [runCall_delivered, delivered, Bool.true_or]
  · rw [runCall, runWrite_of_not_ok shutting failed]
    exact ⟨unposted, rfl⟩

end Handlers

/-- A handler that does not take the last way to end its call away leaves it attended to. -/
theorem attended_handleTag {view : CallView} {log : List CallObs} (phase : Phase view log)
    (running : view.shutting = false) {op : SvOp} {delivery : Delivery} {call left : SvCall}
    (nextId : Nat) (outstanding : op ∈ view.cell.tags) (object : view.cell.object = some call)
    (attended : .done ∈ view.cell.tags → Attended view.cell call)
    (kept : .done ∈ view.cell.tags → losesCall view.cell.tags call op delivery.ok = false)
    (stored : (handleTag view.shutting nextId op delivery call view.cell.tags).1.object =
      some left)
    (doneAfter : .done ∈ (handleTag view.shutting nextId op delivery call view.cell.tags).1.tags) :
    Attended (handleTag view.shutting nextId op delivery call view.cell.tags).1 left := by
  have same := eq_of_handleTag stored
  cases phase with
  | slot cell opened =>
    rw [cell] at outstanding object doneAfter stored ⊢
    obtain rfl := List.mem_singleton.mp outstanding
    obtain rfl := Option.some.inj object
    cases matched : delivery.ok with
    | false => simp [handleTag, runCall, runAccept, matched, freed, newSlot] at stored
    | true =>
      rw [same, runCall_accept _ _ _ matched, running]
      refine ⟨fun _ => ?_, fun dead => absurd dead Bool.false_ne_true⟩
      rw [handleTag, runCall_accept _ _ _ matched]
      exact List.mem_append_right _ (List.mem_singleton.mpr rfl)
  | live other found settled =>
    obtain rfl := Option.some.inj (object.symm.trans found)
    have ledger := settled.ledger
    have accepted : op ≠ .accept := by
      rintro rfl
      exact ledger.accept_not_mem outstanding
    have doneBefore : SvOp.done ∈ view.cell.tags.erase op := by
      rw [handleTag] at doneAfter
      simpa [doneTag, accepted, done_not_mem_postedTags] using doneAfter
    have open_ := List.mem_of_mem_erase doneBefore
    have before := attended open_
    have keeps := kept open_
    -- The read tag, when it is not the one that came back, is still outstanding.
    have reading (different : op ≠ .read) (read : SvOp.read ∈ view.cell.tags) :
        .read ∈ (handleTag view.shutting nextId op delivery call view.cell.tags).1.tags :=
      List.mem_append_left _ (List.mem_append_left _
        ((List.mem_erase_of_ne different.symm).mpr read))
    cases op with
    | accept => exact absurd rfl accepted
    | read =>
      obtain ⟨handed, alive⟩ := handed_of_read view.shutting nextId keeps
      rw [same]
      exact ⟨fun waiting => absurd (waiting.symm.trans handed) Bool.false_ne_true,
        fun dead => absurd (alive.symm.trans dead) Bool.false_ne_true⟩
    | write =>
      have handed : left.delivered = true := by
        rw [same, runCall_delivered, (ledger.writing outstanding).1, Bool.true_or]
      refine ⟨fun waiting => absurd (waiting.symm.trans handed) Bool.false_ne_true, fun dead => ?_⟩
      rw [same] at dead ⊢
      obtain ⟨read, flags⟩ :=
        dying_of_write ledger before view.shutting nextId outstanding keeps dead
      exact ⟨reading (by simp) read, flags⟩
    | done =>
      have one := ledger.done
      have again := List.count_pos_iff.mpr doneBefore
      rw [List.count_erase_self] at again
      omega
    | finish =>
      rw [same]
      refine ⟨fun waiting => reading (by simp) (before.waiting waiting), fun dead => ?_⟩
      obtain ⟨read, flags⟩ := before.dying dead
      exact ⟨reading (by simp) read, flags⟩
  | gone cell deleted lawful =>
    rw [cell] at object
    exact absurd object (by simp)

/-- A request of R leaves a call attended to. -/
theorem attended_answered {cell : Cell SvCall SvOp} {call : SvCall} {shutting : Bool}
    {request : RCall} (attended : Attended cell call) :
    Attended (answeredCell (request.answer shutting call) cell.tags)
      (request.answer shutting call).call := by
  refine ⟨fun waiting => ?_, fun dead => ?_⟩
  · rw [(answer_delivered _ _ _).2] at waiting
    exact List.mem_append_left _ (attended.waiting waiting)
  · rw [answer_dead] at dead
    obtain ⟨read, flags⟩ := attended.dying dead
    rw [answer_of_dead _ _ dead]
    exact ⟨List.mem_append_left _ read, flags⟩

/-! ### Errors under the lock -/

/-- A request that reaches its call leaves the mutex locked exactly when it raises an error under
the lock. -/
theorem raises_eq_muHeld {server after : RServer} {id address : Nat} {request : RCall}
    {call : SvCall} {news : List ServerObs}
    (asked : server.request id request = some (after, news)) (opened : server.closed = false)
    (unlocked : server.muHeld = false) (found : server.active.lookup id = some address)
    (object : (server.arena.cell address).object = some call) :
    server.raises id request = after.muHeld := by
  have reached : server.callWith id = some call := by
    rw [RServer.callWith, found, Option.bind_some, object]
  cases valid : request.validate with
  | error error =>
    rw [RServer.request, opened, if_neg Bool.false_ne_true, valid] at asked
    obtain ⟨rfl, -⟩ := Prod.mk.inj (Option.some.inj asked)
    rw [RServer.raises, valid, unlocked]
    rfl
  | ok =>
    obtain ⟨other, -, -, equal⟩ := request_of_callWith opened unlocked valid reached
    rw [equal, Option.some.injEq, Prod.mk.injEq] at asked
    rw [← asked.1]
    show server.raises id request = (request.answer server.shutting call).raised
    rw [Bool.eq_iff_iff, answer_raised_iff, RServer.raises, valid, RServer.converts, opened,
      unlocked, reached]
    simp [Except.isOk, Except.toBool]

/-- A request that raises an error under the lock leaves the mutex locked, and the table of active
calls and the tags outstanding as they were. -/
theorem after_of_raises {server after : RServer} {id : Nat} {request : RCall}
    {news : List ServerObs} (asked : server.request id request = some (after, news))
    (raises : server.raises id request = true) :
    after.muHeld = true ∧ after.shutting = server.shutting ∧ after.active = server.active ∧
      ∀ other, (after.arena.cell other).tags = (server.arena.cell other).tags := by
  have reaches := raises
  simp only [RServer.raises, RServer.converts, Bool.and_eq_true, Bool.not_eq_true',
    Option.any_eq_true] at reaches
  obtain ⟨⟨valid, ⟨opened, unlocked⟩, call, reached, answerable⟩, marked⟩ := reaches
  have checked : request.validate = .ok () := by
    cases validated : request.validate with
    | error error =>
      rw [validated] at valid
      exact absurd valid Bool.false_ne_true
    | ok => rfl
  obtain ⟨address, found, object, equal⟩ := request_of_callWith opened unlocked checked reached
  have held := (answer_raised_iff server.shutting request call).mpr ⟨answerable, marked⟩
  rw [equal, Option.some.injEq, Prod.mk.injEq] at asked
  rw [← asked.1]
  refine ⟨held, rfl, rfl, fun other => ?_⟩
  rw [Arena.cell_set (Arena.lt_size_of_object object)]
  split
  · rename_i same
    rw [← same, answeredCell, (answer_raised held).2]
    exact List.append_nil _
  · rfl

/-! ### Runs of the server -/

/-- What the steps that leave every call a way to end keep of a server: its calls are attended to,
and when the mutex was left locked, every active one has something outstanding. -/
structure AttendedTo (server : RServer) : Prop where
  attended : server.muHeld = false → ∀ address call,
    (server.arena.cell address).object = some call → .done ∈ (server.arena.cell address).tags →
    Attended (server.arena.cell address) call
  wedged : server.muHeld = true → ∀ id address, server.active.lookup id = some address →
    .done ∈ (server.arena.cell address).tags → underway (server.arena.cell address) = true

theorem Attended.underway {cell : Cell SvCall SvOp} {call : SvCall} (attended : Attended cell call)
    (helpless : call.delivered = false ∨ call.dead = true) : underway cell = true := by
  have reading : SvOp.read ∈ cell.tags := by
    rcases helpless with waiting | dead
    · exact attended.waiting waiting
    · exact (attended.dying dead).1
  rw [Server.underway, List.contains_iff_mem.mpr reading, Bool.true_or, Bool.true_or]

theorem losesCall_of_keepsCalls {server : RServer} {address : Nat} {op : SvOp} {delivery : Delivery}
    {call : SvCall} (keeps : keepsCalls server (.returned address op delivery) = true)
    (running : server.shutting = false) (open_ : .done ∈ (server.arena.cell address).tags)
    (object : (server.arena.cell address).object = some call) :
    losesCall (server.arena.cell address).tags call op delivery.ok = false := by
  rw [keepsCalls, running, List.contains_iff_mem.mpr open_, object] at keeps
  simpa using keeps

/-- A handler that takes no last way to end a call away leaves every call attended to. -/
theorem Sound.attended_handle {server : RServer} {log : List ServerObs} (sound : Sound server log)
    (running : server.shutting = false) (unlocked : server.muHeld = false)
    (kept : AttendedTo server)
    {address : Nat} {op : SvOp} {delivery : Delivery} {call : SvCall}
    (keeps : keepsCalls server (.returned address op delivery) = true)
    (outstanding : op ∈ (server.arena.cell address).tags)
    (object : (server.arena.cell address).object = some call) :
    AttendedTo (server.handle address op delivery call).1 := by
  obtain ⟨count, whole, -⟩ := handle_eq server address op delivery call
  have free : (server.handle address op delivery call).1.muHeld = false := by
    rw [whole]
    exact (handleBody_flags server address op delivery call).2.1.trans unlocked
  refine ⟨fun _ other left stored doneAfter => ?_,
    fun held => absurd (free.symm.trans held) Bool.false_ne_true⟩
  by_cases old : other < server.arena.size
  · rw [cell_handle op delivery object old] at stored doneAfter ⊢
    split at stored
    · rename_i same
      subst same
      rw [if_pos rfl] at doneAfter ⊢
      exact attended_handleTag (sound.phase old) running server.nextId outstanding object
        (kept.attended unlocked address call object)
        (fun open_ => losesCall_of_keepsCalls keeps running open_ object) stored doneAfter
    · rename_i different
      rw [if_neg different] at doneAfter ⊢
      exact kept.attended unlocked other left stored doneAfter
  · rw [cell_handle_of_size_le (Nat.le_of_not_lt old) (Arena.lt_size_of_object stored)]
      at doneAfter
    simp [slotCell] at doneAfter

/-- A step that leaves every call a way to end keeps what such steps keep. -/
theorem Sound.kept_step {server after : RServer} {log news : List ServerObs}
    {input : ServerInput} (sound : Sound server log)
    (taken : serverStep server input = some (after, news))
    (keeps : keepsCalls server input = true) (running : after.shutting = false)
    (kept : server.shutting = false → AttendedTo server) : AttendedTo after := by
  rcases sound.step_cases taken with
    ⟨address, op, delivery, call, rfl, unlocked, outstanding, object, equal⟩ |
    ⟨id, request, address, call, rfl, opened, unlocked, found, object, left, -⟩ |
    ⟨-, quiet⟩ | ⟨rfl, opened, unlocked, rfl, rfl⟩ | ⟨rfl, joining, idle, rfl, rfl⟩
  · have shutting := handle_shutting server address op delivery call
    rw [equal] at shutting
    have before := shutting.symm.trans running
    have handled := sound.attended_handle before unlocked (kept before) keeps outstanding object
    rw [equal] at handled
    exact handled
  · have asked := call_of_rthread taken
    have raises := raises_eq_muHeld asked opened unlocked found object
    have before : server.shutting = false := by
      rw [left] at running
      exact running
    have cell (other : Nat) : after.arena.cell other =
        if address = other then answeredCell (request.answer server.shutting call)
          (server.arena.cell address).tags else server.arena.cell other := by
      rw [left]
      exact Arena.cell_set (Arena.lt_size_of_object object) _ other
    refine ⟨fun _ other found stored doneAfter => ?_, fun locked own other listed doneAfter => ?_⟩
    · rw [cell] at stored doneAfter ⊢
      split at stored
      · rename_i same
        subst same
        rw [if_pos rfl] at doneAfter ⊢
        obtain rfl := Option.some.inj stored
        have open_ : SvOp.done ∈ (server.arena.cell address).tags := by
          simpa [answeredCell, done_not_mem_postedTags] using doneAfter
        exact attended_answered ((kept before).attended unlocked address call object open_)
      · rename_i different
        rw [if_neg different] at doneAfter ⊢
        exact (kept before).attended unlocked other found stored doneAfter
    · obtain ⟨-, -, active, tags⟩ := after_of_raises asked (raises.trans locked)
      rw [active] at listed
      rw [tags] at doneAfter
      rw [keepsCalls, raises.trans locked, Bool.not_true, Bool.false_or, List.all_eq_true] at keeps
      have busy := keeps ⟨own, other⟩ (AList.mem_lookup_iff.mp listed)
      simpa [underway, tags, doneAfter] using busy
  · rw [quiet.same] at running ⊢
    have before := kept running
    exact ⟨before.attended, before.wedged⟩
  · exact absurd running.symm Bool.false_ne_true
  · exact absurd (running.symm.trans (sound.closing.trans (sound.joining joining))) (by simp)

theorem attendedTo_of_run {acceptWindow maxActive : Int} {wake : WakeHandle} {server : RServer}
    {log : List ServerObs}
    (run : (serverMachine acceptWindow maxActive wake).Run
      (fun server input => keepsCalls server input = true) server log)
    (running : server.shutting = false) : AttendedTo server := by
  induction run with
  | start =>
    obtain ⟨count, equal, -⟩ := postAcceptsLocked_eq { acceptWindow, maxActive, wake }
    show AttendedTo (createServer acceptWindow maxActive wake).1
    rw [createServer, equal]
    refine ⟨fun _ address call stored doneTag => ?_, fun held => absurd held Bool.false_ne_true⟩
    have inside := Arena.lt_size_of_object stored
    rw [size_withSlots] at inside
    rw [cell_withSlots_of_ge _ _ (Nat.zero_le _) inside] at doneTag
    simp [slotCell] at doneTag
  | next before keeps taken inductionHypothesis =>
    exact (sound_of_run before).kept_step taken keeps running inductionHypothesis

/-- An active call that is attended to can end. -/
theorem AttendedTo.canEnd {server : RServer} {log : List ServerObs} (kept : AttendedTo server)
    (sound : Sound server log) (running : server.shutting = false) {id address : Nat}
    (listed : server.active.lookup id = some address)
    (open_ : .done ∈ (server.arena.cell address).tags) : CanEnd server log id address := by
  cases unlocked : server.muHeld with
  | true => exact Or.inl (kept.wedged unlocked id address listed open_)
  | false =>
    obtain ⟨call, object, named, -⟩ := sound.active id address listed
    have attended := kept.attended unlocked address call object open_
    have handed := handed_of_run (sound.calls address (Arena.lt_size_of_object object)) object
    cases delivered : call.delivered with
    | false => exact Or.inl (attended.underway (Or.inl delivered))
    | true =>
      cases dead : call.dead with
      | true => exact Or.inl (attended.underway (Or.inr dead))
      | false =>
        obtain ⟨event, pushed, same⟩ := handed.pushed delivered
        refine Or.inr ⟨⟨event, pushed, same.trans named⟩, (cancels_iff server id).mpr
          ⟨sound.closing.symm.trans running, unlocked, call, ?_, dead⟩⟩
        rw [RServer.callWith, listed, Option.bind_some, object]

/-- A dead call with nothing outstanding but its done tag cannot end. -/
theorem not_canEnd_of_dead {server : RServer} {log : List ServerObs} {id address : Nat}
    {call : SvCall} (listed : server.active.lookup id = some address)
    (object : (server.arena.cell address).object = some call) (dead : call.dead = true)
    (idle : underway (server.arena.cell address) = false) : ¬ CanEnd server log id address := by
  rintro (outstanding | inHand)
  · exact Bool.false_ne_true (idle.symm.trans outstanding)
  · obtain ⟨-, -, found, reached, alive⟩ := (cancels_iff server id).mp inHand.cancels
    rw [RServer.callWith, listed, Option.bind_some, object] at reached
    obtain rfl := Option.some.inj reached
    exact absurd (alive.symm.trans dead) Bool.false_ne_true

/-- A tag that takes the last way to end a call away marks the call dead, or finds it so, posts
nothing and is the last operation outstanding. -/
structure Lost (tags : List SvOp) (op : SvOp) (ran : SvCall × List CallObs) : Prop where
  dead : ran.1.dead = true
  silent : postedTags ran.2 = []
  read : .read ∉ tags.erase op
  write : .write ∉ tags.erase op
  finish : .finish ∉ tags

theorem Lost.handledCell {server : RServer} {address : Nat} {op : SvOp} {delivery : Delivery}
    {call : SvCall}
    (lost : Lost (server.arena.cell address).tags op
      (runCall server.shutting server.nextId op delivery call))
    (operation : op ≠ .accept ∧ op ≠ .done)
    (open_ : .done ∈ (server.arena.cell address).tags) :
    .done ∈ (handledCell server address op delivery call).tags ∧
      underway (handledCell server address op delivery call) = false := by
  have tags : (Server.handledCell server address op delivery call).tags =
      (server.arena.cell address).tags.erase op := by
    simp [Server.handledCell, handleTag, doneTag, lost.silent, operation.1]
  have finish : SvOp.finish ∉ (server.arena.cell address).tags.erase op :=
    fun member => lost.finish (List.mem_of_mem_erase member)
  rw [underway, tags]
  refine ⟨(List.mem_erase_of_ne operation.2.symm).mpr open_, ?_⟩
  simp [lost.read, lost.write, finish]

section Lost

variable {call : SvCall} {tags : List SvOp} {log : List CallObs}

theorem Ledger.finish_not_mem (ledger : Ledger call tags log)
    (unposted : call.finishPosted = false) : .finish ∉ tags := by
  have none := ledger.finish
  rw [unposted, if_neg Bool.false_ne_true] at none
  exact List.count_eq_zero.mp (Nat.le_zero.mp none)

theorem Ledger.write_not_mem (ledger : Ledger call tags log) (idle : call.writeInflight = false) :
    .write ∉ tags := fun writing =>
  Bool.false_ne_true (idle.symm.trans (ledger.writeInflight_of_mem writing))

theorem Ledger.read_not_mem_erase (ledger : Ledger call tags log) :
    .read ∉ tags.erase .read := by
  have one := ledger.read
  rw [← List.count_eq_zero, List.count_erase_self, one]
  split <;> rfl

/-- A call R was not handed has neither a write nor a terminal outstanding. -/
theorem Ledger.idle_of_undelivered (ledger : Ledger call tags log)
    (waiting : call.delivered = false) :
    call.finishPosted = false ∧ call.writeInflight = false := by
  obtain ⟨unanswered, empty⟩ := ledger.handed waiting
  refine ⟨ledger.finishPosted_of_not_replied unanswered, ?_⟩
  by_contra writing
  rw [Bool.not_eq_false] at writing
  exact ledger.queued writing empty

theorem lost_of_losesCall (ledger : Ledger call tags log) {cell : Cell SvCall SvOp}
    (attended : Attended cell call) (shutting : Bool) (nextId : Nat) {op : SvOp}
    {delivery : Delivery} (outstanding : op ∈ tags)
    (loses : losesCall tags call op delivery.ok = true) :
    Lost tags op (runCall shutting nextId op delivery call) ∧ op ≠ .accept ∧ op ≠ .done := by
  cases op with
  | read =>
    have idle : call.finishPosted = false ∧ call.writeInflight = false := by
      cases dead : call.dead with
      | true => exact (attended.dying dead).2.2
      | false =>
        rw [losesCall, dead, Bool.false_or, Bool.and_eq_true, Bool.not_eq_true'] at loses
        exact ledger.idle_of_undelivered loses.1
    refine ⟨⟨(runCall_dead _ _ _ _ _).trans loses, ?_, ledger.read_not_mem_erase,
      fun writing => ledger.write_not_mem idle.2 (List.mem_of_mem_erase writing),
      ledger.finish_not_mem idle.1⟩, by simp, by simp⟩
    unfold runCall runRead
    simp only
    split_ifs <;> rfl
  | write =>
    rw [losesCall, Bool.and_eq_true, Bool.not_eq_true', Bool.not_eq_true'] at loses
    obtain ⟨failed, unread⟩ := loses
    obtain ⟨-, unposted, written⟩ := ledger.writing outstanding
    have ran : runCall shutting nextId .write delivery call =
        ({ call with pending := call.pending - 1, writeInflight := false, dead := true }, []) :=
      runWrite_of_not_ok shutting failed
    rw [ran]
    refine ⟨⟨rfl, rfl, fun reading => ?_, written, ledger.finish_not_mem unposted⟩, by simp,
      by simp⟩
    have again := List.contains_iff_mem.mpr (List.mem_of_mem_erase reading)
    exact Bool.false_ne_true (unread.symm.trans again)
  | _ => exact absurd loses Bool.false_ne_true

end Lost

theorem Sound.running_of_loses {server : RServer} {log : List ServerObs} (sound : Sound server log)
    {input : ServerInput} (loses : keepsCalls server input = false) : server.shutting = false := by
  cases input with
  | returned address op delivery =>
    rw [keepsCalls, Bool.or_eq_false_iff, Bool.or_eq_false_iff] at loses
    exact loses.1.1
  | request id request =>
    rw [keepsCalls, Bool.or_eq_false_iff, Bool.not_eq_false'] at loses
    have converts := loses.1
    simp only [RServer.raises, RServer.converts, Bool.and_eq_true, Bool.not_eq_true'] at converts
    exact sound.closing.trans converts.1.2.1.1
  | _ => exact absurd loses (by simp [keepsCalls])

section Breaking

variable {server after : RServer} {log news : List ServerObs}

/-- A tag that takes the last way to end its call away leaves it active, with no way to end. -/
theorem Sound.stranded_returned (sound : Sound server log) {address : Nat} {op : SvOp}
    {delivery : Delivery} {call : SvCall} (kept : AttendedTo server)
    (taken : serverStep server (.returned address op delivery) = some (after, news))
    (unlocked : server.muHeld = false) (outstanding : op ∈ (server.arena.cell address).tags)
    (object : (server.arena.cell address).object = some call)
    (equal : server.handle address op delivery call = (after, news))
    (open_ : .done ∈ (server.arena.cell address).tags)
    (loses : losesCall (server.arena.cell address).tags call op delivery.ok = true) :
    ∃ id, after.active.lookup id = some address ∧ .done ∈ (after.arena.cell address).tags ∧
      ¬ CanEnd after (log ++ news) id address := by
  obtain ⟨ledger, -⟩ := sound.ledger_of_mem open_ (by simp) object
  obtain ⟨lost, operation⟩ := lost_of_losesCall ledger
    (kept.attended unlocked address call object open_) server.shutting server.nextId
    outstanding loses
  obtain ⟨openAfter, idle⟩ := lost.handledCell operation open_
  have cell : after.arena.cell address = handledCell server address op delivery call := by
    have handled := cell_handle op delivery object (Arena.lt_size_of_object object)
    rw [equal, if_pos rfl] at handled
    exact handled
  rw [← cell] at openAfter idle
  have soundAfter := sound.step taken
  obtain ⟨left, stored⟩ := soundAfter.object_of_mem openAfter
  obtain ⟨-, named⟩ := soundAfter.ledger_of_mem openAfter (by simp) stored
  have same : left = (runCall server.shutting server.nextId op delivery call).1 := by
    rw [cell] at stored
    exact eq_of_handleTag stored
  have listed := soundAfter.listed address left stored named
  have dead : left.dead = true := by
    rw [same]
    exact lost.dead
  exact ⟨left.id, listed, openAfter, not_canEnd_of_dead listed stored dead idle⟩

/-- An error raised under the lock leaves a call that has nothing outstanding with no way to end. -/
theorem stranded_raised {id own other : Nat} {request : RCall}
    (asked : server.request id request = some (after, news))
    (raises : server.raises id request = true)
    (idle : underway (server.arena.cell other) = false) : ¬ CanEnd after log own other := by
  obtain ⟨held, -, -, tags⟩ := after_of_raises asked raises
  rintro (outstanding | inHand)
  · rw [underway, tags] at outstanding
    exact Bool.false_ne_true (idle.symm.trans outstanding)
  · obtain ⟨-, free, -⟩ := (cancels_iff after own).mp inHand.cancels
    exact Bool.false_ne_true (free.symm.trans held)

/-- A step that takes the last way to end a call away leaves it active, with no way to end. -/
theorem Sound.stranded_step {input : ServerInput} (sound : Sound server log)
    (taken : serverStep server input = some (after, news)) (kept : AttendedTo server)
    (loses : keepsCalls server input = false) :
    after.shutting = false ∧ ∃ id address, after.active.lookup id = some address ∧
      .done ∈ (after.arena.cell address).tags ∧ ¬ CanEnd after (log ++ news) id address := by
  have running := sound.running_of_loses loses
  cases input with
  | returned address op delivery =>
    rcases sound.step_cases taken with
      ⟨other, op, delivery, call, same, unlocked, outstanding, object, equal⟩ |
      ⟨id, request, other, call, absurdity, -⟩ | ⟨other, -⟩ | ⟨absurdity, -⟩ | ⟨absurdity, -⟩
    · obtain ⟨rfl, rfl, rfl⟩ := ServerInput.returned.inj same
      rw [keepsCalls, object] at loses
      simp only [Option.any_some, Bool.or_eq_false_iff, Bool.not_eq_false',
        List.contains_iff_mem] at loses
      obtain ⟨⟨-, open_⟩, lost⟩ := loses
      have shutting := handle_shutting server address op delivery call
      rw [equal] at shutting
      obtain ⟨id, stranded⟩ :=
        sound.stranded_returned kept taken unlocked outstanding object equal open_ lost
      exact ⟨shutting.trans running, id, address, stranded⟩
    · exact absurd absurdity (by simp)
    · exact absurd rfl (other address op delivery)
    · exact absurd absurdity (by simp)
    · exact absurd absurdity (by simp)
  | request id request =>
    rw [keepsCalls, Bool.or_eq_false_iff, Bool.not_eq_false', List.all_eq_false] at loses
    obtain ⟨raises, ⟨own, other⟩, listed, helpless⟩ := loses
    simp only [Bool.or_eq_true, Bool.not_eq_true', not_or, Bool.not_eq_false,
      List.contains_iff_mem, Bool.not_eq_true] at helpless
    have asked := call_of_rthread taken
    obtain ⟨-, shutting, active, tags⟩ := after_of_raises asked raises
    refine ⟨shutting.trans running, own, other, ?_, by rw [tags]; exact helpless.1,
      stranded_raised asked raises helpless.2⟩
    rw [active]
    exact AList.mem_lookup_iff.mpr listed
  | _ => exact absurd loses (by simp [keepsCalls])

end Breaking

/-- In every run whose steps leave every call a way to end, every active call of a server that is
not shutting down, whose done tag is still outstanding, has an operation outstanding or can be
ended by R. A step after such a run that is not one of these leaves a call with neither. -/
theorem no_call_stranded (acceptWindow maxActive : Int) (wake : WakeHandle) (server : RServer)
    (log : List ServerObs)
    (run : (serverMachine acceptWindow maxActive wake).Run
      (fun server input => keepsCalls server input = true) server log) :
    (server.shutting = false → ∀ id address, server.active.lookup id = some address →
      .done ∈ (server.arena.cell address).tags → CanEnd server log id address) ∧
    ∀ input after news, serverStep server input = some (after, news) →
      keepsCalls server input = false →
      after.shutting = false ∧ ∃ id address, after.active.lookup id = some address ∧
        .done ∈ (after.arena.cell address).tags ∧
        ¬ CanEnd after (log ++ news) id address := by
  have sound := sound_of_run run
  refine ⟨fun running id address listed open_ =>
    (attendedTo_of_run run running).canEnd sound running listed open_,
    fun input after news taken loses => ?_⟩
  exact sound.stranded_step taken (attendedTo_of_run run (sound.running_of_loses loses)) loses

theorem no_call_stranded_waiting : ∃ server log,
    (serverMachine 1 2 ⟨16, 0⟩).Run
      (fun server input => keepsCalls server input = true) server log ∧
      server.active.lookup 1 = some 0 ∧ .done ∈ (server.arena.cell 0).tags ∧
      CanEnd server log 1 0 := by
  have run := Machine.run_of_exec (show (serverMachine 1 2 ⟨16, 0⟩).exec
    (fun server input => keepsCalls server input = true)
    (serverMachine 1 2 ⟨16, 0⟩).start deliveredInputs = some _ from rfl)
  exact ⟨_, _, run, rfl, by decide,
    (no_call_stranded 1 2 ⟨16, 0⟩ _ _ run).1 rfl 1 0 rfl (by decide)⟩

/-- A peer opens a stream and half-closes it without sending a message. -/
def emptyStreamInputs : List ServerInput :=
  [.returned 0 .accept { ok := true },
    .returned 0 .read { ok := false }]

/-- The call of an empty stream stays active with nothing outstanding but its done tag, and was
never handed to R. -/
theorem call_stranded_emptyStream : ∃ server log,
    (serverMachine 1 2 ⟨16, 0⟩).Run Machine.Free server log ∧ server.shutting = false ∧
      server.active.lookup 1 = some 0 ∧ (server.arena.cell 0).tags = [.done] ∧
      ¬ CanEnd server log 1 0 := by
  have run := Machine.run_of_exec (show (serverMachine 1 2 ⟨16, 0⟩).exec Machine.Free
    (serverMachine 1 2 ⟨16, 0⟩).start emptyStreamInputs = some _ from rfl)
  exact ⟨_, _, run, rfl, rfl, rfl, not_canEnd_of_dead rfl rfl rfl rfl⟩

/-- So does the call of a request that R was handed, when the write of a message to it fails. -/
example : ∃ server log,
    (serverMachine 1 2 ⟨16, 0⟩).Run Machine.Free server log ∧ server.shutting = false ∧
      server.active.lookup 1 = some 0 ∧ (server.arena.cell 0).tags = [.done] ∧
      (requests (callLog 0 log)).map SvEvent.id = [1] ∧ ¬ CanEnd server log 1 0 := by
  have run := Machine.run_of_exec (show (serverMachine 1 2 ⟨16, 0⟩).exec Machine.Free
    (serverMachine 1 2 ⟨16, 0⟩).start
    (deliveredInputs ++ [.request 1 (.send [7]), .returned 0 .write { ok := false }]) =
      some _ from rfl)
  exact ⟨_, _, run, rfl, rfl, rfl, rfl, not_canEnd_of_dead rfl rfl rfl rfl⟩

end Rgrpc.Server
