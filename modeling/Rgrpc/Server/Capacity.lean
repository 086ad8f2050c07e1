/-
This file is about the accept slots of the server: how many there are, and when
the server has fewer than it wants.

A slot or a call is given back by whichever tag of it comes back last, but only
some cases of the completion loop post new slots afterwards. An accept that
comes back unmatched does not, and neither does a read or a write that frees its
call because the done tag came back before it. As long as no step is one of
these, the loop condition of `post_accepts_locked` is false between handlers;
each such step makes it true.
-/

import Rgrpc.Server.Discipline

namespace Rgrpc.Server

open Library

/-! ### The bounds on slots and calls -/

section Body

variable (server : RServer) (address : Nat) (op : SvOp) (delivery : Delivery) (call : SvCall)

theorem handleBody_acceptsOutstanding :
    (server.handleBody address op delivery call).acceptsOutstanding =
      if op == .accept then server.acceptsOutstanding - 1 else server.acceptsOutstanding := by
  unfold RServer.handleBody RServer.forget RServer.pushEvents
  simp only
  split_ifs <;> rfl

theorem handleBody_bounds :
    (server.handleBody address op delivery call).acceptWindow = server.acceptWindow ∧
      (server.handleBody address op delivery call).maxActive = server.maxActive :=
  (handleBody_flags server address op delivery call).2.2.2.2

/-- A handler adds at most the call it accepts to the active ones. -/
theorem handleBody_activeSize_le :
    (server.handleBody address op delivery call).activeSize ≤
      server.activeSize + if op == .accept && delivery.ok then 1 else 0 := by
  unfold RServer.activeSize
  rw [handleBody_active]
  cases matched : (op == .accept && delivery.ok) with
  | true =>
    rw [if_pos rfl, if_pos rfl, AList.keys_insert, List.length_cons]
    have fewer := (List.erase_sublist (a := server.nextId) (l := server.active.keys)).length_le
    omega
  | false =>
    rw [if_neg Bool.false_ne_true, if_neg Bool.false_ne_true]
    split
    · rw [AList.keys_erase]
      have fewer := (List.erase_sublist (a := call.id) (l := server.active.keys)).length_le
      omega
    · omega

end Body

theorem withinBounds_handle {server : RServer} (bounded : server.WithinBounds) (address : Nat)
    (op : SvOp) (delivery : Delivery) (call : SvCall) :
    (server.handle address op delivery call).1.WithinBounds := by
  obtain ⟨count, equal, -, -, -, posted⟩ := handle_eq server address op delivery call
  rw [equal]
  rcases posted with rfl | posted
  · obtain ⟨window, room⟩ := handleBody_bounds server address op delivery call
    have slots := bounded.slots
    have load := bounded.load
    have size := handleBody_activeSize_le server address op delivery call
    rw [withSlots_zero]
    show (server.handleBody address op delivery call).WithinBounds
    refine ⟨?_, ?_⟩
    · rw [handleBody_acceptsOutstanding, window]
      split <;> omega
    · rw [handleBody_acceptsOutstanding, room]
      cases kind : (op == .accept) with
      | true =>
        rw [if_pos rfl]
        split at size <;> omega
      | false =>
        rw [kind, Bool.false_and, if_neg Bool.false_ne_true] at size
        rw [if_neg Bool.false_ne_true]
        omega
  · exact posted

/-- The bounds themselves never change. -/
theorem bounds_of_run {acceptWindow maxActive : Int} {wake : WakeHandle}
    {allowed : RServer → ServerInput → Prop} {server : RServer} {log : List ServerObs}
    (run : (serverMachine acceptWindow maxActive wake).Run allowed server log) :
    server.acceptWindow = acceptWindow ∧ server.maxActive = maxActive := by
  induction run with
  | start =>
    obtain ⟨count, equal, -⟩ := postAcceptsLocked_eq { acceptWindow, maxActive, wake }
    show (createServer acceptWindow maxActive wake).1.acceptWindow = acceptWindow ∧
      (createServer acceptWindow maxActive wake).1.maxActive = maxActive
    rw [createServer, equal]
    exact ⟨rfl, rfl⟩
  | next before _ taken same =>
    have sound := sound_of_run before
    rcases sound.step_cases taken with
      ⟨address, op, delivery, call, rfl, unlocked, outstanding, object, equal⟩ |
      ⟨id, request, address, call, rfl, opened, unlocked, found, object, rfl, rfl⟩ |
      ⟨-, quiet⟩ | ⟨rfl, opened, unlocked, rfl, rfl⟩ | ⟨rfl, joining, idle, rfl, rfl⟩
    · obtain ⟨count, whole, -⟩ := handle_eq _ address op delivery call
      rw [equal, Prod.mk.injEq] at whole
      rw [whole.1]
      obtain ⟨window, room⟩ := handleBody_bounds _ address op delivery call
      exact ⟨window.trans same.1, room.trans same.2⟩
    · exact same
    · rw [quiet.same]
      exact same
    · exact same
    · exact same

/-- The bounds on slots and calls hold along every run. -/
theorem withinBounds_of_run {acceptWindow maxActive : Int} (window : 1 ≤ acceptWindow)
    (room : 1 ≤ maxActive) {wake : WakeHandle} {allowed : RServer → ServerInput → Prop}
    {server : RServer} {log : List ServerObs}
    (run : (serverMachine acceptWindow maxActive wake).Run allowed server log) :
    server.WithinBounds := by
  induction run with
  | start =>
    obtain ⟨count, equal, -, -, posted⟩ := postAcceptsLocked_eq { acceptWindow, maxActive, wake }
    show (createServer acceptWindow maxActive wake).1.WithinBounds
    rw [createServer, equal]
    rcases posted with rfl | posted
    · rw [withSlots_zero]
      exact ⟨Int.le_trans Int.one_nonneg window, Int.le_trans Int.one_nonneg room⟩
    · exact posted
  | next before _ taken bounded =>
    have sound := sound_of_run before
    rcases sound.step_cases taken with
      ⟨address, op, delivery, call, rfl, unlocked, outstanding, object, equal⟩ |
      ⟨id, request, address, call, rfl, opened, unlocked, found, object, rfl, rfl⟩ |
      ⟨-, quiet⟩ | ⟨rfl, opened, unlocked, rfl, rfl⟩ | ⟨rfl, joining, idle, rfl, rfl⟩
    · have handled := withinBounds_handle bounded address op delivery call
      rw [equal] at handled
      exact handled
    · exact ⟨bounded.slots, bounded.load⟩
    · rw [quiet.same]
      exact ⟨bounded.slots, bounded.load⟩
    · exact ⟨bounded.slots, bounded.load⟩
    · refine ⟨bounded.slots, ?_⟩
      have load := bounded.load
      unfold RServer.activeSize at load ⊢
      simp only [AList.keys_empty, List.length_nil]
      omega

/-! ### Steps that give a slot back -/

/-- Whether a read or a write that comes back is the last thing outstanding on its call: its tag is
the only one, and it is not a write the pump goes on from. -/
def SvCall.lastTag (call : SvCall) (op : SvOp) (ok : Bool) : Bool :=
  call.pending == 1 &&
    !(op == .write && ok && !call.dead && (call.replied || 1 < call.writeQueue.length))

/-- The steps after which slots are posted where there is room: until the server shuts down, no
accept comes back unmatched, and no read or write is the last thing outstanding on its call while
the accept window has room. -/
def keepsCapacity (server : RServer) : ServerInput → Bool
  | .returned address op delivery =>
    server.shutting ||
      match op with
      | .accept => delivery.ok
      | .read => server.acceptWindow ≤ server.acceptsOutstanding ||
          !(server.arena.cell address).object.any fun call => call.lastTag .read delivery.ok
      | .write => server.acceptWindow ≤ server.acceptsOutstanding ||
          !(server.arena.cell address).object.any fun call => call.lastTag .write delivery.ok
      | _ => true
  | _ => true

theorem pending_runRead (delivery : Delivery) (call : SvCall) :
    (runRead delivery call).1.pending = call.pending := by
  unfold runRead
  simp only
  split_ifs <;> rfl

/-- A write that comes back leaves one tag less, unless the pump goes on. -/
theorem pending_runWrite {delivery : Delivery} {call : SvCall}
    (running : call.finishPosted = false) :
    (runWrite false delivery call).1.pending =
      if delivery.ok && !call.dead && (call.replied || 1 < call.writeQueue.length) then
        call.pending + 1 else call.pending := by
  have more : 1 < call.writeQueue.length ↔ call.writeQueue.tail ≠ [] := by
    rcases call.writeQueue with _ | ⟨front, _ | ⟨next, rest⟩⟩ <;> simp
  unfold runWrite
  simp only
  cases flowing : (delivery.ok && !call.dead) with
  | false =>
    rw [if_neg Bool.false_ne_true, Bool.false_and, if_neg Bool.false_ne_true]
  | true =>
    have alive : call.dead = false := by simp_all
    rw [if_pos rfl, Bool.true_and]
    rcases pumpLocked_cases false
        { call with writeInflight := false, writeQueue := call.writeQueue.tail } with
      ⟨same, blocked⟩ |
      ⟨-, -, -, -, ⟨front, rest, queue, same⟩ | ⟨queue, replied, same⟩⟩
    · rw [same]
      rcases blocked with absurdity | dead | posted | inflight | ⟨empty, silent⟩
      · exact absurd absurdity Bool.false_ne_true
      · exact absurd (alive.symm.trans dead) Bool.false_ne_true
      · exact absurd (running.symm.trans posted) Bool.false_ne_true
      · exact absurd inflight Bool.false_ne_true
      · have none : ¬ 1 < call.writeQueue.length := fun long => more.mp long empty
        have unanswered : call.replied = false := silent
        rw [unanswered, decide_eq_false none, Bool.false_or, if_neg Bool.false_ne_true]
    · rw [same]
      have long : 1 < call.writeQueue.length := more.mpr (by
        rw [show call.writeQueue.tail = front :: rest from queue]
        exact List.cons_ne_nil _ _)
      rw [decide_eq_true long, Bool.or_true, if_pos rfl]
    · rw [same]
      have answered : call.replied = true := replied
      rw [answered, Bool.true_or, if_pos rfl]

/-- A read or a write frees its call exactly when it was the last thing outstanding on it. -/
theorem freed_runCall {call : SvCall} {tags : List SvOp} {log : List CallObs}
    (ledger : Ledger call tags log) {op : SvOp} (outstanding : op ∈ tags)
    (kind : op = .read ∨ op = .write) (nextId : Nat) (delivery : Delivery) :
    freed op delivery.ok (runCall false nextId op delivery call).1 =
      call.lastTag op delivery.ok := by
  have positive := List.length_pos_of_mem outstanding
  have pending := ledger.pending
  rcases kind with rfl | rfl
  · have left : (runCall false nextId .read delivery call).1.pending = call.pending - 1 :=
      pending_runRead _ _
    rw [freed, left, SvCall.lastTag, Bool.eq_iff_iff]
    simp
    omega
  · have inflight := ledger.writeInflight_of_mem outstanding
    have running : call.finishPosted = false := by
      by_contra posted
      rw [Bool.not_eq_false] at posted
      exact absurd ((ledger.ended posted).2.1.symm.trans inflight) Bool.false_ne_true
    have left : (runCall false nextId .write delivery call).1.pending =
        if delivery.ok && !call.dead && (call.replied || 1 < call.writeQueue.length) then
          call.pending - 1 + 1 else call.pending - 1 := pending_runWrite running
    rw [freed, left, SvCall.lastTag]
    simp only [beq_self_eq_true, Bool.true_and]
    cases pumps : delivery.ok && !call.dead && (call.replied || 1 < call.writeQueue.length) with
    | true =>
      rw [if_pos rfl, Bool.not_true, Bool.and_false, Bool.and_eq_false_iff]
      refine Or.inr (beq_eq_false_iff_ne.mpr ?_)
      omega
    | false =>
      rw [if_neg Bool.false_ne_true, Bool.not_false, Bool.and_true, Bool.eq_iff_iff]
      simp
      omega

/-! ### The loop condition between handlers -/

/-- An accepted call has the ledger of its log and an id. -/
theorem Sound.ledger_of_mem {server : RServer} {log : List ServerObs} (sound : Sound server log)
    {address : Nat} {op : SvOp} {call : SvCall}
    (outstanding : op ∈ (server.arena.cell address).tags) (accepted : op ≠ .accept)
    (object : (server.arena.cell address).object = some call) :
    Ledger call (server.arena.cell address).tags (callLog address log) ∧ call.id ≠ 0 := by
  have phase := sound.phase (Arena.lt_size_of_object object)
  have named : call.id ≠ 0 := by
    intro nameless
    have slot := phase.slot_of_accept (sound.nameless address call object nameless)
    rw [show server.arena.cell address = slotCell from slot] at outstanding
    exact accepted (List.mem_singleton.mp outstanding)
  refine ⟨?_, named⟩
  cases phase with
  | slot cell opened =>
    rw [show server.arena.cell address = slotCell from cell] at outstanding
    exact absurd (List.mem_singleton.mp outstanding) accepted
  | live other same settled =>
    obtain rfl := Option.some.inj (object.symm.trans same)
    exact settled.ledger
  | gone cell deleted lawful =>
    rw [show server.arena.cell address = ⟨none, []⟩ from cell] at outstanding
    exact absurd outstanding List.not_mem_nil

/-- A call that is freed leaves the table of active calls. -/
theorem activeSize_erase {server : RServer} {id address : Nat}
    (found : server.active.lookup id = some address) :
    ((server.active.erase id).keys.length : Int) = server.activeSize - 1 := by
  have member : id ∈ server.active.keys :=
    AList.mem_keys.mpr (AList.lookup_isSome.mp (by rw [found]; rfl))
  have positive := List.length_pos_of_mem member
  rw [AList.keys_erase, List.length_erase_of_mem member, RServer.activeSize]
  omega

/-- A read or a write that comes back leaves the loop condition false exactly when it keeps the
capacity. -/
theorem Sound.wantsSlot_freeing {server : RServer} {log : List ServerObs}
    (sound : Sound server log) (bounded : server.WithinBounds)
    (satisfied : server.wantsSlot = false) (running : server.shutting = false) {address : Nat}
    {op : SvOp} {delivery : Delivery} {call : SvCall} (kind : op = .read ∨ op = .write)
    (outstanding : op ∈ (server.arena.cell address).tags)
    (object : (server.arena.cell address).object = some call) :
    (server.handleBody address op delivery call).wantsSlot =
      !(decide (server.acceptWindow ≤ server.acceptsOutstanding) ||
        !call.lastTag op delivery.ok) := by
  have accepted : op ≠ .accept := by
    rcases kind with rfl | rfl <;> simp
  obtain ⟨ledger, named⟩ := sound.ledger_of_mem outstanding accepted object
  have gone := freed_runCall ledger outstanding kind server.nextId delivery
  have shutting := (handleBody_flags server address op delivery call).1
  obtain ⟨window, room⟩ := handleBody_bounds server address op delivery call
  have active := handleBody_active server address op delivery call
  rw [running, gone, beq_eq_false_iff_ne.mpr accepted, Bool.false_and,
    if_neg Bool.false_ne_true] at active
  rw [RServer.wantsSlot, shutting, running, window, room, handleBody_acceptsOutstanding,
    beq_eq_false_iff_ne.mpr accepted, if_neg Bool.false_ne_true, RServer.activeSize, active]
  rw [RServer.wantsSlot, running] at satisfied
  cases last : call.lastTag op delivery.ok with
  | false =>
    rw [Bool.false_and, if_neg Bool.false_ne_true, Bool.not_false, Bool.or_true, Bool.not_true]
    exact satisfied
  | true =>
    rw [Bool.true_and, if_pos (by simpa using named),
      activeSize_erase (sound.listed address call object named)]
    have load := bounded.load
    have free : server.activeSize - 1 + server.acceptsOutstanding < server.maxActive := by omega
    rw [decide_eq_true free, Bool.eq_iff_iff]
    simp

/-- A handler of a server with enough slots leaves it with enough exactly when it keeps the
capacity. -/
theorem Sound.wantsSlot_handle {server : RServer} {log : List ServerObs}
    (sound : Sound server log) (bounded : server.WithinBounds)
    (satisfied : server.wantsSlot = false) (running : server.shutting = false) {address : Nat}
    {op : SvOp} (delivery : Delivery) {call : SvCall}
    (outstanding : op ∈ (server.arena.cell address).tags)
    (object : (server.arena.cell address).object = some call) :
    (server.handle address op delivery call).1.wantsSlot =
      !keepsCapacity server (.returned address op delivery) := by
  obtain ⟨count, equal, -, unfilled, filled, -⟩ := handle_eq server address op delivery call
  rw [equal]
  have body (none : count = 0) :
      ((server.handleBody address op delivery call).withSlots count).1 =
        server.handleBody address op delivery call := by
    rw [none, withSlots_zero]
  cases op with
  | accept =>
    cases matched : delivery.ok with
    | true =>
      rw [matched] at filled
      rw [filled rfl, keepsCapacity]
      simp [matched]
    | false =>
      rw [matched] at unfilled
      have slot := (sound.phase (Arena.lt_size_of_object object)).slot_of_accept outstanding
      rw [show server.arena.cell address = slotCell from slot] at object
      obtain rfl := Option.some.inj object
      have active := handleBody_active server address .accept delivery newSlot
      obtain ⟨window, room⟩ := handleBody_bounds server address .accept delivery newSlot
      have shutting := (handleBody_flags server address .accept delivery newSlot).1
      have slots := bounded.slots
      have load := bounded.load
      rw [matched, Bool.and_false, if_neg Bool.false_ne_true,
        if_neg (by simp [newSlot])] at active
      show ((server.handleBody address .accept delivery newSlot).withSlots count).1.wantsSlot = _
      rw [body (unfilled rfl), keepsCapacity, RServer.wantsSlot, shutting, running, window, room,
        handleBody_acceptsOutstanding, RServer.activeSize, active, matched]
      unfold RServer.activeSize at load
      simp
      omega
  | read =>
    show ((server.handleBody address .read delivery call).withSlots count).1.wantsSlot = _
    rw [body (unfilled rfl), sound.wantsSlot_freeing bounded satisfied running (Or.inl rfl)
      outstanding object, keepsCapacity, running, object]
    rfl
  | write =>
    show ((server.handleBody address .write delivery call).withSlots count).1.wantsSlot = _
    rw [body (unfilled rfl), sound.wantsSlot_freeing bounded satisfied running (Or.inr rfl)
      outstanding object, keepsCapacity, running, object]
    rfl
  | done =>
    rw [filled rfl]
    simp [keepsCapacity]
  | finish =>
    rw [filled rfl]
    simp [keepsCapacity]

theorem wantsSlot_of_shutting {server : RServer} (shutting : server.shutting = true) :
    server.wantsSlot = false := by
  rw [RServer.wantsSlot, shutting]
  rfl

/-- A step of a server with enough slots leaves it with enough exactly when it keeps the capacity,
or when the server shuts down. -/
theorem Sound.wantsSlot_step {server after : RServer} {log news : List ServerObs}
    {input : ServerInput} (sound : Sound server log) (bounded : server.WithinBounds)
    (satisfied : server.wantsSlot = false)
    (taken : serverStep server input = some (after, news)) :
    after.wantsSlot = !(after.shutting || keepsCapacity server input) := by
  rcases sound.step_cases taken with
    ⟨address, op, delivery, call, rfl, unlocked, outstanding, object, equal⟩ |
    ⟨id, request, address, call, rfl, opened, unlocked, found, object, rfl, rfl⟩ |
    ⟨other, quiet⟩ | ⟨rfl, opened, unlocked, rfl, rfl⟩ | ⟨rfl, joining, idle, rfl, rfl⟩
  · have shutting := handle_shutting server address op delivery call
    rw [equal] at shutting
    cases running : server.shutting with
    | true =>
      rw [running] at shutting
      rw [wantsSlot_of_shutting shutting, shutting]
      rfl
    | false =>
      have handled := sound.wantsSlot_handle bounded satisfied running delivery outstanding object
      rw [equal] at handled
      rw [handled, shutting, running]
      rfl
  · rw [show keepsCapacity server (.request id request) = true from rfl, Bool.or_true]
    exact satisfied
  · have kept : keepsCapacity server input = true := by
      cases input with
      | returned address op delivery => exact absurd rfl (other address op delivery)
      | _ => rfl
    rw [kept, Bool.or_true, quiet.same]
    exact satisfied
  · rfl
  · have shutting := sound.closing.trans (sound.joining joining)
    simp [RServer.wantsSlot, shutting]

/-- As long as every step keeps the capacity, the loop condition of `post_accepts_locked` is false
between handlers. -/
theorem satisfied_of_run {acceptWindow maxActive : Int} (window : 1 ≤ acceptWindow)
    (room : 1 ≤ maxActive) {wake : WakeHandle} {server : RServer} {log : List ServerObs}
    (run : (serverMachine acceptWindow maxActive wake).Run
      (fun server input => keepsCapacity server input = true) server log) :
    server.wantsSlot = false := by
  induction run with
  | start =>
    obtain ⟨count, equal, -, stopped, -⟩ := postAcceptsLocked_eq { acceptWindow, maxActive, wake }
    show (createServer acceptWindow maxActive wake).1.wantsSlot = false
    rw [createServer, equal]
    exact stopped
  | next before kept taken satisfied =>
    have sound := sound_of_run before
    rw [sound.wantsSlot_step (withinBounds_of_run window room before) satisfied taken, kept,
      Bool.or_true]
    rfl

/-- In every run whose steps all keep the capacity, a server that is not shutting down has as many
slots as its bounds allow, and one without active calls has at least one. A step after such a run
that does not keep the capacity leaves the server with fewer. -/
theorem capacity_provisioned (acceptWindow maxActive : Int) (window : 1 ≤ acceptWindow)
    (room : 1 ≤ maxActive) (wake : WakeHandle) (server : RServer) (log : List ServerObs)
    (run : (serverMachine acceptWindow maxActive wake).Run
      (fun server input => keepsCapacity server input = true) server log) :
    (server.shutting = false →
      (server.acceptWindow ≤ server.acceptsOutstanding ∨
        server.maxActive ≤ server.activeSize + server.acceptsOutstanding) ∧
      (server.activeSize = 0 → 1 ≤ server.acceptsOutstanding)) ∧
    ∀ input after news, serverStep server input = some (after, news) →
      after.shutting = false → keepsCapacity server input = false → after.wantsSlot = true := by
  have satisfied := satisfied_of_run window room run
  have bounded := withinBounds_of_run window room run
  obtain ⟨windowSame, roomSame⟩ := bounds_of_run run
  refine ⟨fun running => ?_, fun input after news taken running breaks => ?_⟩
  · have full : server.acceptWindow ≤ server.acceptsOutstanding ∨
        server.maxActive ≤ server.activeSize + server.acceptsOutstanding := by
      simp only [RServer.wantsSlot, running, Bool.not_false, Bool.true_and,
        Bool.and_eq_false_iff, decide_eq_false_iff_not] at satisfied
      omega
    exact ⟨full, fun none => by omega⟩
  · rw [(sound_of_run run).wantsSlot_step bounded satisfied taken, running, breaks]
    rfl

/-- A call that is accepted, read and ended by its peer before R answers it. -/
def cancelledInputs : List ServerInput :=
  [.returned 0 .accept { ok := true },
    .returned 0 .read { ok := true, message := .ofRaw [1] },
    .returned 0 .done { ok := true }]

theorem capacity_provisioned_cancelled : ∃ server log,
    (serverMachine 1 1 ⟨16, 0⟩).Run
      (fun server input => keepsCapacity server input = true) server log ∧
      server.shutting = false ∧ server.activeSize = 0 ∧ 1 ≤ server.acceptsOutstanding := by
  have run := Machine.run_of_exec (show (serverMachine 1 1 ⟨16, 0⟩).exec
    (fun server input => keepsCapacity server input = true)
    (serverMachine 1 1 ⟨16, 0⟩).start cancelledInputs = some _ from rfl)
  have provisioned := capacity_provisioned 1 1 (by decide) (by decide) ⟨16, 0⟩ _ _ run
  exact ⟨_, _, run, rfl, rfl, (provisioned.1 rfl).2 rfl⟩

/-- The done tag of a call comes back before its read. -/
def doneFirstInputs : List ServerInput :=
  [.returned 0 .accept { ok := true },
    .returned 0 .done { ok := true },
    .returned 0 .read { ok := false }]

/-- A server whose only call lost its done tag before its read ends with neither a call nor a
slot. -/
theorem capacity_lost_doneFirst : ∃ server log,
    (serverMachine 1 1 ⟨16, 0⟩).Run Machine.Free server log ∧ server.shutting = false ∧
      server.activeSize = 0 ∧ server.acceptsOutstanding = 0 ∧ server.wantsSlot = true ∧
      server.arena.Idle := by
  have run := Machine.run_of_exec (show (serverMachine 1 1 ⟨16, 0⟩).exec Machine.Free
    (serverMachine 1 1 ⟨16, 0⟩).start doneFirstInputs = some _ from rfl)
  exact ⟨_, _, run, rfl, rfl, rfl, rfl, by decide⟩

end Rgrpc.Server
