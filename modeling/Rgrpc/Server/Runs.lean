/-
This file connects the server to its calls: every run of the server is, for each
address it handed out, a run of `callMachine`. What was proved of one call then
holds of every call of every server, whatever the others do.

One step of the server takes at most one step of each call. It touches the call
whose tag came back or whose id R named; the others stay still, except that all
of them see the server start to shut down and its mutex being left locked.
-/

import Rgrpc.Library.Registry
import Rgrpc.Server.Phase

namespace Rgrpc.Server

open Library

/-! ### The log of one call -/

section CallLog

variable (address : Nat)

@[simp]
theorem callLog_nil : callLog address [] = [] := rfl

@[simp]
theorem callLog_append (log more : List ServerObs) :
    callLog address (log ++ more) = callLog address log ++ callLog address more :=
  List.filterMap_append

@[simp]
theorem callLog_result (id : Nat) (request : RCall) (value : Except RError Bool)
    (log : List ServerObs) : callLog address (.result id request value :: log) =
      callLog address log := rfl

theorem callLog_map_self (obs : List CallObs) :
    callLog address (obs.map (ServerObs.call address)) = obs := by
  simp [callLog, List.filterMap_map]

theorem callLog_map_of_ne {other : Nat} (different : other ≠ address) (obs : List CallObs) :
    callLog address (obs.map (ServerObs.call other)) = [] := by
  simp [callLog, List.filterMap_map, different]

variable {address}

theorem mem_callLog_iff {log : List ServerObs} {obs : CallObs} :
    obs ∈ callLog address log ↔ ServerObs.call address obs ∈ log := by
  rw [callLog, List.mem_filterMap]
  constructor
  · rintro ⟨entry, member, matched⟩
    cases entry with
    | call other shown =>
      simp only [Option.ite_none_right_eq_some, Option.some.injEq] at matched
      rw [← matched.1, ← matched.2]
      exact member
    | _ => exact absurd matched (by simp)
  · exact fun member => ⟨_, member, by simp⟩

end CallLog

/-! ### Posting slots -/

/-- The cell of an accept slot. -/
def slotCell : Cell SvCall SvOp := ⟨some newSlot, [.accept]⟩

/-- A server with a number of further slots posted, and what is observed of that. -/
def RServer.withSlots (server : RServer) (count : Nat) : RServer × List ServerObs :=
  ({ server with
      arena := ⟨server.arena.cells ++ List.replicate count slotCell⟩
      acceptsOutstanding := server.acceptsOutstanding + count },
    (List.range' server.arena.size count).map fun address =>
      .call address (.posted .requestCall))

theorem withSlots_zero (server : RServer) : server.withSlots 0 = (server, []) := by
  simp [RServer.withSlots]

theorem withSlots_succ (server : RServer) (count : Nat) :
    server.withSlots (count + 1) =
      ((server.postSlot.1.withSlots count).1,
        server.postSlot.2 ++ (server.postSlot.1.withSlots count).2) := by
  simp only [RServer.withSlots, RServer.postSlot, Arena.push, Prod.mk.injEq, List.append_assoc,
    List.singleton_append, Arena.size, List.length_append, List.length_singleton]
  refine ⟨?_, ?_⟩
  · rw [List.replicate_succ, slotCell]
    congr 1
    omega
  · rw [List.range'_succ]
    rfl

/-- The slots posted fit the window, and with the active calls they fit the bound on calls. -/
structure RServer.WithinBounds (server : RServer) : Prop where
  slots : server.acceptsOutstanding ≤ server.acceptWindow
  load : server.activeSize + server.acceptsOutstanding ≤ server.maxActive

/-- `post_accepts_locked` posts some number of slots, none while shutting down and only within the
bounds, and stops when its loop condition is false. -/
theorem postAcceptsLocked_eq (server : RServer) :
    ∃ count, server.postAcceptsLocked = server.withSlots count ∧
      (server.shutting = true → count = 0) ∧ (server.withSlots count).1.wantsSlot = false ∧
      (count = 0 ∨ (server.withSlots count).1.WithinBounds) := by
  have loop (fuel : Nat) : ∀ server : RServer,
      (server.acceptWindow - server.acceptsOutstanding).toNat ≤ fuel →
      ∃ count, server.postAcceptsLoop fuel = server.withSlots count ∧
        (server.shutting = true → count = 0) ∧
        (server.withSlots count).1.wantsSlot = false ∧
        (count = 0 ∨ (server.withSlots count).1.WithinBounds) := by
    induction fuel with
    | zero =>
      intro server room
      refine ⟨0, (withSlots_zero server).symm, fun _ => rfl, ?_, Or.inl rfl⟩
      rw [withSlots_zero, RServer.wantsSlot]
      have full : ¬ server.acceptsOutstanding < server.acceptWindow := by omega
      simp [full]
    | succ fuel inductionHypothesis =>
      intro server room
      rw [RServer.postAcceptsLoop]
      cases wants : server.wantsSlot with
      | false =>
        refine ⟨0, (withSlots_zero server).symm, fun _ => rfl, ?_, Or.inl rfl⟩
        rw [withSlots_zero]
        exact wants
      | true =>
        obtain ⟨count, equal, quiet, stopped, bounded⟩ := inductionHypothesis server.postSlot.1 (by
          show (server.acceptWindow - (server.acceptsOutstanding + 1)).toNat ≤ fuel
          omega)
        refine ⟨count + 1, ?_, ?_, ?_, Or.inr ?_⟩
        · rw [withSlots_succ, ← equal]
          rfl
        · intro shutting
          rw [RServer.wantsSlot, shutting] at wants
          exact absurd wants (by simp)
        · rw [withSlots_succ]
          exact stopped
        · rw [withSlots_succ]
          rcases bounded with rfl | bounded
          · rw [withSlots_zero]
            simp only [RServer.wantsSlot, Bool.and_eq_true, decide_eq_true_eq] at wants
            refine ⟨?_, ?_⟩
            · show server.acceptsOutstanding + 1 ≤ server.acceptWindow
              omega
            · show server.activeSize + (server.acceptsOutstanding + 1) ≤ server.maxActive
              omega
          · exact bounded
  exact loop _ server (Nat.le_refl _)

theorem cell_withSlots_of_lt (server : RServer) (count : Nat) {address : Nat}
    (allocated : address < server.arena.size) :
    (server.withSlots count).1.arena.cell address = server.arena.cell address := by
  rw [RServer.withSlots, Arena.cell, Arena.cell, List.getElem?_append_left allocated]

theorem size_withSlots (server : RServer) (count : Nat) :
    (server.withSlots count).1.arena.size = server.arena.size + count := by
  rw [RServer.withSlots, Arena.size, List.length_append, List.length_replicate, Arena.size]

theorem cell_withSlots_of_ge (server : RServer) (count : Nat) {address : Nat}
    (new : server.arena.size ≤ address) (allocated : address < server.arena.size + count) :
    (server.withSlots count).1.arena.cell address = slotCell := by
  rw [RServer.withSlots, Arena.cell, List.getElem?_append_right new,
    List.getElem?_replicate_of_lt (by rw [Arena.size] at allocated new; omega)]
  rfl

theorem callLog_withSlots (server : RServer) (count address : Nat) :
    callLog address (server.withSlots count).2 =
      if server.arena.size ≤ address ∧ address < server.arena.size + count then
        [.posted .requestCall] else [] := by
  induction count generalizing server with
  | zero => simp [withSlots_zero]
  | succ count inductionHypothesis =>
    rw [withSlots_succ, callLog_append, inductionHypothesis]
    have size : server.postSlot.1.arena.size = server.arena.size + 1 := Arena.size_push _ _
    have first : callLog address server.postSlot.2 =
        if server.arena.size = address then [.posted .requestCall] else [] := by
      by_cases same : server.arena.size = address <;> simp [RServer.postSlot, callLog, same]
    rw [first, size]
    by_cases same : server.arena.size = address
    · rw [if_pos same, if_neg (by omega), if_pos (by omega), List.append_nil]
    · rw [if_neg same, List.nil_append]
      refine if_congr ?_ rfl rfl
      omega

/-! ### One step of the server, seen from one call -/

/-- What a step of the server is for one of its calls: nothing, or one step of it. -/
inductive Turn (view after : CallView) (news : List CallObs) : Prop
  | still (same : after = view) (silent : news = [])
  | moved (input : CallInput) (taken : callStep view input = some (after, news))

theorem Turn.run {view after : CallView} {log news : List CallObs} (turn : Turn view after news)
    (run : callMachine.Run Machine.Free view log) :
    callMachine.Run Machine.Free after (log ++ news) := by
  cases turn with
  | still same silent =>
    rw [same, silent, List.append_nil]
    exact run
  | moved input taken => exact .next run trivial taken

/-- The table of active calls names calls that are there and carry the id they are stored
under. -/
def ActiveSound (server : RServer) : Prop :=
  ∀ id address, server.active.lookup id = some address →
    ∃ call, (server.arena.cell address).object = some call ∧ call.id = id ∧ id ≠ 0

/-- The part of a handler before slots are posted. -/
def RServer.handleBody (server : RServer) (address : Nat) (op : SvOp) (delivery : Delivery)
    (call : SvCall) : RServer :=
  let ran := runCall server.shutting server.nextId op delivery call
  let handled := handleTag server.shutting server.nextId op delivery call
    (server.arena.cell address).tags
  let gone := freed op delivery.ok ran.1
  let server := { server.pushEvents (pushedEvents handled.2) with
    arena := server.arena.set address handled.1 }
  if op == .accept then
    let server := { server with acceptsOutstanding := server.acceptsOutstanding - 1 }
    if delivery.ok then
      { server with
        nextId := server.nextId + 1
        active := server.active.insert server.nextId address }
    else server.forget gone ran.1.id
  else server.forget gone ran.1.id

/-- Whether a handler ends by posting slots. -/
def refills : SvOp → Bool → Bool
  | .accept, ok => ok
  | .done, _ => true
  | .finish, _ => true
  | _, _ => false

/-- A handler is its body, followed by posting slots in the cases that do. -/
theorem handle_eq (server : RServer) (address : Nat) (op : SvOp) (delivery : Delivery)
    (call : SvCall) :
    ∃ count, server.handle address op delivery call =
        (((server.handleBody address op delivery call).withSlots count).1,
          (handleTag server.shutting server.nextId op delivery call
              (server.arena.cell address).tags).2.map (ServerObs.call address) ++
            ((server.handleBody address op delivery call).withSlots count).2) ∧
      (server.shutting = true → count = 0) ∧
      (refills op delivery.ok = false → count = 0) ∧
      (refills op delivery.ok = true →
        ((server.handleBody address op delivery call).withSlots count).1.wantsSlot = false) ∧
      (count = 0 ∨
        ((server.handleBody address op delivery call).withSlots count).1.WithinBounds) := by
  have shuttingBody : (server.handleBody address op delivery call).shutting = server.shutting := by
    unfold RServer.handleBody RServer.forget RServer.pushEvents
    simp only
    split_ifs <;> rfl
  obtain ⟨count, equal, quiet, stopped, bounded⟩ :=
    postAcceptsLocked_eq (server.handleBody address op delivery call)
  rw [shuttingBody] at quiet
  cases refilled : refills op delivery.ok with
  | true =>
    refine ⟨count, ?_, quiet, fun absurdity => absurd absurdity.symm Bool.false_ne_true,
      fun _ => stopped, bounded⟩
    rw [← equal]
    cases op with
    | accept =>
      have matched : delivery.ok = true := refilled
      simp [RServer.handle, RServer.handleBody, matched]
    | read => exact absurd refilled Bool.false_ne_true
    | write => exact absurd refilled Bool.false_ne_true
    | done => rfl
    | finish => rfl
  | false =>
    refine ⟨0, ?_, fun _ => rfl, fun _ => rfl,
      fun absurdity => absurd absurdity Bool.false_ne_true, Or.inl rfl⟩
    rw [withSlots_zero, List.append_nil]
    cases op with
    | accept =>
      have unmatched : delivery.ok = false := refilled
      simp [RServer.handle, RServer.handleBody, unmatched]
    | read => rfl
    | write => rfl
    | done => exact absurd refilled.symm Bool.false_ne_true
    | finish => exact absurd refilled.symm Bool.false_ne_true

/-- A step that leaves the calls alone: it changes only what R has yet to collect, the wake handle
and what the R thread is doing. -/
structure Quiet (server after : RServer) (news : List ServerObs) : Prop where
  same : after = { server with wake := after.wake, ready := after.ready, rthread := after.rthread }
  silent : ∀ address, callLog address news = []
  safe : ∀ address, ServerObs.useAfterFree address ∉ news
  refused : ∀ id request, ServerObs.result id request (.ok true) ∉ news
  thread : after.rthread = .joining ∨ after.rthread = .gone → after.rthread = server.rthread

theorem quiet_pollTake (server : RServer) (args : PollArgs) :
    Quiet server (server.pollTake args).1 (server.pollTake args).2 :=
  ⟨rfl, fun _ => rfl, by simp [RServer.pollTake], by simp [RServer.pollTake],
    by simp [RServer.pollTake]⟩

theorem quiet_pollAttempt (server : RServer) (args : PollArgs) (leftMs : Int) :
    Quiet server (server.pollAttempt args leftMs).1 (server.pollAttempt args leftMs).2 := by
  unfold RServer.pollAttempt
  split
  · simp only
    split
    · have quiet := quiet_pollTake { server with wake := server.wake.drain } args
      exact ⟨quiet.same, quiet.silent, quiet.safe, quiet.refused, quiet.thread⟩
    · exact ⟨rfl, fun _ => rfl, by simp, by simp, by simp⟩
  · exact quiet_pollTake server args

/-- A step that changes nothing of the server, and is about no call. -/
theorem quiet_refl (server : RServer) {news : List ServerObs}
    (silent : ∀ address, callLog address news = [])
    (safe : ∀ address, ServerObs.useAfterFree address ∉ news)
    (refused : ∀ id request, ServerObs.result id request (.ok true) ∉ news) :
    Quiet server server news :=
  ⟨rfl, silent, safe, refused, fun _ => rfl⟩

theorem quiet_grpcRServer2Poll {server after : RServer} {args : PollArgs} {leftMs : Int}
    {news : List ServerObs} (polled : server.grpcRServer2Poll args leftMs = some (after, news)) :
    Quiet server after news := by
  rw [RServer.grpcRServer2Poll] at polled
  split at polled
  · obtain ⟨rfl, rfl⟩ := Prod.mk.inj (Option.some.inj polled)
    exact quiet_refl server (fun _ => rfl) (by simp) (by simp)
  · split at polled
    · exact absurd polled (by simp)
    · have quiet := quiet_pollAttempt server args leftMs
      rw [Option.some.inj polled] at quiet
      exact quiet

theorem quiet_woken {server after : RServer} {args : PollArgs} {result leftMs : Int}
    {news : List ServerObs} (woken : server.woken args result leftMs = some (after, news)) :
    Quiet server after news := by
  rw [RServer.woken] at woken
  split at woken
  · exact absurd woken (by simp)
  · split at woken
    · have quiet := quiet_pollTake server args
      rw [Option.some.inj woken] at quiet
      exact quiet
    · split at woken
      · have quiet := quiet_pollAttempt server args leftMs
        rw [Option.some.inj woken] at quiet
        exact quiet
      · exact absurd woken (by simp)

/-- A request is refused before it reaches a call, or it reaches the call under its id. -/
theorem request_cases {server after : RServer} {id : Nat} {request : RCall}
    {news : List ServerObs} (asked : server.request id request = some (after, news)) :
    Quiet server after news ∨
      ∃ address, server.closed = false ∧ server.muHeld = false ∧
        server.active.lookup id = some address ∧
        ((∃ call, (server.arena.cell address).object = some call ∧
            after = { server with
              arena := server.arena.set address (answeredCell (request.answer server.shutting call)
                (server.arena.cell address).tags)
              muHeld := (request.answer server.shutting call).raised } ∧
            news = (request.answer server.shutting call).obs.map (ServerObs.call address) ++
              [.result id request (request.answer server.shutting call).value]) ∨
          (server.arena.cell address).object = none) := by
  rw [RServer.request] at asked
  split at asked
  · obtain ⟨rfl, rfl⟩ := Prod.mk.inj (Option.some.inj asked)
    exact Or.inl (quiet_refl server (fun _ => rfl) (by simp) (by simp))
  · rename_i opened
    rw [Bool.not_eq_true] at opened
    split at asked
    · obtain ⟨rfl, rfl⟩ := Prod.mk.inj (Option.some.inj asked)
      exact Or.inl (quiet_refl server (fun _ => rfl) (by simp) (by simp))
    · split at asked
      · exact absurd asked (by simp)
      · rename_i unlocked
        rw [Bool.not_eq_true] at unlocked
        split at asked
        · obtain ⟨rfl, rfl⟩ := Prod.mk.inj (Option.some.inj asked)
          exact Or.inl (quiet_refl server (fun _ => rfl) (by simp) (by simp))
        · rename_i address found
          refine Or.inr ⟨address, opened, unlocked, found, ?_⟩
          cases object : (server.arena.cell address).object with
          | none => exact Or.inr rfl
          | some call =>
            rw [object] at asked
            obtain ⟨left, observed⟩ := Prod.mk.inj (Option.some.inj asked)
            exact Or.inl ⟨call, rfl, left.symm, observed.symm⟩

theorem beginClose_cases {server after : RServer} {news : List ServerObs}
    (closed : server.beginClose = some (after, news)) :
    Quiet server after news ∨ server.closed = false ∧ server.muHeld = false ∧ news = [] ∧
      after = { server with closed := true, shutting := true, rthread := .joining } := by
  rw [RServer.beginClose] at closed
  split at closed
  · obtain ⟨rfl, rfl⟩ := Prod.mk.inj (Option.some.inj closed)
    exact Or.inl (quiet_refl server (fun _ => rfl) (by simp) (by simp))
  · rename_i opened
    split at closed
    · exact absurd closed (by simp)
    · rename_i unlocked
      obtain ⟨rfl, rfl⟩ := Prod.mk.inj (Option.some.inj closed)
      exact Or.inr ⟨by simpa using opened, by simpa using unlocked, rfl, rfl⟩

/-- The R thread makes a native call only while it is not inside another. -/
theorem call_of_rthread {rthread : RThread} {call : Option (RServer × List ServerObs)}
    {result : RServer × List ServerObs}
    (taken : (match rthread with
      | .idle | .gone => call
      | _ => none) = some result) : call = some result := by
  split at taken
  · exact taken
  · exact taken
  · exact absurd taken (by simp)

/-- What a step of the server can be. -/
theorem serverStep_cases {server after : RServer} {input : ServerInput} {news : List ServerObs}
    (taken : serverStep server input = some (after, news)) :
    (∃ address op delivery, input = .returned address op delivery ∧ server.muHeld = false ∧
        op ∈ (server.arena.cell address).tags ∧
        ((∃ call, (server.arena.cell address).object = some call ∧
            server.handle address op delivery call = (after, news)) ∨
          (server.arena.cell address).object = none)) ∨
      (∃ id request address, input = .request id request ∧ server.closed = false ∧
        server.muHeld = false ∧ server.active.lookup id = some address ∧
        ((∃ call, (server.arena.cell address).object = some call ∧
            after = { server with
              arena := server.arena.set address (answeredCell (request.answer server.shutting call)
                (server.arena.cell address).tags)
              muHeld := (request.answer server.shutting call).raised } ∧
            news = (request.answer server.shutting call).obs.map (ServerObs.call address) ++
              [.result id request (request.answer server.shutting call).value]) ∨
          (server.arena.cell address).object = none)) ∨
      ((∀ address op delivery, input ≠ .returned address op delivery) ∧
        Quiet server after news) ∨
      (input = .close ∧ server.closed = false ∧ server.muHeld = false ∧ news = [] ∧
        after = { server with closed := true, shutting := true, rthread := .joining }) ∨
      input = .joined ∧ server.rthread = .joining ∧ server.arena.Idle ∧
        after = { server with
          arena := (deleteCalls (server.active.entries.map Sigma.snd) server.arena).1
          active := ∅
          rthread := .gone } ∧
        news = (deleteCalls (server.active.entries.map Sigma.snd) server.arena).2 := by
  cases input with
  | returned address op delivery =>
    refine Or.inl ⟨address, op, delivery, rfl, ?_⟩
    rw [serverStep, RServer.run] at taken
    split at taken
    · rename_i enabled
      simp only [Bool.and_eq_true, Bool.not_eq_true', List.contains_iff_mem] at enabled
      refine ⟨enabled.1, enabled.2, ?_⟩
      cases object : (server.arena.cell address).object with
      | none => exact Or.inr rfl
      | some call =>
        rw [object] at taken
        exact Or.inl ⟨call, rfl, Option.some.inj taken⟩
    · exact absurd taken (by simp)
  | request id request =>
    rcases request_cases (call_of_rthread taken) with quiet | ⟨address, reached⟩
    · exact Or.inr (Or.inr (Or.inl ⟨by simp, quiet⟩))
    · exact Or.inr (Or.inl ⟨id, request, address, rfl, reached⟩)
  | poll args leftMs =>
    exact Or.inr (Or.inr (Or.inl
      ⟨by simp, quiet_grpcRServer2Poll (call_of_rthread taken)⟩))
  | woken result leftMs =>
    refine Or.inr (Or.inr (Or.inl ⟨by simp, ?_⟩))
    rw [serverStep] at taken
    split at taken
    · exact quiet_woken taken
    · exact absurd taken (by simp)
  | close =>
    rcases beginClose_cases (call_of_rthread taken) with quiet | closing
    · exact Or.inr (Or.inr (Or.inl ⟨by simp, quiet⟩))
    · exact Or.inr (Or.inr (Or.inr (Or.inl ⟨rfl, closing⟩)))
  | joined =>
    rw [serverStep] at taken
    split at taken
    · rename_i joining
      rw [RServer.endClose] at taken
      split at taken
      · rename_i idle
        obtain ⟨left, observed⟩ := Prod.mk.inj (Option.some.inj taken)
        exact Or.inr (Or.inr (Or.inr (Or.inr
          ⟨rfl, joining, idle, left.symm, observed.symm⟩)))
      · exact absurd taken (by simp)
    · exact absurd taken (by simp)

/-! ### Handlers -/

section Handler

variable (server : RServer) (address : Nat) (op : SvOp) (delivery : Delivery) (call : SvCall)

/-- The cell a handler leaves at the address of its call. -/
abbrev handledCell : Cell SvCall SvOp :=
  (handleTag server.shutting server.nextId op delivery call (server.arena.cell address).tags).1

theorem handleBody_arena : (server.handleBody address op delivery call).arena =
    server.arena.set address (handledCell server address op delivery call) := by
  unfold RServer.handleBody RServer.forget RServer.pushEvents
  simp only
  split_ifs <;> rfl

theorem handleBody_flags :
    (server.handleBody address op delivery call).shutting = server.shutting ∧
      (server.handleBody address op delivery call).muHeld = server.muHeld ∧
      (server.handleBody address op delivery call).closed = server.closed ∧
      (server.handleBody address op delivery call).rthread = server.rthread ∧
      (server.handleBody address op delivery call).acceptWindow = server.acceptWindow ∧
      (server.handleBody address op delivery call).maxActive = server.maxActive := by
  unfold RServer.handleBody RServer.forget RServer.pushEvents
  simp only
  split_ifs <;> exact ⟨rfl, rfl, rfl, rfl, rfl, rfl⟩

theorem handle_shutting :
    (server.handle address op delivery call).1.shutting = server.shutting := by
  obtain ⟨count, equal, -⟩ := handle_eq server address op delivery call
  rw [equal]
  exact (handleBody_flags server address op delivery call).1

variable {server address op delivery call}

/-- Seen from any call already there, a handler is a step of the call whose tag came back and
nothing for the others. -/
theorem turn_handle (unlocked : server.muHeld = false)
    (outstanding : op ∈ (server.arena.cell address).tags)
    (object : (server.arena.cell address).object = some call) {other : Nat}
    (allocated : other < server.arena.size) :
    Turn (server.view other) ((server.handle address op delivery call).1.view other)
      (callLog other (server.handle address op delivery call).2) := by
  obtain ⟨count, equal, -⟩ := handle_eq server address op delivery call
  obtain ⟨shutting, muHeld, -⟩ := handleBody_flags server address op delivery call
  have size : (server.handleBody address op delivery call).arena.size = server.arena.size := by
    rw [handleBody_arena, Arena.size_set]
  have view : (server.handle address op delivery call).1.view other =
      ⟨(server.arena.set address (handledCell server address op delivery call)).cell other,
        server.shutting, server.muHeld⟩ := by
    rw [equal, RServer.view, cell_withSlots_of_lt _ _ (by rw [size]; exact allocated),
      handleBody_arena]
    exact congrArg₂ (CallView.mk _) shutting muHeld
  have slots : callLog other
      ((server.handleBody address op delivery call).withSlots count).2 = [] := by
    rw [callLog_withSlots, size, if_neg (by omega)]
  rw [view, equal, callLog_append, slots, List.append_nil]
  by_cases same : address = other
  · subst same
    refine .moved (.returned op delivery server.nextId) ?_
    rw [Arena.cell_set_self allocated, callLog_map_self, callStep]
    simp only [RServer.view, unlocked, Bool.not_false, Bool.true_and,
      List.contains_iff_mem.mpr outstanding, if_true, object, Option.map_some]
  · refine .still ?_ (callLog_map_of_ne other same _)
    rw [Arena.cell_set_of_ne same]
    rfl

variable (op delivery) in
/-- The cells that were there before a handler. -/
theorem cell_handle (object : (server.arena.cell address).object = some call) {other : Nat}
    (allocated : other < server.arena.size) :
    (server.handle address op delivery call).1.arena.cell other =
      if address = other then handledCell server address op delivery call
      else server.arena.cell other := by
  obtain ⟨count, equal, -⟩ := handle_eq server address op delivery call
  rw [equal, cell_withSlots_of_lt _ _ (by rw [handleBody_arena, Arena.size_set]; exact allocated),
    handleBody_arena]
  exact Arena.cell_set (Arena.lt_size_of_object object) _ other

/-- The cells that a handler adds are those of the slots it posts. -/
theorem cell_handle_of_size_le {other : Nat} (new : server.arena.size ≤ other)
    (allocated : other < (server.handle address op delivery call).1.arena.size) :
    (server.handle address op delivery call).1.arena.cell other = slotCell := by
  obtain ⟨count, equal, -⟩ := handle_eq server address op delivery call
  have size : (server.handleBody address op delivery call).arena.size = server.arena.size := by
    rw [handleBody_arena, Arena.size_set]
  rw [equal] at allocated ⊢
  rw [size_withSlots, size] at allocated
  exact cell_withSlots_of_ge _ _ (by rw [size]; exact new) (by rw [size]; exact allocated)

variable (server op delivery call) in
/-- All that a handler is observed to do on another call is that its slot is posted. -/
theorem callLog_handle_of_ne {other : Nat} (different : address ≠ other) :
    callLog other (server.handle address op delivery call).2 = [] ∨
      callLog other (server.handle address op delivery call).2 = [.posted .requestCall] := by
  obtain ⟨count, equal, -⟩ := handle_eq server address op delivery call
  rw [equal, callLog_append, callLog_map_of_ne other different, List.nil_append, callLog_withSlots]
  split
  · exact Or.inr rfl
  · exact Or.inl rfl

variable (op delivery) in
/-- What a handler is observed to do on the call whose tag came back. -/
theorem callLog_handle_self (object : (server.arena.cell address).object = some call) :
    callLog address (server.handle address op delivery call).2 =
      (handleTag server.shutting server.nextId op delivery call
        (server.arena.cell address).tags).2 := by
  have allocated := Arena.lt_size_of_object object
  obtain ⟨count, equal, -⟩ := handle_eq server address op delivery call
  have size : (server.handleBody address op delivery call).arena.size = server.arena.size := by
    rw [handleBody_arena, Arena.size_set]
  rw [equal, callLog_append, callLog_map_self, callLog_withSlots, size, if_neg (by omega),
    List.append_nil]

end Handler

/-! ### Ids -/

theorem pumpLocked_id (shutting : Bool) (call : SvCall) :
    (pumpLocked shutting call).1.id = call.id := by
  rcases pumpLocked_cases shutting call with
    ⟨same, -⟩ | ⟨-, -, -, -, ⟨front, rest, -, same⟩ | ⟨-, -, same⟩⟩ <;>
  · rw [same]

/-- Only a matched accept gives a call its id. -/
theorem runCall_id (shutting : Bool) (nextId : Nat) (op : SvOp) (delivery : Delivery)
    (call : SvCall) :
    (runCall shutting nextId op delivery call).1.id =
      if op == .accept && delivery.ok then nextId else call.id := by
  cases op with
  | accept =>
    unfold runCall runAccept
    cases matched : delivery.ok <;> cases shutting <;> simp
  | read =>
    unfold runCall runRead
    simp only
    split_ifs <;> simp_all
  | write =>
    unfold runCall runWrite
    simp only
    split
    · exact pumpLocked_id _ _
    · rfl
  | done =>
    unfold runCall runDone
    simp only
    split_ifs <;> simp_all
  | finish => rfl

theorem answer_id (shutting : Bool) (request : RCall) (call : SvCall) :
    (request.answer shutting call).call.id = call.id := by
  rcases answer_cases shutting request call with
    same | ⟨-, -, -, -, -, same⟩ | ⟨-, -, same⟩ | ⟨bytes, -, -, -, -, -, same⟩ |
    ⟨-, -, -, -, same | ⟨trailing, hasFinalWrite, error, same⟩⟩
  · rw [same]
    rfl
  · rw [same]
  · rw [same]
  · rw [same]
    exact pumpLocked_id _ _
  · rw [same]
    exact pumpLocked_id _ _
  · rw [same]
    rfl

/-- A call with its accept tag outstanding is a slot. -/
theorem Phase.slot_of_accept {view : CallView} {log : List CallObs} (phase : Phase view log)
    (outstanding : SvOp.accept ∈ view.cell.tags) : view.cell = slotCell := by
  cases phase with
  | slot cell opened => exact cell
  | live call object settled => exact absurd outstanding settled.ledger.accept_not_mem
  | gone cell deleted lawful =>
    rw [cell] at outstanding
    exact absurd outstanding List.not_mem_nil

/-! ### Requests, and the end of a close -/

theorem turn_answered {server : RServer} {id address : Nat} {request : RCall} {call : SvCall}
    (unlocked : server.muHeld = false)
    (object : (server.arena.cell address).object = some call) (named : call.id ≠ 0)
    {other : Nat} (allocated : other < server.arena.size) :
    Turn (server.view other)
      { cell := (server.arena.set address (answeredCell (request.answer server.shutting call)
          (server.arena.cell address).tags)).cell other
        shutting := server.shutting
        wedged := (request.answer server.shutting call).raised }
      (callLog other ((request.answer server.shutting call).obs.map (ServerObs.call address) ++
        [.result id request (request.answer server.shutting call).value])) := by
  rw [callLog_append, callLog_result, callLog_nil, List.append_nil]
  by_cases same : address = other
  · subst same
    refine .moved (.request request) ?_
    rw [Arena.cell_set_self allocated, callLog_map_self, callStep]
    simp [RServer.view, unlocked, object, Option.filter, named]
  · rw [Arena.cell_set_of_ne same, callLog_map_of_ne other same]
    cases raised : (request.answer server.shutting call).raised with
    | true => exact .moved .wedge rfl
    | false =>
      refine .still ?_ rfl
      rw [RServer.view, unlocked]

/-! ### Runs of the server -/

/-- What holds of a server and its log between locked sections: each of its calls is a run of
`callMachine`, an address that was not handed out has no history, the table of active calls names
calls that are there and every accepted call that is there is in it, only a slot has no id, the ids
handed out are behind the next one, the server shuts down exactly when it is closed, a finished
close has drained every tag, and no deleted call was used. -/
structure Sound (server : RServer) (log : List ServerObs) : Prop where
  calls : ∀ address, address < server.arena.size →
    callMachine.Run Machine.Free (server.view address) (callLog address log)
  unused : ∀ address, server.arena.size ≤ address → callLog address log = []
  active : ActiveSound server
  listed : ∀ address call, (server.arena.cell address).object = some call → call.id ≠ 0 →
    server.active.lookup call.id = some address
  nameless : ∀ address call, (server.arena.cell address).object = some call → call.id = 0 →
    .accept ∈ (server.arena.cell address).tags
  ids : ∀ address call, (server.arena.cell address).object = some call → call.id < server.nextId
  closing : server.shutting = server.closed
  joining : server.rthread = .joining → server.closed = true
  drained : server.rthread = .gone → server.closed = true ∧ server.arena.Idle
  safe : ∀ address, ServerObs.useAfterFree address ∉ log

theorem Sound.phase {server : RServer} {log : List ServerObs} (sound : Sound server log)
    {address : Nat} (allocated : address < server.arena.size) :
    Phase (server.view address) (callLog address log) :=
  phase_of_run (sound.calls address allocated)

/-- A tag outstanding at an address leads to a call that is still there. -/
theorem Sound.object_of_mem {server : RServer} {log : List ServerObs} (sound : Sound server log)
    {address : Nat} {op : SvOp} (outstanding : op ∈ (server.arena.cell address).tags) :
    ∃ call, (server.arena.cell address).object = some call :=
  (sound.phase (Arena.lt_size_of_mem_tags outstanding)).object_of_mem outstanding

/-- The table of active calls names the accepted calls that are there. -/
theorem Sound.registry {server : RServer} {log : List ServerObs} (sound : Sound server log) :
    Registry SvCall.id server.active server.arena server.nextId :=
  ⟨sound.active, sound.listed, sound.ids⟩

/-- New slots have no id. -/
theorem registry_withSlots {server : RServer}
    (registry : Registry SvCall.id server.active server.arena server.nextId)
    (numbered : 0 < server.nextId) (count : Nat) :
    Registry SvCall.id (server.withSlots count).1.active (server.withSlots count).1.arena
      (server.withSlots count).1.nextId := by
  induction count generalizing server with
  | zero =>
    rw [withSlots_zero]
    exact registry
  | succ count inductionHypothesis =>
    rw [withSlots_succ]
    refine inductionHypothesis (registry.push numbered fun call fresh => ?_) numbered
    obtain rfl := Option.some.inj fresh
    rfl

theorem handleBody_active (server : RServer) (address : Nat) (op : SvOp) (delivery : Delivery)
    (call : SvCall) :
    (server.handleBody address op delivery call).active =
      if op == .accept && delivery.ok then server.active.insert server.nextId address
      else if freed op delivery.ok (runCall server.shutting server.nextId op delivery call).1 &&
          call.id != 0 then server.active.erase call.id
      else server.active := by
  have id := runCall_id server.shutting server.nextId op delivery call
  unfold RServer.handleBody RServer.forget RServer.pushEvents
  cases matched : (op == .accept && delivery.ok) with
  | true =>
    simp only [Bool.and_eq_true] at matched
    simp [matched]
  | false =>
    rw [matched, if_neg Bool.false_ne_true] at id
    simp only [id, Bool.false_eq_true, if_false]
    rw [Bool.and_eq_false_iff] at matched
    rcases matched with other | unmatched
    · simp only [other, Bool.false_eq_true, if_false]
      split_ifs <;> rfl
    · simp only [unmatched, Bool.false_eq_true, if_false]
      split_ifs <;> rfl

theorem handleBody_nextId (server : RServer) (address : Nat) (op : SvOp) (delivery : Delivery)
    (call : SvCall) :
    (server.handleBody address op delivery call).nextId =
      if op == .accept && delivery.ok then server.nextId + 1 else server.nextId := by
  unfold RServer.handleBody RServer.forget RServer.pushEvents
  cases matched : (op == .accept && delivery.ok) with
  | true =>
    simp only [Bool.and_eq_true] at matched
    simp [matched]
  | false =>
    rw [Bool.and_eq_false_iff] at matched
    rcases matched with other | unmatched
    · simp only [other, Bool.false_eq_true, if_false]
      split_ifs <;> rfl
    · simp only [unmatched, Bool.false_eq_true, if_false]
      split_ifs <;> rfl

/-- A handler enters a matched call in the table of active calls and takes out one it frees. -/
theorem Sound.registry_handleBody {server : RServer} {log : List ServerObs}
    (sound : Sound server log) {address : Nat} {op : SvOp} (delivery : Delivery) {call : SvCall}
    (outstanding : op ∈ (server.arena.cell address).tags)
    (object : (server.arena.cell address).object = some call) :
    Registry SvCall.id (server.handleBody address op delivery call).active
      (server.handleBody address op delivery call).arena
      (server.handleBody address op delivery call).nextId := by
  have allocated := Arena.lt_size_of_object object
  have id := runCall_id server.shutting server.nextId op delivery call
  rw [handleBody_active, handleBody_arena, handleBody_nextId]
  cases matched : (op == .accept && delivery.ok) with
  | true =>
    have numbered := Nat.lt_of_le_of_lt (Nat.zero_le _) (sound.ids address call object)
    have kept : freed op delivery.ok
        (runCall server.shutting server.nextId op delivery call).1 = false := by
      rw [freed, matched]
      rfl
    rw [matched, if_pos rfl] at id
    rw [Bool.and_eq_true, beq_iff_eq] at matched
    obtain ⟨rfl, -⟩ := matched
    have slot : server.arena.cell address = slotCell :=
      (sound.phase allocated).slot_of_accept outstanding
    simp only [handledCell, handleTag, kept, if_true, Bool.false_eq_true, if_false]
    refine sound.registry.enter allocated (fun before stored => ?_) numbered id _
    rw [slot] at stored
    obtain rfl := Option.some.inj stored
    rfl
  | false =>
    rw [matched, if_neg Bool.false_ne_true] at id
    simp only [handledCell, handleTag, Bool.false_eq_true, if_false]
    cases freed op delivery.ok (runCall server.shutting server.nextId op delivery call).1 with
    | false =>
      rw [if_neg Bool.false_ne_true, Bool.false_and, if_neg Bool.false_ne_true]
      exact sound.registry.update object id _
    | true =>
      rw [if_pos rfl, Bool.true_and]
      by_cases nameless : call.id = 0
      · rw [if_neg (by simp [nameless])]
        exact sound.registry.discard object nameless _
      · rw [if_pos (by simp [nameless])]
        exact sound.registry.remove object nameless _

/-- Only slots are without an id after a handler. -/
theorem Sound.nameless_handleBody {server : RServer} {log : List ServerObs}
    (sound : Sound server log) {address : Nat} {op : SvOp} (delivery : Delivery) {call : SvCall}
    (outstanding : op ∈ (server.arena.cell address).tags)
    (object : (server.arena.cell address).object = some call) {other : Nat} {found : SvCall}
    (stored : ((server.handleBody address op delivery call).arena.cell other).object =
      some found) (nameless : found.id = 0) :
    .accept ∈ ((server.handleBody address op delivery call).arena.cell other).tags := by
  have allocated := Arena.lt_size_of_object object
  rw [handleBody_arena] at stored ⊢
  by_cases same : address = other
  · subst same
    rw [Arena.cell_set_self allocated] at stored
    simp only [handledCell, handleTag] at stored
    split at stored
    · exact absurd stored (by simp)
    · rename_i kept
      obtain rfl := Option.some.inj stored
      rw [runCall_id] at nameless
      cases matched : (op == .accept && delivery.ok) with
      | true =>
        rw [matched, if_pos rfl] at nameless
        have behind := sound.ids address call object
        omega
      | false =>
        rw [matched, if_neg Bool.false_ne_true] at nameless
        have slot := (sound.phase allocated).slot_of_accept
          (sound.nameless address call object nameless)
        rw [show server.arena.cell address = slotCell from slot] at outstanding object
        obtain rfl := List.mem_singleton.mp outstanding
        obtain rfl := Option.some.inj object
        have unmatched : delivery.ok = false := by simpa using matched
        exact absurd (by simp [freed, runCall, runAccept, unmatched, newSlot]) kept
  · rw [Arena.cell_set_of_ne same] at stored ⊢
    exact sound.nameless other found stored nameless

/-- A handler keeps the server sound. -/
theorem Sound.handle {server : RServer} {log : List ServerObs} (sound : Sound server log)
    (unlocked : server.muHeld = false) {address : Nat} {op : SvOp} (delivery : Delivery)
    {call : SvCall} (outstanding : op ∈ (server.arena.cell address).tags)
    (object : (server.arena.cell address).object = some call) :
    Sound (server.handle address op delivery call).1
      (log ++ (server.handle address op delivery call).2) := by
  have allocated := Arena.lt_size_of_object object
  have turns (other : Nat) (inside : other < server.arena.size) :
      Turn (server.view other) ((server.handle address op delivery call).1.view other)
        (callLog other (server.handle address op delivery call).2) :=
    turn_handle unlocked outstanding object inside
  obtain ⟨count, equal, quiet, -⟩ := handle_eq server address op delivery call
  obtain ⟨shutting, muHeld, closed, rthread, -⟩ :=
    handleBody_flags server address op delivery call
  have size : (server.handleBody address op delivery call).arena.size = server.arena.size := by
    rw [handleBody_arena, Arena.size_set]
  have sizeAfter : (server.handle address op delivery call).1.arena.size =
      server.arena.size + count := by
    rw [equal, size_withSlots, size]
  have registry : Registry SvCall.id (server.handle address op delivery call).1.active
      (server.handle address op delivery call).1.arena
      (server.handle address op delivery call).1.nextId := by
    have body := sound.registry_handleBody delivery outstanding object
    rw [equal]
    refine registry_withSlots body ?_ count
    rw [handleBody_nextId]
    have behind := sound.ids address call object
    split <;> omega
  have cellNew (other : Nat) (new : server.arena.size ≤ other)
      (inside : other < server.arena.size + count) :
      (server.handle address op delivery call).1.arena.cell other = slotCell :=
    cell_handle_of_size_le new (by rw [sizeAfter]; exact inside)
  have cellOld (other : Nat) (inside : other < server.arena.size) :
      (server.handle address op delivery call).1.arena.cell other =
        (server.handleBody address op delivery call).arena.cell other := by
    rw [equal]
    exact cell_withSlots_of_lt _ _ (by rw [size]; exact inside)
  refine ⟨?_, ?_, registry.found, registry.listed, ?_, registry.behind, ?_, ?_, ?_, ?_⟩
  · intro other inside
    rw [callLog_append]
    by_cases old : other < server.arena.size
    · exact (turns other old).run (sound.calls other old)
    · rw [Nat.not_lt] at old
      rw [sizeAfter] at inside
      have running : server.shutting = false := by
        by_contra shut
        rw [Bool.not_eq_false] at shut
        rw [quiet shut] at inside
        omega
      rw [sound.unused other old, RServer.view, cellNew other old inside, equal, callLog_append,
        callLog_map_of_ne other (by omega), callLog_withSlots, size, if_pos ⟨old, inside⟩]
      show callMachine.Run Machine.Free ⟨slotCell,
        (server.handleBody address op delivery call).shutting,
        (server.handleBody address op delivery call).muHeld⟩ _
      rw [shutting, muHeld, running, unlocked]
      exact .start
  · intro other beyond
    rw [sizeAfter] at beyond
    rw [callLog_append, sound.unused other (by omega), equal, callLog_append,
      callLog_map_of_ne other (by omega), callLog_withSlots, size, if_neg (by omega)]
    rfl
  · intro other found stored nameless
    by_cases old : other < server.arena.size
    · rw [cellOld other old] at stored ⊢
      exact sound.nameless_handleBody delivery outstanding object stored nameless
    · have inside := Arena.lt_size_of_object stored
      rw [sizeAfter] at inside
      rw [cellNew other (by omega) inside]
      exact List.mem_singleton.mpr rfl
  · rw [equal]
    exact shutting.trans (sound.closing.trans closed.symm)
  · intro joining
    rw [equal] at joining ⊢
    exact closed.trans (sound.joining (rthread.symm.trans joining))
  · intro gone
    rw [equal] at gone
    have idle := (sound.drained (rthread.symm.trans gone)).2
    rw [idle.tags_eq_nil] at outstanding
    exact absurd outstanding List.not_mem_nil
  · intro other
    rw [equal]
    simp [sound.safe other, RServer.withSlots]

/-- Once every tag came back, every call is gone. -/
theorem Sound.objects_gone {server : RServer} {log : List ServerObs} (sound : Sound server log)
    (idle : server.arena.Idle) (address : Nat) :
    (server.arena.cell address).object = none := by
  cases object : (server.arena.cell address).object with
  | none => rfl
  | some call =>
    have pending := (sound.phase (Arena.lt_size_of_object object)).pending object
    exact absurd (idle.tags_eq_nil address) pending.2

/-- The end of a shutdown finds nothing left to delete. -/
theorem Sound.endClose_eq {server after : RServer} {log news : List ServerObs}
    (sound : Sound server log) (ended : server.endClose = some (after, news)) :
    server.arena.Idle ∧ news = [] ∧ after = { server with active := ∅, rthread := .gone } := by
  rw [RServer.endClose] at ended
  split at ended
  · rename_i idle
    have nothing : server.active.entries = [] :=
      sound.registry.entries_eq_nil fun address call object =>
        absurd ((sound.objects_gone idle address).symm.trans object) (by simp)
    simp only [nothing, List.map_nil, deleteCalls, Option.some.injEq, Prod.mk.injEq] at ended
    exact ⟨idle, ended.2.symm, ended.1.symm⟩
  · exact absurd ended (by simp)

/-- What a step of a sound server can be: the tag that comes back and the id R asks about belong to
calls that are there, and the end of a shutdown finds nothing left to delete. -/
theorem Sound.step_cases {server after : RServer} {log news : List ServerObs}
    {input : ServerInput} (sound : Sound server log)
    (taken : serverStep server input = some (after, news)) :
    (∃ address op delivery call, input = .returned address op delivery ∧ server.muHeld = false ∧
        op ∈ (server.arena.cell address).tags ∧
        (server.arena.cell address).object = some call ∧
        server.handle address op delivery call = (after, news)) ∨
      (∃ id request address call, input = .request id request ∧ server.closed = false ∧
        server.muHeld = false ∧ server.active.lookup id = some address ∧
        (server.arena.cell address).object = some call ∧
        after = { server with
          arena := server.arena.set address (answeredCell (request.answer server.shutting call)
            (server.arena.cell address).tags)
          muHeld := (request.answer server.shutting call).raised } ∧
        news = (request.answer server.shutting call).obs.map (ServerObs.call address) ++
          [.result id request (request.answer server.shutting call).value]) ∨
      ((∀ address op delivery, input ≠ .returned address op delivery) ∧
        Quiet server after news) ∨
      (input = .close ∧ server.closed = false ∧ server.muHeld = false ∧ news = [] ∧
        after = { server with closed := true, shutting := true, rthread := .joining }) ∨
      input = .joined ∧ server.rthread = .joining ∧ server.arena.Idle ∧ news = [] ∧
        after = { server with active := ∅, rthread := .gone } := by
  rcases serverStep_cases taken with
    ⟨address, op, delivery, rfl, unlocked, outstanding, ⟨call, object, equal⟩ | missing⟩ |
    ⟨id, request, address, rfl, opened, unlocked, found, ⟨call, object, rfl, rfl⟩ | missing⟩ |
    quiet | closing | ⟨rfl, joining, idle, rfl, rfl⟩
  · exact Or.inl ⟨address, op, delivery, call, rfl, unlocked, outstanding, object, equal⟩
  · obtain ⟨call, object⟩ := sound.object_of_mem outstanding
    exact absurd (missing.symm.trans object) (by simp)
  · exact Or.inr (Or.inl ⟨id, request, address, call, rfl, opened, unlocked, found, object, rfl,
      rfl⟩)
  · obtain ⟨call, object, -⟩ := sound.active id address found
    exact absurd (missing.symm.trans object) (by simp)
  · exact Or.inr (Or.inr (Or.inl quiet))
  · exact Or.inr (Or.inr (Or.inr (Or.inl closing)))
  · obtain ⟨-, silent, equal⟩ := sound.endClose_eq (if_pos idle)
    exact Or.inr (Or.inr (Or.inr (Or.inr ⟨rfl, joining, idle, silent, equal⟩)))

/-- A request of R keeps the server sound. -/
theorem Sound.answered {server : RServer} {log : List ServerObs} (sound : Sound server log)
    (unlocked : server.muHeld = false) {id address : Nat} {request : RCall} {call : SvCall}
    (found : server.active.lookup id = some address)
    (object : (server.arena.cell address).object = some call) :
    Sound
      { server with
        arena := server.arena.set address (answeredCell (request.answer server.shutting call)
          (server.arena.cell address).tags)
        muHeld := (request.answer server.shutting call).raised }
      (log ++ ((request.answer server.shutting call).obs.map (ServerObs.call address) ++
        [.result id request (request.answer server.shutting call).value])) := by
  have allocated := Arena.lt_size_of_object object
  have named : call.id ≠ 0 := by
    obtain ⟨call', object', same, nonzero⟩ := sound.active id address found
    obtain rfl := Option.some.inj (object.symm.trans object')
    rw [same]
    exact nonzero
  have registry := sound.registry.update object (answer_id server.shutting request call)
    ((server.arena.cell address).tags ++
      postedTags (request.answer server.shutting call).obs)
  refine ⟨?_, ?_, registry.found, registry.listed, ?_, registry.behind, sound.closing,
    sound.joining, ?_, ?_⟩
  · intro other inside
    rw [Arena.size_set] at inside
    rw [callLog_append]
    exact (turn_answered unlocked object named inside).run (sound.calls other inside)
  · intro other beyond
    rw [Arena.size_set] at beyond
    rw [callLog_append, sound.unused other beyond, callLog_append,
      callLog_map_of_ne other (by omega)]
    rfl
  · intro other found' stored nameless
    by_cases equal : address = other
    · subst equal
      rw [Arena.cell_set_self allocated] at stored
      obtain rfl := Option.some.inj stored
      rw [answer_id] at nameless
      exact absurd nameless named
    · rw [Arena.cell_set_of_ne equal] at stored ⊢
      exact sound.nameless other found' stored nameless
  · intro gone
    have idle := (sound.drained gone).2
    have pending := (sound.phase allocated).pending object
    exact absurd (idle.tags_eq_nil address) pending.2
  · intro other
    simp [sound.safe other]

/-- A step of the server keeps it sound. -/
theorem Sound.step {server after : RServer} {log news : List ServerObs} {input : ServerInput}
    (sound : Sound server log) (taken : serverStep server input = some (after, news)) :
    Sound after (log ++ news) := by
  rcases sound.step_cases taken with
    ⟨address, op, delivery, call, rfl, unlocked, outstanding, object, equal⟩ |
    ⟨id, request, address, call, rfl, opened, unlocked, found, object, rfl, rfl⟩ | ⟨-, quiet⟩ |
    ⟨rfl, opened, unlocked, rfl, rfl⟩ | ⟨rfl, joining, idle, rfl, rfl⟩
  · have handled := sound.handle unlocked delivery outstanding object
    rw [equal] at handled
    exact handled
  · exact sound.answered unlocked found object
  · obtain ⟨same, silent, safe, -, thread⟩ := quiet
    rw [same]
    refine ⟨?_, ?_, sound.active, sound.listed, sound.nameless, sound.ids, sound.closing, ?_, ?_,
      ?_⟩
    · intro address inside
      rw [callLog_append, silent, List.append_nil]
      exact sound.calls address inside
    · intro address beyond
      rw [callLog_append, silent, List.append_nil]
      exact sound.unused address beyond
    · intro joining
      exact sound.joining ((thread (Or.inl joining)).symm.trans joining)
    · intro gone
      exact sound.drained ((thread (Or.inr gone)).symm.trans gone)
    · intro address
      simp [sound.safe address, safe address]
  · rw [List.append_nil]
    refine ⟨?_, sound.unused, sound.active, sound.listed, sound.nameless, sound.ids, rfl,
      fun _ => rfl, ?_, sound.safe⟩
    · intro address inside
      have shut : Turn (server.view address)
          (RServer.view { server with closed := true, shutting := true, rthread := .joining }
            address) [] := .moved .shut rfl
      have run := shut.run (sound.calls address inside)
      rw [List.append_nil] at run
      exact run
    · intro gone
      exact absurd gone (by simp)
  · have gone := sound.objects_gone idle
    rw [List.append_nil]
    refine ⟨sound.calls, sound.unused, ?_, ?_, sound.nameless, sound.ids, sound.closing, ?_, ?_,
      sound.safe⟩
    · intro id address found
      exact absurd found (by simp)
    · intro address call object
      exact absurd ((gone address).symm.trans object) (by simp)
    · intro absurdity
      exact absurd absurdity (by simp)
    · intro _
      exact ⟨sound.joining joining, idle⟩

/-- A server just created is sound. -/
theorem sound_createServer (acceptWindow maxActive : Int) (wake : WakeHandle) :
    Sound (createServer acceptWindow maxActive wake).1
      (createServer acceptWindow maxActive wake).2 := by
  obtain ⟨count, equal, -⟩ := postAcceptsLocked_eq { acceptWindow, maxActive, wake }
  have size : ({ acceptWindow, maxActive, wake } : RServer).arena.size = 0 := rfl
  rw [createServer, equal]
  have registry :=
    registry_withSlots (show Registry SvCall.id
      ({ acceptWindow, maxActive, wake } : RServer).active _ _ from registry_empty SvCall.id 1)
      Nat.one_pos count
  refine ⟨?_, ?_, registry.found, registry.listed, ?_, registry.behind, rfl, ?_, ?_, ?_⟩
  · intro address inside
    rw [size_withSlots, size] at inside
    rw [RServer.view, callLog_withSlots, size, if_pos ⟨Nat.zero_le _, inside⟩,
      cell_withSlots_of_ge _ _ (Nat.zero_le _) (by rw [size]; exact inside)]
    exact .start
  · intro address beyond
    rw [size_withSlots, size] at beyond
    rw [callLog_withSlots, size, if_neg (by omega)]
  · intro address call object _
    have inside := Arena.lt_size_of_object object
    rw [size_withSlots, size] at inside
    rw [cell_withSlots_of_ge _ _ (Nat.zero_le _) (by rw [size]; exact inside)]
    exact List.mem_singleton.mpr rfl
  · intro joining
    exact absurd joining (by simp [RServer.withSlots])
  · intro gone
    exact absurd gone (by simp [RServer.withSlots])
  · intro address
    simp [RServer.withSlots]

/-- Every run of a server keeps it sound. -/
theorem sound_of_run {acceptWindow maxActive : Int} {wake : WakeHandle}
    {allowed : RServer → ServerInput → Prop} {server : RServer} {log : List ServerObs}
    (run : (serverMachine acceptWindow maxActive wake).Run allowed server log) :
    Sound server log :=
  run.invariant (sound_createServer acceptWindow maxActive wake)
    fun _ sound _ taken => sound.step taken

end Rgrpc.Server
