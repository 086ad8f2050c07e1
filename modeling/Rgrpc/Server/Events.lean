/-
This file carries the grammar of the events of a call over to the ids R knows
the calls by. Ids are given in the order in which calls are accepted, never
twice; the events with an id are the events of the call that was given it, and
what R was told about an id is what was accepted on that call.
-/

import Rgrpc.Server.Grammar

namespace Rgrpc.Server

open Library

/-! ### What a log says of an id -/

/-- The addresses of the calls that were accepted, in order. -/
def acceptances (log : List ServerObs) : List Nat :=
  log.filterMap fun
    | .call address (.returned .accept true _) => some address
    | _ => none

/-- The address of the call with an id: ids are given from one on, in order. -/
def holder (log : List ServerObs) : Nat → Option Nat
  | 0 => none
  | before + 1 => (acceptances log)[before]?

/-- The events pushed with an id. -/
def eventsOf (id : Nat) (log : List ServerObs) : List SvEvent :=
  (queued log).filter fun event => event.id == id

/-- How many messages and ends of input were pushed with an id. -/
def inputsOf (id : Nat) (log : List ServerObs) : Nat :=
  ((eventsOf id log).map SvEvent.type).countP SvEventType.isInput

/-- How many `grpc_read`s of an id returned `TRUE`. -/
def readsOf (id : Nat) (log : List ServerObs) : Nat :=
  log.countP fun
    | .result other .read (.ok true) => other == id
    | _ => false

section Projections

variable (log more : List ServerObs)

@[simp]
theorem acceptances_append :
    acceptances (log ++ more) = acceptances log ++ acceptances more :=
  List.filterMap_append

@[simp]
theorem eventsOf_append (id : Nat) :
    eventsOf id (log ++ more) = eventsOf id log ++ eventsOf id more := by
  simp [eventsOf]

@[simp]
theorem readsOf_append (id : Nat) : readsOf id (log ++ more) = readsOf id log + readsOf id more :=
  List.countP_append

end Projections

theorem mem_acceptances_iff {log : List ServerObs} {address : Nat} :
    address ∈ acceptances log ↔ WasAccepted (callLog address log) := by
  rw [acceptances, List.mem_filterMap]
  constructor
  · rintro ⟨entry, member, matched⟩
    split at matched
    · rename_i message
      rw [Option.some.injEq] at matched
      subst matched
      exact ⟨message, mem_callLog_iff.mpr member⟩
    · exact absurd matched (by simp)
  · rintro ⟨message, member⟩
    exact ⟨_, mem_callLog_iff.mp member, rfl⟩

/-- An accepted call was given an id. -/
theorem exists_holder_iff {log : List ServerObs} {address : Nat} :
    (∃ id, holder log id = some address) ↔ WasAccepted (callLog address log) := by
  rw [← mem_acceptances_iff, List.mem_iff_getElem?]
  constructor
  · rintro ⟨id, held⟩
    cases id with
    | zero => exact absurd held (by simp [holder])
    | succ before => exact ⟨before, held⟩
  · rintro ⟨before, held⟩
    exact ⟨before + 1, held⟩

/-- An acceptance gives its call the next id. -/
theorem holder_append_of_singleton {log news : List ServerObs} {address id other : Nat}
    (one : acceptances news = [address]) : holder (log ++ news) id = some other ↔
      holder log id = some other ∨ id = (acceptances log).length + 1 ∧ other = address := by
  cases id with
  | zero => simp [holder]
  | succ before =>
    rw [holder, holder, acceptances_append, one, List.getElem?_append]
    split
    · rename_i inside
      simp [Nat.ne_of_lt inside]
    · rename_i beyond
      rw [List.getElem?_eq_none (Nat.le_of_not_lt beyond), List.getElem?_singleton]
      split
      · rename_i last
        have same : before = (acceptances log).length := by omega
        simp [same, eq_comm]
      · rename_i later
        have different : before ≠ (acceptances log).length := by omega
        simp [different]

/-- Ids are given only by acceptances. -/
theorem holder_append_of_nil (log : List ServerObs) {news : List ServerObs}
    (none : acceptances news = []) :
    holder (log ++ news) = holder log := by
  funext id
  cases id with
  | zero => rfl
  | succ before => rw [holder, acceptances_append, none, List.append_nil, holder]

/-! ### What a step adds to the log -/

theorem acceptances_map (address : Nat) {obs : List CallObs} (never : ¬ WasAccepted obs) :
    acceptances (obs.map (ServerObs.call address)) = [] := by
  refine List.eq_nil_iff_forall_not_mem.mpr fun other member => never ?_
  have accepted := mem_acceptances_iff.mp member
  by_cases same : address = other
  · subst same
    rw [callLog_map_self] at accepted
    exact accepted
  · rw [callLog_map_of_ne other same] at accepted
    obtain ⟨message, absurdity⟩ := accepted
    exact absurd absurdity List.not_mem_nil

theorem acceptances_handleTag (address : Nat) (shutting : Bool) (nextId : Nat) (op : SvOp)
    (delivery : Delivery) (call : SvCall) (tags : List SvOp) :
    acceptances ((handleTag shutting nextId op delivery call tags).2.map
      (ServerObs.call address)) = if op == .accept && delivery.ok then [address] else [] := by
  have never : ¬ WasAccepted ((runCall shutting nextId op delivery call).2 ++
      if freed op delivery.ok (runCall shutting nextId op delivery call).1 then
        [.deleted] else []) := by
    rintro ⟨message, member⟩
    rcases List.mem_append.mp member with act | ended
    · exact absurd (isAct_runCall _ _ _ _ _ _ act) Bool.false_ne_true
    · split at ended
      · exact absurd (List.mem_singleton.mp ended) (by simp)
      · exact absurd ended List.not_mem_nil
  rw [handleTag, List.cons_append, List.map_cons, ← List.singleton_append, acceptances_append,
    acceptances_map address never, List.append_nil]
  cases op with
  | accept => cases matched : delivery.ok <;> simp [acceptances]
  | _ => rfl

theorem acceptances_withSlots (server : RServer) (count : Nat) :
    acceptances (server.withSlots count).2 = [] := by
  rw [RServer.withSlots, acceptances, List.filterMap_map]
  exact List.filterMap_eq_nil_iff.mpr fun _ _ => rfl

/-- No request of R accepts a call. -/
theorem acceptances_answer (address : Nat) (shutting : Bool) (request : RCall) (call : SvCall) :
    acceptances ((request.answer shutting call).obs.map (ServerObs.call address)) = [] := by
  refine acceptances_map address ?_
  have pumps (asked : RCall) (other : SvCall) :
      ¬ WasAccepted (acceptAndPump shutting asked other).obs := by
    rintro ⟨message, member⟩
    rcases List.mem_cons.mp member with first | act
    · exact absurd first (by simp)
    · exact absurd (isAct_pumpLocked _ _ _ act) Bool.false_ne_true
  rcases answer_cases shutting request call with
    same | ⟨-, -, -, -, -, same⟩ | ⟨-, -, same⟩ | ⟨bytes, -, -, -, -, -, same⟩ |
    ⟨-, -, -, -, same | ⟨trailing, hasFinalWrite, error, same⟩⟩
  · rw [same]
    simp [WasAccepted, refuse]
  · rw [same]
    simp [WasAccepted]
  · rw [same]
    simp [WasAccepted]
  · rw [same]
    exact pumps _ _
  · rw [same]
    exact pumps _ _
  · rw [same]
    simp [WasAccepted]

/-- A request grants a read exactly when it is a `grpc_read` and returns `TRUE`. -/
theorem granted_answer (shutting : Bool) (request : RCall) (call : SvCall) :
    granted (request.answer shutting call).obs =
      match request, (request.answer shutting call).value with
      | .read, .ok true => 1
      | _, _ => 0 := by
  rcases answer_cases shutting request call with
    same | ⟨rfl, -, -, -, -, same⟩ | ⟨rfl, -, same⟩ | ⟨bytes, rfl, -, -, -, -, same⟩ |
    ⟨terminal, -, -, -, same | ⟨trailing, hasFinalWrite, error, same⟩⟩
  · rw [same]
    cases request <;> rfl
  · rw [same]
    rfl
  · rw [same]
    rfl
  · rw [same]
    exact granted_acceptAndPump _ (by simp) _
  · have reading : request ≠ .read := by
      rintro rfl
      exact absurd terminal Bool.false_ne_true
    rw [same, granted_acceptAndPump _ reading]
    cases request with
    | read => exact absurd rfl reading
    | _ => rfl
  · rw [same]
    cases request <;> rfl

theorem readsOf_map (id address : Nat) (obs : List CallObs) :
    readsOf id (obs.map (ServerObs.call address)) = 0 := by
  rw [readsOf, List.countP_map]
  exact List.countP_eq_zero.mpr fun _ _ => Bool.false_ne_true

theorem readsOf_result (id other : Nat) (request : RCall) (value : Except RError Bool) :
    readsOf id [.result other request value] =
      if other = id then
        match request, value with
        | .read, .ok true => 1
        | _, _ => 0
      else 0 := by
  cases request with
  | read =>
    rcases value with error | answer
    · simp [readsOf]
    · cases answer
      · simp [readsOf]
      · by_cases same : other = id <;> simp [readsOf, same]
  | _ => simp [readsOf]

theorem readsOf_withSlots (id : Nat) (server : RServer) (count : Nat) :
    readsOf id (server.withSlots count).2 = 0 := by
  rw [RServer.withSlots, readsOf, List.countP_map]
  exact List.countP_eq_zero.mpr fun _ _ => Bool.false_ne_true

theorem mem_of_pushedEvents_callLog {address : Nat} {event : SvEvent} {log : List ServerObs}
    (pushed : event ∈ pushedEvents (callLog address log)) :
    ServerObs.call address (.pushed event) ∈ log := by
  obtain ⟨entry, logged, matched⟩ := List.mem_filterMap.mp pushed
  split at matched
  · rename_i found
    rw [Option.some.injEq] at matched
    subst matched
    exact mem_callLog_iff.mp logged
  · exact absurd matched (by simp)

/-- What a request of R is observed to do, it does to its call. -/
theorem callLog_answered (address other id : Nat) (request : RCall) (obs : List CallObs)
    (value : Except RError Bool) :
    callLog other (obs.map (ServerObs.call address) ++ [.result id request value]) =
      if address = other then obs else [] := by
  rw [callLog_append, callLog_result, callLog_nil, List.append_nil]
  split
  · rename_i same
    rw [same, callLog_map_self]
  · rename_i different
    exact callLog_map_of_ne other different _

/-- A step that is about no call adds nothing. -/
theorem adds_nothing {news : List ServerObs} (silent : ∀ address, callLog address news = []) :
    acceptances news = [] ∧ queued news = [] := by
  constructor
  · refine List.eq_nil_iff_forall_not_mem.mpr fun address member => ?_
    obtain ⟨message, logged⟩ := mem_acceptances_iff.mp member
    rw [silent] at logged
    exact absurd logged List.not_mem_nil
  · refine List.eq_nil_iff_forall_not_mem.mpr fun event member => ?_
    obtain ⟨entry, logged, matched⟩ := List.mem_filterMap.mp member
    split at matched
    · rename_i address pushed
      have found := mem_callLog_iff.mpr logged
      rw [silent] at found
      exact absurd found List.not_mem_nil
    · exact absurd matched (by simp)

/-- What a handler pushes has the id of its call. -/
theorem id_of_pushed_runCall (shutting : Bool) (nextId : Nat) (op : SvOp) (delivery : Delivery)
    (call : SvCall) :
    ∀ event ∈ pushedEvents (runCall shutting nextId op delivery call).2,
      op ≠ .accept ∧ event.id = call.id := by
  intro event member
  have nothing {obs : List CallObs} (none : pushedEvents obs = [])
      (pushed : event ∈ pushedEvents obs) : False := by
    rw [none] at pushed
    exact List.not_mem_nil pushed
  have single {only : SvEvent} (pushed : event ∈ pushedEvents [.pushed only]) : event = only :=
    List.mem_singleton.mp pushed
  cases op with
  | accept =>
    unfold runCall runAccept at member
    simp only at member
    split_ifs at member <;> exact (nothing rfl member).elim
  | read =>
    unfold runCall runRead at member
    simp only at member
    split_ifs at member
    · exact ⟨by simp, by rw [single member]; rfl⟩
    · exact ⟨by simp, by rw [single member]; rfl⟩
    · exact ⟨by simp, by rw [single member]⟩
    · exact (nothing rfl member).elim
  | write =>
    unfold runCall runWrite at member
    simp only at member
    split at member
    · rw [pushedEvents_append, (silent_pumpLocked _ _).1, List.append_nil] at member
      split at member
      · exact ⟨by simp, by rw [single member]⟩
      · exact (nothing rfl member).elim
    · exact (nothing rfl member).elim
  | done =>
    unfold runCall runDone at member
    simp only at member
    split at member
    · exact ⟨by simp, by rw [single member]⟩
    · exact (nothing rfl member).elim
  | finish => exact (nothing rfl member).elim

/-- The log of a handler, as its events, its grants and its results go. -/
theorem log_handleTag (shutting : Bool) (nextId : Nat) (op : SvOp) (delivery : Delivery)
    (call : SvCall) (tags : List SvOp) :
    pushedEvents (handleTag shutting nextId op delivery call tags).2 =
        pushedEvents (runCall shutting nextId op delivery call).2 ∧
      granted (handleTag shutting nextId op delivery call tags).2 = 0 := by
  have ungranted : granted (runCall shutting nextId op delivery call).2 = 0 :=
    List.count_eq_zero.mpr (accepted_not_mem_of_isAct (isAct_runCall _ _ _ _ _) _)
  rw [handleTag]
  simp only
  rw [List.cons_append, ← List.singleton_append, pushedEvents_append, pushedEvents_append,
    granted_append, granted_append, ungranted]
  split
  · exact ⟨List.append_nil _, rfl⟩
  · exact ⟨List.append_nil _, rfl⟩

/-! ### Every id and its call -/

/-- The ids given so far: each belongs to one call, the events and the answers with an id are those
of its call, and an id that was not given yet was never used. -/
structure Numbered (server : RServer) (log : List ServerObs) : Prop where
  counter : server.nextId = (acceptances log).length + 1
  nodup : (acceptances log).Nodup
  named : ∀ address call, (server.arena.cell address).object = some call → call.id ≠ 0 →
    holder log call.id = some address
  own : ∀ id address, holder log id = some address →
    eventsOf id log = pushedEvents (callLog address log) ∧
      readsOf id log = granted (callLog address log)
  free : ∀ id, holder log id = none → eventsOf id log = [] ∧ readsOf id log = 0
  answered : ∀ id request, ServerObs.result id request (.ok true) ∈ log →
    ∃ address, holder log id = some address ∧
      CallObs.accepted request ∈ callLog address log
  told : ∀ id address request, holder log id = some address →
    CallObs.accepted request ∈ callLog address log →
    ServerObs.result id request (.ok true) ∈ log

/-- Two ids never belong to one call. -/
theorem holder_injective {log : List ServerObs} (nodup : (acceptances log).Nodup)
    {id other address : Nat} (first : holder log id = some address)
    (second : holder log other = some address) : id = other := by
  cases id with
  | zero => exact absurd first (by simp [holder])
  | succ before =>
    cases other with
    | zero => exact absurd second (by simp [holder])
    | succ after =>
      rw [holder] at first second
      have inside := (List.getElem?_eq_some_iff.mp first).1
      rw [(List.getElem?_inj inside nodup).mp (first.trans second.symm)]

/-- The id of a call was given out. -/
theorem Numbered.holder_lt {server : RServer} {log : List ServerObs}
    (numbered : Numbered server log) {id address : Nat} (held : holder log id = some address) :
    id < server.nextId := by
  cases id with
  | zero => exact absurd held (by simp [holder])
  | succ before =>
    rw [numbered.counter]
    exact Nat.succ_lt_succ (List.getElem?_eq_some_iff.mp held).1

/-- A step that is about no call keeps the ids. -/
theorem Numbered.note {server after : RServer} {log news : List ServerObs}
    (numbered : Numbered server log) (nextId : after.nextId = server.nextId)
    (arena : after.arena = server.arena) (silent : ∀ address, callLog address news = [])
    (refused : ∀ id request, ServerObs.result id request (.ok true) ∉ news) :
    Numbered after (log ++ news) := by
  obtain ⟨unmatched, unpushed⟩ := adds_nothing silent
  have ungranted (id : Nat) : readsOf id news = 0 := by
    refine List.countP_eq_zero.mpr fun entry member => ?_
    split
    · exact absurd member (refused _ _)
    · exact Bool.false_ne_true
  have quiet (id : Nat) : eventsOf id news = [] := by
    rw [eventsOf, unpushed, List.filter_nil]
  have held := holder_append_of_nil log unmatched
  refine ⟨?_, ?_, ?_, ?_, ?_, ?_, ?_⟩
  · rw [nextId, acceptances_append, unmatched, List.append_nil]
    exact numbered.counter
  · rw [acceptances_append, unmatched, List.append_nil]
    exact numbered.nodup
  · rw [arena, held]
    exact numbered.named
  · intro id address
    rw [held, eventsOf_append, quiet, List.append_nil, readsOf_append, ungranted, Nat.add_zero,
      callLog_append, silent, List.append_nil]
    exact numbered.own id address
  · intro id
    rw [held, eventsOf_append, quiet, List.append_nil, readsOf_append, ungranted, Nat.add_zero]
    exact numbered.free id
  · intro id request member
    obtain ⟨address, owner, accepted⟩ := numbered.answered id request
      ((List.mem_append.mp member).resolve_right (refused id request))
    rw [held]
    exact ⟨address, owner, by rw [callLog_append, silent, List.append_nil]; exact accepted⟩
  · intro id address request owner accepted
    rw [held] at owner
    rw [callLog_append, silent, List.append_nil] at accepted
    exact List.mem_append_left _ (numbered.told id address request owner accepted)

/-- A request of R keeps the ids. -/
theorem Numbered.answer {server : RServer} {log : List ServerObs} (sound : Sound server log)
    (numbered : Numbered server log) {id address : Nat} (request : RCall) {call : SvCall}
    (found : server.active.lookup id = some address)
    (object : (server.arena.cell address).object = some call) :
    Numbered
      { server with
        arena := server.arena.set address (answeredCell (request.answer server.shutting call)
          (server.arena.cell address).tags)
        muHeld := (request.answer server.shutting call).raised }
      (log ++ ((request.answer server.shutting call).obs.map (ServerObs.call address) ++
        [.result id request (request.answer server.shutting call).value])) := by
  obtain ⟨other, stored, own, nonzero⟩ := sound.active id address found
  obtain rfl := Option.some.inj (object.symm.trans stored)
  subst own
  have owner := numbered.named address call object nonzero
  have unmatched : acceptances ((request.answer server.shutting call).obs.map
      (ServerObs.call address) ++
        [.result call.id request (request.answer server.shutting call).value]) = [] := by
    rw [acceptances_append, acceptances_answer]
    rfl
  have quiet (id : Nat) : eventsOf id ((request.answer server.shutting call).obs.map
      (ServerObs.call address) ++
        [.result call.id request (request.answer server.shutting call).value]) = [] := by
    rw [eventsOf, queued_append, queued_map, pushedEvents_answer]
    rfl
  have held := holder_append_of_nil log unmatched
  have reads (id : Nat) : readsOf id ((request.answer server.shutting call).obs.map
      (ServerObs.call address) ++
        [.result call.id request (request.answer server.shutting call).value]) =
      if call.id = id then granted (request.answer server.shutting call).obs else 0 := by
    rw [readsOf_append, readsOf_map, granted_answer, Nat.zero_add, readsOf_result]
  refine ⟨?_, ?_, ?_, ?_, ?_, ?_, ?_⟩
  · rw [acceptances_append, unmatched, List.append_nil]
    exact numbered.counter
  · rw [acceptances_append, unmatched, List.append_nil]
    exact numbered.nodup
  · intro other present stored named
    rw [held]
    by_cases same : address = other
    · subst same
      rw [Arena.cell_set_self (Arena.lt_size_of_object object)] at stored
      obtain rfl := Option.some.inj stored
      rw [answer_id]
      exact owner
    · rw [Arena.cell_set_of_ne same] at stored
      exact numbered.named other present stored named
  · intro id other holds
    rw [held] at holds
    obtain ⟨events, grants⟩ := numbered.own id other holds
    have agree : call.id = id ↔ address = other := by
      constructor
      · rintro rfl
        exact Option.some.inj (owner.symm.trans holds)
      · rintro rfl
        exact holder_injective numbered.nodup owner holds
    rw [eventsOf_append, quiet, List.append_nil, readsOf_append, reads, callLog_append,
      callLog_answered, pushedEvents_append, granted_append, events, grants]
    by_cases same : address = other
    · rw [if_pos same, if_pos (agree.mpr same), pushedEvents_answer, List.append_nil]
      exact ⟨rfl, rfl⟩
    · rw [if_neg same, if_neg (fun equal => same (agree.mp equal))]
      exact ⟨(List.append_nil _).symm, rfl⟩
  · intro id nobody
    rw [held] at nobody
    obtain ⟨events, grants⟩ := numbered.free id nobody
    have different : call.id ≠ id := by
      rintro rfl
      exact absurd (nobody.symm.trans owner) (by simp)
    rw [eventsOf_append, quiet, events, readsOf_append, grants, reads, if_neg different]
    exact ⟨rfl, rfl⟩
  · intro id asked member
    rw [held]
    rcases List.mem_append.mp member with before | new
    · obtain ⟨other, holds, accepted⟩ := numbered.answered id asked before
      refine ⟨other, holds, ?_⟩
      rw [callLog_append]
      exact List.mem_append_left _ accepted
    · have last := (List.mem_append.mp new).resolve_left (by simp)
      rw [List.mem_singleton, ServerObs.result.injEq] at last
      obtain ⟨rfl, rfl, value⟩ := last
      refine ⟨address, owner, ?_⟩
      rw [callLog_append, callLog_answered, if_pos rfl]
      exact List.mem_append_right _
        ((accepted_mem_answer_iff _ _ _ _).mpr ⟨rfl, value.symm⟩)
  · intro id other asked holds accepted
    rw [held] at holds
    rw [callLog_append, List.mem_append, callLog_answered] at accepted
    rcases accepted with before | new
    · exact List.mem_append_left _ (numbered.told id other asked holds before)
    · split at new
      · rename_i same
        subst same
        obtain ⟨rfl, value⟩ := (accepted_mem_answer_iff _ _ _ _).mp new
        rw [holder_injective numbered.nodup holds owner, value]
        simp
      · exact absurd new List.not_mem_nil

/-- What a handler leaves of the memory and adds to the log, apart from the slots it posts. -/
structure Handles (server after : RServer) (news : List ServerObs) (address : Nat) (op : SvOp)
    (delivery : Delivery) (call : SvCall) : Prop where
  nextId : after.nextId =
    if op == .accept && delivery.ok then server.nextId + 1 else server.nextId
  named : ∀ other found, (after.arena.cell other).object = some found → found.id ≠ 0 →
    address ≠ other ∧ (server.arena.cell other).object = some found ∨
      address = other ∧ found = (runCall server.shutting server.nextId op delivery call).1
  acceptances : acceptances news = if op == .accept && delivery.ok then [address] else []
  queued : queued news = pushedEvents (runCall server.shutting server.nextId op delivery call).2
  own : ∀ other event, ServerObs.call other (.pushed event) ∈ news → address = other
  ungranted : ∀ id, readsOf id news = 0
  unanswered : ∀ id request, ServerObs.result id request (.ok true) ∉ news
  logged : ∀ other, other < server.arena.size → callLog other news =
    if address = other then (handleTag server.shutting server.nextId op delivery call
      (server.arena.cell address).tags).2 else []

theorem handles_handle {server : RServer} {address : Nat} {call : SvCall}
    (object : (server.arena.cell address).object = some call) (op : SvOp) (delivery : Delivery) :
    Handles server (server.handle address op delivery call).1
      (server.handle address op delivery call).2 address op delivery call := by
  obtain ⟨count, equal, -⟩ := handle_eq server address op delivery call
  have size : (server.handleBody address op delivery call).arena.size = server.arena.size := by
    rw [handleBody_arena, Arena.size_set]
  rw [equal]
  refine ⟨handleBody_nextId server address op delivery call, ?_, ?_, ?_, ?_, ?_, ?_, ?_⟩
  · rw [← equal]
    intro other found stored named
    by_cases old : other < server.arena.size
    · rw [cell_handle op delivery object old] at stored
      split at stored
      · rename_i same
        exact Or.inr ⟨same, eq_of_handleTag stored⟩
      · rename_i different
        exact Or.inl ⟨different, stored⟩
    · rw [cell_handle_of_size_le (Nat.le_of_not_lt old) (Arena.lt_size_of_object stored)] at stored
      obtain rfl := Option.some.inj stored
      exact absurd rfl named
  · rw [acceptances_append, acceptances_handleTag, acceptances_withSlots, List.append_nil]
  · rw [queued_append, queued_map, (queued_withSlots _ _).1, List.append_nil,
      (log_handleTag _ _ _ _ _ _).1]
  · intro other event member
    rcases List.mem_append.mp member with pushed | slot
    · obtain ⟨entry, -, same⟩ := List.mem_map.mp pushed
      exact (ServerObs.call.inj same).1
    · exact absurd (mem_withSlots slot).1 (by simp)
  · intro id
    rw [readsOf_append, readsOf_map, readsOf_withSlots]
  · intro id request member
    simp [RServer.withSlots] at member
  · intro other inside
    rw [callLog_append, callLog_withSlots, size, if_neg (by omega), List.append_nil]
    split
    · rename_i same
      rw [same, callLog_map_self]
    · rename_i different
      exact callLog_map_of_ne other different _

/-- An id that was given keeps its call. -/
theorem holder_mono {log : List ServerObs} {id address : Nat} (held : holder log id = some address)
    (news : List ServerObs) : holder (log ++ news) id = some address := by
  cases id with
  | zero => exact absurd held (by simp [holder])
  | succ before =>
    rw [holder] at held
    have inside := (List.getElem?_eq_some_iff.mp held).1
    rw [holder, acceptances_append, List.getElem?_append_left inside]
    exact held

section Handled

variable {server after : RServer} {log news : List ServerObs} {address : Nat} {op : SvOp}
  {delivery : Delivery} {call : SvCall}

/-- The slot of an unmatched accept is not in use yet. -/
theorem Sound.slot_of_accept (sound : Sound server log)
    (outstanding : .accept ∈ (server.arena.cell address).tags) :
    server.arena.cell address = slotCell ∧ callLog address log = [.posted .requestCall] := by
  have phase := sound.phase (Arena.lt_size_of_mem_tags outstanding)
  have cell := phase.slot_of_accept outstanding
  refine ⟨cell, ?_⟩
  cases phase with
  | slot _ opened => exact opened
  | live other found settled =>
    exact absurd outstanding settled.ledger.accept_not_mem
  | gone empty deleted lawful =>
    rw [show server.arena.cell address = ⟨none, []⟩ from empty] at outstanding
    exact absurd outstanding List.not_mem_nil

/-- A call with an id is allocated. -/
theorem Sound.lt_size_of_holder (sound : Sound server log) {id other : Nat}
    (held : holder log id = some other) : other < server.arena.size := by
  by_contra beyond
  obtain ⟨message, member⟩ := exists_holder_iff.mp ⟨id, held⟩
  rw [sound.unused other (Nat.le_of_not_lt beyond)] at member
  exact absurd member List.not_mem_nil

theorem Numbered.answered_handle (numbered : Numbered server log)
    (handles : Handles server after news address op delivery call) (id : Nat) (request : RCall)
    (member : ServerObs.result id request (.ok true) ∈ log ++ news) :
    ∃ other, holder (log ++ news) id = some other ∧
      CallObs.accepted request ∈ callLog other (log ++ news) := by
  obtain ⟨other, held, accepted⟩ := numbered.answered id request
    ((List.mem_append.mp member).resolve_right (handles.unanswered id request))
  refine ⟨other, holder_mono held news, ?_⟩
  rw [callLog_append]
  exact List.mem_append_left _ accepted

/-- A handler accepts no request of R. -/
theorem Numbered.told_handle (sound : Sound server log) (numbered : Numbered server log)
    (handles : Handles server after news address op delivery call) {id other : Nat}
    {request : RCall} (held : holder log id = some other)
    (accepted : CallObs.accepted request ∈ callLog other (log ++ news)) :
    ServerObs.result id request (.ok true) ∈ log ++ news := by
  rw [callLog_append, List.mem_append, handles.logged other (sound.lt_size_of_holder held)]
    at accepted
  rcases accepted with before | new
  · exact List.mem_append_left _ (numbered.told id other request held before)
  · split at new
    · exact absurd new (accepted_not_mem_handleTag _ _ _ _ _ _ request)
    · exact absurd new List.not_mem_nil

/-- What a handler pushes has the id given to the call whose tag came back. -/
theorem Numbered.holder_of_queued (sound : Sound server log) (numbered : Numbered server log)
    (outstanding : op ∈ (server.arena.cell address).tags)
    (object : (server.arena.cell address).object = some call)
    (handles : Handles server after news address op delivery call) {event : SvEvent}
    (pushed : event ∈ queued news) : holder log event.id = some address := by
  rw [handles.queued] at pushed
  obtain ⟨other, same⟩ := id_of_pushed_runCall _ _ _ _ _ event pushed
  rw [same]
  refine numbered.named address call object fun nameless => other ?_
  have waiting := sound.nameless address call object nameless
  rw [(sound.slot_of_accept waiting).1] at outstanding
  exact List.mem_singleton.mp outstanding

/-- A handler that accepts nothing keeps the ids. -/
theorem Numbered.unmatched (sound : Sound server log) (numbered : Numbered server log)
    (outstanding : op ∈ (server.arena.cell address).tags)
    (object : (server.arena.cell address).object = some call)
    (handles : Handles server after news address op delivery call)
    (unmatched : (op == .accept && delivery.ok) = false) : Numbered after (log ++ news) := by
  have none := handles.acceptances
  rw [unmatched, if_neg Bool.false_ne_true] at none
  have held := holder_append_of_nil log none
  have owner {event : SvEvent} (pushed : event ∈ queued news) :
      holder log event.id = some address :=
    numbered.holder_of_queued sound outstanding object handles pushed
  refine ⟨?_, ?_, ?_, ?_, ?_, numbered.answered_handle handles, ?_⟩
  · rw [handles.nextId, unmatched, acceptances_append, none, List.append_nil]
    exact numbered.counter
  · rw [acceptances_append, none, List.append_nil]
    exact numbered.nodup
  · intro other found stored named
    rw [held]
    rcases handles.named other found stored named with ⟨-, before⟩ | ⟨rfl, rfl⟩
    · exact numbered.named other found before named
    · rw [runCall_id, unmatched, if_neg Bool.false_ne_true] at named ⊢
      exact numbered.named address call object named
  · intro id other holds
    rw [held] at holds
    obtain ⟨events, grants⟩ := numbered.own id other holds
    rw [eventsOf_append, events, readsOf_append, grants, handles.ungranted, callLog_append,
      handles.logged other (sound.lt_size_of_holder holds), pushedEvents_append, granted_append]
    by_cases same : address = other
    · rw [if_pos same, (log_handleTag _ _ _ _ _ _).1, (log_handleTag _ _ _ _ _ _).2,
        ← handles.queued, eventsOf, List.filter_eq_self.mpr]
      · exact ⟨rfl, rfl⟩
      · intro event pushed
        rw [beq_iff_eq]
        exact holder_injective numbered.nodup ((owner pushed).trans (congrArg some same)) holds
    · rw [if_neg same, eventsOf, List.filter_eq_nil_iff.mpr]
      · exact ⟨rfl, rfl⟩
      · intro event pushed equal
        rw [beq_iff_eq] at equal
        rw [← equal, owner pushed, Option.some.injEq] at holds
        exact same holds
  · intro id nobody
    rw [held] at nobody
    obtain ⟨events, grants⟩ := numbered.free id nobody
    rw [eventsOf_append, events, readsOf_append, grants, handles.ungranted, eventsOf,
      List.filter_eq_nil_iff.mpr]
    · exact ⟨rfl, rfl⟩
    · intro event pushed equal
      rw [beq_iff_eq] at equal
      rw [← equal, owner pushed] at nobody
      exact absurd nobody (by simp)
  · intro id other request holds accepted
    rw [held] at holds
    exact numbered.told_handle sound handles holds accepted

/-- A handler that accepts a call gives it the next id. -/
theorem Numbered.matched (sound : Sound server log) (numbered : Numbered server log)
    (outstanding : op ∈ (server.arena.cell address).tags)
    (object : (server.arena.cell address).object = some call)
    (handles : Handles server after news address op delivery call)
    (matched : (op == .accept && delivery.ok) = true) : Numbered after (log ++ news) := by
  obtain ⟨accepts, -⟩ := Bool.and_eq_true_iff.mp matched
  rw [beq_iff_eq] at accepts
  subst accepts
  have one := handles.acceptances
  rw [matched, if_pos rfl] at one
  obtain ⟨cell, opened⟩ := sound.slot_of_accept outstanding
  have silent : queued news = [] := by
    refine List.eq_nil_iff_forall_not_mem.mpr fun event pushed => ?_
    rw [handles.queued] at pushed
    exact (id_of_pushed_runCall _ _ _ _ _ event pushed).1 rfl
  have quiet (id : Nat) : eventsOf id news = [] := by
    rw [eventsOf, silent, List.filter_nil]
  have new : address ∉ acceptances log := by
    rw [mem_acceptances_iff, opened]
    simp [WasAccepted]
  have given (id other : Nat) : holder (log ++ news) id = some other ↔
      holder log id = some other ∨ id = server.nextId ∧ other = address := by
    rw [numbered.counter]
    exact holder_append_of_singleton one
  have unheld : holder log server.nextId = Option.none := by
    by_contra held
    obtain ⟨other, held⟩ := Option.ne_none_iff_exists'.mp held
    exact Nat.lt_irrefl _ (numbered.holder_lt held)
  refine ⟨?_, ?_, ?_, ?_, ?_, numbered.answered_handle handles, ?_⟩
  · rw [handles.nextId, matched, if_pos rfl, acceptances_append, one, List.length_append,
      numbered.counter]
    rfl
  · rw [acceptances_append, one]
    refine List.nodup_append.mpr ⟨numbered.nodup, List.nodup_singleton _,
      fun before member last only equal => ?_⟩
    rw [List.mem_singleton.mp only] at equal
    exact new (equal ▸ member)
  · intro other found stored named
    rcases handles.named other found stored named with ⟨-, before⟩ | ⟨rfl, rfl⟩
    · exact holder_mono (numbered.named other found before named) news
    · rw [runCall_id, matched, if_pos rfl]
      exact (given _ _).mpr (Or.inr ⟨rfl, rfl⟩)
  · intro id other holds
    rw [eventsOf_append, quiet, List.append_nil, readsOf_append, handles.ungranted, Nat.add_zero,
      callLog_append, pushedEvents_append, granted_append]
    rcases (given id other).mp holds with before | ⟨rfl, rfl⟩
    · have different : address ≠ other := by
        rintro rfl
        exact new (mem_acceptances_iff.mpr (exists_holder_iff.mp ⟨id, before⟩))
      rw [handles.logged other (sound.lt_size_of_holder before), if_neg different]
      exact ⟨(numbered.own id other before).1.trans (List.append_nil _).symm,
        (numbered.own id other before).2⟩
    · obtain ⟨events, grants⟩ := numbered.free _ unheld
      rw [events, grants, handles.logged other (Arena.lt_size_of_object object), if_pos rfl,
        (log_handleTag _ _ _ _ _ _).1, (log_handleTag _ _ _ _ _ _).2, opened, ← handles.queued,
        silent]
      exact ⟨rfl, rfl⟩
  · intro id nobody
    rw [eventsOf_append, quiet, List.append_nil, readsOf_append, handles.ungranted, Nat.add_zero]
    refine numbered.free id ?_
    by_contra held
    obtain ⟨other, held⟩ := Option.ne_none_iff_exists'.mp held
    exact absurd (nobody.symm.trans (holder_mono held news)) (by simp)
  · intro id other request holds accepted
    rcases (given id other).mp holds with before | ⟨rfl, rfl⟩
    · exact numbered.told_handle sound handles before accepted
    · rw [callLog_append, opened, List.mem_append,
        handles.logged other (Arena.lt_size_of_object object), if_pos rfl] at accepted
      rcases accepted with slot | new
      · exact absurd slot (by simp)
      · exact absurd new (accepted_not_mem_handleTag _ _ _ _ _ _ request)

end Handled

/-- The ids of every run of a server. -/
theorem Numbered.step {server after : RServer} {log news : List ServerObs} {input : ServerInput}
    (sound : Sound server log) (numbered : Numbered server log)
    (taken : serverStep server input = some (after, news)) : Numbered after (log ++ news) := by
  rcases sound.step_cases taken with
    ⟨address, op, delivery, call, rfl, unlocked, outstanding, object, equal⟩ |
    ⟨id, request, address, call, rfl, opened, unlocked, found, object, rfl, rfl⟩ |
    ⟨-, quiet⟩ | ⟨rfl, opened, unlocked, rfl, rfl⟩ | ⟨rfl, joining, idle, rfl, rfl⟩
  · have handles := handles_handle object op delivery
    rw [equal] at handles
    cases matched : (op == .accept && delivery.ok) with
    | true => exact numbered.matched sound outstanding object handles matched
    | false => exact numbered.unmatched sound outstanding object handles matched
  · exact numbered.answer sound request found object
  · have same := quiet.same
    exact numbered.note (by rw [same]) (by rw [same]) quiet.silent quiet.refused
  · exact numbered.note rfl rfl (fun _ => rfl) (by simp)
  · exact numbered.note rfl rfl (fun _ => rfl) (by simp)

theorem numbered_of_run {acceptWindow maxActive : Int} {wake : WakeHandle}
    {allowed : RServer → ServerInput → Prop} {server : RServer} {log : List ServerObs}
    (run : (serverMachine acceptWindow maxActive wake).Run allowed server log) :
    Numbered server log := by
  refine run.invariant ?_ fun before numbered _ taken => numbered.step (sound_of_run before) taken
  obtain ⟨count, created, -⟩ := postAcceptsLocked_eq { acceptWindow, maxActive, wake }
  show Numbered (createServer acceptWindow maxActive wake).1
    (createServer acceptWindow maxActive wake).2
  rw [createServer, created]
  have none := acceptances_withSlots { acceptWindow, maxActive, wake } count
  have silent := (queued_withSlots { acceptWindow, maxActive, wake } count).1
  have nobody (id : Nat) :
      holder (RServer.withSlots { acceptWindow, maxActive, wake } count).2 id = Option.none := by
    cases id with
    | zero => rfl
    | succ before => rw [holder, none, List.getElem?_nil]
  refine ⟨?_, ?_, ?_, ?_, ?_, ?_, ?_⟩
  · rw [none]
    rfl
  · rw [none]
    exact List.nodup_nil
  · intro address call object named
    have inside := Arena.lt_size_of_object object
    rw [size_withSlots] at inside
    rw [cell_withSlots_of_ge _ _ (Nat.zero_le _) inside] at object
    obtain rfl := Option.some.inj object
    exact absurd rfl named
  · intro id address held
    exact absurd ((nobody id).symm.trans held) (by simp)
  · intro id _
    rw [eventsOf, silent]
    exact ⟨rfl, readsOf_withSlots id _ count⟩
  · intro id request member
    simp [RServer.withSlots] at member
  · intro id address request held _
    exact absurd ((nobody id).symm.trans held) (by simp)

/-! ### The events of every id -/

/-- Cancellation and room to write are reported for an id only while no reply and no finish of that
id returned `TRUE`. -/
def UnansweredLaw (before : List ServerObs) : ServerObs → Prop
  | .call _ (.pushed event) =>
    event.type = .cancelled ∨ event.type = .streamWritable →
      ∀ request, request.isTerminal = true → ServerObs.result event.id request (.ok true) ∉ before
  | _ => True

/-- What pushes nothing keeps the law. -/
theorem unanswered_append_of_unpushed {log news : List ServerObs}
    (lawful : Lawful UnansweredLaw log) (silent : queued news = []) :
    Lawful UnansweredLaw (log ++ news) := by
  refine lawful.append fun before entry after equal => ?_
  rw [equal, queued_append, ← List.singleton_append, queued_append] at silent
  have none := (List.append_eq_nil_iff.mp (List.append_eq_nil_iff.mp silent).2).1
  cases entry with
  | call address obs =>
    cases obs with
    | pushed event => exact absurd none (by simp [queued])
    | _ => trivial
  | _ => trivial

theorem terminals_ne_nil {log : List CallObs} {request : RCall}
    (accepted : CallObs.accepted request ∈ log) (terminal : request.isTerminal = true) :
    terminals log ≠ [] := by
  have member : request ∈ terminals log :=
    List.mem_filterMap.mpr ⟨_, accepted, by simp [terminal]⟩
  exact List.ne_nil_of_mem member

theorem Numbered.unanswered_handle {server after : RServer} {log news : List ServerObs}
    (sound : Sound server log) (numbered : Numbered server log)
    (lawful : Lawful UnansweredLaw log) {address : Nat} {op : SvOp} {delivery : Delivery}
    {call : SvCall} (outstanding : op ∈ (server.arena.cell address).tags)
    (object : (server.arena.cell address).object = some call)
    (handles : Handles server after news address op delivery call)
    (told : ∀ address, Lawful EventLaw (callLog address (log ++ news))) :
    Lawful UnansweredLaw (log ++ news) := by
  refine lawful.append fun before entry rest equal => ?_
  cases entry with
  | call other obs =>
    cases obs with
    | pushed event =>
      intro kind request terminal member
      have own : callLog other (log ++ news) = callLog other (log ++ before) ++
          .pushed event :: callLog other rest := by
        rw [equal, callLog_append, callLog_append, callLog_append, ← List.singleton_append,
          callLog_append, List.append_assoc]
        simp [callLog]
      have answered : ServerObs.result event.id request (.ok true) ∈ log := by
        rcases List.mem_append.mp member with old | new
        · exact old
        · refine absurd ?_ (handles.unanswered event.id request)
          rw [equal]
          exact List.mem_append_left _ new
      have logged : ServerObs.call other (.pushed event) ∈ news := by
        rw [equal]
        exact List.mem_append_right _ List.mem_cons_self
      obtain rfl := handles.own other event logged
      have owner := numbered.holder_of_queued sound outstanding object handles
        (List.mem_filterMap.mpr ⟨_, logged, rfl⟩)
      obtain ⟨holds, held, accepted⟩ := numbered.answered event.id request answered
      obtain rfl := Option.some.inj (owner.symm.trans held)
      have before : CallObs.accepted request ∈ callLog address (log ++ before) := by
        rw [callLog_append]
        exact List.mem_append_left _ accepted
      exact terminals_ne_nil before terminal (told address _ _ _ own kind)
    | _ => trivial
  | _ => trivial

/-- What is told of every call keeps its law. -/
theorem Sound.storied {server : RServer} {log : List ServerObs} (sound : Sound server log)
    (address : Nat) : grammatical (kinds (callLog address log)) = true ∧
      inputs (callLog address log) ≤ granted (callLog address log) ∧
      Lawful EventLaw (callLog address log) := by
  by_cases allocated : address < server.arena.size
  · have storied := storied_of_run (sound.calls address allocated)
    exact ⟨storied.grammar, storied.bounded, storied.lawful⟩
  · rw [sound.unused address (Nat.le_of_not_lt allocated)]
    exact ⟨rfl, Nat.le_refl 0, lawful_nil _⟩

theorem unanswered_of_run {acceptWindow maxActive : Int} {wake : WakeHandle}
    {allowed : RServer → ServerInput → Prop} {server : RServer} {log : List ServerObs}
    (run : (serverMachine acceptWindow maxActive wake).Run allowed server log) :
    Lawful UnansweredLaw log := by
  induction run with
  | start =>
    obtain ⟨count, created, -⟩ := postAcceptsLocked_eq { acceptWindow, maxActive, wake }
    show Lawful UnansweredLaw (createServer acceptWindow maxActive wake).2
    rw [createServer, created]
    exact unanswered_append_of_unpushed (lawful_nil _) (queued_withSlots _ count).1
  | @next state after log news input before _ taken inductionHypothesis =>
    have sound := sound_of_run before
    have soundAfter := sound.step taken
    rcases sound.step_cases taken with
      ⟨address, op, delivery, call, rfl, unlocked, outstanding, object, equal⟩ |
      ⟨id, request, address, call, rfl, opened, unlocked, found, object, rfl, rfl⟩ |
      ⟨-, quiet⟩ | ⟨rfl, opened, unlocked, rfl, rfl⟩ | ⟨rfl, joining, idle, rfl, rfl⟩
    · have handles := handles_handle object op delivery
      rw [equal] at handles
      exact (numbered_of_run before).unanswered_handle sound inductionHypothesis outstanding object
        handles fun address => (soundAfter.storied address).2.2
    · refine unanswered_append_of_unpushed inductionHypothesis ?_
      rw [queued_append, queued_map, pushedEvents_answer]
      rfl
    · exact unanswered_append_of_unpushed inductionHypothesis (adds_nothing quiet.silent).2
    · exact unanswered_append_of_unpushed inductionHypothesis rfl
    · exact unanswered_append_of_unpushed inductionHypothesis rfl

/-- A Read is outstanding exactly while the flag of the call says so. -/
theorem Phase.read_mem_iff {view : CallView} {log : List CallObs} (phase : Phase view log)
    {call : SvCall} (object : view.cell.object = some call) :
    .read ∈ view.cell.tags ↔ call.readInflight = true := by
  cases phase with
  | slot cell opened =>
    rw [cell] at object ⊢
    obtain rfl := Option.some.inj object
    simp [newSlot]
  | live other found settled =>
    obtain rfl := Option.some.inj (object.symm.trans found)
    exact mem_iff_flag settled.ledger.read
  | gone cell deleted lawful =>
    rw [cell] at object
    exact absurd object (by simp)

/-- The event law of a server, in one of its states. The events of every id are a `request`,
messages, ends of input and room to write, and at most one `cancelled`, last. Cancellation and room
to write are reported only while no reply and no finish was accepted. Reads that returned `TRUE`
are answered at most once, and on a live call all of them are, but for the one whose Read is
outstanding: on a call R was handed, that is a Read posted by `grpc_read`. Every accepted call has
an id, and no two share one. -/
structure EventDiscipline (server : RServer) (log : List ServerObs) : Prop where
  grammar : ∀ id, grammatical ((eventsOf id log).map SvEvent.type) = true
  unanswered : Lawful UnansweredLaw log
  bounded : ∀ id, inputsOf id log ≤ readsOf id log
  balanced : ∀ address call, (server.arena.cell address).object = some call → call.id ≠ 0 →
    call.dead = false → readsOf call.id log = inputsOf call.id log +
      if .read ∈ (server.arena.cell address).tags ∧ call.delivered = true then 1 else 0
  named : ∀ address call, (server.arena.cell address).object = some call →
    WasAccepted (callLog address log) → holder log call.id = some address
  given : ∀ address, WasAccepted (callLog address log) → ∃ id, holder log id = some address
  distinct : ∀ id other address, holder log id = some address → holder log other = some address →
    id = other

theorem Numbered.inputsOf_eq {server : RServer} {log : List ServerObs}
    (numbered : Numbered server log) {id address : Nat} (held : holder log id = some address) :
    inputsOf id log = inputs (callLog address log) := by
  rw [inputsOf, (numbered.own id address held).1, inputs, kinds]

/-- The event law holds in every state of every run of a server. -/
theorem events_disciplined (acceptWindow maxActive : Int) (wake : WakeHandle) (server : RServer)
    (log : List ServerObs)
    (run : (serverMachine acceptWindow maxActive wake).Run Machine.Free server log) :
    EventDiscipline server log := by
  have sound := sound_of_run run
  have numbered := numbered_of_run run
  refine ⟨fun id => ?_, unanswered_of_run run, fun id => ?_,
    fun address call object named alive => ?_, fun address call object accepted => ?_,
    fun address accepted => exists_holder_iff.mpr accepted,
    fun id other address first second => holder_injective numbered.nodup first second⟩
  · cases held : holder log id with
    | none =>
      rw [(numbered.free id held).1]
      rfl
    | some address =>
      rw [(numbered.own id address held).1]
      exact (sound.storied address).1
  · cases held : holder log id with
    | none =>
      rw [inputsOf, (numbered.free id held).1]
      exact Nat.zero_le _
    | some address =>
      rw [numbered.inputsOf_eq held, (numbered.own id address held).2]
      exact (sound.storied address).2.1
  · have held := numbered.named address call object named
    have allocated := Arena.lt_size_of_object object
    have story := (storied_of_run (sound.calls address allocated)).story call object
    rw [numbered.inputsOf_eq held, (numbered.own call.id address held).2, story.balanced alive]
    have outstanding := (sound.phase allocated).read_mem_iff object
    rw [show (server.view address).cell = server.arena.cell address from rfl] at outstanding
    simp only [outstanding, Bool.and_eq_true]
  · refine numbered.named address call object fun nameless => ?_
    have waiting := sound.nameless address call object nameless
    rw [(sound.slot_of_accept waiting).2] at accepted
    exact absurd accepted (by simp [WasAccepted])

/-- Two messages are asked for; one comes, and then the call is over. -/
def truncatedInputs : List ServerInput :=
  [.returned 0 .accept { ok := true },
    .returned 0 .read { ok := true, message := .ofRaw [1] },
    .request 1 .read,
    .returned 0 .read { ok := true, message := .ofRaw [2] },
    .request 1 .read,
    .returned 0 .done { ok := true },
    .returned 0 .read { ok := false }]

theorem events_disciplined_truncated : ∃ server log,
    (serverMachine 1 2 ⟨16, 0⟩).Run Machine.Free server log ∧
      (eventsOf 1 log).map SvEvent.type = [.request, .streamMsg, .cancelled] ∧
      inputsOf 1 log = 1 ∧ readsOf 1 log = 2 ∧ EventDiscipline server log := by
  have run := Machine.run_of_exec (show (serverMachine 1 2 ⟨16, 0⟩).exec Machine.Free
    (serverMachine 1 2 ⟨16, 0⟩).start truncatedInputs = some _ from rfl)
  exact ⟨_, _, run, by decide, by decide, by decide, events_disciplined 1 2 ⟨16, 0⟩ _ _ run⟩

end Rgrpc.Server
