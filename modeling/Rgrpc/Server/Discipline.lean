/-
This file proves the operation discipline of the server. Between two locked
sections the rules are facts about the log and the tags outstanding; at the
moment an operation is posted they are facts about the section that posts it.

The terminal operation is the last thing a section does, and the pump does not
touch the queue when it posts it, so the queue a section leaves behind is the
one the terminal found.
-/

import Rgrpc.Server.Runs

namespace Rgrpc.Server

open Library

/-! ### What a section that posts looks like -/

/-- A call left behind by a section that posted an operation: it is not dead, and a terminal
operation found no write outstanding and the queue empty. -/
structure PostedOn (call : SvCall) (post : SvPost) : Prop where
  alive : call.dead = false
  drained : post.op = .finish → call.writeInflight = false ∧ call.writeQueue = []

theorem postedOn_pumpLocked {shutting : Bool} {call : SvCall} {post : SvPost}
    (posted : CallObs.posted post ∈ (pumpLocked shutting call).2) :
    shutting = false ∧ call.dead = false ∧ PostedOn (pumpLocked shutting call).1 post := by
  rcases pumpLocked_cases shutting call with
    ⟨same, -⟩ | ⟨running, alive, -, idle, ⟨front, rest, queue, same⟩ | ⟨queue, replied, same⟩⟩
  · rw [same] at posted
    exact absurd posted List.not_mem_nil
  · rw [same] at posted ⊢
    simp only [List.mem_singleton, CallObs.posted.injEq] at posted
    exact ⟨running, alive, alive, fun kind => absurd kind (by simp [posted, SvPost.op])⟩
  · rw [same]
    exact ⟨running, alive, alive, fun _ => ⟨idle, queue⟩⟩

/-- A handler posts only while the server is not shutting down, and never on a dead call. -/
theorem postedOn_runCall {shutting : Bool} {nextId : Nat} {op : SvOp} {delivery : Delivery}
    {call : SvCall} {post : SvPost} (fresh : op = .accept → call = newSlot)
    (posted : CallObs.posted post ∈ (runCall shutting nextId op delivery call).2) :
    shutting = false ∧ call.dead = false ∧
      PostedOn (runCall shutting nextId op delivery call).1 post := by
  cases op with
  | accept =>
    rw [fresh rfl] at posted ⊢
    cases matched : delivery.ok with
    | false =>
      simp [runCall, runAccept, matched] at posted
    | true =>
      rw [runCall_accept _ _ _ matched] at posted ⊢
      cases shutting with
      | true => exact absurd posted List.not_mem_nil
      | false =>
        have kind := List.mem_singleton.mp posted
        rw [CallObs.posted.injEq] at kind
        exact ⟨rfl, rfl, rfl, fun terminal => absurd terminal (by simp [kind, SvPost.op])⟩
  | read =>
    unfold runCall runRead at posted
    simp only at posted
    split at posted
    · split at posted <;> simp at posted
    · split at posted <;> simp at posted
  | write =>
    unfold runCall runWrite at posted ⊢
    simp only at posted ⊢
    split at posted
    · rename_i flowing
      rw [if_pos flowing]
      have inner := List.mem_append.mp posted
      rcases inner with notice | pumped
      · split at notice <;> simp at notice
      · exact postedOn_pumpLocked pumped
    · exact absurd posted List.not_mem_nil
  | done =>
    unfold runCall runDone at posted
    simp only at posted
    split at posted <;> simp at posted
  | finish => exact absurd posted List.not_mem_nil

/-- A request of R posts nothing on a dead call. -/
theorem postedOn_answer {shutting : Bool} {request : RCall} {call : SvCall} {post : SvPost}
    (posted : CallObs.posted post ∈ (request.answer shutting call).obs) :
    call.dead = false ∧ PostedOn (request.answer shutting call).call post := by
  have pumps {request : RCall} {other : SvCall}
      (posted : CallObs.posted post ∈ (acceptAndPump shutting request other).obs) :
      PostedOn (acceptAndPump shutting request other).call post := by
    refine (postedOn_pumpLocked (List.mem_of_ne_of_mem ?_ posted)).2.2
    exact fun absurdity => absurd absurdity (by simp)
  rcases answer_cases shutting request call with
    same | ⟨-, -, alive, -, -, same⟩ | ⟨-, -, same⟩ | ⟨bytes, -, -, alive, -, -, same⟩ |
    ⟨-, -, -, alive, same | ⟨trailing, hasFinalWrite, error, same⟩⟩
  · rw [same] at posted
    exact absurd posted List.not_mem_nil
  · rw [same] at posted ⊢
    simp only [List.mem_cons, reduceCtorEq, CallObs.posted.injEq, List.not_mem_nil, or_false,
      false_or] at posted
    exact ⟨alive, alive, fun kind => absurd kind (by simp [posted, SvPost.op])⟩
  · rw [same] at posted
    exact absurd posted (by simp)
  · rw [same] at posted ⊢
    exact ⟨alive, pumps posted⟩
  · rw [same] at posted ⊢
    exact ⟨alive, pumps posted⟩
  · rw [same] at posted
    exact absurd posted List.not_mem_nil

/-! ### The rules -/

/-- At most one terminal operation is ever posted on a call that keeps the rules. -/
theorem posts_finish_le_one {log : List CallObs} (lawful : Lawful Disciplined log) :
    posts .finish log ≤ 1 := by
  induction log using List.reverseRecOn with
  | nil => exact Nat.zero_le 1
  | append_singleton rest entry inductionHypothesis =>
    obtain ⟨before, last⟩ := lawful_append_singleton.mp lawful
    rw [posts_append]
    have bound := inductionHypothesis before
    cases entry with
    | posted post =>
      cases post with
      | requestCall => simpa [SvPost.op] using bound
      | read => simpa [SvPost.op] using bound
      | write message => simpa [SvPost.op] using bound
      | writeAndFinish message status trailing =>
        rw [last.2.1]
        simp [SvPost.op]
      | finish status trailing =>
        rw [last.2.1]
        simp [SvPost.op]
    | _ => simpa using bound

/-- The moment an operation other than a new accept slot is posted: its call was there, not dead,
and is left so. -/
def PostedAlive (server after : RServer) (address : Nat) (post : SvPost) : Prop :=
  ∃ call left, (server.arena.cell address).object = some call ∧ call.dead = false ∧
    (after.arena.cell address).object = some left ∧ PostedOn left post

/-- The rules for the operations of a server, in one of its states and over the next step: every
call's log keeps the order of operations, no two reads or writes of a call are outstanding and no
second terminal is posted, an outstanding write stands at the front of a non-empty queue, and
nothing is posted while the server is shutting down or on a dead call. -/
structure OperationDiscipline (server : RServer) (log : List ServerObs) : Prop where
  lawful : ∀ address, Lawful Disciplined (callLog address log)
  reads : ∀ address, (server.arena.cell address).tags.count .read ≤ 1
  writes : ∀ address, (server.arena.cell address).tags.count .write ≤ 1
  terminals : ∀ address, posts .finish (callLog address log) ≤ 1
  inflight : ∀ address call, (server.arena.cell address).object = some call →
    (.write ∈ (server.arena.cell address).tags ↔ call.writeInflight = true)
  queued : ∀ address call, (server.arena.cell address).object = some call →
    call.writeInflight = true → call.writeQueue ≠ []
  alive : ∀ input after news, serverStep server input = some (after, news) →
    ∀ address post, ServerObs.call address (.posted post) ∈ news →
      server.shutting = false ∧ (post ≠ .requestCall → PostedAlive server after address post)

theorem Phase.count_le_one {view : CallView} {log : List CallObs} (phase : Phase view log) :
    view.cell.tags.count .read ≤ 1 ∧ view.cell.tags.count .write ≤ 1 := by
  cases phase with
  | slot cell opened =>
    rw [cell]
    exact ⟨Nat.zero_le 1, Nat.zero_le 1⟩
  | live call object settled =>
    rw [settled.ledger.read, settled.ledger.write]
    constructor <;> split <;> decide
  | gone cell deleted lawful =>
    rw [cell]
    exact ⟨Nat.zero_le 1, Nat.zero_le 1⟩

/-- An outstanding write is what the flag says, and stands at the front of the queue. -/
theorem Phase.write_mem_iff {view : CallView} {log : List CallObs} (phase : Phase view log)
    {call : SvCall} (object : view.cell.object = some call) :
    (.write ∈ view.cell.tags ↔ call.writeInflight = true) ∧
      (call.writeInflight = true → call.writeQueue ≠ []) := by
  cases phase with
  | slot cell opened =>
    rw [cell] at object ⊢
    obtain rfl := Option.some.inj object
    simp [newSlot]
  | live other same settled =>
    obtain rfl := Option.some.inj (object.symm.trans same)
    exact ⟨mem_iff_flag settled.ledger.write, settled.ledger.queued⟩
  | gone cell deleted lawful =>
    rw [cell] at object
    exact absurd object (by simp)

theorem mem_postedTags {obs : List CallObs} {post : SvPost}
    (posted : CallObs.posted post ∈ obs) : post.op ∈ postedTags obs :=
  List.mem_filterMap.mpr ⟨_, posted, rfl⟩

theorem mem_withSlots {server : RServer} {count address : Nat} {obs : CallObs}
    (member : ServerObs.call address obs ∈ (server.withSlots count).2) :
    obs = .posted .requestCall ∧ 0 < count := by
  simp only [RServer.withSlots, List.mem_map, List.mem_range'_1, ServerObs.call.injEq] at member
  obtain ⟨other, inside, -, rfl⟩ := member
  exact ⟨rfl, by omega⟩

/-- What a handler posts, it posts on a live call of a server that is not shutting down. -/
theorem Sound.posted_handle {server : RServer} {log : List ServerObs} (sound : Sound server log)
    (unlocked : server.muHeld = false) {address : Nat} {op : SvOp} {delivery : Delivery}
    {call : SvCall} (outstanding : op ∈ (server.arena.cell address).tags)
    (object : (server.arena.cell address).object = some call) {other : Nat} {post : SvPost}
    (posted : ServerObs.call other (.posted post) ∈
      (server.handle address op delivery call).2) :
    server.shutting = false ∧ (post ≠ .requestCall →
      PostedAlive server (server.handle address op delivery call).1 other post) := by
  have allocated := Arena.lt_size_of_object object
  have after := sound.handle unlocked delivery outstanding object
  obtain ⟨count, equal, quiet, -⟩ := handle_eq server address op delivery call
  have size : (server.handleBody address op delivery call).arena.size = server.arena.size := by
    rw [handleBody_arena, Arena.size_set]
  have cell : (server.handle address op delivery call).1.arena.cell address =
      handledCell server address op delivery call := by
    rw [equal, cell_withSlots_of_lt _ _ (by rw [size]; exact allocated), handleBody_arena,
      Arena.cell_set_self allocated]
  have member := posted
  rw [equal, List.mem_append] at member
  rcases member with own | slot
  · obtain ⟨entry, handled, same⟩ := List.mem_map.mp own
    rw [ServerObs.call.injEq] at same
    obtain ⟨rfl, rfl⟩ := same
    have ran : CallObs.posted post ∈
        (runCall server.shutting server.nextId op delivery call).2 := by
      simp only [handleTag, List.cons_append, List.mem_cons, reduceCtorEq, List.mem_append,
        false_or] at handled
      rcases handled with ran | freed
      · exact ran
      · split at freed <;> simp at freed
    have fresh : op = .accept → call = newSlot := by
      rintro rfl
      have slot := (sound.phase allocated).slot_of_accept outstanding
      rw [show server.arena.cell address = slotCell from slot] at object
      exact (Option.some.inj object).symm
    obtain ⟨running, alive, left⟩ := postedOn_runCall fresh ran
    refine ⟨running, fun _ =>
      ⟨call, (runCall server.shutting server.nextId op delivery call).1, object, alive, ?_, left⟩⟩
    have outstandingAfter :
        post.op ∈ ((server.handle address op delivery call).1.arena.cell address).tags := by
      rw [cell]
      exact List.mem_append_right _ (mem_postedTags ran)
    obtain ⟨found, stored⟩ := after.object_of_mem outstandingAfter
    rw [cell] at stored ⊢
    simp only [handledCell, handleTag] at stored ⊢
    split at stored
    · exact absurd stored (by simp)
    · rename_i kept
      rw [if_neg kept]
  · obtain ⟨kind, positive⟩ := mem_withSlots slot
    rw [CallObs.posted.injEq] at kind
    refine ⟨?_, fun other => absurd kind other⟩
    by_contra shutting
    rw [Bool.not_eq_false] at shutting
    exact absurd (quiet shutting) (by omega)

/-- Whatever a step of a sound server posts, it posts on a live call of a server that is not
shutting down. -/
theorem Sound.posted_step {server after : RServer} {log news : List ServerObs}
    {input : ServerInput} (sound : Sound server log)
    (taken : serverStep server input = some (after, news)) {address : Nat} {post : SvPost}
    (posted : ServerObs.call address (.posted post) ∈ news) :
    server.shutting = false ∧ (post ≠ .requestCall → PostedAlive server after address post) := by
  rcases sound.step_cases taken with
    ⟨other, op, delivery, call, rfl, unlocked, outstanding, object, equal⟩ |
    ⟨id, request, other, call, rfl, opened, unlocked, found, object, rfl, rfl⟩ |
    ⟨-, quiet⟩ | ⟨rfl, opened, unlocked, rfl, rfl⟩ | ⟨rfl, joining, idle, rfl, rfl⟩
  · have member : ServerObs.call address (.posted post) ∈
        (server.handle other op delivery call).2 := by
      rw [equal]
      exact posted
    have handled := sound.posted_handle unlocked outstanding object member
    rw [equal] at handled
    exact handled
  · have allocated := Arena.lt_size_of_object object
    simp only [List.mem_append, List.mem_map, ServerObs.call.injEq, List.mem_singleton,
      reduceCtorEq, or_false] at posted
    obtain ⟨entry, member, rfl, rfl⟩ := posted
    obtain ⟨alive, left⟩ := postedOn_answer member
    refine ⟨sound.closing.trans opened, fun _ => ⟨call, _, object, alive, ?_, left⟩⟩
    rw [Arena.cell_set_self allocated]
    rfl
  · have member := mem_callLog_iff.mpr posted
    rw [quiet.silent] at member
    exact absurd member List.not_mem_nil
  · exact absurd posted List.not_mem_nil
  · exact absurd posted List.not_mem_nil

/-- Every operation of every call was posted by the rules. -/
theorem Sound.lawful {server : RServer} {log : List ServerObs} (sound : Sound server log)
    (address : Nat) : Lawful Disciplined (callLog address log) := by
  by_cases allocated : address < server.arena.size
  · exact (sound.phase allocated).lawful
  · rw [sound.unused address (Nat.le_of_not_lt allocated)]
    exact lawful_nil _

/-- The operation discipline holds in every state of every run of a server, with every number of
calls and every order of requests and completions. -/
theorem operations_disciplined (acceptWindow maxActive : Int) (wake : WakeHandle)
    (server : RServer) (log : List ServerObs)
    (run : (serverMachine acceptWindow maxActive wake).Run Machine.Free server log) :
    OperationDiscipline server log := by
  have sound := sound_of_run run
  have counts (address : Nat) : (server.arena.cell address).tags.count .read ≤ 1 ∧
      (server.arena.cell address).tags.count .write ≤ 1 := by
    by_cases allocated : address < server.arena.size
    · exact (sound.phase allocated).count_le_one
    · rw [Arena.cell_of_size_le (Nat.le_of_not_lt allocated)]
      exact ⟨Nat.zero_le 1, Nat.zero_le 1⟩
  refine ⟨sound.lawful, fun address => (counts address).1, fun address => (counts address).2,
    fun address => posts_finish_le_one (sound.lawful address), ?_, ?_, ?_⟩
  · intro address call object
    exact ((sound.phase (Arena.lt_size_of_object object)).write_mem_iff object).1
  · intro address call object
    exact ((sound.phase (Arena.lt_size_of_object object)).write_mem_iff object).2
  · intro input after news taken address post posted
    exact sound.posted_step taken posted

/-- A call that is accepted, read, sent to and finished. -/
def servedInputs : List ServerInput :=
  [.returned 0 .accept { ok := true },
    .returned 0 .read { ok := true, message := .ofRaw [1] },
    .request 1 (.send [2]),
    .request 1 (.finish ⟨0, none, none, true⟩),
    .returned 0 .write { ok := true }]

theorem operations_disciplined_served : ∃ server log,
    (serverMachine 1 2 ⟨16, 0⟩).Run Machine.Free server log ∧
      posts .write (callLog 0 log) = 1 ∧ posts .finish (callLog 0 log) = 1 ∧
      OperationDiscipline server log := by
  have run := Machine.run_of_exec (show (serverMachine 1 2 ⟨16, 0⟩).exec Machine.Free
    (serverMachine 1 2 ⟨16, 0⟩).start servedInputs = some _ from rfl)
  exact ⟨_, _, run, by decide, by decide, operations_disciplined 1 2 ⟨16, 0⟩ _ _ run⟩

end Rgrpc.Server
