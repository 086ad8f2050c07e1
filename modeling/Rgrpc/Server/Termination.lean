/-
This file proves that a server call ends for good. R learns of the end of a call
in two ways: `grpc_cancel` on its handle returns `FALSE`, or a `cancelled` event
comes for it. From then on nothing is posted on the call, whatever completions
are still outstanding, and every request on the handle returns `FALSE` and
changes nothing. A call that was freed has ended in the same sense: its id is
never given again, so its handle never reaches a call accepted later.

A request that reaches the lock returns unless the mutex was left held, which
only a request with strings that do not translate can bring about.
-/

import Rgrpc.Server.Abandoned
import Rgrpc.Server.Atomic
import Rgrpc.Server.Discipline

namespace Rgrpc.Server

open Library

/-! ### Calls that have ended -/

/-- A call that has ended: it is dead, or it is no longer there. -/
def Ended (server : RServer) (address : Nat) : Prop :=
  ∀ call, (server.arena.cell address).object = some call → call.dead = true

/-- No handler brings a dead call back. -/
theorem dead_runCall (shutting : Bool) (nextId : Nat) (op : SvOp) (delivery : Delivery)
    {call : SvCall} (dead : call.dead = true) :
    (runCall shutting nextId op delivery call).1.dead = true := by
  rw [runCall_dead, dead, Bool.true_or]

/-- A dead call refuses every request. -/
theorem answer_of_dead (shutting : Bool) (request : RCall) {call : SvCall}
    (dead : call.dead = true) : request.answer shutting call = refuse call := by
  rcases answer_cases shutting request call with
    same | ⟨-, -, alive, -⟩ | ⟨-, alive, -⟩ | ⟨bytes, -, -, alive, -⟩ | ⟨-, -, -, alive, -⟩
  · exact same
  all_goals exact absurd (dead.symm.trans alive) (by simp)

/-- A step leaves an ended call ended, and posts none of its operations. -/
theorem Sound.ended_step {server after : RServer} {log news : List ServerObs}
    {input : ServerInput} (sound : Sound server log)
    (taken : serverStep server input = some (after, news)) {address : Nat}
    (allocated : address < server.arena.size) (ended : Ended server address) :
    Ended after address ∧ ∀ post, post ≠ .requestCall →
      ServerObs.call address (.posted post) ∉ news := by
  refine ⟨?_, fun post other posted => ?_⟩
  · intro found object
    rcases sound.step_cases taken with
      ⟨other, op, delivery, call, rfl, unlocked, outstanding, stored, equal⟩ |
      ⟨id, request, other, call, rfl, opened, unlocked, listed, stored, rfl, rfl⟩ | ⟨-, quiet⟩ |
      ⟨rfl, opened, unlocked, rfl, rfl⟩ | ⟨rfl, joining, idle, rfl, rfl⟩
    · have cell := cell_handle op delivery stored allocated
      rw [equal] at cell
      rw [cell] at object
      split at object
      · rename_i same
        subst same
        obtain rfl := eq_of_handleTag object
        exact dead_runCall _ _ _ _ (ended call stored)
      · exact ended found object
    · by_cases same : other = address
      · subst same
        rw [Arena.cell_set_self allocated, answeredCell,
          answer_of_dead server.shutting request (ended call stored)] at object
        obtain rfl := Option.some.inj object
        exact ended call stored
      · rw [Arena.cell_set_of_ne same] at object
        exact ended found object
    · rw [quiet.same] at object
      exact ended found object
    · exact ended found object
    · exact ended found object
  · obtain ⟨call, left, object, alive, -⟩ := (sound.posted_step taken posted).2 other
    exact absurd ((ended call object).symm.trans alive) (by simp)

/-- Once a call with an id has ended, it stays so in every continuation of the run, in which none of
its operations is posted. -/
theorem ended_of_run_on {acceptWindow maxActive : Int} {wake : WakeHandle}
    {server later : RServer} {log more : List ServerObs}
    (run : (serverMachine acceptWindow maxActive wake).Run Machine.Free server log)
    (on : ((serverMachine acceptWindow maxActive wake).startedAt server).Run Machine.Free later
      more)
    {id address : Nat} (held : holder log id = some address) (ended : Ended server address) :
    Ended later address ∧ ∀ post, post ≠ .requestCall →
      ServerObs.call address (.posted post) ∉ more := by
  induction on with
  | start => exact ⟨ended, fun _ _ => List.not_mem_nil⟩
  | @next state after past news input before _ taken inductionHypothesis =>
    obtain ⟨still, silent⟩ := inductionHypothesis
    have sound := sound_of_run (run.trans before)
    obtain ⟨kept, quiet⟩ :=
      sound.ended_step taken (sound.lt_size_of_holder (holder_mono held past)) still
    refine ⟨kept, fun post other posted => ?_⟩
    rcases List.mem_append.mp posted with earlier | now
    · exact silent post other earlier
    · exact quiet post other now

/-! ### Requests on a call that has ended -/

/-- The call that R reaches under an id is the one the id was given to. -/
theorem Numbered.address_of_lookup {server : RServer} {log : List ServerObs}
    (sound : Sound server log) (numbered : Numbered server log) {id address other : Nat}
    (held : holder log id = some address) (found : server.active.lookup id = some other) :
    other = address ∧ ∃ call, (server.arena.cell address).object = some call := by
  obtain ⟨call, object, same, nonzero⟩ := sound.active id other found
  have owner := numbered.named other call object (same ▸ nonzero)
  rw [same, held, Option.some.injEq] at owner
  subst owner
  exact ⟨rfl, call, object⟩

/-- A refusal leaves the server as it was. -/
theorem set_answeredCell_refuse (server : RServer) {address : Nat} {call : SvCall}
    (object : (server.arena.cell address).object = some call) :
    server.arena.set address (answeredCell (refuse call) (server.arena.cell address).tags) =
      server.arena := by
  have same : answeredCell (refuse call) (server.arena.cell address).tags =
      server.arena.cell address := by
    rw [answeredCell, refuse, postedTags_nil, List.append_nil, ← object]
  rw [same, Arena.set_cell]

/-- A request that its call refuses returns `FALSE` and changes nothing. -/
theorem request_of_refuse {server : RServer} {id : Nat} {request : RCall} {call : SvCall}
    (opened : server.closed = false) (unlocked : server.muHeld = false)
    (valid : request.validate = .ok ()) (found : server.callWith id = some call)
    (refuses : request.answer server.shutting call = refuse call) :
    server.request id request = some (server, [.result id request (.ok false)]) := by
  obtain ⟨address, -, object, asked⟩ := request_of_callWith opened unlocked valid found
  have same : { server with
      arena := server.arena.set address
        (answeredCell (refuse call) (server.arena.cell address).tags)
      muHeld := (refuse call).raised } = server := by
    rw [set_answeredCell_refuse server object]
    obtain ⟨⟩ := server
    obtain rfl := unlocked
    rfl
  rw [asked, refuses, same]
  rfl

/-- A request that reaches the lock, on a handle whose call has ended, returns `FALSE` and changes
nothing. -/
theorem Numbered.request_of_ended {server : RServer} {log : List ServerObs}
    (sound : Sound server log) (numbered : Numbered server log) {id address : Nat}
    (held : holder log id = some address) (ended : Ended server address)
    (opened : server.closed = false) {request : RCall} (valid : request.validate = .ok ()) :
    server.request id request =
      if server.muHeld then none else some (server, [.result id request (.ok false)]) := by
  cases locked : server.muHeld with
  | true => simp [RServer.request, opened, valid, locked]
  | false =>
    cases found : server.active.lookup id with
    | none => simp [RServer.request, opened, valid, locked, found]
    | some other =>
      obtain ⟨rfl, call, object⟩ := numbered.address_of_lookup sound held found
      have reached : server.callWith id = some call := by
        rw [RServer.callWith, found]
        exact object
      rw [request_of_refuse opened locked valid reached
        (answer_of_dead server.shutting request (ended call object))]
      rfl

/-! ### How R learns of the end -/

theorem result_not_mem_pollAttempt (server : RServer) (args : PollArgs) (leftMs : Int) (id : Nat)
    (request : RCall) (value : Except RError Bool) :
    ServerObs.result id request value ∉ (server.pollAttempt args leftMs).2 := by
  unfold RServer.pollAttempt RServer.pollTake
  simp only
  split_ifs <;> simp

/-- What a request returns to R is about that request. -/
theorem own_of_result {server after : RServer} {id other : Nat} {request asked : RCall}
    {value : Except RError Bool} {news : List ServerObs}
    (answered : server.request other asked = some (after, news))
    (told : ServerObs.result id request value ∈ news) : other = id ∧ asked = request := by
  have single {found : Except RError Bool}
      (same : (after, news) = (server, [.result other asked found])) :
      other = id ∧ asked = request := by
    rw [(Prod.mk.inj same).2, List.mem_singleton, ServerObs.result.injEq] at told
    exact ⟨told.1.symm, told.2.1.symm⟩
  unfold RServer.request at answered
  split at answered
  · exact single (Option.some.inj answered).symm
  · split at answered
    · exact single (Option.some.inj answered).symm
    · split at answered
      · exact absurd answered (by simp)
      · split at answered
        · exact single (Option.some.inj answered).symm
        · split at answered
          · obtain ⟨-, rfl⟩ := Prod.mk.inj (Option.some.inj answered)
            exact absurd told (by simp)
          · obtain ⟨-, rfl⟩ := Prod.mk.inj (Option.some.inj answered)
            simp only [List.mem_append, List.mem_map, reduceCtorEq, and_false, exists_false,
              List.mem_singleton, ServerObs.result.injEq, false_or] at told
            exact ⟨told.1.symm, told.2.1.symm⟩

/-- A value is returned to R only by the request it answers. -/
theorem Sound.request_of_result {server after : RServer} {log news : List ServerObs}
    {input : ServerInput} (sound : Sound server log)
    (taken : serverStep server input = some (after, news)) {id : Nat} {request : RCall}
    {value : Except RError Bool} (told : ServerObs.result id request value ∈ news) :
    input = .request id request ∧ server.request id request = some (after, news) := by
  cases input with
  | returned address op delivery =>
    rcases sound.step_cases taken with
      ⟨address, op, delivery, call, -, -, -, -, equal⟩ |
      ⟨other, asked, address, call, absurdity, -⟩ | ⟨other, -⟩ | ⟨absurdity, -⟩ | ⟨absurdity, -⟩
    · obtain ⟨count, whole, -⟩ := handle_eq server address op delivery call
      rw [equal, Prod.mk.injEq] at whole
      rw [whole.2] at told
      simp [RServer.withSlots] at told
    · exact absurd absurdity (by simp)
    · exact absurd rfl (other address op delivery)
    · exact absurd absurdity (by simp)
    · exact absurd absurdity (by simp)
  | request other asked =>
    have answered := call_of_rthread taken
    obtain ⟨rfl, rfl⟩ := own_of_result answered told
    exact ⟨rfl, answered⟩
  | poll args leftMs =>
    have polled := call_of_rthread taken
    unfold RServer.grpcRServer2Poll at polled
    split_ifs at polled
    · obtain ⟨-, rfl⟩ := Prod.mk.inj (Option.some.inj polled)
      exact absurd told (by simp)
    · have absent := result_not_mem_pollAttempt server args leftMs id request value
      rw [Option.some.inj polled] at absent
      exact absurd told absent
  | woken result leftMs =>
    rw [serverStep] at taken
    split at taken
    · unfold RServer.woken at taken
      split_ifs at taken
      · obtain ⟨-, rfl⟩ := Prod.mk.inj (Option.some.inj taken)
        exact absurd told (by simp)
      · rename_i args _ _ _ _
        have absent := result_not_mem_pollAttempt server args leftMs id request value
        rw [Option.some.inj taken] at absent
        exact absurd told absent
    · exact absurd taken (by simp)
  | close =>
    have closing := call_of_rthread taken
    unfold RServer.beginClose at closing
    split_ifs at closing <;>
    · obtain ⟨-, rfl⟩ := Prod.mk.inj (Option.some.inj closing)
      exact absurd told List.not_mem_nil
  | joined =>
    rw [serverStep] at taken
    split at taken
    · obtain ⟨-, rfl, -⟩ := sound.endClose_eq taken
      exact absurd told List.not_mem_nil
    · exact absurd taken (by simp)

/-- A request returns a value only when it reached the lock and got it. -/
theorem reached_of_result {server after : RServer} {id : Nat} {request : RCall} {value : Bool}
    {news : List ServerObs} (asked : server.request id request = some (after, news))
    (told : ServerObs.result id request (.ok value) ∈ news) :
    server.closed = false ∧ server.muHeld = false ∧ request.validate = .ok () := by
  unfold RServer.request at asked
  cases opened : server.closed with
  | true =>
    rw [opened, if_pos rfl, Option.some.injEq, Prod.mk.injEq] at asked
    rw [← asked.2] at told
    exact absurd told (by simp)
  | false =>
    rw [opened, if_neg Bool.false_ne_true] at asked
    cases valid : request.validate with
    | error error =>
      rw [valid, Option.some.injEq, Prod.mk.injEq] at asked
      rw [← asked.2] at told
      exact absurd told (by simp)
    | ok checked =>
      rw [valid] at asked
      cases locked : server.muHeld with
      | true => exact absurd asked (by simp [locked])
      | false => exact ⟨rfl, rfl, rfl⟩

/-- A `grpc_cancel` of a handle returns `FALSE` only when the call has ended. -/
theorem Numbered.ended_of_cancel {server after : RServer} {log news : List ServerObs}
    (sound : Sound server log) (numbered : Numbered server log) {id address : Nat}
    (held : holder log id = some address)
    (asked : server.request id .cancel = some (after, news))
    (refused : ServerObs.result id .cancel (.ok false) ∈ news) :
    after = server ∧ Ended server address := by
  obtain ⟨opened, unlocked, valid⟩ := reached_of_result asked refused
  have ended : Ended server address := by
    cases found : server.active.lookup id with
    | none =>
      intro call object
      rw [numbered.gone_of_lookup sound held found] at object
      exact absurd object (by simp)
    | some other =>
      obtain ⟨rfl, call, object⟩ := numbered.address_of_lookup sound held found
      have reached : server.callWith id = some call := by
        rw [RServer.callWith, found]
        exact object
      obtain ⟨address, -, -, equal⟩ := request_of_callWith opened unlocked valid reached
      rw [equal, Option.some.injEq, Prod.mk.injEq] at asked
      rw [← asked.2] at refused
      intro there stored
      obtain rfl := Option.some.inj (object.symm.trans stored)
      by_contra alive
      rw [Bool.not_eq_true] at alive
      exact absurd refused (by simp [RCall.answer, cancelCall, alive])
  refine ⟨?_, ended⟩
  rw [numbered.request_of_ended sound held ended opened rfl, unlocked] at asked
  exact (Prod.mk.inj (Option.some.inj asked)).1.symm

/-- A `request` event was pushed with an id. R has a handle with that id only from then on. -/
def Requested (id : Nat) (log : List ServerObs) : Prop :=
  ∃ event ∈ eventsOf id log, event.type = .request

/-- The end of a call, as R or the completion loop gets to know of it: `grpc_cancel` on a handle
returned `FALSE`, a `cancelled` event was pushed for the id, or the call was freed. -/
inductive Terminated (id : Nat) (log : List ServerObs) : Prop
  | refused (before after : List ServerObs) (requested : Requested id before)
      (told : log = before ++ .result id .cancel (.ok false) :: after)
  | cancelled (event : SvEvent) (pushed : event ∈ eventsOf id log)
      (kind : event.type = .cancelled)
  | freed (address : Nat) (held : holder log id = some address)
      (deleted : .deleted ∈ callLog address log)

/-- An id with an event was given to a call. -/
theorem Numbered.holder_of_event {server : RServer} {log : List ServerObs}
    (numbered : Numbered server log) {id : Nat} {event : SvEvent}
    (pushed : event ∈ eventsOf id log) : ∃ address, holder log id = some address := by
  cases held : holder log id with
  | some address => exact ⟨address, rfl⟩
  | none =>
    rw [(numbered.free id held).1] at pushed
    exact absurd pushed List.not_mem_nil

/-- No request of R pushes an event. -/
theorem Sound.queued_request {server after : RServer} {log news : List ServerObs}
    (sound : Sound server log) {id : Nat} {request : RCall}
    (taken : serverStep server (.request id request) = some (after, news)) : queued news = [] := by
  rcases sound.step_cases taken with
    ⟨address, op, delivery, call, absurdity, -⟩ |
    ⟨other, asked, address, call, -, -, -, -, -, -, rfl⟩ | ⟨-, quiet⟩ | ⟨absurdity, -⟩ |
    ⟨absurdity, -⟩
  · exact absurd absurdity (by simp)
  · rw [queued_append, queued_map, pushedEvents_answer]
    rfl
  · exact (adds_nothing quiet.silent).2
  · exact absurd absurdity (by simp)
  · exact absurd absurdity (by simp)

/-- After `grpc_cancel` on a handle returned `FALSE`, its call has ended. -/
theorem ended_of_refused {acceptWindow maxActive : Int} {wake : WakeHandle} {server : RServer}
    {log before after : List ServerObs} {id : Nat}
    (run : (serverMachine acceptWindow maxActive wake).Run Machine.Free server log)
    (requested : Requested id before)
    (told : log = before ++ .result id .cancel (.ok false) :: after) :
    ∃ address, holder log id = some address ∧ Ended server address := by
  induction run generalizing after with
  | start =>
    obtain ⟨count, created, -⟩ := postAcceptsLocked_eq { acceptWindow, maxActive, wake }
    have opening : (serverMachine acceptWindow maxActive wake).opening =
        (RServer.withSlots { acceptWindow, maxActive, wake } count).2 := by
      rw [← created]
      rfl
    have member : ServerObs.result id .cancel (.ok false) ∈
        (serverMachine acceptWindow maxActive wake).opening := by
      rw [told]
      simp
    rw [opening] at member
    simp [RServer.withSlots] at member
  | @next state later past news input earlier _ taken inductionHypothesis =>
    have sound := sound_of_run earlier
    have numbered := numbered_of_run earlier
    have now (between : List ServerObs) (asked : Requested id (past ++ between))
        (split : news = between ++ .result id .cancel (.ok false) :: after) :
        ∃ address, holder (past ++ news) id = some address ∧ Ended later address := by
      have member : ServerObs.result id .cancel (.ok false) ∈ news := by
        rw [split]
        simp
      obtain ⟨rfl, answered⟩ := sound.request_of_result taken member
      have silent := sound.queued_request taken
      rw [split, queued_append] at silent
      obtain ⟨event, pushed, -⟩ := asked
      have quiet : eventsOf id between = [] := by
        rw [eventsOf, (List.append_eq_nil_iff.mp silent).1, List.filter_nil]
      rw [eventsOf_append, quiet, List.append_nil] at pushed
      obtain ⟨address, held⟩ := numbered.holder_of_event pushed
      obtain ⟨same, ended⟩ := numbered.ended_of_cancel sound held answered member
      exact ⟨address, holder_mono held news, same ▸ ended⟩
    rcases List.append_eq_append_iff.mp told with ⟨between, rfl, split⟩ | ⟨rest, split, last⟩
    · exact now between requested split
    · cases rest with
      | nil =>
        rw [List.append_nil] at split
        exact now [] (by rw [List.append_nil, split]; exact requested) last.symm
      | cons first rest =>
        obtain ⟨rfl, rfl⟩ := List.cons.inj last
        obtain ⟨address, held, ended⟩ := inductionHypothesis split
        have allocated := sound.lt_size_of_holder held
        exact ⟨address, holder_mono held news, (sound.ended_step taken allocated ended).1⟩

/-- However R or the completion loop gets to know of the end of a call, it has ended. -/
theorem ended_of_terminated {acceptWindow maxActive : Int} {wake : WakeHandle} {server : RServer}
    {log : List ServerObs} {id : Nat}
    (run : (serverMachine acceptWindow maxActive wake).Run Machine.Free server log)
    (terminated : Terminated id log) :
    ∃ address, holder log id = some address ∧ Ended server address := by
  have sound := sound_of_run run
  have numbered := numbered_of_run run
  cases terminated with
  | refused before after requested told => exact ended_of_refused run requested told
  | cancelled event pushed kind =>
    obtain ⟨address, held⟩ := numbered.holder_of_event pushed
    refine ⟨address, held, fun call object => ?_⟩
    have story := (storied_of_run (sound.calls address (sound.lt_size_of_holder held))).story call
      object
    rw [(numbered.own id address held).1] at pushed
    exact (story.ends (List.mem_map.mpr ⟨event, pushed, kind⟩)).1
  | freed address held deleted =>
    refine ⟨address, held, fun call object => ?_⟩
    cases sound.phase (sound.lt_size_of_holder held) with
    | slot cell opened =>
      rw [opened] at deleted
      exact absurd deleted (by simp)
    | live other found settled =>
      exact absurd settled.kept (Nat.ne_of_gt (List.count_pos_iff.mpr deleted))
    | gone cell counted lawful =>
      rw [show server.arena.cell address = ⟨none, []⟩ from cell] at object
      exact absurd object (by simp)

/-! ### The end is final -/

/-- The strings of every request of R so far translate: none left the mutex held. -/
def WellFormed (log : List ServerObs) : Prop :=
  ∀ id request value, ServerObs.result id request value ∈ log → request.translates = true

/-- What holds for good of an id whose call has ended, in a state reached later: nothing was posted
on the call since, and every request on the handle with well-formed arguments returns `FALSE` and
leaves every call as it was, unless the mutex was left held by a request with strings that do not
translate. -/
structure Final (id : Nat) (log : List ServerObs) (later : RServer) (more : List ServerObs) :
    Prop where
  silent : ∀ address, holder log id = some address → ∀ post, post ≠ .requestCall →
    ServerObs.call address (.posted post) ∉ more
  refuses : later.closed = false → ∀ request, request.validate = .ok () →
    later.request id request =
      if later.muHeld then none else some (later, [.result id request (.ok false)])
  returns : WellFormed (log ++ more) → later.muHeld = false

/-- The end of a call is final: from the moment it was refused a cancel, reported as cancelled or
freed, in every continuation of every run. -/
theorem termination_final {acceptWindow maxActive : Int} {wake : WakeHandle}
    {server later : RServer} {log more : List ServerObs} {id : Nat}
    (run : (serverMachine acceptWindow maxActive wake).Run Machine.Free server log)
    (terminated : Terminated id log)
    (on : ((serverMachine acceptWindow maxActive wake).startedAt server).Run Machine.Free later
      more) : Final id log later more := by
  obtain ⟨address, held, ended⟩ := ended_of_terminated run terminated
  obtain ⟨still, silent⟩ := ended_of_run_on run on held ended
  have whole := run.trans on
  refine ⟨?_, ?_, ?_⟩
  · intro other owner
    obtain rfl := Option.some.inj (held.symm.trans owner)
    exact silent
  · intro opened request valid
    exact (numbered_of_run whole).request_of_ended (sound_of_run whole) (holder_mono held more)
      still opened valid
  · intro wellFormed
    by_contra locked
    rw [Bool.not_eq_false] at locked
    obtain ⟨-, other, request, error, told, marked⟩ := raised_of_muHeld whole locked
    exact absurd ((wellFormed other request _ told).symm.trans marked) (by simp)

/-- The peer gives up while a message to it is on its way. -/
def givenUpInputs : List ServerInput :=
  [.returned 0 .accept { ok := true },
    .returned 0 .read { ok := true, message := .ofRaw [1] },
    .request 1 (.send [2]),
    .returned 0 .done { ok := true }]

/-- The write that was outstanding comes back after the call died. -/
theorem termination_final_drained : ∃ server log later more,
    (serverMachine 1 2 ⟨16, 0⟩).Run Machine.Free server log ∧ Terminated 1 log ∧
      ((serverMachine 1 2 ⟨16, 0⟩).startedAt server).Run Machine.Free later more ∧
      callLog 0 more = [.returned .write true .unset, .deleted] ∧ Final 1 log later more := by
  have before := Machine.run_of_exec (show (serverMachine 1 2 ⟨16, 0⟩).exec Machine.Free
    (serverMachine 1 2 ⟨16, 0⟩).start givenUpInputs = some _ from rfl)
  have run := before.exec (show (serverMachine 1 2 ⟨16, 0⟩).exec Machine.Free _
    [.request 1 .cancel] = some _ from rfl)
  refine ⟨_, _, _, _, run, ?terminated, .next .start trivial
    (show ((serverMachine 1 2 ⟨16, 0⟩).startedAt _).step _ (.returned 0 .write { ok := true }) =
      some _ from rfl), rfl,
    termination_final run ?terminated (.next .start trivial
      (show ((serverMachine 1 2 ⟨16, 0⟩).startedAt _).step _ (.returned 0 .write { ok := true }) =
      some _ from rfl))⟩
  refine .refused _ [] ?_ rfl
  exact ⟨_, List.mem_cons_self, rfl⟩

end Rgrpc.Server
