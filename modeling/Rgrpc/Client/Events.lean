/-
This file proves which events a client pushes. A unary call pushes one event,
in the step that takes it out of its table. A stream pushes messages and
writable notices while it is in its table and its status in the step that takes
it out. Ids are handed out in order, so no id is used twice and no event of an
id comes after its last.
-/

import Rgrpc.Client.Feed
import Rgrpc.Client.Inbound

namespace Rgrpc.Client

open Library

/-! ### The events of a handler -/

/-- The events the handler of a tag pushes. -/
def handlerEvents (op : TagKind) (delivery : Delivery) (stream : StreamState) : List ClEvent :=
  match op with
  | .read =>
    if delivery.ok && !stream.broken then
      [smsgEvent { stream with readBuf := delivery.message }]
    else []
  | .write =>
    if delivery.ok && !stream.broken && stream.writeQueue.tail.isEmpty then
      [{ kind := .writable, id := stream.id }]
    else []
  | .finish =>
    [{ kind := .status
       id := stream.id
       status := delivery.status.code
       message := delivery.status.message
       initialMd := delivery.initialMd
       trailingMd := delivery.trailingMd }]
  | _ => []

theorem pushedEvents_sTryFinishLocked (shutting : Bool) (stream : StreamState) :
    pushedEvents (sTryFinishLocked shutting stream).2 = [] := by
  rcases sTryFinishLocked_cases shutting stream with same | ⟨-, -, -, -, -, -, -, same⟩ <;>
  · rw [same]
    rfl

/-- What the handler of a tag pushes. -/
theorem pushedEvents_runStream (shutting : Bool) (op : TagKind) (delivery : Delivery)
    (stream : StreamState) :
    pushedEvents (runStream shutting op delivery stream).2 = handlerEvents op delivery stream := by
  have ending (handled : StreamState × List StreamObs) :
      pushedEvents (andThen handled (sTryFinishLocked shutting)).2 = pushedEvents handled.2 := by
    rw [andThen, pushedEvents_append, pushedEvents_sTryFinishLocked, List.append_nil]
  cases op with
  | start =>
    refine (ending _).trans ?_
    split
    · show pushedEvents (_ ++ _) = []
      rw [pushedEvents_append, pushedEvents_sPostReadLocked, pushedEvents_sPumpWritesLocked]
      rfl
    · rfl
  | read =>
    refine (ending _).trans ?_
    unfold handlerEvents
    simp only
    split
    · show pushedEvents ([.pushed _] ++ _) = _
      rw [pushedEvents_append, pushedEvents_readOn]
      rfl
    · rfl
  | write =>
    refine (ending _).trans ?_
    unfold handlerEvents
    simp only
    cases handled : delivery.ok && !stream.broken with
    | true =>
      simp only [if_true, Bool.true_and]
      show pushedEvents (_ ++ _) = _
      rw [pushedEvents_append, pushedEvents_sPumpWritesLocked, List.append_nil]
      split <;> rfl
    | false => rfl
  | wdone => exact pushedEvents_sTryFinishLocked shutting _
  | finish => rfl

/-- Every event of a handler carries the id of its stream. -/
theorem id_of_handlerEvents {op : TagKind} {delivery : Delivery} {stream : StreamState}
    {event : ClEvent} (pushed : event ∈ handlerEvents op delivery stream) :
    event.id = stream.id := by
  unfold handlerEvents at pushed
  cases op with
  | start | wdone => exact absurd pushed List.not_mem_nil
  | read | write =>
    simp only at pushed
    split at pushed
    · exact congrArg ClEvent.id (List.mem_singleton.mp pushed)
    · exact absurd pushed List.not_mem_nil
  | finish => exact congrArg ClEvent.id (List.mem_singleton.mp pushed)

/-- The events of a stream that is there are messages and writable notices. -/
def ClEvent.going (event : ClEvent) : Bool := event.kind == .smsg || event.kind == .writable

theorem going_of_handlerEvents {op : TagKind} {delivery : Delivery} {stream : StreamState}
    {event : ClEvent} (running : op ≠ .finish)
    (pushed : event ∈ handlerEvents op delivery stream) : event.going = true := by
  unfold handlerEvents at pushed
  cases op with
  | start | wdone => exact absurd pushed List.not_mem_nil
  | read | write =>
    simp only at pushed
    split at pushed
    · rw [List.mem_singleton.mp pushed]
      rfl
    · exact absurd pushed List.not_mem_nil
  | finish => exact absurd rfl running

/-- The handler of the finish tag deletes its stream, and no other handler does. -/
theorem freed_runStream {view : StreamView} {log : List StreamObs} (phase : Phase view log)
    {op : TagKind} (outstanding : op ∈ view.cell.tags) {stream : StreamState}
    (object : view.cell.object = some stream) (shutting : Bool) (delivery : Delivery) :
    freed (runStream shutting op delivery stream).1 = (op == .finish) := by
  cases phase with
  | fresh cell silent =>
    rw [cell] at outstanding
    exact absurd outstanding List.not_mem_nil
  | live other same named ledger unended kept =>
    obtain rfl := Option.some.inj (object.symm.trans same)
    by_cases last : op = .finish
    · subst last
      exact freed_finish ledger outstanding shutting delivery
    · rw [freed, (frame_runStream shutting delivery stream last).statusEmitted, unended,
        Bool.and_false, beq_eq_false_iff_ne.mpr last]
  | gone cell deleted lawful =>
    rw [cell] at outstanding
    exact absurd outstanding List.not_mem_nil

/-! ### What a step pushes, and for whom -/

/-- A step of an open client against its tables: a unary call completes and leaves, a stream that
stays pushes messages and notices, a stream pushes its status and leaves, nothing is pushed, or a
call or a stream is started under the next id. -/
inductive Traffic (client after : RClient) (news : List ClientObs) : Prop
  | completed (id : Nat) (event : ClEvent) (listed : client.calls.lookup id ≠ none)
      (pushed : queued news = [event]) (own : event.id = id) (kind : event.kind = .unary)
      (calls : after.calls = client.calls.erase id) (streams : after.streams = client.streams)
      (next : after.nextId = client.nextId)
  | heard (id : Nat) (listed : client.streams.lookup id ≠ none)
      (own : ∀ event ∈ queued news, event.id = id ∧ event.going = true)
      (calls : after.calls = client.calls) (streams : after.streams = client.streams)
      (next : after.nextId = client.nextId)
  | ended (id : Nat) (event : ClEvent) (listed : client.streams.lookup id ≠ none)
      (pushed : queued news = [event]) (own : event.id = id) (kind : event.kind = .status)
      (calls : after.calls = client.calls) (streams : after.streams = client.streams.erase id)
      (next : after.nextId = client.nextId)
  | silent (pushed : queued news = []) (calls : after.calls = client.calls)
      (streams : after.streams = client.streams) (next : after.nextId = client.nextId)
  | called (address : Nat) (pushed : queued news = [])
      (calls : after.calls = client.calls.insert client.nextId address)
      (streams : after.streams = client.streams) (next : after.nextId = client.nextId + 1)
  | opened (address : Nat) (pushed : queued news = []) (calls : after.calls = client.calls)
      (streams : after.streams = client.streams.insert client.nextId address)
      (next : after.nextId = client.nextId + 1)

theorem Still.queued {obs : List ClientObs} (still : Still obs) : queued obs = [] := by
  refine List.filterMap_eq_nil_iff.mpr fun entry member => ?_
  cases entry with
  | unary address observed =>
    have logged := mem_unaryLog_iff.mpr member
    rw [still.calls] at logged
    exact absurd logged List.not_mem_nil
  | stream address observed =>
    have logged := mem_streamLog_iff.mpr member
    rw [still.streams] at logged
    exact absurd logged List.not_mem_nil
  | _ => rfl

theorem queued_handleStream (client : RClient) (address : Nat) (op : TagKind)
    (delivery : Delivery) (stream : StreamState) :
    queued (client.handleStream address op delivery stream).2 =
      handlerEvents op delivery stream := by
  rw [← pushedEvents_runStream client.shutting, RClient.handleStream, queued_map, handleTag]
  show pushedEvents ([.returned op delivery.ok delivery.message] ++ (_ ++ _)) = _
  rw [pushedEvents_append, pushedEvents_append]
  split <;> exact List.append_nil _

section Steps

variable {client after : RClient} {log news : List ClientObs} {input : ClientInput}

/-- A poll touches neither the tables of a client nor its ids, and does not close it. -/
structure SameTables (client after : RClient) : Prop where
  calls : after.calls = client.calls
  streams : after.streams = client.streams
  next : after.nextId = client.nextId
  closed : after.closed = client.closed

theorem account_tables (client : RClient) (event : ClEvent) :
    SameTables client (client.account event).1 := by
  rcases account_cases client event with ⟨-, same⟩ | ⟨own, -, -, -, same⟩ |
    ⟨own, stream, -, -, -, same⟩ <;>
  · rw [same]
    exact ⟨rfl, rfl, rfl, rfl⟩

theorem pollTake_tables (client : RClient) (args : PollArgs) :
    SameTables client (client.pollTake args).1 := by
  have loop := takeLoop_invariant (fun event : ClEvent => args.wants event.id) RClient.account
    args.maxEvents
    (fun (state : RClient) (_ : List ClientObs) event _ (before : SameTables client state) => by
      have same := account_tables state event
      exact (⟨same.calls.trans before.calls, same.streams.trans before.streams,
        same.next.trans before.next, same.closed.trans before.closed⟩ :
        SameTables client (state.account event).1))
    client.ready 0 client [] ⟨rfl, rfl, rfl, rfl⟩
  exact ⟨loop.calls, loop.streams, loop.next, loop.closed⟩

/-- What a poll does for an event leaves the cells alone, but for a message that of its stream. -/
theorem cell_account_of_ne (client : RClient) (event : ClEvent) {address : Nat}
    (other : event.kind = .smsg → client.streams.lookup event.id ≠ some address) :
    (client.account event).1.streamArena.cell address = client.streamArena.cell address := by
  rcases account_cases client event with ⟨-, same⟩ | ⟨own, -, -, -, same⟩ |
    ⟨own, stream, message, found, -, same⟩
  · rw [same]
  · rw [same]
  · rw [same]
    refine Arena.cell_set_of_ne ?_ _
    rintro rfl
    exact other message found

theorem Sound.traffic_unary (sound : Sound client log) {address : Nat} (delivery : Delivery)
    {call : CallState} (outstanding : .unary ∈ (client.callArena.cell address).tags)
    (object : (client.callArena.cell address).object = some call) :
    Traffic client (client.handleUnary address delivery call).1
      (client.handleUnary address delivery call).2 := by
  obtain ⟨call', cell, named, -⟩ := sound.call_of_mem outstanding
  obtain rfl : call = call' := by
    rw [cell] at object
    exact (Option.some.inj object).symm
  have listed := sound.callListed address call object named
  exact .completed call.id (unaryEvent delivery call) (by rw [listed]; simp) rfl rfl rfl rfl rfl rfl

theorem Sound.traffic_returned (sound : Sound client log) {address : Nat} {op : TagKind}
    (delivery : Delivery) {stream : StreamState}
    (outstanding : op ∈ (client.streamArena.cell address).tags)
    (object : (client.streamArena.cell address).object = some stream) :
    Traffic client (client.handleStream address op delivery stream).1
      (client.handleStream address op delivery stream).2 := by
  obtain ⟨stream', object', -, nonzero⟩ := sound.stream_of_mem outstanding
  obtain rfl := Option.some.inj (object.symm.trans object')
  have listed : client.streams.lookup stream.id ≠ none := by
    rw [sound.streamListed address stream object nonzero]
    simp
  have pushed := queued_handleStream client address op delivery stream
  have leaves := freed_runStream (sound.phase (Arena.lt_size_of_object object)) outstanding object
    client.shutting delivery
  by_cases last : op = .finish
  · subst last
    refine .ended stream.id _ listed pushed rfl rfl rfl ?_ rfl
    show (if _ then _ else _) = _
    rw [leaves, runStream_id]
    rfl
  · refine .heard stream.id listed (fun event member => ?_) rfl ?_ rfl
    · rw [pushed] at member
      exact ⟨id_of_handlerEvents member, going_of_handlerEvents last member⟩
    · show (if _ then _ else _) = _
      rw [leaves, if_neg (by simpa using last)]

/-- Every step of an open client is one of these. -/
theorem Sound.traffic (sound : Sound client log) (open_ : after.closed = false)
    (taken : clientStep client input = some (after, news)) : Traffic client after news := by
  cases turn_of_step taken with
  | unary address delivery call outstanding object =>
    exact sound.traffic_unary delivery outstanding object
  | returned address op delivery stream outstanding object =>
    exact sound.traffic_returned delivery outstanding object
  | leakCall method request opts now error opened named raises => exact .silent rfl rfl rfl rfl
  | leakStream method opts now readCap writeCap error opened named raises =>
    exact .silent rfl rfl rfl rfl
  | callStarted method request opts now name context opened clean =>
    exact .called client.callArena.size rfl rfl rfl rfl
  | streamStarted method opts now readCap writeCap opened clean =>
    exact .opened client.streamArena.size rfl rfl rfl rfl
  | request id request address stream opened found object =>
    refine .silent ?_ rfl rfl rfl
    rw [queued_append, queued_map, pushedEvents_answer]
    rfl
  | polled input wake args origin =>
    have kept := pollTake_tables { client with wake } args
    exact .silent (inbox_pollTake { client with wake } args).2.2 kept.calls kept.streams kept.next
  | quiet input after news quiet origin =>
    rw [quiet.same]
    exact .silent quiet.still.queued rfl rfl rfl
  | closing opened => exact absurd open_ (by simp)
  | joined after news joining ended =>
    obtain ⟨-, -, rfl, -⟩ := sound.endClose_eq ended
    exact absurd (open_.symm.trans (sound.joining joining)) Bool.false_ne_true
  | lost input after news lost => exact absurd lost sound.not_lost

end Steps

/-! ### Ids -/

/-- The ids of the calls and streams started, in order. -/
def startedIds (log : List ClientObs) : List Nat :=
  log.filterMap fun
    | .started (.ok id) => some id
    | _ => none

@[simp]
theorem startedIds_append (log more : List ClientObs) :
    startedIds (log ++ more) = startedIds log ++ startedIds more :=
  List.filterMap_append

theorem startedIds_map (address : Nat) (obs : List StreamObs) :
    startedIds (obs.map (ClientObs.stream address)) = [] := by
  rw [startedIds, List.filterMap_map]
  exact List.filterMap_eq_nil_iff.mpr fun _ _ => rfl

theorem startedIds_pollTake (client : RClient) (args : PollArgs) :
    startedIds (client.pollTake args).2 = [] := by
  rw [RClient.pollTake, startedIds_append]
  refine List.append_eq_nil_iff.mpr ⟨List.filterMap_eq_nil_iff.mpr fun entry member => ?_, rfl⟩
  cases collected_takeLoop client args entry member <;> rfl

/-- The ids started by a step, and the next id after it. -/
structure Numbers (client after : RClient) (news : List ClientObs) : Prop where
  next : after.nextId = client.nextId + (startedIds news).length
  ids : startedIds news = List.range' client.nextId (startedIds news).length

theorem Numbers.none {client after : RClient} {news : List ClientObs}
    (next : after.nextId = client.nextId) (started : startedIds news = []) :
    Numbers client after news := by
  refine ⟨?_, ?_⟩
  · rw [started]
    exact next
  · rw [started]
    rfl

theorem Numbers.one {client after : RClient} {news : List ClientObs}
    (next : after.nextId = client.nextId + 1) (started : startedIds news = [client.nextId]) :
    Numbers client after news := by
  refine ⟨?_, ?_⟩
  · rw [started]
    exact next
  · rw [started]
    rfl

theorem numbers_pollAttempt (client : RClient) (args : PollArgs) (leftMs : Int) :
    Numbers client (client.pollAttempt args leftMs).1 (client.pollAttempt args leftMs).2 := by
  have ends (client : RClient) : Numbers client (client.pollTake args).1 (client.pollTake args).2 :=
    .none (pollTake_tables client args).next (startedIds_pollTake client args)
  unfold RClient.pollAttempt
  split
  · simp only
    split
    · exact .none (pollTake_tables { client with wake := client.wake.drain } args).next
        (startedIds_pollTake _ args)
    · exact .none rfl rfl
  · exact ends client

/-- Every step numbers what it starts from the next id on. -/
theorem numbers_of_step {client after : RClient} {input : ClientInput} {news : List ClientObs}
    (taken : clientStep client input = some (after, news)) : Numbers client after news := by
  have atR {result : RClient × List ClientObs}
      (enabled : (if client.atR then some result else none) = some (after, news))
      (numbers : Numbers client result.1 result.2) : Numbers client after news := by
    split at enabled
    · rw [Option.some.inj enabled] at numbers
      exact numbers
    · exact absurd enabled (by simp)
  cases input with
  | unary address delivery =>
    rw [clientStep, RClient.runUnary] at taken
    split at taken
    · split at taken <;>
      · obtain ⟨rfl, rfl⟩ := Prod.mk.inj (Option.some.inj taken)
        exact .none rfl rfl
    · exact absurd taken (by simp)
  | returned address op delivery =>
    rw [clientStep, RClient.runTag] at taken
    split at taken
    · split at taken
      · obtain ⟨rfl, rfl⟩ := Prod.mk.inj (Option.some.inj taken)
        exact .none rfl rfl
      · obtain ⟨rfl, rfl⟩ := Prod.mk.inj (Option.some.inj taken)
        exact .none rfl (startedIds_map address _)
    · exact absurd taken (by simp)
  | callStart method request opts now =>
    refine atR taken ?_
    unfold RClient.grpcRCallStart
    split
    · exact .none rfl rfl
    · split
      · exact .none rfl rfl
      · split
        · exact .none rfl rfl
        · exact .one rfl rfl
  | streamStart method opts now readCap writeCap =>
    refine atR taken ?_
    unfold RClient.grpcRStreamStart
    split
    · exact .none rfl rfl
    · split
      · exact .none rfl rfl
      · split
        · exact .none rfl rfl
        · exact .one rfl rfl
  | request id request =>
    refine atR taken ?_
    unfold RClient.request
    split
    · exact .none rfl rfl
    · split
      · exact .none rfl rfl
      · split
        · exact .none rfl rfl
        · refine .none rfl ?_
          rw [startedIds_append, startedIds_map]
          rfl
  | cancel id =>
    refine atR taken ?_
    unfold RClient.grpcRCallCancel
    split <;> exact .none rfl rfl
  | poll args leftMs =>
    refine atR taken ?_
    unfold RClient.grpcRClientPoll
    split
    · exact .none rfl rfl
    · exact numbers_pollAttempt client args leftMs
  | woken result leftMs =>
    obtain ⟨args, -, ended | again⟩ := woken_cases taken
    · have numbers : Numbers client (client.pollTake args).1 (client.pollTake args).2 :=
        .none (pollTake_tables client args).next (startedIds_pollTake client args)
      rw [ended] at numbers
      exact numbers
    · have numbers := numbers_pollAttempt client args leftMs
      rw [again] at numbers
      exact numbers
  | close =>
    refine atR taken ?_
    unfold RClient.beginClose
    split <;> exact .none rfl rfl
  | joined =>
    rw [clientStep] at taken
    split at taken
    · rw [RClient.endClose] at taken
      split at taken
      · obtain ⟨rfl, rfl⟩ := Prod.mk.inj (Option.some.inj taken)
        have deleted (addresses : List Nat) :
            startedIds (addresses.map fun address => .unary address .deleted) = [] ∧
              startedIds (addresses.map fun address => .stream address .deleted) = [] := by
          rw [startedIds, startedIds, List.filterMap_map, List.filterMap_map]
          exact ⟨List.filterMap_eq_nil_iff.mpr fun _ _ => rfl,
            List.filterMap_eq_nil_iff.mpr fun _ _ => rfl⟩
        refine .none rfl ?_
        rw [startedIds_append, (deleted _).1, (deleted _).2]
        rfl
      · exact absurd taken (by simp)
    · exact absurd taken (by simp)

/-- Along every run ids are handed out in order, from 1 on. -/
theorem startedIds_of_run {wake : WakeHandle} {client : RClient} {log : List ClientObs}
    (run : (clientMachine wake).Run Machine.Free client log) :
    startedIds log = List.range' 1 (startedIds log).length ∧
      client.nextId = 1 + (startedIds log).length := by
  induction run with
  | start => exact ⟨rfl, rfl⟩
  | next before _ taken inductionHypothesis =>
    obtain ⟨ids, next⟩ := inductionHypothesis
    have numbers := numbers_of_step taken
    rw [startedIds_append, List.length_append, List.range'_append_1.symm, ← ids, ← next,
      ← numbers.ids, numbers.next, next]
    exact ⟨rfl, Nat.add_assoc _ _ _⟩

/-! ### The story of an id -/

/-- The events of an id, in the order in which they were pushed. -/
def eventsOf (id : Nat) (log : List ClientObs) : List ClEvent :=
  (queued log).filter fun event => event.id == id

@[simp]
theorem eventsOf_append (id : Nat) (log more : List ClientObs) :
    eventsOf id (log ++ more) = eventsOf id log ++ eventsOf id more := by
  rw [eventsOf, queued_append, List.filter_append]
  rfl

theorem eventsOf_of_ne {id : Nat} {log : List ClientObs}
    (others : ∀ event ∈ queued log, event.id ≠ id) : eventsOf id log = [] :=
  List.filter_eq_nil_iff.mpr fun event member => by simpa using others event member

theorem eventsOf_of_silent {id : Nat} {log : List ClientObs} (silent : queued log = []) :
    eventsOf id log = [] := by
  rw [eventsOf, silent]
  rfl

/-- A unary call since it was started: it is in its table and pushed nothing, or it left and pushed
one event. -/
structure CallStory (id : Nat) (client : RClient) (log : List ClientObs) : Prop where
  behind : id < client.nextId
  apart : client.streams.lookup id = none
  told : (client.calls.lookup id ≠ none ∧ eventsOf id log = []) ∨
    client.calls.lookup id = none ∧ ∃ event, eventsOf id log = [event] ∧ event.kind = .unary

/-- A stream since it was started: it is in its table and pushed messages and notices, or it left
and pushed its status after them. -/
structure StreamStory (id : Nat) (client : RClient) (log : List ClientObs) : Prop where
  behind : id < client.nextId
  apart : client.calls.lookup id = none
  told : (client.streams.lookup id ≠ none ∧ ∀ event ∈ eventsOf id log, event.going = true) ∨
    client.streams.lookup id = none ∧ ∃ earlier event, eventsOf id log = earlier ++ [event] ∧
      (∀ other ∈ earlier, other.going = true) ∧ event.kind = .status

section Stories

variable {client after : RClient} {log news : List ClientObs} {id : Nat}

theorem CallStory.step (story : CallStory id client log) (traffic : Traffic client after news) :
    CallStory id after (log ++ news) := by
  have still (silent : eventsOf id news = [])
      (same : after.calls.lookup id = client.calls.lookup id) :
      (after.calls.lookup id ≠ none ∧ eventsOf id (log ++ news) = []) ∨
        after.calls.lookup id = none ∧
          ∃ event, eventsOf id (log ++ news) = [event] ∧ event.kind = .unary := by
    rw [eventsOf_append, silent, List.append_nil, same]
    exact story.told
  have fresh : id ≠ client.nextId := Nat.ne_of_lt story.behind
  cases traffic with
  | completed other event listed pushed own kind calls streams next =>
    refine ⟨by rw [next]; exact story.behind, by rw [streams]; exact story.apart, ?_⟩
    by_cases same : id = other
    · subst same
      rcases story.told with ⟨-, silent⟩ | ⟨missing, -⟩
      · refine Or.inr ⟨by rw [calls, AList.lookup_erase], event, ?_, kind⟩
        rw [eventsOf_append, silent, List.nil_append, eventsOf, pushed,
          List.filter_cons, if_pos (beq_iff_eq.mpr own)]
        rfl
      · exact absurd missing listed
    · refine still (eventsOf_of_ne fun event' member => ?_) ?_
      · rw [pushed] at member
        rw [List.mem_singleton.mp member, own]
        exact Ne.symm same
      · rw [calls, AList.lookup_erase_ne same]
  | heard other listed own calls streams next =>
    refine ⟨by rw [next]; exact story.behind, by rw [streams]; exact story.apart,
      still (eventsOf_of_ne fun event member same => ?_) (by rw [calls])⟩
    rw [(own event member).1] at same
    exact listed (same ▸ story.apart)
  | ended other event listed pushed own kind calls streams next =>
    have different : id ≠ other := by
      rintro rfl
      exact listed story.apart
    refine ⟨by rw [next]; exact story.behind,
      by rw [streams, AList.lookup_erase_ne different]; exact story.apart,
      still (eventsOf_of_ne fun event' member => ?_) (by rw [calls])⟩
    rw [pushed] at member
    rw [List.mem_singleton.mp member, own]
    exact Ne.symm different
  | silent pushed calls streams next =>
    exact ⟨by rw [next]; exact story.behind, by rw [streams]; exact story.apart,
      still (eventsOf_of_silent pushed) (by rw [calls])⟩
  | called address pushed calls streams next =>
    exact ⟨by rw [next]; exact Nat.lt_succ_of_lt story.behind, by rw [streams]; exact story.apart,
      still (eventsOf_of_silent pushed) (by rw [calls, AList.lookup_insert_ne fresh])⟩
  | opened address pushed calls streams next =>
    exact ⟨by rw [next]; exact Nat.lt_succ_of_lt story.behind,
      by rw [streams, AList.lookup_insert_ne fresh]; exact story.apart,
      still (eventsOf_of_silent pushed) (by rw [calls])⟩

theorem StreamStory.step (story : StreamStory id client log)
    (traffic : Traffic client after news) : StreamStory id after (log ++ news) := by
  have still (silent : eventsOf id news = [])
      (same : after.streams.lookup id = client.streams.lookup id) :
      (after.streams.lookup id ≠ none ∧
          ∀ event ∈ eventsOf id (log ++ news), event.going = true) ∨
        after.streams.lookup id = none ∧ ∃ earlier event,
          eventsOf id (log ++ news) = earlier ++ [event] ∧
            (∀ other ∈ earlier, other.going = true) ∧ event.kind = .status := by
    rw [eventsOf_append, silent, List.append_nil, same]
    exact story.told
  have fresh : id ≠ client.nextId := Nat.ne_of_lt story.behind
  cases traffic with
  | completed other event listed pushed own kind calls streams next =>
    have different : id ≠ other := by
      rintro rfl
      exact listed story.apart
    refine ⟨by rw [next]; exact story.behind,
      by rw [calls, AList.lookup_erase_ne different]; exact story.apart,
      still (eventsOf_of_ne fun event' member => ?_) (by rw [streams])⟩
    rw [pushed] at member
    rw [List.mem_singleton.mp member, own]
    exact Ne.symm different
  | heard other listed own calls streams next =>
    refine ⟨by rw [next]; exact story.behind, by rw [calls]; exact story.apart, ?_⟩
    by_cases same : id = other
    · subst same
      rcases story.told with ⟨present, going⟩ | ⟨missing, -⟩
      · refine Or.inl ⟨by rw [streams]; exact present, fun event member => ?_⟩
        rw [eventsOf_append, List.mem_append] at member
        rcases member with before | now
        · exact going event before
        · exact (own event (List.mem_filter.mp now).1).2
      · exact absurd missing listed
    · exact still (eventsOf_of_ne fun event member => by
        rw [(own event member).1]; exact Ne.symm same) (by rw [streams])
  | ended other event listed pushed own kind calls streams next =>
    refine ⟨by rw [next]; exact story.behind, by rw [calls]; exact story.apart, ?_⟩
    by_cases same : id = other
    · subst same
      rcases story.told with ⟨-, going⟩ | ⟨missing, -⟩
      · refine Or.inr ⟨by rw [streams, AList.lookup_erase], eventsOf id log, event, ?_, going,
          kind⟩
        rw [eventsOf_append, eventsOf, eventsOf, pushed, List.filter_cons,
          if_pos (beq_iff_eq.mpr own)]
        rfl
      · exact absurd missing listed
    · refine still (eventsOf_of_ne fun event' member => ?_) ?_
      · rw [pushed] at member
        rw [List.mem_singleton.mp member, own]
        exact Ne.symm same
      · rw [streams, AList.lookup_erase_ne same]
  | silent pushed calls streams next =>
    exact ⟨by rw [next]; exact story.behind, by rw [calls]; exact story.apart,
      still (eventsOf_of_silent pushed) (by rw [streams])⟩
  | called address pushed calls streams next =>
    exact ⟨by rw [next]; exact Nat.lt_succ_of_lt story.behind,
      by rw [calls, AList.lookup_insert_ne fresh]; exact story.apart,
      still (eventsOf_of_silent pushed) (by rw [streams])⟩
  | opened address pushed calls streams next =>
    exact ⟨by rw [next]; exact Nat.lt_succ_of_lt story.behind,
      by rw [calls]; exact story.apart,
      still (eventsOf_of_silent pushed) (by rw [streams, AList.lookup_insert_ne fresh])⟩

/-- A unary call leaves its table in the step that pushes its event. -/
theorem Traffic.event_of_call (traffic : Traffic client after news)
    (listed : client.calls.lookup id ≠ none) (missing : after.calls.lookup id = none) :
    ∃ event, eventsOf id news = [event] ∧ event.kind = .unary := by
  have stays (same : after.calls = client.calls) :
      ∃ event, eventsOf id news = [event] ∧ event.kind = .unary := by
    rw [same] at missing
    exact absurd missing listed
  cases traffic with
  | completed other event _ pushed own kind calls _ _ =>
    by_cases same : id = other
    · subst same
      refine ⟨event, ?_, kind⟩
      rw [eventsOf, pushed, List.filter_cons, if_pos (beq_iff_eq.mpr own)]
      rfl
    · rw [calls, AList.lookup_erase_ne same] at missing
      exact absurd missing listed
  | heard other _ _ calls _ _ => exact stays calls
  | ended other event _ _ _ _ calls _ _ => exact stays calls
  | silent _ calls _ _ => exact stays calls
  | called address _ calls _ _ =>
    rw [calls] at missing
    by_cases same : id = client.nextId
    · rw [same, AList.lookup_insert] at missing
      exact absurd missing (by simp)
    · rw [AList.lookup_insert_ne same] at missing
      exact absurd missing listed
  | opened address _ calls _ _ => exact stays calls

/-- A stream leaves its table in the step that pushes its status. -/
theorem Traffic.status_of_stream (traffic : Traffic client after news)
    (listed : client.streams.lookup id ≠ none) (missing : after.streams.lookup id = none) :
    ∃ event, eventsOf id news = [event] ∧ event.kind = .status := by
  have stays (same : after.streams = client.streams) :
      ∃ event, eventsOf id news = [event] ∧ event.kind = .status := by
    rw [same] at missing
    exact absurd missing listed
  cases traffic with
  | completed other event _ _ _ _ _ streams _ => exact stays streams
  | heard other _ _ _ streams _ => exact stays streams
  | ended other event _ pushed own kind _ streams _ =>
    by_cases same : id = other
    · subst same
      refine ⟨event, ?_, kind⟩
      rw [eventsOf, pushed, List.filter_cons, if_pos (beq_iff_eq.mpr own)]
      rfl
    · rw [streams, AList.lookup_erase_ne same] at missing
      exact absurd missing listed
  | silent _ _ streams _ => exact stays streams
  | called address _ _ streams _ => exact stays streams
  | opened address _ _ streams _ =>
    rw [streams] at missing
    by_cases same : id = client.nextId
    · rw [same, AList.lookup_insert] at missing
      exact absurd missing (by simp)
    · rw [AList.lookup_insert_ne same] at missing
      exact absurd missing listed

end Stories

/-! ### Runs of an open client -/

section Runs

variable {wake : WakeHandle} {client after : RClient} {input : ClientInput}
  {log news : List ClientObs}

/-- A client that is open after a step was open before it. -/
theorem Sound.open_of_step (sound : Sound client log)
    (taken : clientStep client input = some (after, news)) (open_ : after.closed = false) :
    client.closed = false := by
  cases turn_of_step taken with
  | unary | returned | leakCall | leakStream | callStarted | streamStarted | request => exact open_
  | polled input wake args origin =>
    exact (pollTake_tables { client with wake } args).closed.symm.trans open_
  | quiet input after news quiet origin =>
    rw [quiet.same] at open_
    exact open_
  | closing opened => exact opened
  | joined after news joining ended =>
    obtain ⟨-, -, rfl, -⟩ := sound.endClose_eq ended
    exact open_
  | lost input after news lost => exact absurd lost sound.not_lost

/-- The ids handed out are those from 1 up to the next one. -/
theorem mem_startedIds_iff (run : (clientMachine wake).Run Machine.Free client log) {id : Nat} :
    id ∈ startedIds log ↔ id ≠ 0 ∧ id < client.nextId := by
  obtain ⟨ids, next⟩ := startedIds_of_run run
  rw [ids, List.mem_range'_1, next, Nat.one_le_iff_ne_zero]

/-- Every event of an open client carries an id that was handed out. -/
theorem queued_started_of_run (run : (clientMachine wake).Run Machine.Free client log)
    (open_ : client.closed = false) : ∀ event ∈ queued log, event.id ∈ startedIds log := by
  induction run with
  | start => exact fun _ absurdity => absurd absurdity List.not_mem_nil
  | @next state after log news input before _ taken inductionHypothesis =>
    have sound := sound_of_run before
    have called {id : Nat} (listed : state.calls.lookup id ≠ none) : id ∈ startedIds log := by
      obtain ⟨address, found⟩ := Option.ne_none_iff_exists'.mp listed
      obtain ⟨-, -, -, nonzero⟩ := sound.callTable id address found
      exact (mem_startedIds_iff before).mpr ⟨nonzero, sound.callRegistry.lookup_lt found⟩
    have opened {id : Nat} (listed : state.streams.lookup id ≠ none) : id ∈ startedIds log := by
      obtain ⟨address, found⟩ := Option.ne_none_iff_exists'.mp listed
      obtain ⟨-, -, -, nonzero⟩ := sound.streamTable id address found
      exact (mem_startedIds_iff before).mpr ⟨nonzero, sound.streamRegistry.lookup_lt found⟩
    intro event member
    rw [startedIds_append]
    refine List.mem_append_left _ ?_
    rw [queued_append, List.mem_append] at member
    rcases member with earlier | now
    · exact inductionHypothesis (sound.open_of_step taken open_) event earlier
    · cases sound.traffic open_ taken with
      | completed id other listed pushed own _ _ _ _ =>
        rw [pushed] at now
        rw [List.mem_singleton.mp now, own]
        exact called listed
      | heard id listed own _ _ _ =>
        rw [(own event now).1]
        exact opened listed
      | ended id other listed pushed own _ _ _ _ =>
        rw [pushed] at now
        rw [List.mem_singleton.mp now, own]
        exact opened listed
      | silent pushed | called _ pushed | opened _ pushed =>
        rw [pushed] at now
        exact absurd now List.not_mem_nil

theorem queued_behind_of_run (run : (clientMachine wake).Run Machine.Free client log)
    (open_ : client.closed = false) : ∀ event ∈ queued log, event.id < client.nextId :=
  fun event member => ((mem_startedIds_iff run).mp (queued_started_of_run run open_ event member)).2

theorem Quiet.not_started {input : ClientInput} (quiet : Quiet client after news)
    (taken : clientStep client input = some (after, news)) {id : Nat} :
    ClientObs.started (.ok id) ∉ news := by
  intro named
  have same := (numbers_of_step taken).next
  rw [quiet.same] at same
  have none : startedIds news = [] := List.length_eq_zero_iff.mp (Nat.left_eq_add.mp same)
  have member : id ∈ startedIds news := List.mem_filterMap.mpr ⟨_, named, rfl⟩
  rw [none] at member
  exact absurd member List.not_mem_nil

/-- A start that returns an id returns the next one. -/
theorem id_of_callStart {method : RString} {request : Bytes} {opts : CallOpts} {now : Int}
    {id : Nat}
    (taken : clientStep client (.callStart method request opts now) = some (after, news))
    (named : .started (.ok id) ∈ news) :
    id = client.nextId ∧ client.closed = false ∧ after = client.withCall ∧ queued news = [] := by
  cases turn_of_step taken with
  | leakCall _ _ _ _ error opened _ _ => exact absurd named (by simp)
  | callStarted _ _ _ _ name context opened clean =>
    exact ⟨by simpa using named, opened, rfl, rfl⟩
  | polled _ _ _ origin => simp at origin
  | quiet _ _ _ quiet _ => exact absurd named (quiet.not_started taken)
  | lost _ _ _ lost => cases lost

theorem id_of_streamStart {method : RString} {opts : CallOpts} {now readCap writeCap : Int}
    {id : Nat}
    (taken : clientStep client (.streamStart method opts now readCap writeCap) =
      some (after, news))
    (named : .started (.ok id) ∈ news) :
    id = client.nextId ∧ client.closed = false ∧
      after = client.withStream readCap (sizeOfInteger writeCap) ∧ queued news = [] := by
  cases turn_of_step taken with
  | leakStream _ _ _ _ _ error opened _ _ => exact absurd named (by simp)
  | streamStarted _ _ _ _ _ opened clean => exact ⟨by simpa using named, opened, rfl, rfl⟩
  | polled _ _ _ origin => simp at origin
  | quiet _ _ _ quiet _ => exact absurd named (quiet.not_started taken)
  | lost _ _ _ lost => cases lost

theorem startedIds_nodup (run : (clientMachine wake).Run Machine.Free client log) :
    (startedIds log).Nodup := by
  rw [(startedIds_of_run run).1]
  exact List.nodup_range'

/-- An id that a step started was not started before and is not started again. -/
theorem id_started_once {opened later : RClient} {more : List ClientObs} {id : Nat}
    (run : (clientMachine wake).Run Machine.Free client log)
    (taken : clientStep client input = some (opened, news)) (named : .started (.ok id) ∈ news)
    (on : ((clientMachine wake).startedAt opened).Run Machine.Free later more) :
    id ∉ startedIds log ∧ (startedIds (news ++ more)).count id = 1 := by
  have different := startedIds_nodup ((run.next trivial taken).trans on)
  have member : id ∈ startedIds (news ++ more) :=
    List.mem_filterMap.mpr ⟨_, List.mem_append_left _ named, rfl⟩
  rw [List.append_assoc, startedIds_append, List.nodup_append] at different
  exact ⟨fun before => different.2.2 id before id member rfl,
    List.count_eq_one_of_mem different.2.1 member⟩

/-- What holds of an id when it is handed out, and is kept by the traffic of every step, holds along
every run that goes on from there and leaves the client open. -/
theorem story_of_run {holds : RClient → List ClientObs → Prop} {opened later : RClient}
    {more : List ClientObs} (run : (clientMachine wake).Run Machine.Free opened log)
    (kept : ∀ {client after log news}, holds client log → Traffic client after news →
      holds after (log ++ news))
    (begun : holds opened news)
    (on : ((clientMachine wake).startedAt opened).Run Machine.Free later more)
    (open_ : later.closed = false) : holds later (news ++ more) := by
  induction on with
  | start =>
    rw [show ((clientMachine wake).startedAt opened).opening = [] from rfl, List.append_nil]
    exact begun
  | next before _ taken inductionHypothesis =>
    have sound := sound_of_run (run.trans before)
    rw [← List.append_assoc]
    exact kept (inductionHypothesis (sound.open_of_step taken open_)) (sound.traffic open_ taken)

/-- Nothing was pushed for an id that is still to be handed out. -/
theorem eventsOf_nextId (run : (clientMachine wake).Run Machine.Free client log)
    (open_ : client.closed = false) : eventsOf client.nextId log = [] :=
  eventsOf_of_ne fun event member => Nat.ne_of_lt (queued_behind_of_run run open_ event member)

/-- The next id is in no table. -/
theorem Sound.lookup_nextId (sound : Sound client log) :
    client.calls.lookup client.nextId = none ∧ client.streams.lookup client.nextId = none := by
  refine ⟨?_, ?_⟩
  · cases found : client.calls.lookup client.nextId with
    | none => rfl
    | some address => exact absurd (sound.callRegistry.lookup_lt found) (Nat.lt_irrefl _)
  · cases found : client.streams.lookup client.nextId with
    | none => rfl
    | some address => exact absurd (sound.streamRegistry.lookup_lt found) (Nat.lt_irrefl _)

end Runs

/-! ### The events of a client -/

/-- What a client pushes for a unary call, from its start to a later state: nothing before, nothing
while the call is in its table, one `unary` event when it leaves it and nothing since. -/
structure CallGrammar (id : Nat) (before : List ClientObs) (later : RClient)
    (since : List ClientObs) : Prop where
  unused : id ∉ startedIds before ∧ eventsOf id before = []
  once : (startedIds since).count id = 1
  story : CallStory id later since
  leaves : ∀ input last final, clientStep later input = some (last, final) → last.closed = false →
    later.calls.lookup id ≠ none → last.calls.lookup id = none →
    ∃ event, eventsOf id final = [event] ∧ event.kind = .unary

/-- What a client pushes for a stream, from its start to a later state: nothing before, messages and
writable notices while the stream is in its table, its status when it leaves it and nothing
since. -/
structure StreamGrammar (id : Nat) (before : List ClientObs) (later : RClient)
    (since : List ClientObs) : Prop where
  unused : id ∉ startedIds before ∧ eventsOf id before = []
  once : (startedIds since).count id = 1
  story : StreamStory id later since
  leaves : ∀ input last final, clientStep later input = some (last, final) → last.closed = false →
    later.streams.lookup id ≠ none → last.streams.lookup id = none →
    ∃ event, eventsOf id final = [event] ∧ event.kind = .status

/-- Along every run of a client that stays open, ids are never reused, and every unary call and
every stream pushes its events by the grammar. -/
theorem events_grammatical (wake : WakeHandle) (client : RClient) (log : List ClientObs)
    (run : (clientMachine wake).Run Machine.Free client log) :
    (startedIds log).Nodup ∧
      (∀ method request opts now opened news id,
        clientStep client (.callStart method request opts now) = some (opened, news) →
        .started (.ok id) ∈ news → ∀ later more,
        ((clientMachine wake).startedAt opened).Run Machine.Free later more →
        later.closed = false → CallGrammar id log later (news ++ more)) ∧
      ∀ method opts now readCap writeCap opened news id,
        clientStep client (.streamStart method opts now readCap writeCap) = some (opened, news) →
        .started (.ok id) ∈ news → ∀ later more,
        ((clientMachine wake).startedAt opened).Run Machine.Free later more →
        later.closed = false → StreamGrammar id log later (news ++ more) := by
  have sound := sound_of_run run
  obtain ⟨noCall, noStream⟩ := sound.lookup_nextId
  refine ⟨startedIds_nodup run, ?_, ?_⟩
  · intro method request opts now opened news id taken named later more on open_
    obtain ⟨unstarted, once⟩ := id_started_once run taken named on
    obtain ⟨rfl, before, rfl, pushed⟩ := id_of_callStart taken named
    have next : (clientMachine wake).Run Machine.Free client.withCall (log ++ news) :=
      .next run trivial
        (show (clientMachine wake).step client (.callStart method request opts now) = _ from taken)
    have begun : CallStory client.nextId client.withCall news :=
      ⟨Nat.lt_succ_self _, noStream, Or.inl ⟨by simp [RClient.withCall],
        eventsOf_of_silent pushed⟩⟩
    refine ⟨⟨unstarted, eventsOf_nextId run before⟩, once,
      story_of_run next (fun story traffic => story.step traffic) begun on
        open_, fun input last final left lastOpen listed missing => ?_⟩
    exact ((sound_of_run (next.trans on)).traffic lastOpen left).event_of_call listed missing
  · intro method opts now readCap writeCap opened news id taken named later more on open_
    obtain ⟨unstarted, once⟩ := id_started_once run taken named on
    obtain ⟨rfl, before, rfl, pushed⟩ := id_of_streamStart taken named
    have next : (clientMachine wake).Run Machine.Free
        (client.withStream readCap (sizeOfInteger writeCap)) (log ++ news) :=
      .next run trivial (show (clientMachine wake).step client
        (.streamStart method opts now readCap writeCap) = _ from taken)
    have begun : StreamStory client.nextId
        (client.withStream readCap (sizeOfInteger writeCap)) news := by
      refine ⟨Nat.lt_succ_self _, noCall, Or.inl ⟨by simp [RClient.withStream], ?_⟩⟩
      rw [eventsOf_of_silent pushed]
      exact fun _ absurdity => absurd absurdity List.not_mem_nil
    refine ⟨⟨unstarted, eventsOf_nextId run before⟩, once,
      story_of_run next (fun story traffic => story.step traffic) begun on
        open_, fun input last final left lastOpen listed missing => ?_⟩
    exact ((sound_of_run (next.trans on)).traffic lastOpen left).status_of_stream listed missing

/-- A message and the end of a stream, with the completion of a unary call in between. -/
def grammarInputs : List ClientInput :=
  [.returned 0 .start { ok := true },
    .returned 0 .read { ok := true, message := .ofRaw [2] },
    .unary 0 { ok := true },
    .returned 0 .read { ok := false },
    .returned 0 .finish { ok := true }]

theorem events_grammatical_mixed : ∃ called callNews opened streamNews later more,
    clientStep { wake := ⟨16, 0⟩ } (.callStart (.text [47]) [1] {} 0) = some (called, callNews) ∧
      clientStep called (.streamStart (.text [47]) {} 0 16 16) = some (opened, streamNews) ∧
      ((clientMachine ⟨16, 0⟩).startedAt opened).Run Machine.Free later more ∧
      (eventsOf 1 more).map ClEvent.kind = [.unary] ∧
      (eventsOf 2 more).map ClEvent.kind = [.smsg, .status] ∧
      CallGrammar 1 [] called (callNews ++ []) ∧
      StreamGrammar 2 callNews later (streamNews ++ more) := by
  have called : clientStep { wake := ⟨16, 0⟩ } (.callStart (.text [47]) [1] {} 0) = some _ := rfl
  have opened : clientStep (RClient.withCall { wake := ⟨16, 0⟩ })
      (.streamStart (.text [47]) {} 0 16 16) = some _ := rfl
  have run := Machine.run_of_exec (show (clientMachine ⟨16, 0⟩).exec Machine.Free
    (clientMachine ⟨16, 0⟩).start [.callStart (.text [47]) [1] {} 0] = some _ from rfl)
  have on := Machine.run_of_exec (show ((clientMachine ⟨16, 0⟩).startedAt _).exec Machine.Free
    (RClient.withStream (RClient.withCall { wake := ⟨16, 0⟩ }) 16 16) grammarInputs = some _
    from rfl)
  exact ⟨_, _, _, _, _, _, called, opened, on, by decide, by decide,
    (events_grammatical ⟨16, 0⟩ _ _ .start).2.1 _ _ _ _ _ _ _ called
      (List.mem_cons_of_mem _ List.mem_cons_self) _ _ .start rfl,
    (events_grammatical ⟨16, 0⟩ _ _ run).2.2 _ _ _ _ _ _ _ _ opened
      (List.mem_cons_of_mem _ List.mem_cons_self) _ _ on rfl⟩

end Rgrpc.Client
