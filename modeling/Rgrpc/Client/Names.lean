/-
This file ties the ids of a client to its unary calls and streams, as
`Rgrpc/Server/Events.lean` does for the server: ids are given from one on, in
the order of the starts, and the events with an id are those of its call. The
tie is read off the log, so it outlives the call.
-/

import Rgrpc.Client.Events
import Rgrpc.Client.Flow
import Rgrpc.Client.Output

namespace Rgrpc.Client

open Library

/-! ### Calls and their ids -/

/-- A call of a client, by where it is in memory: a unary call or a stream. -/
inductive Rpc
  | unary (address : Nat)
  | stream (address : Nat)
  deriving DecidableEq, Repr

/-- The calls and streams that were started, in order. -/
def openings (log : List ClientObs) : List Rpc :=
  log.filterMap fun
    | .unary address (.posted _ _ _) => some (.unary address)
    | .stream address (.posted .startCall) => some (.stream address)
    | _ => none

/-- The call with an id: ids are given from one on, in order. -/
def holder (log : List ClientObs) : Nat → Option Rpc
  | 0 => none
  | before + 1 => (openings log)[before]?

/-- The event of a unary call. -/
def unaryEvents (log : List UnaryObs) : List ClEvent :=
  log.filterMap fun
    | .pushed event => some event
    | _ => none

/-- The events a call pushed. -/
def Rpc.events (log : List ClientObs) : Rpc → List ClEvent
  | .unary address => unaryEvents (unaryLog address log)
  | .stream address => pushedEvents (streamLog address log)

/-- The entry of the log that shows an event of a call. -/
def Rpc.pushed (event : ClEvent) : Rpc → ClientObs
  | .unary address => .unary address (.pushed event)
  | .stream address => .stream address (.pushed event)

/-- The messages R sent with an id, as far as the sends returned `TRUE`. -/
def sendsOf (id : Nat) (log : List ClientObs) : List Bytes :=
  log.filterMap fun
    | .result other (.send bytes) (.ok true) => if other = id then some bytes else none
    | _ => none

/-- The messages of the sends a call accepted: a unary call takes none. -/
def Rpc.sends (log : List ClientObs) : Rpc → List Bytes
  | .unary _ => []
  | .stream address => promised (streamLog address log)

section Logs

variable (log more : List ClientObs)

@[simp]
theorem openings_append : openings (log ++ more) = openings log ++ openings more :=
  List.filterMap_append

theorem events_append (rpc : Rpc) :
    rpc.events (log ++ more) = rpc.events log ++ rpc.events more := by
  cases rpc with
  | unary address =>
    rw [Rpc.events, Rpc.events, Rpc.events, unaryLog_append]
    exact List.filterMap_append
  | stream address =>
    rw [Rpc.events, Rpc.events, Rpc.events, streamLog_append, pushedEvents_append]

@[simp]
theorem sendsOf_append (id : Nat) :
    sendsOf id (log ++ more) = sendsOf id log ++ sendsOf id more :=
  List.filterMap_append

theorem sends_append (rpc : Rpc) : rpc.sends (log ++ more) = rpc.sends log ++ rpc.sends more := by
  cases rpc with
  | unary address => rfl
  | stream address =>
    rw [Rpc.sends, Rpc.sends, Rpc.sends, streamLog_append]
    exact List.filterMap_append

theorem openings_map {address : Nat} {obs : List StreamObs}
    (begun : .posted .startCall ∉ obs) : openings (obs.map (ClientObs.stream address)) = [] := by
  refine List.filterMap_eq_nil_iff.mpr fun entry member => ?_
  obtain ⟨observed, inside, rfl⟩ := List.mem_map.mp member
  cases observed with
  | posted post =>
    cases post with
    | startCall => exact absurd inside begun
    | _ => rfl
  | _ => rfl

end Logs

/-- A call that was given its id keeps it. -/
theorem holder_mono {log : List ClientObs} {id : Nat} {rpc : Rpc}
    (held : holder log id = some rpc) (news : List ClientObs) :
    holder (log ++ news) id = some rpc := by
  cases id with
  | zero => exact absurd held (by simp [holder])
  | succ before =>
    rw [holder] at held
    have inside := (List.getElem?_eq_some_iff.mp held).1
    rw [holder, openings_append, List.getElem?_append_left inside]
    exact held

theorem holder_append_of_nil {news : List ClientObs} (log : List ClientObs)
    (silent : openings news = []) : holder (log ++ news) = holder log := by
  funext id
  cases id with
  | zero => rfl
  | succ before => rw [holder, holder, openings_append, silent, List.append_nil]

/-- A start gives its call the next id. -/
theorem holder_append_of_singleton {log news : List ClientObs} {id : Nat} {rpc other : Rpc}
    (one : openings news = [rpc]) : holder (log ++ news) id = some other ↔
      holder log id = some other ∨ id = (openings log).length + 1 ∧ other = rpc := by
  cases id with
  | zero => simp [holder]
  | succ before =>
    rw [holder, holder, openings_append, one, List.getElem?_append]
    split
    · rename_i inside
      simp [Nat.ne_of_lt inside]
    · rename_i beyond
      rw [List.getElem?_eq_none (Nat.le_of_not_lt beyond), List.getElem?_singleton]
      split
      · rename_i last
        have same : before = (openings log).length := by omega
        simp [same, eq_comm]
      · rename_i later
        have different : before ≠ (openings log).length := by omega
        simp [different]

/-- Two ids never belong to one call. -/
theorem holder_injective {log : List ClientObs} (nodup : (openings log).Nodup) {id other : Nat}
    {rpc : Rpc} (first : holder log id = some rpc) (second : holder log other = some rpc) :
    id = other := by
  cases id with
  | zero => exact absurd first (by simp [holder])
  | succ before =>
    cases other with
    | zero => exact absurd second (by simp [holder])
    | succ after =>
      rw [holder] at first second
      have inside := (List.getElem?_eq_some_iff.mp first).1
      rw [(List.getElem?_inj inside nodup).mp (first.trans second.symm)]

/-! ### The events of a call -/

theorem events_pushed (event : ClEvent) (owner rpc : Rpc) :
    rpc.events [owner.pushed event] = if owner = rpc then [event] else [] := by
  cases owner with
  | unary address =>
    cases rpc with
    | unary other => by_cases same : address = other <;> simp [Rpc.events, Rpc.pushed, unaryLog,
        unaryEvents, same]
    | stream other => rfl
  | stream address =>
    cases rpc with
    | unary other => rfl
    | stream other => by_cases same : address = other <;> simp [Rpc.events, Rpc.pushed, streamLog,
        pushedEvents, same]

theorem eventsOf_pushed (event : ClEvent) (owner : Rpc) (id : Nat) :
    eventsOf id [owner.pushed event] = if event.id = id then [event] else [] := by
  cases owner <;> by_cases same : event.id = id <;> simp [eventsOf, queued, Rpc.pushed, same]

/-- An entry of the log that shows no event is of no one. -/
theorem silent_of_not_pushed {entry : ClientObs}
    (other : ∀ (rpc : Rpc) event, entry ≠ rpc.pushed event) (id : Nat) (rpc : Rpc) :
    eventsOf id [entry] = [] ∧ rpc.events [entry] = [] := by
  cases entry with
  | unary address observed =>
    cases observed with
    | pushed event => exact absurd rfl (other (.unary address) event)
    | _ =>
      refine ⟨rfl, ?_⟩
      cases rpc with
      | unary home =>
        by_cases same : address = home <;> simp [Rpc.events, unaryLog, unaryEvents, same]
      | stream home => rfl
  | stream address observed =>
    cases observed with
    | pushed event => exact absurd rfl (other (.stream address) event)
    | _ =>
      refine ⟨rfl, ?_⟩
      cases rpc with
      | unary home => rfl
      | stream home =>
        by_cases same : address = home <;> simp [Rpc.events, streamLog, pushedEvents, same]
  | _ =>
    refine ⟨rfl, ?_⟩
    cases rpc <;> rfl

/-- When every event with an id is one of a call, and the other way round, the two agree. -/
theorem eventsOf_eq_events {log : List ClientObs} {id : Nat} {rpc : Rpc}
    (agree : ∀ (owner : Rpc) event, owner.pushed event ∈ log → (event.id = id ↔ owner = rpc)) :
    eventsOf id log = rpc.events log := by
  induction log with
  | nil => cases rpc <;> rfl
  | cons entry rest inductionHypothesis =>
    rw [← List.singleton_append, eventsOf_append, events_append,
      inductionHypothesis fun owner event member =>
        agree owner event (List.mem_cons_of_mem _ member)]
    congr 1
    by_cases shows : ∃ (owner : Rpc) (event : ClEvent), entry = owner.pushed event
    · obtain ⟨owner, event, rfl⟩ := shows
      rw [events_pushed, eventsOf_pushed]
      exact if_congr (agree owner event List.mem_cons_self) rfl rfl
    · obtain ⟨silent, nothing⟩ := silent_of_not_pushed
        (fun owner event same => shows ⟨owner, event, same⟩) id rpc
      rw [silent, nothing]

/-! ### The tie -/

/-- The ids given so far: each belongs to one call, the tables know the calls by them, and the
events and the sends with an id are those of its call. -/
structure Named (client : RClient) (log : List ClientObs) : Prop where
  counter : client.nextId = (openings log).length + 1
  nodup : (openings log).Nodup
  streams : ∀ id address, client.streams.lookup id = some address →
    holder log id = some (.stream address)
  calls : ∀ id address, client.calls.lookup id = some address →
    holder log id = some (.unary address)
  tied : ∀ rpc event, Rpc.pushed event rpc ∈ log → holder log event.id = some rpc
  sends : ∀ id, sendsOf id log = ((holder log id).map (Rpc.sends log)).getD []

/-- The events with an id are the events of its call. -/
theorem Named.own {client : RClient} {log : List ClientObs} (named : Named client log) {id : Nat}
    {rpc : Rpc} (held : holder log id = some rpc) : eventsOf id log = rpc.events log := by
  refine eventsOf_eq_events fun owner event member => ?_
  have tied := named.tied owner event member
  constructor
  · rintro rfl
    exact Option.some.inj (tied.symm.trans held)
  · rintro rfl
    exact holder_injective named.nodup tied held

/-! ### What a step adds -/

section Steps

variable {client after : RClient} {log news : List ClientObs} {input : ClientInput}

/-- A step that starts nothing: the tables lose at most what they hold, what is pushed is pushed
with the id of its call, and what was sent with an id was accepted by its call. -/
structure Keeps (client after : RClient) (log news : List ClientObs) : Prop where
  unopened : openings news = []
  next : after.nextId = client.nextId
  streams : ∀ id address, after.streams.lookup id = some address →
    client.streams.lookup id = some address
  calls : ∀ id address, after.calls.lookup id = some address →
    client.calls.lookup id = some address
  tied : ∀ rpc event, Rpc.pushed event rpc ∈ news → holder log event.id = some rpc
  sends : ∀ id, sendsOf id news = ((holder log id).map (Rpc.sends news)).getD []

theorem Named.keep (named : Named client log) (keeps : Keeps client after log news) :
    Named after (log ++ news) := by
  have held := holder_append_of_nil log keeps.unopened
  refine ⟨?_, ?_, ?_, ?_, ?_, ?_⟩
  · rw [keeps.next, openings_append, keeps.unopened, List.append_nil]
    exact named.counter
  · rw [openings_append, keeps.unopened, List.append_nil]
    exact named.nodup
  · intro id address found
    rw [held]
    exact named.streams id address (keeps.streams id address found)
  · intro id address found
    rw [held]
    exact named.calls id address (keeps.calls id address found)
  · intro rpc event member
    rw [held]
    rcases List.mem_append.mp member with before | now
    · exact named.tied rpc event before
    · exact keeps.tied rpc event now
  · intro id
    rw [held, sendsOf_append, named.sends, keeps.sends]
    cases holder log id with
    | none => rfl
    | some rpc => exact (sends_append log news rpc).symm

/-- A step that starts a call under the next id. -/
structure Opens (client after : RClient) (log news : List ClientObs) (rpc : Rpc) : Prop where
  opened : openings news = [rpc]
  unused : rpc ∉ openings log
  silent : rpc.sends log = []
  next : after.nextId = client.nextId + 1
  streams : ∀ id address, after.streams.lookup id = some address →
    client.streams.lookup id = some address ∨ id = client.nextId ∧ rpc = .stream address
  calls : ∀ id address, after.calls.lookup id = some address →
    client.calls.lookup id = some address ∨ id = client.nextId ∧ rpc = .unary address
  unpushed : ∀ owner event, Rpc.pushed event owner ∉ news
  unsent : ∀ id, sendsOf id news = []
  unaccepted : ∀ owner, Rpc.sends news owner = []

theorem Named.open (named : Named client log) {rpc : Rpc}
    (opens : Opens client after log news rpc) : Named after (log ++ news) := by
  have fresh : holder (log ++ news) client.nextId = some rpc :=
    (holder_append_of_singleton opens.opened).mpr (Or.inr ⟨named.counter, rfl⟩)
  refine ⟨?_, ?_, ?_, ?_, ?_, ?_⟩
  · rw [opens.next, openings_append, opens.opened, named.counter, List.length_append,
      List.length_singleton]
  · rw [openings_append, opens.opened]
    exact List.nodup_append.mpr ⟨named.nodup, List.nodup_singleton rpc, by
      rintro other before last now rfl
      exact opens.unused (List.mem_singleton.mp now ▸ before)⟩
  · intro id address found
    rcases opens.streams id address found with before | ⟨rfl, rfl⟩
    · exact holder_mono (named.streams id address before) news
    · exact fresh
  · intro id address found
    rcases opens.calls id address found with before | ⟨rfl, rfl⟩
    · exact holder_mono (named.calls id address before) news
    · exact fresh
  · intro owner event member
    exact holder_mono (named.tied owner event
      ((List.mem_append.mp member).resolve_right (opens.unpushed owner event))) news
  · intro id
    rw [sendsOf_append, opens.unsent, List.append_nil, named.sends]
    cases held : holder log id with
    | some owner =>
      rw [holder_mono held news]
      show owner.sends log = owner.sends (log ++ news)
      rw [sends_append, opens.unaccepted, List.append_nil]
    | none =>
      cases later : holder (log ++ news) id with
      | none => rfl
      | some owner =>
        obtain ⟨-, rfl⟩ := ((holder_append_of_singleton opens.opened).mp later).resolve_left
          (by rw [held]; simp)
        show [] = owner.sends (log ++ news)
        rw [sends_append, opens.unaccepted, opens.silent, List.append_nil]

/-- The start of a stream is its first entry. -/
theorem startCall_not_mem {before later : List StreamObs}
    (lawful : Lawful Disciplined (before ++ later)) (begun : before ≠ []) :
    .posted .startCall ∉ later := by
  intro member
  obtain ⟨first, rest, rfl⟩ := List.append_of_mem member
  have none := lawful (before ++ first) (.posted .startCall) rest (List.append_assoc _ _ _).symm
  exact begun (List.append_eq_nil_iff.mp none).1

/-- What a step of a stream adds starts nothing. -/
theorem Sound.openings_section (sound : Sound after (log ++ news)) {address : Nat}
    {obs : List StreamObs} (own : streamLog address news = obs)
    (begun : posts .start (streamLog address log) = 1) :
    openings (obs.map (ClientObs.stream address)) = [] := by
  refine openings_map (@startCall_not_mem (streamLog address log) obs ?_ ?_)
  · rw [← own, ← streamLog_append]
    exact sound.lawful address
  · intro none
    rw [none] at begun
    exact absurd begun (by simp)

theorem pushed_not_mem_map {address : Nat} {obs : List StreamObs} (silent : pushedEvents obs = [])
    (owner : Rpc) (event : ClEvent) :
    Rpc.pushed event owner ∉ obs.map (ClientObs.stream address) := by
  intro member
  obtain ⟨entry, inside, same⟩ := List.mem_map.mp member
  cases owner with
  | unary home => exact absurd same (by simp [Rpc.pushed])
  | stream home =>
    obtain ⟨-, rfl⟩ := ClientObs.stream.inj same
    have pushed : event ∈ pushedEvents obs := List.mem_filterMap.mpr ⟨_, inside, rfl⟩
    rw [silent] at pushed
    exact absurd pushed List.not_mem_nil

theorem sendsOf_map (id address : Nat) (obs : List StreamObs) :
    sendsOf id (obs.map (ClientObs.stream address)) = [] := by
  rw [sendsOf, List.filterMap_map]
  exact List.filterMap_eq_nil_iff.mpr fun _ _ => rfl

theorem sends_map (address : Nat) (obs : List StreamObs) (rpc : Rpc) :
    rpc.sends (obs.map (ClientObs.stream address)) =
      if rpc = .stream address then promised obs else [] := by
  cases rpc with
  | unary home => rfl
  | stream home =>
    by_cases same : address = home
    · subst same
      rw [Rpc.sends, streamLog_map_self, if_pos rfl]
    · rw [Rpc.sends, streamLog_map_of_ne home same, if_neg (by simp [Ne.symm same])]
      rfl

theorem promised_eq_nil {obs : List StreamObs}
    (none : ∀ request, StreamObs.accepted request ∉ obs) : promised obs = [] := by
  refine List.filterMap_eq_nil_iff.mpr fun entry member => ?_
  cases entry with
  | accepted request => exact absurd member (none request)
  | _ => rfl

/-- What a send returns is what the stream accepted. -/
theorem sendsOf_answer (shutting : Bool) (request : StreamRequest) (stream : StreamState)
    (id other : Nat) :
    sendsOf other [.result id request (.ok (request.answer shutting stream).value)] =
      if id = other then promised (request.answer shutting stream).obs else [] := by
  have pumps (asked : StreamRequest) (left : StreamState) :
      promised (acceptAndPump shutting asked left).obs = promised [.accepted asked] := by
    rw [acceptAndPump]
    show promised ([.accepted asked] ++ _) = _
    rw [promised, List.filterMap_append]
    show _ ++ promised _ = _
    rw [promised_eq_nil (accepted_not_mem_of_isAct (isAct_sPumpWritesLocked shutting left)),
      List.append_nil]
    rfl
  rcases answer_cases shutting request stream with
    same | ⟨bytes, rfl, -, -, -, -, same⟩ | ⟨rfl, -, same⟩
  · rw [same]
    cases request <;> simp [sendsOf, refuse, promised]
  · rw [same, pumps]
    by_cases own : id = other <;> simp [sendsOf, promised, acceptAndPump, own]
  · rw [same, pumps]
    simp [sendsOf, promised]

/-- Observations in which nothing is started, pushed or sent. -/
structure Mutes (news : List ClientObs) : Prop where
  unopened : openings news = []
  unpushed : ∀ owner event, Rpc.pushed event owner ∉ news
  unsent : ∀ id, sendsOf id news = []
  unaccepted : ∀ owner, Rpc.sends news owner = []

theorem mutes_nil : Mutes [] :=
  ⟨rfl, fun _ _ => List.not_mem_nil, fun _ => rfl, fun owner => by cases owner <;> rfl⟩

theorem Mutes.append {more : List ClientObs} (first : Mutes news) (second : Mutes more) :
    Mutes (news ++ more) := by
  refine ⟨?_, fun owner event member => ?_, fun id => ?_, fun owner => ?_⟩
  · rw [openings_append, first.unopened, second.unopened]
    rfl
  · rcases List.mem_append.mp member with before | now
    · exact first.unpushed owner event before
    · exact second.unpushed owner event now
  · rw [sendsOf_append, first.unsent, second.unsent]
    rfl
  · rw [sends_append, first.unaccepted, second.unaccepted]
    rfl

theorem mutes_of_each {news : List ClientObs} (each : ∀ entry ∈ news, Mutes [entry]) :
    Mutes news := by
  induction news with
  | nil => exact mutes_nil
  | cons entry rest inductionHypothesis =>
    exact (each entry List.mem_cons_self).append
      (inductionHypothesis fun other member => each other (List.mem_cons_of_mem _ member))

/-- Steps of one stream that push and accept nothing. -/
theorem mutes_map {address : Nat} {obs : List StreamObs} (begun : .posted .startCall ∉ obs)
    (unpushed : pushedEvents obs = []) (unaccepted : promised obs = []) :
    Mutes (obs.map (ClientObs.stream address)) :=
  ⟨openings_map begun, pushed_not_mem_map unpushed, fun id => sendsOf_map id address obs,
    fun owner => by rw [sends_map, unaccepted, ite_self]⟩

theorem mutes_of_collected {shutting : Bool} {entry : ClientObs}
    (collected : Collected shutting entry) : Mutes [entry] := by
  cases collected with
  | taken address => exact @mutes_map address [.taken] (by simp) rfl rfl
  | read address running => exact @mutes_map address [.posted .read] (by simp) rfl rfl
  | lost address => exact ⟨rfl, fun owner => by cases owner <;> simp [Rpc.pushed], fun _ => rfl,
      fun owner => by cases owner <;> rfl⟩

theorem Mutes.keeps (mutes : Mutes news) (next : after.nextId = client.nextId)
    (streams : ∀ id address, after.streams.lookup id = some address →
      client.streams.lookup id = some address)
    (calls : ∀ id address, after.calls.lookup id = some address →
      client.calls.lookup id = some address) : Keeps client after log news :=
  ⟨mutes.unopened, next, streams, calls,
    fun owner event member => absurd member (mutes.unpushed owner event), fun id => by
      rw [mutes.unsent, show Rpc.sends news = fun _ => [] from funext mutes.unaccepted]
      cases holder log id <;> rfl⟩

theorem lookup_of_erase {table : AList fun _ : Nat => Nat} {id other address : Nat}
    (found : (table.erase other).lookup id = some address) : table.lookup id = some address := by
  by_cases same : id = other
  · rw [same, AList.lookup_erase] at found
    exact absurd found (by simp)
  · rw [← found, AList.lookup_erase_ne same]

theorem lookup_of_insert {table : AList fun _ : Nat => Nat} {id other home address : Nat}
    (found : (table.insert other home).lookup id = some address) :
    table.lookup id = some address ∨ id = other ∧ home = address := by
  by_cases same : id = other
  · rw [same, AList.lookup_insert] at found
    exact Or.inr ⟨same, Option.some.inj found⟩
  · rw [AList.lookup_insert_ne same] at found
    exact Or.inl found

theorem Named.keeps_unary (named : Named client log) (sound : Sound client log) {address : Nat}
    (delivery : Delivery) {call : CallState}
    (outstanding : .unary ∈ (client.callArena.cell address).tags)
    (object : (client.callArena.cell address).object = some call) :
    Keeps client (client.handleUnary address delivery call).1 log
      (client.handleUnary address delivery call).2 := by
  obtain ⟨present, cell, nonzero, -⟩ := sound.call_of_mem outstanding
  obtain rfl : call = present := by
    rw [cell] at object
    exact (Option.some.inj object).symm
  have owner := named.calls call.id address (sound.callListed address call object nonzero)
  refine ⟨rfl, rfl, fun id other found => found, fun id other found => lookup_of_erase found,
    fun rpc event member => ?_, fun id => ?_⟩
  · rcases List.mem_cons.mp member with first | last
    · cases rpc with
      | unary home =>
        obtain ⟨rfl, pushed⟩ := ClientObs.unary.inj first
        obtain rfl := UnaryObs.pushed.inj pushed
        exact owner
      | stream home => exact absurd first (by simp [Rpc.pushed])
    · cases rpc <;> exact absurd last (by simp [Rpc.pushed])
  · show [] = _
    cases holder log id with
    | none => rfl
    | some rpc => cases rpc <;> rfl

theorem Named.keeps_returned (named : Named client log) (sound : Sound client log)
    (later : Sound after (log ++ news)) {address : Nat} {op : TagKind} {delivery : Delivery}
    {stream : StreamState} (outstanding : op ∈ (client.streamArena.cell address).tags)
    (object : (client.streamArena.cell address).object = some stream)
    (equal : client.handleStream address op delivery stream = (after, news)) :
    Keeps client after log news := by
  obtain ⟨present, same, ledger, nonzero⟩ := sound.stream_of_mem outstanding
  obtain rfl := Option.some.inj (object.symm.trans same)
  have owner := named.streams stream.id address
    (sound.streamListed address stream object nonzero)
  have pushed := queued_handleStream client address op delivery stream
  obtain ⟨rfl, rfl⟩ := Prod.mk.inj equal
  refine ⟨later.openings_section (streamLog_map_self address _) ledger.opened, rfl,
    fun id other found => ?_, fun id other found => found, fun rpc event member => ?_,
    fun id => ?_⟩
  · change (if _ then _ else _ : AList fun _ : Nat => Nat).lookup id = some other at found
    split at found
    · exact lookup_of_erase found
    · exact found
  · obtain ⟨entry, inside, shown⟩ := List.mem_map.mp member
    have waits : event ∈ queued (client.handleStream address op delivery stream).2 := by
      refine List.mem_filterMap.mpr ⟨_, member, ?_⟩
      cases rpc <;> rfl
    rw [pushed] at waits
    rw [id_of_handlerEvents waits, owner]
    cases rpc with
    | unary home => exact absurd shown (by simp [Rpc.pushed])
    | stream home => rw [(ClientObs.stream.inj shown).1]
  · rw [sendsOf_map]
    cases holder log id with
    | none => rfl
    | some rpc =>
      show [] = rpc.sends _
      rw [sends_map, promised_eq_nil (accepted_not_mem_handleTag _ _ _ _ _), ite_self]

theorem Named.keeps_request (named : Named client log) (sound : Sound client log)
    {id address : Nat} {request : StreamRequest} {stream : StreamState}
    (later : Sound (client.withSection address ((request.answer client.shutting stream).stream,
        (request.answer client.shutting stream).obs))
      (log ++ ((request.answer client.shutting stream).obs.map (ClientObs.stream address) ++
        [.result id request (.ok (request.answer client.shutting stream).value)])))
    (found : client.streams.lookup id = some address)
    (object : (client.streamArena.cell address).object = some stream) :
    Keeps client (client.withSection address ((request.answer client.shutting stream).stream,
        (request.answer client.shutting stream).obs)) log
      ((request.answer client.shutting stream).obs.map (ClientObs.stream address) ++
        [.result id request (.ok (request.answer client.shutting stream).value)]) := by
  have owner := named.streams id address found
  have ledger := sound.ledger_of_found found object
  refine ⟨?_, rfl, fun id other found => found, fun id other found => found,
    fun rpc event member => ?_, fun other => ?_⟩
  · have begun : openings ((request.answer client.shutting stream).obs.map
        (ClientObs.stream address)) = [] := by
      refine later.openings_section ?_ ledger.opened
      rw [streamLog_append, streamLog_map_self, (still_result _ _ _).streams, List.append_nil]
    rw [openings_append, begun]
    rfl
  · rcases List.mem_append.mp member with shown | last
    · exact absurd shown (pushed_not_mem_map (pushedEvents_answer _ _ _) rpc event)
    · cases rpc <;> exact absurd last (by simp [Rpc.pushed])
  · rw [sendsOf_append, sendsOf_map, List.nil_append, sendsOf_answer]
    have silent (rpc : Rpc) : rpc.sends ((request.answer client.shutting stream).obs.map
        (ClientObs.stream address) ++
          [.result id request (.ok (request.answer client.shutting stream).value)]) =
        if rpc = .stream address then promised (request.answer client.shutting stream).obs
        else [] := by
      rw [sends_append, sends_map]
      cases rpc <;> exact List.append_nil _
    cases held : holder log other with
    | none =>
      refine if_neg ?_
      rintro rfl
      exact absurd (held.symm.trans owner) (by simp)
    | some rpc =>
      show _ = rpc.sends _
      rw [silent]
      refine if_congr ⟨?_, ?_⟩ rfl rfl
      · rintro rfl
        exact Option.some.inj (held.symm.trans owner)
      · rintro rfl
        exact holder_injective named.nodup owner held

theorem mutes_pollTake (client : RClient) (args : PollArgs) :
    Mutes (client.pollTake args).2 := by
  rw [RClient.pollTake]
  refine Mutes.append (mutes_of_each fun entry member =>
    mutes_of_collected (collected_takeLoop client args entry member)) ?_
  exact ⟨rfl, fun owner => by cases owner <;> simp [Rpc.pushed], fun _ => rfl,
    fun owner => by cases owner <;> rfl⟩

/-- A request that returns `TRUE` was accepted by a stream. -/
theorem Sound.accepted_of_result (sound : Sound client log)
    (taken : clientStep client input = some (after, news)) {id : Nat} {request : StreamRequest}
    (returned : ClientObs.result id request (.ok true) ∈ news) :
    ∃ address, ClientObs.stream address (.accepted request) ∈ news := by
  obtain ⟨rfl, same⟩ := request_of_result taken returned
  cases found : client.streams.lookup id with
  | some address =>
    exact ⟨address, (sound.accepted_step taken address request).mpr ⟨id, found, returned⟩⟩
  | none =>
    rw [RClient.request, found] at same
    split at same <;>
    · rw [← same] at returned
      exact absurd returned (by simp)

/-- A quiet step starts, pushes and sends nothing. -/
theorem Sound.mutes_quiet (sound : Sound client log)
    (taken : clientStep client input = some (after, news)) (quiet : Quiet client after news) :
    Mutes news := by
  have silent (address : Nat) (obs : StreamObs) : ClientObs.stream address obs ∉ news := by
    intro member
    have logged := mem_streamLog_iff.mpr member
    rw [quiet.still.streams] at logged
    exact absurd logged List.not_mem_nil
  have still (address : Nat) (obs : UnaryObs) : ClientObs.unary address obs ∉ news := by
    intro member
    have logged := mem_unaryLog_iff.mpr member
    rw [quiet.still.calls] at logged
    exact absurd logged List.not_mem_nil
  refine ⟨?_, fun owner event member => ?_, fun id => ?_, fun owner => ?_⟩
  · refine List.filterMap_eq_nil_iff.mpr fun entry member => ?_
    split
    · exact absurd member (still _ _)
    · exact absurd member (silent _ _)
    · rfl
  · cases owner with
    | unary address => exact absurd member (still address _)
    | stream address => exact absurd member (silent address _)
  · refine List.filterMap_eq_nil_iff.mpr fun entry member => ?_
    split
    · rename_i other bytes
      obtain ⟨address, accepted⟩ := sound.accepted_of_result taken member
      exact absurd accepted (silent address _)
    · rfl
  · cases owner with
    | unary address => rfl
    | stream address =>
      rw [Rpc.sends, quiet.still.streams]
      rfl

/-- What was opened is in memory. -/
theorem Sound.opened_lt (sound : Sound client log) {rpc : Rpc} (opened : rpc ∈ openings log) :
    rpc ≠ .unary client.callArena.size ∧ rpc ≠ .stream client.streamArena.size := by
  obtain ⟨entry, member, shown⟩ := List.mem_filterMap.mp opened
  split at shown
  · obtain rfl := Option.some.inj shown
    refine ⟨fun last => ?_, by simp⟩
    obtain rfl := Rpc.unary.inj last
    have logged := mem_unaryLog_iff.mpr member
    rw [sound.unusedCalls _ (Nat.le_refl _)] at logged
    exact absurd logged List.not_mem_nil
  · obtain rfl := Option.some.inj shown
    refine ⟨by simp, fun last => ?_⟩
    obtain rfl := Rpc.stream.inj last
    have logged := mem_streamLog_iff.mpr member
    rw [sound.unusedStreams _ (Nat.le_refl _)] at logged
    exact absurd logged List.not_mem_nil
  · exact absurd shown (by simp)

theorem Sound.opens_call (sound : Sound client log) (name : Bytes) (context : ClientContext)
    (request : ByteBuffer) : Opens client client.withCall log
      [.unary client.callArena.size (.posted name context request), .started (.ok client.nextId)]
      (.unary client.callArena.size) where
  opened := rfl
  unused := fun opened => (sound.opened_lt opened).1 rfl
  silent := rfl
  next := rfl
  streams := fun _ _ found => Or.inl found
  calls := fun id address found => by
    rcases lookup_of_insert found with before | ⟨rfl, rfl⟩
    · exact Or.inl before
    · exact Or.inr ⟨rfl, rfl⟩
  unpushed := fun owner event => by cases owner <;> simp [Rpc.pushed]
  unsent := fun _ => rfl
  unaccepted := fun owner => by cases owner <;> rfl

theorem Sound.opens_stream (sound : Sound client log) (readCap : Int) (writeCap : Nat) :
    Opens client (client.withStream readCap writeCap) log
      [.stream client.streamArena.size (.posted .startCall), .started (.ok client.nextId)]
      (.stream client.streamArena.size) where
  opened := rfl
  unused := fun opened => (sound.opened_lt opened).2 rfl
  silent := by
    rw [Rpc.sends, sound.unusedStreams _ (Nat.le_refl _)]
    rfl
  next := rfl
  streams := fun id address found => by
    rcases lookup_of_insert found with before | ⟨rfl, rfl⟩
    · exact Or.inl before
    · exact Or.inr ⟨rfl, rfl⟩
  calls := fun _ _ found => Or.inl found
  unpushed := fun owner event => by cases owner <;> simp [Rpc.pushed]
  unsent := fun _ => rfl
  unaccepted := fun owner => by
    cases owner with
    | unary home => rfl
    | stream home =>
      by_cases same : client.streamArena.size = home <;>
        simp [Rpc.sends, streamLog, same, promised]

theorem mutes_started (error : RError) : Mutes [.started (.error error)] :=
  ⟨rfl, fun owner => by cases owner <;> simp [Rpc.pushed], fun _ => rfl,
    fun owner => by cases owner <;> rfl⟩

/-- A step keeps the ids tied to their calls. -/
theorem Named.step (named : Named client log) (sound : Sound client log)
    (taken : clientStep client input = some (after, news)) : Named after (log ++ news) := by
  have later := sound.step taken
  cases turn_of_step taken with
  | unary address delivery call outstanding object =>
    exact named.keep (named.keeps_unary sound delivery outstanding object)
  | returned address op delivery stream outstanding object =>
    exact named.keep (named.keeps_returned sound later outstanding object rfl)
  | leakCall method request opts now error opened translated raises =>
    exact named.keep ((mutes_started error).keeps rfl (fun _ _ found => found)
      fun _ _ found => found)
  | leakStream method opts now readCap writeCap error opened translated raises =>
    exact named.keep ((mutes_started error).keeps rfl (fun _ _ found => found)
      fun _ _ found => found)
  | callStarted method request opts now name context opened clean =>
    exact named.open (sound.opens_call name context (.ofRaw request))
  | streamStarted method opts now readCap writeCap opened clean =>
    exact named.open (sound.opens_stream readCap (sizeOfInteger writeCap))
  | request id request address stream opened found object =>
    exact named.keep (named.keeps_request sound later found object)
  | polled input wake args origin =>
    have kept := pollTake_tables { client with wake } args
    refine named.keep ((mutes_pollTake { client with wake } args).keeps kept.next ?_ ?_)
    · rw [kept.streams]
      exact fun _ _ found => found
    · rw [kept.calls]
      exact fun _ _ found => found
  | quiet input after news quiet origin =>
    refine named.keep ((sound.mutes_quiet taken quiet).keeps ?_ ?_ ?_) <;> rw [quiet.same]
    · exact fun _ _ found => found
    · exact fun _ _ found => found
  | closing opened =>
    exact named.keep (mutes_nil.keeps rfl (fun _ _ found => found) fun _ _ found => found)
  | joined after news joining ended =>
    obtain ⟨-, -, rfl, rfl⟩ := sound.endClose_eq ended
    refine named.keep (Mutes.keeps (mutes_of_each fun entry member => ?_) rfl
      (fun id address found => absurd found (by simp)) fun id address found =>
        absurd found (by simp))
    obtain ⟨address, -, rfl⟩ := List.mem_map.mp member
    exact @mutes_map address [.deleted] (by simp) rfl rfl
  | lost input after news lost => exact absurd lost sound.not_lost

end Steps

end Rgrpc.Client
