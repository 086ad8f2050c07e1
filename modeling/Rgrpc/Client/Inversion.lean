/-
This file says what a step of the client can be. `Turn` lists the steps with
what each of them leaves behind; every later fact about a step of the client is
a case analysis of it.
-/

import Rgrpc.Client.Client

namespace Rgrpc.Client

open Library

/-! ### The logs of one stream and one call -/

section Logs

variable (address : Nat) (log more : List ClientObs)

@[simp]
theorem streamLog_append :
    streamLog address (log ++ more) = streamLog address log ++ streamLog address more :=
  List.filterMap_append

@[simp]
theorem unaryLog_append :
    unaryLog address (log ++ more) = unaryLog address log ++ unaryLog address more :=
  List.filterMap_append

theorem streamLog_map_self (obs : List StreamObs) :
    streamLog address (obs.map (ClientObs.stream address)) = obs := by
  simp [streamLog, List.filterMap_map]

theorem streamLog_map_of_ne {other : Nat} (different : other ≠ address) (obs : List StreamObs) :
    streamLog address (obs.map (ClientObs.stream other)) = [] := by
  simp [streamLog, List.filterMap_map, different]

theorem unaryLog_map_stream (other : Nat) (obs : List StreamObs) :
    unaryLog address (obs.map (ClientObs.stream other)) = [] := by
  simp [unaryLog, List.filterMap_map]

variable {address log}

theorem mem_streamLog_iff {obs : StreamObs} :
    obs ∈ streamLog address log ↔ ClientObs.stream address obs ∈ log := by
  rw [streamLog, List.mem_filterMap]
  constructor
  · rintro ⟨entry, member, matched⟩
    cases entry with
    | stream other shown =>
      simp only [Option.ite_none_right_eq_some, Option.some.injEq] at matched
      rw [← matched.1, ← matched.2]
      exact member
    | _ => exact absurd matched (by simp)
  · exact fun member => ⟨_, member, by simp⟩

theorem mem_unaryLog_iff {obs : UnaryObs} :
    obs ∈ unaryLog address log ↔ ClientObs.unary address obs ∈ log := by
  rw [unaryLog, List.mem_filterMap]
  constructor
  · rintro ⟨entry, member, matched⟩
    cases entry with
    | unary other shown =>
      simp only [Option.ite_none_right_eq_some, Option.some.injEq] at matched
      rw [← matched.1, ← matched.2]
      exact member
    | _ => exact absurd matched (by simp)
  · exact fun member => ⟨_, member, by simp⟩

end Logs

/-- Observations that say nothing of any stream or call. -/
structure Still (obs : List ClientObs) : Prop where
  streams : ∀ address, streamLog address obs = []
  calls : ∀ address, unaryLog address obs = []
  safe : ∀ address, ClientObs.useAfterFree address ∉ obs

theorem still_started (value : Except RError Nat) : Still [.started value] :=
  ⟨fun _ => rfl, fun _ => rfl, by simp⟩

theorem still_result (id : Nat) (request : StreamRequest) (value : Except RError Bool) :
    Still [.result id request value] :=
  ⟨fun _ => rfl, fun _ => rfl, by simp⟩

theorem still_polled (batch : List ClEvent) (value : Except RError (List RClEvent)) :
    Still [.polled batch value] :=
  ⟨fun _ => rfl, fun _ => rfl, by simp⟩

/-! ### What a poll does for the events it takes -/

/-- A client whose stream at an address went through a section. -/
def RClient.withSection (client : RClient) (address : Nat)
    (left : StreamState × List StreamObs) : RClient :=
  { client with
    streamArena := client.streamArena.set address
      (sectionCell left (client.streamArena.cell address).tags) }

/-- A request on a stream that is there goes to the stream. -/
theorem request_of_found {client : RClient} {id address : Nat} {stream : StreamState}
    (opened : client.closed = false) (found : client.streams.lookup id = some address)
    (object : (client.streamArena.cell address).object = some stream) (request : StreamRequest) :
    client.request id request =
      (client.withSection address ((request.answer client.shutting stream).stream,
          (request.answer client.shutting stream).obs),
        (request.answer client.shutting stream).obs.map (ClientObs.stream address) ++
          [.result id request (.ok (request.answer client.shutting stream).value)]) := by
  unfold RClient.request
  rw [if_neg (by simp [opened]), found]
  simp only
  rw [object]
  rfl

/-- A poll does nothing for an event, unless it is a message of a stream: then that stream goes
through a section. -/
theorem account_cases (client : RClient) (event : ClEvent) :
    ((event.kind = .smsg → client.streams.lookup event.id = none) ∧
      client.account event = (client, [])) ∨
    (∃ address, event.kind = .smsg ∧ client.streams.lookup event.id = some address ∧
      (client.streamArena.cell address).object = none ∧
      client.account event = (client, [.useAfterFree address])) ∨
    (∃ address stream, event.kind = .smsg ∧ client.streams.lookup event.id = some address ∧
      (client.streamArena.cell address).object = some stream ∧
      client.account event = (client.withSection address (takeMessage client.shutting stream),
        (takeMessage client.shutting stream).2.map (ClientObs.stream address))) := by
  unfold RClient.account
  split
  · rename_i message
    rw [beq_iff_eq] at message
    cases found : client.streams.lookup event.id with
    | none => exact Or.inl ⟨fun _ => rfl, rfl⟩
    | some address =>
      refine Or.inr ?_
      cases object : (client.streamArena.cell address).object with
      | none => exact Or.inl ⟨address, message, rfl, object, by simp only [object]⟩
      | some stream =>
        refine Or.inr ⟨address, stream, message, rfl, object, ?_⟩
        simp only [object]
        rfl
  · rename_i other
    rw [beq_iff_eq] at other
    exact Or.inl ⟨fun message => absurd message other, rfl⟩

theorem account_shutting (client : RClient) (event : ClEvent) :
    (client.account event).1.shutting = client.shutting := by
  rcases account_cases client event with ⟨-, same⟩ | ⟨address, -, -, -, same⟩ |
    ⟨address, stream, -, -, -, same⟩ <;>
  exact congrArg (fun left => left.1.shutting) same

/-- What a poll shows of the events it takes: a message it takes of a stream, a Read posted in its
place while the client is not shutting down, or a stream that is not there. -/
inductive Collected (shutting : Bool) : ClientObs → Prop
  | taken (address : Nat) : Collected shutting (.stream address .taken)
  | read (address : Nat) (running : shutting = false) :
      Collected shutting (.stream address (.posted .read))
  | lost (address : Nat) : Collected shutting (.useAfterFree address)

theorem collected_takeMessage {shutting : Bool} {stream : StreamState} {address : Nat} :
    ∀ entry ∈ (takeMessage shutting stream).2.map (ClientObs.stream address),
      Collected shutting entry := by
  intro entry member
  obtain ⟨obs, shown, rfl⟩ := List.mem_map.mp member
  rcases List.mem_cons.mp shown with rfl | posted
  · exact .taken address
  · change obs ∈ (if _ then _ else _ : StreamState × List StreamObs).2 at posted
    split at posted
    · unfold sPostReadLocked at posted
      split at posted
      · exact absurd posted List.not_mem_nil
      · rename_i enabled
        simp only [Bool.or_eq_true, not_or, Bool.not_eq_true] at enabled
        rw [List.mem_singleton.mp posted]
        exact .read address enabled.1.1.1.1.1
    · exact absurd posted List.not_mem_nil

theorem collected_account (client : RClient) (event : ClEvent) :
    ∀ entry ∈ (client.account event).2, Collected client.shutting entry := by
  rcases account_cases client event with ⟨-, same⟩ | ⟨address, -, -, -, same⟩ |
    ⟨address, stream, -, -, -, same⟩
  · rw [same]
    exact fun _ member => absurd member List.not_mem_nil
  · rw [same]
    intro entry member
    rw [List.mem_singleton.mp member]
    exact .lost address
  · rw [same]
    exact collected_takeMessage

/-- Whatever a poll shows of the events it takes is one of these. -/
theorem collected_takeLoop (client : RClient) (args : PollArgs) :
    ∀ entry ∈ (takeLoop (fun event : ClEvent => args.wants event.id) RClient.account
      args.maxEvents client.ready 0 client).obs, Collected client.shutting entry := by
  have loop := takeLoop_invariant (fun event : ClEvent => args.wants event.id) RClient.account
    args.maxEvents
    (fun (state : RClient) (log : List ClientObs) event _
        (before : state.shutting = client.shutting ∧
          ∀ entry ∈ log, Collected client.shutting entry) => by
      have collected := collected_account state event
      rw [before.1] at collected
      exact ⟨(account_shutting state event).trans before.1,
        List.forall_mem_append.mpr ⟨before.2, collected⟩⟩)
    client.ready 0 client [] ⟨rfl, fun _ member => absurd member List.not_mem_nil⟩
  exact loop.2

/-! ### What a step of the client can be -/

/-- A step that leaves the calls and streams alone: it changes only what R has yet to collect, the
wake handle and what the R thread is doing. -/
structure Quiet (client after : RClient) (news : List ClientObs) : Prop where
  same : after = { client with
    wake := after.wake, ready := after.ready, rthread := after.rthread }
  still : Still news
  thread : after.rthread = .joining ∨ after.rthread = .gone → after.rthread = client.rthread

/-- Whether the options of a call make `apply_context_opts` raise an error: metadata with a string
that has no translation. -/
def CallOpts.raises (opts : CallOpts) : Bool :=
  opts.metadata.any fun metadata => !metadata.translates

theorem applyContextOpts_raises (now : Int) (opts : CallOpts) (context : ClientContext) :
    (applyContextOpts now opts context).2.isSome = opts.raises := by
  unfold applyContextOpts CallOpts.raises
  cases given : opts.metadata with
  | none => rfl
  | some metadata =>
    simp only [Option.any_some]
    cases translates : metadata.translates with
    | true =>
      rw [addMetadata_of_translates translates]
      rfl
    | false =>
      split
      · rename_i added error raised
        rfl
      · rename_i added raised
        have clean := (addMetadata_error_iff metadata _).mp (congrArg Prod.snd raised)
        exact absurd (translates.symm.trans clean) Bool.false_ne_true

theorem translateCharUTF8_ok {text : RString} {utf8 : Bytes}
    (translated : translateCharUTF8 text = .ok utf8) : text.translates = true := by
  cases text with
  | text bytes => rfl
  | marked raw => exact absurd translated (by simp [translateCharUTF8])

/-- A client with one more unary call, started under the next id. -/
def RClient.withCall (client : RClient) : RClient :=
  { client with
    callArena := client.callArena.push ⟨some { id := client.nextId }, [.unary]⟩
    calls := client.calls.insert client.nextId client.callArena.size
    nextId := client.nextId + 1 }

/-- A client with one more stream, opened under the next id. -/
def RClient.withStream (client : RClient) (readCap : Int) (writeCap : Nat) : RClient :=
  { client with
    streamArena := client.streamArena.push
      (sectionCell (openStream client.nextId readCap writeCap {}) [])
    streams := client.streams.insert client.nextId client.streamArena.size
    nextId := client.nextId + 1 }

/-- An input that leads to an object that is not there: a tag outstanding at the address of a
deleted object, or an id whose stream was deleted. -/
inductive Lost (client : RClient) : ClientInput → Prop
  | unary (address : Nat) (delivery : Delivery)
      (outstanding : .unary ∈ (client.callArena.cell address).tags)
      (missing : (client.callArena.cell address).object = none) :
      Lost client (.unary address delivery)
  | returned (address : Nat) (op : TagKind) (delivery : Delivery)
      (outstanding : op ∈ (client.streamArena.cell address).tags)
      (missing : (client.streamArena.cell address).object = none) :
      Lost client (.returned address op delivery)
  | request (id : Nat) (request : StreamRequest) (address : Nat)
      (found : client.streams.lookup id = some address)
      (missing : (client.streamArena.cell address).object = none) :
      Lost client (.request id request)

/-- What a step of the client can be. -/
inductive Turn (client : RClient) : ClientInput → RClient → List ClientObs → Prop
  | unary (address : Nat) (delivery : Delivery) (call : CallState)
      (outstanding : .unary ∈ (client.callArena.cell address).tags)
      (object : (client.callArena.cell address).object = some call) :
      Turn client (.unary address delivery) (client.handleUnary address delivery call).1
        (client.handleUnary address delivery call).2
  | returned (address : Nat) (op : TagKind) (delivery : Delivery) (stream : StreamState)
      (outstanding : op ∈ (client.streamArena.cell address).tags)
      (object : (client.streamArena.cell address).object = some stream) :
      Turn client (.returned address op delivery)
        (client.handleStream address op delivery stream).1
        (client.handleStream address op delivery stream).2
  | leakCall (method : RString) (request : Bytes) (opts : CallOpts) (now : Int) (error : RError)
      (opened : client.closed = false) (named : method.translates = true)
      (raises : opts.raises = true) :
      Turn client (.callStart method request opts now)
        { client with callArena := client.callArena.push ⟨some {}, []⟩ }
        [.started (.error error)]
  | leakStream (method : RString) (opts : CallOpts) (now readCap writeCap : Int) (error : RError)
      (opened : client.closed = false) (named : method.translates = true)
      (raises : opts.raises = true) :
      Turn client (.streamStart method opts now readCap writeCap)
        { client with streamArena := client.streamArena.push ⟨some {}, []⟩ }
        [.started (.error error)]
  | callStarted (method : RString) (request : Bytes) (opts : CallOpts) (now : Int)
      (name : Bytes) (context : ClientContext) (opened : client.closed = false)
      (clean : opts.raises = false) :
      Turn client (.callStart method request opts now) client.withCall
        [.unary client.callArena.size (.posted name context (.ofRaw request)),
          .started (.ok client.nextId)]
  | streamStarted (method : RString) (opts : CallOpts) (now readCap writeCap : Int)
      (opened : client.closed = false) (clean : opts.raises = false) :
      Turn client (.streamStart method opts now readCap writeCap)
        (client.withStream readCap (sizeOfInteger writeCap))
        [.stream client.streamArena.size (.posted .startCall), .started (.ok client.nextId)]
  | request (id : Nat) (request : StreamRequest) (address : Nat) (stream : StreamState)
      (opened : client.closed = false) (found : client.streams.lookup id = some address)
      (object : (client.streamArena.cell address).object = some stream) :
      Turn client (.request id request)
        (client.withSection address ((request.answer client.shutting stream).stream,
          (request.answer client.shutting stream).obs))
        ((request.answer client.shutting stream).obs.map (ClientObs.stream address) ++
          [.result id request (.ok (request.answer client.shutting stream).value)])
  | polled (input : ClientInput) (wake : WakeHandle) (args : PollArgs)
      (origin : (∃ args leftMs, input = .poll args leftMs) ∨
        ∃ result leftMs, input = .woken result leftMs) :
      Turn client input (({ client with wake } : RClient).pollTake args).1
        (({ client with wake } : RClient).pollTake args).2
  | quiet (input : ClientInput) (after : RClient) (news : List ClientObs)
      (quiet : Quiet client after news)
      (origin : ∀ address op delivery, input ≠ .returned address op delivery) :
      Turn client input after news
  | closing (opened : client.closed = false) :
      Turn client .close { client with closed := true, shutting := true, rthread := .joining } []
  | joined (after : RClient) (news : List ClientObs) (joining : client.rthread = .joining)
      (ended : client.endClose = some (after, news)) : Turn client .joined after news
  | lost (input : ClientInput) (after : RClient) (news : List ClientObs)
      (lost : Lost client input) : Turn client input after news

/-- A wake inside a poll ends the poll or takes another pass of its wait loop. -/
theorem woken_cases {client after : RClient} {news : List ClientObs} {result leftMs : Int}
    (taken : clientStep client (.woken result leftMs) = some (after, news)) :
    ∃ args, client.rthread = .polling args ∧ (client.pollTake args = (after, news) ∨
      client.pollAttempt args leftMs = (after, news)) := by
  rw [clientStep] at taken
  split at taken
  · rename_i args polling
    refine ⟨args, polling, ?_⟩
    rw [RClient.woken] at taken
    split at taken
    · exact Or.inl (Option.some.inj taken)
    · split at taken
      · exact Or.inr (Option.some.inj taken)
      · exact absurd taken (by simp)
  · exact absurd taken (by simp)

theorem turn_pollAttempt (client : RClient) (args : PollArgs) (leftMs : Int) (input : ClientInput)
    (origin : (∃ args leftMs, input = .poll args leftMs) ∨
      ∃ result leftMs, input = .woken result leftMs) :
    Turn client input (client.pollAttempt args leftMs).1 (client.pollAttempt args leftMs).2 := by
  unfold RClient.pollAttempt
  split
  · simp only
    split
    · exact .polled input client.wake.drain args origin
    · refine .quiet input _ _ ⟨rfl, ⟨fun _ => rfl, fun _ => rfl, by simp⟩, by simp⟩ ?_
      rintro address op delivery rfl
      simp at origin
  · exact .polled input client.wake args origin

theorem turn_callStart (client : RClient) (method : RString) (request : Bytes) (opts : CallOpts)
    (now : Int) :
    Turn client (.callStart method request opts now)
      (client.grpcRCallStart method request opts now).1
      (client.grpcRCallStart method request opts now).2 := by
  have raises := applyContextOpts_raises now opts {}
  unfold RClient.grpcRCallStart
  split
  · exact .quiet _ _ _ ⟨rfl, ⟨fun _ => rfl, fun _ => rfl, by simp⟩, fun _ => rfl⟩ (by simp)
  · rename_i closed
    rw [Bool.not_eq_true] at closed
    cases named : translateCharUTF8 method with
    | error error => exact .quiet _ _ _ ⟨rfl, still_started _, fun _ => rfl⟩ (by simp)
    | ok name =>
      simp only
      rcases applied : applyContextOpts now opts {} with ⟨context, _ | error⟩
      · rw [applied] at raises
        exact .callStarted method request opts now name context closed raises.symm
      · rw [applied] at raises
        exact .leakCall method request opts now error closed (translateCharUTF8_ok named)
          raises.symm

theorem turn_streamStart (client : RClient) (method : RString) (opts : CallOpts)
    (now readCap writeCap : Int) :
    Turn client (.streamStart method opts now readCap writeCap)
      (client.grpcRStreamStart method opts now readCap writeCap).1
      (client.grpcRStreamStart method opts now readCap writeCap).2 := by
  have raises := applyContextOpts_raises now opts {}
  unfold RClient.grpcRStreamStart
  split
  · exact .quiet _ _ _ ⟨rfl, ⟨fun _ => rfl, fun _ => rfl, by simp⟩, fun _ => rfl⟩ (by simp)
  · rename_i closed
    rw [Bool.not_eq_true] at closed
    cases named : translateCharUTF8 method with
    | error error => exact .quiet _ _ _ ⟨rfl, still_started _, fun _ => rfl⟩ (by simp)
    | ok name =>
      simp only
      rcases applied : applyContextOpts now opts {} with ⟨context, _ | error⟩
      · rw [applied] at raises
        exact .streamStarted method opts now readCap writeCap closed raises.symm
      · rw [applied] at raises
        exact .leakStream method opts now readCap writeCap error closed
          (translateCharUTF8_ok named) raises.symm

theorem turn_request (client : RClient) (id : Nat) (request : StreamRequest) :
    Turn client (.request id request) (client.request id request).1
      (client.request id request).2 := by
  unfold RClient.request
  split
  · exact .quiet _ _ _ ⟨rfl, still_result _ _ _, fun _ => rfl⟩ (by simp)
  · rename_i opened
    rw [Bool.not_eq_true] at opened
    split
    · exact .quiet _ _ _ ⟨rfl, still_result _ _ _, fun _ => rfl⟩ (by simp)
    · rename_i address found
      split
      · rename_i missing
        exact .lost _ _ _ (.request id request address found missing)
      · rename_i stream object
        exact .request id request address stream opened found object

/-- Every step of the client is one of these. -/
theorem turn_of_step {client after : RClient} {input : ClientInput} {news : List ClientObs}
    (taken : clientStep client input = some (after, news)) : Turn client input after news := by
  have atR {result : RClient × List ClientObs}
      (enabled : (if client.atR then some result else none) = some (after, news))
      (turn : Turn client input result.1 result.2) : Turn client input after news := by
    split at enabled
    · rw [Option.some.inj enabled] at turn
      exact turn
    · exact absurd enabled (by simp)
  cases input with
  | unary address delivery =>
    rw [clientStep, RClient.runUnary] at taken
    split at taken
    · rename_i enabled
      have outstanding := List.contains_iff_mem.mp enabled
      cases object : (client.callArena.cell address).object with
      | none => exact .lost _ after news (.unary address delivery outstanding object)
      | some call =>
        rw [object] at taken
        have turn := Turn.unary address delivery call outstanding object
        rw [Option.some.inj taken] at turn
        exact turn
    · exact absurd taken (by simp)
  | returned address op delivery =>
    rw [clientStep, RClient.runTag] at taken
    split at taken
    · rename_i enabled
      have outstanding := List.contains_iff_mem.mp enabled
      cases object : (client.streamArena.cell address).object with
      | none => exact .lost _ after news (.returned address op delivery outstanding object)
      | some stream =>
        rw [object] at taken
        have turn := Turn.returned address op delivery stream outstanding object
        rw [Option.some.inj taken] at turn
        exact turn
    · exact absurd taken (by simp)
  | callStart method request opts now => exact atR taken (turn_callStart client _ _ _ _)
  | streamStart method opts now readCap writeCap =>
    exact atR taken (turn_streamStart client _ _ _ _ _)
  | request id request => exact atR taken (turn_request client id request)
  | cancel id =>
    refine atR taken ?_
    unfold RClient.grpcRCallCancel
    split <;>
    · exact .quiet _ _ _ ⟨rfl, ⟨fun _ => rfl, fun _ => rfl, by simp⟩, fun _ => rfl⟩ (by simp)
  | poll args leftMs =>
    refine atR taken ?_
    unfold RClient.grpcRClientPoll
    split
    · exact .quiet _ _ _ ⟨rfl, ⟨fun _ => rfl, fun _ => rfl, by simp⟩, fun _ => rfl⟩ (by simp)
    · exact turn_pollAttempt client args leftMs _ (Or.inl ⟨args, leftMs, rfl⟩)
  | woken result leftMs =>
    obtain ⟨args, -, ended | again⟩ := woken_cases taken
    · have turn : Turn client (.woken result leftMs) (client.pollTake args).1
          (client.pollTake args).2 :=
        .polled _ client.wake args (Or.inr ⟨result, leftMs, rfl⟩)
      rw [ended] at turn
      exact turn
    · have turn := turn_pollAttempt client args leftMs (.woken result leftMs)
        (Or.inr ⟨result, leftMs, rfl⟩)
      rw [again] at turn
      exact turn
  | close =>
    refine atR taken ?_
    unfold RClient.beginClose
    split
    · exact .quiet _ _ _ ⟨rfl, ⟨fun _ => rfl, fun _ => rfl, by simp⟩, fun _ => rfl⟩ (by simp)
    · rename_i opened
      exact .closing (by simpa using opened)
  | joined =>
    rw [clientStep] at taken
    split at taken
    · rename_i joining
      exact .joined after news (beq_iff_eq.mp joining) taken
    · exact absurd taken (by simp)

end Rgrpc.Client
