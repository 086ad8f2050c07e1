/-
This file models what `grpc_poll` and `grpc_await` do on the R side with the
events the native poll returned: `decorate_events` of `client.R`, over the table
of the types of typed calls.

`decorate_events` maps over the batch and the function it maps changes the
table, so the model threads the table through the batch. `grpc_decode` is
RProtoBuf's and may raise for any payload and any type; it is a parameter. An
error it raises ends the map, and what was mapped before is lost with it.
-/

import Rgrpc.Client.Client

namespace Rgrpc.Client

/-! ### The types of a call -/

/-- `grpc_status_codes`. -/
def grpcStatusCodes : List (String × Int) :=
  [("OK", 0), ("CANCELLED", 1), ("UNKNOWN", 2), ("INVALID_ARGUMENT", 3),
    ("DEADLINE_EXCEEDED", 4), ("NOT_FOUND", 5), ("ALREADY_EXISTS", 6), ("PERMISSION_DENIED", 7),
    ("RESOURCE_EXHAUSTED", 8), ("FAILED_PRECONDITION", 9), ("ABORTED", 10), ("OUT_OF_RANGE", 11),
    ("UNIMPLEMENTED", 12), ("INTERNAL", 13), ("UNAVAILABLE", 14), ("DATA_LOSS", 15),
    ("UNAUTHENTICATED", 16)]

/-- The types of a typed call: `grpc_call` stores only its output type. -/
structure CallTypes where
  input : Option String := none
  output : Option String := none
  deriving DecidableEq, Repr

/-- `client$calls$types`. -/
abbrev CallTable := AList (fun _ : String => CallTypes)

/-- `as.numeric` of an id, the nearest `double`. It holds every id below 2^53. -/
def asNumeric (id : Nat) : Nat :=
  if id < 9007199254740992 then id
  else
    let unit := 2 ^ (id.log2 - 52)
    let below := id / unit * unit
    let rest := id - below
    if 2 * rest < unit ∨ 2 * rest = unit ∧ id / unit % 2 = 0 then below else below + unit

/-- `.calls_key`: `sprintf("%.0f", as.numeric(id))`. -/
def callsKey (id : Nat) : String := (asNumeric id).repr

/-- `.calls_set`. -/
def callsSet (table : CallTable) (id : Nat) (value : CallTypes) : CallTable :=
  table.insert (callsKey id) value

/-- `.calls_get`. -/
def callsGet (table : CallTable) (id : Nat) : Option CallTypes := table.lookup (callsKey id)

/-- `.calls_drop`. -/
def callsDrop (table : CallTable) (id : Nat) : CallTable := table.erase (callsKey id)

/-! ### Decorating a batch -/

/-- An event as `grpc_poll` hands it over: `status_name` on a terminal event (`NA` when the code has
no name), `response_message` on a decoded one. -/
structure DecoratedEvent (Message : Type) where
  event : RClEvent
  statusName : Option (Option String) := none
  responseMessage : Option Message := none
  deriving DecidableEq, Repr

/-- The test `terminal` of `decorate_events`. -/
def RClEvent.terminal (event : RClEvent) : Bool :=
  event.kind == "unary" || event.kind == "stream_status"

/-- The `status_name` `decorate_events` sets. -/
def RClEvent.statusName (event : RClEvent) : Option (Option String) :=
  if event.terminal then
    some (event.status.bind fun status =>
      (grpcStatusCodes.find? fun code => code.2 == status).map Prod.fst)
  else none

/-- What `decorate_events` decodes of an event, given the types of its call: the payload and the
type to decode it to. -/
def RClEvent.toDecode (event : RClEvent) (types : Option CallTypes) : Option (Bytes × String) := do
  let output ← types.bind CallTypes.output
  let response ← event.response
  if event.kind == "stream_msg" ||
      (event.kind == "unary" && event.statusName == some (some "OK")) then
    return (response, output)
  else none

section Decorate

variable {Message : Type} (grpcDecode : Bytes → String → Except RError Message)

/-- The function `decorate_events` maps, with the table it leaves behind. -/
def decorateEvent (table : CallTable) (event : RClEvent) :
    CallTable × Except RError (DecoratedEvent Message) :=
  let types := callsGet table event.id
  let dropped := if event.terminal && types.isSome then callsDrop table event.id else table
  match event.toDecode types with
  | none => (dropped, .ok { event, statusName := event.statusName })
  | some (response, output) =>
    match grpcDecode response output with
    | .error error => (table, .error error)
    | .ok message =>
      (dropped, .ok { event, statusName := event.statusName, responseMessage := some message })

/-- `decorate_events`. -/
def decorateEvents (table : CallTable) :
    List RClEvent → CallTable × Except RError (List (DecoratedEvent Message))
  | [] => (table, .ok [])
  | event :: rest =>
    match decorateEvent grpcDecode table event with
    | (table, .error error) => (table, .error error)
    | (table, .ok decorated) =>
      match decorateEvents table rest with
      | (table, .error error) => (table, .error error)
      | (table, .ok others) => (table, .ok (decorated :: others))

/-- What `grpc_poll` and `grpc_await` make of what the native poll returned. -/
def deliver (table : CallTable) :
    Except RError (List RClEvent) → CallTable × Except RError (List (DecoratedEvent Message))
  | .error error => (table, .error error)
  | .ok events => decorateEvents grpcDecode table events

/-! ### What is handed over -/

/-- Everything was handed over: every event of the batch once and in order, and the types of every
call that ended are forgotten. -/
def HandedOver (events : List RClEvent)
    (result : CallTable × Except RError (List (DecoratedEvent Message))) : Prop :=
  (∃ decorated, result.2 = .ok decorated ∧ decorated.map DecoratedEvent.event = events) ∧
    ∀ event ∈ events, event.terminal = true → callsGet result.1 event.id = none

/-- The types of the call of an event, after the events before it in the batch. -/
def typesAfter (table : CallTable) (before : List RClEvent) (event : RClEvent) :
    Option CallTypes :=
  if before.any fun earlier => earlier.terminal && callsKey earlier.id == callsKey event.id then
    none
  else callsGet table event.id

/-- Every event of the batch that is decoded can be decoded. -/
def Decodable (table : CallTable) (events : List RClEvent) : Prop :=
  ∀ before event after, events = before ++ event :: after → ∀ response output,
    event.toDecode (typesAfter table before event) = some (response, output) →
      ∃ message, grpcDecode response output = .ok message

/-- The table after an event that did not fail. -/
def settle (table : CallTable) (event : RClEvent) : CallTable :=
  if event.terminal && (callsGet table event.id).isSome then callsDrop table event.id else table

/-- An event settled forgets the types of its call if it is terminal, and no others. -/
theorem lookup_settle (table : CallTable) (event : RClEvent) (key : String) :
    (settle table event).lookup key =
      if event.terminal && callsKey event.id == key then none else table.lookup key := by
  unfold settle
  cases terminal : event.terminal with
  | false => simp
  | true =>
    by_cases same : callsKey event.id = key
    · subst same
      cases found : callsGet table event.id with
      | none =>
        simp only [Option.isSome_none, Bool.and_false, Bool.false_eq_true, if_false,
          Bool.true_and, beq_self_eq_true, if_true]
        exact found
      | some types => simp [callsDrop]
    · have kept : (callsDrop table event.id).lookup key = table.lookup key :=
        AList.lookup_erase_ne (Ne.symm same)
      split
      · simp [kept, same]
      · simp [same]

theorem typesAfter_cons (table : CallTable) (first : RClEvent) (before : List RClEvent)
    (event : RClEvent) :
    typesAfter table (first :: before) event = typesAfter (settle table first) before event := by
  unfold typesAfter callsGet
  rw [List.any_cons, lookup_settle]
  cases first.terminal && callsKey first.id == callsKey event.id <;> simp

/-- The first event of a batch can be decoded, if it is. -/
def HeadDecodable (table : CallTable) (event : RClEvent) : Prop :=
  ∀ response output, event.toDecode (callsGet table event.id) = some (response, output) →
    ∃ message, grpcDecode response output = .ok message

theorem decodable_cons_iff (table : CallTable) (first : RClEvent) (rest : List RClEvent) :
    Decodable grpcDecode table (first :: rest) ↔
      HeadDecodable grpcDecode table first ∧ Decodable grpcDecode (settle table first) rest := by
  constructor
  · intro decodable
    refine ⟨decodable [] first rest rfl, fun before event after equal => ?_⟩
    rw [← typesAfter_cons]
    exact decodable (first :: before) event after (by rw [equal]; rfl)
  · rintro ⟨head, tail⟩ before event after equal
    rcases before with _ | ⟨other, before⟩
    · obtain ⟨rfl, -⟩ := List.cons.inj equal
      exact head
    · obtain ⟨rfl, rest⟩ := List.cons.inj equal
      rw [typesAfter_cons]
      exact tail before event after rest

/-- One event is handed over with its types settled, exactly when it can be decoded. -/
theorem decorateEvent_of_decodable {table : CallTable} {event : RClEvent}
    (decodable : HeadDecodable grpcDecode table event) :
    ∃ decorated, decorateEvent grpcDecode table event = (settle table event, .ok decorated) ∧
      decorated.event = event := by
  unfold decorateEvent
  simp only
  cases wanted : event.toDecode (callsGet table event.id) with
  | none => exact ⟨_, rfl, rfl⟩
  | some pair =>
    obtain ⟨message, decoded⟩ := decodable pair.1 pair.2 wanted
    simp only [decoded]
    exact ⟨_, rfl, rfl⟩

theorem decorateEvent_of_not_decodable {table : CallTable} {event : RClEvent}
    (fails : ¬ HeadDecodable grpcDecode table event) :
    ∃ error, decorateEvent grpcDecode table event = (table, .error error) := by
  unfold HeadDecodable at fails
  push Not at fails
  obtain ⟨response, output, wanted, raises⟩ := fails
  unfold decorateEvent
  simp only [wanted]
  cases decoded : grpcDecode response output with
  | error error => exact ⟨error, rfl⟩
  | ok message => exact absurd decoded (raises message)

/-- What stays forgotten: types no event of the batch brings back. -/
theorem decorateEvents_lookup_none {table : CallTable} {events : List RClEvent} {key : String}
    (forgotten : table.lookup key = none) :
    (decorateEvents grpcDecode table events).1.lookup key = none := by
  induction events generalizing table with
  | nil => exact forgotten
  | cons first rest inductionHypothesis =>
    rw [decorateEvents]
    by_cases decodable : HeadDecodable grpcDecode table first
    · obtain ⟨decorated, step, -⟩ := decorateEvent_of_decodable grpcDecode decodable
      have settled : (settle table first).lookup key = none := by
        rw [lookup_settle, forgotten, ite_self]
      have later := inductionHypothesis settled
      rw [step]
      simp only
      split
      · rename_i left error result
        rw [result] at later
        exact later
      · rename_i left others result
        rw [result] at later
        exact later
    · obtain ⟨error, step⟩ := decorateEvent_of_not_decodable grpcDecode decodable
      rw [step]
      exact forgotten

/-- A batch is handed over as a whole, with the types of the calls that ended forgotten, exactly
when every event of it that is decoded can be decoded. -/
theorem typed_delivery_iff (table : CallTable) (events : List RClEvent) :
    HandedOver events (deliver grpcDecode table (.ok events)) ↔
      Decodable grpcDecode table events := by
  change HandedOver events (decorateEvents grpcDecode table events) ↔ _
  induction events generalizing table with
  | nil =>
    refine ⟨fun _ before event after equal => absurd equal (by simp), fun _ => ?_⟩
    exact ⟨⟨[], rfl, rfl⟩, by simp⟩
  | cons first rest inductionHypothesis =>
    rw [decodable_cons_iff, ← inductionHypothesis]
    by_cases decodable : HeadDecodable grpcDecode table first
    · obtain ⟨decorated, step, same⟩ := decorateEvent_of_decodable grpcDecode decodable
      have ended : first.terminal = true →
          callsGet (decorateEvents grpcDecode (settle table first) rest).1 first.id = none := by
        intro terminal
        refine decorateEvents_lookup_none grpcDecode ?_
        rw [lookup_settle, terminal]
        simp
      rw [decorateEvents, step]
      simp only
      rcases later : decorateEvents grpcDecode (settle table first) rest with ⟨left, error | others⟩
      · simp [HandedOver]
      · rw [later] at ended
        simp only [HandedOver, Except.ok.injEq, exists_eq_left', List.map_cons, same,
          List.cons.injEq, true_and, List.forall_mem_cons]
        exact ⟨fun whole => ⟨decodable, whole.1, whole.2.2⟩,
          fun whole => ⟨whole.2.1, ended, whole.2.2⟩⟩
    · obtain ⟨error, step⟩ := decorateEvent_of_not_decodable grpcDecode decodable
      rw [decorateEvents, step]
      simp [HandedOver, decodable]

/-! ### What a batch that was handed over carries -/

/-- A decorated event carries what was decoded of it, given the types of its call, and nothing where
there was nothing to decode. -/
structure Decoded (types : Option CallTypes) (decorated : DecoratedEvent Message) : Prop where
  decoded : ∀ response output, decorated.event.toDecode types = some (response, output) →
    ∃ message, grpcDecode response output = .ok message ∧
      decorated.responseMessage = some message
  plain : decorated.event.toDecode types = none → decorated.responseMessage = none

theorem decorateEvent_ok {table left : CallTable} {event : RClEvent}
    {decorated : DecoratedEvent Message}
    (handed : decorateEvent grpcDecode table event = (left, .ok decorated)) :
    left = settle table event ∧ decorated.event = event ∧
      Decoded grpcDecode (callsGet table event.id) decorated := by
  unfold decorateEvent at handed
  simp only at handed
  split at handed
  · rename_i nothing
    obtain ⟨rfl, same⟩ := Prod.mk.inj handed
    obtain rfl := Except.ok.inj same
    exact ⟨rfl, rfl, fun response output wanted =>
      absurd (nothing.symm.trans wanted) (by simp), fun _ => rfl⟩
  · rename_i response output wanted
    split at handed
    · exact absurd (Prod.mk.inj handed).2 (by simp)
    · rename_i message decoded
      obtain ⟨rfl, same⟩ := Prod.mk.inj handed
      obtain rfl := Except.ok.inj same
      refine ⟨rfl, rfl, fun other type found => ?_, fun nothing => ?_⟩
      · obtain ⟨rfl, rfl⟩ := Prod.mk.inj (Option.some.inj (wanted.symm.trans found))
        exact ⟨message, decoded, rfl⟩
      · exact absurd (wanted.symm.trans nothing) (by simp)

/-- A batch that is handed over settles the table event by event, and each of its events is decoded
with the types its call has after the events before it. -/
theorem decorateEvents_ok {table left : CallTable} {events : List RClEvent}
    {decorated : List (DecoratedEvent Message)}
    (handed : decorateEvents grpcDecode table events = (left, .ok decorated)) :
    left = events.foldl settle table ∧ decorated.map DecoratedEvent.event = events ∧
      ∀ before one after, decorated = before ++ one :: after →
        Decoded grpcDecode
          (typesAfter table (before.map DecoratedEvent.event) one.event) one := by
  induction events generalizing table decorated with
  | nil =>
    obtain ⟨rfl, same⟩ := Prod.mk.inj handed
    obtain rfl := Except.ok.inj same
    exact ⟨rfl, rfl, fun before one after equal => absurd equal (by simp)⟩
  | cons event rest inductionHypothesis =>
    rw [decorateEvents] at handed
    split at handed
    · exact absurd (Prod.mk.inj handed).2 (by simp)
    · rename_i middle first stepped
      obtain ⟨rfl, own, decoded⟩ := decorateEvent_ok grpcDecode stepped
      split at handed
      · exact absurd (Prod.mk.inj handed).2 (by simp)
      · rename_i final others later
        obtain ⟨rfl, same⟩ := Prod.mk.inj handed
        obtain rfl := Except.ok.inj same
        obtain ⟨settled, events, each⟩ := inductionHypothesis later
        refine ⟨settled, by rw [List.map_cons, own, events], fun before one after equal => ?_⟩
        rcases before with _ | ⟨head, before⟩
        · obtain ⟨rfl, -⟩ := List.cons.inj equal
          rw [own]
          exact decoded
        · obtain ⟨rfl, tail⟩ := List.cons.inj equal
          rw [List.map_cons, own, typesAfter_cons]
          exact each before one after tail

/-- A batch settled forgets the types of the calls that end in it, and no others. -/
theorem lookup_foldl_settle (table : CallTable) (events : List RClEvent) (key : String) :
    (events.foldl settle table).lookup key =
      if events.any fun event => event.terminal && callsKey event.id == key then none
      else table.lookup key := by
  induction events generalizing table with
  | nil => rfl
  | cons event rest inductionHypothesis =>
    rw [List.foldl_cons, inductionHypothesis, lookup_settle, List.any_cons]
    cases event.terminal && callsKey event.id == key <;> simp

end Decorate

/-- A decoder that knows one payload. -/
def decodeOne (bytes : Bytes) (_ : String) : Except RError Unit :=
  if bytes = [1] then .ok () else .error "could not parse"

/-- Two typed calls. -/
def typedTable : CallTable :=
  callsSet (callsSet ∅ 1 { output := some "Reply" }) 2 { output := some "Reply" }

/-- The response of the first call arrived whole, that of the second cannot be decoded. -/
def mixedEvents : List RClEvent :=
  [{ kind := "unary", id := 1, status := some 0, response := some [1] },
    { kind := "unary", id := 2, status := some 0, response := some [2] }]

/-- The payload of the second call costs the first its event, and its types are forgotten. -/
theorem typed_delivery_lost :
    (deliver decodeOne typedTable (.ok mixedEvents)).2 = .error "could not parse" ∧
      callsGet (deliver decodeOne typedTable (.ok mixedEvents)).1 1 = none ∧
      callsGet (deliver decodeOne typedTable (.ok mixedEvents)).1 2 = callsGet typedTable 2 ∧
      ¬ HandedOver mixedEvents (deliver decodeOne typedTable (.ok mixedEvents)) := by
  have failed : (deliver decodeOne typedTable (.ok mixedEvents)).2 = .error "could not parse" := by
    decide
  refine ⟨failed, by decide, by decide, ?_⟩
  rintro ⟨⟨decorated, returned, -⟩, -⟩
  exact absurd (failed.symm.trans returned) (by simp)

end Rgrpc.Client
