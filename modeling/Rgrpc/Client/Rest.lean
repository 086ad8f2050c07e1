/-
This file proves where the completions of a client lead when R leaves it alone.
They run out, after no more of them than the credit of the client, and whatever
order they come in, the client then waits for R only: no unary call is left, and
every open stream has written all that was sent, has half-closed if it was asked
to, and is paused on a full window of messages R has yet to take. A stream whose
window has no room at all is the exception: it may be paused for good, with
nothing for R to take.
-/

import Rgrpc.Client.Credit

namespace Rgrpc.Client

open Library

/-! ### Rest -/

/-- The guard that lets only the completion thread work. -/
def Completions (_ : RClient) : ClientInput → Prop
  | .unary _ _ | .returned _ _ _ => True
  | _ => False

instance (client : RClient) (input : ClientInput) : Decidable (Completions client input) :=
  match input with
  | .unary _ _ | .returned _ _ _ => .isTrue trivial
  | .callStart _ _ _ _ | .streamStart _ _ _ _ _ | .request _ _ | .cancel _ | .poll _ _
  | .woken _ _ | .close | .joined => .isFalse id

/-- The completion queue of a client has nothing left to return. -/
def RClient.Quiescent (client : RClient) : Prop :=
  client.callArena.Idle ∧ client.streamArena.Idle

instance (client : RClient) : Decidable client.Quiescent :=
  inferInstanceAs (Decidable (_ ∧ _))

/-- A stream that waits for R: it is started and neither broken nor ending, everything sent was
written, a half-close asked for was sent, and its window, if it has any room, is full of messages R
has yet to take. -/
structure WaitsForR (client : RClient) (id : Nat) (stream : StreamState) : Prop where
  started : stream.started = true
  sane : stream.broken = false
  unfinished : stream.finishPosted = false
  reading : stream.readsClosed = false
  written : stream.writeQueue = []
  halfClosed : stream.wdoneRequested = true → stream.wdoneSent = true
  full : 1 ≤ stream.readCap → (client.undelivered id : Int) = stream.readCap

/-- A client that waits for R: no unary call is left, and every stream that is there waits for
R. -/
structure AtRest (client : RClient) : Prop where
  calls : ∀ id, client.calls.lookup id = none
  streams : ∀ id address stream, client.streams.lookup id = some address →
    (client.streamArena.cell address).object = some stream → WaitsForR client id stream

section Rest

variable {client : RClient} {log : List ClientObs}

/-- A stream that is there has not emitted its status. -/
theorem Sound.unended (sound : Sound client log) {address : Nat} {stream : StreamState}
    (object : (client.streamArena.cell address).object = some stream) :
    stream.statusEmitted = false := by
  cases sound.phase (Arena.lt_size_of_object object) with
  | fresh cell silent =>
    have same := (congrArg Cell.object cell).symm.trans object
    obtain rfl := Option.some.inj same
    rfl
  | live other same named ledger unended kept =>
    obtain rfl := Option.some.inj (object.symm.trans same)
    exact unended
  | gone cell deleted lawful =>
    exact absurd ((congrArg Cell.object cell).symm.trans object) (by simp)

/-- A stream with no tag outstanding waits for R. -/
theorem Sound.waitsForR (sound : Sound client log) (tallied : Tallied client client.ready)
    (open_ : client.closed = false) {id address : Nat} {stream : StreamState}
    (found : client.streams.lookup id = some address)
    (object : (client.streamArena.cell address).object = some stream)
    (idle : (client.streamArena.cell address).tags = []) : WaitsForR client id stream := by
  have running : client.shutting = false := sound.closing.trans open_
  have ledger := sound.ledger_of_found found object
  have engaged := sound.engaged object
  have pumped := (lossless_of_run (sound.streams address (Arena.lt_size_of_object object))).pumped
    stream object running
  have start := ledger.start
  have read := ledger.read
  have write := ledger.write
  have wdone := ledger.wdone
  have finish := ledger.finish
  rw [idle, List.count_nil] at start read write wdone finish
  have started : stream.started = true := by
    by_contra early
    rw [if_neg early] at start
    exact absurd start (by simp)
  have down {flag : Bool} (counts : 0 = if flag then 1 else 0) : flag = false := by
    cases flag with
    | true => exact absurd counts (by simp)
    | false => rfl
  have noRead := down read
  have noWrite := down write
  have noHalfClose := down wdone
  have unfinished : stream.finishPosted = false := by
    have none := down finish
    rw [sound.unended object] at none
    simpa using none
  have wanted : stream.wantFinish = false := by
    by_contra asked
    rw [Bool.not_eq_false] at asked
    have waits := engaged.waits running started asked unfinished
    rw [noRead, noWrite, noHalfClose] at waits
    exact absurd waits (by simp)
  have healthy : stream.readsClosed = false ∧ stream.broken = false := by
    constructor
    · by_contra closed
      rw [Bool.not_eq_false] at closed
      exact absurd ((engaged.ending (Or.inl closed)).symm.trans wanted) (by simp)
    · by_contra broken
      rw [Bool.not_eq_false] at broken
      exact absurd ((engaged.ending (Or.inr broken)).symm.trans wanted) (by simp)
  have flushed := pumped started healthy.2 unfinished
  have written : stream.writeQueue = [] := by
    by_contra waiting
    exact absurd ((flushed.1 waiting).symm.trans noWrite) (by simp)
  refine ⟨started, healthy.2, unfinished, healthy.1, written, fun asked => ?_, fun room => ?_⟩
  · have closing := flushed.2 written asked
    rw [noHalfClose, Bool.false_or] at closing
    exact closing
  · have counted := tallied.counted id address stream found object
    exact counted.symm.trans
      ((engaged.paused room running started healthy.1 healthy.2 unfinished).mp noRead)

/-- An open client with nothing outstanding waits for R. -/
theorem Sound.atRest (sound : Sound client log) (tallied : Tallied client client.ready)
    (open_ : client.closed = false) (quiescent : client.Quiescent) : AtRest client := by
  refine ⟨fun id => ?_, fun id address stream found object =>
    sound.waitsForR tallied open_ found object (quiescent.2.tags_eq_nil address)⟩
  cases found : client.calls.lookup id with
  | none => rfl
  | some address =>
    have member := AList.mem_lookup_iff.mp found
    rw [sound.calls_eq_nil quiescent.1] at member
    exact absurd member List.not_mem_nil

/-- A tag of a stream that is outstanding can be returned. -/
theorem clientStep_returned {address : Nat} {op : TagKind} {stream : StreamState}
    (outstanding : op ∈ (client.streamArena.cell address).tags)
    (object : (client.streamArena.cell address).object = some stream) (delivery : Delivery) :
    clientStep client (.returned address op delivery) =
      some (client.handleStream address op delivery stream) := by
  rw [clientStep, RClient.runTag, if_pos (List.contains_iff_mem.mpr outstanding), object]

/-- The tag of a unary call that is outstanding can be returned. -/
theorem clientStep_unary {address : Nat} {call : CallState}
    (cell : client.callArena.cell address = ⟨some call, [.unary]⟩) (delivery : Delivery) :
    clientStep client (.unary address delivery) =
      some (client.handleUnary address delivery call) := by
  rw [clientStep, RClient.runUnary, if_pos (by rw [cell]; rfl), cell]

/-- A client with a tag outstanding can handle a completion, which uses up credit. -/
theorem Sound.progress (sound : Sound client log) (busy : ¬client.Quiescent) :
    ∃ input after news, Completions client input ∧
      clientStep client input = some (after, news) ∧ after.credit < client.credit := by
  rw [RClient.Quiescent, not_and_or] at busy
  rcases busy with busy | busy
  · obtain ⟨address, ⟨⟩, outstanding⟩ := Arena.exists_tag_of_not_idle busy
    obtain ⟨call, cell, -⟩ := sound.call_of_mem outstanding
    exact ⟨.unary address { ok := true }, _, _, trivial, clientStep_unary cell _,
      (credit_handleUnary sound { ok := true } _ outstanding).2⟩
  · obtain ⟨address, op, outstanding⟩ := Arena.exists_tag_of_not_idle busy
    obtain ⟨stream, object, -⟩ := sound.stream_of_mem outstanding
    exact ⟨.returned address op { ok := true }, _, _, trivial,
      clientStep_returned outstanding object _,
      (credit_handleStream sound { ok := true } outstanding object).2⟩

/-- A completion is the handling of a tag that was outstanding. -/
theorem Sound.completion_cases (sound : Sound client log) {input : ClientInput} {after : RClient}
    {news : List ClientObs} (only : Completions client input)
    (taken : clientStep client input = some (after, news)) :
    (∃ address delivery call, .unary ∈ (client.callArena.cell address).tags ∧
        client.handleUnary address delivery call = (after, news)) ∨
      ∃ address op delivery stream, op ∈ (client.streamArena.cell address).tags ∧
        (client.streamArena.cell address).object = some stream ∧
        client.handleStream address op delivery stream = (after, news) := by
  cases input with
  | unary address delivery =>
    by_cases outstanding : .unary ∈ (client.callArena.cell address).tags
    · obtain ⟨call, cell, -⟩ := sound.call_of_mem outstanding
      rw [clientStep_unary cell] at taken
      exact Or.inl ⟨address, delivery, call, outstanding, Option.some.inj taken⟩
    · rw [clientStep, RClient.runUnary, if_neg (by simp [outstanding])] at taken
      exact absurd taken (by simp)
  | returned address op delivery =>
    by_cases outstanding : op ∈ (client.streamArena.cell address).tags
    · obtain ⟨stream, object, -⟩ := sound.stream_of_mem outstanding
      rw [clientStep_returned outstanding object] at taken
      exact Or.inr ⟨address, op, delivery, stream, outstanding, object, Option.some.inj taken⟩
    · rw [clientStep, RClient.runTag, if_neg (by simp [outstanding])] at taken
      exact absurd taken (by simp)
  | _ => exact absurd only id

/-- A completion is not granted for: it is paid by the credit. -/
theorem Sound.completion (sound : Sound client log) {input : ClientInput} {after : RClient}
    {news : List ClientObs} (only : Completions client input)
    (taken : clientStep client input = some (after, news)) :
    after.closed = client.closed ∧
      after.credit + weigh ClientObs.completes news ≤ client.credit := by
  rcases sound.completion_cases only taken with ⟨address, delivery, call, outstanding, equal⟩ |
    ⟨address, op, delivery, stream, outstanding, object, equal⟩
  · obtain ⟨once, paid⟩ := credit_handleUnary sound delivery call outstanding
    have open_ : (client.handleUnary address delivery call).1.closed = client.closed := rfl
    rw [equal] at once paid open_
    exact ⟨open_, by rw [once]; exact paid⟩
  · obtain ⟨once, paid⟩ := credit_handleStream sound delivery outstanding object
    have open_ : (client.handleStream address op delivery stream).1.closed = client.closed := rfl
    rw [equal] at once paid open_
    exact ⟨open_, by rw [once]; exact paid⟩

end Rest

/-- Left alone by R, an open client comes to rest: its completions can be handled until none is
outstanding, there are never more of them than its credit, and wherever they leave nothing
outstanding the client waits for R only, but for streams whose read buffer has no room. -/
theorem comes_to_rest (wake : WakeHandle) (client : RClient) (log : List ClientObs)
    (run : (clientMachine wake).Run Machine.Free client log) (open_ : client.closed = false) :
    (∃ later more, ((clientMachine wake).startedAt client).Run Completions later more ∧
        later.Quiescent) ∧
      ∀ later more, ((clientMachine wake).startedAt client).Run Completions later more →
        later.credit + weigh ClientObs.completes more ≤ client.credit ∧
          (later.Quiescent → AtRest later) := by
  constructor
  · refine run.driven RClient.credit (fun _ => True) RClient.Quiescent
      (fun before _ busy => ?_) trivial
    obtain ⟨input, after, news, only, taken, lower⟩ := (sound_of_run before).progress busy
    exact ⟨input, after, news, only, taken, trivial, lower⟩
  · intro later more on
    obtain ⟨stillOpen, spent⟩ := run.amortised (fun state => state.closed = false) RClient.credit
      ClientObs.completes (fun _ => 0)
      (fun before open_ only taken => by
        obtain ⟨closed, paid⟩ := (sound_of_run before).completion only taken
        exact ⟨closed.trans open_, paid.trans (Nat.le_add_right _ _)⟩) open_ on
    rw [weigh_zero] at spent
    have whole := run.trans on.free
    exact ⟨spent, (sound_of_run whole).atRest (tallied_of_run whole) stillOpen⟩

/-- A call, and a stream with room for two messages. -/
def restInputs : List ClientInput :=
  [.callStart (.text [47]) [] {} 0, .streamStart (.text [47]) {} 0 2 16]

/-- The call is answered, and the stream reads until its window is full. -/
def restCompletions : List ClientInput :=
  [.returned 0 .start { ok := true },
    .returned 0 .read { ok := true, message := .ofRaw [1] }, .unary 0 { ok := true },
    .returned 0 .read { ok := true, message := .ofRaw [2] }]

theorem comes_to_rest_paused : ∃ client log later more,
    (clientMachine ⟨16, 0⟩).Run Machine.Free client log ∧ client.closed = false ∧
      ((clientMachine ⟨16, 0⟩).startedAt client).Run Completions later more ∧
      client.credit = 5 ∧ weigh ClientObs.completes more = 4 ∧ later.Quiescent ∧
      AtRest later := by
  have run := Machine.run_of_exec (show (clientMachine ⟨16, 0⟩).exec Machine.Free _ restInputs =
    some _ from rfl)
  have on := Machine.run_of_exec (show ((clientMachine ⟨16, 0⟩).startedAt _).exec Completions
    ((RClient.withCall { wake := ⟨16, 0⟩ }).withStream 2 16) restCompletions = some _ from rfl)
  exact ⟨_, _, _, _, run, rfl, on, rfl, rfl, by decide,
    ((comes_to_rest ⟨16, 0⟩ _ _ run rfl).2 _ _ on).2 (by decide)⟩

end Rgrpc.Client
