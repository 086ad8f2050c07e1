/-
This file adds the end of a call to the two ends and the transport of
`Rgrpc/EndToEnd.lean`. The terminal operation of the server offers its trailer
to the transport after the last message. The trailer is sent once every message
before it was, and it is gone when an operation fails before that.

Of gRPC it is assumed that it makes up no OK status: when `Finish` delivers one,
it is the status the server sent, with the trailing metadata of the server in
some order, and every message on its way was read before. Any other status may
come at any time.
-/

import Rgrpc.Client.Ending
import Rgrpc.EndToEnd
import Rgrpc.Server.Ending

namespace Rgrpc

open Library

/-! ### The composed system with its end -/

/-- A link, and the direction in which the trailer travels. -/
structure Exchange where
  link : Link
  trailers : Channel Server.Trailer := {}

/-- What can happen: a step of the link, or the transmission of the trailer. -/
inductive ExchangeInput
  | link (input : LinkInput)
  | transmitTrailer

/-- The step of the composed system: what the server ends with is offered, and transmitted behind
every message. -/
def exchangeStep (exchange : Exchange) : ExchangeInput → Option (Exchange × List LinkObs)
  | .link input =>
    (linkStep exchange.link input).map fun stepped =>
      ({ link := stepped.1
         trailers := (exchange.trailers.fail (Server.failed (serverLog stepped.2))).offer
           (Server.trailers (serverLog stepped.2)) },
        stepped.2)
  | .transmitTrailer =>
    if exchange.link.downward.offered.isEmpty then
      exchange.trailers.transmit.map fun trailers => ({ exchange with trailers := trailers }, [])
    else none

/-- A stream and a call from the moment they are allocated. -/
def exchangeMachine : Machine Exchange ExchangeInput LinkObs where
  start := { link := linkMachine.start }
  opening := linkMachine.opening
  step := exchangeStep

/-- What `Finish` delivers is the given trailer, which was sent, after every message was read. -/
structure Delivers (exchange : Exchange) (delivery : Client.Delivery) (trailer : Server.Trailer) :
    Prop where
  sent : trailer ∈ exchange.trailers.transit
  status : trailer.status = delivery.status
  metadata : trailer.metadata.Perm delivery.trailingMd
  drained : exchange.link.downward.transit = []

/-- The steps gRPC can take: an OK status is one that the server sent. -/
def Honest (exchange : Exchange) : ExchangeInput → Prop
  | .link (.client (.returned .finish delivery)) =>
    delivery.status.code = 0 → ∃ trailer, Delivers exchange delivery trailer
  | _ => True

theorem exists_delivers_iff (exchange : Exchange) (delivery : Client.Delivery) :
    (∃ trailer, Delivers exchange delivery trailer) ↔
      exchange.link.downward.transit = [] ∧ ∃ trailer ∈ exchange.trailers.transit,
        trailer.status = delivery.status ∧ trailer.metadata.Perm delivery.trailingMd := by
  constructor
  · rintro ⟨trailer, delivers⟩
    exact ⟨delivers.drained, trailer, delivers.sent, delivers.status, delivers.metadata⟩
  · rintro ⟨drained, trailer, sent, status, metadata⟩
    exact ⟨trailer, sent, status, metadata, drained⟩

instance (exchange : Exchange) (delivery : Client.Delivery) :
    Decidable (∃ trailer, Delivers exchange delivery trailer) :=
  decidable_of_iff' _ (exists_delivers_iff exchange delivery)

instance (exchange : Exchange) (input : ExchangeInput) : Decidable (Honest exchange input) :=
  match input with
  | .link (.client (.returned .finish delivery)) =>
    inferInstanceAs (Decidable (delivery.status.code = 0 → _))
  | .link (.client (.returned .start _)) => isTrue trivial
  | .link (.client (.returned .read _)) => isTrue trivial
  | .link (.client (.returned .write _)) => isTrue trivial
  | .link (.client (.returned .wdone _)) => isTrue trivial
  | .link (.client (.opened _ _ _)) => isTrue trivial
  | .link (.client (.request _)) => isTrue trivial
  | .link (.client .taken) => isTrue trivial
  | .link (.client .shut) => isTrue trivial
  | .link (.client .swept) => isTrue trivial
  | .link (.server _) => isTrue trivial
  | .link .transmitUp => isTrue trivial
  | .link .transmitDown => isTrue trivial
  | .transmitTrailer => isTrue trivial

/-! ### One step of the link -/

section Quiet

variable {link after : Link} {log news : List LinkObs} {input : LinkInput}

/-- What one step of the link is: one end steps, or a message moves. -/
theorem linkStep_cases (taken : linkStep link input = some (after, news)) :
    (∃ own stepped downward, input = .client own ∧
        Client.streamMachine.step link.client own = some stepped ∧
        link.downward.take (Client.arrived stepped.2) = some downward ∧
        after.downward = downward ∧ clientLog news = stepped.2 ∧ serverLog news = []) ∨
      (∃ own stepped, input = .server own ∧
        Server.callMachine.step link.server own = some stepped ∧
        after.downward = (link.downward.fail (Server.failed stepped.2)).offer
          ((Server.carried stepped.2).map grpcByteBufferToString) ∧
        clientLog news = [] ∧ serverLog news = stepped.2) ∨
      (after.downward = link.downward ∧ news = []) ∨
      link.downward.transmit = some after.downward ∧ news = [] := by
  cases input with
  | client own =>
    obtain ⟨stepped, step, rest⟩ := Option.bind_eq_some_iff.mp taken
    obtain ⟨downward, read, equal⟩ := Option.map_eq_some_iff.mp rest
    simp only [Prod.mk.injEq] at equal
    obtain ⟨rfl, rfl⟩ := equal
    refine Or.inl ⟨own, stepped, downward, rfl, step, read, rfl, ?_, ?_⟩
    · exact clientLog_client [] stepped.2
    · exact serverLog_client [] stepped.2
  | server own =>
    obtain ⟨stepped, step, rest⟩ := Option.bind_eq_some_iff.mp taken
    obtain ⟨upward, read, equal⟩ := Option.map_eq_some_iff.mp rest
    simp only [Prod.mk.injEq] at equal
    obtain ⟨rfl, rfl⟩ := equal
    refine Or.inr (Or.inl ⟨own, stepped, rfl, step, rfl, ?_, ?_⟩)
    · exact clientLog_server [] stepped.2
    · exact serverLog_server [] stepped.2
  | transmitUp =>
    obtain ⟨upward, moved, equal⟩ := Option.map_eq_some_iff.mp taken
    simp only [Prod.mk.injEq] at equal
    obtain ⟨rfl, rfl⟩ := equal
    exact Or.inr (Or.inr (Or.inl ⟨rfl, rfl⟩))
  | transmitDown =>
    obtain ⟨downward, moved, equal⟩ := Option.map_eq_some_iff.mp taken
    simp only [Prod.mk.injEq] at equal
    obtain ⟨rfl, rfl⟩ := equal
    exact Or.inr (Or.inr (Or.inr ⟨moved, rfl⟩))

end Quiet

/-! ### Every run of the composed system -/

/-- The end of a call in the composed system: the link behaves as it does alone, the trailer is
carried like a message, and once it was sent every message was sent before it. A status event
with code OK is the trailer, and comes after every message. -/
structure Closes (exchange : Exchange) (log : List LinkObs) : Prop where
  linked : Linked exchange.link log
  carries : exchange.trailers.Carries [] (Server.trailers (serverLog log))
    (Server.failed (serverLog log))
  pending : exchange.trailers.offered ≠ [] → Server.failed (serverLog log) = false
  behind : exchange.trailers.transit ≠ [] → exchange.link.downward.offered = [] ∧
    Client.arrived (clientLog log) ++ exchange.link.downward.transit =
      (Server.carried (serverLog log)).map grpcByteBufferToString
  reported : ∀ event, .pushed event ∈ clientLog log → event.kind = .status → event.status = 0 →
    ∃ delivery trailer, Client.Reports event delivery ∧ Delivers exchange delivery trailer

section Closes

variable {exchange : Exchange} {log news : List LinkObs} {after : Link} {input : LinkInput}

theorem closes_start : Closes exchangeMachine.start exchangeMachine.opening :=
  ⟨linked_start, Channel.carries_nil _, fun none => absurd rfl none, fun none => absurd rfl none,
    fun _ absurdity => absurd absurdity List.not_mem_nil⟩

theorem Closes.mem_trailers (closes : Closes exchange log) {trailer : Server.Trailer}
    (sent : trailer ∈ exchange.trailers.transit) : trailer ∈ Server.trailers (serverLog log) := by
  refine closes.carries.inOrder.subset ?_
  rw [List.nil_append]
  exact List.mem_append_left _ sent

/-- Once the trailer was sent, a step puts no message on the wire, and what it reads was on its
way. -/
theorem Closes.quiet (closes : Closes exchange log) (sent : exchange.trailers.transit ≠ [])
    (taken : linkStep exchange.link input = some (after, news)) :
    after.downward.offered = [] ∧ Server.carried (serverLog news) = [] ∧
      Client.arrived (clientLog news) ++ after.downward.transit =
        exchange.link.downward.transit := by
  obtain ⟨nothing, -⟩ := closes.behind sent
  rcases linkStep_cases taken with
    ⟨own, stepped, downward, rfl, -, read, rfl, same, silent⟩ |
    ⟨own, stepped, rfl, step, moved, silent, same⟩ | ⟨still, rfl⟩ | ⟨moved, rfl⟩
  · obtain ⟨offered, rest⟩ := Channel.offered_take read
    rw [same, silent]
    exact ⟨offered.trans nothing, rfl, rest⟩
  · obtain ⟨trailer, member⟩ := List.exists_mem_of_ne_nil _ sent
    have ended := Server.posts_finish_of_trailers
      (List.ne_nil_of_mem (closes.mem_trailers member))
    have order := (Server.phase_of_run (closes.linked.server.next trivial step)).lawful
    obtain ⟨quiet, -⟩ := Server.silent_of_finished order ended
    rw [moved, silent, same, quiet, Channel.fail_of_offered_eq_nil nothing]
    exact ⟨by simp [Channel.offer, nothing], rfl, rfl⟩
  · rw [still]
    exact ⟨nothing, rfl, rfl⟩
  · obtain ⟨first, waiting, -⟩ := Channel.transmit_eq_some moved
    exact absurd (nothing.symm.trans waiting) (by simp)

theorem clientLog_append : clientLog (log ++ news) = clientLog log ++ clientLog news :=
  List.filterMap_append

theorem serverLog_append : serverLog (log ++ news) = serverLog log ++ serverLog news :=
  List.filterMap_append

/-- A step that puts a trailer on the wire finds that no operation failed. -/
theorem Closes.unfailed (closes : Closes exchange log)
    (taken : linkStep exchange.link input = some (after, news))
    (ends : Server.trailers (serverLog news) ≠ []) :
    Server.failed (serverLog (log ++ news)) = false := by
  rcases linkStep_cases taken with
    ⟨own, stepped, downward, -, -, -, -, -, silent⟩ | ⟨own, stepped, -, step, -, -, same⟩ |
    ⟨-, rfl⟩ | ⟨-, rfl⟩
  · rw [silent] at ends
    exact absurd rfl ends
  · rw [same] at ends
    rw [serverLog_append, same]
    exact (Server.flow_of_run closes.linked.server).trailers_step step ends
  · exact absurd rfl ends
  · exact absurd rfl ends

/-- A status event with code OK that a step pushes is a trailer that was sent. -/
theorem Closes.delivers (taken : linkStep exchange.link input = some (after, news))
    (honest : Honest exchange (.link input)) {event : Client.ClEvent}
    (pushed : .pushed event ∈ clientLog news) (kind : event.kind = .status)
    (ok : event.status = 0) :
    ∃ delivery trailer, Client.Reports event delivery ∧ Delivers exchange delivery trailer := by
  rcases linkStep_cases taken with
    ⟨own, stepped, downward, rfl, step, -, -, same, -⟩ | ⟨own, stepped, -, -, -, silent, -⟩ |
    ⟨-, rfl⟩ | ⟨-, rfl⟩
  · rw [same] at pushed
    obtain ⟨delivery, rfl, reports⟩ := Client.reports_of_step step pushed kind
    obtain ⟨trailer, delivers⟩ := honest (reports.status.symm.trans ok)
    exact ⟨delivery, trailer, reports, delivers⟩
  · rw [silent] at pushed
    exact absurd pushed List.not_mem_nil
  · exact absurd pushed List.not_mem_nil
  · exact absurd pushed List.not_mem_nil

theorem Closes.link (closes : Closes exchange log)
    (taken : linkStep exchange.link input = some (after, news))
    (honest : Honest exchange (.link input)) :
    Closes
      { link := after
        trailers := (exchange.trailers.fail (Server.failed (serverLog news))).offer
          (Server.trailers (serverLog news)) }
      (log ++ news) := by
  have failing : Server.failed (serverLog (log ++ news)) =
      (Server.failed (serverLog log) || Server.failed (serverLog news)) := by
    rw [serverLog_append, Server.failed_append]
  have drained {delivery : Client.Delivery} {trailer : Server.Trailer}
      (delivers : Delivers exchange delivery trailer) : Delivers
        { link := after
          trailers := (exchange.trailers.fail (Server.failed (serverLog news))).offer
            (Server.trailers (serverLog news)) } delivery trailer := by
    obtain ⟨-, -, rest⟩ := closes.quiet (List.ne_nil_of_mem delivers.sent) taken
    rw [delivers.drained] at rest
    refine ⟨?_, delivers.status, delivers.metadata, (List.append_eq_nil_iff.mp rest).2⟩
    rw [Channel.transit_offer, Channel.transit_fail]
    exact delivers.sent
  refine ⟨closes.linked.step taken, ?_, fun waiting => ?_, fun sent => ?_,
    fun event pushed kind ok => ?_⟩
  · rw [failing, serverLog_append, Server.trailers_append]
    exact (closes.carries.fail _).offer fun ends => failing ▸ closes.unfailed taken ends
  · by_cases ends : Server.trailers (serverLog news) = []
    · rw [ends] at waiting
      change (exchange.trailers.fail _).offered ++ [] ≠ [] at waiting
      rw [List.append_nil] at waiting
      rw [failing]
      cases lost : Server.failed (serverLog news) with
      | true =>
        rw [lost] at waiting
        exact absurd rfl waiting
      | false =>
        rw [lost] at waiting
        rw [closes.pending waiting]
        rfl
    · exact closes.unfailed taken ends
  · rw [Channel.transit_offer, Channel.transit_fail] at sent
    obtain ⟨nothing, silent, rest⟩ := closes.quiet sent taken
    refine ⟨nothing, ?_⟩
    rw [clientLog_append, Client.arrived_append, List.append_assoc, rest, serverLog_append,
      Server.carried_append, silent, List.append_nil]
    exact (closes.behind sent).2
  · rw [clientLog_append, List.mem_append] at pushed
    rcases pushed with before | now
    · obtain ⟨delivery, trailer, reports, delivers⟩ := closes.reported event before kind ok
      exact ⟨delivery, trailer, reports, drained delivers⟩
    · obtain ⟨delivery, trailer, reports, delivers⟩ := Closes.delivers taken honest now kind ok
      exact ⟨delivery, trailer, reports, drained delivers⟩

/-- The trailer is sent behind every message, while nothing failed. -/
theorem Closes.transmit (closes : Closes exchange log)
    (nothing : exchange.link.downward.offered = []) {trailers : Channel Server.Trailer}
    (moved : exchange.trailers.transmit = some trailers) :
    Closes { exchange with trailers := trailers } log := by
  obtain ⟨first, waiting, sent⟩ := Channel.transmit_eq_some moved
  have alive := closes.pending (by rw [waiting]; simp)
  have whole := closes.linked.downward.whole alive
  rw [nothing, List.append_nil] at whole
  refine ⟨closes.linked, closes.carries.transmit moved, fun _ => alive,
    fun _ => ⟨nothing, whole⟩, fun event pushed kind ok => ?_⟩
  obtain ⟨delivery, trailer, reports, delivers⟩ := closes.reported event pushed kind ok
  refine ⟨delivery, trailer, reports, ?_, delivers.status, delivers.metadata, delivers.drained⟩
  rw [sent]
  exact List.mem_append_left _ delivers.sent

end Closes

theorem closes_of_run {exchange : Exchange} {log : List LinkObs}
    (run : exchangeMachine.Run Honest exchange log) : Closes exchange log := by
  refine run.invariant closes_start fun {state log input after news} _ closes honest taken => ?_
  cases input with
  | link input =>
    obtain ⟨stepped, step, equal⟩ := Option.map_eq_some_iff.mp taken
    simp only [Prod.mk.injEq] at equal
    obtain ⟨rfl, rfl⟩ := equal
    exact closes.link step honest
  | transmitTrailer =>
    change (if _ then _ else none) = _ at taken
    split at taken
    · rename_i nothing
      obtain ⟨trailers, moved, equal⟩ := Option.map_eq_some_iff.mp taken
      simp only [Prod.mk.injEq] at equal
      obtain ⟨rfl, rfl⟩ := equal
      rw [List.append_nil]
      exact closes.transmit (List.isEmpty_iff.mp nothing) moved
    · exact absurd taken (by simp)

/-! ### What an OK status tells R -/

/-- What an OK status stands for, at the two ends: the request of the server it answers, and what
became of the messages before it. -/
structure Concluded (event : Client.ClEvent) (request : Server.RCall) (log : List LinkObs) :
    Prop where
  accepted : Server.terminals (serverLog log) = [request]
  terminal : request.isTerminal = true
  status : request.status = .ok
  message : event.message = []
  trailing : request.trailing.Perm event.trailingMd
  everything : Client.arrived (clientLog log) =
    (Server.carried (serverLog log)).map grpcByteBufferToString
  whole : request.aborts = false →
    Client.arrived (clientLog log) = (Server.promised (serverLog log)).map some
  handed : Client.broke (clientLog log) = false →
    Client.messages (clientLog log) = Client.arrived (clientLog log)

theorem status_eq_ok {request : Server.RCall} (code : request.status.code = 0) :
    request.status = .ok := by
  have requested (code : Int) (message : Option RString)
      (zero : (Server.requestedStatus code message).code = 0) :
      Server.requestedStatus code message = .ok := by
    unfold Server.requestedStatus at zero ⊢
    split at zero
    · rename_i same
      rw [if_pos same]
    · rename_i other
      exact absurd zero other
  cases request with
  | reply args => exact requested args.status args.message code
  | finish args => exact requested args.status args.message code
  | _ => rfl

/-- An OK status of an exchange stands for the request of the server it answers. -/
theorem Closes.concluded {exchange : Exchange} {log : List LinkObs}
    (closes : Closes exchange log) {event : Client.ClEvent} (pushed : .pushed event ∈ clientLog log)
    (kind : event.kind = .status) (ok : event.status = 0) :
    ∃ request, Concluded event request log := by
  obtain ⟨delivery, trailer, reports, delivers⟩ := closes.reported event pushed kind ok
  have server := closes.linked.server
  obtain ⟨request, accepted, terminal, asked, drains⟩ := Server.ending_of_trailer
    (Server.outflow_of_run server).emitted.lawful (Server.phase_of_run server).lawful
    (closes.mem_trailers delivers.sent)
  have everything := (closes.behind (List.ne_nil_of_mem delivers.sent)).2
  rw [delivers.drained, List.append_nil] at everything
  have same : request.status = delivery.status := by
    rw [← delivers.status, asked]
    rfl
  have fine := status_eq_ok (by rw [same, ← reports.status]; exact ok)
  refine ⟨request, accepted, terminal, fine, ?_, ?_, everything, fun whole => ?_, fun sane => ?_⟩
  · rw [reports.message, ← same, fine]
    rfl
  · rw [reports.trailingMd, show request.trailing = trailer.metadata by rw [asked]; rfl]
    exact delivers.metadata
  · rw [everything, drains whole, dumped_ofRaw]
  · exact Client.messages_of_unbroken closes.linked.client sane

/-- An OK status is honest, end to end: when R is told that a stream ended with OK, the server had
accepted one reply or finish with that status, R is given its trailing metadata, and every message
the server put on the wire had arrived; unless the server gave some up, these are all the messages
it accepted, and unless an operation broke the stream, R was handed them all. -/
theorem ok_concludes (exchange : Exchange) (log : List LinkObs)
    (run : exchangeMachine.Run Honest exchange log) (event : Client.ClEvent)
    (pushed : .pushed event ∈ clientLog log) (kind : event.kind = .status)
    (ok : event.status = 0) : ∃ request, Concluded event request log :=
  (closes_of_run run).concluded pushed kind ok

/-- A message is answered with a message and an OK reply with two pairs of metadata. -/
def concludedInputs : List ExchangeInput :=
  [.link (.client (.opened 1 16 16)),
    .link (.client (.returned .start { ok := true })),
    .link (.client (.request (.send [1]))),
    .link .transmitUp,
    .link (.server (.returned .accept { ok := true } 1)),
    .link (.server (.returned .read { ok := true, message := .ofRaw [1] } 2)),
    .link (.server (.request (.send [2]))),
    .link (.server (.request (.reply ⟨some [3], 0, none,
      some [(.text [98], .text [1]), (.text [97], .text [2])]⟩))),
    .link (.server (.returned .write { ok := true } 2)),
    .link .transmitDown,
    .link .transmitDown,
    .transmitTrailer,
    .link (.client (.returned .read { ok := true, message := .ofRaw [2] })),
    .link (.client (.returned .write { ok := true })),
    .link (.client (.returned .read { ok := true, message := .ofRaw [3] })),
    .link (.client (.returned .read { ok := false })),
    .link (.client (.returned .finish
      { ok := true, status := .ok, trailingMd := [([97], [2]), ([98], [1])] }))]

def concludedEvent : Client.ClEvent where
  kind := .status
  id := 1
  trailingMd := [([97], [2]), ([98], [1])]

theorem ok_concludes_answered : ∃ exchange log,
    exchangeMachine.Run Honest exchange log ∧ .pushed concludedEvent ∈ clientLog log ∧
      Client.messages (clientLog log) = [some [2], some [3]] ∧
      ∃ request, Concluded concludedEvent request log := by
  have run := Machine.run_of_exec (show exchangeMachine.exec Honest exchangeMachine.start
    concludedInputs = some _ from rfl)
  exact ⟨_, _, run, by decide, by decide,
    ok_concludes _ _ run concludedEvent (by decide) rfl rfl⟩

end Rgrpc
