/-
This file says what the end of a server call tells its peer. The terminal
operation carries a trailer: the status of the call and its trailing metadata.
It is the last thing a call puts on the wire, and it is put there only while no
operation failed. The trailer is the one of the terminal that R was told is
accepted, and unless that terminal was abortive, every message R was told is
accepted is on the wire before it.
-/

import Rgrpc.Server.Flow

namespace Rgrpc.Server

open Library

/-! ### What a log says of the end of a call -/

/-- What a call ends with: its status and its trailing metadata. -/
structure Trailer where
  status : Status
  metadata : MdPairs
  deriving DecidableEq, Repr

/-- The trailer an operation carries: that of a terminal operation. -/
def SvPost.trailer : SvPost → Option Trailer
  | .writeAndFinish _ status trailing => some ⟨status, trailing⟩
  | .finish status trailing => some ⟨status, trailing⟩
  | _ => none

/-- The trailers put on the wire, in order. -/
def trailers (log : List CallObs) : List Trailer :=
  log.filterMap fun
    | .posted post => post.trailer
    | _ => none

/-- The trailer a terminal request asks for. -/
def RCall.trailer (request : RCall) : Trailer := ⟨request.status, request.trailing⟩

@[simp]
theorem trailers_append (log more : List CallObs) :
    trailers (log ++ more) = trailers log ++ trailers more :=
  List.filterMap_append

theorem trailer_terminalPost (request : RCall) :
    request.terminalPost.trailer = some request.trailer := by
  rw [RCall.terminalPost]
  split <;> rfl

theorem op_of_trailer {post : SvPost} {trailer : Trailer} (carries : post.trailer = some trailer) :
    post.op = .finish := by
  cases post with
  | writeAndFinish message status trailing => rfl
  | finish status trailing => rfl
  | _ => exact absurd carries (by simp [SvPost.trailer])

/-- A trailer in a log is where a terminal operation was posted. -/
theorem split_of_trailers {log : List CallObs} {trailer : Trailer}
    (member : trailer ∈ trailers log) :
    ∃ before post after, log = before ++ .posted post :: after ∧ post.trailer = some trailer := by
  obtain ⟨entry, inside, found⟩ := List.mem_filterMap.mp member
  obtain ⟨before, after, equal⟩ := List.append_of_mem inside
  cases entry with
  | posted post => exact ⟨before, post, after, equal, found⟩
  | _ => exact absurd found (by simp)

theorem posts_finish_of_trailers {log : List CallObs} (ended : trailers log ≠ []) :
    0 < posts .finish log := by
  obtain ⟨trailer, member⟩ := List.exists_mem_of_ne_nil _ ended
  obtain ⟨before, post, after, rfl, carries⟩ := split_of_trailers member
  rw [posts_append, ← List.singleton_append, posts_append, posts_posted,
    if_pos (op_of_trailer carries)]
  omega

/-! ### Nothing follows a trailer -/

/-- Once a terminal was posted, nothing more is put on the wire. -/
theorem silent_of_finished {log news : List CallObs}
    (order : Lawful Disciplined (log ++ news)) (ended : 0 < posts .finish log) :
    carried news = [] ∧ trailers news = [] := by
  have unposted {before after : List CallObs} {post : SvPost} (other : post ≠ .requestCall)
      (equal : news = before ++ .posted post :: after) : False := by
    have rule := order (log ++ before) (.posted post) after (by rw [equal, List.append_assoc])
    have none : posts .finish (log ++ before) = 0 := by
      cases post with
      | requestCall => exact absurd rfl other
      | _ => exact rule.2.1
    rw [posts_append] at none
    omega
  constructor
  · refine List.filterMap_eq_nil_iff.mpr fun entry member => ?_
    obtain ⟨before, after, equal⟩ := List.append_of_mem member
    rcases entry with (_ | _ | _ | _ | _) | _ | _ | _ | _
    · rfl
    · rfl
    · exact (unposted (by simp) equal).elim
    · exact (unposted (by simp) equal).elim
    · rfl
    · rfl
    · rfl
    · rfl
    · rfl
  · by_contra some
    obtain ⟨trailer, member⟩ := List.exists_mem_of_ne_nil _ some
    obtain ⟨before, post, after, equal, carries⟩ := split_of_trailers member
    refine unposted ?_ equal
    rintro rfl
    exact absurd carries (by simp [SvPost.trailer])

/-! ### A trailer is put on the wire while nothing failed -/

section Alive

variable (shutting : Bool) (call : SvCall)

theorem trailers_pumpLocked (ends : trailers (pumpLocked shutting call).2 ≠ []) :
    call.dead = false ∧ call.finishPosted = false := by
  rcases pumpLocked_cases shutting call with
    ⟨same, -⟩ | ⟨-, alive, running, -, -⟩
  · rw [same] at ends
    exact absurd rfl ends
  · exact ⟨alive, running⟩

/-- Only the handler of a write that succeeded posts a terminal, on a call that is alive. -/
theorem trailers_runCall (nextId : Nat) (op : SvOp) (delivery : Delivery)
    (ends : trailers (runCall shutting nextId op delivery call).2 ≠ []) :
    failed [.returned op delivery.ok delivery.message] = false ∧ call.dead = false ∧
      call.finishPosted = false := by
  cases op with
  | accept =>
    simp only [runCall, runAccept] at ends
    split at ends
    · split at ends <;> exact absurd rfl ends
    · exact absurd rfl ends
  | read =>
    simp only [runCall, runRead] at ends
    split at ends <;> split at ends <;> exact absurd rfl ends
  | write =>
    simp only [runCall, runWrite] at ends
    split at ends
    · rename_i fine
      rw [Bool.and_eq_true] at fine
      rw [trailers_append] at ends
      have pumped := trailers_pumpLocked shutting
        { call with
          pending := call.pending - 1
          writeInflight := false
          writeQueue := call.writeQueue.tail } (by
        intro none
        refine ends ?_
        rw [none, List.append_nil]
        split <;> rfl)
      rw [fine.1]
      exact ⟨rfl, pumped⟩
    · exact absurd rfl ends
  | done =>
    simp only [runCall, runDone] at ends
    split at ends <;> exact absurd rfl ends
  | finish => exact absurd rfl ends

theorem trailers_answer (request : RCall)
    (ends : trailers (request.answer shutting call).obs ≠ []) :
    call.dead = false ∧ call.finishPosted = false := by
  have pumps {asked : RCall} {other : SvCall}
      (pumped : trailers (acceptAndPump shutting asked other).obs ≠ []) :
      other.dead = false ∧ other.finishPosted = false := trailers_pumpLocked shutting other pumped
  rcases answer_cases shutting request call with
    same | ⟨-, -, -, -, -, same⟩ | ⟨-, -, same⟩ | ⟨bytes, -, -, -, -, -, same⟩ |
    ⟨-, -, -, -, same | ⟨trailing, hasFinalWrite, error, same⟩⟩
  · rw [same] at ends
    exact absurd rfl ends
  · rw [same] at ends
    exact absurd rfl ends
  · rw [same] at ends
    exact absurd rfl ends
  · rw [same] at ends
    have pumped := pumps ends
    exact pumped
  · rw [same] at ends
    have pumped := pumps ends
    exact pumped
  · rw [same] at ends
    exact absurd rfl ends

end Alive

/-- A step puts a trailer on the wire only if no operation failed so far. -/
theorem Flow.trailers_step {view after : CallView} {log news : List CallObs} {input : CallInput}
    (flow : Flow view log) (taken : callStep view input = some (after, news))
    (ends : trailers news ≠ []) : failed (log ++ news) = false := by
  rcases callStep_cases taken with
    ⟨op, delivery, nextId, call, -, -, -, object, -, rfl⟩ |
    ⟨request, call, -, -, object, -, -, rfl⟩ | ⟨-, -, rfl⟩ | ⟨-, -, rfl⟩
  · obtain ⟨-, -, broke, -⟩ :=
      flow_handleTag view.shutting nextId op delivery call view.cell.tags
    have same : trailers (handleTag view.shutting nextId op delivery call view.cell.tags).2 =
        trailers (runCall view.shutting nextId op delivery call).2 := by
      rw [handleTag, List.cons_append, ← List.singleton_append, trailers_append, trailers_append]
      split <;> exact List.append_nil _
    rw [same] at ends
    obtain ⟨fine, alive, running⟩ := trailers_runCall view.shutting call nextId op delivery ends
    rw [failed_append, broke, flow.failed_eq_false object alive running, fine]
    rfl
  · obtain ⟨alive, running⟩ := trailers_answer view.shutting call request ends
    rw [failed_append, flow.failed_eq_false object alive running,
      (passes_answer view.shutting request call).failed]
    rfl
  · exact absurd rfl ends
  · exact absurd rfl ends

/-! ### What a trailer stands for -/

/-- Nothing is sent or answered after a terminal was accepted. -/
theorem settled_of_answered {before after : List CallObs}
    (lawful : Lawful OutputLaw (before ++ after)) (answered : terminals before ≠ []) :
    sent after = [] ∧ terminals after = [] := by
  have unasked {first rest : List CallObs} {request : RCall}
      (speaks : CallObs.speaks (.accepted request) = true)
      (equal : after = first ++ .accepted request :: rest) : False := by
    have rule := lawful (before ++ first) (.accepted request) rest
      (by rw [equal, List.append_assoc])
    have none : terminals (before ++ first) = [] := by
      cases request with
      | read => exact absurd speaks Bool.false_ne_true
      | cancel => exact absurd speaks Bool.false_ne_true
      | _ => exact rule
    rw [terminals_append] at none
    exact answered (List.append_eq_nil_iff.mp none).1
  constructor
  · refine List.filterMap_eq_nil_iff.mpr fun entry member => ?_
    obtain ⟨first, rest, equal⟩ := List.append_of_mem member
    rcases entry with _ | _ | _ | request | _
    · rfl
    · rfl
    · rfl
    · cases request with
      | send bytes => exact (unasked rfl equal).elim
      | _ => rfl
    · rfl
  · refine List.filterMap_eq_nil_iff.mpr fun entry member => ?_
    obtain ⟨first, rest, equal⟩ := List.append_of_mem member
    rcases entry with _ | _ | _ | request | _
    · rfl
    · rfl
    · rfl
    · cases request with
      | reply args => exact (unasked rfl equal).elim
      | finish args => exact (unasked rfl equal).elim
      | _ => rfl
    · rfl

/-- A trailer on the wire is the one the accepted terminal asked for, and unless that was abortive,
all that R was told is accepted is on the wire. -/
theorem ending_of_trailer {log : List CallObs} (output : Lawful OutputLaw log)
    (order : Lawful Disciplined log) {trailer : Trailer} (member : trailer ∈ trailers log) :
    ∃ request, terminals log = [request] ∧ request.isTerminal = true ∧
      trailer = request.trailer ∧
      (request.aborts = false → carried log = (promised log).map .ofRaw) := by
  obtain ⟨before, post, after, rfl, carries⟩ := split_of_trailers member
  have kind := op_of_trailer carries
  have rule := order before (.posted post) after rfl
  have law := output before (.posted post) after rfl
  obtain ⟨request, only, asked, everything⟩ : ∃ request, terminals before = [request] ∧
      request.terminalPost = post ∧ (request.aborts = false → written before = sent before) := by
    cases post with
    | writeAndFinish message status trailing => exact law
    | finish status trailing => exact law
    | _ => exact absurd carries (by simp [SvPost.trailer])
  have unposted : posts .finish before = 0 := by
    cases post with
    | requestCall => exact absurd kind (by simp [SvPost.op])
    | _ => exact rule.2.1
  have single : posts .finish (before ++ [.posted post]) = 1 := by
    rw [posts_append, unposted, posts_posted, if_pos kind, posts_nil]
  have ended : terminals (before ++ [.posted post]) = [request] := by
    rw [terminals_append, only]
    rfl
  have outputBefore := output.earlier
  have orderBefore := order.earlier
  rw [show before ++ CallObs.posted post :: after = before ++ [.posted post] ++ after by simp]
    at output order ⊢
  obtain ⟨quiet, -⟩ := silent_of_finished order (by rw [single]; exact Nat.one_pos)
  obtain ⟨unsent, unanswered⟩ := settled_of_answered output (by rw [ended]; simp)
  have terminal : request.isTerminal = true := by
    have inside : request ∈ terminals before := by
      rw [only]
      exact List.mem_singleton_self request
    obtain ⟨entry, -, found⟩ := List.mem_filterMap.mp inside
    cases entry with
    | accepted other =>
      simp only [Option.ite_none_right_eq_some, Option.some.injEq] at found
      rw [← found.2]
      exact found.1
    | _ => exact absurd found (by simp)
  have alone : terminals (before ++ [.posted post] ++ after) = [request] := by
    rw [terminals_append, ended, unanswered, List.append_nil]
  refine ⟨request, alone, terminal, ?_, fun drains => ?_⟩
  · rw [← asked, trailer_terminalPost] at carries
    exact (Option.some.inj carries).symm
  · have early : carried before = written before := by
      rcases carried_cases outputBefore orderBefore with same | ⟨posted, -⟩
      · exact same
      · exact absurd unposted (Nat.ne_of_gt posted)
    have last : carried [.posted post] = [request].filterMap RCall.payload := by
      rw [← asked, RCall.terminalPost]
      cases payload : request.payload with
      | none => simp [carried, payload]
      | some message => simp [carried, payload]
    have unwritten : sent [CallObs.posted post] = [] := rfl
    rw [promised_eq output, alone, sent_append, sent_append, unsent, unwritten, List.append_nil,
      List.append_nil, carried_append, carried_append, quiet, List.append_nil, early, last,
      everything drains]

end Rgrpc.Server
