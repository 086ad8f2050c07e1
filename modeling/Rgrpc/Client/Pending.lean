/-
This file settles what `grpc_pending` counts on a client. Native code counts the
calls and streams in its two tables, and the completion thread takes one out
when it pushes the terminal event; its documentation counts what R was not given
yet. The two differ by the terminal events that are queued, and by those that
were taken from the queue by a poll that raised an error.
-/

import Rgrpc.Client.Typed

namespace Rgrpc.Client

open Library

/-! ### The count -/

/-- A `size_t` as an `int`. -/
def intOfSize (size : Nat) : Int := (BitVec.ofNat 32 size).toInt

theorem intOfSize_le (size : Nat) : intOfSize size ≤ size := by
  rw [intOfSize, BitVec.toInt_eq_toNat_cond, BitVec.toNat_ofNat]
  split <;> omega

theorem intOfSize_eq_iff (size : Nat) : intOfSize size = size ↔ size < 2147483648 := by
  rw [intOfSize, BitVec.toInt_eq_toNat_cond, BitVec.toNat_ofNat]
  split <;> omega

/-- `grpc_r_client_pending`. The least `int` is R's `NA`. -/
def RClient.grpcRClientPending (client : RClient) : Except RError Int :=
  if client.closed then .error "grpc client is closed"
  else .ok (intOfSize (client.calls.keys.length + client.streams.keys.length))

section Sessions

variable {Message : Type} {grpcDecode : Bytes → String → Except RError Message}
  {wake : WakeHandle} {session : RSession} {log : List (SessionObs Message)}

/-- The ids of the terminal events R was given. -/
def endedIds (log : List (SessionObs Message)) : List Nat :=
  ((handed log).filter fun one => one.event.terminal).map fun one => one.event.id

/-- The number of calls and streams that were started and whose terminal event R was not given. -/
def undelivered (log : List (SessionObs Message)) : Nat :=
  (starts log).countP fun entry => entry.1 ∉ endedIds log

/-- What `grpc_pending` is documented to return: the number of calls and streams started but not
yet delivered, so that none is queued when it is zero. -/
def PendingCounts (session : RSession) (log : List (SessionObs Message)) : Prop :=
  ∀ value, session.client.grpcRClientPending = .ok value →
    value = (undelivered log : Int) ∧
      (value = 0 → ∀ event ∈ session.client.ready, event.terminal = false)

/-! ### The accounts of a run -/

/-- Of distinct elements those that are not among some others are as many as are left when the
others are taken away. -/
theorem countP_not_mem_add_length {Element : Type} [DecidableEq Element] {all some_ : List Element}
    (distinct : all.Nodup) (distinctSome : some_.Nodup) (inside : some_ ⊆ all) :
    (all.countP fun element => element ∉ some_) + some_.length = all.length := by
  have same : (all.filter fun element => element ∈ some_).Perm some_ := by
    refine (List.perm_ext_iff_of_nodup (distinct.filter _) distinctSome).mpr fun element => ?_
    rw [List.mem_filter, decide_eq_true_iff]
    exact and_iff_right_of_imp fun member => inside member
  have split :=
    List.length_eq_countP_add_countP (fun element => decide (element ∈ some_)) (l := all)
  rw [List.countP_eq_length_filter, same.length_eq] at split
  rw [split, Nat.add_comm]
  simp only [decide_eq_true_eq]

theorem Orderly.nodup_endedIds (orderly : Orderly log) : (endedIds log).Nodup := by
  refine List.pairwise_map.mpr ?_
  have kept := orderly.ordered.filter fun one => one.event.terminal
  refine kept.imp_of_mem fun {earlier later} member _ order same => ?_
  have last := (List.mem_filter.mp member).2
  exact absurd ((order same).symm.trans last) Bool.false_ne_true

/-- What was started is undelivered, or its terminal event was given to R. -/
theorem Orderly.length_starts (orderly : Orderly log) :
    undelivered log + (handed log).countP (fun one => one.event.terminal) =
      (starts log).length := by
  have inside : endedIds log ⊆ (starts log).map Prod.fst := by
    intro id member
    obtain ⟨one, chosen, rfl⟩ := List.mem_map.mp member
    exact orderly.started one (List.mem_filter.mp chosen).1
  have counted := countP_not_mem_add_length orderly.distinct orderly.nodup_endedIds inside
  rw [List.countP_map, List.length_map, endedIds, List.length_map,
    ← List.countP_eq_length_filter] at counted
  exact counted

/-- While a client is open, what is undelivered is in a table, or its terminal event is queued or
was lost. -/
theorem undelivered_of_run
    (run : (sessionMachine grpcDecode wake).Run Machine.Free session log)
    (open_ : session.client.closed = false) :
    undelivered log = session.client.calls.keys.length + session.client.streams.keys.length +
      session.client.ready.countP ClEvent.terminal + (lost log).countP ClEvent.terminal := by
  have native := native_of_run run
  obtain ⟨begun, drawn, -, counted⟩ := logged_of_run run
  have started := (balanced_of_run native open_).counted
  have length := congrArg List.length begun
  have given := (orderly_of_run run).length_starts
  have pushed := (taken_perm_of_run native open_).countP_eq ClEvent.terminal
  rw [List.countP_append, ← drawn] at pushed
  rw [List.length_map] at length
  omega

/-- `grpc_pending` counts what is undelivered exactly when the client is closed, and the count is an
error, or when no terminal event is queued, none was lost to a poll that raised an error, and the
tables are smaller than an `int` can say. -/
theorem pending_counts_iff (grpcDecode : Bytes → String → Except RError Message)
    (wake : WakeHandle) (session : RSession) (log : List (SessionObs Message))
    (run : (sessionMachine grpcDecode wake).Run Machine.Free session log) :
    PendingCounts session log ↔ session.client.closed = true ∨
      (session.client.calls.keys.length + session.client.streams.keys.length < 2147483648 ∧
        (∀ event ∈ session.client.ready, event.terminal = false) ∧
          ∀ event ∈ lost log, event.terminal = false) := by
  unfold PendingCounts
  cases closed : session.client.closed with
  | true =>
    rw [RClient.grpcRClientPending, if_pos closed]
    exact iff_of_true (fun value returned => absurd returned (by simp)) (Or.inl rfl)
  | false =>
    have noTerminal (events : List ClEvent) :
        events.countP ClEvent.terminal = 0 ↔ ∀ event ∈ events, event.terminal = false := by
      simp only [List.countP_eq_zero, Bool.not_eq_true]
    have accounts := undelivered_of_run run closed
    have below := intOfSize_le
      (session.client.calls.keys.length + session.client.streams.keys.length)
    rw [RClient.grpcRClientPending, if_neg (Bool.not_eq_true _ ▸ closed), ← noTerminal,
      ← noTerminal, ← intOfSize_eq_iff]
    constructor
    · intro counts
      obtain ⟨same, -⟩ := counts _ rfl
      refine Or.inr ⟨?_, ?_, ?_⟩ <;> omega
    · rintro (absurdity | ⟨fits, ready, lost⟩) value returned
      · exact absurd absurdity (by simp)
      · rw [← Except.ok.inj returned, fits, accounts, ready, lost]
        exact ⟨rfl, fun _ => rfl⟩

end Sessions

/-- After a poll that took everything there is, a stream and a call are pending, and undelivered. -/
theorem pending_counts_delivered : ∃ session log,
    (sessionMachine decodeOne ⟨16, 0⟩).Run Machine.Free session log ∧
      session.client.grpcRClientPending = .ok 2 ∧ PendingCounts session log := by
  have run := Machine.run_of_exec (show (sessionMachine decodeOne ⟨16, 0⟩).exec Machine.Free
    (sessionMachine decodeOne ⟨16, 0⟩).start typedInputs = some _ from rfl)
  exact ⟨_, _, run, by decide, (pending_counts_iff decodeOne ⟨16, 0⟩ _ _ run).mpr
    (Or.inr ⟨by decide, by decide, by decide⟩)⟩

/-- A call completes before R polls: nothing is pending, and its event is queued. -/
theorem pending_not_counts : ∃ session log,
    (sessionMachine decodeOne ⟨16, 0⟩).Run Machine.Free session log ∧
      session.client.grpcRClientPending = .ok 0 ∧ undelivered log = 1 ∧
      session.client.ready.map ClEvent.terminal = [true] ∧ ¬ PendingCounts session log := by
  have run := Machine.run_of_exec (show (sessionMachine decodeOne ⟨16, 0⟩).exec Machine.Free
    (sessionMachine decodeOne ⟨16, 0⟩).start
      [.grpcCall (.full (.text [47])) (.raw [7]) {} 0, .other (.unary 0 { ok := true })] =
    some _ from rfl)
  have pending : ∀ {session : RSession} {log : List (SessionObs Unit)},
      session.client.grpcRClientPending = .ok 0 → undelivered log = 1 →
        ¬ PendingCounts session log := by
    intro session log returned one counts
    have same := (counts 0 returned).1
    rw [one] at same
    exact absurd same (by decide)
  exact ⟨_, _, run, by decide, by decide, by decide, pending (by decide) (by decide)⟩

end Rgrpc.Client
