/-
This file judges the bounds R hands to the native code: the accept window and
the limit on active calls of `grpc_server`, and the batch size of `grpc_await`.
All three are checked to be at least one and then converted by `as.integer`,
which has no integer for what is too large and gives `NA`. Native code sees `NA`
as the smallest `int`, a bound no count is ever below: the accept loop posts no
slot, and the take loop takes no event.

`grpc_server` does not check the length of its bounds. Native code reads the
first element of a vector, and `NA` of an empty one.
-/

import Mathlib.Data.Rat.Floor
import Mathlib.Tactic.Linarith
import Rgrpc.Client.Buffers
import Rgrpc.Polling
import Rgrpc.Server.Load

namespace Rgrpc

open Library Server Client

/-! ### What R lets through -/

/-- The checks of `grpc_server` on its bounds: every element is at least one. -/
def checkServerBounds (acceptWindow maxActive : List RNumber) : Except RError Unit :=
  if !acceptWindow.all (RNumber.atLeast · 1) then .error "accept_window >= 1 is not TRUE"
  else if !maxActive.all (RNumber.atLeast · 1) then .error "max_active >= 1 is not TRUE"
  else .ok ()

/-- The checks of `check_await_args` on `max_events`. -/
def checkMaxEvents (maxEvents : List RNumber) : Except RError Unit :=
  if maxEvents.length ≠ 1 then .error "length(max_events) == 1L is not TRUE"
  else if !maxEvents.all (RNumber.atLeast · 1) then .error "max_events >= 1 is not TRUE"
  else .ok ()

/-- `Rf_asInteger(as.integer(numbers))`: the first element. -/
def nativeInteger : List RNumber → Int
  | [] => naInteger
  | number :: _ => number.asInteger

/-- Whether `as.integer` has an integer for the bound native code reads. -/
def fitsInteger : List RNumber → Bool
  | .finite value :: _ => value < 2147483648
  | _ => false

/-! ### What the bounds are for -/

/-- A server just created has an accept slot posted, and no more of them than the window allows. -/
structure ServerUsable (acceptWindow maxActive : List RNumber) : Prop where
  posted : ∀ wake, 1 ≤
    (createServer (nativeInteger acceptWindow) (nativeInteger maxActive) wake).1.arena.outstanding
      .accept
  bounded : ∀ wake, ∃ window rest, acceptWindow = window :: rest ∧ window.atLeast
    ((createServer (nativeInteger acceptWindow) (nativeInteger maxActive) wake).1.arena.outstanding
      .accept) = true

/-- A poll reports a batch with an event in it, and returns one unless the conversion of the batch
raises an error. -/
def Returns {Event Value : Type} (batch : List Event) (value : Except RError (List Value)) : Prop :=
  batch ≠ [] ∧ ∀ events, value = .ok events → events ≠ []

/-- An await with an event of its call queued returns at once, with an event, in every state of
every run of a client and of a server. -/
structure AwaitUsable (maxEvents : List RNumber) : Prop where
  client : ∀ wake client log, (clientMachine wake).Run Machine.Free client log →
    client.closed = false → client.rthread = .idle → ∀ id timeoutMs leftMs,
    (client.ready.any fun event => event.id == id) = true → ∃ after news batch value,
      clientStep client (.poll ⟨nativeInteger maxEvents, timeoutMs, some id⟩ leftMs) =
          some (after, news) ∧
        ClientObs.polled batch value ∈ news ∧ Returns batch value
  server : ∀ acceptWindow maxActive wake server log,
    (serverMachine acceptWindow maxActive wake).Run Machine.Free server log →
    server.closed = false → server.muHeld = false → server.rthread = .idle →
    ∀ id timeoutMs leftMs, (server.ready.any fun event => event.id == id) = true →
    ∃ after news batch value,
      serverStep server (.poll ⟨nativeInteger maxEvents, timeoutMs, some id⟩ leftMs) =
          some (after, news) ∧
        ServerObs.polled batch value ∈ news ∧ Returns batch value

/-! ### Integers -/

/-- A number that is at least one is a bound of at least one as an integer exactly when it fits. -/
theorem one_le_asInteger_iff {number : RNumber} (accepted : number.atLeast 1 = true) :
    1 ≤ number.asInteger ↔ fitsInteger [number] = true := by
  cases number with
  | na => exact absurd accepted Bool.false_ne_true
  | infinite negative => simp [RNumber.asInteger, fitsInteger, naInteger]
  | finite value =>
    have above : (1 : Rat) ≤ value := by
      have least : ((1 : Nat) : Rat) ≤ value := of_decide_eq_true accepted
      exact_mod_cast least
    rw [RNumber.asInteger, fitsInteger, decide_eq_true_eq]
    by_cases fits : value < 2147483648
    · have low : (-2147483648 : Rat) < value := by linarith
      rw [if_pos ⟨low, fits⟩]
      refine ⟨fun _ => fits, fun _ => ?_⟩
      rw [Int.tdiv_eq_ediv_of_nonneg (Rat.num_nonneg.mpr (by linarith)), ← Rat.floor_def']
      exact Int.le_floor.mpr (by exact_mod_cast above)
    · rw [if_neg fun both => fits both.2]
      exact ⟨fun absurdity => absurd absurdity (by decide), fun absurdity => absurd absurdity fits⟩

theorem one_le_nativeInteger_iff {numbers : List RNumber}
    (accepted : numbers.all (RNumber.atLeast · 1) = true) :
    1 ≤ nativeInteger numbers ↔ fitsInteger numbers = true := by
  cases numbers with
  | nil => exact iff_of_false (by decide) (by decide)
  | cons number rest =>
    rw [List.all_cons, Bool.and_eq_true] at accepted
    exact (one_le_asInteger_iff accepted.1).trans (by cases number <;> rfl)

/-! ### Accept slots -/

/-- A server just created has posted as many slots as both of its bounds allow. -/
theorem outstanding_createServer (acceptWindow maxActive : Int) (wake : WakeHandle) :
    (createServer acceptWindow maxActive wake).1.arena.outstanding .accept =
      (min acceptWindow maxActive).toNat := by
  have run : (serverMachine acceptWindow maxActive wake).Run Machine.Free
      (createServer acceptWindow maxActive wake).1
      (createServer acceptWindow maxActive wake).2 := .start
  have counted : _ = _ := slotsCounted_of_run run
  obtain ⟨count, equal, -, stopped, bounded⟩ :=
    postAcceptsLocked_eq { acceptWindow, maxActive, wake }
  have slots : (createServer acceptWindow maxActive wake).1.acceptsOutstanding = count := by
    rw [createServer, equal]
    exact Int.zero_add _
  have empty : (RServer.withSlots { acceptWindow, maxActive, wake } count).1.activeSize = 0 := rfl
  have full : ¬ ((count : Int) < acceptWindow ∧ (count : Int) < maxActive) := by
    rintro ⟨window, load⟩
    have posts :
        (RServer.withSlots { acceptWindow, maxActive, wake } count).1.wantsSlot = true := by
      rw [RServer.wantsSlot, empty]
      simp [RServer.withSlots, window, load]
    exact absurd (stopped.symm.trans posts) Bool.false_ne_true
  have within : count = 0 ∨ (count : Int) ≤ acceptWindow ∧ (count : Int) ≤ maxActive := by
    refine bounded.imp_right fun inside => ?_
    have window := inside.slots
    have load := inside.load
    rw [empty] at load
    simp only [RServer.withSlots, Int.zero_add] at window load
    exact ⟨window, load⟩
  omega

theorem serverUsable_iff {acceptWindow maxActive : List RNumber}
    (window : acceptWindow.all (RNumber.atLeast · 1) = true)
    (load : maxActive.all (RNumber.atLeast · 1) = true) :
    ServerUsable acceptWindow maxActive ↔
      fitsInteger acceptWindow = true ∧ fitsInteger maxActive = true := by
  rw [← one_le_nativeInteger_iff window, ← one_le_nativeInteger_iff load]
  constructor
  · intro usable
    have posted := usable.posted ⟨16, 0⟩
    rw [outstanding_createServer] at posted
    omega
  · rintro ⟨wide, many⟩
    refine ⟨fun wake => ?_, fun wake => ?_⟩
    · rw [outstanding_createServer]
      omega
    · rw [outstanding_createServer]
      cases acceptWindow with
      | nil => exact absurd wide (by decide)
      | cons number rest =>
        change 1 ≤ number.asInteger at wide
        refine ⟨number, rest, rfl, RNumber.atLeast_of_le_asInteger wide ?_⟩
        show ((min number.asInteger _).toNat : Int) ≤ number.asInteger
        omega

/-! ### Batches -/

/-- A poll with a bound of at least one and an event it wants takes one. -/
theorem returns_of_wanted {Event Value : Type} {wanted : Event → Bool} {maxEvents : Int}
    {ready : List Event} {convert : Event → Except RError Value} (bound : 1 ≤ maxEvents)
    (queued : ready.any wanted = true) :
    Returns ((ready.filter wanted).take maxEvents.toNat)
      (((ready.filter wanted).take maxEvents.toNat).mapM convert) := by
  have some_ : (ready.filter wanted).take maxEvents.toNat ≠ [] := by
    intro empty
    obtain ⟨event, member, wants⟩ := List.any_eq_true.mp queued
    rcases List.take_eq_nil_iff.mp empty with zero | none
    · omega
    · exact List.filter_eq_nil_iff.mp none event member wants
  refine ⟨some_, fun events converted empty => ?_⟩
  have each := forall₂_of_mapM_ok converted
  rw [empty] at each
  exact some_ (List.forall₂_nil_right_iff.mp each)

/-- An attempt that finds an event it wants takes what it finds. -/
theorem client_takes_of_wanted {client : RClient} {args : PollArgs} (leftMs : Int)
    (queued : (client.ready.any fun event => args.wants event.id) = true) :
    client.pollAttempt args leftMs = client.pollTake args := by
  unfold RClient.pollAttempt
  rw [if_neg (by rw [queued]; simp)]

theorem server_takes_of_wanted {server : RServer} {args : PollArgs} (leftMs : Int)
    (queued : (server.ready.any fun event => args.wants event.id) = true) :
    server.pollAttempt args leftMs = server.pollTake args := by
  unfold RServer.pollAttempt
  rw [if_neg (by rw [queued]; simp)]

theorem awaitUsable_of_bound {maxEvents : List RNumber} (bound : 1 ≤ nativeInteger maxEvents) :
    AwaitUsable maxEvents := by
  constructor
  · intro wake client log run opened idle id timeoutMs leftMs queued
    have taken : clientStep client (.poll ⟨nativeInteger maxEvents, timeoutMs, some id⟩ leftMs) =
        some (client.pollTake ⟨nativeInteger maxEvents, timeoutMs, some id⟩) := by
      rw [← client_takes_of_wanted leftMs queued]
      simp [clientStep, RClient.atR, idle, RClient.grpcRClientPoll, opened]
    refine ⟨_, _, _, _, taken, List.mem_append_right _ (List.mem_singleton.mpr rfl), ?_⟩
    simp only [takeLoop_batch, Int.natCast_zero, Int.sub_zero]
    exact returns_of_wanted bound queued
  · intro acceptWindow maxActive wake server log run opened unlocked idle id timeoutMs leftMs queued
    have taken : serverStep server (.poll ⟨nativeInteger maxEvents, timeoutMs, some id⟩ leftMs) =
        some (server.pollTake ⟨nativeInteger maxEvents, timeoutMs, some id⟩) := by
      rw [← server_takes_of_wanted leftMs queued]
      simp [serverStep, idle, RServer.grpcRServer2Poll, opened, unlocked]
    refine ⟨_, _, _, _, taken, List.mem_singleton.mpr rfl, ?_⟩
    simp only [takeLoop_batch, Int.natCast_zero, Int.sub_zero]
    exact returns_of_wanted bound queued

/-- An await without room for an event returns an empty batch, whatever is queued. -/
theorem not_returns_of_bound {client after : RClient} {news : List ClientObs} {id : Nat}
    {maxEvents timeoutMs leftMs : Int} (tight : ¬ 1 ≤ maxEvents)
    (taken : clientStep client (.poll ⟨maxEvents, timeoutMs, some id⟩ leftMs) = some (after, news))
    {batch : List ClEvent} {value : Except RError (List RClEvent)}
    (polled : ClientObs.polled batch value ∈ news) : ¬ Returns batch value := by
  rcases Client.pollStep_clientStep rfl taken with ⟨wake, ended⟩ | ⟨-, silent⟩
  · obtain ⟨rfl, rfl⟩ := Prod.mk.inj ended
    obtain ⟨rfl, -⟩ := polled_mem_pollTake polled
    rintro ⟨filled, -⟩
    refine filled ?_
    rw [takeLoop_batch, Int.natCast_zero, Int.sub_zero, show maxEvents.toNat = 0 by omega,
      List.take_zero]
  · exact absurd polled (silent batch value)

/-- A unary call is started and completes. -/
def completedInputs : List ClientInput :=
  [.callStart (.text [47]) [1] {} 0, .unary 0 { ok := true }]

theorem awaitUsable_iff {maxEvents : List RNumber}
    (accepted : maxEvents.all (RNumber.atLeast · 1) = true) :
    AwaitUsable maxEvents ↔ fitsInteger maxEvents = true := by
  rw [← one_le_nativeInteger_iff accepted]
  refine ⟨fun usable => ?_, awaitUsable_of_bound⟩
  by_contra tight
  have run := Machine.run_of_exec (show (clientMachine ⟨16, 0⟩).exec Machine.Free
    (clientMachine ⟨16, 0⟩).start completedInputs = some _ from rfl)
  obtain ⟨after, news, batch, value, taken, polled, returns⟩ :=
    usable.client ⟨16, 0⟩ _ _ run rfl rfl 1 0 0 rfl
  exact not_returns_of_bound tight taken polled returns

/-! ### The bounds R lets through -/

/-- A server just created has an accept slot posted, within its window, exactly when both of the
bounds R let through fit an `int`; and an await with an event of its call queued returns one exactly
when its batch size does. -/
theorem bounds_usable_iff (acceptWindow maxActive maxEvents : List RNumber)
    (server : checkServerBounds acceptWindow maxActive = .ok ())
    (await : checkMaxEvents maxEvents = .ok ()) :
    (ServerUsable acceptWindow maxActive ↔
      fitsInteger acceptWindow = true ∧ fitsInteger maxActive = true) ∧
    (AwaitUsable maxEvents ↔ fitsInteger maxEvents = true) := by
  constructor
  · unfold checkServerBounds at server
    split_ifs at server with window load
    rw [Bool.not_eq_true', Bool.not_eq_false] at window load
    exact serverUsable_iff window load
  · unfold checkMaxEvents at await
    split_ifs at await with length bound
    rw [Bool.not_eq_true', Bool.not_eq_false] at bound
    exact awaitUsable_iff bound

/-- The defaults of both functions. -/
theorem bounds_usable_defaults :
    ServerUsable [.finite 8] [.finite 256] ∧ AwaitUsable [.finite 64] :=
  have usable := bounds_usable_iff [.finite 8] [.finite 256] [.finite 64] (by decide) (by decide)
  ⟨usable.1.mpr ⟨by decide, by decide⟩, usable.2.mpr (by decide)⟩

/-- The bounds of a caller who wants none are let through. The server accepts no call, and the
await returns nothing. -/
theorem bounds_not_usable :
    checkServerBounds [.infinite false] [.infinite false] = .ok () ∧
      checkMaxEvents [.infinite false] = .ok () ∧
      ¬ ServerUsable [.infinite false] [.infinite false] ∧ ¬ AwaitUsable [.infinite false] ∧
      (createServer (nativeInteger [.infinite false]) (nativeInteger [.infinite false])
        ⟨16, 0⟩).1.arena.outstanding .accept = 0 := by
  refine ⟨by decide, by decide, fun usable => ?_, fun usable => ?_, by decide⟩
  · exact absurd ((serverUsable_iff (by decide) (by decide)).mp usable).1 (by decide)
  · exact absurd ((awaitUsable_iff (by decide)).mp usable) (by decide)

end Rgrpc
