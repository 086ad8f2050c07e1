/-
This file follows a deadline from R to the server. `grpc_call` and `grpc_stream`
let every number above zero through. The native client casts it to an `int64_t`
of milliseconds and adds it to a clock of `int64_t` nanoseconds; what does not
fit on the way C++ leaves undefined. The server reports what is left of the
deadline in whole milliseconds, and reports nothing where less than one is left.

Of gRPC it is assumed that the context of a call reports the deadline the client
set on it, and the last time the system clock can hold when none was set.
-/

import Mathlib.Data.Rat.Floor
import Rgrpc.Client.Buffers
import Rgrpc.Server.Context

namespace Rgrpc

open Library Server Client

/-! ### From R to the context of the client -/

/-- A number as an `int64_t`, if it fits. -/
def int64 (value : Int) : Option Int :=
  if -9223372036854775808 ≤ value ∧ value < 9223372036854775808 then some value else none

/-- `(int64_t) number`: truncated toward zero, and undefined for what does not fit. -/
def Client.RNumber.toInt64 : RNumber → Option Int
  | .finite value => int64 (value.num.tdiv value.den)
  | _ => none

/-- Whether `number > 0` is `TRUE` in R. -/
def Client.RNumber.positive : RNumber → Bool
  | .na => false
  | .infinite negative => !negative
  | .finite value => decide (0 < value)

/-- Whether `number <= other` is `TRUE` in R. -/
def Client.RNumber.le : RNumber → RNumber → Bool
  | .finite value, .finite other => decide (value ≤ other)
  | .na, _ => false
  | _, .na => false
  | .infinite negative, .infinite other => negative || !other
  | .infinite negative, .finite _ => negative
  | .finite _, .infinite other => !other

/-- The check `grpc_call` and `grpc_stream` make on their deadline. -/
def checkDeadline (deadline : Option RNumber) : Except RError Unit :=
  if deadline.all RNumber.positive then .ok () else .error "deadline_ms > 0 is not TRUE"

/-- The time `apply_context_opts` hands to `set_deadline`, if the arithmetic does not overflow:
`system_clock::now() + milliseconds((int64_t) ms)`. -/
def deadlinePoint (now : Int) (ms : RNumber) : Option Int := do
  let count ← ms.toInt64
  let nanoseconds ← int64 (count * 1000000)
  int64 (now + nanoseconds)

/-- A deadline whose arithmetic does not overflow is the one the client sets on the context. -/
theorem deadlinePoint_applied {now point : Int} {ms : RNumber}
    (defined : deadlinePoint now ms = some point) (metadata : Option RMetadata)
    (waitForReady : Bool) (context : ClientContext) :
    (applyContextOpts now ⟨ms.toInt64, metadata, waitForReady⟩ context).1.deadline =
      some point := by
  obtain ⟨count, fits, defined⟩ := Option.bind_eq_some_iff.mp defined
  obtain ⟨nanoseconds, scaled, defined⟩ := Option.bind_eq_some_iff.mp defined
  have same {value other : Int} (equal : int64 value = some other) : value = other := by
    rw [int64] at equal
    split at equal
    · exact Option.some.inj equal
    · exact absurd equal (by simp)
  rw [← same defined, ← same scaled, fits, applyContextOpts]
  cases metadata with
  | none => rfl
  | some metadata =>
    simp only
    split <;> rfl

/-- What the context of a call has as its deadline. -/
def contextDeadline (now : Int) (deadline : Option RNumber) : Option (Option Int) :=
  match deadline with
  | none => some none
  | some ms => (deadlinePoint now ms).map some

/-! ### From the context to the server -/

/-- `std::chrono::system_clock::time_point::max()`. -/
def maxTimePoint : Int := 9223372036854775807

/-- 365 days in milliseconds. -/
def yearMs : Int := 31536000000

/-- What a request event of R may say of the deadline of its call: nothing, if none was set or at
least 365 days of it are left, and otherwise no more than was asked for. -/
structure Told (deadline : Option RNumber) (left : Int) (told : Option Int) : Prop where
  unknown : told = none → deadline = none ∨ yearMs * 1000000 ≤ left
  known : ∀ value, told = some value → ∃ ms, deadline = some ms ∧ 0 ≤ value ∧
    ms.atLeast value.toNat = true

/-- A deadline is propagated: the time set on the call is defined, not before the current time and
not before the one of any smaller deadline; and every request event a server pushes for the call,
however long it takes to read its first message, tells R what it may. -/
structure Propagated (deadline : Option RNumber) (now elapsed : Nat) : Prop where
  set : ∀ ms, deadline = some ms → ∃ point, deadlinePoint now ms = some point ∧
    (now : Int) ≤ point ∧
    ∀ less : RNumber, less.positive = true → less.le ms = true →
      ∃ earlier, deadlinePoint now less = some earlier ∧ earlier ≤ point
  reported : ∀ point event converted told, contextDeadline now deadline = some point →
    RequestAt (point.getD maxTimePoint) (now + elapsed) event → event.toR = .ok converted →
    converted.deadlineMs = some told →
    Told deadline (point.getD maxTimePoint - (now + elapsed)) told

/-- What propagates: a finite deadline that does not take the clock past its end and of which a
whole millisecond is left at the first read; and no deadline, as long as the clock has 365 days
left. -/
def Propagates (deadline : Option RNumber) (now elapsed : Nat) : Prop :=
  match deadline with
  | none => maxTimePoint - (now + elapsed) < 1000000 ∨
      yearMs * 1000000 ≤ maxTimePoint - (now + elapsed)
  | some (.finite value) =>
    now + value.num.tdiv value.den * 1000000 ≤ maxTimePoint ∧
      elapsed + 1000000 ≤ value.num.tdiv value.den * 1000000
  | some _ => False

/-! ### What fits -/

section Numbers

variable {now : Nat} {value : Rat}

/-- A number above zero is truncated to its floor. -/
theorem tdiv_eq_floor (above : 0 < value) : value.num.tdiv value.den = ⌊value⌋ := by
  rw [Rat.floor_def', Int.tdiv_eq_ediv_of_nonneg (Rat.num_nonneg.mpr above.le)]

/-- The time of a finite deadline is defined exactly when it comes before the end of the clock. -/
theorem deadlinePoint_finite (above : 0 < value) (point : Int) :
    deadlinePoint now (.finite value) = some point ↔
      now + value.num.tdiv value.den * 1000000 ≤ maxTimePoint ∧
        point = now + value.num.tdiv value.den * 1000000 := by
  have count : 0 ≤ value.num.tdiv value.den := by
    rw [tdiv_eq_floor above]
    exact Int.floor_nonneg.mpr above.le
  have exact_ (number : Int) (nonneg : 0 ≤ number) (fits : number ≤ maxTimePoint) :
      int64 number = some number := by
    unfold maxTimePoint at fits
    exact if_pos ⟨by omega, by omega⟩
  constructor
  · intro defined
    obtain ⟨milliseconds, fits, defined⟩ := Option.bind_eq_some_iff.mp defined
    obtain ⟨nanoseconds, scaled, defined⟩ := Option.bind_eq_some_iff.mp defined
    simp only [RNumber.toInt64, int64] at fits scaled defined
    unfold maxTimePoint
    split at fits
    · rw [← Option.some.inj fits] at scaled
      split at scaled
      · rw [← Option.some.inj scaled] at defined
        split at defined
        · have same := Option.some.inj defined
          omega
        · exact absurd defined (by simp)
      · exact absurd scaled (by simp)
    · exact absurd fits (by simp)
  · rintro ⟨fits, rfl⟩
    have first := exact_ (value.num.tdiv value.den) count (by omega)
    have second := exact_ (value.num.tdiv value.den * 1000000) (by omega) (by omega)
    have third := exact_ (now + value.num.tdiv value.den * 1000000) (by omega) fits
    simp only [deadlinePoint, RNumber.toInt64, first, Option.bind_eq_bind, Option.bind_some, second]
    exact third

end Numbers

/-! ### What R is told -/

/-- The `deadline_ms` R is given for a deadline, at the time of the first read: `none` is `NA`. -/
def reportedMs (deadline now : Int) : Option Int :=
  if deadlineMs deadline now < 0 then none else some (deadlineMs deadline now)

/-- What is left of a deadline is reported in whole milliseconds when it is at least one of them and
less than a year. -/
theorem reportedMs_cases (deadline now : Int) :
    deadline - now < 1000000 ∧ reportedMs deadline now = none ∨
      yearMs * 1000000 ≤ deadline - now ∧ reportedMs deadline now = none ∨
      1000000 ≤ deadline - now ∧ deadline - now < yearMs * 1000000 ∧
        reportedMs deadline now = some ((deadline - now) / 1000000) := by
  unfold reportedMs deadlineMs yearMs
  by_cases past : deadline - now < 0
  · have none : ¬ 0 < (deadline - now).tdiv 1000000 := by
      have below := Int.tdiv_le_tdiv (show (0 : Int) < 1000000 by decide) past.le
      rw [Int.zero_tdiv] at below
      omega
    have unreported : ¬ (0 < (deadline - now).tdiv 1000000 ∧
        (deadline - now).tdiv 1000000 < 31536000000) := fun both => none both.1
    simp only
    rw [if_neg unreported, if_pos (by decide)]
    exact Or.inl ⟨by omega, rfl⟩
  · rw [Int.tdiv_eq_ediv_of_nonneg (by omega)]
    simp only
    by_cases reported : 0 < (deadline - now) / 1000000 ∧ (deadline - now) / 1000000 < 31536000000
    · rw [if_pos reported, if_neg (by omega)]
      exact Or.inr (Or.inr ⟨by omega, by omega, rfl⟩)
    · rw [if_neg reported, if_pos (by decide)]
      by_cases short : deadline - now < 1000000
      · exact Or.inl ⟨short, rfl⟩
      · exact Or.inr (Or.inl ⟨by omega, rfl⟩)

/-- An event converts its deadline to a number, or to `NA` when there is none to report. -/
theorem told_of_toR {event : SvEvent} {converted : RSvEvent} {told : Option Int}
    (converts : event.toR = .ok converted) (tells : converted.deadlineMs = some told) :
    told = if event.deadlineMs < 0 then none else some event.deadlineMs := by
  unfold SvEvent.toR at converts
  split at converts
  · cases metadata : grpcPairsToR event.metadata with
    | error error =>
      rw [metadata] at converts
      exact absurd converts (by simp [bind, Except.bind])
    | ok pairs =>
      rw [metadata] at converts
      rw [← Except.ok.inj converts] at tells
      exact (Option.some.inj tells).symm
  · rw [← Except.ok.inj converts] at tells
    exact absurd tells (by simp)
  · rw [← Except.ok.inj converts] at tells
    exact absurd tells (by simp)

/-- R is told one thing of a deadline at the first read, whatever the rest of the event is. -/
theorem forall_told_iff (holds : Option Int → Prop) (deadline now : Int) :
    (∀ event converted told, RequestAt deadline now event → event.toR = .ok converted →
        converted.deadlineMs = some told → holds told) ↔
      holds (reportedMs deadline now) := by
  constructor
  · intro always
    obtain ⟨event, request, bare⟩ := exists_requestAt deadline now
    have kind : event.type = .request := by
      obtain ⟨-, -, -, -, -, -, -, -, kind⟩ := request
      exact kind
    have converts : ∃ converted, event.toR = .ok converted ∧
        converted.deadlineMs = some (reportedMs deadline now) := by
      unfold SvEvent.toR reportedMs
      rw [kind, bare, ← request.deadlineMs_eq]
      exact ⟨_, rfl, rfl⟩
    obtain ⟨converted, equal, tells⟩ := converts
    exact always event converted _ request equal tells
  · intro holds event converted told request converts tells
    rw [told_of_toR converts tells, request.deadlineMs_eq]
    exact holds

/-- Without a deadline R is told `NA`, unless the clock is in the last year it can hold. -/
theorem told_unset_iff (point read : Int) :
    Told none (point - read) (reportedMs point read) ↔
      point - read < 1000000 ∨ yearMs * 1000000 ≤ point - read := by
  have silent : Told none (point - read) none :=
    ⟨fun _ => Or.inl rfl, fun value absurdity => absurd absurdity (by simp)⟩
  rcases reportedMs_cases point read with
    ⟨short, same⟩ | ⟨long, same⟩ | ⟨inside, below, same⟩
  · rw [same]
    exact ⟨fun _ => Or.inl short, fun _ => silent⟩
  · rw [same]
    exact ⟨fun _ => Or.inr long, fun _ => silent⟩
  · rw [same]
    refine ⟨fun told => ?_, fun outside => by omega⟩
    obtain ⟨ms, asked, -⟩ := told.known _ rfl
    exact absurd asked (by simp)

/-- Of a deadline of which no more is left than was asked for R is told what is right exactly when a
millisecond is left. -/
theorem told_set_iff {ms : RNumber} {point read : Int}
    (asked : ∀ value : Int, 0 ≤ value → value ≤ (point - read) / 1000000 →
      ms.atLeast value.toNat = true) :
    Told (some ms) (point - read) (reportedMs point read) ↔ 1000000 ≤ point - read := by
  rcases reportedMs_cases point read with
    ⟨short, same⟩ | ⟨long, same⟩ | ⟨inside, below, same⟩
  · rw [same]
    refine ⟨fun told => ?_, fun enough => by omega⟩
    rcases told.unknown rfl with unset | long
    · exact absurd unset (by simp)
    · unfold yearMs at long
      omega
  · rw [same]
    unfold yearMs at long
    exact ⟨fun _ => by omega, fun _ => ⟨fun _ => Or.inr long, fun value absurdity =>
      absurd absurdity (by simp)⟩⟩
  · rw [same]
    refine ⟨fun _ => inside, fun _ => ⟨fun absurdity => absurd absurdity (by simp), ?_⟩⟩
    intro value equal
    obtain rfl := Option.some.inj equal
    exact ⟨ms, rfl, by omega, asked _ (by omega) (Int.le_refl _)⟩

/-! ### What propagates -/

section Set

variable {now : Nat} {value : Rat}

/-- What the client sets for a finite deadline that fits is not before now, and not before what it
sets for a smaller one. -/
theorem deadlinePoint_ordered (above : 0 < value)
    (fits : now + value.num.tdiv value.den * 1000000 ≤ maxTimePoint) :
    ∃ point, deadlinePoint now (.finite value) = some point ∧ (now : Int) ≤ point ∧
      ∀ less : RNumber, less.positive = true → less.le (.finite value) = true →
        ∃ earlier, deadlinePoint now less = some earlier ∧ earlier ≤ point := by
  have count : 0 ≤ value.num.tdiv value.den := by
    rw [tdiv_eq_floor above]
    exact Int.floor_nonneg.mpr above.le
  refine ⟨_, (deadlinePoint_finite above _).mpr ⟨fits, rfl⟩, by omega,
    fun less positive before => ?_⟩
  cases less with
  | na => exact absurd positive Bool.false_ne_true
  | infinite negative =>
    cases negative with
    | true => exact absurd positive Bool.false_ne_true
    | false => exact absurd before Bool.false_ne_true
  | finite smaller =>
    have low : 0 < smaller := of_decide_eq_true positive
    have floors : smaller.num.tdiv smaller.den ≤ value.num.tdiv value.den := by
      rw [tdiv_eq_floor low, tdiv_eq_floor above]
      exact Int.floor_le_floor (of_decide_eq_true before)
    exact ⟨_, (deadlinePoint_finite low _).mpr ⟨by omega, rfl⟩, by omega⟩

/-- The whole milliseconds left of a deadline are no more than was asked for. -/
theorem atLeast_of_left (above : 0 < value) (elapsed : Nat) {told : Int} (nonneg : 0 ≤ told)
    (left : told ≤ (now + value.num.tdiv value.den * 1000000 - (now + elapsed)) / 1000000) :
    (RNumber.finite value).atLeast told.toNat = true := by
  rw [tdiv_eq_floor above] at left
  refine decide_eq_true ?_
  have floor : told ≤ ⌊value⌋ := by omega
  have cast : ((told.toNat : Int) : Rat) = (told : Rat) := by rw [Int.toNat_of_nonneg nonneg]
  rw [← Rat.intCast_natCast, cast]
  exact Int.le_floor.mp floor

end Set

/-- A deadline R let through is propagated exactly when it is finite and does not take the clock
past its end, and a millisecond of it is left at the first read; and no deadline, exactly when the
clock is not in the last year it can hold. -/
theorem deadline_propagated_iff (deadline : Option RNumber) (now elapsed : Nat)
    (accepted : checkDeadline deadline = .ok ()) :
    Propagated deadline now elapsed ↔ Propagates deadline now elapsed := by
  cases deadline with
  | none =>
    refine Iff.trans ?_ ((forall_told_iff
      (Told none (maxTimePoint - (now + elapsed))) maxTimePoint (now + elapsed)).trans
      (told_unset_iff maxTimePoint (now + elapsed)))
    constructor
    · intro propagated event converted told
      exact propagated.reported none event converted told rfl
    · intro told
      refine ⟨fun ms absurdity => absurd absurdity (by simp), fun point event converted => ?_⟩
      intro value defined
      obtain rfl : none = point := Option.some.inj defined
      exact told event converted value
  | some ms =>
    have positive : ms.positive = true := by
      unfold checkDeadline at accepted
      split at accepted
      · rename_i passed
        exact passed
      · exact absurd accepted (by simp)
    cases ms with
    | na => exact absurd positive Bool.false_ne_true
    | infinite negative =>
      refine ⟨fun propagated => ?_, False.elim⟩
      obtain ⟨point, defined, -⟩ := propagated.set _ rfl
      exact absurd defined (by simp [deadlinePoint, RNumber.toInt64])
    | finite value =>
      have above : 0 < value := of_decide_eq_true positive
      constructor
      · intro propagated
        obtain ⟨point, defined, -⟩ := propagated.set _ rfl
        obtain ⟨fits, rfl⟩ := (deadlinePoint_finite above point).mp defined
        have told := (forall_told_iff _ _ _).mp fun event converted told =>
          propagated.reported (some _) event converted told
            (by rw [contextDeadline, defined]; rfl)
        have left := (told_set_iff fun told nonneg => atLeast_of_left above elapsed nonneg).mp told
        exact ⟨fits, by omega⟩
      · rintro ⟨fits, left⟩
        refine ⟨fun ms same => ?_, fun point event converted told defined => ?_⟩
        · obtain rfl := Option.some.inj same
          exact deadlinePoint_ordered above fits
        · rw [contextDeadline, (deadlinePoint_finite above _).mpr ⟨fits, rfl⟩] at defined
          obtain rfl := Option.some.inj defined
          exact (forall_told_iff _ _ _).mpr
            ((told_set_iff fun told nonneg => atLeast_of_left above elapsed nonneg).mpr (by omega))
            event converted told

/-- Five seconds, of which a tenth are left at the first read. -/
theorem deadline_propagated_seconds :
    checkDeadline (some (.finite 5000)) = .ok () ∧
      Propagates (some (.finite 5000)) 1700000000000000000 4900000000 ∧
      Propagated (some (.finite 5000)) 1700000000000000000 4900000000 := by
  have fits : Propagates (some (.finite 5000)) 1700000000000000000 4900000000 := by
    refine ⟨?_, ?_⟩ <;> decide
  exact ⟨rfl, fits, (deadline_propagated_iff _ _ _ rfl).mpr fits⟩

/-- A limit R lets through that overflows, and a small one that is nearly spent when its call is
read: its event says that there was none. -/
theorem deadline_not_propagated :
    (checkDeadline (some (.infinite false)) = .ok () ∧
      ¬ Propagated (some (.infinite false)) 1700000000000000000 0) ∧
    checkDeadline (some (.finite 5)) = .ok () ∧
      reportedMs (1700000000000000000 + 5000000) (1700000000000000000 + 4500000) = none ∧
      ¬ Propagated (some (.finite 5)) 1700000000000000000 4500000 := by
  refine ⟨⟨rfl, fun propagated => ?_⟩, rfl, by decide, fun propagated => ?_⟩
  · obtain ⟨point, defined, -⟩ := propagated.set _ rfl
    exact absurd defined (by simp [deadlinePoint, RNumber.toInt64])
  · have told := (forall_told_iff _ _ _).mp fun event converted told =>
      propagated.reported (some _) event converted told
        (show contextDeadline 1700000000000000000 (some (.finite 5)) = some (some _) from rfl)
    rcases told.unknown (by decide) with unset | long
    · exact absurd unset (by simp)
    · exact absurd long (by decide)

end Rgrpc
