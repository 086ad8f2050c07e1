/-
This file proves that the table of call types is exact. The keys of the table
are the ids of the typed calls and streams whose terminal event R has not been
given, as long as `grpc_decode` does not raise in the middle of a batch. A key
is the text of a `double`, so ids are told apart by it below 2^53. An entry is
dropped at the terminal event of its call, and no event of the call comes later,
in the same batch or in another; so no message finds its types gone.
-/

import Rgrpc.Client.Session

namespace Rgrpc.Client

open Library

/-! ### Keys -/

/-- Ids below 2^53 have different keys. -/
theorem callsKey_injective {id other : Nat} (small : id < 9007199254740992)
    (smallOther : other < 9007199254740992) (same : callsKey id = callsKey other) :
    id = other := by
  rw [callsKey, callsKey, asNumeric, asNumeric, if_pos small, if_pos smallOther] at same
  have digits : Nat.toDigits 10 id = Nat.toDigits 10 other := by
    rw [← Nat.toList_repr, ← Nat.toList_repr, same]
  have values := congrArg (fun list => Nat.ofDigitChars 10 list 0) digits
  simpa only [Nat.ofDigitChars_ten_toDigits] using values

/-! ### Events -/

/-- The events of a typed call that carry a decoded response: messages of a stream, and the
completion of a call that ended well. -/
def RClEvent.Decodes (event : RClEvent) : Prop :=
  event.kind = "stream_msg" ∨ event.kind = "unary" ∧ event.status = some 0

theorem statusName_ok_iff {event : RClEvent} (unary : event.kind = "unary") :
    event.statusName = some (some "OK") ↔ event.status = some 0 := by
  have terminal : event.terminal = true := by
    rw [RClEvent.terminal, unary]
    rfl
  rw [RClEvent.statusName, if_pos terminal]
  cases event.status with
  | none => simp
  | some status =>
    simp only [Option.bind_some, Option.some.injEq, Option.map_eq_some_iff]
    constructor
    · rintro ⟨⟨name, code⟩, found, rfl⟩
      have member := List.mem_of_find?_eq_some found
      have same := List.find?_some found
      simp only [grpcStatusCodes, List.mem_cons, Prod.mk.injEq, List.not_mem_nil] at member
      simp at member
      rw [member, beq_iff_eq] at same
      exact same.symm
    · rintro rfl
      exact ⟨("OK", 0), rfl, rfl⟩

theorem decodes_iff (event : RClEvent) :
    (event.kind == "stream_msg" ||
      (event.kind == "unary" && event.statusName == some (some "OK"))) = true ↔ event.Decodes := by
  rw [Bool.or_eq_true, Bool.and_eq_true, beq_iff_eq, beq_iff_eq, beq_iff_eq]
  exact or_congr Iff.rfl (and_congr_right fun unary => statusName_ok_iff unary)

/-- What `decorate_events` decodes of an event. -/
theorem toDecode_iff {event : RClEvent} {types : Option CallTypes} {response : Bytes}
    {output : String} :
    event.toDecode types = some (response, output) ↔
      ∃ own, types = some own ∧ own.output = some output ∧ event.response = some response ∧
        event.Decodes := by
  rw [← decodes_iff]
  unfold RClEvent.toDecode
  simp only [Option.bind_eq_bind, Option.bind_eq_some_iff]
  constructor
  · rintro ⟨type, ⟨own, given, named⟩, bytes, payload, tested⟩
    split at tested
    · rename_i passes
      obtain ⟨rfl, rfl⟩ := Prod.mk.inj (Option.some.inj tested)
      exact ⟨own, given, named, payload, passes⟩
    · exact absurd tested (by simp)
  · rintro ⟨own, given, named, payload, passes⟩
    refine ⟨output, ⟨own, given, named⟩, response, payload, ?_⟩
    rw [if_pos passes]
    rfl

/-- What the table needs of an event: its id, and whether it is terminal. -/
def ClEvent.mark (event : ClEvent) : Nat × Bool := (event.id, event.terminal)

def RClEvent.mark (event : RClEvent) : Nat × Bool := (event.id, event.terminal)

def DecoratedEvent.mark {Message : Type} (decorated : DecoratedEvent Message) : Nat × Bool :=
  decorated.event.mark

/-- The conversion of an event keeps its mark. -/
theorem mark_of_toR {event : ClEvent} {converted : RClEvent}
    (converts : event.toR = .ok converted) : converted.mark = event.mark := by
  have names (kind : EvKind) :
      (kind.name == "unary" || kind.name == "stream_status") =
        (kind == .unary || kind == .status) := by
    cases kind <;> decide
  unfold ClEvent.toR at converts
  simp only at converts
  split at converts
  · cases initial : grpcPairsToR event.initialMd with
    | error error =>
      rw [initial] at converts
      exact absurd converts (by simp [bind, Except.bind])
    | ok pairs =>
      cases trailing : grpcPairsToR event.trailingMd with
      | error error =>
        rw [initial, trailing] at converts
        exact absurd converts (by simp [bind, Except.bind])
      | ok more =>
        rw [initial, trailing] at converts
        rw [← Except.ok.inj converts]
        exact Prod.ext rfl (names event.kind)
  · rw [← Except.ok.inj converts]
    exact Prod.ext rfl (names event.kind)

/-- The conversion of a batch keeps the marks of its events, in order. -/
theorem marks_of_mapM {batch : List ClEvent} {events : List RClEvent}
    (converts : batch.mapM ClEvent.toR = .ok events) :
    events.map RClEvent.mark = batch.map ClEvent.mark := by
  have each := forall₂_of_mapM_ok converts
  clear converts
  induction each with
  | nil => rfl
  | cons converted _ inductionHypothesis =>
    rw [List.map_cons, List.map_cons, inductionHypothesis, mark_of_toR converted]

/-! ### The log of a session -/

section Sessions

variable {Message : Type} {grpcDecode : Bytes → String → Except RError Message}
  {wake : WakeHandle} {session after : RSession} {log news : List (SessionObs Message)}

/-- A batch that was handed over has the marks of what the native poll took. -/
theorem marks_of_deliver {table left : CallTable} {batch : List ClEvent}
    {events : List (DecoratedEvent Message)}
    (delivered : deliver grpcDecode table (batch.mapM ClEvent.toR) = (left, .ok events)) :
    events.map DecoratedEvent.mark = batch.map ClEvent.mark := by
  cases converts : batch.mapM ClEvent.toR with
  | error error =>
    rw [converts] at delivered
    exact absurd (Prod.mk.inj delivered).2 (by simp)
  | ok converted =>
    rw [converts] at delivered
    obtain ⟨-, same, -⟩ := decorateEvents_ok grpcDecode delivered
    rw [← marks_of_mapM converts, ← same, List.map_map]
    rfl

/-- The entry of a poll says of its batch what R was given of it, and what was lost with it. -/
theorem entry_of_deliver {table left : CallTable} {batch : List ClEvent}
    {value : Except RError (List (DecoratedEvent Message))}
    (delivered : deliver grpcDecode table (batch.mapM ClEvent.toR) = (left, value)) :
    ((handed [SessionObs.returned batch (batch.mapM ClEvent.toR) value]).map
      DecoratedEvent.mark).Sublist (batch.map ClEvent.mark) ∧
    batch.countP ClEvent.terminal =
      (handed [SessionObs.returned batch (batch.mapM ClEvent.toR) value]).countP
        (fun one => one.event.terminal) +
      (lost [SessionObs.returned batch (batch.mapM ClEvent.toR) value]).countP
        ClEvent.terminal := by
  cases value with
  | error error =>
    refine ⟨List.nil_sublist _, ?_⟩
    change batch.countP ClEvent.terminal = 0 + (batch ++ []).countP ClEvent.terminal
    rw [List.append_nil, Nat.zero_add]
  | ok events =>
    have given : handed [SessionObs.returned batch (batch.mapM ClEvent.toR) (.ok events)] =
        events := List.append_nil events
    have marks := marks_of_deliver delivered
    rw [given]
    refine ⟨marks ▸ List.Sublist.refl _, ?_⟩
    have terminals := congrArg (List.countP Prod.snd) marks
    rw [List.countP_map, List.countP_map] at terminals
    exact terminals.symm

/-- The log of a session against that of its native client: the ids started and the batches taken
are the same, the events R was given were taken in their order, and a terminal event that was taken
was given or lost. -/
structure Logged (log : List (SessionObs Message)) : Prop where
  begun : (starts log).map Prod.fst = startedIds (nativeLog log)
  drawn : takes log = takenBatches (nativeLog log)
  own : ((handed log).map DecoratedEvent.mark).Sublist ((takes log).flatten.map ClEvent.mark)
  counted : (takes log).flatten.countP ClEvent.terminal =
    (handed log).countP (fun one => one.event.terminal) + (lost log).countP ClEvent.terminal

/-- Entries that take no batch leave the batches of a log as they were. -/
theorem Logged.plain (logged : Logged log)
    (begun : (starts news).map Prod.fst = startedIds (nativeLog news)) (drawn : takes news = [])
    (silent : takenBatches (nativeLog news) = []) (given : handed news = [])
    (kept : lost news = []) :
    Logged (log ++ news) := by
  refine ⟨?_, ?_, ?_, ?_⟩
  · rw [starts_append, nativeLog_append, List.map_append, startedIds_append, logged.begun, begun]
  · rw [takes_append, nativeLog_append, takenBatches_append, logged.drawn, drawn, silent]
  · rw [handed_append, takes_append, given, drawn, List.append_nil, List.append_nil]
    exact logged.own
  · rw [handed_append, takes_append, lost_append, given, drawn, kept, List.append_nil,
      List.append_nil, List.append_nil]
    exact logged.counted

theorem shown_eq {entry : SessionObs Message} {id : Nat} {types : Option CallTypes}
    (shown : entry.shows id types) :
    starts [entry] = [(id, types)] ∧ nativeLog [entry] = [] ∧ takes [entry] = [] ∧
      handed [entry] = [] ∧ lost [entry] = [] := by
  rcases shown with ⟨method, rfl, rfl⟩ | ⟨method, rfl, rfl⟩ <;> exact ⟨rfl, rfl, rfl, rfl, rfl⟩

theorem Logged.step (logged : Logged log) (turn : SessionTurn grpcDecode session after news) :
    Logged (log ++ news) := by
  cases turn with
  | refused error => exact logged.plain rfl rfl rfl rfl rfl
  | started input client native types entry step named opened silent shown =>
    obtain ⟨shows, unseen, untaken, unhanded, unlost⟩ := shown_eq shown
    refine logged.plain ?_ ?_ ?_ ?_ ?_
    · simp [shows, unseen, named]
    · simp [untaken]
    · simp [unseen, silent]
    · simp [unhanded]
    · simp [unlost]
  | moved input client native step unnamed silent =>
    refine logged.plain ?_ ?_ ?_ ?_ ?_
    · simp [unnamed]
    · simp
    · simpa using silent
    · simp
    · simp
  | polled input client native batch types value step unnamed took delivered =>
    obtain ⟨own, counted⟩ := entry_of_deliver delivered
    have begun : starts [SessionObs.returned batch (batch.mapM ClEvent.toR) value] = [] := rfl
    have unseen : nativeLog [SessionObs.returned batch (batch.mapM ClEvent.toR) value] = [] := rfl
    have drawn : takes [SessionObs.returned batch (batch.mapM ClEvent.toR) value] = [batch] := rfl
    refine ⟨?_, ?_, ?_, ?_⟩
    · simp [begun, unseen, unnamed, logged.begun]
    · simp [drawn, unseen, took, logged.drawn]
    · rw [handed_append, handed_append, handed_map, List.nil_append, takes_append, takes_append,
        takes_map, List.nil_append, drawn, List.flatten_append, List.flatten_singleton,
        List.map_append, List.map_append]
      exact logged.own.append own
    · rw [handed_append, handed_append, handed_map, List.nil_append, takes_append, takes_append,
        takes_map, List.nil_append, drawn, List.flatten_append, List.flatten_singleton,
        lost_append, lost_append, lost_map, List.nil_append, List.countP_append,
        List.countP_append, List.countP_append, logged.counted, counted]
      omega

/-- Along every run of a session. -/
theorem logged_of_run (run : (sessionMachine grpcDecode wake).Run Machine.Free session log) :
    Logged log := by
  induction run with
  | start => exact ⟨rfl, rfl, .slnil, rfl⟩
  | next before _ taken inductionHypothesis =>
    exact inductionHypothesis.step
      (turn_of_sessionStep (sound_of_run (native_of_run before)) taken)

/-- A log in which an id is started once, every event R was given carries an id that was started,
and none comes after the terminal event of its id. -/
structure Orderly (log : List (SessionObs Message)) : Prop where
  distinct : ((starts log).map Prod.fst).Nodup
  ordered : (handed log).Pairwise fun earlier later =>
    earlier.event.id = later.event.id → earlier.event.terminal = false
  started : ∀ one ∈ handed log, one.event.id ∈ (starts log).map Prod.fst

theorem orderly_of_run (run : (sessionMachine grpcDecode wake).Run Machine.Free session log) :
    Orderly log := by
  obtain ⟨begun, drawn, own, -⟩ := logged_of_run run
  have taken := taken_of_run (native_of_run run)
  rw [drawn] at own
  refine ⟨begun ▸ startedIds_nodup (native_of_run run), ?_, fun one member => ?_⟩
  · have marked : ((takenBatches (nativeLog log)).flatten.map ClEvent.mark).Pairwise
        fun earlier later => earlier.1 = later.1 → earlier.2 = false :=
      List.pairwise_map.mpr taken.ordered
    exact List.pairwise_map.mp (marked.sublist own)
  · obtain ⟨event, inside, same⟩ := List.mem_map.mp (own.subset (List.mem_map_of_mem member))
    have id : event.id = one.event.id := (Prod.mk.inj same).1
    rw [begun, ← id]
    exact taken.started event inside

/-! ### The table -/

/-- A typed call or stream that was started under these types, and whose terminal event R was not
given. -/
def Outstanding (log : List (SessionObs Message)) (id : Nat) (types : CallTypes) : Prop :=
  (id, some types) ∈ starts log ∧ ∀ one ∈ handed log, one.event.id = id → one.event.terminal = false

/-- An event R was given carries its response decoded to the output type of its call if it is an
event of a typed call that is decoded, and no message otherwise. -/
structure Carries (grpcDecode : Bytes → String → Except RError Message)
    (log : List (SessionObs Message)) (one : DecoratedEvent Message) : Prop where
  decoded : ∀ types output response, (one.event.id, some types) ∈ starts log →
    types.output = some output → one.event.response = some response → one.event.Decodes →
      ∃ message, grpcDecode response output = .ok message ∧ one.responseMessage = some message
  only : ∀ message, one.responseMessage = some message → ∃ types output response,
    (one.event.id, some types) ∈ starts log ∧ types.output = some output ∧
      one.event.response = some response ∧ one.event.Decodes

/-- The table holds exactly the typed calls that are outstanding, each under the text of its id with
its own types, and the events R was given carry what they should. -/
structure Tracked (grpcDecode : Bytes → String → Except RError Message) (session : RSession)
    (log : List (SessionObs Message)) : Prop where
  exact : ∀ key types, session.types.lookup key = some types ↔
    ∃ id, callsKey id = key ∧ Outstanding log id types
  carries : ∀ one ∈ handed log, Carries grpcDecode log one

/-- Ids that a `double` holds. -/
def Small (log : List (SessionObs Message)) : Prop :=
  ∀ entry ∈ starts log, entry.1 < 9007199254740992

theorem Small.injective (small : Small log) {id other : Nat}
    (begun : id ∈ (starts log).map Prod.fst) (otherBegun : other ∈ (starts log).map Prod.fst)
    (same : callsKey id = callsKey other) : id = other := by
  obtain ⟨entry, member, rfl⟩ := List.mem_map.mp begun
  obtain ⟨entry', member', rfl⟩ := List.mem_map.mp otherBegun
  exact callsKey_injective (small entry member) (small entry' member') same

/-- Entries that start nothing and hand nothing over leave the table tracked as it is. -/
theorem Tracked.plain (tracked : Tracked grpcDecode session log)
    (same : after.types = session.types) (begun : starts news = []) (given : handed news = []) :
    Tracked grpcDecode after (log ++ news) := by
  have starts' : starts (log ++ news) = starts log := by
    rw [starts_append, begun, List.append_nil]
  have handed' : handed (log ++ news) = handed log := by
    rw [handed_append, given, List.append_nil]
  refine ⟨fun key types => ?_, fun one member => ?_⟩
  · rw [same, tracked.exact]
    unfold Outstanding
    rw [starts', handed']
  · rw [handed'] at member
    obtain ⟨decoded, only⟩ := tracked.carries one member
    rw [← starts'] at decoded only
    exact ⟨decoded, only⟩

/-- What a start remembers is looked up under its id, as long as nothing was before. -/
theorem lookup_remember {table : CallTable} {id : Nat} (types : Option CallTypes) (key : String)
    (vacant : table.lookup (callsKey id) = none) :
    (remember table id types).lookup key =
      if key = callsKey id then types else table.lookup key := by
  split
  · rename_i own
    subst own
    cases types with
    | none => exact vacant
    | some types => exact AList.lookup_insert table
  · rename_i other
    cases types with
    | none => rfl
    | some types => exact AList.lookup_insert_ne other

/-- A start enters its types under its id. -/
theorem Tracked.start (tracked : Tracked grpcDecode session log) (orderly : Orderly log)
    (small : Small (log ++ news)) {id : Nat} {types : Option CallTypes}
    (begun : starts news = [(id, types)]) (fresh : id ∉ (starts log).map Prod.fst)
    (given : handed news = []) (table : after.types = remember session.types id types) :
    Tracked grpcDecode after (log ++ news) := by
  have starts' : starts (log ++ news) = starts log ++ [(id, types)] := by
    rw [starts_append, begun]
  have handed' : handed (log ++ news) = handed log := by
    rw [handed_append, given, List.append_nil]
  have untold : ∀ one ∈ handed log, one.event.id ≠ id := fun one member same =>
    fresh (same ▸ orderly.started one member)
  have ids {other : Nat} {own : Option CallTypes} (member : (other, own) ∈ starts (log ++ news)) :
      other ∈ (starts (log ++ news)).map Prod.fst := List.mem_map_of_mem (f := Prod.fst) member
  have listed : id ∈ (starts (log ++ news)).map Prod.fst := by
    rw [starts']
    simp
  have earlier {other : Nat} {own : Option CallTypes} (different : other ≠ id) :
      (other, own) ∈ starts (log ++ news) ↔ (other, own) ∈ starts log := by
    rw [starts', List.mem_append, List.mem_singleton, Prod.mk.injEq]
    exact or_iff_left fun same => different same.1
  have latest {own : Option CallTypes} : (id, own) ∈ starts (log ++ news) ↔ own = types := by
    rw [starts', List.mem_append, List.mem_singleton, Prod.mk.injEq]
    exact ⟨fun either => either.elim
      (fun before => absurd (List.mem_map_of_mem (f := Prod.fst) before) fresh) And.right,
      fun same => Or.inr ⟨rfl, same⟩⟩
  have kept {other : Nat} {own : CallTypes} (different : other ≠ id) :
      Outstanding (log ++ news) other own ↔ Outstanding log other own := by
    rw [Outstanding, Outstanding, handed', earlier different]
  have entered {own : CallTypes} : Outstanding (log ++ news) id own ↔ some own = types := by
    rw [Outstanding, handed', latest]
    exact and_iff_left fun one member same => absurd same (untold one member)
  have vacant : session.types.lookup (callsKey id) = none := by
    by_contra occupied
    obtain ⟨own, found⟩ := Option.ne_none_iff_exists'.mp occupied
    obtain ⟨other, same, before, -⟩ := (tracked.exact _ own).mp found
    have inside : other ∈ (starts log).map Prod.fst := List.mem_map_of_mem (f := Prod.fst) before
    have different : other ≠ id := fun equal => fresh (equal ▸ inside)
    exact different (small.injective (ids ((earlier different).mpr before)) listed same)
  refine ⟨fun key own => ?_, fun one member => ?_⟩
  · rw [table, lookup_remember types key vacant]
    split
    · rename_i own'
      subst own'
      constructor
      · exact fun same => ⟨id, rfl, entered.mpr same.symm⟩
      · rintro ⟨other, same, outstanding⟩
        obtain rfl := small.injective (ids outstanding.1) listed same
        exact (entered.mp outstanding).symm
    · rename_i other'
      rw [tracked.exact]
      refine exists_congr fun other => and_congr_right fun same => (kept ?_).symm
      rintro rfl
      exact other' same.symm
  · rw [handed'] at member
    have different := untold one member
    obtain ⟨decoded, only⟩ := tracked.carries one member
    refine ⟨fun own output response before => decoded own output response
      ((earlier different).mp before), fun message carried => ?_⟩
    obtain ⟨own, output, response, before, rest⟩ := only message carried
    exact ⟨own, output, response, (earlier different).mpr before, rest⟩

/-- Whether a call ends in a list of events that are handed over, as the table sees it. -/
theorem Small.ends_iff (small : Small log) {given : List (DecoratedEvent Message)}
    (told : ∀ one ∈ given, one.event.id ∈ (starts log).map Prod.fst) {id : Nat}
    (listed : id ∈ (starts log).map Prod.fst) :
    ((given.map DecoratedEvent.event).any
      fun event => event.terminal && callsKey event.id == callsKey id) = true ↔
      ∃ one ∈ given, one.event.id = id ∧ one.event.terminal = true := by
  rw [List.any_map, List.any_eq_true]
  refine exists_congr fun one => and_congr_right fun member => ?_
  rw [Function.comp_apply, Bool.and_eq_true, beq_iff_eq, and_comm]
  exact and_congr_left fun _ => ⟨small.injective (told one member) listed, congrArg callsKey⟩

/-- The types of the calls that end in a batch are dropped, and no others. -/
theorem Tracked.settle (tracked : Tracked grpcDecode session log)
    (small : Small log) (told : ∀ one ∈ handed news, one.event.id ∈ (starts log).map Prod.fst)
    (begun : starts news = []) (key : String) (types : CallTypes) :
    (((handed news).map DecoratedEvent.event).foldl Client.settle session.types).lookup key =
        some types ↔
      ∃ id, callsKey id = key ∧ Outstanding (log ++ news) id types := by
  have ids {id : Nat} (member : (id, some types) ∈ starts log) :
      id ∈ (starts log).map Prod.fst := List.mem_map_of_mem (f := Prod.fst) member
  unfold Outstanding
  rw [lookup_foldl_settle, starts_append, begun, List.append_nil, handed_append]
  constructor
  · intro found
    split at found
    · exact absurd found (by simp)
    · rename_i going
      obtain ⟨id, rfl, before, untold⟩ := (tracked.exact key types).mp found
      refine ⟨id, rfl, before, fun one member own => ?_⟩
      rcases List.mem_append.mp member with earlier | now
      · exact untold one earlier own
      · by_contra terminal
        exact going ((small.ends_iff told (ids before)).mpr
          ⟨one, now, own, by simpa using terminal⟩)
  · rintro ⟨id, rfl, before, untold⟩
    rw [if_neg]
    · exact (tracked.exact _ types).mpr ⟨id, rfl, before, fun one member =>
        untold one (List.mem_append_left _ member)⟩
    · intro ends
      obtain ⟨one, now, own, last⟩ := (small.ends_iff told (ids before)).mp ends
      have going := untold one (List.mem_append_right _ now) own
      exact absurd (going.symm.trans last) (by simp)

/-- An event of a batch finds the types of its call, since none before it ended the call. -/
theorem Tracked.types_found (tracked : Tracked grpcDecode session log)
    (orderly : Orderly (log ++ news)) (small : Small log)
    (told : ∀ one ∈ handed news, one.event.id ∈ (starts log).map Prod.fst)
    {before behind : List (DecoratedEvent Message)} {one : DecoratedEvent Message}
    (split : handed news = before ++ one :: behind) (types : CallTypes) :
    typesAfter session.types (before.map DecoratedEvent.event) one.event = some types ↔
      (one.event.id, some types) ∈ starts log := by
  obtain ⟨-, inside, across⟩ := List.pairwise_append.mp (handed_append log news ▸ orderly.ordered)
  have now : one ∈ handed news := split ▸ List.mem_append_right _ List.mem_cons_self
  have earlier : ∀ other ∈ before, other.event.id ∈ (starts log).map Prod.fst :=
    fun other listed => told other (split ▸ List.mem_append_left _ listed)
  have going : ¬ ((before.map DecoratedEvent.event).any fun event =>
      event.terminal && callsKey event.id == callsKey one.event.id) = true := by
    rw [small.ends_iff earlier (told one now)]
    rintro ⟨other, listed, own, last⟩
    rw [split] at inside
    have order := (List.pairwise_append.mp inside).2.2 other listed one List.mem_cons_self own
    exact absurd (order.symm.trans last) (by simp)
  rw [typesAfter, if_neg going, callsGet, tracked.exact]
  constructor
  · rintro ⟨id, key, listed, -⟩
    have begun : id ∈ (starts log).map Prod.fst := List.mem_map_of_mem (f := Prod.fst) listed
    exact small.injective begun (told one now) key ▸ listed
  · exact fun listed => ⟨one.event.id, rfl, listed, fun earlier member =>
      across earlier member one now⟩

/-- A batch that is handed over drops the calls that end in it, and its events carry what they
should. -/
theorem Tracked.handOver (tracked : Tracked grpcDecode session log)
    (orderly : Orderly (log ++ news)) (small : Small log) (begun : starts news = [])
    {converted : List RClEvent} (delivered : decorateEvents grpcDecode session.types converted =
      (after.types, .ok (handed news))) : Tracked grpcDecode after (log ++ news) := by
  obtain ⟨settled, same, each⟩ := decorateEvents_ok grpcDecode delivered
  have starts' : starts (log ++ news) = starts log := by
    rw [starts_append, begun, List.append_nil]
  have told : ∀ one ∈ handed news, one.event.id ∈ (starts log).map Prod.fst := by
    intro one member
    rw [← starts']
    refine orderly.started one ?_
    rw [handed_append]
    exact List.mem_append_right _ member
  refine ⟨fun key types => ?_, fun one member => ?_⟩
  · rw [settled, ← same]
    exact tracked.settle small told begun key types
  · rw [handed_append] at member
    rcases List.mem_append.mp member with earlier | now
    · obtain ⟨decoded, only⟩ := tracked.carries one earlier
      rw [← starts'] at decoded only
      exact ⟨decoded, only⟩
    · obtain ⟨before, behind, split⟩ := List.mem_iff_append.mp now
      have found := tracked.types_found orderly small told split
      rw [← starts'] at found
      have decoded := each before one behind split
      refine ⟨fun types output response listed named payload decodes =>
        decoded.decoded response output (toDecode_iff.mpr
          ⟨types, (found types).mpr listed, named, payload, decodes⟩), fun message carried => ?_⟩
      cases wanted : one.event.toDecode
          (typesAfter session.types (before.map DecoratedEvent.event) one.event) with
      | none => exact absurd ((decoded.plain wanted).symm.trans carried) (by simp)
      | some pair =>
        obtain ⟨types, given, named, payload, decodes⟩ := toDecode_iff.mp wanted
        exact ⟨types, pair.2, pair.1, (found types).mp given, named, payload, decodes⟩

theorem Small.of_append (small : Small (log ++ news)) : Small log := by
  intro entry member
  refine small entry ?_
  rw [starts_append]
  exact List.mem_append_left _ member

/-- The table of call types is exact along every run in which no `grpc_decode` raises: its keys are
the typed calls and streams that are outstanding, and every event R is given carries a decoded
response exactly when it is one of a typed call that is decoded. -/
theorem call_types_tracked (grpcDecode : Bytes → String → Except RError Message)
    (wake : WakeHandle) (session : RSession) (log : List (SessionObs Message))
    (run : (sessionMachine grpcDecode wake).Run Machine.Free session log) (small : Small log)
    (decodes : log.any SessionObs.decodeRaised = false) : Tracked grpcDecode session log := by
  induction run with
  | start =>
    refine ⟨fun key types => ⟨fun found => absurd found (by simp [sessionMachine]), ?_⟩,
      fun _ absurdity => absurd absurdity List.not_mem_nil⟩
    rintro ⟨id, -, begun, -⟩
    exact absurd begun List.not_mem_nil
  | @next state after log news input before allowed taken inductionHypothesis =>
    rw [List.any_append, Bool.or_eq_false_iff] at decodes
    have tracked := inductionHypothesis small.of_append decodes.1
    have orderly := orderly_of_run (before.next allowed taken)
    cases turn_of_sessionStep (sound_of_run (native_of_run before)) taken with
    | refused error => exact tracked.plain rfl rfl rfl
    | started input client native types entry step named opened silent shown =>
      obtain ⟨shows, -, -, unhanded, -⟩ := shown_eq shown
      have begun : starts (native.map .native ++ [entry]) = [(state.client.nextId, types)] := by
        simp [shows]
      have fresh : state.client.nextId ∉ (starts log).map Prod.fst := by
        rw [(logged_of_run before).begun, mem_startedIds_iff (native_of_run before)]
        exact fun behind => Nat.lt_irrefl _ behind.2
      exact tracked.start (orderly_of_run before) small begun fresh (by simp [unhanded]) rfl
    | moved input client native step unnamed silent =>
      exact tracked.plain rfl (starts_map native) (handed_map native)
    | polled input client native batch types value step unnamed took delivered =>
      have begun : starts (native.map .native ++
          [SessionObs.returned batch (batch.mapM ClEvent.toR) value]) = [] := by
        rw [starts_append, starts_map]
        rfl
      have whole : (SessionObs.returned batch (batch.mapM ClEvent.toR) value).decodeRaised =
          false := Bool.eq_false_iff.mpr (List.any_eq_false.mp decodes.2 _
            (List.mem_append_right _ List.mem_cons_self))
      cases value with
      | error error =>
        cases converts : batch.mapM ClEvent.toR with
        | error raised =>
          rw [converts] at delivered
          refine tracked.plain (Prod.mk.inj delivered).1.symm ?_ ?_
          · rw [← converts]
            exact begun
          · rw [handed_append, handed_map]
            rfl
        | ok converted =>
          rw [converts] at whole
          exact absurd whole (by simp [SessionObs.decodeRaised])
      | ok events =>
        cases converts : batch.mapM ClEvent.toR with
        | error raised =>
          rw [converts] at delivered
          exact absurd (Prod.mk.inj delivered).2 (by simp)
        | ok converted =>
          rw [converts] at delivered begun orderly small
          have given : handed (native.map .native ++
              [SessionObs.returned batch (.ok converted) (.ok events)]) = events := by
            rw [handed_append, handed_map]
            exact List.append_nil events
          exact tracked.handOver orderly small.of_append begun (by rw [given]; exact delivered)

/-! ### A run -/

/-- A unary method. -/
def sayHello : GrpcMethod :=
  { path := "/", inputType := "Request", outputType := "Reply" }

/-- A typed call, an untyped stream and another typed call: the stream hears a message and the first
call is answered. One poll takes both. -/
def typedInputs : List SessionInput :=
  [.grpcCall (.typed sayHello) (.raw [7]) {} 0,
    .grpcStream (.full (.text [47])) {} 0 16 16,
    .grpcCall (.typed sayHello) (.raw [7]) {} 0,
    .other (.returned 0 .start { ok := true }),
    .other (.returned 0 .read { ok := true, message := .ofRaw [2] }),
    .other (.unary 0 { ok := true, message := .ofRaw [1] }),
    .grpcPoll 64 0 0]

end Sessions

theorem call_types_tracked_mixed : ∃ session log,
    (sessionMachine decodeOne ⟨16, 0⟩).Run Machine.Free session log ∧
      session.types.keys = [callsKey 3] ∧
      (handed log).map (fun one => (one.event.id, one.responseMessage)) =
        [(2, none), (1, some ())] ∧
      Tracked decodeOne session log := by
  have run := Machine.run_of_exec (show (sessionMachine decodeOne ⟨16, 0⟩).exec Machine.Free
    (sessionMachine decodeOne ⟨16, 0⟩).start typedInputs = some _ from rfl)
  refine ⟨_, _, run, rfl, rfl, call_types_tracked decodeOne ⟨16, 0⟩ _ _ run ?_ ?_⟩
  · unfold Small
    decide
  · rfl

end Rgrpc.Client
