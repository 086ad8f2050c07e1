/-
This file proves the accounting of one client stream, as `Rgrpc/Server/Ledger.lean`
does for a server call: after every part of every section its flags, its count
of pending tags and its write queue agree with the operations that were posted
and returned, and every operation was posted by the rules.
-/

import Rgrpc.Client.Client

namespace Rgrpc.Client

open Library

/-! ### What the helpers can do -/

theorem sPostReadLocked_cases (shutting : Bool) (stream : StreamState) :
    sPostReadLocked shutting stream = (stream, []) ∨
      shutting = false ∧ stream.started = true ∧ stream.readInflight = false ∧
        stream.readsClosed = false ∧ stream.broken = false ∧ stream.finishPosted = false ∧
        sPostReadLocked shutting stream =
          ({ stream with readInflight := true, pending := stream.pending + 1 },
            [.posted .read]) := by
  unfold sPostReadLocked
  split
  · exact Or.inl rfl
  · rename_i free
    simp only [Bool.or_eq_true, Bool.not_eq_true', not_or, Bool.not_eq_true,
      Bool.not_eq_false] at free
    obtain ⟨⟨⟨⟨⟨running, idle⟩, open_⟩, sane⟩, unfinished⟩, started⟩ := free
    exact Or.inr ⟨running, started, idle, open_, sane, unfinished, rfl⟩

/-- The pump posts nothing, or the write at the front of the queue, or the half-close once the
queue is empty. -/
theorem sPumpWritesLocked_cases (shutting : Bool) (stream : StreamState) :
    sPumpWritesLocked shutting stream = (stream, []) ∨
      shutting = false ∧ stream.started = true ∧ stream.broken = false ∧
        stream.finishPosted = false ∧ stream.writeInflight = false ∧
        ((∃ front rest, stream.writeQueue = front :: rest ∧
            sPumpWritesLocked shutting stream =
              ({ stream with writeInflight := true, pending := stream.pending + 1 },
                [.posted (.write front)])) ∨
          stream.writeQueue = [] ∧ stream.wdoneRequested = true ∧ stream.wdoneSent = false ∧
            stream.wdoneInflight = false ∧
            sPumpWritesLocked shutting stream =
              ({ stream with wdoneInflight := true, pending := stream.pending + 1 },
                [.posted .writesDone])) := by
  unfold sPumpWritesLocked
  split
  · exact Or.inl rfl
  · rename_i free
    simp only [Bool.or_eq_true, Bool.not_eq_true', not_or, Bool.not_eq_true,
      Bool.not_eq_false] at free
    obtain ⟨⟨⟨running, started⟩, sane⟩, unfinished⟩ := free
    split
    · exact Or.inl rfl
    · rename_i idle
      rw [Bool.not_eq_true] at idle
      cases queue : stream.writeQueue with
      | cons front rest =>
        exact Or.inr ⟨running, started, sane, unfinished, idle, Or.inl ⟨front, rest, rfl, rfl⟩⟩
      | nil =>
        simp only
        split
        · rename_i wanted
          simp only [Bool.and_eq_true, Bool.not_eq_true'] at wanted
          exact Or.inr ⟨running, started, sane, unfinished, idle,
            Or.inr ⟨trivial, wanted.1.1, wanted.1.2, wanted.2, rfl⟩⟩
        · exact Or.inl rfl

theorem sTryFinishLocked_cases (shutting : Bool) (stream : StreamState) :
    sTryFinishLocked shutting stream = (stream, []) ∨
      shutting = false ∧ stream.started = true ∧ stream.wantFinish = true ∧
        stream.finishPosted = false ∧ stream.readInflight = false ∧
        stream.writeInflight = false ∧ stream.wdoneInflight = false ∧
        sTryFinishLocked shutting stream =
          ({ stream with finishPosted := true, pending := stream.pending + 1 },
            [.posted .finish]) := by
  unfold sTryFinishLocked
  split
  · exact Or.inl rfl
  · rename_i free
    simp only [Bool.or_eq_true, Bool.not_eq_true', not_or, Bool.not_eq_true,
      Bool.not_eq_false] at free
    obtain ⟨⟨running, wanted⟩, unfinished⟩ := free
    split
    · exact Or.inl rfl
    · rename_i idle
      simp only [Bool.or_eq_true, not_or, Bool.not_eq_true] at idle
      obtain ⟨⟨reads, writes⟩, halfClose⟩ := idle
      split
      · exact Or.inl rfl
      · rename_i started
        exact Or.inr ⟨running, by simpa using started, wanted, unfinished, reads, writes,
          halfClose, rfl⟩

/-- How a request of R is answered: refused, or accepted as a send or a half-close. -/
theorem answer_cases (shutting : Bool) (request : StreamRequest) (stream : StreamState) :
    request.answer shutting stream = refuse stream ∨
      (∃ bytes, request = .send bytes ∧ stream.broken = false ∧ stream.finishPosted = false ∧
        stream.wdoneRequested = false ∧ stream.writeQueue.length < stream.writeCap ∧
        request.answer shutting stream = acceptAndPump shutting (.send bytes)
          { stream with writeQueue := stream.writeQueue ++ [.ofRaw bytes] }) ∨
      request = .writesDone ∧ stream.wdoneRequested = false ∧
        request.answer shutting stream =
          acceptAndPump shutting .writesDone { stream with wdoneRequested := true } := by
  cases request with
  | send bytes =>
    rw [StreamRequest.answer, sendStream]
    split
    · exact Or.inl rfl
    · rename_i open_
      simp only [Bool.or_eq_true, not_or, Bool.not_eq_true] at open_
      obtain ⟨⟨sane, unfinished⟩, unclosed⟩ := open_
      split
      · exact Or.inl rfl
      · rename_i room
        exact Or.inr (Or.inl ⟨bytes, rfl, sane, unfinished, unclosed, Nat.lt_of_not_le room,
          rfl⟩)
  | writesDone =>
    rw [StreamRequest.answer, writesDoneStream]
    split
    · exact Or.inl rfl
    · rename_i unclosed
      exact Or.inr (Or.inr ⟨rfl, by simpa using unclosed, rfl⟩)

/-! ### Counting a log -/

/-- How many operations of a kind were posted. -/
def posts (op : TagKind) (log : List StreamObs) : Nat :=
  log.countP fun
    | .posted post => post.op == op
    | _ => false

/-- How many tags of a kind were returned. -/
def returns (op : TagKind) (log : List StreamObs) : Nat :=
  log.countP fun
    | .returned other _ _ => other == op
    | _ => false

section Counting

variable (op : TagKind) (log more : List StreamObs)

@[simp]
theorem posts_nil : posts op [] = 0 := rfl

@[simp]
theorem posts_append : posts op (log ++ more) = posts op log + posts op more :=
  List.countP_append

@[simp]
theorem posts_posted (post : StreamPost) :
    posts op (.posted post :: log) = (if post.op = op then 1 else 0) + posts op log := by
  by_cases same : post.op = op <;> simp [posts, same, Nat.add_comm]

@[simp]
theorem posts_pushed (event : ClEvent) : posts op (.pushed event :: log) = posts op log := by
  simp [posts]

@[simp]
theorem posts_returned (other : TagKind) (ok : Bool) (message : ByteBuffer) :
    posts op (.returned other ok message :: log) = posts op log := by
  simp [posts]

@[simp]
theorem posts_accepted (request : StreamRequest) :
    posts op (.accepted request :: log) = posts op log := by
  simp [posts]

@[simp]
theorem posts_taken : posts op (.taken :: log) = posts op log := by
  simp [posts]

@[simp]
theorem returns_nil : returns op [] = 0 := rfl

@[simp]
theorem returns_append : returns op (log ++ more) = returns op log + returns op more :=
  List.countP_append

@[simp]
theorem returns_returned (other : TagKind) (ok : Bool) (message : ByteBuffer) :
    returns op (.returned other ok message :: log) =
      (if other = op then 1 else 0) + returns op log := by
  by_cases same : other = op <;> simp [returns, same, Nat.add_comm]

@[simp]
theorem returns_posted (post : StreamPost) :
    returns op (.posted post :: log) = returns op log := by
  simp [returns]

@[simp]
theorem returns_pushed (event : ClEvent) :
    returns op (.pushed event :: log) = returns op log := by
  simp [returns]

@[simp]
theorem returns_accepted (request : StreamRequest) :
    returns op (.accepted request :: log) = returns op log := by
  simp [returns]

@[simp]
theorem returns_taken : returns op (.taken :: log) = returns op log := by
  simp [returns]

end Counting

@[simp]
theorem postedTags_nil : postedTags [] = [] := rfl

@[simp]
theorem postedTags_posted (post : StreamPost) (log : List StreamObs) :
    postedTags (.posted post :: log) = post.op :: postedTags log := rfl

@[simp]
theorem postedTags_pushed (event : ClEvent) (log : List StreamObs) :
    postedTags (.pushed event :: log) = postedTags log := rfl

@[simp]
theorem postedTags_taken (log : List StreamObs) :
    postedTags (.taken :: log) = postedTags log := rfl

@[simp]
theorem postedTags_append (log more : List StreamObs) :
    postedTags (log ++ more) = postedTags log ++ postedTags more :=
  List.filterMap_append

/-! ### The rules for posting operations -/

/-- No operation of a kind is outstanding. -/
def Settled (op : TagKind) (log : List StreamObs) : Prop := posts op log = returns op log

/-- The start of the call completed, and its end was not yet asked for. -/
def Underway (log : List StreamObs) : Prop := returns .start log = 1 ∧ posts .finish log = 0

/-- What must have happened on a stream for an entry of its log to follow: the call is started
first; any other operation is posted between the completion of the start and the finish, a read
while no read is outstanding, a write or the half-close while no write is outstanding and the
half-close was not posted, the finish while none of them is outstanding. -/
def Disciplined (before : List StreamObs) : StreamObs → Prop
  | .posted .startCall => before = []
  | .posted .read => Underway before ∧ Settled .read before
  | .posted (.write _) => Underway before ∧ Settled .write before ∧ posts .wdone before = 0
  | .posted .writesDone => Underway before ∧ Settled .write before ∧ posts .wdone before = 0
  | .posted .finish =>
    Underway before ∧ Settled .read before ∧ Settled .write before ∧ Settled .wdone before
  | _ => True

theorem disciplined_of_not_posted {entry : StreamObs} (silent : ∀ op, posts op [entry] = 0)
    (before : List StreamObs) : Disciplined before entry := by
  cases entry with
  | posted post =>
    have one := silent post.op
    simp at one
  | _ => trivial

theorem lawful_append_of_silent {log obs : List StreamObs} (lawful : Lawful Disciplined log)
    (silent : ∀ op, posts op obs = 0) : Lawful Disciplined (log ++ obs) := by
  refine lawful.append fun before entry after equal => disciplined_of_not_posted (fun op => ?_) _
  have zero := silent op
  rw [equal, posts_append, ← List.singleton_append, posts_append] at zero
  omega

/-! ### The ledger of an opened stream -/

/-- The accounting of a stream that was opened: its flags and its count of pending tags against the
tags outstanding and the log, and its write queue against its flags. -/
structure Ledger (stream : StreamState) (tags : List TagKind) (log : List StreamObs) : Prop where
  pending : stream.pending = tags.length
  start : tags.count .start = if stream.started then 0 else 1
  read : tags.count .read = if stream.readInflight then 1 else 0
  write : tags.count .write = if stream.writeInflight then 1 else 0
  wdone : tags.count .wdone = if stream.wdoneInflight then 1 else 0
  finish : tags.count .finish = if stream.finishPosted && !stream.statusEmitted then 1 else 0
  balance : ∀ op, posts op log = returns op log + tags.count op
  opened : posts .start log = 1
  halfClosed : posts .wdone log = if stream.wdoneInflight || stream.wdoneSent then 1 else 0
  ended : posts .finish log = if stream.finishPosted then 1 else 0
  unstarted : stream.started = false → stream.readInflight = false ∧
    stream.writeInflight = false ∧ stream.wdoneInflight = false ∧ stream.finishPosted = false
  finished : stream.finishPosted = true → stream.readInflight = false ∧
    stream.writeInflight = false ∧ stream.wdoneInflight = false
  queued : stream.writeInflight = true → stream.writeQueue ≠ []
  drained : (stream.wdoneInflight || stream.wdoneSent) = true →
    stream.wdoneRequested = true ∧ stream.writeQueue = [] ∧ stream.writeInflight = false
  emitted : stream.statusEmitted = true → stream.finishPosted = true
  lawful : Lawful Disciplined log

/-- An operation of a kind is posted: its tag and its entry of the log. -/
theorem balance_post {tags : List TagKind} {log : List StreamObs}
    (balance : ∀ op, posts op log = returns op log + tags.count op) (post : StreamPost) :
    ∀ op, posts op (log ++ [.posted post]) =
      returns op (log ++ [.posted post]) + (tags ++ [post.op]).count op := by
  intro op
  have before := balance op
  simp only [posts_append, posts_posted, posts_nil, returns_append, returns_posted, returns_nil,
    List.count_append, List.count_singleton, beq_iff_eq]
  omega

theorem Ledger.underway {stream : StreamState} {tags : List TagKind} {log : List StreamObs}
    (ledger : Ledger stream tags log) (started : stream.started = true)
    (unfinished : stream.finishPosted = false) : Underway log := by
  have balance := ledger.balance .start
  have ended := ledger.ended
  rw [ledger.opened, ledger.start, started] at balance
  rw [unfinished] at ended
  exact ⟨balance.symm, ended⟩

theorem Ledger.settled {stream : StreamState} {tags : List TagKind} {log : List StreamObs}
    (ledger : Ledger stream tags log) {op : TagKind} (idle : tags.count op = 0) :
    Settled op log := by
  have balance := ledger.balance op
  rw [idle] at balance
  exact balance

/-! ### Posting operations -/

theorem Ledger.postRead {stream : StreamState} {tags : List TagKind} {log : List StreamObs}
    (ledger : Ledger stream tags log) (started : stream.started = true)
    (idle : stream.readInflight = false) (unfinished : stream.finishPosted = false) :
    Ledger { stream with readInflight := true, pending := stream.pending + 1 }
      (tags ++ [.read]) (log ++ [.posted .read]) where
  pending := by simp [ledger.pending]
  start := by simp [ledger.start]
  read := by simp [ledger.read, idle]
  write := by simp [ledger.write]
  wdone := by simp [ledger.wdone]
  finish := by simp [ledger.finish]
  balance := balance_post ledger.balance .read
  opened := by simp [ledger.opened, StreamPost.op]
  halfClosed := by simp [ledger.halfClosed, StreamPost.op]
  ended := by simp [ledger.ended, StreamPost.op]
  unstarted := fun early => absurd (early.symm.trans started) Bool.false_ne_true
  finished := fun late => absurd (unfinished.symm.trans late) Bool.false_ne_true
  queued := ledger.queued
  drained := ledger.drained
  emitted := ledger.emitted
  lawful := lawful_append_singleton.mpr ⟨ledger.lawful, ledger.underway started unfinished,
    ledger.settled (by rw [ledger.read, idle]; rfl)⟩

theorem Ledger.postWrite {stream : StreamState} {tags : List TagKind} {log : List StreamObs}
    (ledger : Ledger stream tags log) (message : ByteBuffer) (started : stream.started = true)
    (idle : stream.writeInflight = false) (waiting : stream.writeQueue ≠ [])
    (unfinished : stream.finishPosted = false) :
    Ledger { stream with writeInflight := true, pending := stream.pending + 1 }
      (tags ++ [.write]) (log ++ [.posted (.write message)]) := by
  have unclosed : (stream.wdoneInflight || stream.wdoneSent) = false := by
    by_contra closed
    rw [Bool.not_eq_false] at closed
    exact waiting (ledger.drained closed).2.1
  have none : posts .wdone log = 0 := by
    rw [ledger.halfClosed, unclosed]
    rfl
  exact {
    pending := by simp [ledger.pending]
    start := by simp [ledger.start]
    read := by simp [ledger.read]
    write := by simp [ledger.write, idle]
    wdone := by simp [ledger.wdone]
    finish := by simp [ledger.finish]
    balance := balance_post ledger.balance (.write message)
    opened := by simp [ledger.opened, StreamPost.op]
    halfClosed := by simp [ledger.halfClosed, StreamPost.op]
    ended := by simp [ledger.ended, StreamPost.op]
    unstarted := fun early => absurd (early.symm.trans started) Bool.false_ne_true
    finished := fun late => absurd (unfinished.symm.trans late) Bool.false_ne_true
    queued := fun _ => waiting
    drained := fun closed => absurd (unclosed.symm.trans closed) Bool.false_ne_true
    emitted := ledger.emitted
    lawful := lawful_append_singleton.mpr ⟨ledger.lawful, ledger.underway started unfinished,
      ledger.settled (by rw [ledger.write, idle]; rfl), none⟩ }

theorem Ledger.postWritesDone {stream : StreamState} {tags : List TagKind}
    {log : List StreamObs} (ledger : Ledger stream tags log) (started : stream.started = true)
    (idle : stream.writeInflight = false) (empty : stream.writeQueue = [])
    (requested : stream.wdoneRequested = true) (unsent : stream.wdoneSent = false)
    (unposted : stream.wdoneInflight = false) (unfinished : stream.finishPosted = false) :
    Ledger { stream with wdoneInflight := true, pending := stream.pending + 1 }
      (tags ++ [.wdone]) (log ++ [.posted .writesDone]) := by
  have none : posts .wdone log = 0 := by
    rw [ledger.halfClosed, unsent, unposted]
    rfl
  exact {
    pending := by simp [ledger.pending]
    start := by simp [ledger.start]
    read := by simp [ledger.read]
    write := by simp [ledger.write]
    wdone := by simp [ledger.wdone, unposted]
    finish := by simp [ledger.finish]
    balance := balance_post ledger.balance .writesDone
    opened := by simp [ledger.opened, StreamPost.op]
    halfClosed := by simp [none, StreamPost.op]
    ended := by simp [ledger.ended, StreamPost.op]
    unstarted := fun early => absurd (early.symm.trans started) Bool.false_ne_true
    finished := fun late => absurd (unfinished.symm.trans late) Bool.false_ne_true
    queued := ledger.queued
    drained := fun _ => ⟨requested, empty, idle⟩
    emitted := ledger.emitted
    lawful := lawful_append_singleton.mpr ⟨ledger.lawful, ledger.underway started unfinished,
      ledger.settled (by rw [ledger.write, idle]; rfl), none⟩ }

theorem Ledger.postFinish {stream : StreamState} {tags : List TagKind} {log : List StreamObs}
    (ledger : Ledger stream tags log) (started : stream.started = true)
    (reads : stream.readInflight = false) (writes : stream.writeInflight = false)
    (halfClose : stream.wdoneInflight = false) (unfinished : stream.finishPosted = false) :
    Ledger { stream with finishPosted := true, pending := stream.pending + 1 }
      (tags ++ [.finish]) (log ++ [.posted .finish]) := by
  have silent : stream.statusEmitted = false := by
    by_contra emitted
    rw [Bool.not_eq_false] at emitted
    exact absurd (unfinished.symm.trans (ledger.emitted emitted)) Bool.false_ne_true
  exact {
    pending := by simp [ledger.pending]
    start := by simp [ledger.start]
    read := by simp [ledger.read]
    write := by simp [ledger.write]
    wdone := by simp [ledger.wdone]
    finish := by simp [ledger.finish, unfinished, silent]
    balance := balance_post ledger.balance .finish
    opened := by simp [ledger.opened, StreamPost.op]
    halfClosed := by simp [ledger.halfClosed, StreamPost.op]
    ended := by simp [ledger.ended, unfinished, StreamPost.op]
    unstarted := fun early => absurd (early.symm.trans started) Bool.false_ne_true
    finished := fun _ => ⟨reads, writes, halfClose⟩
    queued := ledger.queued
    drained := ledger.drained
    emitted := fun _ => rfl
    lawful := lawful_append_singleton.mpr ⟨ledger.lawful, ledger.underway started unfinished,
      ledger.settled (by rw [ledger.read, reads]; rfl),
      ledger.settled (by rw [ledger.write, writes]; rfl),
      ledger.settled (by rw [ledger.wdone, halfClose]; rfl)⟩ }

/-! ### The helpers -/

/-- The ledger after a section that posted operations: their tags and their entries were added. -/
abbrev Ledger.After (left : StreamState × List StreamObs) (tags : List TagKind)
    (log : List StreamObs) : Prop :=
  Ledger left.1 (tags ++ postedTags left.2) (log ++ left.2)

theorem Ledger.after_nil {stream : StreamState} {tags : List TagKind} {log : List StreamObs}
    (ledger : Ledger stream tags log) : Ledger.After (stream, []) tags log := by
  show Ledger stream (tags ++ postedTags []) (log ++ [])
  rw [postedTags_nil, List.append_nil, List.append_nil]
  exact ledger

theorem Ledger.andThen {first : StreamState × List StreamObs}
    {next : StreamState → StreamState × List StreamObs} {tags : List TagKind}
    {log : List StreamObs} (before : Ledger.After first tags log)
    (keeps : ∀ {tags log}, Ledger first.1 tags log → Ledger.After (next first.1) tags log) :
    Ledger.After (andThen first next) tags log := by
  have after := keeps before
  rw [Ledger.After, List.append_assoc, List.append_assoc, ← postedTags_append] at after
  exact after

theorem Ledger.sPostReadLocked {stream : StreamState} {tags : List TagKind}
    {log : List StreamObs} (ledger : Ledger stream tags log) (shutting : Bool) :
    Ledger.After (sPostReadLocked shutting stream) tags log := by
  rcases sPostReadLocked_cases shutting stream with
    same | ⟨-, started, idle, -, -, unfinished, same⟩
  · rw [same]
    exact ledger.after_nil
  · rw [same]
    exact ledger.postRead started idle unfinished

theorem Ledger.sPumpWritesLocked {stream : StreamState} {tags : List TagKind}
    {log : List StreamObs} (ledger : Ledger stream tags log) (shutting : Bool) :
    Ledger.After (sPumpWritesLocked shutting stream) tags log := by
  rcases sPumpWritesLocked_cases shutting stream with
    same | ⟨-, started, -, unfinished, idle, ⟨front, rest, queue, same⟩ |
      ⟨empty, requested, unsent, unposted, same⟩⟩
  · rw [same]
    exact ledger.after_nil
  · rw [same]
    exact ledger.postWrite front started idle (by simp [queue]) unfinished
  · rw [same]
    exact ledger.postWritesDone started idle empty requested unsent unposted unfinished

theorem Ledger.sTryFinishLocked {stream : StreamState} {tags : List TagKind}
    {log : List StreamObs} (ledger : Ledger stream tags log) (shutting : Bool) :
    Ledger.After (sTryFinishLocked shutting stream) tags log := by
  rcases sTryFinishLocked_cases shutting stream with
    same | ⟨-, started, -, unfinished, reads, writes, halfClose, same⟩
  · rw [same]
    exact ledger.after_nil
  · rw [same]
    exact ledger.postFinish started reads writes halfClose unfinished

/-! ### Tags that come back -/

theorem balance_return {tags : List TagKind} {log : List StreamObs}
    (balance : ∀ op, posts op log = returns op log + tags.count op) {op : TagKind}
    (outstanding : op ∈ tags) (ok : Bool) (message : ByteBuffer) :
    ∀ other, posts other (log ++ [.returned op ok message]) =
      returns other (log ++ [.returned op ok message]) + (tags.erase op).count other := by
  intro other
  have before := balance other
  rw [count_return outstanding other] at before
  simp only [posts_append, posts_returned, posts_nil, returns_append, returns_returned,
    returns_nil]
  omega

theorem Ledger.started_of_start {stream : StreamState} {tags : List TagKind}
    {log : List StreamObs} (ledger : Ledger stream tags log) (outstanding : .start ∈ tags) :
    stream.started = false := by
  have positive := List.count_pos_iff.mpr outstanding
  rw [ledger.start] at positive
  by_contra started
  rw [Bool.not_eq_false] at started
  simp [started] at positive

theorem Ledger.returnStart {stream : StreamState} {tags : List TagKind} {log : List StreamObs}
    (ledger : Ledger stream tags log) (outstanding : .start ∈ tags) (ok : Bool)
    (message : ByteBuffer) :
    Ledger { stream with pending := stream.pending - 1, started := true }
      (tags.erase .start) (log ++ [.returned .start ok message]) := by
  have early := ledger.started_of_start outstanding
  exact {
    pending := pending_return ledger.pending outstanding
    start := by simp [List.count_erase_self, ledger.start, early]
    read := by simp [ledger.read]
    write := by simp [ledger.write]
    wdone := by simp [ledger.wdone]
    finish := by simp [ledger.finish]
    balance := balance_return ledger.balance outstanding ok message
    opened := by simp [ledger.opened]
    halfClosed := by simp [ledger.halfClosed]
    ended := by simp [ledger.ended]
    unstarted := fun absurdity => absurd absurdity.symm Bool.false_ne_true
    finished := ledger.finished
    queued := ledger.queued
    drained := ledger.drained
    emitted := ledger.emitted
    lawful := lawful_append_of_silent ledger.lawful fun _ => rfl }

theorem Ledger.returnRead {stream : StreamState} {tags : List TagKind} {log : List StreamObs}
    (ledger : Ledger stream tags log) (outstanding : .read ∈ tags) (ok : Bool)
    (message : ByteBuffer) :
    Ledger
      { stream with pending := stream.pending - 1, readInflight := false, readBuf := message }
      (tags.erase .read) (log ++ [.returned .read ok message]) where
  pending := pending_return ledger.pending outstanding
  start := by simp [ledger.start]
  read := by simp [List.count_erase_self, ledger.read, (mem_iff_flag ledger.read).mp outstanding]
  write := by simp [ledger.write]
  wdone := by simp [ledger.wdone]
  finish := by simp [ledger.finish]
  balance := balance_return ledger.balance outstanding ok message
  opened := by simp [ledger.opened]
  halfClosed := by simp [ledger.halfClosed]
  ended := by simp [ledger.ended]
  unstarted := fun early => ⟨rfl, (ledger.unstarted early).2⟩
  finished := fun late => ⟨rfl, (ledger.finished late).2⟩
  queued := ledger.queued
  drained := ledger.drained
  emitted := ledger.emitted
  lawful := lawful_append_of_silent ledger.lawful fun _ => rfl

/-- A write comes back, and leaves the queue as it was or without its front. -/
theorem Ledger.returnWrite {stream : StreamState} {tags : List TagKind} {log : List StreamObs}
    (ledger : Ledger stream tags log) (outstanding : .write ∈ tags) (ok : Bool)
    (message : ByteBuffer) (queue : List ByteBuffer) :
    Ledger
      { stream with pending := stream.pending - 1, writeInflight := false, writeQueue := queue }
      (tags.erase .write) (log ++ [.returned .write ok message]) := by
  have inflight := (mem_iff_flag ledger.write).mp outstanding
  exact {
    pending := pending_return ledger.pending outstanding
    start := by simp [ledger.start]
    read := by simp [ledger.read]
    write := by simp [List.count_erase_self, ledger.write, inflight]
    wdone := by simp [ledger.wdone]
    finish := by simp [ledger.finish]
    balance := balance_return ledger.balance outstanding ok message
    opened := by simp [ledger.opened]
    halfClosed := by simp [ledger.halfClosed]
    ended := by simp [ledger.ended]
    unstarted := fun early =>
      ⟨(ledger.unstarted early).1, rfl, (ledger.unstarted early).2.2⟩
    finished := fun late => ⟨(ledger.finished late).1, rfl, (ledger.finished late).2.2⟩
    queued := fun absurdity => absurd absurdity Bool.false_ne_true
    drained := fun closed =>
      absurd ((ledger.drained closed).2.2.symm.trans inflight) Bool.false_ne_true
    emitted := ledger.emitted
    lawful := lawful_append_of_silent ledger.lawful fun _ => rfl }

theorem Ledger.returnWdone {stream : StreamState} {tags : List TagKind} {log : List StreamObs}
    (ledger : Ledger stream tags log) (outstanding : .wdone ∈ tags) (ok : Bool)
    (message : ByteBuffer) :
    Ledger
      { stream with pending := stream.pending - 1, wdoneInflight := false, wdoneSent := true }
      (tags.erase .wdone) (log ++ [.returned .wdone ok message]) := by
  have inflight := (mem_iff_flag ledger.wdone).mp outstanding
  exact {
    pending := pending_return ledger.pending outstanding
    start := by simp [ledger.start]
    read := by simp [ledger.read]
    write := by simp [ledger.write]
    wdone := by simp [List.count_erase_self, ledger.wdone, inflight]
    finish := by simp [ledger.finish]
    balance := balance_return ledger.balance outstanding ok message
    opened := by simp [ledger.opened]
    halfClosed := by simp [ledger.halfClosed, inflight]
    ended := by simp [ledger.ended]
    unstarted := fun early => ⟨(ledger.unstarted early).1, (ledger.unstarted early).2.1, rfl,
      (ledger.unstarted early).2.2.2⟩
    finished := fun late => ⟨(ledger.finished late).1, (ledger.finished late).2.1, rfl⟩
    queued := ledger.queued
    drained := fun _ => ledger.drained (by rw [inflight]; rfl)
    emitted := ledger.emitted
    lawful := lawful_append_of_silent ledger.lawful fun _ => rfl }

theorem Ledger.returnFinish {stream : StreamState} {tags : List TagKind} {log : List StreamObs}
    (ledger : Ledger stream tags log) (outstanding : .finish ∈ tags) (ok : Bool)
    (message : ByteBuffer) :
    Ledger { stream with pending := stream.pending - 1, statusEmitted := true }
      (tags.erase .finish) (log ++ [.returned .finish ok message]) := by
  have inflight := (mem_iff_flag ledger.finish).mp outstanding
  rw [Bool.and_eq_true, Bool.not_eq_true'] at inflight
  exact {
    pending := pending_return ledger.pending outstanding
    start := by simp [ledger.start]
    read := by simp [ledger.read]
    write := by simp [ledger.write]
    wdone := by simp [ledger.wdone]
    finish := by simp [List.count_erase_self, ledger.finish, inflight]
    balance := balance_return ledger.balance outstanding ok message
    opened := by simp [ledger.opened]
    halfClosed := by simp [ledger.halfClosed]
    ended := by simp [ledger.ended]
    unstarted := ledger.unstarted
    finished := ledger.finished
    queued := ledger.queued
    drained := ledger.drained
    emitted := fun _ => inflight.1
    lawful := lawful_append_of_silent ledger.lawful fun _ => rfl }

/-! ### Changes that post and return nothing -/

/-- What neither posts an operation nor returns a tag leaves the ledger alone. -/
theorem Ledger.note {stream : StreamState} {tags : List TagKind} {log : List StreamObs}
    (ledger : Ledger stream tags log) (obs : List StreamObs)
    (silent : ∀ op, posts op obs = 0 ∧ returns op obs = 0) : Ledger stream tags (log ++ obs) :=
  { ledger with
    balance := by
      intro op
      rw [posts_append, returns_append, (silent op).1, (silent op).2]
      exact ledger.balance op
    opened := by
      rw [posts_append, (silent .start).1]
      exact ledger.opened
    halfClosed := by
      rw [posts_append, (silent .wdone).1]
      exact ledger.halfClosed
    ended := by
      rw [posts_append, (silent .finish).1]
      exact ledger.ended
    lawful := lawful_append_of_silent ledger.lawful fun op => (silent op).1 }

/-- The flags and fields the ledger does not speak of may change. -/
theorem Ledger.mark {stream : StreamState} {tags : List TagKind} {log : List StreamObs}
    (ledger : Ledger stream tags log) (readsClosed broken wantFinish : Bool) (unread : Int) :
    Ledger { stream with readsClosed, broken, wantFinish, unread } tags log :=
  { ledger with }

/-- A message joins the write queue of a stream that is not half-closed. -/
theorem Ledger.queue {stream : StreamState} {tags : List TagKind} {log : List StreamObs}
    (ledger : Ledger stream tags log) (message : ByteBuffer)
    (unclosed : stream.wdoneRequested = false) :
    Ledger { stream with writeQueue := stream.writeQueue ++ [message] } tags log :=
  { ledger with
    queued := fun _ => by simp
    drained := fun closed =>
      absurd (unclosed.symm.trans (ledger.drained closed).1) Bool.false_ne_true }

/-- A half-close is requested. -/
theorem Ledger.requestWdone {stream : StreamState} {tags : List TagKind} {log : List StreamObs}
    (ledger : Ledger stream tags log) : Ledger { stream with wdoneRequested := true } tags log :=
  { ledger with drained := fun closed => ⟨rfl, (ledger.drained closed).2⟩ }

/-! ### Whole sections -/

/-- The ledger of a stream just opened. -/
theorem ledger_openStream (id : Nat) (readCap : Int) (writeCap : Nat) :
    Ledger (openStream id readCap writeCap {}).1 [.start] [.posted .startCall] where
  pending := rfl
  start := rfl
  read := rfl
  write := rfl
  wdone := rfl
  finish := rfl
  balance := by
    intro op
    cases op <;> rfl
  opened := rfl
  halfClosed := rfl
  ended := rfl
  unstarted := fun _ => ⟨rfl, rfl, rfl, rfl⟩
  finished := fun late => absurd late Bool.false_ne_true
  queued := fun inflight => absurd inflight Bool.false_ne_true
  drained := fun closed => absurd closed Bool.false_ne_true
  emitted := fun emitted => absurd emitted Bool.false_ne_true
  lawful := lawful_append_singleton.mpr ⟨lawful_nil _, rfl⟩

theorem Ledger.runStart {stream : StreamState} {tags : List TagKind} {log : List StreamObs}
    (ledger : Ledger stream tags log) (outstanding : .start ∈ tags) (shutting : Bool)
    (delivery : Delivery) :
    Ledger.After (runStart shutting delivery { stream with pending := stream.pending - 1 })
      (tags.erase .start) (log ++ [.returned .start delivery.ok delivery.message]) := by
  have returned := ledger.returnStart outstanding delivery.ok delivery.message
  refine Ledger.andThen ?_ fun before => before.sTryFinishLocked shutting
  split
  · exact Ledger.andThen (returned.sPostReadLocked shutting)
      fun before => before.sPumpWritesLocked shutting
  · exact (returned.mark stream.readsClosed true true stream.unread).after_nil

theorem Ledger.runRead {stream : StreamState} {tags : List TagKind} {log : List StreamObs}
    (ledger : Ledger stream tags log) (outstanding : .read ∈ tags) (shutting : Bool)
    (delivery : Delivery) :
    Ledger.After (runRead shutting delivery { stream with pending := stream.pending - 1 })
      (tags.erase .read) (log ++ [.returned .read delivery.ok delivery.message]) := by
  have returned := ledger.returnRead outstanding delivery.ok delivery.message
  refine Ledger.andThen ?_ fun before => before.sTryFinishLocked shutting
  split
  · refine Ledger.andThen ?_ fun before => ?_
    · show Ledger _ (tags.erase .read ++ postedTags [.pushed _]) _
      rw [postedTags_pushed, postedTags_nil, List.append_nil]
      exact (returned.mark stream.readsClosed stream.broken stream.wantFinish
        (stream.unread + 1)).note _ fun op => by simp
    · split
      · exact before.sPostReadLocked shutting
      · exact before.after_nil
  · exact (returned.mark true stream.broken true stream.unread).after_nil

theorem Ledger.runWrite {stream : StreamState} {tags : List TagKind} {log : List StreamObs}
    (ledger : Ledger stream tags log) (outstanding : .write ∈ tags) (shutting : Bool)
    (delivery : Delivery) :
    Ledger.After (runWrite shutting delivery { stream with pending := stream.pending - 1 })
      (tags.erase .write) (log ++ [.returned .write delivery.ok delivery.message]) := by
  refine Ledger.andThen ?_ fun before => before.sTryFinishLocked shutting
  split
  · refine Ledger.andThen ?_ fun before => before.sPumpWritesLocked shutting
    have popped := ledger.returnWrite outstanding delivery.ok delivery.message
      stream.writeQueue.tail
    split
    · show Ledger _ (tags.erase .write ++ postedTags [.pushed _]) _
      rw [postedTags_pushed, postedTags_nil, List.append_nil]
      exact popped.note _ fun op => by simp
    · exact popped.after_nil
  · have kept := ledger.returnWrite outstanding delivery.ok delivery.message stream.writeQueue
    exact (kept.mark stream.readsClosed true true stream.unread).after_nil

theorem Ledger.runWdone {stream : StreamState} {tags : List TagKind} {log : List StreamObs}
    (ledger : Ledger stream tags log) (outstanding : .wdone ∈ tags) (shutting : Bool)
    (delivery : Delivery) :
    Ledger.After (runWdone shutting delivery { stream with pending := stream.pending - 1 })
      (tags.erase .wdone) (log ++ [.returned .wdone delivery.ok delivery.message]) := by
  have returned := ledger.returnWdone outstanding delivery.ok delivery.message
  unfold Client.runWdone
  simp only
  split
  · exact returned.sTryFinishLocked shutting
  · exact (returned.mark stream.readsClosed true true stream.unread).sTryFinishLocked shutting

theorem Ledger.runFinish {stream : StreamState} {tags : List TagKind} {log : List StreamObs}
    (ledger : Ledger stream tags log) (outstanding : .finish ∈ tags) (delivery : Delivery) :
    Ledger.After (runFinish delivery { stream with pending := stream.pending - 1 })
      (tags.erase .finish) (log ++ [.returned .finish delivery.ok delivery.message]) := by
  show Ledger _ (tags.erase .finish ++ postedTags [.pushed _]) _
  rw [postedTags_pushed, postedTags_nil, List.append_nil]
  refine (ledger.returnFinish outstanding delivery.ok delivery.message).note [.pushed _]
    fun op => ?_
  exact ⟨posts_pushed op [] _, returns_pushed op [] _⟩

/-- The ledger survives the return of any tag of an opened stream. -/
theorem Ledger.runStream {stream : StreamState} {tags : List TagKind} {log : List StreamObs}
    (ledger : Ledger stream tags log) {op : TagKind} (outstanding : op ∈ tags) (shutting : Bool)
    (delivery : Delivery) :
    Ledger.After (runStream shutting op delivery stream) (tags.erase op)
      (log ++ [.returned op delivery.ok delivery.message]) := by
  cases op with
  | start => exact ledger.runStart outstanding shutting delivery
  | read => exact ledger.runRead outstanding shutting delivery
  | write => exact ledger.runWrite outstanding shutting delivery
  | wdone => exact ledger.runWdone outstanding shutting delivery
  | finish => exact ledger.runFinish outstanding delivery

/-- The ledger survives every request of R. -/
theorem Ledger.answer {stream : StreamState} {tags : List TagKind} {log : List StreamObs}
    (ledger : Ledger stream tags log) (shutting : Bool) (request : StreamRequest) :
    Ledger.After ((request.answer shutting stream).stream, (request.answer shutting stream).obs)
      tags log := by
  have pumps {request : StreamRequest} {other : StreamState} (holds : Ledger other tags log) :
      Ledger.After ((acceptAndPump shutting request other).stream,
        (acceptAndPump shutting request other).obs) tags log := by
    have pumped := (holds.note [.accepted request] fun op => by simp).sPumpWritesLocked shutting
    rw [Ledger.After, List.append_assoc] at pumped
    exact pumped
  rcases answer_cases shutting request stream with
    same | ⟨bytes, -, -, -, unclosed, -, same⟩ | ⟨-, -, same⟩
  · rw [same]
    exact ledger.after_nil
  · rw [same]
    exact pumps (ledger.queue _ unclosed)
  · rw [same]
    exact pumps ledger.requestWdone

/-- The ledger survives a poll that takes a message of the stream. -/
theorem Ledger.takeMessage {stream : StreamState} {tags : List TagKind} {log : List StreamObs}
    (ledger : Ledger stream tags log) (shutting : Bool) :
    Ledger.After (takeMessage shutting stream) tags log := by
  refine Ledger.andThen ?_ fun before => ?_
  · show Ledger _ (tags ++ postedTags [.taken]) _
    rw [postedTags_taken, postedTags_nil, List.append_nil]
    exact (ledger.mark stream.readsClosed stream.broken stream.wantFinish
      (stream.unread - 1)).note _ fun op => by simp
  · split
    · exact before.sPostReadLocked shutting
    · exact before.after_nil

end Rgrpc.Client
