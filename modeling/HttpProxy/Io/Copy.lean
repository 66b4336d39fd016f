import Mathlib.Data.List.Basic
import Mathlib.Logic.Relation

/-!
`tokio::io::copy_bidirectional`, which `tunnel` in `proxy.rs` runs between the client's
upgraded connection and the target, one direction at a time: `CopyBuffer::poll_copy` and
`transfer_one_direction`. The sender of a direction sends and closes, and the copy reads,
writes and shuts the receiver's half down, in whatever order the guards of the steps allow. A
write takes only as many bytes as the receiver has room for, and the receiver makes room only
when it reads: while it does not, the write is pending.

* `Pipe.Inv.step`: every step keeps a direction's invariant: the bytes written, the bytes in
  the buffer and the bytes not yet read are, in that order, the bytes sent.
* `Pipe.Step.channel`: **the copy refines a byte stream with an end**: each of its steps is a
  step of the stream the two peers see, or leaves what they see as it was; and every stream
  reachable from the empty one is safe (`Channel.safe_of_reachable`).
* `Pipe.step_iff`: `Pipe.step?` computes the steps.
* `Pipe.Step.rank_lt`: each of the copy's own operations lowers the work it has left.
* `Pipe.progress`: once the sender has closed, the copy can always go on until the direction
  is done, unless it holds bytes for a receiver with no room (`Pipe.Blocked`); a direction that
  is done has written every byte (`Pipe.Inv.of_isDone`).
-/

namespace HttpProxy

/-! ### What a direction is for -/

/-- A direction as its two peers see it: what the sender has sent and whether it has closed its
half, what the receiver has got and whether it has seen the end of the stream. -/
structure Channel where
  sent : List UInt8
  closed : Bool
  received : List UInt8
  ended : Bool
  deriving DecidableEq

/-- A byte stream with an end: the receiver gets the sender's bytes in order, and the end of
the stream once the sender has closed and every byte has arrived. -/
inductive Channel.Step : Channel → Channel → Prop
  | send {c : Channel} (bytes : List UInt8) (hc : c.closed = false) :
      Channel.Step c { c with sent := c.sent ++ bytes }
  | close {c : Channel} (hc : c.closed = false) : Channel.Step c { c with closed := true }
  | deliver {c : Channel} (bytes : List UInt8) (hne : bytes ≠ [])
      (hp : c.received ++ bytes <+: c.sent) :
      Channel.Step c { c with received := c.received ++ bytes }
  | endOfStream {c : Channel} (hc : c.closed = true) (hr : c.received = c.sent)
      (he : c.ended = false) :
      Channel.Step c { c with ended := true }

/-- A channel before anything is sent. -/
def Channel.init : Channel := ⟨[], false, [], false⟩

/-- What a channel guarantees: the receiver has a prefix of the sender's bytes, and the end of
the stream only once the sender has closed and it has every byte. -/
structure Channel.Safe (c : Channel) : Prop where
  received_prefix : c.received <+: c.sent
  ended : c.ended = true → c.closed = true ∧ c.received = c.sent

lemma Channel.Safe.step {c c' : Channel} (hs : c.Safe) (h : Channel.Step c c') : c'.Safe := by
  cases h with
  | send bytes hc =>
    exact ⟨hs.received_prefix.trans (List.prefix_append _ _),
      fun he => absurd (hs.ended he).1 (by simp [hc])⟩
  | close hc => exact ⟨hs.received_prefix, fun he => ⟨rfl, (hs.ended he).2⟩⟩
  | deliver bytes hne hp =>
    refine ⟨hp, fun he => ?_⟩
    obtain ⟨-, hr⟩ := hs.ended he
    obtain ⟨t, ht⟩ := hp
    rw [← hr, List.append_assoc] at ht
    exact absurd (List.append_eq_nil.mp (List.append_right_eq_self.mp ht)).1 hne
  | endOfStream hc hr he => exact ⟨hs.received_prefix, fun _ => ⟨hc, hr⟩⟩

/-- Every channel reachable from the empty one is safe. -/
lemma Channel.safe_of_reachable {c : Channel}
    (h : Relation.ReflTransGen Channel.Step Channel.init c) : c.Safe := by
  induction h with
  | refl => exact ⟨List.nil_prefix, nofun⟩
  | tail _ hstep ih => exact ih.step hstep

/-! ### The copy of one direction -/

/-- `tokio::io::util::DEFAULT_BUF_SIZE`, the capacity of each direction's buffer. -/
def defaultBufSize : ℕ := 8 * 1024

/-- `CopyBuffer`: `buf` holds the bytes read (`buf[..cap]`), `pos` the first of them not yet
written, `amt` the bytes written so far; `readDone` is set once a read gives no byte.
`need_flush`, which only decides when the writer is flushed, is left out. -/
structure CopyBuffer where
  readDone : Bool
  pos : ℕ
  buf : List UInt8
  amt : ℕ
  deriving DecidableEq

/-- `CopyBuffer::new`: empty. -/
def CopyBuffer.new : CopyBuffer := ⟨false, 0, [], 0⟩

/-- `TransferState`: copying, shutting the writer down, or done, with the bytes copied. -/
inductive TransferState where
  | running (b : CopyBuffer)
  | shuttingDown (amt : ℕ)
  | done (amt : ℕ)
  deriving DecidableEq

/-- The bytes a direction has copied. -/
def TransferState.amt : TransferState → ℕ
  | .running b => b.amt
  | .shuttingDown amt => amt
  | .done amt => amt

/-- Whether a direction is `Done`. -/
def TransferState.isDone : TransferState → Bool
  | .done _ => true
  | _ => false

/-- One direction of the copy: all the bytes its sender has sent (`sent`) and those the copy
has not read yet (`unread`); whether the sender has closed its half; the copy's state; the
bytes written to the receiver; whether the copy has shut the receiver's half down; and the
bytes the receiver's side of the connection takes before it reads again (`room`). -/
structure Pipe where
  sent : List UInt8
  unread : List UInt8
  closed : Bool
  state : TransferState
  written : List UInt8
  shut : Bool
  room : ℕ
  deriving DecidableEq

namespace Pipe

/-- A direction before anything is sent, and before the receiver has made room. -/
def init : Pipe := ⟨[], [], false, .running .new, [], false, 0⟩

/-- What happens in one direction: the sender's `send` and `close`, the receiver's reads, and
the copy's operations. -/
inductive Event where
  | send (bytes : List UInt8)
  | close
  | ready (n : ℕ)
  | read (n : ℕ)
  | eof
  | write (n : ℕ)
  | reset
  | finish
  | shutdown
  deriving DecidableEq

/-- The events that are the copy's own operations, not the peers'. -/
def Event.byCopy : Event → Bool
  | .send _ | .close | .ready _ => false
  | _ => true

/-- The bytes an event reads from the sender. -/
def Event.bytesRead : Event → ℕ
  | .read n => n
  | _ => 0

/-- The bytes an event writes to the receiver. -/
def Event.bytesWritten : Event → ℕ
  | .write n => n
  | _ => 0

/-- One event of a direction. The copy's operations are those of `CopyBuffer::poll_copy` and
of `transfer_one_direction`; a read or a write may move any number of bytes the buffer allows,
and an operation that is pending is no step at all. -/
inductive Step : Event → Pipe → Pipe → Prop
  /-- The sender sends more, until it closes its half. -/
  | send {p : Pipe} (bytes : List UInt8) (hc : p.closed = false) :
      Step (.send bytes) p { p with sent := p.sent ++ bytes, unread := p.unread ++ bytes }
  /-- The sender closes its half. -/
  | close {p : Pipe} (hc : p.closed = false) : Step .close p { p with closed := true }
  /-- The receiver reads, which makes room for `n` more bytes. -/
  | ready {p : Pipe} (n : ℕ) : Step (.ready n) p { p with room := p.room + n }
  /-- `poll_fill_buf`: a read of `n` bytes into the free end of the buffer. -/
  | read {p : Pipe} {b : CopyBuffer} {n : ℕ} (hs : p.state = .running b)
      (hd : b.readDone = false) (hpos : 0 < n) (hn : n ≤ p.unread.length)
      (hfree : b.buf.length + n ≤ defaultBufSize) :
      Step (.read n) p { p with
        unread := p.unread.drop n
        state := .running { b with buf := b.buf ++ p.unread.take n } }
  /-- `poll_fill_buf`: a read that gives no byte, once the sender has closed and every byte it
  sent has been read; it sets `read_done`. -/
  | eof {p : Pipe} {b : CopyBuffer} (hs : p.state = .running b) (hd : b.readDone = false)
      (hfree : b.buf.length < defaultBufSize) (hc : p.closed = true) (hu : p.unread = []) :
      Step .eof p { p with state := .running { b with readDone := true } }
  /-- `poll_write_buf`: `n` of the buffered bytes are written, no more than the receiver has
  room for; while it has none the write is pending. A write of no byte is the `WriteZero`
  error, which ends the copy. -/
  | write {p : Pipe} {b : CopyBuffer} {n : ℕ} (hs : p.state = .running b) (hpos : 0 < n)
      (hn : b.pos + n ≤ b.buf.length) (hroom : n ≤ p.room) :
      Step (.write n) p { p with
        state := .running { b with pos := b.pos + n, amt := b.amt + n }
        written := p.written ++ (b.buf.drop b.pos).take n
        room := p.room - n }
  /-- Every buffered byte is written: `pos = cap = 0`, the buffer is empty again. -/
  | reset {p : Pipe} {b : CopyBuffer} (hs : p.state = .running b)
      (hpos : b.pos = b.buf.length) (hne : 0 < b.buf.length) :
      Step .reset p { p with state := .running { b with pos := 0, buf := [] } }
  /-- The end of the stream was read and the buffer is empty: the writer is flushed and
  `poll_copy` returns `amt`, which `transfer_one_direction` keeps in `ShuttingDown`. -/
  | finish {p : Pipe} {b : CopyBuffer} (hs : p.state = .running b) (hd : b.readDone = true)
      (hbuf : b.buf = []) :
      Step .finish p { p with state := .shuttingDown b.amt }
  /-- `poll_shutdown` of the writer: the receiver's half is shut down, and the direction is
  `Done`. -/
  | shutdown {p : Pipe} {amt : ℕ} (hs : p.state = .shuttingDown amt) :
      Step .shutdown p { p with state := .done amt, shut := true }

/-! ### The invariant of a direction -/

/-- The bytes a direction has read and not yet written. -/
def pending (p : Pipe) : List UInt8 :=
  match p.state with
  | .running b => b.buf.drop b.pos
  | _ => []

/-- Whether a direction has read the end of its stream. -/
def readDone (p : Pipe) : Bool :=
  match p.state with
  | .running b => b.readDone
  | _ => true

/-- What every reachable state of a direction satisfies. -/
structure Inv (p : Pipe) : Prop where
  /-- Every byte sent has been written, is in the buffer, or is still unread, in that order. -/
  conserved : p.written ++ p.pending ++ p.unread = p.sent
  /-- The copy's count is the number of bytes written. -/
  amt_eq : p.state.amt = p.written.length
  /-- The buffer's indices are in range. -/
  pos_le : ∀ b, p.state = .running b → b.pos ≤ b.buf.length ∧ b.buf.length ≤ defaultBufSize
  /-- The end of the stream is read only after the sender closed and every byte was read. -/
  readDone : p.readDone = true → p.closed = true ∧ p.unread = []
  /-- The receiver's half is shut down exactly when the direction is done. -/
  shut : p.shut = true ↔ ∃ amt, p.state = .done amt

lemma Inv.init : Pipe.init.Inv :=
  ⟨rfl, rfl, fun b h => by cases h; simp [CopyBuffer.new, defaultBufSize], nofun,
    by simp [Pipe.init]⟩

variable {p p' : Pipe} {b : CopyBuffer} {e : Event}

lemma pending_of_running (h : p.state = .running b) : p.pending = b.buf.drop b.pos := by
  simp [pending, h]

lemma readDone_of_running (h : p.state = .running b) : p.readDone = b.readDone := by
  simp [readDone, h]

lemma Inv.shut_of_running (hi : p.Inv) (h : p.state = .running b) : p.shut = false := by
  simpa [h] using hi.shut.not

lemma pending_eq_nil (h : p.state = .running b) (hpos : b.buf.length ≤ b.pos) :
    p.pending = [] := by
  simp [pending_of_running h, hpos]

/-- Every step keeps the invariant. -/
lemma Inv.step (hi : p.Inv) (h : Step e p p') : p'.Inv := by
  cases h with
  | send bytes hc =>
    refine ⟨?_, hi.amt_eq, hi.pos_le, fun hd => absurd (hi.readDone hd).1 (by simp [hc]), hi.shut⟩
    rw [← hi.conserved]
    simp only [pending, List.append_assoc]
  | close hc =>
    exact ⟨hi.conserved, hi.amt_eq, hi.pos_le, fun hd => ⟨rfl, (hi.readDone hd).2⟩, hi.shut⟩
  | ready n => exact ⟨hi.conserved, hi.amt_eq, hi.pos_le, hi.readDone, hi.shut⟩
  | @read _ b n hs hd hpos hn hfree =>
    obtain ⟨hle, hbuf⟩ := hi.pos_le b hs
    refine ⟨?_, ?_, ?_, ?_, ?_⟩
    · rw [← hi.conserved, pending_of_running hs]
      simp only [pending, List.drop_append_of_le_length hle, List.append_assoc,
        List.take_append_drop]
    · rw [← hi.amt_eq, hs]; rfl
    · rintro _ ⟨⟩
      simp only [List.length_append, List.length_take, min_eq_left hn]
      omega
    · exact fun h => absurd h (by simp [Pipe.readDone, hd])
    · simp [hi.shut_of_running hs]
  | @eof _ b hs hd hfree hc hu =>
    refine ⟨?_, ?_, fun _ h => ?_, fun _ => ⟨hc, hu⟩, by simp [hi.shut_of_running hs]⟩
    · rw [← hi.conserved, pending_of_running hs]; rfl
    · rw [← hi.amt_eq, hs]; rfl
    · cases h; exact hi.pos_le b hs
  | @write _ b n hs hpos hn hroom =>
    refine ⟨?_, ?_, fun _ h => ?_, fun h => hi.readDone ((readDone_of_running hs).trans h), ?_⟩
    · rw [← hi.conserved, pending_of_running hs]
      simp only [pending, List.append_assoc, ← List.drop_drop, List.take_append_drop]
    · simp only [TransferState.amt, List.length_append, List.length_take, List.length_drop]
      rw [← hi.amt_eq, hs, TransferState.amt]
      omega
    · cases h; exact ⟨hn, (hi.pos_le b hs).2⟩
    · simp [hi.shut_of_running hs]
  | reset hs hpos hne =>
    refine ⟨?_, ?_, fun _ h => ?_, fun h => hi.readDone ((readDone_of_running hs).trans h), ?_⟩
    · rw [← hi.conserved, pending_eq_nil hs hpos.ge]; rfl
    · rw [← hi.amt_eq, hs]; rfl
    · cases h; simp [defaultBufSize]
    · simp [hi.shut_of_running hs]
  | finish hs hd hbuf =>
    refine ⟨?_, ?_, (fun _ h => by cases h),
      fun _ => hi.readDone ((readDone_of_running hs).trans hd), by simp [hi.shut_of_running hs]⟩
    · rw [← hi.conserved, pending_eq_nil hs (by simp [hbuf])]; rfl
    · rw [← hi.amt_eq, hs]; rfl
  | shutdown hs =>
    refine ⟨?_, ?_, (fun _ h => by cases h), fun _ => hi.readDone (by simp [Pipe.readDone, hs]),
      by simp⟩
    · rw [← hi.conserved]; simp [pending, hs]
    · rw [← hi.amt_eq, hs]; rfl

/-- A direction that is done has shut the receiver's half down after writing every byte sent,
and its count is their number. -/
lemma Inv.of_isDone (hi : p.Inv) (hd : p.state.isDone = true) :
    p.state = .done p.sent.length ∧ p.closed = true ∧ p.unread = [] ∧ p.shut = true ∧
      p.written = p.sent := by
  cases hs : p.state with
  | done amt =>
    obtain ⟨hc, hu⟩ := hi.readDone (by simp [Pipe.readDone, hs])
    have hw : p.written = p.sent := by simpa [pending, hs, hu] using hi.conserved
    refine ⟨?_, hc, hu, hi.shut.mpr ⟨amt, hs⟩, hw⟩
    simpa [hs, TransferState.amt, hw] using hi.amt_eq
  | _ => simp [hs, TransferState.isDone] at hd

/-- The unread bytes are among those sent. -/
lemma Inv.length_unread_le (hi : p.Inv) : p.unread.length ≤ p.sent.length := by
  rw [← hi.conserved, List.length_append]
  exact Nat.le_add_left _ _

/-- The sender's bytes grow by those of a `send`, the unread ones shrink by those of a
`read`. -/
lemma Step.length_unread (h : Step e p p') :
    p'.sent.length + p.unread.length = p.sent.length + p'.unread.length + e.bytesRead := by
  cases h with
  | send bytes hc => simp only [List.length_append, Event.bytesRead]; omega
  | @read _ b n hs hd hpos hn hfree => simp only [List.length_drop, Event.bytesRead]; omega
  | _ => rfl

/-- The bytes written grow by those of a `write`. -/
lemma Step.length_written (h : Step e p p') :
    p'.written.length = p.written.length + e.bytesWritten := by
  cases h with
  | @write _ b n hs hpos hn hroom =>
    simp only [List.length_append, List.length_take, List.length_drop, Event.bytesWritten]
    omega
  | _ => rfl

/-- The copy's own operations leave the sender's side as it was, and move room the receiver
gave into bytes written to it. -/
lemma Step.byCopy_eq (h : Step e p p') (he : e.byCopy = true) :
    p'.sent = p.sent ∧ p'.closed = p.closed ∧
      p'.room + p'.written.length = p.room + p.written.length := by
  cases h with
  | send _ _ | close _ | ready _ => cases he
  | @write _ b n hs hpos hn hroom =>
    refine ⟨rfl, rfl, ?_⟩
    simp only [List.length_append, List.length_take, List.length_drop]
    omega
  | _ => exact ⟨rfl, rfl, rfl⟩

/-- The copy's own operations need a direction that is not done. -/
lemma Step.isDone_eq_false (h : Step e p p') (he : e.byCopy = true) :
    p.state.isDone = false := by
  cases h <;> simp_all [TransferState.isDone, Event.byCopy]

/-! ### The steps, computed -/

/-- `Step` as a function: the direction after an event, when the event can happen. -/
def step? (p : Pipe) : Event → Option Pipe
  | .send bytes =>
    if p.closed then none else some { p with sent := p.sent ++ bytes, unread := p.unread ++ bytes }
  | .close => if p.closed then none else some { p with closed := true }
  | .ready n => some { p with room := p.room + n }
  | .read n =>
    match p.state with
    | .running b =>
      if !b.readDone ∧ 0 < n ∧ n ≤ p.unread.length ∧ b.buf.length + n ≤ defaultBufSize then
        some { p with
          unread := p.unread.drop n
          state := .running { b with buf := b.buf ++ p.unread.take n } }
      else none
    | _ => none
  | .eof =>
    match p.state with
    | .running b =>
      if !b.readDone ∧ b.buf.length < defaultBufSize ∧ p.closed ∧ p.unread = [] then
        some { p with state := .running { b with readDone := true } }
      else none
    | _ => none
  | .write n =>
    match p.state with
    | .running b =>
      if 0 < n ∧ b.pos + n ≤ b.buf.length ∧ n ≤ p.room then
        some { p with
          state := .running { b with pos := b.pos + n, amt := b.amt + n }
          written := p.written ++ (b.buf.drop b.pos).take n
          room := p.room - n }
      else none
    | _ => none
  | .reset =>
    match p.state with
    | .running b =>
      if b.pos = b.buf.length ∧ 0 < b.buf.length then
        some { p with state := .running { b with pos := 0, buf := [] } }
      else none
    | _ => none
  | .finish =>
    match p.state with
    | .running b =>
      if b.readDone ∧ b.buf = [] then some { p with state := .shuttingDown b.amt } else none
    | _ => none
  | .shutdown =>
    match p.state with
    | .shuttingDown amt => some { p with state := .done amt, shut := true }
    | _ => none

/-- `step?` gives exactly the steps of `Step`. -/
lemma step_iff : Step e p p' ↔ p.step? e = some p' := by
  constructor
  · intro h
    cases h <;> simp [step?, *]
  · intro h
    cases e <;> simp only [step?] at h <;> (try split at h) <;> (try split at h) <;>
      simp only [Option.some.injEq, reduceCtorEq] at h <;> subst h
    all_goals constructor <;> simp_all

/-! ### What the peers see -/

/-- A direction as its peers see it. -/
def channel (p : Pipe) : Channel := ⟨p.sent, p.closed, p.written, p.shut⟩

/-- **The copy refines the channel**: each step of a direction is a step of the channel its
peers see, or leaves what they see as it was. -/
lemma Step.channel (hi : p.Inv) (h : Step e p p') :
    Channel.Step p.channel p'.channel ∨ p'.channel = p.channel := by
  cases h with
  | send bytes hc => exact .inl (.send bytes hc)
  | close hc => exact .inl (.close hc)
  | @write _ b n hs hpos hn hroom =>
    refine .inl (.deliver _ ?_ ?_)
    · simpa [List.take_eq_nil_iff, List.drop_eq_nil_iff] using ⟨hpos.ne', by omega⟩
    · refine ⟨(b.buf.drop b.pos).drop n ++ p.unread, ?_⟩
      simp only [channel, ← hi.conserved, pending_of_running hs, List.append_assoc]
      rw [← List.append_assoc (List.take _ _), List.take_append_drop]
  | shutdown hs =>
    have hd := hi.readDone (by simp [Pipe.readDone, hs])
    refine .inl (.endOfStream hd.1 ?_ (by simpa [hs] using hi.shut.not))
    simp only [channel, ← hi.conserved, hd.2]
    simp [pending, hs]
  | _ => exact .inr rfl

/-! ### Progress -/

/-- The work the copy has left in a direction whose sender has closed: each unread byte is
read, buffered and written, the buffer emptied, the end of the stream read and the writer shut
down. -/
def rank (p : Pipe) : ℕ :=
  match p.state with
  | .running b =>
    3 * p.unread.length + 2 * (b.buf.length - b.pos) + b.pos + (if b.readDone then 0 else 1) + 2
  | .shuttingDown _ => 1
  | .done _ => 0

/-- Each of the copy's own operations lowers the work it has left. -/
lemma Step.rank_lt (hi : p.Inv) (h : Step e p p') (he : e.byCopy = true) : p'.rank < p.rank := by
  cases h with
  | send _ _ | close _ | ready _ => cases he
  | @read _ b n hs hd hpos hn hfree =>
    have := (hi.pos_le b hs).1
    simp only [rank, hs, hd, List.length_drop, List.length_append, List.length_take,
      min_eq_left hn]
    omega
  | eof hs hd => simp only [rank, hs, hd, if_true, Bool.false_eq_true, if_false]; omega
  | write hs hpos hn hroom => simp only [rank, hs]; omega
  | reset hs hpos hne => simp only [rank, hs, List.length_nil]; omega
  | finish hs hd hbuf => simp only [rank, hs]; omega
  | shutdown hs => simp only [rank, hs]; omega

/-- The copy holds bytes for a receiver that has no room for them: its write is pending until
the receiver reads. -/
def Blocked (p : Pipe) : Prop := p.room = 0 ∧ p.pending ≠ []

instance : DecidablePred Blocked := fun p => inferInstanceAs (Decidable (p.room = 0 ∧ _))

/-- **Progress.** Once the sender has closed, a direction that is not done can always take one
of the copy's own steps, unless it is blocked on its receiver. -/
lemma progress (hi : p.Inv) (hc : p.closed = true) (hd : p.state.isDone = false) :
    (∃ e p', e.byCopy = true ∧ Step e p p') ∨ p.Blocked := by
  cases hs : p.state with
  | running b =>
    obtain ⟨hle, hcap⟩ := hi.pos_le b hs
    by_cases hlt : b.pos < b.buf.length
    · rcases Nat.eq_zero_or_pos p.room with hr | hr
      · exact .inr ⟨hr, by simpa [pending_of_running hs, List.drop_eq_nil_iff] using hlt⟩
      · exact .inl ⟨.write 1, _, rfl, .write hs Nat.one_pos hlt hr⟩
    refine .inl ?_
    by_cases hne : 0 < b.buf.length
    · exact ⟨.reset, _, rfl, .reset hs (by omega) hne⟩
    have hbuf : b.buf = [] := List.eq_nil_of_length_eq_zero (by omega)
    cases hrd : b.readDone
    · cases hu : p.unread with
      | nil => exact ⟨.eof, _, rfl, .eof hs hrd (by simp [hbuf, defaultBufSize]) hc hu⟩
      | cons x xs =>
        exact ⟨.read 1, _, rfl,
          @Step.read p b 1 hs hrd Nat.one_pos (by simp [hu]) (by simp [hbuf, defaultBufSize])⟩
    · exact ⟨.finish, _, rfl, .finish hs hrd hbuf⟩
  | shuttingDown amt => exact .inl ⟨.shutdown, _, rfl, .shutdown hs⟩
  | done amt => simp [hs, TransferState.isDone] at hd

end Pipe

end HttpProxy
