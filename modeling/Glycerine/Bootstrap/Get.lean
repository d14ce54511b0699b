import Glycerine.Bootstrap.Record
import Glycerine.Interact.Machine
import Glycerine.System.Rules
import Glycerine.System.Trace
/-
# Fetching the bootstrap record (`get`, `bootstrap/mod.rs:306-361`)

`buf` and `read` of the source are one `RecvBuffer`: the bytes that were read, and how many there is room for.
`serde_json::from_slice` is not part of the repository and is a parameter.

`triple_receive` says how the reading can end. It ends early, on shutdown or with the connection, without an
error of its own: what was read so far is parsed. A read always asks for something (`room_spec`), so the zero
bytes it ends at are not those of a full buffer.
-/

namespace Glycerine
open Interact

namespace Bootstrap

/-- `MAX_RECORD_SIZE` (mod.rs:33). -/
def MAX_RECORD_SIZE : Nat := 1 <<< 20

/-- `buf[..read]`, and `buf.len()`. -/
structure RecvBuffer where
  bytes : Bytes
  size : Nat
  le : bytes.length ≤ size
  pos : 0 < size

namespace RecvBuffer

def new : RecvBuffer := ⟨[], 4096, by simp, by omega⟩

/-- `&mut buf[read..]`. -/
def free (buf : RecvBuffer) : Nat := buf.size - buf.bytes.length

/-- A full buffer is doubled (mod.rs:348-356). -/
def room (buf : RecvBuffer) : Except Error RecvBuffer :=
  if buf.bytes.length = buf.size then
    if h : buf.size ≥ MAX_RECORD_SIZE then
      .error (.ioVsock (.custom .invalidData "bootstrap record exceeds maximum size"))
    else
      .ok {
        bytes := buf.bytes
        size := min (buf.size * 2) MAX_RECORD_SIZE
        le := by
          have := buf.le
          omega
        pos := by
          have := buf.pos
          have : 0 < MAX_RECORD_SIZE := by decide
          omega }
  else .ok buf

def push (buf : RecvBuffer) (bs : {bs : Bytes // bs.length ≤ buf.free}) : RecvBuffer where
  bytes := buf.bytes ++ bs.1
  size := buf.size
  le := by
    have := bs.2
    have := buf.le
    simp only [List.length_append, free] at *
    omega
  pos := buf.pos

/-- **A read that follows has room for a byte at least.** Nothing is lost; there is no room only for a record of
the maximum size or more. -/
theorem room_spec (buf : RecvBuffer) :
    (∃ buf', buf.room = .ok buf' ∧ buf'.bytes = buf.bytes ∧ 0 < buf'.free) ∨
      (∃ e, buf.room = .error e) ∧ MAX_RECORD_SIZE ≤ buf.bytes.length := by
  have hpos := buf.pos
  unfold room
  by_cases hfull : buf.bytes.length = buf.size
  · rw [if_pos hfull]
    by_cases hmax : buf.size ≥ MAX_RECORD_SIZE
    · rw [dif_pos hmax]
      exact .inr ⟨⟨_, rfl⟩, by omega⟩
    · rw [dif_neg hmax]
      refine .inl ⟨_, rfl, rfl, ?_⟩
      show 0 < min (buf.size * 2) MAX_RECORD_SIZE - buf.bytes.length
      omega
  · rw [if_neg hfull]
    have hle := buf.le
    refine .inl ⟨buf, rfl, rfl, ?_⟩
    show 0 < buf.size - buf.bytes.length
    omega

/-- Below the limit there is room for more. -/
theorem room_of_lt {buf : RecvBuffer} (hlt : buf.bytes.length < MAX_RECORD_SIZE) :
    ∃ buf', buf.room = .ok buf' ∧ buf'.bytes = buf.bytes ∧ 0 < buf'.free := by
  rcases buf.room_spec with hroom | ⟨-, hfull⟩
  · exact hroom
  · omega

end RecvBuffer

/-- One round of the loop of `get`. -/
def receiveStep (s : Fd) (buf : RecvBuffer) : Sys Error (Ctl RecvBuffer Bytes) := do
  if ← isCancelled then pure (.stop buf.bytes)
  else
    let buf ← Task.ofExcept buf.room
    let bs ← (Socket.read s buf.free).mapErr .ioVsock
    if bs.1.length = 0 then pure (.stop buf.bytes) else pure (.next (buf.push bs))

/-- `get` (mod.rs:306). -/
def get (fromSlice : Bytes → Option Record) (bootstrapAddress : SockAddr) (backoff : ExponentialBackoff) :
    Sys Error Record := do
  let s ← Vsock.newClientSocketWithBackoff bootstrapAddress backoff
  Vsock.shutdown s .write
  let _ ← (Socket.localAddr s).mapErr .ioVsock
  (Socket.setReadTimeout s 1000).mapErr .ioVsock
  let bs ← Task.loop (receiveStep s) .new
  match fromSlice bs with
  | some r => pure r
  | none => Task.fail .json

/-! ## What was read -/

def IsRead : SysOp → Prop
  | .read _ _ => True
  | _ => False

/-- A read asks for a byte at least. -/
def Asks : SysEvent → Prop
  | ⟨.read _ n, _⟩ => 0 < n
  | _ => True

abbrev Asking (h : History) : Prop := ∀ e ∈ h, Asks e

/-- No failure and no shutdown: what is tried again may fail, as long as `backoff` does not give up. -/
def Smooth : SysEvent → Prop
  | ⟨.isCancelled, true⟩ | ⟨.nextBackoff _ _, none⟩ | ⟨.localAddr _, .error _⟩ | ⟨.shutdown _ _, .error _⟩
  | ⟨.setReadTimeout _ _, .error _⟩ | ⟨.setWriteTimeout _ _, .error _⟩ | ⟨.read _ _, .error _⟩
  | ⟨.write _ _, .error _⟩ => False
  | ⟨.write _ _, .ok n⟩ => 0 < n.val
  | _ => True

instance : DecidablePred Smooth := fun e =>
  decidable_of_bool (match e with
    | ⟨.isCancelled, true⟩ | ⟨.nextBackoff _ _, none⟩ | ⟨.localAddr _, .error _⟩ | ⟨.shutdown _ _, .error _⟩
    | ⟨.setReadTimeout _ _, .error _⟩ | ⟨.setWriteTimeout _ _, .error _⟩ | ⟨.read _ _, .error _⟩
    | ⟨.write _ _, .error _⟩ => false
    | ⟨.write _ _, .ok n⟩ => decide (0 < n.val)
    | _ => true) (by unfold Smooth; split <;> simp)

/-- Some event was a failure or the shutdown. -/
def Rough (h : History) : Prop := ∃ e ∈ h, ¬ Smooth e

instance (h : History) : Decidable (Rough h) := inferInstanceAs (Decidable (∃ e ∈ h, ¬ Smooth e))

/-- `bs` is what was read from `s`. -/
structure Reading (s : Fd) (bs : Bytes) (h : History) : Prop where
  asks : Asking h
  bytes : readOn s h = bs

def Unread (h : History) : Prop := ∀ e ∈ h, ¬ IsRead e.1

/-- The last read found the end of the stream. -/
def AtEnd (s : Fd) (h : History) : Prop := ∃ u n x, h = u ++ [⟨.read s n, .ok ⟨[], x⟩⟩] ∧ 0 < n

section
variable {fromSlice : Bytes → Option Record} {s : Fd} {bs : Bytes} {h : History} {e : SysEvent}

theorem rough_snoc (he : ¬ Smooth e) : Rough (h ++ [e]) := ⟨e, by simp, he⟩

theorem asks_of_not_read (he : ¬ IsRead e.1) : Asks e := by
  obtain ⟨op, r⟩ := e
  cases op with
  | read => exact absurd trivial he
  | _ => trivial

theorem readOn_of_not_read (he : ¬ IsRead e.1) : readOn s [e] = [] := by
  obtain ⟨op, r⟩ := e
  cases op with
  | read => exact absurd trivial he
  | _ => rfl

theorem unread_nil : Unread [] := fun _ he => absurd he List.not_mem_nil

theorem Unread.snoc (hu : Unread h) (he : ¬ IsRead e.1) : Unread (h ++ [e]) := by
  intro x hx
  rcases List.mem_append.1 hx with hx | hx
  · exact hu x hx
  · rw [List.mem_singleton.1 hx]
    exact he

theorem Unread.reading (hu : Unread h) : Reading s [] h where
  asks e he := asks_of_not_read (hu e he)
  bytes := by
    unfold readOn
    refine List.flatMap_eq_nil_iff.2 fun e he => ?_
    simpa [readOn] using readOn_of_not_read (s := s) (hu e he)

theorem Reading.snoc (hr : Reading s bs h) (he : Asks e) {bs' : Bytes} (hb : readOn s [e] = bs') :
    Reading s (bs ++ bs') (h ++ [e]) where
  asks x hx := by
    rcases List.mem_append.1 hx with hx | hx
    · exact hr.asks x hx
    · rw [List.mem_singleton.1 hx]
      exact he
  bytes := by rw [readOn_append, hr.bytes, hb]

theorem Reading.other (hr : Reading s bs h) (he : ¬ IsRead e.1) : Reading s bs (h ++ [e]) := by
  have hr' := hr.snoc (asks_of_not_read he) (readOn_of_not_read he)
  rwa [List.append_nil] at hr'

/-! ## The loop -/

/-- `get` fails: something failed, the record is too long, or what was read up to the end of the stream is not a
record. -/
structure Fails (fromSlice : Bytes → Option Record) (h : History) : Prop where
  asks : Asking h
  cause : Rough h ∨ ∃ s, MAX_RECORD_SIZE ≤ (readOn s h).length ∨ AtEnd s h ∧ fromSlice (readOn s h) = none

/-- A part of `get` succeeds with `R`, or `get` fails. -/
abbrev Gets (fromSlice : Bytes → Option Record) {α : Type} (R : α → History → Prop) :
    Outcome Error α → History → Prop := Outcome.post R (fun _ => Fails fromSlice) fun _ => False

/-- All bytes were read, unless there was a failure. -/
def Received (s : Fd) (bs : Bytes) (h : History) : Prop := Reading s bs h ∧ (Rough h ∨ AtEnd s h)

/-- A read into the free part of the buffer. -/
theorem triple_read {buf : RecvBuffer} (hfree : 0 < buf.free) :
    Triple Machine.anyEnv Asking (Reading s buf.bytes)
      (do
        let bs ← (Socket.read s buf.free).mapErr .ioVsock
        if bs.1.length = 0 then pure (.stop buf.bytes) else pure (.next (buf.push bs)) :
        Sys Error (Ctl RecvBuffer Bytes))
      (Gets fromSlice (Ctl.post (fun buf => Reading s buf.bytes) (Received s))) := by
  refine Task.triple_seq (fun bs h => Reading s (buf.bytes ++ bs.1) h ∧ (bs.1.length = 0 → AtEnd s h))
    (Task.triple_mapErr (Task.triple_call (fun h hr _ => hr.asks) fun h r hr _ => ?_)) fun bs => ?_
  · have hasks : Asks ⟨.read s buf.free, r⟩ := hfree
    cases r with
    | ok bs =>
      refine ⟨hr.snoc hasks (by simp [readOn]), fun h0 => ?_⟩
      obtain ⟨bs, hle⟩ := bs
      obtain rfl : bs = [] := List.length_eq_zero_iff.1 h0
      exact ⟨h, _, hle, rfl, hfree⟩
    | error e => exact ⟨(hr.snoc hasks rfl).asks, .inl (rough_snoc not_false)⟩
  · by_cases h0 : bs.1.length = 0
    · rw [if_pos h0]
      refine Task.triple_ret fun h hr _ => ⟨?_, .inr (hr.2 h0)⟩
      have hbs := hr.1
      rwa [List.length_eq_zero_iff.1 h0, List.append_nil] at hbs
    · rw [if_neg h0]
      exact Task.triple_ret fun h hr _ => hr.1

theorem triple_receive :
    Triple Machine.anyEnv Asking (Reading s []) (Task.loop (receiveStep s) .new)
      (Gets fromSlice (Received s)) := by
  refine Task.triple_loop (J := fun (buf : RecvBuffer) h => Reading s buf.bytes h) (fun buf => ?_) .new
  refine Task.triple_seq (fun stop h => Reading s buf.bytes h ∧ (stop = true → Rough h))
    (Task.triple_call (fun h hr _ => hr.asks) fun h stop hr _ => ⟨hr.other not_false, ?_⟩) fun stop => ?_
  · rintro rfl
    exact rough_snoc not_false
  cases stop with
  | true => exact Task.triple_ret fun h hr _ => ⟨hr.1, .inl (hr.2 rfl)⟩
  | false =>
    rcases buf.room_spec with ⟨buf', hroom, hbytes, hfree⟩ | ⟨⟨e, hroom⟩, hmax⟩
    · refine Task.triple_seq (fun b h => buf' = b ∧ Reading s buf'.bytes h)
        (Task.triple_ofExcept fun h hr _ => ?_) fun b => triple_of_fact ?_
      · rw [hroom]
        exact ⟨rfl, hbytes ▸ hr.1⟩
      · rintro rfl
        exact triple_read hfree
    · refine Task.triple_seq (fun _ _ => False) (Task.triple_ofExcept fun h hr _ => ?_) fun _ =>
        fun _ _ _ hf => hf.elim
      rw [hroom]
      refine ⟨hr.1.asks, .inr ⟨s, .inl ?_⟩⟩
      rw [hr.1.bytes]
      exact hmax

/-! ## The whole of `get` -/

/-- Before the connection is there nothing is read, and giving up is a failure. -/
def Connecting (p : RetryPhase) (h : History) : Prop := Unread h ∧ ∀ e, p = .gaveUp e → Rough h

theorem Unread.connecting {p : RetryPhase} (hu : Unread h) (hp : ¬ p.Ended) : Connecting p h := by
  refine ⟨hu, fun e he => ?_⟩
  rw [he] at hp
  exact absurd trivial hp

theorem connecting_step {b : ExponentialBackoff} {p p' : RetryPhase} (hs : RetryStep b p e p')
    (hp : Connecting p h) :
    Connecting p' (h ++ [e]) := by
  cases hs with
  | start | attempt | clock | again | sleep => exact Unread.connecting (hp.1.snoc not_false) not_false
  | cancelled | giveUp => exact ⟨hp.1.snoc not_false, fun _ _ => rough_snoc not_false⟩

theorem Unread.asks (hu : Unread h) : Asking h := fun e he => asks_of_not_read (hu e he)

/-- An operation that is not a read. -/
theorem triple_quiet {α ε : Type} {op : SysOp} {k : op.Res → Outcome ε α} {Q : Outcome ε α → History → Prop}
    (hop : ¬ IsRead op) (hQ : ∀ r h, Unread (h ++ [⟨op, r⟩]) → Q (k r) (h ++ [⟨op, r⟩])) :
    Triple Machine.anyEnv Asking Unread (Task.call op k) Q :=
  Task.triple_call (fun _ hu _ => hu.asks) fun h r hu _ => hQ r h (hu.snoc hop)

theorem triple_newClientSocketWithBackoff {addr : SockAddr} {b : ExponentialBackoff} :
    Triple Machine.anyEnv Asking (fun h => h = []) (Vsock.newClientSocketWithBackoff addr b)
      (Gets fromSlice fun _ => Unread) := by
  refine (triple_withBackoff (J := Connecting) (fun _ _ h hp _ => hp.1.asks)
    (fun hs hp _ => connecting_step hs hp)
    (fun start => ?_) fun e h hp => ⟨hp.1.asks, .inl (hp.2 e rfl)⟩).pre ?_
  · refine Triple.pre ?_ fun h hp => hp.1
    refine Task.triple_seq (fun _ => Unread)
      (Task.triple_mapErr (triple_quiet not_false fun r h hu => ?_)) fun s => ?_
    · cases r with
      | ok s => exact hu
      | error e => exact hu.connecting nofun
    refine Task.triple_seq (fun _ => Unread)
      (Task.triple_mapErr (triple_quiet not_false fun r h hu => ?_)) fun _ => ?_
    · cases r with
      | ok _ => exact hu
      | error e => exact hu.connecting nofun
    refine Task.triple_seq (fun _ => Unread)
      (Task.triple_mapErr (triple_quiet not_false fun r h hu => ?_)) fun _ =>
      Task.triple_ret fun h hu _ => hu
    cases r with
    | ok a => exact hu
    | error e => exact hu.connecting nofun
  · rintro h rfl
    exact unread_nil.connecting nofun

/-- An operation on the new connection that is not a read; its failure is the end of `get`. -/
theorem triple_prepare {α : Type} {op : SysOp} {k : op.Res → Outcome IoError α} (hop : ¬ IsRead op)
    (hk : ∀ r, (∃ a, k r = .ok a) ∨ (∃ e, k r = .err e) ∧ ¬ Smooth ⟨op, r⟩) :
    Triple Machine.anyEnv Asking Unread (Task.mapErr Error.ioVsock (Task.call op k))
      (Gets fromSlice fun _ => Unread) := by
  refine Task.triple_mapErr (triple_quiet hop fun r h hu => ?_)
  rcases hk r with ⟨a, ha⟩ | ⟨⟨e, he⟩, hs⟩
  · rw [ha]
    exact hu
  · rw [he]
    exact ⟨hu.asks, .inl (rough_snoc hs)⟩

theorem triple_localAddr :
    Triple Machine.anyEnv Asking Unread (Task.mapErr Error.ioVsock (Socket.localAddr s))
      (Gets fromSlice fun _ => Unread) := by
  refine triple_prepare not_false fun r => ?_
  cases r with
  | ok a => exact .inl ⟨a, rfl⟩
  | error e => exact .inr ⟨⟨e, rfl⟩, not_false⟩

/-- **What `get` returns is what was read, parsed.** -/
theorem triple_get {addr : SockAddr} {b : ExponentialBackoff} :
    Triple Machine.anyEnv Asking (fun h => h = []) (get fromSlice addr b)
      (Gets fromSlice fun r h => Asking h ∧ ∃ s, fromSlice (readOn s h) = some r) := by
  refine Task.triple_seq (fun _ => Unread) triple_newClientSocketWithBackoff fun s => ?_
  refine Task.triple_seq (fun _ => Unread) (Task.triple_seq (fun _ => Unread) triple_localAddr fun _ =>
    triple_prepare not_false fun r => ?_) fun _ => ?_
  · cases r with
    | ok a => exact .inl ⟨a, rfl⟩
    | error e => exact .inr ⟨⟨e, rfl⟩, not_false⟩
  refine Task.triple_seq (fun _ => Unread) triple_localAddr fun _ => ?_
  refine Task.triple_seq (fun _ => Unread) (triple_prepare not_false fun r => ?_) fun _ => ?_
  · cases r with
    | ok a => exact .inl ⟨a, rfl⟩
    | error e => exact .inr ⟨⟨e, rfl⟩, not_false⟩
  refine Task.triple_seq (Received s) (triple_receive.pre fun h hu => hu.reading) fun bs => ?_
  cases hr : fromSlice bs with
  | some r =>
    refine Task.triple_ret fun h hb _ => ⟨hb.1.asks, s, ?_⟩
    rw [hb.1.bytes, hr]
  | none =>
    refine Task.triple_fail fun h hb _ => ⟨hb.1.asks, ?_⟩
    rcases hb.2 with hrough | hend
    · exact .inl hrough
    · refine .inr ⟨s, .inr ⟨hend, ?_⟩⟩
      rw [hb.1.bytes, hr]

end

end Bootstrap
end Glycerine
