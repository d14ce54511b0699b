import Glycerine.Bootstrap.Transfer
/-
# The limit on the size of the record (`get`, `bootstrap/mod.rs:306-340`)

The limit is tested when the buffer is full, before it is known whether more bytes follow. A stream of exactly
`MAX_RECORD_SIZE` bytes therefore fails like a longer one (`limitExact_iff`), however it is split over reads.
-/

namespace Glycerine
open Interact

namespace Bootstrap

/-- The failure of a record that is too long. -/
def tooLong : Error := .ioVsock (.custom .invalidData "bootstrap record exceeds maximum size")

/-! ## The buffer -/

namespace RecvBuffer
variable {buf buf' : RecvBuffer}

theorem size_room (h : buf.room = .ok buf') (hsize : buf.size ≤ MAX_RECORD_SIZE) :
    buf'.size ≤ MAX_RECORD_SIZE := by
  unfold room at h
  split at h
  · split at h
    · cases h
    · cases h
      exact Nat.min_le_right _ _
  · cases h
    exact hsize

theorem room_full (hfull : buf.bytes.length = MAX_RECORD_SIZE) (hsize : buf.size ≤ MAX_RECORD_SIZE) :
    buf.room = .error tooLong := by
  have hle := buf.le
  unfold room
  rw [if_pos (by omega), dif_pos (by omega)]
  rfl

end RecvBuffer

/-! ## The reads -/

/-- A read is of a byte at least, and into a buffer of at most the maximum size. -/
def Within (s : Fd) (h : History) : Prop :=
  ∀ (u : History) n r v, h = u ++ ⟨.read s n, r⟩ :: v → 0 < n ∧ (readOn s u).length + n ≤ MAX_RECORD_SIZE

section
variable {s : Fd} {h : History} {e : SysEvent}

theorem Within.snoc (hw : Within s h)
    (he : ∀ n r, e = ⟨.read s n, r⟩ → 0 < n ∧ (readOn s h).length + n ≤ MAX_RECORD_SIZE) :
    Within s (h ++ [e]) := by
  intro u n r v heq
  rcases List.eq_nil_or_concat v with rfl | ⟨v, x, rfl⟩
  · obtain ⟨rfl, hx⟩ := List.append_inj' heq rfl
    exact he n r (List.cons.inj hx).1
  · rw [List.concat_eq_append, ← List.cons_append, ← List.append_assoc] at heq
    obtain ⟨hu, -⟩ := List.append_inj' heq rfl
    exact hw u n r v hu

theorem Within.other (hw : Within s h) (he : ¬ IsRead e.1) : Within s (h ++ [e]) := by
  refine hw.snoc fun n r heq => ?_
  subst heq
  exact absurd trivial he

/-- What holds at the head of each round. -/
structure Filled (s : Fd) (buf : RecvBuffer) (h : History) : Prop where
  bytes : readOn s h = buf.bytes
  size : buf.size ≤ MAX_RECORD_SIZE
  within : Within s h

theorem Filled.other {buf : RecvBuffer} (hf : Filled s buf h) (he : ¬ IsRead e.1) : Filled s buf (h ++ [e]) where
  bytes := by rw [readOn_append, hf.bytes, readOn_of_not_read he, List.append_nil]
  size := hf.size
  within := hf.within.other he

theorem triple_within :
    Triple Machine.anyEnv (Within s) (Filled s .new) (Task.loop (receiveStep s) .new) fun _ => Within s := by
  refine (Task.triple_loop (J := Filled s) (Q := Outcome.post (fun _ => Within s) (fun _ => Within s) (Within s))
    (fun buf => ?_) .new).post fun o h hw => by cases o <;> exact hw
  refine Task.triple_seq (fun _ => Filled s buf)
    (Task.triple_call (fun h hf _ => hf.within) fun h r hf _ => hf.other not_false) fun stop => ?_
  cases stop with
  | true => exact Task.triple_ret fun h hf _ => hf.within
  | false =>
    refine Task.triple_seq (fun buf' h => buf.room = .ok buf' ∧ Filled s buf h)
      (Task.triple_ofExcept fun h hf _ => ?_)
      fun buf' => triple_of_fact fun hroom => ?_
    · cases hroom : buf.room with
      | ok buf' => exact ⟨rfl, hf⟩
      | error e => exact hf.within
    obtain ⟨hbytes, hfree⟩ : buf'.bytes = buf.bytes ∧ 0 < buf'.free := by
      rcases buf.room_spec with ⟨b, hb, hbytes, hfree⟩ | ⟨⟨e, he⟩, -⟩
      · rw [hroom] at hb
        cases hb
        exact ⟨hbytes, hfree⟩
      · rw [hroom] at he
        cases he
    have hread : ∀ h r, Filled s buf h → Within s (h ++ [⟨.read s buf'.free, r⟩]) := by
      refine fun h r hf => hf.within.snoc fun n r' heq => ?_
      have hsize := RecvBuffer.size_room hroom hf.size
      have hle := buf'.le
      cases heq
      rw [hf.bytes, ← hbytes]
      refine ⟨hfree, ?_⟩
      show _ + (buf'.size - buf'.bytes.length) ≤ _
      omega
    refine Task.triple_seq
      (fun bs h => buf'.size ≤ MAX_RECORD_SIZE ∧ readOn s h = buf'.bytes ++ bs.1 ∧ Within s h)
      (Task.triple_mapErr (Task.triple_call (fun h hf _ => hf.within) fun h r hf _ => ?_)) fun bs => ?_
    · cases r with
      | ok bs =>
        refine ⟨RecvBuffer.size_room hroom hf.size, ?_, hread h _ hf⟩
        rw [readOn_append, hf.bytes, hbytes]
        simp [readOn]
      | error e => exact hread h _ hf
    · by_cases h0 : bs.1.length = 0
      · rw [if_pos h0]
        exact Task.triple_ret fun h hr _ => hr.2.2
      · rw [if_neg h0]
        exact Task.triple_ret fun h hr _ => ⟨hr.2.1, hr.1, hr.2.2⟩

end

/-! ## Every split over reads -/

section
variable {o : Oracle}

/-- As long as there are bytes left up to the limit, the loop goes on until the buffer is full. -/
theorem halts_tooLong {s : Fd} : ∀ (n : Nat) (buf : RecvBuffer) (w : World), w.conn = .up s →
    w.incoming.length = n → buf.size ≤ MAX_RECORD_SIZE → MAX_RECORD_SIZE ≤ buf.bytes.length + n →
    ∃ w', Halts (World.answer o) (Task.loop (receiveStep s) buf) w (.done (.err tooLong)) w' := by
  intro n
  induction n using Nat.strongRecOn with
  | ind n ih =>
    intro buf w hc hn hsize hmax
    have hle := buf.le
    by_cases hfull : buf.bytes.length = MAX_RECORD_SIZE
    · refine ⟨w, Task.halts_loop_err ?_⟩
      unfold receiveStep
      rw [RecvBuffer.room_full hfull hsize]
      refine Task.halts_andThen (Task.halts_call rfl rfl) ?_
      exact Task.halts_andThen_err halts_pure
    · obtain ⟨buf', hroom, hbytes, hfree⟩ := buf.room_of_lt (by omega)
      have hin : w.incoming ≠ [] := by
        intro hnil
        rw [hnil, List.length_nil] at hn
        omega
      obtain ⟨k, bs, w₁, hk, hbs, hleft, hc₁, hstep⟩ := halts_receiveStep (o := o) hc hroom hfree hin
      have hpos : 0 < w.incoming.length := List.length_pos_iff.2 hin
      have hmore : (buf'.push bs).bytes = buf.bytes ++ w.incoming.take k := by
        rw [← hbs, ← hbytes]
        rfl
      have hsize' : buf'.size ≤ MAX_RECORD_SIZE := RecvBuffer.size_room hroom hsize
      obtain ⟨w', hrest⟩ := ih w₁.incoming.length (by rw [hleft, List.length_drop]; omega) (buf'.push bs) w₁ hc₁ rfl
        hsize' (by
          rw [hmore, hleft, List.length_append, Nat.add_assoc, ← List.length_append, List.take_append_drop, hn]
          exact hmax)
      exact ⟨w', Task.halts_loop_next hstep hrest⟩

end

/-- The limit is exact for a stream: however it is split over reads, the loop ends, and fails if and only if the
stream is longer than the limit; otherwise all of it was read. -/
structure LimitExact (stream : Bytes) : Prop where
  ends : ∀ (o : Oracle) (s : Fd), o.tail = .eof → ∃ r w',
    Halts (World.answer o) (Task.loop (receiveStep s) .new) ((World.init o [] stream).connected s) (.done r) w' ∧
      (r = .err tooLong ↔ MAX_RECORD_SIZE < stream.length) ∧ (stream.length ≤ MAX_RECORD_SIZE → r = .ok stream)
  within : ∀ s h o, Exec (Task.loop (receiveStep s) .new) h o → Within s h

section
variable {stream : Bytes} {o : Oracle}

theorem size_new : RecvBuffer.new.size ≤ MAX_RECORD_SIZE := by decide

theorem within_of_exec {s : Fd} {h : History} {st : Status sysSig (Outcome Error Bytes)}
    (hx : Exec (Task.loop (receiveStep s) .new) h st) : Within s h := by
  have hfilled : Filled s .new [] := ⟨rfl, size_new, fun u n r v heq => by simp at heq⟩
  have hw := triple_within [] h st hfilled hx trivial
  cases st <;> exact hw

/-- A stream that reaches the limit is refused. -/
theorem halts_refused (hlong : MAX_RECORD_SIZE ≤ stream.length) (s : Fd) :
    ∃ w', Halts (World.answer o) (Task.loop (receiveStep s) .new) ((World.init o [] stream).connected s)
      (.done (.err tooLong)) w' :=
  halts_tooLong stream.length .new _ rfl rfl size_new (by simpa [RecvBuffer.new] using hlong)

/-- The oracle that hands out one byte at a time. -/
def bytewise : Oracle where
  cut _ := 1
  accepted _ := 1
  rawSend _ := .whole
  trouble _ := []
  tail := .eof
  peerCid := 0

theorem not_limitExact (hmax : stream.length = MAX_RECORD_SIZE) : ¬ LimitExact stream := by
  intro h
  obtain ⟨r, w, hr, -, hok⟩ := h.ends bytewise 0 rfl
  obtain ⟨w', hr'⟩ := halts_refused (o := bytewise) (Nat.le_of_eq hmax.symm) 0
  cases (hr.unique hr').1
  cases hok (Nat.le_of_eq hmax)

/-- **The limit is off by one**: it is exact for every stream but those of exactly `MAX_RECORD_SIZE` bytes. -/
theorem limitExact_iff (stream : Bytes) : LimitExact stream ↔ stream.length ≠ MAX_RECORD_SIZE := by
  refine ⟨fun h hmax => not_limitExact hmax h, fun hne => ⟨fun o s heof => ?_, fun s h st => within_of_exec⟩⟩
  by_cases hlt : stream.length < MAX_RECORD_SIZE
  · obtain ⟨w', hr⟩ := halts_receive heof stream.length .new ((World.init o [] stream).connected s) rfl rfl
      (by simpa [RecvBuffer.new] using hlt)
    refine ⟨_, w', hr, iff_of_false nofun (by omega), fun _ => rfl⟩
  · obtain ⟨w', hr⟩ := halts_refused (o := o) (by omega : MAX_RECORD_SIZE ≤ stream.length) s
    exact ⟨_, w', hr, iff_of_true rfl (by omega), fun hle => by omega⟩

/-- A record that is as long as it may be. -/
theorem longest_refused : ¬ ∀ stream, LimitExact stream :=
  fun h => not_limitExact List.length_replicate (h (List.replicate MAX_RECORD_SIZE 0))

end

end Bootstrap
end Glycerine
