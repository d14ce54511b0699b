import Glycerine.Proxy.Packet
import Glycerine.System.World
/-
# The receiving worker against one byte stream

`pump` is followed through a stream that the oracle splits over reads as it likes. One round takes one packet
off the stream (`halts_pumpStep_frame`), refuses a header (`halts_pumpStep_bad`) or runs into the end
(`halts_pumpStep_short`); which of the three is decided by `Codec.cut`, so a whole run of `pump` is the greedy
parse of the stream (`halts_pump_parse`), as far as no raw socket fails.
-/

namespace Glycerine
open Interact Framing

/-! ## Reading -/

/-- `read_exact` when the stream ends early. -/
def eofError : IoError := .custom .unexpectedEof "failed to fill whole buffer"

/-- The error of a read behind the last byte. -/
def Tail.error : Tail → Option IoError
  | .hold => none
  | .eof => some eofError
  | .broken e _ => some e

/-- What becomes of a read behind the last byte. -/
def Tail.status {ε α : Type} (t : Tail) (f : IoError → ε) (s : Fd) (n : Nat) : Status sysSig (Outcome ε α) :=
  match t with
  | .hold => .asks (.read s n)
  | .eof => .done (.err (f eofError))
  | .broken e _ => .done (.err (f e))

section
variable {o : Oracle}

theorem halts_read {w : World} {s : Fd} (hc : w.conn = .up s) {n : Nat} (hn : 0 < n) (hw : w.incoming ≠ []) :
    ∃ h, Halts (World.answer o) (Socket.read s n) w
      (.done (.ok ⟨w.incoming.take (World.clamp (o.cut w.reads) n), h⟩))
      { w with
        incoming := w.incoming.drop (World.clamp (o.cut w.reads) n), reads := w.reads + 1 } := by
  have hle : (w.incoming.take (World.clamp (o.cut w.reads) n)).length ≤ n := by
    have := World.clamp_le (o.cut w.reads) n
    rw [List.length_take]
    omega
  have hans : World.answer o w (.read s n) =
      some (.ok ⟨w.incoming.take (World.clamp (o.cut w.reads) n), hle⟩,
        { w with incoming := w.incoming.drop (World.clamp (o.cut w.reads) n), reads := w.reads + 1 }) := by
    simp only [World.answer, World.answerRead]
    rw [if_pos hc, if_neg (by omega), if_neg hw]
  exact ⟨hle, Task.halts_call hans rfl⟩

/-- As long as the stream has the bytes, `read_exact` gets them, however the reads split them. -/
theorem halts_readLoop {s : Fd} (n : Nat) : ∀ (m : Nat) (got : {bs : Bytes // bs.length ≤ n}) (w : World),
    w.conn = .up s → got.1.length + m = n → m ≤ w.incoming.length →
      ∃ h k, Halts (World.answer o) (Task.loop (readStep s n) got) w
        (.done (.ok ⟨got.1 ++ w.incoming.take m, h⟩))
        { w with incoming := w.incoming.drop m, reads := w.reads + k } := by
  intro m
  induction m using Nat.strongRecOn with
  | ind m ih =>
    intro got w hc hgot hlen
    by_cases hm : m = 0
    · subst hm
      refine ⟨by simpa using hgot, 0, Task.halts_loop_stop ?_⟩
      unfold readStep
      rw [dif_pos (by omega)]
      simp only [List.take_zero, List.append_nil, List.drop_zero, Nat.add_zero]
      exact Task.halts_ret
    · have hne : w.incoming ≠ [] := by
        intro h
        rw [h, List.length_nil] at hlen
        omega
      have hsub : n - got.1.length = m := by omega
      obtain ⟨hle, hread⟩ := halts_read (o := o) hc (show 0 < m by omega) hne
      have hk := World.clamp_pos (k := o.cut w.reads) (show 0 < m by omega)
      have hkm := World.clamp_le (o.cut w.reads) m
      generalize World.clamp (o.cut w.reads) m = k at hle hread hk hkm
      have htake : (w.incoming.take k).length = k := by
        rw [List.length_take]
        omega
      obtain ⟨h, k', hrest⟩ := ih (m - k) (by omega) ⟨got.1 ++ w.incoming.take k, by
          rw [List.length_append]; omega⟩
        { w with incoming := w.incoming.drop k, reads := w.reads + 1 } hc
        (by rw [List.length_append]; omega) (by rw [List.length_drop]; omega)
      have hbytes : got.1 ++ w.incoming.take k ++ (w.incoming.drop k).take (m - k)
          = got.1 ++ w.incoming.take m := by
        rw [List.append_assoc, ← List.take_add, show k + (m - k) = m by omega]
      simp only [hbytes, List.drop_drop, show k + (m - k) = m by omega, Nat.add_assoc] at hrest h
      refine ⟨h, 1 + k', Task.halts_loop_next ?_ hrest⟩
      unfold readStep
      rw [dif_neg (by omega)]
      subst hsub
      refine Task.halts_andThen (Task.halts_attempt_ok hread) ?_
      dsimp only
      rw [if_neg (by omega)]
      exact Task.halts_ret

/-- When the stream is shorter, `read_exact` takes what is there and meets the tail. -/
theorem halts_readLoop_short {s : Fd} (n : Nat) :
    ∀ (m : Nat) (got : {bs : Bytes // bs.length ≤ n}) (w : World), w.conn = .up s →
    got.1.length + m = n → w.incoming.length < m →
      ∃ k, Halts (World.answer o) (Task.loop (readStep s n) got) w
        (o.tail.status id s (m - w.incoming.length))
        { w with incoming := [], reads := w.reads + k } := by
  intro m
  induction m using Nat.strongRecOn with
  | ind m ih =>
    intro got w hc hgot hlen
    have hsub : n - got.1.length = m := by omega
    by_cases hw : w.incoming = []
    · refine ⟨0, ?_⟩
      rw [hw, List.length_nil, Nat.sub_zero, Nat.add_zero]
      have hww : ({ w with incoming := [], reads := w.reads } : World) = w := by rw [← hw]
      rw [hww]
      have hans : World.answer o w (.read s m) = (match o.tail with
          | .hold => none
          | .eof => some (.ok ⟨[], Nat.zero_le m⟩, w)
          | .broken e _ => some (.error e, w)) := by
        simp only [World.answer, World.answerRead]
        refine (if_pos hc).trans ((if_neg (by omega)).trans ((if_pos hw).trans ?_))
        cases o.tail <;> rfl
      subst hsub
      cases ht : o.tail with
      | hold =>
        rw [ht] at hans
        refine Task.halts_loop_blocked ?_
        unfold readStep
        rw [dif_neg (by omega)]
        exact Task.halts_andThen_blocked (Task.halts_attempt_blocked (Task.halts_call_blocked hans))
      | eof =>
        rw [ht] at hans
        refine Task.halts_loop_err ?_
        unfold readStep
        rw [dif_neg (by omega)]
        exact Task.halts_andThen (Task.halts_attempt_ok (Task.halts_call hans rfl)) Task.halts_fail
      | broken e he =>
        rw [ht] at hans
        refine Task.halts_loop_err ?_
        unfold readStep
        rw [dif_neg (by omega)]
        refine Task.halts_andThen (Task.halts_attempt_err (Task.halts_call hans rfl)) ?_
        dsimp only
        rw [he]
        exact Task.halts_fail
    · obtain ⟨hle, hread⟩ := halts_read (o := o) hc (show 0 < m by omega) hw
      have hk := World.clamp_pos (k := o.cut w.reads) (show 0 < m by omega)
      have hkm := World.clamp_le (o.cut w.reads) m
      generalize World.clamp (o.cut w.reads) m = k at hle hread hk hkm
      have hpos : 0 < w.incoming.length := List.length_pos_iff.2 hw
      have htake : (w.incoming.take k).length = min k w.incoming.length := List.length_take
      obtain ⟨k', hrest⟩ := ih (m - min k w.incoming.length) (by omega)
        ⟨got.1 ++ w.incoming.take k, by rw [List.length_append]; omega⟩
        { w with incoming := w.incoming.drop k, reads := w.reads + 1 } hc
        (by rw [List.length_append]; omega) (by rw [List.length_drop]; omega)
      simp only [List.length_drop, Nat.add_assoc,
        show m - min k w.incoming.length - (w.incoming.length - k) = m - w.incoming.length by omega] at hrest
      refine ⟨1 + k', Task.halts_loop_next ?_ hrest⟩
      unfold readStep
      rw [dif_neg (by omega)]
      subst hsub
      refine Task.halts_andThen (Task.halts_attempt_ok hread) ?_
      dsimp only
      rw [if_neg (by omega)]
      exact Task.halts_ret

/-! ## Buffers -/

theorem halts_slice {ε : Type} {n i j : Nat} {buf : Buf n} {bs : Bytes} (h : buf.slice i j = some bs)
    (w : World) : Halts (World.answer o) (slice buf i j : Sys ε Bytes) w (.done (.ok bs)) w := by
  unfold Glycerine.slice
  rw [h]
  exact Task.halts_ret

theorem halts_readExactInto {s : Fd} {n : Nat} (buf : Buf n) {i j : Nat} {bs rest : Bytes} {w : World}
    (hc : w.conn = .up s) (hj : i + bs.length = j) (h : i + bs.length ≤ n) (hw : w.incoming = bs ++ rest) :
    ∃ k, Halts (World.answer o) (readExactInto s buf i j) w
      (.done (.ok (buf.write i bs h))) { w with incoming := rest, reads := w.reads + k } := by
  subst hj
  have hsub : i + bs.length - i = bs.length := by omega
  obtain ⟨h', k, hread⟩ := halts_readLoop (o := o) (i + bs.length - i) (i + bs.length - i)
    ⟨[], Nat.zero_le _⟩ w hc (by simp) (by rw [hw, List.length_append]; omega)
  refine ⟨k, ?_⟩
  unfold readExactInto
  rw [dif_pos (by omega)]
  simp only [hw, hsub, List.nil_append, List.take_left, List.drop_left] at hread
  exact Task.halts_andThen hread Task.halts_ret

/-- The fixed part of a header, read into the front of the buffer. -/
theorem halts_readHeader {s : Fd} (buf : Buf Ipv4.MAX_PACKET_SIZE) {hd rest : Bytes} {w : World}
    (hc : w.conn = .up s) (hhd : hd.length = 20) (hw : w.incoming = hd ++ rest) :
    ∃ buf' k, Halts (World.answer o) (readExactInto s buf 0 20) w (.done (.ok buf'))
      { w with incoming := rest, reads := w.reads + k } ∧ buf'.slice 0 20 = some hd := by
  have hmax : Ipv4.MAX_PACKET_SIZE = 65535 := rfl
  have hj : 0 + hd.length = 20 := by omega
  obtain ⟨k, hread⟩ := halts_readExactInto (o := o) buf hc hj (by omega) hw
  exact ⟨_, k, hread, buf.slice_write hd (by omega) hj⟩

theorem halts_tail_andThen {ε α β : Type} {p : Sys ε β} {g : β → Sys ε α} {f : IoError → ε} {s : Fd} {m : Nat}
    {w w' : World} (h : Halts (World.answer o) p w (o.tail.status f s m) w') :
    Halts (World.answer o) (p >>= g : Sys ε α) w (o.tail.status f s m) w' := by
  cases ht : o.tail <;> rw [ht] at h
  · exact Task.halts_andThen_blocked h
  · exact Task.halts_andThen_err h
  · exact Task.halts_andThen_err h

theorem halts_tail_mapErr {ε ε' α : Type} {p : Sys ε α} {g : ε → ε'} {f : IoError → ε} {s : Fd} {m : Nat}
    {w w' : World} (h : Halts (World.answer o) p w (o.tail.status f s m) w') :
    Halts (World.answer o) (p.mapErr g) w (o.tail.status (fun e => g (f e)) s m) w' := by
  cases ht : o.tail <;> rw [ht] at h
  · exact Task.halts_mapErr_blocked h
  · exact Task.halts_mapErr_err h
  · exact Task.halts_mapErr_err h

theorem halts_readExactInto_short {s : Fd} {n : Nat} (buf : Buf n) {i j : Nat} {w : World}
    (hc : w.conn = .up s) (h : i ≤ j ∧ j ≤ n) (hw : w.incoming.length < j - i) :
    ∃ k, Halts (World.answer o) (readExactInto s buf i j) w
      (o.tail.status id s (j - i - w.incoming.length)) { w with incoming := [], reads := w.reads + k } := by
  obtain ⟨k, hread⟩ := halts_readLoop_short (o := o) (j - i) (j - i) ⟨[], Nat.zero_le _⟩ w hc (by simp) hw
  refine ⟨k, ?_⟩
  unfold readExactInto
  rw [dif_pos h]
  exact halts_tail_andThen hread

/-! ## Raw sends -/

/-- The error that `pump` sees when a raw send ends like this. -/
def RawSend.error : RawSend → Option IoError
  | .whole => none
  | .zero => some (.custom .writeZero "sent zero bytes")
  | .fails e => some e

/-- A datagram is handed to the raw socket once, whole. If that fails it is not tried again. -/
theorem halts_sendPayload (self : VsockToIpv4) (dst : Fd) (wrap : IoError → Error)
    (buf : Buf Ipv4.MAX_PACKET_SIZE) {p : Bytes} (w : World) (hp : 0 < p.length)
    (hbuf : buf.slice 0 p.length = some p) :
    Halts (World.answer o) (self.sendPayload dst wrap buf p.length) w
      (match (o.rawSend w.log.length).error with
        | none => .done (.ok ())
        | some e => .done (.err (wrap e)))
      (w.record dst p (o.rawSend w.log.length).error.isNone) := by
  have hans : World.answer o w (.sendTo dst p self.cfg.ipv4SinkAddress) = some (w.answerSendTo o dst p) := rfl
  unfold World.answerSendTo at hans
  cases hr : o.rawSend w.log.length with
  | whole =>
    rw [hr] at hans
    have hsent : Halts (World.answer o) (self.sendStep dst wrap buf p.length 0) w
        (.done (.ok (.next (0 + p.length)))) (w.record dst p true) := by
      unfold VsockToIpv4.sendStep
      rw [if_pos hp]
      refine Task.halts_andThen (halts_slice hbuf w) ?_
      refine Task.halts_andThen (Task.halts_mapErr_ok ?_) Task.halts_ret
      unfold nonZero
      refine Task.halts_andThen (Task.halts_call hans rfl) ?_
      rw [if_pos (by exact hp)]
      exact Task.halts_ret
    refine Task.halts_loop_next hsent (Task.halts_loop_stop ?_)
    unfold VsockToIpv4.sendStep
    rw [if_neg (by omega)]
    exact Task.halts_ret
  | zero =>
    rw [hr] at hans
    refine Task.halts_loop_err ?_
    unfold VsockToIpv4.sendStep
    rw [if_pos hp]
    refine Task.halts_andThen (halts_slice hbuf w) ?_
    refine Task.halts_andThen_err (Task.halts_mapErr_err ?_)
    unfold nonZero
    refine Task.halts_andThen (Task.halts_call hans rfl) ?_
    rw [if_neg (by exact Nat.lt_irrefl 0)]
    exact Task.halts_fail
  | fails e =>
    rw [hr] at hans
    refine Task.halts_loop_err ?_
    unfold VsockToIpv4.sendStep
    rw [if_pos hp]
    refine Task.halts_andThen (halts_slice hbuf w) ?_
    refine Task.halts_andThen_err (Task.halts_mapErr_err ?_)
    unfold nonZero
    exact Task.halts_andThen_err (Task.halts_call hans rfl)

/-! ## One round of `pump` -/

/-- What the raw sockets are asked to take when `pump` cuts the packets `ps` off the stream, from the `k`-th
raw send on. -/
def deliveries (o : Oracle) : Nat → List Bytes → List Delivery
  | _, [] => []
  | k, p :: ps =>
    if Forwarded p then ⟨protocolOf p, p, (o.rawSend k).error.isNone⟩ :: deliveries o (k + 1) ps
    else deliveries o k ps

/-- The error that `pump` returns after packet `p`, if any. -/
def failure (o : Oracle) (k : Nat) (p : Bytes) : Option Error :=
  if protocolOf p = .TCP then (o.rawSend k).error.map .ioIpv4Tcp
  else if protocolOf p = .UDP then (o.rawSend k).error.map .ioIpv4Udp
  else none

theorem deliveries_cons_of_forwarded {o : Oracle} {k : Nat} {p : Bytes} {ps : List Bytes} (h : Forwarded p) :
    deliveries o k (p :: ps) = ⟨protocolOf p, p, (o.rawSend k).error.isNone⟩ :: deliveries o (k + 1) ps := by
  rw [deliveries, if_pos h]

theorem deliveries_cons_of_skipped {o : Oracle} {k : Nat} {p : Bytes} {ps : List Bytes} (h : ¬ Forwarded p) :
    deliveries o k (p :: ps) = deliveries o k ps := by
  rw [deliveries, if_neg h]

theorem deliveries_append (o : Oracle) : ∀ (k : Nat) (ps qs : List Bytes),
    deliveries o k (ps ++ qs) = deliveries o k ps ++ deliveries o (k + (deliveries o k ps).length) qs
  | _, [], _ => rfl
  | k, p :: ps, qs => by
    rw [List.cons_append]
    by_cases hp : Forwarded p
    · rw [deliveries_cons_of_forwarded hp, deliveries_cons_of_forwarded hp, deliveries_append o (k + 1) ps qs,
        List.length_cons, Nat.add_right_comm, Nat.add_assoc]
      rfl
    · rw [deliveries_cons_of_skipped hp, deliveries_cons_of_skipped hp, deliveries_append o k ps qs]

/-! When every raw send takes its datagram, all of them arrive. -/

theorem failure_of_whole {o : Oracle} (hraw : ∀ k, o.rawSend k = .whole) (k : Nat) (p : Bytes) :
    failure o k p = none := by
  unfold failure
  rw [hraw]
  simp [RawSend.error]

theorem deliveries_of_whole {o : Oracle} (hraw : ∀ k, o.rawSend k = .whole) : ∀ (k : Nat) (ps : List Bytes),
    deliveries o k ps = (ps.filter Forwarded).map fun p => ⟨protocolOf p, p, true⟩
  | _, [] => rfl
  | k, p :: ps => by
    by_cases hp : Forwarded p
    · rw [deliveries_cons_of_forwarded hp, deliveries_of_whole hraw (k + 1) ps, hraw,
        List.filter_cons_of_pos (by simpa using hp)]
      rfl
    · rw [deliveries_cons_of_skipped hp, deliveries_of_whole hraw k ps,
        List.filter_cons_of_neg (by simpa using hp)]

/-- How a step that succeeds with `a` ends, in view of the raw send. -/
def outcomeOf {α : Type} (e : Option Error) (a : α) : Status sysSig (Outcome Error α) :=
  match e with
  | none => .done (.ok a)
  | some e => .done (.err e)

/-- The raw sockets of `run` are open. -/
structure Ready (w : World) (tcp udp : Fd) : Prop where
  tcp : w.raw tcp = some .TCP
  udp : w.raw udp = some .UDP

namespace VsockToIpv4
variable (self : VsockToIpv4)

theorem halts_dispatch {tcp udp : Fd} (buf : Buf Ipv4.MAX_PACKET_SIZE) {p : Bytes} {w : World}
    (hr : Ready w tcp udp) (hp : 0 < p.length) (hbuf : buf.slice 0 p.length = some p) :
    Halts (World.answer o) (self.dispatch tcp udp (protocolOf p) buf p.length) w
      (outcomeOf (failure o w.log.length p) ())
      { w with log := w.log ++ deliveries o w.log.length [p] } := by
  unfold failure deliveries deliveries Forwarded
  by_cases ht : protocolOf p = .TCP
  · have hsend := halts_sendPayload (o := o) self tcp .ioIpv4Tcp buf w hp hbuf
    simp only [World.record, hr.tcp, Option.getD_some] at hsend
    simp only [ht, dispatch_tcp, if_true, true_or]
    cases hres : (o.rawSend w.log.length).error <;> rw [hres] at hsend <;> exact hsend
  · by_cases hu : protocolOf p = .UDP
    · have hsend := halts_sendPayload (o := o) self udp .ioIpv4Udp buf w hp hbuf
      simp only [World.record, hr.udp, Option.getD_some] at hsend
      have hne : Protocol.UDP ≠ Protocol.TCP := by decide
      simp only [hu, dispatch_udp, hne, if_true, if_false, or_true]
      cases hres : (o.rawSend w.log.length).error <;> rw [hres] at hsend <;> exact hsend
    · rw [dispatch_other ht hu]
      simp only [ht, hu, if_false, or_self, List.append_nil]
      exact Task.halts_ret

/-- A whole packet in front: it is cut off and handed to its raw socket, if it has one. -/
theorem halts_pumpStep_frame {tcp udp src : Fd} (buf : Buf Ipv4.MAX_PACKET_SIZE) {p rest : Bytes}
    {w : World} (hc : w.conn = .up src) (hr : Ready w tcp udp) (hp : WellFormed p) (hw : w.incoming = p ++ rest) :
    ∃ buf' k, Halts (World.answer o) (self.pumpStep src tcp udp buf) w
      (outcomeOf (failure o w.log.length p) (.next buf'))
      { w with
        incoming := rest, reads := w.reads + k, log := w.log ++ deliveries o w.log.length [p] } := by
  have hge := hp.length_ge
  have hle := hp.length_le
  have hhd : (p.take 20).length = 20 := by
    rw [List.length_take]
    omega
  have hbody : 20 + (p.drop 20).length = p.length := by
    rw [List.length_drop]
    omega
  have hmax : Ipv4.MAX_PACKET_SIZE = 65535 := rfl
  have hw₀ : w.incoming = p.take 20 ++ (p.drop 20 ++ rest) := by
    rw [hw, ← List.append_assoc, List.take_append_drop]
  obtain ⟨buf₁, k₁, hread₁, hslice₁⟩ := halts_readHeader (o := o) buf hc hhd hw₀
  let w₁ : World := { w with incoming := p.drop 20 ++ rest, reads := w.reads + k₁ }
  obtain ⟨k₂, hread₂⟩ := halts_readExactInto (o := o) buf₁ (w := w₁) hc hbody (by omega)
    (show w₁.incoming = p.drop 20 ++ rest from rfl)
  generalize hb₂ : buf₁.write 20 (p.drop 20) (by omega) = buf₂ at hread₂
  have hslice₂ : buf₂.slice 0 p.length = some p := by
    have h := buf₁.slice_write (p.drop 20) (by omega) hbody
    have htake : buf₁.bytes.take 20 = p.take 20 := by
      unfold Buf.slice at hslice₁
      rw [if_pos (by omega)] at hslice₁
      simpa using hslice₁
    rwa [hb₂, htake, List.take_append_drop] at h
  let w₂ : World := { w with incoming := rest, reads := w.reads + k₁ + k₂ }
  have hdisp := halts_dispatch (o := o) self buf₂ (w := w₂) ⟨hr.tcp, hr.udp⟩ (by omega) hslice₂
  refine ⟨buf₂, k₁ + k₂, ?_⟩
  rw [← Nat.add_assoc]
  unfold pumpStep
  refine Task.halts_andThen (Task.halts_call rfl rfl) ?_
  rw [if_neg Bool.false_ne_true]
  refine Task.halts_andThen (Task.halts_mapErr_ok hread₁) ?_
  refine Task.halts_andThen (halts_slice hslice₁ _) ?_
  rw [hp.ipv4TotalLen]
  refine Task.halts_andThen Task.halts_ret ?_
  refine Task.halts_andThen (Task.halts_mapErr_ok hread₂) ?_
  cases hf : failure o w.log.length p with
  | none =>
    rw [show failure o w₂.log.length p = none from hf] at hdisp
    exact Task.halts_andThen hdisp Task.halts_ret
  | some e =>
    rw [show failure o w₂.log.length p = some e from hf] at hdisp
    exact Task.halts_andThen_err hdisp

/-- A complete header that is refused ends `pump`; nothing is handed on. -/
theorem halts_pumpStep_bad {src : Fd} (tcp udp : Fd) (buf : Buf Ipv4.MAX_PACKET_SIZE) {w : World}
    (hc : w.conn = .up src) (hw : ipv4Codec.cut w.incoming = .stop .bad) :
    ∃ rest k, Halts (World.answer o) (self.pumpStep src tcp udp buf) w
      (.done (.err (.glycerineRuntime "invalid ipv4 packet")))
      { w with incoming := rest, reads := w.reads + k } := by
  unfold Codec.cut at hw
  split at hw
  · cases hw
  rename_i hlen
  have hlen : 20 ≤ w.incoming.length := Nat.le_of_not_lt hlen
  split at hw
  · rename_i hsize
    have hbad : ipv4TotalLen (w.incoming.take 20) = .error (.glycerineRuntime "invalid ipv4 packet") := by
      rcases ipv4TotalLen_cases (w.incoming.take 20) with ⟨n, pr, h⟩ | h
      · rw [show ipv4Codec.size (List.take ipv4Codec.headerLen w.incoming) = some n from
          announced_eq_some.2 ⟨pr, h⟩] at hsize
        cases hsize
      · exact h
    have hhd : (w.incoming.take 20).length = 20 := by
      rw [List.length_take]
      omega
    obtain ⟨buf', k, hread, hslice⟩ := halts_readHeader (o := o) buf hc hhd
      (List.take_append_drop 20 w.incoming).symm
    refine ⟨w.incoming.drop 20, k, ?_⟩
    unfold pumpStep
    refine Task.halts_andThen (Task.halts_call rfl rfl) ?_
    rw [if_neg Bool.false_ne_true]
    refine Task.halts_andThen (Task.halts_mapErr_ok hread) ?_
    refine Task.halts_andThen (halts_slice hslice _) ?_
    rw [hbad]
    exact Task.halts_andThen_err Task.halts_fail
  · split at hw <;> cases hw

/-- The stream ends inside a packet, or between two: `pump` meets the tail; nothing is handed on. -/
theorem halts_pumpStep_short {src : Fd} (tcp udp : Fd) (buf : Buf Ipv4.MAX_PACKET_SIZE) {w : World}
    (hc : w.conn = .up src) (hw : ipv4Codec.cut w.incoming = .stop .short) :
    ∃ m k, Halts (World.answer o) (self.pumpStep src tcp udp buf) w (o.tail.status .ioVsock src m)
      { w with incoming := [], reads := w.reads + k } := by
  have hmax : Ipv4.MAX_PACKET_SIZE = 65535 := rfl
  unfold Codec.cut at hw
  split at hw
  · rename_i hlen
    obtain ⟨k, hread⟩ := halts_readExactInto_short (o := o) buf (i := 0) (j := 20) hc (by omega) hlen
    refine ⟨20 - 0 - w.incoming.length, k, ?_⟩
    unfold pumpStep
    refine Task.halts_andThen (Task.halts_call rfl rfl) ?_
    rw [if_neg Bool.false_ne_true]
    exact halts_tail_andThen (halts_tail_mapErr hread)
  · rename_i hlen
    have hlen : 20 ≤ w.incoming.length := Nat.le_of_not_lt hlen
    split at hw
    · cases hw
    rename_i n hsize
    obtain ⟨pr, hok⟩ := announced_eq_some.1 hsize
    have hok : ipv4TotalLen (w.incoming.take 20) = .ok (n, pr) := hok
    obtain ⟨hge, hle⟩ := ipv4TotalLen_bounds hok
    split at hw
    · rename_i hshort
      have hhd : (w.incoming.take 20).length = 20 := by
        rw [List.length_take]
        omega
      obtain ⟨buf₁, k₁, hread₁, hslice⟩ := halts_readHeader (o := o) buf hc hhd
        (List.take_append_drop 20 w.incoming).symm
      let w₁ : World := { w with incoming := w.incoming.drop 20, reads := w.reads + k₁ }
      obtain ⟨k₂, hread₂⟩ := halts_readExactInto_short (o := o) buf₁ (i := 20) (j := n) (w := w₁) hc (by omega)
        (by simp only [w₁, List.length_drop]; omega)
      refine ⟨n - 20 - w₁.incoming.length, k₁ + k₂, ?_⟩
      rw [← Nat.add_assoc]
      unfold pumpStep
      refine Task.halts_andThen (Task.halts_call rfl rfl) ?_
      rw [if_neg Bool.false_ne_true]
      refine Task.halts_andThen (Task.halts_mapErr_ok hread₁) ?_
      refine Task.halts_andThen (halts_slice hslice _) ?_
      rw [hok]
      refine Task.halts_andThen Task.halts_ret ?_
      exact halts_tail_andThen (halts_tail_mapErr hread₂)
    · cases hw

/-! ## Runs of `pump` -/

/-- How `pump` ends behind the last packet of the stream. -/
def pumpEnd (o : Oracle) (src : Fd) (m : Nat) : Ending → Status sysSig (Outcome Error Unit)
  | .bad => .done (.err (.glycerineRuntime "invalid ipv4 packet"))
  | .short => o.tail.status .ioVsock src m

/-- The stream starts with the packets `ps`, and no packet follows them. Either a raw send fails and `pump`
returns right behind that packet, or it gets through all of `ps`. -/
theorem halts_pumpLoop {tcp udp src : Fd} {rest : Bytes} {e : Ending}
    (hrest : ipv4Codec.cut rest = .stop e) : ∀ (ps : List Bytes) (buf : Buf Ipv4.MAX_PACKET_SIZE) (w : World),
    w.conn = .up src → Ready w tcp udp → (∀ p ∈ ps, WellFormed p) → w.incoming = ps.flatten ++ rest →
      (∃ ps₁ p ps₂ err k, ps = ps₁ ++ p :: ps₂ ∧
        failure o (w.log.length + (deliveries o w.log.length ps₁).length) p = some err ∧
        Halts (World.answer o) (Task.loop (self.pumpStep src tcp udp) buf) w (.done (.err err))
          { w with
            incoming := ps₂.flatten ++ rest, reads := w.reads + k,
            log := w.log ++ deliveries o w.log.length (ps₁ ++ [p]) }) ∨
      ∃ m rest' k, Halts (World.answer o) (Task.loop (self.pumpStep src tcp udp) buf) w (pumpEnd o src m e)
        { w with
          incoming := rest', reads := w.reads + k, log := w.log ++ deliveries o w.log.length ps }
  | [], buf, w, hc, hr, _, hw => by
    rw [List.flatten_nil, List.nil_append] at hw
    subst hw
    right
    cases e with
    | bad =>
      obtain ⟨rest', k, h⟩ := halts_pumpStep_bad (o := o) self tcp udp buf hc hrest
      refine ⟨0, rest', k, ?_⟩
      simp only [deliveries, List.append_nil]
      exact Task.halts_loop_err h
    | short =>
      obtain ⟨m, k, h⟩ := halts_pumpStep_short (o := o) self tcp udp buf hc hrest
      refine ⟨m, [], k, ?_⟩
      simp only [deliveries, List.append_nil, pumpEnd]
      cases ht : o.tail <;> rw [ht] at h
      · exact Task.halts_loop_blocked h
      · exact Task.halts_loop_err h
      · exact Task.halts_loop_err h
  | p :: ps, buf, w, hc, hr, hps, hw => by
    rw [List.flatten_cons, List.append_assoc] at hw
    obtain ⟨buf', k, hstep⟩ := halts_pumpStep_frame (o := o) self buf hc hr (hps p (by simp)) hw
    cases hf : failure o w.log.length p with
    | some err =>
      rw [hf] at hstep
      exact .inl ⟨[], p, ps, err, k, rfl, hf, Task.halts_loop_err hstep⟩
    | none =>
      rw [hf] at hstep
      have hlog : ∀ qs, w.log ++ deliveries o w.log.length [p] ++
          deliveries o (w.log ++ deliveries o w.log.length [p]).length qs
          = w.log ++ deliveries o w.log.length (p :: qs) := by
        intro qs
        rw [List.append_assoc, List.length_append, ← deliveries_append o _ [p] qs]
        rfl
      rcases halts_pumpLoop hrest ps buf'
        { w with
          incoming := ps.flatten ++ rest, reads := w.reads + k,
          log := w.log ++ deliveries o w.log.length [p] }
        hc ⟨hr.tcp, hr.udp⟩ (fun q hq => hps q (by simp [hq])) rfl with
        ⟨ps₁, p', ps₂, err, k', rfl, hf', hrun⟩ | ⟨m, rest', k', hrun⟩
      · left
        refine ⟨p :: ps₁, p', ps₂, err, k + k', rfl, ?_, ?_⟩
        · rw [show p :: ps₁ = [p] ++ ps₁ from rfl, deliveries_append, List.length_append, ← Nat.add_assoc,
            ← List.length_append]
          exact hf'
        · simp only [hlog, Nat.add_assoc] at hrun
          exact Task.halts_loop_next hstep hrun
      · right
        refine ⟨m, rest', k + k', ?_⟩
        simp only [hlog, Nat.add_assoc] at hrun
        exact Task.halts_loop_next hstep hrun

end VsockToIpv4

end

end Glycerine
