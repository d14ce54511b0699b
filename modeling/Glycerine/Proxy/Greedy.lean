import Glycerine.Proxy.Ipv4Runs
/-
# `VsockToIpv4::pump` on a stream that ends

The peer decides every byte and where the stream ends. `pump` cuts off packets as long as it can and hands the
TCP and UDP packets to the raw sockets (`pump_greedy`); whatever comes in, it does not panic
(`pump_neverPanics`): the header is read into the first 20 bytes of the buffer, an accepted total length is
between 20 and the size of the buffer (`ipv4TotalLen_bounds`), and the second `match` on the protocol is only
reached when the first one found a socket.
-/

namespace Glycerine
open Interact Framing

/-! ## No panic -/

theorem slice_neverPanics {n i j : Nat} {ε : Type} {buf : Buf n} (h : i ≤ j ∧ j ≤ n) :
    Task.NeverPanics (slice buf i j : Sys ε Bytes) := by
  unfold slice Buf.slice
  rw [if_pos h]
  exact Task.neverPanics_pure

theorem nonZero_neverPanics {msg : String} {p : Sys IoError Nat} (hp : Task.NeverPanics p) :
    Task.NeverPanics (nonZero msg p) := by
  refine Task.neverPanics_andThen hp fun n => ?_
  split
  · exact Task.neverPanics_pure
  · exact Task.neverPanics_fail

theorem readExact_neverPanics (s : Fd) (n : Nat) : Task.NeverPanics (readExact s n) := by
  refine Task.neverPanics_loop (fun got => ?_) _
  unfold readStep
  split
  · exact Task.neverPanics_pure
  · refine Task.neverPanics_andThen
      (Task.neverPanics_attempt (Task.neverPanics_call fun r => Outcome.ofExcept_ne_panic r)) fun r => ?_
    cases r with
    | ok bs =>
      dsimp only
      split
      · exact Task.neverPanics_fail
      · exact Task.neverPanics_pure
    | error e =>
      dsimp only
      split
      · exact Task.neverPanics_pure
      · exact Task.neverPanics_fail

theorem readExactInto_neverPanics {n i j : Nat} {s : Fd} {buf : Buf n} (h : i ≤ j ∧ j ≤ n) :
    Task.NeverPanics (readExactInto s buf i j) := by
  unfold readExactInto
  rw [dif_pos h]
  exact Task.neverPanics_andThen (readExact_neverPanics s _) fun _ => Task.neverPanics_pure

namespace VsockToIpv4

theorem sendPayload_neverPanics (self : VsockToIpv4) {dst : Fd} {wrap : IoError → Error}
    {payload : Buf Ipv4.MAX_PACKET_SIZE} {payloadSize : Nat} (h : payloadSize ≤ Ipv4.MAX_PACKET_SIZE) :
    Task.NeverPanics (self.sendPayload dst wrap payload payloadSize) := by
  refine Task.neverPanics_loop (fun sent => ?_) 0
  unfold sendStep
  split
  · refine Task.neverPanics_andThen (slice_neverPanics ⟨by omega, h⟩) fun chunk => ?_
    refine Task.neverPanics_andThen (Task.neverPanics_mapErr (nonZero_neverPanics ?_)) fun _ =>
      Task.neverPanics_pure
    exact Task.neverPanics_call fun r => Outcome.ofExcept_ne_panic _
  · exact Task.neverPanics_pure

theorem dispatch_neverPanics (self : VsockToIpv4) {tcp udp : Fd} {protocol : Protocol}
    {payload : Buf Ipv4.MAX_PACKET_SIZE} {payloadSize : Nat} (h : payloadSize ≤ Ipv4.MAX_PACKET_SIZE) :
    Task.NeverPanics (self.dispatch tcp udp protocol payload payloadSize) := by
  unfold dispatch
  by_cases ht : protocol = .TCP
  · simp only [ht, if_true]
    exact self.sendPayload_neverPanics h
  · by_cases hu : protocol = .UDP
    · simp only [hu, show Protocol.UDP ≠ Protocol.TCP by decide, if_true, if_false]
      exact self.sendPayload_neverPanics h
    · simp only [ht, hu, if_false]
      exact Task.neverPanics_pure

theorem pumpStep_neverPanics (self : VsockToIpv4) (src tcp udp : Fd) (payload : Buf Ipv4.MAX_PACKET_SIZE) :
    Task.NeverPanics (self.pumpStep src tcp udp payload) := by
  have hmax : Ipv4.MAX_PACKET_SIZE = 65535 := rfl
  refine Task.neverPanics_andThen (Task.neverPanics_call (by simp)) fun c => ?_
  dsimp only
  split
  · exact Task.neverPanics_pure
  refine Task.neverPanics_andThen
    (Task.neverPanics_mapErr (readExactInto_neverPanics (by omega))) fun payload => ?_
  refine Task.neverPanics_andThen (slice_neverPanics (by omega)) fun header => ?_
  -- the length is only used if the header is accepted, and then it is within the buffer
  refine Task.neverPanics_ofExcept_andThen fun r hlen => ?_
  obtain ⟨hge, hle⟩ := ipv4TotalLen_bounds hlen
  refine Task.neverPanics_andThen
    (Task.neverPanics_mapErr (readExactInto_neverPanics ⟨hge, hle⟩)) fun payload => ?_
  exact Task.neverPanics_andThen (self.dispatch_neverPanics hle) fun _ => Task.neverPanics_pure

theorem pump_neverPanics (self : VsockToIpv4) (src tcp udp : Fd) :
    Task.NeverPanics (self.pump src tcp udp) :=
  Task.neverPanics_loop (self.pumpStep_neverPanics src tcp udp) _

/-! ## The greedy parse -/

/-- **`pump` is the greedy parse of whatever the peer sends** on the connection `src`; no other handle yields a byte.
The stream is a list of packets, followed by a complete header that is refused or by an incomplete packet. Exactly
the TCP and UDP packets among them are handed on, and the outcome says which of the two came after them. -/
theorem pump_greedy (self : VsockToIpv4) (o : Oracle) (hraw : ∀ k, o.rawSend k = .whole) {err : IoError}
    (htail : o.tail.error = some err) {w : World} {src tcp udp : Fd} (hc : w.conn = .up src)
    (hr : Ready w tcp udp) :
    Task.NeverPanics (self.pump src tcp udp) ∧
    ∃ (ps : List Bytes) (rest : Bytes) (w' : World), w.incoming = ps.flatten ++ rest ∧ (∀ p ∈ ps, WellFormed p) ∧
      w'.log = w.log ++ (ps.filter Forwarded).map (fun p => ⟨protocolOf p, p, true⟩) ∧
      ((20 ≤ rest.length ∧ ¬ HeaderOk rest ∧
          Halts (World.answer o) (self.pump src tcp udp) w
            (.done (.err (.glycerineRuntime "invalid ipv4 packet"))) w') ∨
        (Incomplete rest ∧
          Halts (World.answer o) (self.pump src tcp udp) w (.done (.err (.ioVsock err))) w')) := by
  refine ⟨self.pump_neverPanics src tcp udp, ?_⟩
  obtain ⟨hframes, rest, hin, hcut⟩ := parse_spec (c := ipv4Codec) w.incoming
  have hps : ∀ p ∈ (ipv4Codec.parse w.incoming).1, WellFormed p := fun p hp => frame_iff.1 (hframes p hp)
  rcases halts_pumpLoop (o := o) self hcut _ (Buf.zeroed _) w hc hr hps hin with
    ⟨_, p, _, _, _, _, hf, _⟩ | ⟨m, rest', k, hrun⟩
  · rw [failure_of_whole hraw] at hf
    cases hf
  · rw [deliveries_of_whole hraw] at hrun
    refine ⟨_, rest, { w with incoming := rest', reads := w.reads + k, log := w.log ++ _ }, hin, hps, rfl, ?_⟩
    cases he : (ipv4Codec.parse w.incoming).2 with
    | bad =>
      rw [he] at hcut hrun
      obtain ⟨hlen, hbad⟩ := cut_bad hcut
      exact .inl ⟨hlen, hbad, hrun⟩
    | short =>
      rw [he] at hcut hrun
      refine .inr ⟨cut_short hcut, ?_⟩
      unfold pumpEnd Tail.status at hrun
      cases ht : o.tail with
      | hold =>
        rw [ht] at htail
        cases htail
      | eof =>
        rw [ht] at htail hrun
        cases htail
        exact hrun
      | broken e h =>
        rw [ht] at htail hrun
        cases htail
        exact hrun

/-- One TCP packet, and the connection is closed inside the next header. -/
theorem pump_greedy_eof :
    let o : Oracle := ⟨fun _ => 3, fun _ => 1, fun _ => .whole, fun _ => [], .eof, 16⟩
    let packet : Bytes := [0x45, 0, 0, 20, 0, 0, 0, 0, 64, 6, 0, 0, 10, 0, 0, 1, 10, 0, 0, 2]
    let w : World := { (World.init o [] (packet ++ [0x45, 0])).connected 0 with
      raw := fun fd => if fd = 1 then some .TCP else if fd = 2 then some .UDP else none }
    let self : VsockToIpv4 := ⟨⟨.vsock 3 9000, 16, .inet [10, 0, 0, 2] 0, "ens5"⟩, ⟨some 60000⟩⟩
    Task.NeverPanics (self.pump 0 1 2) ∧
    ∃ (ps : List Bytes) (rest : Bytes) (w' : World), w.incoming = ps.flatten ++ rest ∧
      (∀ p ∈ ps, WellFormed p) ∧
      w'.log = w.log ++ (ps.filter Forwarded).map (fun p => ⟨protocolOf p, p, true⟩) ∧
      ((20 ≤ rest.length ∧ ¬ HeaderOk rest ∧
          Halts (World.answer o) (self.pump 0 1 2) w
            (.done (.err (.glycerineRuntime "invalid ipv4 packet"))) w') ∨
        (Incomplete rest ∧ Halts (World.answer o) (self.pump 0 1 2) w (.done (.err (.ioVsock eofError))) w')) :=
  pump_greedy _ _ (fun _ => rfl) rfl rfl ⟨rfl, rfl⟩

end VsockToIpv4
end Glycerine
