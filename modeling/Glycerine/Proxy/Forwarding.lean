import Glycerine.Proxy.Ipv4Machine
import Glycerine.Proxy.Ipv4Open
import Glycerine.Proxy.NfqRuns
/-
# From the queue to the raw sockets over one connection

`halts_run` follows `VsockToIpv4::run` through one byte stream of a connection that stays up: a raw send that
fails takes `pump` back to `run`, which replaces that socket and enters `pump` again, at the next packet.
Together with `NfqToVsock.halts_pump` this gives what becomes of the payloads of the queue: all well-formed
ones arrive (`pump_run_exact`), and in a mix with others those that start where a packet ends
(`run_delivers_at_boundary`).
-/

namespace Glycerine
open Interact Framing

namespace VsockToIpv4
variable {o : Oracle}

/-- At the head of the loop of `run`: the connection is up, and the raw sockets are open, younger than it and older
than every socket to come. -/
structure Running (w : World) (s : Sockets) : Prop where
  conn : w.conn = .up s.src
  ready : Ready w s.tcp s.udp
  tcp_src : s.src < s.tcp
  udp_src : s.src < s.udp
  tcp : s.tcp < w.nextFd
  udp : s.udp < w.nextFd

theorem failure_cases {k : Nat} {p : Bytes} {err : Error} (h : failure o k p = some err) :
    (∃ e, err = .ioIpv4Tcp e) ∨ ∃ e, err = .ioIpv4Udp e := by
  unfold failure at h
  by_cases ht : protocolOf p = .TCP
  · rw [if_pos ht] at h
    obtain ⟨e, -, rfl⟩ := Option.map_eq_some_iff.1 h
    exact .inl ⟨e, rfl⟩
  · by_cases hu : protocolOf p = .UDP
    · rw [if_neg ht, if_pos hu] at h
      obtain ⟨e, -, rfl⟩ := Option.map_eq_some_iff.1 h
      exact .inr ⟨e, rfl⟩
    · rw [if_neg ht, if_neg hu] at h
      cases h

/-- `pump` came back because of a raw socket: `run` replaces that one and keeps the connection. -/
theorem halts_runStep_raw (self : VsockToIpv4) (l : Fd) {s : Sockets} {w w₁ : World} {err : Error}
    (herr : (∃ e, err = .ioIpv4Tcp e) ∨ ∃ e, err = .ioIpv4Udp e) (hr : Running w₁ s)
    (hpump : Halts (World.answer o) (self.pump s.src s.tcp s.udp) w (.done (.err err)) w₁) :
    ∃ s' w', Halts (World.answer o) (self.runStep l s) w (.done (.ok (.next s'))) w' ∧ s'.src = s.src ∧
      Running w' s' ∧ w'.incoming = w₁.incoming ∧ w'.log = w₁.log := by
  have hne : s.udp ≠ s.tcp := by
    intro h
    have htcp := hr.ready.tcp
    rw [← h, hr.ready.udp] at htcp
    exact absurd htcp (by decide)
  rcases herr with ⟨e, rfl⟩ | ⟨e, rfl⟩
  · obtain ⟨fd, w₂, w', hdrop, hnew, hc, hin, hlog, hfd, hkeep, hle, hlt, hlt'⟩ :=
      halts_reopen (o := o) self .TCP hr.conn (Nat.ne_of_lt hr.tcp_src) hne hr.ready.udp hr.udp
    have hsrc : s.src < fd := Nat.lt_of_lt_of_le (Nat.lt_trans hr.tcp_src hr.tcp) hle
    refine ⟨{ s with tcp := fd }, w', ?_, rfl, ⟨hc, ⟨hfd, hkeep⟩, hsrc, hr.udp_src, hlt, hlt'⟩, hin, hlog⟩
    unfold runStep
    refine Task.halts_andThen (Task.halts_call rfl rfl) ?_
    rw [if_neg Bool.false_ne_true]
    refine Task.halts_andThen (Task.halts_attempt_err hpump) ?_
    exact Task.halts_andThen hdrop (Task.halts_andThen hnew Task.halts_ret)
  · obtain ⟨fd, w₂, w', hdrop, hnew, hc, hin, hlog, hfd, hkeep, hle, hlt, hlt'⟩ :=
      halts_reopen (o := o) self .UDP hr.conn (Nat.ne_of_lt hr.udp_src) hne.symm hr.ready.tcp hr.tcp
    have hsrc : s.src < fd := Nat.lt_of_lt_of_le (Nat.lt_trans hr.udp_src hr.udp) hle
    refine ⟨{ s with udp := fd }, w', ?_, rfl, ⟨hc, ⟨hkeep, hfd⟩, hr.tcp_src, hsrc, hlt', hlt⟩, hin, hlog⟩
    unfold runStep
    refine Task.halts_andThen (Task.halts_call rfl rfl) ?_
    rw [if_neg Bool.false_ne_true]
    refine Task.halts_andThen (Task.halts_attempt_err hpump) ?_
    exact Task.halts_andThen hdrop (Task.halts_andThen hnew Task.halts_ret)

/-- The loop of `run` on the packets `ps` with `rest` behind them. The induction is on the number of packets:
each return of `pump` has taken at least one. -/
theorem halts_runLoop (self : VsockToIpv4) (l : Fd) (ht : o.tail = .hold) {rest : Bytes} {e : Ending}
    (hrest : ipv4Codec.cut rest = .stop e) : ∀ (n : Nat) (ps : List Bytes) (s : Sockets) (w : World),
      ps.length = n → Running w s → (∀ p ∈ ps, WellFormed p) → w.incoming = ps.flatten ++ rest →
        ∃ m w', Halts (World.answer o) (Task.loop (self.runStep l) s) w (pumpEnd o s.src m e) w' ∧
          w'.conn = .up s.src ∧ w'.log = w.log ++ deliveries o w.log.length ps := by
  intro n
  induction n using Nat.strongRecOn with
  | ind n ih =>
    intro ps s w hn hr hps hw
    rcases halts_pumpLoop (o := o) self hrest ps (Buf.zeroed _) w hr.conn hr.ready hps hw with
      ⟨ps₁, p, ps₂, err, k, rfl, hf, hpump⟩ | ⟨m, rest', k, hpump⟩
    · let w₁ : World := { w with
        incoming := ps₂.flatten ++ rest, reads := w.reads + k,
        log := w.log ++ deliveries o w.log.length (ps₁ ++ [p]) }
      have hr₁ : Running w₁ s :=
        ⟨hr.conn, ⟨hr.ready.tcp, hr.ready.udp⟩, hr.tcp_src, hr.udp_src, hr.tcp, hr.udp⟩
      obtain ⟨s', w', hstep, hsrc, hr', hin, hlog⟩ :=
        halts_runStep_raw (o := o) self l (failure_cases hf) hr₁ hpump
      obtain ⟨m, w'', hrun, hc, hlog'⟩ := ih ps₂.length
        (by rw [← hn, List.length_append, List.length_cons]; omega) ps₂ s' w' rfl hr'
        (fun q hq => hps q (by simp [hq])) hin
      refine ⟨m, w'', ?_, hsrc ▸ hc, ?_⟩
      · rw [← hsrc]
        exact Task.halts_loop_next hstep hrun
      · have hlog₁ : w'.log = w.log ++ deliveries o w.log.length (ps₁ ++ [p]) := hlog
        rw [hlog', hlog₁, List.append_assoc, List.length_append, ← deliveries_append, List.append_assoc]
        rfl
    · refine ⟨m, { w with
        incoming := rest', reads := w.reads + k, log := w.log ++ deliveries o w.log.length ps }, ?_, hr.conn, rfl⟩
      cases e with
      | bad =>
        refine Task.halts_loop_err ?_
        unfold runStep
        refine Task.halts_andThen (Task.halts_call rfl rfl) ?_
        rw [if_neg Bool.false_ne_true]
        exact Task.halts_andThen (Task.halts_attempt_err hpump) Task.halts_fail
      | short =>
        simp only [pumpEnd, Tail.status, ht] at hpump ⊢
        refine Task.halts_loop_blocked ?_
        unfold runStep
        refine Task.halts_andThen (Task.halts_call rfl rfl) ?_
        rw [if_neg Bool.false_ne_true]
        exact Task.halts_andThen_blocked (Task.halts_attempt_blocked hpump)

/-- `run` on one connection: the packets of the greedy parse, and then the next read of it, or the error. -/
theorem halts_run (self : VsockToIpv4) (hcid : o.peerCid = self.cfg.peerCid) (ht : o.tail = .hold)
    (bs : Bytes) :
    ∃ src m w', Halts (World.answer o) self.run (World.init o [] bs)
        (pumpEnd o src m (ipv4Codec.parse bs).2) w' ∧
      w'.conn = .up src ∧ w'.log = deliveries o 0 (ipv4Codec.parse bs).1 := by
  let w := World.init o [] bs
  let w₀ := w.withFd.withConn
  obtain ⟨tcp, w₁, htcp, hg₁, hle₁, hlt₁, hraw₁⟩ := halts_newDstIpv4Socket (o := o) self .TCP w₀
  obtain ⟨udp, w₂, hudp, hg₂, hle₂, hlt₂, hraw₂⟩ := halts_newDstIpv4Socket (o := o) self .UDP w₁
  have hg : w₀.Grown w₂ := hg₁.trans hg₂
  have hsrc : w.withFd.nextFd < w₀.nextFd := Nat.lt_succ_self _
  have hrun : Running w₂ ⟨w.withFd.nextFd, tcp, udp⟩ :=
    ⟨hg.conn, ⟨(hg₂.raw tcp hlt₁).trans hraw₁, hraw₂⟩, Nat.lt_of_lt_of_le hsrc hle₁,
      Nat.lt_of_lt_of_le hsrc (Nat.le_trans hg₁.nextFd hle₂), Nat.lt_of_lt_of_le hlt₁ hg₂.nextFd, hlt₂⟩
  obtain ⟨hframes, rest, hin, hcut⟩ := parse_spec (c := ipv4Codec) bs
  obtain ⟨m, w', hloop, hc, hlog⟩ := halts_runLoop (o := o) self w.nextFd ht hcut _
    (ipv4Codec.parse bs).1 ⟨w.withFd.nextFd, tcp, udp⟩ w₂ rfl hrun
    (fun p hp => frame_iff.1 (hframes p hp)) (hg.incoming.trans hin)
  refine ⟨w.withFd.nextFd, m, w', ?_, hc, ?_⟩
  · unfold run
    refine Task.halts_andThen (halts_newListenerSocket self.cfg.listenAddress self.backoff w) ?_
    refine Task.halts_andThen (halts_newSrcVsockSocket self hcid w.nextFd rfl) ?_
    exact Task.halts_andThen htcp (Task.halts_andThen hudp hloop)
  · rw [hlog, hg.log]
    rfl

end VsockToIpv4

/-! ## What arrives -/

theorem deliveries_map (o : Oracle) : ∀ (k : Nat) (ps : List Bytes),
    (deliveries o k ps).map (fun d => (d.protocol, d.bytes))
      = (ps.filter Forwarded).map fun p => (protocolOf p, p)
  | _, [] => rfl
  | k, p :: ps => by
    by_cases hp : Forwarded p
    · rw [deliveries_cons_of_forwarded hp, List.map_cons, deliveries_map o (k + 1) ps,
        List.filter_cons_of_pos (by simpa using hp)]
      rfl
    · rw [deliveries_cons_of_skipped hp, deliveries_map o k ps, List.filter_cons_of_neg (by simpa using hp)]

theorem deliveries_taken {o : Oracle} : ∀ {ps : List Bytes} {k i : Nat} {d : Delivery},
    (deliveries o k ps)[i]? = some d → d.taken = (o.rawSend (k + i)).error.isNone
  | [], _, _, _, h => by simp [deliveries] at h
  | p :: ps, k, i, d, h => by
    by_cases hp : Forwarded p
    · rw [deliveries_cons_of_forwarded hp] at h
      cases i with
      | zero =>
        rw [List.getElem?_cons_zero] at h
        cases h
        rfl
      | succ i =>
        rw [List.getElem?_cons_succ] at h
        rw [deliveries_taken h, Nat.add_right_comm, Nat.add_assoc]
    · rw [deliveries_cons_of_skipped hp] at h
      exact deliveries_taken h

/-- **Forwarding is exact while the connection holds.** The queue holds well-formed packets. However the sends
and reads split them and whichever raw sends fail, the raw sockets are offered exactly the TCP and UDP packets
among them, each once, in order, on the socket of its protocol; the `k`-th of them is lost if and only if the
`k`-th raw send fails. The sender has `dst` for its connection and takes them from `q`; the receiver has read all of
them from the one connection that it accepted, and is about to read from that one again. -/
theorem pump_run_exact (self : VsockToIpv4) (o₁ o₂ : Oracle) (q dst : Fd) {ms : List Bytes}
    (hms : ∀ m ∈ ms, WellFormed m) (hcid : o₂.peerCid = self.cfg.peerCid) (ht : o₂.tail = .hold) :
    ∃ w₁ src n w₂,
      Halts (World.answer o₁) (NfqToVsock.pump q dst) (((World.init o₁ ms []).connected dst).queued q)
        (.asks (.recv q)) w₁ ∧
      w₁.queue = [] ∧
      Halts (World.answer o₂) self.run (World.init o₂ [] w₁.wire) (.asks (.read src n)) w₂ ∧
      w₂.conn = .up src ∧
      w₂.log.map (fun d => (d.protocol, d.bytes)) = (ms.filter Forwarded).map (fun m => (protocolOf m, m)) ∧
      ∀ k d, w₂.log[k]? = some d → d.taken = (o₂.rawSend k).error.isNone := by
  obtain ⟨w₁, hpump, hq, hwire, -⟩ := NfqToVsock.halts_pump (o := o₁) ms
    (((World.init o₁ ms []).connected dst).queued q) rfl rfl rfl
  have hparse : ipv4Codec.parse w₁.wire = (ms, .short) := by
    rw [hwire]
    exact parse_flatten fun m hm => frame_iff.2 (hms m hm)
  obtain ⟨src, n, w₂, hrun, hc, hlog⟩ := self.halts_run hcid ht w₁.wire
  rw [hparse] at hrun hlog
  simp only [VsockToIpv4.pumpEnd, Tail.status, ht] at hrun
  refine ⟨w₁, src, n, w₂, hpump, hq, hrun, hc, ?_, fun k d hd => ?_⟩
  · rw [hlog, deliveries_map]
  · rw [hlog] at hd
    rw [deliveries_taken hd, Nat.zero_add]

/-! ### An example -/

/-- A TCP packet without a payload. -/
def tcpPacket : Bytes := [0x45, 0, 0, 20, 0, 0, 0, 0, 64, 6, 0, 0, 10, 0, 0, 1, 10, 0, 0, 2]

/-- An ICMP packet without a payload. -/
def icmpPacket : Bytes := [0x45, 0, 0, 20, 0, 0, 0, 0, 64, 1, 0, 0, 10, 0, 0, 1, 10, 0, 0, 2]

/-- A UDP packet with two bytes. -/
def udpPacket : Bytes := [0x45, 0, 0, 22, 0, 0, 0, 0, 64, 17, 0, 0, 10, 0, 0, 1, 10, 0, 0, 2, 7, 7]

/-- Sends of 7 bytes, reads of 3, the first raw send fails, and so does the first attempt to replace its
socket. -/
def roughOracle : Oracle where
  cut _ := 3
  accepted _ := 7
  rawSend k := if k = 0 then .fails (.os ENOBUFS) else .whole
  trouble k := if k = 2 then [(.bindDevice, .os 19)] else []
  tail := .hold
  peerCid := 16

theorem pump_run_exact_rough :
    ∃ w₁ src n w₂,
      Halts (World.answer roughOracle) (NfqToVsock.pump 0 1)
        (((World.init roughOracle [tcpPacket, icmpPacket, udpPacket] []).connected 1).queued 0)
        (.asks (.recv 0)) w₁ ∧
      w₁.queue = [] ∧
      Halts (World.answer roughOracle) receiver.run (World.init roughOracle [] w₁.wire)
        (.asks (.read src n)) w₂ ∧
      w₂.conn = .up src ∧
      w₂.log.map (fun d => (d.protocol, d.bytes))
        = ([tcpPacket, icmpPacket, udpPacket].filter Forwarded).map (fun m => (protocolOf m, m)) ∧
      ∀ k d, w₂.log[k]? = some d → d.taken = (roughOracle.rawSend k).error.isNone :=
  pump_run_exact receiver roughOracle roughOracle 0 1 (by decide) rfl rfl

/-! ## Payloads that are no packets -/

/-- **Any payloads: the receiver sees the greedy parse of all their bytes.** The payload boundaries are gone:
what is handed on are the TCP and UDP packets `ps` of the parse, and a complete header that is refused ends
`run`. All of it came over the one connection that the receiver accepted. A TCP or UDP packet among the payloads is
handed on if the bytes before it are a list of packets `qs`, behind the ones of `qs`. -/
theorem pump_run_greedy (self : VsockToIpv4) (o₁ o₂ : Oracle) (q dst : Fd) (ms : List Bytes)
    (hcid : o₂.peerCid = self.cfg.peerCid) (ht : o₂.tail = .hold) (hraw : ∀ k, o₂.rawSend k = .whole) :
    ∃ (ps : List Bytes) (rest : Bytes) (w₁ : World) (src n : Nat) (w₂ : World),
      ms.flatten = ps.flatten ++ rest ∧ (∀ p ∈ ps, WellFormed p) ∧
      Halts (World.answer o₁) (NfqToVsock.pump q dst) (((World.init o₁ ms []).connected dst).queued q)
        (.asks (.recv q)) w₁ ∧
      w₁.queue = [] ∧
      ((20 ≤ rest.length ∧ ¬ HeaderOk rest ∧
          Halts (World.answer o₂) self.run (World.init o₂ [] w₁.wire)
            (.done (.err (.glycerineRuntime "invalid ipv4 packet"))) w₂) ∨
        (Incomplete rest ∧
          Halts (World.answer o₂) self.run (World.init o₂ [] w₁.wire) (.asks (.read src n)) w₂)) ∧
      w₂.conn = .up src ∧
      w₂.log = (ps.filter Forwarded).map (fun p => ⟨protocolOf p, p, true⟩) ∧
      ∀ (ms₁ : List Bytes) (m : Bytes) (ms₂ qs : List Bytes), ms = ms₁ ++ m :: ms₂ → WellFormed m →
        Forwarded m → (∀ p ∈ qs, WellFormed p) →
        ms₁.flatten = qs.flatten → w₂.log[(qs.filter Forwarded).length]? = some ⟨protocolOf m, m, true⟩ := by
  obtain ⟨w₁, hpump, hq, hwire, -⟩ := NfqToVsock.halts_pump (o := o₁) ms
    (((World.init o₁ ms []).connected dst).queued q) rfl rfl rfl
  have hwire : w₁.wire = ms.flatten := hwire
  obtain ⟨src, n, w₂, hrun, hc, hlog⟩ := self.halts_run hcid ht w₁.wire
  rw [hwire] at hlog
  rw [deliveries_of_whole hraw] at hlog
  obtain ⟨hframes, rest, hin, hcut⟩ := parse_spec (c := ipv4Codec) ms.flatten
  refine ⟨_, rest, w₁, src, n, w₂, hin, fun p hp => frame_iff.1 (hframes p hp), hpump, hq, ?_, hc, hlog, ?_⟩
  · rw [show ipv4Codec.parse w₁.wire = ipv4Codec.parse ms.flatten by rw [hwire]] at hrun
    cases he : (ipv4Codec.parse ms.flatten).2 with
    | bad =>
      rw [he] at hcut hrun
      obtain ⟨hlen, hbad⟩ := cut_bad hcut
      exact .inl ⟨hlen, hbad, hrun⟩
    | short =>
      rw [he] at hcut hrun
      simp only [VsockToIpv4.pumpEnd, Tail.status, ht] at hrun
      exact .inr ⟨cut_short hcut, hrun⟩
  · rintro ms₁ m ms₂ qs rfl hm hf hqs hb
    have hflat : (ms₁ ++ m :: ms₂).flatten = (qs ++ [m]).flatten ++ ms₂.flatten := by
      simp [hb]
    have hqs' : ∀ p ∈ qs ++ [m], ipv4Codec.Frame p := by
      intro p hp
      rcases List.mem_append.1 hp with hp | hp
      · exact frame_iff.2 (hqs p hp)
      · rw [List.mem_singleton.1 hp]
        exact frame_iff.2 hm
    rw [hlog, hflat, parse_append hqs', List.append_assoc, List.filter_append, List.map_append,
      List.getElem?_append_right (Nat.le_of_eq (List.length_map _)), List.length_map, Nat.sub_self]
    simp [hf]

/-- A UDP packet of 30 bytes, cut down to its header. -/
def truncatedPacket : Bytes := [0x45, 0, 0, 30, 0, 0, 0, 0, 64, 17, 0, 0, 10, 0, 0, 1, 10, 0, 0, 2]

/-- Sends and reads of any size, no failure. -/
def smoothOracle : Oracle where
  cut _ := 65535
  accepted _ := 65535
  rawSend _ := .whole
  trouble _ := []
  tail := .hold
  peerCid := 16

/-- The receiver takes the missing ten bytes from the next packet, and the header after them is none. -/
theorem parse_truncated : ipv4Codec.parse [truncatedPacket, tcpPacket, tcpPacket].flatten
    = ([truncatedPacket ++ tcpPacket.take 10], .bad) := by
  have hframe : ∀ p ∈ [truncatedPacket ++ tcpPacket.take 10], ipv4Codec.Frame p := by
    intro p hp
    rw [List.mem_singleton.1 hp]
    exact frame_iff.2 (by decide)
  have hflat : [truncatedPacket, tcpPacket, tcpPacket].flatten
      = [truncatedPacket ++ tcpPacket.take 10].flatten ++ (tcpPacket.drop 10 ++ tcpPacket) := rfl
  rw [hflat, parse_append hframe, parse_stop (e := .bad) rfl]
  rfl

/-- A truncated payload damages others: neither of the two packets behind it arrives, and `run` ends. -/
theorem truncated_payload_damages_others :
    WellFormed tcpPacket ∧ Forwarded tcpPacket ∧
    ∃ w₁ w₂,
      Halts (World.answer smoothOracle) (NfqToVsock.pump 0 1)
        (((World.init smoothOracle [truncatedPacket, tcpPacket, tcpPacket] []).connected 1).queued 0)
        (.asks (.recv 0)) w₁ ∧
      Halts (World.answer smoothOracle) receiver.run (World.init smoothOracle [] w₁.wire)
        (.done (.err (.glycerineRuntime "invalid ipv4 packet"))) w₂ ∧
      tcpPacket ∉ w₂.log.map (·.bytes) := by
  obtain ⟨w₁, hpump, -, hwire, -⟩ := NfqToVsock.halts_pump (o := smoothOracle)
    [truncatedPacket, tcpPacket, tcpPacket] (((World.init smoothOracle _ []).connected 1).queued 0) rfl rfl rfl
  obtain ⟨src, n, w₂, hrun, -, hlog⟩ := receiver.halts_run (o := smoothOracle) rfl rfl w₁.wire
  have hparse : ipv4Codec.parse w₁.wire = ([truncatedPacket ++ tcpPacket.take 10], .bad) := by
    rw [hwire]
    exact parse_truncated
  rw [hparse] at hrun hlog
  refine ⟨by decide, by decide, w₁, w₂, hpump, hrun, ?_⟩
  rw [hlog]
  decide

theorem pump_run_greedy_smooth :
    ∃ (ps : List Bytes) (rest : Bytes) (w₁ : World) (src n : Nat) (w₂ : World),
      [[], tcpPacket, truncatedPacket].flatten = ps.flatten ++ rest ∧ (∀ p ∈ ps, WellFormed p) ∧
      Halts (World.answer smoothOracle) (NfqToVsock.pump 0 1)
        (((World.init smoothOracle [[], tcpPacket, truncatedPacket] []).connected 1).queued 0)
        (.asks (.recv 0)) w₁ ∧
      w₁.queue = [] ∧
      ((20 ≤ rest.length ∧ ¬ HeaderOk rest ∧
          Halts (World.answer smoothOracle) receiver.run (World.init smoothOracle [] w₁.wire)
            (.done (.err (.glycerineRuntime "invalid ipv4 packet"))) w₂) ∨
        (Incomplete rest ∧
          Halts (World.answer smoothOracle) receiver.run (World.init smoothOracle [] w₁.wire)
            (.asks (.read src n)) w₂)) ∧
      w₂.conn = .up src ∧
      w₂.log = (ps.filter Forwarded).map (fun p => ⟨protocolOf p, p, true⟩) ∧
      ∀ (ms₁ : List Bytes) (m : Bytes) (ms₂ qs : List Bytes), [[], tcpPacket, truncatedPacket] = ms₁ ++ m :: ms₂ →
        WellFormed m → Forwarded m → (∀ p ∈ qs, WellFormed p) →
        ms₁.flatten = qs.flatten → w₂.log[(qs.filter Forwarded).length]? = some ⟨protocolOf m, m, true⟩ :=
  pump_run_greedy receiver smoothOracle smoothOracle 0 1 _ rfl rfl fun _ => rfl

end Glycerine
