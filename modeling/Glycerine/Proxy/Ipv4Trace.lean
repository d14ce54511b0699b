import Glycerine.Proxy.Ipv4Machine
import Glycerine.System.Trace
/-
# The receiver's streams, over all runs

The counterpart of `NfqTrace`. `Packets` says that what was read from each connection begins with whole packets
and that the raw sockets were offered those of them that are forwarded; `Reading` that on the current
connection only the bytes `got` of the next packet were read after them. `pump` keeps to this as long as it
keeps its connection, and a new connection starts with nothing read. What a run can return is the error of a
header that came after whole packets (`Refused`), or an error that has nothing to do with headers.
-/

namespace Glycerine
open Interact Framing

/-- The packets `blk c` at the front of what was read from connection `c`; all connections are `peerCid`'s. -/
structure Packets (peerCid : Nat) (h : History) (blk : Fd → List Bytes) : Prop where
  wellFormed : ∀ c, ∀ p ∈ blk c, WellFormed p
  read : ∀ c, c ∈ accepted peerCid h → (blk c).flatten <+: readOn c h
  unread : ∀ c, c ∉ accepted peerCid h → readOn c h = []
  offered : offered h = ((accepted peerCid h).flatMap blk).filter Forwarded

/-- The receiver's datagrams are the packets of its streams. -/
def Parsed (peerCid : Nat) (h : History) : Prop := ∃ blk, Packets peerCid h blk

/-- Connection `c` is the current one, and `got` was read from it after whole packets. -/
def Reading (peerCid : Nat) (c : Fd) (got : Bytes) (h : History) : Prop :=
  ∃ blk cs, Packets peerCid h blk ∧ accepted peerCid h = cs ++ [c] ∧ readOn c h = (blk c).flatten ++ got

/-- A complete header was read after whole packets that is not the header of a packet. -/
def Refused (peerCid : Nat) (h : History) : Prop :=
  ∃ blk c rest, Packets peerCid h blk ∧ c ∈ accepted peerCid h ∧ readOn c h = (blk c).flatten ++ rest ∧
    20 ≤ rest.length ∧ announced (rest.take 20) = none

/-- A handle is the name of one connection, and a raw socket takes a whole datagram or nothing of it. -/
def wholeDatagrams (peerCid : Nat) : Env sysSig where
  ok h := (accepted peerCid h).Nodup ∧ ∀ e ∈ h, WholeDatagram e
  ok_of_append := by
    rintro h t ⟨hn, hw⟩
    rw [accepted_append] at hn
    exact ⟨(List.nodup_append.1 hn).1, fun e he => hw e (List.mem_append_left _ he)⟩

theorem Reading.parsed {cid : Nat} {c : Fd} {got : Bytes} {h : History} :
    Reading cid c got h → Parsed cid h := fun ⟨blk, _, hb, _⟩ => ⟨blk, hb⟩

theorem Refused.parsed {cid : Nat} {h : History} : Refused cid h → Parsed cid h :=
  fun ⟨blk, _, _, hb, _⟩ => ⟨blk, hb⟩

/-! ## What one event does -/

/-- An event that says nothing about connections, reads and datagrams. -/
def Silent (cid : Nat) (e : SysEvent) : Prop :=
  accepted cid [e] = [] ∧ (∀ c, readOn c [e] = []) ∧ offered [e] = []

section
variable {cid : Nat} {h : History} {e : SysEvent} {c : Fd} {blk : Fd → List Bytes} {got : Bytes}

theorem Packets.silent (hb : Packets cid h blk) (he : Silent cid e) : Packets cid (h ++ [e]) blk := by
  obtain ⟨h₁, h₂, h₃⟩ := he
  refine ⟨hb.wellFormed, fun c hc => ?_, fun c hc => ?_, ?_⟩
  · rw [accepted_append, h₁, List.append_nil] at hc
    rw [readOn_append, h₂, List.append_nil]
    exact hb.read c hc
  · rw [accepted_append, h₁, List.append_nil] at hc
    rw [readOn_append, h₂, List.append_nil]
    exact hb.unread c hc
  · rw [offered_append, accepted_append, h₁, h₃, List.append_nil, List.append_nil, hb.offered]

theorem Parsed.silent (hb : Parsed cid h) (he : Silent cid e) : Parsed cid (h ++ [e]) :=
  let ⟨blk, hb⟩ := hb
  ⟨blk, hb.silent he⟩

theorem Reading.silent (hb : Reading cid c got h) (he : Silent cid e) : Reading cid c got (h ++ [e]) := by
  obtain ⟨blk, cs, hb, hc, hr⟩ := hb
  refine ⟨blk, cs, hb.silent he, ?_, ?_⟩
  · rw [accepted_append, he.1, List.append_nil, hc]
  · rw [readOn_append, he.2.1, List.append_nil, hr]

/-- A connection is accepted: nothing was read from it yet. -/
theorem Parsed.accept {l : Fd} {port : Nat} (hb : Parsed cid h)
    (hn : (accepted cid (h ++ [⟨.accept l, .ok (c, .vsock cid port)⟩])).Nodup) :
    Reading cid c [] (h ++ [⟨.accept l, .ok (c, .vsock cid port)⟩]) := by
  obtain ⟨blk, hb⟩ := hb
  have haccepted : accepted cid (h ++ [⟨.accept l, .ok (c, .vsock cid port)⟩]) = accepted cid h ++ [c] := by
    rw [accepted_append]
    simp [accepted]
  have hread : ∀ x, readOn x (h ++ [⟨.accept l, .ok (c, .vsock cid port)⟩]) = readOn x h := by
    intro x
    rw [readOn_append]
    exact List.append_nil _
  have hnot : c ∉ accepted cid h := not_mem_of_nodup (haccepted ▸ hn)
  refine ⟨fun x => if x = c then [] else blk x, accepted cid h, ⟨?_, ?_, ?_, ?_⟩, haccepted, ?_⟩
  · intro x p hp
    split at hp
    · cases hp
    · exact hb.wellFormed x p hp
  · intro x hx
    rw [hread]
    by_cases hxc : x = c
    · subst hxc
      rw [if_pos rfl]
      exact List.nil_prefix
    · rw [if_neg hxc]
      rw [haccepted] at hx
      exact hb.read x ((List.mem_append.1 hx).resolve_right (by simpa using hxc))
  · intro x hx
    rw [haccepted] at hx
    rw [hread]
    exact hb.unread x fun hmem => hx (List.mem_append_left _ hmem)
  · rw [offered_append, haccepted, List.flatMap_append, flatMap_update hnot, hb.offered]
    simp [offered]
  · rw [hread, hb.unread c hnot]
    simp

/-- Bytes are read from the current connection. -/
theorem Reading.read {n : Nat} {bs : {bs : Bytes // bs.length ≤ n}} (hb : Reading cid c got h) :
    Reading cid c (got ++ bs.1) (h ++ [⟨.read c n, .ok bs⟩]) := by
  obtain ⟨blk, cs, hb, hc, hr⟩ := hb
  have haccepted : accepted cid (h ++ [⟨.read c n, .ok bs⟩]) = accepted cid h := by
    rw [accepted_append]
    exact List.append_nil _
  have hother : ∀ x, x ≠ c → readOn x (h ++ [⟨.read c n, .ok bs⟩]) = readOn x h := by
    intro x hx
    rw [readOn_append]
    simp [readOn, hx.symm]
  have hread : readOn c (h ++ [⟨.read c n, .ok bs⟩]) = (blk c).flatten ++ (got ++ bs.1) := by
    rw [readOn_append, hr, List.append_assoc]
    simp [readOn]
  refine ⟨blk, cs, ⟨hb.wellFormed, ?_, ?_, ?_⟩, haccepted.trans hc, hread⟩
  · intro x hx
    rw [haccepted] at hx
    by_cases hxc : x = c
    · subst hxc
      rw [hread]
      exact List.prefix_append _ _
    · rw [hother x hxc]
      exact hb.read x hx
  · intro x hx
    rw [haccepted] at hx
    rw [hother x]
    · exact hb.unread x hx
    · rintro rfl
      exact hx (by rw [hc]; simp)
  · rw [offered_append, haccepted, ← hb.offered]
    exact List.append_nil _

/-- A whole packet was read, and what is to become of it is done in `h'`. -/
theorem Reading.take {p : Bytes} {h' : History} (hn : (accepted cid h).Nodup) (hp : WellFormed p)
    (hb : Reading cid c p h) (ha : accepted cid h' = accepted cid h) (hr : ∀ x, readOn x h' = readOn x h)
    (ho : offered h' = offered h ++ [p].filter Forwarded) : Reading cid c [] h' := by
  obtain ⟨blk, cs, hb, hc, hread⟩ := hb
  refine ⟨fun x => if x = c then blk c ++ [p] else blk x, cs, ⟨?_, ?_, ?_, ?_⟩, ha.trans hc, ?_⟩
  · intro x q hq
    split at hq
    · rcases List.mem_append.1 hq with hq | hq
      · exact hb.wellFormed c q hq
      · rw [List.mem_singleton.1 hq]
        exact hp
    · exact hb.wellFormed x q hq
  · intro x hx
    rw [ha] at hx
    rw [hr]
    by_cases hxc : x = c
    · subst hxc
      have hflat : (blk x ++ [p]).flatten = (blk x).flatten ++ p := by
        rw [List.flatten_append, List.flatten_singleton]
      rw [if_pos rfl, hread]
      exact hflat ▸ List.prefix_refl _
    · rw [if_neg hxc]
      exact hb.read x hx
  · intro x hx
    rw [ha] at hx
    rw [hr]
    exact hb.unread x hx
  · rw [ho, ha, hb.offered, hc, List.flatMap_append, List.flatMap_append, flatMap_update (not_mem_of_nodup (hc ▸ hn)),
      ← List.filter_append, List.append_assoc]
    simp
  · rw [hr, hread]
    simp

theorem Reading.skip {p : Bytes} (hn : (accepted cid h).Nodup) (hp : WellFormed p) (hf : ¬ Forwarded p)
    (hb : Reading cid c p h) : Reading cid c [] h :=
  hb.take hn hp rfl (fun _ => rfl) (by rw [List.filter_cons_of_neg (by simpa using hf)]; simp)

theorem Reading.offer {p : Bytes} {s : Fd} {a : SockAddr} {r : Except IoError (Fin (p.length + 1))}
    (hn : (accepted cid h).Nodup) (hp : WellFormed p) (hf : Forwarded p) (hb : Reading cid c p h) :
    Reading cid c [] (h ++ [⟨.sendTo s p a, r⟩]) := by
  refine hb.take hn hp ?_ (fun x => ?_) ?_
  · rw [accepted_append]
    exact List.append_nil _
  · rw [readOn_append]
    exact List.append_nil _
  · rw [offered_append, List.filter_cons_of_pos (by simpa using hf)]
    rfl

/-- The bytes so far are a header that is not the header of a packet. -/
theorem Reading.refused (hb : Reading cid c got h) (hlen : 20 ≤ got.length)
    (hbad : announced (got.take 20) = none) :
    Refused cid h := by
  obtain ⟨blk, cs, hb, hc, hr⟩ := hb
  exact ⟨blk, c, got, hb, by rw [hc]; simp, hr, hlen, hbad⟩

end

/-! ## What holds in each phase -/

namespace VsockToIpv4

/-- The bytes so far are not more than one packet (`Fits`), and not yet a whole one (`Partial`). -/
def Fits (got : Bytes) : Prop :=
  ∀ n pr, 20 ≤ got.length → ipv4TotalLen (got.take 20) = .ok (n, pr) → got.length ≤ n
def Partial (got : Bytes) : Prop :=
  ∀ n pr, 20 ≤ got.length → ipv4TotalLen (got.take 20) = .ok (n, pr) → got.length < n

/-- A read gets no more than was asked for. -/
theorem Partial.append {got bs : Bytes} (hp : Partial got) (hbs : bs.length ≤ wanted got) : Fits (got ++ bs) := by
  intro n pr _ hok
  rw [List.length_append]
  by_cases hlen : got.length < 20
  · rw [(packet_of_header (l := 0) (s := ⟨0, 0, 0⟩) hlen).2] at hbs
    have := (ipv4TotalLen_bounds hok).1
    omega
  · have hge : 20 ≤ got.length := Nat.le_of_not_lt hlen
    rw [List.take_append_of_le_length hge] at hok
    rw [(onBytes_of_ok (l := 0) (s := ⟨0, 0, 0⟩) hge hok).2] at hbs
    have := hp n pr hge hok
    omega

/-- An error that is not about a header. -/
def NotHeader (e : Error) : Prop := e ≠ .glycerineRuntime "invalid ipv4 packet"

def ReadInv (cid : Nat) : Phase → History → Prop
  | .listen p, h => p.Errors NotHeader ∧ Parsed cid h
  | .accepting _ _ p, h => p.Errors NotHeader ∧ Parsed cid h
  | .prepare _ _ c, h | .halfClose _ _ c, h => Reading cid c [] h
  | .sink _ src _ p, h => p.Errors NotHeader ∧ Reading cid src [] h
  | .idle _ s, h | .ready _ s, h | .rawFailed _ s _, h => Reading cid s.src [] h
  | .packet _ s got, h => Partial got ∧ Reading cid s.src got h
  | .sending _ s _ p sent, h => sent = 0 ∧ WellFormed p ∧ Forwarded p ∧ Reading cid s.src p h
  | .vsockFailed _ _, h => Parsed cid h
  | .returned o, h => Parsed cid h ∧ (o = .err (.glycerineRuntime "invalid ipv4 packet") → Refused cid h)

theorem ReadInv.parsed {cid : Nat} {p : Phase} {h : History} (hp : ReadInv cid p h) : Parsed cid h := by
  cases p with
  | listen | accepting => exact hp.2
  | prepare | halfClose | idle | ready | rawFailed => exact Reading.parsed hp
  | sink | packet => exact hp.2.parsed
  | sending => exact hp.2.2.2.parsed
  | vsockFailed => exact hp
  | returned o => exact hp.1

theorem silent_of_retryStep {cid : Nat} {b : ExponentialBackoff} {p p' : RetryPhase} {e : SysEvent}
    (hs : RetryStep b p e p') : Silent cid e := by
  cases hs <;> exact ⟨rfl, fun _ => rfl, rfl⟩

theorem silent_of_listenStep {cid : Nat} {b : ExponentialBackoff} {p p' : ListenPhase} {e : SysEvent}
    (hs : ListenStep b p e p') : Silent cid e := by
  cases hs with
  | retry hr => exact silent_of_retryStep hr
  | _ => exact ⟨rfl, fun _ => rfl, rfl⟩

theorem silent_of_sinkStep {cid : Nat} {b : ExponentialBackoff} {p p' : SinkPhase} {e : SysEvent}
    (hs : SinkStep b p e p') : Silent cid e := by
  cases hs with
  | retry hr => exact silent_of_retryStep hr
  | _ => exact ⟨rfl, fun _ => rfl, rfl⟩

section
variable {cid : Nat} {h : History} {l : Fd}

theorem readInv_inListen {p : ListenPhase} (he : p.Errors NotHeader) (hb : Parsed cid h) :
    ReadInv cid (.inListen p) h := by
  rcases p.ended_cases with ⟨_, rfl⟩ | ⟨_, rfl⟩ | hend
  · exact ⟨hb, fun ho => absurd (Outcome.err.inj ho) he⟩
  · exact ⟨trivial, hb⟩
  · rw [inListen_of_not_ended hend]
    exact ⟨he, hb⟩

theorem readInv_inAccept {raw : Option (Fd × Fd)} {p : AcceptPhase} (he : p.Errors NotHeader)
    (hb : match p with | .accepted r => Reading cid r.1 [] h | _ => Parsed cid h) :
    ReadInv cid (.inAccept l raw p) h := by
  rcases p.ended_cases with ⟨_, rfl⟩ | ⟨_, rfl⟩ | rfl | hend
  · exact ⟨hb, fun ho => absurd (Outcome.err.inj ho) he⟩
  · exact hb
  · exact ⟨hb, fun ho => nomatch ho⟩
  · rw [inAccept_of_not_ended hend]
    cases p with
    | accepted => exact absurd trivial hend
    | _ => exact ⟨he, hb⟩

theorem readInv_inSink {src : Fd} {o : Opening} {p : SinkPhase} (he : p.Errors NotHeader)
    (hb : Reading cid src [] h) : ReadInv cid (.inSink l src o p) h := by
  rcases p.ended_cases with ⟨_, rfl⟩ | ⟨_, rfl⟩ | hend
  · exact ⟨hb.parsed, fun ho => absurd (Outcome.err.inj ho) he⟩
  · cases o with
    | firstTcp => exact ⟨trivial, hb⟩
    | tcp _ | udp _ => exact hb
  · rw [inSink_of_not_ended hend]
    exact ⟨he, hb⟩

theorem readInv_afterHalfClose {c : Fd} {raw : Option (Fd × Fd)} (hb : Reading cid c [] h) :
    ReadInv cid (.afterHalfClose l c raw) h := by
  cases raw with
  | none => exact ⟨trivial, hb⟩
  | some raw => exact hb

/-- The bytes so far decide what comes next: more of the header, more of the packet, or what its protocol says. -/
theorem readInv_onBytes {s : Sockets} {got : Bytes} (hn : (accepted cid h).Nodup) (hfit : Fits got)
    (hb : Reading cid s.src got h) : ReadInv cid (.onBytes l s got) h := by
  by_cases hlen : got.length < 20
  · rw [(packet_of_header hlen).1]
    exact ⟨fun n pr hge _ => by omega, hb⟩
  have hge : 20 ≤ got.length := Nat.le_of_not_lt hlen
  rcases ipv4TotalLen_cases (got.take 20) with ⟨n, pr, hok⟩ | herr
  · rw [(onBytes_of_ok hge hok).1]
    by_cases hlt : got.length < n
    · rw [if_pos hlt]
      refine ⟨fun m pr' _ hok' => ?_, hb⟩
      rw [hok] at hok'
      cases hok'
      exact hlt
    · rw [if_neg hlt]
      have hwhole : got.length = n := Nat.le_antisymm (hfit n pr hge hok) (Nat.le_of_not_lt hlt)
      subst hwhole
      have hwf : WellFormed got := frame_iff.1 (announced_eq_some.2 ⟨pr, hok⟩)
      have hpr : pr = protocolOf got := by
        rw [hwf.ipv4TotalLen] at hok
        cases hok
        rfl
      subst hpr
      unfold Phase.dispatch
      by_cases hf : Forwarded got
      · rw [if_pos (by exact hf)]
        exact ⟨rfl, hwf, hf, hb⟩
      · rw [if_neg (by exact hf)]
        exact hb.skip hn hwf hf
  · rw [onBytes_of_error hge herr]
    refine ⟨hb.parsed, fun _ => hb.refused hge ?_⟩
    unfold announced
    rw [herr]

theorem readInv_step {self : VsockToIpv4} {p p' : Phase} {e : SysEvent} (hs : Step self p e p')
    (hp : ReadInv self.cfg.peerCid p h) (hE : (wholeDatagrams self.cfg.peerCid).ok (h ++ [e])) :
    ReadInv self.cfg.peerCid p' (h ++ [e]) := by
  have hn₀ : (accepted self.cfg.peerCid h).Nodup :=
    ((wholeDatagrams self.cfg.peerCid).ok_of_append hE).1
  have hshut : NotHeader .glycerineShutdown := fun h => nomatch h
  have hio : ∀ e, NotHeader (.ioVsock e) := fun _ h => nomatch h
  cases hs with
  | listen hl => exact readInv_inListen (hl.errors hshut hio hp.1) (hp.2.silent (silent_of_listenStep hl))
  | accepting ha =>
    have herr := ha.errors hshut hio (fun h => nomatch h) hp.1
    refine readInv_inAccept herr ?_
    cases ha with
    | retry hr => exact hp.2.silent (silent_of_retryStep hr)
    | accept => exact hp.2.accept hE.1
    | unexpected hcid => exact hp.2.silent ⟨by simp [accepted, hcid], fun _ => rfl, rfl⟩
    | _ => exact hp.2.silent ⟨rfl, fun _ => rfl, rfl⟩
  | sink hk =>
    exact readInv_inSink (hk.errors hshut (fun _ h => nomatch h) hp.1) (hp.2.silent (silent_of_sinkStep hk))
  | prepare | idle => exact Reading.silent hp ⟨rfl, fun _ => rfl, rfl⟩
  | dropTcp | dropUdp => exact ⟨trivial, Reading.silent hp ⟨rfl, fun _ => rfl, rfl⟩⟩
  | ready => exact ⟨fun _ _ hge => absurd hge (by decide), Reading.silent hp ⟨rfl, fun _ => rfl, rfl⟩⟩
  | halfClose => exact readInv_afterHalfClose (Reading.silent hp ⟨rfl, fun _ => rfl, rfl⟩)
  | prepareFails | halfCloseFails | idleCancelled | readyCancelled =>
    exact ⟨(Reading.parsed hp).silent ⟨rfl, fun _ => rfl, rfl⟩, fun ho => nomatch ho⟩
  | @read l s got bs hne =>
    exact readInv_onBytes hE.1 (hp.1.append bs.2) hp.2.read
  | readEof hnil => exact hp.2.parsed.silent ⟨rfl, fun _ => by simp [readOn, hnil], rfl⟩
  | readInterrupted => exact ⟨hp.1, hp.2.silent ⟨rfl, fun _ => rfl, rfl⟩⟩
  | readFails => exact hp.2.parsed.silent ⟨rfl, fun _ => rfl, rfl⟩
  | dropSource => exact ⟨trivial, Parsed.silent hp ⟨rfl, fun _ => rfl, rfl⟩⟩
  | @send l s pr p sent a n hlt hpos =>
    obtain ⟨rfl, hwf, hf, hb⟩ := hp
    have hall : n.val = p.length :=
      (hE.2 _ (List.mem_append_right _ (List.mem_singleton.2 rfl))).resolve_left (by omega)
    rw [if_neg (by omega)]
    exact hb.offer hn₀ hwf hf
  | sendZero =>
    obtain ⟨rfl, hwf, hf, hb⟩ := hp
    exact hb.offer hn₀ hwf hf
  | sendFails =>
    obtain ⟨rfl, hwf, hf, hb⟩ := hp
    exact hb.offer hn₀ hwf hf

/-- **At every moment of every run** the receiver has cut its streams into packets, and offered those of them that
are forwarded; the error of a bad header is only returned for a complete header after whole packets. -/
theorem run_parsed {self : VsockToIpv4} {h : History} {o : Status sysSig (Outcome Error Unit)}
    (hx : Exec self.run h o) (hE : (wholeDatagrams self.cfg.peerCid).ok h) :
    Parsed self.cfg.peerCid h ∧
      (o = .done (.err (.glycerineRuntime "invalid ipv4 packet")) → Refused self.cfg.peerCid h) := by
  have h₀ : ReadInv self.cfg.peerCid self.machine.start [] :=
    ⟨trivial, fun _ => [], by simp, by simp [accepted], fun _ _ => rfl, rfl⟩
  have hinv : ∀ {p : Phase}, At self p h → ReadInv self.cfg.peerCid p h := fun hp =>
    hp.inv (J := ReadInv self.cfg.peerCid) h₀ (fun hs hp hE => readInv_step hs hp hE) hE
  have harr := run_path hx
  obtain ⟨p, hp⟩ := harr.path
  refine ⟨(hinv hp).parsed, ?_⟩
  rintro rfl
  exact (hinv harr).2 rfl

end

end VsockToIpv4
end Glycerine
