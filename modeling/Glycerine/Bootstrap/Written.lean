import Glycerine.Bootstrap.Get
import Glycerine.Bootstrap.ServeMachine
/-
# What the bootstrap service writes

Every connection gets the beginning of `info`, however the writes are split and whatever fails
(`written_beginning`). Without failures and shutdown it gets all of it before it is closed (`closed_whole`).
-/

namespace Glycerine
open Interact Machine

/-- The bytes that may have been written to connection `c`. How much a write took that failed is not known, so all
of its bytes count. -/
def writtenOn (c : Fd) : History → Bytes :=
  List.flatMap fun
    | ⟨.write s bs, .ok n⟩ => if s = c then bs.take n.val else []
    | ⟨.write s bs, .error _⟩ => if s = c then bs else []
    | _ => []

@[simp] theorem writtenOn_append (c : Fd) (h t : History) :
    writtenOn c (h ++ t) = writtenOn c h ++ writtenOn c t :=
  List.flatMap_append

namespace Bootstrap

/-- The connection that is being served, and how much of `info` it has got. -/
def Phase.sending : Phase → Option (Fd × Nat)
  | .prepare _ c | .halfClose _ c | .writeTimeout _ c => some (c, 0)
  | .serving _ c pos | .writing _ c pos => some (c, pos)
  | _ => none

section
variable {self : Bootstrap} {cid : Nat} {info : Bytes} {p p' : Phase} {h : History} {e : SysEvent}

theorem sending_inListen (p : ListenPhase) : (Phase.inListen p).sending = none := by
  rcases p.ended_cases with ⟨_, rfl⟩ | ⟨_, rfl⟩ | he
  · rfl
  · rfl
  · rw [inListen_of_not_ended he]
    rfl

theorem sending_inAccept {l : Fd} {p : AcceptPhase} (hp : ∀ r, p ≠ .accepted r) :
    (Phase.inAccept l p).sending = none := by
  rcases p.ended_cases with ⟨_, rfl⟩ | ⟨r, rfl⟩ | rfl | he
  · rfl
  · exact absurd rfl (hp r)
  · rfl
  · rw [inAccept_of_not_ended he]
    rfl

theorem sending_onWritten (self : Bootstrap) (l c : Fd) (pos : Nat) :
    (Phase.onWritten self l c pos).sending = some (c, pos) ∧ pos < self.info.length ∨
      (Phase.onWritten self l c pos).sending = none ∧ self.info.length ≤ pos := by
  unfold Phase.onWritten
  by_cases hlt : pos < self.info.length
  · rw [if_pos hlt]
    exact .inl ⟨rfl, hlt⟩
  · rw [if_neg hlt]
    exact .inr ⟨rfl, Nat.le_of_not_lt hlt⟩

/-- An event that neither accepts a connection of the peer nor writes. -/
structure Quiet (cid : Nat) (e : SysEvent) : Prop where
  accepted : accepted cid [e] = []
  written : ∀ c, writtenOn c [e] = []

def quiet : SysOp → Bool
  | .accept _ | .write _ _ => false
  | _ => true

theorem quiet_of_op (he : quiet e.1 = true) : Quiet cid e := by
  obtain ⟨op, r⟩ := e
  cases op with
  | accept | write => cases he
  | _ => exact ⟨rfl, fun _ => rfl⟩

theorem retry_quiet {b : ExponentialBackoff} {p p' : RetryPhase} (hs : RetryStep b p e p') :
    Quiet cid e := by
  cases hs <;> exact quiet_of_op rfl

theorem listen_quiet {b : ExponentialBackoff} {p p' : ListenPhase} (hs : ListenStep b p e p') :
    Quiet cid e := by
  cases hs with
  | retry hr => exact retry_quiet hr
  | _ => exact quiet_of_op rfl

/-- Accepting a connection of the peer ends the accepting; everything before it is quiet. -/
theorem accept_quiet {b : ExponentialBackoff} {l : Fd} {p p' : AcceptPhase} (hs : AcceptStep b l cid p e p') :
    (∃ c port, e = ⟨.accept l, .ok (c, .vsock cid port)⟩ ∧ p' = .accepted (c, .vsock cid port)) ∨
      Quiet cid e ∧ ∀ r, p' ≠ .accepted r := by
  cases hs with
  | retry hr => exact .inr ⟨retry_quiet hr, nofun⟩
  | accept => exact .inl ⟨_, _, rfl, rfl⟩
  | unexpected hcid => exact .inr ⟨⟨by simp [accepted, hcid], fun _ => rfl⟩, nofun⟩
  | alien | acceptFails => exact .inr ⟨⟨rfl, fun _ => rfl⟩, nofun⟩
  | localAddr | localAddrFails | reject | drop => exact .inr ⟨quiet_of_op rfl, nofun⟩

/-! ## The invariant -/

structure Serves (cid : Nat) (info : Bytes) (p : Phase) (h : History) : Prop where
  unaccepted : ∀ c, c ∉ accepted cid h → writtenOn c h = []
  written : ∀ c, writtenOn c h <+: info
  sending : ∀ c pos, p.sending = some (c, pos) → c ∈ accepted cid h ∧ writtenOn c h = info.take pos
  /-- without failures, only the connection that is being served has not got everything -/
  whole : ¬ Rough h → ∀ c ∈ accepted cid h, writtenOn c h = info ∨ ∃ pos, p.sending = some (c, pos)

theorem not_rough_snoc (hr : ¬ Rough (h ++ [e])) : ¬ Rough h ∧ Smooth e := by
  constructor
  · rintro ⟨x, hx, hs⟩
    exact hr ⟨x, by simp [hx], hs⟩
  · by_contra hs
    exact hr (rough_snoc hs)

/-- A quiet event that does not end the serving of a connection, or is a failure. -/
theorem Serves.quiet (hp : Serves cid info p h) (he : Quiet cid e)
    (hsub : ∀ x, p'.sending = some x → p.sending = some x) (hend : Smooth e → p'.sending = p.sending) :
    Serves cid info p' (h ++ [e]) := by
  have hacc : accepted cid (h ++ [e]) = accepted cid h := by
    rw [accepted_append, he.accepted, List.append_nil]
  have hwr : ∀ c, writtenOn c (h ++ [e]) = writtenOn c h := fun c => by
    rw [writtenOn_append, he.written, List.append_nil]
  refine ⟨fun c hc => ?_, fun c => ?_, fun c pos hs => ?_, fun hr c hc => ?_⟩
  · rw [hwr]
    exact hp.unaccepted c (hacc ▸ hc)
  · rw [hwr]
    exact hp.written c
  · rw [hwr, hacc]
    exact hp.sending c pos (hsub _ hs)
  · obtain ⟨hr, hsm⟩ := not_rough_snoc hr
    rw [hwr, hend hsm]
    exact hp.whole hr c (hacc ▸ hc)

theorem Serves.accept (hp : Serves cid info p h) (hidle : p.sending = none) {l l' c : Fd} {port : Nat}
    (hn : (accepted cid (h ++ [⟨.accept l, .ok (c, .vsock cid port)⟩])).Nodup) :
    Serves cid info (.prepare l' c) (h ++ [⟨.accept l, .ok (c, .vsock cid port)⟩]) := by
  have hacc : accepted cid (h ++ [⟨.accept l, .ok (c, .vsock cid port)⟩]) =
      accepted cid h ++ [c] := by
    rw [accepted_append]
    simp [accepted]
  have hwr : ∀ x, writtenOn x (h ++ [⟨.accept l, .ok (c, .vsock cid port)⟩]) = writtenOn x h := fun x => by
    rw [writtenOn_append]
    exact List.append_nil _
  rw [hacc] at hn
  refine ⟨fun x hx => ?_, fun x => ?_, fun x pos hs => ?_, fun hr x hx => ?_⟩
  · rw [hwr]
    exact hp.unaccepted x fun hmem => hx (by simp [hacc, hmem])
  · rw [hwr]
    exact hp.written x
  · cases hs
    rw [hwr, hacc, hp.unaccepted c (not_mem_of_nodup hn)]
    exact ⟨by simp, rfl⟩
  · rw [hacc] at hx
    rw [hwr]
    rcases List.mem_append.1 hx with hx | hx
    · rcases hp.whole (not_rough_snoc hr).1 x hx with hall | ⟨pos, hpos⟩
      · exact .inl hall
      · rw [hidle] at hpos
        cases hpos
    · rw [List.mem_singleton.1 hx]
      exact .inr ⟨0, rfl⟩

/-- A write goes to the connection that is being served; `sent` is what may have gone out. -/
theorem Serves.write {l c : Fd} {pos : Nat} (hp : Serves cid info (.writing l c pos) h) (sent : Bytes)
    (hacc : accepted cid [e] = []) (hwr : ∀ x, writtenOn x [e] = if c = x then sent else [])
    (hpre : info.take pos ++ sent <+: info)
    (hsend : ∀ x pos', p'.sending = some (x, pos') → x = c ∧ info.take pos ++ sent = info.take pos')
    (hall : Smooth e → p'.sending = none → info.take pos ++ sent = info) :
    Serves cid info p' (h ++ [e]) := by
  obtain ⟨hmem, hpos⟩ := hp.sending c pos rfl
  have hacc' : accepted cid (h ++ [e]) = accepted cid h := by
    rw [accepted_append, hacc, List.append_nil]
  have hc : writtenOn c (h ++ [e]) = info.take pos ++ sent := by
    rw [writtenOn_append, hpos, hwr, if_pos rfl]
  have hother : ∀ x, x ≠ c → writtenOn x (h ++ [e]) = writtenOn x h := fun x hx => by
    rw [writtenOn_append, hwr, if_neg hx.symm, List.append_nil]
  refine ⟨fun x hx => ?_, fun x => ?_, fun x pos' hs => ?_, fun hr x hx => ?_⟩
  · rw [hacc'] at hx
    rw [hother x fun hxc => hx (hxc ▸ hmem)]
    exact hp.unaccepted x hx
  · by_cases hx : x = c
    · rw [hx, hc]
      exact hpre
    · rw [hother x hx]
      exact hp.written x
  · obtain ⟨rfl, heq⟩ := hsend x pos' hs
    rw [hacc', hc]
    exact ⟨hmem, heq⟩
  · rw [hacc'] at hx
    obtain ⟨hr, hsm⟩ := not_rough_snoc hr
    by_cases hxc : x = c
    · subst hxc
      rw [hc]
      cases hnext : p'.sending with
      | none => exact .inl (hall hsm hnext)
      | some y =>
        obtain ⟨rfl, -⟩ := hsend y.1 y.2 hnext
        exact .inr ⟨y.2, rfl⟩
    · rw [hother x hxc]
      rcases hp.whole hr x hx with hx | ⟨pos', hx⟩
      · exact .inl hx
      · cases hx
        exact absurd rfl hxc

/-- The connection that was being served is served, or it has got everything. -/
theorem Serves.onWritten {l c : Fd} {pos : Nat} (hp : Serves cid self.info p h) (hs : p.sending = some (c, pos)) :
    Serves cid self.info (.onWritten self l c pos) h := by
  obtain ⟨hmem, hpos⟩ := hp.sending c pos hs
  rcases sending_onWritten self l c pos with ⟨hnext, -⟩ | ⟨hnext, hlen⟩
  · refine ⟨hp.unaccepted, hp.written, fun x pos' hx => ?_, fun hr x hx => ?_⟩
    · rw [hnext] at hx
      cases hx
      exact ⟨hmem, hpos⟩
    · rw [hnext, ← hs]
      exact hp.whole hr x hx
  · refine ⟨hp.unaccepted, hp.written, fun x pos' hx => ?_, fun hr x hx => .inl ?_⟩
    · rw [hnext] at hx
      cases hx
    · rcases hp.whole hr x hx with hall | ⟨pos', hx⟩
      · exact hall
      · rw [hs] at hx
        cases hx
        rw [hpos, List.take_of_length_le hlen]

theorem serves_step (hs : Step self p e p') (hp : Serves self.peerCid self.info p h)
    (hn : (accepted self.peerCid (h ++ [e])).Nodup) : Serves self.peerCid self.info p' (h ++ [e]) := by
  cases hs with
  | @listen p e p' hl =>
    refine hp.quiet (listen_quiet hl) (fun x hx => ?_) fun _ => sending_inListen p'
    rw [sending_inListen] at hx
    cases hx
  | accepting ha =>
    rcases accept_quiet ha with ⟨c, port, rfl, rfl⟩ | ⟨hq, hne⟩
    · exact hp.accept rfl hn
    · refine hp.quiet hq (fun x hx => ?_) fun _ => sending_inAccept hne
      rw [sending_inAccept hne] at hx
      cases hx
  | idle | idleCancelled | prepare | halfClose | serving | drop =>
    exact hp.quiet (quiet_of_op rfl) (fun _ hx => hx) fun _ => rfl
  | prepareFails | halfCloseFails | writeTimeoutFails | servingCancelled =>
    exact hp.quiet (quiet_of_op rfl) nofun fun hsm => hsm.elim
  | @writeTimeout l c ms =>
    have hnext : Serves self.peerCid self.info (.writeTimeout l c) (h ++ [⟨.setWriteTimeout c ms, .ok ()⟩]) :=
      hp.quiet (quiet_of_op rfl) (fun _ hx => hx) fun _ => rfl
    exact hnext.onWritten rfl
  | @write l c pos n hpos =>
    have hsent : self.info.take pos ++ (self.info.drop pos).take n.val = self.info.take (pos + n.val) :=
      (List.take_add).symm
    have hnext : Serves self.peerCid self.info (.serving l c (pos + n.val))
        (h ++ [⟨.write c (self.info.drop pos), .ok n⟩]) := by
      refine hp.write ((self.info.drop pos).take n.val) rfl (fun x => by simp [writtenOn]) ?_
        (fun x pos' hx => ?_)
        nofun
      · rw [hsent]
        exact List.take_prefix _ _
      · cases hx
        exact ⟨rfl, hsent⟩
    exact hnext.onWritten rfl
  | @writeZero l c pos n h0 =>
    refine hp.write [] rfl (fun x => by simp [writtenOn, h0]) ?_ nofun fun hsm => ?_
    · rw [List.append_nil]
      exact List.take_prefix _ _
    · have hpos : 0 < n.val := hsm
      omega
  | @writeFails l c pos er =>
    refine hp.write (self.info.drop pos) rfl (fun x => by simp [writtenOn]) ?_ nofun fun hsm =>
      hsm.elim
    have hall := List.take_append_drop pos self.info
    exact hall.symm ▸ List.prefix_refl _

/-! ## Whole runs -/

/-- Each accepted connection has a handle of its own. -/
def distinct (cid : Nat) : Env sysSig :=
  ⟨fun h => (accepted cid h).Nodup, fun hn => (List.nodup_append.1 (accepted_append cid _ _ ▸ hn)).1⟩

theorem serves_of_path (hp : At self p h) (hn : (accepted self.peerCid h).Nodup) :
    Serves self.peerCid self.info p h := by
  refine hp.inv (E := distinct self.peerCid) (J := Serves self.peerCid self.info) ?_
    (fun hs hp hn => serves_step hs hp hn) hn
  exact ⟨fun _ _ => rfl, fun _ => List.nil_prefix, nofun, nofun⟩

/-- **A connection gets the beginning of `info`**, whatever happens. -/
theorem written_beginning {o : Status sysSig (Outcome Error Unit)} (hx : Exec self.run h o)
    (hn : (accepted self.peerCid h).Nodup) (c : Fd) : writtenOn c h <+: self.info := by
  obtain ⟨p, hp⟩ := (run_path hx).path
  exact (serves_of_path hp hn).written c

/-- A connection is closed only when none is being served. -/
theorem sending_of_close {c : Fd} (hs : Step self p ⟨.dropSocket c, ()⟩ p') : p.sending = none := by
  cases hs with
  | listen | accepting | drop => rfl

/-- **Without failures a connection has got all of `info` when it is closed**, and it gets no more. -/
theorem closed_whole {o : Status sysSig (Outcome Error Unit)} (hx : Exec self.run h o)
    (hn : (accepted self.peerCid h).Nodup) (hr : ¬ Rough h) {t u : History} (ht : t <+: h) {c c' : Fd}
    (hu : u ++ [⟨.dropSocket c', ()⟩] <+: t) (hc : c ∈ accepted self.peerCid u) : writtenOn c t = self.info := by
  obtain ⟨p, hp⟩ := (run_path hx).path
  obtain ⟨q, q', hq, hst⟩ := hp.step_of_prefix (hu.trans ht)
  have hmore := (serves_of_path hp hn).written c
  obtain ⟨v, rfl⟩ := (List.prefix_append _ _).trans hu
  obtain ⟨v', rfl⟩ := ht
  rw [List.append_assoc] at hn
  have hru : ¬ Rough u := by
    rintro ⟨e, he, hs⟩
    exact hr ⟨e, by simp [he], hs⟩
  have hall : writtenOn c u = self.info := by
    rcases (serves_of_path hq ((distinct _).ok_of_append hn)).whole hru c hc with hall | ⟨pos, hpos⟩
    · exact hall
    · rw [sending_of_close hst] at hpos
      cases hpos
  have hle : writtenOn c (u ++ v) <+: self.info := by
    rw [writtenOn_append] at hmore
    exact (List.prefix_append _ _).trans hmore
  rw [writtenOn_append, hall] at hle ⊢
  exact hle.eq_of_length (Nat.le_antisymm hle.length_le (by simp))

end
end Bootstrap
end Glycerine
