import Glycerine.Proxy.Ipv4Runs
import Glycerine.System.WorldRules
/-
# How `VsockToIpv4::run` opens its sockets

`new_sink_socket_with_backoff` tries again after each attempt that fails, so the raw socket is open in the end,
however many attempts the oracle lets fail (`halts_newDstIpv4Socket`). Nothing else changes on the way
(`World.Grown`): the stream, what was handed on, and the sockets that are open already.
-/

namespace Glycerine
open Interact

/-- `w'` is `w` after sockets were opened, or only tried to. -/
structure World.Grown (w w' : World) : Prop where
  conn : w'.conn = w.conn
  incoming : w'.incoming = w.incoming
  log : w'.log = w.log
  nextFd : w.nextFd ≤ w'.nextFd
  raw : ∀ fd, fd < w.nextFd → w'.raw fd = w.raw fd

theorem World.Grown.refl (w : World) : w.Grown w := ⟨rfl, rfl, rfl, Nat.le_refl _, fun _ _ => rfl⟩

theorem World.Grown.trans {w₁ w₂ w₃ : World} (h : w₁.Grown w₂) (h' : w₂.Grown w₃) : w₁.Grown w₃ where
  conn := h'.conn.trans h.conn
  incoming := h'.incoming.trans h.incoming
  log := h'.log.trans h.log
  nextFd := Nat.le_trans h.nextFd h'.nextFd
  raw fd hfd := (h'.raw fd (Nat.lt_of_lt_of_le hfd h.nextFd)).trans (h.raw fd hfd)

section
variable {o : Oracle} {w w₁ w' : World}

/-! ## Raw sockets -/

theorem rawStep_hit {s : RawStep} {e : IoError} {rest : List (RawStep × IoError)}
    (h : w.trouble = (s, e) :: rest) : w.rawStep s = (.error e, { w with trouble := rest }) := by
  unfold World.rawStep
  rw [h]
  exact if_pos rfl

theorem rawStep_miss {s s' : RawStep} {e : IoError} {rest : List (RawStep × IoError)}
    (h : w.trouble = (s', e) :: rest) (hs : s ≠ s') : w.rawStep s = (.ok (), w) := by
  unfold World.rawStep
  rw [h]
  exact if_neg hs

theorem rawStep_nil {s : RawStep} (h : w.trouble = []) : w.rawStep s = (.ok (), w) := by
  unfold World.rawStep
  rw [h]

/-- The world after a raw socket was created. -/
def World.withRaw (w : World) (p : Protocol) : World :=
  { w with nextFd := w.nextFd + 1, raw := fun fd => if fd = w.nextFd then some p else w.raw fd }

theorem grown_withRaw (w : World) (p : Protocol) : w.Grown (w.withRaw p) where
  conn := rfl
  incoming := rfl
  log := rfl
  nextFd := Nat.le_succ _
  raw _ hfd := if_neg (Nat.ne_of_lt hfd)

theorem halts_rawSocketNew {p : Protocol} (h : w.rawStep .socket = (.ok (), w)) :
    Halts (World.answer o) (Socket.new .ipv4 .raw (some p)) w (.done (.ok w.nextFd)) (w.withRaw p) := by
  have hans : World.answer o w (.socketNew .ipv4 .raw (some p)) = some (.ok w.nextFd, w.withRaw p) := by
    simp only [World.answer, World.answerSocketNew, h]
    rfl
  exact Task.halts_call hans rfl

theorem halts_rawSocketNew_err {p : Protocol} {e : IoError} (h : w.rawStep .socket = (.error e, w')) :
    Halts (World.answer o) (Socket.new .ipv4 .raw (some p)) w (.done (.err e)) w' := by
  have hans : World.answer o w (.socketNew .ipv4 .raw (some p)) = some (.error e, w') := by
    simp only [World.answer, World.answerSocketNew, h]
  exact Task.halts_call hans rfl

theorem halts_bindDevice {s : Fd} {i : String} {r : Except IoError Unit} (h : w.rawStep .bindDevice = (r, w')) :
    Halts (World.answer o) (Socket.bindDevice s i) w (.done (.ofExcept r)) w' :=
  Task.halts_call (congrArg some h) rfl

theorem halts_setHeaderIncludedV4 {s : Fd} {r : Except IoError Unit}
    (h : w.rawStep .headerIncluded = (r, w')) :
    Halts (World.answer o) (Socket.setHeaderIncludedV4 s true) w (.done (.ofExcept r)) w' :=
  Task.halts_call (congrArg some h) rfl

theorem halts_setRecvBufferSize {s : Fd} {r : Except IoError Unit}
    (h : w.answerRecvBufferSize o = (r, w')) :
    Halts (World.answer o) (Socket.setRecvBufferSize s 0) w (.done (.ofExcept r)) w' :=
  Task.halts_call (congrArg some h) rfl

theorem halts_newSinkSocket (i : String) (p : Protocol) (h : w.trouble = []) :
    ∃ w', Halts (World.answer o) (Ipv4.newSinkSocket i p) w (.done (.ok w.nextFd)) w' ∧
      w.Grown w' ∧ w.nextFd < w'.nextFd ∧ w'.raw w.nextFd = some p := by
  let w₁ := w.withRaw p
  have h₁ : w₁.trouble = [] := h
  let w₂ : World := { w₁ with trouble := o.trouble (w₁.opened + 1), opened := w₁.opened + 1 }
  have hlast : w₁.answerRecvBufferSize o = (.ok (), w₂) := by
    unfold World.answerRecvBufferSize
    rw [rawStep_nil h₁]
  have hg := grown_withRaw w p
  refine ⟨w₂, ?_, ⟨hg.conn, hg.incoming, hg.log, hg.nextFd, hg.raw⟩, Nat.lt_succ_self _, if_pos rfl⟩
  unfold Ipv4.newSinkSocket
  refine Task.halts_andThen (Task.halts_mapErr_ok (halts_rawSocketNew (rawStep_nil h))) ?_
  refine Task.halts_andThen (Task.halts_mapErr_ok (halts_bindDevice (rawStep_nil h₁))) ?_
  refine Task.halts_andThen (Task.halts_mapErr_ok (halts_setHeaderIncludedV4 (rawStep_nil h₁))) ?_
  exact Task.halts_andThen (Task.halts_mapErr_ok (halts_setRecvBufferSize hlast)) Task.halts_ret

/-- An attempt that fails, at any of the four calls, uses up one trouble. -/
theorem halts_newSinkSocket_err (i : String) (p : Protocol) {s : RawStep} {e : IoError}
    {rest : List (RawStep × IoError)} (h : w.trouble = (s, e) :: rest) :
    ∃ w', Halts (World.answer o) (Ipv4.newSinkSocket i p) w (.done (.err (.ioIpv4Tcp e))) w' ∧
      w.Grown w' ∧ w'.trouble = rest := by
  let w₁ := w.withRaw p
  have h₁ : w₁.trouble = (s, e) :: rest := h
  have hg := grown_withRaw w p
  have hg₁ : w.Grown { w₁ with trouble := rest } := ⟨hg.conn, hg.incoming, hg.log, hg.nextFd, hg.raw⟩
  unfold Ipv4.newSinkSocket
  cases s with
  | socket =>
    refine ⟨{ w with trouble := rest }, ?_, ⟨rfl, rfl, rfl, Nat.le_refl _, fun _ _ => rfl⟩, rfl⟩
    exact Task.halts_andThen_err (Task.halts_mapErr_err (halts_rawSocketNew_err (rawStep_hit h)))
  | bindDevice =>
    refine ⟨_, ?_, hg₁, rfl⟩
    refine Task.halts_andThen (Task.halts_mapErr_ok (halts_rawSocketNew (rawStep_miss h (by decide)))) ?_
    exact Task.halts_andThen_err (Task.halts_mapErr_err (halts_bindDevice (rawStep_hit h₁)))
  | headerIncluded =>
    refine ⟨_, ?_, hg₁, rfl⟩
    refine Task.halts_andThen (Task.halts_mapErr_ok (halts_rawSocketNew (rawStep_miss h (by decide)))) ?_
    refine Task.halts_andThen (Task.halts_mapErr_ok (halts_bindDevice (rawStep_miss h₁ (by decide)))) ?_
    exact Task.halts_andThen_err (Task.halts_mapErr_err (halts_setHeaderIncludedV4 (rawStep_hit h₁)))
  | recvBufferSize =>
    refine ⟨_, ?_, hg₁, rfl⟩
    have hlast : w₁.answerRecvBufferSize o = (.error e, { w₁ with trouble := rest }) := by
      unfold World.answerRecvBufferSize
      rw [rawStep_hit h₁]
    refine Task.halts_andThen (Task.halts_mapErr_ok (halts_rawSocketNew (rawStep_miss h (by decide)))) ?_
    refine Task.halts_andThen (Task.halts_mapErr_ok (halts_bindDevice (rawStep_miss h₁ (by decide)))) ?_
    refine Task.halts_andThen (Task.halts_mapErr_ok (halts_setHeaderIncludedV4 (rawStep_miss h₁ (by decide)))) ?_
    exact Task.halts_andThen_err (Task.halts_mapErr_err (halts_setRecvBufferSize hlast))

/-- The new socket is open in the end; the induction is on the attempts that fail. -/
theorem halts_newDstIpv4Socket (self : VsockToIpv4) (p : Protocol) (w : World) :
    ∃ fd w', Halts (World.answer o) (self.newDstIpv4Socket p) w (.done (.ok fd)) w' ∧
      w.Grown w' ∧ w.nextFd ≤ fd ∧ fd < w'.nextFd ∧ w'.raw fd = some p := by
  have loop : ∀ (ts : List (RawStep × IoError)) (w : World), w.trouble = ts →
      ∃ fd w', Halts (World.answer o) (Task.loop (fun _ => retryStep self.backoff
          (unlessCancelled (Ipv4.newSinkSocket self.cfg.ipv4Interface p)) 0) ()) w (.done (.ok fd)) w' ∧
        w.Grown w' ∧ w.nextFd ≤ fd ∧ fd < w'.nextFd ∧ w'.raw fd = some p := by
    intro ts
    induction ts with
    | nil =>
      intro w h
      obtain ⟨w', hnew, hg, hlt, hraw⟩ := halts_newSinkSocket (o := o) self.cfg.ipv4Interface p h
      exact ⟨w.nextFd, w', halts_retryLoop_ok 0 (halts_unlessCancelled_ok hnew), hg, Nat.le_refl _, hlt, hraw⟩
    | cons t ts ih =>
      intro w h
      obtain ⟨w₁, hnew, hg, ht⟩ := halts_newSinkSocket_err (o := o) self.cfg.ipv4Interface p h
      obtain ⟨fd, w', hl, hg', hle, hlt, hraw⟩ := ih w₁ ht
      exact ⟨fd, w', halts_retryLoop_err (halts_unlessCancelled_err hnew) hl, hg.trans hg',
        Nat.le_trans hg.nextFd hle, hlt, hraw⟩
  obtain ⟨fd, w', hl, h⟩ := loop w.trouble w rfl
  exact ⟨fd, w', halts_withBackoff hl, h⟩

/-- A raw socket is replaced; the other one and the connection stay. -/
theorem halts_reopen (self : VsockToIpv4) (p : Protocol) {src old keep : Fd} {q : Protocol}
    (hc : w.conn = .up src) (hsrc : src ≠ old) (hne : keep ≠ old) (hkeep : w.raw keep = some q)
    (hlt : keep < w.nextFd) :
    ∃ fd w₁ w', Halts (World.answer o) (Socket.drop old : Sys Error Unit) w (.done (.ok ())) w₁ ∧
      Halts (World.answer o) (self.newDstIpv4Socket p) w₁ (.done (.ok fd)) w' ∧
      w'.conn = .up src ∧ w'.incoming = w.incoming ∧ w'.log = w.log ∧ w'.raw fd = some p ∧
      w'.raw keep = some q ∧ w.nextFd ≤ fd ∧ fd < w'.nextFd ∧ keep < w'.nextFd := by
  have hother : w.conn ≠ .up old := by
    rw [hc]
    exact fun h => hsrc (Conn.up.inj h)
  let w₁ : World := {
    w with
    conn := if w.conn = .up old then .closed else w.conn
    raw := fun fd => if fd = old then none else w.raw fd }
  obtain ⟨fd, w', hnew, hg, hle, hfd, hraw⟩ := halts_newDstIpv4Socket (o := o) self p w₁
  have hkeep₁ : w₁.raw keep = some q := (if_neg hne).trans hkeep
  have hc₁ : w₁.conn = .up src := (if_neg hother).trans hc
  exact ⟨fd, w₁, w', Task.halts_call rfl rfl, hnew, hg.conn.trans hc₁, hg.incoming, hg.log, hraw,
    (hg.raw keep hlt).trans hkeep₁, hle, hfd, Nat.lt_of_lt_of_le hlt hg.nextFd⟩

/-! ## The connection -/

/-- The peer is the configured one, so the first connection is accepted. -/
theorem halts_newSrcVsockSocket (self : VsockToIpv4) (hcid : o.peerCid = self.cfg.peerCid) (listener : Fd)
    (hw : w.conn = .waiting) :
    Halts (World.answer o) (self.newSrcVsockSocket listener) w (.done (.ok w.nextFd)) w.withConn := by
  unfold VsockToIpv4.newSrcVsockSocket
  refine Task.halts_andThen (halts_acceptConnectionWithBackoff hcid listener self.backoff hw) ?_
  exact Task.halts_andThen (halts_shutdown w.nextFd .write w.withConn) Task.halts_ret

end
end Glycerine
