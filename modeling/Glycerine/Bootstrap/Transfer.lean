import Glycerine.Bootstrap.Link
import Glycerine.System.WorldRules
/-
# The transfer of the bootstrap record

`get` returns the record that the service has, or it fails (`transfer_same`); without failures it returns the
record (`transfer_smooth`), and it does return (`halts_runStep`, `halts_get`).
-/

namespace Glycerine
open Interact

namespace Bootstrap

/-! ## Every schedule of writes and reads -/

section
variable {o : Oracle} {w : World}

theorem halts_serve (self : Bootstrap) {c : Fd} (hc : w.conn = .up c) :
    ∃ k, Halts (World.answer o) (self.serve c) w (.done (.ok ()))
      { w with wire := w.wire ++ self.info, sends := w.sends + k } := by
  refine halts_writeLoop self.info (fun pos w hc hlt => ?_) (fun pos w hle => ?_) _ 0 w hc rfl
  · unfold serveStep
    rw [if_pos hlt]
    have hlen : 0 < (self.info.drop pos).length := by
      rw [List.length_drop]
      omega
    refine Task.halts_andThen (Task.halts_call rfl rfl) ?_
    exact Task.halts_andThen (Task.halts_mapErr_ok (halts_nonZero (if_pos hc) rfl (World.clamp_pos hlen)))
      Task.halts_ret
  · unfold serveStep
    rw [if_neg (Nat.not_lt.2 hle)]
    exact Task.halts_ret

/-- **However the writes are split**, the service writes all of `info` to the peer it accepts. -/
theorem halts_runStep (self : Bootstrap) (hcid : o.peerCid = self.peerCid) (listener : Fd)
    (hw : w.conn = .waiting) :
    ∃ w', Halts (World.answer o) (self.runStep listener) w (.done (.ok (.next ()))) w' ∧
      w'.wire = w.wire ++ self.info := by
  obtain ⟨k, hserve⟩ := halts_serve (o := o) self (w := w.withConn) rfl
  have hnew : Halts (World.answer o) (self.newClientVsockSocket listener) w
      (.done (.ok (w.nextFd, .vsock o.peerCid 0))) w.withConn := by
    unfold newClientVsockSocket
    refine Task.halts_andThen (halts_acceptConnectionWithBackoff hcid listener self.backoff hw) ?_
    refine Task.halts_andThen (halts_shutdown w.nextFd .read w.withConn) ?_
    exact Task.halts_andThen (Task.halts_mapErr_ok (Task.halts_call rfl rfl)) Task.halts_ret
  let w' : World := { w.withConn with wire := w.withConn.wire ++ self.info, sends := w.withConn.sends + k }
  refine ⟨{
    w' with
    conn := if w'.conn = .up w.nextFd then .closed else w'.conn
    raw := fun fd => if fd = w.nextFd then none else w'.raw fd }, ?_, rfl⟩
  unfold runStep
  refine Task.halts_andThen (Task.halts_call rfl rfl) ?_
  refine Task.halts_andThen hnew ?_
  refine Task.halts_andThen (Task.halts_attempt_ok hserve) ?_
  exact Task.halts_andThen (Task.halts_call rfl rfl) Task.halts_ret

/-- A round that reads something: the first `k` of the bytes that are left. -/
theorem halts_receiveStep {s : Fd} (hc : w.conn = .up s) {buf buf' : RecvBuffer} (hroom : buf.room = .ok buf')
    (hfree : 0 < buf'.free) (hin : w.incoming ≠ []) :
    ∃ k bs w₁, 0 < k ∧ bs.1 = w.incoming.take k ∧ w₁.incoming = w.incoming.drop k ∧ w₁.conn = .up s ∧
      Halts (World.answer o) (receiveStep s buf) w (.done (.ok (.next (buf'.push bs)))) w₁ := by
  let k := World.clamp (o.cut w.reads) buf'.free
  have hk : 0 < k := World.clamp_pos hfree
  have hlen : (w.incoming.take k).length ≤ buf'.free := by
    rw [List.length_take]
    exact Nat.le_trans (Nat.min_le_left _ _) (World.clamp_le _ _)
  let w₁ : World := { w with incoming := w.incoming.drop k, reads := w.reads + 1 }
  have hread : World.answer o w (.read s buf'.free) = some (.ok ⟨w.incoming.take k, hlen⟩, w₁) := by
    simp only [World.answer, World.answerRead, if_pos hc, if_neg (Nat.ne_of_gt hfree), if_neg hin]
    rfl
  have hpos : 0 < w.incoming.length := List.length_pos_iff.2 hin
  refine ⟨k, ⟨_, hlen⟩, w₁, hk, rfl, rfl, hc, ?_⟩
  unfold receiveStep
  rw [hroom]
  refine Task.halts_andThen (Task.halts_call rfl rfl) ?_
  refine Task.halts_andThen halts_pure ?_
  refine Task.halts_andThen (Task.halts_mapErr_ok (Task.halts_call hread rfl)) ?_
  rw [if_neg]
  · exact Task.halts_ret
  · rw [List.length_take]
    omega

/-- The reads from `buf` on: the induction is on the number of bytes that are left. -/
theorem halts_receive (heof : o.tail = .eof) {s : Fd} : ∀ (n : Nat) (buf : RecvBuffer) (w : World),
    w.conn = .up s → w.incoming.length = n → buf.bytes.length + n < MAX_RECORD_SIZE →
    ∃ w', Halts (World.answer o) (Task.loop (receiveStep s) buf) w
      (.done (.ok (buf.bytes ++ w.incoming))) w' := by
  intro n
  induction n using Nat.strongRecOn with
  | ind n ih =>
    intro buf w hc hn hmax
    obtain ⟨buf', hroom, hbytes, hfree⟩ := buf.room_of_lt (by omega)
    by_cases hin : w.incoming = []
    · have hread : World.answer o w (.read s buf'.free) = some (.ok ⟨[], Nat.zero_le _⟩, w) := by
        simp only [World.answer, World.answerRead, if_pos hc, if_neg (Nat.ne_of_gt hfree), if_pos hin, heof]
      refine ⟨w, Task.halts_loop_stop ?_⟩
      unfold receiveStep
      rw [hroom, hin, List.append_nil, ← hbytes]
      refine Task.halts_andThen (Task.halts_call rfl rfl) ?_
      refine Task.halts_andThen halts_pure ?_
      refine Task.halts_andThen (Task.halts_mapErr_ok (Task.halts_call hread rfl)) ?_
      exact Task.halts_ret
    · obtain ⟨k, bs, w₁, hk, hbs, hleft, hc₁, hstep⟩ := halts_receiveStep (o := o) hc hroom hfree hin
      have hpos : 0 < w.incoming.length := List.length_pos_iff.2 hin
      have hmore : (buf'.push bs).bytes = buf.bytes ++ w.incoming.take k := by
        rw [← hbs, ← hbytes]
        rfl
      obtain ⟨w', hrest⟩ :=
        ih w₁.incoming.length (by rw [hleft, List.length_drop]; omega) (buf'.push bs) w₁ hc₁ rfl (by
        rw [hmore, hleft, List.length_append, Nat.add_assoc, ← List.length_append, List.take_append_drop, hn]
        exact hmax)
      rw [hmore, hleft, List.append_assoc, List.take_append_drop] at hrest
      exact ⟨w', Task.halts_loop_next hstep hrest⟩

/-- **However the reads are split**, `get` reads to the end of the stream and parses what it has read. -/
theorem halts_get {fromSlice : Bytes → Option Record} {r : Record} (addr : SockAddr) (b : ExponentialBackoff)
    (heof : o.tail = .eof) (hw : w.conn = .waiting) (hr : fromSlice w.incoming = some r)
    (hmax : w.incoming.length < MAX_RECORD_SIZE) :
    ∃ w', Halts (World.answer o) (get fromSlice addr b) w (.done (.ok r)) w' := by
  obtain ⟨w', hloop⟩ := halts_receive (o := o) heof w.incoming.length .new w.withConn rfl rfl
    (by rwa [show RecvBuffer.new.bytes.length = 0 from rfl, Nat.zero_add])
  refine ⟨w', ?_⟩
  unfold get
  refine Task.halts_andThen (halts_newClientSocketWithBackoff addr b hw) ?_
  refine Task.halts_andThen (halts_shutdown w.nextFd .write w.withConn) ?_
  refine Task.halts_andThen (Task.halts_mapErr_ok (Task.halts_call rfl rfl)) ?_
  refine Task.halts_andThen (Task.halts_mapErr_ok (Task.halts_call rfl rfl)) ?_
  refine Task.halts_andThen hloop ?_
  have hwhole : fromSlice (RecvBuffer.new.bytes ++ w.withConn.incoming) = some r := hr
  simp only [hwhole]
  exact Task.halts_ret

end

/-! ## Joint runs of the service and a client -/

/-- A joint run of the service and a client that has returned; `os` says what the service does next. -/
structure TransferRun (srv : Bootstrap) (fromSlice : Bytes → Option Record) (addr : SockAddr)
    (b : ExponentialBackoff)
    (orderly : Bool) (peer : Fd → Fd) (g : List JointEvent) (os : Status sysSig (Outcome Error Unit))
    (result : Outcome Error Record) : Prop where
  server : Exec srv.run (senderPart g) os
  client : Exec (get fromSlice addr b) (receiverPart g) (.done result)
  link : (Link.empty.run srv.peerCid peer orderly g).isSome

section
variable {self : Bootstrap} {r : Record} {fromSlice : Bytes → Option Record} {addr : SockAddr}
    {b : ExponentialBackoff}
  {orderly : Bool} {peer : Fd → Fd} {g : List JointEvent} {os : Status sysSig (Outcome Error Unit)}
  {result : Outcome Error Record}

/-- No strict prefix of the encoding is accepted as a record. -/
theorem fromSlice_beginning (hdocument : ∀ bs r', fromSlice bs = some r' → Json.Document bs) {bs : Bytes}
    (hbs : bs <+: r.encode) (hne : bs ≠ r.encode) : fromSlice bs = none := by
  cases hr' : fromSlice bs with
  | none => rfl
  | some r' => exact absurd (hdocument bs r' hr') (Record.not_document_of_strict hbs hne)

theorem TransferRun.read_beginning (hg : TransferRun self fromSlice addr b orderly peer g os result) (s : Fd) :
    readOn s (receiverPart g) <+: self.info := by
  obtain ⟨hn, hread⟩ := Link.run_spec hg.link
  exact (hread s).trans (written_beginning hg.server hn (peer s))

theorem TransferRun.same {r' : Record} (hg : TransferRun self fromSlice addr b orderly peer g os (.ok r'))
    (hinfo : self.info = r.encode)
    (hdecode : fromSlice r.encode = some r) (hdocument : ∀ bs r', fromSlice bs = some r' → Json.Document bs) :
    r' = r := by
  obtain ⟨-, s, hs⟩ := triple_get [] _ _ rfl hg.client trivial
  have hpre : readOn s (receiverPart g) <+: r.encode := hinfo ▸ hg.read_beginning s
  by_cases hall : readOn s (receiverPart g) = r.encode
  · rw [List.nil_append, hall, hdecode] at hs
    exact (Option.some.inj hs).symm
  · rw [List.nil_append, fromSlice_beginning hdocument hpre hall] at hs
    cases hs

/-- What is read is the next part of `stream`, and nothing only after the whole of it. -/
def ServedBy (stream : Bytes) (u : History) : SysEvent → Prop
  | ⟨.read s n, .ok bs⟩ => readOn s u ++ bs.1 <+: stream ∧ (0 < n → bs.1 = [] → readOn s u = stream)
  | _ => True

/-- Over an orderly transport and without failures of its own, the service serves its `info`. -/
theorem TransferRun.served (hg : TransferRun self fromSlice addr b true peer g os result)
    (hs : ¬ Rough (senderPart g)) : Machine.Throughout (ServedBy self.info) (receiverPart g) := by
  rintro u e ⟨v, hu⟩
  have hread : ∀ s, readOn s (u ++ [e]) <+: self.info := by
    intro s
    refine List.IsPrefix.trans ?_ (hg.read_beginning s)
    rw [← hu, readOn_append _ (u ++ [e])]
    exact List.prefix_append _ _
  rw [List.append_assoc] at hu
  obtain ⟨g₁, g₂, rfl, rfl⟩ := exists_of_receiverPart hu.symm
  unfold ServedBy
  split
  · rename_i s n bs
    refine ⟨?_, fun _ hnil => ?_⟩
    · have hs := hread s
      rwa [readOn_append, show readOn s [⟨.read s n, .ok bs⟩] = bs.1 by simp [readOn]] at hs
    · obtain ⟨bs, hle⟩ := bs
      cases hnil
      have hfirst : senderPart g₁ <+: senderPart (g₁ ++ .inr ⟨.read s n, .ok ⟨[], hle⟩⟩ :: g₂) := by
        rw [senderPart_append]
        exact List.prefix_append _ _
      obtain ⟨hall, w, hw, hacc⟩ := Link.run_orderly hg.link
      rw [hall, closed_whole hg.server (Link.run_spec hg.link).1 hs hfirst hw hacc]
  · trivial

/-- Where the end of the stream is reported, all of `info` was read. -/
theorem TransferRun.read_all (hg : TransferRun self fromSlice addr b true peer g os result)
    (hs : ¬ Rough (senderPart g)) {s : Fd} (hend : AtEnd s (receiverPart g)) :
    readOn s (receiverPart g) = self.info := by
  obtain ⟨u, n, x, hu, hn⟩ := hend
  have hserved := hg.served hs u ⟨.read s n, .ok ⟨[], x⟩⟩ (hu ▸ List.prefix_refl _)
  rw [hu, readOn_append, hserved.2 hn rfl]
  simp [readOn]

theorem TransferRun.smooth (hg : TransferRun self fromSlice addr b true peer g os result)
    (hinfo : self.info = r.encode)
    (hlen : r.encode.length < MAX_RECORD_SIZE) (hdecode : fromSlice r.encode = some r)
    (hdocument : ∀ bs r', fromSlice bs = some r' → Json.Document bs) (hs : ¬ Rough (senderPart g))
    (hc : ¬ Rough (receiverPart g)) : result = .ok r := by
  have hget := triple_get [] _ _ rfl hg.client trivial
  match result with
  | .ok r' => rw [hg.same hinfo hdecode hdocument]
  | .err e =>
    rcases hget.cause with hrough | ⟨s, hlong | ⟨hend, hnone⟩⟩
    · exact absurd hrough hc
    · have hle := (hg.read_beginning s).length_le
      rw [hinfo] at hle
      exact absurd hlong (Nat.not_le.2 (Nat.lt_of_le_of_lt hle hlen))
    · rw [List.nil_append, hg.read_all hs hend, hinfo, hdecode] at hnone
      cases hnone
  | .panic => exact hget.elim

theorem TransferRun.ne_panic (hg : TransferRun self fromSlice addr b orderly peer g os result) :
    result ≠ .panic := by
  rintro rfl
  exact triple_get [] _ _ rfl hg.client trivial

/-- A read of `get` asks for a byte at least, so the end of the stream is not the end of the buffer. -/
theorem asking_of_get {h : History} {o : Status sysSig (Outcome Error Record)}
    (hx : Exec (get fromSlice addr b) h o) :
    Asking h := by
  have hget := triple_get [] h o rfl hx trivial
  match o with
  | .asks _ => exact hget
  | .done (.ok _) => exact hget.1
  | .done (.err _) => exact hget.asks
  | .done .panic => exact hget.elim

end

/-- **The record is transferred, or `get` fails; another record is never returned.** In order: whatever fails and
wherever, if `get` returns a record it is this one; without failures and shutdown it returns it; it does return,
however writes and reads are split; no strict prefix of the encoding is taken for a record; and no read is into a
full buffer. -/
theorem record_transferred {self : Bootstrap} {r : Record} {fromSlice : Bytes → Option Record}
    (hinfo : self.info = r.encode) (hlen : r.encode.length < MAX_RECORD_SIZE)
    (hdecode : fromSlice r.encode = some r)
    (hdocument : ∀ bs r', fromSlice bs = some r' → Json.Document bs) (addr : SockAddr) (b : ExponentialBackoff) :
    (∀ {orderly peer g os result}, TransferRun self fromSlice addr b orderly peer g os result →
      result = .ok r ∨ ∃ e, result = .err e) ∧
    (∀ {peer g os result}, TransferRun self fromSlice addr b true peer g os result →
      ¬ Rough (senderPart g) → ¬ Rough (receiverPart g) → result = .ok r) ∧
    (∀ (o₁ o₂ : Oracle) (listener : Fd), o₁.peerCid = self.peerCid → o₂.tail = .eof →
      ∃ w₁ w₂, Halts (World.answer o₁) (self.runStep listener) (World.init o₁ [] []) (.done (.ok (.next ()))) w₁ ∧
        Halts (World.answer o₂) (get fromSlice addr b) (World.init o₂ [] w₁.wire) (.done (.ok r)) w₂) ∧
    (∀ bs, bs <+: r.encode → bs ≠ r.encode → fromSlice bs = none) ∧
    ∀ h o, Exec (get fromSlice addr b) h o → Asking h := by
  refine ⟨fun {_ _ _ _ result} hg => ?_, fun hg hs hc => hg.smooth hinfo hlen hdecode hdocument hs hc,
    fun o₁ o₂ listener hcid heof => ?_, fun bs => fromSlice_beginning hdocument, fun h o => asking_of_get⟩
  · match result with
    | .ok r' => exact .inl (congrArg _ (hg.same hinfo hdecode hdocument))
    | .err e => exact .inr ⟨e, rfl⟩
    | .panic => exact absurd rfl hg.ne_panic
  · obtain ⟨w₁, hserve, hwire⟩ := halts_runStep self hcid listener (w := World.init o₁ [] []) rfl
    have hall : w₁.wire = r.encode := hwire.trans hinfo
    obtain ⟨w₂, hget⟩ := halts_get (w := World.init o₂ [] w₁.wire) addr b heof rfl (hall ▸ hdecode) (hall ▸ hlen)
    exact ⟨w₁, w₂, hserve, hget⟩

/-! A run in which the record arrives -/

def record : Record := ⟨⟨"10.0.0.2/24", 1500⟩, ⟨40000, 60999⟩, [⟨80, 80⟩, ⟨8000, 8999⟩]⟩

def recordServer : Bootstrap := { server with info := record.encode }

/-- `from_slice` as far as this record goes. -/
def decoder (bs : Bytes) : Option Record := if bs = record.encode then some record else none

/-- The record is written in two parts, read in two others, and the connection closed. The client has it as 7, the
service as 2. -/
def transferRun : List JointEvent :=
  ([⟨.now, (0 : Nat)⟩, ⟨.isCancelled, false⟩, ⟨.socketNew .vsock .stream none, .ok 1⟩,
    ⟨.bind 1 (.vsock 3 9000), .ok ()⟩,
    ⟨.listen 1 16, .ok ()⟩, ⟨.isCancelled, false⟩, ⟨.now, (0 : Nat)⟩, ⟨.isCancelled, false⟩,
    ⟨.localAddr 1, .ok (.vsock 3 9000)⟩] : History).map .inl ++
  ([⟨.now, (0 : Nat)⟩, ⟨.isCancelled, false⟩, ⟨.socketNew .vsock .stream none, .ok 7⟩,
    ⟨.connect 7 (.vsock 3 9000), .ok ()⟩, ⟨.localAddr 7, .ok (.vsock 16 1)⟩, ⟨.localAddr 7, .ok (.vsock 16 1)⟩,
    ⟨.shutdown 7 .write, .ok ()⟩, ⟨.localAddr 7, .ok (.vsock 16 1)⟩, ⟨.setReadTimeout 7 1000, .ok ()⟩,
    ⟨.isCancelled, false⟩] : History).map .inr ++
  ([⟨.accept 1, .ok (2, .vsock 16 1)⟩, ⟨.localAddr 2, .ok (.vsock 3 9000)⟩, ⟨.shutdown 2 .read, .ok ()⟩,
    ⟨.setWriteTimeout 2 1000, .ok ()⟩, ⟨.isCancelled, false⟩, ⟨.write 2 record.encode, .ok 50⟩] : History).map .inl ++
  ([⟨.read 7 4096, .ok ⟨record.encode.take 40, by decide +kernel⟩⟩, ⟨.isCancelled, false⟩] : History).map .inr ++
  ([⟨.isCancelled, false⟩, ⟨.write 2 (record.encode.drop 50), .ok (Fin.last _)⟩, ⟨.dropSocket 2, ()⟩] :
    History).map .inl ++
  ([⟨.read 7 4056, .ok ⟨record.encode.drop 40, by decide +kernel⟩⟩, ⟨.isCancelled, false⟩,
    ⟨.read 7 (4096 - record.encode.length), .ok ⟨[], Nat.zero_le _⟩⟩] : History).map .inr

theorem transferRun_joint :
    TransferRun recordServer decoder (.vsock 3 9000) ⟨some 60000⟩ true (fun _ => 2) transferRun
    (.asks .isCancelled) (.ok record) where
  server := exec_of_script 200 (by decide +kernel)
  client := exec_of_script 200 (by decide +kernel)
  link := by decide +kernel

theorem decoder_document {bs : Bytes} {r' : Record} (h : decoder bs = some r') : Json.Document bs := by
  by_cases heq : bs = record.encode
  · rw [heq]
    exact record.derives_encode.asElement
  · rw [decoder, if_neg heq] at h
    cases h

theorem record_transferred_whole :
    (∃ os result,
      TransferRun recordServer decoder (.vsock 3 9000) ⟨some 60000⟩ true (fun _ => 2) transferRun os result ∧
      result = .ok record) ∧ decoder (record.encode.take 40) = none :=
  have hinfo : recordServer.info = record.encode := rfl
  have hall := record_transferred hinfo (by decide +kernel) (if_pos rfl) (fun _ _ => decoder_document)
    (.vsock 3 9000) ⟨some 60000⟩
  ⟨⟨_, _, transferRun_joint, hall.2.1 transferRun_joint (by decide +kernel) (by decide +kernel)⟩,
    hall.2.2.2.1 _ (List.take_prefix _ _) (by decide +kernel)⟩

end Bootstrap
end Glycerine
