import Glycerine.Proxy.Debug
/-
# The dump always ends

Every length that decides about a slice comes from the packet: that of the IP header, the total length, that of the
TCP header, and those of the options. Each is compared before it is used, so no slice and no subtraction panics
(`ends_fmt_payload`), and the loop over the options consumes at least one byte in each iteration that does not stop
(`ends_step`).
-/

namespace Glycerine.Debug
open Interact
open Display (fmt)

variable {α : Type} {bs : Bytes}

/-! ## Slices and conversions -/

theorem ends_index {i : Nat} (h : i < bs.length) : Ends (index bs i) fun _ => True := by
  rw [index, List.getElem?_eq_getElem h]
  exact ends_ret trivial

theorem ends_slice {start stop : Nat} (hle : start ≤ stop) (h : stop ≤ bs.length) :
    Ends (slice bs start stop) fun s => s.length = stop - start := by
  rw [slice, if_pos ⟨hle, h⟩]
  refine ends_ret ?_
  rw [List.length_take, List.length_drop]
  omega

theorem ends_sliceFrom {start : Nat} (h : start ≤ bs.length) : Ends (sliceFrom bs start) (bs.drop start = ·) := by
  rw [sliceFrom, if_pos h]
  exact ends_ret rfl

theorem ends_usizeSub {a b : Nat} (h : b ≤ a) : Ends (usizeSub a b) fun _ => True := by
  rw [usizeSub, if_pos h]
  exact ends_ret trivial

theorem ends_u16FromBeBytes (h : bs.length = 2) : Ends (u16FromBeBytes bs) fun _ => True := by
  rw [u16FromBeBytes, if_pos h]
  exact ends_ret trivial

theorem ends_u32FromBeBytes (h : bs.length = 4) : Ends (u32FromBeBytes bs) fun _ => True := by
  rw [u32FromBeBytes, if_pos h]
  exact ends_ret trivial

/-- A number of two bytes is read. -/
theorem ends_read16 {f : UInt16 → Fmt α} {R : α → Prop} (start : Nat) (h : start + 2 ≤ bs.length)
    (hf : ∀ n, Ends (f n) R) : Ends (slice bs start (start + 2) >>= fun s => u16FromBeBytes s >>= f) R :=
  (ends_slice (by omega) h).seq fun s hs => (ends_u16FromBeBytes (by omega)).seq fun n _ => hf n

/-- A number of four bytes is read. -/
theorem ends_read32 {f : UInt32 → Fmt α} {R : α → Prop} (start : Nat) (h : start + 4 ≤ bs.length)
    (hf : ∀ n, Ends (f n) R) : Ends (slice bs start (start + 4) >>= fun s => u32FromBeBytes s >>= f) R :=
  (ends_slice (by omega) h).seq fun s hs => (ends_u32FromBeBytes (by omega)).seq fun n _ => hf n

/-! ## The options -/

theorem length_of_chunksExact8 (bs : Bytes) : ∀ chunk ∈ chunksExact8 bs, chunk.length = 8 := by
  induction bs using chunksExact8.induct with
  | case1 b₀ b₁ b₂ b₃ b₄ b₅ b₆ b₇ bs ih =>
    intro chunk hc
    rw [chunksExact8] at hc
    rcases List.mem_cons.1 hc with rfl | hc
    · rfl
    · exact ih chunk hc
  | case2 bs h =>
    intro chunk hc
    rw [chunksExact8] at hc
    · cases hc
    · exact h

theorem ends_writeBlock {chunk : Bytes} (h : chunk.length = 8) : Ends (writeBlock chunk) fun _ => True := by
  refine ends_read32 0 (by omega) fun left => ends_read32 4 (by omega) fun right => ends_writeFmt ?_
  simp [ends_fmt]

theorem ends_writeOption {kind : UInt8} {optionLen : Nat} :
    Ends (writeOption kind optionLen bs) fun _ => True := by
  unfold writeOption
  split
  · rename_i h
    refine (ends_u16FromBeBytes h.2).seq fun value _ => ends_writeFmt ?_
    simp [ends_fmt]
  split
  · rename_i h
    refine (ends_index (by omega)).seq fun value _ => ends_writeFmt ?_
    simp [ends_fmt]
  split
  · exact ends_writeStr
  split
  · exact ends_writeStr.seq fun _ _ => ends_forM fun chunk hc =>
      ends_writeBlock (length_of_chunksExact8 bs chunk hc)
  split
  · rename_i h
    refine ends_read32 0 (by omega) fun value => ends_read32 4 (by omega) fun echo => ends_writeFmt ?_
    simp [ends_fmt]
  · exact ends_writeFmt (by simp [ends_fmt])

theorem ends_writeMalformed {kind : UInt8} : Ends (writeMalformed kind) fun _ => True :=
  ends_writeFmt (by simp [ends_fmt])

/-- At least one byte was consumed. -/
def Consumes (options rest : Bytes) : Prop := ∃ consumed, consumed ≠ [] ∧ options = consumed ++ rest

theorem consumes_drop {options : Bytes} {n : Nat} (hn : 0 < n) (h : options ≠ []) :
    Consumes options (options.drop n) := by
  refine ⟨options.take n, fun hnil => ?_, (List.take_append_drop n options).symm⟩
  rcases List.take_eq_nil_iff.1 hnil with h0 | h0
  · omega
  · exact h h0

theorem Consumes.length {options rest : Bytes} (h : Consumes options rest) : rest.length < options.length := by
  obtain ⟨consumed, hne, rfl⟩ := h
  have hpos := List.length_pos_iff.2 hne
  rw [List.length_append]
  omega

/-- An iteration stops, or it consumes a byte. -/
theorem ends_step (s : Bool × Bytes) : Ends (TcpOptions.step s) fun
    | .next s' => Consumes s.2 s'.2
    | .stop _ => True := by
  obtain ⟨first, options⟩ := s
  cases options with
  | nil => exact ends_ret trivial
  | cons kind tail =>
    have hne : kind :: tail ≠ [] := List.cons_ne_nil _ _
    refine (ends_writeIf ends_writeStr).seq fun _ _ => ?_
    split
    · exact ends_writeStr.seq fun _ _ => ends_ret trivial
    split
    · refine ends_writeStr.seq fun _ _ => (ends_sliceFrom (by simp)).seq ?_
      rintro rest rfl
      exact ends_ret (consumes_drop (by omega) hne)
    split
    · exact ends_writeMalformed.seq fun _ _ => ends_ret trivial
    refine (ends_index (by omega)).seq fun len _ => ?_
    dsimp only
    split
    · exact ends_writeMalformed.seq fun _ _ => ends_ret trivial
    · refine (ends_slice (by omega) (by omega)).seq fun data _ => ends_writeOption.seq fun _ _ =>
        (ends_sliceFrom (by omega)).seq ?_
      rintro rest rfl
      exact ends_ret (consumes_drop (by omega) hne)

theorem ends_options {options : TcpOptions} : Ends (fmt options) fun _ => True := by
  refine ends_loop (J := fun _ => True) (fun s => s.2.length) (fun s _ => (ends_step s).mono fun c hc => ?_)
    trivial
  cases c with
  | next s' => exact ⟨trivial, hc.length⟩
  | stop _ => trivial

theorem ends_flags {flags : TcpFlags} : Ends (fmt flags) fun _ => True := by
  refine (ends_foldlM fun rendered flag _ => ?_).seq fun rendered _ => ends_writeIf ends_writeStr
  unfold TcpFlags.writeLabel
  split
  · exact ends_writeStr.seq fun _ _ => ends_ret trivial
  · exact ends_ret trivial

/-! ## Packets -/

section
variable {packet : Ipv4Packet} {payload : Bytes}

theorem ends_writeTruncated {protocol : String} : Ends (writeTruncated packet protocol payload) fun _ => True :=
  ends_writeFmt (by simp [ends_fmt])

theorem ends_writeSeq {seq : UInt32} {dataLen : Nat} {flags : UInt8} :
    Ends (writeSeq seq dataLen flags) fun _ => True := by
  unfold writeSeq
  split
  · exact ends_writeFmt (by simp [ends_fmt])
  split
  · exact ends_writeFmt (by simp [ends_fmt])
  · exact ends_ret trivial

theorem ends_writeTcp : Ends (writeTcp packet payload) fun _ => True := by
  unfold writeTcp
  split
  · exact ends_writeTruncated
  rename_i hmin
  rw [Nat.not_lt, TCP_MIN_HEADER_LEN] at hmin
  refine (ends_index (by omega)).seq fun offset _ => ?_
  dsimp only
  split
  · exact ends_writeTruncated
  rename_i hheader
  rw [not_or, Nat.not_lt, Nat.not_lt, TCP_MIN_HEADER_LEN] at hheader
  refine ends_read16 0 (by omega) fun srcPort => ends_read16 2 (by omega) fun dstPort => ?_
  refine ends_read32 4 (by omega) fun seq => ends_read32 8 (by omega) fun ack => ?_
  refine (ends_index (by omega)).seq fun flags _ => ?_
  refine ends_read16 14 (by omega) fun window => ends_read16 18 (by omega) fun urgent => ?_
  refine (ends_usizeSub hheader.2).seq fun dataLen _ => ?_
  refine (ends_writeFmt (by simp [ends_fmt, ends_flags])).seq fun _ _ => ?_
  refine ends_writeSeq.seq fun _ _ => ?_
  refine (ends_writeIf (ends_writeFmt (by simp [ends_fmt]))).seq fun _ _ => ?_
  refine (ends_writeFmt (by simp [ends_fmt])).seq fun _ _ => ?_
  refine (ends_writeIf (ends_writeFmt (by simp [ends_fmt]))).seq fun _ _ => ?_
  refine Ends.seq (R := fun _ => True) (ends_writeIf ?_) fun _ _ => ends_writeFmt (by simp [ends_fmt])
  refine (ends_slice hheader.1 hheader.2).seq fun options _ => ends_writeFmt ?_
  simp [ends_fmt, ends_options]

theorem ends_writeUdp : Ends (writeUdp packet payload) fun _ => True := by
  unfold writeUdp
  split
  · exact ends_writeTruncated
  rename_i hmin
  rw [Nat.not_lt, UDP_HEADER_LEN] at hmin
  refine ends_read16 0 (by omega) fun srcPort => ends_read16 2 (by omega) fun dstPort => ?_
  refine ends_read16 4 (by omega) fun length => ends_writeFmt ?_
  simp [ends_fmt]

theorem ends_parse (bytes : Bytes) : Ends (Ipv4Packet.parse bytes) fun _ => True := by
  unfold Ipv4Packet.parse
  split
  · exact ends_ret trivial
  rename_i hmin
  rw [Nat.not_lt, IPV4_MIN_HEADER_LEN] at hmin
  refine (ends_index (by omega)).seq fun b₀ _ => ?_
  dsimp only
  split
  · exact ends_ret trivial
  refine ends_read16 2 (by omega) fun totalLen => (ends_index (by omega)).seq fun protocol _ => ?_
  refine (ends_index (by omega)).seq fun _ _ => (ends_index (by omega)).seq fun _ _ => ?_
  refine (ends_index (by omega)).seq fun _ _ => (ends_index (by omega)).seq fun _ _ => ?_
  refine (ends_index (by omega)).seq fun _ _ => (ends_index (by omega)).seq fun _ _ => ?_
  exact (ends_index (by omega)).seq fun _ _ => (ends_index (by omega)).seq fun _ _ => ends_ret trivial

theorem ends_fmt_payload (bytes : Bytes) : Ends (DumpPayload.fmt bytes) fun _ => True := by
  refine (ends_parse bytes).seq fun r _ => ?_
  cases r with
  | none => exact ends_writeFmt (by simp [ends_fmt])
  | some packet =>
    dsimp only
    split
    · exact ends_writeFmt (by simp [ends_fmt])
    split
    · exact ends_writeFmt (by simp [ends_fmt])
    split
    · exact (ends_usizeSub (by omega)).seq fun missing _ => ends_writeFmt (by simp [ends_fmt])
    refine (ends_slice (by omega) (by omega)).seq fun payload _ => ?_
    split
    · exact ends_writeTcp
    split
    · exact ends_writeUdp
    · exact ends_writeFmt (by simp [ends_fmt])

end

/-- **A dump never panics and always ends**, whatever the packet and the sink, and each iteration of the loop over
the options stops or consumes a byte. -/
theorem dump_ends (bytes : Bytes) :
    Task.NeverPanics (DumpPayload.fmt bytes) ∧
    (∀ (W : Type) (sink : Handler textSig W), Total sink → ∀ w, ∃ o w',
      Halts sink (DumpPayload.fmt bytes) w (.done o) w') ∧
    ∀ first options t s', Exec (TcpOptions.step (first, options)) t
      (.done (.ok (.next s'))) → Consumes options s'.2 := by
  refine ⟨(ends_fmt_payload bytes).neverPanics, fun W sink hs w => ?_, fun first options t s' hx => ?_⟩
  · obtain ⟨o, w', hx, -⟩ := ends_fmt_payload bytes W sink hs w
    exact ⟨o, w', hx⟩
  · exact (ends_step (first, options)).exec hx

end Glycerine.Debug
