import Glycerine.Proxy.TcpPacket
/-
# The dump shows what was encoded

Each part of the dump reads back the part of the packet that it is about, and prints its text. The options are an
induction over their list: an iteration of the loop takes one option off the bytes (`prints_step`), and the list ends
with the bytes or with an EOL. What the text of an option of a known kind is in terms of the values it was made of
is `KnownOption.dataText_known`.
-/

namespace Glycerine.Debug
open Interact
open Display (fmt)

variable {α : Type} {bs : Bytes} {a : α} {s : String}

/-! ## Reading -/

theorem prints_index {i : Nat} {b : UInt8} (h : bs[i]? = some b) : Prints (index bs i) b "" := by
  rw [index, h]
  exact prints_ret

theorem prints_slice {start stop : Nat} (hle : start ≤ stop) (h : stop ≤ bs.length) :
    Prints (slice bs start stop) ((bs.drop start).take (stop - start)) "" := by
  rw [slice, if_pos ⟨hle, h⟩]
  exact prints_ret

theorem prints_sliceFrom {start : Nat} (h : start ≤ bs.length) :
    Prints (sliceFrom bs start) (bs.drop start) "" := by
  rw [sliceFrom, if_pos h]
  exact prints_ret

/-- A slice that is a whole part of the bytes. -/
theorem prints_slice_mid {start stop : Nat} {mid post : Bytes} (pre : Bytes) (h : bs = pre ++ (mid ++ post))
    (hstart : start = pre.length) (hstop : stop = pre.length + mid.length) :
    Prints (slice bs start stop) mid "" := by
  subst h hstart hstop
  have hslice := prints_slice (Nat.le_add_right pre.length mid.length)
    (show pre.length + mid.length ≤ (pre ++ (mid ++ post)).length by simp)
  rwa [List.drop_left, Nat.add_sub_cancel_left, List.take_left] at hslice

theorem prints_sliceFrom_tail {start : Nat} {post : Bytes} (pre : Bytes) (h : bs = pre ++ post)
    (hstart : start = pre.length) : Prints (sliceFrom bs start) post "" := by
  subst h hstart
  have hslice := prints_sliceFrom (show pre.length ≤ (pre ++ post).length by simp)
  rwa [List.drop_left] at hslice

theorem prints_u16FromBeBytes (h : bs.length = 2) : Prints (u16FromBeBytes bs) (UInt16.ofNat (beNat bs)) "" := by
  rw [u16FromBeBytes, if_pos h]
  exact prints_ret

theorem prints_u32FromBeBytes (h : bs.length = 4) : Prints (u32FromBeBytes bs) (UInt32.ofNat (beNat bs)) "" := by
  rw [u32FromBeBytes, if_pos h]
  exact prints_ret

theorem prints_read16 {f : UInt16 → Fmt α} (start : Nat) (h : start + 2 ≤ bs.length)
    (hf : Prints (f (UInt16.ofNat (beNat ((bs.drop start).take 2)))) a s) :
    Prints (slice bs start (start + 2) >>= fun b => u16FromBeBytes b >>= f) a s := by
  have hread := prints_slice (show start ≤ start + 2 by omega) h
  rw [Nat.add_sub_cancel_left] at hread
  refine hread.silent ((prints_u16FromBeBytes ?_).silent hf)
  rw [List.length_take, List.length_drop]
  omega

theorem prints_read32 {f : UInt32 → Fmt α} (start : Nat) (h : start + 4 ≤ bs.length)
    (hf : Prints (f (UInt32.ofNat (beNat ((bs.drop start).take 4)))) a s) :
    Prints (slice bs start (start + 4) >>= fun b => u32FromBeBytes b >>= f) a s := by
  have hread := prints_slice (show start ≤ start + 4 by omega) h
  rw [Nat.add_sub_cancel_left] at hread
  refine hread.silent ((prints_u32FromBeBytes ?_).silent hf)
  rw [List.length_take, List.length_drop]
  omega

/-- A number that was encoded is read back. -/
theorem prints_field16 {f : UInt16 → Fmt α} {n : UInt16} (start : Nat) (hlen : start + 2 ≤ bs.length)
    (h : (bs.drop start).take 2 = bytes16 n) (hf : Prints (f n) a s) :
    Prints (slice bs start (start + 2) >>= fun b => u16FromBeBytes b >>= f) a s := by
  refine prints_read16 start hlen ?_
  rwa [h, beNat_bytes16, UInt16.ofNat_toNat]

theorem prints_field32 {f : UInt32 → Fmt α} {n : UInt32} (start : Nat) (hlen : start + 4 ≤ bs.length)
    (h : (bs.drop start).take 4 = bytes32 n) (hf : Prints (f n) a s) :
    Prints (slice bs start (start + 4) >>= fun b => u32FromBeBytes b >>= f) a s := by
  refine prints_read32 start hlen ?_
  rwa [h, beNat_bytes32, UInt32.ofNat_toNat]

/-! ## Options -/

section
variable {β γ δ ε : Type} [ToText β] [ToText γ] [ToText δ] [ToText ε] {w : β} {x : γ} {y : δ} {z : ε}

theorem prints_write₁ : Prints (writeFmt [fmt w]) () (ToText.text w) := prints_fmt.seq_silent prints_writeFmt_nil

theorem prints_write₂ : Prints (writeFmt [fmt w, fmt x]) () (ToText.text w ++ ToText.text x) :=
  prints_writeFmt_cons prints_fmt prints_write₁

theorem prints_write₄ : Prints (writeFmt [fmt w, fmt x, fmt y, fmt z]) ()
    (ToText.text w ++ ToText.text x ++ ToText.text y ++ ToText.text z) := by
  rw [String.append_assoc, String.append_assoc]
  exact prints_writeFmt_cons prints_fmt (prints_writeFmt_cons prints_fmt prints_write₂)

end

theorem toNat_number {data : Bytes} {offset : Nat} :
    toString (UInt32.ofNat (beNat ((data.drop offset).take 4))).toNat = TcpOption.numberAt data offset := by
  have hlt : beNat ((data.drop offset).take 4) < 2 ^ 32 := by
    refine Nat.lt_of_lt_of_le (beNat_lt _) ?_
    rw [show 2 ^ 32 = 256 ^ 4 from rfl]
    exact Nat.pow_le_pow_right (by omega) (List.length_take_le 4 _)
  rw [UInt32.toNat_ofNat', Nat.mod_eq_of_lt hlt, TcpOption.numberAt]

theorem prints_writeBlock {chunk : Bytes} (h : chunk.length = 8) :
    Prints (writeBlock chunk) () (TcpOption.blockText chunk 0) := by
  refine prints_read32 0 (by omega) (prints_read32 4 (by omega) ?_)
  rw [TcpOption.blockText, ← toNat_number, ← toNat_number]
  exact prints_write₄

theorem prints_blocks (data : Bytes) (h : data.length % 8 = 0) :
    Prints ((chunksExact8 data).forM writeBlock) ()
      (String.join ((List.range (data.length / 8)).map (TcpOption.blockText data))) := by
  induction data using chunksExact8.induct with
  | case1 b₀ b₁ b₂ b₃ b₄ b₅ b₆ b₇ bs ih =>
    simp only [List.length_cons] at h ⊢
    have hdiv : (bs.length + 1 + 1 + 1 + 1 + 1 + 1 + 1 + 1) / 8 = bs.length / 8 + 1 := by omega
    rw [hdiv, List.range_succ_eq_map, List.map_cons, List.map_map, String.join_cons, TcpOption.blockText_chunk]
    exact (prints_writeBlock rfl).seq (ih (by omega))
  | case2 bs hbs =>
    have hlt : bs.length < 8 := by
      refine Nat.lt_of_not_le fun hlen => ?_
      match bs, hlen with
      | b₀ :: b₁ :: b₂ :: b₃ :: b₄ :: b₅ :: b₆ :: b₇ :: bs, _ => exact hbs _ _ _ _ _ _ _ _ _ rfl
      | [], hlen | [_], hlen | [_, _], hlen | [_, _, _], hlen | [_, _, _, _], hlen | [_, _, _, _, _], hlen
      | [_, _, _, _, _, _], hlen | [_, _, _, _, _, _, _], hlen => simp at hlen
    have hnil : bs = [] := List.length_eq_zero_iff.1 (by omega)
    subst hnil
    exact prints_ret

theorem prints_writeOption {kind : UInt8} {data : Bytes} :
    Prints (writeOption kind (data.length + 2) data) () (TcpOption.dataText kind data) := by
  unfold writeOption TcpOption.dataText
  by_cases hmss : kind = TCPOPT_MSS ∧ data.length = 2
  · rw [if_pos hmss, if_pos hmss]
    have hlt : beNat data < 2 ^ 16 := by
      have key := beNat_lt data
      rw [hmss.2] at key
      omega
    have hvalue : (UInt16.ofNat (beNat data)).toNat = beNat data := by
      rw [UInt16.toNat_ofNat', Nat.mod_eq_of_lt hlt]
    rw [← hvalue]
    exact (prints_u16FromBeBytes hmss.2).silent prints_write₂
  rw [if_neg hmss, if_neg hmss]
  by_cases hwscale : kind = TCPOPT_WSCALE ∧ data.length = 1
  · rw [if_pos hwscale, if_pos hwscale]
    obtain ⟨b, rfl⟩ := List.length_eq_one_iff.1 hwscale.2
    have hvalue : beNat [b] = b.toNat := by simp [beNat]
    rw [hvalue]
    exact (prints_index rfl).silent prints_write₂
  rw [if_neg hwscale, if_neg hwscale]
  by_cases hpermitted : kind = TCPOPT_SACK_PERMITTED ∧ data.length = 0
  · rw [if_pos hpermitted, if_pos hpermitted]
    exact prints_writeStr
  rw [if_neg hpermitted, if_neg hpermitted]
  by_cases hsack : kind = TCPOPT_SACK ∧ data.length % 8 = 0
  · rw [if_pos hsack, if_pos hsack]
    exact prints_writeStr.seq (prints_blocks data hsack.2)
  rw [if_neg hsack, if_neg hsack]
  by_cases htimestamp : kind = TCPOPT_TIMESTAMP ∧ data.length = 8
  · rw [if_pos htimestamp, if_pos htimestamp, ← toNat_number, ← toNat_number]
    exact prints_read32 0 (by omega) (prints_read32 4 (by omega) prints_write₄)
  · rw [if_neg htimestamp, if_neg htimestamp]
    exact prints_write₄

/-- An iteration takes one option off the bytes. -/
theorem prints_step (first : Bool) (o : TcpOption) (rest : Bytes) :
    Prints (TcpOptions.step (first, o.bytes ++ rest)) (.next (false, rest))
      ((if !first then "," else "") ++ o.text) := by
  cases o with
  | nop =>
    refine (prints_writeIf prints_writeStr).seq ?_
    rw [if_neg (by decide), if_pos rfl]
    exact prints_writeStr.seq_silent ((prints_sliceFrom (by simp [TcpOption.bytes])).silent prints_ret)
  | other kind data hkind hlen =>
    have hoptionLen : (UInt8.ofNat (data.length + 2)).toNat = data.length + 2 := UInt8.toNat_ofNat_of_lt' hlen
    have hdata :
        Prints (slice (kind :: UInt8.ofNat (data.length + 2) :: (data ++ rest)) 2 (data.length + 2)) data "" :=
      prints_slice_mid [_, _] rfl rfl (Nat.add_comm _ _)
    have hrest : Prints
        (sliceFrom (kind :: UInt8.ofNat (data.length + 2) :: (data ++ rest)) (data.length + 2)) rest "" :=
      prints_sliceFrom_tail (_ :: _ :: data) rfl rfl
    refine (prints_writeIf prints_writeStr).seq ?_
    rw [if_neg hkind.1, if_neg hkind.2, if_neg (by simp [TcpOption.bytes])]
    refine (prints_index rfl).silent ?_
    dsimp only
    rw [hoptionLen, if_neg (by simp [TcpOption.bytes])]
    exact hdata.silent (prints_writeOption.seq_silent (hrest.silent prints_ret))

/-- The texts, with a comma before each but the very first. -/
def commas : Bool → List String → String
  | _, [] => ""
  | first, s :: l => (if !first then "," else "") ++ s ++ commas false l

theorem commas_eq (l : List String) : commas true l = ",".intercalate l := by
  cases l with
  | nil => simp [commas]
  | cons s l =>
    induction l generalizing s with
    | nil => simp [commas]
    | cons t l ih =>
      rw [String.intercalate_cons_cons, ← ih]
      simp [commas, String.append_assoc]

theorem prints_loop (items : List TcpOption) (padding : Option Bytes) (first : Bool) :
    Prints (Task.loop TcpOptions.step (first, OptionArea.bytes ⟨items, padding⟩)) ()
      (commas first (OptionArea.texts ⟨items, padding⟩)) := by
  induction items generalizing first with
  | nil =>
    cases padding with
    | none => exact prints_loop_stop prints_ret
    | some p =>
      have heol : Prints (TcpOptions.step (first, TCPOPT_EOL :: p)) (.stop ())
          ((if !first then "," else "") ++ "eol") := by
        refine (prints_writeIf prints_writeStr).seq ?_
        rw [if_pos rfl]
        exact prints_writeStr.seq_silent prints_ret
      have key := prints_loop_stop heol
      simpa [OptionArea.bytes, OptionArea.texts, commas] using key
  | cons o items ih =>
    have key := prints_loop_next (prints_step first o (OptionArea.bytes ⟨items, padding⟩)) (ih false)
    simpa [OptionArea.bytes, OptionArea.texts, commas] using key

theorem prints_options (area : OptionArea) :
    Prints (fmt (TcpOptions.mk area.bytes)) () (",".intercalate area.texts) := by
  rw [← commas_eq]
  exact prints_loop area.items area.padding true

/-! ## Segments -/

variable {seg : Segment}

theorem prints_labels (seg : Segment) (l : List (UInt8 × String)) (rendered : Bool) :
    Prints (l.foldlM (TcpFlags.mk seg.flags).writeLabel rendered) (rendered || l.any fun flag => seg.has flag.1)
      (String.join ((l.filter fun flag => seg.has flag.1).map Prod.snd)) := by
  induction l generalizing rendered with
  | nil => simpa using prints_ret (a := rendered)
  | cons flag l ih =>
    rw [List.foldlM_cons, List.any_cons, List.filter_cons]
    by_cases hset : seg.has flag.1
    · have hbit : seg.flags &&& flag.1 ≠ 0 := hset
      have hlabel : Prints ((TcpFlags.mk seg.flags).writeLabel rendered flag) true flag.2 := by
        rw [TcpFlags.writeLabel, if_pos hbit]
        exact prints_writeStr.seq_silent prints_ret
      simpa [hset] using hlabel.seq (ih true)
    · have hbit : ¬ seg.flags &&& flag.1 ≠ 0 := hset
      have hlabel : Prints ((TcpFlags.mk seg.flags).writeLabel rendered flag) rendered "" := by
        rw [TcpFlags.writeLabel, if_neg hbit]
        exact prints_ret
      simpa [hset] using hlabel.silent (ih rendered)

theorem prints_flags (seg : Segment) : Prints (fmt (TcpFlags.mk seg.flags)) () seg.flagsText := by
  have hlabels := prints_labels seg flagLabels false
  show Prints (flagLabels.foldlM (TcpFlags.mk seg.flags).writeLabel false >>= fun rendered =>
    writeIf (!rendered) (writeStr "none")) () seg.flagsText
  by_cases hany : (flagLabels.any fun flag => seg.has flag.1) = true
  · have hne : (flagLabels.filter fun flag => seg.has flag.1).map Prod.snd ≠ [] := by
      obtain ⟨flag, hmem, hset⟩ := List.any_eq_true.1 hany
      exact List.ne_nil_of_mem (List.mem_map_of_mem (List.mem_filter.2 ⟨hmem, hset⟩))
    rw [hany] at hlabels
    rw [Segment.flagsText, if_neg hne]
    exact hlabels.seq_silent prints_ret
  · have hnil : (flagLabels.filter fun flag => seg.has flag.1).map Prod.snd = [] := by
      rw [List.map_eq_nil_iff, List.filter_eq_nil_iff]
      intro flag hmem hset
      exact hany (List.any_eq_true.2 ⟨flag, hmem, hset⟩)
    rw [Bool.not_eq_true] at hany
    rw [hany, hnil] at hlabels
    rw [Segment.flagsText, if_pos hnil]
    exact hlabels.silent prints_writeStr

theorem and_or_ne_zero {x y z : UInt8} : x &&& (y ||| z) ≠ 0 ↔ x &&& y ≠ 0 ∨ x &&& z ≠ 0 := by
  have hdistrib : x &&& (y ||| z) = x &&& y ||| x &&& z := UInt8.toBitVec_inj.1 BitVec.and_or_distrib_left
  rw [hdistrib, Ne, UInt8.or_eq_zero_iff, Decidable.not_and_iff_or_not]

/-- The test of three flags at once. -/
theorem has_numbered : seg.flags &&& (TCP_FIN ||| TCP_SYN ||| TCP_RST) ≠ 0 ↔
    seg.has TCP_SYN ∨ seg.has TCP_FIN ∨ seg.has TCP_RST := by
  rw [and_or_ne_zero, and_or_ne_zero]
  constructor
  · rintro ((hfin | hsyn) | hrst)
    · exact .inr (.inl hfin)
    · exact .inl hsyn
    · exact .inr (.inr hrst)
  · rintro (hsyn | hfin | hrst)
    · exact .inl (.inr hsyn)
    · exact .inl (.inl hfin)
    · exact .inr hrst

theorem prints_seqText (seg : Segment) : Prints (writeSeq seg.seq seg.data.length seg.flags) () seg.seqText := by
  unfold writeSeq Segment.seqText
  by_cases hdata : seg.data = []
  · have hlen : ¬ seg.data.length > 0 := by simp [hdata]
    have hne : ¬ seg.data ≠ [] := fun h => h hdata
    rw [if_neg hlen, if_neg hne]
    by_cases hset : seg.has TCP_SYN ∨ seg.has TCP_FIN ∨ seg.has TCP_RST
    · rw [if_pos hset, if_pos (has_numbered.2 hset)]
      exact prints_write₂
    · rw [if_neg hset, if_neg fun h => hset (has_numbered.1 h)]
      exact prints_ret
  · have hsum : toString ((seg.seq.toNat + seg.data.length) % 2 ^ 32) =
        toString (seg.seq + UInt32.ofNat seg.data.length).toNat := by
      rw [UInt32.toNat_add, UInt32.toNat_ofNat', Nat.add_mod_mod]
    rw [if_pos (List.length_pos_iff.2 hdata), if_pos hdata, hsum]
    exact prints_write₄

theorem length_segment (seg : Segment) :
    seg.bytes.length = 20 + (seg.options.bytes.length + seg.data.length) := by
  rw [Segment.bytes, ← List.length_append, List.length_append]
  rfl

/-- The header length that is read from the data offset. -/
theorem headerLen_segment (seg : Segment) :
    4 * (nibbles seg.dataOffset seg.reserved >>> 4).toNat = 20 + seg.options.bytes.length := by
  have hwords := seg.options_words
  have hle := seg.options_le
  rw [nibbles_hi (by rw [Segment.dataOffset]; omega) seg.reserved.isLt, Segment.dataOffset]
  omega

theorem prints_optionsText (seg : Segment) : Prints
    (writeIf (20 + seg.options.bytes.length > TCP_MIN_HEADER_LEN) do
      let options ← slice seg.bytes TCP_MIN_HEADER_LEN (20 + seg.options.bytes.length)
      writeFmt [fmt ", options [", fmt (TcpOptions.mk options), fmt "]"]) () seg.optionsText := by
  have hoptions :
      Prints (slice seg.bytes TCP_MIN_HEADER_LEN (20 + seg.options.bytes.length)) seg.options.bytes "" :=
    prints_slice_mid _ rfl rfl rfl
  unfold Segment.optionsText writeIf
  by_cases hnil : seg.options.bytes = []
  · rw [if_pos hnil, if_neg (by simp [hnil, TCP_MIN_HEADER_LEN])]
    exact prints_ret
  · have hpos := List.length_pos_iff.2 hnil
    rw [if_neg hnil, if_pos (by rw [TCP_MIN_HEADER_LEN]; omega), String.append_assoc]
    have hpieces := prints_writeFmt_cons (prints_options seg.options) (prints_write₁ (w := "]"))
    exact hoptions.silent (prints_writeFmt_cons prints_fmt hpieces)

theorem prints_ackText (seg : Segment) :
    Prints (writeIf (seg.flags &&& TCP_ACK ≠ 0) (writeFmt [fmt ", ack ", fmt seg.ack])) () seg.ackText :=
  prints_writeIf prints_write₂

theorem prints_urgText (seg : Segment) :
    Prints (writeIf (seg.flags &&& TCP_URG ≠ 0) (writeFmt [fmt ", urg ", fmt seg.urgent])) () seg.urgText :=
  prints_writeIf prints_write₂

theorem prints_head (packet : Ipv4Packet) (seg : Segment) : Prints
    (writeFmt [fmt "IP ", fmt packet.src, fmt ".", fmt seg.srcPort, fmt " > ", fmt packet.dst, fmt ".", fmt seg.dstPort,
      fmt ": Flags [", fmt (TcpFlags.mk seg.flags), fmt "]"]) ()
    ("IP " ++ ToText.text packet.src ++ "." ++ toString seg.srcPort.toNat ++ " > " ++ ToText.text packet.dst ++ "." ++
      toString seg.dstPort.toNat ++ ": Flags [" ++ seg.flagsText ++ "]") := by
  have hflags := prints_writeFmt_cons (prints_flags seg) (prints_write₁ (w := "]"))
  have hdst := prints_writeFmt_cons (prints_fmt (a := packet.dst)) (prints_writeFmt_cons (prints_fmt (a := "."))
    (prints_writeFmt_cons (prints_fmt (a := seg.dstPort))
      (prints_writeFmt_cons (prints_fmt (a := ": Flags [")) hflags)))
  have hsrc := prints_writeFmt_cons (prints_fmt (a := packet.src)) (prints_writeFmt_cons (prints_fmt (a := "."))
    (prints_writeFmt_cons (prints_fmt (a := seg.srcPort)) (prints_writeFmt_cons (prints_fmt (a := " > ")) hdst)))
  have hline := prints_writeFmt_cons (prints_fmt (a := "IP ")) hsrc
  refine hline.of_eq ?_
  simp only [text_string, text_uInt16, String.append_assoc]

theorem prints_writeTcp (packet : Ipv4Packet) (seg : Segment) : Prints (writeTcp packet seg.bytes) ()
    ("IP " ++ ToText.text packet.src ++ "." ++ toString seg.srcPort.toNat ++ " > " ++ ToText.text packet.dst ++ "." ++
      toString seg.dstPort.toNat ++ seg.text) := by
  have hlen := length_segment seg
  have hheader := headerLen_segment seg
  unfold writeTcp
  rw [if_neg (by rw [hlen, TCP_MIN_HEADER_LEN]; omega)]
  refine (prints_index rfl).silent ?_
  dsimp only
  rw [hheader, if_neg (by rw [hlen, TCP_MIN_HEADER_LEN]; omega)]
  refine prints_field16 0 (by omega) rfl (prints_field16 2 (by omega) rfl ?_)
  refine prints_field32 4 (by omega) rfl (prints_field32 8 (by omega) rfl ?_)
  refine (prints_index rfl).silent ?_
  refine prints_field16 14 (by omega) rfl (prints_field16 18 (by omega) rfl ?_)
  have hsub : Prints (usizeSub seg.bytes.length (20 + seg.options.bytes.length)) seg.data.length "" := by
    rw [usizeSub, if_pos (by omega), show seg.bytes.length - (20 + seg.options.bytes.length) =
      seg.data.length by omega]
    exact prints_ret
  refine hsub.silent ?_
  refine Prints.of_eq ((prints_head packet seg).seq ((prints_seqText seg).seq ((prints_ackText seg).seq
    (prints_write₂.seq ((prints_urgText seg).seq ((prints_optionsText seg).seq prints_write₂)))))) ?_
  unfold Segment.text
  simp only [text_string, text_nat, text_uInt16, String.append_assoc]

/-! ## Packets -/

theorem length_packet (p : Packet) :
    p.bytes.length = 20 + p.options.length + (p.segment.bytes.length + p.trailing.length) := by
  rw [Packet.bytes, Nat.add_assoc, ← List.length_append, ← List.length_append, List.length_append]
  rfl

theorem toNat_totalLength (p : Packet) : p.totalLength.toNat = 20 + p.options.length + p.segment.bytes.length :=
  UInt16.toNat_ofNat_of_lt' p.fits

/-- The header length and the version that are read from the first byte. -/
theorem headerLen_packet (p : Packet) : 4 * (nibbles 4 p.ihl &&& 0x0F).toNat = 20 + p.options.length := by
  have hwords := p.options_words
  have hle := p.options_le
  rw [nibbles_lo (by rw [Packet.ihl]; omega), Packet.ihl]
  omega

theorem version_packet (p : Packet) : nibbles 4 p.ihl >>> 4 = 4 := by
  have hle := p.options_le
  have hhi := nibbles_hi (show 4 < 16 by omega) (show p.ihl < 16 by rw [Packet.ihl]; omega)
  exact UInt8.toNat_inj.1 hhi

theorem prints_parse (p : Packet) : Prints (Ipv4Packet.parse p.bytes)
    (some ⟨4, 20 + p.options.length, p.totalLength.toNat, IPPROTO_TCP, p.src, p.dst⟩) "" := by
  have hlen := length_packet p
  unfold Ipv4Packet.parse
  rw [if_neg (by rw [hlen, IPV4_MIN_HEADER_LEN]; omega)]
  refine (prints_index rfl).silent ?_
  dsimp only
  rw [headerLen_packet, version_packet, if_neg (by rw [hlen, IPV4_MIN_HEADER_LEN]; omega)]
  refine prints_field16 2 (by omega) rfl ((prints_index rfl).silent ?_)
  refine (prints_index rfl).silent
    ((prints_index rfl).silent ((prints_index rfl).silent ((prints_index rfl).silent ?_)))
  refine (prints_index rfl).silent
    ((prints_index rfl).silent ((prints_index rfl).silent ((prints_index rfl).silent ?_)))
  exact prints_ret

theorem prints_payload (p : Packet) :
    Prints (slice p.bytes (20 + p.options.length) p.totalLength.toNat) p.segment.bytes "" := by
  refine prints_slice_mid _ (List.append_assoc _ p.options _).symm ?_ ?_
  · rw [List.length_append]
    rfl
  · rw [toNat_totalLength, List.length_append]
    rfl

theorem prints_dump (p : Packet) : Prints (DumpPayload.fmt p.bytes) () p.text := by
  have hlen := length_packet p
  have htotal := toNat_totalLength p
  refine (prints_parse p).silent ?_
  dsimp only
  rw [if_neg (fun h => h rfl), if_neg (by omega), if_neg (by omega)]
  refine (prints_payload p).silent ?_
  rw [if_pos rfl]
  exact prints_writeTcp _ p.segment

/-- **The dump of a packet shows what was encoded**: it writes exactly the text of the packet. -/
theorem dump_shows (p : Packet) : Halts collect (DumpPayload.fmt p.bytes) "" (.done (.ok ())) p.text := by
  have hdump := prints_dump p ""
  rwa [String.empty_append] at hdump

end Glycerine.Debug
