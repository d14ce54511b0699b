/-!
# Self-delimiting frames in a stream

A stream of frames without separators: the first `headerLen` symbols of a frame determine its length
(`size`), and that is all a receiver has to find the next boundary. `parse` cuts a stream greedily, frame by
frame, until a header is refused (`bad`) or the stream runs out inside a frame (`short`).

Frames are prefix-free (`frame_unique`), so the cut is the only one: a receiver that has read a part of a
stream of frames and believes to be at a boundary is at one (`boundary_unique`), and `parse` gives back
exactly the frames that were written (`parse_append`).
-/
namespace Framing

structure Codec (α : Type) where
  headerLen : Nat
  size : List α → Option Nat
  headerLen_pos : 0 < headerLen
  headerLen_le : ∀ {hd n}, size hd = some n → headerLen ≤ n

/-- Why a greedy parse stops: a complete header that `size` refuses, or the end of the stream. -/
inductive Ending where
  | bad
  | short
deriving DecidableEq, Repr

/-- One step of the greedy parse. -/
inductive Cut (α : Type) where
  | frame (p rest : List α)
  | stop (e : Ending)

variable {α : Type} {c : Codec α}

/-- `p` is one whole frame: its header says its length. -/
def Codec.Frame (c : Codec α) (p : List α) : Prop := c.size (p.take c.headerLen) = some p.length

def Codec.cut (c : Codec α) (bs : List α) : Cut α :=
  if bs.length < c.headerLen then .stop .short
  else
    match c.size (bs.take c.headerLen) with
    | none => .stop .bad
    | some n => if bs.length < n then .stop .short else .frame (bs.take n) (bs.drop n)

theorem Codec.Frame.headerLen_le {p : List α} (h : c.Frame p) : c.headerLen ≤ p.length := c.headerLen_le h

theorem Codec.Frame.ne_nil {p : List α} (h : c.Frame p) : p ≠ [] := by
  rintro rfl
  have hle := h.headerLen_le
  have hpos := c.headerLen_pos
  rw [List.length_nil] at hle
  omega

theorem cut_frame_append {p : List α} (h : c.Frame p) (rest : List α) :
    c.cut (p ++ rest) = .frame p rest := by
  have hl := h.headerLen_le
  unfold Codec.Frame at h
  unfold Codec.cut
  rw [if_neg (by simp; omega), List.take_append_of_le_length hl, h]
  simp

theorem cut_eq_frame {bs p rest : List α} (h : c.cut bs = .frame p rest) : bs = p ++ rest ∧ c.Frame p := by
  unfold Codec.cut at h
  split at h
  · cases h
  · split at h
    · cases h
    · rename_i n hn
      split at h
      · cases h
      · rename_i hlen
        cases h
        have hle := c.headerLen_le hn
        refine ⟨(List.take_append_drop n bs).symm, ?_⟩
        unfold Codec.Frame
        rw [List.take_take, Nat.min_eq_left hle, hn, List.length_take, Nat.min_eq_left (by omega)]

/-- The greedy parse: the frames in front, and why it stops after them. -/
def Codec.parse (c : Codec α) (bs : List α) : List (List α) × Ending :=
  match _h : c.cut bs with
  | .stop e => ([], e)
  | .frame p rest => (p :: (c.parse rest).1, (c.parse rest).2)
termination_by bs.length
decreasing_by
  all_goals
    obtain ⟨rfl, hp⟩ := cut_eq_frame _h
    have := List.length_pos_iff.2 hp.ne_nil
    simp only [List.length_append]
    omega

theorem parse_stop {bs : List α} {e : Ending} (h : c.cut bs = .stop e) : c.parse bs = ([], e) := by
  unfold Codec.parse
  split
  · rename_i h'
    rw [h] at h'
    cases h'
    rfl
  · rename_i h'
    rw [h] at h'
    cases h'

theorem parse_frame {bs p rest : List α} (h : c.cut bs = .frame p rest) :
    c.parse bs = (p :: (c.parse rest).1, (c.parse rest).2) := by
  rw [Codec.parse]
  split
  · rename_i h'
    rw [h] at h'
    cases h'
  · rename_i h'
    rw [h] at h'
    cases h'
    rfl

/-- Frames are parsed back as they were written, whatever follows them. -/
theorem parse_append : ∀ {ps : List (List α)} (_ : ∀ p ∈ ps, c.Frame p) (rest : List α),
    c.parse (ps.flatten ++ rest) = (ps ++ (c.parse rest).1, (c.parse rest).2)
  | [], _, rest => by simp
  | p :: ps, h, rest => by
    have ih : c.parse (ps.flatten ++ rest) = (ps ++ (c.parse rest).1, (c.parse rest).2) :=
      parse_append (fun q hq => h q (by simp [hq])) rest
    rw [List.flatten_cons, List.append_assoc, parse_frame (cut_frame_append (h p (by simp)) _), ih]
    rfl

theorem parse_short {bs : List α} (h : bs.length < c.headerLen) : c.parse bs = ([], .short) :=
  parse_stop (by unfold Codec.cut; rw [if_pos h])

theorem parse_flatten {ps : List (List α)} (h : ∀ p ∈ ps, c.Frame p) : c.parse ps.flatten = (ps, .short) := by
  have := parse_append h []
  rw [parse_short (show ([] : List α).length < c.headerLen from c.headerLen_pos)] at this
  simpa using this

/-- What the greedy parse cuts off are frames, and the rest is where it stops. -/
theorem parse_spec (bs : List α) :
    (∀ p ∈ (c.parse bs).1, c.Frame p) ∧
      ∃ rest, bs = (c.parse bs).1.flatten ++ rest ∧ c.cut rest = .stop (c.parse bs).2 := by
  induction hn : bs.length using Nat.strongRecOn generalizing bs with
  | ind n ih =>
    cases hc : c.cut bs with
    | stop e =>
      rw [parse_stop hc]
      exact ⟨by simp, bs, by simp, hc⟩
    | frame p rest =>
      obtain ⟨rfl, hp⟩ := cut_eq_frame hc
      have hpos := List.length_pos_iff.2 hp.ne_nil
      obtain ⟨h₁, rest', h₂, h₃⟩ := ih rest.length (by rw [List.length_append] at hn; omega) rest rfl
      rw [parse_frame hc]
      refine ⟨?_, rest', ?_, h₃⟩
      · intro q hq
        rcases List.mem_cons.1 hq with rfl | hq
        · exact hp
        · exact h₁ q hq
      · rw [List.flatten_cons, List.append_assoc, ← h₂]

/-! ## Uniqueness of the boundaries -/

/-- The header, and with it the length, only depends on the stream. -/
theorem frame_unique {p q r s : List α} (hp : c.Frame p) (hq : c.Frame q) (h : p ++ r = q ++ s) :
    p = q ∧ r = s := by
  have hlen : p.length = q.length := by
    have hp' := hp
    unfold Codec.Frame at hp' hq
    have := congrArg (List.take c.headerLen) h
    rw [List.take_append_of_le_length hp.headerLen_le,
      List.take_append_of_le_length (Codec.Frame.headerLen_le hq)] at this
    rw [this, hq] at hp'
    exact (Option.some.inj hp').symm
  exact List.append_inj h hlen

/-- A reader that has cut frames `ps` off a stream of frames `qs` has cut off the first of them. -/
theorem boundary_unique : ∀ {ps qs : List (List α)} {rest : List α}, (∀ p ∈ ps, c.Frame p) →
    (∀ q ∈ qs, c.Frame q) → ps.flatten ++ rest <+: qs.flatten →
      ∃ qs', qs = ps ++ qs' ∧ rest <+: qs'.flatten
  | [], qs, rest, _, _, h => ⟨qs, rfl, by simpa using h⟩
  | p :: ps, [], rest, hp, _, h => by
    have := (hp p (by simp)).ne_nil
    simp_all
  | p :: ps, q :: qs, rest, hp, hq, ⟨u, h⟩ => by
    rw [List.flatten_cons, List.flatten_cons, List.append_assoc, List.append_assoc] at h
    obtain ⟨rfl, h'⟩ := frame_unique (hp p (by simp)) (hq q (by simp)) h
    have hpre : ps.flatten ++ rest <+: qs.flatten := ⟨u, by rw [List.append_assoc]; exact h'⟩
    obtain ⟨qs', rfl, hr⟩ :=
      boundary_unique (fun x hx => hp x (by simp [hx])) (fun x hx => hq x (by simp [hx])) hpre
    exact ⟨qs', rfl, hr⟩

/-- At a boundary inside a stream of frames, a complete header is that of the next frame. -/
theorem header_of_prefix {qs : List (List α)} {rest : List α} (hq : ∀ q ∈ qs, c.Frame q)
    (h : rest <+: qs.flatten) (hl : c.headerLen ≤ rest.length) :
    ∃ q qs', qs = q :: qs' ∧ c.size (rest.take c.headerLen) = some q.length := by
  cases qs with
  | nil =>
    have hpos := c.headerLen_pos
    have hlen := h.length_le
    rw [List.flatten_nil, List.length_nil] at hlen
    omega
  | cons q qs =>
    have hf := hq q (by simp)
    refine ⟨q, qs, rfl, ?_⟩
    obtain ⟨u, hu⟩ := h
    have := congrArg (List.take c.headerLen) hu
    rw [List.flatten_cons, List.take_append_of_le_length hl,
      List.take_append_of_le_length hf.headerLen_le] at this
    rw [this]
    exact hf

/-- What has come of a stream of frames is parsed into the frames that are there completely. -/
theorem parse_beginning {qs : List (List α)} {bs : List α} (hq : ∀ q ∈ qs, c.Frame q) (h : bs <+: qs.flatten) :
    ∃ n, (c.parse bs).1 = qs.take n ∧ (qs.take n).flatten <+: bs ∧
      (n < qs.length → bs.length < (qs.take (n + 1)).flatten.length) := by
  obtain ⟨hp, rest, hbs, hcut⟩ := parse_spec (c := c) bs
  rw [hbs] at h
  obtain ⟨qs', hqs, hrest⟩ := boundary_unique hp hq h
  have htake : qs.take (c.parse bs).1.length = (c.parse bs).1 := by
    rw [hqs]
    exact List.take_left
  refine ⟨(c.parse bs).1.length, htake.symm, ?_, ?_⟩
  · rw [htake]
    exact ⟨rest, hbs.symm⟩
  · intro hlt
    cases qs' with
    | nil =>
      rw [List.append_nil] at hqs
      rw [← hqs] at hlt
      exact absurd hlt (Nat.lt_irrefl _)
    | cons q qs' =>
      have hmore : qs.take ((c.parse bs).1.length + 1) = (c.parse bs).1 ++ [q] := by
        rw [hqs, List.take_append, List.take_of_length_le (Nat.le_succ _), Nat.add_sub_cancel_left]
        rfl
      have hlen : bs.length = (c.parse bs).1.flatten.length + rest.length := by
        rw [← List.length_append, ← hbs]
      rw [hmore, List.flatten_append, List.flatten_singleton, List.length_append, hlen]
      refine Nat.lt_of_not_le ?_
      intro hge
      -- then the next frame is there too
      have hpre : q <+: rest := by
        refine List.prefix_of_prefix_length_le ?_ hrest (by omega)
        rw [List.flatten_cons]
        exact List.prefix_append _ _
      obtain ⟨rest', rfl⟩ := hpre
      rw [cut_frame_append (hq q (by rw [hqs]; simp))] at hcut
      cases hcut

end Framing
