import Glycerine.Bootstrap.Leaving
import Glycerine.Bootstrap.Limit
import Glycerine.Interact.Comes
/-
# Shutdown while the record is fetched (`get`, `bootstrap/mod.rs:306-361`)

| here | there |
| --- | --- |
| `failureExitCode` | the two `process::exit` of `main` on an error (`bin/main.rs:44-51`) |

The token is looked at before each attempt to connect and before each read. Before an attempt it ends `get` with
`GlycerineShutdown`. Before a read it only ends the loop, and what was read so far is parsed as at the end of the
stream: a beginning of a record is a JSON error, and `main` fails (`shutdown_reported_iff`). Either way `get` returns
once the shutdown is raised.
-/

namespace Glycerine
open Interact Machine

/-- The exit code of `main` when the setup fails (main.rs:44-51). -/
def failureExitCode : Error → Nat
  | .glycerineShutdown => 0
  | _ => 1

theorem failureExitCode_eq_zero {e : Error} : failureExitCode e = 0 ↔ e = .glycerineShutdown := by
  cases e <;> simp [failureExitCode]

namespace Bootstrap

/-! ## A correct server -/

/-- No failure; the shutdown is none. -/
def Undisturbed : SysEvent → Prop
  | ⟨.isCancelled, _⟩ => True
  | e => Smooth e

/-- The record is served without a failure. -/
def Correct (r : Record) (u : History) (e : SysEvent) : Prop := ServedBy r.encode u e ∧ Undisturbed e

/-! ## When the token is looked at -/

/-- The connection `s` is ready to be read from. -/
def Prepared (s : Fd) (u : History) : Prop := ∃ ms, ⟨.setReadTimeout s ms, .ok ()⟩ ∈ u

/-- A look at the token before a read finds it cancelled only when the whole record was read, and not cancelled
only when there is room for more. -/
def Timely (r : Record) (u : History) : SysEvent → Prop
  | ⟨.isCancelled, true⟩ => ∀ s, Prepared s u → readOn s u = r.encode
  | ⟨.isCancelled, false⟩ => ∀ s, Prepared s u → (readOn s u).length < MAX_RECORD_SIZE
  | _ => True

section
variable {r : Record} {fromSlice : Bytes → Option Record} {s : Fd} {bs : Bytes} {h : History} {e : SysEvent}

/-- Neither a read nor what comes right before the first of them. -/
def Early : SysOp → Prop
  | .read _ _ | .setReadTimeout _ _ => False
  | _ => True

/-! ## Before the first read -/

structure Before (r : Record) (h : History) : Prop where
  timely : Throughout (Timely r) h
  unread : Unread h
  unprepared : ∀ s, ¬ Prepared s h

theorem before_nil : Before r [] where
  timely := throughout_nil
  unread := unread_nil
  unprepared := by
    rintro s ⟨ms, hmem⟩
    cases hmem

theorem Before.timely_event (hb : Before r h) : Timely r h e := by
  unfold Timely
  split
  · exact fun s hs => absurd hs (hb.unprepared s)
  · exact fun s hs => absurd hs (hb.unprepared s)
  · trivial

theorem Before.snoc (hb : Before r h) (he : Early e.1) : Before r (h ++ [e]) where
  timely := throughout_snoc.2 ⟨hb.timely, hb.timely_event⟩
  unread := by
    refine hb.unread.snoc fun hread => ?_
    obtain ⟨op, a⟩ := e
    cases op with
    | read => exact he
    | _ => exact hread
  unprepared := by
    rintro s ⟨ms, hmem⟩
    rcases List.mem_append.1 hmem with hmem | hmem
    · exact hb.unprepared s ⟨ms, hmem⟩
    · rw [← List.mem_singleton.1 hmem] at he
      exact he

/-- While the connection is tried, only the shutdown gives up. -/
def Trying (r : Record) (p : RetryPhase) (h : History) : Prop :=
  Before r h ∧ ∀ e, p = .gaveUp e → e = .glycerineShutdown

theorem Before.trying {p : RetryPhase} (hb : Before r h) (hp : ¬ p.Ended) : Trying r p h := by
  refine ⟨hb, fun e he => ?_⟩
  rw [he] at hp
  exact absurd trivial hp

theorem trying_step {b : ExponentialBackoff} {p p' : RetryPhase} (hs : RetryStep b p e p') (hp : Trying r p h)
    (hE : (keeping (Correct r)).ok (h ++ [e])) : Trying r p' (h ++ [e]) := by
  cases hs with
  | start | attempt | clock | again | sleep => exact Before.trying (hp.1.snoc trivial) not_false
  | cancelled =>
    refine ⟨hp.1.snoc trivial, fun e he => ?_⟩
    cases he
    rfl
  | giveUp => exact False.elim (throughout_snoc.1 hE).2.2

/-! ## The loop -/

/-- What holds at the head of each round. -/
structure Looking (r : Record) (s : Fd) (bs : Bytes) (h : History) : Prop where
  timely : Throughout (Timely r) h
  prepared : ∀ s', Prepared s' h ↔ s' = s
  bytes : readOn s h = bs
  beginning : bs <+: r.encode

theorem Before.prepare (hb : Before r h) (ms : Nat) :
    Looking r s [] (h ++ [⟨.setReadTimeout s ms, .ok ()⟩]) where
  timely := throughout_snoc.2 ⟨hb.timely, trivial⟩
  prepared s' := by
    constructor
    · rintro ⟨ms', hmem⟩
      rcases List.mem_append.1 hmem with hmem | hmem
      · exact absurd ⟨ms', hmem⟩ (hb.unprepared s')
      · cases List.mem_singleton.1 hmem
        rfl
    · rintro rfl
      exact ⟨ms, by simp⟩
  bytes := by
    rw [readOn_append, hb.unread.reading.bytes]
    rfl
  beginning := List.nil_prefix

/-- What is parsed: the whole record if the history is in time, and else only the beginning of one. -/
def Parsed (r : Record) (bs : Bytes) (h : History) : Prop :=
  bs <+: r.encode ∧ (Throughout (Timely r) h ↔ bs = r.encode)

theorem Looking.cancelled (hl : Looking r s bs h) : Parsed r bs (h ++ [⟨.isCancelled, true⟩]) := by
  refine ⟨hl.beginning, ?_⟩
  rw [throughout_snoc]
  constructor
  · rintro ⟨-, hlook⟩
    rw [← hl.bytes]
    exact hlook s ((hl.prepared s).2 rfl)
  · intro hall
    refine ⟨hl.timely, fun s' hs' => ?_⟩
    rw [(hl.prepared s').1 hs', hl.bytes, hall]

/-- The token was found not cancelled: there is room for more, or the history is not in time. -/
def GoesOn (r : Record) (s : Fd) (buf : RecvBuffer) (h : History) : Prop :=
  buf.size ≤ MAX_RECORD_SIZE ∧
    ((buf.bytes.length < MAX_RECORD_SIZE ∧ Looking r s buf.bytes h) ∨
      buf.bytes.length = MAX_RECORD_SIZE ∧ ¬ Throughout (Timely r) h)

theorem Looking.goesOn {buf : RecvBuffer} (hl : Looking r s buf.bytes h) (hsize : buf.size ≤ MAX_RECORD_SIZE) :
    GoesOn r s buf (h ++ [⟨.isCancelled, false⟩]) := by
  have hle := buf.le
  refine ⟨hsize, ?_⟩
  by_cases hlt : buf.bytes.length < MAX_RECORD_SIZE
  · refine .inl ⟨hlt, throughout_snoc.2 ⟨hl.timely, fun s' hs' => ?_⟩, fun s' => ?_, ?_, hl.beginning⟩
    · rwa [(hl.prepared s').1 hs', hl.bytes]
    · rw [← hl.prepared s']
      simp [Prepared]
    · rw [readOn_append, hl.bytes]
      exact List.append_nil _
  · refine .inr ⟨by omega, fun ht => ?_⟩
    have hlook := (throughout_snoc.1 ht).2 s ((hl.prepared s).2 rfl)
    rw [hl.bytes] at hlook
    exact hlt hlook

/-- A read by a correct server: more of the encoding, or the end after the whole of it. -/
theorem Looking.read {n : Nat} {bs' : {bs : Bytes // bs.length ≤ n}} (hl : Looking r s bs h) (hn : 0 < n)
    (hE : ServedBy r.encode h ⟨.read s n, .ok bs'⟩) :
    Looking r s (bs ++ bs'.1) (h ++ [⟨.read s n, .ok bs'⟩]) ∧ (bs'.1 = [] → bs = r.encode) := by
  have hbytes : readOn s (h ++ [⟨.read s n, .ok bs'⟩]) = bs ++ bs'.1 := by
    rw [readOn_append, hl.bytes]
    simp [readOn]
  refine ⟨⟨throughout_snoc.2 ⟨hl.timely, trivial⟩, fun s' => ?_, hbytes, hl.bytes ▸ hE.1⟩, fun hnil => ?_⟩
  · rw [← hl.prepared s']
    simp [Prepared]
  · rw [← hl.bytes]
    exact hE.2 hn hnil

/-- How `get` ends: with the record or for the shutdown if the history is in time, and else with another error. -/
def Reported (r : Record) : Outcome Error Record → History → Prop :=
  Outcome.post (fun r' h => r' = r ∧ Throughout (Timely r) h)
    (fun e h => e = .glycerineShutdown ∧ Throughout (Timely r) h ∨
      (e = .json ∨ e = tooLong) ∧ ¬ Throughout (Timely r) h) fun _ => False

/-- A part of `get` succeeds with `R`, or `get` ends. -/
abbrev Reports (r : Record) {α : Type} (R : α → History → Prop) : Outcome Error α → History → Prop :=
  Outcome.post R (fun e => Reported r (.err e)) (Reported r .panic)

abbrev Calm (r : Record) {α ε : Type} (P : History → Prop) (p : Sys ε α)
    (Q : Outcome ε α → History → Prop) : Prop :=
  Triple (keeping (Correct r)) (fun _ => True) P p Q

theorem triple_receiveRead {buf : RecvBuffer} (hfree : 0 < buf.free) (hsize : buf.size ≤ MAX_RECORD_SIZE) :
    Calm r (Looking r s buf.bytes)
      (do
        let bs ← (Socket.read s buf.free).mapErr .ioVsock
        if bs.1.length = 0 then pure (.stop buf.bytes) else pure (.next (buf.push bs)) :
        Sys Error (Ctl RecvBuffer Bytes))
      (Reports r (Ctl.post (fun buf h => buf.size ≤ MAX_RECORD_SIZE ∧ Looking r s buf.bytes h) (Parsed r))) := by
  refine Task.triple_seq (fun bs h => Looking r s (buf.bytes ++ bs.1) h ∧ (bs.1 = [] → buf.bytes = r.encode))
    (Task.triple_mapErr (Task.triple_call (fun _ _ _ => trivial) fun h a hl hE => ?_)) fun bs => ?_
  · obtain ⟨-, hserved, hsmooth⟩ := throughout_snoc.1 hE
    cases a with
    | ok bs => exact hl.read hfree hserved
    | error e => exact False.elim hsmooth
  · by_cases h0 : bs.1.length = 0
    · rw [if_pos h0]
      refine Task.triple_ret fun h hl _ => ?_
      have hall := hl.2 (List.length_eq_zero_iff.1 h0)
      exact ⟨hall ▸ List.prefix_refl _, iff_of_true hl.1.timely hall⟩
    · rw [if_neg h0]
      exact Task.triple_ret fun h hl _ => ⟨hsize, hl.1⟩

theorem triple_receiveLoop :
    Calm r (Looking r s []) (Task.loop (receiveStep s) .new) (Reports r (Parsed r)) := by
  refine (Task.triple_loop
    (J := fun (buf : RecvBuffer) h => buf.size ≤ MAX_RECORD_SIZE ∧ Looking r s buf.bytes h)
    (fun buf => triple_of_fact fun hsize => ?_) .new).pre fun h hl => ⟨size_new, hl⟩
  refine Task.triple_seq (fun stop h => if stop then Parsed r buf.bytes h else GoesOn r s buf h)
    (Task.triple_call (fun _ _ _ => trivial) fun h stop hl _ => ?_) fun stop => ?_
  · cases stop with
    | true => exact hl.cancelled
    | false => exact hl.goesOn hsize
  cases stop with
  | true => exact Task.triple_ret fun h hp _ => hp
  | false =>
    refine Task.triple_seq (fun buf' h => (0 < buf'.free ∧ buf'.size ≤ MAX_RECORD_SIZE) ∧
      Looking r s buf'.bytes h) (Task.triple_ofExcept fun h hg _ => ?_)
      fun buf' => triple_of_fact fun hbuf => ?_
    · rcases hg.2 with ⟨hlt, hl⟩ | ⟨hfull, hlate⟩
      · obtain ⟨buf', hroom, hbytes, hfree⟩ := RecvBuffer.room_of_lt hlt
        rw [hroom]
        exact ⟨⟨hfree, RecvBuffer.size_room hroom hsize⟩, hbytes ▸ hl⟩
      · rw [RecvBuffer.room_full hfull hsize]
        exact .inr ⟨.inr rfl, hlate⟩
    · exact triple_receiveRead hbuf.1 hbuf.2

/-! ## The whole of `get` -/

/-- An operation before the first read. -/
theorem triple_early {α ε : Type} {op : SysOp} {k : op.Res → Outcome ε α} {Q : Outcome ε α → History → Prop}
    (hop : Early op) (hQ : ∀ a h, Before r (h ++ [⟨op, a⟩]) → Undisturbed ⟨op, a⟩ → Q (k a) (h ++ [⟨op, a⟩])) :
    Calm r (Before r) (Task.call op k) Q :=
  Task.triple_call (fun _ _ _ => trivial) fun h a hb hE => hQ a h (hb.snoc hop) (throughout_snoc.1 hE).2.2

theorem triple_connect {addr : SockAddr} {b : ExponentialBackoff} :
    Calm r (Before r) (Vsock.newClientSocketWithBackoff addr b) (Reports r fun _ => Before r) := by
  refine (triple_withBackoff (J := Trying r) (fun _ _ _ _ _ => trivial) trying_step (fun start => ?_)
    fun e h hp => .inl ⟨hp.2 e rfl, hp.1.timely⟩).pre fun h hb => hb.trying nofun
  refine Triple.pre ?_ fun h hp => hp.1
  refine Task.triple_seq (fun _ => Before r)
    (Task.triple_mapErr (triple_early trivial fun a h hb _ => ?_)) fun s => ?_
  · cases a with
    | ok s => exact hb
    | error e => exact hb.trying nofun
  refine Task.triple_seq (fun _ => Before r)
    (Task.triple_mapErr (triple_early trivial fun a h hb _ => ?_)) fun _ => ?_
  · cases a with
    | ok _ => exact hb
    | error e => exact hb.trying nofun
  refine Task.triple_seq (fun _ => Before r)
    (Task.triple_mapErr (triple_early trivial fun a h hb _ => ?_)) fun _ =>
    Task.triple_ret fun h hb _ => hb
  cases a with
  | ok addr => exact hb
  | error e => exact hb.trying nofun

/-- An operation on the new connection; it does not fail. -/
theorem triple_settle {α : Type} {op : SysOp} {k : op.Res → Outcome IoError α} (hop : Early op)
    (hk : ∀ a, (∃ x, k a = .ok x) ∨ ¬ Undisturbed ⟨op, a⟩) :
    Calm r (Before r) (Task.mapErr Error.ioVsock (Task.call op k)) (Reports r fun _ => Before r) := by
  refine Task.triple_mapErr (triple_early hop fun a h hb hcalm => ?_)
  rcases hk a with ⟨x, hx⟩ | hfails
  · rw [hx]
    exact hb
  · exact absurd hcalm hfails

theorem triple_settledAddr :
    Calm r (Before r) (Task.mapErr Error.ioVsock (Socket.localAddr s)) (Reports r fun _ => Before r) := by
  refine triple_settle trivial fun a => ?_
  cases a with
  | ok a => exact .inl ⟨a, rfl⟩
  | error e => exact .inr not_false

theorem triple_reported (hdecode : fromSlice r.encode = some r)
    (hdocument : ∀ bs r', fromSlice bs = some r' → Json.Document bs) {addr : SockAddr} {b : ExponentialBackoff} :
    Calm r (Before r) (get fromSlice addr b) (Reported r) := by
  refine Triple.post (Q := Reports r fun r' h => r' = r ∧ Throughout (Timely r) h) ?_ fun o h hq => by
    cases o <;> exact hq
  refine Task.triple_seq (fun _ => Before r) triple_connect fun s => ?_
  refine Task.triple_seq (fun _ => Before r) (Task.triple_seq (fun _ => Before r) triple_settledAddr fun _ =>
    triple_settle trivial fun a => ?_) fun _ => ?_
  · cases a with
    | ok x => exact .inl ⟨x, rfl⟩
    | error e => exact .inr not_false
  refine Task.triple_seq (fun _ => Before r) triple_settledAddr fun _ => ?_
  refine Task.triple_seq (fun _ => Looking r s [])
    (Task.triple_mapErr (Task.triple_call (fun _ _ _ => trivial) fun h a hb hE => ?_)) fun _ => ?_
  · cases a with
    | ok x => exact hb.prepare 1000
    | error e => exact absurd (throughout_snoc.1 hE).2.2 not_false
  refine Task.triple_seq (Parsed r) triple_receiveLoop fun bs => ?_
  cases hr : fromSlice bs with
  | some r' =>
    refine Task.triple_ret fun h hp _ => ?_
    by_cases hall : bs = r.encode
    · rw [hall, hdecode] at hr
      exact ⟨(Option.some.inj hr).symm, hp.2.2 hall⟩
    · rw [fromSlice_beginning hdocument hp.1 hall] at hr
      cases hr
  | none =>
    refine Task.triple_fail fun h hp _ => .inr ⟨.inl rfl, fun ht => ?_⟩
    rw [hp.2.1 ht, hdecode] at hr
    cases hr

/-- `get` reports the shutdown as such, or it returns the record. -/
def ReportsShutdown (r : Record) (result : Outcome Error Record) : Prop :=
  result = .ok r ∨ result = .err .glycerineShutdown

/-- The result is the record or `GlycerineShutdown` if and only if the history is in time, and only then an error leads
to the exit code of a requested shutdown. -/
def EndsInTime (r : Record) (h : History) (result : Outcome Error Record) : Prop :=
  (ReportsShutdown r result ↔ Throughout (Timely r) h) ∧
    ∀ e, result = .err e → (failureExitCode e = 0 ↔ Throughout (Timely r) h)

theorem Reported.endsInTime {result : Outcome Error Record} (hend : Reported r result h) : EndsInTime r h result := by
  match result with
  | .ok r' =>
    obtain ⟨rfl, ht⟩ := hend
    exact ⟨iff_of_true (.inl rfl) ht, nofun⟩
  | .err e =>
    have hiff : e = .glycerineShutdown ↔ Throughout (Timely r) h := by
      rcases hend with ⟨he, ht⟩ | ⟨rfl | rfl, ht⟩
      · exact iff_of_true he ht
      · exact iff_of_false nofun ht
      · exact iff_of_false nofun ht
    refine ⟨?_, fun e' he => ?_⟩
    · rw [← hiff]
      simp [ReportsShutdown]
    · cases he
      rw [failureExitCode_eq_zero, hiff]
  | .panic => exact hend.elim

/-- A correct server goes on to serve, and the shutdown has been raised. -/
def Raised (r : Record) (u v : History) : Prop := Throughout (Correct r) (u ++ v) ∧ ⟨.isCancelled, false⟩ ∉ v

/-- **A shutdown between two reads is reported as a JSON error.** Against a correct server, `get` returns the
record or `GlycerineShutdown` if and only if, at each look at the token before a read, nothing of the record is
missing when it is cancelled, and there is room for more when it is not; and only then an error leads to the exit
code of a requested shutdown. Wherever the shutdown is raised, `get` does return. -/
theorem shutdown_reported_iff {fromSlice : Bytes → Option Record} {r : Record}
    (hdecode : fromSlice r.encode = some r) (hdocument : ∀ bs r', fromSlice bs = some r' → Json.Document bs)
    (addr : SockAddr) (b : ExponentialBackoff) :
    (∀ h result, Exec (get fromSlice addr b) h (.done result) → Throughout (Correct r) h → EndsInTime r h result) ∧
    ∀ u o, Exec (get fromSlice addr b) u o → Throughout (Correct r) u →
      Comes (get fromSlice addr b) u (Raised r u) (fun _ => False) (fun result v => EndsInTime r (u ++ v) result)
        9 [] := by
  have hends : ∀ h result, Exec (get fromSlice addr b) h (.done result) → Throughout (Correct r) h →
      EndsInTime r h result := fun h result hx hcorrect =>
    ((triple_reported hdecode hdocument).returned before_nil hx hcorrect).endsInTime
  refine ⟨hends, fun u o hx hcorrect => ?_⟩
  refine get_reactive.comes (fun hx hr _ => get_length_le hx hr.2) (fun hx hr _ => hends _ _ hx hr.1) hx
    ⟨by simpa using hcorrect, List.not_mem_nil⟩

end

/-! A shutdown between two reads, and one after the last -/

/-- Whatever is raised when, the shutdown is reported as such, or the record is returned. -/
def AlwaysReported : Prop :=
  ∀ (fromSlice : Bytes → Option Record) (r : Record), fromSlice r.encode = some r →
    (∀ bs r', fromSlice bs = some r' → Json.Document bs) → ∀ addr b h result,
      Exec (get fromSlice addr b) h (.done result) → Throughout (Correct r) h → ReportsShutdown r result

instance (stream : Bytes) (u : History) (e : SysEvent) : Decidable (ServedBy stream u e) := by
  unfold ServedBy
  split <;> infer_instance

instance (e : SysEvent) : Decidable (Undisturbed e) := by
  unfold Undisturbed
  split <;> infer_instance

instance (r : Record) (u : History) (e : SysEvent) : Decidable (Correct r u e) :=
  inferInstanceAs (Decidable (_ ∧ _))

def connected : History :=
  [⟨.now, (0 : Nat)⟩, ⟨.isCancelled, false⟩, ⟨.socketNew .vsock .stream none, .ok 7⟩,
    ⟨.connect 7 (.vsock 3 9000), .ok ()⟩, ⟨.localAddr 7, .ok (.vsock 16 1)⟩, ⟨.localAddr 7, .ok (.vsock 16 1)⟩,
    ⟨.shutdown 7 .write, .ok ()⟩, ⟨.localAddr 7, .ok (.vsock 16 1)⟩, ⟨.setReadTimeout 7 1000, .ok ()⟩,
    ⟨.isCancelled, false⟩]

theorem length_record_le : record.encode.length ≤ 4096 := by decide +kernel

theorem length_part_le : (record.encode.take 40).length ≤ 4096 :=
  Nat.le_trans (List.length_take_le 40 _) (by decide)

def shutdownBetween : History :=
  connected ++ [⟨.read 7 4096, .ok ⟨record.encode.take 40, length_part_le⟩⟩, ⟨.isCancelled, true⟩]

def shutdownAfter : History :=
  connected ++ [⟨.read 7 4096, .ok ⟨record.encode, length_record_le⟩⟩, ⟨.isCancelled, true⟩]

theorem shutdownBetween_exec :
    Exec (get decoder (.vsock 3 9000) ⟨some 60000⟩) shutdownBetween (.done (.err .json)) :=
  exec_of_script 200 (by decide +kernel)

theorem shutdownAfter_exec :
    Exec (get decoder (.vsock 3 9000) ⟨some 60000⟩) shutdownAfter (.done (.ok record)) :=
  exec_of_script 200 (by decide +kernel)

theorem shutdownAfter_endsInTime :
    EndsInTime record shutdownAfter (.ok record) ∧
      Comes (get decoder (.vsock 3 9000) ⟨some 60000⟩) connected (Raised record connected) (fun _ => False)
        (fun result v => EndsInTime record (connected ++ v) result) 9 [] :=
  have hread : Exec (get decoder (.vsock 3 9000) ⟨some 60000⟩) connected (.asks (.read 7 4096)) :=
    exec_of_script 200 (by decide +kernel)
  have hreport := shutdown_reported_iff (if_pos rfl) (fun _ _ => decoder_document) (.vsock 3 9000) ⟨some 60000⟩
  ⟨hreport.1 _ _ shutdownAfter_exec (by decide +kernel), hreport.2 _ _ hread (by decide +kernel)⟩

theorem shutdown_between_reads : ¬ AlwaysReported := by
  intro h
  rcases h decoder record (if_pos rfl) (fun _ _ => decoder_document) (.vsock 3 9000) ⟨some 60000⟩
    shutdownBetween _ shutdownBetween_exec (by decide +kernel) with h | h
  · cases h
  · cases h

end Bootstrap
end Glycerine
