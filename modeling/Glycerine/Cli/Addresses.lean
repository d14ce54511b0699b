import Glycerine.Setup.PortRangeParser
import Glycerine.Text.Decimal
/-
# Addresses on the command line

| here | there |
| --- | --- |
| `parseU32`, `parseIpv4Addr`    | `str::parse::<u32>`, `str::parse::<Ipv4Addr>` |
| `Decimal.splitOnce`            | `str::split_once` |
| `SocketAddressParser.parseRef` | `SocketAddressParser::parse_ref` (`cli/parsers.rs:139`) |
| `Ipv4AddressParser.parseRef`   | `Ipv4AddressParser::parse_ref` (`cli/parsers.rs:19`) |
| `displaySockAddr`              | `display_sock_addr` (`system/mod.rs:14`) |

The CID 0 stands for any: it is replaced when an address is parsed, and shown again when it is displayed. So an
address that came off the command line is displayed as a text that is parsed as the same address
(`addresses_round_trip`).
-/

namespace Glycerine
open Decimal

/-! ## Numbers and octets -/

/-- `str::parse::<u32>`. -/
def parseU32 : List Char → Except ParseIntError Nat := parseUnsigned (2 ^ 32)

/-- One of the four numbers of an address. A zero in front would make it an octal one, and is refused. -/
def parseOctet (cs : List Char) : Option UInt8 :=
  if cs = [] ∨ 3 < cs.length ∨ LeadingZero cs then none
  else (parseBelow (2 ^ 8) 0 cs).toOption.map UInt8.ofNat

def parseIpv4Addr (cs : List Char) : Option Ipv4Addr :=
  match cs.splitOn '.' with
  | [a, b, c, d] => do
    let a ← parseOctet a
    let b ← parseOctet b
    let c ← parseOctet c
    let d ← parseOctet d
    some ⟨a, b, c, d⟩
  | _ => none

theorem parseU32_eq_ok {cs : List Char} {n : Nat} : parseU32 cs = .ok n ↔ Numeral n cs ∧ n < 2 ^ 32 :=
  parseUnsigned_eq_ok (by decide)

/-- An octet is taken exactly as it is printed. -/
theorem parseOctet_eq_some {cs : List Char} {n : UInt8} : parseOctet cs = some n ↔ Canonical n.toNat cs := by
  unfold parseOctet
  constructor
  · intro h
    split at h
    · cases h
    · rename_i hnot
      simp only [not_or] at hnot
      obtain ⟨hne, -, hz⟩ := hnot
      cases hm : parseBelow (2 ^ 8) 0 cs with
      | error e =>
        rw [hm] at h
        cases h
      | ok m =>
        rw [hm] at h
        obtain ⟨hd, hlt⟩ := (parseBelow_zero_eq_ok hne (by decide)).1 hm
        cases h
        rw [UInt8.toNat_ofNat_of_lt' hlt]
        exact canonical_iff.2 ⟨hd, hz⟩
  · intro h
    obtain ⟨hd, hz⟩ := canonical_iff.1 h
    have hlt : n.toNat < 2 ^ 8 := n.toNat_lt
    have hlen : cs.length ≤ 3 := by
      rw [h, Nat.length_toDigits_le_iff (by decide) (by decide)]
      omega
    rw [if_neg (by simp [hd.ne_nil, hz, hlen]), (parseBelow_zero_eq_ok hd.ne_nil (by decide)).2 ⟨hd, hlt⟩]
    simp [Except.toOption]

/-! ## Displaying -/

def VMADDR_CID_ANY : Nat := 0xFFFFFFFF

def displayOctets (addr : Bytes) : String := ".".intercalate (addr.map fun b => toString b.toNat)

/-- `display_sock_addr` (mod.rs:14). -/
def displaySockAddr : SockAddr → String
  | .inet addr port => displayOctets addr ++ ":" ++ toString port
  | .vsock cid port =>
    if cid = 0xFFFFFFFF then "0:" ++ toString port else toString cid ++ ":" ++ toString port

theorem toList_displayOctets (a : Ipv4Addr) : (displayOctets a.octets).toList =
    Nat.toDigits 10 a.a.toNat ++ '.' :: (Nat.toDigits 10 a.b.toNat ++ '.' :: (Nat.toDigits 10 a.c.toNat ++
      '.' :: Nat.toDigits 10 a.d.toNat)) := by
  simp [displayOctets, Ipv4Addr.octets, Nat.toString_eq_repr]

/-- An address is taken exactly as it is displayed. -/
theorem parseIpv4Addr_eq_some {cs : List Char} {a : Ipv4Addr} :
    parseIpv4Addr cs = some a ↔ cs = (displayOctets a.octets).toList := by
  rw [toList_displayOctets]
  unfold parseIpv4Addr
  constructor
  · intro h
    split at h
    · rename_i w x y z hparts
      have hjoin : ['.'].intercalate (cs.splitOn '.') = cs := List.intercalate_splitOn '.'
      simp only [Option.bind_eq_bind, Option.bind_eq_some_iff, Option.some.injEq] at h
      obtain ⟨_, hw, _, hx, _, hy, _, hz, rfl⟩ := h
      rw [hparts, parseOctet_eq_some.1 hw, parseOctet_eq_some.1 hx, parseOctet_eq_some.1 hy,
        parseOctet_eq_some.1 hz] at hjoin
      simpa [List.intercalate] using hjoin.symm
    · cases h
  · rintro rfl
    have hdot (n : Nat) : '.' ∉ Nat.toDigits 10 n := (Decimal.digits_toDigits n).not_mem rfl
    have hok (n : UInt8) : parseOctet (Nat.toDigits 10 n.toNat) = some n := parseOctet_eq_some.2 rfl
    rw [List.splitOn_append_cons_self_of_not_mem (hdot _), List.splitOn_append_cons_self_of_not_mem (hdot _),
      List.splitOn_append_cons_self_of_not_mem (hdot _), List.splitOn_eq_singleton (hdot _)]
    simp [hok]

/-! ## The parsers -/

namespace SocketAddressParser

/-- `cid.parse::<u32>()` and `port.parse::<u32>()`, with the error of the parser. -/
def parseNumber (arg : Option String) (value invalid : String) (part : List Char) : Except Clap.Error Nat :=
  match parseU32 part with
  | .ok n => .ok n
  | .error err => .error (clapError arg value (invalid ++ err.text))

/-- `SocketAddressParser::parse_ref` (parsers.rs:139). -/
def parseRef (arg : Option String) (value : OsStr) : Except Clap.Error SockAddr :=
  match value.toStr with
  | none => .error (clapError arg "" "invalid utf-8")
  | some value =>
    match splitOnce ':' value.toList with
    | none => .error (clapError arg value "missing colon")
    | some (cid, port) => do
      let cid ← parseNumber arg value "invalid cid: " cid
      let cid := if cid = 0 then 0xFFFFFFFF else cid
      let port ← parseNumber arg value "invalid port: " port
      .ok (.vsock cid port)

/-- `CID:PORT`, with the numbers it is about. -/
inductive Written (cid port : Nat) : List Char → Prop where
  | mk {cs ds} : Decimal.Numeral cid cs → cid < 2 ^ 32 → Decimal.Numeral port ds → port < 2 ^ 32 →
    Written cid port (cs ++ ':' :: ds)

/-- The CID that a number stands for. -/
def cidOf (cid : Nat) : Nat := if cid = 0 then VMADDR_CID_ANY else cid

theorem parseNumber_bind_eq_ok {arg : Option String} {value invalid : String} {part : List Char}
    {f : Nat → Except Clap.Error SockAddr} {addr : SockAddr} :
    (parseNumber arg value invalid part >>= f) = .ok addr ↔
      ∃ n, (Decimal.Numeral n part ∧ n < 2 ^ 32) ∧ f n = .ok addr := by
  unfold parseNumber
  constructor
  · intro h
    split at h
    · rename_i n hn
      exact ⟨n, parseU32_eq_ok.1 hn, h⟩
    · cases h
  · rintro ⟨n, hn, h⟩
    rw [parseU32_eq_ok.2 hn]
    exact h

theorem parseRef_eq_ok {arg : Option String} {value : OsStr} {addr : SockAddr} :
    parseRef arg value = .ok addr ↔
      ∃ s cid port, value.toStr = some s ∧ Written cid port s.toList ∧ addr = .vsock (cidOf cid) port := by
  unfold parseRef
  cases hvalue : value.toStr with
  | none => simp
  | some s =>
    dsimp only
    constructor
    · intro h
      split at h
      · cases h
      · rename_i cs ds hsplit
        obtain ⟨cid, ⟨hcid, hlt⟩, h⟩ := parseNumber_bind_eq_ok.1 h
        obtain ⟨port, ⟨hport, hlt'⟩, h⟩ := parseNumber_bind_eq_ok.1 h
        cases h
        refine ⟨s, cid, port, rfl, ?_, rfl⟩
        rw [(Decimal.splitOnce_eq_some.1 hsplit).1]
        exact .mk hcid hlt hport hlt'
    · rintro ⟨s', cid, port, hs, hw, rfl⟩
      cases hs
      generalize s.toList = cs at hw
      obtain ⟨hcid, hlt, hport, hlt'⟩ := hw
      rw [Decimal.splitOnce_eq_some.2 ⟨rfl, hcid.not_mem rfl (by decide)⟩]
      exact parseNumber_bind_eq_ok.2 ⟨cid, ⟨hcid, hlt⟩, parseNumber_bind_eq_ok.2 ⟨port, ⟨hport, hlt'⟩, rfl⟩⟩

end SocketAddressParser

namespace Ipv4AddressParser

/-- `Ipv4AddressParser::parse_ref` (parsers.rs:19). -/
def parseRef (arg : Option String) (value : OsStr) : Except Clap.Error SockAddr :=
  match value.toStr with
  | none => .error (clapError arg "" "invalid utf-8")
  | some value =>
    match splitOnce ':' value.toList with
    | none => .error (clapError arg value "missing colon")
    | some (addr, port) =>
      match parseIpv4Addr addr with
      | none => .error (clapError arg value "invalid ipv4 address: invalid IPv4 address syntax")
      | some addr =>
        match PortRangeParser.parsePort arg value port with
        | .error e => .error e
        | .ok port => .ok (.inet addr.octets port.toNat)

/-- `A.B.C.D:PORT`. -/
inductive Written (a : Ipv4Addr) (port : UInt16) : List Char → Prop where
  | mk {ds} : Numeral port.toNat ds → Written a port ((displayOctets a.octets).toList ++ ':' :: ds)

theorem colon_notMem (a : Ipv4Addr) : ':' ∉ (displayOctets a.octets).toList := by
  have hcolon (n : Nat) : ':' ∉ Nat.toDigits 10 n := (Decimal.digits_toDigits n).not_mem rfl
  rw [toList_displayOctets]
  simp [hcolon]

theorem parseRef_eq_ok {arg : Option String} {value : OsStr} {addr : SockAddr} :
    parseRef arg value = .ok addr ↔
      ∃ s a port, value.toStr = some s ∧ Written a port s.toList ∧ addr = .inet a.octets port.toNat := by
  unfold parseRef
  cases hvalue : value.toStr with
  | none => simp
  | some s =>
    dsimp only
    constructor
    · intro h
      split at h
      · cases h
      rename_i cs ds hsplit
      split at h
      · cases h
      rename_i a ha
      split at h
      · cases h
      rename_i port hport
      cases h
      refine ⟨s, a, port, rfl, ?_, rfl⟩
      rw [(Decimal.splitOnce_eq_some.1 hsplit).1, parseIpv4Addr_eq_some.1 ha]
      exact .mk (PortRangeParser.parsePort_eq_ok.1 hport)
    · rintro ⟨s', a, port, hs, hw, rfl⟩
      cases hs
      generalize s.toList = cs at hw
      obtain ⟨hport⟩ := hw
      rw [Decimal.splitOnce_eq_some.2 ⟨rfl, colon_notMem a⟩]
      dsimp only
      rw [parseIpv4Addr_eq_some.2 rfl]
      dsimp only
      rw [PortRangeParser.parsePort_eq_ok.2 hport]

end Ipv4AddressParser

/-! ## Round trips -/

theorem OsStr.toStr_toUTF8 (s : String) : OsStr.toStr s.toUTF8 = some s := toStr_eq_some.2 rfl

/-- An address that came off the command line. -/
def SocketAddressParser.Typed (addr : SockAddr) : Prop := ∃ arg value, parseRef arg value = .ok addr
def Ipv4AddressParser.Typed (addr : SockAddr) : Prop := ∃ arg value, parseRef arg value = .ok addr

theorem SocketAddressParser.Typed.eq_vsock {addr : SockAddr} (h : Typed addr) :
    ∃ cid port, addr = .vsock cid port ∧ 0 < cid ∧ cid < 2 ^ 32 ∧ port < 2 ^ 32 := by
  obtain ⟨arg, value, h⟩ := h
  obtain ⟨s, cid, port, -, hw, rfl⟩ := parseRef_eq_ok.1 h
  generalize s.toList = cs at hw
  obtain ⟨-, hcid, -, hport⟩ := hw
  refine ⟨cidOf cid, port, rfl, ?_, ?_, hport⟩
  · unfold cidOf VMADDR_CID_ANY
    split <;> omega
  · unfold cidOf VMADDR_CID_ANY
    split <;> omega

theorem Ipv4AddressParser.Typed.eq_inet {addr : SockAddr} (h : Typed addr) :
    ∃ (a : Ipv4Addr) (port : UInt16), addr = .inet a.octets port.toNat := by
  obtain ⟨arg, value, h⟩ := h
  obtain ⟨s, a, port, -, -, rfl⟩ := parseRef_eq_ok.1 h
  exact ⟨a, port, rfl⟩

/-- The text of a vsock address, with 0 for any CID. -/
theorem written_displaySockAddr {cid port : Nat} (hcid : cid < 2 ^ 32) (hport : port < 2 ^ 32) :
    SocketAddressParser.Written (if cid = VMADDR_CID_ANY then 0 else cid) port
      (displaySockAddr (.vsock cid port)).toList := by
  have hlist : (displaySockAddr (.vsock cid port)).toList =
      Nat.toDigits 10 (if cid = VMADDR_CID_ANY then 0 else cid) ++ ':' :: Nat.toDigits 10 port := by
    unfold displaySockAddr VMADDR_CID_ANY
    by_cases hany : cid = 0xFFFFFFFF
    · simp [hany, Nat.toString_eq_repr]
    · simp [hany, Nat.toString_eq_repr]
  rw [hlist]
  refine .mk (.plain (Decimal.digits_toDigits _)) ?_ (.plain (Decimal.digits_toDigits _)) hport
  split <;> omega

theorem SocketAddressParser.Typed.round_trip {addr : SockAddr} (h : Typed addr) (arg : Option String) :
    parseRef arg (displaySockAddr addr).toUTF8 = .ok addr := by
  obtain ⟨cid, port, rfl, hpos, hcid, hport⟩ := h.eq_vsock
  refine parseRef_eq_ok.2 ⟨_, _, port, OsStr.toStr_toUTF8 _, written_displaySockAddr hcid hport, ?_⟩
  unfold cidOf
  by_cases hany : cid = VMADDR_CID_ANY
  · simp [hany]
  · rw [if_neg hany, if_neg (by omega)]

theorem written_displayInet (a : Ipv4Addr) (port : UInt16) :
    Ipv4AddressParser.Written a port (displaySockAddr (.inet a.octets port.toNat)).toList := by
  have hlist : (displaySockAddr (.inet a.octets port.toNat)).toList =
      (displayOctets a.octets).toList ++ ':' :: Nat.toDigits 10 port.toNat := by
    simp [displaySockAddr, Nat.toString_eq_repr]
  rw [hlist]
  exact .mk (.plain (digits_toDigits port.toNat))

theorem Ipv4AddressParser.Typed.round_trip {addr : SockAddr} (h : Typed addr) (arg : Option String) :
    parseRef arg (displaySockAddr addr).toUTF8 = .ok addr := by
  obtain ⟨a, port, rfl⟩ := h.eq_inet
  exact parseRef_eq_ok.2 ⟨_, a, port, OsStr.toStr_toUTF8 _, written_displayInet a port, rfl⟩

/-- A vsock address has no dots. -/
theorem displayed_apart {addr addr' : SockAddr} (h : SocketAddressParser.Typed addr)
    (h' : Ipv4AddressParser.Typed addr') : displaySockAddr addr ≠ displaySockAddr addr' := by
  intro heq
  obtain ⟨cid, port, rfl, -, hcid, hport⟩ := h.eq_vsock
  obtain ⟨a, port', rfl⟩ := h'.eq_inet
  have hdot : '.' ∈ (displaySockAddr (.inet a.octets port'.toNat)).toList := by
    simp [displaySockAddr, toList_displayOctets]
  have hw := written_displaySockAddr hcid hport
  rw [← heq] at hdot
  generalize (displaySockAddr (.vsock cid port)).toList = cs at hw hdot
  obtain ⟨hc, -, hp, -⟩ := hw
  rcases List.mem_append.1 hdot with hmem | hmem
  · exact hc.not_mem rfl (by decide) hmem
  · rcases List.mem_cons.1 hmem with heq | hmem
    · cases heq
    · exact hp.not_mem rfl (by decide) hmem

/-- **Addresses are parsed and displayed without loss.** Both parsers accept exactly their grammar; what an address that
came off the command line is displayed as is parsed as that address again, and no other address is displayed so. -/
theorem addresses_round_trip :
    (∀ arg (s : String) addr, SocketAddressParser.parseRef arg s.toUTF8 = .ok addr ↔
      ∃ cid port, SocketAddressParser.Written cid port s.toList ∧
        addr = .vsock (SocketAddressParser.cidOf cid) port) ∧
    (∀ arg (s : String) addr, Ipv4AddressParser.parseRef arg s.toUTF8 = .ok addr ↔
      ∃ a port, Ipv4AddressParser.Written a port s.toList ∧ addr = .inet a.octets port.toNat) ∧
    (∀ arg addr, SocketAddressParser.Typed addr →
      SocketAddressParser.parseRef arg (displaySockAddr addr).toUTF8 = .ok addr) ∧
    (∀ arg addr, Ipv4AddressParser.Typed addr →
      Ipv4AddressParser.parseRef arg (displaySockAddr addr).toUTF8 = .ok addr) ∧
    ∀ addr addr', SocketAddressParser.Typed addr ∨ Ipv4AddressParser.Typed addr →
      SocketAddressParser.Typed addr' ∨ Ipv4AddressParser.Typed addr' →
      displaySockAddr addr = displaySockAddr addr' → addr = addr' := by
  refine ⟨fun arg s addr => ?_, fun arg s addr => ?_, fun arg addr h => h.round_trip arg,
    fun arg addr h => h.round_trip arg, fun addr addr' h h' heq => ?_⟩
  · simp only [SocketAddressParser.parseRef_eq_ok, OsStr.toStr_toUTF8, Option.some.injEq, exists_and_left,
      exists_eq_left']
  · simp only [Ipv4AddressParser.parseRef_eq_ok, OsStr.toStr_toUTF8, Option.some.injEq, exists_and_left,
      exists_eq_left']
  · rcases h with h | h <;> rcases h' with h' | h'
    · have hback := h.round_trip none
      rw [heq, h'.round_trip none] at hback
      exact (Except.ok.inj hback).symm
    · exact absurd heq (displayed_apart h h')
    · exact absurd heq.symm (displayed_apart h' h)
    · have hback := h.round_trip none
      rw [heq, h'.round_trip none] at hback
      exact (Except.ok.inj hback).symm

/-- The CID 0, which is any. -/
theorem anyCid_round_trip : SocketAddressParser.parseRef none (displaySockAddr (.vsock VMADDR_CID_ANY 8000)).toUTF8
    = .ok (.vsock VMADDR_CID_ANY 8000) :=
  have hw : SocketAddressParser.Written 0 8000 (displaySockAddr (.vsock VMADDR_CID_ANY 8000)).toList :=
    @written_displaySockAddr VMADDR_CID_ANY 8000 (by unfold VMADDR_CID_ANY; omega) (by omega)
  addresses_round_trip.2.2.1 none _ ⟨none, _, (addresses_round_trip.1 none _ _).2 ⟨0, 8000, hw, rfl⟩⟩

/-! The default of `--egress-ipv4-sink-address` (cli/host.rs:159) passes its own check. -/
example : Ipv4AddressParser.parseRef none "1.1.1.1:1111".toUTF8 = .ok (.inet [1, 1, 1, 1] 1111) := by
  have htext : "1.1.1.1:1111".toList = (displaySockAddr (.inet [1, 1, 1, 1] (1111 : UInt16).toNat)).toList := by
    decide +kernel
  refine Ipv4AddressParser.parseRef_eq_ok.2 ⟨_, ⟨1, 1, 1, 1⟩, 1111, OsStr.toStr_toUTF8 _, ?_, rfl⟩
  rw [htext]
  exact written_displayInet ⟨1, 1, 1, 1⟩ 1111

end Glycerine
