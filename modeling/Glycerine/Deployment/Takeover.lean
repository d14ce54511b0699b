import Glycerine.Cli.Interfaces
import Glycerine.Deployment.Agreement
import Glycerine.Setup.Restart
/-
# The enclave takes over the interface of the host

The host reads the address and the MTU of its interface, the bootstrap hands them over as text and as a number, and the
enclave puts them on an interface of its own. What was true of the host's interface is true of the enclave's as soon as
a service of the enclave does anything (`enclave_takes_over`). The kernel of the enclave may list the routes of any
interface.
-/

namespace Glycerine
open Interact Nftables Machine

namespace Deployment
variable {α β : Type}

/-- What the host is told of its interface is true: it is in the list of interfaces, and its MTU is that of the system
`σ`. What is displayed as the address of an interface is parsed as that address. -/
structure ReadsInterface (D : Deployment) (display : IpNetwork → String) (interfaces : List NetworkInterface)
    (K : Kernel) (σ : System α) : Prop where
  address : D.kernel.getInterfaceAddress D.host.interface =
    getInterfaceAddress display interfaces D.host.interface
  mtu : ∀ mtu, D.kernel.getMtu D.host.interface = .ok mtu →
    ∃ h, Exec (getMtu D.host.interface) h (.done (.ok mtu)) ∧ (K.unfiltered σ).ok h
  parsed : ∀ iface ∈ interfaces, ∀ network, .v4 network ∈ iface.ips →
    D.parseNetwork (display (.v4 network)) = some network

/-- The interface `i` of the enclave, in the system `σ` after `h`, stands for one with the address `network` and the
MTU `mtu`. -/
structure StandsFor (D : Deployment) (i : Nat) (network : Ipv4Network) (mtu : Int32) (σ : System β)
    (h : SetupHistory) : Prop where
  up : σ.after h .flags D.enclave.ifrName = σ .flags D.enclave.ifrName ||| IFF_UP
  address : (i, network) ∈ σ.after h .addresses
  route : defaultRoute i network ∈ σ.after h .routes
  only : ∀ route ∈ σ.after h .routes, route.isMainDefault = true → route.outputInterface = some i →
    route = defaultRoute i network
  mtu : σ.after h .mtu D.enclave.ifrName = mtu
  ports : σ.after h .portRange = D.host.enclaveEphemeralPorts.pair

/-- A setup with the record of the host. -/
theorem standsFor_of_setup {D : Deployment} {r : Record} {a : Ipv4Network} {i : Nat} {K : Kernel} {σ : System β}
    {h : SetupHistory} (hr : Record.new D.kernel D.host.toCliHost = .ok r)
    (ha : D.parseNetwork r.interface.ipv4NetworkAddress = some a) (hi : K.index D.enclave.interface = some i)
    (hx : Exec (D.enclave.setup D.parseNetwork r) h (.done (.ok ()))) (hE : (K.unfiltered σ).ok h) :
    D.StandsFor i a r.interface.mtu σ h := by
  have hreached (c : Component) (hc : c ≠ .routes) : σ.after h c = D.enclave.wanted r a i c (σ c) :=
    (CliEnclave.converges_unfiltered ha hi hc).reached h hx hE
  have hroutes := CliEnclave.hasDefault_of_setup ha hi hx hE
  constructor
  · rw [hreached .flags nofun]
    exact Function.update_self ..
  · rw [hreached .addresses nofun]
    exact Set.mem_insert _ _
  · exact hroutes.added
  · exact hroutes.only
  · rw [hreached .mtu nofun]
    exact Function.update_self ..
  · rw [hreached .portRange nofun, CliEnclave.wanted, (Record.new_eq_ok hr).2.2]
    rfl

end Deployment

/-- **The enclave takes over the interface of the host**: whenever one of its services does something, its own interface
is up and has the first IPv4 address, the MTU and the ports of the interface that the host was given, and its one
default route has that address. -/
theorem enclave_takes_over {D : Deployment} (hD : D.Decodes) {α β : Type} {display : IpNetwork → String}
    {interfaces : List NetworkInterface} {K : Kernel} {σ : System α} (hreads : D.ReadsInterface display interfaces K σ)
    {K' : Kernel} {σ' : System β} {i : Nat} (hi : K'.index D.enclave.interface = some i) {d : DeployTrace}
    (hrun : D.Run d) (hE : (K'.unfiltered σ').ok (kernelPart (part (.enclave, .main) d))) :
    Always (fun u x => ∀ s, x.1 = (.enclave, .service s) →
      ∃ iface network, HasNetwork interfaces D.host.interface iface network ∧
        D.StandsFor i network (σ .mtu (newIfreq D.host.interface.toUTF8.toList)) σ'
          (kernelPart (part (.enclave, .main) u))) d := by
  rintro u ⟨j, e⟩ v rfl s rfl
  rw [List.append_cons] at hrun
  obtain ⟨r, a, hagrees, hplace⟩ := hrun.left.agrees_inPlace hD
  have hsetup := hplace.setup
  rw [part_within] at hsetup
  obtain ⟨haddress, hmtu, -⟩ := Record.new_eq_ok hagrees.record
  rw [hreads.address] at haddress
  obtain ⟨iface, network, hnetwork, htext⟩ := getInterfaceAddress_eq_ok.1 haddress
  -- the enclave reads the address that the host has displayed
  have hparsed := hreads.parsed iface (named_eq_some hnetwork.named).1 network
    (List.mem_of_find?_eq_some hnetwork.first)
  rw [← htext, hagrees.address] at hparsed
  cases hparsed
  obtain ⟨h, hx, hh⟩ := hreads.mtu _ hmtu
  rw [← getMtu_read hx hh]
  rw [part_append, kernelPart_append] at hE
  exact ⟨iface, a, hnetwork,
    Deployment.standsFor_of_setup hagrees.record hagrees.address hi hsetup ((K'.unfiltered σ').ok_of_append hE)⟩

namespace Demo

/-- The text of an IPv4 network. -/
def displayNetwork : IpNetwork → String
  | .v4 network => displayOctets network.ip.octets ++ "/" ++ toString network.prefixLength.toNat
  | .v6 _ _ => ""

/-- An IPv6 network comes first. -/
def ens5Interface : NetworkInterface := ⟨"ens5", [.v6 1 128, .v4 address], true, false⟩

def hostMemory : Memory := ⟨fun _ => 1, fun _ => 1500, [(2, address)], [], (32768, 39999), noTables, []⟩

/-- The interface of the enclave has no address and no routes yet. -/
def enclaveMemory : Memory := ⟨fun _ => 1, fun _ => 1500, [], [], (50000, 50000), noTables, []⟩

theorem displayNetwork_address : displayNetwork (.v4 address) = "10.0.0.2/24" := by decide +kernel

theorem deployment_reads : deployment.ReadsInterface displayNetwork [ens5Interface] oneInterface hostMemory.system where
  address := by
    have hnetwork : HasNetwork [ens5Interface] deployment.host.interface ens5Interface address := ⟨rfl, rfl⟩
    rw [getInterfaceAddress_eq_ok.2 ⟨_, _, hnetwork, rfl⟩, displayNetwork_address]
    rfl
  mtu mtu hmtu := by
    cases hmtu
    refine ⟨[⟨.socket, .ok ()⟩, ⟨.getMtu ens5, .ok 1500⟩], exec_of_script 20 (by decide +kernel), ?_⟩
    exact throughout_append (u := []) throughout_nil ⟨trivial, rfl, trivial⟩
  parsed iface hiface network hnetwork := by
    obtain rfl := List.mem_singleton.1 hiface
    have haddress : network = address := by simpa [ens5Interface] using hnetwork
    rw [haddress, displayNetwork_address]
    rfl

theorem enclaveSetup_truthful : (oneInterface.unfiltered enclaveMemory.system).ok enclaveSetup := by
  refine throughout_append (u := []) throughout_nil
    ⟨trivial, rfl, trivial, rfl, trivial, trivial, rfl, trivial, ?_, ?_, trivial, rfl, ?_, trivial, trivial, trivial⟩
  · intro i _ route hr _
    cases hr
  · simp [Kernel.Unfiltered, Kernel.Truthful, oneInterface, System.after, Component.step, routesStep, enclaveMemory,
      Memory.system]
  · exact rangeOfText_rangeText (c := '\t') rfl (50000, 50000)

theorem deployedRun_standsFor : Always (fun u x => ∀ s, x.1 = (.enclave, .service s) →
    ∃ iface network, HasNetwork [ens5Interface] deployment.host.interface iface network ∧
      deployment.StandsFor 2 network (hostMemory.system .mtu (newIfreq deployment.host.interface.toUTF8.toList))
        enclaveMemory.system (kernelPart (part (.enclave, .main) u))) deployedRun :=
  enclave_takes_over decodes deployment_reads rfl deployedRun_run enclaveSetup_truthful

end Demo
end Glycerine
