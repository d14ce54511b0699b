import Glycerine.Proxy.Greedy
import Glycerine.Proxy.Forwarding
import Glycerine.Proxy.NfqTrace
import Glycerine.Proxy.Ipv4Machine
import Glycerine.Proxy.Ipv4Trace
import Glycerine.System.Transport
import Glycerine.Proxy.Reconnect
import Glycerine.Proxy.Verdicts
import Glycerine.Setup.Host
import Glycerine.Setup.HostPorts
import Glycerine.Bootstrap.Serve
import Glycerine.Bootstrap.ServeMachine
import Glycerine.Services.Rejections
import Glycerine.Services.Recovery
import Glycerine.Services.PeerOnly
import Glycerine.Json.Grammar
import Glycerine.Bootstrap.Record
import Glycerine.Bootstrap.Get
import Glycerine.Bootstrap.Written
import Glycerine.Bootstrap.Link
import Glycerine.Bootstrap.Transfer
import Glycerine.Setup.Enclave
import Glycerine.Bootstrap.Limit
import Glycerine.Setup.Routes
import Glycerine.Setup.Rulesets
import Glycerine.Setup.Flows
import Glycerine.Setup.System
import Glycerine.Setup.Converge
import Glycerine.Setup.Again
import Glycerine.Setup.Restart
import Glycerine.Interact.Text
import Glycerine.Proxy.Debug
import Glycerine.Proxy.DebugEnds
import Glycerine.Proxy.TcpPacket
import Glycerine.Proxy.DebugPrints
import Glycerine.Setup.PortRangeParser
import Glycerine.Proxy.DebugAgrees
import Glycerine.Bootstrap.Shutdown
import Glycerine.Services.Guarded
import Glycerine.Services.WindDown
import Glycerine.Interact.Embed
import Glycerine.Interact.Reactive
import Glycerine.Interact.Joint
import Glycerine.Process.Run
import Glycerine.Services.Reactive
import Glycerine.Process.Command
import Glycerine.Process.Progress
import Glycerine.Process.Shutdown
import Glycerine.Process.Causes
import Glycerine.Process.Startup
import Glycerine.Deployment.Run
import Glycerine.Deployment.Agreement
import Glycerine.Proxy.Tunnel
import Glycerine.Deployment.Packets
import Glycerine.Proxy.Fate
import Glycerine.Cli.Addresses
import Glycerine.Process.Panics
import Glycerine.Cli.Interfaces
import Glycerine.Deployment.Takeover
import Glycerine.Setup.Nftnl
import Glycerine.Interact.Refine
import Glycerine.Setup.OverNetlink
