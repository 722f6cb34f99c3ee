import MeshBus.Proto.Parity
import MeshBus.Egress.Demux
import MeshBus.Ingress.Bounds
import MeshBus.Ingress.HalfClose
import MeshBus.Runtime.Rollover
import MeshBus.Kernel.Jumps
import MeshBus.Kernel.Reads
import MeshBus.Kernel.Affinity
import MeshBus.Kernel.Subscribers
import MeshBus.Kernel.Health
import MeshBus.Kernel.Shutdown
import MeshBus.Session.Replicas
import MeshBus.Session.Closing
import MeshBus.Resolver.Pool
import MeshBus.Resolver.Provenance
import MeshBus.Quic.Conservation
import MeshBus.Quic.Levels
import MeshBus.Quic.Coalesced
import MeshBus.Quic.Exchange
import MeshBus.Quic.Budget
import MeshBus.Quic.Protection
import MeshBus.Quic.Losses
import MeshBus.Socks5.Connect
import MeshBus.Hooks.HostCase
import MeshBus.Socks5.Associate
import MeshBus.Http.Forward
import MeshBus.LoadBalance.Wrr
