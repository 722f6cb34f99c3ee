import MeshBus.MeshSec.Seal
import MeshBus.Proto.Frame

/-!
# Runtime configuration

The operator config as far as the validator and the MeshSec wiring read it.
The fields every egress kind has are fields of `EgressCfg`; what differs is its
`kind`.
-/

namespace MeshBus.Runtime

open Lib MeshSec Proto

/-! ## Mesh identity -/

structure NodeCfg where
  id : String
  deriving DecidableEq

inductive MeshSecKeyRoleCfg where
  | active | accept
  deriving DecidableEq

structure MeshSecKeyCfg where
  id : String
  staticKeyHex : String
  role : MeshSecKeyRoleCfg
  deriving DecidableEq

structure MeshSecPeerCfg where
  staticKeyHex : Option String
  activeKeyId : Option String
  keyring : List MeshSecKeyCfg
  deriving DecidableEq

structure PeerCfg where
  id : String
  nodeId : String
  routeGroups : List String
  meshsec : Option MeshSecPeerCfg
  deriving DecidableEq

/-! ## Ingresses and egresses -/

structure AuthUserCfg where
  name : String
  password : String

inductive IngressCfg where
  | socks5 (listen : String) (handshakeTimeoutMs acceptBackoffMs maxConnections
      udpForwardConcurrency socketRecvBufferBytes socketSendBufferBytes : Option Nat)
  | httpConnect (listen : String) (auth : Option (List AuthUserCfg))
      (handshakeTimeoutMs maxHeaderBytes maxConnections socketRecvBufferBytes
        socketSendBufferBytes : Option Nat)
  | tcp (listen target : String) (routeGroup : Option String) (deadlineMs : Option Nat)
      (sourceLabel : Option String) (socketRecvBufferBytes socketSendBufferBytes : Option Nat)
  | udp (listen target : String) (routeGroup : Option String) (deadlineMs : Option Nat)
      (sourceLabel : Option String) (socketRecvBufferBytes socketSendBufferBytes : Option Nat)
  | meshPeerUdp (listen : String) (nativeEventMode : NativeEventMode)

def IngressCfg.pipelineSourceKind : IngressCfg → Option String
  | .meshPeerUdp .. => none
  | _ => some "application/source"

structure Socks5UpstreamAuthCfg where
  username : String
  password : String

inductive EgressKind where
  | tcp (socketRecvBufferBytes socketSendBufferBytes : Option Nat)
  | socks5 (upstream : String)
  | socks5Udp (upstream : String) (auth : Option Socks5UpstreamAuthCfg)
  | udp (socketRecvBufferBytes socketSendBufferBytes : Option Nat)
  | meshPeerUdp (peerId peer : String) (nativeEventMode : NativeEventMode)
      (deliveryMode : DeliveryMode) (replicateFanout probeBudget : UInt8)
  | serviceTcp (serviceId : String) (routeGroup : Option String) (connect : String)
  | serviceUdp (serviceId : String) (routeGroup : Option String) (connect : String)
      (socketRecvBufferBytes socketSendBufferBytes : Option Nat)

structure EgressCfg where
  id : String
  wanId : Option String
  priority : Nat
  groups : List String
  timeoutMs : Nat
  kind : EgressKind

def EgressCfg.effectiveWanId (egress : EgressCfg) : String := egress.wanId.getD egress.id

def EgressCfg.peerId (egress : EgressCfg) : Option String :=
  match egress.kind with
  | .meshPeerUdp peerId .. => some peerId
  | _ => none

/-! ## The rest of the config -/

structure HealthCfg where
  failureThreshold : Nat
  recoveryWindowMs : Nat
  probeAfterMs : Nat

inductive MetricsCfg where
  | prometheusTextfile (path : String) (labels : List String)
  | prometheusHttp (listen : String) (labels : List String)

/-- `auth` is the path of the bearer token file. -/
structure OperatorCfg where
  listen : String
  auth : Option String

inductive SchedulerCfg where
  | cake
  | replicate
  | loadBalance (stickyTtlSecs idleTimeoutSecs maxAgeSecs : Nat)

structure GeoIpCfg where
  countryPath : Option String
  asnPath : Option String

structure PipelineSourceCfg where
  ingressIndex : Option Nat
  id : Option String
  kind : String
  initialWrites : List String

structure PipelineCfg where
  ruleChainPath : Option String
  ruleChainForward : Option String
  ruleChainResolver : Option String
  geoip : Option GeoIpCfg
  /-- The inner option is `geosite.path`. -/
  geosite : Option (Option String)
  source : PipelineSourceCfg

def PipelineCfg.forwardRuleChainPath (pipeline : PipelineCfg) : Option String :=
  pipeline.ruleChainForward.or pipeline.ruleChainPath

structure Config where
  node : Option NodeCfg
  peers : List PeerCfg
  loggingLevel : String
  health : HealthCfg
  metrics : Option MetricsCfg
  operator : Option OperatorCfg
  scheduler : SchedulerCfg
  ingresses : List IngressCfg
  egresses : List EgressCfg
  pipeline : Option PipelineCfg

/-! ## MeshSec keys -/

def isAsciiHexdigit (b : UInt8) : Bool :=
  (48 ≤ b && b ≤ 57) || (65 ≤ b && b ≤ 70) || (97 ≤ b && b ≤ 102)

def hexValue (b : UInt8) : UInt8 :=
  if b ≤ 57 then b - 48 else if b ≤ 70 then b - 55 else b - 87

/-- `u8::from_str_radix(pair, 16)`, which also takes a plus sign. -/
def parseHexPair (a b : UInt8) : Option UInt8 :=
  if isAsciiHexdigit a && isAsciiHexdigit b then some (hexValue a * 16 + hexValue b)
  else if a = 43 && isAsciiHexdigit b then some (hexValue b)
  else none

def decodeHexPairs : Bytes → Option Bytes
  | [] => some []
  | [_] => none
  | a :: b :: rest => do
      let byte ← parseHexPair a b
      let bytes ← decodeHexPairs rest
      pure (byte :: bytes)

def decodeStaticKeyHex (hex : String) : Option (Octets 32) :=
  if (utf8 hex).length ≠ 64 then none
  else (decodeHexPairs (utf8 hex)).map (firstOctets 32)

namespace MeshSecPeerCfg

def activeStaticKey (meshsec : MeshSecPeerCfg) : Option (Octets 32) :=
  match meshsec.staticKeyHex with
  | some hex => decodeStaticKeyHex hex
  | none => do
      let activeId ← meshsec.activeKeyId
      let key ← meshsec.keyring.find? fun key => key.id = activeId && key.role = .active
      decodeStaticKeyHex key.staticKeyHex

def openStaticKeys (meshsec : MeshSecPeerCfg) : List (Octets 32) :=
  match meshsec.staticKeyHex with
  | some hex => (decodeStaticKeyHex hex).toList
  | none =>
    match meshsec.activeKeyId with
    | none => []
    | some activeId =>
      let active := (meshsec.keyring.find? fun key => key.id = activeId).bind
        fun key => decodeStaticKeyHex key.staticKeyHex
      let accepted := meshsec.keyring.filter fun key =>
        key.id ≠ activeId && key.role = .accept
      active.toList ++ accepted.filterMap fun key => decodeStaticKeyHex key.staticKeyHex

end MeshSecPeerCfg

def PeerCfg.openKeys (peer : PeerCfg) : List MeshSecOpenKey :=
  match peer.meshsec with
  | none => []
  | some meshsec => meshsec.openStaticKeys.map fun staticKey =>
    { peerId := peer.id, remoteNodeId := peer.nodeId, staticKey }

namespace Config

def meshsecSealContext (cfg : Config) (peerId : String) (bootSalt : Octets 4) :
    Option MeshSecSealContext := do
  let node ← cfg.node
  let peer ← cfg.peers.find? fun p => p.id = peerId
  let meshsec ← peer.meshsec
  let staticKey ← meshsec.activeStaticKey
  pure { localNodeId := node.id, remoteNodeId := peer.nodeId, staticKey, bootSalt }

def meshsecOpenKeys (cfg : Config) : List MeshSecOpenKey :=
  cfg.peers.flatMap PeerCfg.openKeys

end Config
end MeshBus.Runtime
