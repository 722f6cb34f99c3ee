import MeshBus.Lib.Checks
import MeshBus.Runtime.Config

/-!
# Config validation

`validate_config` with its checks in the source's order and its messages.
Parsing a socket address is the standard library's; it is the parameter
`parseAddr`, which tells whether the address is a loopback one or gives the
parser's message.
-/

namespace MeshBus.Runtime

open Lib MeshSec

abbrev Checked := Except String Unit

/-- `str::parse::<SocketAddr>()` followed by `ip().is_loopback()`. -/
abbrev AddrParser := String → Except String Bool

/-! ## Shared checks -/

def rejectEmptyStr (value : Option String) (label : String) : Checked :=
  reject (value = some "") (label ++ " must not be empty")

def rejectEmptyPath (value : Option String) (label : String) : Checked :=
  rejectEmptyStr value label

def rejectZero (value : Option Nat) (label : String) : Checked :=
  reject (value = some 0) (label ++ " must be >= 1")

def isIdByte (b : UInt8) : Bool :=
  isAsciiAlphanumeric b || b = 95 || b = 46 || b = 58 || b = 45

def rejectInvalidIdShape (id label typeName : String) : Checked :=
  reject (!(utf8 id).all isIdByte)
    (label ++ " must match " ++ typeName ++ " pattern ^[A-Za-z0-9_.:-]+$")

def isPrometheusLabelName (key : String) : Bool :=
  match utf8 key with
  | [] => false
  | first :: rest =>
    (isAsciiAlphabetic first || first = 95) && rest.all fun b => isAsciiAlphanumeric b || b = 95

def validatePrometheusLabelNames (keys : List String) : Checked :=
  checkAll (fun key => reject (!isPrometheusLabelName key)
    ("metrics labels key `" ++ key ++
      "` must match Prometheus label name pattern ^[A-Za-z_][A-Za-z0-9_]*$")) keys

def metadataNamespaces : List String := ["net", "transport", "policy", "auth", "trace", "ext"]

def isMetadataPart (part : String) : Bool :=
  part ≠ "" && (utf8 part).all fun b => isAsciiAlphanumeric b || b = 95

def isMetadataKey (key : String) : Bool :=
  match splitDots key with
  | head :: part :: parts => metadataNamespaces.contains head && (part :: parts).all isMetadataPart
  | _ => false

/-! ## Top-level sections -/

def validateLogging (cfg : Config) : Checked :=
  reject (!(["trace", "debug", "info", "warn", "error"].contains cfg.loggingLevel))
    "logging level must be one of trace, debug, info, warn, error"

def validateHealth (cfg : Config) : Checked := do
  reject (cfg.health.failureThreshold = 0) "health failure_threshold must be >= 1"
  reject (cfg.health.recoveryWindowMs = 0) "health recovery_window_ms must be >= 1"
  reject (cfg.health.probeAfterMs = 0) "health probe_after_ms must be >= 1"

def validateScheduler (cfg : Config) : Checked :=
  match cfg.scheduler with
  | .loadBalance stickyTtlSecs idleTimeoutSecs maxAgeSecs => do
      reject (stickyTtlSecs = 0) "scheduler sticky_ttl_secs must be >= 1"
      reject (idleTimeoutSecs = 0)
        "scheduler source_lease_rotate idle_timeout_secs must be >= 1"
      reject (maxAgeSecs = 0) "scheduler source_lease_rotate max_age_secs must be >= 1"
  | _ => .ok ()

def validateMetrics (cfg : Config) : Checked :=
  match cfg.metrics with
  | some (.prometheusTextfile path labels) => do
      rejectEmptyStr (some path) "metrics PrometheusTextfile path"
      validatePrometheusLabelNames labels
  | some (.prometheusHttp listen labels) => do
      rejectEmptyStr (some listen) "metrics PrometheusHttp listen"
      validatePrometheusLabelNames labels
  | none => .ok ()

def validateOperator (parseAddr : AddrParser) (cfg : Config) : Checked :=
  match cfg.operator with
  | some operator => do
      rejectEmptyStr (some operator.listen) "operator LocalHttp listen"
      match parseAddr operator.listen with
      | .error e =>
        .error ("operator LocalHttp listen must be a socket address: " ++ operator.listen ++
          ": " ++ e)
      | .ok loopback => do
          reject (!loopback)
            ("operator LocalHttp listen must be loopback-only for M0, got " ++ operator.listen)
          reject (operator.auth = some "")
            "operator LocalHttp auth BearerTokenFile path must not be empty"
  | none => .ok ()

/-! ## Mesh identity -/

def validateMeshsecHex (peer : PeerCfg) (field hex : String) : Checked :=
  reject ((utf8 hex).length ≠ 64 || !(utf8 hex).all isAsciiHexdigit)
    ("peer " ++ peer.id ++ " meshsec " ++ field ++ " must be exactly 64 hex characters")

/-- The loop over the keyring; `seen` are the ids so far. -/
def validateKeyringEntries (peer : PeerCfg) (activeKeyId : String) :
    List String → List MeshSecKeyCfg → Checked
  | _, [] => .ok ()
  | seen, key :: keys => do
      reject (key.id = "") ("peer " ++ peer.id ++ " meshsec key id must not be empty")
      reject (seen.contains key.id)
        ("peer " ++ peer.id ++ " meshsec keyring duplicate key id " ++ key.id)
      validateMeshsecHex peer ("keyring[" ++ key.id ++ "].static_key_hex") key.staticKeyHex
      reject (key.id = activeKeyId && key.role ≠ .active)
        ("peer " ++ peer.id ++ " meshsec active_key_id " ++ activeKeyId ++
          " must reference a key with role active")
      validateKeyringEntries peer activeKeyId (key.id :: seen) keys

def validateMeshsecKeyring (peer : PeerCfg) (meshsec : MeshSecPeerCfg) : Checked :=
  match meshsec.activeKeyId with
  | none => .error ("peer " ++ peer.id ++ " meshsec keyring requires active_key_id")
  | some activeKeyId => do
      reject (activeKeyId = "") ("peer " ++ peer.id ++ " meshsec active_key_id must not be empty")
      validateKeyringEntries peer activeKeyId [] meshsec.keyring
      reject (!meshsec.keyring.any fun key => key.id = activeKeyId)
        ("peer " ++ peer.id ++ " meshsec active_key_id " ++ activeKeyId ++
          " is not present in keyring")

def validateMeshsecKeys (peer : PeerCfg) (meshsec : MeshSecPeerCfg) : Checked :=
  match meshsec.staticKeyHex, meshsec.keyring.isEmpty with
  | some hex, true => validateMeshsecHex peer "static_key_hex" hex
  | none, false => validateMeshsecKeyring peer meshsec
  | some _, false =>
    .error ("peer " ++ peer.id ++
      " meshsec must use either static_key_hex or keyring, not both")
  | none, true =>
    .error ("peer " ++ peer.id ++ " meshsec requires static_key_hex or keyring")

/-- The loop over the peers; `seenIds` and `seenNodes` are those so far. -/
def validatePeers (node : Option NodeCfg) : List String → List String → List PeerCfg → Checked
  | _, _, [] => .ok ()
  | seenIds, seenNodes, peer :: peers => do
      rejectEmptyStr (some peer.id) "peer id"
      rejectEmptyStr (some peer.nodeId) "peer node_id"
      rejectInvalidIdShape peer.id "peer id" "PeerId"
      rejectInvalidIdShape peer.nodeId "peer node_id" "NodeId"
      reject (seenIds.contains peer.id) ("duplicate peer id: " ++ peer.id)
      reject (node.any fun n => n.id = peer.nodeId) ("duplicate node_id: " ++ peer.nodeId)
      reject (seenNodes.contains peer.nodeId) ("duplicate node_id: " ++ peer.nodeId)
      reject (peer.routeGroups.contains "")
        ("peer " ++ peer.id ++ " route_groups contains empty label")
      match peer.meshsec with
      | none => .ok ()
      | some meshsec => do
          reject node.isNone
            ("peer " ++ peer.id ++ " has meshsec but top-level node.id is missing")
          validateMeshsecKeys peer meshsec
      validatePeers node (peer.id :: seenIds) (peer.nodeId :: seenNodes) peers

def validatePeerRouteGroups (egress : EgressCfg) (peer : PeerCfg) : Checked :=
  if peer.routeGroups.isEmpty then .ok ()
  else
    checkAll (fun group => reject (!peer.routeGroups.contains group)
      ("egress " ++ egress.id ++ " unknown peer route_group `" ++ group ++ "` for peer " ++
        peer.id)) egress.groups

def validateEgressPeer (cfg : Config) (egress : EgressCfg) : Checked :=
  match egress.peerId with
  | none => .ok ()
  | some peerId =>
    match cfg.peers.find? fun peer => peer.id = peerId with
    | none => .error ("egress " ++ egress.id ++ " references unknown peer_id " ++ peerId)
    | some peer => validatePeerRouteGroups egress peer

def validateMeshIdentity (cfg : Config) : Checked := do
  match cfg.node with
  | none => .ok ()
  | some node => do
      rejectEmptyStr (some node.id) "node id"
      rejectInvalidIdShape node.id "node id" "NodeId"
  validatePeers cfg.node [] [] cfg.peers
  checkAll (validateEgressPeer cfg) cfg.egresses

def udpEgressCount (cfg : Config) (peerId : String) : Nat :=
  cfg.egresses.countP fun egress => egress.peerId = some peerId

def validateMeshsecPeerUniqueness (cfg : Config) : Checked :=
  checkAll (fun peer =>
    reject (peer.meshsec.isSome && 2 ≤ udpEgressCount cfg peer.id)
      ("peer " ++ peer.id ++
        " carries meshsec and is bound by more than one mesh_peer_udp egress; " ++
        "a shared MeshSec K_tx must not reuse a counter nonce across egresses (fail-closed)"))
    cfg.peers

def validateMeshPeerUdpWanRequiresMeshsec (parseAddr : AddrParser) (cfg : Config) : Checked :=
  checkAll (fun ingress =>
    match ingress with
    | .meshPeerUdp listen _ =>
      match parseAddr listen with
      | .error e =>
        .error ("MeshPeerUdp ingress listen must be a socket address: " ++ listen ++ ": " ++ e)
      | .ok loopback =>
        reject (!loopback && !cfg.peers.any fun peer => peer.meshsec.isSome)
          ("MeshPeerUdp ingress " ++ listen ++ " requires MeshSec when binding a " ++
            "non-loopback address; add peers[].meshsec or bind loopback for debug-clear")
    | _ => .ok ())
    cfg.ingresses

/-! ## Ingresses and egresses -/

/-- The two socket buffer sizes, checked last everywhere they occur. -/
def validateSocketBuffers (label : String) (recvBytes sendBytes : Option Nat) : Checked := do
  rejectZero recvBytes (label ++ " socket_recv_buffer_bytes")
  rejectZero sendBytes (label ++ " socket_send_buffer_bytes")

/-- `Tcp` and `Udp` ingresses are checked alike, under their own names. -/
def validateDirectIngress (name listen target : String) (routeGroup : Option String)
    (deadlineMs : Option Nat) (sourceLabel : Option String) (recvBytes sendBytes : Option Nat) :
    Checked := do
  rejectEmptyStr (some listen) (name ++ " ingress listen")
  rejectEmptyStr (some target) (name ++ " ingress target")
  rejectEmptyStr routeGroup (name ++ " ingress route_group")
  rejectEmptyStr sourceLabel (name ++ " ingress source_label")
  rejectZero deadlineMs (name ++ " ingress deadline_ms")
  validateSocketBuffers (name ++ " ingress") recvBytes sendBytes

def validateIngress : IngressCfg → Checked
  | .socks5 listen handshakeTimeoutMs acceptBackoffMs maxConnections udpForwardConcurrency
      recvBytes sendBytes => do
      rejectEmptyStr (some listen) "Socks5 ingress listen"
      rejectZero handshakeTimeoutMs "Socks5 ingress handshake_timeout_ms"
      rejectZero acceptBackoffMs "Socks5 ingress accept_backoff_ms"
      rejectZero maxConnections "Socks5 ingress max_connections"
      rejectZero udpForwardConcurrency "Socks5 ingress udp_forward_concurrency"
      validateSocketBuffers "Socks5 ingress" recvBytes sendBytes
  | .httpConnect listen auth handshakeTimeoutMs maxHeaderBytes maxConnections recvBytes
      sendBytes => do
      rejectEmptyStr (some listen) "HttpConnect ingress listen"
      rejectZero handshakeTimeoutMs "HttpConnect ingress handshake_timeout_ms"
      rejectZero maxHeaderBytes "HttpConnect ingress max_header_bytes"
      rejectZero maxConnections "HttpConnect ingress max_connections"
      validateSocketBuffers "HttpConnect ingress" recvBytes sendBytes
      checkAll (fun user => do
        rejectEmptyStr (some user.name) "HttpConnect ingress auth user name"
        rejectEmptyStr (some user.password) "HttpConnect ingress auth user password")
        (auth.getD [])
  | .tcp listen target routeGroup deadlineMs sourceLabel recvBytes sendBytes =>
    validateDirectIngress "Tcp" listen target routeGroup deadlineMs sourceLabel recvBytes
      sendBytes
  | .udp listen target routeGroup deadlineMs sourceLabel recvBytes sendBytes =>
    validateDirectIngress "Udp" listen target routeGroup deadlineMs sourceLabel recvBytes
      sendBytes
  | .meshPeerUdp listen _ => rejectEmptyStr (some listen) "MeshPeerUdp ingress listen"

/-- The part `ServiceTcp` and `ServiceUdp` share. -/
def validateService (id serviceId : String) (routeGroup : Option String) (connect : String) :
    Checked := do
  reject (serviceId = "") ("egress " ++ id ++ " service_id must not be empty")
  reject (connect = "") ("egress " ++ id ++ " connect must not be empty")
  rejectEmptyStr routeGroup ("egress " ++ id ++ " route_group")

def validateEgressKind (id : String) : EgressKind → Checked
  | .tcp recvBytes sendBytes => validateSocketBuffers ("egress " ++ id) recvBytes sendBytes
  | .udp recvBytes sendBytes => validateSocketBuffers ("egress " ++ id) recvBytes sendBytes
  | .socks5 upstream => rejectEmptyStr (some upstream) "Socks5 egress upstream"
  | .socks5Udp upstream auth => do
      rejectEmptyStr (some upstream) "Socks5Udp egress upstream"
      match auth with
      | none => .ok ()
      | some auth => do
          rejectEmptyStr (some auth.username) ("egress " ++ id ++ " Socks5Udp auth username")
          rejectEmptyStr (some auth.password) ("egress " ++ id ++ " Socks5Udp auth password")
  | .meshPeerUdp peerId peer _ _ _ _ => do
      rejectEmptyStr (some peerId) ("egress " ++ id ++ " peer_id")
      rejectEmptyStr (some peer) ("egress " ++ id ++ " peer")
  | .serviceTcp serviceId routeGroup connect => validateService id serviceId routeGroup connect
  | .serviceUdp serviceId routeGroup connect recvBytes sendBytes => do
      validateService id serviceId routeGroup connect
      validateSocketBuffers ("egress " ++ id) recvBytes sendBytes

def validateEgress (egress : EgressCfg) : Checked := do
  reject (egress.effectiveWanId = "") ("egress " ++ egress.id ++ " wan_id must not be empty")
  reject (egress.groups.contains "")
    ("egress " ++ egress.id ++ " groups contains empty label")
  validateEgressKind egress.id egress.kind

/-- The loop over the egresses; `seen` are the ids so far. -/
def validateEgresses : List String → List EgressCfg → Checked
  | _, [] => .ok ()
  | seen, egress :: egresses => do
      reject (egress.id = "") "egress id must not be empty"
      rejectInvalidIdShape egress.id "egress id" "SinkId"
      validateEgress egress
      reject (seen.contains egress.id) ("duplicate egress id: " ++ egress.id)
      reject (egress.priority = 0) ("egress " ++ egress.id ++ " priority must be >= 1")
      reject (egress.timeoutMs = 0) ("egress " ++ egress.id ++ " timeout_ms must be >= 1")
      validateEgresses (egress.id :: seen) egresses

/-! ## Pipeline -/

def validatePipelinePaths (pipeline : PipelineCfg) : Checked := do
  rejectEmptyPath pipeline.ruleChainPath "pipeline rule_chain_path"
  rejectEmptyPath pipeline.ruleChainForward "pipeline rule_chain_forward"
  rejectEmptyPath pipeline.ruleChainResolver "pipeline rule_chain_resolver"
  match pipeline.geoip with
  | none => .ok ()
  | some geoip => do
      rejectEmptyPath geoip.countryPath "pipeline geoip.country_path"
      rejectEmptyPath geoip.asnPath "pipeline geoip.asn_path"
      reject (geoip.countryPath.isNone || geoip.asnPath.isNone)
        "pipeline geoip requires both country_path and asn_path"
  match pipeline.geosite with
  | none => .ok ()
  | some path => do
      rejectEmptyPath path "pipeline geosite.path"
      reject path.isNone "pipeline geosite.path is required"

def validatePipelineIngress (cfg : Config) (source : PipelineSourceCfg) : Checked :=
  match source.ingressIndex with
  | some idx =>
    match cfg.ingresses[idx]? with
    | none =>
      .error ("pipeline source ingress_index " ++ toString idx ++ " is out of range")
    | some ingress =>
      reject (ingress.pipelineSourceKind ≠ some source.kind)
        ("pipeline source ingress_index " ++ toString idx ++
          " does not declare pipeline source kind " ++ source.kind)
  | none =>
    let found := cfg.ingresses.countP fun ingress =>
      ingress.pipelineSourceKind = some source.kind
    if found = 0 then
      .error ("pipeline requires at least one ingress declaring pipeline source kind " ++
        source.kind)
    else
      reject (2 ≤ found)
        ("pipeline source ingress_index is required when multiple ingresses declare " ++
          "pipeline source kind " ++ source.kind)

def validateInitialWrite (key : String) : Checked := do
  reject (!isMetadataKey key)
    ("pipeline source initial_writes contains invalid metadata key `" ++ key ++ "`")
  let head := (splitDots key).headD ""
  reject (["policy", "transport"].contains head)
    ("pipeline source initial_writes `" ++ key ++
      "` targets reserved lower-layer namespace `" ++ head ++
      "`; per docs/handbook/spec/data-ontology.schema.json#metadata_namespace_ownership only " ++
      "net|auth|trace|ext are operator-writable at ingress (source_initial_writes_allowed=true)")

def validatePipeline (cfg : Config) (pipeline : PipelineCfg) : Checked := do
  validatePipelinePaths pipeline
  rejectEmptyStr pipeline.source.id "pipeline source id"
  match pipeline.source.id with
  | none => .ok ()
  | some id => rejectInvalidIdShape id "pipeline source id" "SourceId"
  rejectEmptyStr (some pipeline.source.kind) "pipeline source kind"
  reject (pipeline.source.kind ≠ "application/source")
    ("pipeline source kind must be application/source, got " ++ pipeline.source.kind)
  reject pipeline.forwardRuleChainPath.isNone
    "pipeline requires rule_chain_forward or legacy rule_chain_path"
  validatePipelineIngress cfg pipeline.source
  checkAll validateInitialWrite pipeline.source.initialWrites

/-! ## The whole config -/

def validateConfig (parseAddr : AddrParser) (cfg : Config) : Checked := do
  reject cfg.ingresses.isEmpty "at least one ingress is required"
  reject cfg.egresses.isEmpty "at least one egress is required"
  validateLogging cfg
  validateHealth cfg
  validateScheduler cfg
  validateMetrics cfg
  validateOperator parseAddr cfg
  validateMeshIdentity cfg
  validateMeshsecPeerUniqueness cfg
  checkAll validateIngress cfg.ingresses
  validateMeshPeerUdpWanRequiresMeshsec parseAddr cfg
  validateEgresses [] cfg.egresses
  match cfg.pipeline with
  | none => .ok ()
  | some pipeline => validatePipeline cfg pipeline

end MeshBus.Runtime
