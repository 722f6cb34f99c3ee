import MeshBus.MeshSec.Authenticity
import MeshBus.Runtime.Nonces

/-!
# Replies during a key rollover

Two nodes that list each other as peers, with keyrings that may differ: the
sender seals with a key the receiver still accepts.  The receiver seals its
reply with its own active key, and the sender's session opens replies with the
key it seals with.  So a reply opens exactly when the two active keys agree.
-/

namespace MeshBus.Runtime

open Lib MeshSec Egress Ingress List MeshSecReplayCache

/-- Two accepted configs that list each other, where the sender's active key is
one of the receiver's open keys for the sender. -/
structure Link (parseAddr : AddrParser) where
  sender : Config
  receiver : Config
  senderNode : NodeCfg
  receiverNode : NodeCfg
  /-- The receiver, in the sender's config. -/
  receiverPeer : PeerCfg
  /-- The sender, in the receiver's config. -/
  senderPeer : PeerCfg
  senderKeys : MeshSecPeerCfg
  receiverKeys : MeshSecPeerCfg
  key : Octets 32
  sender_valid : validateConfig parseAddr sender = .ok ()
  receiver_valid : validateConfig parseAddr receiver = .ok ()
  sender_node : sender.node = some senderNode
  receiver_node : receiver.node = some receiverNode
  receiverPeer_mem : receiverPeer ∈ sender.peers
  senderPeer_mem : senderPeer ∈ receiver.peers
  receiverPeer_nodeId : receiverPeer.nodeId = receiverNode.id
  senderPeer_nodeId : senderPeer.nodeId = senderNode.id
  senderKeys_eq : receiverPeer.meshsec = some senderKeys
  receiverKeys_eq : senderPeer.meshsec = some receiverKeys
  key_active : senderKeys.activeStaticKey = some key
  key_opens : key ∈ receiverKeys.openStaticKeys

variable {parseAddr : AddrParser}

/-- A request that the receiver opened, and the reply it sealed for it. -/
structure Exchange (link : Link parseAddr) (P : Primitives) (calls : Set SealCall) where
  egress : MeshSecEgress
  request : SealCall
  requestPacket : Bytes
  acceptedEpoch : UInt64 × UInt64
  replay : MeshSecReplayCache meshsecReplayWindowBits
  peerId : String
  bootSalt : Octets 4
  counters : ReplyCounters
  reply : SealCall
  replyPacket : Bytes
  egress_ctx : ∃ egressSalt,
    link.sender.meshsecSealContext link.receiverPeer.id egressSalt = some egress.ctx
  request_mem : request ∈ calls
  request_ctx : request.ctx = egress.ctx
  request_packet : request.packet P = .ok requestPacket
  request_opened : (openBytes P requestPacket link.receiver.meshsecOpenKeys link.receiverNode.id
    acceptedEpoch replay).2 = .ok (peerId, request.clear)
  reply_mem : reply ∈ calls
  reply_sealed : (replySealFor (meshsecIngress link.receiver link.receiverNode bootSalt) peerId
    counters).2 = some (reply.ctx, reply.counter)
  reply_packet : reply.packet P = .ok replyPacket

section
variable {link : Link parseAddr} {P : Primitives} {calls : Set SealCall}

lemma Link.mem_openKeys (link : Link parseAddr) {key : Octets 32}
    (hkey : key ∈ link.receiverKeys.openStaticKeys) :
    { peerId := link.senderPeer.id, remoteNodeId := link.senderNode.id, staticKey := key } ∈
      link.receiver.meshsecOpenKeys := by
  apply mem_flatMap.mpr
  refine ⟨link.senderPeer, link.senderPeer_mem, ?_⟩
  simp [PeerCfg.openKeys, link.receiverKeys_eq, link.senderPeer_nodeId, hkey]

lemma Link.peerId_of_remote (link : Link parseAddr) {key : MeshSecOpenKey}
    (hkey : key ∈ link.receiver.meshsecOpenKeys) (hremote : key.remoteNodeId = link.senderNode.id) :
    key.peerId = link.senderPeer.id := by
  obtain ⟨peer, hpeer, hmem⟩ := mem_flatMap.mp hkey
  unfold PeerCfg.openKeys at hmem
  split at hmem
  · cases hmem
  · obtain ⟨_, _, rfl⟩ := mem_map.mp hmem
    have hnode : peer.nodeId = link.senderPeer.nodeId := by
      rw [link.senderPeer_nodeId]
      exact hremote
    rw [(accepted_of_validateConfig link.receiver_valid).peer_eq_of_nodeId hpeer
      link.senderPeer_mem hnode]

namespace Exchange

lemma egress_ctx_eq (x : Exchange link P calls) :
    ∃ salt, x.egress.ctx =
      { localNodeId := link.senderNode.id, remoteNodeId := link.receiverNode.id
        staticKey := link.key, bootSalt := salt } := by
  obtain ⟨salt, hctx⟩ := x.egress_ctx
  rw [(accepted_of_validateConfig link.sender_valid).meshsecSealContext_eq link.receiverPeer_mem,
    peerContext_eq_some] at hctx
  obtain ⟨node, meshsec, key, hnode, hmesh, hkey, heq⟩ := hctx
  cases link.sender_node.symm.trans hnode
  cases link.senderKeys_eq.symm.trans hmesh
  cases link.key_active.symm.trans hkey
  exact ⟨salt, by rw [heq, link.receiverPeer_nodeId]⟩

lemma peerId_eq (ideal : IdealFor P calls) (x : Exchange link P calls) :
    x.peerId = link.senderPeer.id := by
  obtain ⟨salt, hctx⟩ := x.egress_ctx_eq
  rw [← x.request_ctx] at hctx
  obtain ⟨call, hcall, hpkt, hlo, hhi, -⟩ := producedFor_of_openBytes ideal x.request_opened
  obtain ⟨-, hepoch, -⟩ := txMaterial_of_packet_eq ideal x.request_mem hcall x.request_packet hpkt
  rw [hepoch] at hlo hhi
  have hopens := openBytes_sealed ideal x.request_mem x.request_packet
    (link.mem_openKeys link.key_opens) ⟨by rw [hctx], by rw [hctx]⟩
    (fun key hkey hkeyO => link.peerId_of_remote hkey (by rw [hkeyO.2, hctx])) hlo hhi
    x.replay
  have hopnd := x.request_opened
  rw [show link.receiverNode.id = x.request.ctx.remoteNodeId by rw [hctx], hopens] at hopnd
  cases hansw : (x.replay.checkAndInsert ⟨link.senderPeer.id, x.request.epoch,
    x.request.ctx.bootSalt⟩ x.request.counter.toNat).2 with
  | error e => simp [hansw, Except.map] at hopnd
  | ok _ =>
    simp only [hansw, Except.map, Except.ok.injEq, Prod.mk.injEq] at hopnd
    exact hopnd.1.symm

lemma reply_ctx_eq (ideal : IdealFor P calls) (x : Exchange link P calls) :
    ∃ active, link.receiverKeys.activeStaticKey = some active ∧ x.reply.ctx =
      { localNodeId := link.receiverNode.id, remoteNodeId := link.senderNode.id
        staticKey := active, bootSalt := x.bootSalt } := by
  have hvalid := accepted_of_validateConfig link.receiver_valid
  have hseal := x.reply_sealed
  rw [x.peerId_eq ideal] at hseal
  unfold replySealFor at hseal
  split at hseal
  · cases hseal
  · rename_i ctx hctx
    simp only [Option.some.injEq, Prod.mk.injEq] at hseal
    rw [replyContext_eq hvalid link.receiver_node link.senderPeer_mem, peerContext_eq_some] at hctx
    obtain ⟨node, meshsec, active, hnode, hmesh, hactive, heq⟩ := hctx
    cases link.receiver_node.symm.trans hnode
    cases link.receiverKeys_eq.symm.trans hmesh
    exact ⟨active, hactive, by rw [← hseal.1, heq, link.senderPeer_nodeId]⟩

/-- A reply opens at the session that sent the request exactly when the
receiver's active key for the sender is the sender's active key. -/
theorem reply_opens_iff (ideal : IdealFor P calls) (x : Exchange link P calls)
    (acceptedEpoch : UInt64 × UInt64) (hlo : acceptedEpoch.1 ≤ x.reply.epoch)
    (hhi : x.reply.epoch ≤ acceptedEpoch.2) (replay : MeshSecReplayCache meshsecReplayWindowBits)
    (hfresh : (replay.checkAndInsert ⟨x.egress.ctx.remoteNodeId, x.reply.epoch, x.bootSalt⟩
      x.reply.counter.toNat).2 = .ok ()) :
    (openBytes P x.replyPacket x.egress.replyRecv.keys x.egress.replyRecv.localNodeId
      acceptedEpoch replay).2 = .ok (x.egress.ctx.remoteNodeId, x.reply.clear) ↔
    link.receiverKeys.activeStaticKey = link.senderKeys.activeStaticKey := by
  obtain ⟨salt, hctx⟩ := x.egress_ctx_eq
  obtain ⟨active, hactive, hreply⟩ := x.reply_ctx_eq ideal
  rw [hactive, link.key_active, Option.some.injEq]
  constructor
  · intro hopnd
    obtain ⟨call, hcall, hpkt, -, -, key, hkey, hstat, -⟩ := producedFor_of_openBytes ideal hopnd
    obtain ⟨hsame, -⟩ := txMaterial_of_packet_eq ideal x.reply_mem hcall x.reply_packet hpkt
    rw [mem_singleton.mp hkey, hsame, hreply, hctx] at hstat
    exact hstat
  · rintro rfl
    have hopens := openBytes_sealed ideal x.reply_mem x.reply_packet
      (mem_singleton_self _ : _ ∈ x.egress.replyRecv.keys)
      ⟨by rw [hreply, hctx], by rw [hreply, hctx]⟩
      (fun key hkey _ => by rw [mem_singleton.mp hkey]) hlo hhi replay
    rw [hreply] at hopens
    simp only [MeshSecEgress.replyRecv, hctx] at hopens hfresh ⊢
    rw [hopens]
    simp [hfresh, Except.map]

end Exchange
end

/-! ## Two receivers -/

def keyA : Octets 32 := (decodeStaticKeyHex hexKeyA).getD (Vector.replicate 32 0)
def keyB : Octets 32 := (decodeStaticKeyHex hexKeyB).getD (Vector.replicate 32 0)

def senderConfig : Config :=
  meshConfig [keyedPeer "pb" "b" hexKeyA] [meshEgress "eb" "pb" "127.0.0.1:7000"]

def keyring (activeHex acceptHex : String) : MeshSecPeerCfg where
  staticKeyHex := none
  activeKeyId := some "active"
  keyring := [⟨"active", activeHex, .active⟩, ⟨"accept", acceptHex, .accept⟩]

def rollingPeer (activeHex acceptHex : String) : PeerCfg where
  id := "pa"
  nodeId := "a"
  routeGroups := []
  meshsec := some (keyring activeHex acceptHex)

def receiverConfig (activeHex acceptHex : String) : Config :=
  { meshConfig [rollingPeer activeHex acceptHex] [meshEgress "ea" "pa" "127.0.0.1:7000"] with
    node := some ⟨"b"⟩ }

/-- The sender seals with `hexKeyA`, whatever the receiver's keyring says. -/
def sampleLink (activeHex acceptHex : String)
    (hvalid : validateConfig (fun _ => .ok true) (receiverConfig activeHex acceptHex) = .ok ())
    (hopens : keyA ∈ (keyring activeHex acceptHex).openStaticKeys) :
    Link (fun _ => .ok true) where
  sender := senderConfig
  receiver := receiverConfig activeHex acceptHex
  senderNode := ⟨"a"⟩
  receiverNode := ⟨"b"⟩
  receiverPeer := keyedPeer "pb" "b" hexKeyA
  senderPeer := rollingPeer activeHex acceptHex
  senderKeys := { staticKeyHex := some hexKeyA, activeKeyId := none, keyring := [] }
  receiverKeys := keyring activeHex acceptHex
  key := keyA
  sender_valid := by decide
  receiver_valid := hvalid
  sender_node := rfl
  receiver_node := rfl
  receiverPeer_mem := mem_singleton_self _
  senderPeer_mem := mem_singleton_self _
  receiverPeer_nodeId := rfl
  senderPeer_nodeId := rfl
  senderKeys_eq := rfl
  receiverKeys_eq := rfl
  key_active := by decide
  key_opens := hopens

/-- The receiver has moved on to `hexKeyB` and still accepts `hexKeyA`. -/
def rollingLink : Link (fun _ => .ok true) :=
  sampleLink hexKeyB hexKeyA (by decide) (by decide)

/-- The receiver accepts `hexKeyB` already and still seals with `hexKeyA`. -/
def settledLink : Link (fun _ => .ok true) :=
  sampleLink hexKeyA hexKeyB (by decide) (by decide)

def sampleRequest : SealCall where
  clear := [1, 2, 3]
  ctx := ⟨"a", "b", keyA, Vector.replicate 4 1⟩
  epoch := 700
  counter := 1

def sampleReply (active : Octets 32) : SealCall where
  clear := [4, 5]
  ctx := ⟨"b", "a", active, Vector.replicate 4 2⟩
  epoch := 700
  counter := 1

def samplePrimitives (active : Octets 32) : Primitives :=
  codebookPrimitives [sampleRequest, sampleReply active]

def packetBytes (P : Primitives) (call : SealCall) : Bytes := (call.packet P).toOption.getD []

/-- The two calls over a link, given that they go through. -/
def sampleExchange (link : Link parseAddr) (active : Octets 32)
    (hegress : link.sender.meshsecSealContext link.receiverPeer.id (Vector.replicate 4 1) =
      some sampleRequest.ctx)
    (hrequest : sampleRequest.packet (samplePrimitives active) =
      .ok (packetBytes (samplePrimitives active) sampleRequest))
    (hopened : (openBytes (samplePrimitives active)
      (packetBytes (samplePrimitives active) sampleRequest) link.receiver.meshsecOpenKeys
      link.receiverNode.id (699, 701) (new meshsecReplayWindowBits)).2 =
        .ok ("pa", [1, 2, 3]))
    (hsealed : (replySealFor (meshsecIngress link.receiver link.receiverNode
      (Vector.replicate 4 2)) "pa" ∅).2 = some ((sampleReply active).ctx, 1))
    (hreply : (sampleReply active).packet (samplePrimitives active) =
      .ok (packetBytes (samplePrimitives active) (sampleReply active))) :
    Exchange link (samplePrimitives active)
      {call | call ∈ [sampleRequest, sampleReply active]} where
  egress := MeshSecEgress.new sampleRequest.ctx
  request := sampleRequest
  requestPacket := packetBytes (samplePrimitives active) sampleRequest
  acceptedEpoch := (699, 701)
  replay := new meshsecReplayWindowBits
  peerId := "pa"
  bootSalt := Vector.replicate 4 2
  counters := ∅
  reply := sampleReply active
  replyPacket := packetBytes (samplePrimitives active) (sampleReply active)
  egress_ctx := ⟨Vector.replicate 4 1, hegress⟩
  request_mem := by simp
  request_ctx := rfl
  request_packet := hrequest
  request_opened := hopened
  reply_mem := by simp
  reply_sealed := hsealed
  reply_packet := hreply

def rollingExchange : Exchange rollingLink (samplePrimitives keyB)
    {call | call ∈ [sampleRequest, sampleReply keyB]} :=
  sampleExchange rollingLink keyB (by decide) (by decide +kernel) (by decide +kernel) (by decide)
    (by decide +kernel)

def settledExchange : Exchange settledLink (samplePrimitives keyA)
    {call | call ∈ [sampleRequest, sampleReply keyA]} :=
  sampleExchange settledLink keyA (by decide) (by decide +kernel) (by decide +kernel) (by decide)
    (by decide +kernel)

/-- The receiver opens the request with the accepted key and replies with its
new active key, which the session that asked does not open. -/
theorem rollingExchange_reply_lost :
    IdealFor (samplePrimitives keyB) {call | call ∈ [sampleRequest, sampleReply keyB]} ∧
    (openBytes (samplePrimitives keyB) rollingExchange.replyPacket
      rollingExchange.egress.replyRecv.keys rollingExchange.egress.replyRecv.localNodeId (699, 701)
      rollingExchange.egress.replyRecv.replay).2 = .error .auth :=
  ⟨codebookPrimitives_ideal (by decide), by decide +kernel⟩

/-- With one active key on both sides the reply opens. -/
theorem settledExchange_reply_opens :
    (openBytes (samplePrimitives keyA) settledExchange.replyPacket
      settledExchange.egress.replyRecv.keys settledExchange.egress.replyRecv.localNodeId (699, 701)
      settledExchange.egress.replyRecv.replay).2 = .ok ("b", [4, 5]) :=
  (settledExchange.reply_opens_iff (codebookPrimitives_ideal (by decide)) (699, 701) (by decide)
    (by decide) (new meshsecReplayWindowBits) (by decide)).mpr (by decide)

end MeshBus.Runtime
