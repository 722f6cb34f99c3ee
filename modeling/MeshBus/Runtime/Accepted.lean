import MeshBus.Runtime.Validate

/-!
# What an accepted config guarantees

Consequences of `validate_config` for mesh identity: peers and node ids are
distinct, a peer with MeshSec has an active key, that key comes first among its
open keys, and at most one mesh-peer egress is bound to it.
-/

namespace MeshBus.Runtime

open Lib MeshSec List

/-! ## Keys -/

lemma decodeHexPairs_isSome (hhex : bs.all isAsciiHexdigit = true) (heven : bs.length % 2 = 0) :
    (decodeHexPairs bs).isSome = true := by
  induction bs using decodeHexPairs.induct with
  | case1 => rfl
  | case2 a => simp at heven
  | case3 a b rest ih =>
    simp only [all_cons, Bool.and_eq_true] at hhex
    have hrest := ih hhex.2.2 (by simp at heven; omega)
    obtain ⟨bytes, hbytes⟩ := Option.isSome_iff_exists.mp hrest
    simp [decodeHexPairs, parseHexPair, hhex.1, hhex.2.1, hbytes]

lemma decodeStaticKeyHex_of_valid (h : validateMeshsecHex peer field hex = .ok ()) :
    ∃ key, decodeStaticKeyHex hex = some key := by
  rw [validateMeshsecHex, reject_eq_ok] at h
  simp only [ne_eq, decide_not, Bool.or_eq_false_iff, Bool.not_eq_false', decide_eq_true_eq] at h
  obtain ⟨hlen, hhex⟩ := h
  obtain ⟨bytes, hbytes⟩ := Option.isSome_iff_exists.mp
    (decodeHexPairs_isSome hhex (by rw [hlen]))
  exact ⟨firstOctets 32 bytes, by simp [decodeStaticKeyHex, hlen, hbytes]⟩

/-- Every entry of an accepted keyring has a decodable key, and the active id
only names keys of the active role. -/
lemma keyringEntries_ok
    {keys : List MeshSecKeyCfg} (h : validateKeyringEntries peer activeKeyId seen keys = .ok ()) :
    ∀ key ∈ keys, (∃ k, decodeStaticKeyHex key.staticKeyHex = some k) ∧
      (key.id = activeKeyId → key.role = .active) := by
  induction keys generalizing seen with
  | nil => simp
  | cons key keys ih =>
    simp only [validateKeyringEntries, seq_eq_ok, reject_eq_ok] at h
    obtain ⟨-, -, hhex, hrole, hrest⟩ := h
    intro key' hmem
    rcases mem_cons.mp hmem with rfl | hmem
    · refine ⟨decodeStaticKeyHex_of_valid hhex, fun hid => ?_⟩
      simpa [hid] using hrole
    · exact ih hrest key' hmem

private lemma find?_congr_on (as : List α)
    (h : ∀ a ∈ as, p a = q a) : as.find? p = as.find? q := by
  induction as with
  | nil => rfl
  | cons a as ih =>
    have hhead := h a (by simp)
    have htail := ih fun b hb => h b (by simp [hb])
    rw [find?_cons, find?_cons, hhead, htail]

lemma activeStaticKey_of_valid (h : validateMeshsecKeys peer meshsec = .ok ()) :
    ∃ key, meshsec.activeStaticKey = some key ∧ meshsec.openStaticKeys.head? = some key := by
  unfold validateMeshsecKeys at h
  split at h
  · rename_i hex hstat _
    obtain ⟨key, hkey⟩ := decodeStaticKeyHex_of_valid h
    exact ⟨key, by simp [MeshSecPeerCfg.activeStaticKey, hstat, hkey],
      by simp [MeshSecPeerCfg.openStaticKeys, hstat, hkey]⟩
  · rename_i hstat _
    unfold validateMeshsecKeyring at h
    split at h
    · cases h
    · rename_i activeId hactive
      simp only [seq_eq_ok, reject_eq_ok] at h
      obtain ⟨-, hentr, hfound⟩ := h
      have hall := keyringEntries_ok hentr
      have hsame : (meshsec.keyring.find? fun key => key.id = activeId && key.role = .active) =
          meshsec.keyring.find? fun key => key.id = activeId := by
        apply find?_congr_on
        intro key hmem
        by_cases hid : key.id = activeId
        · simp [hid, (hall key hmem).2 hid]
        · simp [hid]
      have hsome : (meshsec.keyring.find? fun key => key.id = activeId).isSome = true := by
        simpa using hfound
      obtain ⟨entry, hentry⟩ := Option.isSome_iff_exists.mp hsome
      obtain ⟨key, hkey⟩ := (hall entry (mem_of_find?_eq_some hentry)).1
      refine ⟨key, ?_, ?_⟩
      · simp [MeshSecPeerCfg.activeStaticKey, hstat, hactive, hsame, hentry, hkey]
      · simp [MeshSecPeerCfg.openStaticKeys, hstat, hactive, hentry, hkey]
  · cases h
  · cases h

/-! ## Peers -/

/-- What the loop over the peers establishes. -/
structure PeersValid (node : Option NodeCfg) (peers : List PeerCfg) : Prop where
  ids : (peers.map PeerCfg.id).Nodup
  nodeIds : (peers.map PeerCfg.nodeId).Nodup
  foreign : ∀ peer ∈ peers, ∀ n, node = some n → n.id ≠ peer.nodeId
  keys : ∀ peer ∈ peers, ∀ meshsec, peer.meshsec = some meshsec →
    node.isSome = true ∧ validateMeshsecKeys peer meshsec = .ok ()

lemma validatePeers_ok (h : validatePeers node seenIds seenNodes peers = .ok ()) :
    PeersValid node peers ∧
      ∀ peer ∈ peers, peer.id ∉ seenIds ∧ peer.nodeId ∉ seenNodes := by
  induction peers generalizing seenIds seenNodes with
  | nil => exact ⟨⟨by simp, by simp, by simp, by simp⟩, by simp⟩
  | cons peer peers ih =>
    simp only [validatePeers, seq_eq_ok, reject_eq_ok] at h
    obtain ⟨-, -, -, -, hid, hself, hnode, -, hrest⟩ := h
    have hmesh : (∀ meshsec, peer.meshsec = some meshsec →
        node.isSome = true ∧ validateMeshsecKeys peer meshsec = .ok ()) ∧
        validatePeers node (peer.id :: seenIds) (peer.nodeId :: seenNodes) peers = .ok () := by
      split at hrest
      · rename_i hnone
        simp only [seq_eq_ok] at hrest
        exact ⟨by simp [hnone], hrest.2⟩
      · rename_i meshsec hsome
        simp only [seq_eq_ok, reject_eq_ok] at hrest
        refine ⟨fun m hm => ?_, hrest.2.2⟩
        obtain rfl : m = meshsec := Option.some.inj (hm.symm.trans hsome)
        exact ⟨by simpa using hrest.1, hrest.2.1⟩
    obtain ⟨htail, hfresh⟩ := ih hmesh.2
    have hid' : peer.id ∉ seenIds := by simpa using hid
    have hnode' : peer.nodeId ∉ seenNodes := by simpa using hnode
    refine ⟨⟨?_, ?_, ?_, ?_⟩, ?_⟩
    · rw [map_cons, nodup_cons]
      refine ⟨fun hmem => ?_, htail.ids⟩
      obtain ⟨other, hother, heq⟩ := mem_map.mp hmem
      exact (hfresh other hother).1 (by simp [heq])
    · rw [map_cons, nodup_cons]
      refine ⟨fun hmem => ?_, htail.nodeIds⟩
      obtain ⟨other, hother, heq⟩ := mem_map.mp hmem
      exact (hfresh other hother).2 (by simp [heq])
    · intro other hother n hn
      rcases mem_cons.mp hother with rfl | hother
      · rw [hn] at hself
        simpa using hself
      · exact htail.foreign other hother n hn
    · intro other hother
      rcases mem_cons.mp hother with rfl | hother
      · exact hmesh.1
      · exact htail.keys other hother
    · intro other hother
      rcases mem_cons.mp hother with rfl | hother
      · exact ⟨hid', hnode'⟩
      · have hoth' := hfresh other hother
        simp only [mem_cons, not_or] at hoth'
        exact ⟨hoth'.1.2, hoth'.2.2⟩

lemma findSome?_of_unique {f : α → Option β} {as : List α} {a : α} (ha : a ∈ as)
    (h : ∀ b ∈ as, b ≠ a → f b = none) : as.findSome? f = f a := by
  cases hf : f a with
  | none =>
    rw [findSome?_eq_none_iff]
    intro b hb
    by_cases hba : b = a
    · rw [hba, hf]
    · exact h b hb hba
  | some v =>
    have hsome : as.findSome? f ≠ none := by
      intro hnone
      rw [findSome?_eq_none_iff.mp hnone a ha] at hf
      cases hf
    obtain ⟨v', hv'⟩ := Option.ne_none_iff_exists'.mp hsome
    obtain ⟨b, hb, hfb⟩ := exists_of_findSome?_eq_some hv'
    by_cases hba : b = a
    · rw [hv', ← hfb, hba, hf]
    · rw [h b hb hba] at hfb
      cases hfb

/-- The facts about an accepted config that the MeshSec results need. -/
structure Accepted (cfg : Config) : Prop where
  peers : PeersValid cfg.node cfg.peers
  unique : ∀ peer ∈ cfg.peers, peer.meshsec.isSome = true → udpEgressCount cfg peer.id ≤ 1
  known : ∀ egress ∈ cfg.egresses, ∀ peerId, egress.peerId = some peerId →
    ∃ peer ∈ cfg.peers, peer.id = peerId

lemma accepted_of_validateConfig (h : validateConfig parseAddr cfg = .ok ()) : Accepted cfg := by
  simp only [validateConfig, seq_eq_ok] at h
  obtain ⟨-, -, -, -, -, -, -, hiden, huniq, -⟩ := h
  have hpeers : validatePeers cfg.node [] [] cfg.peers = .ok () ∧
      checkAll (validateEgressPeer cfg) cfg.egresses = .ok () := by
    unfold validateMeshIdentity at hiden
    split at hiden
    · simpa using hiden
    · simp only [seq_eq_ok] at hiden
      exact hiden.2.2
  refine ⟨(validatePeers_ok hpeers.1).1, ?_, ?_⟩
  · intro peer hpeer hmesh
    rw [validateMeshsecPeerUniqueness, checkAll_eq_ok] at huniq
    have hcount := huniq peer hpeer
    rw [hmesh] at hcount
    simp at hcount
    omega
  · intro egress hegress peerId hpeerId
    have hknown := (checkAll_eq_ok _ _).mp hpeers.2 egress hegress
    simp only [validateEgressPeer, hpeerId] at hknown
    split at hknown
    · cases hknown
    · rename_i peer hfind
      exact ⟨peer, mem_of_find?_eq_some hfind, by simpa using find?_some hfind⟩

namespace Accepted

lemma peer_eq_of_id (h : Accepted cfg) (hp : p ∈ cfg.peers)
    (hq : q ∈ cfg.peers) (hid : p.id = q.id) : p = q :=
  inj_on_of_nodup_map h.peers.ids hp hq hid

lemma peer_eq_of_nodeId (h : Accepted cfg) (hp : p ∈ cfg.peers)
    (hq : q ∈ cfg.peers) (hid : p.nodeId = q.nodeId) : p = q :=
  inj_on_of_nodup_map h.peers.nodeIds hp hq hid

lemma find_peer (h : Accepted cfg) (hpeer : peer ∈ cfg.peers) :
    (cfg.peers.find? fun p => p.id = peer.id) = some peer := by
  have hsome : (cfg.peers.find? fun p => p.id = peer.id).isSome = true := by
    rw [find?_isSome]
    exact ⟨peer, hpeer, by simp⟩
  obtain ⟨found, hfound⟩ := Option.isSome_iff_exists.mp hsome
  have hid : found.id = peer.id := by simpa using find?_some hfound
  rw [hfound, h.peer_eq_of_id (mem_of_find?_eq_some hfound) hpeer hid]

end Accepted

def peerContext (cfg : Config) (peer : PeerCfg) (bootSalt : Octets 4) :
    Option MeshSecSealContext := do
  let node ← cfg.node
  let meshsec ← peer.meshsec
  let staticKey ← meshsec.activeStaticKey
  pure { localNodeId := node.id, remoteNodeId := peer.nodeId, staticKey, bootSalt }

lemma peerContext_eq_some
    :
    peerContext cfg peer bootSalt = some ctx ↔
      ∃ node meshsec key, cfg.node = some node ∧ peer.meshsec = some meshsec ∧
        meshsec.activeStaticKey = some key ∧
        ctx = { localNodeId := node.id, remoteNodeId := peer.nodeId, staticKey := key, bootSalt } := by
  constructor
  · intro h
    simp only [peerContext, Option.bind_eq_bind, Option.bind_eq_some_iff, Option.pure_def,
      Option.some.injEq] at h
    obtain ⟨node, hnode, meshsec, hmesh, key, hkey, rfl⟩ := h
    exact ⟨node, meshsec, key, hnode, hmesh, hkey, rfl⟩
  · rintro ⟨node, meshsec, key, hnode, hmesh, hkey, rfl⟩
    simp [peerContext, hnode, hmesh, hkey]

namespace Accepted

section
variable (h : Accepted cfg) (hpeer : peer ∈ cfg.peers)
include h hpeer

lemma meshsecSealContext_eq (bootSalt : Octets 4) :
    cfg.meshsecSealContext peer.id bootSalt = peerContext cfg peer bootSalt := by
  simp [Config.meshsecSealContext, peerContext, h.find_peer hpeer]

lemma find_openKey :
    (cfg.meshsecOpenKeys.find? fun k => k.peerId = peer.id) = peer.openKeys.head? := by
  have hown : ∀ p : PeerCfg, ∀ k ∈ p.openKeys, k.peerId = p.id := by
    intro p k hk
    unfold PeerCfg.openKeys at hk
    split at hk
    · cases hk
    · obtain ⟨_, _, rfl⟩ := mem_map.mp hk
      rfl
  have hother : ∀ p ∈ cfg.peers, p ≠ peer →
      (p.openKeys.find? fun k => k.peerId = peer.id) = none := by
    intro p hp hne
    rw [find?_eq_none]
    intro k hk hid
    have hid' : k.peerId = peer.id := by simpa using hid
    rw [hown p k hk] at hid'
    exact hne (h.peer_eq_of_id hp hpeer hid')
  have hself : (peer.openKeys.find? fun k => k.peerId = peer.id) = peer.openKeys.head? := by
    cases hkeys : peer.openKeys with
    | nil => rfl
    | cons k ks =>
      have := hown peer k (by simp [hkeys])
      simp [this]
  rw [Config.meshsecOpenKeys, find?_flatMap, ← hself]
  exact findSome?_of_unique hpeer hother

lemma head_openKeys (hmesh : peer.meshsec = some meshsec) :
    ∃ key, meshsec.activeStaticKey = some key ∧ peer.openKeys.head? =
      some { peerId := peer.id, remoteNodeId := peer.nodeId, staticKey := key } := by
  obtain ⟨key, hactive, hhead⟩ := activeStaticKey_of_valid (h.peers.keys peer hpeer meshsec hmesh).2
  exact ⟨key, hactive, by simp [PeerCfg.openKeys, hmesh, hhead]⟩

end
end Accepted
end MeshBus.Runtime
