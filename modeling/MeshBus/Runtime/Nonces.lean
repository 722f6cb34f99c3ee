import MeshBus.Egress.MeshSec
import MeshBus.Ingress.ReplySeal
import MeshBus.Lib.Counters
import MeshBus.Runtime.Accepted

/-!
# Nonces of a running process

The process built from a config seals in two places: every mesh-peer egress with
MeshSec has a context and a counter, and every mesh-peer ingress has one counter
per peer it replies to.  All egresses share one boot salt; each ingress has its
own.  A nonce is the counter, so the question is whether two counters ever run
under one `K_tx`.
-/

namespace MeshBus.Runtime

open Lib MeshSec Egress Ingress List

/-! ## The sealing state of a process -/

/-- Reply sealing state of one ingress. -/
structure IngressSealer where
  ms : MeshSecIngress
  counters : ReplyCounters

/-- One slot per egress and per mesh-peer ingress; `none` where nothing is sealed. -/
structure Process where
  egresses : List (Option MeshSecEgress)
  ingresses : List (Option IngressSealer)

open Process

def egressSealer (cfg : Config) (bootSalt : Octets 4) (egress : EgressCfg) :
    Option MeshSecEgress := do
  let peerId ← egress.peerId
  let ctx ← cfg.meshsecSealContext peerId bootSalt
  pure (MeshSecEgress.new ctx)

def meshsecIngress (cfg : Config) (node : NodeCfg) (bootSalt : Octets 4) : MeshSecIngress where
  localNodeId := node.id
  keys := cfg.meshsecOpenKeys
  bootSalt := bootSalt

def ingressSealer (cfg : Config) (bootSalt : Octets 4) : Option IngressSealer :=
  match cfg.node with
  | none => none
  | some node =>
    if cfg.meshsecOpenKeys.isEmpty then none
    else some { ms := meshsecIngress cfg node bootSalt, counters := ∅ }

def isMeshPeerUdp : IngressCfg → Bool
  | .meshPeerUdp .. => true
  | _ => false

/-- `run`: one salt for all egresses, one for each mesh-peer ingress. -/
def Process.build (cfg : Config) (egressSalt : Octets 4) (ingressSalts : List (Octets 4)) :
    Process where
  egresses := cfg.egresses.map (egressSealer cfg egressSalt)
  ingresses := ingressSalts.map (ingressSealer cfg)

/-- Who draws a nonce: an egress, or an ingress replying to a peer. -/
inductive Sealer where
  | egress (i : Nat)
  | ingress (j : Nat) (peerId : String)
  deriving DecidableEq

/-- One call to `seal_bytes` or `seal_mesh_frame`. -/
structure SealUse where
  sealer : Sealer
  ctx : MeshSecSealContext
  epoch : UInt64
  counter : UInt64

def Process.sealStep (p : Process) (input : Sealer × UInt64) : Process × Option SealUse :=
  match input.1 with
  | .egress i =>
    match p.egresses[i]? with
    | some (some egress) =>
      let egress' := { egress with counter := egress.counter + 1 }
      ({ p with egresses := p.egresses.set i (some egress') },
        some ⟨input.1, egress.ctx, input.2, egress.counter⟩)
    | _ => (p, none)
  | .ingress j peerId =>
    match p.ingresses[j]? with
    | some (some ingress) =>
      match replySealFor ingress.ms peerId ingress.counters with
      | (counters, some (ctx, counter)) =>
        let ingress' := { ingress with counters := counters.insert peerId (counter + 1) }
        ({ p with ingresses := p.ingresses.set j (some ingress') },
          some ⟨input.1, ctx, input.2, counter⟩)
      | (_, none) => (p, none)
    | _ => (p, none)

def sealUses (p : Process) (inputs : List (Sealer × UInt64)) : List SealUse :=
  (run sealStep p inputs).2.filterMap id

/-- What `K_tx` is derived from. -/
structure TxMaterial where
  staticKey : Octets 32
  localNodeId : String
  direction : String
  epoch : UInt64
  bootSalt : Octets 4
  deriving DecidableEq

def SealUse.txMaterial (use : SealUse) : TxMaterial where
  staticKey := use.ctx.staticKey
  localNodeId := use.ctx.localNodeId
  direction := meshsecDirection use.ctx.localNodeId use.ctx.remoteNodeId
  epoch := use.epoch
  bootSalt := use.ctx.bootSalt

/-- No `K_tx` is used twice with the same counter. -/
def NoNonceReuse (uses : List SealUse) : Prop :=
  (uses.map fun use => (use.txMaterial, use.counter)).Nodup

/-! ## The process as a family of counters -/

namespace Process

def contextOf (p : Process) : Sealer → Option MeshSecSealContext
  | .egress i => (p.egresses[i]?.join).map MeshSecEgress.ctx
  | .ingress j peerId => (p.ingresses[j]?.join).bind fun ingress => replyContext ingress.ms peerId

def counterOf (p : Process) : Sealer → UInt64
  | .egress i => ((p.egresses[i]?.join).map MeshSecEgress.counter).getD 1
  | .ingress j peerId =>
    ((p.ingresses[j]?.join).map fun ingress => replyCounter ingress.counters peerId).getD 1

variable {ctx : MeshSecSealContext} {p : Process}

lemma sealStep_none (epoch : UInt64) (h : p.contextOf sealer = none) :
    p.sealStep (sealer, epoch) = (p, none) := by
  cases sealer with
  | egress i =>
    simp only [contextOf] at h
    cases hget : p.egresses[i]? with
    | none => simp [sealStep, hget]
    | some slot =>
      cases slot with
      | none => simp [sealStep, hget]
      | some egress => simp [hget] at h
  | ingress j peerId =>
    simp only [contextOf] at h
    cases hget : p.ingresses[j]? with
    | none => simp [sealStep, hget]
    | some slot =>
      cases slot with
      | none => simp [sealStep, hget]
      | some ingress =>
        have hctx : replyContext ingress.ms peerId = none := by simpa [hget] using h
        simp [sealStep, hget, replySealFor, hctx]

private lemma egress_of_contextOf (h : p.contextOf (.egress i) = some ctx) :
    ∃ egress, p.egresses[i]? = some (some egress) ∧ egress.ctx = ctx := by
  cases hget : p.egresses[i]? with
  | none => simp [contextOf, hget] at h
  | some slot =>
    cases slot with
    | none => simp [contextOf, hget] at h
    | some egress => exact ⟨egress, rfl, by simpa [contextOf, hget] using h⟩

private lemma ingress_of_contextOf (h : p.contextOf (.ingress j peerId) = some ctx) :
    ∃ ingress, p.ingresses[j]? = some (some ingress) ∧
      replyContext ingress.ms peerId = some ctx := by
  cases hget : p.ingresses[j]? with
  | none => simp [contextOf, hget] at h
  | some slot =>
    cases slot with
    | none => simp [contextOf, hget] at h
    | some ingress => exact ⟨ingress, rfl, by simpa [contextOf, hget] using h⟩

private lemma getElem?_set_of_some {as : List α} {a : α} (h : as[i]? = some a) :
    (as.set i b)[k]? = if i = k then some b else as[k]? := by
  have hlt : i < as.length := (List.getElem?_eq_some_iff.mp h).1
  rw [getElem?_set]
  by_cases hk : i = k
  · rw [if_pos hk, if_pos hk, if_pos hlt]
  · rw [if_neg hk, if_neg hk]

/-- Sealing draws the sealer's next number and changes nothing else. -/
structure DrawsNext (p : Process) (sealer : Sealer) (epoch : UInt64) (ctx : MeshSecSealContext)
    (sealed : Process × Option SealUse) : Prop where
  use : sealed.2 = some ⟨sealer, ctx, epoch, p.counterOf sealer⟩
  contexts : sealed.1.contextOf = p.contextOf
  counters : sealed.1.counterOf = (takeNumber p.counterOf sealer).1

lemma sealStep_egress (hget : p.egresses[i]? = some (some egress)) :
    DrawsNext p (.egress i) epoch egress.ctx (p.sealStep (.egress i, epoch)) := by
  have hstep : p.sealStep (.egress i, epoch) =
      ({ p with egresses :=
          p.egresses.set i (some { egress with counter := egress.counter + 1 }) },
        some ⟨.egress i, egress.ctx, epoch, egress.counter⟩) := by
    simp [sealStep, hget]
  rw [hstep]
  refine ⟨by simp [counterOf, hget], ?_, ?_⟩
  · funext other
    cases other with
    | ingress j peerId => rfl
    | egress k =>
      simp only [contextOf, getElem?_set_of_some hget]
      by_cases hk : i = k
      · subst hk
        simp [hget]
      · simp [hk]
  · funext other
    cases other with
    | ingress j peerId => simp [counterOf, takeNumber]
    | egress k =>
      simp only [counterOf, takeNumber, getElem?_set_of_some hget]
      by_cases hk : i = k
      · subst hk
        simp [hget]
      · simp [hk, Ne.symm hk, counterOf]

lemma sealStep_ingress (hget : p.ingresses[j]? = some (some ingress))
    (hctx : replyContext ingress.ms peerId = some ctx) :
    DrawsNext p (.ingress j peerId) epoch ctx (p.sealStep (.ingress j peerId, epoch)) := by
  have hstep : p.sealStep (.ingress j peerId, epoch) =
      ({ p with ingresses := p.ingresses.set j (some { ingress with
          counters := (ingress.counters.insert peerId
            (replyCounter ingress.counters peerId)).insert peerId
              (replyCounter ingress.counters peerId + 1) }) },
        some ⟨.ingress j peerId, ctx, epoch, replyCounter ingress.counters peerId⟩) := by
    simp [sealStep, hget, replySealFor, hctx]
  rw [hstep]
  refine ⟨by simp [counterOf, hget], ?_, ?_⟩
  · funext other
    cases other with
    | egress i => rfl
    | ingress k peerId' =>
      simp only [contextOf, getElem?_set_of_some hget]
      by_cases hk : j = k
      · subst hk
        simp [hget]
      · simp [hk]
  · funext other
    cases other with
    | egress i => simp [counterOf, takeNumber]
    | ingress k peerId' =>
      simp only [counterOf, takeNumber, getElem?_set_of_some hget]
      by_cases hk : j = k
      · subst hk
        by_cases hpeer : peerId' = peerId
        · subst hpeer
          simp [hget, replyCounter_insert]
        · simp [hget, replyCounter_insert, hpeer, counterOf]
      · simp [hk, Ne.symm hk, counterOf]

lemma sealStep_some (epoch : UInt64) (h : p.contextOf sealer = some ctx) :
    DrawsNext p sealer epoch ctx (p.sealStep (sealer, epoch)) := by
  cases sealer with
  | egress i =>
    obtain ⟨egress, hget, rfl⟩ := egress_of_contextOf h
    exact sealStep_egress hget
  | ingress j peerId =>
    obtain ⟨ingress, hget, hctx⟩ := ingress_of_contextOf h
    exact sealStep_ingress hget hctx

end Process

lemma sealUses_cons (p : Process) (input : Sealer × UInt64) (inputs : List (Sealer × UInt64)) :
    sealUses p (input :: inputs) =
      (p.sealStep input).2.toList ++ sealUses (p.sealStep input).1 inputs := by
  unfold sealUses
  rw [run_cons]
  cases (p.sealStep input).2 <;> simp

lemma sealUses_simulates (p : Process) {inputs : List (Sealer × UInt64)} :
    (sealUses p inputs).map (fun use => (use.sealer, use.counter)) =
      history takeNumber p.counterOf
        ((inputs.map Prod.fst).filter fun sealer => (p.contextOf sealer).isSome) := by
  induction inputs generalizing p with
  | nil => rfl
  | cons input inputs ih =>
    obtain ⟨sealer, epoch⟩ := input
    rw [sealUses_cons]
    cases hctx : p.contextOf sealer with
    | none =>
      rw [sealStep_none epoch hctx]
      simpa [hctx] using ih p
    | some ctx =>
      obtain ⟨hout, hsame, hnext⟩ := sealStep_some epoch hctx
      have hrest := ih (p.sealStep (sealer, epoch)).1
      rw [hsame, hnext] at hrest
      rw [hout, map_cons, filter_cons_of_pos (by simp [hctx]), history_cons,
        ← hrest]
      rfl

lemma contextOf_of_mem_sealUses
    (h : use ∈ sealUses p inputs) : p.contextOf use.sealer = some use.ctx := by
  induction inputs generalizing p with
  | nil => simp [sealUses] at h
  | cons input inputs ih =>
    obtain ⟨sealer, epoch⟩ := input
    rw [sealUses_cons] at h
    cases hctx : p.contextOf sealer with
    | none =>
      rw [sealStep_none epoch hctx] at h
      exact ih (by simpa using h)
    | some ctx =>
      obtain ⟨hout, hsame, -⟩ := sealStep_some epoch hctx
      rw [hout] at h
      rcases mem_append.mp h with hnow | hlater
      · have huse : use = ⟨sealer, ctx, epoch, p.counterOf sealer⟩ := by simpa using hnow
        rw [huse]
        exact hctx
      · rw [← hsame]
        exact ih hlater

lemma noNonceReuse_of_separate
    (hsep : ∀ a b ctx ctx', p.contextOf a = some ctx → p.contextOf b = some ctx' →
      ctx.staticKey = ctx'.staticKey → ctx.bootSalt = ctx'.bootSalt →
      meshsecDirection ctx.localNodeId ctx.remoteNodeId =
        meshsecDirection ctx'.localNodeId ctx'.remoteNodeId → a = b)
    (inputs : List (Sealer × UInt64)) (hlen : inputs.length ≤ 2 ^ 64) :
    NoNonceReuse (sealUses p inputs) := by
  have hdist : ((sealUses p inputs).map fun use => (use.sealer, use.counter)).Nodup := by
    rw [sealUses_simulates]
    apply history_takeNumber_nodup
    have hfilter := length_filter_le (fun sealer => (p.contextOf sealer).isSome)
      (inputs.map Prod.fst)
    rw [length_map] at hfilter
    omega
  unfold NoNonceReuse
  rw [List.Nodup, pairwise_map] at hdist ⊢
  refine hdist.imp_of_mem ?_
  intro use use' huse huse' hne heq
  apply hne
  simp only [SealUse.txMaterial, Prod.mk.injEq, TxMaterial.mk.injEq] at heq
  obtain ⟨⟨hkey, -, hdir, -, hsalt⟩, hcoun⟩ := heq
  rw [hsep use.sealer use'.sealer _ _ (contextOf_of_mem_sealUses huse)
    (contextOf_of_mem_sealUses huse') hkey hsalt hdir, hcoun]

/-! ## Which configs keep their sealers apart -/

/-- Two peers whose traffic from this node is sealed under one `K_tx`, given one salt. -/
def SharesTxKey (cfg : Config) (p q : PeerCfg) : Prop :=
  p ≠ q ∧ ∃ node mp mq key, cfg.node = some node ∧ p.meshsec = some mp ∧ q.meshsec = some mq ∧
    mp.activeStaticKey = some key ∧ mq.activeStaticKey = some key ∧
    meshsecDirection node.id p.nodeId = meshsecDirection node.id q.nodeId

def BoundByEgress (cfg : Config) (peer : PeerCfg) : Prop :=
  ∃ egress ∈ cfg.egresses, egress.peerId = some peer.id

/-- Peers that share a `K_tx` are not both bound by egresses, and there is no
ingress that could reply to both. -/
def TxSeparated (cfg : Config) : Prop :=
  ∀ p ∈ cfg.peers, ∀ q ∈ cfg.peers, SharesTxKey cfg p q →
    ¬ (BoundByEgress cfg p ∧ BoundByEgress cfg q) ∧ cfg.ingresses.countP isMeshPeerUdp = 0

section
variable {cfg : Config} {egressSalt : Octets 4}

lemma contextOf_egress (h : Accepted cfg)
    (hctx : (build cfg egressSalt ingressSalts).contextOf (.egress i) = some ctx) :
    ∃ egress peer, cfg.egresses[i]? = some egress ∧ peer ∈ cfg.peers ∧
      egress.peerId = some peer.id ∧ peerContext cfg peer egressSalt = some ctx := by
  simp only [contextOf, build, getElem?_map] at hctx
  cases hget : cfg.egresses[i]? with
  | none => simp [hget] at hctx
  | some egress =>
    cases hpeerId : egress.peerId with
    | none => simp [hget, egressSealer, hpeerId] at hctx
    | some peerId =>
      obtain ⟨peer, hpeer, rfl⟩ := h.known egress (mem_of_getElem? hget) peerId hpeerId
      refine ⟨egress, peer, rfl, hpeer, hpeerId, ?_⟩
      rw [← h.meshsecSealContext_eq hpeer]
      cases hseal : cfg.meshsecSealContext peer.id egressSalt with
      | none => simp [hget, egressSealer, hpeerId, hseal] at hctx
      | some ctx' => simpa [hget, egressSealer, hpeerId, hseal, MeshSecEgress.new] using hctx

lemma contextOf_egress_of_bound (h : Accepted cfg) {peer : PeerCfg} (hpeer : peer ∈ cfg.peers)
    (hbound : BoundByEgress cfg peer) :
    ∃ i, (∃ egress, cfg.egresses[i]? = some egress ∧ egress.peerId = some peer.id) ∧
      (build cfg egressSalt ingressSalts).contextOf (.egress i) =
        peerContext cfg peer egressSalt := by
  obtain ⟨egress, hmem, hpeerId⟩ := hbound
  obtain ⟨i, hget⟩ := getElem?_of_mem hmem
  refine ⟨i, ⟨egress, hget, hpeerId⟩, ?_⟩
  rw [← h.meshsecSealContext_eq hpeer]
  simp only [contextOf, build, getElem?_map, hget, Option.map_some]
  cases hseal : cfg.meshsecSealContext peer.id egressSalt with
  | none => simp [egressSealer, hpeerId, hseal]
  | some ctx => simp [egressSealer, hpeerId, hseal, MeshSecEgress.new]

lemma replyContext_eq (h : Accepted cfg) (hnode : cfg.node = some node)
    (hpeer : peer ∈ cfg.peers) (bootSalt : Octets 4) :
    replyContext (meshsecIngress cfg node bootSalt) peer.id = peerContext cfg peer bootSalt := by
  rw [replyContext, meshsecIngress, h.find_openKey hpeer]
  cases hmesh : peer.meshsec with
  | none => simp [PeerCfg.openKeys, hmesh, peerContext, hnode]
  | some meshsec =>
    obtain ⟨key, hactive, hhead⟩ := h.head_openKeys hpeer hmesh
    simp [hhead, peerContext, hnode, hmesh, hactive]

lemma contextOf_ingress (h : Accepted cfg)
    (hctx : (build cfg egressSalt ingressSalts).contextOf (.ingress j peerId) =
      some ctx) :
    ∃ bootSalt peer, ingressSalts[j]? = some bootSalt ∧ peer ∈ cfg.peers ∧ peer.id = peerId ∧
      peerContext cfg peer bootSalt = some ctx := by
  simp only [contextOf, build, getElem?_map] at hctx
  cases hget : ingressSalts[j]? with
  | none => simp [hget] at hctx
  | some bootSalt =>
    cases hnode : cfg.node with
    | none => simp [hget, ingressSealer, hnode] at hctx
    | some node =>
      by_cases hempty : cfg.meshsecOpenKeys = []
      · simp [hget, ingressSealer, hnode, hempty] at hctx
      · have hreply : replyContext (meshsecIngress cfg node bootSalt) peerId = some ctx := by
          simpa [hget, ingressSealer, hnode, hempty] using hctx
        -- The key that was found belongs to some peer, whose id is the one asked for.
        have hfound := hreply
        rw [replyContext, Option.map_eq_some_iff] at hfound
        obtain ⟨key, hkey, -⟩ := hfound
        obtain ⟨peer, hpeer, hmem⟩ := mem_flatMap.mp (mem_of_find?_eq_some hkey)
        have hid : peer.id = peerId := by
          have hkeyId : key.peerId = peerId := by simpa using find?_some hkey
          rw [← hkeyId]
          unfold PeerCfg.openKeys at hmem
          split at hmem
          · cases hmem
          · obtain ⟨_, _, rfl⟩ := mem_map.mp hmem
            rfl
        subst hid
        exact ⟨bootSalt, peer, rfl, hpeer, rfl, by rw [← replyContext_eq h hnode hpeer, hreply]⟩

lemma contextOf_ingress_eq (h : Accepted cfg) {node : NodeCfg} (hnode : cfg.node = some node)
    {peer : PeerCfg} (hpeer : peer ∈ cfg.peers) {meshsec : MeshSecPeerCfg}
    (hmesh : peer.meshsec = some meshsec) {j : Nat} {bootSalt : Octets 4}
    (hsalt : ingressSalts[j]? = some bootSalt) :
    (build cfg egressSalt ingressSalts).contextOf (.ingress j peer.id) =
      peerContext cfg peer bootSalt := by
  obtain ⟨key, -, hhead⟩ := h.head_openKeys hpeer hmesh
  have hkeys : cfg.meshsecOpenKeys ≠ [] := by
    intro hempty
    have hfind := h.find_openKey hpeer
    rw [hhead, hempty] at hfind
    cases hfind
  rw [← replyContext_eq h hnode hpeer]
  simp [contextOf, build, hsalt, ingressSealer, hnode, hkeys]

lemma counterOf_build : (build cfg egressSalt ingressSalts).counterOf sealer = 1 := by
  cases sealer with
  | egress i =>
    simp only [counterOf, build, getElem?_map]
    cases cfg.egresses[i]? with
    | none => rfl
    | some egress =>
      cases hpeerId : egress.peerId with
      | none => simp [egressSealer, hpeerId]
      | some peerId =>
        cases hseal : cfg.meshsecSealContext peerId egressSalt <;>
          simp [egressSealer, hpeerId, hseal, MeshSecEgress.new]
  | ingress j peerId =>
    simp only [counterOf, build, getElem?_map]
    cases ingressSalts[j]? with
    | none => rfl
    | some bootSalt =>
      cases hnode : cfg.node with
      | none => simp [ingressSealer, hnode]
      | some node =>
        by_cases hempty : cfg.meshsecOpenKeys = [] <;>
          simp [ingressSealer, hnode, hempty, replyCounter]

end

lemma nonceReuse_of_shared (hab : a ≠ b) (ha : p.contextOf a = some ctx)
    (hb : p.contextOf b = some ctx') (hkey : ctx.staticKey = ctx'.staticKey)
    (hlocal : ctx.localNodeId = ctx'.localNodeId) (hsalt : ctx.bootSalt = ctx'.bootSalt)
    (hdir : meshsecDirection ctx.localNodeId ctx.remoteNodeId =
      meshsecDirection ctx'.localNodeId ctx'.remoteNodeId) (hcoun : p.counterOf a = p.counterOf b) :
    ¬ NoNonceReuse (sealUses p [(a, epoch), (b, epoch)]) := by
  obtain ⟨hout, hsame, hnext⟩ := sealStep_some epoch ha
  have hb' : (p.sealStep (a, epoch)).1.contextOf b = some ctx' := by rw [hsame, hb]
  obtain ⟨hout', -, -⟩ := sealStep_some epoch hb'
  have hcoun' : (p.sealStep (a, epoch)).1.counterOf b = p.counterOf b := by
    rw [hnext]
    simp [takeNumber, hab.symm]
  rw [sealUses_cons, sealUses_cons, hout, hout', hcoun']
  simp [NoNonceReuse, sealUses, SealUse.txMaterial, hkey, hlocal, hsalt, ← hdir, hcoun]

private lemma two_le_countP {p : α → Bool} {as : List α} {i j : Nat} (hij : i < j)
    {a b : α} (ha : as[i]? = some a) (hb : as[j]? = some b) (hpa : p a = true)
    (hpb : p b = true) : 2 ≤ as.countP p := by
  have hleft : 0 < (as.take j).countP p := by
    rw [countP_pos_iff]
    refine ⟨a, mem_of_getElem? (i := i) ?_, hpa⟩
    rw [getElem?_take_of_lt hij, ha]
  have hright : 0 < (as.drop j).countP p := by
    rw [countP_pos_iff]
    refine ⟨b, mem_of_getElem? (i := 0) ?_, hpb⟩
    rw [getElem?_drop, add_zero, hb]
  rw [← take_append_drop j as, countP_append]
  omega

section
variable {cfg : Config} {egressSalt : Octets 4} {ingressSalts : List (Octets 4)}

private lemma sharesTxKey_of_contexts (hne : p ≠ q) (hp : peerContext cfg p salt = some ctx)
    (hq : peerContext cfg q salt' = some ctx') (hkey : ctx.staticKey = ctx'.staticKey)
    (hdir : meshsecDirection ctx.localNodeId ctx.remoteNodeId =
      meshsecDirection ctx'.localNodeId ctx'.remoteNodeId) : SharesTxKey cfg p q := by
  obtain ⟨node, mp, key, hnode, hmp, hkp, rfl⟩ := peerContext_eq_some.mp hp
  obtain ⟨node', mq, key', hnode', hmq, hkq, rfl⟩ := peerContext_eq_some.mp hq
  obtain rfl : node = node' := Option.some.inj (hnode.symm.trans hnode')
  subst hkey
  exact ⟨hne, node, mp, mq, key, hnode, hmp, hmq, hkp, hkq, hdir⟩

private lemma bootSalt_of_peerContext (h : peerContext cfg peer salt = some ctx) :
    ctx.bootSalt = salt := by
  obtain ⟨_, _, _, _, _, _, rfl⟩ := peerContext_eq_some.mp h
  rfl

lemma egress_index_inj (huniq : udpEgressCount cfg peerId ≤ 1) {i i' : Nat}
    (hget : cfg.egresses[i]? = some e) (hget' : cfg.egresses[i']? = some e')
    (hpeer : e.peerId = some peerId) (hpeer' : e'.peerId = some peerId) : i = i' := by
  unfold udpEgressCount at huniq
  rcases Nat.lt_trichotomy i i' with hlt | rfl | hgt
  · have htwo := two_le_countP hlt hget hget' (p := fun e => e.peerId = some peerId)
      (by simp [hpeer]) (by simp [hpeer'])
    omega
  · rfl
  · have htwo := two_le_countP hgt hget' hget (p := fun e => e.peerId = some peerId)
      (by simp [hpeer']) (by simp [hpeer])
    omega

lemma sealers_separate (h : Accepted cfg) (hsep : TxSeparated cfg)
    (hsalts : (egressSalt :: ingressSalts).Nodup)
    (hlen : ingressSalts.length = cfg.ingresses.countP isMeshPeerUdp)
    (a b : Sealer) (ctx ctx' : MeshSecSealContext)
    (ha : (build cfg egressSalt ingressSalts).contextOf a = some ctx)
    (hb : (build cfg egressSalt ingressSalts).contextOf b = some ctx')
    (hkey : ctx.staticKey = ctx'.staticKey) (hsalt : ctx.bootSalt = ctx'.bootSalt)
    (hdir : meshsecDirection ctx.localNodeId ctx.remoteNodeId =
      meshsecDirection ctx'.localNodeId ctx'.remoteNodeId) : a = b := by
  rw [nodup_cons] at hsalts
  cases a with
  | egress i =>
    obtain ⟨e, p, hget, hp, hpeer, hctx⟩ := contextOf_egress h ha
    cases b with
    | egress i' =>
      obtain ⟨e', q, hget', hq, hpeer', hctx'⟩ := contextOf_egress h hb
      by_cases hpq : p = q
      · subst hpq
        obtain ⟨_, meshsec, _, _, hmesh, _, _⟩ := peerContext_eq_some.mp hctx
        have huniq : udpEgressCount cfg p.id ≤ 1 := h.unique p hp (by rw [hmesh]; rfl)
        rw [egress_index_inj huniq hget hget' hpeer hpeer']
      · have hshared := sharesTxKey_of_contexts hpq hctx hctx' hkey hdir
        exact absurd ⟨⟨e, mem_of_getElem? hget, hpeer⟩,
          ⟨e', mem_of_getElem? hget', hpeer'⟩⟩ (hsep p hp q hq hshared).1
    | ingress j' peerId' =>
      obtain ⟨salt', q, hsalt', -, -, hctx'⟩ := contextOf_ingress h hb
      rw [bootSalt_of_peerContext hctx, bootSalt_of_peerContext hctx'] at hsalt
      exact absurd (hsalt ▸ mem_of_getElem? hsalt') hsalts.1
  | ingress j peerId =>
    obtain ⟨salt, p, hget, hp, hid, hctx⟩ := contextOf_ingress h ha
    cases b with
    | egress i' =>
      obtain ⟨e', q, -, -, -, hctx'⟩ := contextOf_egress h hb
      rw [bootSalt_of_peerContext hctx, bootSalt_of_peerContext hctx'] at hsalt
      exact absurd (hsalt ▸ mem_of_getElem? hget) hsalts.1
    | ingress j' peerId' =>
      obtain ⟨salt', q, hget', hq, hid', hctx'⟩ := contextOf_ingress h hb
      rw [bootSalt_of_peerContext hctx, bootSalt_of_peerContext hctx'] at hsalt
      subst hsalt
      have hj : j = j' := by
        obtain ⟨hlt, hval⟩ := List.getElem?_eq_some_iff.mp hget
        obtain ⟨hlt', hval'⟩ := List.getElem?_eq_some_iff.mp hget'
        exact (hsalts.2.getElem_inj_iff).mp (hval.trans hval'.symm)
      by_cases hpq : p = q
      · rw [hj, ← hid, ← hid', hpq]
      · have hshared := sharesTxKey_of_contexts hpq hctx hctx' hkey hdir
        have hnone := (hsep p hp q hq hshared).2
        have hlt := (List.getElem?_eq_some_iff.mp hget).1
        omega

lemma nonceReuse_of_sharesTxKey (h : Accepted cfg)
    (hlen : ingressSalts.length = cfg.ingresses.countP isMeshPeerUdp)
    (hp : p ∈ cfg.peers) (hq : q ∈ cfg.peers) (hshared : SharesTxKey cfg p q)
    (hseals : (BoundByEgress cfg p ∧ BoundByEgress cfg q) ∨
      cfg.ingresses.countP isMeshPeerUdp ≠ 0) :
    ∃ inputs : List (Sealer × UInt64), inputs.length ≤ 2 ^ 64 ∧
      ¬ NoNonceReuse (sealUses (build cfg egressSalt ingressSalts) inputs) := by
  obtain ⟨hne, node, mp, mq, key, hnode, hmp, hmq, hkp, hkq, hdir⟩ := hshared
  have hid : p.id ≠ q.id := fun hid => hne (h.peer_eq_of_id hp hq hid)
  have hctxp : ∀ salt, peerContext cfg p salt = some ⟨node.id, p.nodeId, key, salt⟩ :=
    fun salt => peerContext_eq_some.mpr ⟨node, mp, key, hnode, hmp, hkp, rfl⟩
  have hctxq : ∀ salt, peerContext cfg q salt = some ⟨node.id, q.nodeId, key, salt⟩ :=
    fun salt => peerContext_eq_some.mpr ⟨node, mq, key, hnode, hmq, hkq, rfl⟩
  have hcoun : ∀ a b, (build cfg egressSalt ingressSalts).counterOf a =
      (build cfg egressSalt ingressSalts).counterOf b := by
    intro a b
    rw [counterOf_build, counterOf_build]
  rcases hseals with ⟨hboundp, hboundq⟩ | hcount
  · obtain ⟨i, ⟨e, hget, hpeer⟩, hi⟩ :=
      @contextOf_egress_of_bound cfg egressSalt ingressSalts h p hp hboundp
    obtain ⟨i', ⟨e', hget', hpeer'⟩, hi'⟩ :=
      @contextOf_egress_of_bound cfg egressSalt ingressSalts h q hq hboundq
    have hii : i ≠ i' := by
      rintro rfl
      rw [hget] at hget'
      cases hget'
      rw [hpeer] at hpeer'
      exact hid (Option.some.inj hpeer')
    rw [hctxp] at hi
    rw [hctxq] at hi'
    refine ⟨[(.egress i, 0), (.egress i', 0)], by simp, ?_⟩
    exact nonceReuse_of_shared (by simpa using hii) hi hi' rfl rfl rfl hdir
      (hcoun _ _)
  · have hpos : 0 < ingressSalts.length := by omega
    have hsalt := getElem?_eq_getElem hpos
    have hi := @contextOf_ingress_eq cfg egressSalt ingressSalts h node hnode p hp mp hmp 0 _ hsalt
    have hi' := @contextOf_ingress_eq cfg egressSalt ingressSalts h node hnode q hq mq hmq 0 _ hsalt
    rw [hctxp] at hi
    rw [hctxq] at hi'
    refine ⟨[(.ingress 0 p.id, 0), (.ingress 0 q.id, 0)], by simp, ?_⟩
    exact nonceReuse_of_shared (by simpa using hid) hi hi' rfl rfl rfl hdir
      (hcoun _ _)

/-- For an accepted config and distinct salts: no nonce is ever reused within
`2 ^ 64` seals exactly when the config keeps its `K_tx` apart. -/
theorem noNonceReuse_iff (parseAddr : AddrParser) (cfg : Config) (egressSalt : Octets 4)
    (ingressSalts : List (Octets 4)) (hvalid : validateConfig parseAddr cfg = .ok ())
    (hsalts : (egressSalt :: ingressSalts).Nodup)
    (hlen : ingressSalts.length = cfg.ingresses.countP isMeshPeerUdp) :
    (∀ inputs : List (Sealer × UInt64), inputs.length ≤ 2 ^ 64 →
      NoNonceReuse (sealUses (build cfg egressSalt ingressSalts) inputs)) ↔
    TxSeparated cfg := by
  have h := accepted_of_validateConfig hvalid
  constructor
  · intro hall p hp q hq hshared
    by_contra hbreak
    have hseals : (BoundByEgress cfg p ∧ BoundByEgress cfg q) ∨
        cfg.ingresses.countP isMeshPeerUdp ≠ 0 := by
      by_cases hbound : BoundByEgress cfg p ∧ BoundByEgress cfg q
      · exact Or.inl hbound
      · exact Or.inr fun hzero => hbreak ⟨hbound, hzero⟩
    obtain ⟨inputs, hshort, hreuse⟩ := nonceReuse_of_sharesTxKey h hlen hp hq hshared hseals
    exact hreuse (hall inputs hshort)
  · intro hsep inputs hshort
    exact noNonceReuse_of_separate (sealers_separate h hsep hsalts hlen) inputs hshort

end

/-! ## Two configs -/

def meshEgress (id peerId peer : String) : EgressCfg where
  id := id
  wanId := none
  priority := 1
  groups := []
  timeoutMs := 1000
  kind := .meshPeerUdp peerId peer .secureUdpNative .steer 2 4

def keyedPeer (id nodeId hex : String) : PeerCfg where
  id := id
  nodeId := nodeId
  routeGroups := []
  meshsec := some { staticKeyHex := some hex, activeKeyId := none, keyring := [] }

def meshConfig (peers : List PeerCfg) (egresses : List EgressCfg) : Config where
  node := some ⟨"a"⟩
  peers := peers
  loggingLevel := "info"
  health := ⟨3, 30000, 5000⟩
  metrics := none
  operator := none
  scheduler := .cake
  ingresses := [.socks5 "127.0.0.1:1080" none none none none none none]
  egresses := egresses
  pipeline := none

def hexKeyA : String := "00112233445566778899aabbccddeeff00112233445566778899aabbccddeeff"
def hexKeyB : String := "ff112233445566778899aabbccddeeff00112233445566778899aabbccddeeff"

/-- Two peers, one key: node ids `b` and `c` are both above the local `a`. -/
def sharedKeyConfig : Config :=
  meshConfig [keyedPeer "pb" "b" hexKeyA, keyedPeer "pc" "c" hexKeyA]
    [meshEgress "eb" "pb" "127.0.0.1:7000", meshEgress "ec" "pc" "127.0.0.1:7001"]

/-- The validator accepts two peers with one key, and the first packet to each
of them uses the same `K_tx` with the same counter. -/
theorem sharedKeyConfig_reuses_nonce :
    validateConfig (fun _ => .ok true) sharedKeyConfig = .ok () ∧
    ¬ NoNonceReuse (sealUses (build sharedKeyConfig (Vector.replicate 4 1) [])
      [(.egress 0, 700), (.egress 1, 700)]) := by
  refine ⟨by decide, ?_⟩
  unfold NoNonceReuse
  decide

/-- The same two peers with a key each. -/
theorem noNonceReuse_iff_two_keys :
    let cfg := meshConfig [keyedPeer "pb" "b" hexKeyA, keyedPeer "pc" "c" hexKeyB]
      [meshEgress "eb" "pb" "127.0.0.1:7000", meshEgress "ec" "pc" "127.0.0.1:7001"]
    (∀ inputs : List (Sealer × UInt64), inputs.length ≤ 2 ^ 64 →
      NoNonceReuse (sealUses (build cfg (Vector.replicate 4 1) []) inputs)) ↔
    TxSeparated cfg :=
  noNonceReuse_iff (fun _ => .ok true) _ (Vector.replicate 4 1) [] (by decide) (by decide)
    (by decide)

end MeshBus.Runtime
