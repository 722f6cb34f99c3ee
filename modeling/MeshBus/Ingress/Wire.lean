import MeshBus.Egress.Sender
import MeshBus.Ingress.Step

/-!
# Agreement on the wire

What an egress sender encodes, the ingress of its peer decodes: in both wire
modes, clear and sealed.  In native mode a data frame also has to be the next of
its family; it then comes out first, followed by what the family had buffered
right behind it.
-/

namespace MeshBus.Ingress

open Lib MeshSec Proto Reorder Egress List Sender

/-! ## The sender's half -/

section
variable {sender : Sender Addr}

lemma encoded_of_sent (h : (sender.encodeFrameDatagrams P now frame).2 = .ok datagrams) :
    datagrams ≠ [] ∧ ∀ datagram ∈ datagrams,
      sender.encoded P now frame = .ok datagram.payload ∧
        datagram.payload.length ≤ maxUdpPayloadBytes := by
  unfold encodeFrameDatagrams at h
  split at h
  · cases h
  · rename_i bytes hbytes
    split at h
    · cases h
    · rename_i hfits
      cases h
      refine ⟨?_, ?_⟩
      · rw [Ne, replicate_eq_nil_iff]
        exact Nat.pos_iff_ne_zero.mp (EgressPolicy.sendCopies_pos _)
      · intro datagram hmem
        rw [eq_of_mem_replicate hmem]
        exact ⟨hbytes, Nat.le_of_not_lt hfits⟩

lemma sent_of_encoded (h : sender.encoded P now frame = .ok bytes)
    (hfits : bytes.length ≤ maxUdpPayloadBytes) :
    ∃ datagrams, (sender.encodeFrameDatagrams P now frame).2 = .ok datagrams ∧
      ⟨sender.peer, bytes⟩ ∈ datagrams := by
  unfold encodeFrameDatagrams
  rw [h]
  dsimp only
  rw [if_neg (not_lt.mpr hfits)]
  exact ⟨_, rfl, mem_replicate.mpr ⟨Nat.pos_iff_ne_zero.mp (EgressPolicy.sendCopies_pos _), rfl⟩⟩

lemma packet_of_encoded (hms : sender.meshsec = some ms)
    (h : sender.encoded P now frame = .ok bytes) :
    (sender.sealCall ms now frame).packet P = .ok bytes := by
  have hmap : ∀ {x : Except MeshSecError Bytes},
      x.mapError (fun _ => SendError.closed) = .ok bytes → x = .ok bytes := by
    intro x hx
    cases x with
    | error e => cases hx
    | ok b =>
      cases hx
      rfl
  unfold encoded at h
  rw [hms] at h
  cases hmode : sender.nativeEventMode with
  | meshFrame =>
    rw [hmode] at h
    have hseal := hmap h
    simpa [SealCall.packet, sealCall, clearOf, hmode, sealMeshFrame] using hseal
  | secureUdpNative =>
    rw [hmode] at h
    have hseal := hmap h
    simpa [SealCall.packet, sealCall, clearOf, hmode] using hseal

end

/-! ## The event of a frame -/

section
variable {policyId : String}

lemma eventFramePayload_frameEvent :
    eventFramePayload (frameEvent policyId frame) = some (encodeFrame frame) := rfl

lemma decodeFrame_of_small (hlen : (encodeFrame frame).length < 2 ^ 32) :
    decodeFrame (encodeFrame frame) = .ok frame := by
  apply decodeFrame_encodeFrame
  unfold encodeFrame at hlen
  rw [length_envelope] at hlen
  omega

lemma decode_frameEvent (hlen : (encodeEvent (frameEvent policyId frame)).length < 2 ^ 32) :
    decodeEvent (encodeEvent (frameEvent policyId frame)) = .ok (frameEvent policyId frame) ∧
      decodeFrame (encodeFrame frame) = .ok frame := by
  unfold encodeEvent at hlen
  rw [length_envelope] at hlen
  refine ⟨decodeEvent_encodeEvent _ (by omega), decodeFrame_of_small ?_⟩
  have hpay := length_payload_le_put (@eventFramePayload_frameEvent policyId frame)
  omega

end

/-! ## The receiver's half -/

section
variable {Addr : Type} [DecidableEq Addr]

def receivedFrames (ingress : MeshPeerUdpIngress) (answers : Answers) (P : Primitives)
    (st : State Addr) (inbound : Inbound Addr) : List MeshFrame :=
  match openInbound ingress P st inbound with
  | (_, .error _) => []
  | (st, .ok opened) => (decodeInbound ingress answers st inbound.source opened).2.2

def familyOf (st : State Addr) (key : SessionKey Addr) : FamilyReorderState :=
  (st.familyStates.lookup key).getD (FamilyReorderState.new key.2 1 nativeReorderWindow)

def releasedFrames (ingress : MeshPeerUdpIngress) (st : State Addr) (source : Addr)
    (frame : MeshFrame) : List MeshFrame :=
  if ingress.nativeEventMode = .secureUdpNative ∧ isData frame then
    ((familyOf st (source, (frameEventMeta frame).1)).releasedBy
      (frameEventMeta frame).2.1.toNat).filterMap decodePackage
  else
    []

lemma pushFamily_snd (key : SessionKey Addr) (package : DataPackage) :
    (pushFamily ingress answers st key package).2 =
      ((familyOf st key).pushPackage package).2 := by
  unfold pushFamily familyOf
  dsimp only
  split
  · rfl
  · rename_i hmem
    have hnone : st.familyStates.lookup key = none := AList.lookup_eq_none.mpr hmem
    rw [Table.lookup_makeRoom, hnone, ite_self]

lemma decodeFamilyPackage_awaited {source : Addr} (hdec : decodeFrame package.payload = .ok frame)
    (hawaits : (familyOf st (source, event.familyId)).Awaits package.seq.toNat) :
    (decodeFamilyPackage ingress answers st source replySeal event package).2.2 =
      frame :: ((familyOf st (source, event.familyId)).releasedBy
        package.seq.toNat).filterMap decodePackage := by
  have hframe : decodePackage package = some frame := by
    rw [decodePackage, hdec]
    rfl
  unfold decodeFamilyPackage
  dsimp only
  rw [pushFamily_snd, pushPackage_awaited hawaits, FamilyPushOutcome.delivered,
    filterMap_cons_some hframe]

lemma decodeNativeEvent_frameEvent (hmode : ingress.nativeEventMode = .secureUdpNative)
    {source : Addr} (hdec : decodeFrame (encodeFrame frame) = .ok frame)
    (hawaits : isData frame = true →
      (familyOf st (source, (frameEventMeta frame).1)).Awaits (frameEventMeta frame).2.1.toNat) :
    (decodeNativeEvent ingress answers st source replySeal (frameEvent policyId frame)).2.2 =
      frame :: releasedFrames ingress st source frame := by
  have hsem : (frameEvent policyId frame).semantic = (frameEventMeta frame).2.2 := rfl
  unfold decodeNativeEvent releasedFrames
  cases hmeta : (frameEventMeta frame).2.2 with
  | control =>
    rw [hsem, hmeta, eventFramePayload_frameEvent, if_neg (by simp [isData, hmeta])]
    simp only [hdec]
  | observation =>
    rw [hsem, hmeta, eventFramePayload_frameEvent, if_neg (by simp [isData, hmeta])]
    simp only [hdec]
  | _ =>
    have hdata : isData frame = true := by rw [isData, hmeta]
    rw [hsem, hmeta, if_pos ⟨hmode, hdata⟩]
    exact decodeFamilyPackage_awaited hdec (hawaits hdata)

lemma decodeInbound_clearOf {sender : Sender Addr} (source : Addr)
    (hmode : ingress.nativeEventMode = sender.nativeEventMode) (hclear : opened.clear =
      if opened.isSealed ∨ sender.nativeEventMode = .secureUdpNative then sender.clearOf frame
      else encodeFrame frame) (hlen : opened.clear.length < 2 ^ 32)
    (hawaits : ingress.nativeEventMode = .secureUdpNative → isData frame = true →
      (familyOf st (source, (frameEventMeta frame).1)).Awaits (frameEventMeta frame).2.1.toNat) :
    (decodeInbound ingress answers st source opened).2.2 =
      frame :: releasedFrames ingress st source frame := by
  unfold decodeInbound
  cases hnative : ingress.nativeEventMode with
  | meshFrame =>
    have hlegacy : decodeLegacy opened = .ok frame := by
      rw [← hmode, hnative] at hclear
      unfold decodeLegacy
      split
      · rename_i hseal
        rw [if_pos (Or.inl hseal), clearOf, ← hmode, hnative] at hclear
        rw [hclear] at hlen ⊢
        exact decodeMeshFrameClear_put frame (by simp only at hlen; omega)
      · rename_i hseal
        rw [if_neg (by simp [hseal])] at hclear
        rw [hclear] at hlen ⊢
        exact decodeFrame_of_small hlen
    simp [hlegacy, releasedFrames, hnative]
  | secureUdpNative =>
    rw [if_pos (Or.inr (hmode ▸ hnative)), clearOf, ← hmode, hnative] at hclear
    rw [hclear] at hlen
    obtain ⟨hevent, hframe⟩ := decode_frameEvent hlen
    simp only [hclear, hevent]
    exact decodeNativeEvent_frameEvent hnative hframe (hawaits hnative)

end

/-! ## Delivery -/

/-- A frame that was sent, and an ingress set up for its sender: the same wire
mode, a key for what the sender seals, an accepted epoch, a fresh replay state,
and for data frames in native mode a family that awaits the frame's number. -/
structure Delivery (Addr : Type) [DecidableEq Addr] (P : Primitives) (calls : Set SealCall) where
  sender : Sender Addr
  frame : MeshFrame
  sentAt : UInt64
  datagrams : List (OutboundDatagram Addr)
  datagram : OutboundDatagram Addr
  ingress : MeshPeerUdpIngress
  answers : Answers
  st : State Addr
  source : Addr
  receivedAt : UInt64
  sent : (sender.encodeFrameDatagrams P sentAt frame).2 = .ok datagrams
  datagram_mem : datagram ∈ datagrams
  mode : ingress.nativeEventMode = sender.nativeEventMode
  clear : sender.meshsec = none → ingress.meshsec = none
  keyed : ∀ egress, sender.meshsec = some egress →
    sender.sealCall egress sentAt frame ∈ calls ∧
    ∃ ms, ingress.meshsec = some ms ∧ ms.localNodeId = egress.ctx.remoteNodeId ∧
      ∃ key ∈ ms.keys, OpensCall (sender.sealCall egress sentAt frame) key
  epoch_lo : (acceptedEpochs receivedAt).1 ≤ meshsecEpochNumber sentAt
  epoch_hi : meshsecEpochNumber sentAt ≤ (acceptedEpochs receivedAt).2
  fresh : st.replay = MeshSecReplayCache.new meshsecReplayWindowBits
  awaits : ingress.nativeEventMode = .secureUdpNative → isData frame = true →
    (familyOf st (source, (frameEventMeta frame).1)).Awaits (frameEventMeta frame).2.1.toNat

namespace Delivery
variable {Addr : Type} [DecidableEq Addr] {P : Primitives} {calls : Set SealCall}

def inbound (d : Delivery Addr P calls) : Inbound Addr where
  source := d.source
  payload := d.datagram.payload
  now := d.receivedAt

def received (d : Delivery Addr P calls) : List MeshFrame :=
  receivedFrames d.ingress d.answers P d.st d.inbound

/-- What the family had buffered right behind the frame. -/
def released (d : Delivery Addr P calls) : List MeshFrame :=
  releasedFrames d.ingress d.st d.source d.frame

/-- Layer 1 lets the datagram through to the sender's clear bytes, and leaves the
families alone. -/
lemma opens (ideal : IdealFor P calls) (d : Delivery Addr P calls) :
    ∃ st opened, openInbound d.ingress P d.st d.inbound = (st, .ok opened) ∧
      st.familyStates = d.st.familyStates ∧ opened.clear.length < 2 ^ 32 ∧
      opened.clear =
        if opened.isSealed ∨ d.sender.nativeEventMode = .secureUdpNative
        then d.sender.clearOf d.frame else encodeFrame d.frame := by
  obtain ⟨henc, hfits⟩ := (encoded_of_sent d.sent).2 d.datagram d.datagram_mem
  have hfits' : d.datagram.payload.length < 2 ^ 32 := by
    unfold maxUdpPayloadBytes at hfits
    omega
  unfold openInbound
  cases hms : d.sender.meshsec with
  | none =>
    rw [d.clear hms]
    refine ⟨_, _, rfl, rfl, hfits', ?_⟩
    unfold encoded at henc
    rw [hms] at henc
    cases hmode : d.sender.nativeEventMode with
    | meshFrame =>
      rw [hmode] at henc
      simpa [inbound] using (Except.ok.inj henc).symm
    | secureUdpNative =>
      rw [hmode] at henc
      simpa [inbound, clearOf, hmode] using (Except.ok.inj henc).symm
  | some egress =>
    obtain ⟨hcall, ms, hingr, hlocal, key, hkey, hopens⟩ := d.keyed egress hms
    have hpkt := packet_of_encoded hms henc
    obtain ⟨plain, hpack⟩ := pack_of_packet hpkt
    obtain ⟨key', -, -, hopen⟩ := openBytes_sealed_of_some ideal hcall hpkt hkey hopens
      d.epoch_lo d.epoch_hi d.st.replay
    rw [d.fresh] at hopen
    rw [hingr]
    simp only [inbound, hlocal]
    rw [show egress.ctx.remoteNodeId =
      (d.sender.sealCall egress d.sentAt d.frame).ctx.remoteNodeId from rfl, d.fresh, hopen]
    refine ⟨_, _, rfl, rfl, ?_, ?_⟩
    · have hclear := (packMeshsecPlaintext_eq_ok hpack).1
      unfold meshsecMaxClearLen at hclear
      dsimp only
      omega
    · simp [sealCall]

/-- The datagram of a frame decodes to that frame, followed by exactly what its
family had buffered right behind it: nothing, when the next number is not
buffered.  So datagrams of different frames decode to different first frames. -/
theorem received_eq (ideal : IdealFor P calls) :
    (∀ d : Delivery Addr P calls, d.received = d.frame :: d.released ∧
      ((familyOf d.st (d.source, (frameEventMeta d.frame).1)).buffer.lookup
        (nextSeq (frameEventMeta d.frame).2.1.toNat) = none → d.received = [d.frame])) ∧
    (∀ d d' : Delivery Addr P calls, d.frame ≠ d'.frame →
      d.received.head? ≠ d'.received.head?) := by
  have hrecv : ∀ d : Delivery Addr P calls, d.received = d.frame :: d.released := by
    intro d
    obtain ⟨st, opened, hopen, hfams, hlen, hclear⟩ := d.opens ideal
    have hfamily : ∀ key, familyOf st key = familyOf d.st key := by
      intro key
      rw [familyOf, familyOf, hfams]
    have hdec : (decodeInbound d.ingress d.answers st d.source opened).2.2 = _ :=
      decodeInbound_clearOf d.source d.mode hclear hlen (by simpa only [hfamily] using d.awaits)
    have hfrs : d.received = (decodeInbound d.ingress d.answers st d.source opened).2.2 := by
      unfold received receivedFrames
      rw [hopen]
      rfl
    rw [hfrs, hdec, released, releasedFrames, releasedFrames, hfamily]
  refine ⟨fun d => ⟨hrecv d, fun hnext => ?_⟩, fun d d' hne => ?_⟩
  · rw [hrecv d, released, releasedFrames, releasedBy_eq_nil hnext]
    simp
  · rw [hrecv d, hrecv d']
    simpa using hne

end Delivery

/-! ## A frame that releases another -/

def willing : Answers := fun _ =>
  { openDatagram := true, openStream := none, sendOk := true, evict := 0 }

def nativeInbound (source : Nat) (frame : MeshFrame) : Inbound Nat where
  source := source
  payload := encodeEvent (frameEvent steerDeliveryPolicyId frame)
  now := 0

def plainPrimitives : Primitives := codebookPrimitives []

/-- The ingress after number 2 of a stream arrived ahead of number 1. -/
def aheadState : State Nat :=
  (step .new willing plainPrimitives (State.init Nat)
    (nativeInbound 1 (.streamData "s-1" 2 [8]))).1

def plainSender : Sender Nat where
  peer := 9
  policy := EgressPolicy.new .steer 1
  nativeEventMode := .secureUdpNative
  meshsec := none

/-- The family expects number 1, and the datagram of number 1 decodes to two frames. -/
theorem receivedFrames_two :
    (plainSender.encodeFrameDatagrams plainPrimitives 0 (.streamData "s-1" 1 [7])).2 =
      .ok [⟨9, (nativeInbound 1 (.streamData "s-1" 1 [7])).payload⟩] ∧
    (familyOf aheadState (1, "s-1")).nextExpectedSeq = 1 ∧
    receivedFrames .new willing plainPrimitives aheadState
      (nativeInbound 1 (.streamData "s-1" 1 [7])) =
        [.streamData "s-1" 1 [7], .streamData "s-1" 2 [8]] := by
  decide +kernel

def sealedSender : Sender Nat where
  peer := 9
  policy := EgressPolicy.new .replicate 2
  nativeEventMode := .secureUdpNative
  meshsec := some (MeshSecEgress.new sampleCall.ctx)

def sealedIngress : MeshPeerUdpIngress :=
  MeshPeerUdpIngress.new.withMeshsecKeys "node-b" [⟨"a", "node-a", Vector.replicate 32 5⟩]
    (Vector.replicate 4 3)

def sealedFrame : MeshFrame := .streamData "s-1" 1 [7]

def sealedCall : SealCall :=
  sealedSender.sealCall (MeshSecEgress.new sampleCall.ctx) 0 sealedFrame

def sealedDelivery : Delivery Nat (codebookPrimitives [sealedCall]) {call | call ∈ [sealedCall]} where
  sender := sealedSender
  frame := sealedFrame
  sentAt := 0
  datagrams := replicate 2
    ⟨9, (sealedCall.packet (codebookPrimitives [sealedCall])).toOption.getD []⟩
  datagram := ⟨9, (sealedCall.packet (codebookPrimitives [sealedCall])).toOption.getD []⟩
  ingress := sealedIngress
  answers := willing
  st := State.init Nat
  source := 1
  receivedAt := 30
  sent := by decide +kernel
  datagram_mem := by simp
  mode := rfl
  clear := by
    intro h
    cases h
  keyed := by
    intro egress h
    cases h
    exact ⟨by simp [sealedCall], _, rfl, rfl, _, mem_singleton_self _, rfl, rfl⟩
  epoch_lo := by decide
  epoch_hi := by decide
  fresh := rfl
  awaits := fun _ _ => ⟨rfl, rfl, rfl⟩

theorem sealedDelivery_received : sealedDelivery.received = [sealedFrame] :=
  ((Delivery.received_eq (codebookPrimitives_ideal (by decide))).1 sealedDelivery).2 rfl

end MeshBus.Ingress
