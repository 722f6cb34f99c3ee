import MeshBus.Proto.Frame

/-!
# The wire format of frames and events

The serializer's format (fixed-width little-endian integers, 64-bit lengths,
32-bit variant numbers, trailing octets ignored) as codecs, and the 8-octet
envelope around a clear frame or event.
-/

namespace MeshBus.Proto

open Lib Lib.Codec List MeshFrame

/-! ## Codecs -/

def BindingKind.codec : Codec BindingKind :=
  variants [.rawUdp, .quic, .tcpReference] (by intro a; cases a <;> decide) (by decide)

def FlowSemanticsWire.codec : Codec FlowSemanticsWire :=
  variants [.byteStream, .datagram, .message] (by intro a; cases a <;> decide) (by decide)

def ReturnSemanticsWire.codec : Codec ReturnSemanticsWire :=
  variants [.direct, .packetDedup, .sequenceReorder] (by intro a; cases a <;> decide) (by decide)

def CloseReasonWire.codec : Codec CloseReasonWire :=
  variants [.normal, .unsupported, .noUsableExit, .protocolError]
    (by intro a; cases a <;> decide) (by decide)

def StreamOpenRejectReason.codec : Codec StreamOpenRejectReason :=
  variants [.reliableStreamUnsupported, .noUsableExit, .policyRejected, .protocolError]
    (by intro a; cases a <;> decide) (by decide)

def EventSemantic.codec : Codec EventSemantic :=
  variants [.stream, .datagram, .control, .observation] (by intro a; cases a <;> decide)
    (by decide)

def ReliabilityClass.codec : Codec ReliabilityClass :=
  variants [.bestEffort, .reliable, .repairable] (by intro a; cases a <;> decide) (by decide)

def OrderingClass.codec : Codec OrderingClass :=
  variants [.unordered, .orderedWithinFamily] (by intro a; cases a <;> decide) (by decide)

/-- Host and port; reading goes through `Endpoint::new`. -/
def Endpoint.codec : Codec Endpoint :=
  (string.pair u16).imap (fun e => (e.host, e.port)) (fun p => (Endpoint.new p.1 p.2).toOption)
    (fun e => by rw [Endpoint.new_host_port]; rfl)

lemma string_put_pos (s : String) : 0 < (string.put s).length := by
  simp only [string, bytes, imap, length_append, length_leBytes]
  omega

def stringList : Codec (List String) := string.list string_put_pos

def Hello.codec : Codec Hello :=
  (string.pair (BindingKind.codec.pair (u64.pair (octets 32).option))).imap
    (fun h => (h.nodeId, h.binding, h.nonce, h.spkiPinSha256))
    (fun (nodeId, binding, nonce, spkiPinSha256) => some { nodeId, binding, nonce, spkiPinSha256 })
    (fun _ => rfl)

def StreamOpen.codec : Codec StreamOpen :=
  (string.pair (u64.pair (Endpoint.codec.pair (string.option.pair
    (FlowSemanticsWire.codec.pair (ReturnSemanticsWire.codec.pair
      (string.pair stringList))))))).imap
    (fun o => (o.sessionId, o.openToken, o.target, o.routeGroup, o.flowSemantics,
      o.returnSemantics, o.sourceNodeId, o.pathTrace))
    (fun (sessionId, openToken, target, routeGroup, flowSemantics, returnSemantics,
        sourceNodeId, pathTrace) =>
      some { sessionId, openToken, target, routeGroup, flowSemantics, returnSemantics,
             sourceNodeId, pathTrace })
    (fun _ => rfl)

def DatagramOpen.codec : Codec DatagramOpen :=
  (string.pair (Endpoint.codec.option.pair u64)).imap
    (fun o => (o.sessionId, o.fixedTarget, o.maxDatagramBytes))
    (fun (sessionId, fixedTarget, maxDatagramBytes) =>
      some { sessionId, fixedTarget, maxDatagramBytes })
    (fun _ => rfl)

def ReceiverMouth.codec : Codec ReceiverMouth :=
  (string.pair (string.pair (stringList.pair (u32.pair u64)))).imap
    (fun m => (m.mouthId, m.udpAddr, m.familyFilter, m.advertisedCapacity, m.epoch))
    (fun (mouthId, udpAddr, familyFilter, advertisedCapacity, epoch) =>
      some { mouthId, udpAddr, familyFilter, advertisedCapacity, epoch })
    (fun _ => rfl)

def LinkSample.codec : Codec LinkSample :=
  (string.pair (string.pair (u64.pair (u64.pair (u64.pair (u32.pair (u16.pair (u64.pair
    (u32.pair (u32.pair bool)))))))))).imap
    (fun s => (s.sourceNodeId, s.mouthId, s.epoch, s.seq, s.observedAtMs, s.rttUs,
      s.lossPermille, s.goodputBps, s.queueDelayUs, s.closeCount, s.saturated))
    (fun (sourceNodeId, mouthId, epoch, seq, observedAtMs, rttUs, lossPermille, goodputBps,
        queueDelayUs, closeCount, saturated) =>
      some { sourceNodeId, mouthId, epoch, seq, observedAtMs, rttUs, lossPermille, goodputBps,
             queueDelayUs, closeCount, saturated })
    (fun _ => rfl)

def SeqRange.codec : Codec SeqRange :=
  (u64.pair u64).imap (fun r => (r.start, r.stop)) (fun (start, stop) => some { start, stop })
    (fun _ => rfl)

lemma seqRange_put_pos (r : SeqRange) : 0 < (SeqRange.codec.put r).length := by
  simp [SeqRange.codec, imap, pair, u64, fixint]

def AckNack.codec : Codec AckNack :=
  (string.pair (u64.pair (string.pair (SeqRange.codec.list seqRange_put_pos)))).imap
    (fun a => (a.familyId, a.cumulativeSeq, a.receivedBitmap, a.missingRanges))
    (fun (familyId, cumulativeSeq, receivedBitmap, missingRanges) =>
      some { familyId, cumulativeSeq, receivedBitmap, missingRanges })
    (fun _ => rfl)

namespace MeshFrame

/-- The data of the variants that are not a structure of their own. -/
def rejectCodec : Codec (String × UInt64 × StreamOpenRejectReason × CloseReasonWire) :=
  string.pair (u64.pair (StreamOpenRejectReason.codec.pair CloseReasonWire.codec))

def dataCodec : Codec (String × UInt64 × Bytes) := string.pair (u64.pair bytes)

def closeCodec : Codec (String × CloseReasonWire) := string.pair CloseReasonWire.codec

def datagramCodec : Codec (String × UInt64 × Endpoint × Bytes) :=
  string.pair (u64.pair (Endpoint.codec.pair bytes))

def tokenCodec : Codec (String × UInt64) := string.pair u64

def put : MeshFrame → Bytes
  | .hello h => u32.put 0 ++ Hello.codec.put h
  | .streamOpen o => u32.put 1 ++ StreamOpen.codec.put o
  | .streamOpenReject s t r c => u32.put 2 ++ rejectCodec.put (s, t, r, c)
  | .streamData s q p => u32.put 3 ++ dataCodec.put (s, q, p)
  | .streamShutdownWrite s => u32.put 4 ++ string.put s
  | .streamClose s c => u32.put 5 ++ closeCodec.put (s, c)
  | .datagramOpen o => u32.put 6 ++ DatagramOpen.codec.put o
  | .datagramSend s q t p => u32.put 7 ++ datagramCodec.put (s, q, t, p)
  | .datagramReturn s q t p => u32.put 8 ++ datagramCodec.put (s, q, t, p)
  | .datagramClose s c => u32.put 9 ++ closeCodec.put (s, c)
  | .portOpen m => u32.put 10 ++ ReceiverMouth.codec.put m
  | .portClose m e => u32.put 11 ++ tokenCodec.put (m, e)
  | .linkSample s => u32.put 12 ++ LinkSample.codec.put s
  | .ackNack a => u32.put 13 ++ AckNack.codec.put a
  | .streamOpenAccepted s t => u32.put 14 ++ tokenCodec.put (s, t)

def body {β : Type} (c : Codec β) (f : β → MeshFrame) (bs : Bytes) : Option (MeshFrame × Bytes) :=
  (c.get bs).map fun p => (f p.1, p.2)

def get (bs : Bytes) : Option (MeshFrame × Bytes) := do
  let (tag, rest) ← u32.get bs
  match tag.toNat with
  | 0 => body Hello.codec .hello rest
  | 1 => body StreamOpen.codec .streamOpen rest
  | 2 => body rejectCodec (fun (s, t, r, c) => .streamOpenReject s t r c) rest
  | 3 => body dataCodec (fun (s, q, p) => .streamData s q p) rest
  | 4 => body string .streamShutdownWrite rest
  | 5 => body closeCodec (fun (s, c) => .streamClose s c) rest
  | 6 => body DatagramOpen.codec .datagramOpen rest
  | 7 => body datagramCodec (fun (s, q, t, p) => .datagramSend s q t p) rest
  | 8 => body datagramCodec (fun (s, q, t, p) => .datagramReturn s q t p) rest
  | 9 => body closeCodec (fun (s, c) => .datagramClose s c) rest
  | 10 => body ReceiverMouth.codec .portOpen rest
  | 11 => body tokenCodec (fun (m, e) => .portClose m e) rest
  | 12 => body LinkSample.codec .linkSample rest
  | 13 => body AckNack.codec .ackNack rest
  | 14 => body tokenCodec (fun (s, t) => .streamOpenAccepted s t) rest
  | _ => none

private lemma get_tagged_body (c : Codec β) (f : β → MeshFrame) (tag : UInt32)
    (b : β) (rest : Bytes) (h : (u32.put tag ++ c.put b).length < 2 ^ 64)
    (hbranch : ∀ bs, (u32.get bs).map Prod.fst = some tag →
      get bs = (u32.get bs).bind fun p => body c f p.2) :
    get (u32.put tag ++ c.put b ++ rest) = some (f b, rest) := by
  obtain ⟨htag, hbody⟩ := get_tagged c tag b rest h
  rw [hbranch _ (by rw [htag]; rfl), htag]
  simp [body, hbody]

private lemma get_branch (h : (u32.get bs).map Prod.fst = some tag) :
    ∃ rest, u32.get bs = some (tag, rest) := by
  rw [Option.map_eq_some_iff] at h
  obtain ⟨⟨t, rest⟩, hget, rfl⟩ := h
  exact ⟨rest, hget⟩

lemma get_put (frame : MeshFrame) (rest : Bytes) (h : frame.put.length < 2 ^ 64) :
    get (frame.put ++ rest) = some (frame, rest) := by
  cases frame <;>
    exact get_tagged_body _ _ _ _ rest h (fun bs hbs => by
      obtain ⟨tail, hget⟩ := get_branch hbs
      unfold get
      rw [hget]
      rfl)

def codec : Codec MeshFrame := ⟨put, get, get_put⟩

end MeshFrame

def EventPci.codec : Codec EventPci :=
  (string.option.pair string.option).imap (fun p => (p.checksum, p.compression))
    (fun (checksum, compression) => some { checksum, compression }) (fun _ => rfl)

def DataPackage.codec : Codec DataPackage :=
  (string.pair (u64.pair (u64.pair (u32.pair (u16.pair (u16.pair bytes)))))).imap
    (fun p => (p.packageId, p.seq, p.offset, p.len, p.fragmentId, p.fragmentCount, p.payload))
    (fun (packageId, seq, offset, len, fragmentId, fragmentCount, payload) =>
      some { packageId, seq, offset, len, fragmentId, fragmentCount, payload })
    (fun _ => rfl)

def MeshEvent.codec : Codec MeshEvent :=
  (string.pair (string.pair (EventSemantic.codec.pair (ReliabilityClass.codec.pair
    (OrderingClass.codec.pair (string.pair (u64.pair (u8.pair (EventPci.codec.pair
      DataPackage.codec.option))))))))).imap
    (fun e => (e.eventId, e.familyId, e.semantic, e.reliability, e.ordering, e.deliveryPolicyId,
      e.pathEpoch, e.ttl, e.pci, e.package))
    (fun (eventId, familyId, semantic, reliability, ordering, deliveryPolicyId, pathEpoch, ttl,
        pci, package) =>
      some { eventId, familyId, semantic, reliability, ordering, deliveryPolicyId, pathEpoch, ttl,
             pci, package })
    (fun _ => rfl)

lemma length_payload_le_put (h : eventFramePayload event = some payload) :
    payload.length ≤ (MeshEvent.codec.put event).length := by
  obtain ⟨package, hpkg, rfl⟩ := Option.map_eq_some_iff.mp h
  have hinner : package.payload.length ≤ (DataPackage.codec.put package).length := by
    simp only [DataPackage.codec, imap, pair, bytes, length_append]
    omega
  have houter : (DataPackage.codec.put package).length ≤ (MeshEvent.codec.put event).length := by
    simp only [MeshEvent.codec, imap, pair, option, hpkg, length_append, length_cons]
    omega
  omega

/-! ## The clear envelope -/

def magic : Nat := 0x4d42
def protocolVersion : UInt8 := 1
def headerLen : Nat := 8
def eventMsgType : UInt8 := 64

inductive CodecError where
  | incomplete
  | badMagic (magic : Nat)
  | unsupportedVersion (version : UInt8)
  /-- `none` stands for the serializer's own message. -/
  | decode (message : Option String)
  deriving DecidableEq

def envelope (msgType : UInt8) (payload : Bytes) : Bytes :=
  beBytes 2 magic ++ [protocolVersion, msgType] ++ beBytes 4 payload.length ++ payload

/-- The checks `decode_frame` and `decode_event` share; `checkType` looks at the
message type before the length is read. -/
def openEnvelope {α : Type} (checkType : UInt8 → Except CodecError Unit) (payloadCodec : Codec α)
    (buf : Bytes) : Except CodecError α :=
  if buf.length < headerLen then
    .error .incomplete
  else if ofBeBytes (buf.take 2) ≠ magic then
    .error (.badMagic (ofBeBytes (buf.take 2)))
  else if buf.getD 2 0 ≠ protocolVersion then
    .error (.unsupportedVersion (buf.getD 2 0))
  else do
    checkType (buf.getD 3 0)
    let payloadLen := ofBeBytes ((buf.drop 4).take 4)
    if buf.length < headerLen + payloadLen then
      .error .incomplete
    else
      match payloadCodec.decode ((buf.drop headerLen).take payloadLen) with
      | some value => .ok value
      | none => .error (.decode none)

def encodeFrame (frame : MeshFrame) : Bytes := envelope frame.msgType (codec.put frame)

def decodeFrame (buf : Bytes) : Except CodecError MeshFrame :=
  openEnvelope (fun _ => .ok ()) codec buf

def decodeMeshFrameClear (clear : Bytes) : Except CodecError MeshFrame :=
  match codec.decode clear with
  | some frame => .ok frame
  | none => .error (.decode none)

def encodeEvent (event : MeshEvent) : Bytes := envelope eventMsgType (MeshEvent.codec.put event)

def decodeEvent (buf : Bytes) : Except CodecError MeshEvent :=
  openEnvelope
    (fun msgType =>
      if msgType ≠ eventMsgType then
        .error (.decode (some ("not a mesh event: msg_type " ++ toString msgType.toNat)))
      else
        .ok ())
    MeshEvent.codec buf

@[simp] lemma length_envelope (msgType : UInt8) (payload : Bytes) :
    (envelope msgType payload).length = headerLen + payload.length := by
  simp [envelope, headerLen]
  omega

lemma openEnvelope_envelope {msgType : UInt8} (hcheck : checkType msgType = .ok ())
    (hlen : (c.put a).length < 2 ^ 32) :
    openEnvelope checkType c (envelope msgType (c.put a)) = .ok a := by
  have hmagic : ofBeBytes ((envelope msgType (c.put a)).take 2) = magic := by
    have htake : (envelope msgType (c.put a)).take 2 = beBytes 2 magic := by
      simp [envelope]
    rw [htake, ofBeBytes_beBytes (by decide)]
  have hver : (envelope msgType (c.put a)).getD 2 0 = protocolVersion := by
    simp [envelope]
  have htype : (envelope msgType (c.put a)).getD 3 0 = msgType := by
    simp [envelope, getElem?_append]
  have hpayl : ofBeBytes (((envelope msgType (c.put a)).drop 4).take 4) =
      (c.put a).length := by
    have htake : ((envelope msgType (c.put a)).drop 4).take 4 = beBytes 4 (c.put a).length := by
      simp [envelope, drop_append, take_append]
    rw [htake, ofBeBytes_beBytes (by simpa using hlen)]
  have hpay : ((envelope msgType (c.put a)).drop headerLen).take (c.put a).length =
      c.put a := by
    unfold envelope headerLen
    rw [drop_left' (by simp), take_length]
  have hdec : c.decode (c.put a) = some a := c.decode_put a (by omega)
  unfold openEnvelope
  rw [if_neg (by simp), if_neg (by simp [hmagic]), if_neg (by simp only [hver]; simp),
    htype, hcheck, hpayl]
  simp only [bind, Except.bind]
  rw [if_neg (by simp), hpay, hdec]

lemma decodeFrame_encodeFrame (frame : MeshFrame) (hlen : (codec.put frame).length < 2 ^ 32) :
    decodeFrame (encodeFrame frame) = .ok frame :=
  openEnvelope_envelope rfl hlen

lemma decodeEvent_encodeEvent (event : MeshEvent)
    (hlen : (MeshEvent.codec.put event).length < 2 ^ 32) :
    decodeEvent (encodeEvent event) = .ok event :=
  openEnvelope_envelope (by simp) hlen

lemma decodeMeshFrameClear_put (frame : MeshFrame) (hlen : (codec.put frame).length < 2 ^ 64) :
    decodeMeshFrameClear (codec.put frame) = .ok frame := by
  rw [decodeMeshFrameClear, codec.decode_put frame hlen]

end MeshBus.Proto
