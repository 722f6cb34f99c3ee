import MeshBus.Lib.Codec

/-!
# Mesh frames and mesh events

The data types of the mesh protocol, with the variants in the order the
serializer numbers them.  A frame is the unit of the session layer; in native
mode it travels as the payload of a one-package event.
-/

namespace MeshBus.Proto

open Lib

/-! ## Endpoints -/

inductive ParseError where
  | emptyHost
  | missingColon
  | invalidPort (port : String)
  | hostTooLong (len : Nat)
  | malformedIpv6
  deriving DecidableEq

/-- An endpoint is only built by `Endpoint.new`, so its checks hold of it. -/
structure Endpoint where
  host : String
  port : UInt16
  host_nonempty : host ≠ ""
  host_fits : (utf8 host).length ≤ 255
  port_ne_zero : port ≠ 0
  deriving DecidableEq

lemma dns_ne_zero : (53 : UInt16) ≠ 0 := by decide

lemma http_ne_zero : (80 : UInt16) ≠ 0 := by decide

lemma https_ne_zero : (443 : UInt16) ≠ 0 := by decide

def Endpoint.new (host : String) (port : UInt16) : Except ParseError Endpoint :=
  if hempty : host = "" then
    .error .emptyHost
  else if hlong : 255 < (utf8 host).length then
    .error (.hostTooLong (utf8 host).length)
  else if hport : port = 0 then
    .error (.invalidPort "0")
  else
    .ok ⟨host, port, hempty, not_lt.mp hlong, hport⟩

lemma Endpoint.new_host_port (e : Endpoint) : Endpoint.new e.host e.port = .ok e := by
  rw [Endpoint.new, dif_neg e.host_nonempty, dif_neg (not_lt.mpr e.host_fits),
    dif_neg e.port_ne_zero]

/-! ## Frames -/

inductive BindingKind where
  | rawUdp | quic | tcpReference
  deriving DecidableEq

inductive FlowSemanticsWire where
  | byteStream | datagram | message
  deriving DecidableEq

inductive ReturnSemanticsWire where
  | direct | packetDedup | sequenceReorder
  deriving DecidableEq

inductive CloseReasonWire where
  | normal | unsupported | noUsableExit | protocolError
  deriving DecidableEq

inductive StreamOpenRejectReason where
  | reliableStreamUnsupported | noUsableExit | policyRejected | protocolError
  deriving DecidableEq

structure Hello where
  nodeId : String
  binding : BindingKind
  nonce : UInt64
  spkiPinSha256 : Option (Octets 32)
  deriving DecidableEq

structure StreamOpen where
  sessionId : String
  openToken : UInt64
  target : Endpoint
  routeGroup : Option String
  flowSemantics : FlowSemanticsWire
  returnSemantics : ReturnSemanticsWire
  sourceNodeId : String
  pathTrace : List String
  deriving DecidableEq

structure DatagramOpen where
  sessionId : String
  fixedTarget : Option Endpoint
  maxDatagramBytes : UInt64
  deriving DecidableEq

/-- A delivery coordinate a receiver advertises. -/
structure ReceiverMouth where
  mouthId : String
  udpAddr : String
  familyFilter : List String
  advertisedCapacity : UInt32
  epoch : UInt64
  deriving DecidableEq

structure LinkSample where
  sourceNodeId : String
  mouthId : String
  epoch : UInt64
  seq : UInt64
  observedAtMs : UInt64
  rttUs : UInt32
  lossPermille : UInt16
  goodputBps : UInt64
  queueDelayUs : UInt32
  closeCount : UInt32
  saturated : Bool
  deriving DecidableEq

/-- Inclusive range of missing sequence numbers. -/
structure SeqRange where
  start : UInt64
  stop : UInt64
  deriving DecidableEq

structure AckNack where
  familyId : String
  cumulativeSeq : UInt64
  receivedBitmap : String
  missingRanges : List SeqRange
  deriving DecidableEq

inductive MeshFrame where
  | hello (hello : Hello)
  | streamOpen (request : StreamOpen)
  | streamOpenReject (sessionId : String) (openToken : UInt64)
      (reason : StreamOpenRejectReason) (closeReason : CloseReasonWire)
  | streamData (sessionId : String) (seq : UInt64) (payload : Bytes)
  | streamShutdownWrite (sessionId : String)
  | streamClose (sessionId : String) (closeReason : CloseReasonWire)
  | datagramOpen (request : DatagramOpen)
  | datagramSend (sessionId : String) (seq : UInt64) (target : Endpoint) (payload : Bytes)
  | datagramReturn (sessionId : String) (seq : UInt64) (source : Endpoint) (payload : Bytes)
  | datagramClose (sessionId : String) (closeReason : CloseReasonWire)
  | portOpen (mouth : ReceiverMouth)
  | portClose (mouthId : String) (epoch : UInt64)
  | linkSample (sample : LinkSample)
  | ackNack (ack : AckNack)
  | streamOpenAccepted (sessionId : String) (openToken : UInt64)
  deriving DecidableEq

def MeshFrame.msgType : MeshFrame → UInt8
  | .hello _ => 1
  | .streamOpen _ => 16
  | .streamOpenReject .. => 17
  | .streamData .. => 18
  | .streamShutdownWrite _ => 19
  | .streamClose .. => 20
  | .datagramOpen _ => 31
  | .datagramSend .. => 32
  | .datagramReturn .. => 33
  | .datagramClose .. => 34
  | .portOpen _ => 48
  | .portClose .. => 49
  | .linkSample _ => 50
  | .ackNack _ => 51
  | .streamOpenAccepted .. => 52

/-! ## Events -/

inductive EventSemantic where
  | stream | datagram | control | observation
  deriving DecidableEq

inductive ReliabilityClass where
  | bestEffort | reliable | repairable
  deriving DecidableEq

inductive OrderingClass where
  | unordered | orderedWithinFamily
  deriving DecidableEq

inductive DeliveryMode where
  | steer | stripe | replicate | repair | probe
  deriving DecidableEq

/-- The wire envelope an adapter speaks. -/
inductive NativeEventMode where
  | secureUdpNative | meshFrame
  deriving DecidableEq

structure EventPci where
  checksum : Option String
  compression : Option String
  deriving DecidableEq

structure DataPackage where
  packageId : String
  seq : UInt64
  offset : UInt64
  len : UInt32
  fragmentId : UInt16
  fragmentCount : UInt16
  payload : Bytes
  deriving DecidableEq

structure MeshEvent where
  eventId : String
  familyId : String
  semantic : EventSemantic
  reliability : ReliabilityClass
  ordering : OrderingClass
  deliveryPolicyId : String
  pathEpoch : UInt64
  ttl : UInt8
  pci : EventPci
  package : Option DataPackage
  deriving DecidableEq

def steerDeliveryPolicyId : String := "steer"

def DeliveryMode.policyId : DeliveryMode → String
  | .steer => steerDeliveryPolicyId
  | .stripe => "stripe"
  | .replicate => "replicate"
  | .repair => "repair"
  | .probe => "probe"

def nativeFrameClasses : EventSemantic → ReliabilityClass × OrderingClass
  | .control | .observation => (.bestEffort, .unordered)
  | .stream | .datagram => (.reliable, .orderedWithinFamily)

def wrapFrameEvent (familyId : String) (seq : UInt64) (semantic : EventSemantic)
    (deliveryPolicyId : String) (frameClear : Bytes) : MeshEvent :=
  let classes := nativeFrameClasses semantic
  let id := familyId ++ ":" ++ toString seq.toNat
  { eventId := id
    familyId
    semantic
    reliability := classes.1
    ordering := classes.2
    deliveryPolicyId
    pathEpoch := 0
    ttl := 64
    pci := { checksum := none, compression := none }
    package := some
      { packageId := id
        seq
        offset := 0
        len := UInt32.ofNat frameClear.length
        fragmentId := 0
        fragmentCount := 1
        payload := frameClear } }

def eventFramePayload (event : MeshEvent) : Option Bytes :=
  event.package.map DataPackage.payload

/-- Family, sequence number and semantic of a frame.  Only data frames and link
samples carry a number of their own. -/
def frameEventMeta : MeshFrame → String × UInt64 × EventSemantic
  | .datagramOpen request => (request.sessionId, 0, .control)
  | .datagramSend sessionId seq _ _ => (sessionId, seq, .datagram)
  | .datagramReturn sessionId seq _ _ => (sessionId, seq, .datagram)
  | .datagramClose sessionId _ => (sessionId, 0, .control)
  | .streamOpen request => (request.sessionId, 0, .control)
  | .streamData sessionId seq _ => (sessionId, seq, .stream)
  | .streamOpenAccepted sessionId _ => (sessionId, 0, .control)
  | .streamOpenReject sessionId _ _ _ => (sessionId, 0, .control)
  | .streamShutdownWrite sessionId => (sessionId, 0, .control)
  | .streamClose sessionId _ => (sessionId, 0, .control)
  | .hello _ => ("", 0, .control)
  | .portOpen mouth => (mouth.mouthId, 0, .control)
  | .portClose mouthId _ => (mouthId, 0, .control)
  | .linkSample sample => (sample.mouthId, sample.seq, .observation)
  | .ackNack ack => (ack.familyId, 0, .control)

end MeshBus.Proto
