import MeshBus.Bus
import MeshBus.Ingress.ReplySeal
import MeshBus.Lib.Table
import MeshBus.Proto.Wire
import MeshBus.Reorder

/-!
# State of the mesh-peer ingress

The tables of `MeshPeerUdpIngress::run`, its settings, the answers it gets from
the bus and the effects it has.  A bus half is known by the number of the answer
that opened it, so no two halves share a number.
-/

namespace MeshBus.Ingress

open Lib MeshSec Proto Reorder

def maxPeerSessionsDefault : Nat := 1024
def defaultPendingStreamDataMaxBytes : Nat := 64 * 1024

/-- Frames beyond this distance close the family. -/
def nativeReorderWindow : UInt16 := 64

structure MeshPeerUdpIngress where
  maxPeerSessions : Nat
  pendingStreamDataMaxBytes : Nat
  meshsec : Option MeshSecIngress
  nativeEventMode : NativeEventMode
  maxPeerSessions_pos : 0 < maxPeerSessions

namespace MeshPeerUdpIngress

def new : MeshPeerUdpIngress where
  maxPeerSessions := maxPeerSessionsDefault
  pendingStreamDataMaxBytes := defaultPendingStreamDataMaxBytes
  meshsec := none
  nativeEventMode := .secureUdpNative
  maxPeerSessions_pos := by decide

def withMaxPeerSessions (ingress : MeshPeerUdpIngress) (limit : Nat) : MeshPeerUdpIngress :=
  { ingress with
    maxPeerSessions := max limit 1
    maxPeerSessions_pos := by omega }

def withPendingStreamDataMaxBytes (ingress : MeshPeerUdpIngress) (limit : Nat) :
    MeshPeerUdpIngress :=
  { ingress with pendingStreamDataMaxBytes := max limit 1 }

def withNativeEventMode (ingress : MeshPeerUdpIngress) (mode : NativeEventMode) :
    MeshPeerUdpIngress :=
  { ingress with nativeEventMode := mode }

def withMeshsecKeys (ingress : MeshPeerUdpIngress) (localNodeId : String)
    (keys : List MeshSecOpenKey) (bootSalt : Octets 4) : MeshPeerUdpIngress :=
  { ingress with meshsec := some { localNodeId, keys, bootSalt } }

end MeshPeerUdpIngress

/-! ## Drop reasons -/

inductive NativeDropReason where
  | eventDecode
  | controlPayloadMissing
  | controlFrameDecode
  | unsupportedEventFamily
  | queueOverflow
  | packageFrameDecode
  | streamDataPending
  deriving DecidableEq

def nativeDropReason : NativeDropReason → String
  | .eventDecode => "event_decode"
  | .controlPayloadMissing => "control_payload_missing"
  | .controlFrameDecode => "control_frame_decode"
  | .unsupportedEventFamily => "unsupported_event_family"
  | .queueOverflow => "queue_overflow"
  | .packageFrameDecode => "package_frame_decode"
  | .streamDataPending => "stream_data_pending"

def meshsecDropReason : MeshSecError → String
  | .auth => "auth"
  | .replay => "replay"
  | .replayTooOld => "replay_too_old"
  | .truncated => "truncated"
  | .unsupportedVersion _ => "unsupported_version"
  | .payloadTooLarge => "payload_too_large"
  | .serialize => "serialize"

inductive ObsTopic where
  | meshsecDrop | nativeDrop
  deriving DecidableEq

/-- The fields `drop_payload` fills in. -/
structure DropPayload (Addr : Type) where
  sourceAddr : Addr
  reason : String
  transportMode : String
  secure : Bool
  deriving DecidableEq

def dropPayload {Addr : Type} (peer : Addr) (reason : String) (secure : Bool) :
    DropPayload Addr where
  sourceAddr := peer
  reason := reason
  transportMode := "mesh-peer-udp"
  secure := secure

/-! ## Wire forms of a failed open -/

def rejectReason : DisconnectReason → StreamOpenRejectReason
  | .noUsableExit | .hostUnreachable => .noUsableExit
  | .connectionRefused | .networkUnreachable | .timedOut => .noUsableExit
  | _ => .protocolError

def closeReasonWire : DisconnectReason → CloseReasonWire
  | .noUsableExit | .hostUnreachable => .noUsableExit
  | .connectionRefused | .networkUnreachable | .timedOut => .noUsableExit
  | .addressNotSupported | .other _ => .protocolError
  | _ => .normal

/-! ## Tables -/

/-- A session or a family: where its datagrams come from, and its id. -/
abbrev SessionKey (Addr : Type) := Addr × String

/-- Stream data that arrived before its session was open. -/
structure PendingStreamData where
  frames : List Bytes
  bytes : Nat
  bytes_eq : bytes = (frames.map List.length).sum

namespace PendingStreamData

def empty : PendingStreamData := ⟨[], 0, rfl⟩

def push (pending : PendingStreamData) (payload : Bytes) : PendingStreamData where
  frames := pending.frames ++ [payload]
  bytes := pending.bytes + payload.length
  bytes_eq := by simp [pending.bytes_eq]

end PendingStreamData

/-- A receiver-mouth entry: a delivery coordinate, never a session. -/
structure MouthEntry where
  epoch : UInt64
  udpAddr : String
  familyFilter : List String
  advertisedCapacity : UInt32
  lastSeen : UInt64
  deriving DecidableEq

structure State (Addr : Type) where
  /-- Datagram sessions, with their bus half. -/
  sessions : Table (SessionKey Addr) Nat
  /-- Stream sessions, with their bus half. -/
  streamSessions : Table (SessionKey Addr) Nat
  pendingStreamData : Table (SessionKey Addr) PendingStreamData
  familyStates : Table (SessionKey Addr) FamilyReorderState
  mouths : Table (SessionKey Addr) MouthEntry
  replay : MeshSecReplayCache meshsecReplayWindowBits
  replyCounters : ReplyCounters
  /-- How many answers the bus has given. -/
  tick : Nat

def State.init (Addr : Type) : State Addr where
  sessions := ∅
  streamSessions := ∅
  pendingStreamData := ∅
  familyStates := ∅
  mouths := ∅
  replay := MeshSecReplayCache.new meshsecReplayWindowBits
  replyCounters := ∅
  tick := 0

/-! ## Inputs, answers and effects -/

structure Inbound (Addr : Type) where
  source : Addr
  payload : Bytes
  /-- `now_unix_secs()` when the datagram is handled. -/
  now : UInt64

/-- What the world outside the loop says when it is asked. -/
structure Answer where
  openDatagram : Bool
  /-- `none` when the stream opened and connected. -/
  openStream : Option DisconnectReason
  sendOk : Bool
  /-- Which key `keys().next()` yields. -/
  evict : Nat

abbrev Answers := Nat → Answer

structure ControlReply (Addr : Type) where
  peer : Addr
  nativeEventMode : NativeEventMode
  replySeal : Option MeshSecSealContext
  frame : MeshFrame
  deriving DecidableEq

inductive Effect (Addr : Type) where
  | observe (topic : ObsTopic) (payload : DropPayload Addr)
  /-- Offered to the control reply queue. -/
  | controlReply (reply : ControlReply Addr)
  | sendFrame (reply : ControlReply Addr)
  | openDatagram (key : SessionKey Addr) (half : Nat) (target : Endpoint)
  | sendTo (key : SessionKey Addr) (half : Nat) (target : Endpoint) (payload : Bytes)
  | closeDatagram (half : Nat)
  | openStream (key : SessionKey Addr) (half : Nat) (target : Endpoint)
      (routeGroup : Option String)
  | send (key : SessionKey Addr) (half : Nat) (payload : Bytes)
  | shutdownWrite (key : SessionKey Addr) (half : Nat)
  | abort (half : Nat) (reason : DisconnectReason)
  deriving DecidableEq

def dropMeshsec {Addr : Type} (peer : Addr) (err : MeshSecError) : Effect Addr :=
  .observe .meshsecDrop (dropPayload peer (meshsecDropReason err) true)

def dropNative {Addr : Type} (peer : Addr) (reason : NativeDropReason) : Effect Addr :=
  .observe .nativeDrop (dropPayload peer (nativeDropReason reason) false)

end MeshBus.Ingress
