import MeshBus.Bus
import MeshBus.Egress.MeshSec
import MeshBus.Egress.Policy
import MeshBus.MeshSec.Authenticity
import MeshBus.Proto.Wire

/-!
# Frames to datagrams

`encode_frame_datagrams` of the egress sender: a frame in one of four forms,
bare or as the package of an event, clear or sealed.
-/

namespace MeshBus.Egress

open Lib MeshSec Proto

def maxUdpPayloadBytes : Nat := 65507

structure Sender (Addr : Type) where
  /-- The delivery coordinate. -/
  peer : Addr
  policy : EgressPolicy
  nativeEventMode : NativeEventMode
  meshsec : Option MeshSecEgress

structure OutboundDatagram (Addr : Type) where
  destination : Addr
  payload : Bytes
  deriving DecidableEq

def frameEvent (policyId : String) (frame : MeshFrame) : MeshEvent :=
  let (familyId, seq, semantic) := frameEventMeta frame
  wrapFrameEvent familyId seq semantic policyId (encodeFrame frame)

/-- Serialize a frame, then seal it; there is no envelope inside. -/
def sealMeshFrame (P : Primitives) (frame : MeshFrame) (ctx : MeshSecSealContext)
    (epoch counter : UInt64) : Except MeshSecError Bytes :=
  sealBytes P (MeshFrame.codec.put frame) ctx epoch counter

namespace Sender
variable {Addr : Type}

def encoded (P : Primitives) (sender : Sender Addr) (now : UInt64) (frame : MeshFrame) :
    Except SendError Bytes :=
  match sender.nativeEventMode, sender.meshsec with
  | .meshFrame, some ms =>
    (sealMeshFrame P frame ms.ctx (meshsecEpochNumber now) ms.counter).mapError
      fun _ => .closed
  | .meshFrame, none => .ok (encodeFrame frame)
  | .secureUdpNative, some ms =>
    (sealBytes P (encodeEvent (frameEvent sender.policy.policyId frame)) ms.ctx
      (meshsecEpochNumber now) ms.counter).mapError fun _ => .closed
  | .secureUdpNative, none => .ok (encodeEvent (frameEvent sender.policy.policyId frame))

/-- The counter is taken before the frame is sealed, so a failed seal uses one too. -/
def countSeal (sender : Sender Addr) : Sender Addr :=
  { sender with
    meshsec := sender.meshsec.map fun ms => { ms with counter := ms.counter + 1 } }

def isData (frame : MeshFrame) : Bool :=
  match (frameEventMeta frame).2.2 with
  | .stream | .datagram => true
  | .control | .observation => false

def encodeFrameDatagrams (P : Primitives) (sender : Sender Addr) (now : UInt64)
    (frame : MeshFrame) :
    Sender Addr × Except SendError (List (OutboundDatagram Addr)) :=
  match sender.encoded P now frame with
  | .error err => (sender.countSeal, .error err)
  | .ok bytes =>
    if maxUdpPayloadBytes < bytes.length then
      (sender.countSeal, .error .payloadTooLarge)
    else
      let policy := if isData frame
        then sender.policy.remember (frameEventMeta frame).2.1 bytes else sender.policy
      ({ sender.countSeal with policy },
        .ok (List.replicate policy.sendCopies ⟨sender.peer, bytes⟩))

def clearOf (sender : Sender Addr) (frame : MeshFrame) : Bytes :=
  match sender.nativeEventMode with
  | .meshFrame => MeshFrame.codec.put frame
  | .secureUdpNative => encodeEvent (frameEvent sender.policy.policyId frame)

def sealCall (sender : Sender Addr) (ms : MeshSecEgress) (now : UInt64) (frame : MeshFrame) :
    SealCall where
  clear := sender.clearOf frame
  ctx := ms.ctx
  epoch := meshsecEpochNumber now
  counter := ms.counter

end Sender
end MeshBus.Egress
