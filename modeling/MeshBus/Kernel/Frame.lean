import MeshBus.Bus
import MeshBus.Proto.Frame

/-!
# Frames of the kernel

What a session submits to the bus, what an exit answers, and what a scheduler
gets to see of a frame.
-/

namespace MeshBus.Kernel

open Lib
open Proto (Endpoint)

abbrev SessionId := String
abbrev FlowId := String
abbrev ExitId := String
abbrev PacketId := Nat

/-! ## Forwarding types -/

inductive FlowSemantics where
  | byteStream
  | datagram
  | message
  deriving DecidableEq

inductive ReturnSemantics where
  | direct
  | packetDedup
  | sequenceReorder
  deriving DecidableEq

inductive TrafficClass where
  | interactive
  | bulk
  | control
  | probe
  deriving DecidableEq

inductive ScheduleHint where
  | auto
  | singlePath
  | fanOut (k : Nat)
  | stripe (n : Nat)
  deriving DecidableEq

inductive ScheduleDecision where
  | ordered (order : List Nat)
  | replicate (order : List Nat)
  deriving DecidableEq

structure Capabilities where
  supportsStream : Bool
  supportsDatagram : Bool
  groups : List String
  deriving DecidableEq

def capabilityMatchesFlow (cap : Capabilities) : FlowSemantics → Bool
  | .byteStream => cap.supportsStream
  | .datagram => cap.supportsDatagram
  | .message => cap.supportsStream || cap.supportsDatagram

/-! ## Frames -/

inductive FrameKind where
  | open
  | data
  | datagram
  | shutdownWrite
  | close
  | cancel
  | probe
  deriving DecidableEq

structure Frame where
  packetId : PacketId
  flowId : FlowId
  sessionId : SessionId
  seq : Nat
  kind : FrameKind
  payload : Bytes
  target : Endpoint
  ttl : Nat
  trafficClass : TrafficClass
  policyRef : Option String
  deadlineMs : Option Nat
  scheduleHint : ScheduleHint
  pathTrace : List ExitId
  flowSemantics : FlowSemantics
  returnSemantics : ReturnSemantics
  sourceKey : Option String
  targetKey : Option String
  routeGroup : Option String
  targetSink : Option String
  deriving DecidableEq

def Frame.Carries (frame : Frame) : Prop := frame.kind ≠ .close ∧ frame.kind ≠ .cancel

instance (frame : Frame) : Decidable frame.Carries := inferInstanceAs (Decidable (_ ∧ _))

/-! ## Returns -/

inductive ReturnEvent where
  | connected (exitId : ExitId) (localEndpoint : Option Endpoint) (rttMs : Nat)
  | data (seq : Nat) (payload : Bytes)
  | idle
  | closed (reason : CloseReason)
  deriving DecidableEq

structure ExitResult where
  exitId : ExitId
  success : Bool
  rttMs : Nat
  localEndpoint : Option Endpoint
  returnEvent : ReturnEvent
  deriving DecidableEq

/-! ## Schedulers -/

structure SourceActivity where
  activeFlows : Nat
  idleSinceMs : Option Nat
  deriving DecidableEq

structure RankContext where
  packetId : PacketId
  flowId : FlowId
  sessionId : SessionId
  target : Endpoint
  trafficClass : TrafficClass
  policyRef : Option String
  deadlineMs : Option Nat
  scheduleHint : ScheduleHint
  flowSemantics : FlowSemantics
  returnSemantics : ReturnSemantics
  sourceKey : Option String
  targetKey : Option String
  sourceActivity : Option SourceActivity

def RankContext.ofFrame (frame : Frame) (sourceActivity : Option SourceActivity) :
    RankContext where
  packetId := frame.packetId
  flowId := frame.flowId
  sessionId := frame.sessionId
  target := frame.target
  trafficClass := frame.trafficClass
  policyRef := frame.policyRef
  deadlineMs := frame.deadlineMs
  scheduleHint := frame.scheduleHint
  flowSemantics := frame.flowSemantics
  returnSemantics := frame.returnSemantics
  sourceKey := frame.sourceKey
  targetKey := frame.targetKey
  sourceActivity := sourceActivity

/-- What dispatch asks of a scheduler.  The answers are not trusted: indices may
repeat or point past the candidates, and scores are any `u64`. -/
structure SchedulerPlugin where
  schedule : List ExitId → RankContext → ScheduleDecision
  scoreFor : ExitId → List ExitId → RankContext → Nat

end MeshBus.Kernel
