import MeshBus.Lib.Bytes

/-!
# Metadata of events

A source fills the metadata in when it makes an event, hooks read it and write to it, and
the source reads the result back.
-/

namespace MeshBus.Kernel

open Lib

inductive MetaValue where
  | string (value : String)
  | u64 (value : UInt64)
  | bool (value : Bool)
  | bytes (value : Bytes)
deriving DecidableEq, Repr

inductive ScheduleHintLabel where
  | ordered | fanOut | stripe
deriving DecidableEq, Repr

structure NetMeta where
  srcIp : Option String := none
  dstHost : Option String := none
  dstPort : Option UInt16 := none
  protocol : Option String := none
deriving DecidableEq, Repr

structure TransportMeta where
  deadlineMs : Option Nat := none
  scheduleHint : Option ScheduleHintLabel := none
  scheduleFanoutK : Option Nat := none
deriving DecidableEq, Repr

structure PolicyMeta where
  routeGroup : Option String := none
deriving DecidableEq, Repr

structure AuthMeta where
  user : Option String := none
deriving DecidableEq, Repr

structure TraceMeta where
  flowId : Option String := none
deriving DecidableEq, Repr

structure TypedMap where
  net : NetMeta := {}
  transport : TransportMeta := {}
  policy : PolicyMeta := {}
  auth : AuthMeta := {}
  trace : TraceMeta := {}
  ext : List (String × MetaValue) := []
deriving DecidableEq, Repr

structure Event where
  payload : Bytes
  meta_ : TypedMap
deriving DecidableEq, Repr

end MeshBus.Kernel
