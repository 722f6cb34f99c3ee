import MeshBus.MeshSec.Seal

/-!
# MeshSec state of an egress

The sealing context of a mesh-peer egress with its counter, and the receiver
material a session opens replies with.
-/

namespace MeshBus.Egress

open Lib MeshSec

/-- Sender-side state; the counter is shared by every outbound frame. -/
structure MeshSecEgress where
  ctx : MeshSecSealContext
  counter : UInt64

/-- The state `with_meshsec` starts from. -/
def MeshSecEgress.new (ctx : MeshSecSealContext) : MeshSecEgress := { ctx, counter := 1 }

/-- Receiver-side state for sealed replies. -/
structure MeshSecRecv where
  localNodeId : String
  keys : List MeshSecOpenKey
  replay : MeshSecReplayCache meshsecReplayWindowBits

/-- A session opens replies with the key it seals with, and no other. -/
def MeshSecEgress.replyRecv (egress : MeshSecEgress) : MeshSecRecv where
  localNodeId := egress.ctx.localNodeId
  keys := [{ peerId := egress.ctx.remoteNodeId
             remoteNodeId := egress.ctx.remoteNodeId
             staticKey := egress.ctx.staticKey }]
  replay := MeshSecReplayCache.new meshsecReplayWindowBits

end MeshBus.Egress
