import MeshBus.MeshSec.Seal

/-!
# Sealing replies at the ingress

The receiver-side MeshSec material of an ingress and the reverse sealing state
of a matched peer.  The key is looked up again by peer id: it is the first key
of that peer, whichever key opened the request.
-/

namespace MeshBus.Ingress

open Lib MeshSec

structure MeshSecIngress where
  localNodeId : String
  keys : List MeshSecOpenKey
  bootSalt : Octets 4

abbrev ReplyCounters := AList fun _ : String => UInt64

def replyCounter (counters : ReplyCounters) (peerId : String) : UInt64 :=
  (counters.lookup peerId).getD 1

def replyContext (ms : MeshSecIngress) (peerId : String) : Option MeshSecSealContext :=
  (ms.keys.find? fun k => k.peerId = peerId).map fun key =>
    { localNodeId := ms.localNodeId
      remoteNodeId := key.remoteNodeId
      staticKey := key.staticKey
      bootSalt := ms.bootSalt }

def replySealFor (ms : MeshSecIngress) (peerId : String) (counters : ReplyCounters) :
    ReplyCounters × Option (MeshSecSealContext × UInt64) :=
  match replyContext ms peerId with
  | none => (counters, none)
  | some ctx =>
    (counters.insert peerId (replyCounter counters peerId),
      some (ctx, replyCounter counters peerId))

lemma replyCounter_insert (counters : ReplyCounters) (peerId peerId' : String) (c : UInt64) :
    replyCounter (counters.insert peerId c) peerId' =
      if peerId' = peerId then c else replyCounter counters peerId' := by
  by_cases h : peerId' = peerId
  · subst h
    simp [replyCounter]
  · simp [replyCounter, h, AList.lookup_insert_ne h]

end MeshBus.Ingress
