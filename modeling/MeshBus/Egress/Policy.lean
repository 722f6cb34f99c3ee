import MeshBus.Proto.Frame

/-!
# Delivery policy of an egress

How many copies of a datagram are sent, and which sent packages are kept for a
repair.
-/

namespace MeshBus.Egress

open Lib Proto

/-- Older packages fall off the front of the ring. -/
def repairRingDepth : Nat := 64

structure EgressPolicy where
  mode : DeliveryMode
  replicateFanout : UInt8
  retransmit : List (UInt64 × Bytes)
  bounded : retransmit.length ≤ repairRingDepth

/-- A fanout of 0 would not send, and one above 4 would amplify. -/
def replicateCount (fanout : UInt8) : Nat := min (max fanout.toNat 1) 4

namespace EgressPolicy

def new (mode : DeliveryMode) (replicateFanout : UInt8) : EgressPolicy where
  mode := mode
  replicateFanout := replicateFanout
  retransmit := []
  bounded := Nat.zero_le _

def policyId (policy : EgressPolicy) : String := policy.mode.policyId

def sendCopies (policy : EgressPolicy) : Nat :=
  match policy.mode with
  | .replicate => replicateCount policy.replicateFanout
  | _ => 1

/-- Keep a data package; only `repair` does, and number 0 is never kept. -/
def remember (policy : EgressPolicy) (seq : UInt64) (bytes : Bytes) : EgressPolicy :=
  if policy.mode ≠ .repair ∨ seq = 0 then
    policy
  else
    let ring := policy.retransmit ++ [(seq, bytes)]
    { policy with
      retransmit := ring.drop (ring.length - repairRingDepth)
      bounded := by
        rw [List.length_drop]
        omega }

lemma sendCopies_pos (policy : EgressPolicy) : 0 < policy.sendCopies := by
  unfold sendCopies replicateCount
  split <;> omega

end EgressPolicy
end MeshBus.Egress
