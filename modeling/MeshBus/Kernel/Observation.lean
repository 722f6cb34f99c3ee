import MeshBus.Lib.Table

/-!
# The observation bus

Subscribers are wired to event types.  The routing has one slot for each type,
which lists the type's subscribers; the status of a subscriber is kept apart,
under the type and the subscriber's position in the slot.  A publication that is
to be reliable waits for each subscriber until a deadline: the environment
decides which of them accept the event, turn out to be closed or run into it.
-/

namespace MeshBus.Kernel

open Lib List

/-! ## Event types -/

inductive CoreEventId where
  | flowOpened
  | flowPathChanged
  | flowClosed
  | pathIoError
  deriving DecidableEq

inductive EventTypeId where
  | core (id : CoreEventId)
  | obs (id : UInt32)
  deriving DecidableEq

def coreRangeEnd : UInt32 := 16

namespace EventTypeId

/-- The number of a type's slot.  The sum wraps, as it does without overflow
checks. -/
def asU32 : EventTypeId → UInt32
  | .core .flowOpened => 0
  | .core .flowPathChanged => 1
  | .core .flowClosed => 2
  | .core .pathIoError => 3
  | .obs n => coreRangeEnd + n

def decodeType (packed : UInt32) : EventTypeId :=
  if packed = 0 then .core .flowOpened
  else if packed = 1 then .core .flowPathChanged
  else if packed = 2 then .core .flowClosed
  else if packed = 3 then .core .pathIoError
  else .obs (packed - coreRangeEnd)

/-- The slot's number does not wrap. -/
def Fits : EventTypeId → Prop
  | .core _ => True
  | .obs n => coreRangeEnd.toNat + n.toNat < 2 ^ 32

instance (typeId : EventTypeId) : Decidable typeId.Fits := by
  cases typeId <;> unfold Fits <;> infer_instance

lemma asU32_decodeType (packed : UInt32) : (decodeType packed).asU32 = packed := by
  unfold decodeType
  split_ifs with h₀ h₁ h₂ h₃
  · exact h₀.symm
  · exact h₁.symm
  · exact h₂.symm
  · exact h₃.symm
  · simp only [asU32]
    grind

lemma decodeType_asU32 (hfits : typeId.Fits) : decodeType typeId.asU32 = typeId := by
  cases typeId with
  | core id => cases id <;> rfl
  | obs n =>
    have hlarge : (coreRangeEnd + n).toNat = 16 + n.toNat := by
      exact Nat.mod_eq_of_lt hfits
    have hne : ∀ m : UInt32, m.toNat < 16 → coreRangeEnd + n ≠ m := by
      rintro m hm rfl
      omega
    rw [asU32, decodeType, if_neg (hne 0 (by decide)), if_neg (hne 1 (by decide)),
      if_neg (hne 2 (by decide)), if_neg (hne 3 (by decide))]
    congr 1
    grind

lemma asU32_injective {typeId typeId' : EventTypeId} (hfits : typeId.Fits)
    (hfits' : typeId'.Fits) (h : typeId.asU32 = typeId'.asU32) : typeId = typeId' := by
  rw [← decodeType_asU32 hfits, h, decodeType_asU32 hfits']

end EventTypeId

/-! ## The status of subscribers -/

def maxLifecycleTimeoutsBeforeUnwire : Nat := 8

inductive UnwireReason where
  | lifecycleTimeoutThresholdExceeded
  | channelClosed
  | scopeRevoked
  deriving DecidableEq

inductive SubscriberStatus where
  | healthy
  | degraded (consecutiveTimeouts : Nat)
  | unwired (reason : UnwireReason) (atNs totalTimeouts lastTimeoutAtNs : Nat)
  deriving DecidableEq

def SubscriberStatus.isUnwired : SubscriberStatus → Bool
  | .unwired _ _ _ _ => true
  | _ => false

abbrev SubKey := EventTypeId × Nat

structure SubscriberStatusTable where
  map : Table SubKey SubscriberStatus
  cumulative : Table SubKey Nat

namespace SubscriberStatusTable

def new : SubscriberStatusTable := ⟨∅, ∅⟩

def get (t : SubscriberStatusTable) (key : SubKey) : SubscriberStatus :=
  (t.map.lookup key).getD .healthy

def recordTimeout (t : SubscriberStatusTable) (key : SubKey) (atNs : Nat) :
    SubscriberStatusTable × Bool :=
  let total := ((t.cumulative.lookup key).getD 0 + 1) % 2 ^ 32
  let t := { t with cumulative := t.cumulative.insert key total }
  match t.get key with
  | .unwired _ _ _ _ => (t, false)
  | .healthy => ({ t with map := t.map.insert key (.degraded 1) }, false)
  | .degraded consecutiveTimeouts =>
    let c := consecutiveTimeouts + 1
    if maxLifecycleTimeoutsBeforeUnwire ≤ c then
      ({ t with
          map := t.map.insert key
            (.unwired .lifecycleTimeoutThresholdExceeded atNs total atNs) }, true)
    else
      ({ t with map := t.map.insert key (.degraded c) }, false)

def recordSuccess (t : SubscriberStatusTable) (key : SubKey) : SubscriberStatusTable :=
  if (t.get key).isUnwired then t else { t with map := t.map.insert key .healthy }

def recordUnwired (t : SubscriberStatusTable) (reason : UnwireReason) (key : SubKey)
    (atNs : Nat) : SubscriberStatusTable :=
  let total := (t.cumulative.lookup key).getD 0
  { t with map := t.map.insert key (.unwired reason atNs total atNs) }

def recordClosed (t : SubscriberStatusTable) (key : SubKey) (atNs : Nat) :
    SubscriberStatusTable :=
  t.recordUnwired .channelClosed key atNs

def recordScopeRevoked (t : SubscriberStatusTable) (key : SubKey) (atNs : Nat) :
    SubscriberStatusTable :=
  t.recordUnwired .scopeRevoked key atNs

end SubscriberStatusTable

/-! ## The bus -/

abbrev ScopeId := UInt32

/-- The scope of callers that do not use scopes; it is never unwired. -/
def unscoped : ScopeId := 0

structure ScopedSender where
  /-- The channel to the subscriber. -/
  tx : Nat
  scope : ScopeId
  deriving DecidableEq

def initialSlots : Nat := 64

structure ObservationBus where
  routing : List (List ScopedSender)
  status : SubscriberStatusTable

/-- What becomes of a subscriber's copy of a reliable event. -/
inductive Outcome where
  | accepts
  | closed
  | timesOut
  deriving DecidableEq

structure DeliveryReport where
  delivered : Nat
  timedOut : Nat
  closed : Nat
  deriving DecidableEq

namespace ObservationBus

def new : ObservationBus := ⟨replicate initialSlots [], .new⟩

def slot (b : ObservationBus) (typeId : EventTypeId) : List ScopedSender :=
  (b.routing[typeId.asU32.toNat]?).getD []

def wireSubscriberScoped (b : ObservationBus) (typeId : EventTypeId) (tx : Nat)
    (scope : ScopeId) : ObservationBus :=
  let slotIdx := typeId.asU32.toNat
  let next :=
    if b.routing.length ≤ slotIdx then
      b.routing ++ replicate (slotIdx + 8 - b.routing.length) []
    else
      b.routing
  { b with routing := next.modify slotIdx (· ++ [⟨tx, scope⟩]) }

def revokeSlot (scope : ScopeId) (nowNs : Nat) (status : SubscriberStatusTable)
    (entry : List ScopedSender × Nat) : SubscriberStatusTable :=
  entry.1.zipIdx.foldl
    (fun status (s, i) =>
      if s.scope = scope then
        status.recordScopeRevoked (EventTypeId.decodeType (UInt32.ofNat entry.2), i) nowNs
      else
        status)
    status

def unwireScope (b : ObservationBus) (scope : ScopeId) (nowNs : Nat) : ObservationBus :=
  if scope = unscoped then
    b
  else
    { routing := b.routing.map fun slot => slot.filter fun s => s.scope ≠ scope
      status := b.routing.zipIdx.foldl (revokeSlot scope nowNs) b.status }

def recordAnswer (typeId : EventTypeId) (outcomes : Nat → Outcome) (atNs : Nat)
    (status : SubscriberStatusTable) (idx : Nat) : SubscriberStatusTable :=
  match outcomes idx with
  | .accepts => status.recordSuccess (typeId, idx)
  | .closed => status.recordClosed (typeId, idx) atNs
  | .timesOut => status

def recordTimeouts (typeId : EventTypeId) (outcomes : Nat → Outcome) (atNs : Nat) :
    List Nat → SubscriberStatusTable → SubscriberStatusTable × List Nat
  | [], status => (status, [])
  | idx :: rest, status =>
    if outcomes idx = .timesOut then
      let (status, unwiredNow) := status.recordTimeout (typeId, idx) atNs
      let (status, unwired) := recordTimeouts typeId outcomes atNs rest status
      (status, if unwiredNow then idx :: unwired else unwired)
    else
      recordTimeouts typeId outcomes atNs rest status

/-- Higher positions go first, so that the lower ones stay valid. -/
def dropIndices (b : ObservationBus) (typeId : EventTypeId) (drop : List Nat) :
    ObservationBus :=
  let sorted := drop.mergeSort fun a b => decide (b ≤ a)
  { b with
    routing := b.routing.modify typeId.asU32.toNat fun v => sorted.foldl eraseIdx v }

def publishReliable (b : ObservationBus) (typeId : EventTypeId) (outcomes : Nat → Outcome)
    (atNs : Nat) : ObservationBus × DeliveryReport :=
  let indices := range (b.slot typeId).length
  let status := indices.foldl (recordAnswer typeId outcomes atNs) b.status
  let (status, unwired) := recordTimeouts typeId outcomes atNs indices status
  let b := { b with status }
  (if unwired = [] then b else b.dropIndices typeId unwired,
    { delivered := indices.countP (outcomes · = .accepts)
      timedOut := indices.countP (outcomes · = .timesOut)
      closed := indices.countP (outcomes · = .closed) })

end ObservationBus

inductive BusStep where
  | wire (typeId : EventTypeId) (tx : Nat) (scope : ScopeId)
  | unwireScope (scope : ScopeId) (nowNs : Nat)
  | publishReliable (typeId : EventTypeId) (outcomes : Nat → Outcome) (atNs : Nat)

def ObservationBus.step (b : ObservationBus) : BusStep → ObservationBus × Option DeliveryReport
  | .wire typeId tx scope => (b.wireSubscriberScoped typeId tx scope, none)
  | .unwireScope scope nowNs => (b.unwireScope scope nowNs, none)
  | .publishReliable typeId outcomes atNs =>
    let (b, report) := b.publishReliable typeId outcomes atNs
    (b, some report)

end MeshBus.Kernel
