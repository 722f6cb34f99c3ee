import MeshBus.Lib.OrdMap
import MeshBus.Quic.Frame

/-!
# Loss detection and congestion control

Times are microseconds and are passed in.  Three packet number spaces share one
round-trip estimator and one congestion controller.
-/

namespace MeshBus.Quic

open Lib List

/-! ## Levels -/

/-- Encryption levels, each with its own packet number space. -/
inductive Level where
  | initial
  | handshake
  | data
deriving DecidableEq, Repr

def levels : List Level := [.initial, .handshake, .data]

lemma mem_levels (level : Level) : level ∈ levels := by
  cases level <;> decide

/-- One value for each level: an array of three. -/
structure PerLevel (α : Type) where
  initial : α
  handshake : α
  data : α

open PerLevel

namespace PerLevel
variable {α : Type}

def same (a : α) : PerLevel α := ⟨a, a, a⟩

def get (p : PerLevel α) : Level → α
  | .initial => p.initial
  | .handshake => p.handshake
  | .data => p.data

def set (p : PerLevel α) (level : Level) (a : α) : PerLevel α :=
  match level with
  | .initial => { p with initial := a }
  | .handshake => { p with handshake := a }
  | .data => { p with data := a }

@[simp] lemma get_set (p : PerLevel α) (level level' : Level) (a : α) :
    (p.set level a).get level' = if level' = level then a else p.get level' := by
  cases level <;> cases level' <;> rfl

@[simp] lemma get_same {level : Level} : (same a).get level = a := by
  cases level <;> rfl

end PerLevel

/-! ## Round trips -/

def granularityUs : Nat := 1000
def packetThreshold : Nat := 3
def initialRttUs : Nat := 333000
def maxDatagram : Nat := 1200
def initialWindow : Nat := 10 * maxDatagram
def minWindow : Nat := 2 * maxDatagram

structure RttEstimator where
  latest : Nat := initialRttUs
  min : Nat := initialRttUs
  smoothed : Nat := initialRttUs
  rttvar : Nat := initialRttUs / 2
  sampled : Bool := false
deriving DecidableEq, Repr

namespace RttEstimator

def onSample (e : RttEstimator) (rtt ackDelay maxAckDelay : Nat) : RttEstimator :=
  if e.sampled then
    let low := Nat.min e.min rtt
    let delay := Nat.min ackDelay maxAckDelay
    let adjusted := if low + delay ≤ rtt then rtt - delay else rtt
    let sample := (e.smoothed - adjusted) + (adjusted - e.smoothed)
    { e with
      latest := rtt
      min := low
      rttvar := (e.rttvar * 3 + sample) / 4
      smoothed := (e.smoothed * 7 + adjusted) / 8 }
  else ⟨rtt, rtt, rtt, rtt / 2, true⟩

def ptoBase (e : RttEstimator) (maxAckDelay : Nat) : Nat :=
  e.smoothed + max (4 * e.rttvar) granularityUs + maxAckDelay

end RttEstimator

/-! ## Congestion -/

structure Congestion where
  cwnd : Nat := initialWindow
  bytesInFlight : Nat := 0
  ssthresh : Nat := 2 ^ 64 - 1
  recoveryStart : Nat := 0
deriving DecidableEq, Repr

namespace Congestion

def available (cc : Congestion) : Nat := cc.cwnd - cc.bytesInFlight

def onSent (cc : Congestion) (size : Nat) : Congestion :=
  { cc with bytesInFlight := cc.bytesInFlight + size }

def onAcked (cc : Congestion) (size : Nat) : Congestion :=
  { cc with
    bytesInFlight := cc.bytesInFlight - size
    cwnd := if cc.cwnd < cc.ssthresh then cc.cwnd + size
      else cc.cwnd + maxDatagram * size / max cc.cwnd 1 }

/-- The window is halved for packets sent after the last time it was. -/
def onLoss (cc : Congestion) (lostBytes largestLostSent : Nat) : Congestion :=
  let cc := { cc with bytesInFlight := cc.bytesInFlight - lostBytes }
  if largestLostSent ≤ cc.recoveryStart then cc
  else
    let half := max (cc.cwnd / 2) minWindow
    { cc with recoveryStart := largestLostSent, ssthresh := half, cwnd := half }

end Congestion

/-! ## Loss recovery -/

structure SentPacket where
  pn : Nat
  timeSent : Nat
  size : Nat
  ackEliciting : Bool
deriving DecidableEq, Repr

structure SpaceRecovery where
  sent : OrdMap Nat SentPacket := .empty
  largestAcked : Option Nat := none
  lossTime : Option Nat := none
  lastAckEliciting : Option Nat := none

structure LossRecovery where
  spaces : PerLevel SpaceRecovery := .same {}
  rtt : RttEstimator := {}
  cc : Congestion := {}
  ptoCount : Nat := 0
  maxAckDelay : Nat := 25000

def wrapSub (a b : Nat) : Nat := (a + 2 ^ 64 - b) % 2 ^ 64

/-- The blocks behind the first one, which ends at `lo`. -/
def laterBlocks (lo : Nat) : List AckRange → List (Nat × Nat)
  | [] => []
  | r :: rest =>
    if lo < r.gap + 2 then []
    else
      let hi := lo - r.gap - 2
      (wrapSub hi r.range, hi) :: laterBlocks (wrapSub hi r.range) rest

/-- `acked_numbers`: the blocks of packet numbers, each from its least to its
greatest. -/
def ackedNumbers (largest firstRange : Nat) (ranges : List AckRange) : List (Nat × Nat) :=
  (wrapSub largest firstRange, largest) :: laterBlocks (wrapSub largest firstRange) ranges

def inBlock (block : Nat × Nat) (pn : Nat) : Bool := block.1 ≤ pn && pn ≤ block.2

def takeBlocks (sent : OrdMap Nat SentPacket) :
    List (Nat × Nat) → OrdMap Nat SentPacket × List SentPacket
  | [] => (sent, [])
  | block :: rest =>
    let later := takeBlocks (sent.filter fun pn _ => !inBlock block pn) rest
    (later.1, (sent.filter fun pn _ => inBlock block pn).values ++ later.2)

namespace LossRecovery

def onPacketSent (r : LossRecovery) (level : Level) (pkt : SentPacket) : LossRecovery :=
  let s := r.spaces.get level
  { r with
    cc := r.cc.onSent pkt.size
    spaces := r.spaces.set level { s with
      sent := s.sent.insert pkt.pn pkt
      lastAckEliciting := if pkt.ackEliciting then some pkt.timeSent else s.lastAckEliciting } }

/-- The round trip of an acknowledged packet, if it is the largest of the frame
and the newest that asked for an acknowledgement. -/
def sampleOf (newly : List SentPacket) (largest now : Nat) : Option Nat :=
  let eliciting := newly.filter fun p => p.ackEliciting
  if (eliciting.map fun p => p.pn).max? = some largest then
    (eliciting.find? fun p => p.pn = largest).map fun p => now - p.timeSent
  else none

def onAck (r : LossRecovery) (level : Level) (largest firstRange : Nat) (ranges : List AckRange)
    (ackDelay now : Nat) : LossRecovery × List SentPacket :=
  let s := r.spaces.get level
  let taken := takeBlocks s.sent (ackedNumbers largest firstRange ranges)
  ({ r with
    spaces := r.spaces.set level { s with
      sent := taken.1
      largestAcked := some (s.largestAcked.elim largest (max · largest)) }
    rtt := (sampleOf taken.2 largest now).elim r.rtt (r.rtt.onSample · ackDelay r.maxAckDelay)
    cc := taken.2.foldl (fun cc p => cc.onAcked p.size) r.cc
    ptoCount := if taken.2.isEmpty then r.ptoCount else 0 }, taken.2)

def lossThreshold (r : LossRecovery) : Nat :=
  max (max r.rtt.latest r.rtt.smoothed * 9 / 8) granularityUs

/-- Whether a packet counts as lost: it lies too far behind the largest that was
acknowledged, or was sent too long ago. -/
def isLost (largest threshold now : Nat) (pn : Nat) (p : SentPacket) : Bool :=
  pn < largest && (packetThreshold ≤ largest - pn || p.timeSent + threshold ≤ now)

def detectLost (r : LossRecovery) (level : Level) (now : Nat) : LossRecovery × List SentPacket :=
  let s := r.spaces.get level
  match s.largestAcked with
  | none => (r, [])
  | some largest =>
    let threshold := r.lossThreshold
    let lost := (s.sent.filter (isLost largest threshold now)).values
    let kept := s.sent.filter fun pn p => !isLost largest threshold now pn p
    let waiting := (kept.entries.filter fun entry => entry.1 < largest).map fun entry =>
      entry.2.timeSent + threshold
    ({ r with
      spaces := r.spaces.set level { s with sent := kept, lossTime := waiting.min? }
      cc := if lost.isEmpty then r.cc
        else r.cc.onLoss (lost.map fun p => p.size).sum
          ((lost.map fun p => p.timeSent).max?.getD 0) }, lost)

/-- `loss_timer`; the shift drops high bits, as on 64-bit words. -/
def lossTimer (r : LossRecovery) : Option Nat :=
  match (levels.filterMap fun level => (r.spaces.get level).lossTime).min? with
  | some time => some time
  | none =>
    (levels.filterMap fun level => (r.spaces.get level).lastAckEliciting).max?.map fun last =>
      last + r.rtt.ptoBase r.maxAckDelay * 2 ^ (r.ptoCount % 64) % 2 ^ 64

def onPtoExpired (r : LossRecovery) : LossRecovery := { r with ptoCount := r.ptoCount + 1 }

end LossRecovery

/-! ## Packets that are no longer tracked -/

/-- Some packets are taken out of a map, and the others stay. -/
structure Splits (sent kept : OrdMap Nat SentPacket) (out : List SentPacket) : Prop where
  sub : ∀ entry ∈ kept.entries, entry ∈ sent.entries
  cover : ∀ entry ∈ sent.entries, entry ∈ kept.entries ∨ entry.2 ∈ out

namespace Splits

lemma refl (sent : OrdMap Nat SentPacket) : Splits sent sent [] where
  sub _ h := h
  cover _ h := .inl h

lemma filter (sent : OrdMap Nat SentPacket) (gone : Nat → SentPacket → Bool) :
    Splits sent (sent.filter fun pn p => !gone pn p) (sent.filter gone).values where
  sub _ h := (mem_filter.mp h).1
  cover entry h := by
    cases hgone : gone entry.1 entry.2 with
    | false => exact .inl (mem_filter.mpr ⟨h, Bool.not_eq_eq_eq_not.mpr hgone⟩)
    | true => exact .inr (mem_map_of_mem (mem_filter.mpr ⟨h, hgone⟩))

lemma trans (h : Splits sent₁ sent₂ out) (h' : Splits sent₂ sent₃ out') :
    Splits sent₁ sent₃ (out ++ out') where
  sub entry hmem := h.sub entry (h'.sub entry hmem)
  cover entry hmem := by
    rcases h.cover entry hmem with hkept | hout
    · exact (h'.cover entry hkept).imp_right (mem_append_right _)
    · exact .inr (mem_append_left _ hout)

end Splits

lemma takeBlocks_splits (sent : OrdMap Nat SentPacket) (blocks : List (Nat × Nat)) :
    Splits sent (takeBlocks sent blocks).1 (takeBlocks sent blocks).2 := by
  induction blocks generalizing sent with
  | nil => exact .refl sent
  | cons block rest ih => exact (Splits.filter sent fun pn _ => inBlock block pn).trans (ih _)

/-- Packets of one level are no longer tracked; those of the others are. -/
structure Untracks (before after : PerLevel SpaceRecovery) (level : Level)
    (out : List SentPacket) : Prop where
  here : Splits (before.get level).sent (after.get level).sent out
  there : ∀ level', level' ≠ level → after.get level' = before.get level'

lemma LossRecovery.onAck_untracks (r : LossRecovery) (level : Level) (largest firstRange : Nat)
    (ranges : List AckRange) (ackDelay now : Nat) :
    Untracks r.spaces (r.onAck level largest firstRange ranges ackDelay now).1.spaces level
      (r.onAck level largest firstRange ranges ackDelay now).2 where
  here := by
    unfold onAck
    dsimp only
    rw [get_set, if_pos rfl]
    exact takeBlocks_splits _ _
  there level' hne := by
    unfold onAck
    dsimp only
    rw [get_set, if_neg hne]

lemma LossRecovery.detectLost_untracks (r : LossRecovery) (level : Level) (now : Nat) :
    Untracks r.spaces (r.detectLost level now).1.spaces level (r.detectLost level now).2 := by
  unfold detectLost
  dsimp only
  split
  · exact ⟨.refl _, fun _ _ => rfl⟩
  · refine ⟨?_, fun level' hne => ?_⟩
    · rw [get_set, if_pos rfl]
      exact .filter _ _
    · rw [get_set, if_neg hne]

end MeshBus.Quic
