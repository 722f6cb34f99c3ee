import MeshBus.Lib.OrdMap
import MeshBus.Quic.Frame

/-!
# Streams, credit and datagrams

What a connection keeps for the application: the two halves of every stream, the
credit of both directions, and the queues of unreliable datagrams.
-/

namespace MeshBus.Quic

open Lib

inductive Side where
  | client
  | server
deriving DecidableEq, Repr

/-! ## Credit -/

structure FlowController where
  limit : Nat
  used : Nat
deriving DecidableEq, Repr

namespace FlowController

def new (limit : Nat) : FlowController := ⟨limit, 0⟩

def available (fc : FlowController) : Nat := fc.limit - fc.used

/-- Use `n` octets of the credit, or nothing at all. -/
def consume (fc : FlowController) (n : Nat) : Option FlowController :=
  if fc.available < n then none else some { fc with used := fc.used + n }

def setLimit (fc : FlowController) (newLimit : Nat) : FlowController :=
  if fc.limit < newLimit then { fc with limit := newLimit } else fc

def maybeExtend (fc : FlowController) (window : Nat) : FlowController × Option Nat :=
  if (fc.limit - fc.used) * 2 ≤ window then
    ({ fc with limit := fc.used + window }, some (fc.used + window))
  else (fc, none)

end FlowController

/-! ## Datagrams -/

structure DatagramQueue where
  outgoing : List Bytes
  incoming : List Bytes
  maxQueued : Nat
  maxRecv : Nat
deriving DecidableEq, Repr

namespace DatagramQueue

def new (depth : Nat) : DatagramQueue := ⟨[], [], depth, depth⟩

def queueOutgoing (q : DatagramQueue) (data : Bytes) : DatagramQueue × Bool :=
  if q.maxQueued ≤ q.outgoing.length then (q, false)
  else ({ q with outgoing := q.outgoing ++ [data] }, true)

/-- All that fits goes out; what does not is dropped. -/
def takeAll (q : DatagramQueue) (maxLen : Nat) : DatagramQueue × List Bytes :=
  ({ q with outgoing := [] }, q.outgoing.filter fun data => data.length ≤ maxLen)

def ingest (q : DatagramQueue) (data : Bytes) : DatagramQueue :=
  { q with
    incoming := (if q.maxRecv ≤ q.incoming.length then q.incoming.drop 1 else q.incoming) ++
      [data] }

def recv (q : DatagramQueue) : DatagramQueue × Option Bytes :=
  ({ q with incoming := q.incoming.drop 1 }, q.incoming.head?)

end DatagramQueue

/-! ## Reassembly -/

abbrev Chunks : Type := OrdMap Nat Bytes

/-- Take chunks off the front while they start at or before `next`: what they add,
the chunks that stay, and the offset reached. -/
def drainChunks (next : Nat) : List (Nat × Bytes) → Bytes × List (Nat × Bytes) × Nat
  | [] => ([], [], next)
  | (off, data) :: rest =>
    if next < off then ([], (off, data) :: rest, next)
    else
      let fresh := data.drop (next - off)
      let later := drainChunks (next + fresh.length) rest
      (fresh ++ later.1, later.2)

lemma drainChunks_sublist (next : Nat) (chunks : List (Nat × Bytes)) :
    (drainChunks next chunks).2.1.Sublist chunks := by
  induction chunks generalizing next with
  | nil => exact List.Sublist.refl _
  | cons chunk rest ih =>
    unfold drainChunks
    split
    · exact List.Sublist.refl _
    · exact (ih _).cons _

def readChunks (next : Nat) (chunks : Chunks) : Bytes × Chunks × Nat :=
  let drained := drainChunks next chunks.entries
  (drained.1, ⟨drained.2.1, chunks.sorted.sublist (drainChunks_sublist next chunks.entries)⟩,
    drained.2.2)

structure RecvStream where
  chunks : Chunks := .empty
  readOff : Nat := 0
  finalSize : Option Nat := none
  stopped : Bool := false

namespace RecvStream

def ingest (s : RecvStream) (offset : Nat) (data : Bytes) (fin : Bool) : RecvStream :=
  let s := if fin then { s with finalSize := some (offset + data.length) } else s
  if offset + data.length ≤ s.readOff ∨ data = [] then s
  else
    let start := max offset s.readOff
    match s.chunks.lookup start with
    | some _ => s
    | none => { s with chunks := s.chunks.insert start (data.drop (start - offset)) }

def read (s : RecvStream) : RecvStream × Bytes :=
  let drained := readChunks s.readOff s.chunks
  ({ s with chunks := drained.2.1, readOff := drained.2.2 }, drained.1)

def stop (s : RecvStream) : RecvStream := { s with stopped := true }

end RecvStream

/-! ## Streams -/

structure SendStream where
  queued : Bytes := []
  sendOff : Nat := 0
  fin : Bool := false
  finSent : Bool := false
deriving DecidableEq, Repr

namespace SendStream

def write (s : SendStream) (data : Bytes) (fin : Bool) : SendStream :=
  { s with queued := s.queued ++ data, fin := s.fin || fin }

def hasPending (s : SendStream) : Bool := !s.queued.isEmpty || (s.fin && !s.finSent)

/-- Up to `max` octets for one frame: its offset, its data and whether it is the
last. -/
def take (s : SendStream) (max : Nat) : Option (SendStream × Nat × Bytes × Bool) :=
  if s.hasPending then
    let chunk := s.queued.take max
    let queued := s.queued.drop max
    let fin := s.fin && queued.isEmpty
    some ({ s with
      queued := queued
      sendOff := s.sendOff + chunk.length
      finSent := s.finSent || fin }, s.sendOff, chunk, fin)
  else none

end SendStream

structure Stream where
  send : SendStream := {}
  recv : RecvStream := {}

def maxConcurrentStreams : Nat := 256

def nthStream (side : Side) (bidi : Bool) (index : Nat) : Nat :=
  index * 4 + (if side = .server then 1 else 0) + (if bidi then 0 else 2)

/-- The table of a hash map, kept in the order in which it is walked. -/
structure StreamMap where
  side : Side
  streams : OrdMap Nat Stream
  nextBidi : Nat
  nextUni : Nat
  peerMaxBidi : Nat
  peerMaxUni : Nat

namespace StreamMap

def new (side : Side) : StreamMap := ⟨side, .empty, 0, 0, 0, 0⟩

def setPeerMax (m : StreamMap) (bidi : Bool) (value : Nat) : StreamMap :=
  if bidi then { m with peerMaxBidi := max m.peerMaxBidi value }
  else { m with peerMaxUni := max m.peerMaxUni value }

/-- A new stream takes the place of whatever has its number. -/
def openNext (m : StreamMap) (bidi : Bool) : StreamMap × Option Nat :=
  if bidi then
    if m.peerMaxBidi ≤ m.nextBidi then (m, none)
    else
      let id := nthStream m.side true m.nextBidi
      ({ m with nextBidi := m.nextBidi + 1, streams := m.streams.insert id {} }, some id)
  else
    if m.peerMaxUni ≤ m.nextUni then (m, none)
    else
      let id := nthStream m.side false m.nextUni
      ({ m with nextUni := m.nextUni + 1, streams := m.streams.insert id {} }, some id)

def entry (m : StreamMap) (id : Nat) : Stream := (m.streams.lookup id).getD {}

def modify (m : StreamMap) (id : Nat) (f : Stream → Stream) : StreamMap :=
  { m with streams := m.streams.insert id (f (m.entry id)) }

def wouldExceedCap (m : StreamMap) (id : Nat) : Bool :=
  (m.streams.lookup id).isNone && decide (maxConcurrentStreams ≤ m.streams.entries.length)

def sendable (m : StreamMap) : List Nat :=
  (m.streams.entries.filter fun entry => entry.2.send.hasPending).map Prod.fst

end StreamMap

/-! ## Handshake data -/

def maxStreamRxBytes : Nat := 8 * 2 ^ 20

structure CryptoStream where
  tx : Bytes := []
  txOff : Nat := 0
  rxNext : Nat := 0
  rxBuf : Chunks := .empty

namespace CryptoStream

def pushTx (s : CryptoStream) (data : Bytes) : CryptoStream := { s with tx := s.tx ++ data }

def takeTx (s : CryptoStream) (max : Nat) : Option (CryptoStream × Nat × Bytes) :=
  if s.tx.isEmpty then none
  else
    let chunk := s.tx.take max
    some ({ s with tx := s.tx.drop max, txOff := s.txOff + chunk.length }, s.txOff, chunk)

/-- What lies behind is ignored, and what would fill the buffer is dropped. -/
def recv (s : CryptoStream) (off : Nat) (data : Bytes) : CryptoStream :=
  if off + data.length ≤ s.rxNext then s
  else if maxStreamRxBytes < (s.rxBuf.values.map List.length).sum + data.length then s
  else { s with rxBuf := s.rxBuf.insert off data }

def readInOrder (s : CryptoStream) : CryptoStream × Bytes :=
  let drained := readChunks s.rxNext s.rxBuf
  ({ s with rxBuf := drained.2.1, rxNext := drained.2.2 }, drained.1)

end CryptoStream
end MeshBus.Quic
