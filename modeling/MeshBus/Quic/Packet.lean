import MeshBus.Quic.Recovery

/-!
# QUIC packets

Packets are taken apart as far as a connection looks into them.  Protection is
ideal: a payload can be opened with the key, the packet number and the header it
was sealed with, and with nothing else.
-/

namespace MeshBus.Quic

open Lib

structure ConnectionId where
  bytes : Bytes
  fits : bytes.length ≤ 20
deriving DecidableEq

lemma seven_fits : [(7 : UInt8)].length ≤ 20 := by decide

lemma eight_fits : [(8 : UInt8)].length ≤ 20 := by decide

lemma nine_fits : [(9 : UInt8)].length ≤ 20 := by decide

/-! ## Packet numbers -/

/-- The low octets of a packet number, as they stand in a header. -/
structure TruncatedPn where
  len : Nat
  value : Nat
  len_pos : 1 ≤ len
  len_le : len ≤ 4
  value_lt : value < 2 ^ (8 * len)
deriving DecidableEq

def packetNumberLen (pn : Nat) (largestAcked : Option Nat) : Nat :=
  let range := largestAcked.elim (pn + 1) fun acked => (pn - acked) * 2 + 1
  if range < 2 ^ 8 then 1 else if range < 2 ^ 16 then 2 else if range < 2 ^ 24 then 3 else 4

lemma packetNumberLen_le {pn : Nat} : packetNumberLen pn largestAcked ≤ 4 := by
  unfold packetNumberLen
  dsimp only
  split
  · decide
  · split
    · decide
    · split <;> decide

def encodePacketNumber (pn : Nat) : TruncatedPn where
  len := max (packetNumberLen pn none) 2
  value := pn % 2 ^ (8 * max (packetNumberLen pn none) 2)
  len_pos := le_trans (by decide) (Nat.le_max_right _ 2)
  len_le := Nat.max_le.mpr ⟨packetNumberLen_le, by decide⟩
  value_lt := Nat.mod_lt _ (Nat.two_pow_pos _)

def decodePacketNumber (largestPn : Nat) (truncated : TruncatedPn) : Nat :=
  let window := 2 ^ (8 * truncated.len)
  let expected := largestPn + 1
  let candidate := expected / window * window + truncated.value
  if candidate + window / 2 ≤ expected ∧ candidate + window < 2 ^ 62 then candidate + window
  else if expected + window / 2 < candidate ∧ window ≤ candidate then candidate - window
  else candidate

/-! ## Headers -/

/-- The long packets that a connection reads. -/
inductive LongType where
  | initial
  | handshake
deriving DecidableEq, Repr

def LongType.level : LongType → Level
  | .initial => .initial
  | .handshake => .handshake

inductive Header where
  | long (ty : LongType) (version : Nat) (dcid scid : ConnectionId) (pn : TruncatedPn)
  | short (dcid : ConnectionId) (pn : TruncatedPn)
deriving DecidableEq

namespace Header

def level : Header → Level
  | .long ty .. => ty.level
  | .short .. => .data

def pn : Header → TruncatedPn
  | .long _ _ _ _ pn => pn
  | .short _ pn => pn

def size (header : Header) (bodyLen : Nat) : Nat :=
  match header with
  | .long ty _ dcid scid pn =>
    7 + dcid.bytes.length + scid.bytes.length + (if ty = .initial then 1 else 0) +
      varintLen (pn.len + bodyLen + 16)
  | .short dcid _ => 1 + dcid.bytes.length

end Header

/-- What `decode_all` makes of a payload. -/
abbrev Payload : Type := Except Error (List Frame)

structure Sealed (κ : Type) where
  key : κ
  pn : Nat
  header : Header
  payload : Payload

def Sealed.openWith {κ : Type} [DecidableEq κ] (body : Sealed κ) (key : κ) (pn : Nat)
    (header : Header) : Option Payload :=
  if body.key = key ∧ body.pn = pn ∧ body.header = header then some body.payload else none

/-- A packet of a datagram: one that `recv_one` turns down before it looks for a
key, or a header and a body.  A `short` one ends before the sample of its header
protection does. -/
inductive Packet (κ : Type) where
  | malformed (error : Error)
  | whole (header : Header) (short : Bool) (body : Sealed κ)

abbrev Datagram (κ : Type) : Type := Except Error (List (Packet κ))

end MeshBus.Quic
