import MeshBus.Quic.Decode
import MeshBus.Quic.Packet

/-!
# Packets as octets

How long headers are written and read, and where `split_packets` cuts a datagram.
-/

namespace MeshBus.Quic

open Lib Lib.Reader List

/-! ## Long headers -/

/-- The long packets that can stand in a datagram. -/
inductive LongKind where
  | initial
  | zeroRtt
  | handshake
  | retry
deriving DecidableEq, Repr

open LongKind

namespace LongKind

def typeBits : LongKind → UInt8
  | .initial => 0b00
  | .zeroRtt => 0b01
  | .handshake => 0b10
  | .retry => 0b11

def fromBits (bits : UInt8) : LongKind :=
  if bits &&& 0b11 = 0b00 then .initial
  else if bits &&& 0b11 = 0b01 then .zeroRtt
  else if bits &&& 0b11 = 0b10 then .handshake
  else .retry

def type? : LongKind → Option LongType
  | .initial => some .initial
  | .handshake => some .handshake
  | _ => none

end LongKind

def LongType.kind : LongType → LongKind
  | .initial => .initial
  | .handshake => .handshake

/-- A long header up to the length field. -/
structure LongHeader where
  kind : LongKind
  version : Nat
  dcid : ConnectionId
  scid : ConnectionId
  token : Bytes
deriving DecidableEq

def LongHeader.fields (h : LongHeader) : Bytes :=
  beBytes 4 h.version ++ ([UInt8.ofNat h.dcid.bytes.length] ++ (h.dcid.bytes ++
    ([UInt8.ofNat h.scid.bytes.length] ++ (h.scid.bytes ++
      if h.kind = .initial then encodeVarint h.token.length ++ h.token else []))))

def writeLongHeader (h : LongHeader) (firstByteLow : UInt8) : Bytes :=
  ((0b11000000 : UInt8) ||| (h.kind.typeBits <<< 4) ||| (firstByteLow &&& 0x0f)) :: h.fields

def newConnectionId (bs : Bytes) : Reader Error ConnectionId :=
  if fits : bs.length ≤ 20 then pure ⟨bs, fits⟩
  else throw (.malformed "connection id > 20 bytes")

def parseLongHeader : Reader Error (LongHeader × UInt8) := do
  let first ← octet .shortBuffer
  let _ ← check (first &&& 0x80 != 0) (.malformed "not a long header")
  -- seven octets with the first
  let _ ← need .shortBuffer 6
  let version ← take .shortBuffer 4
  let dcidLen ← octet .shortBuffer
  let _ ← need .shortBuffer (dcidLen.toNat + 1)
  let dcid ← take .shortBuffer dcidLen.toNat
  let dcid ← newConnectionId dcid
  let scidLen ← octet .shortBuffer
  let scid ← take .shortBuffer scidLen.toNat
  let scid ← newConnectionId scid
  let token ← (if fromBits (first >>> 4) = .initial then do
      let len ← decodeVarint
      take .shortBuffer len
    else pure [])
  pure (⟨fromBits (first >>> 4), ofBeBytes version, dcid, scid, token⟩, first &&& 0x0f)

lemma parses_connectionId : Parses (newConnectionId cid.bytes) [] cid := by
  intro tail
  unfold newConnectionId
  rw [dif_pos cid.fits]
  rfl

lemma parses_longHeader {first : UInt8} (hlong : first &&& 0x80 ≠ 0)
    (hkind : fromBits (first >>> 4) = h.kind) (hver : h.version < 2 ^ 32)
    (htoken : h.token.length ≤ varintMax) (hnone : h.kind ≠ .initial → h.token = []) :
    Parses parseLongHeader (first :: h.fields) (h, first &&& 0x0f) := by
  obtain ⟨kind, version, dcid, scid, token⟩ := h
  dsimp only at hkind hver htoken hnone
  subst hkind
  have hvers : Parses (take Error.shortBuffer 4) (beBytes 4 version) (beBytes 4 version) := by
    have htake := parses_take Error.shortBuffer (beBytes 4 version)
    rwa [length_beBytes] at htake
  have hcid : ∀ cid : ConnectionId, (UInt8.ofNat cid.bytes.length).toNat = cid.bytes.length ∧
      Parses (take Error.shortBuffer (UInt8.ofNat cid.bytes.length).toNat) cid.bytes cid.bytes := by
    intro cid
    have hlen : (UInt8.ofNat cid.bytes.length).toNat = cid.bytes.length :=
      UInt8.toNat_ofNat_of_lt' (lt_of_le_of_lt cid.fits (by decide))
    rw [hlen]
    exact ⟨rfl, parses_take _ _⟩
  have htok : Parses (if fromBits (first >>> 4) = .initial then do
        let len ← decodeVarint
        take .shortBuffer len
      else pure [])
      (if fromBits (first >>> 4) = .initial then encodeVarint token.length ++ token
      else []) token := by
    split
    · exact (parses_varint htoken).bind (parses_take _ _)
    · next hkind =>
        rw [hnone hkind]
        exact .pure []
  have hvalue : ofBeBytes (beBytes 4 version) = version :=
    ofBeBytes_beBytes (Nat.lt_of_lt_of_eq hver (by decide))
  have hlen : 6 ≤ (LongHeader.fields ⟨fromBits (first >>> 4), version, dcid, scid,
      token⟩).length := by
    unfold LongHeader.fields
    simp only [length_append, length_beBytes, length_singleton]
    omega
  refine (parses_octet _ first).bind ((parses_check (bne_iff_ne.mpr hlong) _).bind
    (Parses.need hlen (hvers.bind ((parses_octet _ _).bind (Parses.need ?_
      ((hcid dcid).2.bind (parses_connectionId.bind ((parses_octet _ _).bind
        ((hcid scid).2.bind (parses_connectionId.bind (htok.last ?_)))))))))))
  · rw [(hcid dcid).1]
    simp only [length_append, length_singleton]
    omega
  · rw [hvalue]
    exact .pure _

/-! ## Cutting a datagram -/

def maxPacketsPerDatagram : Nat := 64

/-- How long the first packet of some octets is: a long header has a length, a short one
goes with all that follows it. -/
def packetLen : Bytes → Except Error Nat
  | [] => .error .shortBuffer
  | first :: rest =>
    if first &&& 0x80 = 0 then .ok (rest.length + 1)
    else do
      let (header, after) ← parseLongHeader.run (first :: rest)
      if header.1.kind = .retry then pure (rest.length + 1)
      else
        let (len, after) ← decodeVarint.run after
        pure (rest.length + 1 - after.length + len)

/-- The packets of a datagram, when `count` were found before; `fuel` is its length.  A first
octet without the fixed bit is padding. -/
def splitLoop : Nat → Nat → Bytes → Except Error (List Bytes)
  | 0, _, _ => .ok []
  | fuel + 1, count, bs =>
    if bs.headD 0 &&& 0x40 = 0 then .ok []
    else do
      let len ← packetLen bs
      if len = 0 ∨ bs.length < len then .error .shortBuffer
      else if maxPacketsPerDatagram ≤ count then
        .error (.malformed "too many coalesced packets")
      else
        let later ← splitLoop fuel (count + 1) (bs.drop len)
        pure (bs.take len :: later)

def splitPackets (datagram : Bytes) : Except Error (List Bytes) :=
  splitLoop datagram.length 0 datagram

lemma splitLoop_nil (fuel count : Nat) : splitLoop fuel count [] = .ok [] := by
  cases fuel <;> rfl

lemma splitLoop_more {fuel fuel' count count' : Nat} {bs : Bytes} {packets : List Bytes}
    (h : splitLoop fuel count bs = .ok packets) (hfuel : bs.length ≤ fuel)
    (hfuel' : bs.length ≤ fuel') (hcount : count' + packets.length ≤ maxPacketsPerDatagram) :
    splitLoop fuel' count' bs = .ok packets := by
  induction fuel generalizing fuel' count count' bs packets with
  | zero =>
    obtain rfl := length_eq_zero_iff.mp (Nat.eq_zero_of_le_zero hfuel)
    cases h
    exact splitLoop_nil _ _
  | succ fuel ih =>
    cases fuel' with
    | zero =>
      obtain rfl := length_eq_zero_iff.mp (Nat.eq_zero_of_le_zero hfuel')
      cases h
      rfl
    | succ fuel' =>
      unfold splitLoop at h ⊢
      split
      · next hpad =>
          rw [if_pos hpad] at h
          exact h
      · next hpad =>
          rw [if_neg hpad] at h
          cases hlen : packetLen bs with
          | error e =>
            rw [hlen] at h
            cases h
          | ok len =>
            rw [hlen] at h
            dsimp only [bind, Except.bind] at h ⊢
            split at h
            · cases h
            · next hfits =>
                rw [if_neg hfits]
                split at h
                · cases h
                · cases hlater : splitLoop fuel (count + 1) (bs.drop len) with
                  | error e =>
                    rw [hlater] at h
                    cases h
                  | ok later =>
                    rw [hlater] at h
                    cases h
                    rw [length_cons] at hcount
                    have hdrop : (bs.drop len).length = bs.length - len := length_drop
                    rw [if_neg (by omega), @ih fuel' (count + 1) (count' + 1) (bs.drop len)
                      later hlater (by omega) (by omega) (by omega)]
                    rfl

lemma splitPackets_append {packet tail : Bytes} {packets : List Bytes}
    (hfixed : packet.headD 0 &&& 0x40 ≠ 0) (hlen : packetLen (packet ++ tail) = .ok packet.length)
    (htail : splitPackets tail = .ok packets) (hcount : packets.length < maxPacketsPerDatagram) :
    splitPackets (packet ++ tail) = .ok (packet :: packets) := by
  cases packet with
  | nil => exact absurd rfl hfixed
  | cons first rest =>
    have hlater : splitLoop (rest ++ tail).length 1 tail = .ok packets :=
      splitLoop_more htail (le_rfl) (by rw [length_append]; omega) (by omega)
    unfold splitPackets
    rw [cons_append, length_cons, splitLoop, ← cons_append, hlen]
    dsimp only [bind, Except.bind]
    rw [if_neg (show ¬(first :: rest ++ tail).headD 0 &&& 0x40 = 0 from hfixed), if_neg (by
        rw [length_append, length_cons]
        omega), if_neg (by decide), drop_left' rfl, take_left' rfl, hlater]
    rfl

lemma splitPackets_zeros (n : Nat) : splitPackets (zeroOctets n) = .ok [] := by
  unfold splitPackets
  rw [length_zeroOctets]
  cases n with
  | zero => rfl
  | succ n =>
    have hpad : (zeroOctets (n + 1)).headD 0 &&& 0x40 = 0 := UInt8.zero_and
    rw [splitLoop, if_pos hpad]

end MeshBus.Quic
