import MeshBus.Lib.Bytes

/-!
# QUIC frames

The frames of a packet and their encoding, which decides how long a packet is.
-/

namespace MeshBus.Quic

open Lib

inductive Error where
  | shortBuffer
  | malformed (what : String)
  | unsupportedVersion (version : Nat)
  | crypto (what : String)
  | tls (what : String)
  | transport (what : String)
deriving DecidableEq, Repr

/-! ## Varints -/

def varintMax : Nat := 2 ^ 62 - 1

/-- A number in one, two, four or eight octets; the two high bits of the first say
how many. -/
def encodeVarint (value : Nat) : Bytes :=
  if value < 2 ^ 6 then beBytes 1 value
  else if value < 2 ^ 14 then beBytes 2 (value + 2 ^ 14)
  else if value < 2 ^ 30 then beBytes 4 (value + 2 ^ 31)
  else beBytes 8 (value ||| 3 * 2 ^ 62)

def varintLen (value : Nat) : Nat :=
  if value < 2 ^ 6 then 1 else if value < 2 ^ 14 then 2 else if value < 2 ^ 30 then 4 else 8

lemma varintLen_pos (value : Nat) : 1 ≤ varintLen value := by
  unfold varintLen
  split
  · decide
  · split
    · decide
    · split <;> decide

@[simp] lemma length_encodeVarint (value : Nat) :
    (encodeVarint value).length = varintLen value := by
  unfold encodeVarint varintLen
  split
  · exact length_beBytes _ _
  · split
    · exact length_beBytes _ _
    · split <;> exact length_beBytes _ _

/-! ## Frames -/

structure AckRange where
  gap : Nat
  range : Nat
deriving DecidableEq, Repr

inductive Frame where
  | padding (run : Nat)
  | ping
  | ack (largest delay firstRange : Nat) (ranges : List AckRange)
  | resetStream (streamId errorCode finalSize : Nat)
  | stopSending (streamId errorCode : Nat)
  | crypto (offset : Nat) (data : Bytes)
  | stream (id offset : Nat) (fin : Bool) (data : Bytes)
  | maxData (max : Nat)
  | maxStreamData (streamId max : Nat)
  | maxStreams (bidi : Bool) (max : Nat)
  | dataBlocked (limit : Nat)
  | streamDataBlocked (streamId limit : Nat)
  | streamsBlocked (bidi : Bool) (limit : Nat)
  | connectionClose (application : Bool) (errorCode : Nat) (reason : Bytes)
  | handshakeDone
  | datagram (data : Bytes)
deriving DecidableEq, Repr

namespace Frame

def encode : Frame → Bytes
  | .padding run => zeroOctets run
  | .ping => [0x01]
  | .ack largest delay firstRange ranges =>
    0x02 :: encodeVarint largest ++ encodeVarint delay ++ encodeVarint ranges.length ++
      encodeVarint firstRange ++
      ranges.flatMap fun r => encodeVarint r.gap ++ encodeVarint r.range
  | .resetStream streamId errorCode finalSize =>
    0x04 :: encodeVarint streamId ++ encodeVarint errorCode ++ encodeVarint finalSize
  | .stopSending streamId errorCode =>
    0x05 :: encodeVarint streamId ++ encodeVarint errorCode
  | .crypto offset data =>
    0x06 :: encodeVarint offset ++ encodeVarint data.length ++ data
  | .stream id offset fin data =>
    -- the length is always there, the offset only when it is not zero
    (0x0a + (if offset = 0 then 0 else 4) + (if fin then 1 else 0)) :: encodeVarint id ++
      (if offset = 0 then [] else encodeVarint offset) ++ encodeVarint data.length ++ data
  | .maxData max => 0x10 :: encodeVarint max
  | .maxStreamData streamId max => 0x11 :: encodeVarint streamId ++ encodeVarint max
  | .maxStreams bidi max => (if bidi then 0x12 else 0x13) :: encodeVarint max
  | .dataBlocked limit => 0x14 :: encodeVarint limit
  | .streamDataBlocked streamId limit => 0x15 :: encodeVarint streamId ++ encodeVarint limit
  | .streamsBlocked bidi limit => (if bidi then 0x16 else 0x17) :: encodeVarint limit
  | .connectionClose application errorCode reason =>
    (if application then 0x1d else 0x1c) :: encodeVarint errorCode ++
      (if application then [] else encodeVarint 0) ++ encodeVarint reason.length ++ reason
  | .handshakeDone => [0x1e]
  | .datagram data => 0x31 :: encodeVarint data.length ++ data

/-- CRYPTO and STREAM frames are sent again when they are lost. -/
def retransmittable : Frame → Bool
  | .crypto .. => true
  | .stream .. => true
  | _ => false

def ackEliciting : Frame → Bool
  | .padding _ => false
  | .ack .. => false
  | .connectionClose .. => false
  | _ => true

def isStream : Frame → Bool
  | .stream .. => true
  | _ => false

end Frame
end MeshBus.Quic
